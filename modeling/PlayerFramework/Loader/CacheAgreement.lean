import PlayerFramework.Loader.CacheIndex

/-!
The mapping file, the index and the size the manager keeps of them, over the calls it gets.
-/

namespace PlayerFramework.StreamCache

open Transition FileContent

/-- The mapping file is these entries, and the manager has each of them once, where it is. -/
structure Holds (m : StreamCacheManager) (entries : List Entry) : Prop where
  sound : ∀ entry ∈ entries, entry.Sound
  stored : m.content = encodeAll entries
  size : m.fileSize = (encodeAll entries).length
  index : m.index = layout 0 entries

/-- The index has one item for each entry of the file, with its place and size, the size is that
of the entries, and loading the file into an empty index gives the same index. -/
def Agrees (m : StreamCacheManager) : Prop :=
  ∃ entries, Holds m entries ∧ (loadEntries m.content m.fileSize m.fileSize 0 [] []).1 = m.index

/-- What else holds between the calls: which file is open and mapped, and the names. -/
structure Kept (m : StreamCacheManager) (entries : List Entry) : Prop extends Holds m entries where
  valid : ∀ inode, m.linked = some inode → inode < m.inodes.length
  opened : ∀ inode, m.fd = some inode → m.linked = some inode
  attached : ∀ inode, m.mapped = some inode → m.fd = some inode
  named : ∀ entry ∈ entries, Named (entry.get .entry)
  times : ∀ pair ∈ m.entryIndex, Named pair.1

theorem Holds.agrees {m : StreamCacheManager} {entries : List Entry} (holds : Holds m entries) :
    Agrees m := by
  refine ⟨entries, holds, ?_⟩
  rw [holds.stored, holds.size, loadEntries_file holds.sound, holds.index]

/-- The map is there, or there is nothing that loading it again would add to. -/
def Attached (m : StreamCacheManager) : Prop := m.mapped ≠ none ∨ m.index = []

instance (m : StreamCacheManager) : Decidable (Attached m) := inferInstanceAs (Decidable (_ ∨ _))

instance Copied.instDecidable (copies : Nat → Bool) : (entry : Entry) →
    Decidable (Copied copies entry)
  | [] => .isTrue trivial
  | [field] => inferInstanceAs (Decidable (copies field.2.length = true ∨ field.2 = []))
  | field :: other :: rest =>
    haveI := Copied.instDecidable copies (other :: rest)
    inferInstanceAs (Decidable (copies field.2.length = true ∧ Copied copies (other :: rest)))

/-- The new entry can be appended: the file is below its limit, every field is copied and has a
length of 32 bits, and what can be truncated can be mapped. -/
def Appends (p : Platform) (m : StreamCacheManager) (system : System) (fields : Entry) : Prop :=
  m.fileSize < maxCacheMappingFileSize ∧ Copied p.copies fields ∧
    (∀ field ∈ fields, field.2.length < 2 ^ 32) ∧ (system.truncates = true → system.remaps = true)

instance (p : Platform) (m : StreamCacheManager) (system : System) (fields : Entry) :
    Decidable (Appends p m system fields) :=
  inferInstanceAs (Decidable (_ ∧ _ ∧ _ ∧ _))

/-- The calls that keep the file and the index together. -/
def Orderly (p : Platform) (m : StreamCacheManager) : Call → Prop
  | .createMediaCache system url type randomAccess size =>
    Attached m ∧ (m.findUrl p url = none →
      Appends p m system (m.activeFields p url type randomAccess size system.clockMs))
  | .getMediaCache _ _ => Attached m
  | .flushWriteLength system _ _ => Attached m ∧ system.truncates = true
  | .removeMediaCache system _ => system.truncates = true
  | .releaseMap => True
  | .restart system =>
    m.content ≠ [] → system.opens = true ∧ system.stats = true ∧ system.maps = true

instance (p : Platform) (m : StreamCacheManager) : (call : Call) → Decidable (Orderly p m call)
  | .createMediaCache _ _ _ _ _ => inferInstanceAs (Decidable (_ ∧ (_ → _)))
  | .getMediaCache _ _ => inferInstanceAs (Decidable (Attached m))
  | .flushWriteLength _ _ _ => inferInstanceAs (Decidable (_ ∧ _))
  | .removeMediaCache system _ => inferInstanceAs (Decidable (system.truncates = true))
  | .releaseMap => .isTrue trivial
  | .restart _ => inferInstanceAs (Decidable (_ → _))

namespace StreamCacheManager

variable {m : StreamCacheManager}

theorem content_linked {inode : Nat} (linked : m.linked = some inode) :
    m.content = m.contentOf inode := by
  rw [content, linked, contentOf, Option.bind_some]

theorem content_setContent {inode : Nat} (linked : m.linked = some inode)
    (valid : inode < m.inodes.length) (bytes : Text) :
    (m.setContent inode bytes).content = bytes := by
  have there : (m.setContent inode bytes).linked = some inode := linked
  rw [content_linked there, contentOf, setContent, List.getElem?_set_self valid, Option.getD_some]

theorem mem_entriesOf {key : Text} {info : CacheEntryInfo} (member : info ∈ m.entriesOf key) :
    (key, info) ∈ m.index := by
  obtain ⟨pair, inside, same⟩ := List.mem_filterMap.mp member
  split at same
  · rename_i equal
    cases same
    rw [← equal]
    exact inside
  · cases same

theorem mem_findFirstEqualField {entries : List CacheEntryInfo} {value : Text}
    {field : CacheFieldId} {info : CacheEntryInfo}
    (found : m.findFirstEqualField entries value field = some info) : info ∈ entries := by
  rw [findFirstEqualField] at found
  split at found
  · cases found
  · exact List.mem_of_find?_eq_some found

end StreamCacheManager

open StreamCacheManager

namespace Kept

variable {m : StreamCacheManager} {entries : List Entry}

theorem resize (kept : Kept m entries) (cacheSize : Nat) :
    Kept { m with cacheSize := cacheSize } entries :=
  ⟨⟨kept.sound, kept.stored, kept.size, kept.index⟩, kept.valid, kept.opened, kept.attached,
    kept.named, kept.times⟩

variable {inode : Nat}

theorem linked (kept : Kept m entries) (mapped : m.mapped = some inode) : m.linked = some inode :=
  kept.opened inode (kept.attached inode mapped)

theorem contentOf (kept : Kept m entries) (mapped : m.mapped = some inode) :
    m.contentOf inode = encodeAll entries :=
  (content_linked (kept.linked mapped)).symm.trans kept.stored

theorem entry_at (kept : Kept m entries) (mapped : m.mapped = some inode) {key : Text}
    {info : CacheEntryInfo} (member : info ∈ m.entriesOf key) :
    ∃ (early : List Entry) (entry : Entry) (late : List Entry), entries = early ++ entry :: late ∧
        info = ⟨(encodeAll early).length, (encode entry).length⟩ ∧
          m.contentOf inode = encodeAll early ++ (encode entry ++ encodeAll late) := by
  have inside := mem_entriesOf member
  rw [kept.index] at inside
  obtain ⟨early, entry, late, split, -, place⟩ := mem_layout inside
  rw [Nat.zero_add] at place
  refine ⟨early, entry, late, split, place, ?_⟩
  rw [kept.contentOf mapped, split, encodeAll_append, encodeAll_cons]

end Kept

theorem fieldCountAt_stored {entry : Entry} (sound : entry.Sound) (before after : Text) :
    fieldCountAt (before ++ (encode entry ++ after)) before.length = entry.length :=
  stored_fieldCount before after sound.few

theorem empty_of_index {m : StreamCacheManager} {entries : List Entry} (holds : Holds m entries)
    (none : m.index = []) : entries = [] :=
  layout_nil_iff.mp (holds.index.symm.trans none)

/-- What `LoadMapping` leaves of a manager whose map is released. -/
structure Loaded (system : System) (m loaded : StreamCacheManager) : Prop where
  content : loaded.content = m.content
  index : loaded.index = m.index
  entryIndex : loaded.entryIndex = m.entryIndex
  valid : ∀ inode, loaded.linked = some inode → inode < loaded.inodes.length
  opened : ∀ inode, loaded.fd = some inode → loaded.linked = some inode
  attached : ∀ inode, loaded.mapped = some inode → loaded.fd = some inode
  released : m.content = [] → loaded.mapped = none
  size : m.content = [] → m.fileSize = 0 → loaded.fileSize = 0
  mapped : m.content ≠ [] → system.opens = true → system.stats = true → system.maps = true →
    (∃ inode, loaded.mapped = some inode) ∧ loaded.fileSize = m.content.length

theorem openMapping_content {m : StreamCacheManager}
    (valid : ∀ inode, m.linked = some inode → inode < m.inodes.length) :
    m.openMapping.1.contentOf m.openMapping.2 = m.content ∧
      m.openMapping.2 < m.openMapping.1.inodes.length ∧
        m.openMapping.1.linked = some m.openMapping.2 ∧
          m.openMapping.1.fd = some m.openMapping.2 := by
  cases linked : m.linked with
  | some inode =>
    simp only [openMapping, linked]
    exact ⟨(content_linked linked).symm, valid inode linked, trivial, trivial⟩
  | none =>
    simp only [openMapping, linked]
    refine ⟨?_, ?_, trivial, trivial⟩
    · simp [contentOf, content, linked]
    · simp

theorem openMapping_rest (m : StreamCacheManager) :
    m.openMapping.1.mapped = m.mapped ∧ m.openMapping.1.fileSize = m.fileSize ∧
      m.openMapping.1.index = m.index ∧ m.openMapping.1.entryIndex = m.entryIndex := by
  rw [openMapping]
  split
  · exact ⟨rfl, rfl, rfl, rfl⟩
  · exact ⟨rfl, rfl, rfl, rfl⟩

theorem mapFile_loaded {m : StreamCacheManager}
    (valid : ∀ inode, m.linked = some inode → inode < m.inodes.length)
    (released : m.mapped = none) (system : System) : Loaded system m (m.mapFile system) := by
  obtain ⟨same, inside, linked, fd⟩ := openMapping_content valid
  obtain ⟨mapped, fileSize, index, entryIndex⟩ := openMapping_rest m
  have bytes : m.openMapping.1.content = m.content := (content_linked linked).trans same
  have validOpened : ∀ inode, m.openMapping.1.linked = some inode →
      inode < m.openMapping.1.inodes.length := by
    intro inode there
    cases linked.symm.trans there
    exact inside
  have opened : ∀ inode, m.openMapping.1.fd = some inode → m.openMapping.1.linked = some inode := by
    intro inode there
    rw [linked, ← fd, there]
  have nothing : ∀ inode, m.openMapping.1.mapped = some inode →
      m.openMapping.1.fd = some inode := by
    intro inode there
    cases (mapped.trans released).symm.trans there
  rw [mapFile]
  by_cases opens : system.opens = true
  · rw [if_neg (not_not_intro opens)]
    dsimp only
    by_cases stats : system.stats = true
    · rw [if_neg (not_not_intro stats), same]
      by_cases empty : m.content.length = 0
      · rw [if_pos empty]
        exact ⟨bytes, index, entryIndex, validOpened, opened, nothing,
          fun _ => mapped.trans released, fun _ _ => empty,
          fun some => absurd (List.length_eq_zero_iff.mp empty) some⟩
      · rw [if_neg empty]
        have some : m.content ≠ [] := fun none => empty (List.length_eq_zero_iff.mpr none)
        refine ⟨bytes, index, entryIndex, validOpened, opened, ?_, fun none => absurd none some,
          fun none => absurd none some, ?_⟩
        · intro inode there
          split at there
          · rw [fd, ← there]
          · cases there
        · intro _ _ _ maps
          exact ⟨⟨m.openMapping.2, if_pos maps⟩, rfl⟩
    · rw [if_pos stats]
      exact ⟨bytes, index, entryIndex, validOpened, opened, nothing,
        fun _ => mapped.trans released, fun _ zero => fileSize.trans zero,
        fun _ _ yes => absurd yes stats⟩
  · rw [if_pos opens]
    refine ⟨rfl, rfl, rfl, valid, ?_, ?_, fun _ => released, fun _ zero => zero,
      fun _ yes => absurd yes opens⟩
    · intro inode there
      cases there
    · intro inode there
      cases released.symm.trans there

theorem loadMapping_loaded {m : StreamCacheManager}
    (valid : ∀ inode, m.linked = some inode → inode < m.inodes.length)
    (released : m.mapped = none) (system : System) : Loaded system m (m.loadMapping system) := by
  have loaded := @mapFile_loaded { m with cacheSize := system.directorySize [] } valid released
    system
  exact ⟨loaded.content, loaded.index, loaded.entryIndex, loaded.valid, loaded.opened,
    loaded.attached, loaded.released, loaded.size, loaded.mapped⟩

theorem loadIndex_released {m : StreamCacheManager} (released : m.mapped = none)
    (system : System) : m.loadIndex system = m := by
  rw [loadIndex, released]

theorem loadIndex_kept {m : StreamCacheManager} {entries : List Entry}
    (sound : ∀ entry ∈ entries, entry.Sound) (stored : m.content = encodeAll entries)
    (size : m.fileSize = (encodeAll entries).length) (index : m.index = [])
    (entryIndex : m.entryIndex = [])
    (valid : ∀ inode, m.linked = some inode → inode < m.inodes.length)
    (opened : ∀ inode, m.fd = some inode → m.linked = some inode)
    (attached : ∀ inode, m.mapped = some inode → m.fd = some inode)
    (named : ∀ entry ∈ entries, Named (entry.get .entry)) {inode : Nat}
    (mapped : m.mapped = some inode) (system : System) : Kept (m.loadIndex system) entries := by
  have bytes : m.contentOf inode = encodeAll entries :=
    (content_linked (opened inode (attached inode mapped))).symm.trans stored
  have result : m.loadIndex system =
      { m with index := layout 0 entries, entryIndex := accessTimes [] entries } := by
    simp only [loadIndex, mapped, bytes, size, index, entryIndex, loadEntries_file sound]
    rfl
  rw [result]
  refine ⟨⟨sound, stored, size, rfl⟩, valid, opened, attached, named, ?_⟩
  intro pair member
  rcases mem_accessTimes member with before | ⟨entry, there, same⟩
  · cases before
  · rw [same]
    exact named entry there

theorem ensureLoaded_kept {m : StreamCacheManager} {entries : List Entry} (kept : Kept m entries)
    (attached : Attached m) (system : System) :
    Kept (m.ensureLoaded system) entries ∧ (m.ensureLoaded system).mapped = m.mapped ∧
      (m.ensureLoaded system).index = m.index := by
  rw [ensureLoaded]
  by_cases released : m.mapped = none
  · have none : m.index = [] := attached.resolve_left (not_not_intro released)
    have noEntries : entries = [] := empty_of_index kept.toHolds none
    subst noEntries
    have empty : m.content = [] := kept.stored
    have loaded := loadMapping_loaded kept.valid released system
    have still := loaded.released empty
    rw [if_pos released, loadIndex_released still]
    refine ⟨⟨⟨kept.sound, loaded.content.trans empty, loaded.size empty kept.size,
      loaded.index.trans kept.index⟩, loaded.valid, loaded.opened, loaded.attached, kept.named, ?_⟩,
      still.trans released.symm, loaded.index⟩
    rw [loaded.entryIndex]
    exact kept.times
  · rw [if_neg released]
    exact ⟨kept, rfl, rfl⟩

theorem restart_kept {m : StreamCacheManager} {entries : List Entry} (kept : Kept m entries)
    {system : System} (orderly : m.content ≠ [] →
      system.opens = true ∧ system.stats = true ∧ system.maps = true) :
    Kept (m.restart system) entries := by
  have loaded := @loadMapping_loaded { inodes := m.inodes, linked := m.linked } kept.valid rfl
    system
  have stored : (loadMapping system { inodes := m.inodes, linked := m.linked }).content =
      encodeAll entries := loaded.content.trans kept.stored
  rw [restart]
  by_cases empty : m.content = []
  · have noBytes : encodeAll entries = [] := kept.stored.symm.trans empty
    have noEntries : entries = [] := by
      have bound := length_le_encodeAll entries
      rw [noBytes] at bound
      exact List.length_eq_zero_iff.mp (Nat.le_zero.mp bound)
    subst noEntries
    rw [loadIndex_released (loaded.released empty)]
    refine ⟨⟨kept.sound, stored, loaded.size empty rfl, loaded.index⟩, loaded.valid,
      loaded.opened, loaded.attached, kept.named, ?_⟩
    rw [loaded.entryIndex]
    intro pair member
    cases member
  · obtain ⟨opens, stats, maps⟩ := orderly empty
    obtain ⟨⟨inode, mapped⟩, size⟩ := loaded.mapped empty opens stats maps
    refine loadIndex_kept kept.sound stored (size.trans ?_) loaded.index loaded.entryIndex
      loaded.valid loaded.opened loaded.attached kept.named mapped system
    exact congrArg List.length kept.stored

section Create

variable {p : Platform} {m : StreamCacheManager}

theorem findUrl_released (released : m.mapped = none) (url : Text) : m.findUrl p url = none := by
  rw [findUrl, findFirstEqualField, released]

theorem ensureLoaded_findUrl (system : System) (url : Text) :
    (m.ensureLoaded system).findUrl p url = m.findUrl p url ∨
      (m.mapped = none ∧ m.findUrl p url = none) := by
  by_cases released : m.mapped = none
  · exact .inr ⟨released, findUrl_released released url⟩
  · exact .inl (by rw [ensureLoaded, if_neg released])

theorem activeFields_sound {url type : Text} {randomAccess : Bool} {size clockMs : Nat}
    (short : ∀ field ∈ m.activeFields p url type randomAccess size clockMs,
      field.2.length < 2 ^ 32) :
    Entry.Sound (m.activeFields p url type randomAccess size clockMs) := by
  refine ⟨Nat.le_refl 7, short, ?_⟩
  intro empty
  have key : keyOf p url = [] := (List.append_eq_nil_iff.mp empty).1
  exact (decimal_named (p.hash url)).some key

theorem activeFields_named (url type : Text) (randomAccess : Bool) (size clockMs : Nat) :
    Named ((m.activeFields p url type randomAccess size clockMs).get .entry) := by
  have entry : (m.activeFields p url type randomAccess size clockMs).get .entry =
      if m.entriesOf (keyOf p url) = [] then keyOf p url
      else keyOf p url ++ underscore :: decimal clockMs := rfl
  rw [entry]
  split
  · exact decimal_named _
  · exact (decimal_named _).append_time (decimal_named _)

theorem contentOf_setContent {inode : Nat} (valid : inode < m.inodes.length) (bytes : Text) :
    (m.setContent inode bytes).contentOf inode = bytes := by
  rw [contentOf, setContent, List.getElem?_set_self valid, Option.getD_some]

theorem appendEntry_kept {entries : List Entry} (kept : Kept m entries) {system : System}
    {fields : Entry} (count : fields.length = filedCount) (sound : fields.Sound)
    (named : Named (fields.get .entry)) (appends : Appends p m system fields) :
    ∃ now, Kept (m.appendEntry p system fields) now := by
  obtain ⟨room, copied, -, remaps⟩ := appends
  cases fd : m.fd with
  | none =>
    have unchanged : m.appendEntry p system fields = m := by
      simp [appendEntry, truncate, fd]
    rw [unchanged]
    exact ⟨entries, kept⟩
  | some inode =>
    by_cases truncates : system.truncates = true
    · have linked := kept.opened inode fd
      have valid := kept.valid inode linked
      have old : m.contentOf inode = encodeAll entries :=
        (content_linked linked).symm.trans kept.stored
      have total : headerSize + filedCount * fieldSize + (texts fields).length =
          (encode fields).length := by
        rw [length_encode, count]
      have extended : resize (m.contentOf inode) (m.fileSize + (encode fields).length) =
          encodeAll entries ++ List.replicate (encode fields).length 0 := by
        rw [old, kept.size, resize_longer (Nat.le_add_right _ _), Nat.add_sub_cancel_left]
      have written : insertMapping p.copies fields m.fileSize
          (encodeAll entries ++ List.replicate (encode fields).length 0) =
            encodeAll (entries ++ [fields]) := by
        have inserted := insertMapping_encode (encodeAll entries) [] copied count
          (List.length_replicate (n := (encode fields).length) (a := (0 : UInt8)))
        rw [List.append_nil, List.append_nil] at inserted
        rw [kept.size, inserted, encodeAll_append]
        exact congrArg (encodeAll entries ++ ·) (List.append_nil _).symm
      have inserted : insertEntry p { m.setContent inode (encodeAll entries ++
          List.replicate (encode fields).length 0) with
            mapped := (m.setContent inode (encodeAll entries ++
              List.replicate (encode fields).length 0)).fd } fields =
          { m.setContent inode (encodeAll (entries ++ [fields])) with mapped := some inode } := by
        have mapped : (m.setContent inode (encodeAll entries ++
            List.replicate (encode fields).length 0)).fd = some inode := fd
        have bytes := contentOf_setContent valid (encodeAll entries ++
          List.replicate (encode fields).length 0)
        rw [mapped]
        calc _ = StreamCacheManager.setContent { m.setContent inode (encodeAll entries ++
              List.replicate (encode fields).length 0) with mapped := some inode } inode
                (insertMapping p.copies fields m.fileSize (encodeAll entries ++
                  List.replicate (encode fields).length 0)) :=
            congrArg (fun bytes => StreamCacheManager.setContent _ inode
              (insertMapping p.copies fields m.fileSize bytes)) bytes
          _ = _ := by
            rw [written]
            simp [setContent, List.set_set]
      have below : ¬ (m.setContent inode (encodeAll (entries ++ [fields]))).fileSize ≥
          maxCacheMappingFileSize := Nat.not_le.mpr room
      have result : m.appendEntry p system fields =
          { m.setContent inode (encodeAll (entries ++ [fields])) with
            mapped := some inode
            fileSize := m.fileSize + (encode fields).length
            index := m.index ++ [(fields.get .key, ⟨m.fileSize, (encode fields).length⟩)]
            entryIndex := setEntry m.entryIndex (fields.get .entry)
              (fields.get .lastAccessTime) } := by
        simp only [appendEntry, total, truncate, fd, if_pos truncates, extended,
          if_neg (not_not_intro (remaps truncates)), inserted]
        rw [if_neg below]
        rfl
      rw [result]
      refine ⟨entries ++ [fields], ⟨?_, ?_, ?_, ?_⟩, ?_, kept.opened, ?_, ?_, ?_⟩
      · intro entry member
        rcases List.mem_append.mp member with old | new
        · exact kept.sound entry old
        · rw [List.mem_singleton.mp new]
          exact sound
      · exact content_setContent linked valid _
      · rw [encodeAll_append, List.length_append, ← kept.size]
        exact congrArg (m.fileSize + List.length ·) (List.append_nil _).symm
      · rw [layout_append, ← kept.index, Nat.zero_add, ← kept.size]
        rfl
      · intro other there
        exact (kept.valid other there).trans_eq (List.length_set).symm
      · intro other there
        cases there
        exact fd
      · intro entry member
        rcases List.mem_append.mp member with old | new
        · exact kept.named entry old
        · rw [List.mem_singleton.mp new]
          exact named
      · intro pair member
        rcases mem_setEntry member with here | there
        · rw [here]
          exact named
        · exact kept.times pair there
    · have unchanged : m.appendEntry p system fields = m := by
        simp [appendEntry, truncate, fd, if_neg truncates]
      rw [unchanged]
      exact ⟨entries, kept⟩

theorem createMediaCache_kept {entries : List Entry} (kept : Kept m entries) {system : System}
    {url type : Text} {randomAccess : Bool} {size : Nat}
    (orderly : Orderly p m (.createMediaCache system url type randomAccess size)) :
    ∃ now, Kept (m.createMediaCache p system url type randomAccess size) now := by
  obtain ⟨attached, appends⟩ := orderly
  obtain ⟨keptLoaded, mapped, index⟩ := ensureLoaded_kept kept attached system
  have same : (m.ensureLoaded system).activeFields p url type randomAccess size system.clockMs =
      m.activeFields p url type randomAccess size system.clockMs := by
    rw [activeFields, activeFields, entriesOf, entriesOf, index]
  rw [createMediaCache]
  split
  · exact ⟨entries, keptLoaded⟩
  rename_i missing
  have absent : m.findUrl p url = none := by
    rcases ensureLoaded_findUrl system url with there | ⟨-, none⟩
    · rw [← there]
      exact Classical.not_not.mp missing
    · exact none
  obtain ⟨room, copied, short, remaps⟩ := appends absent
  rw [same]
  refine appendEntry_kept keptLoaded rfl (activeFields_sound short)
    (activeFields_named url type randomAccess size system.clockMs)
    ⟨?_, copied, short, remaps⟩
  rw [keptLoaded.size, ← kept.size]
  exact room

end Create

end PlayerFramework.StreamCache
