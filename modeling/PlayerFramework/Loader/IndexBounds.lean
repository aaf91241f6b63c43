import PlayerFramework.Loader.StreamCacheManager

/-!
What `LoadIndex` and `ExtractField` read of an arbitrary mapping file.
-/

namespace PlayerFramework.StreamCache

open FileContent

/-- The text that `ExtractField` reads, where it finds the field. -/
def textRead (content : Text) (start fieldCount : Nat) (id : CacheFieldId) : List (Nat × Nat) :=
  (findFieldOf content start fieldCount id).toList

/-- The places and lengths of what `LoadIndex` reads, in its order. -/
def loadReads (content : Text) : Nat → Nat → List (Nat × Nat)
  | 0, _ => []
  | steps + 1, offset =>
    if ¬ offset < content.length then []
    else if ¬ offset + headerSize < content.length then []
    else
      let fieldCount := fieldCountAt content offset
      (offset, headerSize) :: if fieldCount > maxFiledCount then []
        else if ¬ offset + headerSize + fieldCount * fieldSize < content.length then []
        else
          let totalSize := headerSize + fieldCount * fieldSize +
            textsLength content (offset + headerSize) fieldCount
          (offset + headerSize, fieldCount * fieldSize) ::
            (textRead content offset fieldCount .key ++ textRead content offset fieldCount .entry ++
              textRead content offset fieldCount .lastAccessTime) ++
            loadReads content steps (offset + totalSize)

/-- What looking up a field of an entry in the mapped memory reads. -/
def fieldReads (content : Text) (info : CacheEntryInfo) (id : CacheFieldId) : List (Nat × Nat) :=
  let fieldCount := fieldCountAt content info.offset
  (info.offset, headerSize) :: (info.offset + headerSize, fieldCount * fieldSize) ::
    textRead content info.offset fieldCount id

def Inside (content : Text) (read : Nat × Nat) : Prop := read.1 + read.2 ≤ content.length

/-- A manager that has mapped this file and loaded nothing yet. -/
def mappedTo (content : Text) : StreamCacheManager where
  inodes := [content]
  linked := some 0
  fd := some 0
  mapped := some 0
  fileSize := content.length

/-- Loading the file, and looking up fields afterwards, stays inside it, and ends. -/
structure InBounds (system : System) (content : Text) : Prop where
  loading : ∀ read ∈ loadReads content content.length 0, Inside content read
  entries : ∀ pair ∈ ((mappedTo content).loadIndex system).index,
    pair.2.offset + pair.2.cacheEntrySize ≤ content.length
  lookups : ∀ pair ∈ ((mappedTo content).loadIndex system).index, ∀ id,
    ∀ read ∈ fieldReads content pair.2 id, Inside content read
  ends : ∀ more, loadEntries content content.length (content.length + more) 0 [] [] =
    loadEntries content content.length content.length 0 [] []

/-- The size of the record at `offset`, by its own numbers. -/
def recordSize (content : Text) (offset : Nat) : Nat :=
  headerSize + fieldCountAt content offset * fieldSize +
    textsLength content (offset + headerSize) (fieldCountAt content offset)

/-- A record starts at `offset` by the checks of `LoadIndex`. -/
def Taken (content : Text) (offset : Nat) : Prop :=
  offset + headerSize < content.length ∧ fieldCountAt content offset ≤ maxFiledCount ∧
    offset + headerSize + fieldCountAt content offset * fieldSize < content.length

/-- The lengths that each record states fit into what is left of the file, from `offset` on. -/
def RecordsFit (content : Text) : Nat → Nat → Prop
  | 0, _ => True
  | steps + 1, offset =>
    Taken content offset → offset + recordSize content offset ≤ content.length ∧
      RecordsFit content steps (offset + recordSize content offset)

variable {content : Text} {offset : Nat}

theorem findField_inside {target fieldAt textAt fields place length : Nat}
    (found : findField content target fieldAt textAt fields = some (place, length)) :
    place + length ≤ textAt + textsLength content fieldAt fields := by
  induction fields generalizing fieldAt textAt with
  | zero => cases found
  | succ fields ih =>
    rw [findField] at found
    rw [textsLength]
    split at found
    · obtain ⟨rfl, rfl⟩ := Prod.mk.inj (Option.some.inj found)
      omega
    · have later := ih found
      omega

theorem textRead_inside (fits : offset + recordSize content offset ≤ content.length)
    (id : CacheFieldId) :
    ∀ read ∈ textRead content offset (fieldCountAt content offset) id, Inside content read := by
  intro read member
  have found := findField_inside (Option.mem_toList.mp member)
  unfold recordSize at fits
  unfold Inside
  omega

theorem loadEntries_past (steps : Nat) (index : List (Text × CacheEntryInfo))
    (entryIndex : List (Text × Text)) (past : content.length ≤ offset) :
    loadEntries content content.length steps offset index entryIndex =
      (index, entryIndex, false) := by
  cases steps with
  | zero => rfl
  | succ steps => rw [loadEntries, if_pos (by omega)]

theorem loadEntries_taken (taken : Taken content offset) (steps : Nat)
    (index : List (Text × CacheEntryInfo)) (entryIndex : List (Text × Text)) :
    ∃ key times, loadEntries content content.length (steps + 1) offset index entryIndex =
      loadEntries content content.length steps (offset + recordSize content offset)
        (index ++ [(key, ⟨offset, recordSize content offset⟩)]) times := by
  obtain ⟨header, few, table⟩ := taken
  rw [loadEntries, if_neg (by omega), if_neg (by omega)]
  rw [if_neg (by omega), if_neg (by omega)]
  exact ⟨_, _, rfl⟩

/-- Where no record starts, the loop is over. -/
theorem loadEntries_over (untaken : ¬ Taken content offset) (steps : Nat)
    (index : List (Text × CacheEntryInfo)) (entryIndex : List (Text × Text)) :
    ∃ damaged, loadEntries content content.length (steps + 1) offset index entryIndex =
      (index, entryIndex, damaged) := by
  rw [loadEntries]
  dsimp only
  split
  · exact ⟨_, rfl⟩
  split
  · exact ⟨_, rfl⟩
  split
  · exact ⟨_, rfl⟩
  · split
    · exact ⟨_, rfl⟩
    · exact absurd ⟨by omega, by omega, by omega⟩ untaken

/-- What the loop lists: true sizes; it meets a damaged record only behind records that fit, and
else the entries are inside the file exactly where the records fit. -/
structure Lists (content : Text) (steps offset : Nat) (index : List (Text × CacheEntryInfo))
    (loaded : List (Text × CacheEntryInfo) × List (Text × Text) × Bool) : Prop where
  sizes : ∀ pair ∈ loaded.1, pair.2.cacheEntrySize = recordSize content pair.2.offset
  damaged : loaded.2.2 = true → RecordsFit content steps offset
  sound : loaded.2.2 = false →
    ((∀ pair ∈ loaded.1, pair.2.offset + pair.2.cacheEntrySize ≤ content.length) ↔
      (∀ pair ∈ index, pair.2.offset + pair.2.cacheEntrySize ≤ content.length) ∧
        RecordsFit content steps offset)

theorem loadEntries_lists (steps : Nat) (index : List (Text × CacheEntryInfo))
    (entryIndex : List (Text × Text))
    (sized : ∀ pair ∈ index, pair.2.cacheEntrySize = recordSize content pair.2.offset) :
    Lists content steps offset index
      (loadEntries content content.length steps offset index entryIndex) := by
  induction steps generalizing offset index entryIndex with
  | zero => exact ⟨sized, fun _ => trivial, fun _ => (and_iff_left trivial).symm⟩
  | succ steps ih =>
    by_cases taken : Taken content offset
    · obtain ⟨key, times, stepped⟩ := loadEntries_taken taken steps index entryIndex
      have sizedNext : ∀ pair ∈ index ++ [(key, CacheEntryInfo.mk offset
          (recordSize content offset))],
          pair.2.cacheEntrySize = recordSize content pair.2.offset := by
        intro pair member
        rcases List.mem_append.mp member with before | here
        · exact sized pair before
        · rw [List.mem_singleton.mp here]
      obtain ⟨sizes, damaged, sound⟩ := ih
        (index ++ [(key, ⟨offset, recordSize content offset⟩)]) times sizedNext
      rw [stepped]
      refine ⟨sizes, ?_, ?_⟩
      · intro isDamaged _
        refine ⟨?_, damaged isDamaged⟩
        by_contra overshoots
        rw [loadEntries_past _ _ _ (by omega)] at isDamaged
        cases isDamaged
      · intro isSound
        rw [sound isSound, RecordsFit, forall_prop_of_true taken]
        simp only [List.forall_mem_append, List.forall_mem_singleton, and_assoc]
    · obtain ⟨damaged, untaken⟩ := loadEntries_over taken steps index entryIndex
      rw [untaken]
      have fits : RecordsFit content (steps + 1) offset := fun impossible => absurd impossible taken
      exact ⟨sized, fun _ => fits, fun _ => (and_iff_left fits).symm⟩

theorem loadReads_inside (steps : Nat) (fit : RecordsFit content steps offset) :
    ∀ read ∈ loadReads content steps offset, Inside content read := by
  induction steps generalizing offset with
  | zero => exact List.forall_mem_nil _
  | succ steps ih =>
    intro read member
    rw [loadReads] at member
    split at member
    · cases member
    split at member
    · cases member
    rcases List.mem_cons.mp member with rfl | member
    · unfold Inside
      omega
    split at member
    · cases member
    split at member
    · cases member
    obtain ⟨fits, later⟩ := fit ⟨by omega, by omega, by omega⟩
    rcases List.mem_append.mp member with here | there
    · rcases List.mem_cons.mp here with rfl | here
      · unfold Inside
        omega
      simp only [List.mem_append] at here
      rcases here with (key | entry) | time
      · exact textRead_inside fits .key read key
      · exact textRead_inside fits .entry read entry
      · exact textRead_inside fits .lastAccessTime read time
    · exact ih later read there

theorem fieldReads_inside {info : CacheEntryInfo}
    (size : info.cacheEntrySize = recordSize content info.offset)
    (fits : info.offset + info.cacheEntrySize ≤ content.length) (id : CacheFieldId) :
    ∀ read ∈ fieldReads content info id, Inside content read := by
  rw [size] at fits
  have whole := fits
  unfold recordSize at whole
  intro read member
  rcases List.mem_cons.mp member with rfl | member
  · unfold Inside
    omega
  · rcases List.mem_cons.mp member with rfl | member
    · unfold Inside
      omega
    · exact textRead_inside fits id read member

/-- Every record moves the offset on, so that the loop ends within as many steps as bytes. -/
theorem loadEntries_ends (steps more : Nat) (enough : content.length ≤ offset + steps)
    (index : List (Text × CacheEntryInfo)) (entryIndex : List (Text × Text)) :
    loadEntries content content.length (steps + more) offset index entryIndex =
      loadEntries content content.length steps offset index entryIndex := by
  induction steps generalizing offset index entryIndex with
  | zero =>
    rw [loadEntries_past _ _ _ (by omega), loadEntries_past _ _ _ (by omega)]
  | succ steps ih =>
    have long : headerSize ≤ recordSize content offset := by
      unfold recordSize
      omega
    rw [Nat.succ_add]
    simp only [loadEntries]
    split
    · rfl
    split
    · rfl
    split
    · rfl
    · split
      · rfl
      · exact ih (by unfold recordSize at long; rw [headerSize] at *; omega) _ _

theorem startOver_index (system : System) (m : StreamCacheManager) :
    (m.startOver system).index = [] := by
  unfold StreamCacheManager.startOver StreamCacheManager.loadMapping StreamCacheManager.mapFile
    StreamCacheManager.openMapping
  dsimp only
  split
  · rfl
  · split
    · rfl
    · split <;> rfl

theorem loadIndex_mapped (system : System) (content : Text) :
    ((mappedTo content).loadIndex system).index =
      if (loadEntries content content.length content.length 0 [] []).2.2 then []
      else (loadEntries content content.length content.length 0 [] []).1 := by
  have unfolded : (mappedTo content).loadIndex system =
      if (loadEntries content content.length content.length 0 [] []).2.2 then
        StreamCacheManager.startOver system { mappedTo content with
          index := (loadEntries content content.length content.length 0 [] []).1
          entryIndex := (loadEntries content content.length content.length 0 [] []).2.1 }
      else { mappedTo content with
        index := (loadEntries content content.length content.length 0 [] []).1
        entryIndex := (loadEntries content content.length content.length 0 [] []).2.1 } := rfl
  rw [unfolded]
  split
  · exact startOver_index system _
  · rfl

/-- Any file is loaded within its bounds exactly where the lengths in its records are true. -/
theorem loadIndex_inBounds_iff (system : System) (content : Text) :
    InBounds system content ↔ RecordsFit content content.length 0 := by
  obtain ⟨sizes, damaged, sound⟩ := @loadEntries_lists content 0 content.length [] []
    (List.forall_mem_nil _)
  have listed := loadIndex_mapped system content
  constructor
  · intro inside
    cases state : (loadEntries content content.length content.length 0 [] []).2.2 with
    | true => exact damaged state
    | false =>
      rw [state, if_neg Bool.false_ne_true] at listed
      exact ((sound state).mp (listed ▸ inside.entries)).2
  · intro fit
    have entries : ∀ pair ∈ ((mappedTo content).loadIndex system).index,
        pair.2.offset + pair.2.cacheEntrySize ≤ content.length ∧
          pair.2.cacheEntrySize = recordSize content pair.2.offset := by
      intro pair member
      rw [listed] at member
      split at member
      · cases member
      · rename_i whole
        exact ⟨(sound (by simpa using whole)).mpr ⟨List.forall_mem_nil _, fit⟩
          pair member, sizes pair member⟩
    exact ⟨loadReads_inside _ fit, fun pair member => (entries pair member).1,
      fun pair member => fieldReads_inside (entries pair member).2 (entries pair member).1,
      fun more => loadEntries_ends _ more (Nat.zero_add _).ge [] []⟩

/-- One field, whose text is said to have 200 bytes and has one. -/
def overlongRecord : Text := [1, 0, 0, 0, 1, 0, 0, 0, 1, 0, 0, 0, 200, 0, 0, 0, 65]

theorem overlong_record_outside : ¬ InBounds {} overlongRecord := by
  intro inside
  have read := inside.loading (16, 200) (by decide +kernel)
  revert read
  unfold Inside
  decide +kernel

end PlayerFramework.StreamCache
