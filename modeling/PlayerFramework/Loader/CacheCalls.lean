import Mathlib.Algebra.GroupWithZero.Nat
import PlayerFramework.Loader.CacheAgreement

/-!
What reading, evicting and removing entries of the loader's cache keep, and the runs of calls.
-/

namespace PlayerFramework.StreamCache

open Transition FileContent StreamCacheManager

variable {p : Platform} {m : StreamCacheManager} {entries : List Entry}

variable {inode : Nat} {entry : Entry} {system : System}

theorem mappedField_stored (mapped : m.mapped = some inode) {before after : Text}
    (sound : entry.Sound) (bytes : m.contentOf inode = before ++ (encode entry ++ after))
    (field : CacheFieldId) :
    m.mappedField ⟨before.length, (encode entry).length⟩ field = entry.get field := by
  simp [mappedField, mapped, bytes, fieldCountAt_stored sound,
    stored_extractField before after sound.short]

theorem findUrl_mapped {url : Text} {info : CacheEntryInfo} (found : m.findUrl p url = some info) :
    ∃ inode, m.mapped = some inode := by
  cases mapped : m.mapped with
  | none => cases (findUrl_released mapped url).symm.trans found
  | some inode => exact ⟨inode, rfl⟩

theorem get_update_other {id other : CacheFieldId} (different : other ≠ id) (text : Text)
    (entry : Entry) : (Entry.update id text entry).get other = entry.get other := by
  induction entry with
  | nil => rfl
  | cons field rest ih =>
    rw [Entry.update]
    by_cases here : field.1 = id
    · rw [if_pos here, Entry.get, Entry.get, List.find?_cons_of_neg, List.find?_cons_of_neg]
      · simpa [here] using different.symm
      · simpa using different.symm
    · rw [if_neg here]
      by_cases there : field.1 = other
      · rw [Entry.get, Entry.get, List.find?_cons_of_pos, List.find?_cons_of_pos]
        · simpa using there
        · simpa using there
      · rw [Entry.get, Entry.get, List.find?_cons_of_neg, List.find?_cons_of_neg]
        · exact ih
        · simpa using there
        · simpa using there

theorem update_shape {id : CacheFieldId} {early : Entry} {old text : Text} {late : Entry}
    (others : ∀ field ∈ early, field.1 ≠ id) (same : text.length = old.length)
    (sound : Entry.Sound (early ++ (id, old) :: late)) :
    Entry.Sound (Entry.update id text (early ++ (id, old) :: late)) ∧
      (encode (Entry.update id text (early ++ (id, old) :: late))).length =
        (encode (early ++ (id, old) :: late)).length := by
  have lengths : (texts (early ++ (id, text) :: late)).length =
      (texts (early ++ (id, old) :: late)).length := by
    rw [texts_split, texts_split]
    simp [same]
  have counts : (early ++ (id, text) :: late).length = (early ++ (id, old) :: late).length := by
    simp
  rw [update_split others]
  refine ⟨⟨?_, ?_, ?_⟩, ?_⟩
  · rw [counts]
    exact sound.few
  · intro field member
    rcases List.mem_append.mp member with before | behind
    · exact sound.short field (List.mem_append_left _ before)
    · rcases List.mem_cons.mp behind with rfl | after
      · rw [same]
        exact sound.short (id, old) (List.mem_append_right _ List.mem_cons_self)
      · exact sound.short field (List.mem_append_right _ (List.mem_cons_of_mem _ after))
  · have some := List.length_pos_of_ne_nil sound.some
    rw [← lengths] at some
    exact List.ne_nil_of_length_pos some
  · rw [length_encode, length_encode, counts, lengths]

theorem layout_exchange (offset : Nat) (early : List Entry) {other : Entry}
    (key : other.get .key = entry.get .key) (size : (encode other).length = (encode entry).length)
    (late : List Entry) :
    layout offset (early ++ other :: late) = layout offset (early ++ entry :: late) := by
  rw [layout_append, layout_append, layout, layout, key, size]

theorem mem_exchange {early late : List Entry} {other member : Entry}
    (inside : member ∈ early ++ other :: late) :
    member = other ∨ member ∈ early ++ entry :: late := by
  rcases List.mem_append.mp inside with before | behind
  · exact .inr (List.mem_append_left _ before)
  · rcases List.mem_cons.mp behind with here | after
    · exact .inl here
    · exact .inr (List.mem_append_right _ (List.mem_cons_of_mem _ after))

theorem Kept.retime (kept : Kept m entries) {entry : Text} (named : Named entry) (time : Text) :
    Kept { m with entryIndex := setEntry m.entryIndex entry time } entries := by
  refine ⟨⟨kept.sound, kept.stored, kept.size, kept.index⟩, kept.valid, kept.opened, kept.attached,
    kept.named, ?_⟩
  intro pair member
  rcases mem_setEntry member with here | there
  · rw [here]
    exact named
  · exact kept.times pair there

theorem updateLastAccessTime_kept (kept : Kept m entries) (mapped : m.mapped = some inode)
    {early late : List Entry} (split : entries = early ++ entry :: late)
    (bytes : m.contentOf inode = encodeAll early ++ (encode entry ++ encodeAll late))
    (system : System) :
    ∃ now, Kept (m.updateLastAccessTime p system
      ⟨(encodeAll early).length, (encode entry).length⟩ (entry.get .entry)) now := by
  have member : entry ∈ entries := by
    rw [split]
    exact List.mem_append_right _ List.mem_cons_self
  have sound := kept.sound entry member
  have timed := kept.retime (kept.named entry member) (decimal system.clockMs)
  rw [mapped] at timed
  simp only [updateLastAccessTime, mapped, bytes, fieldCountAt_stored sound,
    stored_findField (encodeAll early) (encodeAll late) sound.short]
  split
  · exact ⟨entries, kept⟩
  rename_i place length located
  split
  · exact ⟨entries, timed⟩
  rename_i same
  split
  · have equal : (decimal system.clockMs).length = length := (Classical.not_not.mp same).symm
    obtain ⟨first, old, last, parts, others, oldLength, -, -⟩ :=
      stored_field (encodeAll early) (encodeAll late) located
    have shape := update_shape others (equal.trans oldLength) (parts ▸ sound)
    rw [← parts] at shape
    have linked := kept.linked mapped
    have valid := kept.valid inode linked
    refine ⟨early ++ entry.update .lastAccessTime (decimal system.clockMs) :: late,
      ⟨?_, ?_, ?_, ?_⟩, ?_, timed.opened, timed.attached, ?_, timed.times⟩
    · intro other inside
      rcases mem_exchange inside with here | there
      · rw [here]
        exact shape.1
      · exact kept.sound other (split ▸ there)
    · rw [stored_overwrite (encodeAll early) (encodeAll late) located equal]
      refine (content_setContent linked valid _).trans ?_
      rw [encodeAll_append, encodeAll_cons]
    · refine kept.size.trans ?_
      rw [split, encodeAll_append, encodeAll_append, encodeAll_cons, encodeAll_cons]
      simp [shape.2]
    · refine kept.index.trans ?_
      rw [split]
      exact (layout_exchange 0 early (get_update_other (by decide) _ entry) shape.2 late).symm
    · intro other there
      exact (kept.valid other there).trans_eq List.length_set.symm
    · intro other inside
      rcases mem_exchange inside with here | there
      · rw [here, get_update_other (by decide)]
        exact kept.named entry member
      · exact kept.named other (split ▸ there)
  · exact ⟨entries, timed⟩

theorem getMediaCache_kept (kept : Kept m entries) {url : Text} (attached : Attached m) :
    ∃ now, Kept (m.getMediaCache p system url).2 now := by
  obtain ⟨loaded, -, -⟩ := ensureLoaded_kept kept attached system
  simp only [getMediaCache]
  split
  · exact ⟨entries, loaded⟩
  rename_i info found
  obtain ⟨inode, mapped⟩ := findUrl_mapped found
  obtain ⟨early, entry, late, split, place, bytes⟩ :=
    loaded.entry_at mapped (mem_findFirstEqualField found)
  have sound : entry.Sound := loaded.sound entry (by
    rw [split]
    exact List.mem_append_right _ List.mem_cons_self)
  rw [place, mappedField_stored mapped sound bytes]
  split
  · exact updateLastAccessTime_kept loaded mapped split bytes system
  · exact ⟨entries, loaded⟩

theorem sizeMinus_eq {first second : Nat} (below : second ≤ first) (fits : first < 2 ^ 64) :
    sizeMinus first second = first - second := by
  rw [sizeMinus]
  omega

theorem resize_moved (before : Text) (removed after : Text) :
    FileContent.resize (overwrite (before ++ (removed ++ after)) before.length
      (piece (before ++ (removed ++ after)) (before.length + removed.length) after.length))
        (before ++ after).length = before ++ after := by
  have behind : piece (before ++ (removed ++ after)) (before.length + removed.length)
      after.length = after := by
    have found := piece_append (before ++ removed) after []
    rwa [List.append_nil, List.append_assoc, List.length_append] at found
  rw [behind, overwrite, List.take_left, ← List.append_assoc]
  exact resize_prefix (before ++ after) _

theorem truncate_setContent (fd : m.fd = some inode) (valid : inode < m.inodes.length)
    (truncates : system.truncates = true) (bytes : Text) (length : Nat) :
    (m.setContent inode bytes).truncate system length =
      some (m.setContent inode (FileContent.resize bytes length)) := by
  have opened : (m.setContent inode bytes).fd = some inode := fd
  simp only [truncate, opened, if_pos truncates, contentOf_setContent valid]
  simp [setContent]

theorem removeMediaCache_kept (kept : Kept m entries) (url : Text)
    (truncates : system.truncates = true) :
    ∃ now, Kept (m.removeMediaCache p system url) now := by
  cases found : m.findUrl p url with
  | none =>
    have unchanged : m.removeMediaCache p system url = m := by
      simp [removeMediaCache, found]
    rw [unchanged]
    exact ⟨entries, kept⟩
  | some info =>
    obtain ⟨inode, mapped⟩ := findUrl_mapped found
    obtain ⟨early, entry, late, split, place, bytes⟩ :=
      kept.entry_at mapped (mem_findFirstEqualField found)
    have member : entry ∈ entries := by
      rw [split]
      exact List.mem_append_right _ List.mem_cons_self
    have name := mappedField_stored mapped (kept.sound entry member) bytes .entry
    have untouched : m.removeAll (entry.get .entry) = m := by
      rw [removeAll, if_neg]
      rw [(kept.named entry member).apart]
      exact Bool.false_ne_true
    simp only [removeMediaCache, found, mapped, place, name, untouched, bytes]
    split
    · exact ⟨entries, kept⟩
    split
    · exact ⟨entries, kept⟩
    rename_i bounds moves
    have linked := kept.linked mapped
    have valid := kept.valid inode linked
    have size : m.fileSize = (encodeAll early).length + (encode entry).length +
        (encodeAll late).length := by
      rw [kept.size, split, encodeAll_append, encodeAll_cons, List.length_append,
        List.length_append, Nat.add_assoc]
    have fits : m.fileSize < 2 ^ 64 := by
      have bound := (Classical.not_not.mp bounds).2
      rw [maxCacheMappingFileSize] at bound
      omega
    have behind : sizeMinus m.fileSize ((encodeAll early).length + (encode entry).length) =
        (encodeAll late).length := by
      rw [sizeMinus_eq (by omega) fits]
      omega
    have left : sizeMinus m.fileSize (encode entry).length =
        (encodeAll early ++ encodeAll late).length := by
      rw [sizeMinus_eq (by omega) fits, List.length_append]
      omega
    rw [behind, left, truncate_setContent (kept.attached inode mapped) valid truncates,
      resize_moved, Option.getD_some]
    have fewer : ∀ other ∈ early ++ late, other ∈ entries := by
      intro other inside
      rw [split]
      rcases List.mem_append.mp inside with before | after
      · exact List.mem_append_left _ before
      · exact List.mem_append_right _ (List.mem_cons_of_mem _ after)
    refine ⟨early ++ late, @loadIndex_kept
      { m.setContent inode (encodeAll early ++ encodeAll late) with
        fileSize := (encodeAll early ++ encodeAll late).length
        index := []
        entryIndex := [] } (early ++ late)
      (fun other inside => kept.sound other (fewer other inside)) ?_ ?_ rfl rfl ?_
      kept.opened kept.attached (fun other inside => kept.named other (fewer other inside))
      inode mapped system⟩
    · rw [encodeAll_append]
      exact content_setContent linked valid _
    · rw [encodeAll_append]
    · intro other there
      exact (kept.valid other there).trans_eq List.length_set.symm

theorem flushCacheSize_kept (kept : Kept m entries) (size : Nat) :
    Kept (m.flushCacheSize size) entries := kept.resize _

theorem removeFiles_kept (files : List (Nat × Bool)) (removeSize : Nat)
    (kept : Kept m entries) : Kept (removeFiles files removeSize m) entries := by
  induction files generalizing removeSize m with
  | nil => exact kept
  | cons file rest ih =>
    rw [removeFiles]
    split
    · exact kept
    · split
      · exact ih removeSize kept
      · exact ih _ (flushCacheSize_kept kept _)

theorem removeCacheDirectory_kept (kept : Kept m entries) (system : System) {entry : Text}
    (named : Named entry) : Kept (m.removeCacheDirectory system entry) entries := by
  rw [removeCacheDirectory, if_neg]
  · exact removeFiles_kept _ _ kept
  · rintro ⟨mapping, -⟩
    exact absurd (named.apart.symm.trans mapping) Bool.false_ne_true

theorem evict_kept (truncates : system.truncates = true) {sorted : List (Text × Text)}
    (named : ∀ pair ∈ sorted, Named pair.1) (kept : Kept m entries) :
    ∃ now, Kept (evict p system sorted m) now := by
  induction sorted generalizing m entries with
  | nil => exact ⟨entries, kept⟩
  | cons pair rest ih =>
    have others : ∀ other ∈ rest, Named other.1 := fun other member =>
      named other (List.mem_cons_of_mem pair member)
    rw [evict]
    split
    · exact ⟨entries, kept⟩
    dsimp only
    split
    · split
      · exact ih others kept
      · rename_i info found
        obtain ⟨now, removed⟩ := removeMediaCache_kept (p := p) kept
          (m.mappedField info .requestUrl) truncates
        exact ih others (flushCacheSize_kept removed _)
    · exact ih others
        (removeCacheDirectory_kept kept system (named pair List.mem_cons_self))

theorem mem_sortedEntries {order : List Text} {pair : Text × Text}
    (member : pair ∈ m.sortedEntries order) : pair ∈ m.entryIndex := by
  have inside := (List.perm_insertionSort _ _).mem_iff.mp member
  obtain ⟨entry, -, looked⟩ := List.mem_filterMap.mp inside
  obtain ⟨time, there, rfl⟩ := Option.map_eq_some_iff.mp looked
  obtain ⟨early, late, split, -⟩ := List.lookup_eq_some_iff.mp there
  rw [split]
  exact List.mem_append_right _ List.mem_cons_self

theorem flushWriteLength_kept (kept : Kept m entries) (attached : Attached m)
    (truncates : system.truncates = true) (fileSize : Nat) (order : List Text) :
    ∃ now, Kept (m.flushWriteLength p system fileSize order) now := by
  obtain ⟨loaded, -, -⟩ := ensureLoaded_kept kept attached system
  have counted := loaded.resize (((m.ensureLoaded system).cacheSize + fileSize) % 2 ^ 64)
  simp only [flushWriteLength]
  split
  · exact ⟨entries, counted⟩
  · split
    · exact ⟨entries, counted⟩
    · exact evict_kept truncates
        (fun pair member => counted.times pair (mem_sortedEntries member)) counted

theorem step_kept (kept : Kept m entries) {call : Call} (orderly : Orderly p m call) :
    ∃ now, Kept (step p m call) now := by
  cases call with
  | createMediaCache system url type randomAccess size =>
    exact createMediaCache_kept kept orderly
  | getMediaCache system url => exact getMediaCache_kept kept orderly
  | flushWriteLength system fileSize order =>
    exact flushWriteLength_kept kept orderly.1 orderly.2 fileSize order
  | removeMediaCache system url => exact removeMediaCache_kept kept url orderly
  | releaseMap =>
    refine ⟨entries, ⟨⟨kept.sound, kept.stored, kept.size, kept.index⟩, kept.valid, kept.opened,
      ?_, kept.named, kept.times⟩⟩
    intro inode there
    cases there
  | restart system => exact ⟨entries, restart_kept kept orderly⟩

theorem kept_initially : Kept {} [] :=
  ⟨⟨by simp, rfl, rfl, rfl⟩, by simp, by simp, by simp, by simp, by simp⟩

/-- Where the map is not released while entries are known, and new entries can be appended in
full, the file, its size and the index agree after every call. -/
theorem index_agrees (p : Platform) (calls : List Call)
    (orderly : Along (step p) (Orderly p) {} calls) : Agrees (reached p calls) := by
  have kept : ∃ entries, Kept (reached p calls) entries :=
    invariant_of_along (fun m => ∃ entries, Kept m entries)
      (fun m call ⟨_, kept⟩ orderly => step_kept kept orderly) orderly ⟨[], kept_initially⟩
  obtain ⟨entries, kept⟩ := kept
  exact kept.toHolds.agrees

/-- A platform whose hash adds the bytes up; an empty copy fails, as any beyond 2 GiB. -/
def samplePlatform : Platform where
  hash text := (text.map UInt8.toNat).sum
  copies length := decide (0 < length ∧ length ≤ 0x7fffffff)
  moves destMax count := decide (0 < destMax ∧ destMax ≤ 0x7fffffff ∧ count ≤ destMax)

/-- Two entries under one hash and a third are stored, one is read; the oldest is evicted, and
the files of the next are removed; a new process finds what is left. -/
def storeAndEvict : List Call :=
  [.createMediaCache { clockMs := 10 } [97, 98] [118] true 5,
    .createMediaCache { clockMs := 11 } [98, 97] [118] false 70,
    .createMediaCache { clockMs := 12 } [99] [118] true 800,
    .getMediaCache { clockMs := 13 } [97, 98],
    .flushWriteLength
      { directorySize := fun entry => if entry = decimal 99 then 2 ^ 41 else 2 ^ 20
        files := fun entry => if entry = decimal 99 then [(2 ^ 41, true)] else [] }
      (5 * 2 ^ 40) [decimal 99, decimal 195, decimal 195 ++ underscore :: decimal 11],
    .releaseMap, .restart {}]

theorem storeAndEvict_agrees : Agrees (reached samplePlatform storeAndEvict) :=
  index_agrees samplePlatform storeAndEvict (by decide +kernel)

/-- An entry is stored, the map is released, and the entry is read. -/
def storeReleaseRead : List Call :=
  [.createMediaCache { clockMs := 10 } [97] [118] true 5, .releaseMap,
    .getMediaCache { clockMs := 11 } [97]]

/-- An entry whose type is empty is stored. -/
def storeUntyped : List Call := [.createMediaCache { clockMs := 10 } [97] [] true 5]

/-- After the release the entry is in the index twice, and without a type it is not stored in
full. -/
theorem released_not_agrees :
    (reached samplePlatform storeReleaseRead).index =
        [(decimal 97, ⟨0, 74⟩), (decimal 97, ⟨0, 74⟩)] ∧
      ¬ Agrees (reached samplePlatform storeReleaseRead) ∧
      ¬ Agrees (reached samplePlatform storeUntyped) := by
  refine ⟨by decide +kernel, ?_, ?_⟩
  · rintro ⟨entries, -, same⟩
    exact absurd same (by decide +kernel)
  · rintro ⟨entries, -, same⟩
    exact absurd same (by decide +kernel)

end PlayerFramework.StreamCache
