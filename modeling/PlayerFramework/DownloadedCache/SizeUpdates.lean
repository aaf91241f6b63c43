import PlayerFramework.DownloadedCache.MappingRoundTrip

/-!
What the report about one file changes in the mapping file and in what is read back from it.
-/

namespace PlayerFramework.DownloadedCache.DownloadTaskCallback

open Cursor Paths CacheMappingSerializer CacheMappingDeserializer DownloadedCacheManager
open SHA256Hasher

section Modify

variable {α β : Type} {update : α → α}

theorem modify_append (first : List α) (value : α) (rest : List α) :
    (first ++ value :: rest).modify first.length update = first ++ update value :: rest := by
  induction first with
  | nil => rfl
  | cons head first ih => simp [ih]

theorem map_modify {read : α → β} {update' : β → β}
    (same : ∀ value, read (update value) = update' (read value)) (values : List α) (number : Nat) :
    (values.modify number update).map read = (values.map read).modify number update' := by
  induction values generalizing number with
  | nil => simp
  | cons value values ih =>
    cases number with
    | zero => simp [same]
    | succ number => simp [ih]

theorem takeWhile_modify {accepts : α → Bool}
    (same : ∀ value, accepts (update value) = accepts value) (values : List α) (number : Nat) :
    (values.modify number update).takeWhile accepts =
      (values.takeWhile accepts).modify number update := by
  induction values generalizing number with
  | nil => simp
  | cons value values ih =>
    cases number with
    | zero =>
      rw [List.modify_zero_cons, List.takeWhile_cons, List.takeWhile_cons, same]
      split
      · rfl
      · rfl
    | succ number =>
      rw [List.modify_succ_cons, List.takeWhile_cons, List.takeWhile_cons, ih]
      split
      · rfl
      · rfl

end Modify

def resize (size : UInt64) (record : Record) : Record := (record.1, withSize record.2 size)

/-- The keys of the others still find what they found. -/
theorem lookup_resize {records : List Record} {number : Nat} {key : List UInt8}
    (other : ∀ record, records[number]? = some record → record.1 ≠ key) (size : UInt64) :
    ((records.modify number (resize size)).reverse).lookup key = (records.reverse).lookup key := by
  induction records generalizing number with
  | nil => simp
  | cons record records ih =>
    cases number with
    | zero =>
      have miss : (key == record.1) = false := beq_false_of_ne fun same =>
        other record rfl same.symm
      have found : List.lookup key [resize size record] = List.lookup key [record] := by
        rw [List.lookup_cons, List.lookup_cons, resize, miss]
      rw [List.modify_zero_cons, List.reverse_cons, List.reverse_cons, List.lookup_append,
        List.lookup_append, found]
    | succ number =>
      rw [List.modify_succ_cons, List.reverse_cons, List.reverse_cons, List.lookup_append,
        List.lookup_append, ih fun record found => other record (by simpa using found)]

/-- A file that ends before the sizes whose offsets are known is left as it is. -/
theorem onFileCompleted_past {file : List UInt8} {base : Nat} (past : file.length < base + 44)
    (records : List Record) (completion : List UInt8 × Int64) :
    onFileCompleted ⟨file, addOffsets base records [], true⟩ completion =
      ⟨file, addOffsets base records [], true⟩ := by
  unfold onFileCompleted
  split
  · rfl
  by_cases known : completion.1 ∈ urls records
  · obtain ⟨first, entry, rest, split, last⟩ := exists_last known
    have behind : file.length < base + (encode first).length + entryHeaderPrefix + 8 := by
      unfold entryHeaderPrefix
      omega
    rw [split, addOffsets_last last]
    simp [updateFileSize, if_pos behind]
  · rw [addOffsets_unknown known]
    rfl

theorem length_encode_le {records : List Record} (fit : ∀ record ∈ records, Fits record.2) :
    (encode records).length ≤ records.length * (52 + maxPathLength) := by
  induction records with
  | nil => exact Nat.zero_le _
  | cons record records ih =>
    have here := (fit record (by simp)).2
    have rest := ih fun other inside => fit other (by simp [inside])
    unfold encode at rest ⊢
    rw [List.flatMap_cons, List.length_append, length_entryBytes, List.length_cons, Nat.succ_mul]
    omega

section Updates

variable (system : System) (taskInfo : AVDownloadTaskInfo)

/-- The manager with another size in one of its entries, counted in the order of the file. -/
def resizeEntry (number : Nat) (size : UInt64) (manager : DownloadedCacheManager) :
    DownloadedCacheManager :=
  { manager with index := (manager.index.reverse.modify number (resize size)).reverse }

/-- Between the two files the size of one entry changes, with nothing else in the file or in what
is read from it. -/
structure SizeUpdated (number : Nat) (url : List UInt8) (size : UInt64) (old new : MappingFile) :
    Prop where
  offsets : new.urlToFileSizeOffset = old.urlToFileSizeOffset
  entry : ∃ records, urls records = urls (recorded system taskInfo.cacheDir taskInfo.fileList) ∧
    old.file = mappingHead system (entryCount taskInfo) (playbackParam taskInfo) ++ encode records ∧
    new.file = mappingHead system (entryCount taskInfo) (playbackParam taskInfo) ++
      encode (records.modify number (resize size))
  parameters : readParameters system.crc32 new.file 0 = readParameters system.crc32 old.file 0
  reloaded : loadedFrom system taskInfo new.file =
    resizeEntry number size (loadedFrom system taskInfo old.file)
  others : ∀ key ≠ hashToString (system.sha256 url),
    (loadedFrom system taskInfo new.file).index.lookup key =
      (loadedFrom system taskInfo old.file).index.lookup key

variable {system taskInfo} {completions : List (List UInt8 × Int64)}

theorem lastReported_snoc (completion : List UInt8 × Int64) :
    lastReported (completions ++ [completion]) = report (lastReported completions) completion := by
  rw [← foldl_report_none, List.foldl_append, foldl_report_none]
  rfl

theorem lastReported_perm {other : List (List UInt8 × Int64)} (order : other.Perm completions)
    (once : ∀ first ∈ completions, ∀ second ∈ completions, first.1 = second.1 → first = second) :
    lastReported other = lastReported completions := by
  rw [← foldl_report_none, ← foldl_report_none]
  refine order.foldl_eq' ?_ _
  intro first member second member' reported
  by_cases same : first.1 = second.1
  · rw [once first (order.subset member) second (order.subset member') same]
  · funext url
    unfold report
    grind

theorem settled_snoc {url : List UInt8} {size : Int64} (positive : ¬ size < 0)
    {first rest : List Record} {entry : CacheMappingEntry}
    (split : recorded system taskInfo.cacheDir taskInfo.fileList = first ++ (url, entry) :: rest)
    (last : url ∉ urls rest) :
    settled system taskInfo (completions ++ [(url, size)]) =
      (settled system taskInfo completions).modify first.length (resize size.toUInt64) := by
  have length : (settle (lastReported completions) first (url :: urls rest)).length =
      first.length := by
    have same := congrArg List.length
      (urls_settle (lastReported completions) first (url :: urls rest))
    simpa [urls] using same
  rw [settled, settled, lastReported_snoc, split, settle_report _ positive entry last,
    settle_last _ entry last, ← length, modify_append]
  rfl

theorem loadCacheMapping_resized {dir : List UInt8} {number : Nat} {size : UInt64}
    {completion : List UInt8 × Int64} (normal : system.normalize taskInfo.cacheDir = some dir)
    (few : (entryCount taskInfo).toNat ≤ maxEntryCount)
    (short : (playbackParam taskInfo).length < 2 ^ 32)
    (changed : settled system taskInfo (completions ++ [completion]) =
      (settled system taskInfo completions).modify number (resize size)) :
    loadCacheMapping system.crc32 dir
        (mappingHead system (entryCount taskInfo) (playbackParam taskInfo) ++
          encode (settled system taskInfo (completions ++ [completion]))) =
      resizeEntry number size (loadCacheMapping system.crc32 dir
        (mappingHead system (entryCount taskInfo) (playbackParam taskInfo) ++
          encode (settled system taskInfo completions))) := by
  by_cases long : maxPlaybackParamDataLength < (playbackParam taskInfo).length
  · rw [loadCacheMapping_length few short long, loadCacheMapping_length few short long]
    simp [resizeEntry]
  have fits := Nat.not_lt.mp long
  have within : reached system taskInfo (completions ++ [completion]) =
      (reached system taskInfo completions).modify number (resize size) := by
    have kept : ∀ record : Record, PathValidator.validate
        ((system.normalize taskInfo.cacheDir).getD []) (resize size record).2.filePath =
          PathValidator.validate ((system.normalize taskInfo.cacheDir).getD [])
            record.2.filePath := fun record => rfl
    rw [reached, changed, List.take_modify]
    exact takeWhile_modify kept _ _
  have read : ∀ record, (keyed ∘ Prod.snd) (resize size record) =
      resize size ((keyed ∘ Prod.snd) record) := fun record => rfl
  rw [loadCacheMapping_finished normal fits few, loadCacheMapping_finished normal fits few,
    within, resizeEntry, List.reverse_reverse, List.map_map, List.map_map, map_modify read]

/-- What is read before the entries does not depend on them. -/
theorem readParameters_head (few : (entryCount taskInfo).toNat ≤ maxEntryCount)
    (short : (playbackParam taskInfo).length < 2 ^ 32) (rest rest' : List UInt8) :
    readParameters system.crc32
        (mappingHead system (entryCount taskInfo) (playbackParam taskInfo) ++ rest) 0 =
      readParameters system.crc32
        (mappingHead system (entryCount taskInfo) (playbackParam taskInfo) ++ rest') 0 := by
  have size : (UInt32.ofNat (playbackParam taskInfo).length).toNat =
      (playbackParam taskInfo).length := UInt32.toNat_ofNat_of_lt' short
  rw [mappingHead, mappingHeader, writeHeader_eq, writePlaybackParamData, size, List.take_length]
  by_cases long : maxPlaybackParamDataLength < (playbackParam taskInfo).length
  · have refused := @readParameters_refuses_length system.crc32 _
      (UInt32.ofNat (playbackParam taskInfo).length) (playbackParam taskInfo) few
      (by rw [size]; exact long) []
    have first := refused rest
    have second := refused rest'
    simp only [List.nil_append, List.length_nil] at first second
    rw [first, second]
  · have reads := @readParameters_reads system.crc32 _
      (UInt32.ofNat (playbackParam taskInfo).length) (playbackParam taskInfo) few size.symm
      (by rw [size]; exact Nat.not_lt.mp long) []
    have first := reads rest
    have second := reads rest'
    simp only [List.nil_append, List.append_nil, List.length_nil] at first second
    rw [first, second]

theorem index_key {url : List UInt8} {number : Nat} {record : Record}
    (place : (urls (settled system taskInfo completions))[number]? = some url)
    (found : (((reached system taskInfo completions).map Prod.snd).map keyed)[number]? =
      some record) : record.1 = hashToString (system.sha256 url) := by
  rw [List.map_map, List.getElem?_map, Option.map_eq_some_iff] at found
  obtain ⟨known, here, rfl⟩ := found
  have inside : (settled system taskInfo completions)[number]? = some known := by
    obtain ⟨rest, whole⟩ : reached system taskInfo completions <+:
        settled system taskInfo completions :=
      (List.takeWhile_prefix _).trans (List.take_prefix _ _)
    obtain ⟨within, -⟩ := List.getElem?_eq_some_iff.mp here
    rw [← whole, List.getElem?_append_left within]
    exact here
  have hash := (settled_hashes known (List.mem_of_getElem? inside)).1
  have same : known.1 = url := by
    rw [urls, List.getElem?_map, inside] at place
    exact Option.some.inj place
  rw [← same, ← hash]
  rfl

theorem finished_snoc (completion : List UInt8 × Int64) (state : MappingFile) :
    onFileCompleted (finished system taskInfo completions state) completion =
      finished system taskInfo (completions ++ [completion]) state := by
  rw [finished, finished, List.foldl_append]
  rfl

section Created

variable {state : MappingFile} (unmarked : state.mappingFileCreated = false)
  (created : (generateMappingFile system taskInfo state).mappingFileCreated = true)

include unmarked created

/-- The base of the offsets of so long a block lies behind the file that holds 32 bits of it. -/
theorem finished_past (long : 2 ^ 32 ≤ (playbackParam taskInfo).length)
    (few : (recorded system taskInfo.cacheDir taskInfo.fileList).length ≤ maxEntryCount)
    (completions : List (List UInt8 × Int64)) :
    finished system taskInfo completions state = generateMappingFile system taskInfo state := by
  obtain ⟨file, offsets, marked⟩ := state
  have same : marked = false := unmarked
  subst same
  obtain ⟨-, -, generated⟩ := generateMappingFile_created created
  have entries := length_encode_le (@recorded_fits system taskInfo.cacheDir taskInfo.fileList)
  have total := Nat.mul_le_mul_right (52 + maxPathLength) few
  have past : (mappingHead system
        (UInt32.ofNat (recorded system taskInfo.cacheDir taskInfo.fileList).length)
        (playbackParam taskInfo) ++
      encode (recorded system taskInfo.cacheDir taskInfo.fileList)).length <
        24 + 4 + (playbackParam taskInfo).length + 44 := by
    simp only [mappingHead, writePlaybackParamData, List.length_append, length_writeHeader,
      length_uint32Bytes, List.length_take, UInt32.toNat_ofNat']
    simp only [maxEntryCount, maxPathLength] at total entries
    omega
  rw [finished, generated]
  induction completions with
  | nil => rfl
  | cons completion rest ih => rw [List.foldl_cons, onFileCompleted_past past, ih]

theorem finished_offsets
    (few : (recorded system taskInfo.cacheDir taskInfo.fileList).length ≤ maxEntryCount)
    (completions : List (List UInt8 × Int64)) :
    (finished system taskInfo completions state).urlToFileSizeOffset =
      addOffsets (24 + 4 + (playbackParam taskInfo).length)
        (recorded system taskInfo.cacheDir taskInfo.fileList) [] := by
  by_cases short : (playbackParam taskInfo).length < 2 ^ 32
  · rw [finished_eq unmarked created short]
  rw [finished_past unmarked created (Nat.not_lt.mp short) few]
  obtain ⟨file, offsets, marked⟩ := state
  have same : marked = false := unmarked
  subst same
  obtain ⟨-, -, generated⟩ := generateMappingFile_created created
  rw [generated]

theorem onFileCompleted_short (short : (playbackParam taskInfo).length < 2 ^ 32)
    (few : (entryCount taskInfo).toNat ≤ maxEntryCount) {url : List UInt8} {size : Int64}
    (positive : ¬ size < 0) {first rest : List Record} {entry : CacheMappingEntry}
    (split : recorded system taskInfo.cacheDir taskInfo.fileList = first ++ (url, entry) :: rest)
    (last : url ∉ urls rest) (completions : List (List UInt8 × Int64)) :
    SizeUpdated system taskInfo first.length url size.toUInt64
      (finished system taskInfo completions state)
      (onFileCompleted (finished system taskInfo completions state) (url, size)) := by
  obtain ⟨dir, named, normal⟩ : ∃ dir, taskInfo.cacheDir ≠ [] ∧
      system.normalize taskInfo.cacheDir = some dir := by
    obtain ⟨file, offsets, marked⟩ := state
    have same : marked = false := unmarked
    subst same
    obtain ⟨named, normal, -⟩ := generateMappingFile_created created
    obtain ⟨dir, normal⟩ := Option.ne_none_iff_exists'.mp normal
    exact ⟨dir, named, normal⟩
  have changed := @settled_snoc system taskInfo completions _ _ positive _ _ _ split last
  have place : (urls (settled system taskInfo completions))[first.length]? = some url := by
    rw [settled, urls_settle, split]
    simp [urls]
  have reloaded : loadedFrom system taskInfo (mappingHead system (entryCount taskInfo)
        (playbackParam taskInfo) ++ encode (settled system taskInfo
          (completions ++ [(url, size)]))) =
      resizeEntry first.length size.toUInt64 (loadedFrom system taskInfo
        (mappingHead system (entryCount taskInfo) (playbackParam taskInfo) ++
          encode (settled system taskInfo completions))) := by
    rw [loadedFrom_eq named normal, loadedFrom_eq named normal]
    exact loadCacheMapping_resized normal few short changed
  rw [finished_snoc, finished_eq unmarked created short, finished_eq unmarked created short]
  refine ⟨rfl, ⟨settled system taskInfo completions, urls_settle _ _ _, rfl, ?_⟩,
    readParameters_head few short _ _, reloaded, ?_⟩
  · rw [changed]
  intro key other
  rw [reloaded, loadedFrom_eq named normal]
  have index : ∀ record, (loadCacheMapping system.crc32 dir (mappingHead system
        (entryCount taskInfo) (playbackParam taskInfo) ++
          encode (settled system taskInfo completions))).index.reverse[first.length]? =
      some record → record.1 ≠ key := by
    intro record found same
    by_cases long : maxPlaybackParamDataLength < (playbackParam taskInfo).length
    · rw [loadCacheMapping_length few short long] at found
      cases found
    · rw [loadCacheMapping_finished normal (Nat.not_lt.mp long) few, List.reverse_reverse]
        at found
      exact other (same ▸ index_key place found)
  have found := lookup_resize index size.toUInt64
  rw [List.reverse_reverse] at found
  exact found

/-- Each report about a file of a mapping file that the reader may take changes the size in one
entry, the last one for its URL, and neither the rest of the file nor what else is read from it;
so the order of the reports does not show.  After parameters of 4 GiB the offsets lie behind the
file and nothing changes at all. -/
theorem onFileCompleted_resizes_one
    (few : (recorded system taskInfo.cacheDir taskInfo.fileList).length ≤ maxEntryCount)
    (completions : List (List UInt8 × Int64)) :
    (∀ url size offset, ¬ size < 0 →
      (finished system taskInfo completions state).urlToFileSizeOffset.lookup url = some offset →
      ∃ number, (urls (recorded system taskInfo.cacheDir taskInfo.fileList))[number]? = some url ∧
        url ∉ (urls (recorded system taskInfo.cacheDir taskInfo.fileList)).drop (number + 1) ∧
        if (playbackParam taskInfo).length < 2 ^ 32 then
          SizeUpdated system taskInfo number url size.toUInt64
            (finished system taskInfo completions state)
            (onFileCompleted (finished system taskInfo completions state) (url, size))
        else
          onFileCompleted (finished system taskInfo completions state) (url, size) =
            finished system taskInfo completions state) ∧
    ∀ other, other.Perm completions →
      (∀ first ∈ completions, ∀ second ∈ completions, first.1 = second.1 → first = second) →
      finished system taskInfo other state = finished system taskInfo completions state := by
  constructor
  · intro url size offset positive known
    rw [finished_offsets unmarked created few] at known
    have listed : url ∈ urls (recorded system taskInfo.cacheDir taskInfo.fileList) := by
      by_contra unknown
      rw [addOffsets_unknown unknown] at known
      cases known
    obtain ⟨first, entry, rest, split, last⟩ := exists_last listed
    refine ⟨first.length, ?_, ?_, ?_⟩
    · rw [split]
      simp [urls]
    · have behind : (urls (recorded system taskInfo.cacheDir taskInfo.fileList)).drop
          (first.length + 1) = urls rest := by
        rw [split]
        simp [urls, List.drop_append]
      rw [behind]
      exact last
    · have count : (entryCount taskInfo).toNat ≤ maxEntryCount := by
        have length : (recorded system taskInfo.cacheDir taskInfo.fileList).length =
            (taskInfo.fileList.filter (recordable taskInfo.cacheDir)).length := List.length_map _
        rw [entryCount, ← length]
        exact Nat.le_trans (Nat.mod_le _ _) few
      split_ifs with short
      · exact onFileCompleted_short unmarked created short count positive split last completions
      · have long := Nat.not_lt.mp short
        rw [finished_snoc, finished_past unmarked created long few,
          finished_past unmarked created long few]
  · intro other order once
    by_cases short : (playbackParam taskInfo).length < 2 ^ 32
    · rw [finished_eq unmarked created short, finished_eq unmarked created short, settled, settled,
        lastReported_perm order once]
    · have long := Nat.not_lt.mp short
      rw [finished_past unmarked created long few, finished_past unmarked created long few]

end Created

end Updates

theorem sample_resizes_one : ∃ number, (urls (recorded sampleSystem sampleTask.cacheDir
      sampleTask.fileList))[number]? = some secondUrl ∧
    secondUrl ∉ (urls (recorded sampleSystem sampleTask.cacheDir sampleTask.fileList)).drop
      (number + 1) ∧
    if (playbackParam sampleTask).length < 2 ^ 32 then
      SizeUpdated sampleSystem sampleTask number secondUrl (5 : Int64).toUInt64
        (finished sampleSystem sampleTask [(sampleUrl, 7)] ⟨[], [], false⟩)
        (onFileCompleted (finished sampleSystem sampleTask [(sampleUrl, 7)] ⟨[], [], false⟩)
          (secondUrl, 5))
    else
      onFileCompleted (finished sampleSystem sampleTask [(sampleUrl, 7)] ⟨[], [], false⟩)
          (secondUrl, 5) =
        finished sampleSystem sampleTask [(sampleUrl, 7)] ⟨[], [], false⟩ :=
  (@onFileCompleted_resizes_one sampleSystem sampleTask ⟨[], [], false⟩ rfl rfl (by decide)
    [(sampleUrl, 7)]).1 secondUrl 5 _ (by decide) rfl

end PlayerFramework.DownloadedCache.DownloadTaskCallback
