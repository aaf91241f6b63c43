import PlayerFramework.DownloadedCache.CacheMappingReads
import PlayerFramework.DownloadedCache.MappingFile

/-!
What the mapping file holds: the entries in the order of the file list, the last one for each
URL with the size that was reported last.
-/

namespace PlayerFramework.DownloadedCache.DownloadTaskCallback

open Cursor Paths CacheMappingSerializer CacheMappingDeserializer

/-- An entry with the URL that its hash stands for. -/
abbrev Record := List UInt8 × CacheMappingEntry

def urls (records : List Record) : List (List UInt8) := records.map Prod.fst

def encode (records : List Record) : List UInt8 := records.flatMap fun record => entryBytes record.2

theorem length_entryBytes (entry : CacheMappingEntry) :
    (entryBytes entry).length = 52 + entry.filePath.length := by
  simp only [entryBytes, List.length_append, entry.header.urlHash.length, length_uint32Bytes,
    length_uint64Bytes, entry.header.reserved.length]
  omega

def withSize (entry : CacheMappingEntry) (size : UInt64) : CacheMappingEntry :=
  { entry with header := { entry.header with fileSize := size } }

theorem length_withSize (entry : CacheMappingEntry) (size : UInt64) :
    (entryBytes (withSize entry size)).length = (entryBytes entry).length := by
  rw [length_entryBytes, length_entryBytes]
  rfl

/-- The last record for each URL takes the size that is reported for it; `later` are the URLs
of the records behind. -/
def settle (reported : List UInt8 → Option UInt64) : List Record → List (List UInt8) → List Record
  | [], _ => []
  | (url, entry) :: rest, later =>
    (url, if url ∈ urls rest ++ later then entry
      else withSize entry ((reported url).getD entry.header.fileSize)) :: settle reported rest later

section Settle

variable (reported : List UInt8 → Option UInt64)

theorem settle_append (first second : List Record) (later : List (List UInt8)) :
    settle reported (first ++ second) later =
      settle reported first (urls second ++ later) ++ settle reported second later := by
  induction first with
  | nil => rfl
  | cons record rest ih =>
    have behind : urls (rest ++ second) ++ later = urls rest ++ (urls second ++ later) := by
      simp [urls]
    rw [List.cons_append, settle, settle, ih, behind, List.cons_append]

theorem settle_last {url : List UInt8} (entry : CacheMappingEntry) {rest : List Record}
    (last : url ∉ urls rest) (first : List Record) :
    settle reported (first ++ (url, entry) :: rest) [] = settle reported first (url :: urls rest) ++
        (url, withSize entry ((reported url).getD entry.header.fileSize)) ::
          settle reported rest [] := by
  have behind : url ∉ urls rest ++ [] := by simpa using last
  rw [settle_append, settle, if_neg behind, List.append_nil]
  rfl

theorem settle_congr {reported reported' : List UInt8 → Option UInt64} {records : List Record}
    {later : List (List UInt8)}
    (same : ∀ url ∈ urls records, url ∉ later → reported url = reported' url) :
    settle reported records later = settle reported' records later := by
  induction records with
  | nil => rfl
  | cons record rest ih =>
    have others := ih fun url member => same url (by simp [urls] at member ⊢; exact Or.inr member)
    rw [settle, settle, others]
    by_cases behind : record.1 ∈ urls rest ++ later
    · rw [if_pos behind, if_pos behind]
    · have here := same record.1 (by simp [urls]) fun inside =>
        behind (List.mem_append_right _ inside)
      rw [if_neg behind, if_neg behind, here]

theorem settle_unreported (records : List Record) (later : List (List UInt8)) :
    settle (fun _ => none) records later = records := by
  induction records with
  | nil => rfl
  | cons record rest ih =>
    rw [settle, ih]
    split
    · rfl
    · rfl

theorem length_encode_settle (records : List Record) (later : List (List UInt8)) :
    (encode (settle reported records later)).length = (encode records).length := by
  induction records with
  | nil => rfl
  | cons record rest ih =>
    unfold encode at ih ⊢
    rw [settle, List.flatMap_cons, List.flatMap_cons, List.length_append, List.length_append, ih]
    split
    · rfl
    · rw [length_withSize]

theorem urls_settle (records : List Record) (later : List (List UInt8)) :
    urls (settle reported records later) = urls records := by
  induction records with
  | nil => rfl
  | cons record rest ih =>
    unfold urls at ih ⊢
    rw [settle, List.map_cons, List.map_cons, ih]

theorem settle_all {property : Record → Prop} {records : List Record}
    {later : List (List UInt8)} (holds : ∀ record ∈ records, property record)
    (kept : ∀ record size, property record → property (record.1, withSize record.2 size)) :
    ∀ record ∈ settle reported records later, property record := by
  induction records with
  | nil =>
    intro record member
    cases member
  | cons record rest ih =>
    intro other member
    have here := holds record (by simp)
    rcases List.mem_cons.mp member with rfl | later
    · split
      · exact here
      · exact kept record _ here
    · exact ih (fun record inside => holds record (by simp [inside])) other later

end Settle

theorem exists_last {records : List Record} {url : List UInt8} (known : url ∈ urls records) :
    ∃ first entry rest, records = first ++ (url, entry) :: rest ∧ url ∉ urls rest := by
  induction records with
  | nil => cases known
  | cons record records ih =>
    by_cases later : url ∈ urls records
    · obtain ⟨first, entry, rest, split, last⟩ := ih later
      exact ⟨record :: first, entry, rest, by rw [split]; rfl, last⟩
    have here : record.1 = url := by
      rcases List.mem_cons.mp known with same | inside
      · exact same.symm
      · exact absurd inside later
    exact ⟨[], record.2, records, by rw [← here]; rfl, later⟩

section Writing

/-- The offsets of the sizes that writing the records from an offset on adds. -/
def addOffsets : Nat → List Record → List (List UInt8 × Nat) → List (List UInt8 × Nat)
  | _, [], offsets => offsets
  | base, (url, entry) :: rest, offsets =>
    addOffsets (base + (entryBytes entry).length) rest ((url, base + entryHeaderPrefix) :: offsets)

theorem addOffsets_unknown {records : List Record} {url : List UInt8} (unknown : url ∉ urls records)
    (base : Nat) (offsets : List (List UInt8 × Nat)) :
    (addOffsets base records offsets).lookup url = offsets.lookup url := by
  induction records generalizing base offsets with
  | nil => rfl
  | cons record rest ih =>
    have other : url ≠ record.1 := fun same => unknown (by simp [urls, same])
    have later : url ∉ urls rest := fun inside => unknown (List.mem_cons_of_mem _ inside)
    have miss : (url == record.1) = false := beq_false_of_ne other
    rw [addOffsets, ih later, List.lookup_cons, miss]

theorem addOffsets_last {rest : List Record} {url : List UInt8} (last : url ∉ urls rest)
    (first : List Record) (entry : CacheMappingEntry) (base : Nat)
    (offsets : List (List UInt8 × Nat)) :
    (addOffsets base (first ++ (url, entry) :: rest) offsets).lookup url =
      some (base + (encode first).length + entryHeaderPrefix) := by
  induction first generalizing base offsets with
  | nil =>
    rw [List.nil_append, addOffsets, addOffsets_unknown last]
    simp [encode]
  | cons record first ih =>
    have length : (encode (record :: first)).length =
        (entryBytes record.2).length + (encode first).length := by
      simp [encode]
    rw [List.cons_append, addOffsets, ih, length, Nat.add_assoc base]

variable (system : System) (cacheDir : List UInt8)

/-- The writer takes the entry of the file. -/
def recordable (info : DownloadFileInfo) : Bool :=
  PathValidator.validate cacheDir (relPath cacheDir info.filePath)

def recorded (fileList : List DownloadFileInfo) : List Record :=
  (fileList.filter (recordable cacheDir)).map fun info =>
    (info.url, mappingEntry system cacheDir info)

theorem writeMappingEntry_recordable {info : DownloadFileInfo}
    (valid : recordable cacheDir info = true) (state : WriteState) :
    writeMappingEntry system cacheDir state info =
      ⟨state.file ++ entryBytes (mappingEntry system cacheDir info),
        (info.url, state.currentOffset + entryHeaderPrefix) :: state.urlToFileSizeOffset,
        state.currentOffset + (entryBytes (mappingEntry system cacheDir info)).length,
        state.writtenCount + 1⟩ := by
  have accepted : PathValidator.validate cacheDir
      (mappingEntry system cacheDir info).filePath = true := valid
  have written : writeEntry (mappingEntry system cacheDir info) cacheDir =
      some (entryBytes (mappingEntry system cacheDir info)) := by
    rw [writeEntry, if_neg (by simp [accepted]), if_neg (fun other => other rfl)]
  rw [writeMappingEntry]
  simp [written, length_entryBytes, Nat.add_assoc]

theorem writeMappingEntry_skipped {info : DownloadFileInfo}
    (invalid : recordable cacheDir info = false) (state : WriteState) :
    writeMappingEntry system cacheDir state info = state := by
  have refused : PathValidator.validate cacheDir
      (mappingEntry system cacheDir info).filePath = false := invalid
  have skipped : writeEntry (mappingEntry system cacheDir info) cacheDir = none := if_pos refused
  rw [writeMappingEntry]
  simp [skipped]

theorem writeMappingEntries_eq (fileList : List DownloadFileInfo) (state : WriteState) :
    fileList.foldl (writeMappingEntry system cacheDir) state =
      ⟨state.file ++ encode (recorded system cacheDir fileList),
        addOffsets state.currentOffset (recorded system cacheDir fileList)
          state.urlToFileSizeOffset,
        state.currentOffset + (encode (recorded system cacheDir fileList)).length,
        state.writtenCount + UInt32.ofNat (recorded system cacheDir fileList).length⟩ := by
  induction fileList generalizing state with
  | nil => simp [recorded, encode, addOffsets]
  | cons info rest ih =>
    rw [List.foldl_cons]
    cases valid : recordable cacheDir info with
    | false =>
      have same : recorded system cacheDir (info :: rest) = recorded system cacheDir rest := by
        simp [recorded, valid]
      rw [writeMappingEntry_skipped system cacheDir valid, ih, same]
    | true =>
      have more : recorded system cacheDir (info :: rest) =
          (info.url, mappingEntry system cacheDir info) :: recorded system cacheDir rest := by
        simp [recorded, valid]
      have count : state.writtenCount + 1 + UInt32.ofNat (recorded system cacheDir rest).length =
          state.writtenCount + UInt32.ofNat ((recorded system cacheDir rest).length + 1) := by
        rw [UInt32.ofNat_add, UInt32.add_assoc, UInt32.add_comm 1]
        rfl
      rw [writeMappingEntry_recordable system cacheDir valid, ih, more, List.length_cons]
      simp [addOffsets, encode, Nat.add_assoc, count]

theorem recorded_fits {fileList : List DownloadFileInfo} :
    ∀ record ∈ recorded system cacheDir fileList, Fits record.2 := by
  intro record member
  obtain ⟨info, inside, rfl⟩ := List.mem_map.mp member
  have valid : recordable cacheDir info = true := (List.mem_filter.mp inside).2
  have short := (PathValidator.validate_checks valid).2.2.1
  refine ⟨UInt32.toNat_ofNat_of_lt' ?_, short⟩
  have size : UInt32.size = 4294967296 := rfl
  unfold maxPathLength at short
  omega

end Writing

/-- The part of a mapping file before its entries. -/
def mappingHead (system : System) (entryCount : UInt32) (playbackParam : List UInt8) : List UInt8 :=
  writeHeader system.crc32 (mappingHeader entryCount) ++
    writePlaybackParamData playbackParam (UInt32.ofNat playbackParam.length)

theorem length_writeHeader (crc32 : List UInt8 → UInt32) (header : CacheMappingHeader) :
    (writeHeader crc32 header).length = 24 := by
  simp [writeHeader, headerFields, header.magic.length, header.reserved.length]

def playbackParam (taskInfo : AVDownloadTaskInfo) : List UInt8 :=
  (PlayStrategySerializer.serialize taskInfo.url taskInfo.strategy taskInfo.filter).2

theorem header_counts (system : System) (playbackParam : List UInt8) (files : Nat)
    (records : List Record) :
    (if (UInt32.ofNat records.length).toNat ≠ files then
        rewriteHeader system (mappingHead system (UInt32.ofNat files) playbackParam ++
          encode records) (UInt32.ofNat records.length)
      else mappingHead system (UInt32.ofNat files) playbackParam ++ encode records) =
      mappingHead system (UInt32.ofNat records.length) playbackParam ++ encode records := by
  by_cases all : (UInt32.ofNat records.length).toNat = files
  · have same : UInt32.ofNat files = UInt32.ofNat records.length := by
      rw [← all, UInt32.ofNat_toNat]
    rw [if_neg (fun other => other all), same]
  · rw [if_pos all, rewriteHeader, mappingHead, mappingHead, List.append_assoc, List.append_assoc,
      List.drop_left' (length_writeHeader system.crc32 _)]

/-- A file that is marked as created counts the entries that it holds. -/
theorem generateMappingFile_created {system : System} {taskInfo : AVDownloadTaskInfo}
    {file : List UInt8} {offsets : List (List UInt8 × Nat)}
    (created : (generateMappingFile system taskInfo ⟨file, offsets, false⟩).mappingFileCreated =
      true) :
    taskInfo.cacheDir ≠ [] ∧ system.normalize taskInfo.cacheDir ≠ none ∧
    generateMappingFile system taskInfo ⟨file, offsets, false⟩ = ⟨mappingHead system
          (UInt32.ofNat (recorded system taskInfo.cacheDir taskInfo.fileList).length)
          (playbackParam taskInfo) ++ encode (recorded system taskInfo.cacheDir taskInfo.fileList),
        addOffsets (24 + 4 + (playbackParam taskInfo).length)
          (recorded system taskInfo.cacheDir taskInfo.fileList) [], true⟩ := by
  unfold generateMappingFile at created ⊢
  by_cases empty : taskInfo.cacheDir = []
  · rw [if_pos empty] at created
    cases created
  by_cases invalid : system.normalize taskInfo.cacheDir = none
  · rw [if_neg empty, if_pos invalid] at created
    cases created
  by_cases closed : system.isOpen = false
  · rw [if_neg empty, if_neg invalid, if_pos closed] at created
    cases created
  refine ⟨empty, invalid, ?_⟩
  rw [if_neg empty, if_neg invalid, if_neg closed] at created ⊢
  simp only [writeMappingEntries_eq, UInt32.zero_add] at created ⊢
  have count := header_counts system (playbackParam taskInfo) taskInfo.fileList.length
    (recorded system taskInfo.cacheDir taskInfo.fileList)
  unfold mappingHead playbackParam at count ⊢
  rw [count, created]

end PlayerFramework.DownloadedCache.DownloadTaskCallback
