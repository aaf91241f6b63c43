import PlayerFramework.DownloadedCache.CachePaths
import PlayerFramework.DownloadedCache.MappingEntries
import PlayerFramework.DownloadedCache.PlayStrategyTruncation
import Mathlib.Data.List.Induction
import Mathlib.Data.List.TakeWhile

/-!
When the cache manager reads back what the download manager recorded.
-/

namespace PlayerFramework.DownloadedCache.DownloadTaskCallback

open Cursor Paths CacheMappingSerializer CacheMappingDeserializer DownloadedCacheManager
open SHA256Hasher

def report (reported : List UInt8 → Option UInt64) (completion : List UInt8 × Int64) :
    List UInt8 → Option UInt64 :=
  if completion.2 < 0 then reported
  else fun url => if url = completion.1 then some completion.2.toUInt64 else reported url

theorem updateFileSize_entry (before after : List UInt8) (entry : CacheMappingEntry)
    (size : UInt64) :
    updateFileSize (before ++ (entryBytes entry ++ after)) (before.length + entryHeaderPrefix)
        size = before ++ (entryBytes (withSize entry size) ++ after) := by
  have prefix_length : (before ++ (entry.header.urlHash.bytes ++
      uint32Bytes entry.header.pathLength)).length = before.length + entryHeaderPrefix := by
    simp only [List.length_append, entry.header.urlHash.length, length_uint32Bytes]
    rfl
  have parts : before ++ (entryBytes entry ++ after) =
      (before ++ (entry.header.urlHash.bytes ++ uint32Bytes entry.header.pathLength)) ++
        (uint64Bytes entry.header.fileSize ++ (entry.header.reserved.bytes ++ entry.filePath ++
          after)) := by
    simp [entryBytes]
  have fits : ¬ (before ++ (entryBytes entry ++ after)).length <
      before.length + entryHeaderPrefix + 8 := by
    simp only [List.length_append, length_entryBytes]
    unfold entryHeaderPrefix
    omega
  rw [updateFileSize, if_neg fits, parts, List.take_left' prefix_length, ← List.drop_drop,
    List.drop_left' prefix_length, List.drop_left' (length_uint64Bytes _)]
  simp [entryBytes, withSize]

/-- Of the records only the last one for the reported URL takes the size. -/
theorem settle_report (reported : List UInt8 → Option UInt64) {url : List UInt8} {size : Int64}
    (positive : ¬ size < 0) (entry : CacheMappingEntry) {first rest : List Record}
    (last : url ∉ urls rest) :
    settle (report reported (url, size)) (first ++ (url, entry) :: rest) [] =
      settle reported first (url :: urls rest) ++
        (url, withSize entry size.toUInt64) :: settle reported rest [] := by
  have others : ∀ other, other ≠ url → report reported (url, size) other = reported other := by
    intro other different
    rw [report, if_neg positive, if_neg different]
  have here : report reported (url, size) url = some size.toUInt64 := by
    rw [report, if_neg positive, if_pos rfl]
  have early : settle (report reported (url, size)) first (url :: urls rest) =
      settle reported first (url :: urls rest) :=
    settle_congr fun other _ outside => others other fun same => outside (by simp [same])
  have late : settle (report reported (url, size)) rest [] = settle reported rest [] :=
    settle_congr fun other inside _ => others other fun same => last (same ▸ inside)
  rw [settle_last _ entry last, early, late, here]
  rfl

theorem onFileCompleted_settled (head : List UInt8) (records : List Record)
    (reported : List UInt8 → Option UInt64) (completion : List UInt8 × Int64) :
    onFileCompleted ⟨head ++ encode (settle reported records []),
        addOffsets head.length records [], true⟩ completion =
      ⟨head ++ encode (settle (report reported completion) records []),
        addOffsets head.length records [], true⟩ := by
  obtain ⟨url, size⟩ := completion
  unfold onFileCompleted
  by_cases negative : size < 0
  · rw [if_pos negative, report, if_pos negative]
  rw [if_neg negative]
  by_cases known : url ∈ urls records
  · obtain ⟨first, entry, rest, split, last⟩ := exists_last known
    have offset := addOffsets_last last first entry head.length []
    have place : head.length + (encode first).length =
        (head ++ encode (settle reported first (url :: urls rest))).length := by
      rw [List.length_append, length_encode_settle]
    have patched := updateFileSize_entry (head ++ encode (settle reported first (url :: urls rest)))
      (encode (settle reported rest []))
      (withSize entry ((reported url).getD entry.header.fileSize)) size.toUInt64
    have written : ∀ other : CacheMappingEntry,
        head ++ encode (settle reported first (url :: urls rest) ++
          (url, other) :: settle reported rest []) =
        head ++ encode (settle reported first (url :: urls rest)) ++
          (entryBytes other ++ encode (settle reported rest [])) := by
      intro other
      simp [encode]
    rw [split, offset, settle_last _ entry last, settle_report reported negative entry last,
      written, written, place]
    simp only [patched]
    rfl
  · have unknown := addOffsets_unknown known head.length []
    have same : settle (report reported (url, size)) records [] = settle reported records [] := by
      refine settle_congr ?_
      intro other inside _
      have different : other ≠ url := fun same => known (same ▸ inside)
      rw [report, if_neg negative, if_neg different]
    rw [unknown, same]
    rfl

theorem onFilesCompleted_settled (head : List UInt8) (records : List Record)
    (completions : List (List UInt8 × Int64)) (reported : List UInt8 → Option UInt64) :
    completions.foldl onFileCompleted ⟨head ++ encode (settle reported records []),
        addOffsets head.length records [], true⟩ =
      ⟨head ++ encode (settle (completions.foldl report reported) records []),
        addOffsets head.length records [], true⟩ := by
  induction completions generalizing reported with
  | nil => rfl
  | cons completion rest ih =>
    rw [List.foldl_cons, onFileCompleted_settled, ih, List.foldl_cons]

def lastReported (completions : List (List UInt8 × Int64)) (url : List UInt8) : Option UInt64 :=
  (completions.filter fun completion => completion.1 = url ∧ ¬ completion.2 < 0).getLast?.map
    fun completion => completion.2.toUInt64

theorem foldl_report (completions : List (List UInt8 × Int64))
    (reported : List UInt8 → Option UInt64) (url : List UInt8) :
    completions.foldl report reported url = (lastReported completions url).or (reported url) := by
  induction completions generalizing reported with
  | nil => rfl
  | cons completion rest ih =>
    rw [List.foldl_cons, ih]
    by_cases counts : completion.1 = url ∧ ¬ completion.2 < 0
    · have here : report reported completion url = some completion.2.toUInt64 := by
        rw [report, if_neg counts.2, if_pos counts.1.symm]
      have more : lastReported (completion :: rest) url =
          (lastReported rest url).or (some completion.2.toUInt64) := by
        unfold lastReported
        rw [List.filter_cons_of_pos (by simpa using counts), List.getLast?_cons]
        cases (rest.filter fun completion =>
          decide (completion.1 = url ∧ ¬ completion.2 < 0)).getLast? with
        | none | some last => rfl
      rw [here, more, Option.or_assoc]
      rfl
    · have here : report reported completion url = reported url := by
        unfold report
        split
        · rfl
        · rename_i positive
          exact if_neg fun same => counts ⟨same.symm, positive⟩
      have same : lastReported (completion :: rest) url = lastReported rest url := by
        unfold lastReported
        rw [List.filter_cons_of_neg (by simpa using counts)]
      rw [here, same]

theorem foldl_report_none (completions : List (List UInt8 × Int64)) :
    completions.foldl report (fun _ => none) = lastReported completions := by
  funext url
  rw [foldl_report, Option.or_none]

theorem hexDigit_injective {first second : UInt8} (small : first < 16) (small' : second < 16)
    (same : hexDigit first = hexDigit second) : first = second := by
  unfold hexDigit at same
  split at same
  · split at same
    · grind
    · grind
  · split at same
    · grind
    · grind

theorem hexDigits_injective {first second : UInt8}
    (high : hexDigit (first / 16) = hexDigit (second / 16))
    (low : hexDigit (first % 16) = hexDigit (second % 16)) :
    first = second := by
  have digit : ∀ byte : UInt8, byte / 16 < 16 ∧ byte % 16 < 16 := by
    intro byte
    have range := byte.toNat_lt
    constructor
    · change byte.toNat / 16 < 16
      omega
    · change byte.toNat % 16 < 16
      omega
  have quotient := congrArg UInt8.toNat (hexDigit_injective (digit first).1 (digit second).1 high)
  have remainder := congrArg UInt8.toNat (hexDigit_injective (digit first).2 (digit second).2 low)
  change first.toNat / 16 = second.toNat / 16 at quotient
  change first.toNat % 16 = second.toNat % 16 at remainder
  exact UInt8.toNat_inj.mp (by omega)

theorem hashToString_injective {first second : Block 32}
    (same : hashToString first = hashToString second) :
    first = second := by
  have digits : ∀ bytes bytes' : List UInt8, bytes.length = bytes'.length →
      (bytes.flatMap fun byte =>
        [hexDigit (byte / 16), hexDigit (byte % 16)]) =
      (bytes'.flatMap fun byte =>
        [hexDigit (byte / 16), hexDigit (byte % 16)]) →
      bytes = bytes' := by
    intro bytes
    induction bytes with
    | nil =>
      intro bytes' length _
      exact (List.length_eq_zero_iff.mp length.symm).symm
    | cons byte rest ih =>
      intro bytes' length equal
      cases bytes' with
      | nil => cases length
      | cons byte' rest' =>
        rw [List.flatMap_cons, List.flatMap_cons] at equal
        simp only [List.cons_append, List.nil_append, List.cons.injEq] at equal
        obtain ⟨high, low, later⟩ := equal
        rw [hexDigits_injective high low, ih rest' (by simpa using length) later]
  have bytes := digits first.bytes second.bytes (by rw [first.length, second.length]) same
  cases first
  cases second
  subst bytes
  rfl

theorem lookup_keyed (entries : List CacheMappingEntry) (key : List UInt8) :
    ((entries.map keyed).reverse).lookup key =
      (entries.filter fun entry => hashToString entry.header.urlHash = key).getLast? := by
  induction entries using List.reverseRecOn with
  | nil => rfl
  | append_singleton rest entry ih =>
    rw [List.map_append, List.map_singleton, List.reverse_append, List.reverse_singleton,
      List.singleton_append, keyed, List.lookup_cons, List.filter_append]
    by_cases here : hashToString entry.header.urlHash = key
    · simp [here]
    · have miss : (key == hashToString entry.header.urlHash) = false :=
        beq_false_of_ne fun same => here same.symm
      simp [here, miss, ih]

section Claim

variable (system : System) (taskInfo : AVDownloadTaskInfo) (completions : List (List UInt8 × Int64))

/-- The mapping file after its generation and the reports that follow; its `close` loses
nothing. -/
def finished (state : MappingFile) : MappingFile :=
  completions.foldl onFileCompleted (generateMappingFile system taskInfo state)

/-- The mapping file on the disk. -/
def stored (state : MappingFile) : MappingFile :=
  completions.foldl onFileCompleted (closed system (generateMappingFile system taskInfo state))

/-- The cache manager for the task's directory, when its mapping file is this one. -/
def loadedFrom (file : List UInt8) : DownloadedCacheManager :=
  create system.crc32 system.normalize
    (fun path => if some path = (system.normalize taskInfo.cacheDir).map (· ++ cacheMappingFile)
      then some file else none) taskInfo.cacheDir

/-- The path and the size that the manager has for a URL. -/
def mapped (manager : DownloadedCacheManager) (url : List UInt8) : Option (List UInt8 × UInt64) :=
  (manager.index.lookup (hashToString (system.sha256 url))).map fun entry =>
    (entry.filePath, entry.header.fileSize)

/-- The path of the last entry that was written for a URL, and the size that was last reported
for it or else written. -/
def lastRecorded (url : List UInt8) : Option (List UInt8 × UInt64) :=
  ((taskInfo.fileList.filter (recordable taskInfo.cacheDir)).filter
      fun info => info.url = url).getLast?.map fun info =>
    (relPath taskInfo.cacheDir info.filePath,
      (lastReported completions url).getD (fileSize system info))

/-- The mapping file is loaded, with the root URL of the task and for each of its URLs what was
recorded last. -/
def ReadBack (state : MappingFile) : Prop :=
  let manager := loadedFrom system taskInfo (stored system taskInfo completions state).file
  manager.loaded = true ∧ manager.rootUrl = taskInfo.url ∧
    ∀ info ∈ taskInfo.fileList,
      mapped system manager info.url = lastRecorded system taskInfo completions info.url

def settled : List Record :=
  settle (lastReported completions) (recorded system taskInfo.cacheDir taskInfo.fileList) []

/-- The number of entries as the header has it, in 32 bits. -/
def entryCount : UInt32 :=
  UInt32.ofNat (taskInfo.fileList.filter (recordable taskInfo.cacheDir)).length

/-- The entries in reach of the reader: so many as the header says, up to the first path that
its directory refuses. -/
def reached : List Record :=
  ((settled system taskInfo completions).take (entryCount taskInfo).toNat).takeWhile fun record =>
    PathValidator.validate ((system.normalize taskInfo.cacheDir).getD []) record.2.filePath

def lastOf (records : List Record) (url : List UInt8) : Option (List UInt8 × UInt64) :=
  (records.filter fun record => record.1 = url).getLast?.map fun record =>
    (record.2.filePath, record.2.header.fileSize)

/-- The `close` loses nothing, the normalised directory takes the paths that the writer takes,
and no length runs over its 32 bits. -/
structure Sound (state : MappingFile) : Prop where
  closes : system.flush (generateMappingFile system taskInfo state).file =
    (generateMappingFile system taskInfo state).file
  paths : ∀ info ∈ taskInfo.fileList, recordable taskInfo.cacheDir info = true →
    PathValidator.validate ((system.normalize taskInfo.cacheDir).getD [])
      (relPath taskInfo.cacheDir info.filePath) = true
  parameters : (playbackParam taskInfo).length < 2 ^ 32
  count : (taskInfo.fileList.filter (recordable taskInfo.cacheDir)).length < 2 ^ 32

/-- What the reader's limits ask of a download. -/
structure Readable (state : MappingFile) : Prop where
  sound : Sound system taskInfo state
  rootUrl : taskInfo.url.length < 2 ^ 32
  parameters : (playbackParam taskInfo).length ≤ maxPlaybackParamDataLength
  count : (taskInfo.fileList.filter (recordable taskInfo.cacheDir)).length ≤ maxEntryCount

variable {system taskInfo completions}

theorem filter_last {first rest : List Record} {url : List UInt8} (entry : CacheMappingEntry)
    (last : url ∉ urls rest) :
    ((first ++ (url, entry) :: rest).filter fun record => record.1 = url).getLast? =
      some (url, entry) := by
  have nothing : (rest.filter fun record => decide (record.1 = url)) = [] := by
    rw [List.filter_eq_nil_iff]
    intro record member
    have other : record.1 ≠ url := fun same => last (List.mem_map.mpr ⟨record, member, same⟩)
    simpa using other
  rw [List.filter_append, List.filter_cons_of_pos (by simp), nothing, List.getLast?_append]
  rfl

theorem filter_unknown {records : List Record} {url : List UInt8} (unknown : url ∉ urls records) :
    (records.filter fun record => decide (record.1 = url)) = [] := by
  rw [List.filter_eq_nil_iff]
  intro record member
  have other : record.1 ≠ url := fun same => unknown (List.mem_map.mpr ⟨record, member, same⟩)
  simpa using other

theorem filter_settle (reported : List UInt8 → Option UInt64) (records : List Record)
    (url : List UInt8) :
    ((settle reported records []).filter fun record => record.1 = url).getLast? =
      (records.filter fun record => record.1 = url).getLast?.map fun record =>
        (record.1, withSize record.2 ((reported url).getD record.2.header.fileSize)) := by
  by_cases known : url ∈ urls records
  · obtain ⟨first, entry, rest, split, last⟩ := exists_last known
    have settledLast : url ∉ urls (settle reported rest []) := by
      rw [urls_settle]
      exact last
    rw [split, settle_last reported entry last, filter_last _ settledLast, filter_last entry last]
    rfl
  · have settledUnknown : url ∉ urls (settle reported records []) := by
      rw [urls_settle]
      exact known
    rw [filter_unknown known, filter_unknown settledUnknown]
    rfl

theorem lastOf_settled (url : List UInt8) : lastOf (settled system taskInfo completions) url =
      lastRecorded system taskInfo completions url := by
  have files : ((recorded system taskInfo.cacheDir taskInfo.fileList).filter
        fun record => record.1 = url) =
      ((taskInfo.fileList.filter (recordable taskInfo.cacheDir)).filter
        fun info => info.url = url).map fun info =>
          (info.url, mappingEntry system taskInfo.cacheDir info) := by
    rw [recorded, List.filter_map]
    rfl
  rw [lastOf, settled, filter_settle, files, lastRecorded, List.getLast?_map, Option.map_map,
    Option.map_map]
  rfl

theorem finished_eq {state : MappingFile} (unmarked : state.mappingFileCreated = false)
    (created : (generateMappingFile system taskInfo state).mappingFileCreated = true)
    (short : (playbackParam taskInfo).length < 2 ^ 32) :
    finished system taskInfo completions state =
      ⟨mappingHead system (entryCount taskInfo) (playbackParam taskInfo) ++
          encode (settled system taskInfo completions),
        addOffsets (24 + 4 + (playbackParam taskInfo).length)
          (recorded system taskInfo.cacheDir taskInfo.fileList) [], true⟩ := by
  obtain ⟨file, offsets, marked⟩ := state
  have same : marked = false := unmarked
  subst same
  obtain ⟨-, -, generated⟩ := generateMappingFile_created created
  have count : UInt32.ofNat (recorded system taskInfo.cacheDir taskInfo.fileList).length =
      entryCount taskInfo := by
    rw [entryCount, recorded, List.length_map]
  have length : (mappingHead system (entryCount taskInfo) (playbackParam taskInfo)).length =
      24 + 4 + (playbackParam taskInfo).length := by
    rw [mappingHead, List.length_append, length_writeHeader, writePlaybackParamData,
      List.length_append, length_uint32Bytes, UInt32.toNat_ofNat_of_lt' short, List.take_length,
      Nat.add_assoc]
  have unreported := settle_unreported (recorded system taskInfo.cacheDir taskInfo.fileList) []
  have settling := onFilesCompleted_settled
    (mappingHead system (entryCount taskInfo) (playbackParam taskInfo))
    (recorded system taskInfo.cacheDir taskInfo.fileList) completions fun _ => none
  rw [unreported, length, foldl_report_none] at settling
  rw [finished, generated, count, settling]
  rfl

theorem finished_file {state : MappingFile} (unmarked : state.mappingFileCreated = false)
    (created : (generateMappingFile system taskInfo state).mappingFileCreated = true)
    (short : (playbackParam taskInfo).length < 2 ^ 32) :
    (finished system taskInfo completions state).file =
      mappingHead system (entryCount taskInfo) (playbackParam taskInfo) ++
        encode (settled system taskInfo completions) := by
  rw [finished_eq unmarked created short]

theorem stored_of_closes {state : MappingFile}
    (closes : system.flush (generateMappingFile system taskInfo state).file =
      (generateMappingFile system taskInfo state).file) :
    stored system taskInfo completions state = finished system taskInfo completions state := by
  rw [stored, finished, closed]
  split
  · rw [closes]
  · rfl

theorem toNat_entryCount {state : MappingFile} (sound : Sound system taskInfo state) :
    (entryCount taskInfo).toNat =
      (taskInfo.fileList.filter (recordable taskInfo.cacheDir)).length :=
  UInt32.toNat_ofNat_of_lt' sound.count

/-- The reader reaches every entry. -/
theorem reached_eq {state : MappingFile} (sound : Sound system taskInfo state) :
    reached system taskInfo completions = settled system taskInfo completions := by
  have length : (settled system taskInfo completions).length = (entryCount taskInfo).toNat := by
    have same := congrArg List.length (urls_settle (lastReported completions)
      (recorded system taskInfo.cacheDir taskInfo.fileList) [])
    rw [toNat_entryCount sound]
    simpa [urls, recorded, settled] using same
  have valid : ∀ record ∈ settled system taskInfo completions,
      PathValidator.validate ((system.normalize taskInfo.cacheDir).getD [])
        record.2.filePath = true := by
    refine settle_all _ ?_ fun record size holds => holds
    intro record member
    obtain ⟨info, inside, rfl⟩ := List.mem_map.mp member
    obtain ⟨listed, taken⟩ := List.mem_filter.mp inside
    exact sound.paths info listed taken
  rw [reached, ← length, List.take_length]
  exact List.takeWhile_eq_self_iff.mpr valid

theorem loadedFrom_eq {dir : List UInt8} (named : taskInfo.cacheDir ≠ [])
    (normal : system.normalize taskInfo.cacheDir = some dir) (file : List UInt8) :
    loadedFrom system taskInfo file = loadCacheMapping system.crc32 dir file := by
  rw [loadedFrom, create, if_neg named, normal]
  simp

theorem settled_fits : ∀ record ∈ settled system taskInfo completions, Fits record.2 := by
  refine settle_all _ (recorded_fits system taskInfo.cacheDir) ?_
  intro record size fits
  exact fits

theorem playbackParam_read : (∃ result,
      PlayStrategySerializer.deserialize (playbackParam taskInfo) = some result) ∧
    deserializedRootUrl (playbackParam taskInfo) = PlayStrategySerializer.stored taskInfo.url := by
  obtain ⟨⟨result, read⟩, offset, rootUrl⟩ := PlayStrategySerializer.deserialize_serialize
    taskInfo.url taskInfo.strategy taskInfo.filter
  refine ⟨⟨result, read⟩, ?_⟩
  have nonempty : playbackParam taskInfo ≠ [] := by
    intro empty
    rw [playbackParam] at empty
    rw [empty] at read
    cases read
  rw [deserializedRootUrl, if_neg nonempty, playbackParam, rootUrl]
  rfl

/-- Within the reader's limits the file is loaded with what the reader reaches. -/
theorem loadCacheMapping_finished {dir : List UInt8}
    (normal : system.normalize taskInfo.cacheDir = some dir)
    (short : (playbackParam taskInfo).length ≤ maxPlaybackParamDataLength)
    (few : (entryCount taskInfo).toNat ≤ maxEntryCount) :
    loadCacheMapping system.crc32 dir
        (mappingHead system (entryCount taskInfo) (playbackParam taskInfo) ++
          encode (settled system taskInfo completions)) =
      ⟨dir, PlayStrategySerializer.stored taskInfo.url,
        (((reached system taskInfo completions).map Prod.snd).map keyed).reverse, true⟩ := by
  have size : (UInt32.ofNat (playbackParam taskInfo).length).toNat =
      (playbackParam taskInfo).length := by
    refine UInt32.toNat_ofNat_of_lt' ?_
    have bound : UInt32.size = 4294967296 := rfl
    unfold maxPlaybackParamDataLength at short
    omega
  obtain ⟨⟨result, read⟩, rootUrl⟩ := @playbackParam_read taskInfo
  have enough : (entryCount taskInfo).toNat ≤
      ((settled system taskInfo completions).map Prod.snd).length := by
    have records : (settled system taskInfo completions).length =
        (taskInfo.fileList.filter (recordable taskInfo.cacheDir)).length := by
      have same := congrArg List.length (urls_settle (lastReported completions)
        (recorded system taskInfo.cacheDir taskInfo.fileList) [])
      simpa [urls, recorded, settled] using same
    rw [List.length_map, records]
    exact Nat.mod_le _ _
  have fit : ∀ entry ∈ (settled system taskInfo completions).map Prod.snd, Fits entry := by
    intro entry member
    obtain ⟨record, inside, rfl⟩ := List.mem_map.mp member
    exact settled_fits record inside
  have loaded := loadCacheMapping_written system.crc32 dir few enough size.symm
    (by rw [size]; exact short) read fit
  have entries : taken dir (entryCount taskInfo).toNat
      ((settled system taskInfo completions).map Prod.snd) =
        (reached system taskInfo completions).map Prod.snd := by
    rw [taken, reached, normal, ← List.map_take, List.takeWhile_map]
    rfl
  rw [rootUrl, entries] at loaded
  rw [← loaded, mappingHead, writePlaybackParamData, size, List.take_length, encode,
    List.flatMap_map]
  rfl

theorem loadCacheMapping_count {dir rest : List UInt8}
    (many : maxEntryCount < (entryCount taskInfo).toNat) :
    loadCacheMapping system.crc32 dir
        (mappingHead system (entryCount taskInfo) (playbackParam taskInfo) ++ rest) =
      { cacheDir := dir } := by
  have refused := readParameters_refuses_count system.crc32 (writePlaybackParamData
    (playbackParam taskInfo) (UInt32.ofNat (playbackParam taskInfo).length) ++ rest) many [] []
  simp only [List.nil_append, List.append_nil, List.length_nil] at refused
  rw [loadCacheMapping, mappingHead, mappingHeader, writeHeader_eq, List.append_assoc, refused]

theorem loadCacheMapping_length {dir rest : List UInt8}
    (few : (entryCount taskInfo).toNat ≤ maxEntryCount)
    (short : (playbackParam taskInfo).length < 2 ^ 32)
    (long : maxPlaybackParamDataLength < (playbackParam taskInfo).length) :
    loadCacheMapping system.crc32 dir
        (mappingHead system (entryCount taskInfo) (playbackParam taskInfo) ++ rest) =
      { cacheDir := dir } := by
  have size : (UInt32.ofNat (playbackParam taskInfo).length).toNat =
      (playbackParam taskInfo).length := UInt32.toNat_ofNat_of_lt' short
  have refused := @readParameters_refuses_length system.crc32 _
    (UInt32.ofNat (playbackParam taskInfo).length) (playbackParam taskInfo ++ rest) few
    (by rw [size]; exact long) [] []
  simp only [List.nil_append, List.append_nil, List.length_nil] at refused
  rw [loadCacheMapping, mappingHead, mappingHeader, writeHeader_eq, writePlaybackParamData, size,
    List.take_length, List.append_assoc, List.append_assoc (uint32Bytes _), refused]

theorem settled_hashes : ∀ record ∈ settled system taskInfo completions,
    record.2.header.urlHash = system.sha256 record.1 ∧
      ∃ info ∈ taskInfo.fileList, info.url = record.1 := by
  refine @settle_all (lastReported completions) (fun record =>
    record.2.header.urlHash = system.sha256 record.1 ∧
      ∃ info ∈ taskInfo.fileList, info.url = record.1) _ _ ?_ ?_
  · intro record member
    obtain ⟨info, inside, rfl⟩ := List.mem_map.mp member
    exact ⟨rfl, info, (List.mem_filter.mp inside).1, rfl⟩
  · intro record size holds
    exact holds

section Reading

variable (distinct : ∀ first ∈ taskInfo.fileList, ∀ second ∈ taskInfo.fileList,
    system.sha256 first.url = system.sha256 second.url → first.url = second.url)

include distinct

theorem mapped_reached {dir rootUrl : List UInt8} {info : DownloadFileInfo}
    (listed : info ∈ taskInfo.fileList) :
    mapped system ⟨dir, rootUrl,
        (((reached system taskInfo completions).map Prod.snd).map keyed).reverse, true⟩ info.url =
      lastOf (reached system taskInfo completions) info.url := by
  have matches_url : (reached system taskInfo completions).filter (fun record =>
        hashToString record.2.header.urlHash = hashToString (system.sha256 info.url)) =
      (reached system taskInfo completions).filter fun record => record.1 = info.url := by
    refine List.filter_congr ?_
    intro record member
    have inside : record ∈ settled system taskInfo completions :=
      List.mem_of_mem_take ((List.takeWhile_sublist _).subset member)
    obtain ⟨hash, other, known, url⟩ := settled_hashes record inside
    rw [decide_eq_decide, hash]
    constructor
    · intro same
      have equal := hashToString_injective same
      rw [← url] at equal ⊢
      exact distinct other known info listed equal
    · intro same
      rw [same]
  rw [mapped, lookup_keyed, List.filter_map, List.getLast?_map, Option.map_map, lastOf,
    ← matches_url]
  rfl

/-- Within its limits the reader gives back what the writer recorded, and of the files that reach
the disk whole, with their lengths in 32 bits, it gives back no others. -/
theorem read_back_iff {state : MappingFile} (unmarked : state.mappingFileCreated = false)
    (created : (generateMappingFile system taskInfo state).mappingFileCreated = true) :
    (Readable system taskInfo state → ReadBack system taskInfo completions state) ∧
    (Sound system taskInfo state →
      ReadBack system taskInfo completions state → Readable system taskInfo state) := by
  have facts : taskInfo.cacheDir ≠ [] ∧ system.normalize taskInfo.cacheDir ≠ none := by
    obtain ⟨file, offsets, marked⟩ := state
    have same : marked = false := unmarked
    subst same
    obtain ⟨named, normal, -⟩ := generateMappingFile_created created
    exact ⟨named, normal⟩
  obtain ⟨dir, normal⟩ := Option.ne_none_iff_exists'.mp facts.2
  constructor
  · intro readable
    have sound := readable.sound
    unfold ReadBack
    rw [stored_of_closes sound.closes, loadedFrom_eq facts.1 normal,
      finished_file unmarked created sound.parameters,
      loadCacheMapping_finished normal readable.parameters
        (by rw [toNat_entryCount sound]; exact readable.count)]
    refine ⟨rfl, PlayStrategySerializer.stored_short readable.rootUrl, ?_⟩
    intro info listed
    rw [mapped_reached distinct listed, reached_eq sound, lastOf_settled]
  · intro sound back
    unfold ReadBack at back
    rw [stored_of_closes sound.closes, loadedFrom_eq facts.1 normal,
      finished_file unmarked created sound.parameters] at back
    have few : (entryCount taskInfo).toNat ≤ maxEntryCount := by
      by_contra many
      rw [loadCacheMapping_count (Nat.not_le.mp many)] at back
      cases back.1
    have parameters : (playbackParam taskInfo).length ≤ maxPlaybackParamDataLength := by
      by_contra long
      rw [loadCacheMapping_length few sound.parameters (Nat.not_le.mp long)] at back
      cases back.1
    rw [loadCacheMapping_finished normal parameters few] at back
    refine ⟨sound, ?_, parameters, toNat_entryCount sound ▸ few⟩
    have length := congrArg List.length back.2.1
    rw [PlayStrategySerializer.length_stored] at length
    rw [← length]
    exact UInt32.toNat_lt _

end Reading

end Claim

/-- A download into a directory that is its own normal form is readable up to the reader's
limits. -/
theorem readable_of_few {system : System} {taskInfo : AVDownloadTaskInfo} {state : MappingFile}
    (normal : system.normalize taskInfo.cacheDir = some taskInfo.cacheDir)
    (closes : system.flush (generateMappingFile system taskInfo state).file =
      (generateMappingFile system taskInfo state).file)
    (rootUrl : taskInfo.url.length < 2 ^ 32)
    (parameters : (playbackParam taskInfo).length ≤ maxPlaybackParamDataLength)
    (few : taskInfo.fileList.length ≤ maxEntryCount) : Readable system taskInfo state := by
  have within := Nat.le_trans (List.length_filter_le (recordable taskInfo.cacheDir) _) few
  have limits : maxPlaybackParamDataLength < 2 ^ 32 ∧ maxEntryCount < 2 ^ 32 := by decide
  refine ⟨⟨closes, ?_, Nat.lt_of_le_of_lt parameters limits.1,
    Nat.lt_of_le_of_lt within limits.2⟩, rootUrl, parameters, within⟩
  intro info _ taken
  rw [normal]
  exact taken

def secondUrl : List UInt8 := [118]

def secondHash : Block 32 :=
  ⟨[76, 148, 72, 94, 12, 33, 174, 108, 65, 206, 29, 254, 123, 107, 250, 206, 234, 90, 182, 142, 64,
    162, 71, 111, 80, 32, 142, 82, 111, 80, 96, 128], rfl⟩

/-- The checksum and the hash at the inputs of the samples; every file has three bytes. -/
def sampleSystem : System where
  crc32 data :=
    if data = headerFields (mappingHeader 2) then 717037740
    else if data = headerFields (mappingHeader 10001) then 4271670772
    else 0
  sha256 data :=
    if data = sampleUrl then sampleHash
    else if data = secondUrl then secondHash
    else ⟨List.replicate 32 0, rfl⟩
  stat _ := some 3
  normalize := some
  isOpen := true
  good := true

/-- A playlist at `/c/1/b` that has been loaded and a segment at `/c/1/d` that has not. -/
def sampleTask : AVDownloadTaskInfo where
  url := sampleUrl
  cacheDir := [47, 99]
  fileList := [⟨sampleUrl, [47, 99, 47, 49, 47, 98], true⟩,
    ⟨secondUrl, [47, 99, 47, 49, 47, 100], false⟩]

theorem sample_read_back : ReadBack sampleSystem sampleTask [(secondUrl, 5)] ⟨[], [], false⟩ :=
  (@read_back_iff sampleSystem sampleTask [(secondUrl, 5)] (by decide) ⟨[], [], false⟩ rfl rfl).1
    (readable_of_few rfl rfl (by decide) (by decide) (by decide))

/-- One entry more than the reader takes. -/
def longTask : AVDownloadTaskInfo where
  url := sampleUrl
  cacheDir := [47, 99]
  fileList := List.replicate 10001 ⟨sampleUrl, [47, 99, 47, 49, 47, 98], true⟩

theorem long_not_read_back :
    (generateMappingFile sampleSystem longTask ⟨[], [], false⟩).mappingFileCreated = true ∧
      ¬ ReadBack sampleSystem longTask [] ⟨[], [], false⟩ := by
  have created : (generateMappingFile sampleSystem longTask
      ⟨[], [], false⟩).mappingFileCreated = true := by
    rfl
  have count : (entryCount longTask).toNat = 10001 := by
    rw [entryCount, longTask, List.filter_replicate_of_pos (by decide), List.length_replicate]
    rfl
  refine ⟨created, ?_⟩
  intro back
  unfold ReadBack at back
  have directory : sampleSystem.normalize longTask.cacheDir = some [47, 99] := rfl
  have many : maxEntryCount < (entryCount longTask).toNat := by
    rw [count]
    decide
  have lossless : sampleSystem.flush = id := rfl
  have whole : stored sampleSystem longTask [] ⟨[], [], false⟩ =
      finished sampleSystem longTask [] ⟨[], [], false⟩ :=
    stored_of_closes (by rw [lossless, id_eq])
  rw [whole, loadedFrom_eq (by decide) directory, finished_file rfl created (by decide),
    loadCacheMapping_count many] at back
  cases back.1

end PlayerFramework.DownloadedCache.DownloadTaskCallback
