import PlayerFramework.DownloadedCache.CacheMapping
import PlayerFramework.DownloadedCache.PlayStrategyRoundTrip

/-!
What the mapping file's parts are read back as.
-/

namespace PlayerFramework.DownloadedCache

open Cursor Paths

namespace CacheMappingDeserializer

open CacheMappingSerializer

theorem readUint32_reads (value : UInt32) : Reads readUint32 (uint32Bytes value) value := by
  have reads := (block_reads ⟨uint32Bytes value, length_uint32Bytes value⟩).map
    fun value => uint32OfBytes value.bytes
  simp only [uint32OfBytes_uint32Bytes] at reads
  exact reads

theorem readUint64_reads (value : UInt64) : Reads readUint64 (uint64Bytes value) value := by
  have reads := (block_reads ⟨uint64Bytes value, length_uint64Bytes value⟩).map
    fun value => uint64OfBytes value.bytes
  simp only [uint64OfBytes_uint64Bytes] at reads
  exact reads

theorem readHeader_reads (header : CacheMappingHeader) :
    Reads readHeader (headerFields header ++ uint32Bytes header.headerChecksum) header := by
  rw [headerFields]
  simp only [List.append_assoc]
  refine Reads.bind (block_reads header.magic) ?_
  refine Reads.bind (readUint32_reads header.version) ?_
  refine Reads.bind (readUint32_reads header.entryCount) ?_
  refine Reads.bind (block_reads header.reserved) ?_
  refine Reads.bind (readUint32_reads header.headerChecksum) ?_
  exact reads_pure header

theorem readEntryHeader_reads (header : CacheMappingEntryHeader) :
    Reads readEntryHeader (header.urlHash.bytes ++ (uint32Bytes header.pathLength ++
      (uint64Bytes header.fileSize ++ (header.reserved.bytes ++ [])))) header := by
  refine Reads.bind (block_reads header.urlHash) ?_
  refine Reads.bind (readUint32_reads header.pathLength) ?_
  refine Reads.bind (readUint64_reads header.fileSize) ?_
  refine Reads.bind (block_reads header.reserved) ?_
  exact reads_pure header

theorem bytes_reads (bytes : List UInt8) :
    Reads (fun input => Block.bytes <$> block bytes.length input) bytes bytes :=
  (block_reads ⟨bytes, rfl⟩).map Block.bytes

/-- An entry as a writer leaves it, whose path is not too long for a reader. -/
def Fits (entry : CacheMappingEntry) : Prop :=
  entry.header.pathLength.toNat = entry.filePath.length ∧ entry.filePath.length ≤ maxPathLength

theorem entryBytes_parts (entry : CacheMappingEntry) :
    entryBytes entry = (entry.header.urlHash.bytes ++ (uint32Bytes entry.header.pathLength ++
      (uint64Bytes entry.header.fileSize ++ (entry.header.reserved.bytes ++ [])))) ++
        (entry.filePath ++ []) := by
  simp [entryBytes]

theorem readEntry_reads {cacheDir : List UInt8} {entry : CacheMappingEntry} (fits : Fits entry)
    (valid : PathValidator.validate cacheDir entry.filePath = true) :
    Reads (readEntry cacheDir) (entryBytes entry) entry := by
  rw [entryBytes_parts]
  refine Reads.bind (readEntryHeader_reads entry.header) ?_
  rw [fits.1]
  simp only [if_neg (Nat.not_lt.mpr fits.2)]
  refine Reads.bind (bytes_reads entry.filePath) ?_
  simp only [valid]
  exact reads_pure entry

theorem readEntry_refuses {cacheDir : List UInt8} {entry : CacheMappingEntry} (fits : Fits entry)
    (invalid : PathValidator.validate cacheDir entry.filePath = false) :
    Refuses (readEntry cacheDir) (entryBytes entry) := by
  rw [entryBytes_parts]
  refine Reads.bind_refuses (readEntryHeader_reads entry.header) ?_
  rw [fits.1]
  simp only [if_neg (Nat.not_lt.mpr fits.2)]
  refine Reads.bind_refuses (bytes_reads entry.filePath) ?_
  simp only [invalid]
  exact refuses_failure []

section Parameters

variable (crc32 : List UInt8 → UInt32)

/-- The header that the writer leaves, with its checksum. -/
def writtenHeader (entryCount : UInt32) : CacheMappingHeader :=
  { magic := cacheMappingMagic
    version := cacheMappingVersion
    entryCount
    headerChecksum := crc32 (headerFields ⟨cacheMappingMagic, cacheMappingVersion, entryCount,
      zeros, 0⟩) }

theorem writeHeader_eq (entryCount : UInt32) :
    writeHeader crc32 ⟨cacheMappingMagic, cacheMappingVersion, entryCount, zeros, 0⟩ =
      headerFields (writtenHeader crc32 entryCount) ++
        uint32Bytes (writtenHeader crc32 entryCount).headerChecksum := rfl

theorem validateHeader_written (entryCount : UInt32) :
    validateHeader crc32 (writtenHeader crc32 entryCount) =
      decide (entryCount.toNat ≤ maxEntryCount) := by
  have checksum : (writtenHeader crc32 entryCount).headerChecksum =
      calculateHeaderChecksum crc32 (writtenHeader crc32 entryCount) := rfl
  rw [validateHeader, if_neg (fun other => other rfl), if_neg (fun other => other rfl),
    if_neg (fun other => other checksum)]
  by_cases many : maxEntryCount < (writtenHeader crc32 entryCount).entryCount.toNat
  · rw [if_pos many]
    have refused : ¬ entryCount.toNat ≤ maxEntryCount := Nat.not_le.mpr many
    simp [refused]
  · rw [if_neg many]
    have taken : entryCount.toNat ≤ maxEntryCount := Nat.not_lt.mp many
    simp [taken]

theorem readPlaybackParamData_reads {playbackParamData : List UInt8} {length : UInt32}
    (whole : playbackParamData.length = length.toNat)
    (short : length.toNat ≤ maxPlaybackParamDataLength) :
    Reads readPlaybackParamData (uint32Bytes length ++ playbackParamData) playbackParamData := by
  refine Reads.bind (readUint32_reads length) ?_
  have reads := bytes_reads playbackParamData
  rw [whole] at reads
  simp only [if_neg (Nat.not_lt.mpr short)]
  exact reads

theorem readPlaybackParamData_refuses {length : UInt32} (playbackParamData : List UInt8)
    (long : maxPlaybackParamDataLength < length.toNat) :
    Refuses readPlaybackParamData (uint32Bytes length ++ playbackParamData) := by
  refine Reads.bind_refuses (readUint32_reads length) ?_
  simp only [if_pos long]
  exact refuses_failure playbackParamData

end Parameters

end CacheMappingDeserializer

namespace DownloadedCacheManager

open CacheMappingSerializer CacheMappingDeserializer

variable (crc32 : List UInt8 → UInt32)

theorem readParameters_reads {entryCount length : UInt32} {playbackParamData : List UInt8}
    (few : entryCount.toNat ≤ maxEntryCount) (whole : playbackParamData.length = length.toNat)
    (short : length.toNat ≤ maxPlaybackParamDataLength) :
    Reads (readParameters crc32) ((headerFields (writtenHeader crc32 entryCount) ++
        uint32Bytes (writtenHeader crc32 entryCount).headerChecksum) ++
          ((uint32Bytes length ++ playbackParamData) ++ [])) (entryCount, playbackParamData) := by
  refine Reads.bind (readHeader_reads (writtenHeader crc32 entryCount)) ?_
  simp only [validateHeader_written, few]
  refine Reads.bind (readPlaybackParamData_reads whole short) ?_
  exact reads_pure _

theorem readParameters_refuses_count {entryCount : UInt32} (rest : List UInt8)
    (many : maxEntryCount < entryCount.toNat) :
    Refuses (readParameters crc32) ((headerFields (writtenHeader crc32 entryCount) ++
        uint32Bytes (writtenHeader crc32 entryCount).headerChecksum) ++ rest) := by
  refine Reads.bind_refuses (readHeader_reads (writtenHeader crc32 entryCount)) ?_
  have refused : ¬ entryCount.toNat ≤ maxEntryCount := Nat.not_le.mpr many
  simp only [validateHeader_written, refused]
  exact refuses_failure rest

theorem readParameters_refuses_length {entryCount length : UInt32} (playbackParamData : List UInt8)
    (few : entryCount.toNat ≤ maxEntryCount) (long : maxPlaybackParamDataLength < length.toNat) :
    Refuses (readParameters crc32) ((headerFields (writtenHeader crc32 entryCount) ++
        uint32Bytes (writtenHeader crc32 entryCount).headerChecksum) ++
          (uint32Bytes length ++ playbackParamData)) := by
  refine Reads.bind_refuses (readHeader_reads (writtenHeader crc32 entryCount)) ?_
  simp only [validateHeader_written, few]
  exact Refuses.bind (readPlaybackParamData_refuses playbackParamData long) _

def keyed (entry : CacheMappingEntry) : List UInt8 × CacheMappingEntry :=
  (SHA256Hasher.hashToString entry.header.urlHash, entry)

/-- The entries that a reader for the directory takes: up to the count, and up to the first path
that it refuses. -/
def taken (cacheDir : List UInt8) (count : Nat) (entries : List CacheMappingEntry) :
    List CacheMappingEntry :=
  (entries.take count).takeWhile fun entry => PathValidator.validate cacheDir entry.filePath

theorem loadEntries_written (cacheDir : List UInt8) {entries : List CacheMappingEntry}
    (fit : ∀ entry ∈ entries, Fits entry) {count : Nat} (written : count ≤ entries.length)
    (before after : List UInt8) (index : List (List UInt8 × CacheMappingEntry)) :
    loadEntries cacheDir (before ++ (entries.flatMap entryBytes ++ after)) count before.length
        index = ((taken cacheDir count entries).map keyed).reverse ++ index := by
  induction entries generalizing count before index with
  | nil =>
    have zero : count = 0 := by simpa using written
    rw [zero]
    rfl
  | cons entry rest ih =>
    cases count with
    | zero => rfl
    | succ count =>
      have fits := fit entry (by simp)
      rw [loadEntries, List.flatMap_cons, List.append_assoc]
      cases valid : PathValidator.validate cacheDir entry.filePath with
      | false =>
        rw [readEntry_refuses fits valid before (rest.flatMap entryBytes ++ after)]
        simp [taken, valid]
      | true =>
        have read := readEntry_reads fits valid before (rest.flatMap entryBytes ++ after)
        have later := ih (fun other member => fit other (by simp [member]))
          (by simpa using written) (before ++ entryBytes entry) (keyed entry :: index)
        rw [List.length_append] at later
        simp only [List.append_assoc] at later
        rw [read]
        change loadEntries cacheDir _ count _ (keyed entry :: index) = _
        rw [later]
        simp [taken, valid]

theorem loadCacheMapping_written (cacheDir : List UInt8) {entryCount length : UInt32}
    {playbackParamData : List UInt8} {entries : List CacheMappingEntry}
    {result : List UInt8 × PlayStrategy × TrackSelectionFilter}
    (few : entryCount.toNat ≤ maxEntryCount) (written : entryCount.toNat ≤ entries.length)
    (whole : playbackParamData.length = length.toNat)
    (short : length.toNat ≤ maxPlaybackParamDataLength)
    (strategy : PlayStrategySerializer.deserialize playbackParamData = some result)
    (fit : ∀ entry ∈ entries, Fits entry) :
    loadCacheMapping crc32 cacheDir
        (writeHeader crc32 ⟨cacheMappingMagic, cacheMappingVersion, entryCount, zeros, 0⟩ ++
          (uint32Bytes length ++ playbackParamData) ++ entries.flatMap entryBytes) =
      ⟨cacheDir, deserializedRootUrl playbackParamData,
        ((taken cacheDir entryCount.toNat entries).map keyed).reverse, true⟩ := by
  have parameters := readParameters_reads crc32 few whole short [] (entries.flatMap entryBytes)
  have loaded := loadEntries_written cacheDir fit written
    (writeHeader crc32 ⟨cacheMappingMagic, cacheMappingVersion, entryCount, zeros, 0⟩ ++
      (uint32Bytes length ++ playbackParamData)) [] []
  simp only [List.append_nil, List.nil_append, List.length_nil, Nat.zero_add] at parameters loaded
  rw [writeHeader_eq] at loaded ⊢
  rw [loadCacheMapping, parameters]
  simp only [strategy, loaded]

end DownloadedCacheManager

end PlayerFramework.DownloadedCache
