import PlayerFramework.DownloadedCache.PathValidator
import PlayerFramework.DownloadedCache.PlayStrategySerializer

/-!
The mapping file of downloaded media (`cache_mapping_format.h`, `cache_mapping_serializer.cpp`)
and the manager that loads it (`cache_manager_new.cpp`).  The checksum of zlib and the hash of
OpenSSL are parameters.
-/

namespace PlayerFramework.DownloadedCache

open Cursor Paths

def cacheMappingMagic : Block 4 := ⟨[0x44, 0x43, 0x4D, 0x48], rfl⟩

def cacheMappingVersion : UInt32 := 1

def maxPlaybackParamDataLength : Nat := 10 * 1024 * 1024

def maxEntryCount : Nat := 10000

/-- `"/cache_mapping.txt"`. -/
def cacheMappingFile : List UInt8 :=
  [47, 99, 97, 99, 104, 101, 95, 109, 97, 112, 112, 105, 110, 103, 46, 116, 120, 116]

def zeros : Block 8 := ⟨List.replicate 8 0, rfl⟩

structure CacheMappingHeader where
  magic : Block 4
  version : UInt32
  entryCount : UInt32
  reserved : Block 8 := zeros
  headerChecksum : UInt32 := 0
deriving DecidableEq

structure CacheMappingEntryHeader where
  urlHash : Block 32
  pathLength : UInt32
  fileSize : UInt64
  reserved : Block 8 := zeros
deriving DecidableEq

structure CacheMappingEntry where
  header : CacheMappingEntryHeader
  filePath : List UInt8
deriving DecidableEq

namespace CacheMappingSerializer

/-- The header without its checksum. -/
def headerFields (header : CacheMappingHeader) : List UInt8 :=
  header.magic.bytes ++ (uint32Bytes header.version ++ (uint32Bytes header.entryCount ++
    header.reserved.bytes))

def calculateHeaderChecksum (crc32 : List UInt8 → UInt32) (header : CacheMappingHeader) : UInt32 :=
  crc32 (headerFields header)

def writeHeader (crc32 : List UInt8 → UInt32) (header : CacheMappingHeader) : List UInt8 :=
  headerFields header ++ uint32Bytes (calculateHeaderChecksum crc32 header)

def entryBytes (entry : CacheMappingEntry) : List UInt8 :=
  entry.header.urlHash.bytes ++ (uint32Bytes entry.header.pathLength ++
    (uint64Bytes entry.header.fileSize ++ (entry.header.reserved.bytes ++ entry.filePath)))

def writeEntry (entry : CacheMappingEntry) (cacheDir : List UInt8) : Option (List UInt8) :=
  if PathValidator.validate cacheDir entry.filePath = false then none
  else if entry.header.pathLength ≠ UInt32.ofNat entry.filePath.length then none
  else some (entryBytes entry)

def writePlaybackParamData (playbackParamData : List UInt8) (playbackParamDataLength : UInt32) :
    List UInt8 :=
  uint32Bytes playbackParamDataLength ++ playbackParamData.take playbackParamDataLength.toNat

/-- `UpdateFileSize` on the bytes of the mapping file. -/
def updateFileSize (file : List UInt8) (fileSizeOffset : Nat) (fileSize : UInt64) : List UInt8 :=
  if file.length < fileSizeOffset + 8 then file
  else file.take fileSizeOffset ++ uint64Bytes fileSize ++ file.drop (fileSizeOffset + 8)

end CacheMappingSerializer

namespace CacheMappingDeserializer

def readUint32 : Reader UInt32 := fun input =>
  (fun value => uint32OfBytes value.bytes) <$> block 4 input

def readUint64 : Reader UInt64 := fun input =>
  (fun value => uint64OfBytes value.bytes) <$> block 8 input

def readHeader : Reader CacheMappingHeader := fun input => do
  let magic ← block 4 input
  let version ← readUint32 input
  let entryCount ← readUint32 input
  let reserved ← block 8 input
  let headerChecksum ← readUint32 input
  return ⟨magic, version, entryCount, reserved, headerChecksum⟩

def validateHeader (crc32 : List UInt8 → UInt32) (header : CacheMappingHeader) : Bool :=
  if header.magic ≠ cacheMappingMagic then false
  else if header.version ≠ cacheMappingVersion then false
  else if header.headerChecksum ≠ CacheMappingSerializer.calculateHeaderChecksum crc32 header then
    false
  else if maxEntryCount < header.entryCount.toNat then false
  else true

def readPlaybackParamData : Reader (List UInt8) := fun input => do
  let playbackParamDataLength ← readUint32 input
  if maxPlaybackParamDataLength < playbackParamDataLength.toNat then failure
  Block.bytes <$> block playbackParamDataLength.toNat input

def readEntryHeader : Reader CacheMappingEntryHeader := fun input => do
  let urlHash ← block 32 input
  let pathLength ← readUint32 input
  let fileSize ← readUint64 input
  let reserved ← block 8 input
  return ⟨urlHash, pathLength, fileSize, reserved⟩

def readEntry (cacheDir : List UInt8) : Reader CacheMappingEntry := fun input => do
  let header ← readEntryHeader input
  if maxPathLength < header.pathLength.toNat then failure
  let filePath ← Block.bytes <$> block header.pathLength.toNat input
  if PathValidator.validate cacheDir filePath = false then failure
  return ⟨header, filePath⟩

end CacheMappingDeserializer

namespace SHA256Hasher

def hexDigit (digit : UInt8) : UInt8 := if digit < 10 then 48 + digit else 87 + digit

def hashToString (hash : Block 32) : List UInt8 :=
  hash.bytes.flatMap fun byte => [hexDigit (byte / 16), hexDigit (byte % 16)]

end SHA256Hasher

/-- `loaded` tells whether `LoadCacheMapping` came as far as the entries. -/
structure DownloadedCacheManager where
  cacheDir : List UInt8
  rootUrl : List UInt8 := []
  index : List (List UInt8 × CacheMappingEntry) := []
  loaded : Bool := false
deriving DecidableEq

namespace DownloadedCacheManager

open CacheMappingDeserializer

def readParameters (crc32 : List UInt8 → UInt32) : Reader (UInt32 × List UInt8) := fun input => do
  let header ← readHeader input
  if validateHeader crc32 header = false then failure
  let playbackParamData ← readPlaybackParamData input
  return (header.entryCount, playbackParamData)

/-- The entries that are read before the first one that cannot be. -/
def loadEntries (cacheDir file : List UInt8) :
    Nat → Nat → List (List UInt8 × CacheMappingEntry) → List (List UInt8 × CacheMappingEntry)
  | 0, _, index => index
  | count + 1, offset, index =>
    match readEntry cacheDir file offset with
    | none => index
    | some (entry, offset) =>
      loadEntries cacheDir file count offset
        ((SHA256Hasher.hashToString entry.header.urlHash, entry) :: index)

/-- The first field that `Deserialize` sets, whether or not it returns true. -/
def deserializedRootUrl (playbackParamData : List UInt8) : List UInt8 :=
  if playbackParamData = [] then []
  else ((PlayStrategySerializer.readString playbackParamData 0).map Prod.fst).getD []

def loadCacheMapping (crc32 : List UInt8 → UInt32) (cacheDir file : List UInt8) :
    DownloadedCacheManager :=
  match readParameters crc32 file 0 with
  | none => { cacheDir }
  | some ((entryCount, playbackParamData), offset) =>
    let rootUrl := deserializedRootUrl playbackParamData
    match PlayStrategySerializer.deserialize playbackParamData with
    | none => { cacheDir, rootUrl }
    | some _ => ⟨cacheDir, rootUrl, loadEntries cacheDir file entryCount.toNat offset [], true⟩

/-- The constructor; `normalize` is `ValidateAndNormalizePath` and `files` what the paths of the
system hold. -/
def create (crc32 : List UInt8 → UInt32) (normalize files : List UInt8 → Option (List UInt8))
    (cacheDir : List UInt8) : DownloadedCacheManager :=
  if cacheDir = [] then { cacheDir }
  else
    match normalize cacheDir with
    | none => ⟨[], [], [], false⟩
    | some cacheDir =>
      match files (cacheDir ++ cacheMappingFile) with
      | none => { cacheDir }
      | some file => loadCacheMapping crc32 cacheDir file

/-- The empty path says that there is none. -/
def getMediaCache (sha256 : List UInt8 → Block 32) (manager : DownloadedCacheManager)
    (url : List UInt8) : List UInt8 :=
  match manager.index.lookup (SHA256Hasher.hashToString (sha256 url)) with
  | none => []
  | some entry =>
    if PathValidator.validate manager.cacheDir entry.filePath = false then []
    else manager.cacheDir ++ [slash] ++ entry.filePath

end DownloadedCacheManager

end PlayerFramework.DownloadedCache
