import PlayerFramework.DownloadedCache.CacheMapping

/-!
How the download manager writes the mapping file (`GenerateMappingFile`, `WriteMappingEntries`)
and updates its sizes (`OnFileCompleted`), in `av_downloader_manager.cpp`.
-/

namespace PlayerFramework.DownloadedCache

open Cursor Paths

/-- What the manager uses of the rest of the system: the checksum of zlib, the hash of OpenSSL,
the size that `stat` finds, `ValidateAndNormalizePath`, whether the file opens and its writes go
through, and what `close` leaves of the file where its flush fails. -/
structure System where
  crc32 : List UInt8 → UInt32
  sha256 : List UInt8 → Block 32
  stat : List UInt8 → Option UInt64
  normalize : List UInt8 → Option (List UInt8)
  isOpen : Bool
  good : Bool
  flush : List UInt8 → List UInt8 := id

structure DownloadFileInfo where
  url : List UInt8
  filePath : List UInt8
  downloaded : Bool := false
deriving DecidableEq

structure AVDownloadTaskInfo where
  url : List UInt8
  cacheDir : List UInt8
  strategy : PlayStrategy := {}
  filter : TrackSelectionFilter := {}
  fileList : List DownloadFileInfo
deriving DecidableEq

/-- The mapping file, with what the task keeps about it. -/
structure MappingFile where
  file : List UInt8
  urlToFileSizeOffset : List (List UInt8 × Nat)
  mappingFileCreated : Bool
deriving DecidableEq

namespace DownloadTaskCallback

def entryHeaderPrefix : Nat := 36

def relPath (cacheDir filePath : List UInt8) : List UInt8 :=
  if cacheDir.length < filePath.length ∧ filePath.take cacheDir.length = cacheDir then
    filePath.drop cacheDir.length
  else filePath

def fileSize (system : System) (info : DownloadFileInfo) : UInt64 :=
  if info.downloaded then (system.stat info.filePath).getD 0 else 0

def mappingEntry (system : System) (cacheDir : List UInt8) (info : DownloadFileInfo) :
    CacheMappingEntry :=
  let path := relPath cacheDir info.filePath
  ⟨⟨system.sha256 info.url, UInt32.ofNat path.length, fileSize system info, zeros⟩, path⟩

structure WriteState where
  file : List UInt8
  urlToFileSizeOffset : List (List UInt8 × Nat)
  currentOffset : Nat
  writtenCount : UInt32
deriving DecidableEq

/-- One round of the loop of `WriteMappingEntries`. -/
def writeMappingEntry (system : System) (cacheDir : List UInt8) (state : WriteState)
    (info : DownloadFileInfo) : WriteState :=
  let entry := mappingEntry system cacheDir info
  match CacheMappingSerializer.writeEntry entry cacheDir with
  | none => state
  | some bytes =>
    ⟨state.file ++ bytes,
      (info.url, state.currentOffset + entryHeaderPrefix) :: state.urlToFileSizeOffset,
      state.currentOffset + 52 + entry.filePath.length, state.writtenCount + 1⟩

def mappingHeader (entryCount : UInt32) : CacheMappingHeader :=
  ⟨cacheMappingMagic, cacheMappingVersion, entryCount, zeros, 0⟩

/-- `seekp` to the begin, and the header once more. -/
def rewriteHeader (system : System) (file : List UInt8) (entryCount : UInt32) : List UInt8 :=
  CacheMappingSerializer.writeHeader system.crc32 (mappingHeader entryCount) ++ file.drop 24

/-- The file is what the stream was given before its `close`. -/
def generateMappingFile (system : System) (taskInfo : AVDownloadTaskInfo) (state : MappingFile) :
    MappingFile :=
  if taskInfo.cacheDir = [] then state
  else if system.normalize taskInfo.cacheDir = none then state
  else if system.isOpen = false then { state with urlToFileSizeOffset := [] }
  else
    let header := CacheMappingSerializer.writeHeader system.crc32
      (mappingHeader (UInt32.ofNat taskInfo.fileList.length))
    let playbackParam :=
      (PlayStrategySerializer.serialize taskInfo.url taskInfo.strategy taskInfo.filter).2
    let parameters := CacheMappingSerializer.writePlaybackParamData playbackParam
      (UInt32.ofNat playbackParam.length)
    let written := taskInfo.fileList.foldl (writeMappingEntry system taskInfo.cacheDir)
      ⟨header ++ parameters, [], 24 + 4 + playbackParam.length, 0⟩
    let file :=
      if written.writtenCount.toNat ≠ taskInfo.fileList.length then
        rewriteHeader system written.file written.writtenCount
      else written.file
    ⟨file, written.urlToFileSizeOffset, state.mappingFileCreated || system.good⟩

/-- The `close` at the end of `GenerateMappingFile`, which nobody checks. -/
def closed (system : System) (state : MappingFile) : MappingFile :=
  if state.mappingFileCreated then { state with file := system.flush state.file } else state

def onFileCompleted (state : MappingFile) (completion : List UInt8 × Int64) : MappingFile :=
  if completion.2 < 0 then state
  else
    match state.urlToFileSizeOffset.lookup completion.1 with
    | none => state
    | some offset =>
      { state with
        file := CacheMappingSerializer.updateFileSize state.file offset completion.2.toUInt64 }

end DownloadTaskCallback

end PlayerFramework.DownloadedCache
