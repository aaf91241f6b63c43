import Mathlib.Data.List.Infix
import Mathlib.Data.List.Sort
import PlayerFramework.Transition
import PlayerFramework.Paths
import PlayerFramework.Loader.CacheEntry

/-!
The manager of the loader's cache directory (`cache_manager.cpp`): a mapping file of entries, the
memory it is mapped to, and the indexes built from it.
-/

namespace PlayerFramework.StreamCache

open Transition Paths FileContent

/-- The functions from elsewhere: `std::hash` of a text, and for which sizes `memcpy_s` and
`memmove_s` succeed. -/
structure Platform where
  hash : Text → Nat
  copies : Nat → Bool
  moves : Nat → Nat → Bool

/-- What the system answers during one call: which calls succeed, the time, the sizes of the
directories, and the files below a directory from old to new, with their sizes and whether they
can be removed. -/
structure System where
  opens : Bool := true
  stats : Bool := true
  maps : Bool := true
  remaps : Bool := true
  truncates : Bool := true
  clockMs : Nat := 0
  directorySize : Text → Nat := fun _ => 0
  files : Text → List (Nat × Bool) := fun _ => []
  removesMappingFile : Bool := false

/-- The manager and the mapping files.  `linked` is the file in the directory; a file that is no
longer there lives on while it is open or mapped. -/
structure StreamCacheManager where
  inodes : List Text := []
  linked : Option Nat := none
  fd : Option Nat := none
  mapped : Option Nat := none
  fileSize : Nat := 0
  index : List (Text × CacheEntryInfo) := []
  entryIndex : List (Text × Text) := []
  cacheSize : Nat := 0
deriving DecidableEq

def maxCacheFileSize : Nat := 4 * 1024 * 1024 * 1024

def cacheFileSizeWaterline : Nat := 3 * 1024 * 1024 * 1024

def needRemoveCacheSize : Nat := 800 * 1024 * 1024

def maxCacheMappingFileSize : Nat := 10 * 1024 * 1024

def ofString (text : String) : Text := text.toList.map fun char => UInt8.ofNat char.toNat

def cacheDir : Text := ofString "/data/storage/el2/base/cache/avplayer_media_loader"

def cacheMappingFile : Text := ofString "cache_mapping.txt"

def underscore : UInt8 := 95

def backslash : UInt8 := 92

/-- `std::to_string`. -/
def decimal (value : Nat) : Text :=
  (Nat.toDigits 10 value).map fun digit => UInt8.ofNat digit.toNat

/-- The difference of two values of `size_t`. -/
def sizeMinus (first second : Nat) : Nat := (first + 2 ^ 64 - second) % 2 ^ 64

/-- Removing what the entry names removes the mapping file too. -/
def namesMappingFile (entry : Text) : Bool :=
  decide (resolve (cacheDir ++ slash :: entry) <+: resolve (cacheDir ++ slash :: cacheMappingFile))

def setEntry (entryIndex : List (Text × Text)) (entry lastAccessTime : Text) : List (Text × Text) :=
  (entry, lastAccessTime) :: entryIndex.filter fun pair => pair.1 ≠ entry

/-- The number of fields the entry at `offset` states. -/
def fieldCountAt (content : Text) (offset : Nat) : Nat := number content (offset + 4)

/-- The loop of `LoadIndex`: the indexes, and whether it met a damaged entry.  Every entry is
longer than its header, so that the steps suffice. -/
def loadEntries (content : Text) (fileSize : Nat) :
    Nat → Nat → List (Text × CacheEntryInfo) → List (Text × Text) →
      List (Text × CacheEntryInfo) × List (Text × Text) × Bool
  | 0, _, index, entryIndex => (index, entryIndex, false)
  | steps + 1, offset, index, entryIndex =>
    if ¬ offset < fileSize then (index, entryIndex, false)
    else if ¬ offset + headerSize < fileSize then (index, entryIndex, false)
    else
      let fieldCount := fieldCountAt content offset
      if fieldCount > maxFiledCount then (index, entryIndex, true)
      else if ¬ offset + headerSize + fieldCount * fieldSize < fileSize then
        (index, entryIndex, false)
      else
        let totalSize := headerSize + fieldCount * fieldSize +
          textsLength content (offset + headerSize) fieldCount
        let key := extractField content offset fieldCount .key
        let entry := extractField content offset fieldCount .entry
        let lastAccessTime := extractField content offset fieldCount .lastAccessTime
        loadEntries content fileSize steps (offset + totalSize)
          (index ++ [(key, ⟨offset, totalSize⟩)]) (setEntry entryIndex entry lastAccessTime)

namespace StreamCacheManager

/-- The bytes of the mapping file in the directory. -/
def content (m : StreamCacheManager) : Text := ((m.linked.bind (m.inodes[·]?)).getD [])

def contentOf (m : StreamCacheManager) (inode : Nat) : Text := (m.inodes[inode]?).getD []

def setContent (m : StreamCacheManager) (inode : Nat) (content : Text) : StreamCacheManager :=
  { m with inodes := m.inodes.set inode content }

def openMapping (m : StreamCacheManager) : StreamCacheManager × Nat :=
  match m.linked with
  | some inode => ({ m with fd := some inode }, inode)
  | none =>
    let inode := m.inodes.length
    ({ m with inodes := m.inodes ++ [[]], linked := some inode, fd := some inode }, inode)

/-- `LoadMapping` behind the scan of the directory. -/
def mapFile (system : System) (m : StreamCacheManager) : StreamCacheManager :=
  if ¬ system.opens then { m with fd := none }
  else
    let (opened, inode) := m.openMapping
    if ¬ system.stats then opened
    else
      let fileSize := (opened.contentOf inode).length
      if fileSize = 0 then { opened with fileSize := fileSize }
      else
        { opened with
          fileSize := fileSize
          mapped := if system.maps then some inode else none }

def loadMapping (system : System) (m : StreamCacheManager) : StreamCacheManager :=
  { m with cacheSize := system.directorySize [] }.mapFile system

/-- `fs::remove_all(CACHE_DIR)` with what follows it. -/
def startOver (system : System) (m : StreamCacheManager) : StreamCacheManager :=
  { m with linked := none, index := [], entryIndex := [] }.loadMapping system

def loadIndex (system : System) (m : StreamCacheManager) : StreamCacheManager :=
  match m.mapped with
  | none => m
  | some inode =>
    match loadEntries (m.contentOf inode) m.fileSize m.fileSize 0 m.index m.entryIndex with
    | (index, entryIndex, damaged) =>
      let loaded := { m with index := index, entryIndex := entryIndex }
      if damaged then loaded.startOver system else loaded

/-- The lines at the head of the public functions. -/
def ensureLoaded (system : System) (m : StreamCacheManager) : StreamCacheManager :=
  if m.mapped = none then (m.loadMapping system).loadIndex system else m

/-- `index_[key]`; there is no vector for a key without entries. -/
def entriesOf (m : StreamCacheManager) (key : Text) : List CacheEntryInfo :=
  m.index.filterMap fun pair => if pair.1 = key then some pair.2 else none

def findFirstEqualField (m : StreamCacheManager) (entries : List CacheEntryInfo) (value : Text)
    (field : CacheFieldId) : Option CacheEntryInfo :=
  match m.mapped with
  | none => none
  | some inode =>
    let content := m.contentOf inode
    entries.find? fun info => decide
      (extractField content info.offset (fieldCountAt content info.offset) field = value)

def mappedField (m : StreamCacheManager) (info : CacheEntryInfo) (field : CacheFieldId) : Text :=
  match m.mapped with
  | none => []
  | some inode =>
    let content := m.contentOf inode
    extractField content info.offset (fieldCountAt content info.offset) field

def keyOf (p : Platform) (url : Text) : Text := decimal (p.hash url)

def findUrl (p : Platform) (m : StreamCacheManager) (url : Text) : Option CacheEntryInfo :=
  m.findFirstEqualField (m.entriesOf (keyOf p url)) url .requestUrl

def activeFields (p : Platform) (m : StreamCacheManager) (url type : Text) (randomAccess : Bool)
    (size clockMs : Nat) : Entry :=
  let key := keyOf p url
  let lastAccessTime := decimal clockMs
  let entry := if m.entriesOf key = [] then key else key ++ underscore :: lastAccessTime
  [(.key, key), (.entry, entry), (.type, type),
    (.randomAccess, decimal (if randomAccess then 1 else 0)), (.size, decimal size),
    (.lastAccessTime, lastAccessTime), (.requestUrl, url)]

def truncate (system : System) (m : StreamCacheManager) (length : Nat) :
    Option StreamCacheManager :=
  match m.fd with
  | none => none
  | some inode =>
    if system.truncates then some (m.setContent inode (resize (m.contentOf inode) length))
    else none

/-- `InsertMapping` into the mapped memory at the end of what is stored. -/
def insertEntry (p : Platform) (m : StreamCacheManager) (fields : Entry) : StreamCacheManager :=
  match m.mapped with
  | none => m
  | some inode =>
    m.setContent inode (insertMapping p.copies fields m.fileSize (m.contentOf inode))

/-- `CreateMediaCache` from the extension of the file on. -/
def appendEntry (p : Platform) (system : System) (m : StreamCacheManager) (fields : Entry) :
    StreamCacheManager :=
  let totalSize := headerSize + filedCount * fieldSize + (texts fields).length
  match m.truncate system (m.fileSize + totalSize) with
  | none => m
  | some extended =>
    if ¬ system.remaps then extended
    else
      let written := { extended with mapped := extended.fd }.insertEntry p fields
      let indexed := { written with
        index := written.index ++ [(fields.get .key, CacheEntryInfo.mk m.fileSize totalSize)]
        entryIndex :=
          setEntry written.entryIndex (fields.get .entry) (fields.get .lastAccessTime) }
      let kept :=
        if indexed.fileSize ≥ maxCacheMappingFileSize then indexed.startOver system
        else indexed
      { kept with fileSize := kept.fileSize + totalSize }

def createMediaCache (p : Platform) (system : System) (unready : StreamCacheManager)
    (url type : Text) (randomAccess : Bool) (size : Nat) : StreamCacheManager :=
  let m := unready.ensureLoaded system
  if m.findUrl p url ≠ none then m
  else m.appendEntry p system (m.activeFields p url type randomAccess size system.clockMs)

def updateLastAccessTime (p : Platform) (system : System) (m : StreamCacheManager)
    (info : CacheEntryInfo) (entry : Text) : StreamCacheManager :=
  match m.mapped with
  | none => m
  | some inode =>
    let content := m.contentOf inode
    match findFieldOf content info.offset (fieldCountAt content info.offset) .lastAccessTime with
    | none => m
    | some (place, length) =>
      let newTime := decimal system.clockMs
      let timed := { m with entryIndex := setEntry m.entryIndex entry newTime }
      if length ≠ newTime.length then timed
      else if p.copies length then
        timed.setContent inode (overwrite content place newTime)
      else timed

/-- The check of the directory name in `GetMediaCache`. -/
def isPlain (entry : Text) : Bool :=
  decide (entry ≠ [] ∧ ¬ [dot, dot] <:+: entry ∧ slash ∉ entry ∧ backslash ∉ entry)

/-- `GetMediaCache`: the path, empty where there is none. -/
def getMediaCache (p : Platform) (system : System) (unready : StreamCacheManager) (url : Text) :
    Text × StreamCacheManager :=
  let m := unready.ensureLoaded system
  match m.findUrl p url with
  | none => ([], m)
  | some info =>
    let entry := m.mappedField info .entry
    if isPlain entry then
      (cacheDir ++ slash :: entry, m.updateLastAccessTime p system info entry)
    else ([], m)

/-- `fs::remove_all` of the directory of an entry. -/
def removeAll (m : StreamCacheManager) (entry : Text) : StreamCacheManager :=
  if namesMappingFile entry then { m with linked := none } else m

def removeMediaCache (p : Platform) (system : System) (m : StreamCacheManager) (url : Text) :
    StreamCacheManager :=
  match m.findUrl p url, m.mapped with
  | some info, some inode =>
    let removed := m.removeAll (m.mappedField info .entry)
    let content := m.contentOf inode
    let behind := info.offset + info.cacheEntrySize
    let count := sizeMinus m.fileSize behind
    if ¬ (0 < m.fileSize ∧ m.fileSize ≤ maxCacheMappingFileSize) then removed
    else if ¬ p.moves (sizeMinus m.fileSize info.offset) count then removed
    else
      let moved := removed.setContent inode
        (overwrite content info.offset (piece content behind count))
      let fileSize := sizeMinus m.fileSize info.cacheEntrySize
      let shortened := (moved.truncate system fileSize).getD moved
      { shortened with fileSize := fileSize, index := [], entryIndex := [] }.loadIndex system
  | _, _ => m

def flushCacheSize (m : StreamCacheManager) (size : Nat) : StreamCacheManager :=
  { m with cacheSize := if m.cacheSize < size then 0 else m.cacheSize - size }

def getPrefixBeforeUnderscore (text : Text) : Text := text.takeWhile fun byte => byte ≠ underscore

def removeFiles : List (Nat × Bool) → Nat → StreamCacheManager → StreamCacheManager
  | [], _, m => m
  | (size, removable) :: rest, removeSize, m =>
    if removeSize ≥ needRemoveCacheSize then m
    else if ¬ removable then removeFiles rest removeSize m
    else removeFiles rest (removeSize + size) (m.flushCacheSize (removeSize + size))

/-- `RemoveCacheDirectory`; the mapping file is among the files only below its own directory. -/
def removeCacheDirectory (system : System) (m : StreamCacheManager) (entry : Text) :
    StreamCacheManager :=
  let removed := removeFiles (system.files entry) 0 m
  if namesMappingFile entry ∧ system.removesMappingFile then { removed with linked := none }
  else removed

/-- The loop of `FlushWriteLength` over the entries, the oldest first. -/
def evict (p : Platform) (system : System) :
    List (Text × Text) → StreamCacheManager → StreamCacheManager
  | [], m => m
  | (entry, _) :: rest, m =>
    if ¬ m.cacheSize > cacheFileSizeWaterline then m
    else
      let size := system.directorySize entry
      let present := m.entriesOf (getPrefixBeforeUnderscore entry)
      if size < needRemoveCacheSize ∧ present ≠ [] then
        match m.findFirstEqualField present entry .entry with
        | none => evict p system rest m
        | some info =>
          evict p system rest
            ((m.removeMediaCache p system (m.mappedField info .requestUrl)).flushCacheSize size)
      else evict p system rest (m.removeCacheDirectory system entry)

/-- The entries by their last access, from the order of the hash map. -/
def sortedEntries (m : StreamCacheManager) (order : List Text) : List (Text × Text) :=
  (order.filterMap fun entry => (m.entryIndex.lookup entry).map fun time => (entry, time))
    |>.insertionSort fun first second => ¬ second.2 < first.2

def flushWriteLength (p : Platform) (system : System) (unready : StreamCacheManager)
    (fileSize : Nat) (order : List Text) : StreamCacheManager :=
  let loaded := unready.ensureLoaded system
  let m := { loaded with cacheSize := (loaded.cacheSize + fileSize) % 2 ^ 64 }
  if ¬ m.cacheSize > maxCacheFileSize then m
  else if m.mapped = none then m
  else evict p system (m.sortedEntries order) m

def releaseMap (m : StreamCacheManager) : StreamCacheManager := { m with mapped := none }

def restart (system : System) (m : StreamCacheManager) : StreamCacheManager :=
  let fresh : StreamCacheManager := { inodes := m.inodes, linked := m.linked }
  (fresh.loadMapping system).loadIndex system

end StreamCacheManager

inductive Call
  | createMediaCache (system : System) (url type : Text) (randomAccess : Bool) (size : Nat)
  | getMediaCache (system : System) (url : Text)
  | flushWriteLength (system : System) (fileSize : Nat) (order : List Text)
  | removeMediaCache (system : System) (url : Text)
  | releaseMap
  | restart (system : System)

def step (p : Platform) (m : StreamCacheManager) : Call → StreamCacheManager
  | .createMediaCache system url type randomAccess size =>
    m.createMediaCache p system url type randomAccess size
  | .getMediaCache system url => (m.getMediaCache p system url).2
  | .flushWriteLength system fileSize order => m.flushWriteLength p system fileSize order
  | .removeMediaCache system url => m.removeMediaCache p system url
  | .releaseMap => m.releaseMap
  | .restart system => m.restart system

/-- The manager after the calls, from an empty cache directory. -/
def reached (p : Platform) (calls : List Call) : StreamCacheManager := run (step p) {} calls

end PlayerFramework.StreamCache
