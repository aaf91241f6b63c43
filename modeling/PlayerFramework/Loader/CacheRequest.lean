import Mathlib.Logic.Function.Basic
import PlayerFramework.Pieces

/-!
`HandleCacheRequest` and `ProcessShard` of `CustomLoaderCallback`
(`custom_loader_callback.cpp`), over the shard files of `FileCacheManager`
(`file_cache_manager.cpp`).
-/

namespace PlayerFramework.Loader

def shardSize : Int := 4194304

/-- The conversion of a wider integer to `int`. -/
def toInt32 (value : Int) : Int := (value + 2147483648) % 4294967296 - 2147483648

def intMin : Int := -2147483648

/-- The shard files by their index; the other parts of their paths are those of the URL. -/
abbrev FileCache := Int → Option (List UInt8)

namespace FileCache

def getSize (files : FileCache) (index : Int) : Int :=
  match files index with
  | some bytes => bytes.length
  | none => -1

def clear (files : FileCache) (index : Int) : FileCache := Function.update files index none

/-- The file is made by the first bytes that are appended to it. -/
def write (files : FileCache) (index : Int) (bytes : List UInt8) : FileCache :=
  if bytes = [] then files
  else Function.update files index (some ((files index).getD [] ++ bytes))

/-- What a fresh buffer of `size` bytes holds after the read, if the file can be read. -/
def read (files : FileCache) (index offset size : Int) : Option (List UInt8) :=
  match files index with
  | none => none
  | some bytes =>
    if offset < 0 then none
    else
      let taken := (bytes.drop offset.toNat).take size.toNat
      some (taken ++ List.replicate (size.toNat - taken.length) 0)

def isValid (files : FileCache) (index exceptedSize : Int) : Bool × FileCache :=
  if files.getSize index ≠ exceptedSize then (false, files.clear index) else (true, files)

end FileCache

/-- What the network answers to a request for `length` bytes from `start`. -/
structure Fetched where
  body : List UInt8 := []
  ok : Bool := true
deriving DecidableEq

/-- The network, and what the client returns for data at an offset. -/
structure Environment where
  network : Int → Int → Fetched
  respondData : Int → Int

inductive LoaderReply where
  | respondData (offset : Int) (buffer : List UInt8)
  | finishLoading (error : Int)
deriving DecidableEq

structure CustomLoaderCallback where
  size : Int
  files : FileCache
  curOffset : Int
  requestedOffset : Int := 0
  requestedLength : Int := 0
  isClosed : Bool := false

namespace CustomLoaderCallback

/-- The bytes that arrive are appended to the shard. -/
def requestData (loader : CustomLoaderCallback) (env : Environment) (index start length : Int) :
    CustomLoaderCallback × List LoaderReply :=
  let fetched := env.network start length
  ({ loader with files := loader.files.write index fetched.body },
    if fetched.ok then [] else [.finishLoading 5])

/-- The size that the file of a shard is taken to have. -/
def shardLength (loader : CustomLoaderCallback) (index : Int) : Int :=
  toInt32 (if index = (loader.size - 1).tdiv shardSize then loader.size.tmod shardSize
    else shardSize)

def fileBeg (loader : CustomLoaderCallback) (index startIndex : Int) : Int :=
  if index = startIndex then toInt32 (loader.requestedOffset.tmod shardSize) else 0

def fileEnd (loader : CustomLoaderCallback) (index endIndex fileSize : Int) : Int :=
  let endOffset := toInt32 (loader.requestedOffset + loader.requestedLength - 1)
  let fileEnd := if index = endIndex then toInt32 (endOffset.tmod shardSize) else shardSize - 1
  if fileSize ≤ fileEnd then toInt32 fileSize else fileEnd

/-- The part of `ProcessShard` after the file is looked for: whether to go on, and the
replies. -/
def answerShard (loader : CustomLoaderCallback) (env : Environment)
    (index startIndex endIndex fileSize : Int) : Bool × List LoaderReply :=
  let fileBeg := loader.fileBeg index startIndex
  let fileEnd := loader.fileEnd index endIndex fileSize
  let fileReadLen := if fileBeg ≤ fileEnd then fileEnd - fileBeg + 1 else 0
  if fileReadLen ≤ 0 then (true, [])
  else
    match loader.files.read index fileBeg fileReadLen with
    | none => (false, [.finishLoading 1])
    | some buffer =>
      (decide (0 ≤ env.respondData (index * shardSize + fileBeg)),
        [.respondData (index * shardSize + fileBeg) buffer])

def processShard (loader : CustomLoaderCallback) (env : Environment)
    (index startIndex endIndex : Int) : Bool × CustomLoaderCallback × List LoaderReply :=
  let len := loader.shardLength index
  let checked := loader.files.isValid index len
  let fetched :=
    if checked.1 then ({ loader with files := checked.2 }, [])
    else ({ loader with files := checked.2 }).requestData env index (index * shardSize) len
  let loader := fetched.1
  if loader.curOffset ≠ loader.requestedOffset then (false, loader, fetched.2)
  else if loader.isClosed then (false, loader, fetched.2)
  else if loader.files.getSize index < 0 then (false, loader, fetched.2)
  else
    let answered := loader.answerShard env index startIndex endIndex (loader.files.getSize index)
    (answered.1, loader, fetched.2 ++ answered.2)

/-- `count` rounds of the loop of `HandleCacheRequest` from `index` on. -/
def serveShards (env : Environment) (startIndex endIndex : Int) :
    Nat → Int → CustomLoaderCallback → CustomLoaderCallback × List LoaderReply
  | 0, _, loader => (loader, [])
  | count + 1, index, loader =>
    match loader.processShard env index startIndex endIndex with
    | (false, loader, replies) => (loader, replies)
    | (true, loader, replies) =>
      let rest := serveShards env startIndex endIndex count (index + 1) loader
      (rest.1, replies ++ rest.2)

/-- Nothing where `end - 1` overflows, on which the build traps. -/
def handleCacheRequest (loader : CustomLoaderCallback) (env : Environment)
    (requestedOffset requestedLength : Int) : Option (CustomLoaderCallback × List LoaderReply) :=
  let startIndex := toInt32 (requestedOffset.tdiv shardSize)
  let requestLength := toInt32 (if requestedLength ≤ 0 then loader.size else requestedLength)
  let stop := toInt32 (requestedOffset + requestLength)
  if stop = intMin then none
  else
    let endIndex := toInt32 ((stop - 1).tdiv shardSize)
    let loader := { loader with requestedOffset, requestedLength := requestLength }
    let served := serveShards env startIndex endIndex (endIndex - startIndex + 1).toNat
      startIndex loader
    some (served.1, served.2 ++ if requestedLength = -1 then [.finishLoading 0] else [])

end CustomLoaderCallback

end PlayerFramework.Loader
