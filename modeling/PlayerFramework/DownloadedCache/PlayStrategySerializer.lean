import PlayerFramework.Cursor

/-!
The serializer of the play strategy (`play_strategy_serializer.cpp`).  Strings are byte
strings, doubles their eight bytes as an integer, and integers are stored as a little-endian
machine stores them.
-/

namespace PlayerFramework.DownloadedCache

open Cursor

def maxMimeCount : Nat := 64

structure PlayStrategy where
  width : UInt32 := 0
  height : UInt32 := 0
  duration : UInt32 := 0
  preferHDR : Bool := false
  audioLanguage : List UInt8 := []
  subtitleLanguage : List UInt8 := []
  bufferDurationForPlaying : UInt64 := 0
  thresholdForAutoQuickPlay : UInt64 := 0
deriving DecidableEq

structure TrackSelectionFilter where
  maxVideoBitrate : Int32 := 0
  minVideoBitrate : Int32 := 0
  maxVideoFrameRate : Int32 := 0
  minVideoFrameRate : Int32 := 0
  maxVideoResolution : Int32 × Int32 := (0, 0)
  minVideoResolution : Int32 × Int32 := (0, 0)
  preferredVideoMimeTypes : List (List UInt8) := []
  maxAudioBitrate : Int32 := 0
  minAudioBitrate : Int32 := 0
  maxAudioChannels : Int32 := 0
  preferredAudioMimeTypes : List (List UInt8) := []
  preferredAudioLanguages : List (List UInt8) := []
  preferredSubtitleLanguages : List (List UInt8) := []
deriving DecidableEq

def uint32Bytes (value : UInt32) : List UInt8 := littleEndian 4 value.toNat

def uint32OfBytes (bytes : List UInt8) : UInt32 := UInt32.ofNat (ofLittleEndian bytes)

def uint64Bytes (value : UInt64) : List UInt8 := littleEndian 8 value.toNat

def uint64OfBytes (bytes : List UInt8) : UInt64 := UInt64.ofNat (ofLittleEndian bytes)

namespace PlayStrategySerializer

def writeUint32 (buffer : List UInt8) (value : UInt32) : List UInt8 := buffer ++ uint32Bytes value

def writeInt32 (buffer : List UInt8) (value : Int32) : List UInt8 :=
  buffer ++ uint32Bytes value.toUInt32

def writeDouble (buffer : List UInt8) (value : UInt64) : List UInt8 := buffer ++ uint64Bytes value

def writeBool (buffer : List UInt8) (value : Bool) : List UInt8 :=
  buffer ++ [if value then 1 else 0]

/-- The length is cut to 32 bits, and only so many bytes are written. -/
def writeString (buffer : List UInt8) (str : List UInt8) : List UInt8 :=
  let len := UInt32.ofNat str.length
  let buffer := writeUint32 buffer len
  if 0 < len then buffer ++ str.take len.toNat else buffer

def readUint32 : Reader UInt32 := clamped 4 uint32OfBytes 0

def readInt32 : Reader Int32 := clamped 4 (fun bytes => .ofUInt32 (uint32OfBytes bytes)) 0

def readDouble : Reader UInt64 := clamped 8 uint64OfBytes 0

def readBool : Reader Bool := clamped 1 (fun bytes => bytes != [0]) false

def readString : Reader (List UInt8) := fun input => do
  let len ← readUint32 input
  if len = 0 then return []
  clamped len.toNat id [] input

def serializePlayStrategy (strategy : PlayStrategy) (output : List UInt8) : List UInt8 :=
  let output := writeUint32 output strategy.width
  let output := writeUint32 output strategy.height
  let output := writeUint32 output strategy.duration
  let output := writeBool output strategy.preferHDR
  let output := writeString output strategy.audioLanguage
  let output := writeString output strategy.subtitleLanguage
  let output := writeDouble output strategy.bufferDurationForPlaying
  writeDouble output strategy.thresholdForAutoQuickPlay

/-- A list that is too long leaves the output as it is. -/
def writeStringList (output : List UInt8) (list : List (List UInt8)) : Bool × List UInt8 :=
  if maxMimeCount < list.length then (false, output)
  else (true, list.foldl writeString (writeUint32 output (UInt32.ofNat list.length)))

def serializeTrackSelectionFilter (filter : TrackSelectionFilter) (output : List UInt8) :
    Bool × List UInt8 :=
  let output := writeInt32 output filter.maxVideoBitrate
  let output := writeInt32 output filter.minVideoBitrate
  let output := writeInt32 output filter.maxVideoFrameRate
  let output := writeInt32 output filter.minVideoFrameRate
  let output := writeInt32 output filter.maxVideoResolution.1
  let output := writeInt32 output filter.maxVideoResolution.2
  let output := writeInt32 output filter.minVideoResolution.1
  let output := writeInt32 output filter.minVideoResolution.2
  match writeStringList output filter.preferredVideoMimeTypes with
  | (false, output) => (false, output)
  | (true, output) =>
    let output := writeInt32 output filter.maxAudioBitrate
    let output := writeInt32 output filter.minAudioBitrate
    let output := writeInt32 output filter.maxAudioChannels
    match writeStringList output filter.preferredAudioMimeTypes with
    | (false, output) => (false, output)
    | (true, output) =>
      match writeStringList output filter.preferredAudioLanguages with
      | (false, output) => (false, output)
      | (true, output) => writeStringList output filter.preferredSubtitleLanguages

/-- `Serialize` with the output that it leaves, also where it fails. -/
def serialize (rootUrl : List UInt8) (strategy : PlayStrategy) (filter : TrackSelectionFilter) :
    Bool × List UInt8 :=
  let output := writeString [] rootUrl
  let output := serializePlayStrategy strategy output
  serializeTrackSelectionFilter filter output

/-- The check that the position is not behind the input. -/
def checkOffset : Reader Unit := fun input offset =>
  if offset ≤ input.length then some ((), offset) else none

def deserializePlayStrategy : Reader PlayStrategy := fun input => do
  let width ← readUint32 input
  let height ← readUint32 input
  let duration ← readUint32 input
  let preferHDR ← readBool input
  let audioLanguage ← readString input
  let subtitleLanguage ← readString input
  let bufferDurationForPlaying ← readDouble input
  let thresholdForAutoQuickPlay ← readDouble input
  checkOffset input
  return ⟨width, height, duration, preferHDR, audioLanguage, subtitleLanguage,
    bufferDurationForPlaying, thresholdForAutoQuickPlay⟩

def readStrings : Nat → Reader (List (List UInt8))
  | 0 => fun _ => return []
  | count + 1 => fun input => do
      let item ← readString input
      let rest ← readStrings count input
      return item :: rest

def readStringList : Reader (List (List UInt8)) := fun input => do
  let count ← readUint32 input
  if maxMimeCount < count.toNat then failure
  readStrings count.toNat input

def deserializeTrackSelectionFilter : Reader TrackSelectionFilter := fun input => do
  let maxVideoBitrate ← readInt32 input
  let minVideoBitrate ← readInt32 input
  let maxVideoFrameRate ← readInt32 input
  let minVideoFrameRate ← readInt32 input
  let maxVideoWidth ← readInt32 input
  let maxVideoHeight ← readInt32 input
  let minVideoWidth ← readInt32 input
  let minVideoHeight ← readInt32 input
  checkOffset input
  let preferredVideoMimeTypes ← readStringList input
  let maxAudioBitrate ← readInt32 input
  let minAudioBitrate ← readInt32 input
  let maxAudioChannels ← readInt32 input
  checkOffset input
  let preferredAudioMimeTypes ← readStringList input
  let preferredAudioLanguages ← readStringList input
  let preferredSubtitleLanguages ← readStringList input
  checkOffset input
  return ⟨maxVideoBitrate, minVideoBitrate, maxVideoFrameRate, minVideoFrameRate,
    (maxVideoWidth, maxVideoHeight), (minVideoWidth, minVideoHeight), preferredVideoMimeTypes,
    maxAudioBitrate, minAudioBitrate, maxAudioChannels, preferredAudioMimeTypes,
    preferredAudioLanguages, preferredSubtitleLanguages⟩

def readAll : Reader (List UInt8 × PlayStrategy × TrackSelectionFilter) := fun input => do
  let rootUrl ← readString input
  checkOffset input
  let strategy ← deserializePlayStrategy input
  let filter ← deserializeTrackSelectionFilter input
  return (rootUrl, strategy, filter)

/-- `Deserialize`, with its three results where it returns true. -/
def deserialize (input : List UInt8) : Option (List UInt8 × PlayStrategy × TrackSelectionFilter) :=
  if input = [] then none else (readAll input 0).map Prod.fst

end PlayStrategySerializer

end PlayerFramework.DownloadedCache
