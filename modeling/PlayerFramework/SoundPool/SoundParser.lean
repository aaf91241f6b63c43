import Mathlib.Data.List.Infix
import PlayerFramework.Transition

/-!
How a sound is decoded and published (`sound_parser.cpp`): from the output buffers of the decoder,
one callback each, or from a raw file, sample after sample.
-/

namespace PlayerFramework.SoundPool

open Transition

def maxSoundBufferSize : Nat := 1 * 1024 * 1024

def maxCodecBufferSize : Nat := 5 * 1024 * 1024

/-- The bytes of a buffer of `new uint8_t[size]`; `none` for those never written. -/
abbrev PcmBytes := List (Option UInt8)

/-- What is reported to the listener, to the users of the sound and to the decoder. -/
inductive SoundEvent
  | soundDecodeCompleted (fullPcmBuffer : Option PcmBytes)
  | soundBufferTotalSize (size : Nat)
  | audioSharedMemory (bytes : PcmBytes)
  | loadCompleted
  | outputReleased (index : Nat)
deriving DecidableEq

/-- Which allocations and copies succeed: of one buffer, of the whole sound in
`ReCombineCacheData`, and of the shared memory. -/
structure Allocations where
  buffer : Bool := true
  copy : Bool := true
  full : Bool := true
  sharedMemory : Bool := true
  sharedCopy : Bool := true
deriving DecidableEq

/-- An output buffer of the decoder; a memory that it announces holds at least its size. -/
structure OutputBuffer where
  index : Nat
  size : Int
  endOfStream : Bool
  buffer : Option (List UInt8)
  allocations : Allocations := {}
  holds : ∀ memory ∈ buffer, size ≤ memory.length := by decide

/-- What one turn of the loop over a raw file meets: whether its memory can be had, and the
sample read with whether it ends the stream, `none` where `ReadSample` fails. -/
structure RawSample where
  memory : Bool := true
  sample : Option (List UInt8 × Bool)
  allocations : Allocations := {}
deriving DecidableEq

/-- A `SoundDecoderCallback` that has not been released, with the log of what it reported. -/
structure SoundDecoderCallback where
  isRawFile : Bool
  callback : Bool
  listener : Bool := true
  amutexLocked : Bool := false
  decodeShouldCompleted : Bool := false
  currentSoundBufferSize : Nat := 0
  availableAudioBuffers : List (List UInt8) := []
  fullPcmBuffer : Option PcmBytes := none
  events : List SoundEvent := []
deriving DecidableEq

namespace SoundDecoderCallback

def report (decoder : SoundDecoderCallback) (events : List SoundEvent) : SoundDecoderCallback :=
  { decoder with events := decoder.events ++ events }

/-- The loop of `ReCombineCacheData`; `none` where a buffer exceeds what remains. -/
def combine : List (List UInt8) → Nat → Option (List UInt8)
  | [], _ => some []
  | entry :: entries, remainBufferSize =>
    if remainBufferSize < entry.length then none
    else (combine entries (remainBufferSize - entry.length)).map (entry ++ ·)

def reCombineCacheData (decoder : SoundDecoderCallback) (allocated : Bool) : SoundDecoderCallback :=
  if allocated then
    match combine decoder.availableAudioBuffers decoder.currentSoundBufferSize with
    | none => decoder
    | some copied =>
      { decoder with
        fullPcmBuffer := some (copied.map some ++
          List.replicate (decoder.currentSoundBufferSize - copied.length) none)
        availableAudioBuffers := [] }
  else decoder

def setAudioSharedMemory (decoder : SoundDecoderCallback) (allocations : Allocations) :
    Bool × SoundDecoderCallback :=
  match decoder.fullPcmBuffer with
  | none => (false, decoder)
  | some fullPcmBuffer =>
    if 0 < decoder.currentSoundBufferSize ∧ allocations.sharedMemory ∧
        allocations.sharedCopy then
      (true, decoder.report [.audioSharedMemory fullPcmBuffer])
    else (false, decoder)

/-- What the listener gets, `OnSoundDecodeCompleted` and `SetSoundBufferTotalSize`. -/
def notifyListener (decoder : SoundDecoderCallback) : SoundDecoderCallback :=
  decoder.report [.soundDecodeCompleted decoder.fullPcmBuffer,
    .soundBufferTotalSize decoder.currentSoundBufferSize]

/-- The branch of `OnOutputBufferAvailable` at the end of the stream or over the cap: it releases
no output buffer, and where the shared memory cannot be set it leaves `amutex_` locked. -/
def completeDecoding (decoder : SoundDecoderCallback) (allocations : Allocations) :
    SoundDecoderCallback :=
  let combined :=
    { decoder with decodeShouldCompleted := true }.reCombineCacheData allocations.full
  let notified := if combined.listener then combined.notifyListener else combined
  match notified.setAudioSharedMemory allocations with
  | (false, failed) => { failed with amutexLocked := true }
  | (true, shared) => if shared.callback then shared.report [.loadCompleted] else shared

/-- A buffer of the sound; where it cannot be allocated or copied, its size still counts. -/
def storeBuffer (decoder : SoundDecoderCallback) (bytes : List UInt8) (allocations : Allocations) :
    SoundDecoderCallback :=
  { decoder with
    availableAudioBuffers :=
      if allocations.buffer ∧ allocations.copy then decoder.availableAudioBuffers ++ [bytes]
      else decoder.availableAudioBuffers
    currentSoundBufferSize := decoder.currentSoundBufferSize + bytes.length }

/-- One callback of the decoder; while `amutex_` is held it never gets to run. -/
def onOutputBufferAvailable (decoder : SoundDecoderCallback) (output : OutputBuffer) :
    SoundDecoderCallback :=
  if decoder.amutexLocked then decoder
  else if decoder.isRawFile then decoder.report [.outputReleased output.index]
  else
    match output.buffer with
    | none => decoder.report [.outputReleased output.index]
    | some memory =>
      if decoder.decodeShouldCompleted then decoder.report [.outputReleased output.index]
      else if maxSoundBufferSize < decoder.currentSoundBufferSize ∨ output.endOfStream then
        decoder.completeDecoding output.allocations
      else if output.size ≤ 0 ∨ maxCodecBufferSize < output.size then decoder
      else
        (decoder.storeBuffer (memory.take output.size.toNat) output.allocations).report
          [.outputReleased output.index]

/-- One turn of `DealBufferRawFile`; `false` where it returns an error. -/
def dealBufferRawFile (decoder : SoundDecoderCallback) (raw : RawSample) :
    Bool × SoundDecoderCallback :=
  if raw.memory then
    match raw.sample with
    | none => (false, decoder)
    | some (bytes, endOfStream) =>
      if ¬decoder.decodeShouldCompleted ∧
          (maxSoundBufferSize < decoder.currentSoundBufferSize ∨ endOfStream) then
        let combined := { decoder with decodeShouldCompleted := true }.reCombineCacheData
          raw.allocations.full
        if combined.listener then
          match combined.notifyListener.setAudioSharedMemory raw.allocations with
          | (false, failed) => (false, failed)
          | (true, shared) =>
            if shared.callback then (true, shared.report [.loadCompleted])
            else (false, shared)
        else (false, combined)
      -- `memcpy_s` refuses to copy into nothing
      else if raw.allocations.buffer ∧ raw.allocations.copy ∧ bytes ≠ [] then
        (true, decoder.storeBuffer bytes {})
      else (false, decoder)
  else (false, decoder)

/-- The loop of `SpliceFullPcmInRawFile`, as far as the samples go. -/
def spliceFullPcmInRawFile (decoder : SoundDecoderCallback) : List RawSample → SoundDecoderCallback
  | [] => decoder
  | raw :: rest =>
    if decoder.decodeShouldCompleted then decoder
    else
      match decoder.dealBufferRawFile raw with
      | (false, failed) => failed
      | (true, next) => next.spliceFullPcmInRawFile rest

/-- What a new decoder callback has done after these callbacks. -/
def afterOutputs (callback : Bool) (outputs : List OutputBuffer) : SoundDecoderCallback :=
  run onOutputBufferAvailable { isRawFile := false, callback } outputs

end SoundDecoderCallback

/-- The data of a sound as received, up to the cap or to the end of the stream. -/
structure ReceivedSound where
  bytes : List UInt8 := []
  ended : Bool := false
deriving DecidableEq

namespace ReceivedSound

def receive (sound : ReceivedSound) (endOfStream : Bool) (bytes : List UInt8) : ReceivedSound :=
  if sound.ended then sound
  else if maxSoundBufferSize < sound.bytes.length ∨ endOfStream then { sound with ended := true }
  else { sound with bytes := sound.bytes ++ bytes }

/-- The data of a valid output buffer: one with a memory and a size in range. -/
def validBytes (output : OutputBuffer) (memory : List UInt8) : List UInt8 :=
  if output.size ≤ 0 ∨ maxCodecBufferSize < output.size then []
  else memory.take output.size.toNat

def receiveOutput (sound : ReceivedSound) (output : OutputBuffer) : ReceivedSound :=
  match output.buffer with
  | none => sound
  | some memory => sound.receive output.endOfStream (validBytes output memory)

def receiveSample (sound : ReceivedSound) (raw : RawSample) : ReceivedSound :=
  match raw.sample with
  | none => sound
  | some (bytes, endOfStream) => sound.receive endOfStream bytes

def ofOutputs (outputs : List OutputBuffer) : ReceivedSound := run receiveOutput {} outputs

end ReceivedSound

end PlayerFramework.SoundPool
