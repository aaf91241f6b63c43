import PlayerFramework.ScreenCapture.AudioCaptures

/-!
`AudioDataSourceGeneric` between the capturers, which queue frames on threads of their
own, and the recorder, which reads from it.  `mutex_` is held from the start of
`ReadAudioBuffer` to its end, the queue of a capturer only for each call on it.
-/

namespace PlayerFramework.ScreenCapture

open Transition

def audioIntervalInNs : Int := 20000000
def frameLossThreshold : Int := 2
def silentFrameChunk : Int := 5
def secToNs : Nat := 1000000000
def maxAudioBufferSize : Nat := 128
def innerAudioReadToHearTime : Int := 240000000
def maxBufLength : Nat := 2147483647

/-- `seq` is a history variable: the number of the frame among those of its source. -/
structure CacheBuffer where
  seq : Nat
  length : Nat
  timestamp : Int
  intervalNs : Nat
  sourcetype : AudioCaptureSourceType
  hasData : Bool
deriving DecidableEq

/-- What the audio framework hands to `OnReadData`: whether there is a `buffer`, whether the time
is known and the bytes are copied. -/
structure BufferDesc where
  bufLength : Nat
  frameCount : Nat
  audioSampleRate : Nat
  time : Int
  isMute : Bool := false
  buffer : Bool := true
  timeRet : Bool := true
  copied : Bool := true
deriving DecidableEq

/-- `OnReadData` gets the time of a buffer, and `CreateCacheBuffer` makes a frame of it. -/
def BufferDesc.usable (desc : BufferDesc) : Bool :=
  desc.buffer && desc.timeRet && decide (desc.bufLength ≤ maxBufLength) &&
    (desc.isMute || desc.copied)

inductive DiscardReason where
  | overflow
  | dropBufferUntil
  | passthrough
  | stop
deriving DecidableEq

/-- The queue of an `AudioCapturerWrapper`; `captured` and `discarded` are its history. -/
structure AudioCapturerQueue where
  isRecording : Bool := false
  availBuffers : List CacheBuffer := []
  captured : Nat := 0
  discarded : List (Nat × DiscardReason) := []
deriving DecidableEq

namespace AudioCapturerQueue

def start (queue : AudioCapturerQueue) : AudioCapturerQueue :=
  { queue with isRecording := true }

def stop (queue : AudioCapturerQueue) : AudioCapturerQueue :=
  { queue with
    isRecording := false
    availBuffers := []
    discarded := queue.discarded ++ queue.availBuffers.map fun buffer => (buffer.seq, .stop) }

def createCacheBuffer (source : AudioCaptureSourceType) (seq : Nat) (desc : BufferDesc) :
    CacheBuffer where
  seq
  length := desc.bufLength
  timestamp :=
    if source ≠ .sourceDefault ∧ source ≠ .mic then desc.time + innerAudioReadToHearTime
    else desc.time
  intervalNs :=
    if 0 < desc.audioSampleRate ∧ 0 < desc.frameCount then
      desc.frameCount * secToNs / desc.audioSampleRate
    else 0
  sourcetype := source
  hasData := !desc.isMute

/-- The oldest frame makes room when the queue is longer than its limit. -/
def dropOldest (queue : AudioCapturerQueue) : AudioCapturerQueue :=
  if queue.availBuffers.length > maxAudioBufferSize then
    { queue with
      availBuffers := queue.availBuffers.tail
      discarded :=
        queue.discarded ++ queue.availBuffers.head?.toList.map fun buffer =>
          (buffer.seq, .overflow) }
  else queue

def onReadData (source : AudioCaptureSourceType) (desc : BufferDesc) (queue : AudioCapturerQueue) :
    AudioCapturerQueue :=
  if desc.bufLength = 0 then queue
  else if !queue.isRecording then
    { queue with
      captured := queue.captured + 1
      discarded := queue.discarded ++ [(queue.captured, .stop)] }
  else if !desc.usable then { queue with captured := queue.captured + 1 }
  else
    let room := queue.dropOldest
    { room with
      captured := queue.captured + 1
      availBuffers := room.availBuffers ++ [createCacheBuffer source queue.captured desc] }

def isBefore (audioTime : Int) (buffer : CacheBuffer) : Bool :=
  buffer.timestamp < audioTime

def dropBufferUntil (audioTime : Int) (queue : AudioCapturerQueue) : AudioCapturerQueue :=
  if !queue.isRecording then queue
  else
    { queue with
      availBuffers := queue.availBuffers.dropWhile (isBefore audioTime)
      discarded := queue.discarded ++ (queue.availBuffers.takeWhile (isBefore audioTime)).map
          fun buffer => (buffer.seq, .dropBufferUntil) }

def acquireAudioBuffer (queue : AudioCapturerQueue) : Option CacheBuffer :=
  if queue.isRecording then queue.availBuffers.head? else none

def released (queue : AudioCapturerQueue) : Option CacheBuffer :=
  if queue.isRecording then queue.availBuffers.head? else none

def releaseAudioBuffer (queue : AudioCapturerQueue) : AudioCapturerQueue :=
  if queue.isRecording then { queue with availBuffers := queue.availBuffers.tail } else queue

/-- The passthrough policy gives up the frame `own` of a slot; what the release pops is the front
of the queue. -/
def giveUp (own : Option CacheBuffer) (queue : AudioCapturerQueue) : AudioCapturerQueue :=
  { queue.releaseAudioBuffer with
    discarded :=
      queue.discarded ++
        (queue.released.toList.filter fun front => own.map (·.seq) = some front.seq).map
          fun front => (front.seq, .passthrough) }

end AudioCapturerQueue

inductive CaptureSlotState where
  | inactive
  | unstable
  | stable
deriving DecidableEq

structure CaptureSlot where
  capture : Bool := false
  state : CaptureSlotState := .inactive
  currentBuf : Option CacheBuffer := none
  lastTs : Int := 0
deriving DecidableEq

/-- `captures` are the sources of the slots in the order in which they were set: each
source has one slot, and the server makes one capturer for it. -/
structure AudioDataSourceGeneric where
  policy : AudioCombinePolicy
  recorderFileWithVideo : Bool
  active : Bool := true
  cacheBuffer : Option CacheBuffer := none
  captures : List AudioCaptureSourceType := []
  slots : AudioCaptureSourceType → CaptureSlot := fun _ => {}
  silentFrameSize : Int := 0
  remainingSilentFrames : Int := 0
  firstVideoFramePts : Int := -1
  writedFrameTime : Int := 0
  pauseDuration : Int := 0
  avSynced : Bool := false
  pauseDurationPending : Bool := false

namespace AudioDataSourceGeneric

def setSlot (source : AudioDataSourceGeneric) (type : AudioCaptureSourceType)
    (slot : CaptureSlot) : AudioDataSourceGeneric :=
  { source with slots := Function.update source.slots type slot }

def setVideoFirstFramePts (firstFramePts : Int) (source : AudioDataSourceGeneric) :
    AudioDataSourceGeneric :=
  if source.firstVideoFramePts < 0 then { source with firstVideoFramePts := firstFramePts }
  else
    { source with
      pauseDuration := firstFramePts - source.firstVideoFramePts - source.writedFrameTime
      remainingSilentFrames := 0
      pauseDurationPending := false }

def pause (source : AudioDataSourceGeneric) : AudioDataSourceGeneric :=
  { source with pauseDurationPending := true }

def resume (source : AudioDataSourceGeneric) : AudioDataSourceGeneric :=
  { source with pauseDurationPending := true }

def stop (source : AudioDataSourceGeneric) : AudioDataSourceGeneric :=
  { source with active := false }

def setCapture (type : AudioCaptureSourceType) (capture : Bool) (source : AudioDataSourceGeneric) :
    AudioDataSourceGeneric :=
  { source.setSlot type { source.slots type with capture } with
    captures := if type ∈ source.captures then source.captures else source.captures ++ [type] }

def setOutputFormat (sampleRate channels : Int) (source : AudioDataSourceGeneric) :
    AudioDataSourceGeneric :=
  if 0 < sampleRate ∧ 0 < channels then
    { source with
      silentFrameSize := sampleRate * channels * 2 * audioIntervalInNs / secToNs }
  else source

/-- The slots that hold a frame, with it, in their order. -/
def acquired (source : AudioDataSourceGeneric) : List (AudioCaptureSourceType × CacheBuffer) :=
  source.captures.filterMap fun type => (source.slots type).currentBuf.map (type, ·)

/-- The first of the earliest frames. -/
def earliest : List (AudioCaptureSourceType × CacheBuffer) →
    Option (AudioCaptureSourceType × CacheBuffer)
  | [] => none
  | held :: rest =>
    match earliest rest with
    | none => some held
    | some other => some (if other.2.timestamp < held.2.timestamp then other else held)

/-- The slot of a capturer that records drops its frame and takes up the front of the queue. -/
def acquire (type : AudioCaptureSourceType) (front : Option CacheBuffer)
    (source : AudioDataSourceGeneric) : AudioDataSourceGeneric :=
  let slot := { source.slots type with currentBuf := none }
  match front with
  | none => source.setSlot type slot
  | some buf =>
    let frameLoss := slot.state = .stable ∧ slot.lastTs ≠ 0 ∧
      buf.timestamp - slot.lastTs > frameLossThreshold * buf.intervalNs
    source.setSlot type
      { slot with
        state := if frameLoss ∨ slot.state = .inactive then .unstable else slot.state
        lastTs := buf.timestamp
        currentBuf := some buf }

/-- A slot that has no capturer or none that records. -/
def deactivate (type : AudioCaptureSourceType) (source : AudioDataSourceGeneric) :
    AudioDataSourceGeneric :=
  source.setSlot type { source.slots type with currentBuf := none, state := .inactive, lastTs := 0 }

def clearCurrent (type : AudioCaptureSourceType) (source : AudioDataSourceGeneric) :
    AudioDataSourceGeneric :=
  source.setSlot type { source.slots type with currentBuf := none }

def setStable (type : AudioCaptureSourceType) (source : AudioDataSourceGeneric) :
    AudioDataSourceGeneric :=
  source.setSlot type { source.slots type with state := .stable }

/-- With the policy `MIX_ALL`, an active slot has no frame yet. -/
def mustWait (source : AudioDataSourceGeneric) : Bool :=
  source.policy == .mixAll && source.acquired.length <
      (source.captures.filter fun type => (source.slots type).state ≠ .inactive).length

/-- A slot that is ahead of the reference is held for a later round. -/
def heldAhead (reference : CacheBuffer) (type refType : AudioCaptureSourceType)
    (slot : CaptureSlot) : Bool :=
  type ≠ refType && slot.state ≠ .stable &&
    slot.currentBuf.any fun buf => buf.timestamp - reference.timestamp ≥ reference.intervalNs

def holdAhead (refType : AudioCaptureSourceType) (reference : CacheBuffer)
    (source : AudioDataSourceGeneric) : AudioDataSourceGeneric :=
  { source with
    slots := fun type =>
      if heldAhead reference type refType (source.slots type) then
        { source.slots type with currentBuf := none }
      else source.slots type }

/-- The frame that `Combine` makes of the slots that hold one: the frame itself where there
is one, else their mix, as long as the first of them. -/
def combined (srcs : List (AudioCaptureSourceType × CacheBuffer)) : Option CacheBuffer :=
  match srcs with
  | [] => none
  | [(_, single)] => some single
  | (_, front) :: _ =>
    (earliest srcs).map fun first =>
      { front with timestamp := first.2.timestamp, hasData := true }

/-- `LostFrameNum`, with the remaining silent frames it records. -/
def lostFrameNum (timestamp : Int) (source : AudioDataSourceGeneric) :
    Int × AudioDataSourceGeneric :=
  if source.remainingSilentFrames > 0 then
    (min source.remainingSilentFrames silentFrameChunk, source)
  else if source.firstVideoFramePts < 0 ∨ timestamp < 0 ∨ source.pauseDuration < 0 ∨
      source.writedFrameTime < 0 then (0, source)
  else
    let lostNum := (timestamp - source.pauseDuration - source.writedFrameTime -
      source.firstVideoFramePts).tdiv audioIntervalInNs
    if lostNum ≥ frameLossThreshold ∧ source.silentFrameSize > 0 then
      (min lostNum silentFrameChunk, { source with remainingSilentFrames := lostNum })
    else (0, source)

def getSize (source : AudioDataSourceGeneric) : Option Int × AudioDataSourceGeneric :=
  match source.cacheBuffer with
  | none => (none, source)
  | some buffer =>
    if buffer.length ≤ 0 ∨ source.pauseDurationPending then (none, source)
    else
      let lost := source.lostFrameNum buffer.timestamp
      if lost.1 > 0 then (some (lost.1 * lost.2.silentFrameSize), lost.2)
      else (some buffer.length, lost.2)

end AudioDataSourceGeneric

/-- Where `ReadAudioBuffer` stands; the list are the slots its loop has not reached. -/
inductive ReadStage where
  | check (todo : List AudioCaptureSourceType)
  | acquire (type : AudioCaptureSourceType) (todo : List AudioCaptureSourceType)
  | drop (todo : List AudioCaptureSourceType)
  | giveUp (todo : List AudioCaptureSourceType)
  | release (todo : List AudioCaptureSourceType)
deriving DecidableEq

abbrev Frame := AudioCaptureSourceType × Nat

/-- What `ReadAt` writes: `length` bytes of a frame, made of captured ones, silence in place of
a muted one, or `lostNum` silent frames. -/
inductive Emission where
  | frame (buffer : CacheBuffer) (length : Nat) (origin : List Frame)
  | muted (buffer : CacheBuffer) (bytes : Int) (origin : List Frame)
  | silence (lostNum : Int) (bytes : Int)
deriving DecidableEq

/-- The buffer of the recorder: whether it has a memory, and whether that has an address. -/
structure AVBuffer where
  memory : Bool := true
  addr : Bool := true
deriving DecidableEq

/-- The data source with its capturers.  `origin` are the captured frames that
`cacheBuffer_` is made of, and `outputFormat` the sampling rate and the channels that were
set last; both and `emitted` are history variables. -/
structure AudioPipe where
  source : AudioDataSourceGeneric
  capturers : AudioCaptureSourceType → AudioCapturerQueue := fun _ => {}
  reading : Option ReadStage := none
  origin : List Frame := []
  emitted : List Emission := []
  outputFormat : Option (Int × Int) := none

/-- The calls on the data source that take `mutex_`. -/
inductive SourceCall where
  | setCapture (type : AudioCaptureSourceType) (capture : Bool)
  | setOutputFormat (sampleRate channels : Int)
  | setVideoFirstFramePts (firstFramePts : Int)
  | pause
  | resume
  | bufferAvailable
  | readAt (buffer : AVBuffer) (length : Nat)
  | getSize
deriving DecidableEq

inductive PipeEvent where
  | startCapturer (type : AudioCaptureSourceType)
  | stopCapturer (type : AudioCaptureSourceType)
  | readData (type : AudioCaptureSourceType) (desc : BufferDesc)
  | stop
  | call (call : SourceCall)
  | proceed
deriving DecidableEq

namespace AudioPipe

def setCapturer (pipe : AudioPipe) (type : AudioCaptureSourceType) (queue : AudioCapturerQueue) :
    AudioPipe :=
  { pipe with capturers := Function.update pipe.capturers type queue }

/-- `ReadAudioBuffer` up to its first loop. -/
def readAudioBuffer (pipe : AudioPipe) : AudioPipe :=
  if !pipe.source.active then { pipe with reading := none }
  else if pipe.source.recorderFileWithVideo ∧ pipe.source.firstVideoFramePts = -1 then
    { pipe with reading := none }
  else { pipe with reading := some (.check pipe.source.captures) }

def combine (pipe : AudioPipe) : AudioPipe :=
  match AudioDataSourceGeneric.combined pipe.source.acquired with
  | none => { pipe with reading := none }
  | some buffer =>
    { pipe with
      source := { pipe.source with cacheBuffer := some buffer }
      origin := pipe.source.acquired.map fun held => (held.1, held.2.seq)
      reading := some (.release (pipe.source.acquired.map (·.1))) }

def alignOrCombine (pipe : AudioPipe) : AudioPipe :=
  match AudioDataSourceGeneric.earliest pipe.source.acquired with
  | none => { pipe with reading := none }
  | some (refType, reference) =>
    match pipe.source.policy with
    | .passthrough =>
      { pipe with
        reading := some (.giveUp ((pipe.source.acquired.map (·.1)).filter (· ≠ refType))) }
    | .mixAll => combine { pipe with source := pipe.source.holdAhead refType reference }

/-- `VideoAudioSyncIfNeed`: the frames before the first video frame are dropped. -/
def videoAudioSync (pipe : AudioPipe) : AudioPipe :=
  match AudioDataSourceGeneric.earliest pipe.source.acquired with
  | none => { pipe with reading := none }
  | some (_, first) =>
    let synced := { pipe with source := { pipe.source with avSynced := true } }
    if pipe.source.firstVideoFramePts - first.timestamp ≥ first.intervalNs then
      { synced with
        reading := some (.drop ((pipe.source.acquired.map (·.1)).filter
          fun type => (pipe.source.slots type).capture)) }
    else alignOrCombine synced

/-- `ReadAudioBuffer` after `AcquireReady`. -/
def acquireReady (pipe : AudioPipe) : AudioPipe :=
  if pipe.source.acquired = [] then { pipe with reading := none }
  else if pipe.source.recorderFileWithVideo ∧ pipe.source.avSynced = false then
    videoAudioSync pipe
  else if pipe.source.mustWait then { pipe with reading := none }
  else alignOrCombine pipe

/-- One step of `ReadAudioBuffer`: a test or a call on one capturer. -/
def proceed (pipe : AudioPipe) : AudioPipe :=
  match pipe.reading with
  | none => pipe
  | some (.check []) => acquireReady pipe
  | some (.check (type :: todo)) =>
    if (pipe.source.slots type).capture && (pipe.capturers type).isRecording then
      { pipe with reading := some (.acquire type todo) }
    else
      { pipe with source := pipe.source.deactivate type, reading := some (.check todo) }
  | some (.acquire type todo) =>
    { pipe with
      source := pipe.source.acquire type (pipe.capturers type).acquireAudioBuffer
      reading := some (.check todo) }
  | some (.drop []) => { pipe with reading := none }
  | some (.drop (type :: todo)) =>
    { pipe.setCapturer type
        ((pipe.capturers type).dropBufferUntil pipe.source.firstVideoFramePts) with
      reading := some (.drop todo) }
  | some (.giveUp []) => combine pipe
  | some (.giveUp (type :: todo)) =>
    let queue := pipe.capturers type
    { pipe.setCapturer type
        (if (pipe.source.slots type).capture then
          queue.giveUp (pipe.source.slots type).currentBuf else queue) with
      source := pipe.source.clearCurrent type
      reading := some (.giveUp todo) }
  | some (.release []) => { pipe with reading := none }
  | some (.release (type :: todo)) =>
    let queue := pipe.capturers type
    { pipe.setCapturer type
        (if (pipe.source.slots type).capture then queue.releaseAudioBuffer else queue) with
      source := (pipe.source.setStable type).clearCurrent type
      reading := some (.release todo) }

/-- `FillSilence`: the number of bytes that it sets. -/
def fillSilence (buffer : AVBuffer) (size : Int) : Int :=
  if buffer.addr ∧ 0 < size then size else 0

/-- What `ReadAt` writes of the cached frame; `WriteTo` has no bytes of a muted one. -/
def writeTo (buffer : AVBuffer) (length : Nat) (cached : CacheBuffer) (origin : List Frame) :
    Emission :=
  if cached.hasData then .frame cached length origin
  else .muted cached (fillSilence buffer length) origin

/-- `ReadAt`; the memory of the buffer takes any frame. -/
def readAt (buffer : AVBuffer) (length : Nat) (pipe : AudioPipe) : AudioPipe :=
  match pipe.source.cacheBuffer with
  | none => pipe
  | some cached =>
    if pipe.source.pauseDurationPending ∨ !buffer.memory then pipe
    else
      let lost := pipe.source.lostFrameNum cached.timestamp
      if lost.1 > 0 then
        { pipe with
          source :=
            { lost.2 with
              writedFrameTime := lost.2.writedFrameTime + lost.1 * audioIntervalInNs
              remainingSilentFrames := lost.2.remainingSilentFrames - lost.1 }
          emitted := pipe.emitted ++
            [.silence lost.1 (fillSilence buffer (lost.1 * lost.2.silentFrameSize))] }
      else
        readAudioBuffer
          { pipe with
            source :=
              { lost.2 with
                cacheBuffer := none
                writedFrameTime := lost.2.writedFrameTime + cached.intervalNs }
            origin := []
            emitted := pipe.emitted ++ [writeTo buffer length cached pipe.origin] }

/-- `OnBufferAvailable`, which reads ahead while nothing is cached. -/
def onBufferAvailable (pipe : AudioPipe) : AudioPipe :=
  if pipe.source.pauseDurationPending ∨ pipe.source.cacheBuffer.isSome then pipe
  else readAudioBuffer pipe

def handleCall (call : SourceCall) (pipe : AudioPipe) : AudioPipe :=
  match call with
  | .setCapture type capture => { pipe with source := pipe.source.setCapture type capture }
  | .setOutputFormat sampleRate channels =>
    { pipe with
      source := pipe.source.setOutputFormat sampleRate channels
      outputFormat :=
        if 0 < sampleRate ∧ 0 < channels then some (sampleRate, channels)
        else pipe.outputFormat }
  | .setVideoFirstFramePts firstFramePts =>
    { pipe with source := pipe.source.setVideoFirstFramePts firstFramePts }
  | .pause => { pipe with source := pipe.source.pause }
  | .resume => { pipe with source := pipe.source.resume }
  | .bufferAvailable => pipe.onBufferAvailable
  | .readAt buffer length => pipe.readAt buffer length
  | .getSize => { pipe with source := pipe.source.getSize.2 }

/-- The step function: a call waits while `ReadAudioBuffer` holds the mutex. -/
def next (pipe : AudioPipe) (event : PipeEvent) : AudioPipe :=
  match event with
  | .startCapturer type => pipe.setCapturer type (pipe.capturers type).start
  | .stopCapturer type => pipe.setCapturer type (pipe.capturers type).stop
  | .readData type desc =>
    pipe.setCapturer type ((pipe.capturers type).onReadData type desc)
  | .stop => { pipe with source := pipe.source.stop }
  | .call call => if pipe.reading.isSome then pipe else pipe.handleCall call
  | .proceed => pipe.proceed

/-- A new data source with capturers that have not started. -/
def create (policy : AudioCombinePolicy) (recorderFileWithVideo : Bool) : AudioPipe where
  source := { policy, recorderFileWithVideo }

end AudioPipe

end PlayerFramework.ScreenCapture
