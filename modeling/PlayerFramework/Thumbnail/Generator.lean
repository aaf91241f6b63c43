import PlayerFramework.Transition

/-!
`AVThumbnailGenerator` (`av_thumbnail_generator.cpp`): the fetch calls of one caller, the
callbacks of the decoder, read errors and decoder errors, in any order.  The callbacks of the
decoder come one after the other.  Each first looks at the flags, and the one that fetches a
frame stores so; only then does it take its buffer or give one back, and the last one ends
with `PauseFetchFrame`.  The caller may go on between these parts.
-/

namespace PlayerFramework.Thumbnail

/-- A buffer the decoder hands out.  `memory` says whether it has `memory_`, `size` and `surface`
what that holds; `delivery` numbers the callbacks. -/
structure OutputBuffer where
  index : Nat
  pts : Int
  eos : Bool := false
  memory : Bool := true
  size : Nat := 0
  surface : Bool := true
  delivery : Nat := 0
deriving DecidableEq

def OutputBuffer.isValidBuffer (buffer : OutputBuffer) : Bool :=
  buffer.memory && (buffer.size != 0 || buffer.surface || buffer.eos)

def OutputBuffer.picture (buffer : OutputBuffer) : Bool :=
  buffer.memory && (buffer.size != 0 || buffer.surface)

inductive SeekMode where
  | nextSync
  | previousSync
  | closestSync
  | closest
deriving DecidableEq

inductive SeekStatus where
  | ok
  | endOfStream
  | error
deriving DecidableEq

inductive FetchCall where
  | fetchFrameAtTime
  | fetchFrameYuv
  | fetchFrameYuvWithTimeout
  | fetchFrameYuvs
  | fetchFrameYuvsWithTimeout
deriving DecidableEq

/-- What `avBuffer_` refers to: a buffer of the decoder, or a copy of one. -/
inductive Held where
  | decoded (buffer : OutputBuffer)
  | copy (of : OutputBuffer)
deriving DecidableEq

def Held.source : Held → OutputBuffer
  | .decoded buffer => buffer
  | .copy buffer => buffer

/-- What `fetchedFrameAtTime_` refers to; `blank` is memory that could not be initialized. -/
inductive SharedFrame where
  | copy (of : OutputBuffer)
  | blank
deriving DecidableEq

/-- What a call returns; `eosMarker` is the buffer made for a seek to the end of the stream. -/
inductive Returned where
  | null
  | eosMarker
  | copy (of : OutputBuffer)
  | uncopied (buffer : OutputBuffer)
  | blank
deriving DecidableEq

def Returned.ofHeld : Option Held → Returned
  | none => .null
  | some (.decoded buffer) => .uncopied buffer
  | some (.copy buffer) => .copy buffer

def Returned.ofShared : Option SharedFrame → Returned
  | none => .null
  | some (.copy buffer) => .copy buffer
  | some .blank => .blank

/-- How a call came to its end: before it waited, with a frame, with an error, or without
either. -/
inductive Ended where
  | early
  | fetched
  | failed
  | timedOut
deriving DecidableEq

/-- Where the callback stands: it has found its buffer unwanted, a candidate before the time, or
the frame that ends the wait (`isClosest` is what it read of the mode), or it has taken that
frame and is about to pause. -/
inductive Underway where
  | unwanted (buffer : OutputBuffer)
  | candidate (buffer : OutputBuffer)
  | fetched (buffer : OutputBuffer) (isClosest : Bool)
  | pausing
deriving DecidableEq

/-- Where the caller stands; `again` is the wait after the change of the decoder, and `res` what
the wait came to. -/
inductive Caller where
  | idle
  | waiting (call : FetchCall) (again : Bool)
  | woken (call : FetchCall) (again : Bool) (res : Bool)
deriving DecidableEq

/-- A call of `ReleaseOutputBuffer`: what the decoder had handed out under the index, and what
the generator goes on to hold or to return. -/
structure Release where
  index : Nat
  found : Option OutputBuffer
  kept : Option OutputBuffer
deriving DecidableEq

/-- A call that has returned, with the frames that were accepted for it.  `made` says that a copy
was made in it. -/
structure Return where
  call : FetchCall
  seekMode : SeekMode
  seekTime : Int
  switched : Bool
  accepted : List OutputBuffer
  ended : Ended
  made : Bool
  returned : Returned
deriving DecidableEq

/-- `decoder` holds the buffers that it has handed out; it is absent where `videoDecoder_` is
null.  From `accepted` on the fields are the record of a run. -/
structure Generator where
  mpegTs : Bool := false
  avBuffer : Option Held := none
  bufferIndex : Nat := 0
  hasFetchedFrame : Bool := false
  readErrorFlag : Bool := false
  stopProcessing : Bool := false
  hasReceivedCodecErrCodeOfUnsupported : Bool := false
  seekTime : Int := 0
  seekMode : SeekMode := .nextSync
  currentFetchFrameYuvOption : SeekMode := .nextSync
  fetchedFrameAtTime : Option SharedFrame := none
  decoder : Option (List OutputBuffer) := none
  callback : Option Underway := none
  caller : Caller := .idle
  accepted : List OutputBuffer := []
  switched : Bool := false
  deliveries : Nat := 0
  releases : List Release := []
  carried : List OutputBuffer := []
  returns : List Return := []
deriving DecidableEq

namespace Generator

def outstanding (generator : Generator) : List OutputBuffer := generator.decoder.getD []

/-- The buffer of a decoder that is held, if any. -/
def heldBuffer (generator : Generator) : Option OutputBuffer :=
  match generator.avBuffer with
  | some (.decoded buffer) => some buffer
  | _ => none

def release (index : Nat) (kept : Option OutputBuffer) (generator : Generator) : Generator :=
  match generator.decoder with
  | none => generator
  | some outstanding =>
    { generator with
      decoder := some (outstanding.filter (·.index != index))
      releases := generator.releases ++
        [{ index, found := outstanding.find? (·.index == index), kept }] }

def pauseFetchFrame (generator : Generator) : Generator :=
  { generator with
    hasFetchedFrame := true
    decoder := generator.decoder.map fun _ => [] }

def take (buffer : OutputBuffer) (generator : Generator) : Generator :=
  { generator with bufferIndex := buffer.index, avBuffer := some (.decoded buffer) }

/-- The state of a callback that has accepted its buffer. -/
def accept (buffer : OutputBuffer) (generator : Generator) : Generator :=
  { generator with accepted := generator.accepted ++ [buffer] }

/-- The state of a callback that has seen that the wait is over. -/
def acceptLast (buffer : OutputBuffer) (generator : Generator) : Generator :=
  { generator.accept buffer with hasFetchedFrame := true }

/-- `OnOutputBufferAvailable` up to where it has stored that a frame is fetched. -/
def onOutputBufferAvailable (buffer : OutputBuffer) (generator : Generator) : Generator :=
  if !buffer.isValidBuffer || generator.hasFetchedFrame || generator.stopProcessing then
    { generator with callback := some (.unwanted buffer) }
  else
    let isClosest := generator.seekMode == .closest
    if isClosest && buffer.pts < generator.seekTime && !buffer.eos then
      { generator.accept buffer with callback := some (.candidate buffer) }
    else { generator.acceptLast buffer with callback := some (.fetched buffer isClosest) }

/-- `OnOutputBufferAvailable` between that and its `PauseFetchFrame`. -/
def takeFetched (buffer : OutputBuffer) (isClosest : Bool) (generator : Generator) : Generator :=
  match isClosest, generator.avBuffer with
  | true, some held =>
    let preDiff := generator.seekTime - held.source.pts
    let nextDiff := buffer.pts - generator.seekTime
    if nextDiff < preDiff && !buffer.eos then
      (generator.release generator.bufferIndex (some buffer)).take buffer
    else generator.release buffer.index generator.heldBuffer
  | _, _ => generator.take buffer

/-- The callback goes on, up to its `PauseFetchFrame`. -/
def takes (generator : Generator) : Generator :=
  match generator.callback with
  | none | some .pausing => generator
  | some (.unwanted buffer) =>
    { generator.release buffer.index generator.heldBuffer with callback := none }
  | some (.candidate buffer) =>
    { (generator.release generator.bufferIndex (some buffer)).take buffer with callback := none }
  | some (.fetched buffer isClosest) =>
    { generator.takeFetched buffer isClosest with callback := some .pausing }

def handOut (buffer : OutputBuffer) (generator : Generator) : Generator :=
  { generator with
    decoder := generator.decoder.map (· ++ [buffer])
    deliveries := generator.deliveries + 1 }

/-- A callback with an output buffer, where there is a decoder and no callback is under way. -/
def output (buffer : OutputBuffer) (generator : Generator) : Generator :=
  if generator.decoder = none ∨ generator.callback ≠ none then generator
  else
    let delivered := { buffer with delivery := generator.deliveries }
    (generator.handOut delivered).onOutputBufferAvailable delivered

/-- The rest of the callback that took a frame. -/
def pauses (generator : Generator) : Generator :=
  if generator.callback = some .pausing then { generator.pauseFetchFrame with callback := none }
  else generator

def onError (unsupported : Bool) (generator : Generator) : Generator :=
  if unsupported then
    if generator.hasReceivedCodecErrCodeOfUnsupported then generator
    else { generator with hasReceivedCodecErrCodeOfUnsupported := true, stopProcessing := true }
  else { generator with stopProcessing := true }

/-- `SeekToTime`: the result and `seekMode_`, where the demuxer answers `first` and, asked once
more for the closest sync frame, `second`. -/
def seekToTime (mpegTs : Bool) (option : SeekMode) (first second : SeekStatus) :
    SeekStatus × SeekMode :=
  if mpegTs then (first, option)
  else if first != .ok && option != .closestSync then (second, .closestSync)
  else (first, option)

def initDecoder (created started : Bool) (generator : Generator) : Generator × Bool :=
  match generator.decoder with
  | some _ => (generator, true)
  | none =>
    if !created then (generator, false) else ({ generator with decoder := some [] }, started)

/-- What the demuxer and the codec factory answer to a call. -/
structure Answers where
  trackInfo : Bool := true
  first : SeekStatus := .ok
  second : SeekStatus := .ok
  /-- The seek took less time than the call has. -/
  seekInTime : Bool := true
  created : Bool := true
  started : Bool := true
deriving DecidableEq

def resetParamsBeforeFetchFrame (call : FetchCall) (timeUs : Int) (option : SeekMode)
    (generator : Generator) : Generator :=
  let reset :=
    { generator with
      avBuffer := none
      readErrorFlag := false
      hasFetchedFrame := false
      seekTime := timeUs
      accepted := []
      switched := false
      carried := generator.carried ++ generator.outstanding }
  if call = .fetchFrameAtTime then reset
  else
    { reset with
      hasReceivedCodecErrCodeOfUnsupported := false
      currentFetchFrameYuvOption := option }

def reply (call : FetchCall) (ended : Ended) (made : Bool) (returned : Returned)
    (generator : Generator) : Generator :=
  { generator with
    caller := .idle
    returns := generator.returns ++
      [{ call
         seekMode := generator.seekMode
         seekTime := generator.seekTime
         switched := generator.switched
         accepted := generator.accepted
         ended
         made
         returned }] }

/-- A fetch call up to its wait. -/
def fetch (call : FetchCall) (timeUs : Int) (option : SeekMode) (answers : Answers)
    (generator : Generator) : Generator :=
  let reset := generator.resetParamsBeforeFetchFrame call timeUs option
  if !answers.trackInfo then reset.reply call .early false .null
  else
    let sought := seekToTime generator.mpegTs option answers.first answers.second
    let seeking := { reset with seekMode := sought.2 }
    if (call = .fetchFrameYuvWithTimeout ∨ call = .fetchFrameYuvsWithTimeout) ∧
        answers.seekInTime = false then seeking.reply call .early false .null
    else if (call = .fetchFrameYuv ∨ call = .fetchFrameYuvWithTimeout) ∧
        sought.1 = .endOfStream ∧ generator.mpegTs = true then
      seeking.reply call .early false .eosMarker
    else if sought.1 ≠ .ok then seeking.reply call .early false .null
    else
      let ready := seeking.initDecoder answers.created answers.started
      if !ready.2 then ready.1.reply call .early false .null
      else { ready.1 with caller := .waiting call false }

def awaited (generator : Generator) : Bool :=
  generator.hasFetchedFrame || generator.readErrorFlag || generator.stopProcessing

/-- What is met after the wait: the codec list and factory and the demuxer for another decoder,
and the memory for a copy; `refused` where its size is. -/
structure Resources where
  hardware : Bool := true
  software : Bool := true
  first : SeekStatus := .ok
  second : SeekStatus := .ok
  created : Bool := true
  started : Bool := true
  allocated : Bool := true
  refused : Bool := false
deriving DecidableEq

def switchToSoftWareDecoder (resources : Resources) (generator : Generator) : Generator :=
  match generator.decoder with
  | none => generator
  | some _ =>
    if !resources.hardware then generator
    else
      let released := { generator with decoder := none }
      if !resources.software then released
      else
        let sought := seekToTime generator.mpegTs generator.currentFetchFrameYuvOption
          resources.first resources.second
        let seeking := { released with hasFetchedFrame := false, seekMode := sought.2 }
        if sought.1 ≠ .ok then seeking
        else (seeking.initDecoder resources.created resources.started).1

def generateAlignmentAvBuffer (resources : Resources) (generator : Generator) : Option Held :=
  match generator.avBuffer with
  | none => none
  | some held =>
    if held.source.picture && resources.allocated then some (.copy held.source) else none

/-- `ConvertToAVSharedMemory`, and whether it made a copy. -/
def convertToAVSharedMemory (resources : Resources) (generator : Generator) : Generator × Bool :=
  match generator.avBuffer with
  | none => (generator, false)
  | some held =>
    if !held.source.memory then (generator, false)
    else if held.source.surface && resources.refused then (generator, false)
    else if !resources.allocated then ({ generator with fetchedFrameAtTime := some .blank }, false)
    else ({ generator with fetchedFrameAtTime := some (.copy held.source) }, true)

/-- The end of `FetchFrameAtTime`, with `HandleFetchFrameAtTimeRes`. -/
def endAtTime (res : Bool) (resources : Resources) (generator : Generator) : Generator :=
  if !res then
    let paused := generator.pauseFetchFrame
    paused.reply .fetchFrameAtTime .timedOut false (.ofShared paused.fetchedFrameAtTime)
  else if generator.readErrorFlag || generator.stopProcessing then
    let paused := generator.pauseFetchFrame
    paused.reply .fetchFrameAtTime .failed false (.ofShared paused.fetchedFrameAtTime)
  else
    let converted := generator.convertToAVSharedMemory resources
    let released := converted.1.release converted.1.bufferIndex none
    released.reply .fetchFrameAtTime .fetched converted.2 (.ofShared released.fetchedFrameAtTime)

/-- `kept` is the buffer that the call returns all the same. -/
def handleFetchFrameYuvFailed (kept : Option OutputBuffer) (generator : Generator) : Generator :=
  match generator.decoder with
  | none => generator
  | some _ => (generator.release generator.bufferIndex kept).pauseFetchFrame

/-- The end of the other calls, with `HandleFetchFrameYuvRes`. -/
def endYuv (call : FetchCall) (res : Bool) (resources : Resources) (generator : Generator) :
    Generator :=
  if !res then
    if call = .fetchFrameYuvWithTimeout then
      (generator.handleFetchFrameYuvFailed none).reply call .timedOut false .null
    else
      let failed := generator.handleFetchFrameYuvFailed generator.heldBuffer
      failed.reply call .timedOut false (.ofHeld failed.avBuffer)
  else if generator.readErrorFlag || generator.stopProcessing then
    let failed := generator.handleFetchFrameYuvFailed generator.heldBuffer
    failed.reply call .failed false (.ofHeld failed.avBuffer)
  else
    let copied := generator.generateAlignmentAvBuffer resources
    { generator with avBuffer := copied }.reply call .fetched copied.isSome (.ofHeld copied)

/-- The call waits once more, for what another decoder finds. -/
def retry (call : FetchCall) (resources : Resources) (generator : Generator) : Generator :=
  { switchToSoftWareDecoder resources { generator with stopProcessing := false } with
    switched := true
    caller := .waiting call true }

def goesOn (resources : Resources) (generator : Generator) : Generator :=
  match generator.caller with
  | .woken call again res =>
    if call = .fetchFrameAtTime then generator.endAtTime res resources
    else if again = false ∧ generator.hasReceivedCodecErrCodeOfUnsupported = true then
      generator.retry call resources
    else generator.endYuv call res resources
  | _ => generator

inductive Event where
  | fetch (call : FetchCall) (timeUs : Int) (option : SeekMode) (answers : Answers)
  | waitEnds
  | goesOn (resources : Resources)
  | output (buffer : OutputBuffer)
  | takes
  | pauses
  | readError
  | error (unsupported : Bool)
deriving DecidableEq

def next (generator : Generator) : Event → Generator
  | .fetch call timeUs option answers =>
    if generator.caller = .idle then generator.fetch call timeUs option answers else generator
  | .waitEnds =>
    match generator.caller with
    | .waiting call again =>
      { generator with caller := .woken call again generator.awaited }
    | _ => generator
  | .goesOn resources => generator.goesOn resources
  | .output buffer => generator.output buffer
  | .takes => generator.takes
  | .pauses => generator.pauses
  | .readError => { generator with readErrorFlag := true }
  | .error unsupported => generator.onError unsupported

end Generator

end PlayerFramework.Thumbnail
