import Mathlib.Data.List.Sort
import PlayerFramework.Transition
import PlayerFramework.Threads
import PlayerFramework.SoundPool.Queues

/-!
The stream ID manager of the sound pool (`stream_id_manager.cpp`, `audio_stream.cpp`) in both
interrupt modes.  An action is what a thread does between two moments at which others can come
in: a section under the manager's lock, or a part of a stream's own work.
-/

namespace PlayerFramework.SoundPool

open Transition

inductive InterruptMode
  | sameSoundInterrupt
  | noInterrupt
deriving DecidableEq

inductive StreamState
  | prepared
  | playing
  | paused
  | stopped
  | released
deriving DecidableEq

/-- A stream, alive or not: `mapped` tells whether the manager's map of sounds still has it.
`playPriority` is the priority in its `playParameters_`. -/
structure AudioStream where
  soundID : Int
  streamID : Int
  streamState : StreamState := .prepared
  priority : Int := 0
  playPriority : Int := 0
  audioRenderer : Bool := false
  streamCallback : Bool := true
  streamLock : Bool := false
  mapped : Bool := true
deriving DecidableEq

/-- The manager, with every stream it has created in the order of their creation. -/
structure StreamIDManager where
  streams : List AudioStream := []
  nextStreamID : Int := 0
  currentStreamsNum : Int := 0
  playingStreamIDs : List Int := []
  willPlayStreamIDs : List Int := []
deriving DecidableEq

/-- What a sound pool is created with, behind `CheckInitParam`. -/
structure Config where
  interruptMode : InterruptMode
  maxStreams : Int
  positive : 0 < maxStreams

def maxPlayStreamsNumber : Int := 32

def minPlayStreamsNumber : Int := 1

def maxNumOfParallelPlaying : Nat := 5

def maxNumberOfHeldStreams : Int := 6

def int32Max : Int := 2147483647

def minStreamPriority : Int := 0

/-- The value of `maxStreams_` behind `InitThreadPool`. -/
def Config.clampedMaxStreams (cfg : Config) : Int :=
  if cfg.maxStreams > maxPlayStreamsNumber then maxPlayStreamsNumber
  else if cfg.maxStreams < minPlayStreamsNumber then minPlayStreamsNumber
  else cfg.maxStreams

/-- The number of streams that `SetPlay` compares the queue with. -/
def Config.limit (cfg : Config) : Nat :=
  match cfg.interruptMode with
  | .sameSoundInterrupt => cfg.clampedMaxStreams.toNat
  | .noInterrupt =>
    if cfg.maxStreams.toNat < maxNumOfParallelPlaying then cfg.maxStreams.toNat
    else maxNumOfParallelPlaying

/-- One thread's next piece of work.  Streams are named by their place in `streams` where the
code holds the stream itself, and by their ID where it looks the ID up. -/
inductive Action
  | removeInvalidStreams (order : List Int)
  | removeStoppedStreams (order : List Int)
  | getStream (soundID priority : Int)
  | setPlay (streamID priority : Int)
  | setPlayLookup (streamID priority : Int)
  | configure (stream : Nat) (priority : Int)
  | setPlayDecision (stream : Nat) (streamID : Int)
  | addPlayTask (streamID : Int) (lastStreamID : Option Int)
  | doPlay (streamID : Int)
  | playStream (stream : Nat)
  | startRenderer (stream : Nat)
  | postProcessing (streamID : Int)
  | stopAudioStream (streamID : Int)
  | stop (stream : Nat) (tooEarly : Bool)
  | onPlayFinished (streamID : Int)
  | stopRenderer (stream : Nat)
  | setPriority (streamID priority : Int)
  | prioritise (stream : Nat) (priority : Int)
  | reorderStream
  | release (stream : Nat)
  | unload (soundID : Int)
  | unloadStream (soundID streamID : Int)
  | clearStreamIDInDeque (soundID streamID : Int)
deriving DecidableEq

/-- What the audio framework answers: whether a stream or a renderer can be created, whether the
renderer runs when it is asked, whether it starts, and whether it runs where it did not start. -/
structure Answers where
  created : Bool := true
  running : Bool := false
  started : Bool := true
  stillRunning : Bool := false
deriving DecidableEq

/-- What an action leaves: the manager, what its thread does next, and the threads it creates. -/
structure Outcome where
  manager : StreamIDManager
  next : List Action := []
  created : List (List Action) := []
deriving DecidableEq

namespace StreamIDManager

def update (m : StreamIDManager) (stream : Nat) (change : AudioStream → AudioStream) :
    StreamIDManager :=
  { m with streams := m.streams.modify stream change }

@[simp] theorem update_playing (m : StreamIDManager) (stream : Nat)
    (change : AudioStream → AudioStream) :
    (m.update stream change).playingStreamIDs = m.playingStreamIDs := rfl

def setStreamState (m : StreamIDManager) (stream : Nat) (state : StreamState) : StreamIDManager :=
  m.update stream fun audio => { audio with streamState := state }

def unlock (m : StreamIDManager) (stream : Nat) : StreamIDManager :=
  m.update stream fun audio => { audio with streamLock := false }

def getStreamByStreamID (m : StreamIDManager) (streamID : Int) : Option Nat :=
  if 0 ≤ streamID then
    m.streams.findIdx? fun audio => audio.mapped && decide (audio.streamID = streamID)
  else none

def getPriority (m : StreamIDManager) (stream : Nat) : Int :=
  (m.streams[stream]?.map AudioStream.priority).getD 0

/-- `GetPriority` of the stream that an ID is looked up as. -/
def priorityOf (m : StreamIDManager) (streamID : Int) : Option Int :=
  (m.getStreamByStreamID streamID).map m.getPriority

def queueAndSortPlayingStreamID (m : StreamIDManager) (freshStreamID : Int) : StreamIDManager :=
  { m with playingStreamIDs := queueAndSort m.priorityOf freshStreamID m.playingStreamIDs }

def queueAndSortWillPlayStreamID (m : StreamIDManager) (freshStreamID : Int) : StreamIDManager :=
  { m with willPlayStreamIDs := queueAndSort m.priorityOf freshStreamID m.willPlayStreamIDs }

def lower (m : StreamIDManager) (left right : Int) : Bool :=
  match m.priorityOf left, m.priorityOf right with
  | some leftPriority, some rightPriority => decide (leftPriority < rightPriority)
  | _, _ => false

def reorderStream (m : StreamIDManager) : StreamIDManager :=
  { m with
    playingStreamIDs := reorder m.lower m.playingStreamIDs
    willPlayStreamIDs := reorder m.lower m.willPlayStreamIDs }

def unmap (m : StreamIDManager) (stream : Nat) : StreamIDManager :=
  { m.update stream (fun audio => { audio with mapped := false }) with
    currentStreamsNum := m.currentStreamsNum - 1 }

def isMappedIn (m : StreamIDManager) (stream : Nat) (state : StreamState) : Bool :=
  m.streams[stream]?.any fun audio => audio.mapped && decide (audio.streamState = state)

/-- The streams of the list that are in `state` leave the map; where `untilFew` is set, until few
enough are held. -/
def removeStreams (untilFew : Bool) (state : StreamState) :
    List Nat → StreamIDManager → StreamIDManager × List Nat
  | [], m => (m, [])
  | stream :: rest, m =>
    if untilFew = true ∧ m.currentStreamsNum ≤ maxNumberOfHeldStreams then (m, [])
    else if m.isMappedIn stream state then
      let later := removeStreams untilFew state rest (m.unmap stream)
      (later.1, stream :: later.2)
    else removeStreams untilFew state rest m

/-- The places of the mapped streams, in the order of their IDs. -/
def sortedByStreamID (m : StreamIDManager) : List Nat :=
  let mapped := (List.range m.streams.length).filter fun stream =>
    m.streams[stream]?.any AudioStream.mapped
  mapped.insertionSort fun left right =>
    (m.streams[left]?.map AudioStream.streamID).getD 0 ≤
      (m.streams[right]?.map AudioStream.streamID).getD 0

/-- The places of the streams of the sounds, sound after sound. -/
def streamsOfSounds (m : StreamIDManager) (order : List Int) : List Nat :=
  order.flatMap fun soundID => (List.range m.streams.length).filter fun stream =>
    m.streams[stream]?.any fun audio => audio.mapped && decide (audio.soundID = soundID)

def addReleaseTask (streamsToBeReleased : List Nat) : List (List Action) :=
  if streamsToBeReleased = [] then [] else [streamsToBeReleased.map .release]

def removeInvalidSameSound (m : StreamIDManager) : Outcome :=
  let sorted := m.sortedByStreamID
  let released := removeStreams false .released sorted m
  let stopped := removeStreams true .stopped sorted released.1
  let prepared := removeStreams true .prepared sorted stopped.1
  { manager := prepared.1
    created := addReleaseTask (released.2 ++ stopped.2 ++ prepared.2) }

/-- `InnerProcessOfRemoveInvalidStreams`, with the order of the sounds in the hash map. -/
def innerProcessOfRemoveInvalidStreams (m : StreamIDManager) (state : StreamState)
    (order : List Int) : StreamIDManager × List Nat :=
  removeStreams true state (m.streamsOfSounds order) m

def removeInvalidStreams (mode : InterruptMode) (m : StreamIDManager) (order : List Int) :
    Outcome :=
  match mode with
  | .sameSoundInterrupt => m.removeInvalidSameSound
  | .noInterrupt =>
    let released := m.innerProcessOfRemoveInvalidStreams .released order
    { manager := released.1
      next := if released.1.currentStreamsNum ≤ maxNumberOfHeldStreams then []
        else [.removeStoppedStreams order]
      created := addReleaseTask released.2 }

def removeStoppedStreams (m : StreamIDManager) (order : List Int) : Outcome :=
  let stopped := m.innerProcessOfRemoveInvalidStreams .stopped order
  { manager := stopped.1, created := addReleaseTask stopped.2 }

/-- The ID of a stream that a sound can be played with again, and the manager then. -/
def getAvailableStreamIDBySoundID (mode : InterruptMode) (m : StreamIDManager) (soundID : Int) :
    Option (Int × StreamIDManager) :=
  match mode with
  | .sameSoundInterrupt =>
    match m.streams.find? fun audio => audio.mapped && decide (audio.soundID = soundID) with
    | none => none
    | some audio =>
      if audio.streamState ≠ .released then some (audio.streamID, m) else none
  | .noInterrupt =>
    match m.streams.findIdx? fun audio => audio.mapped && decide (audio.soundID = soundID) &&
        decide (audio.streamState = .stopped) with
    | none => none
    | some stream =>
      (m.streams[stream]?).map fun audio =>
        (audio.streamID, m.setStreamState stream .prepared)

/-- The next stream ID that no mapped stream has; the calls count the IDs tried. -/
def freshStreamID (m : StreamIDManager) : Nat → Int → Int
  | 0, last => last
  | calls + 1, last =>
    let streamID := if last = int32Max then 1 else last + 1
    if m.getStreamByStreamID streamID = none then streamID
    else m.freshStreamID calls streamID

/-- `CreateAudioStream`; in the same sound mode the map has one stream for a sound. -/
def createAudioStream (mode : InterruptMode) (m : StreamIDManager) (soundID : Int)
    (answers : Answers) : Option Int × StreamIDManager :=
  let streamID := m.freshStreamID (m.streams.length + 1) m.nextStreamID
  let numbered := { m with nextStreamID := streamID }
  if answers.created then
    let others := match mode with
      | .sameSoundInterrupt =>
        m.streams.map fun audio =>
          if audio.soundID = soundID then { audio with mapped := false } else audio
      | .noInterrupt => m.streams
    (some streamID,
      { numbered with
        streams := others ++ [{ soundID := soundID, streamID := streamID }]
        currentStreamsNum := m.currentStreamsNum + 1 })
  else (none, numbered)

/-- The section of `Play` that finds or creates the stream. -/
def getStream (mode : InterruptMode) (m : StreamIDManager) (soundID priority : Int)
    (answers : Answers) : Outcome :=
  let setPlay (streamID : Int) : Action :=
    match mode with
    | .sameSoundInterrupt => .setPlay streamID priority
    | .noInterrupt => .setPlayLookup streamID priority
  match m.getAvailableStreamIDBySoundID mode soundID with
  | some (streamID, prepared) => { manager := prepared, next := [setPlay streamID] }
  | none =>
    match m.createAudioStream mode soundID answers with
    | (some streamID, created) => { manager := created, next := [setPlay streamID] }
    | (none, unchanged) => { manager := unchanged }

/-- `SetPlay` from the comparison of the queue's length on; `notPlayed` is what becomes of a
stream of too low a priority.  The queue of a full manager is not empty. -/
def playOrReplace (limit : Nat) (m : StreamIDManager) (stream : Nat) (streamID : Int)
    (notPlayed : StreamIDManager) : Outcome :=
  if m.playingStreamIDs.length < limit then
    { manager := m, next := [.addPlayTask streamID none] }
  else
    match m.playingStreamIDs.getLast? with
    | none => { manager := m }
    | some lastStreamID =>
      match m.getStreamByStreamID lastStreamID with
      | none => { manager := { m with playingStreamIDs := m.playingStreamIDs.dropLast } }
      | some lastStream =>
        if m.getPriority stream ≥ m.getPriority lastStream then
          { manager := { m with playingStreamIDs := m.playingStreamIDs.dropLast }
            next := [.addPlayTask streamID (some lastStreamID)]
            created := [[.stop lastStream false]] }
        else { manager := notPlayed }

def configure (m : StreamIDManager) (stream : Nat) (priority : Int) : StreamIDManager :=
  m.update stream fun audio => { audio with priority := priority, playPriority := priority }

def setPlay (limit : Nat) (m : StreamIDManager) (streamID priority : Int) : Outcome :=
  match m.getStreamByStreamID streamID with
  | none => { manager := m }
  | some stream =>
    let configured := m.configure stream priority
    configured.playOrReplace limit stream streamID
      (configured.queueAndSortWillPlayStreamID streamID)

/-- `SetPlay` of the mode without interrupts, which lets the lock go to configure the stream. -/
def setPlayLookup (m : StreamIDManager) (streamID priority : Int) : Outcome :=
  match m.getStreamByStreamID streamID with
  | none => { manager := m }
  | some stream =>
    { manager := m, next := [.configure stream priority, .setPlayDecision stream streamID] }

def isLocked (m : StreamIDManager) (stream : Nat) : Bool :=
  m.streams[stream]?.any AudioStream.streamLock

def setPlayDecision (limit : Nat) (m : StreamIDManager) (stream : Nat) (streamID : Int) : Outcome :=
  m.playOrReplace limit stream streamID
    (m.update stream fun audio =>
      if audio.streamState = .prepared then { audio with streamState := .stopped } else audio)

/-- The section of `AddPlayTask`, and the task. -/
def addPlayTask (m : StreamIDManager) (streamID : Int) : Outcome :=
  { manager := m.queueAndSortPlayingStreamID streamID, created := [[.doPlay streamID]] }

def doPlay (m : StreamIDManager) (streamID : Int) : Outcome :=
  match m.getStreamByStreamID streamID with
  | none => { manager := m }
  | some stream => { manager := m, next := [.playStream stream] }

/-- The states in which `DoPlayWithSameSoundInterrupt` and `DoPlayWithNoInterrupt` play. -/
def mayPlay (mode : InterruptMode) (state : StreamState) : Bool :=
  match mode with
  | .sameSoundInterrupt => state != .released
  | .noInterrupt => state == .prepared

/-- `DoPlay…` of the stream up to the start of the renderer; the stream's lock is kept. -/
def playStream (mode : InterruptMode) (m : StreamIDManager) (stream : Nat) (answers : Answers) :
    Outcome :=
  match m.streams[stream]? with
  | none => { manager := m }
  | some audio =>
    if ¬ mayPlay mode audio.streamState then
      { manager := m, next := [.postProcessing audio.streamID] }
    else if ¬ (audio.audioRenderer || answers.created) then
      { manager := m, next := [.postProcessing audio.streamID] }
    else
      let prepared := m.update stream fun audio =>
        { audio with audioRenderer := true, priority := audio.playPriority, streamLock := true }
      if mode = .sameSoundInterrupt ∧ answers.running ∧ audio.streamState = .playing ∧
          audio.streamCallback then
        { manager := prepared, next := [.onPlayFinished audio.streamID, .startRenderer stream] }
      else { manager := prepared, next := [.startRenderer stream] }

/-- The rest of `DoPlay…`, with `RestartAudioStream` and `HandleRendererNotStart`. -/
def startRenderer (mode : InterruptMode) (m : StreamIDManager) (stream : Nat)
    (answers : Answers) : Outcome :=
  match m.streams[stream]? with
  | none => { manager := m }
  | some audio =>
    let state :=
      if mode = .noInterrupt ∨ audio.streamState = .prepared ∨ audio.streamState = .stopped then
        .playing
      else audio.streamState
    if answers.started then { manager := (m.setStreamState stream state).unlock stream }
    else
      { manager := (m.setStreamState stream .released).unlock stream
        next := if answers.stillRunning then [] else [.postProcessing audio.streamID] }

def postProcessing (m : StreamIDManager) (streamID : Int) : StreamIDManager :=
  if streamID ∈ m.playingStreamIDs then
    match m.getStreamByStreamID streamID with
    | none => m
    | some stream =>
      { m with playingStreamIDs := m.playingStreamIDs.erase streamID }.setStreamState stream
        .released
  else m

def stopAudioStream (m : StreamIDManager) (streamID : Int) : Outcome :=
  match m.getStreamByStreamID streamID with
  | none => { manager := m }
  | some stream => { manager := m, created := [[.stop stream false]] }

/-- `Stop` of the stream up to its call of `OnPlayFinished`; the stream's lock is kept. -/
def stop (m : StreamIDManager) (stream : Nat) (tooEarly : Bool) : Outcome :=
  match m.streams[stream]? with
  | none => { manager := m }
  | some audio =>
    if tooEarly then { manager := m }
    else if audio.audioRenderer ∧ audio.streamState = .playing ∧ audio.streamCallback then
      { manager := m.update stream fun audio => { audio with streamLock := true }
        next := [.onPlayFinished audio.streamID, .stopRenderer stream] }
    else { manager := m }

/-- `InnerProcessOfOnPlayFinished`: the manager, and whether the stream was found. -/
def innerProcessOfOnPlayFinished (m : StreamIDManager) (streamID : Int) : StreamIDManager × Bool :=
  let erased := { m with playingStreamIDs := m.playingStreamIDs.erase streamID }
  match m.getStreamByStreamID streamID with
  | none => (erased, false)
  | some stream =>
    (erased.update stream fun audio =>
      if audio.streamState = .playing then { audio with streamState := .stopped } else audio,
      true)

def onPlayFinished (mode : InterruptMode) (m : StreamIDManager) (streamID : Int) : Outcome :=
  match mode, m.innerProcessOfOnPlayFinished streamID with
  | .sameSoundInterrupt, (finished, true) =>
    match finished.willPlayStreamIDs with
    | [] => { manager := finished }
    | willPlay :: rest =>
      { manager := { finished with willPlayStreamIDs := rest }
        next := [.addPlayTask willPlay none] }
  | _, (finished, _) => { manager := finished }

def setPriority (m : StreamIDManager) (streamID priority : Int) : Outcome :=
  match m.getStreamByStreamID streamID with
  | none => { manager := m }
  | some stream =>
    let assigned := if priority < minStreamPriority then minStreamPriority else priority
    { manager := m, next := [.prioritise stream assigned, .reorderStream] }

def prioritise (m : StreamIDManager) (stream : Nat) (priority : Int) : StreamIDManager :=
  m.update stream fun audio => { audio with priority := priority }

def release (m : StreamIDManager) (stream : Nat) : StreamIDManager :=
  m.update stream fun audio =>
    { audio with
      streamState := if audio.audioRenderer then .released else audio.streamState
      audioRenderer := false
      streamCallback := false }

def getStreamIDBySoundID (m : StreamIDManager) (soundID : Int) : List Int :=
  (m.streams.filter fun audio => audio.mapped && decide (audio.soundID = soundID)).map
    AudioStream.streamID

def unload (m : StreamIDManager) (soundID : Int) : Outcome :=
  { manager := m, next := (m.getStreamIDBySoundID soundID).map (.unloadStream soundID) }

def unloadStream (m : StreamIDManager) (soundID streamID : Int) : Outcome :=
  match m.getStreamByStreamID streamID with
  | none => { manager := m }
  | some stream =>
    { manager := m
      next := [.stop stream false, .release stream, .clearStreamIDInDeque soundID streamID] }

def removeStreamBySoundIDAndStreamID (m : StreamIDManager) (soundID streamID : Int) :
    StreamIDManager :=
  match m.streams.findIdx? fun audio => audio.mapped &&
      decide (audio.soundID = soundID ∧ audio.streamID = streamID) with
  | none => m
  | some stream => m.unmap stream

def clearStreamIDInDeque (mode : InterruptMode) (m : StreamIDManager) (soundID streamID : Int) :
    StreamIDManager :=
  let others (queue : List Int) : List Int := queue.filter fun other => other ≠ streamID
  let cleared := { m with
    playingStreamIDs := others m.playingStreamIDs
    willPlayStreamIDs := match mode with
      | .sameSoundInterrupt => others m.willPlayStreamIDs
      | .noInterrupt => m.willPlayStreamIDs }
  cleared.removeStreamBySoundIDAndStreamID soundID streamID

/-- The streams whose own lock an action takes. -/
def waitsFor : Action → Option Nat
  | .configure stream _ | .playStream stream | .stop stream _ | .prioritise stream _
  | .release stream => some stream
  | _ => none

def perform (cfg : Config) (m : StreamIDManager) (answers : Answers) : Action → Outcome
  | .removeInvalidStreams order => m.removeInvalidStreams cfg.interruptMode order
  | .removeStoppedStreams order => m.removeStoppedStreams order
  | .getStream soundID priority => m.getStream cfg.interruptMode soundID priority answers
  | .setPlay streamID priority => m.setPlay cfg.limit streamID priority
  | .setPlayLookup streamID priority => m.setPlayLookup streamID priority
  | .configure stream priority => { manager := m.configure stream priority }
  | .setPlayDecision stream streamID => m.setPlayDecision cfg.limit stream streamID
  | .addPlayTask streamID _ => m.addPlayTask streamID
  | .doPlay streamID => m.doPlay streamID
  | .playStream stream => m.playStream cfg.interruptMode stream answers
  | .startRenderer stream => m.startRenderer cfg.interruptMode stream answers
  | .postProcessing streamID => { manager := m.postProcessing streamID }
  | .stopAudioStream streamID => m.stopAudioStream streamID
  | .stop stream tooEarly => m.stop stream tooEarly
  | .onPlayFinished streamID => m.onPlayFinished cfg.interruptMode streamID
  | .stopRenderer stream => { manager := m.unlock stream }
  | .setPriority streamID priority => m.setPriority streamID priority
  | .prioritise stream priority => { manager := m.prioritise stream priority }
  | .reorderStream => { manager := m.reorderStream }
  | .release stream => { manager := m.release stream }
  | .unload soundID => m.unload soundID
  | .unloadStream soundID streamID => m.unloadStream soundID streamID
  | .clearStreamIDInDeque soundID streamID =>
    { manager := m.clearStreamIDInDeque cfg.interruptMode soundID streamID }

end StreamIDManager

/-- The manager and the threads that work on it. -/
structure PoolState where
  manager : StreamIDManager := {}
  threads : List (List Action) := []
deriving DecidableEq

/-- A call of the sound pool, a callback of a renderer, or a step of a thread. -/
inductive Event
  | play (soundID priority : Int) (order : List Int)
  | stop (streamID : Int)
  | setPriority (streamID priority : Int)
  | unload (soundID : Int)
  | playbackCompleted (stream : Nat) (tooEarly : Bool)
  | interrupted (stream : Nat)
  | run (thread : Nat) (answers : Answers)
deriving DecidableEq

def PoolState.call (s : PoolState) (actions : List Action) : PoolState :=
  { s with threads := s.threads ++ [actions] }

/-- A thread takes its next action, unless it waits for the lock of a stream. -/
def PoolState.runThread (cfg : Config) (s : PoolState) (thread : Nat) (answers : Answers) :
    PoolState :=
  match Threads.next? s.threads thread with
  | none => s
  | some action =>
    if (StreamIDManager.waitsFor action).any s.manager.isLocked then s
    else
      let outcome := s.manager.perform cfg answers action
      { manager := outcome.manager
        threads := Threads.proceed s.threads thread outcome.next outcome.created }

def step (cfg : Config) (s : PoolState) : Event → PoolState
  | .play soundID priority order =>
    s.call [.removeInvalidStreams order, .getStream soundID priority]
  | .stop streamID => s.call [.stopAudioStream streamID]
  | .setPriority streamID priority => s.call [.setPriority streamID priority]
  | .unload soundID => s.call [.unload soundID]
  | .playbackCompleted stream tooEarly => s.call [.stop stream tooEarly]
  | .interrupted stream => s.call [.stop stream false]
  | .run thread answers => s.runThread cfg thread answers

/-- The state reached from a new sound pool. -/
def reached (cfg : Config) (events : List Event) : PoolState := run (step cfg) {} events

end PlayerFramework.SoundPool
