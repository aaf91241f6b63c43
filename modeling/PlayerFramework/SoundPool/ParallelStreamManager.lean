import Mathlib.Data.Int.Order.Basic
import PlayerFramework.Transition
import PlayerFramework.Threads
import PlayerFramework.BubbleSort

/-!
The stream manager of a parallel sound pool (`parallel_stream_manager.cpp`, `stream.cpp`).  A
call of the sound pool holds `soundPoolLock_` to its end; the tasks of the two thread pools run
on threads of their own.  A step is a section under the manager's lock, or a part of a stream's
own work.
-/

namespace PlayerFramework.SoundPool

open Transition

/-- A stream, alive or not.  `playPriority` is the priority in its `playParameters_`, and
`soundData` tells whether it still has `fullCacheData_`. -/
structure Stream where
  soundID : Int
  streamID : Int
  priority : Int
  playPriority : Int
  soundData : Bool := true
  audioRenderer : Bool := false
  isRunning : Bool := false
  startStopFlag : Bool := false
  streamLock : Bool := false
deriving DecidableEq

/-- The two deques pair a stream ID with its stream, which is named by its place in the list of
all the streams made. -/
structure ParallelStreamManager where
  streams : List Stream := []
  nextStreamId : Int := 0
  playingStream : List (Int × Nat) := []
  waitingStream : List (Int × Nat) := []
deriving DecidableEq

/-- What a thread pool's thread, or a call that stops streams, does next. -/
inductive StreamTask
  | preparePlay (waitFront : Nat)
  | doPlay (streamID : Int)
  | playStream (stream : Nat) (streamID : Int)
  | playFailed (streamID : Int)
  | stopTask (stream : Nat)
  | stop (stream : Nat)
  | onPlayFinished (streamID : Int)
  | stopEnds (stream : Nat)
deriving DecidableEq

/-- Where the call of the sound pool stands that holds `soundPoolLock_`. -/
inductive StreamCall
  | play (soundID priority : Int)
  | preparePlay (stream : Nat)
  | stop (streamID : Int)
  | setPriority (streamID priority : Int)
  | prioritise (stream : Nat) (priority : Int)
  | reorderStream
  | unload (soundID : Int)
  | stopping (tasks : List StreamTask)
deriving DecidableEq

/-- What the environment answers: whether the pool has a callback and the sound its data,
whether a renderer can be had and starts, and whether a stream that only a task still knows is
alive. -/
structure StreamAnswers where
  callback : Bool := true
  soundData : Bool := true
  created : Bool := true
  started : Bool := true
  alive : Bool := true
deriving DecidableEq

/-- What a step leaves; `undefined` where the code calls `front` or `back` of an empty deque. -/
structure StreamOutcome where
  manager : ParallelStreamManager
  next : List StreamTask := []
  created : List (List StreamTask) := []
  undefined : Bool := false
deriving DecidableEq

namespace ParallelStreamManager

def maxPlayStreamsNumber : Int := 32

def minPlayStreamsNumber : Int := 1

def int32Max : Int := 2147483647

def minStreamPriority : Int := 0

/-- The value of `maxStreams_` behind `InitThreadPool`. -/
def initThreadPool (maxStreams : Int) : Nat :=
  let atMost := if maxStreams > maxPlayStreamsNumber then maxPlayStreamsNumber else maxStreams
  (if atMost < minPlayStreamsNumber then minPlayStreamsNumber else atMost).toNat

def update (m : ParallelStreamManager) (stream : Nat) (change : Stream → Stream) :
    ParallelStreamManager :=
  { m with streams := m.streams.modify stream change }

def getPriority (m : ParallelStreamManager) (stream : Nat) : Int :=
  (m.streams[stream]?.map Stream.priority).getD 0

def getStreamID (m : ParallelStreamManager) (stream : Nat) : Int :=
  (m.streams[stream]?.map Stream.streamID).getD 0

def getSoundID (m : ParallelStreamManager) (stream : Nat) : Int :=
  (m.streams[stream]?.map Stream.soundID).getD 0

def findStream (m : ParallelStreamManager) (streamId : Int) : Option Nat :=
  if 0 ≤ streamId then
    ((m.playingStream ++ m.waitingStream).find? fun entry => entry.1 == streamId).map Prod.snd
  else none

/-- The loop of `Play` for an ID that no queued stream has; the tries are counted down. -/
def freshStreamId (m : ParallelStreamManager) : Nat → Int → Option Int
  | 0, _ => none
  | tries + 1, last =>
    let streamId := if last = int32Max then 1 else last + 1
    if m.findStream streamId = none then some streamId else m.freshStreamId tries streamId

/-- `AddToPlayingDeque` and `AddToWaitingDeque`: the stream comes before the first one whose
priority is not higher. -/
def addToDeque (m : ParallelStreamManager) (streamID : Int) (stream : Nat) :
    List (Int × Nat) → List (Int × Nat)
  | [] => [(streamID, stream)]
  | entry :: rest =>
    if m.getPriority stream ≥ m.getPriority entry.2 then (streamID, stream) :: entry :: rest
    else if rest = [] then [entry, (streamID, stream)]
    else entry :: m.addToDeque streamID stream rest

def addToPlayingDeque (m : ParallelStreamManager) (streamID : Int) (stream : Nat) :
    ParallelStreamManager :=
  { m with playingStream := m.addToDeque streamID stream m.playingStream }

def addToWaitingDeque (m : ParallelStreamManager) (streamID : Int) (stream : Nat) :
    ParallelStreamManager :=
  { m with waitingStream := m.addToDeque streamID stream m.waitingStream }

/-- Erases the first entry of this ID, as every loop over a deque with a `break` does. -/
def eraseID (streamID : Int) (queue : List (Int × Nat)) : List (Int × Nat) :=
  queue.eraseP fun entry => entry.1 == streamID

def removeFromWaitingDeque (m : ParallelStreamManager) (streamId : Int) : ParallelStreamManager :=
  { m with waitingStream := eraseID streamId m.waitingStream }

def dealQueueAndAddTask (m : ParallelStreamManager) (streamId : Int) (stream : Nat)
    (waitQueueFlag : Bool) : ParallelStreamManager × List StreamTask :=
  let added := m.addToPlayingDeque streamId stream
  (if waitQueueFlag then added.removeFromWaitingDeque streamId else added, [.doPlay streamId])

/-- `PreparePlay` from the comparison with the number of streams on. -/
def playOrWait (limit : Nat) (m : ParallelStreamManager) (stream : Nat) (waitQueueFlag : Bool) :
    StreamOutcome :=
  let streamId := m.getStreamID stream
  if m.playingStream.length < limit then
    let (dealt, task) := m.dealQueueAndAddTask streamId stream waitQueueFlag
    { manager := dealt, created := [task] }
  else
    match m.playingStream.getLast? with
    | none => { manager := m, undefined := true }
    | some (_, lastPlay) =>
      if m.getPriority stream ≥ m.getPriority lastPlay then
        let popped := { m with playingStream := m.playingStream.dropLast }
        let (dealt, task) := popped.dealQueueAndAddTask streamId stream waitQueueFlag
        { manager := dealt, created := [task, [.stopTask lastPlay]] }
      else if waitQueueFlag then { manager := m }
      else { manager := m.addToWaitingDeque streamId stream }

/-- `PreparePlay`; with the flag the stream is the front of the waiting queue, whichever was
given. -/
def preparePlay (limit : Nat) (m : ParallelStreamManager) (stream : Nat) (waitQueueFlag : Bool) :
    StreamOutcome :=
  if waitQueueFlag then
    match m.waitingStream with
    | [] => { manager := m, undefined := true }
    | (_, front) :: _ => m.playOrWait limit front true
  else m.playOrWait limit stream false

def doPlay (m : ParallelStreamManager) (streamID : Int) : StreamOutcome :=
  match m.findStream streamID with
  | none => { manager := m }
  | some stream => { manager := m, next := [.playStream stream streamID] }

/-- `Stream::DoPlay`, with the priority of the play parameters once there is a renderer. -/
def playStream (m : ParallelStreamManager) (stream : Nat) (streamID : Int)
    (answers : StreamAnswers) : StreamOutcome :=
  match m.streams[stream]? with
  | none => { manager := m }
  | some audio =>
    if ¬ (audio.audioRenderer || answers.created) then
      { manager := m, next := [.playFailed streamID] }
    else
      let prepared := m.update stream fun audio =>
        { audio with audioRenderer := true, priority := audio.playPriority }
      if ¬ audio.soundData then { manager := prepared, next := [.playFailed streamID] }
      else if answers.started then
        { manager := prepared.update stream fun audio => { audio with isRunning := true } }
      else
        { manager := prepared.update stream fun audio => { audio with isRunning := false }
          next := [.playFailed streamID] }

def playFailed (m : ParallelStreamManager) (streamID : Int) : ParallelStreamManager :=
  { m with playingStream := eraseID streamID m.playingStream }

/-- `Stream::Stop` up to its call of `OnPlayFinished`; the stream's lock is kept. -/
def stop (m : ParallelStreamManager) (stream : Nat) : StreamOutcome :=
  match m.streams[stream]? with
  | none => { manager := m }
  | some audio =>
    if audio.audioRenderer ∧ audio.isRunning then
      { manager := m.update stream fun audio =>
          { audio with
            isRunning := false, audioRenderer := false, soundData := false, streamLock := true }
        next := [.onPlayFinished audio.streamID, .stopEnds stream] }
    else { manager := m }

def stopEnds (m : ParallelStreamManager) (stream : Nat) : ParallelStreamManager :=
  m.update stream fun audio => { audio with streamLock := false }

def onPlayFinished (m : ParallelStreamManager) (streamID : Int) : StreamOutcome :=
  let finished := { m with playingStream := eraseID streamID m.playingStream }
  match m.waitingStream with
  | [] => { manager := finished }
  | (_, waitFront) :: _ => { manager := finished, created := [[.preparePlay waitFront]] }

/-- The section of `UnloadStream`, and the streams to stop. -/
def unloadStream (m : ParallelStreamManager) (soundID : Int) :
    ParallelStreamManager × List StreamTask :=
  let other (entry : Int × Nat) : Bool := m.getSoundID entry.2 != soundID
  ({ m with
      waitingStream := m.waitingStream.filter other
      playingStream := m.playingStream.filter other },
    (m.playingStream.filter fun entry => !other entry).map fun entry => .stop entry.2)

def reorderStream (m : ParallelStreamManager) : ParallelStreamManager :=
  let lower := BubbleSort.lowerKey fun entry : Int × Nat => m.getPriority entry.2
  { m with
    playingStream := BubbleSort.sort lower m.playingStream
    waitingStream := BubbleSort.sort lower m.waitingStream }

def perform (limit : Nat) (m : ParallelStreamManager) (answers : StreamAnswers) :
    StreamTask → StreamOutcome
  | .preparePlay waitFront => m.preparePlay limit waitFront true
  | .doPlay streamID => m.doPlay streamID
  | .playStream stream streamID => m.playStream stream streamID answers
  | .playFailed streamID => { manager := m.playFailed streamID }
  | .stopTask stream => { manager := m, next := if answers.alive then [.stop stream] else [] }
  | .stop stream => m.stop stream
  | .onPlayFinished streamID => m.onPlayFinished streamID
  | .stopEnds stream => { manager := m.stopEnds stream }

def isLocked (m : ParallelStreamManager) (stream : Nat) : Bool :=
  m.streams[stream]?.any Stream.streamLock

/-- The stream whose own lock a task takes. -/
def waitsFor : StreamTask → Option Nat
  | .playStream stream _ => some stream
  | .stop stream => some stream
  | _ => none

/-- The first section of `Play`, and the stream that is made. -/
def makeStream (m : ParallelStreamManager) (soundID priority streamID : Int) (soundData : Bool) :
    ParallelStreamManager :=
  { m with
    nextStreamId := streamID
    streams := m.streams ++ [{ soundID, streamID, priority, playPriority := priority, soundData }] }

def addStopTask (m : ParallelStreamManager) (stream : Nat) : ParallelStreamManager :=
  m.update stream fun audio => { audio with startStopFlag := true }

end ParallelStreamManager

/-- The manager, the call that holds `soundPoolLock_`, and the threads of the pools.  Nothing
happens any more once the behaviour is undefined. -/
structure ParallelPool where
  manager : ParallelStreamManager := {}
  call : Option StreamCall := none
  threads : List (List StreamTask) := []
  undefined : Bool := false
deriving DecidableEq

/-- A call of the sound pool begins or goes on, a renderer reports to a stream, or a thread
takes its next task. -/
inductive ParallelEvent
  | call (call : StreamCall)
  | proceed (answers : StreamAnswers)
  | writeFinished (stream : Nat)
  | interrupted (stream : Nat)
  | run (thread : Nat) (answers : StreamAnswers)
deriving DecidableEq

def StreamCall.isEntry : StreamCall → Bool
  | .play _ _ => true
  | .stop _ => true
  | .setPriority _ _ => true
  | .unload _ => true
  | _ => false

namespace ParallelPool

def stopping (tasks : List StreamTask) : Option StreamCall :=
  if tasks = [] then none else some (.stopping tasks)

/-- The next step of the call that holds `soundPoolLock_`. -/
def proceed (limit : Nat) (s : ParallelPool) (answers : StreamAnswers) : ParallelPool :=
  let m := s.manager
  match s.call with
  | none => s
  | some (.play soundID priority) =>
    let tries := m.playingStream.length + m.waitingStream.length + 1
    match m.freshStreamId tries m.nextStreamId with
    | none => s
    | some streamID =>
      { s with
        manager := m.makeStream soundID priority streamID answers.soundData
        call := if answers.callback then some (.preparePlay m.streams.length) else none }
  | some (.preparePlay stream) =>
    let outcome := m.preparePlay limit stream false
    { s with
      manager := outcome.manager
      call := none
      threads := s.threads ++ outcome.created
      undefined := outcome.undefined }
  | some (.stop streamID) =>
    { s with call := (m.findStream streamID).map fun stream => .stopping [.stop stream] }
  | some (.setPriority streamID priority) =>
    let assigned := if priority < ParallelStreamManager.minStreamPriority then
      ParallelStreamManager.minStreamPriority else priority
    { s with call := (m.findStream streamID).map fun stream => .prioritise stream assigned }
  | some (.prioritise stream priority) =>
    if m.isLocked stream then s
    else
      { s with
        manager := m.update stream fun audio => { audio with priority := priority }
        call := some .reorderStream }
  | some .reorderStream => { s with manager := m.reorderStream, call := none }
  | some (.unload soundID) =>
    { s with manager := (m.unloadStream soundID).1, call := stopping (m.unloadStream soundID).2 }
  | some (.stopping []) => { s with call := none }
  | some (.stopping (task :: rest)) =>
    if (ParallelStreamManager.waitsFor task).any m.isLocked then s
    else
      let outcome := m.perform limit answers task
      { s with
        manager := outcome.manager
        call := stopping (outcome.next ++ rest)
        threads := s.threads ++ outcome.created
        undefined := outcome.undefined }

/-- A thread takes its next task, unless it waits for the lock of a stream. -/
def runThread (limit : Nat) (s : ParallelPool) (thread : Nat) (answers : StreamAnswers) :
    ParallelPool :=
  match Threads.next? s.threads thread with
  | none => s
  | some task =>
    if (ParallelStreamManager.waitsFor task).any s.manager.isLocked then s
    else
      let outcome := s.manager.perform limit answers task
      { s with
        manager := outcome.manager
        threads := Threads.proceed s.threads thread outcome.next outcome.created
        undefined := outcome.undefined }

/-- `OnWriteData` of a stream that has played to its end. -/
def writeFinished (s : ParallelPool) (stream : Nat) : ParallelPool :=
  if s.manager.streams[stream]?.any fun audio =>
      audio.audioRenderer && audio.isRunning && !audio.startStopFlag then
    { s with
      manager := s.manager.addStopTask stream
      threads := s.threads ++ [[.stopTask stream]] }
  else s

/-- `OnInterrupt` with a hint to pause or stop. -/
def interrupted (s : ParallelPool) (stream : Nat) : ParallelPool :=
  { s with
    manager := s.manager.addStopTask stream
    threads := s.threads ++ [[.stopTask stream]] }

/-- The step function; a call waits for `soundPoolLock_`. -/
def next (limit : Nat) (s : ParallelPool) (event : ParallelEvent) : ParallelPool :=
  if s.undefined then s
  else
    match event with
    | .call call => if s.call = none ∧ call.isEntry then { s with call := some call } else s
    | .proceed answers => s.proceed limit answers
    | .writeFinished stream => s.writeFinished stream
    | .interrupted stream => s.interrupted stream
    | .run thread answers => s.runThread limit thread answers

end ParallelPool

/-- The state reached from a new parallel sound pool. -/
def reachedParallel (maxStreams : Int) (events : List ParallelEvent) : ParallelPool :=
  run (ParallelPool.next (ParallelStreamManager.initThreadPool maxStreams)) {} events

end PlayerFramework.SoundPool
