import PlayerFramework.Transition
import Mathlib.Logic.Function.Basic
import Mathlib.Data.List.Nodup

/-!
The cache of idle renderers (`audio_renderer_manager.cpp`), the id lists of the
`ParallelStreamManager`s that find renderers in it (`parallel_stream_manager.cpp`), and the
operations of `Stream` between them (`stream.cpp`).

The cache has one lock, `renderMgrMutex_`, and every manager has one for its list,
`globalIdMutex_`: a step of a thread is what it does under one of them.  `DelSoundId` alone holds
its list's lock over several steps, and a stream's lock is held throughout `DoPlay` and `Stop`.
-/

namespace PlayerFramework.SoundPool

def audioRendererMaxNum : Nat := 20

/-- An entry of `audioRendererVector_`.  The manager and the sound that the renderer was last
used for are not in the code's entry. -/
structure CachedRenderer where
  globalId : Nat
  renderer : Nat
  manager : Nat
  soundId : Nat
deriving DecidableEq

namespace AudioRendererManager

/-- The id after this one; `INT32_MAX` is the last. -/
def nextGlobalId (globalIdNext : Nat) : Nat :=
  if globalIdNext = 2147483647 then 1 else globalIdNext + 1

/-- `GetAudioRendererInstance`; `DelAudioRenderer` takes the same entry out. -/
def getAudioRendererInstance (vector : List CachedRenderer) (globalId : Nat) :
    Option CachedRenderer × List CachedRenderer :=
  (vector.find? (fun entry => entry.globalId == globalId),
    vector.eraseP (fun entry => entry.globalId == globalId))

/-- `SetAudioRendererInstance` under its lock: what it evicts, and what is cached then. -/
def setAudioRendererInstance (vector : List CachedRenderer) (entry : CachedRenderer) :
    Option CachedRenderer × List CachedRenderer :=
  let pushed := vector ++ [entry]
  if audioRendererMaxNum < pushed.length then (pushed.head?, pushed.tail) else (none, pushed)

end AudioRendererManager

namespace ParallelStreamManager

def getGlobalId (globalIdVector : List (Nat × Nat)) (soundId : Nat) : Option Nat :=
  (globalIdVector.find? (fun entry => entry.1 == soundId)).map Prod.snd

def delGlobalId (globalIdVector : List (Nat × Nat)) (globalId : Nat) : List (Nat × Nat) :=
  globalIdVector.eraseP (fun entry => entry.2 == globalId)

end ParallelStreamManager

/-- What a thread does after a `Stop`: nothing, or the rest of `UnloadStream`. -/
inductive AfterStop where
  | nothing
  | unloadStream (manager soundId : Nat) (streams : List Nat)
deriving DecidableEq

/-- The next thing that a thread does. -/
inductive RendererStage where
  | idle
  | getGlobalId (stream : Nat)
  | getAudioRenderer (stream globalId : Nat)
  | delGlobalId (stream globalId : Nat)
  | createAudioRenderer (stream : Nat) (again : Bool)
  | removeOldAudioRenderer (stream : Nat)
  | deleteRemoved (stream removed : Nat) (managers : List Nat)
  | start (stream : Nat)
  | nextGlobalId (stream : Nat) (after : AfterStop)
  | setAudioRenderer (stream globalId : Nat) (after : AfterStop)
  | deleteEvicted (stream globalId removed : Nat) (managers : List Nat) (after : AfterStop)
  | setGlobalId (stream globalId : Nat) (after : AfterStop)
  | unloadStream (manager soundId : Nat) (streams : List Nat)
  | delSoundId (manager soundId : Nat)
deriving DecidableEq

def AfterStop.stage : AfterStop → RendererStage
  | .nothing => .idle
  | .unloadStream manager soundId streams => .unloadStream manager soundId streams

/-- The managers that `SetParallelManager` has made known, and the manager and the sound of each
stream. -/
structure StreamOwners where
  managers : List Nat
  manager : Nat → Nat
  soundId : Nat → Nat
  known : ∀ stream, manager stream ∈ managers

/-- `created` counts the renderers; `released` and `unloaded` are the history that the
statements speak of. -/
structure Renderers where
  globalIdNext : Nat
  audioRendererVector : List CachedRenderer
  globalIdVector : Nat → List (Nat × Nat)
  audioRenderer : Nat → Option Nat
  isRunning : Nat → Bool
  fullCacheData : Nat → Bool
  streamLock : Nat → Option Nat
  globalIdMutex : Nat → Option Nat
  threads : Nat → RendererStage
  created : Nat
  released : Nat → Bool
  unloaded : Nat → Nat → Bool

namespace Renderers

def initial : Renderers where
  globalIdNext := 0
  audioRendererVector := []
  globalIdVector _ := []
  audioRenderer _ := none
  isRunning _ := false
  fullCacheData _ := true
  streamLock _ := none
  globalIdMutex _ := none
  threads _ := .idle
  created := 0
  released _ := false
  unloaded _ _ := false

def setThread (state : Renderers) (thread : Nat) (stage : RendererStage) : Renderers :=
  { state with threads := Function.update state.threads thread stage }

def release (state : Renderers) (renderer : Option Nat) : Renderers :=
  match renderer with
  | none => state
  | some gone => { state with released := Function.update state.released gone true }

/-- `audioRenderer_` is assigned; what it held goes. -/
def assign (state : Renderers) (stream : Nat) (renderer : Option Nat) : Renderers :=
  { state.release (state.audioRenderer stream) with
    audioRenderer := Function.update state.audioRenderer stream renderer }

def setList (state : Renderers) (manager : Nat) (globalIdVector : List (Nat × Nat)) : Renderers :=
  { state with globalIdVector := Function.update state.globalIdVector manager globalIdVector }

def setCache (state : Renderers) (vector : List CachedRenderer) : Renderers :=
  { state with audioRendererVector := vector }

/-- `DelGlobalId` of one manager, by `DeleteManager` or by the stream. -/
def unlist (state : Renderers) (manager globalId : Nat) : Renderers :=
  state.setList manager (ParallelStreamManager.delGlobalId (state.globalIdVector manager) globalId)

def lockStream (state : Renderers) (stream thread : Nat) : Renderers :=
  { state with streamLock := Function.update state.streamLock stream (some thread) }

def unlockStream (state : Renderers) (stream : Nat) : Renderers :=
  { state with streamLock := Function.update state.streamLock stream none }

/-- `Stop` takes the stream's lock, and goes on where a renderer is running. -/
def enterStop (state : Renderers) (thread stream : Nat) (after : AfterStop) : Renderers :=
  if state.streamLock stream = none then
    if (state.audioRenderer stream).isSome && state.isRunning stream then
      { state.lockStream stream thread with
        isRunning := Function.update state.isRunning stream false }.setThread thread
          (.nextGlobalId stream after)
    else state.setThread thread after.stage
  else state

variable (owners : StreamOwners)

/-- The next step of a thread, or nothing where the lock it needs is held.  `answer` is whether
`AudioRenderer::Create`, with its second try, or `Start` succeeds. -/
def advance (state : Renderers) (thread : Nat) (answer : Bool) : Renderers :=
  match state.threads thread with
  | .idle => state
  | .getGlobalId stream =>
    if state.globalIdMutex (owners.manager stream) = none then
      match ParallelStreamManager.getGlobalId
          (state.globalIdVector (owners.manager stream)) (owners.soundId stream) with
      | some globalId =>
        if 0 < globalId then state.setThread thread (.getAudioRenderer stream globalId)
        else state.setThread thread (.createAudioRenderer stream false)
      | none => state.setThread thread (.createAudioRenderer stream false)
    else state
  | .getAudioRenderer stream globalId =>
    match AudioRendererManager.getAudioRendererInstance state.audioRendererVector globalId with
    | (some entry, rest) =>
      -- the id stays in the manager's list
      ((state.setCache rest).assign stream (some entry.renderer)).setThread thread (.start stream)
    | (none, _) => (state.assign stream none).setThread thread (.delGlobalId stream globalId)
  | .delGlobalId stream globalId =>
    if state.globalIdMutex (owners.manager stream) = none then
      (state.unlist (owners.manager stream) globalId).setThread thread (.getGlobalId stream)
    else state
  | .createAudioRenderer stream again =>
    if (state.audioRenderer stream).isSome then state.setThread thread (.start stream)
    else if answer then
      { state with
        audioRenderer := Function.update state.audioRenderer stream (some state.created)
        created := state.created + 1 }.setThread thread (.start stream)
    else if again then state.setThread thread (.start stream)
    else state.setThread thread (.removeOldAudioRenderer stream)
  | .removeOldAudioRenderer stream =>
    match state.audioRendererVector with
    | [] => state.setThread thread (.createAudioRenderer stream true)
    | oldest :: rest =>
      ((state.setCache rest).release (some oldest.renderer)).setThread thread
        (if 0 < oldest.globalId then .deleteRemoved stream oldest.globalId owners.managers
        else .createAudioRenderer stream true)
  | .deleteRemoved stream _ [] => state.setThread thread (.createAudioRenderer stream true)
  | .deleteRemoved stream removed (manager :: managers) =>
    if state.globalIdMutex manager = none then
      (state.unlist manager removed).setThread thread (.deleteRemoved stream removed managers)
    else state
  | .start stream =>
    let running := (state.audioRenderer stream).isSome && state.fullCacheData stream
    { state.unlockStream stream with
      isRunning := Function.update state.isRunning stream
        (if running then answer else state.isRunning stream) }.setThread thread .idle
  | .nextGlobalId stream after =>
    let globalId := AudioRendererManager.nextGlobalId state.globalIdNext
    { state with globalIdNext := globalId }.setThread thread
      (.setAudioRenderer stream globalId after)
  | .setAudioRenderer stream globalId after =>
    match state.audioRenderer stream with
    | none => state
    | some renderer =>
      let emptied := { state with
        audioRenderer := Function.update state.audioRenderer stream none }
      match AudioRendererManager.setAudioRendererInstance state.audioRendererVector
          { globalId := globalId, renderer := renderer, manager := owners.manager stream,
            soundId := owners.soundId stream } with
      | (none, vector) =>
        (emptied.setCache vector).setThread thread (.setGlobalId stream globalId after)
      | (some evicted, vector) =>
        ((emptied.setCache vector).release (some evicted.renderer)).setThread thread
          (if 0 < evicted.globalId then
            .deleteEvicted stream globalId evicted.globalId owners.managers after
          else .setGlobalId stream globalId after)
  | .deleteEvicted stream globalId _ [] after =>
    state.setThread thread (.setGlobalId stream globalId after)
  | .deleteEvicted stream globalId removed (manager :: managers) after =>
    if state.globalIdMutex manager = none then
      (state.unlist manager removed).setThread thread
        (.deleteEvicted stream globalId removed managers after)
    else state
  | .setGlobalId stream globalId after =>
    if state.globalIdMutex (owners.manager stream) = none then
      { (state.setList (owners.manager stream) (state.globalIdVector (owners.manager stream) ++
            [(owners.soundId stream, globalId)])).unlockStream stream with
        fullCacheData := Function.update state.fullCacheData stream false }.setThread thread
          after.stage
    else state
  | .unloadStream manager soundId (stream :: streams) =>
    state.enterStop thread stream (.unloadStream manager soundId streams)
  | .unloadStream manager soundId [] =>
    if state.globalIdMutex manager = none then
      { state with
        globalIdMutex := Function.update state.globalIdMutex manager (some thread) }.setThread
          thread (.delSoundId manager soundId)
    else state
  | .delSoundId manager soundId =>
    match ParallelStreamManager.getGlobalId (state.globalIdVector manager) soundId with
    | none =>
      { state with
        globalIdMutex := Function.update state.globalIdMutex manager none }.setThread thread .idle
    | some globalId =>
      let (found, rest) :=
        AudioRendererManager.getAudioRendererInstance state.audioRendererVector globalId
      (((state.setCache rest).release (found.map CachedRenderer.renderer)).setList manager
        ((state.globalIdVector manager).eraseP fun entry => entry.1 == soundId))

/-- What the threads are given to do, and their steps.  `unloadStream` is given the streams of
the sound that it finds among the playing ones. -/
inductive Move where
  | doPlay (thread stream : Nat)
  | stop (thread stream : Nat)
  | unloadStream (thread manager soundId : Nat) (streams : List Nat)
  | advance (thread : Nat) (answer : Bool)
deriving DecidableEq

def step (state : Renderers) : Move → Renderers
  | .doPlay thread stream =>
    if state.threads thread = .idle ∧ state.streamLock stream = none then
      (state.lockStream stream thread).setThread thread (.getGlobalId stream)
    else state
  | .stop thread stream =>
    if state.threads thread = .idle then state.enterStop thread stream .nothing else state
  | .unloadStream thread manager soundId streams =>
    if state.threads thread = .idle then
      { state with
        unloaded := Function.update state.unloaded manager
          (Function.update (state.unloaded manager) soundId true) }.setThread thread
            (.unloadStream manager soundId streams)
    else state
  | .advance thread answer => state.advance owners thread answer

end Renderers

end PlayerFramework.SoundPool
