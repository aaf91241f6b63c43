import PlayerFramework.Player.ServerTasks

/-!
`PlayerServer` with its task manager, its task thread and the requests that the
engine has accepted.  A step is an operation of the client, the next action of
the handler on the task thread, a message of the engine, or the next action of a
`Stop` or `Reset` that holds `mutex_`.  `begun`, `received` and `cleared` are
history variables.
-/

namespace PlayerFramework.Player

/-- A handler object; handlers are made afresh and differ in `id`. -/
structure Task where
  id : Nat
  job : Job
deriving DecidableEq

/-- The messages of `OnInfo` that `OnMessageReceived` or `InnerOnInfo` act on.
`other` stands for the rest, which reach no task. -/
inductive PlayerMessage where
  | seekDone
  | speedDone
  | rateDone
  | eos
  | stateChange (extra : PlayerStates)
  | trackDone
  | addSubtitleDone
  | trackInfoUpdate
  | bufferingStart
  | bufferingEnd
  | flvAutoSelectBitRate
  | isLiveStream
  | other
deriving DecidableEq

def EngineRequest.completedBy : EngineRequest → PlayerMessage → Bool
  | .prepareAsync, .stateChange .prepared => true
  | .prepareAsync, .stateChange .stateError => true
  | .play, .stateChange .started => true
  | .pause, .stateChange .paused => true
  | .stop, .stateChange .stopped => true
  | .seek, .seekDone => true
  | .setPlaybackSpeed, .speedDone => true
  | .setPlaybackRate, .rateDone => true
  | _, _ => false

/-- What a state object does with a message: the state it changes to, the
`lastOpStatus_` it writes, and the text of its `MarkTaskDone`. -/
structure MessageEffect where
  state : PlayerServerState
  lastOpStatus : Option PlayerStates := none
  mark : Option String := none
deriving DecidableEq

namespace PlayerServerState

def unchanged (state : PlayerServerState) : MessageEffect :=
  { state }

def handleStateChange : PlayerServerState → PlayerStates → MessageEffect
  | .preparingState, .prepared =>
    { state := .preparedState, mark := some "preparing->prepared done" }
  | .preparingState, .stateError =>
    { state := .initializedState, lastOpStatus := some .stateError
      mark := some "preparing->prepared done" }
  | .preparedState, .started => { state := .playingState, mark := some "prepared->started done" }
  | .preparedState, .stopped => { state := .stoppedState, mark := some "prepared->stopped done" }
  | .preparedState, .stateError =>
    { state := .initializedState, lastOpStatus := some .stateError
      mark := some "prepared->error done" }
  | .playingState, .paused => { state := .pausedState, mark := some "started->paused done" }
  | .playingState, .stopped => { state := .stoppedState, mark := some "started->stopped done" }
  | .pausedState, .started => { state := .playingState, mark := some "paused->started done" }
  | .pausedState, .stopped => { state := .stoppedState, mark := some "paused->stopped done" }
  | .stoppedState, .stateError => { state := .stoppedState, mark := some "stopped->error done" }
  | .stoppedState, .stopped => { state := .stoppedState, mark := some "double stop" }
  | .playbackCompletedState, .started =>
    { state := .playingState, mark := some "completed->started done" }
  | .playbackCompletedState, .stopped =>
    { state := .stoppedState, lastOpStatus := some .stopped
      mark := some "completed->stopped done" }
  | state, _ => state.unchanged

def handlePlaybackComplete : PlayerServerState → MessageEffect
  | .playingState =>
    { state := .playbackCompletedState, lastOpStatus := some .playbackComplete
      mark := some "playing->completed done" }
  | state => state.unchanged

/-- `PreparedHandleEos`; the looping `HandleEos` of the playing and the paused
state launches a task instead, see `PlayerServer.deliver`. -/
def handleEos (looping : Bool) : PlayerServerState → MessageEffect
  | .preparedState =>
    if looping then unchanged .preparedState
    else { state := .playbackCompletedState, lastOpStatus := some .playbackComplete
           mark := some "play->completed done" }
  | state => state.unchanged

def messageStateChange (state : PlayerServerState) : PlayerStates → MessageEffect
  | .playbackComplete => state.handlePlaybackComplete
  | extra => state.handleStateChange extra

def onMessageReceived (state : PlayerServerState) (looping : Bool) : PlayerMessage → MessageEffect
  | .seekDone => { state, mark := some "seek done" }
  | .speedDone => { state, mark := some "speed done" }
  | .rateDone => { state, mark := some "rate done" }
  | .eos => state.handleEos looping
  | .stateChange extra => state.messageStateChange extra
  | .trackDone => { state, mark := some "track done" }
  | .addSubtitleDone => { state, mark := some "addsubtitle done" }
  | .trackInfoUpdate => { state, mark := some "addsubtitle done" }
  | _ => state.unchanged

end PlayerServerState

/-- The handler on the task thread and what it has still to do. -/
structure Running where
  task : Task
  rest : TaskProg

/-- Where a `Stop` or a `Reset` that holds `mutex_` has got to. -/
inductive ClientPhase where
  | free
  | stopLaunch (resetting : Bool)
  | stopWait (task : Task)
  | resetLaunch
  | resetWait (task : Task)
  | resetJoin
deriving DecidableEq

/-- A request that the engine has accepted, and the task that made it. -/
structure Outstanding where
  owner : Task
  request : EngineRequest
deriving DecidableEq

structure TaskHistory where
  begun : List Task := []
  received : List Task := []
  cleared : List Task := []
deriving DecidableEq

structure PlayerServer where
  currState : PlayerServerState := .idleState
  lastOpStatus : PlayerStates := .idle
  data : ServerData := {}
  taskMgr : PlayerServerTaskMgr Task := {}
  running : Option Running := none
  outstanding : List Outstanding := []
  nextTask : Nat := 0
  phase : ClientPhase := .free
  history : TaskHistory := {}

namespace PlayerServer

def fresh (server : PlayerServer) (job : Job) : Task :=
  ⟨server.nextTask, job⟩

def freshCancel (server : PlayerServer) (job : Job) : Task :=
  ⟨server.nextTask + 1, job⟩

/-- A launch as a call of the task manager, with fresh handlers. -/
def launchCall (server : PlayerServer) : Launch → TaskMgrCall Task
  | .launchTask job type taskName => .launchTask (some (server.fresh job)) type taskName none
  | .speedTask job cancel taskName argument =>
    .speedTask (some (server.fresh job)) (some (server.freshCancel cancel)) taskName
      (argument.eval server.data)
  | .seekTask job cancel taskName seekMode seekTime =>
    .seekTask (some (server.fresh job)) (some (server.freshCancel cancel)) taskName
      seekMode.toInt32 seekTime
  | .freezeTask job cancel taskName =>
    .freezeTask (some (server.fresh job)) (some (server.freshCancel cancel)) taskName
  | .unFreezeTask job cancel taskName =>
    .unFreezeTask (some (server.fresh job)) (some (server.freshCancel cancel)) taskName
  | .seekContinousTask job taskName => .seekContinousTask (some (server.fresh job)) taskName
  | .setVideoSurfaeTask job taskName => .setVideoSurfaeTask (some (server.fresh job)) taskName

def launch (server : PlayerServer) (call : Launch) : PlayerServer :=
  { server with
    taskMgr := server.taskMgr.call (server.launchCall call)
    nextTask := server.nextTask + 2 }

def setStatus (server : PlayerServer) (status : PlayerStates) : PlayerServer :=
  { server with lastOpStatus := status }

def changeData (server : PlayerServer) (change : ServerData → ServerData) : PlayerServer :=
  { server with data := change server.data }

def markTaskDone (server : PlayerServer) (taskName : String) : PlayerServer :=
  { server with taskMgr := (server.taskMgr.markTaskDone taskName).2 }

def receive (server : PlayerServer) (task : Task) : PlayerServer :=
  { server with history.received := server.history.received ++ [task] }

def clear (server : PlayerServer) : PlayerServer :=
  { server with
    history.cleared := server.history.cleared ++ server.taskMgr.currTwoPhaseTask.toList }

def clearAllTask (server : PlayerServer) : PlayerServer :=
  { server.clear with taskMgr := server.taskMgr.clearAllTask }

def resetTaskMgr (server : PlayerServer) : PlayerServer :=
  { server.clear with taskMgr := server.taskMgr.reset.2 }

/-- The handler of the task has been executed, or will never be. -/
def Returned (server : PlayerServer) (task : Task) : Bool :=
  decide (.handler task ∉ server.taskMgr.taskThread.taskList) &&
    server.taskMgr.pendingTwoPhaseTasks.all (fun item => item.task != some task) &&
    server.running.all (fun running => running.task != task)

/-- `OnPause`, once `lastOpStatus_` has been checked. -/
def onPause (server : PlayerServer) (isSystemOperation : Bool) : PlayerServer :=
  (server.launch (.launchTask (.pause isSystemOperation) .stateChange "pause")).setStatus .paused

/-- `OnSystemOperation(OPERATION_TYPE_PAUSE, ..)` with `mutex_` taken. -/
def systemPause (server : PlayerServer) : PlayerServer :=
  if server.lastOpStatus = .started then server.onPause true else server

/-- The task thread takes the first entry of its list. -/
def takeTask (server : PlayerServer) : PlayerServer :=
  match server.taskMgr.taskThread.taskList with
  | [] => server
  | .dummyTask :: rest => { server with taskMgr.taskThread.taskList := rest }
  | .handler task :: rest => { server with
      taskMgr.taskThread.taskList := rest
      running := some ⟨task, task.job.body⟩
      history.begun := server.history.begun ++ [task] }

def continueWith (server : PlayerServer) (task : Task) (rest : TaskProg) : PlayerServer :=
  { server with running := some ⟨task, rest⟩ }

/-- The next action of the handler of `task`.  `reply` is the answer of the
engine or of the query, where the action asks for one. -/
def execute (server : PlayerServer) (task : Task) (reply : Bool) : TaskProg → PlayerServer
  | .done => { server with running := none }
  | .getCurrState _ next => server.continueWith task (next server.currState)
  | .test test next => server.continueWith task (next (test.eval server.data))
  | .setData change next => (server.changeData change).continueWith task next
  | .ask _ next => server.continueWith task (next reply)
  | .request request next =>
    if reply then
      { server with
        outstanding := server.outstanding ++ [⟨task, request⟩]
        running := some ⟨task, next true⟩ }
    else server.continueWith task (next false)
  | .changeState state entered same =>
    if server.currState = state then server.continueWith task same
    else { server with currState := state, running := some ⟨task, entered⟩ }
  | .markTaskDone taskName next =>
    ((server.receive task).markTaskDone taskName).continueWith task next
  | .launch prepareTask next => (server.launch prepareTask.launch).continueWith task next
  | .systemPause next =>
    if server.phase = .free then server.systemPause.continueWith task next else server
  | .engineReset next => { server with outstanding := [], running := some ⟨task, next⟩ }

def stepThread (server : PlayerServer) (reply : Bool) : PlayerServer :=
  match server.running with
  | none => server.takeTask
  | some running => server.execute running.task reply running.rest

/-- The engine's side of a message: the first request it completes is no longer
outstanding. -/
def complete (server : PlayerServer) (message : PlayerMessage) : PlayerServer :=
  match server.outstanding.find? (fun pending => pending.request.completedBy message) with
  | none => server
  | some pending => { server.receive pending.owner with
      outstanding := server.outstanding.erase pending }

def enterState (server : PlayerServer) (effect : MessageEffect) : PlayerServer :=
  { server with
    currState := effect.state
    lastOpStatus := effect.lastOpStatus.getD server.lastOpStatus }

/-- `HandleEos`: the seek back to the start of a looping source. -/
def loopSeek (server : PlayerServer) : PlayerServer :=
  if server.data.looping ∧
      (server.currState = .playingState ∨ server.currState = .pausedState) then
    server.launch (.seekTask .eosSeek .eosSeekCancel "eos seek" .previousSync 0)
  else server

/-- The tasks that a message launches beside its `MarkTaskDone`. -/
def messageLaunch (server : PlayerServer) : PlayerMessage → PlayerServer
  | .eos => server.loopSeek
  | .bufferingStart => server.launch (.launchTask .pauseDemuxer .lightTask "PauseDemuxer")
  | .bufferingEnd => server.launch (.launchTask .resumeDemuxer .lightTask "ResumeDemuxer")
  | .flvAutoSelectBitRate =>
    server.launch (.launchTask .autoSelectBitRate .lightTask "AutoSelectBitRateTask")
  | .isLiveStream => server.changeData fun data => { data with isLiveStream := true }
  | _ => server

def markIfSome (server : PlayerServer) : Option String → PlayerServer
  | none => server
  | some taskName => server.markTaskDone taskName

def messageEffect (server : PlayerServer) (message : PlayerMessage) : MessageEffect :=
  server.currState.onMessageReceived server.data.looping message

/-- `PlayingState::StateEnter` pauses a player whose user is in the background. -/
def EntersPlaying (server : PlayerServer) (message : PlayerMessage) : Prop :=
  server.currState ≠ .playingState ∧ (server.messageEffect message).state = .playingState

instance (server : PlayerServer) (message : PlayerMessage) :
    Decidable (server.EntersPlaying message) :=
  inferInstanceAs (Decidable (_ ∧ _))

/-- A message of the engine.  The state object changes the state, enters it and
calls `MarkTaskDone`, in this order.  The `StateEnter` of a background user takes
`mutex_` and waits while a `Stop` or `Reset` holds it. -/
def deliver (server : PlayerServer) (message : PlayerMessage) (inBackground : Bool) :
    PlayerServer :=
  if server.EntersPlaying message ∧ inBackground then
    if server.phase = .free then
      (((server.complete message).enterState (server.messageEffect message)).systemPause).markIfSome
        (server.messageEffect message).mark
    else server
  else
    (((server.complete message).enterState (server.messageEffect message)).markIfSome
      (server.messageEffect message).mark).messageLaunch message

/-- `InitPlayEngine`: the task manager is initialised first, then the engine;
`created` is whether the engine takes the source. -/
def initPlayEngine (server : PlayerServer) (created : Bool) : PlayerServer :=
  if server.lastOpStatus ≠ .idle then server
  else
    let inited := { server with taskMgr := server.taskMgr.init.2 }
    if created then { inited with lastOpStatus := .initialized, currState := .initializedState }
    else inited

/-- The statuses in which the player holds a prepared engine. -/
def isPreparedStatus : PlayerStates → Bool
  | .prepared => true
  | .started => true
  | .playbackComplete => true
  | .paused => true
  | _ => false

/-- `OnPrepare`.  The waiting of `PrepareInner` for the handler changes nothing. -/
def onPrepare (server : PlayerServer) : PlayerServer :=
  ((server.setStatus .prepared).changeData
    fun data => { data with isInterruptNeeded := false }).launch
      (.launchTask .prepare .stateChange "prepare")

def prepare (server : PlayerServer) : PlayerServer :=
  if server.lastOpStatus = .initialized ∨ server.lastOpStatus = .stopped then server.onPrepare
  else server

def onPlay (server : PlayerServer) : PlayerServer :=
  (server.launch (.launchTask .play .stateChange "play")).setStatus .started

def exitSeekContinousAsync (server : PlayerServer) : PlayerServer :=
  if server.data.isInSeekContinous then
    (server.changeData fun data => { data with isInSeekContinous := false }).launch
      (.seekContinousTask .exitSeekContinous "exit seek continous")
  else server

/-- `replayable` is false for a live data source, whose size is -1. -/
def play (server : PlayerServer) (replayable : Bool) : PlayerServer :=
  if server.lastOpStatus = .prepared ∨ server.lastOpStatus = .playbackComplete ∨
      server.lastOpStatus = .paused then
    if server.lastOpStatus = .playbackComplete ∧ replayable = false then server
    else server.onPlay
  else if server.lastOpStatus = .started ∧ server.data.isInSeekContinous = true then
    server.exitSeekContinousAsync
  else server

def pause (server : PlayerServer) : PlayerServer :=
  if server.lastOpStatus = .started then server.onPause false else server

/-- The first critical section of `OnStop`; the stop task follows in `stepClient`. -/
def onStop (server : PlayerServer) (sync : Bool) : PlayerServer :=
  { (server.changeData fun data => { data with isInterruptNeeded := true }).clearAllTask with
    phase := .stopLaunch sync }

def stop (server : PlayerServer) : PlayerServer :=
  if isPreparedStatus server.lastOpStatus then server.onStop false else server

def onReset (server : PlayerServer) : PlayerServer :=
  if isPreparedStatus server.lastOpStatus then server.onStop true
  else if server.lastOpStatus = .stateError then
    { (server.changeData fun data => { data with isInterruptNeeded := true }).clearAllTask with
      phase := .resetLaunch }
  else { server.clearAllTask with phase := .resetLaunch }

def reset (server : PlayerServer) : PlayerServer :=
  if server.lastOpStatus = .idle then server else server.onReset

def release (server : PlayerServer) : PlayerServer :=
  (server.changeData fun data => { data with playerCb := false }).reset

def seekContinous (server : PlayerServer) (mSeconds : Int64) : PlayerServer :=
  if mSeconds = -1 then server.exitSeekContinousAsync
  else
    (server.changeData fun data => { data with isInSeekContinous := true }).launch
      (.seekContinousTask .seekContinous "seek continous")

def seek (server : PlayerServer) (mSeconds : Int64) (mode : PlayerSeekMode) : PlayerServer :=
  if isPreparedStatus server.lastOpStatus = false then server
  else if mode = .continous then server.seekContinous mSeconds
  else
    let target := if mSeconds < 0 then 0 else mSeconds
    server.launch (.seekTask (.seek target mode) .seekCancel "seek" mode target)

/-- The operations that check the status and launch one task. -/
def launchIf (server : PlayerServer) (allowed : Prop) [Decidable allowed] (call : Launch) :
    PlayerServer :=
  if allowed then server.launch call else server

def setPlaybackSpeed (server : PlayerServer) (mode : Int32) (liveSeek : Bool) : PlayerServer :=
  server.launchIf (isPreparedStatus server.lastOpStatus = true ∧
      ¬(server.data.isLiveStream = true ∧ liveSeek = false))
    (.speedTask (.setPlaybackSpeed mode) .setPlaybackSpeedCancel "speed" .speedMode)

def setPlaybackRate (server : PlayerServer) (rate : Rat) (liveSeek : Bool) : PlayerServer :=
  server.launchIf (isPreparedStatus server.lastOpStatus = true ∧
      ¬(server.data.isLiveStream = true ∧ liveSeek = false))
    (.speedTask (.setPlaybackRate rate) .setPlaybackRateCancel "rate" .speedRate)

def setPlayRangeWithMode (server : PlayerServer) : PlayerServer :=
  server.launchIf ((server.lastOpStatus = .initialized ∨ server.lastOpStatus = .prepared ∨
      server.lastOpStatus = .paused ∨ server.lastOpStatus = .stopped ∨
      server.lastOpStatus = .playbackComplete) ∧ server.data.isLiveStream = false)
    (.launchTask .setPlayRange .stateChange "set playRange")

def freeze (server : PlayerServer) : PlayerServer :=
  if server.lastOpStatus ≠ .started then server
  else (server.launch (.freezeTask .freeze .freezeCancel "Freeze")).changeData
    fun data => { data with isFrozen := true }

def unFreeze (server : PlayerServer) : PlayerServer :=
  if server.data.isFrozen = false ∨ server.taskMgr.isInited = false then server
  else (server.launch (.unFreezeTask .unFreeze .unFreezeCancel "UnFreeze")).changeData
    fun data => { data with isFrozen := false }

def setVolume (server : PlayerServer) (inRange : Bool) : PlayerServer :=
  server.launchIf
    (server.lastOpStatus ≠ .stateError ∧ inRange = true ∧ server.currState.isEngineStarted = true)
    (.launchTask .volume .stateChange "volume")

/-- `switchable` is false when switching needs an old surface that is gone. -/
def setVideoSurface (server : PlayerServer) (switchable : Bool) : PlayerServer :=
  server.launchIf ((isPreparedStatus server.lastOpStatus = true ∨ server.lastOpStatus = .stopped) ∧
      switchable = true)
    (.setVideoSurfaeTask .setVideoSurface "SetVideoSurface")

/-- `exclusive` is whether super resolution or camera postprocessing is enabled. -/
def setVideoOutput (server : PlayerServer) (exclusive : Bool) : PlayerServer :=
  server.launchIf
    (exclusive = false ∧ (server.lastOpStatus = .idle ∨ server.lastOpStatus = .initialized))
    (.setVideoSurfaeTask .setVideoOutput "SetVideoOutput")

def selectTrack (server : PlayerServer) : PlayerServer :=
  server.launchIf (isPreparedStatus server.lastOpStatus = true)
    (.launchTask .selectTrack .stateChange "SelectTrack")

def deselectTrack (server : PlayerServer) : PlayerServer :=
  server.launchIf (isPreparedStatus server.lastOpStatus = true)
    (.launchTask .deselectTrack .stateChange "DeselectTrack")

def setMediaMuted (server : PlayerServer) : PlayerServer :=
  server.launchIf
    (isPreparedStatus server.lastOpStatus = true ∨ server.lastOpStatus = .initialized ∨
      server.lastOpStatus = .stopped)
    (.launchTask .setMediaMuted .lightTask "SetMediaMuted")

def forceLoadVideo (server : PlayerServer) : PlayerServer :=
  server.launch (.launchTask .forceLoadVideo .lightTask "ForceLoadVideo")

/-- `engineExists` answers the null check of `playerEngine_`. -/
def setStartFrameRateOptEnabled (server : PlayerServer) (engineExists : Bool) : PlayerServer :=
  server.launchIf (engineExists = true)
    (.launchTask .setStartFrameRateOptEnabled .lightTask "SetStartFrameRateOptEnabled")

/-- `accepted` is the answer of the engine where it is asked. -/
def setLooping (server : PlayerServer) (loop accepted : Bool) : PlayerServer :=
  if server.lastOpStatus = .stateError ∨ server.data.isLiveStream = true then server
  else if server.lastOpStatus = .idle ∨ server.lastOpStatus = .initialized ∨
      server.currState = .preparingState ∨ accepted = true then
    server.changeData fun data => { data with looping := loop }
  else server

def setAudioEffectMode (server : PlayerServer) (isDefault accepted : Bool) : PlayerServer :=
  if isPreparedStatus server.lastOpStatus = true ∧ accepted = true then
    server.changeData fun data => { data with effectModeSet := !isDefault }
  else server

def setPlayerCallback (server : PlayerServer) : PlayerServer :=
  if server.lastOpStatus = .idle ∨ server.lastOpStatus = .initialized then
    server.changeData fun data => { data with playerCb := true }
  else server

end PlayerServer

/-- The public operations; each takes `mutex_`. -/
inductive PlayerOp where
  | setSource (created : Bool)
  | setPlayerCallback
  | prepare
  | play (replayable : Bool)
  | pause
  | stop
  | reset
  | release
  | seek (mSeconds : Int64) (mode : PlayerSeekMode)
  | setPlaybackSpeed (mode : Int32) (liveSeek : Bool)
  | setPlaybackRate (rate : Rat) (liveSeek : Bool)
  | setPlayRangeWithMode
  | freeze
  | unFreeze
  | setVolume (inRange : Bool)
  | setVideoSurface (switchable : Bool)
  | setVideoOutput (exclusive : Bool)
  | selectTrack
  | deselectTrack
  | setMediaMuted
  | forceLoadVideo
  | setStartFrameRateOptEnabled (engineExists : Bool)
  | setLooping (loop accepted : Bool)
  | setAudioEffectMode (isDefault accepted : Bool)
deriving DecidableEq

inductive PlayerEvent where
  | operate (op : PlayerOp)
  /-- The next action of a `Stop` or `Reset` under way. -/
  | stepClient
  | stepThread (reply : Bool)
  | deliver (message : PlayerMessage) (inBackground : Bool)
  /-- `OnErrorMessage` with `MSERR_EXT_API9_IO`. -/
  | ioError
  /-- `OnErrorMessage` with `MSERR_DEMUXER_BUFFER_NO_MEMORY`. -/
  | noMemoryError
  /-- `OnCommonEventReceived` with `COMMON_EVENT_USER_BACKGROUND`. -/
  | userBackground
deriving DecidableEq

namespace PlayerServer

def operate (server : PlayerServer) : PlayerOp → PlayerServer
  | .setSource created => server.initPlayEngine created
  | .setPlayerCallback => server.setPlayerCallback
  | .prepare => server.prepare
  | .play replayable => server.play replayable
  | .pause => server.pause
  | .stop => server.stop
  | .reset => server.reset
  | .release => server.release
  | .seek mSeconds mode => server.seek mSeconds mode
  | .setPlaybackSpeed mode liveSeek => server.setPlaybackSpeed mode liveSeek
  | .setPlaybackRate rate liveSeek => server.setPlaybackRate rate liveSeek
  | .setPlayRangeWithMode => server.setPlayRangeWithMode
  | .freeze => server.freeze
  | .unFreeze => server.unFreeze
  | .setVolume inRange => server.setVolume inRange
  | .setVideoSurface switchable => server.setVideoSurface switchable
  | .setVideoOutput exclusive => server.setVideoOutput exclusive
  | .selectTrack => server.selectTrack
  | .deselectTrack => server.deselectTrack
  | .setMediaMuted => server.setMediaMuted
  | .forceLoadVideo => server.forceLoadVideo
  | .setStartFrameRateOptEnabled engineExists => server.setStartFrameRateOptEnabled engineExists
  | .setLooping loop accepted => server.setLooping loop accepted
  | .setAudioEffectMode isDefault accepted => server.setAudioEffectMode isDefault accepted

/-- `OnStop` after its `ClearAllTask`, and `OnReset` after that. -/
def stepClient (server : PlayerServer) : PlayerServer :=
  match server.phase with
  | .free => server
  | .stopLaunch resetting =>
    let launched := server.launch (.launchTask .stop .stateChange "stop")
    if resetting then { launched with phase := .stopWait (server.fresh .stop) }
    else { launched with lastOpStatus := .stopped, phase := .free }
  | .stopWait task =>
    if server.Returned task then
      { (server.setStatus .stopped).clearAllTask with phase := .resetLaunch }
    else server
  | .resetLaunch =>
    { server.launch (.launchTask .reset .stateChange "reset") with
      phase := .resetWait (server.fresh .reset) }
  | .resetWait task =>
    if server.Returned task then { server.resetTaskMgr with phase := .resetJoin } else server
  | .resetJoin =>
    -- `TaskQueue::Stop` joins the thread.
    if server.running.isNone then
      { server with
        lastOpStatus := .idle
        phase := .free
        data := { server.data with isLiveStream := false } }
    else server

def step (server : PlayerServer) : PlayerEvent → PlayerServer
  | .operate op => if server.phase = .free then server.operate op else server
  | .stepClient => server.stepClient
  | .stepThread reply => server.stepThread reply
  | .deliver message inBackground => server.deliver message inBackground
  | .ioError => server.launch (.launchTask .pauseIoError .stateChange "pause")
  | .noMemoryError => server.launch (.launchTask .noMemoryPauseDemuxer .lightTask "PauseDemuxer")
  | .userBackground =>
    server.launch (.launchTask .receiveCommonEvent .stateChange "receiveccommonevent")

def initial : PlayerServer :=
  {}

end PlayerServer

end PlayerFramework.Player
