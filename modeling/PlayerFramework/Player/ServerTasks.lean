import Mathlib.Data.Rat.Defs
import PlayerFramework.Player.TaskMgr

/-!
The task handlers of `PlayerServer` (`player_server.cpp`) and the operations of
its eight state objects (`player_server_state.cpp`).  A handler is a `TaskProg`:
one node for each thing that another thread can observe or come between, the
engine's answers being read from the environment.  A function that the handlers
call takes what follows it as its last argument.
-/

namespace PlayerFramework.Player

/-- The status codes `PLAYER_*`, as in `lastOpStatus_` and state messages. -/
inductive PlayerStates where
  | stateError
  | idle
  | initialized
  | preparing
  | prepared
  | started
  | paused
  | stopped
  | playbackComplete
deriving DecidableEq

/-- The state objects between which `ChangeState` moves. -/
inductive PlayerServerState where
  | idleState
  | initializedState
  | preparingState
  | preparedState
  | playingState
  | pausedState
  | stoppedState
  | playbackCompletedState
deriving DecidableEq

inductive PlayerSeekMode where
  | nextSync
  | previousSync
  | closestSync
  | closest
  | continous
deriving DecidableEq

def PlayerSeekMode.toInt32 : PlayerSeekMode → Int32
  | .nextSync => 0
  | .previousSync => 1
  | .closestSync => 2
  | .closest => 3
  | .continous => 4

/-- `SPEED_FORWARD_1_00_X`. -/
def speedForward100X : Int32 := 1

/-- The engine calls that are only accepted now and completed by a message. -/
inductive EngineRequest where
  | prepareAsync
  | play
  | pause
  | stop
  | seek
  | setPlaybackSpeed
  | setPlaybackRate
deriving DecidableEq

/-- What a handler asks of code that answers at once. -/
inductive Query where
  | engineExists
  | surfacePromoted
  | innerSurfacePromoted
  | sideOutputSurfaceSet
  | setVideoSurface
  | setVideoOutput
  | freeze
  | isNoNeedToFreeze
  | seekContinous
deriving DecidableEq

/-- The fields of `PlayerServer` and of its `config_` that the handlers read. -/
structure ServerData where
  looping : Bool := false
  speedMode : Int32 := speedForward100X
  speedRate : Rat := 1
  effectModeSet : Bool := false
  playerCb : Bool := false
  isLiveStream : Bool := false
  isFrozen : Bool := false
  isMemoryExchanged : Bool := false
  isInSeekContinous : Bool := false
  isInterruptNeeded : Bool := false
deriving DecidableEq

inductive DataTest where
  | playerCbSet
  | memoryExchanged
  | inSeekContinous
  | interruptNeeded
  | speedModeIs (mode : Int32)
  | speedRateIs (rate : Rat)
  | effectModeSet
deriving DecidableEq

/-- `std::fabs(config_.speedRate - rate) < EPSILON`, without the rounding of `float`. -/
def sameRate (current rate : Rat) : Bool :=
  decide (-(1 / 1000000) < current - rate ∧ current - rate < 1 / 1000000)

def DataTest.eval (data : ServerData) : DataTest → Bool
  | .playerCbSet => data.playerCb
  | .memoryExchanged => data.isMemoryExchanged
  | .inSeekContinous => data.isInSeekContinous
  | .interruptNeeded => data.isInterruptNeeded
  | .speedModeIs mode => data.speedMode == mode
  | .speedRateIs rate => sameRate data.speedRate rate
  | .effectModeSet => data.effectModeSet

/-- The operation for which a handler reads the current state object. -/
inductive StateOp where
  | prepare
  | play
  | pause
  | stop
  | seek
  | seekContinous
  | setPlaybackSpeed
  | setPlaybackRate
  | setPlayRangeWithMode
  | freeze
  | unFreeze
  | pauseDemuxer
  | resumeDemuxer
  | isEngineStarted
deriving DecidableEq

/-- The handlers that `PlayerServer` makes, by the function that makes them. -/
inductive Job where
  | prepare
  | prepareSpeed
  | prepareSpeedCancel
  | setAudioEffectMode
  | play
  | pause (isSystemOperation : Bool)
  | stop
  | reset
  | seek (mSeconds : Int64) (mode : PlayerSeekMode)
  | seekCancel
  | eosSeek
  | eosSeekCancel
  | seekContinous
  | exitSeekContinous
  | setPlaybackSpeed (mode : Int32)
  | setPlaybackSpeedCancel
  | setPlaybackRate (rate : Rat)
  | setPlaybackRateCancel
  | setPlayRange
  | freeze
  | freezeCancel
  | unFreeze
  | unFreezeCancel
  | volume
  | setVideoSurface
  | setVideoOutput
  | selectTrack
  | deselectTrack
  | setMediaMuted
  | forceLoadVideo
  | setStartFrameRateOptEnabled
  | autoSelectBitRate
  | pauseDemuxer
  | resumeDemuxer
  | pauseIoError
  | noMemoryPauseDemuxer
  | receiveCommonEvent
deriving DecidableEq

/-- The `config_` field that a caller passes to `SpeedTask`. -/
inductive SpeedArgument where
  | speedMode
  | speedRate
deriving DecidableEq

/-- The conversion of a `float` argument to `int32_t`, toward zero. -/
def SpeedArgument.eval (data : ServerData) : SpeedArgument → Int32
  | .speedMode => data.speedMode
  | .speedRate => Int32.ofInt (data.speedRate.num.tdiv data.speedRate.den)

/-- A call of the task manager with the handlers it is given. -/
inductive Launch where
  | launchTask (job : Job) (type : PlayerServerTaskType) (taskName : String)
  | speedTask (job cancel : Job) (taskName : String) (argument : SpeedArgument)
  | seekTask (job cancel : Job) (taskName : String) (seekMode : PlayerSeekMode)
      (seekTime : Int64)
  | freezeTask (job cancel : Job) (taskName : String)
  | unFreezeTask (job cancel : Job) (taskName : String)
  | seekContinousTask (job : Job) (taskName : String)
  | setVideoSurfaeTask (job : Job) (taskName : String)
deriving DecidableEq

/-- The tasks that `HandlePrepare` launches once the engine has accepted. -/
inductive PrepareTask where
  | prepareSpeed
  | setAudioEffectMode
deriving DecidableEq

def PrepareTask.launch : PrepareTask → Launch
  | .prepareSpeed => .speedTask .prepareSpeed .prepareSpeedCancel "prepare-speed" .speedMode
  | .setAudioEffectMode => .launchTask .setAudioEffectMode .stateChange "SetAudioEffectMode"

inductive TaskProg where
  | done
  /-- `GetCurrState()`, to call `op` on it. -/
  | getCurrState (op : StateOp) (next : PlayerServerState → TaskProg)
  | test (test : DataTest) (next : Bool → TaskProg)
  | setData (change : ServerData → ServerData) (next : TaskProg)
  | ask (query : Query) (next : Bool → TaskProg)
  | request (request : EngineRequest) (next : Bool → TaskProg)
  /-- `ChangeState(state)`: `entered` runs `StateEnter`; a state that is current
  already is not entered again. -/
  | changeState (state : PlayerServerState) (entered same : TaskProg)
  | markTaskDone (taskName : String) (next : TaskProg)
  | launch (task : PrepareTask) (next : TaskProg)
  /-- `OnSystemOperation(OPERATION_TYPE_PAUSE, ..)`, which takes `mutex_`. -/
  | systemPause (next : TaskProg)
  /-- `playerEngine_->Reset()`, after which the engine is thrown away. -/
  | engineReset (next : TaskProg)

namespace TaskProg

@[simp] def reportInvalidOperation (next : TaskProg) : TaskProg :=
  .markTaskDone "ReportInvalidOperation" next

@[simp] def exitSeekContinous (next : TaskProg) : TaskProg :=
  .test .inSeekContinous fun inSeekContinous =>
    if inSeekContinous then .setData (fun data => { data with isInSeekContinous := false }) next
    else next

@[simp] def handlePlay (next : TaskProg) : TaskProg :=
  exitSeekContinous <| .request .play fun _ => next

@[simp] def handlePause (next : TaskProg) : TaskProg :=
  .ask .engineExists fun engineExists =>
    if engineExists then exitSeekContinous <| .request .pause fun _ => next else next

@[simp] def handleStop (next : TaskProg) : TaskProg :=
  exitSeekContinous <| .request .stop fun _ => next

@[simp] def handleSeek (next : TaskProg) : TaskProg :=
  exitSeekContinous <| .request .seek fun _ => next

@[simp] def handleSeekContinous (next : TaskProg) : TaskProg :=
  .ask .seekContinous fun _ => next

@[simp] def handleSetPlaybackSpeed (mode : Int32) (next : TaskProg) : TaskProg :=
  let record := TaskProg.setData (fun data => { data with speedMode := mode }) next
  .test (.speedModeIs mode) fun same =>
    if same then .markTaskDone "set speed mode is same" next
    else .ask .engineExists fun engineExists =>
      if engineExists then .request .setPlaybackSpeed fun accepted =>
        if accepted then record else next
      else record

@[simp] def handleSetPlaybackRate (rate : Rat) (next : TaskProg) : TaskProg :=
  let record := TaskProg.setData (fun data => { data with speedRate := rate }) next
  .test (.speedRateIs rate) fun same =>
    if same then .markTaskDone "set speed rate is same" next
    else .ask .engineExists fun engineExists =>
      if engineExists then .request .setPlaybackRate fun accepted =>
        if accepted then record else next
      else record

@[simp] def handleSetPlayRange (next : TaskProg) : TaskProg :=
  .ask .engineExists fun engineExists =>
    if engineExists then .markTaskDone "HandleSetPlayRange done" next else next

@[simp] def handlePauseDemuxer (next : TaskProg) : TaskProg :=
  .ask .engineExists fun engineExists =>
    if engineExists then .markTaskDone "PauseDemuxer done" next else next

@[simp] def handleResumeDemuxer (next : TaskProg) : TaskProg :=
  .ask .engineExists fun engineExists =>
    if engineExists then .markTaskDone "ResumeDemuxer done" next else next

@[simp] def handleLiteFreeze (next : TaskProg) : TaskProg :=
  .test .memoryExchanged fun exchanged =>
    if exchanged then next
    else .setData (fun data => { data with isMemoryExchanged := true }) next

@[simp] def handleLiteUnFreeze (next : TaskProg) : TaskProg :=
  .test .memoryExchanged fun exchanged =>
    if exchanged then .setData (fun data => { data with isMemoryExchanged := false }) next
    else next

@[simp] def handleFreeze (next : TaskProg) : TaskProg :=
  .ask .engineExists fun engineExists =>
    if engineExists then
      exitSeekContinous <| .ask .freeze fun frozen =>
        if frozen then
          .ask .isNoNeedToFreeze fun isNoNeedToFreeze =>
            if isNoNeedToFreeze then
              .test .playerCbSet fun playerCb =>
                if playerCb then .markTaskDone "Freeze done" next else next
            else handleLiteFreeze <| .markTaskDone "Freeze done" next
        else .markTaskDone "Freeze done" next
    else next

@[simp] def handleUnFreeze (next : TaskProg) : TaskProg :=
  .ask .engineExists fun engineExists =>
    if engineExists then
      handleLiteUnFreeze <| exitSeekContinous <| .markTaskDone "UnFreeze done" next
    else next

@[simp] def handlePrepare (next : TaskProg) : TaskProg :=
  let effect := TaskProg.test .effectModeSet fun effectModeSet =>
    if effectModeSet then .launch .setAudioEffectMode next else next
  .request .prepareAsync fun accepted =>
    if accepted then
      .test .interruptNeeded fun isInterruptNeeded =>
        if isInterruptNeeded then next
        else .test (.speedModeIs speedForward100X) fun normalSpeed =>
          if normalSpeed then effect else .launch .prepareSpeed effect
    else next

@[simp] def handleReset (next : TaskProg) : TaskProg :=
  .engineReset <| .setData (fun data => { data with looping := false }) next

/-- `ChangeState(preparingState_)` and the `StateEnter` of `PreparingState`. -/
@[simp] def enterPreparing (next : TaskProg) : TaskProg :=
  .changeState .preparingState (handlePrepare next) next

@[simp] def enterStopped (next : TaskProg) : TaskProg :=
  .changeState .stoppedState next next

end TaskProg

namespace PlayerServerState

open TaskProg

@[simp] def prepare : PlayerServerState → TaskProg → TaskProg
  | .initializedState, next => enterPreparing next
  | .stoppedState, next => enterPreparing next
  | .preparedState, next => .markTaskDone "double prepare" next
  | _, next => reportInvalidOperation next

@[simp] def play : PlayerServerState → TaskProg → TaskProg
  | .preparedState, next => handlePlay next
  | .pausedState, next => handlePlay next
  | .playbackCompletedState, next => handlePlay next
  | .playingState, next => .markTaskDone "double play" next
  | _, next => reportInvalidOperation next

@[simp] def pause : PlayerServerState → TaskProg → TaskProg
  | .playingState, next => handlePause next
  | .pausedState, next => .markTaskDone "double pause" next
  | _, next => reportInvalidOperation next

@[simp] def stop : PlayerServerState → TaskProg → TaskProg
  | .preparingState, next => handleStop <| enterStopped next
  | .preparedState, next => handleStop next
  | .playingState, next => handleStop next
  | .pausedState, next => handleStop next
  | .playbackCompletedState, next => handleStop next
  | .stoppedState, next => .markTaskDone "double stop" next
  | _, next => reportInvalidOperation next

/-- The states of a prepared engine, for `Seek`, `SeekContinous`, the two speed
operations and `IsEngineStarted`. -/
@[simp] def isEngineStarted : PlayerServerState → Bool
  | .preparedState => true
  | .playingState => true
  | .pausedState => true
  | .playbackCompletedState => true
  | _ => false

@[simp] def seek (state : PlayerServerState) (next : TaskProg) : TaskProg :=
  if state.isEngineStarted then handleSeek next else reportInvalidOperation next

@[simp] def seekContinous (state : PlayerServerState) (next : TaskProg) : TaskProg :=
  if state.isEngineStarted then handleSeekContinous next else reportInvalidOperation next

@[simp] def setPlaybackSpeed (state : PlayerServerState) (mode : Int32) (next : TaskProg) :
  TaskProg :=
  if state.isEngineStarted then handleSetPlaybackSpeed mode next else reportInvalidOperation next

@[simp] def setPlaybackRate (state : PlayerServerState) (rate : Rat) (next : TaskProg) : TaskProg :=
  if state.isEngineStarted then handleSetPlaybackRate rate next else reportInvalidOperation next

@[simp] def setPlayRangeWithMode : PlayerServerState → TaskProg → TaskProg
  | .initializedState, next => handleSetPlayRange next
  | .preparedState, next => handleSetPlayRange next
  | .pausedState, next => handleSetPlayRange next
  | .stoppedState, next => handleSetPlayRange next
  | .playbackCompletedState, next => handleSetPlayRange next
  | _, next => reportInvalidOperation next

/-- Only `PlayingState` overrides `Freeze`; the base class does not report. -/
@[simp] def freeze : PlayerServerState → TaskProg → TaskProg
  | .playingState, next => handleFreeze next
  | _, next => handleLiteFreeze next

@[simp] def unFreeze : PlayerServerState → TaskProg → TaskProg
  | .playingState, next => handleUnFreeze next
  | .pausedState, next => handleUnFreeze next
  | .playbackCompletedState, next => handleUnFreeze next
  | _, next => handleLiteUnFreeze next

@[simp] def pauseDemuxer : PlayerServerState → TaskProg → TaskProg
  | .preparedState, next => handlePauseDemuxer next
  | .playingState, next => handlePauseDemuxer next
  | .pausedState, next => handlePauseDemuxer next
  | _, next => reportInvalidOperation next

@[simp] def resumeDemuxer : PlayerServerState → TaskProg → TaskProg
  | .preparedState, next => handleResumeDemuxer next
  | .playingState, next => handleResumeDemuxer next
  | .pausedState, next => handleResumeDemuxer next
  | _, next => reportInvalidOperation next

end PlayerServerState

namespace Job

open TaskProg

/-- `SelectTrack` and `DeselectTrack` return without a mark when the engine is
not started. -/
@[simp] def switchTrack (doneName : String) : TaskProg :=
  .ask .engineExists fun engineExists =>
    if engineExists then
      .getCurrState .isEngineStarted fun state =>
        if state.isEngineStarted then .markTaskDone doneName .done else .done
    else .done

@[simp] def prepareBody : TaskProg :=
  let dispatch := TaskProg.getCurrState .prepare fun state => state.prepare .done
  let output := TaskProg.ask .sideOutputSurfaceSet fun isSet =>
    if isSet then .ask .setVideoOutput fun ok => if ok then dispatch else .done else dispatch
  .ask .surfacePromoted fun promoted =>
    if promoted then .ask .setVideoSurface fun ok => if ok then output else .done else output

/-- The light tasks that mark themselves on every path are given by their mark;
what they ask of the engine has no other effect here. -/
@[simp] def body : Job → TaskProg
  | .prepare => prepareBody
  | .prepareSpeed => .request .setPlaybackSpeed fun _ => .done
  | .prepareSpeedCancel => .markTaskDone "interrupted speed done" .done
  | .setAudioEffectMode => .markTaskDone "SetAudioEffectMode done" .done
  | .play => .getCurrState .play fun state => state.play .done
  | .pause _ => .getCurrState .pause fun state => state.pause .done
  | .stop => .getCurrState .stop fun state => state.stop (enterStopped .done)
  | .reset => .changeState .idleState (handleReset .done) .done
  | .seek _ _ => .getCurrState .seek fun state => state.seek .done
  | .seekCancel => .markTaskDone "interrupted seek done" .done
  | .eosSeek => .getCurrState .seek fun state =>
    .ask .engineExists fun engineExists => if engineExists then state.seek .done else .done
  | .eosSeekCancel => .ask .engineExists fun engineExists =>
    if engineExists then .markTaskDone "interrupted seek done" .done else .done
  | .seekContinous => .getCurrState .seekContinous fun state =>
    state.seekContinous (.markTaskDone "seek continous done" .done)
  | .exitSeekContinous => .markTaskDone "exit seek continous done" .done
  | .setPlaybackSpeed mode => .getCurrState .setPlaybackSpeed fun state =>
    state.setPlaybackSpeed mode .done
  | .setPlaybackSpeedCancel => .markTaskDone "interrupted speed done" .done
  | .setPlaybackRate rate => .getCurrState .setPlaybackRate fun state =>
    state.setPlaybackRate rate .done
  | .setPlaybackRateCancel => .markTaskDone "interrupted rate done" .done
  | .setPlayRange => .getCurrState .setPlayRangeWithMode fun state =>
    state.setPlayRangeWithMode .done
  | .freeze => .getCurrState .freeze fun state => state.freeze .done
  | .freezeCancel => .markTaskDone "interrupted OnFreeze done" .done
  | .unFreeze => .getCurrState .unFreeze fun state => state.unFreeze .done
  | .unFreezeCancel => .markTaskDone "cancel OnUnFreeze done" .done
  | .volume => .markTaskDone "volume done" .done
  | .setVideoSurface => .ask .innerSurfacePromoted fun promoted =>
    if promoted then .markTaskDone "SetVideoSurface done" .done else .done
  | .setVideoOutput => .markTaskDone "SetVideoOutput done" .done
  | .selectTrack => switchTrack "SelectTrack done"
  | .deselectTrack => switchTrack "DeselectTrack done"
  | .setMediaMuted => .markTaskDone "SetMediaMuted done" .done
  | .forceLoadVideo => .markTaskDone "ForceLoadVideo done" .done
  | .setStartFrameRateOptEnabled => .markTaskDone "SetStartFrameRateOptEnabled done" .done
  | .autoSelectBitRate => .markTaskDone "flv auto select bitrate done" .done
  | .pauseDemuxer => .getCurrState .pauseDemuxer fun state => state.pauseDemuxer .done
  | .resumeDemuxer => .getCurrState .resumeDemuxer fun state => state.resumeDemuxer .done
  | .pauseIoError => .getCurrState .pause fun state => state.pause .done
  | .noMemoryPauseDemuxer => .getCurrState .pauseDemuxer fun state => state.pauseDemuxer .done
  | .receiveCommonEvent => .markTaskDone "receiveccommonevent done" (.systemPause .done)

end Job

end PlayerFramework.Player
