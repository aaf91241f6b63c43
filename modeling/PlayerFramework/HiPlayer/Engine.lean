import PlayerFramework.Player.ServerTasks

/-!
The state of `HiPlayerImpl` (`hiplayer_impl.cpp`) and its state changes.  The demuxer, the
pipeline and the sinks are other code: what they answer is an argument, what they are told is
written down in the state.
-/

namespace PlayerFramework.HiPlayer

open Player (PlayerSeekMode)

inductive PipelineState where
  | stateError
  | idle
  | initialized
  | preparing
  | prepared
  | started
  | paused
  | stopped
  | playbackComplete
  | frozen
deriving DecidableEq

inductive PlayerStateId where
  | idle
  | init
  | preparing
  | ready
  | pause
  | playing
  | stopped
  | eos
  | error
deriving DecidableEq

def transStateId2PlayerState : PlayerStateId → PipelineState
  | .idle => .idle
  | .init => .initialized
  | .preparing => .preparing
  | .ready => .prepared
  | .pause => .paused
  | .playing => .started
  | .stopped => .stopped
  | .eos => .playbackComplete
  | .error => .stateError

/-- A status of another kind is given by its number. -/
inductive Status where
  | ok
  | errorInvalidParameter
  | errorWrongState
  | errorInvalidOperation
  | error (code : Int)
deriving DecidableEq

/-- The codes of the errors that the modelled functions report. -/
inductive EngineError where
  | dataSourceIoError
  | invalidVal
  | seekContinuousUnsupported
deriving DecidableEq

/-- What the player has handed to `callbackLooper_`. -/
inductive EngineReport where
  | stateChange (state : PipelineState)
  | error (code : EngineError)
  | positionUpdate (positionMs : Int)
  | seekDone (extra : Int)
  | bufferingUpdate (extra : Int)
  | eos (looping : Bool)
deriving DecidableEq

/-- The flags that the player sets on its audio sink. -/
structure AudioSinkFilter where
  isTransitent : Bool := false
  isCancelStart : Bool := false
  frozen : Bool := false
deriving DecidableEq

/-- What has become of a seek: the position has reached the sync manager, or it waits for the
end of the freeze. -/
inductive SeekEffect where
  | carriedOut (positionMs : Int)
  | recorded (positionMs : Int)
deriving DecidableEq

def playRangeDefaultValue : Int := -1

/-- The last four fields are history: the reports, the seeks, the filters whose end of stream has
arrived since the pipeline was last flushed, and whether a completion has been reported since
then. -/
structure HiPlayerImpl where
  pipelineStates : PipelineState := .idle
  curState : PlayerStateId := .idle
  durationMs : Int := -1
  audioSink : Option AudioSinkFilter := none
  videoDecoder : Bool := false
  currentAudioTrackId : Int := -1
  isInterruptNeeded : Bool := false
  isSeek : Bool := false
  isSeekClosest : Bool := false
  isLiveSeek : Bool := false
  isStreaming : Bool := false
  inEosSeek : Bool := false
  isDoCompletedSeek : Bool := false
  isBufferingStartNotified : Bool := false
  isForzenSeekRecv : Bool := false
  frozenSeekTime : Int := 0
  frozenSeekMode : PlayerSeekMode := .nextSync
  startTimeWithMode : Int := playRangeDefaultValue
  endTimeWithMode : Int := playRangeDefaultValue
  isSetPlayRange : Bool := false
  singleLoop : Bool := false
  eosInLoopForFrozen : Bool := false
  isDownloadPaused : Bool := false
  isNetWorkPlay : Bool := false
  completeState : List (String × Bool) := []
  inEosPlayingSeekContinuous : Bool := false
  draggingPlayerAgent : Bool := false
  seekContinousBatchNo : Int := -1
  lastSeekContinousPos : Int := -1
  reportMediaProgress : Bool := false
  collectMaxAmplitude : Bool := false
  syncRunning : Bool := false
  demuxerFrozen : Bool := false
  reports : List EngineReport := []
  seeks : List SeekEffect := []
  arrivedEos : List String := []
  passCompleted : Bool := false
deriving DecidableEq

namespace HiPlayerImpl

def onInfo (report : EngineReport) (player : HiPlayerImpl) : HiPlayerImpl :=
  { player with reports := player.reports ++ [report] }

def updateStateNoLock (newState : PipelineState) (notifyUpward : Bool) (player : HiPlayerImpl) :
    HiPlayerImpl :=
  if player.pipelineStates = newState then player
  else if newState = .idle ∨ newState = .preparing ∨ notifyUpward = false then
    { player with pipelineStates := newState }
  else
    { player with pipelineStates := newState }.onInfo (.stateChange newState)

def onStateChanged (state : PlayerStateId) (player : HiPlayerImpl) : HiPlayerImpl :=
  if player.isDoCompletedSeek then
    { player with
      isDoCompletedSeek := false
      curState := state }.updateStateNoLock (transStateId2PlayerState state) true
  else if player.curState = .eos ∧ state = .pause ∨ player.curState = .error ∧ state = .ready then
    player
  else
    { player with curState := state }.updateStateNoLock (transStateId2PlayerState state) true

def flush (player : HiPlayerImpl) : HiPlayerImpl :=
  { player with
    arrivedEos := []
    passCompleted := false }

/-- `StopReportMediaProgress` and `StopCollectMaxAmplitude` of the callback looper. -/
def stopReports (player : HiPlayerImpl) : HiPlayerImpl :=
  { player with
    reportMediaProgress := false
    collectMaxAmplitude := false }

/-- `StartReportMediaProgress` and `StartCollectMaxAmplitude`. -/
def startReports (player : HiPlayerImpl) : HiPlayerImpl :=
  { player with
    reportMediaProgress := true
    collectMaxAmplitude := true }

end HiPlayerImpl

end PlayerFramework.HiPlayer
