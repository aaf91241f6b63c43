import PlayerFramework.HiPlayer.Freeze

/-!
The end of a stream (`HandleEosFlagState` and `HandleCompleteEvent` of `hiplayer_impl.cpp`) among
the operations that touch what it reads: seeks, the continuous seek, freeze, stop and the
preparation.
-/

namespace PlayerFramework.HiPlayer

open Player (PlayerSeekMode)

/-- What the start of a continuous seek meets; `continuous` is the mode of the new agent. -/
structure DraggingAnswers where
  pause : Status := .ok
  created : Bool := true
  init : Status := .ok
  continuous : Bool := true
  hasEosTrack : Bool := false
  resumeDragging : Status := .ok
deriving DecidableEq

/-- What a preparation comes to: the filters it links and the duration. -/
structure Preparation where
  linked : List String := []
  audioSink : Bool := true
  videoDecoder : Bool := true
  durationMs : Int := 0
  prepared : Bool := true
deriving DecidableEq

namespace HiPlayerImpl

def unflagged (completeState : List (String × Bool)) : List (String × Bool) :=
  completeState.map fun item => (item.1, false)

def handleEosFlagState (srcFilter : String) (player : HiPlayerImpl) : Bool × HiPlayerImpl :=
  (player.completeState.all fun item => item.1 = srcFilter || item.2,
    { player with
      completeState := player.completeState.map fun item =>
        if item.1 = srcFilter then (item.1, true) else item
      arrivedEos := player.arrivedEos ++ [srcFilter] })

/-- Without looping the reports stop, with it the end is noted. -/
def loopEnded (player : HiPlayerImpl) : HiPlayerImpl :=
  if !player.singleLoop then player.stopReports
  else
    { player with
      inEosSeek := true
      eosInLoopForFrozen := true }

/-- A play range that is open at one side is given up. -/
def rangeEnded (player : HiPlayerImpl) : HiPlayerImpl :=
  if player.isSetPlayRange ∧ (player.startTimeWithMode = playRangeDefaultValue ∨
      player.endTimeWithMode = playRangeDefaultValue) then
    { player with
      startTimeWithMode := playRangeDefaultValue
      endTimeWithMode := playRangeDefaultValue }
  else player

/-- What `HandleCompleteEvent` does before it reports the end. -/
def completing (player : HiPlayerImpl) : HiPlayerImpl :=
  let ended := { player with isStreaming := false }.loopEnded.rangeEnded
  if !player.singleLoop then ended.onStateChanged .eos else ended

def complete (player : HiPlayerImpl) : HiPlayerImpl :=
  { player.completing.onInfo (.eos player.singleLoop) with
    completeState := unflagged player.completeState
    passCompleted := true }

def handleCompleteEvent (srcFilter : String) (player : HiPlayerImpl) : HiPlayerImpl :=
  if player.curState = .stopped then player
  else
    let flagged := player.handleEosFlagState srcFilter
    if !flagged.1 ∨ flagged.2.inEosPlayingSeekContinuous then flagged.2 else flagged.2.complete

def flushVideoEOS (hasEosTrack : Bool) (player : HiPlayerImpl) : HiPlayerImpl :=
  let decoderEOS := player.completeState.any fun item => item.2
  let playerEOS := player.pipelineStates = .playbackComplete
  if hasEosTrack ∨ decoderEOS ∨ playerEOS then
    { player.flush with
      inEosPlayingSeekContinuous :=
        player.inEosPlayingSeekContinuous || player.curState = .playing
      curState := .pause
      pipelineStates := .paused
      completeState := unflagged player.completeState }
  else player

/-- A playing player pauses inside when a continuous seek starts. -/
def pausedForDragging (answers : DraggingAnswers) (player : HiPlayerImpl) : HiPlayerImpl :=
  if player.curState = .playing then
    let failed :=
      if answers.pause ≠ .ok then player.updateStateNoLock .stateError true else player
    { failed.stopReports with syncRunning := false }
  else player

def playingAgain (player : HiPlayerImpl) : HiPlayerImpl :=
  if player.inEosPlayingSeekContinuous then
    { player with
      curState := .playing
      pipelineStates := .started
      inEosPlayingSeekContinuous := false }
  else player

/-- It resumes inside when the continuous seek is left. -/
def resumedFromDragging (pipelineResume : Status) (player : HiPlayerImpl) : HiPlayerImpl :=
  if player.curState = .playing then
    let started := { player.startReports with syncRunning := true }
    if pipelineResume ≠ .ok then started.updateStateNoLock .stateError true else started
  else player

def startSeekContinous (answers : DraggingAnswers) (player : HiPlayerImpl) :
    Status × HiPlayerImpl :=
  let paused := player.pausedForDragging answers
  if paused.draggingPlayerAgent then (.ok, paused)
  else if !answers.created then (.errorInvalidOperation, paused)
  else if answers.init ≠ .ok then (answers.init, paused)
  else
    let dragging := { paused with draggingPlayerAgent := true }
    if answers.continuous then (answers.resumeDragging, dragging.flushVideoEOS answers.hasEosTrack)
    else (.ok, dragging.onInfo (.error .seekContinuousUnsupported))

def seekContinous (mSeconds batchNo : Int) (answers : DraggingAnswers) (player : HiPlayerImpl) :
    HiPlayerImpl :=
  if !player.videoDecoder ∨ player.isNetWorkPlay ∨ player.seekContinousBatchNo > batchNo then
    player
  else
    let positioned := { player with lastSeekContinousPos := mSeconds }
    if positioned.seekContinousBatchNo = batchNo then positioned
    else ({ positioned with seekContinousBatchNo := batchNo }.startSeekContinous answers).2

def exitSeekContinous (time : TimeConversion) (align : Bool) (batchNo : Int)
    (pipelineResume : Status) (player : HiPlayerImpl) : HiPlayerImpl :=
  if !player.videoDecoder ∨ player.isNetWorkPlay then player
  else
    let numbered := { player with seekContinousBatchNo := batchNo }
    if !numbered.draggingPlayerAgent then numbered
    else
      let released := { numbered with draggingPlayerAgent := false }
      match time.us2HstTime released.lastSeekContinousPos with
      | none => released
      | some _ =>
        let sought := released.syncSeek released.lastSeekContinousPos
        if !align then sought
        else
          sought.playingAgain.resumedFromDragging pipelineResume

def resetPlayRangeParameter (player : HiPlayerImpl) : HiPlayerImpl :=
  { player with
    startTimeWithMode := playRangeDefaultValue
    endTimeWithMode := playRangeDefaultValue
    isSetPlayRange := false }

/-- What `Stop` gives up; the filters of a pipeline that has stopped are flushed. -/
def released (player : HiPlayerImpl) : HiPlayerImpl :=
  { player.stopReports.flush with
    draggingPlayerAgent := false
    syncRunning := false
    completeState := unflagged player.completeState }.resetPlayRangeParameter

def stop (player : HiPlayerImpl) : HiPlayerImpl :=
  player.released.onStateChanged .stopped

def prepareAsync (preparation : Preparation) (player : HiPlayerImpl) : HiPlayerImpl :=
  if player.pipelineStates ≠ .initialized ∧ player.pipelineStates ≠ .stopped then player
  else
    let sourced := { player.flush with completeState := [] }
    let preparing := sourced.onStateChanged .preparing
    let linked := { preparing with
      completeState := preparation.linked.map fun name => (name, false)
      audioSink := if preparation.audioSink then some {} else none
      videoDecoder := preparation.videoDecoder
      durationMs := preparation.durationMs }
    if preparation.prepared then linked.onStateChanged .ready else linked

end HiPlayerImpl

/-- `changesState` is what `Play`, `Pause` and an error come to; the seek with which `Play`
begins again has a step of its own. -/
inductive EngineCall where
  | endOfStream (srcFilter : String)
  | seek (meets : SeekMeets) (mSeconds : Int) (mode : PlayerSeekMode)
  | playSeek (meets : SeekMeets) (mSeconds : Int) (mode : PlayerSeekMode)
  | seekContinous (mSeconds batchNo : Int) (answers : DraggingAnswers)
  | exitSeekContinous (align : Bool) (batchNo : Int) (pipelineResume : Status)
  | freeze (answers : SeekAnswers) (demuxerFreeze : Status)
  | unFreeze (meets : SeekMeets) (demuxerUnFreeze : Status)
  | setLooping (loop : Bool)
  | stop
  | prepareAsync (preparation : Preparation)
  | changesState (state : PlayerStateId)
deriving DecidableEq

namespace HiPlayerImpl

def next (time : TimeConversion) (player : HiPlayerImpl) (call : EngineCall) : HiPlayerImpl :=
  match call with
  | .endOfStream srcFilter => player.handleCompleteEvent srcFilter
  | .seek meets mSeconds mode => (player.seek time meets mSeconds mode).2
  | .playSeek meets mSeconds mode =>
    ({ player with isStreaming := true }.seekWith time meets mSeconds mode false false).2
  | .seekContinous mSeconds batchNo answers => player.seekContinous mSeconds batchNo answers
  | .exitSeekContinous align batchNo resume =>
    player.exitSeekContinous time align batchNo resume
  | .freeze answers demuxerFreeze => (player.freeze answers demuxerFreeze).2.2
  | .unFreeze meets demuxerUnFreeze => (player.unFreeze time meets demuxerUnFreeze).2
  | .setLooping loop => { player with singleLoop := loop }
  | .stop => player.stop
  | .prepareAsync preparation => player.prepareAsync preparation
  | .changesState state => player.onStateChanged state

end HiPlayerImpl

end PlayerFramework.HiPlayer
