import Mathlib.Algebra.Group.Nat.Defs
import PlayerFramework.HiPlayer.Engine

/-!
A seek of the player (`Seek`, `LiveSeek`, `HandleSeek`, the seeks of the states, `doSeek`,
`HandleSeekClosest` and `NotifySeek` of `hiplayer_impl.cpp`, `SeekAgent::Seek` of
`seek_agent.cpp`).
-/

namespace PlayerFramework.HiPlayer

open Player (PlayerSeekMode)

/-- The conversions of the plugin interface. -/
structure TimeConversion where
  us2HstTime : Int → Option Int
  hstTime2Ms : Int → Int

/-- What the engine answers while one seek is carried out. -/
structure SeekAnswers where
  isAudioDemuxDecodeAsync : Bool := false
  cacheBuffer : Status := .ok
  audioTracks : List (Int × String) := []
  seekTo : Status := .ok
  seekToPrevious : Status := .ok
  closestSeekTo : Status := .ok
  producers : Bool := true
  arrived : Bool := true
  closestSeekAgain : Status := .ok
  isRenderNextVideoFrameSupported : Bool := false
  isVideoEos : Bool := false
  preroll : Status := .ok
deriving DecidableEq

structure SeekRange where
  start : Int
  finish : Int
deriving DecidableEq

/-- What a call of `Seek` meets: the answers to the seek, the seekable ranges with the answers
to a seek into each, and the clock of the sync manager before and after. -/
structure SeekMeets where
  answers : SeekAnswers := {}
  ranges : List (SeekRange × SeekAnswers) := []
  isBuffering : Bool := false
  beforeMs : Int := 0
  afterMs : Int := 0
deriving DecidableEq

def int32Max : Int := 2147483647

def notifyBufferingEndParam : Int := 0

/-- The conversion to `int32_t`. -/
def toInt32 (value : Int) : Int := Int.bmod value (2 ^ 32)

def seekAgentSeek (answers : SeekAnswers) (interrupted : Bool) : Status :=
  if answers.closestSeekTo ≠ .ok then .errorInvalidOperation
  else if !answers.producers then .errorInvalidOperation
  else if interrupted then .errorInvalidOperation
  else if !answers.arrived ∧ answers.closestSeekAgain ≠ .ok then .errorInvalidOperation
  else .ok

namespace HiPlayerImpl

def setIsTransitent (flag : Bool) (player : HiPlayerImpl) : HiPlayerImpl :=
  { player with
    audioSink := player.audioSink.map fun sink => { sink with isTransitent := flag } }

def setIsCancelStart (flag : Bool) (player : HiPlayerImpl) : HiPlayerImpl :=
  { player with
    audioSink := player.audioSink.map fun sink => { sink with isCancelStart := flag } }

def syncSeek (positionMs : Int) (player : HiPlayerImpl) : HiPlayerImpl :=
  { player with seeks := player.seeks ++ [.carriedOut positionMs] }

def cacheBuffer (answers : SeekAnswers) (player : HiPlayerImpl) : HiPlayerImpl :=
  if !answers.isAudioDemuxDecodeAsync ∧ player.audioSink.isSome ∧ answers.cacheBuffer ≠ .ok then
    player.updateStateNoLock .stateError true
  else player

def needSeekClosest (answers : SeekAnswers) (player : HiPlayerImpl) : Bool :=
  match answers.audioTracks.find? fun track =>
      track.1 = player.currentAudioTrackId ∧ track.2 = "audio/x-ape" with
  | some _ => false
  | none => true

def handleSeekClosest (answers : SeekAnswers) (seekPos : Int) (player : HiPlayerImpl) :
    Status × HiPlayerImpl :=
  let started := { player with isSeekClosest := true }.setIsCancelStart true
  if started.isInterruptNeeded then (.ok, started)
  else
    let res := seekAgentSeek answers started.isInterruptNeeded
    if res = .ok then (res, (started.syncSeek seekPos).setIsCancelStart false)
    else (res, started.setIsCancelStart false)

def doSeek (time : TimeConversion) (answers : SeekAnswers) (seekPos : Int)
    (mode : PlayerSeekMode) (player : HiPlayerImpl) : Status × HiPlayerImpl :=
  match time.us2HstTime seekPos with
  | none => (.errorInvalidParameter, player)
  | some _ =>
    if mode = .closest ∧ player.needSeekClosest answers then
      player.handleSeekClosest answers seekPos
    else
      let mode := if mode = .closest then PlayerSeekMode.nextSync else mode
      -- If it has no next key frame, the previous one is sought.
      let rtv :=
        if answers.seekTo ≠ .ok ∧ mode = .nextSync then answers.seekToPrevious
        else answers.seekTo
      if rtv = .ok then (rtv, player.syncSeek seekPos) else (rtv, player)

/-- The first frame is shown again after a seek that has gone well. -/
def prerolled (answers : SeekAnswers) (rtv : Status) : Status :=
  if rtv = .ok ∧ answers.isRenderNextVideoFrameSupported ∧ !answers.isVideoEos then
    answers.preroll
  else rtv

def doPreparedSeek (time : TimeConversion) (answers : SeekAnswers) (seekPos : Int)
    (mode : PlayerSeekMode) (player : HiPlayerImpl) : Status × HiPlayerImpl :=
  let sought := player.flush.doSeek time answers seekPos mode
  (prerolled answers sought.1, sought.2)

def doStartedSeek (time : TimeConversion) (answers : SeekAnswers) (seekPos : Int)
    (mode : PlayerSeekMode) (player : HiPlayerImpl) : Status × HiPlayerImpl :=
  let sought := (player.cacheBuffer answers).flush.doSeek time answers seekPos mode
  (sought.1, { sought.2 with inEosSeek := false })

def doPausedSeek (time : TimeConversion) (answers : SeekAnswers) (seekPos : Int)
    (mode : PlayerSeekMode) (player : HiPlayerImpl) : Status × HiPlayerImpl :=
  let sought := player.flush.doSeek time answers seekPos mode
  (prerolled answers sought.1, { sought.2 with inEosSeek := false })

def doFrozenSeek (time : TimeConversion) (answers : SeekAnswers) (seekPos : Int)
    (mode : PlayerSeekMode) (isUnFreezeSeek : Bool) (player : HiPlayerImpl) :
    Status × HiPlayerImpl :=
  if isUnFreezeSeek then
    let sought := player.flush.doSeek time answers seekPos mode
    (sought.1, { sought.2 with inEosSeek := false })
  else
    (.ok, { player with
      isForzenSeekRecv := true
      frozenSeekTime := seekPos
      frozenSeekMode := mode
      seeks := player.seeks ++ [.recorded seekPos] })

def doCompletedSeek (time : TimeConversion) (answers : SeekAnswers) (seekPos : Int)
    (mode : PlayerSeekMode) (player : HiPlayerImpl) : Status × HiPlayerImpl :=
  let sought := player.flush.doSeek time answers seekPos mode
  if sought.2.isStreaming then (sought.1, { sought.2 with syncRunning := true })
  else
    (prerolled answers sought.1,
      { sought.2.stopReports with isDoCompletedSeek := true }.onStateChanged .pause)

def handleSeek (time : TimeConversion) (answers : SeekAnswers) (seekPos : Int)
    (mode : PlayerSeekMode) (isUnFreezeSeek : Bool) (player : HiPlayerImpl) :
    Status × HiPlayerImpl :=
  match player.pipelineStates with
  | .started => player.doStartedSeek time answers seekPos mode
  | .paused => player.doPausedSeek time answers seekPos mode
  | .playbackComplete => player.doCompletedSeek time answers seekPos mode
  | .prepared => player.doPreparedSeek time answers seekPos mode
  | .frozen => player.doFrozenSeek time answers seekPos mode isUnFreezeSeek
  | _ => (.errorWrongState, player)

def notifyBufferEnd (isBuffering : Bool) (player : HiPlayerImpl) : HiPlayerImpl :=
  if !player.isSeekClosest then player
  else
    let ended := { player with isSeekClosest := false }
    if !player.isBufferingStartNotified ∨ isBuffering then ended
    else
      { ended with isBufferingStartNotified := false }.onInfo
        (.bufferingUpdate notifyBufferingEndParam)

def notifySeekDone (isBuffering : Bool) (seekPos : Int) (player : HiPlayerImpl) : HiPlayerImpl :=
  let ended := player.notifyBufferEnd isBuffering
  let positioned :=
    if player.durationMs > 0 then ended.onInfo (.positionUpdate (toInt32 seekPos)) else ended
  positioned.onInfo (.seekDone (toInt32 seekPos))

def notifySeek (isBuffering : Bool) (rtv : Status) (flag : Bool) (seekPos : Int)
    (player : HiPlayerImpl) : HiPlayerImpl :=
  if rtv ≠ .ok then
    if player.isInterruptNeeded then player
    else
      ((player.updateStateNoLock .stateError true).onInfo (.error .dataSourceIoError)).onInfo
        (.seekDone (-1))
  else if flag then player.notifySeekDone isBuffering seekPos
  else player.notifyBufferEnd isBuffering

def getCurrentTime (mediaTimeMs : Int) (player : HiPlayerImpl) : Option Int :=
  if !player.isSetPlayRange ∧ (player.curState = .eos ∨ player.inEosSeek) then
    some player.durationMs
  else if player.isSeek then none
  else
    let positionMs := max mediaTimeMs 0
    if player.durationMs > 0 ∧ positionMs > player.durationMs then some player.durationMs
    else some positionMs

/-- The flags that a seek sets at its start. -/
def seeking (player : HiPlayerImpl) : HiPlayerImpl :=
  { player.setIsTransitent true with isSeek := true }

/-- The flags are put back after the answer. -/
def seekEnded (player : HiPlayerImpl) : HiPlayerImpl :=
  { player.setIsTransitent false with isSeek := false }

def contains (time : TimeConversion) (mSeconds : Int) (range : SeekRange) : Bool :=
  time.hstTime2Ms range.start ≤ mSeconds ∧ mSeconds ≤ time.hstTime2Ms range.finish

/-- The loop of `LiveSeek` over the seekable ranges. -/
def seekRanges (time : TimeConversion) (mSeconds : Int) (mode : PlayerSeekMode)
    (isUnFreezeSeek : Bool) :
    List (SeekRange × SeekAnswers) → Status × HiPlayerImpl → Status × HiPlayerImpl
  | [], reached => reached
  | (item, answers) :: rest, (rtv, player) =>
    if rtv = .ok ∧ contains time mSeconds item then
      seekRanges time mSeconds mode isUnFreezeSeek rest
        (player.handleSeek time answers (mSeconds - time.hstTime2Ms item.start) mode isUnFreezeSeek)
    else seekRanges time mSeconds mode isUnFreezeSeek rest (rtv, player)

def liveSeek (time : TimeConversion) (meets : SeekMeets) (mSeconds : Int)
    (mode : PlayerSeekMode) (notifySeekDone isUnFreezeSeek : Bool) (player : HiPlayerImpl) :
    Status × HiPlayerImpl :=
  let curPosMs := (player.getCurrentTime meets.beforeMs).getD 0
  let rtv := if mSeconds ≥ 0 then Status.ok else .errorInvalidParameter
  if meets.ranges.isEmpty then (.errorInvalidParameter, player.seeking)
  else
    let sought := seekRanges time mSeconds mode isUnFreezeSeek meets.ranges (rtv, player.seeking)
    let finished :=
      (sought.2.notifySeek meets.isBuffering sought.1 notifySeekDone mSeconds).seekEnded
    let curPostAfterSeek := (finished.getCurrentTime meets.afterMs).getD int32Max
    if sought.1 = .ok ∧ curPosMs > curPostAfterSeek then
      (sought.1, { finished with isLiveSeek := true })
    else (sought.1, finished)

/-- `Seek` with the flags that tell whether it is answered and whether it ends a freeze. -/
def seekWith (time : TimeConversion) (meets : SeekMeets) (mSeconds : Int)
    (mode : PlayerSeekMode) (notifySeekDone isUnFreezeSeek : Bool) (player : HiPlayerImpl) :
    Status × HiPlayerImpl :=
  if player.durationMs > 0 then
    let seekPos := max 0 (min mSeconds player.durationMs)
    let sought := player.seeking.handleSeek time meets.answers seekPos mode isUnFreezeSeek
    (sought.1, (sought.2.notifySeek meets.isBuffering sought.1 notifySeekDone seekPos).seekEnded)
  else player.liveSeek time meets mSeconds mode notifySeekDone isUnFreezeSeek

def isInValidSeekTime (seekPos : Int) (player : HiPlayerImpl) : Bool × HiPlayerImpl :=
  if player.endTimeWithMode = playRangeDefaultValue then (false, player)
  else if player.startTimeWithMode = playRangeDefaultValue then
    if seekPos > player.endTimeWithMode then
      (false, { player with endTimeWithMode := playRangeDefaultValue })
    else (false, player)
  else (seekPos < player.startTimeWithMode ∨ seekPos > player.endTimeWithMode, player)

def seek (time : TimeConversion) (meets : SeekMeets) (mSeconds : Int) (mode : PlayerSeekMode)
    (player : HiPlayerImpl) : Status × HiPlayerImpl :=
  let checked := player.isInValidSeekTime mSeconds
  if checked.1 then
    (.errorInvalidParameter, (checked.2.onStateChanged .error).onInfo (.error .invalidVal))
  else checked.2.seekWith time meets mSeconds mode true false

end HiPlayerImpl

end PlayerFramework.HiPlayer
