import PlayerFramework.HiPlayer.Seek

/-!
`Freeze`, `UnFreeze` and `PauseSourceDownload` of `hiplayer_impl.cpp`.
-/

namespace PlayerFramework.HiPlayer

namespace HiPlayerImpl

def pauseSourceDownload (player : HiPlayerImpl) : HiPlayerImpl :=
  { player with isDownloadPaused := true }

def setSinkFrozen (frozen : Bool) (player : HiPlayerImpl) : HiPlayerImpl :=
  { player with
    audioSink := player.audioSink.map fun sink => { sink with frozen } }

/-- The answers are those to `CacheBuffer` and to the freeze of the demuxer.  The result tells
besides the status whether there was no need to freeze. -/
def freeze (answers : SeekAnswers) (demuxerFreeze : Status) (player : HiPlayerImpl) :
    Status × Bool × HiPlayerImpl :=
  if player.pipelineStates ≠ .started ∧ player.pipelineStates ≠ .prepared then
    (.ok, false, player.pauseSourceDownload)
  else if player.eosInLoopForFrozen ∨ player.pipelineStates = .prepared then
    (.ok, true, { player with eosInLoopForFrozen := false })
  else
    let cached := player.stopReports.cacheBuffer answers
    let frozen :=
      ({ cached with
        demuxerFrozen := decide (demuxerFreeze = Status.ok)
        syncRunning := false }.pauseSourceDownload).setSinkFrozen true
    if demuxerFreeze ≠ .ok then
      (demuxerFreeze, false, frozen.updateStateNoLock .stateError true)
    else (.ok, false, frozen.updateStateNoLock .frozen false)

def unFreeze (time : TimeConversion) (meets : SeekMeets) (demuxerUnFreeze : Status)
    (player : HiPlayerImpl) : Status × HiPlayerImpl :=
  if player.pipelineStates ≠ .frozen then
    let thawed := player.setSinkFrozen false
    let flushed := if thawed.isForzenSeekRecv then thawed.flush else thawed
    (.ok, { flushed with isForzenSeekRecv := false })
  else
    let sought :=
      if player.isForzenSeekRecv then
        { (player.seekWith time meets player.frozenSeekTime player.frozenSeekMode true true).2 with
          isForzenSeekRecv := false }
      else player
    let thawed := { (sought.setSinkFrozen false).startReports with
      syncRunning := true
      demuxerFrozen := sought.demuxerFrozen && decide (demuxerUnFreeze ≠ Status.ok) }
    if demuxerUnFreeze ≠ .ok then (demuxerUnFreeze, thawed.updateStateNoLock .stateError true)
    else (.ok, thawed.updateStateNoLock .started false)

end HiPlayerImpl

end PlayerFramework.HiPlayer
