import PlayerFramework.PlayerMem.Reclaim

/-!
`LocalResourceRelease` and `LocalResourceRecover` where calls of `PlayerServer` fail, any of them
and any number of times. A media data source is never a local one, and the engine reports no
error by itself.
-/

namespace PlayerFramework.PlayerMem

open Player (PlayerStates PlayerSeekMode speedForward100X)
open Transition

inductive AttemptCall where
  | getCurrentTime
  | getVideoTrackInfo
  | getAudioTrackInfo
  | getCurrentTrack (trackType : TrackType)
  | getDuration
  | reset
  | setSource
  | setVolume
  | setVideoSurface
  | setLooping
  | setVideoScaleType
  | setAudioRendererInfo
  | setAudioInterruptMode
  | prepareInner
  | selectBitRate
  | setPlaybackSpeed
  | seek
  | selectTrack
deriving DecidableEq

def nothing : AttemptCall → Bool := fun _ => false

namespace PlayerServer

/-- A call that fails, by itself or because it is refused, changes nothing. -/
def tryCall (fails : Bool) (step : PlayerServer → Option PlayerServer) (server : PlayerServer) :
    PlayerServer × Bool :=
  match if fails then none else step server with
  | none => (server, false)
  | some next => (next, true)

def tryIf (needed fails : Bool) (step : PlayerServer → Option PlayerServer)
    (server : PlayerServer) : PlayerServer × Bool :=
  if needed then tryCall fails step server else (server, true)

/-- Calls that are made until one fails. -/
def tryAll : List (PlayerServer → PlayerServer × Bool) → PlayerServer → PlayerServer × Bool
  | [], server => (server, true)
  | step :: rest, server =>
    match step server with
    | (next, true) => tryAll rest next
    | (left, false) => (left, false)

/-- `PrepareInner`, which changes the state before it launches its task. -/
def prepareInner (media : Media) (fails : Bool) (server : PlayerServer) : PlayerServer × Bool :=
  if fails = true ∧ (server.lastOpStatus = .initialized ∨ server.lastOpStatus = .stopped) then
    ({ server with lastOpStatus := .prepared }, false)
  else tryCall fails (prepare media) server

end PlayerServer

open PlayerServer (tryCall tryIf tryAll)

namespace PlayerServerMem

section

variable (fails : AttemptCall → Bool)

def trySaveParameter (mem : PlayerServerMem) : List (PlayerServer → PlayerServer × Bool) :=
  let config := mem.recoverConfig
  [tryCall false fun server => if server.engine = none then none else some server,
    tryIf (decide (config.videoScaleType ≠ -1)) (fails .setVideoScaleType) fun server =>
      some (server.onEngine fun engine =>
        { engine with videoScaleType := some config.videoScaleType }),
    tryIf config.rendererSet (fails .setAudioRendererInfo) fun server =>
      some (server.onEngine fun engine =>
        engine.setAudioRendererInfo config.contentType config.streamUsage config.rendererFlag
          config.volumeMode),
    tryIf (decide (config.interruptMode ≠ -1)) (fails .setAudioInterruptMode) fun server =>
      some (server.onEngine fun engine =>
        { engine with audioInterruptMode := some config.interruptMode }),
    tryCall false fun server => some { server with effectMode := config.effectMode }]

/-- `SetConfigInternal` up to its `SetSaveParameter`. -/
def tryConfig (mem : PlayerServerMem) : List (PlayerServer → PlayerServer × Bool) :=
  let config := mem.recoverConfig
  [tryIf config.volumeSet (fails .setVolume)
      (PlayerServer.setVolume config.leftVolume config.rightVolume),
    tryIf config.surface.isSome (fails .setVideoSurface) mem.recoverSurface,
    tryIf config.loop (fails .setLooping) (PlayerServer.setLooping config.loop)]

def tryBitRate (mem : PlayerServerMem) : PlayerServer → PlayerServer × Bool :=
  tryIf (decide (mem.recoverConfig.bitRate ≠ 0)) (fails .selectBitRate)
    (PlayerServer.selectBitRate mem.recoverConfig.bitRate)

def trySpeed (mem : PlayerServerMem) : PlayerServer → PlayerServer × Bool :=
  tryIf (decide (mem.recoverConfig.speedMode ≠ speedForward100X)) (fails .setPlaybackSpeed)
    (PlayerServer.setPlaybackSpeed mem.recoverConfig.speedMode)

def tryAudioTrack (mem : PlayerServerMem) : PlayerServer → PlayerServer × Bool :=
  tryIf mem.needSelectAudioTrack (fails .selectTrack)
    (PlayerServer.selectTrack .audio mem.recoverConfig.audioIndex)

/-- `MemRecoverToInitialized` after its `SetPlayerServerConfig`. -/
def tryInitialized (mem : PlayerServerMem) : List (PlayerServer → PlayerServer × Bool) :=
  tryCall (fails .setSource) mem.setSourceInternal ::
    (mem.tryConfig fails ++ mem.trySaveParameter fails)

variable (media : Media)

/-- `PrepareSyncInner`, and the sub-sources, whose failures nobody looks at. -/
def tryPrepare (mem : PlayerServerMem) : List (PlayerServer → PlayerServer × Bool) :=
  [PlayerServer.prepareInner media (fails .prepareInner), tryCall false mem.addSubSourceInternal]

def trySeek (mem : PlayerServerMem) : PlayerServer → PlayerServer × Bool :=
  tryIf (decide (mem.recoverConfig.currentTime ≠ 0)) (fails .seek)
    (PlayerServer.seek media mem.recoverConfig.currentTime .closest)

/-- `MemStateRecover` of the states that have one of their own. -/
def tryStateRecover (mem : PlayerServerMem) : Option (List (PlayerServer → PlayerServer × Bool)) :=
  match mem.recoverConfig.currState with
  | .initialized | .stopped => some (mem.tryInitialized fails)
  | .preparing | .prepared | .paused =>
    some (mem.tryInitialized fails ++ mem.tryPrepare fails media ++
      [mem.tryBitRate fails, mem.trySpeed fails, mem.trySeek fails media, mem.tryAudioTrack fails])
  | .playbackComplete =>
    some (mem.tryInitialized fails ++ mem.tryPrepare fails media ++
      [mem.trySpeed fails, mem.tryBitRate fails, mem.tryAudioTrack fails])
  | _ => none

/-- `LocalResourceRecover` of a player that is not being recovered. -/
def localResourceRecover (mem : PlayerServerMem) : PlayerServerMem × Bool :=
  if mem.isReleaseMemByManage = false then (mem, true)
  else
    match mem.tryStateRecover fails media with
    | none => (mem, false)
    | some steps =>
      let recovering := tryAll steps { mem.base with uriHelper := mem.uriHelper }
      ({ mem with
        base := recovering.1
        uriHelper := none
        isReleaseMemByManage := !recovering.2 }, recovering.2)

/-- `GetInformationBeforeMemReset`: what is written down where it ends. A time that could not be
read is negative, which a seek takes for the beginning. -/
def informedUnless (mem : PlayerServerMem) : RecoverConfigInfo :=
  let config := { mem.recoverConfig with currState := mem.base.lastOpStatus }
  match mem.base.lastOpStatus, mem.base.engine with
  | .initialized, _ | .stopped, _ | _, none => config
  | _, some engine =>
    if fails .getCurrentTime then { config with currentTime := 0 }
    else
      let timed := { config with currentTime := mem.base.getCurrentTime }
      if fails .getVideoTrackInfo || fails .getAudioTrackInfo ||
          fails (.getCurrentTrack .audio) then timed
      else
        let tracked := { timed with audioIndex := engine.audioTrack }
        if fails (.getCurrentTrack .video) || fails (.getCurrentTrack .subtitle) ||
            fails .getDuration then tracked
        else { tracked with effectMode := mem.base.effectMode }

/-- `LocalResourceRelease` of a player that is neither released nor being recovered. The result
of `GetInformationBeforeMemReset` is not looked at. -/
def localResourceRelease (mem : PlayerServerMem) : PlayerServerMem × Bool :=
  match mem.base.lastOpStatus with
  | .initialized | .preparing | .prepared | .paused | .stopped | .playbackComplete =>
    let cleared := { mem.base.clearConfigInfo with uriHelper := none }
    let saved :=
      { mem with recoverConfig := mem.informedUnless fails, uriHelper := mem.base.uriHelper }
    match if fails .reset then none else cleared.reset with
    | none => ({ saved with base := cleared }, false)
    | some server => ({ saved with base := server, isReleaseMemByManage := true }, true)
  | _ =>
    ({ mem with
      recoverConfig := { mem.recoverConfig with currState := mem.base.lastOpStatus } }, true)

/-- What an attempt without failures brings back, after a release without failures where the
player is not released. -/
def retried (mem : PlayerServerMem) : PlayerServer × Bool :=
  let released := if mem.isReleaseMemByManage then mem else (mem.localResourceRelease nothing).1
  let recovered := released.localResourceRecover nothing media
  (recovered.1.base, recovered.2)

end

end PlayerServerMem

/-- `before` is the player as the client last had it, and `failed` says that the last event was an
attempt that returned an error. -/
structure Attempts where
  mem : PlayerServerMem := {}
  isRecoverMemByUser : Bool := false
  before : PlayerServerMem := mem
  failed : Bool := false
deriving DecidableEq

/-- Attempts with the calls that fail in them; `recovered` is the `RecoverPlayerCb` of a
recovery. -/
inductive AttemptEvent where
  | release (fails : AttemptCall → Bool)
  | recover (fails : AttemptCall → Bool)
  | recovered
  | client (op : ClientOp) (fails : AttemptCall → Bool)
  | direct (op : DirectOp)
  | report (report : EngineReport)
  | defaultTrack (index : Int)

namespace Attempts

/-- The client goes on with a player that is not released. -/
def settle (mem : PlayerServerMem) (attempts : Attempts) : Attempts :=
  { attempts with
    mem
    before := if attempts.mem.isReleaseMemByManage then attempts.before else mem
    failed := false }

/-- The memory manager asks only for players with a surface. -/
def release (fails : AttemptCall → Bool) (attempts : Attempts) : Attempts :=
  if attempts.mem.isReleaseMemByManage || attempts.isRecoverMemByUser ||
      attempts.mem.isAudioPlayer then
    { attempts with failed := false }
  else
    let released := attempts.mem.localResourceRelease fails
    { attempts with mem := released.1, failed := !released.2 }

variable (media : Media)

def recover (fails : AttemptCall → Bool) (attempts : Attempts) : Attempts :=
  if attempts.mem.isReleaseMemByManage = false || attempts.isRecoverMemByUser then
    { attempts with failed := false }
  else
    let recovered := attempts.mem.localResourceRecover fails media
    { mem := recovered.1
      isRecoverMemByUser := recovered.2
      before := if recovered.2 then recovered.1 else attempts.before
      failed := !recovered.2 }

/-- An operation of the client after its recovery, without which only `Reset` is carried out. -/
def client (op : ClientOp) (fails : AttemptCall → Bool) (attempts : Attempts) : Attempts :=
  let asked : Attempts :=
    match op with
    | .setVideoSurface _ => { attempts with mem := { attempts.mem with isAudioPlayer := false } }
    | _ => attempts
  let attempted := asked.recover media fails
  if attempted.failed then
    if op = .reset then
      { attempted with
        mem := { attempted.mem with
          base := attempted.mem.base.reset.getD attempted.mem.base } }
    else attempted
  else attempted.settle (attempted.mem.client media op)

def next (attempts : Attempts) : AttemptEvent → Attempts
  | .release fails => attempts.release fails
  | .recover fails => attempts.recover media fails
  | .recovered => { attempts with isRecoverMemByUser := false, failed := false }
  | .client op fails => attempts.client media op fails
  | .direct op => attempts.settle { attempts.mem with base := attempts.mem.base.direct op }
  | .report report => attempts.settle (attempts.mem.report report)
  | .defaultTrack index =>
    attempts.settle (if attempts.mem.base.engine = none then attempts.mem
      else attempts.mem.getDefaultTrack index)

end Attempts

end PlayerFramework.PlayerMem
