import PlayerFramework.PlayerMem.Settings

/-!
`PlayerServerMem` (`player_server_mem.cpp`, `player_server_mem_state.cpp`) with a local source: a
release by the memory manager resets the `PlayerServer` below, and the next operation of the
client recovers it from the copy in `recoverConfig_`. `mutex_` is held for a whole step, and what
the engine reports is taken in at once.
-/

namespace PlayerFramework.PlayerMem

open PlayerServer

open Player (PlayerStates PlayerSeekMode speedForward100X)

/-- Which `SetSource` was called last. -/
inductive PlayerSourceType where
  | null
  | url
  | fd
deriving DecidableEq

/-- `currState` is the state whose `MemStateRelease` was called. -/
structure RecoverConfigInfo where
  currState : PlayerStates := .idle
  sourceType : PlayerSourceType := .null
  url : String := ""
  subUrl : List String := []
  subFdSrc : List FdInfo := []
  leftVolume : ℚ := 1
  rightVolume : ℚ := 1
  speedMode : Int32 := speedForward100X
  surface : Option Nat := none
  loop : Bool := false
  videoScaleType : Int := -1
  contentType : Int := -1
  streamUsage : Int := -1
  rendererFlag : Int := -1
  volumeMode : Int := 0
  interruptMode : Int := -1
  effectMode : Int := effectDefault
  bitRate : Nat := 0
  currentTime : Nat := 0
  audioIndex : Int := 0
deriving DecidableEq

/-- The operations that `PlayerServerMem` overrides. -/
inductive ClientOp where
  | setSource (source : Source)
  | addSubSource (source : Source)
  | prepare
  | play
  | pause
  | stop
  | reset
  | seek (mSeconds : Int) (mode : PlayerSeekMode)
  | setVolume (leftVolume rightVolume : ℚ)
  | setPlaybackSpeed (mode : Int32)
  | setVideoSurface (surface : Nat)
  | setLooping (loop : Bool)
  | setParameter (param : Format)
  | selectBitRate (bitRate : Nat)
  | selectTrack (trackType : TrackType) (index : Int)
  | deselectTrack (trackType : TrackType) (index : Int)
deriving DecidableEq

/-- Operations of `PlayerServer` that it does not override. -/
inductive DirectOp where
  | setPlaybackRate (rate : ℚ)
  | setVolumeMode (mode : Int)
deriving DecidableEq

inductive EngineReport where
  | progress (position : Nat)
  | completed
deriving DecidableEq

namespace PlayerServer

variable (media : Media)

/-- An operation that is refused changes nothing. -/
def call (op : ClientOp) (server : PlayerServer) : PlayerServer :=
  let answer :=
    match op with
    | .setSource source => server.setSource source
    | .addSubSource source => server.addSubSource source
    | .prepare => server.prepare media
    | .play => server.play
    | .pause => server.pause
    | .stop => server.stop
    | .reset => server.reset
    | .seek mSeconds mode => server.seek media mSeconds mode
    | .setVolume leftVolume rightVolume => server.setVolume leftVolume rightVolume
    | .setPlaybackSpeed mode => server.setPlaybackSpeed mode
    | .setVideoSurface surface => server.setVideoSurface surface
    | .setLooping loop => server.setLooping loop
    | .setParameter param => server.setParameter param
    | .selectBitRate bitRate => server.selectBitRate bitRate
    | .selectTrack trackType index => server.selectTrack trackType index
    | .deselectTrack trackType index => server.deselectTrack media trackType index
  answer.getD server

def direct (op : DirectOp) (server : PlayerServer) : PlayerServer :=
  let answer :=
    match op with
    | .setPlaybackRate rate => server.setPlaybackRate rate
    | .setVolumeMode mode => server.setVolumeMode mode
  answer.getD server

def report (report : EngineReport) (server : PlayerServer) : PlayerServer :=
  if server.lastOpStatus ≠ .started then server
  else
    match report with
    | .progress position => server.onEngine fun engine => { engine with position }
    | .completed => { server with lastOpStatus := .playbackComplete }

/-- Calls that are made until one is refused, and whether none was. -/
def attempt : List (PlayerServer → Option PlayerServer) → PlayerServer → PlayerServer × Bool
  | [], server => (server, true)
  | step :: rest, server =>
    match step server with
    | none => (server, false)
    | some next => attempt rest next

/-- A call that is made only in some case. -/
def callIf (needed : Bool) (step : PlayerServer → Option PlayerServer) (server : PlayerServer) :
    Option PlayerServer :=
  if needed then step server else some server

end PlayerServer

namespace RecoverConfigInfo

def saveParameter (param : Format) (config : RecoverConfigInfo) : RecoverConfigInfo :=
  let scaled := { config with videoScaleType := param.videoScaleType.getD config.videoScaleType }
  let rendered :=
    match param.rendererInfo with
    | none => scaled
    | some (contentType, streamUsage, rendererFlag, volumeMode) =>
      { scaled with
        contentType, streamUsage, rendererFlag, volumeMode := volumeMode.getD config.volumeMode }
  { rendered with interruptMode := param.interruptMode.getD config.interruptMode }

/-- What an operation writes down before `PlayerServer` has a look at it. -/
def record (op : ClientOp) (config : RecoverConfigInfo) : RecoverConfigInfo :=
  match op with
  | .setSource (.url url) => { config with url, sourceType := .url }
  | .setSource (.fd _) => { config with sourceType := .fd }
  | .addSubSource (.url url) => { config with subUrl := config.subUrl ++ [url] }
  | .addSubSource (.fd info) => { config with subFdSrc := config.subFdSrc ++ [info] }
  | .setVolume leftVolume rightVolume => { config with leftVolume, rightVolume }
  | .setPlaybackSpeed mode => { config with speedMode := mode }
  | .setVideoSurface surface => { config with surface := some surface }
  | .setLooping loop => { config with loop }
  | .setParameter param => config.saveParameter param
  | .selectBitRate bitRate => { config with bitRate }
  | _ => config

def volumeSet (config : RecoverConfigInfo) : Bool :=
  decide (config.leftVolume ≠ 1 ∨ config.rightVolume ≠ 1)

def rendererSet (config : RecoverConfigInfo) : Bool :=
  decide (config.contentType ≠ -1 ∧ config.streamUsage ≠ -1)

/-- The sub-sources in the order in which `AddSubSourceInternal` adds them. -/
def subSources (config : RecoverConfigInfo) : List Source :=
  config.subUrl.map Source.url ++ config.subFdSrc.map Source.fd

end RecoverConfigInfo

/-- `base` is the `PlayerServer`, `uriHelper` the one in `playerServerConfig_`. -/
structure PlayerServerMem where
  base : PlayerServer := {}
  recoverConfig : RecoverConfigInfo := {}
  uriHelper : Option FdInfo := none
  isReleaseMemByManage : Bool := false
  isAudioPlayer : Bool := true
  defaultAudioIndex : Int := -1
deriving DecidableEq

namespace PlayerServerMem

def needSelectAudioTrack (mem : PlayerServerMem) : Bool :=
  decide (0 ≤ mem.recoverConfig.audioIndex ∧ 0 ≤ mem.defaultAudioIndex ∧
    mem.recoverConfig.audioIndex ≠ mem.defaultAudioIndex)

/-- `SetSourceInternal`. The file descriptor is the one of the `UriHelper`. -/
def setSourceInternal (mem : PlayerServerMem) (server : PlayerServer) : Option PlayerServer :=
  match mem.recoverConfig.sourceType with
  | .url => server.setSource (.url mem.recoverConfig.url)
  | .fd => server.uriHelper.bind fun info => server.setSource (.fd info)
  | .null => none

def setSaveParameter (mem : PlayerServerMem) (server : PlayerServer) : Option PlayerServer :=
  let config := mem.recoverConfig
  if server.engine = none then none
  else
    some { server.onEngine (fun engine =>
      let scaled :=
        if config.videoScaleType ≠ -1 then
          { engine with videoScaleType := some config.videoScaleType }
        else engine
      let rendered :=
        if config.rendererSet then
          scaled.setAudioRendererInfo config.contentType config.streamUsage config.rendererFlag
            config.volumeMode
        else scaled
      if config.interruptMode ≠ -1 then
        { rendered with audioInterruptMode := some config.interruptMode }
      else rendered) with effectMode := config.effectMode }

def recoverVolume (mem : PlayerServerMem) : PlayerServer → Option PlayerServer :=
  callIf mem.recoverConfig.volumeSet
    (setVolume mem.recoverConfig.leftVolume mem.recoverConfig.rightVolume)

def recoverSurface (mem : PlayerServerMem) (server : PlayerServer) : Option PlayerServer :=
  match mem.recoverConfig.surface with
  | none => some server
  | some surface => server.setVideoSurface surface

def recoverLooping (mem : PlayerServerMem) : PlayerServer → Option PlayerServer :=
  callIf mem.recoverConfig.loop (setLooping mem.recoverConfig.loop)

def setConfigInternal (mem : PlayerServerMem) : List (PlayerServer → Option PlayerServer) :=
  [mem.recoverVolume, mem.recoverSurface, mem.recoverLooping, mem.setSaveParameter]

/-- `AddSubSourceInternal`, whose calls may be refused. -/
def addSubSourceInternal (mem : PlayerServerMem) (server : PlayerServer) : Option PlayerServer :=
  some (mem.recoverConfig.subSources.foldl
    (fun server source => (server.addSubSource source).getD server) server)

def recoverBitRate (mem : PlayerServerMem) : PlayerServer → Option PlayerServer :=
  callIf (decide (mem.recoverConfig.bitRate ≠ 0)) (selectBitRate mem.recoverConfig.bitRate)

def recoverSpeed (mem : PlayerServerMem) : PlayerServer → Option PlayerServer :=
  callIf (decide (mem.recoverConfig.speedMode ≠ speedForward100X))
    (setPlaybackSpeed mem.recoverConfig.speedMode)

def recoverAudioTrack (mem : PlayerServerMem) : PlayerServer → Option PlayerServer :=
  callIf mem.needSelectAudioTrack (selectTrack .audio mem.recoverConfig.audioIndex)

section

variable (media : Media)

def recoverPosition (mem : PlayerServerMem) : PlayerServer → Option PlayerServer :=
  callIf (decide (mem.recoverConfig.currentTime ≠ 0))
    (seek media mem.recoverConfig.currentTime .closest)

def setBehaviorInternal (mem : PlayerServerMem) : List (PlayerServer → Option PlayerServer) :=
  [mem.recoverBitRate, mem.recoverSpeed, mem.recoverPosition media, mem.recoverAudioTrack]

def setPlaybackSpeedInternal (mem : PlayerServerMem) : List (PlayerServer → Option PlayerServer) :=
  [mem.recoverSpeed, mem.recoverBitRate, mem.recoverAudioTrack]

def memRecoverToInitialized (mem : PlayerServerMem) : List (PlayerServer → Option PlayerServer) :=
  mem.setSourceInternal :: mem.setConfigInternal

/-- `MemRecoverToPrepared`, where the message that the engine is prepared brings the
sub-sources. -/
def memRecoverToPrepared (mem : PlayerServerMem) : List (PlayerServer → Option PlayerServer) :=
  mem.setSourceInternal :: mem.setConfigInternal ++
    [prepare media, mem.addSubSourceInternal] ++ mem.setBehaviorInternal media

def memRecoverToCompleted (mem : PlayerServerMem) : List (PlayerServer → Option PlayerServer) :=
  mem.setSourceInternal :: mem.setConfigInternal ++
    [prepare media, mem.addSubSourceInternal] ++ mem.setPlaybackSpeedInternal

/-- `MemStateRecover` of the states, with the `UriHelper` that `SetPlayerServerConfig` puts
back. -/
def memStateRecover (mem : PlayerServerMem) : PlayerServer × Bool :=
  let server := { mem.base with uriHelper := mem.uriHelper }
  match mem.recoverConfig.currState with
  | .initialized | .stopped => server.attempt mem.memRecoverToInitialized
  | .preparing | .prepared | .paused => server.attempt (mem.memRecoverToPrepared media)
  | .playbackComplete => server.attempt (mem.memRecoverToCompleted media)
  | _ => (mem.base, false)

/-- What the client finds below it, and whether it was recovered. -/
def recovered (mem : PlayerServerMem) : PlayerServer × Bool :=
  if mem.isReleaseMemByManage then mem.memStateRecover media else (mem.base, true)

/-- `RecoverMemByUser`, after which the `UriHelper` is with the `PlayerServer`. -/
def recoverMemByUser (mem : PlayerServerMem) : PlayerServerMem :=
  if mem.isReleaseMemByManage then
    { mem with
      base := (mem.memStateRecover media).1
      uriHelper := none
      isReleaseMemByManage := !(mem.memStateRecover media).2 }
  else mem

/-- A client operation. Only `Reset` is carried out where the player was not recovered. -/
def client (op : ClientOp) (mem : PlayerServerMem) : PlayerServerMem :=
  let audio :=
    match op with
    | .setVideoSurface _ => { mem with isAudioPlayer := false }
    | _ => mem
  let recovering := audio.recoverMemByUser media
  if recovering.isReleaseMemByManage ∧ op ≠ .reset then recovering
  else
    { recovering with
      base := recovering.base.call media op
      recoverConfig := recovering.recoverConfig.record op }

end

def report (report : EngineReport) (mem : PlayerServerMem) : PlayerServerMem :=
  { mem with base := mem.base.report report }

/-- `INFO_TYPE_DEFAULTTRACK` for a sound track. -/
def getDefaultTrack (index : Int) (mem : PlayerServerMem) : PlayerServerMem :=
  { mem with defaultAudioIndex := index }

/-- The memory manager asks only for players with a surface that do not play, and the states
that are not listed in `MemStateRelease` answer with `MSERR_INVALID_STATE`. -/
def releasable (mem : PlayerServerMem) : Bool :=
  !mem.isReleaseMemByManage && !mem.isAudioPlayer &&
    match mem.base.lastOpStatus with
    | .initialized | .preparing | .prepared | .paused | .stopped | .playbackComplete => true
    | _ => false

/-- `GetInformationBeforeMemReset`, which an initialized or stopped player goes without. -/
def informed (mem : PlayerServerMem) : RecoverConfigInfo :=
  let config := { mem.recoverConfig with currState := mem.base.lastOpStatus }
  match mem.base.lastOpStatus, mem.base.engine with
  | .initialized, _ | .stopped, _ | _, none => config
  | _, some engine =>
    { config with
      currentTime := mem.base.getCurrentTime
      audioIndex := engine.audioTrack
      effectMode := mem.base.effectMode }

/-- `LocalResourceRelease` with the conditions of the memory manager. -/
def release (mem : PlayerServerMem) : PlayerServerMem :=
  if mem.releasable then
    let cleared := { mem.base.clearConfigInfo with uriHelper := none }
    { mem with
      base := cleared.reset.getD cleared
      recoverConfig := mem.informed
      uriHelper := mem.base.uriHelper
      isReleaseMemByManage := true }
  else mem

end PlayerServerMem

end PlayerFramework.PlayerMem
