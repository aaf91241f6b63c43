import PlayerFramework.Player.ServerTasks

/-!
What `PlayerServer` (`player_server.cpp`) and its engine have been set to: the operations of the
client with the checks of the server, for sources that are local, where the engine calls succeed
and what they report is taken in at once.
-/

namespace PlayerFramework.PlayerMem

open Player (PlayerStates PlayerSeekMode speedForward100X)

structure FdInfo where
  fd : Int
  offset : Int
  size : Int
deriving DecidableEq

/-- A url, or a file descriptor that a `UriHelper` holds. -/
inductive Source where
  | url (url : String)
  | fd (info : FdInfo)
deriving DecidableEq

inductive TrackType where
  | audio
  | video
  | subtitle
deriving DecidableEq

/-- What the media answer: the default track of each type, less than 0 for none, and where a
seek goes that is not exact. -/
structure Media where
  defaultTrack : Source → TrackType → Int
  seekTarget : Source → PlayerSeekMode → Nat → Nat

inductive PlaybackSpeed where
  | mode (mode : Int32)
  | rate (rate : ℚ)
deriving DecidableEq

structure AudioRendererInfo where
  contentType : Int
  streamUsage : Int
  rendererFlag : Int
  volumeMode : Int
deriving DecidableEq

def effectNone : Int := 0

def effectDefault : Int := 1

/-- The keys of a `Format` that `SetParameter` reads. `rendererInfo` holds when the content type
and the stream usage are given, the volume mode being optional. -/
structure Format where
  videoScaleType : Option Int := none
  rendererInfo : Option (Int × Int × Int × Option Int) := none
  interruptMode : Option Int := none
  effectMode : Option Int := none
deriving DecidableEq

/-- The engine, as far as it was set to something. -/
@[ext]
structure Engine where
  source : Source
  subSources : List Source := []
  volume : Option (ℚ × ℚ) := none
  looping : Bool := false
  surface : Option Nat := none
  speed : PlaybackSpeed := .mode speedForward100X
  bitRate : Nat := 0
  audioTrack : Int := -1
  videoTrack : Int := -1
  subtitleTrack : Int := -1
  subtitleShown : Bool := true
  videoScaleType : Option Int := none
  audioRendererInfo : Option AudioRendererInfo := none
  volumeMode : Int := 0
  audioInterruptMode : Option Int := none
  audioEffectMode : Int := effectDefault
  position : Nat := 0
deriving DecidableEq

/-- `volume` is `config_.leftVolume` and `config_.rightVolume` where the left one is below 1.0:
so far `HandlePrepare` reads them. The other fields are those of `config_`. -/
@[ext]
structure PlayerServer where
  lastOpStatus : PlayerStates := .idle
  engine : Option Engine := none
  uriHelper : Option FdInfo := none
  looping : Bool := false
  volume : Option (ℚ × ℚ) := none
  speedMode : Int32 := speedForward100X
  speedRate : ℚ := 1
  effectMode : Int := effectDefault
  surface : Option Nat := none
deriving DecidableEq

namespace Engine

def setAudioRendererInfo (contentType streamUsage rendererFlag volumeMode : Int)
    (engine : Engine) : Engine :=
  { engine with
    audioRendererInfo := some ⟨contentType, streamUsage, rendererFlag, volumeMode⟩ }

/-- `SetParameter` of the engine looks no further than the first key that it knows. -/
def setParameter (param : Format) (engine : Engine) : Engine :=
  match param.videoScaleType, param.rendererInfo, param.interruptMode with
  | some videoScaleType, _, _ => { engine with videoScaleType := some videoScaleType }
  | none, some (contentType, streamUsage, rendererFlag, volumeMode), _ =>
    engine.setAudioRendererInfo contentType streamUsage rendererFlag
      (volumeMode.getD engine.volumeMode)
  | none, none, some interruptMode => { engine with audioInterruptMode := some interruptMode }
  | none, none, none => engine

def currentTrack (trackType : TrackType) (engine : Engine) : Int :=
  match trackType with
  | .audio => engine.audioTrack
  | .video => engine.videoTrack
  | .subtitle => engine.subtitleTrack

def selectTrack (trackType : TrackType) (index : Int) (engine : Engine) : Engine :=
  match trackType with
  | .audio => { engine with audioTrack := index }
  | .video => { engine with videoTrack := index }
  | .subtitle => { engine with subtitleTrack := index }

section

variable (media : Media)

/-- Only the current track can be deselected. A subtitle track is hidden or shown. -/
def deselectTrack (trackType : TrackType) (index : Int) (engine : Engine) : Engine :=
  if index ≠ engine.currentTrack trackType then engine
  else
    match trackType with
    | .subtitle => { engine with subtitleShown := !engine.subtitleShown }
    | _ => engine.selectTrack trackType (media.defaultTrack engine.source trackType)

/-- The tracks that are not chosen yet become the default ones. -/
def initTracks (engine : Engine) : Engine :=
  let chosen := fun trackType current =>
    if current < 0 then media.defaultTrack engine.source trackType else current
  { engine with
    audioTrack := chosen .audio engine.audioTrack
    videoTrack := chosen .video engine.videoTrack
    subtitleTrack := chosen .subtitle engine.subtitleTrack }

def seek (mSeconds : Nat) (mode : PlayerSeekMode) (engine : Engine) : Engine :=
  match mode with
  | .closest => { engine with position := mSeconds }
  | _ => { engine with position := media.seekTarget engine.source mode mSeconds }

end

end Engine

namespace PlayerServer

/-- The states in which the engine is prepared. -/
def active (server : PlayerServer) : Bool :=
  match server.lastOpStatus with
  | .prepared | .started | .paused | .playbackComplete => true
  | _ => false

/-- The call of the engine is made in these states. -/
def onEngine (call : Engine → Engine) (server : PlayerServer) : PlayerServer :=
  { server with engine := server.engine.map call }

def setSource (source : Source) (server : PlayerServer) : Option PlayerServer :=
  if source = .url "" ∨ server.lastOpStatus ≠ .idle then none
  else
    match source with
    | .url url =>
      some { server with engine := some { source := .url url }, lastOpStatus := .initialized }
    | .fd info =>
      let helper := server.uriHelper.getD info
      some { server with
        engine := some { source := .fd helper }
        uriHelper := some helper
        lastOpStatus := .initialized }

def maxSubtitleTrackNum : Nat := 8

def addSubSource (source : Source) (server : PlayerServer) : Option PlayerServer :=
  match server.engine with
  | none => none
  | some engine =>
    if maxSubtitleTrackNum ≤ engine.subSources.length then none
    else
      some { server with
        engine := some { engine with subSources := engine.subSources ++ [source] } }

/-- `HandlePrepare` gives the engine what was set before. -/
def prepareEngine (media : Media) (server : PlayerServer) (engine : Engine) : Engine :=
  { engine.initTracks media with
    surface := server.surface.or engine.surface
    position := 0
    volume := server.volume.or engine.volume
    looping := server.looping || engine.looping
    speed :=
      if server.speedMode = speedForward100X then engine.speed else .mode server.speedMode
    audioEffectMode :=
      if server.effectMode = effectDefault then engine.audioEffectMode else server.effectMode }

/-- `Prepare`, `PrepareAsync` and `PrepareInner`. -/
def prepare (media : Media) (server : PlayerServer) : Option PlayerServer :=
  if server.lastOpStatus = .initialized ∨ server.lastOpStatus = .stopped then
    some { server.onEngine (server.prepareEngine media) with lastOpStatus := .prepared }
  else none

/-- After the end the engine plays from the beginning. -/
def play (server : PlayerServer) : Option PlayerServer :=
  match server.lastOpStatus with
  | .prepared | .paused => some { server with lastOpStatus := .started }
  | .playbackComplete =>
    some { server.onEngine (fun engine => { engine with position := 0 }) with
      lastOpStatus := .started }
  | _ => none

def pause (server : PlayerServer) : Option PlayerServer :=
  match server.lastOpStatus with
  | .paused => some server
  | .started => some { server with lastOpStatus := .paused }
  | _ => none

def stop (server : PlayerServer) : Option PlayerServer :=
  if server.active then
    some { server.onEngine (fun engine => { engine with position := 0 }) with
      lastOpStatus := .stopped }
  else none

/-- `Reset` with `HandleReset`, which keeps the volume, the speed, the effect and the surface. -/
def reset (server : PlayerServer) : Option PlayerServer :=
  if server.lastOpStatus = .idle then none
  else
    some { server with
      engine := none, uriHelper := none, looping := false, lastOpStatus := .idle }

def clearConfigInfo (server : PlayerServer) : PlayerServer :=
  { server with looping := false, volume := none, speedMode := speedForward100X }

def setVolume (leftVolume rightVolume : ℚ) (server : PlayerServer) : Option PlayerServer :=
  if leftVolume < 0 ∨ 1 < leftVolume ∨ rightVolume < 0 ∨ 1 < rightVolume then none
  else
    let volume := if leftVolume < 1 then some (leftVolume, rightVolume) else none
    let configured := { server with volume }
    if server.active then
      some (configured.onEngine fun engine =>
        { engine with volume := some (leftVolume, rightVolume) })
    else some configured

def setLooping (loop : Bool) (server : PlayerServer) : Option PlayerServer :=
  let configured := { server with looping := loop }
  match server.lastOpStatus with
  | .idle | .initialized => some configured
  | _ => some (configured.onEngine fun engine => { engine with looping := loop })

def setVideoSurface (surface : Nat) (server : PlayerServer) : Option PlayerServer :=
  let configured := { server with surface := some surface }
  match server.lastOpStatus with
  | .initialized => some configured
  | .prepared | .started | .paused | .stopped | .playbackComplete =>
    if server.surface = none then none
    else some (configured.onEngine fun engine => { engine with surface := some surface })
  | _ => none

def setPlaybackSpeed (mode : Int32) (server : PlayerServer) : Option PlayerServer :=
  if ¬ server.active then none
  else if server.speedMode = mode then some server
  else
    some { server.onEngine (fun engine => { engine with speed := .mode mode }) with
      speedMode := mode }

def setPlaybackRate (rate : ℚ) (server : PlayerServer) : Option PlayerServer :=
  if ¬ server.active then none
  else if server.speedRate = rate then some server
  else
    some { server.onEngine (fun engine => { engine with speed := .rate rate }) with
      speedRate := rate }

def setVolumeMode (mode : Int) (server : PlayerServer) : Option PlayerServer :=
  if server.engine = none then none
  else some (server.onEngine fun engine => { engine with volumeMode := mode })

/-- Without an engine nothing is set, and nothing is refused. -/
def selectBitRate (bitRate : Nat) (server : PlayerServer) : Option PlayerServer :=
  some (server.onEngine fun engine => { engine with bitRate })

def selectTrack (trackType : TrackType) (index : Int) (server : PlayerServer) :
    Option PlayerServer :=
  if server.active then some (server.onEngine (Engine.selectTrack trackType index)) else none

def deselectTrack (media : Media) (trackType : TrackType) (index : Int) (server : PlayerServer) :
    Option PlayerServer :=
  if server.active then some (server.onEngine (Engine.deselectTrack media trackType index))
  else none

/-- A position before the beginning is the beginning. -/
def seek (media : Media) (mSeconds : Int) (mode : PlayerSeekMode) (server : PlayerServer) :
    Option PlayerServer :=
  if server.active then some (server.onEngine (Engine.seek media mSeconds.toNat mode)) else none

def setAudioEffectMode (effectMode : Int) (server : PlayerServer) : Option PlayerServer :=
  if ¬ server.active ∨ effectDefault < effectMode ∨ effectMode < effectNone then none
  else
    some { server.onEngine (fun engine => { engine with audioEffectMode := effectMode }) with
      effectMode }

def setParameter (param : Format) (server : PlayerServer) : Option PlayerServer :=
  if server.engine = none then none
  else
    match param.effectMode with
    | some effectMode => server.setAudioEffectMode effectMode
    | none =>
      some { server.onEngine (Engine.setParameter param) with
        effectMode :=
          if param.rendererInfo.isSome then effectDefault else server.effectMode }

def getCurrentTime (server : PlayerServer) : Nat :=
  if server.active then (server.engine.map Engine.position).getD 0 else 0

end PlayerServer

end PlayerFramework.PlayerMem
