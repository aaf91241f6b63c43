import PlayerFramework.PlayerMem.Recovery

/-!
When the copy of the settings is enough for the recovery: a release and a recovery give back the
player as it was.
-/

namespace PlayerFramework.PlayerMem

open Player (PlayerStates PlayerSeekMode speedForward100X)
open Transition

/-- The copy holds what is set on the `PlayerServer` and on its engine, whether it is initialized
or prepared. -/
structure SettingsRecorded (mem : PlayerServerMem) (engine : Engine) : Prop where
  source : mem.recoverConfig.recordedSource mem.base.uriHelper = some engine.source
  volumeValid : mem.recoverConfig.VolumeValid
  volume : mem.base.volume = mem.recoverConfig.preparedVolume
  looping : mem.base.looping = mem.recoverConfig.loop
  surface : mem.base.surface = mem.recoverConfig.surface.or mem.base.surface
  videoScaleType : engine.videoScaleType = mem.recoverConfig.scaleParameter
  audioRendererInfo : engine.audioRendererInfo = mem.recoverConfig.rendererParameter
  volumeMode : engine.volumeMode = 0
  interruptMode : engine.audioInterruptMode = mem.recoverConfig.interruptParameter
  subtitleShown : engine.subtitleShown = true

/-- An initialized player whose engine got nothing but renderer parameters, and that has no speed
from an earlier source. -/
structure Untouched (mem : PlayerServerMem) (engine : Engine) : Prop where
  state : mem.base.lastOpStatus = .initialized
  speedMode : mem.base.speedMode = speedForward100X
  effectMode : mem.base.effectMode = mem.recoverConfig.effectMode
  subSources : engine.subSources = []
  volume : engine.volume = none
  looping : engine.looping = false
  surface : engine.surface = none
  speed : engine.speed = .mode speedForward100X
  bitRate : engine.bitRate = 0
  audioTrack : engine.audioTrack = -1
  videoTrack : engine.videoTrack = -1
  subtitleTrack : engine.subtitleTrack = -1
  audioEffectMode : engine.audioEffectMode = effectDefault
  position : engine.position = 0

/-- The recovery selects this sound track again. -/
def Reselected (mem : PlayerServerMem) (engine : Engine) : Prop :=
  0 ≤ engine.audioTrack ∧ 0 ≤ mem.defaultAudioIndex ∧ engine.audioTrack ≠ mem.defaultAudioIndex

instance (mem : PlayerServerMem) (engine : Engine) : Decidable (Reselected mem engine) :=
  inferInstanceAs (Decidable (_ ∧ _ ∧ _))

/-- A prepared player whose engine has what the copy and the `PlayerServer` say, with the default
tracks, up to a sound track that is selected again. -/
structure Repeatable (media : Media) (mem : PlayerServerMem) (engine : Engine) : Prop where
  state : mem.base.lastOpStatus = .prepared
  speedMode : mem.base.speedMode = mem.recoverConfig.speedMode
  subSources : engine.subSources =
    mem.recoverConfig.subSources.take PlayerServer.maxSubtitleTrackNum
  volume : engine.volume = mem.base.volume
  looping : engine.looping = mem.base.looping
  surface : engine.surface = mem.base.surface
  speed : engine.speed = .mode mem.recoverConfig.speedMode
  bitRate : engine.bitRate = mem.recoverConfig.bitRate
  audioTrack : ¬ Reselected mem engine → engine.audioTrack = media.defaultTrack engine.source .audio
  videoTrack : engine.videoTrack = media.defaultTrack engine.source .video
  subtitleTrack : engine.subtitleTrack = media.defaultTrack engine.source .subtitle
  audioEffectMode : engine.audioEffectMode = mem.base.effectMode

/-- The copy is enough to recover the player. -/
def Restorable (media : Media) (mem : PlayerServerMem) : Prop :=
  ∃ engine, mem.base.engine = some engine ∧ SettingsRecorded mem engine ∧
    (Untouched mem engine ∨ Repeatable media mem engine)

namespace PlayerServerMem

/-- The `PlayerServer` after a release, with its `UriHelper` back. -/
def resetServer (mem : PlayerServerMem) : PlayerServer :=
  { uriHelper := mem.base.uriHelper, speedRate := mem.base.speedRate
    effectMode := mem.base.effectMode, surface := mem.base.surface }

theorem wasReset_resetServer (mem : PlayerServerMem) : WasReset mem.resetServer :=
  ⟨rfl, rfl, rfl, rfl, rfl⟩

variable {media : Media} {mem : PlayerServerMem}

theorem release_eq (releasable : mem.releasable = true) :
    mem.release =
      { mem with
        base := { mem.resetServer with uriHelper := none }
        recoverConfig := mem.informed
        uriHelper := mem.base.uriHelper
        isReleaseMemByManage := true } := by
  have running : mem.base.lastOpStatus ≠ .idle := by
    intro idle
    simp [PlayerServerMem.releasable, idle] at releasable
  simp [release, releasable, PlayerServer.reset, PlayerServer.clearConfigInfo, running, resetServer]

theorem currState_informed (mem : PlayerServerMem) :
    mem.informed.currState = mem.base.lastOpStatus := by
  simp only [informed]
  split <;> rfl

theorem recovered_release (releasable : mem.releasable = true) :
    mem.release.recovered media =
      match mem.base.lastOpStatus with
      | .initialized | .stopped =>
        mem.resetServer.attempt mem.release.memRecoverToInitialized
      | .preparing | .prepared | .paused =>
        mem.resetServer.attempt (mem.release.memRecoverToPrepared media)
      | .playbackComplete => mem.resetServer.attempt (mem.release.memRecoverToCompleted media)
      | _ => (mem.release.base, false) := by
  have released : mem.release.isReleaseMemByManage = true := by rw [release_eq releasable]
  have state : mem.release.recoverConfig.currState = mem.base.lastOpStatus := by
    rw [release_eq releasable]
    exact currState_informed mem
  have server : ({ mem.release.base with uriHelper := mem.release.uriHelper } : PlayerServer) =
      mem.resetServer := by
    rw [release_eq releasable]
    rfl
  unfold recovered memStateRecover
  rewrite [if_pos released, state, server]
  cases mem.base.lastOpStatus <;> rfl

theorem informed_of_initialized
    (state : mem.base.lastOpStatus = .initialized ∨ mem.base.lastOpStatus = .stopped) :
    mem.informed = { mem.recoverConfig with currState := mem.base.lastOpStatus } := by
  rcases state with state | state <;> simp [informed, state]

theorem informed_of_engine {engine : Engine} (found : mem.base.engine = some engine)
    (initialized : mem.base.lastOpStatus ≠ .initialized)
    (stopped : mem.base.lastOpStatus ≠ .stopped) :
    mem.informed =
      { mem.recoverConfig with
        currState := mem.base.lastOpStatus
        currentTime := mem.base.getCurrentTime
        audioIndex := engine.audioTrack
        effectMode := mem.base.effectMode } := by
  simp [informed, found]

theorem initialized_recovered_iff (releasable : mem.releasable = true)
    (state : mem.base.lastOpStatus = .initialized ∨ mem.base.lastOpStatus = .stopped) :
    mem.resetServer.attempt mem.release.memRecoverToInitialized = (mem.base, true) ↔
      Restorable media mem := by
  have config : mem.release.recoverConfig =
      { mem.recoverConfig with currState := mem.base.lastOpStatus } := by
    rw [release_eq releasable]
    exact informed_of_initialized state
  rcases mem.release.recoverConfig.able_or_unable mem.resetServer.uriHelper
    with ⟨source, known, valid⟩ | unable
  · rw [recoverToInitialized mem.wasReset_resetServer known valid]
    rw [config] at known valid ⊢
    constructor
    · intro same
      have fields := PlayerServer.ext_iff.mp (congrArg Prod.fst same)
      rcases fields with ⟨status, engine, -, looping, volume, speedMode, -, effectMode, surface⟩
      refine ⟨_, engine.symm, ?_, Or.inl ?_⟩
      · exact
          { source := known, volumeValid := valid, volume := volume.symm
            looping := looping.symm, surface := surface.symm, videoScaleType := rfl
            audioRendererInfo := rfl, volumeMode := rfl, interruptMode := rfl
            subtitleShown := rfl }
      · exact
          { state := status.symm, speedMode := speedMode.symm, effectMode := effectMode.symm
            subSources := rfl, volume := rfl, looping := rfl, surface := rfl, speed := rfl
            bitRate := rfl, audioTrack := rfl, videoTrack := rfl, subtitleTrack := rfl
            audioEffectMode := rfl, position := rfl }
    · intro restorable
      rcases restorable with ⟨engine, found, recorded, untouched | repeatable⟩
      · have same : source = engine.source :=
          Option.some.inj (known.symm.trans recorded.source)
        have engines : some (mem.recoverConfig.newEngine source) = mem.base.engine := by
          rw [found, Option.some.injEq, Engine.ext_iff]
          exact ⟨same, untouched.subSources.symm, untouched.volume.symm, untouched.looping.symm,
            untouched.surface.symm, untouched.speed.symm, untouched.bitRate.symm,
            untouched.audioTrack.symm, untouched.videoTrack.symm, untouched.subtitleTrack.symm,
            recorded.subtitleShown.symm, recorded.videoScaleType.symm,
            recorded.audioRendererInfo.symm, recorded.volumeMode.symm,
            recorded.interruptMode.symm, untouched.audioEffectMode.symm,
            untouched.position.symm⟩
        refine Prod.ext (PlayerServer.ext_iff.mpr ?_) rfl
        exact ⟨untouched.state.symm, engines, rfl, recorded.looping.symm, recorded.volume.symm,
          untouched.speedMode.symm, rfl, untouched.effectMode.symm, recorded.surface.symm⟩
      · rcases state with state | state <;>
          exact absurd (state.symm.trans repeatable.state) (by decide)
  · have fails := recoverToInitialized_fails mem.wasReset_resetServer unable
    rw [config] at unable
    constructor
    · intro same
      rw [same] at fails
      cases fails
    · intro restorable
      rcases restorable with ⟨engine, found, recorded, -⟩
      rcases unable with unknown | invalid
      · exact absurd (unknown.symm.trans recorded.source) (by simp)
      · exact absurd recorded.volumeValid invalid

theorem prepared_recovered_iff (releasable : mem.releasable = true)
    (initialized : mem.base.lastOpStatus ≠ .initialized)
    (stopped : mem.base.lastOpStatus ≠ .stopped) {engine : Engine}
    (found : mem.base.engine = some engine) :
    mem.resetServer.attempt (mem.release.memRecoverToPrepared media) = (mem.base, true) ↔
      mem.base.lastOpStatus = .prepared ∧ SettingsRecorded mem engine ∧
        Repeatable media mem engine := by
  have config : mem.release.recoverConfig =
      { mem.recoverConfig with
        currState := mem.base.lastOpStatus
        currentTime := mem.base.getCurrentTime
        audioIndex := engine.audioTrack
        effectMode := mem.base.effectMode } := by
    rw [release_eq releasable]
    exact informed_of_engine found initialized stopped
  have selects : mem.release.needSelectAudioTrack = decide (Reselected mem engine) := by
    rw [needSelectAudioTrack, config, release_eq releasable]
    rfl
  rcases mem.release.recoverConfig.able_or_unable mem.resetServer.uriHelper
    with ⟨source, known, valid⟩ | unable
  · rw [recoverToPrepared media mem.wasReset_resetServer known valid, selects]
    rw [config] at known valid ⊢
    constructor
    · intro same
      have fields := PlayerServer.ext_iff.mp (congrArg Prod.fst same)
      rcases fields with ⟨status, engines, -, looping, volume, speedMode, -, -, surface⟩
      have parts := Engine.ext_iff.mp (Option.some.inj (found.symm.trans engines.symm))
      rcases parts with ⟨engineSource, subSources, engineVolume, engineLooping, engineSurface,
        speed, bitRate, audioTrack, videoTrack, subtitleTrack, subtitleShown, videoScaleType,
        audioRendererInfo, volumeMode, interruptMode, audioEffectMode, -⟩
      have same : engine.source = source := engineSource
      subst same
      refine ⟨status.symm, ?_, ?_⟩
      · exact
          { source := known, volumeValid := valid
            volume := volume.symm, looping := looping.symm, surface := surface.symm
            videoScaleType, audioRendererInfo, volumeMode, interruptMode, subtitleShown }
      · exact
          { state := status.symm, speedMode := speedMode.symm, subSources
            volume := engineVolume.trans volume, looping := engineLooping.trans looping
            surface := engineSurface.trans surface, speed, bitRate
            audioTrack := fun kept => audioTrack.trans (if_neg (by simpa using kept))
            videoTrack, subtitleTrack, audioEffectMode }
    · intro restorable
      rcases restorable with ⟨prepared, recorded, repeatable⟩
      have same : source = engine.source := Option.some.inj (known.symm.trans recorded.source)
      have position : mem.base.getCurrentTime = engine.position := by
        simp [PlayerServer.getCurrentTime, PlayerServer.active, prepared, found]
      have audioTrack : engine.audioTrack =
          if decide (Reselected mem engine) then engine.audioTrack
          else media.defaultTrack engine.source .audio := by
        split
        · rfl
        · rename_i kept
          exact repeatable.audioTrack (by simpa using kept)
      subst same
      have engines : mem.release.recoverConfig.behavedEngine media engine.source
          (mem.release.recoverConfig.surface.or mem.base.surface) (decide (Reselected mem engine)) =
            engine := by
        rw [config, Engine.ext_iff]
        exact ⟨rfl, repeatable.subSources.symm, (repeatable.volume.trans recorded.volume).symm,
          (repeatable.looping.trans recorded.looping).symm,
          (repeatable.surface.trans recorded.surface).symm, repeatable.speed.symm,
          repeatable.bitRate.symm, audioTrack.symm, repeatable.videoTrack.symm,
          repeatable.subtitleTrack.symm, recorded.subtitleShown.symm,
          recorded.videoScaleType.symm, recorded.audioRendererInfo.symm,
          recorded.volumeMode.symm, recorded.interruptMode.symm,
          repeatable.audioEffectMode.symm, position⟩
      rw [config] at engines
      refine Prod.ext (PlayerServer.ext_iff.mpr ?_) rfl
      exact ⟨prepared.symm, (congrArg some engines).trans found.symm, rfl, recorded.looping.symm,
        recorded.volume.symm, repeatable.speedMode.symm, rfl, rfl, recorded.surface.symm⟩
  · have fails := recoverToPrepared_fails media mem.wasReset_resetServer unable
    rw [config] at unable
    constructor
    · intro same
      rw [same] at fails
      cases fails
    · intro restorable
      rcases unable with unknown | invalid
      · exact absurd (unknown.symm.trans restorable.2.1.source) (by simp)
      · exact absurd restorable.2.1.volumeValid invalid

theorem engine_of_recoverToPrepared
    (same : mem.resetServer.attempt (mem.release.memRecoverToPrepared media) = (mem.base, true)) :
    ∃ engine, mem.base.engine = some engine := by
  rcases mem.release.recoverConfig.able_or_unable mem.resetServer.uriHelper
    with ⟨source, known, valid⟩ | unable
  · rw [recoverToPrepared media mem.wasReset_resetServer known valid] at same
    exact ⟨_, (congrArg PlayerServer.engine (congrArg Prod.fst same)).symm⟩
  · have fails := recoverToPrepared_fails media mem.wasReset_resetServer unable
    rw [same] at fails
    cases fails

theorem recovered_release_iff (releasable : mem.releasable = true) :
    mem.release.recovered media = (mem.base, true) ↔ Restorable media mem := by
  have prepared_iff : mem.base.lastOpStatus ≠ .initialized → mem.base.lastOpStatus ≠ .stopped →
      (mem.resetServer.attempt (mem.release.memRecoverToPrepared media) = (mem.base, true) ↔
        Restorable media mem) := by
    intro initialized stopped
    constructor
    · intro same
      rcases engine_of_recoverToPrepared same with ⟨engine, found⟩
      have parts := (prepared_recovered_iff releasable initialized stopped found).mp same
      exact ⟨engine, found, parts.2.1, Or.inr parts.2.2⟩
    · intro restorable
      rcases restorable with ⟨engine, found, recorded, untouched | repeatable⟩
      · exact absurd untouched.state initialized
      · exact (prepared_recovered_iff releasable initialized stopped found).mpr
          ⟨repeatable.state, recorded, repeatable⟩
  have unlisted : mem.base.lastOpStatus ≠ .initialized → mem.base.lastOpStatus ≠ .prepared →
      ¬ Restorable media mem := by
    intro initialized prepared restorable
    rcases restorable with ⟨engine, -, -, untouched | repeatable⟩
    · exact initialized untouched.state
    · exact prepared repeatable.state
  rw [recovered_release releasable]
  cases state : mem.base.lastOpStatus with
  | initialized => exact initialized_recovered_iff releasable (Or.inl state)
  | stopped => exact initialized_recovered_iff releasable (Or.inr state)
  | preparing | prepared | paused => exact prepared_iff (by simp [state]) (by simp [state])
  | playbackComplete =>
    have differs : mem.resetServer.attempt (mem.release.memRecoverToCompleted media) ≠
        (mem.base, true) := recoverToCompleted_ne media mem.wasReset_resetServer state
    exact iff_of_false differs (unlisted (by simp [state]) (by simp [state]))
  | _ => exact iff_of_false (by simp) (unlisted (by simp [state]) (by simp [state]))

end PlayerServerMem

end PlayerFramework.PlayerMem
