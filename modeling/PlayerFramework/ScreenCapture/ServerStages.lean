import PlayerFramework.ScreenCapture.ServerEffects

/-!
The invariant that ties the stage of an operation to the state of the capture.
-/

namespace PlayerFramework.ScreenCapture

namespace ScreenCaptureServer

variable {platform : Platform} {env : Env} {event : ServerEvent}
  {server after : ScreenCaptureServer}

/-- What the stage of the operation in progress says about the capture. -/
def Staged (server : ScreenCaptureServer) : Prop :=
  match server.operation with
  | none => server.captureState ≠ .starting ∧ (server.isState .active = true → server.Equipped)
  | some .startAudio | some (.startVideo _) => server.captureState = .starting ∧ server.Equipped
  | some .startFailed => server.captureState = .starting
  | some .pauseRecorder | some (.resumeSynced _) =>
    server.isState .active = true ∧ server.Equipped
  | some (.stopCapture _) => True

theorem staged_idle (idle : server.operation = none) : Staged server ↔
      server.captureState ≠ .starting ∧ (server.isState .active = true → server.Equipped) := by
  unfold Staged
  rw [idle]

theorem staged_inactive (idle : server.operation = none)
    (resting : server.captureState ≠ .starting) (inactive : server.isState .active = false) :
    Staged server := by
  refine (staged_idle idle).mpr ⟨resting, ?_⟩
  intro active
  rw [inactive] at active
  cases active

theorem staged_stop (isFail : Bool) (idle : server.operation = none)
    (equipped : server.isState .active = true → server.Equipped) :
    Staged (server.stopScreenCaptureInner isFail) := by
  cases active : server.isState .active with
  | true =>
    obtain ⟨recorder, consumer, stopped, -⟩ :=
      stopScreenCaptureInner_of_active isFail active (equipped active)
    rw [stopped]
    trivial
  | false =>
    obtain ⟨surface, isSurfaceMode, isPrivacyAuthorityEnabled, stopped⟩ :=
      stopScreenCaptureInner_of_notActive isFail active
    rw [stopped]
    apply staged_inactive
    · exact idle
    · simp
    · rfl

theorem staged_onStart : Staged (onStartScreenCapture platform env server) := by
  obtain ⟨audio, listeners, consumer, recorder, stage, started, -, equipped | failed⟩ :=
    onStartScreenCapture_eq platform env server
  · rw [started, equipped.1]
    exact ⟨rfl, equipped.2⟩
  · rw [started, failed]
    exact rfl

theorem staged_startInner (isPrivacyAuthorityEnabled : Bool) (idle : server.operation = none)
    (initial : server.isState .init = true) :
    Staged (startScreenCaptureInner platform env isPrivacyAuthorityEnabled server) := by
  have resting : server.captureState ≠ .starting := by
    intro starting
    simp [isState, AVScreenCaptureState.isState, starting] at initial
  obtain ⟨config, dataMode, audio, listeners, -, refused | ⟨authority, popup, rfl, outcome⟩⟩ :=
    startScreenCaptureInner_cases platform env isPrivacyAuthorityEnabled server
  · rw [refused]
    apply staged_inactive
    · exact idle
    · exact resting
    · exact inactive_of_init initial
  · rcases outcome with waits | stopped | started
    · rw [waits]
      apply staged_inactive
      · exact idle
      · simp
      · rfl
    · rw [stopped]
      apply staged_inactive
      · exact idle
      · simp
      · rfl
    · rw [started]
      exact staged_onStart

theorem staged_effect (idle : server.operation = none) (staged : Staged server)
    (effect : Effect platform env server event after) : Staged after := by
  have equipped := ((staged_idle idle).mp staged).2
  cases effect with
  | refused => exact staged
  | configured config recorder created =>
    apply staged_inactive
    · exact idle
    · exact ((staged_idle idle).mp staged).1
    · simp [isState, AVScreenCaptureState.isState, created]
  | switchStored | switched => exact staged
  | started isPrivacyAuthorityEnabled surface isSurfaceMode call initial =>
    exact staged_startInner isPrivacyAuthorityEnabled idle initial
  | parsed => exact staged
  | cancelled captureMode popup =>
    apply staged_inactive
    · exact idle
    · simp
    · rfl
  | chosen => exact staged
  | accepted => exact staged_onStart
  | reselected captureMode running =>
    obtain ⟨screen, listeners, remade⟩ := reselect_eq platform env
      (server.setCaptureConfig captureMode)
    rw [remade]
    exact staged
  | paused running =>
    have active := active_of_running running
    exact ⟨active, equipped active⟩
  | resumeFailed screen paused => exact staged_stop false idle equipped
  | resumed audio ret paused =>
    have active := active_of_paused paused
    exact ⟨active, equipped active⟩
  | stopped isFail appSelectionTimeouts stops =>
    exact staged_stop isFail idle equipped
  | usedScreen | callChanged => exact staged

theorem staged_handleStage (stage : Stage) (operation : server.operation = some stage)
    (staged : Staged server) :
    Staged (handleStage platform env stage { server with operation := none }) := by
  unfold Staged at staged
  rw [operation] at staged
  have effect := stageEffect platform env stage { server with operation := none }
  generalize handleStage platform env stage { server with operation := none } = after at effect ⊢
  cases effect with
  | audioStarted => exact staged
  | rolledBack => exact staged.1
  | started ret made kept consumer producerSurface listeners outcome =>
    rcases outcome with stopped | running
    · rw [stopped]
      exact staged_stop false rfl (fun _ => staged.2)
    · rw [running]
      exact ⟨by simp, fun _ => staged.2⟩
  | startFailed =>
    apply staged_stop true rfl
    intro active
    simp [isState, AVScreenCaptureState.isState, staged] at active
  | unpaused | unresumed => exact staged_stop false rfl (fun _ => staged.2)
  | paused | resumed => exact ⟨by simp, fun _ => staged.2⟩
  | captureStopped isFail =>
    rw [postStopScreenCapture]
    apply staged_inactive
    · cases isFail <;> rfl
    · cases isFail <;> simp [stopFinished]
    · cases isFail <;> rfl

end ScreenCaptureServer

namespace CaptureThreads

open ScreenCaptureServer

variable {platform : Platform} {state : CaptureThreads}

theorem staged_next (platform : Platform) (state : CaptureThreads) (input : ServerEvent × Env)
    (sole : Sole state) (alone : TimesOutAlone state input.1) (staged : Staged state.locked) :
    Staged (next platform state input).locked := by
  apply next_cases sole alone
  · intro _ _
    exact staged
  · intro after _ idle effect
    exact staged_effect idle staged effect
  · intro newState
    exact staged
  · intro _ _
    exact staged
  · intro stage _ operation
    exact staged_handleStage stage operation staged

/-- The run rule: in every run whose time-outs act alone the stage of the operation in
progress fits the state of the capture, and what the steps keep then, the run keeps. -/
theorem locked_along {guard : CaptureThreads → ServerEvent × Env → Prop}
    (holds : ScreenCaptureServer → Prop)
    (kept : ∀ state input, Sole state → TimesOutAlone state input.1 → Staged state.locked →
      guard state input → holds state.locked → holds (next platform state input).locked)
    (initially : holds {}) {inputs : List (ServerEvent × Env)}
    (along : Transition.Along (next platform)
      (fun state input => TimesOutAlone state input.1 ∧ guard state input) {} inputs) :
    holds (Transition.run (next platform) {} inputs).locked := by
  have reached := Transition.invariant_of_along
    (fun state => Sole state ∧ Staged state.locked ∧ holds state.locked) ?_ along ?_
  · exact reached.2.2
  · intro state input ⟨sole, staged, holdsNow⟩ ⟨alone, guarded⟩
    exact ⟨sole_next platform state input sole alone,
      staged_next platform state input sole alone staged,
      kept state input sole alone staged guarded holdsNow⟩
  · exact ⟨fun _ => rfl, staged_inactive rfl (fun starting => by cases starting) rfl, initially⟩

end CaptureThreads

end PlayerFramework.ScreenCapture
