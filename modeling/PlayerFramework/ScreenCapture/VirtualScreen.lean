import PlayerFramework.ScreenCapture.Teardown

/-!
Where `virtualScreen_` is dereferenced there is one.  The operations that use it check
the state only, and the state says too little: `PAUSED` passes for active, an audio-only
capture and one whose re-selection failed run without a screen, and the teardown of a
time-out resets the screen of a capture that still counts as running.
-/

namespace PlayerFramework.ScreenCapture

open Transition

namespace ScreenCaptureServer

variable {platform : Platform} {env : Env} {event : ServerEvent}
  {server after : ScreenCaptureServer}

/-- The screen-off lock is only disabled for a capture with video. -/
def UnlocksMadeScreen (platform : Platform) (env : Env) (server : ScreenCaptureServer) : Prop :=
  match server.operation with
  | some (.startVideo _) => platform.pcStandard = true →
      env.ok .screenoffDisableLock = true → server.hasVideo = true
  | _ => True

instance (platform : Platform) (env : Env) (server : ScreenCaptureServer) :
    Decidable (UnlocksMadeScreen platform env server) := by
  unfold UnlocksMadeScreen
  rcases server.operation with _ | op
  · exact inferInstanceAs (Decidable True)
  · cases op <;> infer_instance

def ScreenThere (server : ScreenCaptureServer) : Prop :=
  match server.operation with
  | none => server.isState .running = true → server.screenMade = true →
      server.virtualScreen = true
  | some (.resumeSynced _) => server.virtualScreen = true
  | _ => True

theorem screenThere_resting (idle : server.operation = none)
    (resting : server.isState .running = false) : ScreenThere server := by
  unfold ScreenThere
  rw [idle]
  intro running
  exact absurd (running.symm.trans resting) (by simp)

/-- The step dereferenced no null screen, and there is one where one was made. -/
def KeepsScreen (before after : ScreenCaptureServer) : Prop :=
  after.nullDereferenced = before.nullDereferenced ∧ ScreenThere after

theorem keepsScreen_stop (isFail : Bool) (idle : server.operation = none)
    (equipped : server.isState .active = true → server.Equipped) :
    KeepsScreen server (server.stopScreenCaptureInner isFail) := by
  cases active : server.isState .active with
  | true =>
    obtain ⟨recorder, consumer, stopped, -⟩ :=
      stopScreenCaptureInner_of_active isFail active (equipped active)
    rw [stopped]
    exact ⟨rfl, trivial⟩
  | false =>
    obtain ⟨surface, isSurfaceMode, isPrivacyAuthorityEnabled, stopped⟩ :=
      stopScreenCaptureInner_of_notActive isFail active
    rw [stopped]
    refine ⟨rfl, ?_⟩
    apply screenThere_resting
    · exact idle
    · rfl

theorem keepsScreen_onStart : KeepsScreen server (onStartScreenCapture platform env server) := by
  obtain ⟨audio, listeners, consumer, recorder, stage, started, -, equipped | failed⟩ :=
    onStartScreenCapture_eq platform env server
  · rw [started, equipped.1]
    exact ⟨rfl, trivial⟩
  · rw [started, failed]
    exact ⟨rfl, trivial⟩

theorem running_of_active (active : server.isState .active = true)
    (unpaused : server.captureState ≠ .paused) : server.isState .running = true := by
  revert active unpaused
  unfold isState AVScreenCaptureState.isState
  cases server.captureState <;> simp

theorem resting_of_inactive (inactive : server.isState .active = false) :
    server.isState .running = false := by
  cases running : server.isState .running with
  | false => rfl
  | true => exact absurd ((active_of_running running).symm.trans inactive) (by simp)

theorem active_of_usesScreen (uses : usesScreen event server = true) :
    server.isState .active = true := by
  unfold usesScreen at uses
  split at uses
  · exact uses
  · exact uses
  · exact uses
  · exact uses
  · simp only [Bool.and_eq_true] at uses
    exact active_of_running uses.1.2
  · cases uses

theorem keepsScreen_startInner (isPrivacyAuthorityEnabled : Bool)
    (idle : server.operation = none) (initial : server.isState .init = true) :
    KeepsScreen server (startScreenCaptureInner platform env isPrivacyAuthorityEnabled server) := by
  obtain ⟨config, dataMode, audio, listeners, -, refused | ⟨authority, popup, rfl, outcome⟩⟩ :=
    startScreenCaptureInner_cases platform env isPrivacyAuthorityEnabled server
  · rw [refused]
    refine ⟨rfl, ?_⟩
    apply screenThere_resting
    · exact idle
    · exact resting_of_inactive (inactive_of_init initial)
  · rcases outcome with waits | stopped | started
    · rw [waits]
      refine ⟨rfl, ?_⟩
      apply screenThere_resting
      · exact idle
      · rfl
    · rw [stopped]
      refine ⟨rfl, ?_⟩
      apply screenThere_resting
      · exact idle
      · rfl
    · rw [started]
      exact keepsScreen_onStart

theorem keepsScreen_effect (idle : server.operation = none) (staged : Staged server)
    (uses : usesScreen event server = true →
      server.captureState ≠ .paused ∧ server.screenMade = true)
    (there : ScreenThere server) (effect : Effect platform env server event after) :
    KeepsScreen server after := by
  have equipped := ((staged_idle idle).mp staged).2
  have screen : server.isState .running = true → server.screenMade = true →
      server.virtualScreen = true := by
    unfold ScreenThere at there
    rw [idle] at there
    exact there
  cases effect with
  | refused => exact ⟨rfl, there⟩
  | configured config recorder created =>
    refine ⟨rfl, ?_⟩
    apply screenThere_resting
    · exact idle
    · simp [isState, AVScreenCaptureState.isState, created]
  | switchStored | switched => exact ⟨rfl, there⟩
  | started isPrivacyAuthorityEnabled surface isSurfaceMode call initial =>
    exact keepsScreen_startInner isPrivacyAuthorityEnabled idle initial
  | parsed => exact ⟨rfl, there⟩
  | cancelled =>
    refine ⟨rfl, ?_⟩
    apply screenThere_resting
    · exact idle
    · rfl
  | chosen => exact ⟨rfl, there⟩
  | accepted => exact keepsScreen_onStart
  | reselected captureMode running =>
    obtain ⟨remadeScreen, listeners, remade⟩ := reselect_eq platform env
      (server.setCaptureConfig captureMode)
    rw [remade]
    refine ⟨rfl, ?_⟩
    simp only [setCaptureConfig, idle]
    exact fun _ made => made
  | paused => exact ⟨rfl, trivial⟩
  | resumeFailed screen paused => exact keepsScreen_stop false idle equipped
  | resumed => exact ⟨rfl, rfl⟩
  | stopped isFail appSelectionTimeouts stops =>
    exact keepsScreen_stop isFail idle equipped
  | usedScreen surface nullDereferenced used kept =>
    obtain ⟨unpaused, made⟩ := uses used
    have running := running_of_active (active_of_usesScreen used) unpaused
    exact ⟨kept (screen running made), there⟩
  | callChanged => exact ⟨rfl, there⟩

theorem keepsScreen_handleStage (stage : Stage) (operation : server.operation = some stage)
    (staged : Staged server) (unlocks : UnlocksMadeScreen platform env server)
    (there : ScreenThere server) :
    KeepsScreen server (handleStage platform env stage { server with operation := none }) := by
  unfold Staged at staged
  unfold ScreenThere at there
  unfold UnlocksMadeScreen at unlocks
  rw [operation] at staged there unlocks
  have effect := stageEffect platform env stage { server with operation := none }
  generalize handleStage platform env stage { server with operation := none } = after at effect ⊢
  cases effect with
  | audioStarted | rolledBack => exact ⟨rfl, trivial⟩
  | @started ret screen nullDereferenced made kept consumer producerSurface listeners after
      outcome =>
    have unchanged : nullDereferenced = server.nullDereferenced := by
      apply kept
      cases locks : platform.pcStandard && env.ok .screenoffDisableLock with
      | false => exact .inr rfl
      | true =>
        rw [Bool.and_eq_true] at locks
        exact .inl (made (unlocks locks.1 locks.2))
    subst unchanged
    rcases outcome with stopped | running
    · rw [stopped]
      apply keepsScreen_stop false
      · rfl
      · exact fun _ => staged.2
    · rw [running]
      exact ⟨rfl, fun _ hasVideo => made hasVideo⟩
  | startFailed =>
    apply keepsScreen_stop true
    · rfl
    · intro active
      simp [isState, AVScreenCaptureState.isState, staged] at active
  | unpaused | unresumed =>
    apply keepsScreen_stop false
    · rfl
    · exact fun _ => staged.2
  | paused =>
    refine ⟨rfl, ?_⟩
    apply screenThere_resting
    · rfl
    · rfl
  | resumed => exact ⟨rfl, fun _ _ => there⟩
  | captureStopped isFail =>
    cases isFail
    · exact ⟨rfl, screenThere_resting rfl rfl⟩
    · exact ⟨rfl, screenThere_resting rfl rfl⟩

end ScreenCaptureServer

namespace CaptureThreads

open ScreenCaptureServer

variable {platform : Platform} {env : Env} {event : ServerEvent} {state : CaptureThreads}

/-- What uses the screen comes to a capture that is not paused and whose last start,
re-selection or resumption made one. -/
def UsesMadeScreen (platform : Platform) (state : CaptureThreads)
    (input : ServerEvent × Env) : Prop :=
  match input.1 with
  | .proceed => UnlocksMadeScreen platform input.2 state.server
  | event => state.takesUp event = true → usesScreen event state.server = true →
      state.server.captureState ≠ .paused ∧ state.server.screenMade = true

instance (platform : Platform) (state : CaptureThreads) :
    ∀ input, Decidable (UsesMadeScreen platform state input)
  | (.proceed, _) => inferInstanceAs (Decidable (UnlocksMadeScreen _ _ _))
  | (.call _, _) | (.task _, _) | (.batchLifecycle, _) | (.rendererState _, _)
  | (.rendererSync, _) | (.appSelectionTimeout, _) | (.timeoutProceed, _) =>
    inferInstanceAs (Decidable (_ → _ → _))

/-- No null screen was dereferenced so far. -/
def ScreenKept (server : ScreenCaptureServer) : Prop :=
  ScreenThere server ∧ server.nullDereferenced = false

theorem screenKept_next (platform : Platform) (state : CaptureThreads)
    (input : ServerEvent × Env) (sole : Sole state) (alone : TimesOutAlone state input.1)
    (staged : Staged state.locked) (guard : UsesMadeScreen platform state input)
    (kept : ScreenKept state.locked) : ScreenKept (next platform state input).locked := by
  obtain ⟨there, neverNull⟩ := kept
  obtain ⟨event, env⟩ := input
  apply next_cases sole alone
  · intro _ _
    exact ⟨there, neverNull⟩
  · intro after taken idle effect
    have other : state.task ≠ .startFail := by
      intro failing
      simp [locked, failing] at idle
    have uses : usesScreen event state.locked = true →
        state.locked.captureState ≠ .paused ∧ state.locked.screenMade = true := by
      rw [locked_of_task other]
      intro uses
      cases event with
      | proceed => cases uses
      | call | task | batchLifecycle | rendererState | rendererSync | appSelectionTimeout
      | timeoutProceed => exact guard taken uses
    obtain ⟨same, thereAfter⟩ := keepsScreen_effect idle staged uses there effect
    exact ⟨thereAfter, same.trans neverNull⟩
  · intro newState
    exact ⟨there, neverNull⟩
  · intro _ _
    exact ⟨there, neverNull⟩
  · intro stage proceeds operation
    have unlocks : UnlocksMadeScreen platform env state.locked := by
      by_cases failing : state.task = .startFail
      · simp [UnlocksMadeScreen, locked, failing]
      · rcases proceeds with rfl | ⟨-, failed⟩
        · rw [locked_of_task failing]
          exact guard
        · exact absurd failed failing
    obtain ⟨same, thereAfter⟩ := keepsScreen_handleStage stage operation staged unlocks there
    exact ⟨thereAfter, same.trans neverNull⟩

/-- The screen is never used while null, on every run whose time-outs act alone and in which
what uses it comes to a capture that has made one. -/
theorem screen_never_null (platform : Platform) (inputs : List (ServerEvent × Env))
    (along : Along (next platform)
      (fun state input => TimesOutAlone state input.1 ∧ UsesMadeScreen platform state input) {}
      inputs) :
    (run (next platform) {} inputs).server.nullDereferenced = false := by
  have reached := locked_along ScreenKept (screenKept_next platform)
    ⟨screenThere_resting rfl rfl, rfl⟩ along
  have same : ∀ state : CaptureThreads,
      state.locked.nullDereferenced = state.server.nullDereferenced := by
    intro state
    unfold locked
    split <;> rfl
  rw [← same]
  exact reached.2

section Runs

/-- A capture that excludes windows, pauses, resumes and excludes windows again. -/
def excludingFile : List (ServerEvent × Env) :=
  [.call (.configure { AudioCaptures.mixedFile with strategy := { enablePause := true } }),
    .call (.startScreenCapture false), .proceed, .proceed, .call .excludeContent,
    .call .pauseScreenCapture, .proceed, .call .resumeScreenCapture, .proceed,
    .call .excludeContent].map fun event => (event, willing)

theorem excluding_file_has_screen :
    (run (next phone) {} excludingFile).server.nullDereferenced = false :=
  screen_never_null phone excludingFile (by decide)

/-- `ExcludeContent` passes its check and dereferences a screen that is gone: in `PAUSED`,
after the pause has reset it, and behind the teardown of a time-out. -/
theorem exclude_in_paused_dereferences_null :
    let paused := run (next phone) {} pausedFile
    let failing := run (next phone) {} (selectedAndPaused.take 5 ++
      [(ServerEvent.appSelectionTimeout, willing)])
    (paused.server.captureState = .paused ∧ paused.server.virtualScreen = false ∧
      (next phone paused (.call .excludeContent, willing)).server.nullDereferenced = true) ∧
    failing.server.captureState = .started ∧ failing.server.virtualScreen = false ∧
      (next phone failing (.call .excludeContent, willing)).server.nullDereferenced = true := by
  decide

end Runs

end CaptureThreads

end PlayerFramework.ScreenCapture
