import PlayerFramework.ScreenCapture.HiddenCapture

/-!
What a stopped server still holds.  The teardown of a started capture lets go of
everything but the call listener; a stop that comes before the capture runs lets
go of nothing, and neither does a call behind the teardown of a time-out.
-/

namespace PlayerFramework.ScreenCapture

open Transition

namespace ScreenCaptureServer

variable {platform : Platform} {env : Env} {event : ServerEvent}
  {server after : ScreenCaptureServer}

/-- No screen, no recorder, no sound and no listener. -/
def HoldsNothing (server : ScreenCaptureServer) : Prop :=
  server.virtualScreen = false ∧ server.recorder = false ∧ Silent server.audio ∧
    server.listeners = []

instance (server : ScreenCaptureServer) : Decidable server.HoldsNothing :=
  inferInstanceAs (Decidable (_ ∧ _ ∧ _ ∧ _))

/-- `PrepareStartCapture` refuses the start before it registers a listener. -/
def refusedInCall (platform : Platform) (env : Env) (server : ScreenCaptureServer) : Bool :=
  platform.supportCall && !server.config.strategy.keepCaptureDuringCall && env.ok .inCall

/-- The checks that `PrepareStartCapture` makes afterwards. -/
def startAccepted (platform : Platform) (env : Env) (server : ScreenCaptureServer) : Bool :=
  (checkAllParams platform.support server.checkInput server.config).ret == .ok &&
    env.ok .defaultDisplay

/-- The user has to be asked and cannot be. -/
def authorityRefused (env : Env) (isPrivacyAuthorityEnabled : Bool) : Bool :=
  !env.ok .privacyWindowSkipPermission && env.ok .userPrivacyAuthorityNeeded &&
    !(requestUserPrivacyAuthority env isPrivacyAuthorityEnabled).1

/-- A start that ends at once does not end in `STOPPED` with its listeners. -/
def StartReleases (platform : Platform) (env : Env) (isPrivacyAuthorityEnabled : Bool)
    (server : ScreenCaptureServer) : Prop :=
  refusedInCall platform env server = false →
    if startAccepted platform env server then authorityRefused env isPrivacyAuthorityEnabled = false
    else server.captureState ≠ .stopped

instance (platform : Platform) (env : Env) (isPrivacyAuthorityEnabled : Bool)
    (server : ScreenCaptureServer) :
    Decidable (StartReleases platform env isPrivacyAuthorityEnabled server) := by
  unfold StartReleases
  infer_instance

def tornDown (server : ScreenCaptureServer) : Bool :=
  match server.operation with
  | none => server.captureState == .stopped
  | some (.stopCapture _) => true
  | _ => false

/-- The next stage of the operation in progress leaves nothing behind: it is not the failure
of a start, and the listeners that a teardown finds are all ones it takes away. -/
def LeavesStage (env : Env) (server : ScreenCaptureServer) : Prop :=
  match server.operation with
  | some .startFailed => False
  | some (.stopCapture _) =>
    (∀ flag ∈ server.listeners, flag ∈ ListenerFlag.all ∧ detaches env flag = true) ∧
      (server.config.dataType ≠ .captureFile → server.recorder = false)
  | _ => True

instance (env : Env) (server : ScreenCaptureServer) : Decidable (LeavesStage env server) := by
  unfold LeavesStage
  split <;> infer_instance

/-- A stop before the capture runs finds nothing to release, and a start does not end at once
in `STOPPED` with its listeners. -/
def LeavesIdle (platform : Platform) (env : Env) (event : ServerEvent)
    (server : ScreenCaptureServer) : Prop :=
  (stopsCapture platform event server = true → server.isState .active = false →
    server.HoldsNothing) ∧
  ∀ request ∈ startsFrom event server, StartReleases platform env request.isPrivacyAuthorityEnabled
      { server with surface := request.surface, isSurfaceMode := request.isSurfaceMode }

instance (platform : Platform) (env : Env) (event : ServerEvent) (server : ScreenCaptureServer) :
    Decidable (LeavesIdle platform env event server) :=
  inferInstanceAs (Decidable ((_ → _ → _) ∧ ∀ _ ∈ startsFrom event server, _))

def Released (server : ScreenCaptureServer) : Prop :=
  match server.operation with
  | none => server.captureState = .stopped → server.HoldsNothing
  | some (.stopCapture _) => server.virtualScreen = false ∧ Silent server.audio ∧
      (server.config.dataType = .captureFile → server.recorder = false)
  | _ => True

theorem released_running (idle : server.operation = none)
    (running : server.captureState ≠ .stopped) : Released server := by
  unfold Released
  rw [idle]
  intro stopped
  exact absurd stopped running

theorem released_stop (isFail : Bool) (idle : server.operation = none)
    (equipped : server.isState .active = true → server.Equipped)
    (nothing : server.isState .active = false → server.HoldsNothing) :
    Released (server.stopScreenCaptureInner isFail) := by
  cases active : server.isState .active with
  | true =>
    obtain ⟨recorder, consumer, stopped, released⟩ :=
      stopScreenCaptureInner_of_active isFail active (equipped active)
    rw [stopped]
    exact ⟨rfl, AudioCaptures.silent_stopAudioCapture, released⟩
  | false =>
    obtain ⟨surface, isSurfaceMode, isPrivacyAuthorityEnabled, stopped⟩ :=
      stopScreenCaptureInner_of_notActive isFail active
    rw [stopped]
    simp only [idle]
    exact fun _ => nothing active

theorem released_onStart : Released (onStartScreenCapture platform env server) := by
  obtain ⟨audio, listeners, consumer, recorder, stage, started, -, equipped | failed⟩ :=
    onStartScreenCapture_eq platform env server
  · rw [started, equipped.1]
    trivial
  · rw [started, failed]
    trivial

theorem prepareStartCapture_ok (notInCall : refusedInCall platform env server = false) :
    (prepareStartCapture platform env server).1 = .ok ↔
      startAccepted platform env server = true := by
  unfold refusedInCall at notInCall
  unfold prepareStartCapture startAccepted
  rw [notInCall]
  simp only [Bool.false_eq_true, if_false]
  have input : (registerListeners platform env
      (if platform.supportCall then [.account, .call] else [.account]) server).checkInput =
      server.checkInput := rfl
  have config : (registerListeners platform env
      (if platform.supportCall then [.account, .call] else [.account]) server).config =
      server.config := rfl
  rw [input, config]
  split
  · rename_i refused
    simp [refused]
  rename_i accepted
  simp only [ne_eq, not_not] at accepted
  split
  · rename_i noDisplay
    simp only [Bool.not_eq_true'] at noDisplay
    simp [noDisplay]
  · rename_i display
    simp only [Bool.not_eq_true', Bool.not_eq_false] at display
    simp [accepted, display]

theorem released_startInner (isPrivacyAuthorityEnabled : Bool) (idle : server.operation = none)
    (releases : StartReleases platform env isPrivacyAuthorityEnabled server)
    (released : Released server) :
    Released (startScreenCaptureInner platform env isPrivacyAuthorityEnabled server) := by
  cases inCall : refusedInCall platform env server with
  | true =>
    have refused : prepareStartCapture platform env server = (.unsupportInCall, server) := by
      unfold refusedInCall at inCall
      unfold prepareStartCapture
      rw [if_pos inCall]
    unfold startScreenCaptureInner
    rw [refused]
    exact released
  | false =>
    have ends := releases inCall
    have ok := prepareStartCapture_ok inCall
    obtain ⟨ret, config, dataMode, audio, listeners, prepared, -⟩ :=
      prepareStartCapture_eq platform env server
    unfold startScreenCaptureInner
    rw [prepared] at ok ⊢
    cases accepted : startAccepted platform env server with
    | false =>
      have failed : ret ≠ .ok := by
        intro succeeded
        rw [accepted] at ok
        exact absurd (ok.mp succeeded) (by simp)
      rw [accepted, if_neg (by simp)] at ends
      simp only [if_pos failed]
      apply released_running
      · exact idle
      · exact ends
    | true =>
      have succeeded : ret = .ok := ok.mpr accepted
      rw [accepted] at ends
      simp only [succeeded, ne_eq, not_true_eq_false, if_false]
      split
      · rename_i asks
        unfold authorityRefused at ends
        rw [asks] at ends
        split
        · rename_i refused
          rw [refused] at ends
          cases ends
        · split
          · apply released_running
            · exact idle
            · simp
          · exact released_onStart
      · exact released_onStart

theorem released_effect (idle : server.operation = none) (staged : Staged server)
    (leaves : LeavesIdle platform env event server) (released : Released server)
    (effect : Effect platform env server event after) :
    Released after := by
  have equipped := ((staged_idle idle).mp staged).2
  obtain ⟨stops, starts⟩ := leaves
  have running_ne : server.isState .active = true → server.captureState ≠ .stopped := by
    intro active stopped
    simp [isState, AVScreenCaptureState.isState, stopped] at active
  cases effect with
  | refused => exact released
  | configured config recorder created =>
    apply released_running
    · exact idle
    · simp [created]
  | switchStored => exact released
  | switched isMicrophone isInCall running =>
    apply released_running
    · exact idle
    · exact running_ne (active_of_running running)
  | started isPrivacyAuthorityEnabled surface isSurfaceMode call initial =>
    apply released_startInner
    · exact idle
    · exact starts _ call
    · exact released
  | parsed shown =>
    apply released_running
    · exact idle
    · intro stopped
      apply shown
      change server.captureState = .stopped at stopped
      simp [isState, AVScreenCaptureState.isState, stopped]
  | cancelled =>
    apply released_running
    · exact idle
    · simp
  | chosen => exact released
  | accepted => exact released_onStart
  | reselected captureMode running =>
    obtain ⟨screen, listeners, remade⟩ := reselect_eq platform env
      (server.setCaptureConfig captureMode)
    rw [remade]
    apply released_running
    · exact idle
    · exact running_ne (active_of_running running)
  | paused => trivial
  | resumeFailed screen paused =>
    apply released_stop false
    · exact idle
    · exact equipped
    · intro inactive
      exact absurd ((active_of_paused paused).symm.trans inactive) (by simp)
  | resumed => trivial
  | stopped isFail appSelectionTimeouts stopsNow =>
    apply released_stop isFail
    · exact idle
    · exact equipped
    · intro inactive
      rcases stopsNow with active | early
      · exact absurd (active.symm.trans inactive) (by simp)
      · exact stops early inactive
  | usedScreen => exact released
  | callChanged isInCall changed supported active =>
    apply released_running
    · exact idle
    · exact running_ne active

theorem holdsNothing_postStop (isFail : Bool) (screen : server.virtualScreen = false)
    (silent : Silent server.audio) (recorder : server.recorder = false)
    (detached : ∀ flag ∈ server.listeners,
      flag ∈ ListenerFlag.all ∧ detaches env flag = true) :
    (postStopScreenCapture env isFail server).HoldsNothing := by
  have gone : (server.listeners.filter fun flag =>
      decide (flag ∉ ListenerFlag.all) || !detaches env flag) = [] := by
    rw [List.filter_eq_nil_iff]
    intro flag held
    simp [(detached flag held).1, (detached flag held).2]
  cases isFail
  · exact ⟨screen, recorder, silent, gone⟩
  · exact ⟨screen, recorder, silent, gone⟩

theorem released_handleStage (stage : Stage) (operation : server.operation = some stage)
    (staged : Staged server) (leaves : LeavesStage env server) (released : Released server) :
    Released (handleStage platform env stage { server with operation := none }) := by
  unfold Staged at staged
  unfold Released at released
  unfold LeavesStage at leaves
  rw [operation] at staged released leaves
  have effect := stageEffect platform env stage { server with operation := none }
  generalize handleStage platform env stage { server with operation := none } = after at effect ⊢
  cases effect with
  | audioStarted | rolledBack => trivial
  | started ret made kept consumer producerSurface listeners outcome =>
    rcases outcome with stopped | running
    · rw [stopped]
      apply released_stop false
      · rfl
      · exact fun _ => staged.2
      · intro inactive
        exact absurd inactive (by simp [isState, AVScreenCaptureState.isState])
    · rw [running]
      apply released_running
      · rfl
      · simp
  | startFailed => exact leaves.elim
  | unpaused | unresumed =>
    apply released_stop false
    · rfl
    · exact fun _ => staged.2
    · intro inactive
      exact absurd (staged.1.symm.trans inactive) (by simp)
  | paused | resumed =>
    apply released_running
    · rfl
    · simp
  | captureStopped isFail =>
    obtain ⟨screen, silent, file⟩ := released
    have recorder : server.recorder = false := by
      by_cases dataType : server.config.dataType = .captureFile
      · exact file dataType
      · exact leaves.2 dataType
    have nothing : HoldsNothing (postStopScreenCapture env isFail
        { server with operation := none }) :=
      holdsNothing_postStop isFail screen silent recorder leaves.1
    cases isFail
    · exact fun _ => nothing
    · exact fun _ => nothing

theorem released_audio {audio : AudioCaptures} (released : Released server)
    (silent : server.tornDown = true → Silent server.audio → Silent audio) :
    Released { server with audio } := by
  unfold Released tornDown at *
  cases operation : server.operation with
  | none =>
    rw [operation] at released silent
    intro stopped
    obtain ⟨screen, recorder, quiet, listeners⟩ := released stopped
    exact ⟨screen, recorder, silent (by simpa using stopped) quiet, listeners⟩
  | some stage =>
    rw [operation] at released silent
    cases stage with
    | stopCapture isFail => exact ⟨released.1, silent rfl released.2.1, released.2.2⟩
    | startAudio | startVideo ret | startFailed | pauseRecorder | resumeSynced ret => trivial

end ScreenCaptureServer

namespace CaptureThreads

open ScreenCaptureServer

/-- The step leaves nothing behind: no start fails once it has begun, a stop before the
capture runs finds nothing to release, every listener is one that the teardown takes
away, and no late renderer update starts a capturer. -/
def LeavesNothing (platform : Platform) (state : CaptureThreads)
    (input : ServerEvent × Env) : Prop :=
  match input.1 with
  | .proceed | .timeoutProceed => LeavesStage input.2 state.locked
  | .rendererSync => state.task = .rendererSync → state.server.tornDown = true →
      AudioCaptures.StartsNothing state.server.config input.2.startResults state.server.audio
  | event => state.takesUp event = true → state.server.operation = none →
      LeavesIdle platform input.2 event state.server

instance (platform : Platform) (state : CaptureThreads) (input : ServerEvent × Env) :
    Decidable (LeavesNothing platform state input) := by
  rcases input with ⟨event, env⟩
  cases event <;> unfold LeavesNothing <;> infer_instance

theorem leavesIdle_of_guard (taken : state.takesUp event = true)
    (idle : state.locked.operation = none)
    (guard : LeavesNothing platform state (event, env)) :
    LeavesIdle platform env event state.locked := by
  have other : state.task ≠ .startFail := by
    intro failing
    simp [locked, failing] at idle
  rw [locked_of_task other] at idle ⊢
  cases event with
  | proceed => simp [takesUp, idle] at taken
  | rendererSync => exact ⟨by simp [stopsCapture], by simp [startsFrom]⟩
  | timeoutProceed => exact absurd (by simpa [takesUp] using taken) other
  | call | task | batchLifecycle | rendererState | appSelectionTimeout => exact guard taken idle

theorem released_next (platform : Platform) (state : CaptureThreads)
    (input : ServerEvent × Env) (sole : Sole state) (alone : TimesOutAlone state input.1)
    (staged : Staged state.locked) (guard : LeavesNothing platform state input)
    (released : Released state.locked) : Released (next platform state input).locked := by
  obtain ⟨event, env⟩ := input
  apply next_cases sole alone
  · intro _ _
    exact released
  · intro after taken idle effect
    exact released_effect idle staged (leavesIdle_of_guard taken idle guard) released effect
  · intro newState
    exact released_audio released (fun _ silent => AudioCaptures.silent_of_same ⟨rfl, rfl⟩ silent)
  · intro synced pending
    subst synced
    have same : state.locked = state.server := locked_of_task (by simp [pending])
    rw [same] at released ⊢
    apply released_audio released
    intro tornDown silent
    exact AudioCaptures.silent_sync false silent (guard pending tornDown)
  · intro stage proceeds operation
    have leaves : LeavesStage env state.locked := by
      rcases proceeds with rfl | ⟨rfl, -⟩
      · exact guard
      · exact guard
    exact released_handleStage stage operation staged leaves released

/-- Stop releases everything: on every run whose time-outs act alone and whose steps leave
nothing behind, a server that has come to `STOPPED` holds nothing. -/
theorem stop_releases_everything (platform : Platform) (inputs : List (ServerEvent × Env))
    (along : Along (next platform)
      (fun state input => TimesOutAlone state input.1 ∧ LeavesNothing platform state input) {}
      inputs)
    (idle : (run (next platform) {} inputs).server.operation = none)
    (finished : (run (next platform) {} inputs).task ≠ .startFail)
    (stopped : (run (next platform) {} inputs).server.captureState = .stopped) :
    (run (next platform) {} inputs).server.HoldsNothing := by
  have initially : Released {} := by
    apply released_running
    · rfl
    · simp
  have released := locked_along Released (released_next platform) initially along
  rw [locked_of_task finished] at released
  unfold Released at released
  rw [idle] at released
  exact released stopped

section Runs

/-- A device without calls. -/
def tablet : Platform := { phone with supportCall := false }

/-- The user has to be asked, in a window. -/
def asking : Env :=
  { willing with
    ok query := decide (query ≠ .inCall ∧ query ≠ .privacyWindowSkipPermission ∧
      query ≠ .skipPrivacyWindow) }

/-- A file of the screen with both sounds, started and stopped. -/
def stoppedFile : List (ServerEvent × Env) :=
  [.call (.configure AudioCaptures.mixedFile), .call (.startScreenCapture false), .proceed,
    .proceed, .call .stopScreenCapture, .proceed].map fun event => (event, willing)

theorem stopped_file_holds_nothing : (run (next tablet) {} stoppedFile).server.HoldsNothing :=
  stop_releases_everything tablet stoppedFile (by decide) (by decide) (by decide) (by decide)

/-- On a phone the same run leaves the call listener behind, and on both a stop while the
privacy window is shown leaves the listener of the account. -/
theorem stop_leaves_listeners :
    let stopped := (run (next phone) {} stoppedFile).server
    let asked := (run (next tablet) {}
      ([.call (.configure AudioCaptures.mixedFile), .call (.startScreenCapture true),
        .call .stopScreenCapture].map fun event => (event, asking))).server
    (stopped.operation = none ∧ stopped.captureState = .stopped ∧ stopped.listeners = [.call]) ∧
      asked.operation = none ∧ asked.captureState = .stopped ∧ asked.listeners = [.account] := by
  decide

end Runs

end CaptureThreads

end PlayerFramework.ScreenCapture
