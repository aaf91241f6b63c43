import PlayerFramework.ScreenCapture.Teardown

/-!
The time-outs of app selections.  Every selection of an app arms a task of its own, but
all of them look at one flag, so a task speaks for the selection that was made last,
even if the capture of that selection has ended since.
-/

namespace PlayerFramework.ScreenCapture

open Transition

/-- What happens to app selections; any other choice to record replaces one, and the end of
the capture, by a denial or a stop, ends one. -/
inductive SelectionEvent where
  | selected (selection : Nat)
  | answered
  | replaced
  | ended
deriving DecidableEq

/-- The selection that the user still waits for; the log has the newest first. -/
def unanswered : List SelectionEvent → Option Nat
  | .selected selection :: _ => some selection
  | _ => none

/-- No app was selected since the last batch of lifecycle events. -/
def lastAnswered : List SelectionEvent → Bool
  | [] => true
  | .selected _ :: _ => false
  | .answered :: _ => true
  | .replaced :: log | .ended :: log => lastAnswered log

/-- A server with the history of its selections: those whose task is still queued, the
oldest first, and the log. -/
structure Selecting where
  capture : CaptureThreads := {}
  armed : List Nat := []
  log : List SelectionEvent := []

namespace ScreenCaptureServer

variable {platform : Platform} {env : Env} {event : ServerEvent}
  {server after : ScreenCaptureServer}

/-- The picker or the privacy window may report a choice. -/
def takesChoice (server : ScreenCaptureServer) : Bool :=
  server.isState .popup || server.isState .running

/-- The step leaves the flag of the selections and their tasks alone. -/
def SameSelection (before after : ScreenCaptureServer) : Prop :=
  after.isGetAppMissionId = before.isGetAppMissionId ∧
    after.appSelectionTimeouts = before.appSelectionTimeouts

theorem sameSelection_stop (isFail : Bool) (server : ScreenCaptureServer) :
    SameSelection server (server.stopScreenCaptureInner isFail) := by
  unfold stopScreenCaptureInner
  split
  · cases isFail <;> exact ⟨rfl, rfl⟩
  split
  · cases isFail <;> exact ⟨rfl, rfl⟩
  split
  · unfold stopScreenCaptureRecorder
    split <;> exact ⟨rfl, rfl⟩
  · exact ⟨rfl, rfl⟩
  · cases isFail <;> exact ⟨rfl, rfl⟩

theorem sameSelection_stopByEvent (server : ScreenCaptureServer) :
    SameSelection server server.stopScreenCaptureByEvent := by
  unfold stopScreenCaptureByEvent
  split
  · exact sameSelection_stop false server
  · exact ⟨rfl, rfl⟩

theorem sameSelection_onStart (platform : Platform) (env : Env) (server : ScreenCaptureServer) :
    SameSelection server (onStartScreenCapture platform env server) := by
  obtain ⟨audio, listeners, consumer, recorder, stage, started, -⟩ :=
    onStartScreenCapture_eq platform env server
  rw [started]
  exact ⟨rfl, rfl⟩

theorem sameSelection_startInner (platform : Platform) (env : Env)
    (isPrivacyAuthorityEnabled : Bool) (server : ScreenCaptureServer) :
    SameSelection server
      (startScreenCaptureInner platform env isPrivacyAuthorityEnabled server) := by
  obtain ⟨config, dataMode, audio, listeners, -, refused | ⟨authority, popup, rfl, outcome⟩⟩ :=
    startScreenCaptureInner_cases platform env isPrivacyAuthorityEnabled server
  · rw [refused]
    exact ⟨rfl, rfl⟩
  rcases outcome with waits | stopped | started
  · rw [waits]
    exact ⟨rfl, rfl⟩
  · rw [stopped]
    exact ⟨rfl, rfl⟩
  · rw [started]
    exact sameSelection_onStart platform env _

theorem sameSelection_onReceive (platform : Platform) (env : Env) (isAllowed : Bool)
    (server : ScreenCaptureServer) :
    SameSelection server (onReceiveUserPrivacyAuthority platform env isAllowed server) := by
  rcases onReceiveUserPrivacyAuthority_cases platform env isAllowed server with
    ⟨-, -, stopped⟩ | ⟨-, cancelled⟩ | ⟨-, same⟩ | ⟨-, accepted⟩ | ⟨-, reselected⟩
  · rw [stopped]
    exact sameSelection_stop false server
  · rw [cancelled]
    exact ⟨rfl, rfl⟩
  · rw [same]
    exact ⟨rfl, rfl⟩
  · rw [accepted]
    exact sameSelection_onStart platform env server
  · obtain ⟨screen, listeners, remade⟩ := reselect_eq platform env server
    rw [reselected, remade]
    exact ⟨rfl, rfl⟩

theorem sameSelection_picker (choice : UserChoice) (otherChoice : choice ≠ .selectApp) :
    SameSelection server (handlePickerChoice platform env choice server) := by
  cases choice with
  | deny => exact sameSelection_onReceive platform env false server
  | selectApp => exact absurd rfl otherChoice
  | selectWindow =>
    exact sameSelection_onReceive platform env true
      (server.setCaptureConfig .captureSpecifiedWindow)
  | selectDisplay =>
    exact sameSelection_onReceive platform env true
      (server.setCaptureConfig .captureSpecifiedScreen)
  | fallback => exact sameSelection_onReceive platform env true server
  | stopRecording | other => exact ⟨rfl, rfl⟩

theorem sameSelection_choice (choice : UserChoice)
    (otherChoice : server.takesChoice = true → choice ≠ .selectApp) :
    SameSelection server (reportAVScreenCaptureUserChoice platform env choice server) := by
  unfold reportAVScreenCaptureUserChoice
  split
  · rename_i popup
    exact sameSelection_picker choice (otherChoice (by simp [takesChoice, popup]))
  split
  · rename_i running
    split
    · exact sameSelection_stop false server
    · exact sameSelection_picker choice (otherChoice (by simp [takesChoice, running]))
  · exact ⟨rfl, rfl⟩

theorem sameSelection_deref (server : ScreenCaptureServer) :
    SameSelection server server.derefVirtualScreen := by
  unfold derefVirtualScreen
  split <;> exact ⟨rfl, rfl⟩

theorem sameSelection_changeWhiteList (server : ScreenCaptureServer) :
    SameSelection server server.changeWhiteListWindows := by
  unfold changeWhiteListWindows
  split
  · exact ⟨rfl, rfl⟩
  · exact sameSelection_deref server

theorem sameSelection_handleCall (call : ClientCall)
    (otherChoice : server.takesChoice = true → call ≠ .reportUserChoice .selectApp) :
    SameSelection server (handleCall platform env call server) := by
  cases call with
  | configure config =>
    simp only [handleCall, configure]
    split <;> exact ⟨rfl, rfl⟩
  | setMicrophoneEnabled isMicrophone =>
    simp only [handleCall, setMicrophoneEnabled]
    split <;> exact ⟨rfl, rfl⟩
  | addWatermark =>
    simp only [handleCall, addWatermark]
    split <;> exact ⟨rfl, rfl⟩
  | startScreenCapture isPrivacyAuthorityEnabled =>
    simp only [handleCall, startScreenCapture]
    split
    · exact ⟨rfl, rfl⟩
    · exact sameSelection_startInner platform env isPrivacyAuthorityEnabled
        { server with isSurfaceMode := false }
  | startScreenCaptureWithSurface surface isPrivacyAuthorityEnabled =>
    simp only [handleCall, startScreenCaptureWithSurface]
    split
    · exact ⟨rfl, rfl⟩
    · exact sameSelection_startInner platform env isPrivacyAuthorityEnabled
        { server with surface := true, isSurfaceMode := true }
  | reportUserChoice choice =>
    apply sameSelection_choice
    intro shown
    simpa using otherChoice shown
  | pauseScreenCapture =>
    simp only [handleCall, pauseScreenCaptureInner]
    split <;> exact ⟨rfl, rfl⟩
  | resumeScreenCapture =>
    rcases resumeScreenCaptureInner_cases platform env server with
      same | ⟨-, ⟨screen, stopped⟩ | ⟨audio, ret, synced⟩⟩
    · simp only [handleCall, same]
      exact ⟨rfl, rfl⟩
    · simp only [handleCall, stopped]
      exact sameSelection_stop false { server with virtualScreen := screen }
    · simp only [handleCall, synced]
      exact ⟨rfl, rfl⟩
  | stopScreenCapture | release => exact sameSelection_stopByEvent server
  | excludeContent =>
    simp only [handleCall, excludeContent]
    split
    · exact ⟨rfl, rfl⟩
    · split
      · exact sameSelection_deref server
      · exact ⟨rfl, rfl⟩
  | addWhiteListWindows | removeWhiteListWindows => exact sameSelection_changeWhiteList server
  | updateSurface surface =>
    simp only [handleCall, updateSurface]
    split
    · exact ⟨rfl, rfl⟩
    · exact sameSelection_deref server

theorem sameSelection_handleTask (task : ServerTask) :
    SameSelection server (handleTask platform env task server) := by
  cases task with
  | callStateChanged isInCall =>
    simp only [handleTask, onCallStateChanged]
    split
    · exact ⟨rfl, rfl⟩
    · split
      · exact sameSelection_stopByEvent server
      · split <;> exact ⟨rfl, rfl⟩
  | accountSwitched | stopAndRelease => exact sameSelection_stopByEvent server
  | finishPrepareSelectWindow => exact sameSelection_onReceive platform env true server
  | appInstanceAdded => exact sameSelection_changeWhiteList server

theorem sameSelection_handleStage (stage : Stage) :
    SameSelection server (handleStage platform env stage { server with operation := none }) := by
  have effect := stageEffect platform env stage { server with operation := none }
  generalize handleStage platform env stage { server with operation := none } = after at effect ⊢
  cases effect with
  | audioStarted | rolledBack | paused | resumed => exact ⟨rfl, rfl⟩
  | started ret made kept consumer producerSurface listeners outcome =>
    rcases outcome with stopped | running
    · rw [stopped]
      exact sameSelection_stop false _
    · rw [running]
      exact ⟨rfl, rfl⟩
  | startFailed => exact sameSelection_stop true { server with operation := none }
  | unpaused | unresumed => exact sameSelection_stop false { server with operation := none }
  | captureStopped isFail => cases isFail <;> exact ⟨rfl, rfl⟩

theorem stops_of_stopInner (isFail : Bool) :
    (server.stopScreenCaptureInner isFail).captureState = .stopped ∨
      (server.stopScreenCaptureInner isFail).operation = some (.stopCapture isFail) := by
  unfold stopScreenCaptureInner
  split
  · cases isFail <;> exact .inl rfl
  split
  · cases isFail <;> exact .inl rfl
  · split
    · exact .inr rfl
    · exact .inr rfl
    · cases isFail <;> exact .inl rfl

theorem sameSelection_handle {state : CaptureThreads} (noTimeout : event ≠ .appSelectionTimeout)
    (noChoice : (∀ call, event ≠ .call call) ∧ event ≠ .batchLifecycle) :
    SameSelection state.server (CaptureThreads.handle platform env event state).server := by
  cases event with
  | call call => exact absurd rfl (noChoice.1 call)
  | batchLifecycle => exact absurd rfl noChoice.2
  | appSelectionTimeout => exact absurd rfl noTimeout
  | task task => exact sameSelection_handleTask task
  | rendererState newState =>
    simp only [CaptureThreads.handle]
    split <;> exact ⟨rfl, rfl⟩
  | rendererSync | timeoutProceed => exact ⟨rfl, rfl⟩
  | proceed =>
    simp only [CaptureThreads.handle, CaptureThreads.proceed]
    split
    · exact ⟨rfl, rfl⟩
    · exact sameSelection_handleStage _

end ScreenCaptureServer

namespace Selecting

open ScreenCaptureServer

variable {platform : Platform} {env : Env} {event : ServerEvent} {state : Selecting}

def selections (log : List SelectionEvent) : Nat :=
  log.countP fun
    | .selected _ => true
    | _ => false

def nextArmed (state : Selecting) (event : ServerEvent) : List Nat :=
  if state.capture.takesUp event then
    match event with
    | .call (.reportUserChoice .selectApp) =>
      if state.capture.server.takesChoice then state.armed ++ [selections state.log]
      else state.armed
    | .appSelectionTimeout => state.armed.tail
    | _ => state.armed
  else state.armed

/-- The log after the event, before the end of a capture is noted. -/
def noted (state : Selecting) (event : ServerEvent) : List SelectionEvent :=
  if state.capture.takesUp event then
    match event with
    | .call (.reportUserChoice .selectApp) =>
      if state.capture.server.takesChoice then .selected (selections state.log) :: state.log
      else state.log
    | .call (.reportUserChoice .selectWindow) | .call (.reportUserChoice .selectDisplay)
    | .call (.reportUserChoice .fallback) =>
      if state.capture.server.takesChoice then .replaced :: state.log else state.log
    | .batchLifecycle => .answered :: state.log
    | _ => state.log
  else state.log

/-- The step ends the capture, or takes its window away. -/
def ends (before after : ScreenCaptureServer) : Bool :=
  after.captureState != before.captureState &&
    (after.captureState == .created || after.captureState == .stopped)

def next (platform : Platform) (state : Selecting) (input : ServerEvent × Env) : Selecting :=
  let capture := CaptureThreads.next platform state.capture input
  { capture
    armed := state.nextArmed input.1
    log :=
      if ends state.capture.server capture.server then .ended :: state.noted input.1
      else state.noted input.1 }

/-- The flag and the queue of the server are what the history says. -/
def Tracked (state : Selecting) : Prop :=
  state.capture.server.isGetAppMissionId = lastAnswered state.log ∧
    state.capture.server.appSelectionTimeouts = state.armed.length

/-- The expiry of the oldest task stops the capture. -/
def StopsCapture (after : CaptureThreads) : Prop :=
  after.server.captureState = .stopped ∨ after.task = .startFail

theorem tracked_of_noted
    (flag : (CaptureThreads.next platform state.capture (event, env)).server.isGetAppMissionId =
      lastAnswered (state.noted event))
    (armed : (CaptureThreads.next platform state.capture (event, env)).server.appSelectionTimeouts =
      (state.nextArmed event).length) :
    Tracked (next platform state (event, env)) := by
  refine ⟨?_, armed⟩
  simp only [next]
  split
  · exact flag
  · exact flag

theorem tracked_same (tracked : Tracked state) (same : SameSelection state.capture.server
      (CaptureThreads.next platform state.capture (event, env)).server)
    (armed : state.nextArmed event = state.armed)
    (log : lastAnswered (state.noted event) = lastAnswered state.log) :
    Tracked (next platform state (event, env)) := by
  apply tracked_of_noted
  · rw [same.1, log]
    exact tracked.1
  · rw [same.2, armed]
    exact tracked.2

theorem tracked_choice (choice : UserChoice) (tracked : Tracked state)
    (taken : state.capture.takesUp (.call (.reportUserChoice choice)) = true) :
    Tracked (next platform state (.call (.reportUserChoice choice), env)) := by
  have stepped : (CaptureThreads.next platform state.capture
      (.call (.reportUserChoice choice), env)).server =
        reportAVScreenCaptureUserChoice platform env choice state.capture.server := by
    unfold CaptureThreads.next
    rw [if_pos taken]
    rfl
  by_cases app : choice = .selectApp ∧ state.capture.server.takesChoice = true
  · obtain ⟨rfl, shown⟩ := app
    have parsed : reportAVScreenCaptureUserChoice platform env .selectApp state.capture.server =
        parseAppMissionIds platform env state.capture.server := by
      unfold reportAVScreenCaptureUserChoice
      split
      · rfl
      rename_i hidden
      have running : state.capture.server.isState .running = true :=
        (Bool.or_eq_true _ _ ▸ shown).resolve_left hidden
      rw [if_pos running]
      rfl
    apply tracked_of_noted
    · rw [stepped, parsed]
      simp only [noted, taken, shown, if_true]
      rfl
    · rw [stepped, parsed]
      simp only [nextArmed, taken, shown, if_true, List.length_append, List.length_singleton]
      exact congrArg (· + 1) tracked.2
  · apply tracked_same tracked
    · rw [stepped]
      apply sameSelection_choice
      intro shown selected
      exact app ⟨selected, shown⟩
    · unfold nextArmed
      rw [if_pos taken]
      cases choice with
      | selectApp => exact if_neg (fun shown => app ⟨rfl, shown⟩)
      | _ => rfl
    · unfold noted
      rw [if_pos taken]
      cases choice with
      | selectApp => rw [if_neg (fun shown => app ⟨rfl, shown⟩)]
      | selectWindow | selectDisplay | fallback => simp only; split <;> rfl
      | _ => rfl

theorem tracked_timeout (tracked : Tracked state)
    (taken : state.capture.takesUp .appSelectionTimeout = true) :
    Tracked (next platform state (.appSelectionTimeout, env)) := by
  have stepped : (CaptureThreads.next platform state.capture (.appSelectionTimeout, env)) =
      state.capture.appSelectionTimeout := by
    unfold CaptureThreads.next
    rw [if_pos taken]
    rfl
  have same : SameSelection
      { state.capture.server with
        appSelectionTimeouts := state.capture.server.appSelectionTimeouts - 1 }
      state.capture.appSelectionTimeout.server := by
    unfold CaptureThreads.appSelectionTimeout
    rcases appSelectionTimeout_cases { state.capture.server with operation := none } with
      ⟨-, answered⟩ | ⟨-, failed⟩
    · rw [answered]
      exact ⟨rfl, rfl⟩
    rw [failed]
    exact sameSelection_stop true
      { state.capture.server with
        operation := none
        appSelectionTimeouts := state.capture.server.appSelectionTimeouts - 1 }
  apply tracked_of_noted
  · rw [stepped, same.1]
    unfold noted
    rw [if_pos taken]
    exact tracked.1
  · rw [stepped, same.2]
    unfold nextArmed
    rw [if_pos taken]
    simp only [List.length_tail, tracked.2]

theorem tracked_next (platform : Platform) (state : Selecting) (input : ServerEvent × Env)
    (tracked : Tracked state) : Tracked (next platform state input) := by
  obtain ⟨event, env⟩ := input
  cases taken : state.capture.takesUp event with
  | false =>
    have waits : CaptureThreads.next platform state.capture (event, env) = state.capture := by
      unfold CaptureThreads.next
      rw [if_neg (by simp [taken])]
    apply tracked_same tracked
    · rw [waits]
      exact ⟨rfl, rfl⟩
    · simp [nextArmed, taken]
    · simp [noted, taken]
  | true =>
    have stepped : CaptureThreads.next platform state.capture (event, env) =
        CaptureThreads.handle platform env event state.capture := by
      unfold CaptureThreads.next
      rw [if_pos taken]
    cases event with
    | call call =>
      by_cases choice : ∃ choice, call = .reportUserChoice choice
      · obtain ⟨choice, rfl⟩ := choice
        exact tracked_choice choice tracked taken
      apply tracked_same tracked
      · rw [stepped]
        apply sameSelection_handleCall
        intro _ selected
        exact choice ⟨_, selected⟩
      · unfold nextArmed
        cases call with
        | reportUserChoice report => exact absurd ⟨report, rfl⟩ choice
        | _ => split <;> rfl
      · unfold noted
        cases call with
        | reportUserChoice report => exact absurd ⟨report, rfl⟩ choice
        | _ => split <;> rfl
    | batchLifecycle =>
      apply tracked_of_noted
      · rw [stepped]
        simp only [noted, taken, if_true]
        rfl
      · rw [stepped]
        simp only [nextArmed, taken, if_true]
        exact tracked.2
    | appSelectionTimeout => exact tracked_timeout tracked taken
    | task | rendererState | rendererSync | timeoutProceed | proceed =>
      apply tracked_same tracked
      · rw [stepped]
        exact sameSelection_handle (by simp) (by simp)
      · simp [nextArmed]
      · simp [noted]

/-- The oldest task that expires on a capture acts for its own selection exactly when the
app that was selected last is answered, or it is the one of this task, and since then no
other choice was made and the capture has not ended. -/
theorem timeout_fails_own_selection_iff (platform : Platform) (inputs : List (ServerEvent × Env))
    (env : Env) (selection : Nat) (rest : List Nat)
    (expires : (run (next platform) {} inputs).armed = selection :: rest)
    (idle : (run (next platform) {} inputs).capture.task = .idle)
    (alive : (run (next platform) {} inputs).capture.server.isState .alive = true) :
    (StopsCapture (next platform (run (next platform) {} inputs)
        (.appSelectionTimeout, env)).capture →
      unanswered (run (next platform) {} inputs).log = some selection) ↔
    (lastAnswered (run (next platform) {} inputs).log = true ∨
      unanswered (run (next platform) {} inputs).log = some selection) := by
  have tracked : Tracked (run (next platform) {} inputs) := by
    apply invariant_of_run Tracked (tracked_next platform) inputs
    exact ⟨rfl, rfl⟩
  generalize run (next platform) {} inputs = state at *
  have stepped : (next platform state (.appSelectionTimeout, env)).capture =
      state.capture.appSelectionTimeout := by
    simp [next, CaptureThreads.next, CaptureThreads.takesUp, idle, CaptureThreads.handle]
  have armed : 0 < state.capture.server.appSelectionTimeouts := by
    rw [tracked.2, expires]
    simp
  have acts : StopsCapture (next platform state (.appSelectionTimeout, env)).capture ↔
      lastAnswered state.log = false := by
    rw [stepped, ← tracked.1]
    unfold CaptureThreads.appSelectionTimeout
    rcases appSelectionTimeout_cases { state.capture.server with operation := none } with
      ⟨stays, answered⟩ | ⟨acts, failed⟩
    · have flag : state.capture.server.isGetAppMissionId = true := by
        simpa [timeoutActs, armed] using stays
      have running : state.capture.server.captureState ≠ .stopped := by
        intro stopped
        simp [isState, AVScreenCaptureState.isState, stopped] at alive
      rw [answered]
      simp [StopsCapture, running, flag]
    · have flag : state.capture.server.isGetAppMissionId = false := by
        simpa [timeoutActs, armed] using acts
      rw [failed]
      simp only [flag, iff_true]
      rcases stops_of_stopInner true with stopped | stopping
      · exact .inl stopped
      · exact .inr (by rw [stopping]; rfl)
  rw [acts]
  cases lastAnswered state.log <;> simp

section Runs

open CaptureThreads

/-- An app selection that starts the capture; its batch of windows comes in time. -/
def answeredSelection : List (ServerEvent × Env) :=
  [.call (.configure AudioCaptures.mixedFile), .call (.startScreenCapture true),
    .call (.reportUserChoice .selectApp), .batchLifecycle, .task .finishPrepareSelectWindow,
    .proceed, .proceed].map fun event => (event, asking)

theorem answered_selection_is_kept :
    let state := run (next phone) {} answeredSelection
    StopsCapture (next phone state (.appSelectionTimeout, asking)).capture →
      unanswered state.log = some 0 :=
  (timeout_fails_own_selection_iff phone answeredSelection asking 0 [] (by decide) (by decide)
    (by decide)).mpr (by decide)

/-- The task of a selection that was answered stops the running capture for a later one, the
task of a selection stops it after a window was chosen instead, and the task of one that
was denied stops the capture that is started next. -/
theorem timeout_stops_for_another :
    let later := run (next phone) {}
      (answeredSelection ++ [(ServerEvent.call (.reportUserChoice .selectApp), asking)])
    let replaced := run (next phone) {}
      ([.call (.configure AudioCaptures.mixedFile), .call (.startScreenCapture true),
        .call (.reportUserChoice .selectApp), .call (.reportUserChoice .selectWindow), .proceed,
        .proceed].map fun event => (event, asking))
    let restarted := run (next phone) {}
      ([.call (.configure AudioCaptures.mixedFile), .call (.startScreenCapture true),
        .call (.reportUserChoice .selectApp), .call (.reportUserChoice .deny),
        .call (.startScreenCapture true)].map fun event => (event, asking))
    (later.capture.server.captureState = .started ∧ later.armed = [0, 1] ∧
      unanswered later.log = some 1 ∧
      (next phone later (.appSelectionTimeout, asking)).capture.task = .startFail) ∧
    (replaced.capture.server.captureState = .started ∧ replaced.armed = [0] ∧
      unanswered replaced.log = none ∧
      (next phone replaced (.appSelectionTimeout, asking)).capture.task = .startFail) ∧
    restarted.capture.server.captureState = .popupWindow ∧ restarted.armed = [0] ∧
      unanswered restarted.log = none ∧
      (next phone restarted (.appSelectionTimeout, asking)).capture.server.captureState =
        .stopped := by
  decide

end Runs

end Selecting

end PlayerFramework.ScreenCapture
