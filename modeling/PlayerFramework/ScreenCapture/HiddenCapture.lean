import PlayerFramework.ScreenCapture.ServerStages

/-!
Outside a running capture nothing records.  `AudioRendererStateUpdate` does not look
at the state, a change of the call state takes `PAUSED` for active, and a call may start
the sound behind a time-out's teardown: the runs without a hidden capture are those where
none of them starts anything.
-/

namespace PlayerFramework.ScreenCapture

open Transition AudioCaptures

def Silent (audio : AudioCaptures) : Prop :=
  recording audio.micAudioCapture = false ∧ recording audio.innerAudioCapture = false

instance (audio : AudioCaptures) : Decidable (Silent audio) :=
  inferInstanceAs (Decidable (_ ∧ _))

namespace AudioCaptures

variable {config : AVScreenCaptureConfig} {results : StartResults} {audio other : AudioCaptures}

theorem silent_stopAudioCapture : Silent audio.stopAudioCapture :=
  ⟨recording_stop, recording_stop⟩

theorem silent_of_same (same : ScreenCaptureServer.SameCapturers audio other)
    (silent : Silent audio) : Silent other := by
  unfold Silent
  rw [same.1, same.2]
  exact silent

/-- A synchronisation has no capturer to start that is configured and can be started. -/
def StartsNothing (config : AVScreenCaptureConfig) (results : StartResults)
    (audio : AudioCaptures) : Prop :=
  ((calcAudioCaptureSyncFlags config audio audio.callState).innerStart = true →
    config.innerCapInfo.state = .validationValid → results.inner = false) ∧
  ((calcAudioCaptureSyncFlags config audio audio.callState).micStart = true →
    config.micCapInfo.state = .validationValid → results.mic = false)

instance (config : AVScreenCaptureConfig) (results : StartResults) (audio : AudioCaptures) :
    Decidable (StartsNothing config results audio) :=
  inferInstanceAs (Decidable ((_ → _) ∧ (_ → _)))

theorem startInner_silent (silent : recording audio.innerAudioCapture = false)
    (nothing : config.innerCapInfo.state = .validationValid → results.inner = false) :
    recording (startInnerAudioCapture config results.inner audio.innerAudioCapture).2 = false := by
  unfold startInnerAudioCapture
  rw [if_neg (by simp [silent])]
  split
  · rename_i valid
    simp [nothing valid, AudioCapturerWrapper.start]
  · exact silent

theorem startMic_silent {capture : Option AudioCapturerWrapper} (isVoip : Bool)
    (silent : recording capture = false)
    (nothing : config.micCapInfo.state = .validationValid → results.mic = false) :
    recording (startMicAudioCapture config isVoip results.mic capture).2 = false := by
  unfold startMicAudioCapture
  rw [if_neg (by simp [silent])]
  split
  · rename_i valid
    simp [nothing valid, AudioCapturerWrapper.start]
  · exact silent

theorem silent_sync (ignoreMicError : Bool) (silent : Silent audio)
    (nothing : StartsNothing config results audio) :
    Silent (syncAudioCaptures config results ignoreMicError audio).2 := by
  have stopped : recording (if (calcAudioCaptureSyncFlags config audio audio.callState).micStop
      then audio.micAudioCapture.map (·.stop) else audio.micAudioCapture) = false := by
    split
    · exact recording_stop
    · exact silent.1
  constructor
  · unfold syncAudioCaptures
    simp only
    split
    · rename_i micStart
      exact startMic_silent audio.callState.voip stopped (nothing.2 micStart)
    · exact stopped
  · unfold syncAudioCaptures
    simp only
    split
    · exact recording_stop
    · split
      · rename_i innerStart
        exact startInner_silent silent.2 (nothing.1 innerStart)
      · exact silent.2

theorem silent_callStateUpdate (isInCall : Bool) (silent : Silent audio)
    (nothing : audio.isInTelCall ≠ isInCall →
      StartsNothing config results { audio with isInTelCall := isInCall }) :
    Silent (audio.callStateUpdate config results isInCall).2 := by
  unfold callStateUpdate
  split
  · exact silent
  · rename_i changed
    exact silent_sync false silent (nothing changed)

end AudioCaptures

namespace ScreenCaptureServer

variable {platform : Platform} {env : Env} {event : ServerEvent}
  {server after : ScreenCaptureServer}

/-- The capture runs, or an operation that ends in a running capture has come to the audio. -/
def mayRecord (server : ScreenCaptureServer) : Bool :=
  match server.operation with
  | none => server.isState .running
  | some .startAudio | some (.startVideo _) | some (.resumeSynced _) => true
  | some .startFailed | some .pauseRecorder | some (.stopCapture _) => false

/-- Where the capture may not record, it does not. -/
def NoneHidden (server : ScreenCaptureServer) : Prop :=
  server.mayRecord = false → Silent server.audio

theorem noneHidden_stop (isFail : Bool) (equipped : server.isState .active = true → server.Equipped)
    (silent : server.isState .active = false → Silent server.audio) :
    NoneHidden (server.stopScreenCaptureInner isFail) := by
  cases active : server.isState .active with
  | true =>
    obtain ⟨recorder, consumer, stopped, -⟩ :=
      stopScreenCaptureInner_of_active isFail active (equipped active)
    rw [stopped]
    exact fun _ => silent_stopAudioCapture
  | false =>
    obtain ⟨surface, isSurfaceMode, isPrivacyAuthorityEnabled, stopped⟩ :=
      stopScreenCaptureInner_of_notActive isFail active
    rw [stopped]
    exact fun _ => silent active

theorem noneHidden_onStart (silent : Silent server.audio) :
    NoneHidden (onStartScreenCapture platform env server) := by
  obtain ⟨audio, listeners, consumer, recorder, stage, started, same, -⟩ :=
    onStartScreenCapture_eq platform env server
  rw [started]
  exact fun _ => silent_of_same same silent

theorem noneHidden_startInner (isPrivacyAuthorityEnabled : Bool) (silent : Silent server.audio) :
    NoneHidden (startScreenCaptureInner platform env isPrivacyAuthorityEnabled server) := by
  obtain ⟨config, dataMode, audio, listeners, same, refused | ⟨authority, popup, rfl, outcome⟩⟩ :=
    startScreenCaptureInner_cases platform env isPrivacyAuthorityEnabled server
  · rw [refused]
    exact fun _ => silent_of_same same silent
  rcases outcome with waits | stopped | started
  · rw [waits]
    exact fun _ => silent_of_same same silent
  · rw [stopped]
    exact fun _ => silent_of_same same silent
  · rw [started]
    exact noneHidden_onStart (silent_of_same same silent)

theorem silent_idle (idle : server.operation = none) (noneHidden : NoneHidden server)
    (resting : server.isState .running = false) : Silent server.audio := by
  apply noneHidden
  unfold mayRecord
  rw [idle]
  exact resting

theorem noneHidden_effect (idle : server.operation = none) (staged : Staged server)
    (quiet : ∀ isInCall, event = .task (.callStateChanged isInCall) →
      platform.supportCall = true → server.captureState = .paused →
      server.audio.isInTelCall ≠ isInCall →
      AudioCaptures.StartsNothing server.config env.startResults
        { server.audio with isInTelCall := isInCall })
    (noneHidden : NoneHidden server) (effect : Effect platform env server event after) :
    NoneHidden after := by
  have equipped := ((staged_idle idle).mp staged).2
  have silent : server.isState .running = false → Silent server.audio :=
    silent_idle idle noneHidden
  have inactive : server.isState .active = false → Silent server.audio := by
    intro inactive
    apply silent
    cases running : server.isState .running with
    | false => rfl
    | true =>
      rw [active_of_running running] at inactive
      cases inactive
  cases effect with
  | refused | configured | switchStored => exact noneHidden
  | switched isMicrophone isInCall running =>
    intro mayNot
    simp only [idle] at mayNot
    exact absurd (mayNot.symm.trans running) (by simp)
  | started isPrivacyAuthorityEnabled surface isSurfaceMode call initial =>
    apply noneHidden_startInner
    exact inactive (inactive_of_init initial)
  | parsed => exact noneHidden
  | cancelled captureMode popup =>
    intro _
    exact inactive (inactive_of_popup popup)
  | chosen => exact noneHidden
  | accepted captureMode popup =>
    apply noneHidden_onStart
    exact inactive (inactive_of_popup popup)
  | reselected captureMode running =>
    obtain ⟨screen, listeners, remade⟩ := reselect_eq platform env
      (server.setCaptureConfig captureMode)
    rw [remade]
    exact noneHidden
  | paused => exact fun _ => silent_stopAudioCapture
  | resumeFailed => exact noneHidden_stop false equipped inactive
  | resumed =>
    intro mayNot
    exact absurd mayNot (by simp [mayRecord])
  | stopped isFail => exact noneHidden_stop isFail equipped inactive
  | usedScreen => exact noneHidden
  | callChanged isInCall changed supported active =>
    intro mayNot
    unfold mayRecord at mayNot
    simp only [idle] at mayNot
    have paused : server.captureState = .paused := by
      revert active mayNot
      unfold isState AVScreenCaptureState.isState
      cases server.captureState <;> simp
    exact silent_callStateUpdate isInCall (silent mayNot) (quiet isInCall changed supported paused)

theorem noneHidden_handleStage (stage : Stage) (operation : server.operation = some stage)
    (staged : Staged server) (noneHidden : NoneHidden server) :
    NoneHidden (handleStage platform env stage { server with operation := none }) := by
  unfold Staged at staged
  unfold NoneHidden mayRecord at noneHidden
  rw [operation] at staged noneHidden
  have effect := stageEffect platform env stage { server with operation := none }
  generalize handleStage platform env stage { server with operation := none } = after at effect ⊢
  cases effect with
  | audioStarted =>
    intro mayNot
    exact absurd mayNot (by simp [startAudio, mayRecord])
  | rolledBack => exact fun _ => silent_stopAudioCapture
  | started ret made kept consumer producerSurface listeners outcome =>
    rcases outcome with stopped | running
    · rw [stopped]
      apply noneHidden_stop false
      · exact fun _ => staged.2
      · intro inactive
        exact absurd inactive (by simp [isState, AVScreenCaptureState.isState])
    · rw [running]
      intro mayNot
      exact absurd mayNot (by simp [mayRecord, isState, AVScreenCaptureState.isState])
  | startFailed =>
    have silent : Silent server.audio := noneHidden rfl
    apply noneHidden_stop true
    · intro active
      simp [isState, AVScreenCaptureState.isState, staged] at active
    · exact fun _ => silent
  | unpaused | unresumed =>
    apply noneHidden_stop false
    · exact fun _ => staged.2
    · intro inactive
      exact absurd (staged.1.symm.trans inactive) (by simp)
  | paused =>
    have silent : Silent server.audio := noneHidden rfl
    exact fun _ => silent
  | resumed =>
    intro mayNot
    exact absurd mayNot (by simp [mayRecord, isState, AVScreenCaptureState.isState])
  | captureStopped isFail =>
    have silent : Silent server.audio := noneHidden rfl
    cases isFail
    · exact fun _ => silent
    · exact fun _ => silent

end ScreenCaptureServer

namespace CaptureThreads

open ScreenCaptureServer

/-- A late update of the renderer state, or a change of the call state in `PAUSED`, starts
no capturer. -/
def NoHiddenStart (platform : Platform) (state : CaptureThreads) (input : ServerEvent × Env) :
    Prop :=
  match input.1 with
  | .rendererSync => state.task = .rendererSync → state.server.mayRecord = false →
      AudioCaptures.StartsNothing state.server.config input.2.startResults state.server.audio
  | .task (.callStateChanged isInCall) => state.takesUp input.1 = true →
      platform.supportCall = true → state.server.captureState = .paused →
      state.server.audio.isInTelCall ≠ isInCall →
      AudioCaptures.StartsNothing state.server.config input.2.startResults
        { state.server.audio with isInTelCall := isInCall }
  | _ => True

instance (platform : Platform) (state : CaptureThreads) (input : ServerEvent × Env) :
    Decidable (NoHiddenStart platform state input) := by
  unfold NoHiddenStart
  split <;> infer_instance

theorem noneHidden_next (platform : Platform) (state : CaptureThreads)
    (input : ServerEvent × Env) (sole : Sole state) (alone : TimesOutAlone state input.1)
    (staged : Staged state.locked) (guard : NoHiddenStart platform state input)
    (noneHidden : NoneHidden state.locked) :
    NoneHidden (next platform state input).locked := by
  obtain ⟨event, env⟩ := input
  apply next_cases sole alone
  · intro _ _
    exact noneHidden
  · intro after taken idle effect
    apply noneHidden_effect idle staged ?_ noneHidden effect
    intro isInCall changed supported paused switches
    subst changed
    have same : state.locked = state.server := by
      apply locked_of_task
      simp only [takesUp, Bool.and_eq_true, beq_iff_eq] at taken
      simp [taken.2, taskBefore]
    rw [same] at paused switches ⊢
    exact guard taken supported paused switches
  · intro newState mayNot
    exact silent_of_same ⟨rfl, rfl⟩ (noneHidden mayNot)
  · intro synced pending mayNot
    subst synced
    have same : state.locked = state.server := locked_of_task (by simp [pending])
    rw [same] at noneHidden mayNot ⊢
    exact silent_sync false (noneHidden mayNot) (guard pending mayNot)
  · intro stage _ operation
    exact noneHidden_handleStage stage operation staged noneHidden

/-- No hidden audio capture: on every run whose time-outs act alone and whose late renderer
updates and call changes start nothing, a server between operations records only while the
capture runs. -/
theorem no_hidden_capture (platform : Platform) (inputs : List (ServerEvent × Env))
    (along : Along (next platform)
      (fun state input => TimesOutAlone state input.1 ∧ NoHiddenStart platform state input) {}
      inputs)
    (idle : (run (next platform) {} inputs).server.operation = none)
    (finished : (run (next platform) {} inputs).task ≠ .startFail)
    (resting : (run (next platform) {} inputs).server.captureState ∈
      [.created, .popupWindow, .paused, .stopped]) :
    Silent (run (next platform) {} inputs).server.audio := by
  have reached := locked_along NoneHidden (noneHidden_next platform) (fun _ => ⟨rfl, rfl⟩) along
  rw [locked_of_task finished] at reached
  apply silent_idle idle reached
  generalize (run (next platform) {} inputs).server = server at resting
  revert resting
  unfold isState AVScreenCaptureState.isState
  cases server.captureState <;> simp

section Runs

/-- A phone with calls, and the audio framework of most devices. -/
def phone : Platform where
  supportCall := true
  pcStandard := false
  windowNotification := false
  isSystemRecorder := false
  support := commonRates

/-- Every framework does as it is asked, the user need not be, and there is no call. -/
def willing : Env where
  ok query := decide (query ≠ .inCall)
  startResults := ⟨true, true⟩

/-- A file of the screen with both sounds that may be paused, from its start to `PAUSED`. -/
def pausedFile : List (ServerEvent × Env) :=
  [.call (.configure
      { mixedFile with strategy := { enablePause := true } }),
    .call (.startScreenCapture false), .proceed, .proceed,
    .call .pauseScreenCapture, .proceed].map fun event => (event, willing)

theorem paused_file_is_silent : Silent (run (next phone) {} pausedFile).server.audio :=
  no_hidden_capture phone pausedFile (by decide) (by decide) (by decide) (by decide)

/-- An app is selected anew on a running file capture, which is then paused. -/
def selectedAndPaused : List (ServerEvent × Env) :=
  [.call (.configure { mixedFile with strategy := { enablePause := true } }),
    .call (.startScreenCapture false), .proceed, .proceed,
    .call (.reportUserChoice .selectApp), .call .pauseScreenCapture, .proceed].map
    fun event => (event, willing)

/-- A renderer update that arrives in `PAUSED` starts the microphone, and a capture that is
resumed behind the teardown of a time-out records in `STOPPED`. -/
theorem late_update_records_in_paused :
    let paused := run (next phone) {} (pausedFile ++
      [(ServerEvent.rendererState { voip := true }, willing), (.rendererSync, willing)])
    let stopped := run (next phone) {} (selectedAndPaused ++
      [ServerEvent.appSelectionTimeout, .call .resumeScreenCapture, .proceed,
        .timeoutProceed].map fun event => (event, willing))
    (paused.task = .idle ∧ paused.server.operation = none ∧ paused.server.captureState = .paused ∧
      recording paused.server.audio.micAudioCapture = true) ∧
    stopped.task = .idle ∧ stopped.server.operation = none ∧
      stopped.server.captureState = .stopped ∧
      recording stopped.server.audio.micAudioCapture = true := by
  decide

end Runs

end CaptureThreads

end PlayerFramework.ScreenCapture
