import PlayerFramework.ScreenCapture.Config
import PlayerFramework.Transition

/-!
The two audio capturers of a `ScreenCaptureServer` and the functions that start
and stop them (`screen_capture_server.cpp`, `audio_capturer_wrapper.cpp`).
Every function here runs under `audioMutex_`.
-/

namespace PlayerFramework.ScreenCapture

open Transition

/-- `lastStartFailed` is a history variable. -/
structure AudioCapturerWrapper where
  isRecording : Bool := false
  isInVoIPCall : Bool := false
  lastStartFailed : Bool := false
deriving DecidableEq

namespace AudioCapturerWrapper

/-- `Start` of a capturer that is not recording; `ok` is whether the audio
framework creates and starts one. -/
def start (capturer : AudioCapturerWrapper) (ok : Bool) : MSErr × AudioCapturerWrapper :=
  if ok then (.ok, { capturer with isRecording := true, lastStartFailed := false })
  else (.unknown, { capturer with isRecording := false, lastStartFailed := true })

def stop (capturer : AudioCapturerWrapper) : AudioCapturerWrapper :=
  { capturer with isRecording := false }

end AudioCapturerWrapper

def recording (capture : Option AudioCapturerWrapper) : Bool :=
  capture.any (·.isRecording)

inductive AudioCombinePolicy where
  | passthrough
  | mixAll
deriving DecidableEq

/-- The bits `AUDIO_STATE_HEADSET`, `AUDIO_STATE_VOIP` and `AUDIO_STATE_TEL`. -/
structure AudioStateFlags where
  headset : Bool := false
  voip : Bool := false
  tel : Bool := false
deriving DecidableEq

def AudioStateFlags.isZero (state : AudioStateFlags) : Bool :=
  !state.headset && !state.voip && !state.tel

structure AudioCaptureSyncFlags where
  micStop : Bool
  micStart : Bool
  innerStart : Bool
  innerStop : Bool
deriving DecidableEq

/-- What `AudioCapturerWrapper::Start` answers if it is called. -/
structure StartResults where
  inner : Bool
  mic : Bool
deriving DecidableEq

structure AudioCaptures where
  micAudioCapture : Option AudioCapturerWrapper := none
  innerAudioCapture : Option AudioCapturerWrapper := none
  audioSource : Option AudioCombinePolicy := none
  audioRendererState : AudioStateFlags := {}
  isInTelCall : Bool := false
  isMicrophoneSwitchTurnOn : Bool := true
deriving DecidableEq

def startInnerAudioCapture (config : AVScreenCaptureConfig) (ok : Bool)
    (capture : Option AudioCapturerWrapper) : MSErr × Option AudioCapturerWrapper :=
  if recording capture then (.ok, capture)
  else if config.innerCapInfo.state = .validationValid then
    let started := (capture.getD {}).start ok
    (started.1, some started.2)
  else (.ok, capture)

def startMicAudioCapture (config : AVScreenCaptureConfig) (isVoip ok : Bool)
    (capture : Option AudioCapturerWrapper) : MSErr × Option AudioCapturerWrapper :=
  if recording capture then (.ok, capture)
  else if config.micCapInfo.state = .validationValid then
    let started := { capture.getD {} with isInVoIPCall := isVoip }.start ok
    (started.1, some started.2)
  else (.ok, capture)

namespace AudioCaptures

/-- `StopAudioCapture`; `AudioCapturerWrapper::Stop` never fails. -/
def stopAudioCapture (audio : AudioCaptures) : AudioCaptures :=
  { audio with
    micAudioCapture := audio.micAudioCapture.map (·.stop)
    innerAudioCapture := audio.innerAudioCapture.map (·.stop) }

/-- The renderer state with the bit of a telephone call added. -/
def callState (audio : AudioCaptures) : AudioStateFlags :=
  { audio.audioRendererState with tel := audio.audioRendererState.tel || audio.isInTelCall }

/-- The microphone capturer was started for another kind of call. -/
def voipChanged (audio : AudioCaptures) (state : AudioStateFlags) : Bool :=
  audio.micAudioCapture.any fun mic => mic.isInVoIPCall != state.voip

def calcAudioCaptureSyncFlags (config : AVScreenCaptureConfig) (audio : AudioCaptures)
    (state : AudioStateFlags) : AudioCaptureSyncFlags :=
  let micStop := !audio.isMicrophoneSwitchTurnOn || state.tel || audio.voipChanged state
  let isMixMode := audio.audioSource == some .mixAll
  let isOriginalStream := config.dataType == .originalStream
  { micStop
    micStart := audio.isMicrophoneSwitchTurnOn && !state.tel
    innerStart := isOriginalStream || (isMixMode && (!state.isZero || micStop))
    innerStop := !isOriginalStream && isMixMode && state.isZero && !micStop }

def syncAudioCaptures (config : AVScreenCaptureConfig) (results : StartResults)
    (ignoreMicError : Bool) (audio : AudioCaptures) : MSErr × AudioCaptures :=
  let state := audio.callState
  let flags := calcAudioCaptureSyncFlags config audio state
  let inner := if flags.innerStart then
      startInnerAudioCapture config results.inner audio.innerAudioCapture
    else (.ok, audio.innerAudioCapture)
  let innerCapture := if flags.innerStop then inner.2.map (·.stop) else inner.2
  let micCapture := if flags.micStop then audio.micAudioCapture.map (·.stop)
    else audio.micAudioCapture
  let mic := if flags.micStart then
      startMicAudioCapture config state.voip results.mic micCapture
    else (.ok, micCapture)
  (if mic.1 ≠ .ok ∧ ignoreMicError = false then mic.1 else inner.1,
    { audio with micAudioCapture := mic.2, innerAudioCapture := innerCapture })

/-- `SetMicrophoneEnabled` while the capture is running; `isInCall` is the answer
of the call observer. -/
def setMicrophoneEnabled (config : AVScreenCaptureConfig) (results : StartResults)
    (isMicrophone isInCall : Bool) (audio : AudioCaptures) : MSErr × AudioCaptures :=
  if config.micCapInfo.state ≠ .validationValid then (.ok, audio)
  else if isMicrophone = true ∧ isInCall = true then (.unknown, audio)
  else
    let synced := syncAudioCaptures config results false
      { audio with isMicrophoneSwitchTurnOn := isMicrophone }
    if synced.1 ≠ .ok then
      (synced.1, { synced.2 with isMicrophoneSwitchTurnOn := audio.isMicrophoneSwitchTurnOn })
    else synced

/-- The end of `OnCallStateChanged` on an active capture. -/
def callStateUpdate (config : AVScreenCaptureConfig) (results : StartResults) (isInCall : Bool)
    (audio : AudioCaptures) : MSErr × AudioCaptures :=
  if audio.isInTelCall = isInCall then (.ok, audio)
  else syncAudioCaptures config results false { audio with isInTelCall := isInCall }

/-- `SelectAudioSource` with `InitRecorderMix`, `InitRecorderInner` and
`InitRecorderMic`; `accepted` is whether the recorder takes the source. -/
def selectAudioSource (config : AVScreenCaptureConfig) (accepted : Bool) (audio : AudioCaptures) :
    MSErr × AudioCaptures :=
  let ret := if accepted then MSErr.ok else .unknown
  if config.innerCapInfo.state = .validationValid ∧
      config.micCapInfo.state = .validationValid then
    (ret, { audio with audioSource := some .mixAll })
  else if config.innerCapInfo.state = .validationValid then
    (ret, { audio with isMicrophoneSwitchTurnOn := false, audioSource := some .passthrough })
  else if config.micCapInfo.state = .validationValid then
    (ret, { audio with audioSource := some .passthrough })
  else (.unknown, audio)

/-- The microphone records exactly when it is configured, switched on, free of a
telephone call, and its last start did not fail. -/
def MicPolicy (config : AVScreenCaptureConfig) (audio : AudioCaptures) : Prop :=
  recording audio.micAudioCapture = true ↔
    config.micCapInfo.state = .validationValid ∧ audio.isMicrophoneSwitchTurnOn = true ∧
      audio.callState.tel = false ∧
      audio.micAudioCapture.any (·.lastStartFailed) = false

/-- The inner capturer records exactly when it is configured and the data is a
stream, or there is a call or a headset, or the microphone does not record. -/
def InnerPolicy (config : AVScreenCaptureConfig) (audio : AudioCaptures) : Prop :=
  recording audio.innerAudioCapture = true ↔ config.innerCapInfo.state = .validationValid ∧
      (config.dataType = .originalStream ∨ audio.callState.isZero = false ∨
        recording audio.micAudioCapture = false)

instance (config : AVScreenCaptureConfig) (audio : AudioCaptures) :
    Decidable (InnerPolicy config audio) := by
  unfold InnerPolicy
  infer_instance

/-- A further `SyncAudioCaptures` starts and stops nothing. -/
def Settled (config : AVScreenCaptureConfig) (results : StartResults) (audio : AudioCaptures) :
    Prop :=
  ∀ ignoreMicError, (syncAudioCaptures config results ignoreMicError audio).2 = audio

/-- When `SyncAudioCaptures` selects the sources by the policy: for a stream
always; for a file, when the capturers are mixed and, with the switch on and no
call or headset, the microphone does not change between the kinds of call and
records or can be started. -/
def Selects (config : AVScreenCaptureConfig) (results : StartResults) (audio : AudioCaptures) :
    Prop :=
  config.dataType = .originalStream ∨ (audio.audioSource = some .mixAll ∧
      (audio.callState.isZero = true → audio.isMicrophoneSwitchTurnOn = true →
        audio.voipChanged audio.callState = false ∧
          (recording audio.micAudioCapture = true ∨ results.mic = true)))

instance (config : AVScreenCaptureConfig) (results : StartResults) (audio : AudioCaptures) :
    Decidable (Selects config results audio) := by
  unfold Selects
  infer_instance

/-- What the capturers and the data source of a running capture agree on. -/
structure Consistent (config : AVScreenCaptureConfig) (audio : AudioCaptures) : Prop where
  mic : recording audio.micAudioCapture = true → config.micCapInfo.state = .validationValid ∧
    audio.micAudioCapture.any (·.lastStartFailed) = false
  inner : recording audio.innerAudioCapture = true → config.innerCapInfo.state = .validationValid
  source : config.dataType = .originalStream ∨
    (config.dataType = .captureFile ∧ config.innerCapInfo.state = .validationValid ∧
      ((audio.audioSource = some .mixAll ∧ config.micCapInfo.state = .validationValid) ∨
        (audio.audioSource = some .passthrough ∧ config.micCapInfo.state ≠ .validationValid ∧
          recording audio.innerAudioCapture = false)))

/-- What is done to the audio of a capture in one go under `audioMutex_`. -/
inductive AudioStep where
  | sync (ignoreMicError : Bool) (results : StartResults)
  | microphoneSwitch (isTurnOn : Bool)
  | rendererState (newState : AudioStateFlags)
  | inTelCall (isInTelCall : Bool)
  | stop
deriving DecidableEq

def next (config : AVScreenCaptureConfig) (audio : AudioCaptures) : AudioStep → AudioCaptures
  | .sync ignoreMicError results => (syncAudioCaptures config results ignoreMicError audio).2
  | .microphoneSwitch isTurnOn => { audio with isMicrophoneSwitchTurnOn := isTurnOn }
  | .rendererState newState => { audio with audioRendererState := newState }
  | .inTelCall isInTelCall => { audio with isInTelCall := isInTelCall }
  | .stop => audio.stopAudioCapture

/-- The audio of a server when a capture starts: nothing records, the switch is the
checked one, and a file has its recorder's data source. -/
def Prepared (support : AudioCapturerSupport) (input : CheckInput)
    (config : AVScreenCaptureConfig) (audio : AudioCaptures) : Prop :=
  ∃ before : AudioCaptures,
    recording before.micAudioCapture = false ∧ recording before.innerAudioCapture = false ∧
    before.isMicrophoneSwitchTurnOn =
      (checkAllParams support input config).isMicrophoneSwitchTurnOn ∧
    if config.dataType = .captureFile then
      selectAudioSource (checkAllParams support input config).config true before = (.ok, audio)
    else audio = before

section Capturers

variable {capture : Option AudioCapturerWrapper} {config : AVScreenCaptureConfig}

@[simp] theorem recording_none : recording none = false := rfl

@[simp] theorem recording_some (capturer : AudioCapturerWrapper) :
    recording (some capturer) = capturer.isRecording := rfl

@[simp] theorem recording_stop : recording (capture.map (·.stop)) = false := by
  cases capture <;> simp [recording, AudioCapturerWrapper.stop]

@[simp] theorem stop_stop : (capture.map (·.stop)).map (·.stop) = capture.map (·.stop) := by
  cases capture <;> rfl

theorem stop_of_not_recording (idle : recording capture = false) :
    capture.map (·.stop) = capture := by
  cases capture with
  | none => rfl
  | some capturer =>
    simp [AudioCapturerWrapper.stop, ← idle]

theorem startInnerAudioCapture_idempotent (ok : Bool) :
    (startInnerAudioCapture config ok (startInnerAudioCapture config ok capture).2).2 =
      (startInnerAudioCapture config ok capture).2 := by
  by_cases recorded : recording capture = true
  · simp [startInnerAudioCapture, recorded]
  · by_cases valid : config.innerCapInfo.state = .validationValid
    · cases ok <;>
        simp [startInnerAudioCapture, recorded, valid, AudioCapturerWrapper.start]
    · simp [startInnerAudioCapture, recorded, valid]

theorem recording_startInner {ok : Bool}
    (consistent : recording capture = true → config.innerCapInfo.state = .validationValid)
    (started : (startInnerAudioCapture config ok capture).1 = .ok) :
    recording (startInnerAudioCapture config ok capture).2 = true ↔
      config.innerCapInfo.state = .validationValid := by
  by_cases recorded : recording capture = true
  · simp [startInnerAudioCapture, recorded, consistent recorded]
  by_cases valid : config.innerCapInfo.state = .validationValid
  · cases ok with
    | true =>
      simp [startInnerAudioCapture, recorded, valid, AudioCapturerWrapper.start]
    | false =>
      simp [startInnerAudioCapture, recorded, valid, AudioCapturerWrapper.start] at started
  · simp [startInnerAudioCapture, recorded, valid]

/-- A start of the microphone capturer, failed or not, leaves it recording exactly
when it is configured and its last start did not fail. -/
theorem recording_startMic (isVoip ok : Bool)
    (consistent : recording capture = true → config.micCapInfo.state = .validationValid ∧
      capture.any (·.lastStartFailed) = false) :
    recording (startMicAudioCapture config isVoip ok capture).2 = true ↔
      config.micCapInfo.state = .validationValid ∧
        (startMicAudioCapture config isVoip ok capture).2.any (·.lastStartFailed) = false := by
  by_cases recorded : recording capture = true
  · simp [startMicAudioCapture, recorded, consistent recorded]
  · by_cases valid : config.micCapInfo.state = .validationValid
    · cases ok <;>
        simp [startMicAudioCapture, recorded, valid, AudioCapturerWrapper.start]
    · simp [startMicAudioCapture, recorded, valid]

theorem recording_startMic_iff (isVoip ok : Bool)
    (valid : config.micCapInfo.state = .validationValid) :
    recording (startMicAudioCapture config isVoip ok capture).2 = true ↔
      recording capture = true ∨ ok = true := by
  by_cases recorded : recording capture = true
  · simp [startMicAudioCapture, recorded]
  · cases ok <;>
      simp [startMicAudioCapture, recorded, valid, AudioCapturerWrapper.start]

theorem startMic_isInVoIPCall (isVoip ok : Bool) (idle : recording capture = false)
    (valid : config.micCapInfo.state = .validationValid) :
    (startMicAudioCapture config isVoip ok capture).2.any (·.isInVoIPCall != isVoip) = false := by
  cases ok <;> simp [startMicAudioCapture, idle, valid, AudioCapturerWrapper.start]

theorem startMicAudioCapture_idempotent (isVoip ok : Bool) :
    (startMicAudioCapture config isVoip ok (startMicAudioCapture config isVoip ok capture).2).2 =
      (startMicAudioCapture config isVoip ok capture).2 := by
  by_cases recorded : recording capture = true
  · simp [startMicAudioCapture, recorded]
  · by_cases valid : config.micCapInfo.state = .validationValid
    · cases ok <;>
        simp [startMicAudioCapture, recorded, valid, AudioCapturerWrapper.start]
    · simp [startMicAudioCapture, recorded, valid]

end Capturers

section Sync

variable {config : AVScreenCaptureConfig} {results : StartResults} {ignoreMicError : Bool}
  {audio : AudioCaptures}

@[simp] theorem sync_frame :
    (syncAudioCaptures config results ignoreMicError audio).2.callState = audio.callState ∧
    (syncAudioCaptures config results ignoreMicError audio).2.audioSource = audio.audioSource ∧
    (syncAudioCaptures config results ignoreMicError audio).2.isMicrophoneSwitchTurnOn =
      audio.isMicrophoneSwitchTurnOn := ⟨rfl, rfl, rfl⟩

/-- The microphone capturer is stopped before it may be started again. -/
def micStopped (audio : AudioCaptures) : Option AudioCapturerWrapper :=
  if !audio.isMicrophoneSwitchTurnOn || audio.callState.tel || audio.voipChanged audio.callState
  then audio.micAudioCapture.map (·.stop) else audio.micAudioCapture

theorem sync_mic_of_started (switchOn : audio.isMicrophoneSwitchTurnOn = true)
    (noCall : audio.callState.tel = false) :
    (syncAudioCaptures config results ignoreMicError audio).2.micAudioCapture =
      (startMicAudioCapture config audio.callState.voip results.mic audio.micStopped).2 := by
  simp [syncAudioCaptures, calcAudioCaptureSyncFlags, micStopped, switchOn, noCall]

theorem sync_mic_of_stopped
    (off : audio.isMicrophoneSwitchTurnOn = false ∨ audio.callState.tel = true) :
    (syncAudioCaptures config results ignoreMicError audio).2.micAudioCapture =
      audio.micAudioCapture.map (·.stop) := by
  rcases off with switchOff | inCall
  · simp [syncAudioCaptures, calcAudioCaptureSyncFlags, switchOff]
  · simp [syncAudioCaptures, calcAudioCaptureSyncFlags, inCall]

theorem sync_inner_of_stream (stream : config.dataType = .originalStream) :
    (syncAudioCaptures config results ignoreMicError audio).2.innerAudioCapture =
      (startInnerAudioCapture config results.inner audio.innerAudioCapture).2 := by
  simp [syncAudioCaptures, calcAudioCaptureSyncFlags, stream]

/-- The mixed inner capturer plays its part when there is a call or a headset, or the
microphone is stopped. -/
def InnerWanted (audio : AudioCaptures) : Prop :=
  audio.callState.isZero = false ∨ audio.isMicrophoneSwitchTurnOn = false ∨
    audio.voipChanged audio.callState = true

instance : Decidable audio.InnerWanted := by unfold InnerWanted; infer_instance

theorem sync_inner_of_mix (file : config.dataType = .captureFile)
    (mix : audio.audioSource = some .mixAll) :
    (syncAudioCaptures config results ignoreMicError audio).2.innerAudioCapture =
      if audio.InnerWanted then
        (startInnerAudioCapture config results.inner audio.innerAudioCapture).2
      else audio.innerAudioCapture.map (·.stop) := by
  cases zero : audio.callState.isZero with
  | false => simp [syncAudioCaptures, calcAudioCaptureSyncFlags, InnerWanted, file, mix, zero]
  | true =>
    have noCall : audio.callState.tel = false := by
      simp only [AudioStateFlags.isZero, Bool.and_eq_true, Bool.not_eq_true'] at zero
      exact zero.2
    cases switch : audio.isMicrophoneSwitchTurnOn <;>
      cases changed : audio.voipChanged audio.callState <;>
        simp [syncAudioCaptures, calcAudioCaptureSyncFlags, InnerWanted, file, mix, zero, noCall,
          switch, changed]

theorem sync_inner_of_passthrough (file : config.dataType = .captureFile)
    (passthrough : audio.audioSource = some .passthrough) :
    (syncAudioCaptures config results ignoreMicError audio).2.innerAudioCapture =
      audio.innerAudioCapture := by
  simp [syncAudioCaptures, calcAudioCaptureSyncFlags, file, passthrough]

theorem sync_inner_started
    (returned : (syncAudioCaptures config results ignoreMicError audio).1 = .ok)
    (wanted : config.dataType = .originalStream ∨
      (audio.audioSource = some .mixAll ∧ audio.InnerWanted)) :
    (startInnerAudioCapture config results.inner audio.innerAudioCapture).1 = .ok := by
  have start : (calcAudioCaptureSyncFlags config audio audio.callState).innerStart = true := by
    rcases wanted with stream | ⟨mix, nonzero | switchOff | changed⟩
    · simp [calcAudioCaptureSyncFlags, stream]
    · simp [calcAudioCaptureSyncFlags, mix, nonzero]
    · simp [calcAudioCaptureSyncFlags, mix, switchOff]
    · simp [calcAudioCaptureSyncFlags, mix, changed]
  simp only [syncAudioCaptures, start, if_true, ite_eq_iff] at returned
  rcases returned with ⟨failed, micOk⟩ | ⟨-, innerOk⟩
  · exact absurd micOk failed.1
  · exact innerOk

theorem consistent_micStopped (consistent : Consistent config audio) :
    recording audio.micStopped = true → config.micCapInfo.state = .validationValid ∧
      audio.micStopped.any (·.lastStartFailed) = false := by
  unfold micStopped
  split
  · simp
  · exact consistent.mic

/-- The microphone always follows its policy. -/
theorem micPolicy_sync (consistent : Consistent config audio) :
    MicPolicy config (syncAudioCaptures config results ignoreMicError audio).2 := by
  unfold MicPolicy
  by_cases started : audio.isMicrophoneSwitchTurnOn = true ∧ audio.callState.tel = false
  · rw [sync_mic_of_started started.1 started.2,
      recording_startMic _ _ (consistent_micStopped consistent)]
    simp [started]
  · have off : audio.isMicrophoneSwitchTurnOn = false ∨ audio.callState.tel = true := by
      simpa [Classical.or_iff_not_imp_left] using started
    rw [sync_mic_of_stopped off]
    constructor
    · simp
    · intro policy
      exact absurd ⟨policy.2.1, policy.2.2.1⟩ started

theorem sync_inner_consistent (consistent : Consistent config audio) :
    recording (syncAudioCaptures config results ignoreMicError audio).2.innerAudioCapture = true →
      config.innerCapInfo.state = .validationValid := by
  have start : recording
      (startInnerAudioCapture config results.inner audio.innerAudioCapture).2 = true →
      config.innerCapInfo.state = .validationValid := by
    intro recorded
    by_contra invalid
    refine invalid (consistent.inner ?_)
    simpa [startInnerAudioCapture, invalid] using recorded
  rcases consistent.source with stream | ⟨file, -, ⟨mix, -⟩ | ⟨passthrough, -, -⟩⟩
  · rw [sync_inner_of_stream stream]
    exact start
  · rw [sync_inner_of_mix file mix]
    split
    · exact start
    · simp
  · rw [sync_inner_of_passthrough file passthrough]
    exact consistent.inner

theorem consistent_sync (consistent : Consistent config audio) :
    Consistent config (syncAudioCaptures config results ignoreMicError audio).2 where
  mic := by
    intro recorded
    have policy := (micPolicy_sync consistent).mp recorded
    exact ⟨policy.1, policy.2.2.2⟩
  inner := sync_inner_consistent consistent
  source := by
    rcases consistent.source with stream | ⟨file, valid, mixed | ⟨passthrough, micUnused, idle⟩⟩
    · exact .inl stream
    · exact .inr ⟨file, valid, .inl mixed⟩
    · refine .inr ⟨file, valid, .inr ⟨passthrough, micUnused, ?_⟩⟩
      rw [sync_inner_of_passthrough file passthrough]
      exact idle

theorem micStopped_eq (kept : recording audio.micAudioCapture = false ∨
      (audio.isMicrophoneSwitchTurnOn = true ∧ audio.callState.tel = false ∧
        audio.voipChanged audio.callState = false)) :
    audio.micStopped = audio.micAudioCapture := by
  unfold micStopped
  split
  · rename_i stopped
    rcases kept with idle | ⟨switchOn, noCall, unchanged⟩
    · exact stop_of_not_recording idle
    · simp [switchOn, noCall, unchanged] at stopped
  · rfl

theorem voipChanged_sync (valid : config.micCapInfo.state = .validationValid)
    (switchOn : audio.isMicrophoneSwitchTurnOn = true) (noCall : audio.callState.tel = false) :
    (syncAudioCaptures config results ignoreMicError audio).2.voipChanged audio.callState =
      false := by
  unfold voipChanged
  rw [sync_mic_of_started switchOn noCall]
  cases recorded : recording audio.micStopped with
  | false => exact startMic_isInVoIPCall _ _ recorded valid
  | true =>
    have unchanged : audio.voipChanged audio.callState = false := by
      cases changed : audio.voipChanged audio.callState with
      | false => rfl
      | true =>
        simp only [micStopped, changed, Bool.or_true, if_true, recording_stop] at recorded
        cases recorded
    rw [micStopped_eq (.inr ⟨switchOn, noCall, unchanged⟩)] at recorded ⊢
    rw [startMicAudioCapture, if_pos recorded]
    exact unchanged

theorem mic_settled (consistent : Consistent config audio) (ignoreAgain : Bool) :
    (syncAudioCaptures config results ignoreAgain
        (syncAudioCaptures config results ignoreMicError audio).2).2.micAudioCapture =
      (syncAudioCaptures config results ignoreMicError audio).2.micAudioCapture := by
  by_cases started : audio.isMicrophoneSwitchTurnOn = true ∧ audio.callState.tel = false
  · have kept : (syncAudioCaptures config results ignoreMicError audio).2.micStopped =
        (syncAudioCaptures config results ignoreMicError audio).2.micAudioCapture := by
      apply micStopped_eq
      by_cases valid : config.micCapInfo.state = .validationValid
      · exact .inr ⟨started.1, started.2, voipChanged_sync valid started.1 started.2⟩
      · refine .inl (Bool.eq_false_iff.mpr ?_)
        intro recorded
        exact valid ((consistent_sync consistent).mic recorded).1
    rw [sync_mic_of_started (by simpa using started.1) (by simpa using started.2), kept,
      sync_mic_of_started started.1 started.2, sync_frame.1]
    exact startMicAudioCapture_idempotent _ _
  · have off : audio.isMicrophoneSwitchTurnOn = false ∨ audio.callState.tel = true := by
      simpa [Classical.or_iff_not_imp_left] using started
    rw [sync_mic_of_stopped (by simpa using off), sync_mic_of_stopped off]
    exact stop_stop

theorem noCall_of_isZero (zero : audio.callState.isZero = true) : audio.callState.tel = false := by
  simp only [AudioStateFlags.isZero, Bool.and_eq_true, Bool.not_eq_true'] at zero
  exact zero.2

/-- With the microphone kept, mixed capturers are wanted after a synchronisation as
they were before it. -/
theorem innerWanted_sync (valid : config.micCapInfo.state = .validationValid)
    (selects : audio.callState.isZero = true → audio.isMicrophoneSwitchTurnOn = true →
      audio.voipChanged audio.callState = false) :
    (syncAudioCaptures config results ignoreMicError audio).2.InnerWanted ↔ audio.InnerWanted := by
  unfold InnerWanted
  by_cases quiet : audio.callState.isZero = true ∧ audio.isMicrophoneSwitchTurnOn = true
  · simp [quiet, selects quiet.1 quiet.2, voipChanged_sync valid quiet.2 (noCall_of_isZero quiet.1)]
  have loud : audio.callState.isZero = false ∨ audio.isMicrophoneSwitchTurnOn = false := by
    simpa [Classical.or_iff_not_imp_left] using quiet
  rcases loud with nonzero | switchOff
  · simp [nonzero]
  · simp [switchOff]

theorem inner_settled (consistent : Consistent config audio)
    (selects : Selects config results audio) (ignoreAgain : Bool) :
    (syncAudioCaptures config results ignoreAgain
        (syncAudioCaptures config results ignoreMicError audio).2).2.innerAudioCapture =
      (syncAudioCaptures config results ignoreMicError audio).2.innerAudioCapture := by
  rcases consistent.source with stream | ⟨file, -, ⟨mix, micValid⟩ | ⟨passthrough, -⟩⟩
  · rw [sync_inner_of_stream stream, sync_inner_of_stream stream]
    exact startInnerAudioCapture_idempotent _
  · have kept : audio.callState.isZero = true → audio.isMicrophoneSwitchTurnOn = true →
        audio.voipChanged audio.callState = false := by
      intro zero switchOn
      rcases selects with stream | ⟨-, quiet⟩
      · simp [file] at stream
      · exact (quiet zero switchOn).1
    rw [sync_inner_of_mix file (by simpa using mix), sync_inner_of_mix file mix,
      if_congr (innerWanted_sync micValid kept) rfl rfl]
    split
    · exact startInnerAudioCapture_idempotent _
    · exact stop_stop
  · rw [sync_inner_of_passthrough file (by simpa using passthrough)]

theorem settled_sync (consistent : Consistent config audio)
    (selects : Selects config results audio) :
    Settled config results (syncAudioCaptures config results ignoreMicError audio).2 := by
  intro ignoreAgain
  calc (syncAudioCaptures config results ignoreAgain
          (syncAudioCaptures config results ignoreMicError audio).2).2
      = { audio with
          micAudioCapture := (syncAudioCaptures config results ignoreAgain
            (syncAudioCaptures config results ignoreMicError audio).2).2.micAudioCapture
          innerAudioCapture := (syncAudioCaptures config results ignoreAgain
            (syncAudioCaptures config results ignoreMicError audio).2).2.innerAudioCapture } := rfl
    _ = (syncAudioCaptures config results ignoreMicError audio).2 := by
        rw [mic_settled consistent, inner_settled consistent selects]
        rfl

theorem mic_of_quiet (micValid : config.micCapInfo.state = .validationValid)
    (zero : audio.callState.isZero = true) (switchOn : audio.isMicrophoneSwitchTurnOn = true)
    (unchanged : audio.voipChanged audio.callState = false) :
    recording (syncAudioCaptures config results ignoreMicError audio).2.micAudioCapture = true ↔
      recording audio.micAudioCapture = true ∨ results.mic = true := by
  have noCall := noCall_of_isZero zero
  rw [sync_mic_of_started switchOn noCall, recording_startMic_iff _ _ micValid,
    micStopped_eq (.inr ⟨switchOn, noCall, unchanged⟩)]

theorem innerPolicy_sync (consistent : Consistent config audio)
    (selects : Selects config results audio)
    (returned : (syncAudioCaptures config results ignoreMicError audio).1 = .ok) :
    InnerPolicy config (syncAudioCaptures config results ignoreMicError audio).2 := by
  unfold InnerPolicy
  rcases selects with stream | ⟨mix, quiet⟩
  · rw [sync_inner_of_stream stream,
      recording_startInner consistent.inner (sync_inner_started returned (.inl stream))]
    simp [stream]
  · rcases consistent.source with stream | ⟨file, innerValid, ⟨-, micValid⟩ | ⟨passthrough, -⟩⟩
    · rw [sync_inner_of_stream stream,
        recording_startInner consistent.inner (sync_inner_started returned (.inl stream))]
      simp [stream]
    · rw [sync_inner_of_mix file mix]
      split
      · rename_i wanted
        rw [recording_startInner consistent.inner
          (sync_inner_started returned (.inr ⟨mix, wanted⟩))]
        refine ⟨fun valid => ⟨valid, .inr ?_⟩, fun policy => policy.1⟩
        by_cases zero : audio.callState.isZero = true
        · right
          rcases wanted with nonzero | switchOff | changed
          · simp [zero] at nonzero
          · rw [sync_mic_of_stopped (.inl switchOff)]
            exact recording_stop
          have switchOff : audio.isMicrophoneSwitchTurnOn = false := by
            by_contra switchOn
            have unchanged := (quiet zero (by simpa using switchOn)).1
            simp [changed] at unchanged
          rw [sync_mic_of_stopped (.inl switchOff)]
          exact recording_stop
        · exact .inl (by simpa using zero)
      · rename_i unwanted
        simp only [InnerWanted, not_or, Bool.not_eq_false, Bool.not_eq_true] at unwanted
        obtain ⟨zero, switchOn, unchanged⟩ := unwanted
        have micRecords : recording
            (syncAudioCaptures config results ignoreMicError audio).2.micAudioCapture = true :=
          (mic_of_quiet micValid zero switchOn unchanged).mpr (quiet zero switchOn).2
        simp [file, zero, micRecords]
    · simp [mix] at passthrough

/-- Where the inner capturer follows its policy and a further synchronisation changes
nothing, the sources were selected by the policy. -/
theorem selects_of_innerPolicy (consistent : Consistent config audio)
    (returned : (syncAudioCaptures config results ignoreMicError audio).1 = .ok)
    (policy : InnerPolicy config (syncAudioCaptures config results ignoreMicError audio).2)
    (settled : Settled config results
      (syncAudioCaptures config results ignoreMicError audio).2) :
    Selects config results audio := by
  unfold InnerPolicy at policy
  simp only [sync_frame] at policy
  rcases consistent.source with stream | ⟨file, innerValid, ⟨mix, micValid⟩ |
    ⟨passthrough, micUnused, idle⟩⟩
  · exact .inl stream
  · refine .inr ⟨mix, fun zero switchOn => ?_⟩
    have noCall := noCall_of_isZero zero
    have unchanged : audio.voipChanged audio.callState = false := by
      by_contra changed
      have wanted : audio.InnerWanted := .inr (.inr (by simpa using changed))
      have started : recording
          (syncAudioCaptures config results ignoreMicError audio).2.innerAudioCapture = true := by
        rw [sync_inner_of_mix file mix, if_pos wanted]
        exact (recording_startInner consistent.inner
          (sync_inner_started returned (.inr ⟨mix, wanted⟩))).mpr innerValid
      have unwanted : ¬(syncAudioCaptures config results ignoreMicError audio).2.InnerWanted := by
        simp [InnerWanted, zero, switchOn, voipChanged_sync micValid switchOn noCall]
      -- the second synchronisation stops what the first one has started
      have again := congrArg AudioCaptures.innerAudioCapture (settled true)
      rw [sync_inner_of_mix file (by simpa using mix), if_neg unwanted] at again
      rw [← again] at started
      simp at started
    refine ⟨unchanged, ?_⟩
    rw [← mic_of_quiet micValid zero switchOn unchanged]
    by_contra micIdle
    have unwanted : ¬audio.InnerWanted := by simp [InnerWanted, zero, switchOn, unchanged]
    have recorded := policy.mpr ⟨innerValid, .inr (.inr (by simpa using micIdle))⟩
    rw [sync_inner_of_mix file mix, if_neg unwanted] at recorded
    simp at recorded
  · have micIdle : recording
        (syncAudioCaptures config results ignoreMicError audio).2.micAudioCapture = false := by
      by_contra recorded
      exact micUnused ((consistent_sync consistent).mic (by simpa using recorded)).1
    have recorded := policy.mpr ⟨innerValid, .inr (.inr micIdle)⟩
    rw [sync_inner_of_passthrough file passthrough, idle] at recorded
    cases recorded

end Sync

section Runs

variable {config : AVScreenCaptureConfig} {audio : AudioCaptures}

theorem consistent_stop (consistent : Consistent config audio) :
    Consistent config audio.stopAudioCapture where
  mic := by simp [stopAudioCapture]
  inner := by simp [stopAudioCapture]
  source := by
    rcases consistent.source with stream | ⟨file, valid, mixed | ⟨passthrough, micUnused, -⟩⟩
    · exact .inl stream
    · exact .inr ⟨file, valid, .inl mixed⟩
    · exact .inr ⟨file, valid, .inr ⟨passthrough, micUnused, by simp [stopAudioCapture]⟩⟩

/-- Every step keeps the capturers and the data source consistent. -/
theorem consistent_next (consistent : Consistent config audio) (step : AudioStep) :
    Consistent config (next config audio step) := by
  cases step with
  | sync ignoreMicError results => exact consistent_sync consistent
  | stop => exact consistent_stop consistent
  | microphoneSwitch isTurnOn | rendererState newState | inTelCall isInTelCall =>
    exact ⟨consistent.mic, consistent.inner, consistent.source⟩

theorem consistent_prepared {support : AudioCapturerSupport} {input : CheckInput}
    (accepted : (checkAllParams support input config).ret = .ok)
    (prepared : Prepared support input config audio) :
    Consistent (checkAllParams support input config).config audio := by
  have checked := checkAllParams_accepted accepted
  obtain ⟨before, micIdle, innerIdle, -, ready⟩ := prepared
  rw [← checkAllParams_dataType support input config] at ready
  generalize (checkAllParams support input config).config = config at checked ready
  rcases checked.dataType with stream | file
  · simp only [stream, reduceCtorEq, if_false] at ready
    subst ready
    exact ⟨by simp [micIdle], by simp [innerIdle], .inl stream⟩
  · rw [if_pos file] at ready
    unfold selectAudioSource at ready
    by_cases inner : config.innerCapInfo.state = .validationValid
    · by_cases mic : config.micCapInfo.state = .validationValid
      · simp only [inner, mic, and_self, if_true, Prod.mk.injEq, true_and] at ready
        subst ready
        exact ⟨by simp [micIdle], by simp [innerIdle], .inr ⟨file, inner, .inl ⟨rfl, mic⟩⟩⟩
      · simp only [inner, mic, and_false, if_false, if_true, Prod.mk.injEq, true_and] at ready
        subst ready
        exact ⟨by simp [micIdle], by simp [innerIdle],
          .inr ⟨file, inner, .inr ⟨rfl, mic, innerIdle⟩⟩⟩
    · have mic : config.micCapInfo.state ≠ .validationValid := fun mic =>
        inner (checked.fileMix file mic)
      simp [inner, mic] at ready

/-- In every run, an accepted `SyncAudioCaptures` leaves the sources as the policy says,
and a further one changes nothing, exactly when it selects them by the policy. -/
theorem sources_follow_policy {support : AudioCapturerSupport} {input : CheckInput}
    {config : AVScreenCaptureConfig} {audio : AudioCaptures}
    (accepted : (checkAllParams support input config).ret = .ok)
    (prepared : Prepared support input config audio) (steps : List AudioStep)
    (ignoreMicError : Bool) (results : StartResults) :
    let checked := (checkAllParams support input config).config
    let reached := run (next checked) audio steps
    let synced := syncAudioCaptures checked results ignoreMicError reached
    synced.1 = .ok → ((MicPolicy checked synced.2 ∧ InnerPolicy checked synced.2 ∧
          Settled checked results synced.2) ↔
        Selects checked results reached) := by
  intro checked reached synced returned
  have consistent : Consistent checked reached :=
    invariant_of_run (Consistent checked) (fun _ step kept => consistent_next kept step) steps
      (consistent_prepared accepted prepared)
  constructor
  · intro follows
    exact selects_of_innerPolicy consistent returned follows.2.1 follows.2.2
  · intro selects
    exact ⟨micPolicy_sync consistent, innerPolicy_sync consistent selects returned,
      settled_sync consistent selects⟩

/-- A file of the screen with both the inner sound and the microphone. -/
def mixedFile : AVScreenCaptureConfig where
  captureMode := .captureHomeScreen
  dataType := .captureFile
  micCapInfo := { audioSampleRate := 48000, audioChannels := 2 }
  innerCapInfo := { audioSampleRate := 48000, audioChannels := 2, audioSource := .allPlayback }
  audioEncInfo := { audioBitrate := 48000, audioCodecformat := 3 }
  videoCapInfo := { videoFrameWidth := 720, videoFrameHeight := 1280, videoSource := .surfaceRgba }
  videoEncInfo := { videoCodec := 2, videoBitrate := 2000000, videoFrameRate := 30 }

def commonRates : AudioCapturerSupport := { samplingRates := [16000, 48000], channels := [1, 2] }

def freshCheck : CheckInput :=
  { isSurfaceMode := false, surface := false, isMicrophoneSwitchTurnOn := true }

theorem mixedFile_accepted : (checkAllParams commonRates freshCheck mixedFile).ret = .ok := by
  decide

theorem mixedFile_prepared :
    Prepared commonRates freshCheck mixedFile { audioSource := some .mixAll } :=
  ⟨{}, by decide⟩

/-- A call over the network begins during a capture. -/
theorem voip_begin_follows_policy :
    let checked := (checkAllParams commonRates freshCheck mixedFile).config
    let reached := run (next checked) { audioSource := some .mixAll }
      [.sync true ⟨true, true⟩, .rendererState { voip := true }]
    let synced := syncAudioCaptures checked ⟨true, true⟩ false reached
    MicPolicy checked synced.2 ∧ InnerPolicy checked synced.2 ∧
      Settled checked ⟨true, true⟩ synced.2 :=
  (sources_follow_policy mixedFile_accepted mixedFile_prepared
    [.sync true ⟨true, true⟩, .rendererState { voip := true }] false ⟨true, true⟩
    (by decide)).mpr (by decide)

/-- When that call ends the restart of the microphone counts as its stop: the inner
capturer stays on beside it, and only a further synchronisation stops it. -/
theorem voip_end_keeps_inner :
    let checked := (checkAllParams commonRates freshCheck mixedFile).config
    let reached := run (next checked) { audioSource := some .mixAll }
      [.sync true ⟨true, true⟩, .rendererState { voip := true }, .sync false ⟨true, true⟩,
        .rendererState {}]
    let synced := syncAudioCaptures checked ⟨true, true⟩ false reached
    (checkAllParams commonRates freshCheck mixedFile).ret = .ok ∧
      Prepared commonRates freshCheck mixedFile { audioSource := some .mixAll } ∧
      synced.1 = .ok ∧ ¬InnerPolicy checked synced.2 ∧
      (syncAudioCaptures checked ⟨true, true⟩ false synced.2).2 ≠ synced.2 :=
  ⟨mixedFile_accepted, mixedFile_prepared, by decide, by decide, by decide⟩

end Runs

end AudioCaptures

end PlayerFramework.ScreenCapture
