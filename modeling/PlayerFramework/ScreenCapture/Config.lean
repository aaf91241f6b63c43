import PlayerFramework.MediaErrors
import Mathlib.Data.List.Basic

/-!
The configuration of a `ScreenCaptureServer` and its parameter checks
(`screen_capture_server.cpp`).  What the audio framework supports is a parameter.
-/

namespace PlayerFramework.ScreenCapture

inductive AVScreenCaptureState where
  | created
  | popupWindow
  | starting
  | started
  | paused
  | resumed
  | stopped
deriving DecidableEq

inductive Capability where
  | init
  | config
  | alive
  | popup
  | running
  | paused
  | active
deriving DecidableEq

@[simp] def AVScreenCaptureState.caps : AVScreenCaptureState → List Capability
  | .created => [.init, .config, .alive]
  | .popupWindow => [.alive, .popup]
  | .starting => [.alive]
  | .started => [.alive, .running, .active]
  | .paused => [.alive, .paused, .active]
  | .resumed => [.alive, .running, .active]
  | .stopped => [.init]

def AVScreenCaptureState.isState (state : AVScreenCaptureState) (cap : Capability) : Bool :=
  decide (cap ∈ state.caps)

inductive DataType where
  | originalStream
  | encodedStream
  | captureFile
  | invalid
deriving DecidableEq

inductive CaptureMode where
  | captureHomeScreen
  | captureSpecifiedScreen
  | captureSpecifiedWindow
  | captureVirtualExtendedScreen
  | captureSpecifiedApp
  | captureInvalid
deriving DecidableEq

inductive AVScreenCaptureParamValidationState where
  | validationIgnore
  | validationValid
  | validationInvalid
deriving DecidableEq

inductive AudioCaptureSourceType where
  | sourceInvalid
  | sourceDefault
  | mic
  | allPlayback
  | appPlayback
deriving DecidableEq

inductive VideoSourceType where
  | surfaceYuv
  | surfaceEs
  | surfaceRgba
  | butt
deriving DecidableEq

structure AudioCaptureInfo where
  audioSampleRate : Int := 0
  audioChannels : Int := 0
  audioSource : AudioCaptureSourceType := .sourceDefault
  state : AVScreenCaptureParamValidationState := .validationIgnore
deriving DecidableEq

/-- `audioCodecformat` as its number; 12 is `AUDIO_CODEC_FORMAT_BUTT`. -/
structure AudioEncInfo where
  audioBitrate : Int := 0
  audioCodecformat : Int := 12
  state : AVScreenCaptureParamValidationState := .validationIgnore
deriving DecidableEq

structure VideoCaptureInfo where
  videoFrameWidth : Int := 0
  videoFrameHeight : Int := 0
  videoSource : VideoSourceType := .butt
  state : AVScreenCaptureParamValidationState := .validationIgnore
deriving DecidableEq

/-- `videoCodec` as its number; 9 is `VIDEO_CODEC_FORMAT_BUTT`. -/
structure VideoEncInfo where
  videoCodec : Int := 9
  videoBitrate : Int := 0
  videoFrameRate : Int := 0
  state : AVScreenCaptureParamValidationState := .validationIgnore
deriving DecidableEq

structure ScreenCaptureStrategy where
  keepCaptureDuringCall : Bool := false
  enablePause : Bool := false
deriving DecidableEq

structure AVScreenCaptureConfig where
  captureMode : CaptureMode := .captureInvalid
  dataType : DataType := .invalid
  micCapInfo : AudioCaptureInfo := {}
  innerCapInfo : AudioCaptureInfo := {}
  audioEncInfo : AudioEncInfo := {}
  videoCapInfo : VideoCaptureInfo := {}
  videoEncInfo : VideoEncInfo := {}
  strategy : ScreenCaptureStrategy := {}
deriving DecidableEq

/-- `AudioCapturer::GetSupportedSamplingRates` and `GetSupportedChannels`. -/
structure AudioCapturerSupport where
  samplingRates : List Int
  channels : List Int
deriving DecidableEq

def checkDataType : DataType → MSErr
  | .invalid => .invalidVal
  | .encodedStream => .unsupport
  | _ => .ok

def checkCaptureMode : CaptureMode → MSErr
  | .captureInvalid => .invalidVal
  | _ => .ok

def checkAudioCapParam (support : AudioCapturerSupport) (info : AudioCaptureInfo) : MSErr :=
  if info.audioSampleRate ∉ support.samplingRates then .unsupportAudSampleRate
  else if info.audioChannels ∉ support.channels then .unsupportAudChannelNum
  else if info.audioSource = .sourceInvalid then .invalidVal
  else .ok

/-- The state that a check of the parameters leaves behind. -/
def validated (ret : MSErr) : AVScreenCaptureParamValidationState :=
  if ret = .ok then .validationValid else .validationInvalid

def checkAudioCapInfo (support : AudioCapturerSupport) (info : AudioCaptureInfo) :
    MSErr × AudioCaptureInfo :=
  if info.audioChannels = 0 ∧ info.audioSampleRate = 0 then
    (.ok, { info with state := .validationIgnore })
  else
    let ret := checkAudioCapParam support info
    (ret, { info with state := validated ret })

def checkVideoCapParam (info : VideoCaptureInfo) : MSErr :=
  if info.videoFrameWidth ≤ 0 ∨ info.videoFrameWidth > 10240 then .invalidVidFrameWidth
  else if info.videoFrameHeight ≤ 0 ∨ info.videoFrameHeight > 4320 then .invalidVidFrameHeight
  else if info.videoSource ≠ .surfaceRgba then .invalidVal
  else .ok

def checkVideoCapInfo (info : VideoCaptureInfo) : MSErr × VideoCaptureInfo :=
  if info.videoFrameWidth = 0 ∧ info.videoFrameHeight = 0 then
    (.ok, { info with state := .validationIgnore })
  else
    let ret := checkVideoCapParam info
    (ret, { info with state := validated ret })

def checkAudioEncParam (info : AudioEncInfo) : MSErr :=
  if info.audioCodecformat ≥ 12 ∨ info.audioCodecformat < 0 then .invalidVal
  else if info.audioBitrate < 8000 ∨ info.audioBitrate > 384000 then .invalidAudBitrate
  else .ok

def checkAudioEncInfo (info : AudioEncInfo) : MSErr × AudioEncInfo :=
  let ret := checkAudioEncParam info
  (ret, { info with state := validated ret })

def checkVideoEncParam (info : VideoEncInfo) : MSErr :=
  if info.videoCodec ≥ 9 ∨ info.videoCodec < 0 then .invalidVidCodecFormat
  else if info.videoBitrate < 1 ∨ info.videoBitrate > 30000000 then .invalidVidBitrate
  else if info.videoFrameRate < 1 ∨ info.videoFrameRate > 60 then .invalidVal
  else .ok

def checkVideoEncInfo (info : VideoEncInfo) : MSErr × VideoEncInfo :=
  let ret := checkVideoEncParam info
  (ret, { info with state := validated ret })

/-- What `CheckAllParams` reads beside the configuration, and the microphone
switch that it may turn off. -/
structure CheckInput where
  isSurfaceMode : Bool
  surface : Bool
  isMicrophoneSwitchTurnOn : Bool
deriving DecidableEq

structure CheckResult where
  ret : MSErr
  config : AVScreenCaptureConfig
  isMicrophoneSwitchTurnOn : Bool
deriving DecidableEq

/-- The verdict of `CheckCaptureStreamParams` on the validated parameters. -/
def streamParamsRet (input : CheckInput) (config : AVScreenCaptureConfig) : MSErr :=
  if input.isSurfaceMode = true ∧
      (input.surface = false ∨ config.videoCapInfo.state ≠ .validationValid) then .invalidVal
  else if config.innerCapInfo.state = .validationInvalid ∨
      config.videoCapInfo.state = .validationInvalid then .invalidVal
  else if config.innerCapInfo.state = .validationIgnore ∧
      config.videoCapInfo.state = .validationIgnore then .invalidVal
  else .ok

def checkCaptureStreamParams (support : AudioCapturerSupport) (input : CheckInput)
    (config : AVScreenCaptureConfig) : CheckResult :=
  let config := { config with
    micCapInfo := (checkAudioCapInfo support config.micCapInfo).2
    innerCapInfo := (checkAudioCapInfo support config.innerCapInfo).2
    videoCapInfo := (checkVideoCapInfo config.videoCapInfo).2 }
  { ret := streamParamsRet input config
    config
    isMicrophoneSwitchTurnOn := input.isMicrophoneSwitchTurnOn &&
      config.micCapInfo.state == .validationValid }

/-- The verdict of `CheckCaptureFileParams` on the validated parameters. -/
def fileParamsRet (config : AVScreenCaptureConfig) : MSErr :=
  if config.innerCapInfo.state = .validationInvalid ∨
      config.videoCapInfo.state = .validationInvalid ∨
      config.audioEncInfo.state = .validationInvalid ∨
      config.videoEncInfo.state = .validationInvalid then .invalidVal
  else if config.micCapInfo.state = .validationInvalid then .invalidVal
  else if config.micCapInfo.state = .validationIgnore then .ok
  else if config.micCapInfo.audioSampleRate = config.innerCapInfo.audioSampleRate ∧
      config.micCapInfo.audioChannels = config.innerCapInfo.audioChannels then .ok
  else .invalidVal

def checkCaptureFileParams (support : AudioCapturerSupport) (input : CheckInput)
    (config : AVScreenCaptureConfig) : CheckResult :=
  let videoCapInfo := (checkVideoCapInfo config.videoCapInfo).2
  let config := { config with
    micCapInfo := (checkAudioCapInfo support config.micCapInfo).2
    innerCapInfo := (checkAudioCapInfo support config.innerCapInfo).2
    audioEncInfo := (checkAudioEncInfo config.audioEncInfo).2
    videoCapInfo
    videoEncInfo := if videoCapInfo.state ≠ .validationIgnore then
      (checkVideoEncInfo config.videoEncInfo).2 else config.videoEncInfo }
  { ret := fileParamsRet config
    config
    isMicrophoneSwitchTurnOn := input.isMicrophoneSwitchTurnOn }

def checkAllParams (support : AudioCapturerSupport) (input : CheckInput)
    (config : AVScreenCaptureConfig) : CheckResult :=
  let refused (ret : MSErr) : CheckResult :=
    { ret, config, isMicrophoneSwitchTurnOn := input.isMicrophoneSwitchTurnOn }
  if checkDataType config.dataType ≠ .ok then refused (checkDataType config.dataType)
  else if checkCaptureMode config.captureMode ≠ .ok then
    refused (checkCaptureMode config.captureMode)
  else match config.dataType with
    | .originalStream => checkCaptureStreamParams support input config
    | .captureFile => checkCaptureFileParams support input config
    | _ => refused .invalidVal

/-- What an accepted configuration looks like afterwards. -/
structure Accepted (config : AVScreenCaptureConfig) : Prop where
  dataType : config.dataType = .originalStream ∨ config.dataType = .captureFile
  inner : config.innerCapInfo.state ≠ .validationInvalid
  video : config.videoCapInfo.state ≠ .validationInvalid
  fileMic : config.dataType = .captureFile → config.micCapInfo.state ≠ .validationInvalid
  fileMix : config.dataType = .captureFile → config.micCapInfo.state = .validationValid →
    config.innerCapInfo.state = .validationValid

@[simp] theorem validated_ne_ignore (ret : MSErr) : validated ret ≠ .validationIgnore := by
  unfold validated
  split <;> simp

theorem checkAudioCapInfo_ignore_iff (support : AudioCapturerSupport) (info : AudioCaptureInfo) :
    (checkAudioCapInfo support info).2.state = .validationIgnore ↔
      info.audioChannels = 0 ∧ info.audioSampleRate = 0 := by
  unfold checkAudioCapInfo
  split
  · rename_i zero
    simp [zero]
  · rename_i nonzero
    simp [nonzero]

@[simp] theorem checkAudioCapInfo_params (support : AudioCapturerSupport)
    (info : AudioCaptureInfo) :
    (checkAudioCapInfo support info).2.audioSampleRate = info.audioSampleRate ∧
      (checkAudioCapInfo support info).2.audioChannels = info.audioChannels := by
  unfold checkAudioCapInfo
  split <;> exact ⟨rfl, rfl⟩

variable {config : AVScreenCaptureConfig}

theorem fileParamsRet_accepted (accepted : fileParamsRet config = .ok)
    (micUsed : config.micCapInfo.state = .validationValid →
      ¬(config.micCapInfo.audioChannels = 0 ∧ config.micCapInfo.audioSampleRate = 0))
    (innerIgnored : config.innerCapInfo.state = .validationIgnore →
      config.innerCapInfo.audioChannels = 0 ∧ config.innerCapInfo.audioSampleRate = 0) :
    config.innerCapInfo.state ≠ .validationInvalid ∧
      config.videoCapInfo.state ≠ .validationInvalid ∧
      config.micCapInfo.state ≠ .validationInvalid ∧
      (config.micCapInfo.state = .validationValid →
        config.innerCapInfo.state = .validationValid) := by
  unfold fileParamsRet at accepted
  split at accepted
  · cases accepted
  rename_i noneInvalid
  simp only [not_or] at noneInvalid
  split at accepted
  · cases accepted
  rename_i micOk
  refine ⟨noneInvalid.1, noneInvalid.2.1, micOk, ?_⟩
  intro micValid
  rw [if_neg (by simp [micValid])] at accepted
  split at accepted
  · rename_i same
    cases inner : config.innerCapInfo.state with
    | validationValid => rfl
    | validationInvalid => exact absurd inner noneInvalid.1
    | validationIgnore =>
      have zero := innerIgnored inner
      rw [← same.1, ← same.2] at zero
      exact absurd zero (micUsed micValid)
  · cases accepted

theorem streamParamsRet_accepted {input : CheckInput}
    (accepted : streamParamsRet input config = .ok) :
    config.innerCapInfo.state ≠ .validationInvalid ∧
      config.videoCapInfo.state ≠ .validationInvalid := by
  unfold streamParamsRet at accepted
  split at accepted
  · cases accepted
  · split at accepted
    · cases accepted
    · rename_i noneInvalid
      exact not_or.mp noneInvalid

@[simp] theorem checkAllParams_dataType (support : AudioCapturerSupport) (input : CheckInput)
    (config : AVScreenCaptureConfig) :
    (checkAllParams support input config).config.dataType = config.dataType := by
  unfold checkAllParams
  split
  · rfl
  · split
    · rfl
    · split <;> simp [checkCaptureStreamParams, checkCaptureFileParams]

theorem checkAllParams_accepted {support : AudioCapturerSupport} {input : CheckInput}
    (accepted : (checkAllParams support input config).ret = .ok) :
    Accepted (checkAllParams support input config).config := by
  have rates := checkAudioCapInfo_params support
  have ignored := checkAudioCapInfo_ignore_iff support
  unfold checkAllParams at accepted ⊢
  by_cases dataOk : checkDataType config.dataType = .ok
  · by_cases modeOk : checkCaptureMode config.captureMode = .ok
    · simp only [dataOk, modeOk, ne_eq, not_true_eq_false, if_false] at accepted ⊢
      cases dataType : config.dataType with
      | originalStream =>
        simp only [dataType, checkCaptureStreamParams] at accepted ⊢
        obtain ⟨inner, video⟩ := streamParamsRet_accepted accepted
        exact ⟨.inl rfl, inner, video, by simp, by simp⟩
      | captureFile =>
        simp only [dataType, checkCaptureFileParams] at accepted ⊢
        obtain ⟨inner, video, mic, mix⟩ := fileParamsRet_accepted accepted
          (fun micValid => by
            rw [(rates _).1, (rates _).2, ← ignored, micValid]
            simp)
          (fun innerIgnored => by
            rw [(rates _).1, (rates _).2]
            exact (ignored _).mp innerIgnored)
        exact ⟨.inr rfl, inner, video, fun _ => mic, fun _ => mix⟩
      | encodedStream | invalid => simp [dataType, checkDataType] at dataOk
    · simp [dataOk, modeOk] at accepted
  · simp [dataOk] at accepted

end PlayerFramework.ScreenCapture
