import PlayerFramework.Recorder.RecorderServer
import Mathlib.Data.Rat.Init

/-!
The server's copy of the recorder's configuration (`recorder_server.cpp`): the calls that set it,
`GetAVRecorderConfig`, and the count of watermarks.  Each call holds `mutex_` to its end and has
the engine's function run on the task queue.
-/

namespace PlayerFramework.Recorder

open Transition

/-- The codes the configuration calls return. -/
inductive RecorderErr where
  | ok
  | invalidVal
  | invalidOperation
  | paramOutOfRange
  | nullPointer5400101
  | taskQueueError401
  | taskQueueError5400102
  | recorderEngineError5400103
  | setMetaConfigsFailed5400103
  | createMediaFileFailed5400103
  | sqrFactorError401
  | audioCodecFileFormatMatchError401
  | audioG711muMatchError401
deriving DecidableEq

/-- What `EnqueueTask` refuses a task with. -/
inductive EnqueueErr where
  | invalidVal
  | invalidOperation
deriving DecidableEq

/-- What becomes of the task that has the engine's function run. -/
inductive TaskAnswer where
  | notEnqueued (err : EnqueueErr)
  | noResult
  | done (statusCode : Int)
deriving DecidableEq

def statusOk : Int := 0

def transformTaskQueueErrCode : EnqueueErr → RecorderErr
  | .invalidVal => .taskQueueError401
  | .invalidOperation => .taskQueueError5400102

def transformEngineStatusCode (statusCode : Int) : RecorderErr :=
  if statusCode = statusOk then .ok else .recorderEngineError5400103

/-- The exits that the calls have behind `EnqueueTask`. -/
def TaskAnswer.returned : TaskAnswer → RecorderErr
  | .notEnqueued err => transformTaskQueueErrCode err
  | .noResult => .invalidOperation
  | .done statusCode => transformEngineStatusCode statusCode

def videoSourceButt : Int := 3
def audioSourceInvalid : Int := -1
def videoMetaSourceInvalid : Int := -1
def videoMetaMakerInfo : Int := 0
def videoCodecFormatButt : Int := 9
def audioCodecFormatButt : Int := 12
def audioMpeg : Int := 4
def audioG711mu : Int := 5
def formatMpeg4 : Int := 2
def formatButt : Int := 12
def sqrFactorInvalid : Int := -1
def sqrFactorMin : Int := 0
def sqrFactorMax : Int := 51
def watermarkWidthHeightMax : Int := 4096
def watermarkCountMax : Nat := 5
def vidDebugInfoKey : String := "com.openharmony.timed_metadata.vid_maker_info"

/-- `ConfigInfo`, with the enumerations as the numbers they are passed as. -/
structure ConfigInfo where
  videoSource : Int := videoSourceButt
  audioSource : Int := audioSourceInvalid
  metaSource : Int := videoMetaSourceInvalid
  videoCodec : Int := videoCodecFormatButt
  audioCodec : Int := audioCodecFormatButt
  aacProfile : Int := 0
  width : Int := 0
  height : Int := 0
  frameRate : Int := 0
  bitRate : Int := 0
  isHdr : Bool := false
  enableTemporalScale : Bool := false
  enableStableQualityMode : Bool := false
  enableBFrame : Bool := false
  sqrFactor : Int := sqrFactorInvalid
  captureRate : Rat := 0
  audioSampleRate : Int := 0
  audioChannel : Int := 0
  audioBitRate : Int := 0
  maxDuration : Int := 0
  format : Int := formatButt
  maxFileSize : Int := 0
  latitude : Rat := 0
  longitude : Rat := 0
  rotation : Int := 0
  url : Int := -1
  uri : String := ""
  fileGenerationMode : Int := 0
  metaSrcTrackMime : String := ""
  customInfo : List (String × String) := []
  genre : String := ""
  metaMimeType : String := ""
  metaTimedKey : String := ""
  withVideo : Bool := false
  withAudio : Bool := false
  withLocation : Bool := false
deriving DecidableEq

/-- The map that `GetAVRecorderConfig` fills. -/
structure AVRecorderConfig where
  audioBitrate : Int
  audioChannels : Int
  audioCodec : Int
  audioSampleRate : Int
  fileFormat : Int
  videoBitrate : Int
  videoCodec : Int
  videoFrameHeight : Int
  videoFrameWidth : Int
  videoFrameRate : Int
  audioSourceType : Int
  videoSourceType : Int
  url : Int
  rotation : Int
  withVideo : Bool
  withAudio : Bool
  withLocation : Bool
deriving DecidableEq

/-- `accepted` counts the watermarks the engine has accepted since the last `Stop` or `Reset`
that succeeded. -/
structure ConfiguredServer where
  status : RecStatus := .recInitialized
  recorderEngine : Bool := true
  config : ConfigInfo := {}
  watermarkCount : Nat := 0
  accepted : Nat := 0
deriving DecidableEq

namespace ConfiguredServer

def getAVRecorderConfig (server : ConfiguredServer) : AVRecorderConfig where
  audioBitrate := server.config.audioBitRate
  audioChannels := server.config.audioChannel
  audioCodec := server.config.audioCodec
  audioSampleRate := server.config.audioSampleRate
  fileFormat := server.config.format
  videoBitrate := server.config.bitRate
  videoCodec := server.config.videoCodec
  videoFrameHeight := server.config.height
  videoFrameWidth := server.config.width
  videoFrameRate := server.config.frameRate
  audioSourceType := server.config.audioSource
  videoSourceType := server.config.videoSource
  url := server.config.url
  rotation := server.config.rotation
  withVideo := server.config.withVideo
  withAudio := server.config.withAudio
  withLocation := server.config.withLocation

/-- What nearly all configuration calls do: check the status and the engine, write the server's
copy, and have the engine's function run. -/
def setConfig (needed : RecStatus) (write : ConfigInfo → ConfigInfo) (answer : TaskAnswer)
    (server : ConfiguredServer) : ConfiguredServer × RecorderErr :=
  if server.status ≠ needed then (server, .invalidOperation)
  else if !server.recorderEngine then (server, .nullPointer5400101)
  else ({ server with config := write server.config }, answer.returned)

def setVideoSource (source : Int) :=
  setConfig .recInitialized fun config => { config with videoSource := source, withVideo := true }

def setVideoEncoder (encoder : Int) :=
  setConfig .recConfigured fun config => { config with videoCodec := encoder }

def setVideoSize (width height : Int) :=
  setConfig .recConfigured fun config => { config with width, height }

def setVideoFrameRate (frameRate : Int) :=
  setConfig .recConfigured fun config => { config with frameRate }

def setVideoEncodingBitRate (rate : Int) :=
  setConfig .recConfigured fun config => { config with bitRate := rate }

def setVideoIsHdr (isHdr : Bool) :=
  setConfig .recConfigured fun config => { config with isHdr }

def setVideoEnableTemporalScale (enableTemporalScale : Bool) :=
  setConfig .recConfigured fun config => { config with enableTemporalScale }

def setVideoEnableStableQualityMode (enableStableQualityMode : Bool) :=
  setConfig .recConfigured fun config => { config with enableStableQualityMode }

def setVideoEnableBFrame (enableBFrame : Bool) :=
  setConfig .recConfigured fun config => { config with enableBFrame }

/-- The factor is checked first, before the status. -/
def setVideoSqrFactor (sqrFactor : Int) (answer : TaskAnswer) (server : ConfiguredServer) :
    ConfiguredServer × RecorderErr :=
  if server.config.enableStableQualityMode ∧
      ¬(sqrFactorMin ≤ sqrFactor ∧ sqrFactor ≤ sqrFactorMax) then
    (server, .sqrFactorError401)
  else
    server.setConfig .recConfigured (fun config => { config with sqrFactor }) answer

def setMetaSource (source : Int) :=
  setConfig .recInitialized fun config => { config with metaSource := source }

def setMetaMimeType (type : String) :=
  setConfig .recConfigured fun config => { config with metaMimeType := type }

def setMetaTimedKey (timedKey : String) :=
  setConfig .recConfigured fun config => { config with metaTimedKey := timedKey }

def setMetaSourceTrackMime (srcTrackMime : String) :=
  setConfig .recConfigured fun config => { config with metaSrcTrackMime := srcTrackMime }

def setCaptureRate (fps : Rat) :=
  setConfig .recConfigured fun config => { config with captureRate := fps }

def setAudioSource (source : Int) :=
  setConfig .recInitialized fun config => { config with audioSource := source, withAudio := true }

def setAudioDataSource := setConfig .recInitialized id

/-- MP3 in an MP4 file is refused when the copy has been written. -/
def setAudioEncoder (encoder : Int) (answer : TaskAnswer) (server : ConfiguredServer) :
    ConfiguredServer × RecorderErr :=
  if server.status ≠ .recConfigured then (server, .invalidOperation)
  else if !server.recorderEngine then (server, .nullPointer5400101)
  else
    let written := { server with config := { server.config with audioCodec := encoder } }
    if encoder = audioMpeg ∧ written.config.format = formatMpeg4 then
      (written, .audioCodecFileFormatMatchError401)
    else (written, answer.returned)

def setAudioSampleRate (rate : Int) :=
  setConfig .recConfigured fun config => { config with audioSampleRate := rate }

def setAudioChannels (num : Int) :=
  setConfig .recConfigured fun config => { config with audioChannel := num }

/-- G711-mulaw goes with one bit rate, which is checked when the copy has been written. -/
def setAudioEncodingBitRate (bitRate : Int) (answer : TaskAnswer) (server : ConfiguredServer) :
    ConfiguredServer × RecorderErr :=
  if server.status ≠ .recConfigured then (server, .invalidOperation)
  else if !server.recorderEngine then (server, .nullPointer5400101)
  else
    let written := { server with config := { server.config with audioBitRate := bitRate } }
    if written.config.audioCodec = audioG711mu ∧ written.config.audioBitRate ≠ 64000 then
      (written, .audioG711muMatchError401)
    else (written, answer.returned)

def setAudioAacProfile (aacProfile : Int) :=
  setConfig .recConfigured fun config => { config with aacProfile }

/-- Up to three calls of the server on itself, each with an answer of its own; `videoMime` is
what `GetVideoMime` gives for the codec. -/
def setMetaConfigs (timedMetadata videoMime : String) (timedKey trackMime : TaskAnswer)
    (mimeType : TaskAnswer) (server : ConfiguredServer) : ConfiguredServer × RecorderErr :=
  let typed := server.setMetaMimeType timedMetadata mimeType
  if typed.2 ≠ .ok then (typed.1, .setMetaConfigsFailed5400103)
  else if typed.1.config.metaSource ≠ videoMetaMakerInfo then (typed.1, .ok)
  else
    let keyed := typed.1.setMetaTimedKey vidDebugInfoKey timedKey
    if keyed.2 ≠ .ok then (keyed.1, .setMetaConfigsFailed5400103)
    else
      let tracked := keyed.1.setMetaSourceTrackMime videoMime trackMime
      if tracked.2 ≠ .ok then (tracked.1, .setMetaConfigsFailed5400103) else (tracked.1, .ok)

def setDataSource (server : ConfiguredServer) : ConfiguredServer × RecorderErr :=
  (server, .invalidOperation)

def setUserCustomInfo (userCustomInfo : List (String × String)) :=
  setConfig .recConfigured fun config => { config with customInfo := userCustomInfo }

def setGenre (genre : String) :=
  setConfig .recConfigured fun config => { config with genre }

def setMaxDuration (duration : Int) :=
  setConfig .recConfigured fun config => { config with maxDuration := duration }

/-- Only the engine's answer sets `status_`. -/
def setOutputFormat (format : Int) (answer : TaskAnswer) (server : ConfiguredServer) :
    ConfiguredServer × RecorderErr :=
  if server.status ≠ .recInitialized then (server, .invalidOperation)
  else if !server.recorderEngine then (server, .nullPointer5400101)
  else
    let written := { server with config := { server.config with format } }
    match answer with
    | .done statusCode =>
      ({ written with
          status := if statusCode = statusOk then .recConfigured else .recInitialized },
        transformEngineStatusCode statusCode)
    | _ => (written, answer.returned)

def setOutputFile (fd : Int) :=
  setConfig .recConfigured fun config => { config with url := fd }

/-- `library` is the file that `CreateMediaLibrary` makes, `support` whether the server is built
with `SUPPORT_RECORDER_CREATE_FILE`. -/
def setFileGenerationMode (support : Bool) (mode : Int) (library : Option (Int × String))
    (answer : TaskAnswer) (server : ConfiguredServer) : ConfiguredServer × RecorderErr :=
  if !support then (server, .invalidOperation)
  else if server.status ≠ .recConfigured then (server, .invalidOperation)
  else if !server.recorderEngine then (server, .nullPointer5400101)
  else if !server.config.withVideo then (server, .invalidOperation)
  else
    match library with
    | none => (server, .createMediaFileFailed5400103)
    | some (fd, uri) =>
      ({ server with
          config := { server.config with url := fd, uri, fileGenerationMode := mode } },
        answer.returned)

def setNextOutputFile := setConfig .recConfigured id

def setMaxFileSize (size : Int) :=
  setConfig .recConfigured fun config => { config with maxFileSize := size }

/-- `SetLocation` and `SetOrientationHint` return nothing. -/
def setLocation (latitude longitude : Rat) (server : ConfiguredServer) : ConfiguredServer :=
  if server.status ≠ .recConfigured then server
  else if !server.recorderEngine then server
  else { server with config := { server.config with latitude, longitude, withLocation := true } }

def setOrientationHint (rotation : Int) (server : ConfiguredServer) : ConfiguredServer :=
  if !server.recorderEngine then server
  else { server with config := { server.config with rotation } }

/-- The calls that set something of the engine's but nothing of `config_`. -/
def forward (allowed : List RecStatus) (answer : TaskAnswer) (server : ConfiguredServer) :
    ConfiguredServer × RecorderErr :=
  if server.status ∉ allowed then (server, .invalidOperation)
  else if !server.recorderEngine then (server, .nullPointer5400101)
  else (server, answer.returned)

def setRecorderCallback := forward [.recInitialized, .recConfigured]

def setWatermark := forward [.recPrepared]

def setWillMuteWhenInterrupted := forward [.recInitialized, .recConfigured]

/-- Takes the number of the next watermark. -/
def getWatermarkCount (server : ConfiguredServer) : ConfiguredServer × RecorderErr :=
  if server.watermarkCount < watermarkCountMax then
    ({ server with watermarkCount := server.watermarkCount + 1 }, .ok)
  else (server, .paramOutOfRange)

def addWatermark (width height : Int) (answer : TaskAnswer) (server : ConfiguredServer) :
    ConfiguredServer × RecorderErr :=
  if server.status ≠ .recInitialized ∧ server.status ≠ .recConfigured then
    (server, .invalidOperation)
  else if ¬(0 < width ∧ width ≤ watermarkWidthHeightMax) then (server, .invalidVal)
  else if ¬(0 < height ∧ height ≤ watermarkWidthHeightMax) then (server, .invalidVal)
  else
    let counted := server.getWatermarkCount
    if counted.2 ≠ .ok then counted
    else if !counted.1.recorderEngine then (counted.1, .nullPointer5400101)
    else
      ({ counted.1 with
          accepted := if answer = .done statusOk then counted.1.accepted + 1
            else counted.1.accepted },
        answer.returned)

/-- The calls that take the recorder from one status to another leave the copy alone; a `Reset`
and a `Release` forget the watermarks. -/
def prepare (answer : TaskAnswer) (server : ConfiguredServer) : ConfiguredServer :=
  if server.status ≠ .recConfigured ∨ !server.recorderEngine then server
  else
    match answer with
    | .done statusCode =>
      { server with status := if statusCode = statusOk then .recPrepared else .recError }
    | _ => server

/-- `camera` is what `CheckCameraOutputState` says. -/
def start (camera : Bool) (answer : TaskAnswer) (server : ConfiguredServer) : ConfiguredServer :=
  if server.status ≠ .recPrepared ∨ !server.recorderEngine then server
  else if ¬(server.config.fileGenerationMode = 0 ∨ camera) then server
  else
    match answer with
    | .done statusCode =>
      { server with status := if statusCode = statusOk then .recRecording else .recError }
    | _ => server

def pause (answer : TaskAnswer) (server : ConfiguredServer) : ConfiguredServer :=
  if server.status ≠ .recRecording ∨ !server.recorderEngine then server
  else
    match answer with
    | .done statusCode =>
      { server with status := if statusCode = statusOk then .recPaused else .recError }
    | _ => server

def resume (answer : TaskAnswer) (server : ConfiguredServer) : ConfiguredServer :=
  if server.status ≠ .recPaused ∨ !server.recorderEngine then server
  else
    match answer with
    | .done statusCode =>
      { server with status := if statusCode = statusOk then .recRecording else .recError }
    | _ => server

def stop (answer : TaskAnswer) (server : ConfiguredServer) : ConfiguredServer :=
  if server.status ≠ .recRecording ∧ server.status ≠ .recPaused then server
  else if !server.recorderEngine then server
  else
    match answer with
    | .done statusCode =>
      if statusCode = statusOk then { server with status := .recInitialized, accepted := 0 }
      else { server with status := .recError }
    | _ => server

def reset (answer : TaskAnswer) (server : ConfiguredServer) : ConfiguredServer :=
  if !server.recorderEngine then server
  else
    match answer with
    | .done statusCode =>
      if statusCode = statusOk then
        { server with status := .recInitialized, watermarkCount := 0, accepted := 0 }
      else { server with status := .recError }
    | _ => server

/-- The engine is gone, and the watermarks with it. -/
def release (server : ConfiguredServer) : ConfiguredServer :=
  { server with recorderEngine := false, watermarkCount := 0, accepted := 0 }

end ConfiguredServer

inductive SetterCall where
  | setVideoSource (source : Int)
  | setVideoEncoder (encoder : Int)
  | setVideoSize (width height : Int)
  | setVideoFrameRate (frameRate : Int)
  | setVideoEncodingBitRate (rate : Int)
  | setVideoIsHdr (isHdr : Bool)
  | setVideoEnableTemporalScale (enableTemporalScale : Bool)
  | setVideoEnableStableQualityMode (enableStableQualityMode : Bool)
  | setVideoEnableBFrame (enableBFrame : Bool)
  | setVideoSqrFactor (sqrFactor : Int)
  | setMetaSource (source : Int)
  | setMetaMimeType (type : String)
  | setMetaTimedKey (timedKey : String)
  | setMetaSourceTrackMime (srcTrackMime : String)
  | setCaptureRate (fps : Rat)
  | setAudioSource (source : Int)
  | setAudioDataSource
  | setAudioEncoder (encoder : Int)
  | setAudioSampleRate (rate : Int)
  | setAudioChannels (num : Int)
  | setAudioEncodingBitRate (bitRate : Int)
  | setAudioAacProfile (aacProfile : Int)
  | setMetaConfigs (timedMetadata videoMime : String) (timedKey trackMime : TaskAnswer)
  | setDataSource
  | setUserCustomInfo (userCustomInfo : List (String × String))
  | setGenre (genre : String)
  | setMaxDuration (duration : Int)
  | setOutputFormat (format : Int)
  | setOutputFile (fd : Int)
  | setFileGenerationMode (support : Bool) (mode : Int) (library : Option (Int × String))
  | setNextOutputFile
  | setMaxFileSize (size : Int)
  | setLocation (latitude longitude : Rat)
  | setOrientationHint (rotation : Int)
  | setRecorderCallback
  | setWatermark
  | setWillMuteWhenInterrupted
  | addWatermark (width height : Int)
deriving DecidableEq

def returning (result : ConfiguredServer × RecorderErr) : ConfiguredServer × Option RecorderErr :=
  (result.1, some result.2)

/-- The server after the call, and what the call returns, if anything. -/
def SetterCall.perform (answer : TaskAnswer) (server : ConfiguredServer) :
    SetterCall → ConfiguredServer × Option RecorderErr
  | .setVideoSource source => returning (server.setVideoSource source answer)
  | .setVideoEncoder encoder => returning (server.setVideoEncoder encoder answer)
  | .setVideoSize width height => returning (server.setVideoSize width height answer)
  | .setVideoFrameRate frameRate => returning (server.setVideoFrameRate frameRate answer)
  | .setVideoEncodingBitRate rate => returning (server.setVideoEncodingBitRate rate answer)
  | .setVideoIsHdr isHdr => returning (server.setVideoIsHdr isHdr answer)
  | .setVideoEnableTemporalScale enable =>
    returning (server.setVideoEnableTemporalScale enable answer)
  | .setVideoEnableStableQualityMode enable =>
    returning (server.setVideoEnableStableQualityMode enable answer)
  | .setVideoEnableBFrame enable => returning (server.setVideoEnableBFrame enable answer)
  | .setVideoSqrFactor sqrFactor => returning (server.setVideoSqrFactor sqrFactor answer)
  | .setMetaSource source => returning (server.setMetaSource source answer)
  | .setMetaMimeType type => returning (server.setMetaMimeType type answer)
  | .setMetaTimedKey timedKey => returning (server.setMetaTimedKey timedKey answer)
  | .setMetaSourceTrackMime mime => returning (server.setMetaSourceTrackMime mime answer)
  | .setCaptureRate fps => returning (server.setCaptureRate fps answer)
  | .setAudioSource source => returning (server.setAudioSource source answer)
  | .setAudioDataSource => returning (server.setAudioDataSource answer)
  | .setAudioEncoder encoder => returning (server.setAudioEncoder encoder answer)
  | .setAudioSampleRate rate => returning (server.setAudioSampleRate rate answer)
  | .setAudioChannels num => returning (server.setAudioChannels num answer)
  | .setAudioEncodingBitRate bitRate => returning (server.setAudioEncodingBitRate bitRate answer)
  | .setAudioAacProfile aacProfile => returning (server.setAudioAacProfile aacProfile answer)
  | .setMetaConfigs timedMetadata videoMime timedKey trackMime =>
    returning (server.setMetaConfigs timedMetadata videoMime timedKey trackMime answer)
  | .setDataSource => returning server.setDataSource
  | .setUserCustomInfo info => returning (server.setUserCustomInfo info answer)
  | .setGenre genre => returning (server.setGenre genre answer)
  | .setMaxDuration duration => returning (server.setMaxDuration duration answer)
  | .setOutputFormat format => returning (server.setOutputFormat format answer)
  | .setOutputFile fd => returning (server.setOutputFile fd answer)
  | .setFileGenerationMode support mode library =>
    returning (server.setFileGenerationMode support mode library answer)
  | .setNextOutputFile => returning (server.setNextOutputFile answer)
  | .setMaxFileSize size => returning (server.setMaxFileSize size answer)
  | .setLocation latitude longitude => (server.setLocation latitude longitude, none)
  | .setOrientationHint rotation => (server.setOrientationHint rotation, none)
  | .setRecorderCallback => returning (server.setRecorderCallback answer)
  | .setWatermark => returning (server.setWatermark answer)
  | .setWillMuteWhenInterrupted => returning (server.setWillMuteWhenInterrupted answer)
  | .addWatermark width height => returning (server.addWatermark width height answer)

/-- The reported fields that the call asks for, with the values it asks for. -/
def SetterCall.requested (config : AVRecorderConfig) : SetterCall → AVRecorderConfig
  | .setVideoSource source => { config with videoSourceType := source, withVideo := true }
  | .setVideoEncoder encoder => { config with videoCodec := encoder }
  | .setVideoSize width height =>
    { config with videoFrameWidth := width, videoFrameHeight := height }
  | .setVideoFrameRate frameRate => { config with videoFrameRate := frameRate }
  | .setVideoEncodingBitRate rate => { config with videoBitrate := rate }
  | .setAudioSource source => { config with audioSourceType := source, withAudio := true }
  | .setAudioEncoder encoder => { config with audioCodec := encoder }
  | .setAudioSampleRate rate => { config with audioSampleRate := rate }
  | .setAudioChannels num => { config with audioChannels := num }
  | .setAudioEncodingBitRate bitRate => { config with audioBitrate := bitRate }
  | .setOutputFormat format => { config with fileFormat := format }
  | .setOutputFile fd => { config with url := fd }
  | .setFileGenerationMode _ _ (some (fd, _)) => { config with url := fd }
  | _ => config

def SetterCall.Fails (call : SetterCall) (answer : TaskAnswer) (server : ConfiguredServer) : Prop :=
  ∃ err, (call.perform answer server).2 = some err ∧ err ≠ .ok

/-- The status a call asks for, or does not ask for. -/
def SetterCall.AllowedIn (status : RecStatus) : SetterCall → Prop
  | .setVideoSource _ | .setMetaSource _ | .setAudioSource _ | .setAudioDataSource
  | .setOutputFormat _ => status = .recInitialized
  | .setRecorderCallback | .setWillMuteWhenInterrupted | .addWatermark _ _ =>
    status = .recInitialized ∨ status = .recConfigured
  | .setWatermark => status = .recPrepared
  | .setOrientationHint _ => True
  | .setDataSource => False
  | _ => status = .recConfigured

/-- The checks a call makes of its arguments before it writes the server's copy. -/
def SetterCall.ArgumentsPass (config : ConfigInfo) : SetterCall → Prop
  | .setVideoSqrFactor sqrFactor =>
    config.enableStableQualityMode = true → sqrFactorMin ≤ sqrFactor ∧ sqrFactor ≤ sqrFactorMax
  | .setFileGenerationMode support _ library =>
    support = true ∧ config.withVideo = true ∧ library.isSome = true
  | _ => True

/-- The call gets past its checks, and writes the server's copy. -/
def SetterCall.Passes (call : SetterCall) (server : ConfiguredServer) : Prop :=
  call.AllowedIn server.status ∧ server.recorderEngine = true ∧ call.ArgumentsPass server.config

/-- The call is an `AddWatermark` that takes a number, which it does before it looks for the
engine. -/
def SetterCall.TakesNumber (server : ConfiguredServer) : SetterCall → Prop
  | .addWatermark width height =>
    (server.status = .recInitialized ∨ server.status = .recConfigured) ∧
      (0 < width ∧ width ≤ watermarkWidthHeightMax) ∧
      (0 < height ∧ height ≤ watermarkWidthHeightMax) ∧ server.watermarkCount < watermarkCountMax
  | _ => False

/-- What a call that fails leaves: the status, the reported configuration if the call did not
get past its checks, and the count unless the call has taken a number.  Past the checks the
server's copy holds what was asked for, whatever the engine answers. -/
structure KeptOnError (call : SetterCall) (server after : ConfiguredServer) : Prop where
  status : after.status = server.status
  refused : ¬call.Passes server → after.getAVRecorderConfig = server.getAVRecorderConfig
  passed : call.Passes server →
    after.getAVRecorderConfig = call.requested server.getAVRecorderConfig
  counted : ¬call.TakesNumber server → after.watermarkCount = server.watermarkCount

section

variable {call : SetterCall} {answer : TaskAnswer} {server : ConfiguredServer}

theorem kept_same (nothing : call.Passes server →
      call.requested server.getAVRecorderConfig = server.getAVRecorderConfig) :
    KeptOnError call server server :=
  ⟨rfl, fun _ => rfl, fun passes => (nothing passes).symm, fun _ => rfl⟩

variable {write : ConfigInfo → ConfigInfo}

theorem kept_written (passes : call.Passes server)
    (asks : { server with config := write server.config }.getAVRecorderConfig =
      call.requested server.getAVRecorderConfig) :
    KeptOnError call server { server with config := write server.config } :=
  ⟨rfl, fun refused => absurd passes refused, fun _ => asks, fun _ => rfl⟩

theorem kept_setConfig {needed : RecStatus}
    (passes : call.Passes server ↔ server.status = needed ∧ server.recorderEngine = true)
    (asks : { server with config := write server.config }.getAVRecorderConfig =
      call.requested server.getAVRecorderConfig) :
    KeptOnError call server (server.setConfig needed write answer).1 := by
  rw [ConfiguredServer.setConfig]
  by_cases allowed : server.status = needed
  · by_cases engine : server.recorderEngine = true
    · rw [if_neg (not_not_intro allowed), if_neg (by simp [engine])]
      exact kept_written (passes.mpr ⟨allowed, engine⟩) asks
    · rw [if_neg (not_not_intro allowed), if_pos (by simp [engine])]
      exact kept_same fun now => absurd (passes.mp now).2 engine
  · rw [if_pos allowed]
    exact kept_same fun now => absurd (passes.mp now).1 allowed

theorem kept_forward {allowed : List RecStatus}
    (nothing : call.requested server.getAVRecorderConfig = server.getAVRecorderConfig) :
    KeptOnError call server (server.forward allowed answer).1 := by
  rw [ConfiguredServer.forward]
  split_ifs <;> exact kept_same fun _ => nothing

structure SameReports (server after : ConfiguredServer) : Prop where
  status : after.status = server.status
  reported : after.getAVRecorderConfig = server.getAVRecorderConfig
  count : after.watermarkCount = server.watermarkCount

theorem SameReports.trans {first second : ConfiguredServer} (same : SameReports server first)
    (next : SameReports first second) : SameReports server second :=
  ⟨next.status.trans same.status, next.reported.trans same.reported, next.count.trans same.count⟩

theorem setConfig_unreported {needed : RecStatus}
    (unreported : { server with config := write server.config }.getAVRecorderConfig =
      server.getAVRecorderConfig) :
    SameReports server (server.setConfig needed write answer).1 := by
  rw [ConfiguredServer.setConfig]
  split_ifs
  · exact ⟨rfl, rfl, rfl⟩
  · exact ⟨rfl, rfl, rfl⟩
  · exact ⟨rfl, unreported, rfl⟩

theorem kept_setVideoSqrFactor (sqrFactor : Int) : KeptOnError (.setVideoSqrFactor sqrFactor) server
      (server.setVideoSqrFactor sqrFactor answer).1 := by
  rw [ConfiguredServer.setVideoSqrFactor]
  split
  · exact kept_same fun _ => rfl
  rename_i inside
  refine kept_setConfig ?_ rfl
  have passing : server.config.enableStableQualityMode = true →
      sqrFactorMin ≤ sqrFactor ∧ sqrFactor ≤ sqrFactorMax := by
    intro stable
    by_contra outside
    exact inside ⟨stable, outside⟩
  exact ⟨fun passes => ⟨passes.1, passes.2.1⟩, fun passes => ⟨passes.1, passes.2, passing⟩⟩

theorem kept_setAudioEncoder (encoder : Int) :
    KeptOnError (.setAudioEncoder encoder) server (server.setAudioEncoder encoder answer).1 := by
  rw [ConfiguredServer.setAudioEncoder]
  split_ifs with refused missing
  · exact kept_same fun passes => absurd passes.1 refused
  · exact kept_same fun passes => by simp [passes.2.1] at missing
  all_goals
    have passes : SetterCall.Passes (.setAudioEncoder encoder) server :=
      ⟨not_not.mp refused, by simpa using missing, trivial⟩
    dsimp only
    split_ifs <;> exact @kept_written _ _ (fun config => { config with audioCodec := encoder })
      passes rfl

theorem kept_setAudioEncodingBitRate (bitRate : Int) :
    KeptOnError (.setAudioEncodingBitRate bitRate) server
      (server.setAudioEncodingBitRate bitRate answer).1 := by
  rw [ConfiguredServer.setAudioEncodingBitRate]
  split_ifs with refused missing
  · exact kept_same fun passes => absurd passes.1 refused
  · exact kept_same fun passes => by simp [passes.2.1] at missing
  all_goals
    have passes : SetterCall.Passes (.setAudioEncodingBitRate bitRate) server :=
      ⟨not_not.mp refused, by simpa using missing, trivial⟩
    dsimp only
    split_ifs <;> exact @kept_written _ _ (fun config => { config with audioBitRate := bitRate })
      passes rfl

theorem kept_setMetaConfigs (timedMetadata videoMime : String) (timedKey trackMime : TaskAnswer) :
    KeptOnError (.setMetaConfigs timedMetadata videoMime timedKey trackMime) server
      (server.setMetaConfigs timedMetadata videoMime timedKey trackMime answer).1 := by
  have typed : SameReports server (server.setMetaMimeType timedMetadata answer).1 :=
    setConfig_unreported rfl
  have keyed : SameReports server ((server.setMetaMimeType timedMetadata answer).1
      |>.setMetaTimedKey vidDebugInfoKey timedKey).1 :=
    typed.trans (setConfig_unreported rfl)
  have kept {after : ConfiguredServer} (same : SameReports server after) :
      KeptOnError (.setMetaConfigs timedMetadata videoMime timedKey trackMime) server after :=
    ⟨same.status, fun _ => same.reported, fun _ => same.reported, fun _ => same.count⟩
  simp only [ConfiguredServer.setMetaConfigs]
  split
  · exact kept typed
  split
  · exact kept typed
  split
  · exact kept keyed
  have tracked : SameReports server (((server.setMetaMimeType timedMetadata answer).1
      |>.setMetaTimedKey vidDebugInfoKey timedKey).1
      |>.setMetaSourceTrackMime videoMime trackMime).1 :=
    keyed.trans (setConfig_unreported rfl)
  split
  · exact kept tracked
  · exact kept tracked

theorem kept_setOutputFormat {format : Int}
    (fails : SetterCall.Fails (.setOutputFormat format) answer server) :
    KeptOnError (.setOutputFormat format) server (server.setOutputFormat format answer).1 := by
  obtain ⟨err, returned, failing⟩ := fails
  change some (server.setOutputFormat format answer).2 = some err at returned
  rw [Option.some.injEq] at returned
  revert returned
  unfold ConfiguredServer.setOutputFormat
  split_ifs with refused missing
  · exact fun _ => kept_same fun passes => absurd passes.1 refused
  · exact fun _ => kept_same fun passes => by simp [passes.2.1] at missing
  have initialized : server.status = .recInitialized := not_not.mp refused
  have passes : SetterCall.Passes (.setOutputFormat format) server :=
    ⟨initialized, by simpa using missing, trivial⟩
  split
  · rename_i statusCode
    intro returned
    have fault : statusCode ≠ statusOk := by
      rintro rfl
      exact failing returned.symm
    rw [if_neg fault]
    exact ⟨initialized.symm, fun refused => absurd passes refused, fun _ => rfl, fun _ => rfl⟩
  · exact fun _ => @kept_written _ _ (fun config => { config with format }) passes rfl

theorem kept_setFileGenerationMode (support : Bool) (mode : Int)
    (library : Option (Int × String)) :
    KeptOnError (.setFileGenerationMode support mode library) server
      (server.setFileGenerationMode support mode library answer).1 := by
  unfold ConfiguredServer.setFileGenerationMode
  split_ifs with unsupported refused missing audio
  · exact kept_same fun passes => by simp [passes.2.2.1] at unsupported
  · exact kept_same fun passes => absurd passes.1 refused
  · exact kept_same fun passes => by simp [passes.2.1] at missing
  · exact kept_same fun passes => by simp [passes.2.2.2.1] at audio
  cases library with
  | none => exact kept_same fun passes => nomatch passes.2.2.2.2
  | some file =>
    refine @kept_written _ _ (fun config =>
      { config with url := file.1, uri := file.2, fileGenerationMode := mode }) ?_ rfl
    exact ⟨not_not.mp refused, by simpa using missing, by simpa using unsupported,
      by simpa using audio, rfl⟩

theorem kept_addWatermark (width height : Int) : KeptOnError (.addWatermark width height) server
      (server.addWatermark width height answer).1 := by
  by_cases takes : SetterCall.TakesNumber server (.addWatermark width height)
  · obtain ⟨allowed, wide, high, room⟩ := id takes
    have entered : ¬(server.status ≠ .recInitialized ∧ server.status ≠ .recConfigured) := by
      rw [not_and_or, not_not, not_not]
      exact allowed
    rw [ConfiguredServer.addWatermark, if_neg entered, if_neg (not_not_intro wide),
      if_neg (not_not_intro high), ConfiguredServer.getWatermarkCount, if_pos room]
    dsimp only
    split_ifs <;>
      exact ⟨rfl, fun _ => rfl, fun _ => rfl, fun without => absurd takes without⟩
  · have same : (server.addWatermark width height answer).1 = server := by
      unfold ConfiguredServer.addWatermark
      split
      · rfl
      rename_i entered
      split
      · rfl
      rename_i wide
      split
      · rfl
      rename_i high
      have full : ¬server.watermarkCount < watermarkCountMax := by
        intro room
        refine takes ⟨?_, not_not.mp wide, not_not.mp high, room⟩
        by_contra neither
        exact entered (not_or.mp neither)
      simp [ConfiguredServer.getWatermarkCount, full]
    rw [same]
    exact kept_same fun _ => rfl

theorem kept_perform (call : SetterCall) (answer : TaskAnswer) (server : ConfiguredServer)
    (fails : call.Fails answer server) :
    KeptOnError call server (call.perform answer server).1 := by
  cases call
  case setVideoSource | setVideoEncoder | setVideoSize | setVideoFrameRate |
      setVideoEncodingBitRate | setVideoIsHdr | setVideoEnableTemporalScale |
      setVideoEnableStableQualityMode | setVideoEnableBFrame | setMetaSource | setMetaMimeType |
      setMetaTimedKey | setMetaSourceTrackMime | setCaptureRate | setAudioSource |
      setAudioDataSource | setAudioSampleRate | setAudioChannels | setAudioAacProfile |
      setUserCustomInfo | setGenre | setMaxDuration | setOutputFile | setNextOutputFile |
      setMaxFileSize =>
    refine kept_setConfig ?_ rfl
    simp [SetterCall.Passes, SetterCall.AllowedIn, SetterCall.ArgumentsPass]
  case setRecorderCallback | setWatermark | setWillMuteWhenInterrupted =>
    exact kept_forward rfl
  case setVideoSqrFactor sqrFactor => exact kept_setVideoSqrFactor sqrFactor
  case setAudioEncoder encoder => exact kept_setAudioEncoder encoder
  case setAudioEncodingBitRate bitRate => exact kept_setAudioEncodingBitRate bitRate
  case setMetaConfigs timedMetadata videoMime timedKey trackMime =>
    exact kept_setMetaConfigs timedMetadata videoMime timedKey trackMime
  case setDataSource => exact kept_same fun _ => rfl
  case setOutputFormat => exact kept_setOutputFormat fails
  case setFileGenerationMode support mode library =>
    exact kept_setFileGenerationMode support mode library
  case addWatermark width height => exact kept_addWatermark width height
  case setLocation | setOrientationHint =>
    -- these return nothing
    obtain ⟨_, returned, _⟩ := fails
    cases returned

end

/-- The calls of a client, each with the answer to its task. -/
inductive ServerCall where
  | configuration (call : SetterCall) (answer : TaskAnswer)
  | prepare (answer : TaskAnswer)
  | start (camera : Bool) (answer : TaskAnswer)
  | pause (answer : TaskAnswer)
  | resume (answer : TaskAnswer)
  | stop (answer : TaskAnswer)
  | reset (answer : TaskAnswer)
  | release
deriving DecidableEq

def ConfiguredServer.next (server : ConfiguredServer) : ServerCall → ConfiguredServer
  | .configuration call answer => (call.perform answer server).1
  | .prepare answer => server.prepare answer
  | .start camera answer => server.start camera answer
  | .pause answer => server.pause answer
  | .resume answer => server.resume answer
  | .stop answer => server.stop answer
  | .reset answer => server.reset answer
  | .release => server.release

namespace ConfiguredServer

/-- The count has a number for every watermark of the engine. -/
def Counts (server : ConfiguredServer) : Prop :=
  server.accepted ≤ server.watermarkCount ∧ server.watermarkCount ≤ watermarkCountMax

/-- The engine accepts each watermark that takes a number, and `Stop` does not succeed when there
are numbers. -/
def Undisturbed (server : ConfiguredServer) : ServerCall → Prop
  | .configuration call answer =>
    call.TakesNumber server → server.recorderEngine = true ∧ answer = .done statusOk
  | .stop answer => server.recorderEngine = true → answer = .done statusOk →
    (server.status = .recRecording ∨ server.status = .recPaused) → server.watermarkCount = 0
  | _ => True

def numbers (server : ConfiguredServer) : Nat × Nat := (server.watermarkCount, server.accepted)

/-- What a call does to the numbers. -/
inductive Numbers (server : ConfiguredServer) : ServerCall → Nat × Nat → Prop where
  | same (call : ServerCall) : Numbers server call server.numbers
  | numbered (call : SetterCall) (answer : TaskAnswer) (takes : call.TakesNumber server)
      (room : server.watermarkCount < watermarkCountMax) :
      Numbers server (.configuration call answer) (server.watermarkCount + 1,
        if server.recorderEngine = true ∧ answer = .done statusOk then server.accepted + 1
        else server.accepted)
  | stopped (recorderEngine : server.recorderEngine = true)
      (status : server.status = .recRecording ∨ server.status = .recPaused) :
      Numbers server (.stop (.done statusOk)) (server.watermarkCount, 0)
  | cleared (call : ServerCall) : Numbers server call (0, 0)

variable {server : ConfiguredServer}

theorem setConfig_numbers (needed : RecStatus) (write : ConfigInfo → ConfigInfo)
    (answer : TaskAnswer) : (server.setConfig needed write answer).1.numbers = server.numbers := by
  rw [setConfig]
  split_ifs <;> rfl

theorem addWatermark_numbers (width height : Int) (answer : TaskAnswer) :
    Numbers server (.configuration (.addWatermark width height) answer)
      (server.addWatermark width height answer).1.numbers := by
  unfold addWatermark
  split
  · exact .same _
  rename_i configuring
  split
  · exact .same _
  rename_i wide
  split
  · exact .same _
  rename_i high
  by_cases room : server.watermarkCount < watermarkCountMax
  · have status : server.status = .recInitialized ∨ server.status = .recConfigured := by
      by_cases initialized : server.status = .recInitialized
      · exact .inl initialized
      · exact .inr (not_not.mp fun unready => configuring ⟨initialized, unready⟩)
    have numbered := Numbers.numbered (.addWatermark width height) answer
      ⟨status, not_not.mp wide, not_not.mp high, room⟩ room
    rw [getWatermarkCount, if_pos room]
    cases recorderEngine : server.recorderEngine with
    | false => simpa [numbers, recorderEngine] using numbered
    | true => simpa [numbers, recorderEngine] using numbered
  · simpa [getWatermarkCount, room] using Numbers.same _

theorem perform_numbers (call : SetterCall) (answer : TaskAnswer) :
    Numbers server (.configuration call answer) (call.perform answer server).1.numbers := by
  have same (kept : (call.perform answer server).1.numbers = server.numbers) :
      Numbers server (.configuration call answer) (call.perform answer server).1.numbers := by
    rw [kept]
    exact .same _
  cases call
  case addWatermark width height => exact addWatermark_numbers width height answer
  case setVideoSource | setVideoEncoder | setVideoSize | setVideoFrameRate |
      setVideoEncodingBitRate | setVideoIsHdr | setVideoEnableTemporalScale |
      setVideoEnableStableQualityMode | setVideoEnableBFrame | setMetaSource | setMetaMimeType |
      setMetaTimedKey | setMetaSourceTrackMime | setCaptureRate | setAudioSource |
      setAudioDataSource | setAudioSampleRate | setAudioChannels | setAudioAacProfile |
      setUserCustomInfo | setGenre | setMaxDuration | setOutputFile | setNextOutputFile |
      setMaxFileSize =>
    exact same (setConfig_numbers _ _ answer)
  all_goals apply same
  case setRecorderCallback | setWatermark | setWillMuteWhenInterrupted =>
    change (server.forward _ answer).1.numbers = _
    rw [forward]
    split_ifs <;> rfl
  case setDataSource => rfl
  case setVideoSqrFactor sqrFactor =>
    change (server.setVideoSqrFactor sqrFactor answer).1.numbers = _
    rw [setVideoSqrFactor]
    split
    · rfl
    · exact setConfig_numbers _ _ answer
  case setAudioEncoder encoder =>
    change (server.setAudioEncoder encoder answer).1.numbers = _
    simp only [setAudioEncoder]
    split_ifs <;> rfl
  case setAudioEncodingBitRate bitRate =>
    change (server.setAudioEncodingBitRate bitRate answer).1.numbers = _
    simp only [setAudioEncodingBitRate]
    split_ifs <;> rfl
  case setMetaConfigs timedMetadata videoMime timedKey trackMime =>
    change (server.setMetaConfigs timedMetadata videoMime timedKey trackMime answer).1.numbers = _
    have typed : (server.setMetaMimeType timedMetadata answer).1.numbers = server.numbers :=
      setConfig_numbers _ _ answer
    have keyed := @setConfig_numbers (server.setMetaMimeType timedMetadata answer).1 .recConfigured
      (fun config => { config with metaTimedKey := vidDebugInfoKey }) timedKey
    have tracked := @setConfig_numbers
      ((server.setMetaMimeType timedMetadata answer).1.setMetaTimedKey vidDebugInfoKey timedKey).1
      .recConfigured
      (fun config => { config with metaSrcTrackMime := videoMime }) trackMime
    simp only [setMetaConfigs]
    split_ifs
    all_goals first | exact typed | exact keyed.trans typed |
      exact (tracked.trans keyed).trans typed
  case setOutputFormat format =>
    change (server.setOutputFormat format answer).1.numbers = _
    simp only [setOutputFormat]
    split
    · rfl
    · split
      · rfl
      · split <;> rfl
  case setFileGenerationMode support mode library =>
    change (server.setFileGenerationMode support mode library answer).1.numbers = _
    simp only [setFileGenerationMode]
    split_ifs
    all_goals first | rfl | (cases library <;> rfl)
  case setLocation latitude longitude =>
    change (server.setLocation latitude longitude).numbers = _
    rw [setLocation]
    split_ifs <;> rfl
  case setOrientationHint rotation =>
    change (server.setOrientationHint rotation).numbers = _
    rw [setOrientationHint]
    split_ifs <;> rfl

theorem next_numbers (call : ServerCall) : Numbers server call (server.next call).numbers := by
  cases call with
  | configuration call answer => exact perform_numbers call answer
  | prepare answer =>
    simp only [next, prepare]
    split
    · exact .same _
    · split <;> exact .same _
  | start camera answer =>
    simp only [next, start]
    split
    · exact .same _
    · split
      · exact .same _
      · split <;> exact .same _
  | pause answer =>
    simp only [next, pause]
    split
    · exact .same _
    · split <;> exact .same _
  | resume answer =>
    simp only [next, resume]
    split
    · exact .same _
    · split <;> exact .same _
  | stop answer =>
    simp only [next, stop]
    split
    · exact .same _
    rename_i unfinished
    split
    · exact .same _
    rename_i recorderEngine
    split
    · split
      · rename_i accepted
        rw [accepted]
        refine .stopped (by simpa using recorderEngine) ?_
        by_cases recording : server.status = .recRecording
        · exact .inl recording
        · exact .inr (not_not.mp fun running => unfinished ⟨recording, running⟩)
      · exact .same _
    · exact .same _
  | reset answer =>
    simp only [next, reset]
    split
    · exact .same _
    split
    · split
      · exact .cleared _
      · exact .same _
    · exact .same _
  | release => exact .cleared _

theorem next_counts (counts : server.Counts) (call : ServerCall) : (server.next call).Counts := by
  have changed := @next_numbers server call
  generalize after : (server.next call).numbers = numbers at changed
  have each : (server.next call).watermarkCount = numbers.1 ∧
      (server.next call).accepted = numbers.2 := by
    rw [← after]
    exact ⟨rfl, rfl⟩
  rw [Counts, each.1, each.2]
  cases changed with
  | same => exact counts
  | numbered call answer takes room =>
    refine ⟨?_, room⟩
    dsimp only
    split
    · exact Nat.succ_le_succ counts.1
    · exact Nat.le_succ_of_le counts.1
  | stopped => exact ⟨Nat.zero_le _, counts.2⟩
  | cleared => exact ⟨Nat.le_refl 0, Nat.zero_le _⟩

theorem next_exact {call : ServerCall} (even : server.watermarkCount = server.accepted)
    (undisturbed : server.Undisturbed call) :
    (server.next call).watermarkCount = (server.next call).accepted := by
  have changed := @next_numbers server call
  generalize after : (server.next call).numbers = numbers at changed
  change (server.next call).numbers.1 = (server.next call).numbers.2
  rw [after]
  cases changed with
  | same => exact even
  | numbered call answer takes room =>
    dsimp only
    rw [if_pos (undisturbed takes), even]
  | stopped recorderEngine status => exact undisturbed recorderEngine rfl status
  | cleared => rfl

end ConfiguredServer

/-- A call that fails leaves the status; it leaves the reported configuration if it is refused
by its checks, and otherwise what it asked for; and the watermarks counted are at least those
the engine has, and just those where neither the engine refuses one nor `Stop` takes any. -/
theorem failed_calls_record :
    (∀ (call : SetterCall) (answer : TaskAnswer) (server : ConfiguredServer),
      call.Fails answer server → KeptOnError call server (call.perform answer server).1) ∧
    (∀ calls : List ServerCall, (run ConfiguredServer.next {} calls).Counts) ∧
    ∀ calls : List ServerCall, Along ConfiguredServer.next ConfiguredServer.Undisturbed {} calls →
      (run ConfiguredServer.next {} calls).watermarkCount =
        (run ConfiguredServer.next {} calls).accepted := by
  refine ⟨?_, ?_, ?_⟩
  · intro call answer server fails
    exact kept_perform call answer server fails
  · intro calls
    exact invariant_of_run ConfiguredServer.Counts
      (fun _ call counts => ConfiguredServer.next_counts counts call) calls
      ⟨Nat.le_refl 0, Nat.zero_le _⟩
  · intro calls undisturbed
    exact invariant_of_along (fun server => server.watermarkCount = server.accepted)
      (fun _ _ equal undisturbed => ConfiguredServer.next_exact equal undisturbed) undisturbed rfl

/-- The engine refuses a bit rate, and it is reported all the same; it refuses a watermark, and it
is counted. -/
theorem refused_bit_rate_reported :
    (¬∀ (call : SetterCall) (answer : TaskAnswer) (server : ConfiguredServer),
      call.Fails answer server →
        (call.perform answer server).1.getAVRecorderConfig = server.getAVRecorderConfig ∧
          (call.perform answer server).1.status = server.status ∧
          (call.perform answer server).1.watermarkCount = server.watermarkCount) ∧
    ¬∀ calls : List ServerCall, (run ConfiguredServer.next {} calls).watermarkCount =
      (run ConfiguredServer.next {} calls).accepted := by
  constructor
  · intro atomic
    have same := (atomic (.setVideoEncodingBitRate 48000000) (.done 1) { status := .recConfigured }
      ⟨.recorderEngineError5400103, by decide +kernel, by decide⟩).1
    revert same
    decide +kernel
  · intro equal
    have same := equal [.configuration (.addWatermark 1 1) (.done 1)]
    revert same
    decide +kernel

end PlayerFramework.Recorder
