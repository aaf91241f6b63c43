import PlayerFramework.ScreenCapture.AudioCaptures

/-!
`ScreenCaptureServer` (`screen_capture_server.cpp`, `screen_capture_server_callback.cpp`,
`screen_capture_listener_manager.cpp`): its states, what it holds, and the operations
and events that change them.

An operation holds `mutex_` and is cut into stages at the places where it lets go of the
audio.  The tasks of `taskQue_` run on one thread, and three of them do without `mutex_`
for a while or altogether: `AudioRendererStateUpdate` takes `audioMutex_` only,
`OnBatchLifecycleEvent` first sets its flag, and the time-out of an app selection stops
the capture beside whatever operation is in progress.  Pointers are modelled by whether
they are non-null.
-/

namespace PlayerFramework.ScreenCapture

open Transition

inductive ListenerFlag where
  | winLifecycle
  | winInfo
  | recordDisp
  | privateWin
  | screenConn
  | langSwitch
  | account
  | call
  | audioRenderer
  | appLifecycle
deriving DecidableEq

/-- `LF_ALL`, which leaves `LF_CALL` out. -/
def ListenerFlag.all : List ListenerFlag :=
  [.winLifecycle, .winInfo, .recordDisp, .privateWin, .screenConn, .langSwitch, .account,
    .audioRenderer, .appLifecycle]

inductive AVScreenCaptureDataMode where
  | bufferMode
  | surfaceMode
  | fileMode
deriving DecidableEq

/-- How the service is built and for whom it runs: `SUPPORT_CALL`, `PC_STANDARD`,
`SUPPORT_SCREEN_CAPTURE_WINDOW_NOTIFICATION`, `isSystemRecorder_` and what the audio
framework supports. -/
structure Platform where
  supportCall : Bool
  pcStandard : Bool
  windowNotification : Bool
  isSystemRecorder : Bool
  support : AudioCapturerSupport

/-- What an operation asks of the frameworks around it, each at most once. -/
inductive Query where
  | inCall
  | defaultDisplay
  | privacyWindowSkipPermission
  | userPrivacyAuthorityNeeded
  | skipPrivacyWindow
  | authWindow
  | screenCapturePermission
  | outputFd
  | createRecorder
  | setAudioDataSource
  | initRecorderInfo
  | setOutputFile
  | setStabilizationMode
  | prepareRecorder
  | recorderSurface
  | startRecorder
  | pauseRecorder
  | resumeRecorder
  | consumer
  | producer
  | producerSurface
  | bufferThread
  | virtualScreenValid
  | screenFound
  | mirror
  | screenoffDisableLock
  | notification
  | privacyUsing
  | singleMission
  | updateSurface
  | sceneSessionManager
  | appPid
  | unregister (flag : ListenerFlag)
deriving DecidableEq

/-- The answers that one stage of an operation gets. -/
structure Env where
  ok : Query → Bool
  startResults : StartResults

/-- What is left to do of an operation in progress. -/
inductive Stage where
  /-- `StartScreenCaptureStream` or `StartScreenCaptureFile` at `SyncAudioCaptures`. -/
  | startAudio
  /-- The rest of them after it returned. -/
  | startVideo (ret : MSErr)
  /-- `PostStartScreenCapture` of a start that failed, after its scope guards. -/
  | startFailed
  /-- `PauseScreenCaptureInner` after `StopAudioCapture`. -/
  | pauseRecorder
  /-- `ResumeScreenCaptureInner` after `SyncAudioCaptures` returned. -/
  | resumeSynced (ret : MSErr)
  /-- `StopScreenCaptureInner` after the capturers are stopped; `isFail` if it was
  called by `PostStartScreenCaptureFail`. -/
  | stopCapture (isFail : Bool)
deriving DecidableEq

/-- `screenMade` and `nullDereferenced` are history: whether the last start, re-selection or
resumption of the capture made a virtual screen (the start of an audio-only capture does
not), and whether `virtualScreen_` was dereferenced while null. -/
structure ScreenCaptureServer where
  captureState : AVScreenCaptureState := .created
  config : AVScreenCaptureConfig := {}
  dataMode : AVScreenCaptureDataMode := .bufferMode
  audio : AudioCaptures := {}
  virtualScreen : Bool := false
  recorder : Bool := false
  consumer : Bool := false
  producerSurface : Bool := false
  surface : Bool := false
  isSurfaceMode : Bool := false
  isPrivacyAuthorityEnabled : Bool := false
  isScreenCaptureAuthority : Bool := false
  isGetAppMissionId : Bool := true
  appSelectionTimeouts : Nat := 0
  listeners : List ListenerFlag := []
  operation : Option Stage := none
  screenMade : Bool := false
  nullDereferenced : Bool := false
deriving DecidableEq

namespace ScreenCaptureServer

def isState (server : ScreenCaptureServer) (cap : Capability) : Bool :=
  server.captureState.isState cap

def hasVideo (server : ScreenCaptureServer) : Bool :=
  server.config.dataType == .captureFile || server.config.videoCapInfo.state == .validationValid

/-- `virtualScreen_->GetScreenId()`. -/
def derefVirtualScreen (server : ScreenCaptureServer) : ScreenCaptureServer :=
  if server.virtualScreen then server else { server with nullDereferenced := true }

section Listeners

variable (platform : Platform) (env : Env)

/-- Whether `RegisterListeners` leaves a listener behind. -/
def attaches : ListenerFlag → Bool
  | .winLifecycle | .appLifecycle => env.ok .sceneSessionManager
  | .audioRenderer => env.ok .appPid
  | .recordDisp => platform.pcStandard
  | .call => platform.supportCall
  | _ => true

/-- Whether `UnregisterListeners` takes a listener away; three of them always do. -/
def detaches : ListenerFlag → Bool
  | .account | .call | .audioRenderer => true
  | flag => env.ok (.unregister flag)

def registerListeners (flags : List ListenerFlag) (server : ScreenCaptureServer) :
    ScreenCaptureServer :=
  { server with
    listeners := server.listeners ++ flags.filter fun flag =>
      decide (flag ∉ server.listeners) && attaches platform env flag }

def unregisterListeners (flags : List ListenerFlag) (server : ScreenCaptureServer) :
    ScreenCaptureServer :=
  { server with
    listeners := server.listeners.filter fun flag => decide (flag ∉ flags) || !detaches env flag }

end Listeners

section Stop

variable (env : Env)

/-- The end of `StopScreenCaptureInner`, and what `PostStartScreenCaptureFail` adds. -/
def stopFinished (isFail : Bool) (server : ScreenCaptureServer) : ScreenCaptureServer :=
  if isFail then
    { server with
      captureState := .stopped, isPrivacyAuthorityEnabled := false, isSurfaceMode := false }
  else { server with captureState := .stopped }

def stopScreenCaptureRecorder (server : ScreenCaptureServer) : ScreenCaptureServer :=
  if server.recorder then
    { server with
      virtualScreen := false, audio := server.audio.stopAudioCapture, recorder := false }
  else server

def stopAudioAndVideoCapture (server : ScreenCaptureServer) : ScreenCaptureServer :=
  { server with
    audio := server.audio.stopAudioCapture, virtualScreen := false, consumer := false }

def stopNotStartedScreenCapture (server : ScreenCaptureServer) : ScreenCaptureServer :=
  { server with isSurfaceMode := false, surface := false }

/-- `StopScreenCaptureInner` up to where the capturers are stopped. -/
def stopScreenCaptureInner (isFail : Bool) (server : ScreenCaptureServer) : ScreenCaptureServer :=
  if server.isState .alive && !server.isState .active then
    stopFinished isFail server.stopNotStartedScreenCapture
  else if !server.isState .alive then stopFinished isFail server
  else match server.config.dataType with
    | .captureFile =>
      { server.stopScreenCaptureRecorder with operation := some (.stopCapture isFail) }
    | .originalStream =>
      { server.stopAudioAndVideoCapture with operation := some (.stopCapture isFail) }
    | _ => stopFinished isFail server

/-- `PostStopScreenCapture` and `UnregisterListeners(LF_ALL)`. -/
def postStopScreenCapture (isFail : Bool) (server : ScreenCaptureServer) : ScreenCaptureServer :=
  stopFinished isFail (unregisterListeners env ListenerFlag.all
    { server with
      captureState := .stopped
      isPrivacyAuthorityEnabled := false
      isScreenCaptureAuthority := false })

def stopScreenCaptureByEvent (server : ScreenCaptureServer) : ScreenCaptureServer :=
  if server.isState .alive then server.stopScreenCaptureInner false else server

end Stop

section Start

variable (platform : Platform) (env : Env)

/-- The surface that `CreateVirtualScreen` draws on. -/
def targetSurface (server : ScreenCaptureServer) : Bool :=
  if server.config.dataType = .captureFile then server.consumer
  else if server.isSurfaceMode then server.surface else server.producerSurface

/-- `CreateVirtualScreen` with `PrepareVirtualScreenMirror`. -/
def createVirtualScreen (server : ScreenCaptureServer) : MSErr × ScreenCaptureServer :=
  if !server.targetSurface then (.unknown, { server with virtualScreen := false })
  else
    let server := { server with virtualScreen := true }
    if !env.ok .virtualScreenValid then (.unknownCreateVirtualScreen, server)
    else
      let server := server.derefVirtualScreen
      if !env.ok .screenFound then
        (.unknownCreateVirtualScreen, { server with virtualScreen := false })
      else if !env.ok .mirror then (.unknownMakeMirror, server)
      else (.ok, server)

/-- `StartStreamHomeVideoCapture` without a surface of the client's, before its scope
guard. -/
def startBufferVideoCapture (server : ScreenCaptureServer) : MSErr × ScreenCaptureServer :=
  let server := { server with consumer := env.ok .consumer }
  if !env.ok .consumer || !env.ok .producer then (.unknown, server)
  else
    let server := { server with producerSurface := env.ok .producerSurface }
    if !env.ok .producerSurface || !env.ok .bufferThread then (.unknown, server)
    else createVirtualScreen env server

def startStreamHomeVideoCapture (server : ScreenCaptureServer) : MSErr × ScreenCaptureServer :=
  if server.isSurfaceMode then createVirtualScreen env server
  else
    let started := startBufferVideoCapture env server
    if started.1 ≠ .ok then (started.1, { started.2 with virtualScreen := false }) else started

def startStreamVideoCapture (server : ScreenCaptureServer) : MSErr × ScreenCaptureServer :=
  match server.config.videoCapInfo.state with
  | .validationIgnore => (.ok, server)
  | .validationInvalid => (.invalidVal, server)
  | .validationValid => startStreamHomeVideoCapture env server

/-- `SelectAudioSource`; a mix also listens to the audio renderers. -/
def selectAudioSource (server : ScreenCaptureServer) : MSErr × ScreenCaptureServer :=
  let selected := server.audio.selectAudioSource server.config (env.ok .setAudioDataSource)
  let server := { server with audio := selected.2 }
  (selected.1, if server.config.innerCapInfo.state = .validationValid ∧
        server.config.micCapInfo.state = .validationValid then
      registerListeners platform env [.audioRenderer] server
    else server)

/-- `InitRecorder` before its scope guard, with a recorder. -/
def prepareRecorder (server : ScreenCaptureServer) : MSErr × ScreenCaptureServer :=
  let selected := selectAudioSource platform env server
  if selected.1 ≠ .ok then (.unknownRecorderSetAudio, selected.2)
  else if !env.ok .initRecorderInfo then (.unknownRecorderInit, selected.2)
  else if !env.ok .setOutputFile then (.unknownRecorderSetFile, selected.2)
  else if !env.ok .setStabilizationMode then (.unknown, selected.2)
  else if !env.ok .prepareRecorder then (.unknownRecorderPrepare, selected.2)
  else if selected.2.config.videoCapInfo.state = .validationIgnore then selected
  else if !env.ok .recorderSurface then
    (.unknownRecorderGetSurface, { selected.2 with consumer := false })
  else (.ok, { selected.2 with consumer := true })

def initRecorder (server : ScreenCaptureServer) : MSErr × ScreenCaptureServer :=
  if !env.ok .outputFd then (.invalidFd, server)
  else if !server.recorder && !env.ok .createRecorder then (.unknown, server)
  else
    let prepared := prepareRecorder platform env { server with recorder := true }
    if prepared.1 ≠ .ok then (prepared.1, { prepared.2 with recorder := false }) else prepared

/-- `RecorderServer::Start` and `CreateVirtualScreen` of `StartScreenCaptureFile`. -/
def startFileVideo (server : ScreenCaptureServer) : MSErr × ScreenCaptureServer :=
  if !env.ok .startRecorder then (.unknown, server) else createVirtualScreen env server

/-- The scope guards of `StartScreenCaptureStream` and `StartScreenCaptureFile`. -/
def rollbackStart (server : ScreenCaptureServer) : ScreenCaptureServer :=
  let server := { server with audio := server.audio.stopAudioCapture }
  if server.config.dataType = .captureFile then
    { server with
      recorder := false, consumer := if server.recorder then false else server.consumer }
  else server

def postStartScreenCaptureFail (server : ScreenCaptureServer) : ScreenCaptureServer :=
  server.stopScreenCaptureInner true

def startedListeners (server : ScreenCaptureServer) : List ListenerFlag :=
  [ListenerFlag.privateWin, .screenConn] ++
    (if platform.isSystemRecorder then [] else [ListenerFlag.langSwitch]) ++
    (if server.config.captureMode = .captureSpecifiedWindow ∧ env.ok .singleMission = true then
      [ListenerFlag.winLifecycle, .winInfo, .recordDisp] else [])

def postStartScreenCapture (server : ScreenCaptureServer) : ScreenCaptureServer :=
  let server := if platform.pcStandard && env.ok .screenoffDisableLock then
    server.derefVirtualScreen else server
  if platform.windowNotification && server.isPrivacyAuthorityEnabled &&
      !platform.isSystemRecorder && !server.isScreenCaptureAuthority && !env.ok .notification then
    stopScreenCaptureInner false { server with captureState := .started }
  else if !env.ok .privacyUsing then
    stopScreenCaptureInner false { server with captureState := .started }
  else
    registerListeners platform env (startedListeners platform env server)
      { server with captureState := .started, screenMade := server.hasVideo }

/-- `OnStartScreenCapture` up to `SyncAudioCaptures`. -/
def onStartScreenCapture (server : ScreenCaptureServer) : ScreenCaptureServer :=
  let server := { server with captureState := .starting }
  match server.config.dataType with
  | .originalStream => { server with operation := some .startAudio }
  | .captureFile =>
    let inited := initRecorder platform env server
    { inited.2 with
      operation := if inited.1 ≠ .ok then some .startFailed else some .startAudio }
  | _ => { server with operation := some .startFailed }

/-- The video of `StartScreenCaptureStream` or `StartScreenCaptureFile`. -/
def startVideoCapture (server : ScreenCaptureServer) : MSErr × ScreenCaptureServer :=
  if server.config.dataType = .captureFile then startFileVideo env server
  else startStreamVideoCapture env server

/-- `StartScreenCaptureStream` or `StartScreenCaptureFile` after `SyncAudioCaptures`. -/
def startVideo (ret : MSErr) (server : ScreenCaptureServer) : ScreenCaptureServer :=
  let started := if ret ≠ .ok then (ret, server) else startVideoCapture env server
  if started.1 ≠ .ok then { started.2.rollbackStart with operation := some .startFailed }
  else postStartScreenCapture platform env started.2

def checkInput (server : ScreenCaptureServer) : CheckInput where
  isSurfaceMode := server.isSurfaceMode
  surface := server.surface
  isMicrophoneSwitchTurnOn := server.audio.isMicrophoneSwitchTurnOn

def checkedDataMode (server : ScreenCaptureServer) : AVScreenCaptureDataMode :=
  match server.config.dataType with
  | .originalStream => if server.isSurfaceMode then .surfaceMode else .bufferMode
  | .captureFile => .fileMode
  | _ => server.dataMode

def prepareStartCapture (server : ScreenCaptureServer) : MSErr × ScreenCaptureServer :=
  if platform.supportCall && !server.config.strategy.keepCaptureDuringCall && env.ok .inCall then
    (.unsupportInCall, server)
  else
    let server := registerListeners platform env
      (if platform.supportCall then [.account, .call] else [.account]) server
    let check := checkAllParams platform.support server.checkInput server.config
    let server := { server with
      config := check.config
      dataMode := server.checkedDataMode
      audio := { server.audio with isMicrophoneSwitchTurnOn := check.isMicrophoneSwitchTurnOn } }
    if check.ret ≠ .ok then (check.ret, server)
    else if !env.ok .defaultDisplay then (.unknownCreateVirtualScreen, server)
    else (.ok, server)

/-- `RequestUserPrivacyAuthority`: whether it succeeds, and `isSkipPrivacyWindow`. -/
def requestUserPrivacyAuthority (isPrivacyAuthorityEnabled : Bool) : Bool × Bool :=
  if isPrivacyAuthorityEnabled then
    if env.ok .skipPrivacyWindow then (true, true) else (env.ok .authWindow, false)
  else (env.ok .screenCapturePermission, false)

def startScreenCaptureInner (isPrivacyAuthorityEnabled : Bool) (server : ScreenCaptureServer) :
    ScreenCaptureServer :=
  let prepared := prepareStartCapture platform env server
  if prepared.1 ≠ .ok then prepared.2
  else
    let server := { prepared.2 with
      isPrivacyAuthorityEnabled
      captureState := .popupWindow
      isScreenCaptureAuthority := env.ok .privacyWindowSkipPermission }
    if !env.ok .privacyWindowSkipPermission && env.ok .userPrivacyAuthorityNeeded then
      let requested := requestUserPrivacyAuthority env isPrivacyAuthorityEnabled
      if !requested.1 then { server with captureState := .stopped }
      -- the window waits for the user's choice
      else if isPrivacyAuthorityEnabled && !requested.2 then server
      else onStartScreenCapture platform env server
    else onStartScreenCapture platform env server

def startScreenCapture (isPrivacyAuthorityEnabled : Bool) (server : ScreenCaptureServer) :
    ScreenCaptureServer :=
  if !server.isState .init then server
  else startScreenCaptureInner platform env isPrivacyAuthorityEnabled
    { server with isSurfaceMode := false }

def startScreenCaptureWithSurface (surface isPrivacyAuthorityEnabled : Bool)
    (server : ScreenCaptureServer) : ScreenCaptureServer :=
  if !server.isState .init || !surface then server
  else startScreenCaptureInner platform env isPrivacyAuthorityEnabled
    { server with surface := true, isSurfaceMode := true }

end Start

/-- What the picker or the privacy window reports. -/
inductive UserChoice where
  | deny
  | selectApp
  | selectWindow
  | selectDisplay
  | fallback
  | stopRecording
  | other
deriving DecidableEq

section Choice

variable (platform : Platform) (env : Env)

def setCaptureConfig (captureMode : CaptureMode) (server : ScreenCaptureServer) :
    ScreenCaptureServer :=
  { server with config := { server.config with captureMode } }

/-- The end of `OnReceiveUserPrivacyAuthority` on a running capture. -/
def reselect (server : ScreenCaptureServer) : ScreenCaptureServer :=
  let created := createVirtualScreen env
    (unregisterListeners env [.winLifecycle, .winInfo, .screenConn, .appLifecycle] server)
  let server := { created.2 with screenMade := created.2.virtualScreen }
  if created.1 ≠ .ok then server
  else registerListeners platform env
    (if server.config.captureMode = .captureSpecifiedWindow ∧ env.ok .singleMission = true then
      [.screenConn, .winLifecycle, .winInfo] else [.screenConn]) server

def onReceiveUserPrivacyAuthority (isAllowed : Bool) (server : ScreenCaptureServer) :
    ScreenCaptureServer :=
  if !server.isState .popup && !server.isState .running then server.stopScreenCaptureInner false
  else if !isAllowed then
    if server.isState .popup then { server with captureState := .created } else server
  else if !server.isState .running then onStartScreenCapture platform env server
  else reselect platform env server

/-- `ParseAppMissionIds`; the batch event or a time-out answers the selection. -/
def parseAppMissionIds (server : ScreenCaptureServer) : ScreenCaptureServer :=
  let server := registerListeners platform env [.appLifecycle] server
  { server.setCaptureConfig .captureSpecifiedApp with
    isGetAppMissionId := false, appSelectionTimeouts := server.appSelectionTimeouts + 1 }

def handlePickerChoice (choice : UserChoice) (server : ScreenCaptureServer) : ScreenCaptureServer :=
  match choice with
  | .deny => onReceiveUserPrivacyAuthority platform env false server
  | .selectApp => parseAppMissionIds platform env server
  | .selectWindow => onReceiveUserPrivacyAuthority platform env true
      (server.setCaptureConfig .captureSpecifiedWindow)
  | .selectDisplay => onReceiveUserPrivacyAuthority platform env true
      (server.setCaptureConfig .captureSpecifiedScreen)
  | .fallback => onReceiveUserPrivacyAuthority platform env true server
  | .stopRecording | .other => server

def reportAVScreenCaptureUserChoice (choice : UserChoice) (server : ScreenCaptureServer) :
    ScreenCaptureServer :=
  if server.isState .popup then handlePickerChoice platform env choice server
  else if server.isState .running then
    if choice = .stopRecording then server.stopScreenCaptureInner false
    else handlePickerChoice platform env choice server
  else server

/-- The task of `OnBatchLifecycleEvent` that names a window, before it takes `mutex_`. -/
def onBatchLifecycleEvent (server : ScreenCaptureServer) : ScreenCaptureServer :=
  { server with isGetAppMissionId := true }

def finishPrepareSelectWindow (server : ScreenCaptureServer) : ScreenCaptureServer :=
  onReceiveUserPrivacyAuthority platform env true server

/-- The time-out task that an app selection has armed, up to where a teardown has stopped
the capturers. -/
def appSelectionTimeout (server : ScreenCaptureServer) : ScreenCaptureServer :=
  if server.appSelectionTimeouts = 0 then server
  else
    let server := { server with appSelectionTimeouts := server.appSelectionTimeouts - 1 }
    if server.isGetAppMissionId then server else server.postStartScreenCaptureFail

end Choice

section PauseResume

variable (platform : Platform) (env : Env)

/-- `PauseScreenCaptureInner` up to `StopAudioCapture`. -/
def pauseScreenCaptureInner (server : ScreenCaptureServer) : ScreenCaptureServer :=
  if !server.isState .running || !server.config.strategy.enablePause then server
  else { server with
    virtualScreen := false
    audio := server.audio.stopAudioCapture
    operation := some .pauseRecorder }

def pauseRecorder (server : ScreenCaptureServer) : ScreenCaptureServer :=
  if server.dataMode = .fileMode ∧ server.recorder = true ∧ env.ok .pauseRecorder = false then
    server.stopScreenCaptureInner false
  else { server with captureState := .paused }

/-- `ResumeScreenCaptureInner` up to `SyncAudioCaptures`. -/
def resumeScreenCaptureInner (server : ScreenCaptureServer) : ScreenCaptureServer :=
  if !server.isState .paused || !server.config.strategy.enablePause then server
  else if platform.supportCall && !server.config.strategy.keepCaptureDuringCall &&
      server.audio.isInTelCall then server.stopScreenCaptureInner false
  else if server.dataMode = .fileMode ∧ server.recorder = true ∧
      env.ok .resumeRecorder = false then server.stopScreenCaptureInner false
  else
    let created := createVirtualScreen env server
    if created.1 ≠ .ok then created.2.stopScreenCaptureInner false
    else
      let synced := created.2.audio.syncAudioCaptures server.config env.startResults true
      { created.2 with audio := synced.2, operation := some (.resumeSynced synced.1) }

/-- `ResumeScreenCaptureInner` after `SyncAudioCaptures`. -/
def resumeSynced (ret : MSErr) (server : ScreenCaptureServer) : ScreenCaptureServer :=
  if ret ≠ .ok then server.stopScreenCaptureInner false
  else { server with captureState := .resumed, screenMade := true }

end PauseResume

section Calls

variable (platform : Platform) (env : Env)

/-- The setters of the configuration, which are refused once a capture is started. -/
def configure (config : AVScreenCaptureConfig) (server : ScreenCaptureServer) :
    ScreenCaptureServer :=
  if server.isState .config then { server with config } else server

def setMicrophoneEnabled (isMicrophone : Bool) (server : ScreenCaptureServer) :
    ScreenCaptureServer :=
  if !server.isState .running then
    { server with audio := { server.audio with isMicrophoneSwitchTurnOn := isMicrophone } }
  else { server with
    audio := (server.audio.setMicrophoneEnabled server.config env.startResults isMicrophone
      (platform.supportCall && env.ok .inCall)).2 }

def addWatermark (server : ScreenCaptureServer) : ScreenCaptureServer :=
  if server.captureState ≠ .created ∨ server.config.dataType ≠ .captureFile then server
  else { server with recorder := server.recorder || env.ok .createRecorder }

def excludeContent (server : ScreenCaptureServer) : ScreenCaptureServer :=
  if !server.isState .alive then server
  else if server.isState .active then server.derefVirtualScreen else server

/-- `AddWhiteListWindows` and `RemoveWhiteListWindows`. -/
def changeWhiteListWindows (server : ScreenCaptureServer) : ScreenCaptureServer :=
  if !server.isState .active then server else server.derefVirtualScreen

def addWhiteListWindows : ScreenCaptureServer → ScreenCaptureServer := changeWhiteListWindows

def removeWhiteListWindows : ScreenCaptureServer → ScreenCaptureServer := changeWhiteListWindows

def updateSurface (surface : Bool) (server : ScreenCaptureServer) : ScreenCaptureServer :=
  if !server.isSurfaceMode || !server.isState .running || !surface then server
  else { server.derefVirtualScreen with surface := server.surface || env.ok .updateSurface }

/-- `OnCallStateChanged`; the `Release` that follows its stop is a call of its own. -/
def onCallStateChanged (isInCall : Bool) (server : ScreenCaptureServer) : ScreenCaptureServer :=
  if !platform.supportCall then server
  else if !server.config.strategy.keepCaptureDuringCall && isInCall && !server.isState .paused then
    server.stopScreenCaptureByEvent
  else if !server.isState .active then server
  else { server with
    audio := (server.audio.callStateUpdate server.config env.startResults isInCall).2 }

/-- `AudioRendererStateUpdate` has something to do. -/
def rendererStateChanges (newState : AudioStateFlags) (server : ScreenCaptureServer) : Bool :=
  server.audio.audioSource.isSome && server.audio.audioRendererState != newState

/-- `AudioRendererStateUpdate` up to the end of its first lock of `audioMutex_`. -/
def audioRendererStateStore (newState : AudioStateFlags) (server : ScreenCaptureServer) :
    ScreenCaptureServer :=
  { server with audio := { server.audio with audioRendererState := newState } }

def audioRendererStateSync (server : ScreenCaptureServer) : ScreenCaptureServer :=
  { server with
    audio := (server.audio.syncAudioCaptures server.config env.startResults false).2 }

def startAudio (server : ScreenCaptureServer) : ScreenCaptureServer :=
  let synced := server.audio.syncAudioCaptures server.config env.startResults true
  { server with audio := synced.2, operation := some (.startVideo synced.1) }

end Calls

inductive ClientCall where
  | configure (config : AVScreenCaptureConfig)
  | setMicrophoneEnabled (isMicrophone : Bool)
  | addWatermark
  | startScreenCapture (isPrivacyAuthorityEnabled : Bool)
  | startScreenCaptureWithSurface (surface isPrivacyAuthorityEnabled : Bool)
  | reportUserChoice (choice : UserChoice)
  | pauseScreenCapture
  | resumeScreenCapture
  | stopScreenCapture
  | release
  | excludeContent
  | addWhiteListWindows
  | removeWhiteListWindows
  | updateSurface (surface : Bool)
deriving DecidableEq

/-- What the tasks of `taskQue_` do under `mutex_`. -/
inductive ServerTask where
  | callStateChanged (isInCall : Bool)
  | accountSwitched
  | stopAndRelease
  | finishPrepareSelectWindow
  | appInstanceAdded
deriving DecidableEq

/-- `batchLifecycle` and `rendererState` begin the tasks that `finishPrepareSelectWindow` and
`rendererSync` end; `timeoutProceed` ends the teardown of a time-out. -/
inductive ServerEvent where
  | call (call : ClientCall)
  | task (task : ServerTask)
  | batchLifecycle
  | rendererState (newState : AudioStateFlags)
  | rendererSync
  | appSelectionTimeout
  | timeoutProceed
  | proceed
deriving DecidableEq

section Step

variable (platform : Platform) (env : Env)

def handleCall (call : ClientCall) (server : ScreenCaptureServer) : ScreenCaptureServer :=
  match call with
  | .configure config => server.configure config
  | .setMicrophoneEnabled isMicrophone => setMicrophoneEnabled platform env isMicrophone server
  | .addWatermark => addWatermark env server
  | .startScreenCapture isPrivacyAuthorityEnabled =>
    startScreenCapture platform env isPrivacyAuthorityEnabled server
  | .startScreenCaptureWithSurface surface isPrivacyAuthorityEnabled =>
    startScreenCaptureWithSurface platform env surface isPrivacyAuthorityEnabled server
  | .reportUserChoice choice => reportAVScreenCaptureUserChoice platform env choice server
  | .pauseScreenCapture => server.pauseScreenCaptureInner
  | .resumeScreenCapture => resumeScreenCaptureInner platform env server
  | .stopScreenCapture | .release => server.stopScreenCaptureByEvent
  | .excludeContent => server.excludeContent
  | .addWhiteListWindows => server.addWhiteListWindows
  | .removeWhiteListWindows => server.removeWhiteListWindows
  | .updateSurface surface => updateSurface env surface server

def handleTask (task : ServerTask) (server : ScreenCaptureServer) : ScreenCaptureServer :=
  match task with
  | .callStateChanged isInCall => onCallStateChanged platform env isInCall server
  | .accountSwitched | .stopAndRelease => server.stopScreenCaptureByEvent
  | .finishPrepareSelectWindow => finishPrepareSelectWindow platform env server
  | .appInstanceAdded => server.addWhiteListWindows

/-- The next stage of the operation in progress. -/
def handleStage (stage : Stage) (server : ScreenCaptureServer) : ScreenCaptureServer :=
  match stage with
  | .startAudio => startAudio env server
  | .startVideo ret => startVideo platform env ret server
  | .startFailed => server.postStartScreenCaptureFail
  | .pauseRecorder => pauseRecorder env server
  | .resumeSynced ret => server.resumeSynced ret
  | .stopCapture isFail => postStopScreenCapture env isFail server

end Step

end ScreenCaptureServer

/-- What the thread of `taskQue_` is in the middle of. -/
inductive TaskProgress where
  | idle
  /-- A task holds `mutex_`. -/
  | operation
  /-- `OnBatchLifecycleEvent` has set the flag of the selections. -/
  | batchLifecycle
  /-- `AudioRendererStateUpdate` has stored a new state and is about to synchronise. -/
  | rendererSync
  /-- `PostStartScreenCaptureFail` of a time-out has stopped the capturers. -/
  | startFail
deriving DecidableEq

/-- The server with the thread of its `taskQue_`. -/
structure CaptureThreads where
  server : ScreenCaptureServer := {}
  task : TaskProgress := .idle
deriving DecidableEq

namespace CaptureThreads

open ScreenCaptureServer

variable (platform : Platform) (env : Env)

def taskBefore : ServerTask → TaskProgress
  | .finishPrepareSelectWindow => .batchLifecycle
  | .callStateChanged _ | .accountSwitched | .stopAndRelease | .appInstanceAdded => .idle

/-- The event is taken up, and is not left waiting for `mutex_` or for the thread. -/
def takesUp (state : CaptureThreads) (event : ServerEvent) : Bool :=
  match event with
  | .call _ => state.server.operation.isNone
  | .task task => state.server.operation.isNone && state.task == taskBefore task
  | .batchLifecycle | .rendererState _ | .appSelectionTimeout => state.task == .idle
  | .rendererSync => state.task == .rendererSync
  | .timeoutProceed => state.task == .startFail
  | .proceed => state.server.operation.isSome

/-- The time-out takes no lock: its teardown runs beside the operation in progress. -/
def appSelectionTimeout (state : CaptureThreads) : CaptureThreads :=
  let failed := { state.server with operation := none }.appSelectionTimeout
  { server := { failed with operation := state.server.operation }
    task := if failed.operation.isSome then .startFail else .idle }

/-- The thread after a task that leaves `server`. -/
def taskAfter (server : ScreenCaptureServer) : TaskProgress :=
  if server.operation.isSome then .operation else .idle

/-- The next stage of the operation in progress, which may be a task's. -/
def proceed (state : CaptureThreads) : CaptureThreads :=
  match state.server.operation with
  | none => state
  | some stage =>
    let server := handleStage platform env stage { state.server with operation := none }
    { server, task := if state.task = .operation then taskAfter server else state.task }

def handle (event : ServerEvent) (state : CaptureThreads) : CaptureThreads :=
  match event with
  | .call call => { state with server := handleCall platform env call state.server }
  | .task task =>
    let server := handleTask platform env task state.server
    { server, task := taskAfter server }
  | .batchLifecycle => { server := state.server.onBatchLifecycleEvent, task := .batchLifecycle }
  | .rendererState newState =>
    if state.server.rendererStateChanges newState then
      { server := state.server.audioRendererStateStore newState, task := .rendererSync }
    else state
  | .rendererSync => { server := audioRendererStateSync env state.server, task := .idle }
  | .appSelectionTimeout => state.appSelectionTimeout
  | .timeoutProceed => { server := postStopScreenCapture env true state.server, task := .idle }
  | .proceed => state.proceed platform env

/-- One step of the server and the thread of its tasks. -/
def next (state : CaptureThreads) (input : ServerEvent × Env) : CaptureThreads :=
  if state.takesUp input.1 then handle platform input.2 input.1 state else state

end CaptureThreads

end PlayerFramework.ScreenCapture
