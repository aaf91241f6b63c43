import PlayerFramework.ScreenCapture.Server

/-!
What the functions of `ScreenCaptureServer` change, and from it what a step can do:
`Effect` for a call or a task between operations, `next_cases` for every step of the
server with its thread, as long as a time-out has the server to itself.
-/

namespace PlayerFramework.ScreenCapture

open Transition

namespace ScreenCaptureServer

variable {platform : Platform} {env : Env} {server : ScreenCaptureServer}

section Screen

theorem derefVirtualScreen_eq (server : ScreenCaptureServer) :
    ∃ nullDereferenced, server.derefVirtualScreen = { server with nullDereferenced } := by
  unfold derefVirtualScreen
  split
  · exact ⟨server.nullDereferenced, rfl⟩
  · exact ⟨true, rfl⟩

theorem derefVirtualScreen_of_screen (screen : server.virtualScreen = true) :
    server.derefVirtualScreen = server := by
  simp [derefVirtualScreen, screen]

theorem createVirtualScreen_eq (env : Env) (server : ScreenCaptureServer) :
    ∃ ret screen, createVirtualScreen env server = (ret, { server with virtualScreen := screen }) ∧
      (ret = .ok → screen = true) := by
  unfold createVirtualScreen
  by_cases surface : server.targetSurface = true
  · by_cases valid : env.ok .virtualScreenValid = true
    · by_cases found : env.ok .screenFound = true
      · by_cases mirror : env.ok .mirror = true
        · refine ⟨.ok, true, ?_, fun _ => rfl⟩
          simp [surface, valid, found, mirror, derefVirtualScreen]
        · refine ⟨.unknownMakeMirror, true, ?_, fun _ => rfl⟩
          simp [surface, valid, found, mirror, derefVirtualScreen]
      · refine ⟨.unknownCreateVirtualScreen, false, ?_, by simp⟩
        simp [surface, valid, found, derefVirtualScreen]
    · refine ⟨.unknownCreateVirtualScreen, true, ?_, by simp⟩
      simp [surface, valid]
  · refine ⟨.unknown, false, ?_, by simp⟩
    simp [surface]

theorem startBufferVideoCapture_eq (env : Env) (server : ScreenCaptureServer) :
    ∃ ret screen consumer producerSurface, startBufferVideoCapture env server =
        (ret, { server with virtualScreen := screen, consumer, producerSurface }) ∧
      (ret = .ok → screen = true) := by
  unfold startBufferVideoCapture
  by_cases consumer : (!env.ok .consumer || !env.ok .producer) = true
  · refine ⟨.unknown, server.virtualScreen, env.ok .consumer, server.producerSurface, ?_, by simp⟩
    simp [consumer]
  by_cases producer : (!env.ok .producerSurface || !env.ok .bufferThread) = true
  · refine ⟨.unknown, server.virtualScreen, env.ok .consumer, env.ok .producerSurface, ?_,
      by simp⟩
    simp [consumer, producer]
  · obtain ⟨ret, screen, created, ok⟩ := createVirtualScreen_eq env { server with
      consumer := env.ok .consumer, producerSurface := env.ok .producerSurface }
    refine ⟨ret, screen, env.ok .consumer, env.ok .producerSurface, ?_, ok⟩
    simp only [consumer, producer, Bool.false_eq_true, if_false]
    exact created

theorem startStreamVideoCapture_eq (env : Env) (server : ScreenCaptureServer) :
    ∃ ret screen consumer producerSurface, startStreamVideoCapture env server =
        (ret, { server with virtualScreen := screen, consumer, producerSurface }) ∧
      (server.config.videoCapInfo.state = .validationValid → ret = .ok → screen = true) := by
  unfold startStreamVideoCapture
  cases video : server.config.videoCapInfo.state with
  | validationIgnore =>
    exact ⟨.ok, server.virtualScreen, server.consumer, server.producerSurface, rfl, by simp⟩
  | validationInvalid =>
    exact ⟨.invalidVal, server.virtualScreen, server.consumer, server.producerSurface, rfl,
      by simp⟩
  | validationValid =>
    simp only [startStreamHomeVideoCapture, forall_const]
    by_cases surfaceMode : server.isSurfaceMode = true
    · obtain ⟨ret, screen, created, ok⟩ := createVirtualScreen_eq env server
      refine ⟨ret, screen, server.consumer, server.producerSurface, ?_, ok⟩
      rw [if_pos surfaceMode]
      exact created
    · obtain ⟨ret, screen, consumer, producerSurface, started, ok⟩ :=
        startBufferVideoCapture_eq env server
      rw [if_neg surfaceMode, started]
      by_cases failed : ret ≠ .ok
      · refine ⟨ret, false, consumer, producerSurface, ?_, fun succeeded => absurd succeeded failed⟩
        rw [if_pos failed]
      · refine ⟨ret, screen, consumer, producerSurface, ?_, ok⟩
        rw [if_neg failed]

theorem startVideoCapture_eq (env : Env) (server : ScreenCaptureServer) :
    ∃ ret screen consumer producerSurface, startVideoCapture env server =
        (ret, { server with virtualScreen := screen, consumer, producerSurface }) ∧
      (server.hasVideo = true → ret = .ok → screen = true) := by
  unfold startVideoCapture
  by_cases file : server.config.dataType = .captureFile
  · rw [if_pos file]
    by_cases refused : (!env.ok .startRecorder) = true
    · refine ⟨.unknown, server.virtualScreen, server.consumer, server.producerSurface, ?_, by simp⟩
      rw [startFileVideo, if_pos refused]
    · obtain ⟨ret, screen, created, ok⟩ := createVirtualScreen_eq env server
      refine ⟨ret, screen, server.consumer, server.producerSurface, ?_, fun _ => ok⟩
      rw [startFileVideo, if_neg refused]
      exact created
  · rw [if_neg file]
    obtain ⟨ret, screen, consumer, producerSurface, started, ok⟩ :=
      startStreamVideoCapture_eq env server
    refine ⟨ret, screen, consumer, producerSurface, started, ?_⟩
    intro hasVideo
    exact ok (by simpa [ScreenCaptureServer.hasVideo, file] using hasVideo)

end Screen

section Recorder

theorem registerListeners_eq (platform : Platform) (env : Env) (flags : List ListenerFlag)
    (server : ScreenCaptureServer) :
    ∃ listeners, registerListeners platform env flags server = { server with listeners } :=
  ⟨_, rfl⟩

def SameCapturers (before after : AudioCaptures) : Prop :=
  after.micAudioCapture = before.micAudioCapture ∧
    after.innerAudioCapture = before.innerAudioCapture

theorem selectAudioSource_sameCapturers (config : AVScreenCaptureConfig) (accepted : Bool)
    (audio : AudioCaptures) : SameCapturers audio (audio.selectAudioSource config accepted).2 := by
  unfold AudioCaptures.selectAudioSource
  simp only
  split
  · exact ⟨rfl, rfl⟩
  · split
    · exact ⟨rfl, rfl⟩
    · split <;> exact ⟨rfl, rfl⟩

theorem unregisterListeners_eq (env : Env) (flags : List ListenerFlag)
    (server : ScreenCaptureServer) :
    ∃ listeners, unregisterListeners env flags server = { server with listeners } :=
  ⟨_, rfl⟩

theorem selectAudioSource_eq (platform : Platform) (env : Env) (server : ScreenCaptureServer) :
    ∃ ret audio listeners, selectAudioSource platform env server =
        (ret, { server with audio, listeners }) ∧ SameCapturers server.audio audio := by
  have same : SameCapturers server.audio
      (server.audio.selectAudioSource server.config (env.ok .setAudioDataSource)).2 :=
    selectAudioSource_sameCapturers server.config (env.ok .setAudioDataSource) server.audio
  by_cases mixed : server.config.innerCapInfo.state = .validationValid ∧
      server.config.micCapInfo.state = .validationValid
  · obtain ⟨listeners, registered⟩ := registerListeners_eq platform env [.audioRenderer]
      { server with
        audio := (server.audio.selectAudioSource server.config (env.ok .setAudioDataSource)).2 }
    refine ⟨_, _, listeners, Prod.ext rfl ?_, same⟩
    simp only [selectAudioSource, if_pos mixed]
    exact registered
  · refine ⟨_, _, server.listeners, Prod.ext rfl ?_, same⟩
    simp [selectAudioSource, if_neg mixed]

theorem prepareRecorder_eq (platform : Platform) (env : Env) (server : ScreenCaptureServer) :
    ∃ ret audio listeners consumer, prepareRecorder platform env server =
        (ret, { server with audio, listeners, consumer }) ∧ SameCapturers server.audio audio := by
  obtain ⟨ret, audio, listeners, selected, same⟩ := selectAudioSource_eq platform env server
  unfold prepareRecorder
  rw [selected]
  simp only
  split_ifs
  all_goals exact ⟨_, audio, listeners, _, rfl, same⟩

theorem initRecorder_eq (platform : Platform) (env : Env) (server : ScreenCaptureServer) :
    ∃ ret audio listeners consumer recorder, initRecorder platform env server =
        (ret, { server with audio, listeners, consumer, recorder }) ∧
      SameCapturers server.audio audio ∧ (ret = .ok → recorder = true) := by
  unfold initRecorder
  by_cases outputFd : (!env.ok .outputFd) = true
  · refine ⟨.invalidFd, server.audio, server.listeners, server.consumer, server.recorder, ?_,
      ⟨rfl, rfl⟩, by simp⟩
    rw [if_pos outputFd]
  · rw [if_neg outputFd]
    by_cases noRecorder : (!server.recorder && !env.ok .createRecorder) = true
    · refine ⟨.unknown, server.audio, server.listeners, server.consumer, server.recorder, ?_,
        ⟨rfl, rfl⟩, by simp⟩
      rw [if_pos noRecorder]
    · obtain ⟨ret, audio, listeners, consumer, prepared, same⟩ :=
        prepareRecorder_eq platform env { server with recorder := true }
      rw [if_neg noRecorder, prepared]
      by_cases failed : ret ≠ .ok
      · refine ⟨ret, audio, listeners, consumer, false, ?_, same,
          fun succeeded => absurd succeeded failed⟩
        rw [if_pos failed]
      · refine ⟨ret, audio, listeners, consumer, true, ?_, same, fun _ => rfl⟩
        rw [if_neg failed]

end Recorder

section Start

/-- A started capture has what its teardown looks for: a file has a recorder. -/
def Equipped (server : ScreenCaptureServer) : Prop :=
  server.config.dataType = .originalStream ∨
    (server.config.dataType = .captureFile ∧ server.recorder = true)

theorem onStartScreenCapture_eq (platform : Platform) (env : Env) (server : ScreenCaptureServer) :
    ∃ audio listeners consumer recorder stage, onStartScreenCapture platform env server =
        { server with
          captureState := .starting, audio, listeners, consumer, recorder
          operation := some stage } ∧
      SameCapturers server.audio audio ∧
      (stage = .startAudio ∧ Equipped { server with recorder } ∨ stage = .startFailed) := by
  unfold onStartScreenCapture
  cases dataType : server.config.dataType with
  | originalStream =>
    exact ⟨server.audio, server.listeners, server.consumer, server.recorder, .startAudio, by
      simp [dataType], ⟨rfl, rfl⟩, .inl ⟨rfl, .inl dataType⟩⟩
  | captureFile =>
    obtain ⟨ret, audio, listeners, consumer, recorder, inited, same, ok⟩ :=
      initRecorder_eq platform env { server with captureState := .starting }
    by_cases failed : ret ≠ .ok
    · refine ⟨audio, listeners, consumer, recorder, .startFailed, ?_, same, .inr rfl⟩
      simp [dataType, inited, if_pos failed]
    · refine ⟨audio, listeners, consumer, recorder, .startAudio, ?_, same, .inl ⟨rfl, .inr
        ⟨dataType, ok (not_not.mp failed)⟩⟩⟩
      simp [dataType, inited, if_neg failed]
  | encodedStream | invalid =>
    exact ⟨server.audio, server.listeners, server.consumer, server.recorder, .startFailed, by
      simp [dataType], ⟨rfl, rfl⟩, .inr rfl⟩

theorem prepareStartCapture_eq (platform : Platform) (env : Env) (server : ScreenCaptureServer) :
    ∃ ret config dataMode audio listeners, prepareStartCapture platform env server =
        (ret, { server with config, dataMode, audio, listeners }) ∧
      SameCapturers server.audio audio := by
  unfold prepareStartCapture
  by_cases inCall : (platform.supportCall && !server.config.strategy.keepCaptureDuringCall &&
      env.ok .inCall) = true
  · refine ⟨.unsupportInCall, server.config, server.dataMode, server.audio, server.listeners, ?_,
      ⟨rfl, rfl⟩⟩
    rw [if_pos inCall]
  · rw [if_neg inCall]
    obtain ⟨listeners, registered⟩ := registerListeners_eq platform env
      (if platform.supportCall then [.account, .call] else [.account]) server
    simp only [registered]
    split_ifs
    all_goals exact ⟨_, _, _, _, listeners, rfl, ⟨rfl, rfl⟩⟩

theorem startScreenCaptureInner_cases (platform : Platform) (env : Env)
    (isPrivacyAuthorityEnabled : Bool) (server : ScreenCaptureServer) :
    ∃ config dataMode audio listeners, SameCapturers server.audio audio ∧
      (startScreenCaptureInner platform env isPrivacyAuthorityEnabled server =
          { server with config, dataMode, audio, listeners } ∨
        ∃ isScreenCaptureAuthority, ∃ popup : ScreenCaptureServer,
          popup = { server with
            captureState := .popupWindow, config, dataMode, audio, listeners
            isPrivacyAuthorityEnabled, isScreenCaptureAuthority } ∧
          (startScreenCaptureInner platform env isPrivacyAuthorityEnabled server = popup ∨
            startScreenCaptureInner platform env isPrivacyAuthorityEnabled server =
              { popup with captureState := .stopped } ∨
            startScreenCaptureInner platform env isPrivacyAuthorityEnabled server =
              onStartScreenCapture platform env popup)) := by
  obtain ⟨ret, config, dataMode, audio, listeners, prepared, same⟩ :=
    prepareStartCapture_eq platform env server
  refine ⟨config, dataMode, audio, listeners, same, ?_⟩
  unfold startScreenCaptureInner
  rw [prepared]
  by_cases failed : ret ≠ .ok
  · left
    simp [if_pos failed]
  right
  simp only [if_neg failed]
  refine ⟨env.ok .privacyWindowSkipPermission, _, rfl, ?_⟩
  split
  · split
    · exact .inr (.inl rfl)
    · split
      · exact .inl rfl
      · exact .inr (.inr rfl)
  · exact .inr (.inr rfl)

end Start

section Stop

theorem stopScreenCaptureInner_of_notActive (isFail : Bool)
    (notActive : server.isState .active = false) :
    ∃ surface isSurfaceMode isPrivacyAuthorityEnabled, server.stopScreenCaptureInner isFail =
      { server with
        captureState := .stopped, surface, isSurfaceMode, isPrivacyAuthorityEnabled } := by
  unfold stopScreenCaptureInner
  cases alive : server.isState .alive with
  | true =>
    simp only [notActive, Bool.not_false, Bool.and_self, if_true]
    cases isFail
    · exact ⟨false, false, server.isPrivacyAuthorityEnabled, rfl⟩
    · exact ⟨false, false, false, rfl⟩
  | false =>
    cases isFail
    · exact ⟨server.surface, server.isSurfaceMode, server.isPrivacyAuthorityEnabled, rfl⟩
    · exact ⟨server.surface, false, false, rfl⟩

theorem alive_of_active (active : server.isState .active = true) :
    server.isState .alive = true := by
  revert active
  unfold isState AVScreenCaptureState.isState
  cases server.captureState <;> simp

theorem active_of_running (running : server.isState .running = true) :
    server.isState .active = true := by
  revert running
  unfold isState AVScreenCaptureState.isState
  cases server.captureState <;> simp

theorem inactive_of_init (initial : server.isState .init = true) :
    server.isState .active = false := by
  revert initial
  unfold isState AVScreenCaptureState.isState
  cases server.captureState <;> simp

theorem inactive_of_popup (popup : server.isState .popup = true) :
    server.isState .active = false := by
  revert popup
  unfold isState AVScreenCaptureState.isState
  cases server.captureState <;> simp

theorem active_of_paused (paused : server.captureState = .paused) :
    server.isState .active = true := by
  simp [isState, AVScreenCaptureState.isState, paused]

/-- The teardown of a started capture stops the capturers and drops the screen, and the
recorder of a file. -/
theorem stopScreenCaptureInner_of_active (isFail : Bool)
    (active : server.isState .active = true) (equipped : server.Equipped) :
    ∃ recorder consumer, server.stopScreenCaptureInner isFail =
        { server with
          virtualScreen := false, audio := server.audio.stopAudioCapture, recorder, consumer
          operation := some (.stopCapture isFail) } ∧
      (server.config.dataType = .captureFile → recorder = false) := by
  have alive := alive_of_active active
  unfold stopScreenCaptureInner
  simp only [active, alive, Bool.not_true, Bool.and_false, Bool.false_eq_true, if_false]
  rcases equipped with stream | ⟨file, recorder⟩
  · refine ⟨server.recorder, false, ?_, by simp [stream]⟩
    simp [stream, stopAudioAndVideoCapture]
  · refine ⟨false, server.consumer, ?_, fun _ => rfl⟩
    simp [file, stopScreenCaptureRecorder, recorder]

end Stop

section Choice

theorem reselect_eq (platform : Platform) (env : Env) (server : ScreenCaptureServer) :
    ∃ screen listeners, reselect platform env server =
      { server with virtualScreen := screen, listeners, screenMade := screen } := by
  obtain ⟨kept, unregistered⟩ := unregisterListeners_eq env
    [.winLifecycle, .winInfo, .screenConn, .appLifecycle] server
  obtain ⟨ret, screen, created, -⟩ :=
    createVirtualScreen_eq env { server with listeners := kept }
  unfold reselect
  rw [unregistered, created]
  by_cases failed : ret ≠ .ok
  · refine ⟨screen, kept, ?_⟩
    simp [if_pos failed]
  obtain ⟨listeners, registered⟩ := registerListeners_eq platform env
    (if server.config.captureMode = .captureSpecifiedWindow ∧ env.ok .singleMission = true then
      [.screenConn, .winLifecycle, .winInfo] else [.screenConn])
    { server with virtualScreen := screen, listeners := kept, screenMade := screen }
  refine ⟨screen, listeners, ?_⟩
  simp only [if_neg failed]
  exact registered

theorem onReceiveUserPrivacyAuthority_cases (platform : Platform) (env : Env) (isAllowed : Bool)
    (server : ScreenCaptureServer) :
    (server.isState .popup = false ∧ server.isState .running = false ∧
        onReceiveUserPrivacyAuthority platform env isAllowed server =
          server.stopScreenCaptureInner false) ∨
      (server.isState .popup = true ∧ onReceiveUserPrivacyAuthority platform env isAllowed server =
        { server with captureState := .created }) ∨
      (server.isState .running = true ∧
        onReceiveUserPrivacyAuthority platform env isAllowed server = server) ∨
      (server.isState .popup = true ∧ onReceiveUserPrivacyAuthority platform env isAllowed server =
        onStartScreenCapture platform env server) ∨
      (server.isState .running = true ∧
        onReceiveUserPrivacyAuthority platform env isAllowed server =
          reselect platform env server) := by
  unfold onReceiveUserPrivacyAuthority
  cases popup : server.isState .popup <;> cases running : server.isState .running <;>
    cases isAllowed <;> simp

theorem reportAVScreenCaptureUserChoice_cases (platform : Platform) (env : Env)
    (choice : UserChoice) (server : ScreenCaptureServer) :
    reportAVScreenCaptureUserChoice platform env choice server = server ∨
      (server.isState .running = true ∧
        reportAVScreenCaptureUserChoice platform env choice server =
          server.stopScreenCaptureInner false) ∨
      (¬(server.isState .popup = false ∧ server.isState .running = false) ∧
        reportAVScreenCaptureUserChoice platform env choice server =
          parseAppMissionIds platform env server) ∨
      (¬(server.isState .popup = false ∧ server.isState .running = false) ∧
        ∃ captureMode isAllowed, reportAVScreenCaptureUserChoice platform env choice server =
          onReceiveUserPrivacyAuthority platform env isAllowed
            (server.setCaptureConfig captureMode)) := by
  have picked : handlePickerChoice platform env choice server = server ∨
      handlePickerChoice platform env choice server = parseAppMissionIds platform env server ∨
      ∃ captureMode isAllowed, handlePickerChoice platform env choice server =
        onReceiveUserPrivacyAuthority platform env isAllowed
          (server.setCaptureConfig captureMode) := by
    cases choice with
    | deny => exact .inr (.inr ⟨server.config.captureMode, false, rfl⟩)
    | selectApp => exact .inr (.inl rfl)
    | selectWindow => exact .inr (.inr ⟨.captureSpecifiedWindow, true, rfl⟩)
    | selectDisplay => exact .inr (.inr ⟨.captureSpecifiedScreen, true, rfl⟩)
    | fallback => exact .inr (.inr ⟨server.config.captureMode, true, rfl⟩)
    | stopRecording | other => exact .inl rfl
  unfold reportAVScreenCaptureUserChoice
  cases popup : server.isState .popup with
  | true =>
    rcases picked with same | parsed | received
    · exact .inl same
    · exact .inr (.inr (.inl ⟨by simp, parsed⟩))
    · exact .inr (.inr (.inr ⟨by simp, received⟩))
  | false =>
    simp only [Bool.false_eq_true, if_false]
    split
    · rename_i running
      split
      · exact .inr (.inl ⟨running, rfl⟩)
      · rcases picked with same | parsed | received
        · exact .inl same
        · exact .inr (.inr (.inl ⟨by simp [running], parsed⟩))
        · exact .inr (.inr (.inr ⟨by simp [running], received⟩))
    · exact .inl rfl

end Choice

section Running

theorem postStartScreenCapture_cases (platform : Platform) (env : Env)
    (server : ScreenCaptureServer) :
    ∃ nullDereferenced listeners,
      (server.virtualScreen = true ∨
          (platform.pcStandard && env.ok .screenoffDisableLock) = false →
        nullDereferenced = server.nullDereferenced) ∧
      (postStartScreenCapture platform env server =
          stopScreenCaptureInner false { server with captureState := .started, nullDereferenced } ∨
        postStartScreenCapture platform env server =
          { server with
            captureState := .started, screenMade := server.hasVideo
            nullDereferenced, listeners }) := by
  have locked : ∃ nullDereferenced, (if platform.pcStandard && env.ok .screenoffDisableLock then
        server.derefVirtualScreen else server) = { server with nullDereferenced } ∧
      (server.virtualScreen = true ∨
          (platform.pcStandard && env.ok .screenoffDisableLock) = false →
        nullDereferenced = server.nullDereferenced) := by
    by_cases lock : (platform.pcStandard && env.ok .screenoffDisableLock) = true
    · rw [if_pos lock]
      by_cases screen : server.virtualScreen = true
      · exact ⟨server.nullDereferenced, derefVirtualScreen_of_screen screen, fun _ => rfl⟩
      · obtain ⟨nullDereferenced, dereferenced⟩ := derefVirtualScreen_eq server
        exact ⟨nullDereferenced, dereferenced, by simp [lock, screen]⟩
    · rw [if_neg lock]
      exact ⟨server.nullDereferenced, rfl, fun _ => rfl⟩
  obtain ⟨nullDereferenced, locked, kept⟩ := locked
  obtain ⟨listeners, registered⟩ := registerListeners_eq platform env
    (startedListeners platform env { server with nullDereferenced })
    { server with captureState := .started, screenMade := server.hasVideo, nullDereferenced }
  refine ⟨nullDereferenced, listeners, kept, ?_⟩
  unfold postStartScreenCapture
  rw [locked]
  simp only
  split_ifs
  · exact .inl rfl
  · exact .inl rfl
  · exact .inr registered

theorem startVideo_cases (platform : Platform) (env : Env) (ret : MSErr)
    (server : ScreenCaptureServer) :
    ∃ screen consumer producerSurface,
      startVideo platform env ret server =
          { rollbackStart { server with virtualScreen := screen, consumer, producerSurface } with
            operation := some .startFailed } ∨
        ((server.hasVideo = true → screen = true) ∧
          startVideo platform env ret server = postStartScreenCapture platform env
            { server with virtualScreen := screen, consumer, producerSurface }) := by
  unfold startVideo
  by_cases failed : ret ≠ .ok
  · refine ⟨server.virtualScreen, server.consumer, server.producerSurface, .inl ?_⟩
    simp [if_pos failed]
  obtain ⟨result, screen, consumer, producerSurface, started, ok⟩ :=
    startVideoCapture_eq env server
  refine ⟨screen, consumer, producerSurface, ?_⟩
  simp only [if_neg failed, started]
  by_cases videoFailed : result ≠ .ok
  · left
    simp [if_pos videoFailed]
  · right
    simp only [if_neg videoFailed]
    exact ⟨fun hasVideo => ok hasVideo (not_not.mp videoFailed), trivial⟩

theorem rollbackStart_eq (server : ScreenCaptureServer) :
    ∃ recorder consumer, server.rollbackStart =
      { server with audio := server.audio.stopAudioCapture, recorder, consumer } := by
  unfold rollbackStart
  simp only
  split
  · exact ⟨_, _, rfl⟩
  · exact ⟨server.recorder, server.consumer, rfl⟩

/-- What a stage of an operation leaves. -/
inductive StageEffect (platform : Platform) (env : Env) (server : ScreenCaptureServer) :
    Stage → ScreenCaptureServer → Prop
  | audioStarted : StageEffect platform env server .startAudio (startAudio env server)
  | rolledBack (ret : MSErr) (virtualScreen consumer producerSurface recorder : Bool) :
      StageEffect platform env server (.startVideo ret)
        { server with
          audio := server.audio.stopAudioCapture, virtualScreen, consumer, producerSurface, recorder
          operation := some .startFailed }
  | started (ret : MSErr) {virtualScreen nullDereferenced : Bool}
      (made : server.hasVideo = true → virtualScreen = true)
      (kept : virtualScreen = true ∨
          (platform.pcStandard && env.ok .screenoffDisableLock) = false →
        nullDereferenced = server.nullDereferenced)
      (consumer producerSurface : Bool) (listeners : List ListenerFlag)
      {after : ScreenCaptureServer}
      (outcome : after = stopScreenCaptureInner false
          { server with
            captureState := .started, virtualScreen, consumer, producerSurface,
            nullDereferenced } ∨
        after =
          { server with
            captureState := .started, screenMade := server.hasVideo, virtualScreen, consumer,
            producerSurface, nullDereferenced, listeners }) :
      StageEffect platform env server (.startVideo ret) after
  | startFailed : StageEffect platform env server .startFailed (stopScreenCaptureInner true server)
  | unpaused :
      StageEffect platform env server .pauseRecorder (stopScreenCaptureInner false server)
  | paused : StageEffect platform env server .pauseRecorder { server with captureState := .paused }
  | unresumed (ret : MSErr) :
      StageEffect platform env server (.resumeSynced ret) (stopScreenCaptureInner false server)
  | resumed (ret : MSErr) :
      StageEffect platform env server (.resumeSynced ret)
        { server with captureState := .resumed, screenMade := true }
  | captureStopped (isFail : Bool) :
      StageEffect platform env server (.stopCapture isFail)
        (postStopScreenCapture env isFail server)

theorem stageEffect (platform : Platform) (env : Env) (stage : Stage)
    (server : ScreenCaptureServer) :
    StageEffect platform env server stage (handleStage platform env stage server) := by
  cases stage with
  | startAudio => exact .audioStarted
  | startVideo ret =>
    obtain ⟨screen, consumer, producerSurface, rolledBack | ⟨made, started⟩⟩ :=
      startVideo_cases platform env ret server
    · obtain ⟨recorder, kept, rollback⟩ := rollbackStart_eq
        { server with virtualScreen := screen, consumer, producerSurface }
      rw [handleStage, rolledBack, rollback]
      exact .rolledBack ret screen kept producerSurface recorder
    · obtain ⟨nullDereferenced, listeners, kept, outcome⟩ :=
        postStartScreenCapture_cases platform env
          { server with virtualScreen := screen, consumer, producerSurface }
      rw [handleStage, started]
      exact .started ret made kept consumer producerSurface listeners outcome
  | startFailed => exact .startFailed
  | pauseRecorder =>
    rw [handleStage, pauseRecorder]
    split
    · exact .unpaused
    · exact .paused
  | resumeSynced ret =>
    rw [handleStage, resumeSynced]
    split
    · exact .unresumed ret
    · exact .resumed ret
  | stopCapture isFail => exact .captureStopped isFail

theorem resumeScreenCaptureInner_cases (platform : Platform) (env : Env)
    (server : ScreenCaptureServer) :
    resumeScreenCaptureInner platform env server = server ∨
      (server.captureState = .paused ∧
        ((∃ screen, resumeScreenCaptureInner platform env server =
            stopScreenCaptureInner false { server with virtualScreen := screen }) ∨
          ∃ audio ret, resumeScreenCaptureInner platform env server =
            { server with
              virtualScreen := true, audio, operation := some (.resumeSynced ret) })) := by
  unfold resumeScreenCaptureInner
  by_cases refused : (!server.isState .paused || !server.config.strategy.enablePause) = true
  · exact .inl (if_pos refused)
  have paused : server.captureState = .paused := by
    revert refused
    unfold isState AVScreenCaptureState.isState
    cases server.captureState <;> simp
  rw [if_neg refused]
  refine .inr ⟨paused, ?_⟩
  split
  · exact .inl ⟨server.virtualScreen, rfl⟩
  split
  · exact .inl ⟨server.virtualScreen, rfl⟩
  obtain ⟨ret, screen, created, ok⟩ := createVirtualScreen_eq env server
  rw [created]
  by_cases failed : ret ≠ .ok
  · refine .inl ⟨screen, ?_⟩
    simp [if_pos failed]
  · refine .inr ⟨(server.audio.syncAudioCaptures server.config env.startResults true).2,
      (server.audio.syncAudioCaptures server.config env.startResults true).1, ?_⟩
    simp [if_neg failed, ok (not_not.mp failed)]

end Running

section Effect

structure StartRequest where
  isPrivacyAuthorityEnabled : Bool
  surface : Bool
  isSurfaceMode : Bool
deriving DecidableEq

/-- The event gets past the checks of `StartScreenCapture` or
`StartScreenCaptureWithSurface`. -/
def startsFrom (event : ServerEvent) (server : ScreenCaptureServer) : Option StartRequest :=
  match event with
  | .call (.startScreenCapture isPrivacyAuthorityEnabled) =>
    if server.isState .init then
      some { isPrivacyAuthorityEnabled, surface := server.surface, isSurfaceMode := false }
    else none
  | .call (.startScreenCaptureWithSurface surface isPrivacyAuthorityEnabled) =>
    if server.isState .init && surface then
      some { isPrivacyAuthorityEnabled, surface := true, isSurfaceMode := true }
    else none
  | _ => none

/-- A task of an app selection finds no batch of lifecycle events since the last one. -/
def timeoutActs (server : ScreenCaptureServer) : Bool :=
  decide (0 < server.appSelectionTimeouts) && !server.isGetAppMissionId

/-- The event runs `StopScreenCaptureInner` whatever the environment answers. -/
def stopsCapture (platform : Platform) (event : ServerEvent) (server : ScreenCaptureServer) :
    Bool :=
  match event with
  | .call .stopScreenCapture | .call .release | .task .accountSwitched | .task .stopAndRelease =>
    server.isState .alive
  | .task (.callStateChanged isInCall) =>
    platform.supportCall && !server.config.strategy.keepCaptureDuringCall && isInCall &&
      !server.isState .paused && server.isState .alive
  | .task .finishPrepareSelectWindow => !server.isState .popup && !server.isState .running
  | .appSelectionTimeout => server.timeoutActs
  | _ => false

/-- The event passes the check of the state and dereferences `virtualScreen_`. -/
def usesScreen (event : ServerEvent) (server : ScreenCaptureServer) : Bool :=
  match event with
  | .call .excludeContent | .call .addWhiteListWindows | .call .removeWhiteListWindows
  | .task .appInstanceAdded => server.isState .active
  | .call (.updateSurface surface) =>
    server.isSurfaceMode && server.isState .running && surface
  | _ => false

/-- What a call or a task does to a server with no operation in progress. -/
inductive Effect (platform : Platform) (env : Env) (server : ScreenCaptureServer)
    (event : ServerEvent) : ScreenCaptureServer → Prop
  | refused : Effect platform env server event server
  | configured (config : AVScreenCaptureConfig) (recorder : Bool)
      (created : server.captureState = .created) :
      Effect platform env server event { server with config, recorder }
  | switchStored (isMicrophoneSwitchTurnOn : Bool) :
      Effect platform env server event
        { server with audio := { server.audio with isMicrophoneSwitchTurnOn } }
  | switched (isMicrophone isInCall : Bool) (running : server.isState .running = true) :
      Effect platform env server event
        { server with
          audio := (server.audio.setMicrophoneEnabled server.config env.startResults isMicrophone
            isInCall).2 }
  | started (isPrivacyAuthorityEnabled surface isSurfaceMode : Bool)
      (call : startsFrom event server =
        some { isPrivacyAuthorityEnabled, surface, isSurfaceMode })
      (initial : server.isState .init = true) :
      Effect platform env server event
        (startScreenCaptureInner platform env isPrivacyAuthorityEnabled
          { server with surface, isSurfaceMode })
  | parsed (shown : ¬(server.isState .popup = false ∧ server.isState .running = false)) :
      Effect platform env server event (parseAppMissionIds platform env server)
  | cancelled (captureMode : CaptureMode) (popup : server.isState .popup = true) :
      Effect platform env server event
        { server.setCaptureConfig captureMode with captureState := .created }
  | chosen (captureMode : CaptureMode) (running : server.isState .running = true) :
      Effect platform env server event (server.setCaptureConfig captureMode)
  | accepted (captureMode : CaptureMode) (popup : server.isState .popup = true) :
      Effect platform env server event
        (onStartScreenCapture platform env (server.setCaptureConfig captureMode))
  | reselected (captureMode : CaptureMode) (running : server.isState .running = true) :
      Effect platform env server event
        (reselect platform env (server.setCaptureConfig captureMode))
  | paused (running : server.isState .running = true) :
      Effect platform env server event
        { server with
          virtualScreen := false
          audio := server.audio.stopAudioCapture
          operation := some .pauseRecorder }
  | resumeFailed (screen : Bool) (paused : server.captureState = .paused) :
      Effect platform env server event
        (stopScreenCaptureInner false { server with virtualScreen := screen })
  | resumed (audio : AudioCaptures) (ret : MSErr) (paused : server.captureState = .paused) :
      Effect platform env server event
        { server with virtualScreen := true, audio, operation := some (.resumeSynced ret) }
  | stopped (isFail : Bool) (appSelectionTimeouts : Nat)
      (stops : server.isState .active = true ∨ stopsCapture platform event server = true) :
      Effect platform env server event
        (stopScreenCaptureInner isFail { server with appSelectionTimeouts })
  | usedScreen (surface nullDereferenced : Bool) (uses : usesScreen event server = true)
      (kept : server.virtualScreen = true → nullDereferenced = server.nullDereferenced) :
      Effect platform env server event { server with surface, nullDereferenced }
  | callChanged (isInCall : Bool) (changed : event = .task (.callStateChanged isInCall))
      (supported : platform.supportCall = true) (active : server.isState .active = true) :
      Effect platform env server event
        { server with
          audio := (server.audio.callStateUpdate server.config env.startResults isInCall).2 }

variable {event : ServerEvent}

theorem effect_onReceive (captureMode : CaptureMode) (isAllowed : Bool)
    (stops : server.isState .popup = false → server.isState .running = false →
      stopsCapture platform event server = true ∧ captureMode = server.config.captureMode) :
    Effect platform env server event (onReceiveUserPrivacyAuthority platform env isAllowed
      (server.setCaptureConfig captureMode)) := by
  rcases onReceiveUserPrivacyAuthority_cases platform env isAllowed
      (server.setCaptureConfig captureMode) with
    ⟨hidden, resting, stopped⟩ | ⟨popup, cancelled⟩ | ⟨running, same⟩ | ⟨popup, accepted⟩ |
    ⟨running, reselected⟩
  · obtain ⟨stopsNow, rfl⟩ := stops hidden resting
    rw [stopped]
    exact .stopped false server.appSelectionTimeouts (.inr stopsNow)
  · rw [cancelled]
    exact .cancelled captureMode popup
  · rw [same]
    exact .chosen captureMode running
  · rw [accepted]
    exact .accepted captureMode popup
  · rw [reselected]
    exact .reselected captureMode running

theorem effect_choice (choice : UserChoice) :
    Effect platform env server event
      (reportAVScreenCaptureUserChoice platform env choice server) := by
  rcases reportAVScreenCaptureUserChoice_cases platform env choice server with
    same | ⟨running, stopped⟩ | ⟨shown, parsed⟩ | ⟨shown, captureMode, isAllowed, received⟩
  · rw [same]
    exact .refused
  · have active : server.isState .active = true := active_of_running running
    rw [stopped]
    exact .stopped false server.appSelectionTimeouts (.inl active)
  · rw [parsed]
    exact .parsed shown
  · rw [received]
    apply effect_onReceive captureMode isAllowed
    intro hidden resting
    exact absurd ⟨hidden, resting⟩ shown

theorem effect_stopByEvent (stops : server.isState .alive = true →
      stopsCapture platform event server = true) :
    Effect platform env server event server.stopScreenCaptureByEvent := by
  unfold stopScreenCaptureByEvent
  split
  · rename_i alive
    exact .stopped false server.appSelectionTimeouts (.inr (stops alive))
  · exact .refused

theorem effect_deref (surface : Bool) (uses : usesScreen event server = true) :
    Effect platform env server event { server.derefVirtualScreen with surface } := by
  by_cases screen : server.virtualScreen = true
  · rw [derefVirtualScreen_of_screen screen]
    exact .usedScreen surface server.nullDereferenced uses (fun _ => rfl)
  · obtain ⟨nullDereferenced, dereferenced⟩ := derefVirtualScreen_eq server
    rw [dereferenced]
    exact .usedScreen surface nullDereferenced uses (fun present => absurd present screen)

theorem effect_changeWhiteList (uses : server.isState .active = true →
      usesScreen event server = true) :
    Effect platform env server event server.changeWhiteListWindows := by
  unfold changeWhiteListWindows
  split
  · exact .refused
  rename_i active
  simp only [Bool.not_eq_true, Bool.not_eq_false'] at active
  have used : Effect platform env server event
      { server.derefVirtualScreen with surface := server.derefVirtualScreen.surface } :=
    effect_deref server.derefVirtualScreen.surface (uses active)
  exact used

theorem effect_handleCall (call : ClientCall) :
    Effect platform env server (.call call) (handleCall platform env call server) := by
  cases call with
  | configure config =>
    simp only [handleCall, configure]
    split
    · rename_i created
      apply Effect.configured config server.recorder
      revert created
      unfold isState AVScreenCaptureState.isState
      cases server.captureState <;> simp
    · exact .refused
  | setMicrophoneEnabled isMicrophone =>
    simp only [handleCall, setMicrophoneEnabled]
    split
    · exact .switchStored isMicrophone
    · rename_i running
      exact .switched isMicrophone _ (by simpa using running)
  | addWatermark =>
    simp only [handleCall, addWatermark]
    split
    · exact .refused
    · rename_i fresh
      simp only [ne_eq, not_or, not_not] at fresh
      exact .configured server.config _ fresh.1
  | startScreenCapture isPrivacyAuthorityEnabled =>
    simp only [handleCall, startScreenCapture]
    split
    · exact .refused
    · rename_i initial
      simp only [Bool.not_eq_true, Bool.not_eq_false'] at initial
      exact .started isPrivacyAuthorityEnabled server.surface false
        (by simp [startsFrom, initial]) initial
  | startScreenCaptureWithSurface surface isPrivacyAuthorityEnabled =>
    simp only [handleCall, startScreenCaptureWithSurface]
    split
    · exact .refused
    · rename_i initial
      simp only [Bool.or_eq_true, not_or, Bool.not_eq_true, Bool.not_eq_false'] at initial
      exact .started isPrivacyAuthorityEnabled true true
        (by simp [startsFrom, initial.1, initial.2]) initial.1
  | reportUserChoice choice => exact effect_choice choice
  | pauseScreenCapture =>
    simp only [handleCall, pauseScreenCaptureInner]
    split
    · exact .refused
    · rename_i running
      simp only [Bool.or_eq_true, not_or, Bool.not_eq_true, Bool.not_eq_false'] at running
      exact .paused running.1
  | resumeScreenCapture =>
    rcases resumeScreenCaptureInner_cases platform env server with
      same | ⟨paused, ⟨screen, stopped⟩ | ⟨audio, ret, synced⟩⟩
    · simp only [handleCall, same]
      exact .refused
    · simp only [handleCall, stopped]
      exact .resumeFailed screen paused
    · simp only [handleCall, synced]
      exact .resumed audio ret paused
  | stopScreenCapture | release => exact effect_stopByEvent id
  | excludeContent =>
    simp only [handleCall, excludeContent]
    split
    · exact .refused
    split
    · rename_i active
      have used : Effect platform env server (.call .excludeContent)
          { server.derefVirtualScreen with surface := server.derefVirtualScreen.surface } :=
        effect_deref server.derefVirtualScreen.surface active
      exact used
    · exact .refused
  | addWhiteListWindows | removeWhiteListWindows => exact effect_changeWhiteList id
  | updateSurface surface =>
    simp only [handleCall, updateSurface]
    split
    · exact .refused
    · rename_i accepted
      apply effect_deref
      simp only [Bool.or_eq_true, not_or, Bool.not_eq_true, Bool.not_eq_false'] at accepted
      simp [usesScreen, accepted.1.1, accepted.1.2, accepted.2]

theorem effect_handleTask (task : ServerTask) :
    Effect platform env server (.task task) (handleTask platform env task server) := by
  cases task with
  | callStateChanged isInCall =>
    simp only [handleTask, onCallStateChanged]
    split
    · exact .refused
    rename_i supported
    split
    · rename_i ends
      apply effect_stopByEvent
      intro alive
      simp only [Bool.and_eq_true, Bool.not_eq_true, Bool.not_eq_false'] at supported ends
      simp [stopsCapture, supported, ends, alive]
    · split
      · exact .refused
      · rename_i active
        simp only [Bool.not_eq_true, Bool.not_eq_false'] at supported active
        exact .callChanged isInCall rfl supported active
  | accountSwitched | stopAndRelease => exact effect_stopByEvent id
  | finishPrepareSelectWindow =>
    apply effect_onReceive server.config.captureMode true
    intro hidden resting
    simp [stopsCapture, hidden, resting]
  | appInstanceAdded => exact effect_changeWhiteList id

theorem appSelectionTimeout_cases (server : ScreenCaptureServer) :
    (server.timeoutActs = false ∧ server.appSelectionTimeout =
      { server with appSelectionTimeouts := server.appSelectionTimeouts - 1 }) ∨
    (server.timeoutActs = true ∧ server.appSelectionTimeout = stopScreenCaptureInner true
      { server with appSelectionTimeouts := server.appSelectionTimeouts - 1 }) := by
  unfold appSelectionTimeout timeoutActs
  split
  · rename_i unarmed
    have same : { server with appSelectionTimeouts := server.appSelectionTimeouts - 1 } =
        server := by
      have unchanged : server.appSelectionTimeouts - 1 = server.appSelectionTimeouts := by
        omega
      rw [unchanged]
    exact .inl ⟨by simp [unarmed], same.symm⟩
  · rename_i armed
    cases answered : server.isGetAppMissionId with
    | true => exact .inl ⟨by simp, by simp⟩
    | false => exact .inr ⟨by simpa using Nat.pos_of_ne_zero armed, by simp; rfl⟩

theorem operation_stopScreenCaptureInner (isFail : Bool) (server : ScreenCaptureServer) :
    (server.stopScreenCaptureInner isFail).operation = server.operation ∨
      (server.stopScreenCaptureInner isFail).operation = some (.stopCapture isFail) := by
  unfold stopScreenCaptureInner
  split
  · cases isFail <;> exact .inl rfl
  split
  · cases isFail <;> exact .inl rfl
  · split
    · exact .inr rfl
    · exact .inr rfl
    · cases isFail <;> exact .inl rfl

end Effect

end ScreenCaptureServer

namespace CaptureThreads

open ScreenCaptureServer

variable {platform : Platform} {env : Env} {event : ServerEvent} {state : CaptureThreads}

/-- The server as if the teardown of a time-out were an operation. -/
def locked (state : CaptureThreads) : ScreenCaptureServer :=
  if state.task = .startFail then { state.server with operation := some (.stopCapture true) }
  else state.server

/-- The step leaves a time-out that acts alone with the server: it finds no operation in
progress, and no call comes before its teardown has ended. -/
def TimesOutAlone (state : CaptureThreads) (event : ServerEvent) : Prop :=
  match event with
  | .call _ => state.task ≠ .startFail
  | .appSelectionTimeout => state.task = .idle → state.server.timeoutActs = true →
      state.server.operation = none
  | _ => True

instance (state : CaptureThreads) (event : ServerEvent) : Decidable (TimesOutAlone state event) :=
  match event with
  | .call _ => inferInstanceAs (Decidable (_ ≠ _))
  | .appSelectionTimeout => inferInstanceAs (Decidable (_ → _ → _))
  | .task _ | .batchLifecycle | .rendererState _ | .rendererSync | .timeoutProceed | .proceed =>
    .isTrue trivial

def Sole (state : CaptureThreads) : Prop :=
  state.task = .startFail → state.server.operation = none

theorem locked_of_task (other : state.task ≠ .startFail) : state.locked = state.server :=
  if_neg other

theorem locked_with (server : ScreenCaptureServer) (other : state.task ≠ .startFail) :
    { state with server }.locked = server :=
  if_neg other

/-- The teardown of a time-out that found no operation in progress, seen as one. -/
theorem locked_failed {failed : ScreenCaptureServer}
    (ended : failed.operation = none ∨ failed.operation = some (.stopCapture true)) :
    CaptureThreads.locked
      { server := { failed with operation := none }
        task := if failed.operation.isSome then .startFail else .idle } = failed := by
  rcases ended with stays | stopping
  · have same : { failed with operation := none } = failed := by
      rw [← stays]
    rw [same, stays]
    rfl
  · have same : { failed with operation := some (.stopCapture true) } = failed := by
      rw [← stopping]
    rw [stopping]
    exact same

theorem taskAfter_ne (server : ScreenCaptureServer) : taskAfter server ≠ .startFail := by
  unfold taskAfter
  split <;> simp

theorem locked_after (server : ScreenCaptureServer) :
    CaptureThreads.locked { server, task := taskAfter server } = server :=
  locked_of_task (taskAfter_ne server)

/-- A time-out that acts has no operation beside it, one that does not only loses its place
in the queue. -/
theorem appSelectionTimeout_eq (alone : state.server.timeoutActs = true →
      state.server.operation = none) (idle : state.task = .idle) :
    (state.appSelectionTimeout = { state with
      server := { state.server with
        appSelectionTimeouts := state.server.appSelectionTimeouts - 1 } }) ∨
    (state.server.timeoutActs = true ∧ state.server.operation = none ∧
      state.appSelectionTimeout.server.operation = none ∧
      state.appSelectionTimeout.locked = stopScreenCaptureInner true
        { state.server with appSelectionTimeouts := state.server.appSelectionTimeouts - 1 }) := by
  rcases appSelectionTimeout_cases { state.server with operation := none } with
    ⟨-, answered⟩ | ⟨acts, failed⟩
  · left
    unfold appSelectionTimeout
    rw [answered]
    simp [idle]
  · right
    have free : state.server.operation = none := alone acts
    refine ⟨acts, free, free, ?_⟩
    have same : { state.server with operation := none } = state.server := by
      rw [← free]
    have ended := operation_stopScreenCaptureInner true
      { state.server with appSelectionTimeouts := state.server.appSelectionTimeouts - 1 }
    rw [same] at failed
    rw [← failed] at ended ⊢
    unfold appSelectionTimeout
    rw [same, free]
    exact locked_failed (ended.imp_left (·.trans free))

theorem sole_next (platform : Platform) (state : CaptureThreads) (input : ServerEvent × Env)
    (sole : Sole state) (alone : TimesOutAlone state input.1) :
    Sole (next platform state input) := by
  obtain ⟨event, env⟩ := input
  unfold next
  split
  · rename_i taken
    cases event with
    | call call => exact fun failing => absurd failing alone
    | task task => exact fun failing => absurd failing (taskAfter_ne _)
    | batchLifecycle => exact fun failing => by simp [handle] at failing
    | rendererState newState =>
      simp only [handle]
      split
      · exact fun failing => by simp at failing
      · exact sole
    | rendererSync => exact fun failing => by simp [handle] at failing
    | appSelectionTimeout =>
      have idle : state.task = .idle := by simpa [takesUp] using taken
      rcases appSelectionTimeout_eq (alone idle) idle with answered | ⟨-, -, ended, -⟩
      · intro failing
        simp [handle, answered, idle] at failing
      · exact fun _ => ended
    | timeoutProceed => exact fun failing => by simp [handle] at failing
    | proceed =>
      simp only [handle, CaptureThreads.proceed]
      split
      · exact sole
      rename_i stage operation
      intro failing
      split at failing
      · exact absurd failing (taskAfter_ne _)
      · exact absurd (sole failing) (by simp [operation])
  · exact sole

/-- The inversion of a step of the server that time-outs have to themselves. -/
theorem next_cases {holds : ScreenCaptureServer → Prop} (sole : Sole state)
    (alone : TimesOutAlone state event)
    (selections : ∀ isGetAppMissionId appSelectionTimeouts,
      holds { state.locked with isGetAppMissionId, appSelectionTimeouts })
    (effect : ∀ after, state.takesUp event = true → state.locked.operation = none →
      Effect platform env state.locked event after → holds after)
    (rendererState : ∀ newState, holds (state.locked.audioRendererStateStore newState))
    (rendererSync : event = .rendererSync → state.task = .rendererSync →
      holds (audioRendererStateSync env state.locked))
    (proceed : ∀ stage, event = .proceed ∨ event = .timeoutProceed ∧ state.task = .startFail →
      state.locked.operation = some stage →
      holds (handleStage platform env stage { state.locked with operation := none })) :
    holds (next platform state (event, env)).locked := by
  have refused : holds state.locked :=
    selections state.locked.isGetAppMissionId state.locked.appSelectionTimeouts
  unfold next
  split
  · rename_i taken
    cases event with
    | call call =>
      have same : state.locked = state.server := locked_of_task alone
      have free : state.server.operation = none := by simpa [takesUp] using taken
      rw [same] at effect
      simp only [handle]
      rw [locked_with _ alone]
      exact effect _ taken free (effect_handleCall call)
    | task task =>
      simp only [takesUp, Bool.and_eq_true, Option.isNone_iff_eq_none, beq_iff_eq] at taken
      have other : state.task ≠ .startFail := by
        rw [taken.2]
        cases task <;> simp [taskBefore]
      have same : state.locked = state.server := locked_of_task other
      rw [same] at effect
      simp only [handle, locked_after]
      exact effect _ (by simp [takesUp, taken]) taken.1 (effect_handleTask task)
    | batchLifecycle =>
      have idle : state.task = .idle := by simpa [takesUp] using taken
      have same : state.locked = state.server := locked_of_task (by simp [idle])
      rw [same] at selections
      exact selections true state.server.appSelectionTimeouts
    | rendererState newState =>
      have idle : state.task = .idle := by simpa [takesUp] using taken
      have same : state.locked = state.server := locked_of_task (by simp [idle])
      simp only [handle]
      split
      · rw [same] at rendererState
        exact rendererState newState
      · exact refused
    | rendererSync =>
      have pending : state.task = .rendererSync := by simpa [takesUp] using taken
      have same : state.locked = state.server := locked_of_task (by simp [pending])
      rw [same] at rendererSync
      exact rendererSync rfl pending
    | appSelectionTimeout =>
      have idle : state.task = .idle := by simpa [takesUp] using taken
      have same : state.locked = state.server := locked_of_task (by simp [idle])
      rcases appSelectionTimeout_eq (alone idle) idle with
        answered | ⟨acts, free, -, failed⟩
      · simp only [handle, answered]
        rw [locked_with _ (by simp [idle])]
        rw [same] at selections
        exact selections state.server.isGetAppMissionId _
      · rw [same] at effect
        simp only [handle, failed]
        exact effect _ taken free (.stopped true _ (.inr acts))
    | timeoutProceed =>
      have failing : state.task = .startFail := by simpa [takesUp] using taken
      have stopping : state.locked =
          { state.server with operation := some (.stopCapture true) } := if_pos failing
      have last := proceed (.stopCapture true) (.inr ⟨rfl, failing⟩) (by rw [stopping])
      rw [stopping] at last
      have same : { state.server with operation := none } = state.server := by
        rw [← sole failing]
      simp only [same] at last
      exact last
    | proceed =>
      have other : state.task ≠ .startFail := by
        intro failing
        simp [takesUp, sole failing] at taken
      have same : state.locked = state.server := locked_of_task other
      simp only [handle, CaptureThreads.proceed]
      split
      · exact refused
      rename_i stage operation
      rw [same] at proceed
      have stepped := proceed stage (.inl rfl) operation
      split
      · rw [locked_after]
        exact stepped
      · rw [locked_with _ other]
        exact stepped
  · exact refused

end CaptureThreads

end PlayerFramework.ScreenCapture
