import PlayerFramework.Player.Server
import PlayerFramework.Player.TaskMgrEffect

/-!
What a public operation can do, said once: to the task manager, and to the rest
of the server.
-/

namespace PlayerFramework.Player

@[simp] def Launch.job : Launch → Job
  | .launchTask job _ _ => job
  | .speedTask job _ _ _ => job
  | .seekTask job _ _ _ _ => job
  | .freezeTask job _ _ => job
  | .unFreezeTask job _ _ => job
  | .seekContinousTask job _ => job
  | .setVideoSurfaeTask job _ => job

@[simp] def Launch.cancel : Launch → Option Job
  | .speedTask _ cancel _ _ => some cancel
  | .seekTask _ cancel _ _ _ => some cancel
  | .freezeTask _ cancel _ => some cancel
  | .unFreezeTask _ cancel _ => some cancel
  | _ => none

/-- Neither of the two handlers that only `stepClient` launches. -/
def Job.Ordinary (job : Job) : Prop :=
  job ≠ .stop ∧ job ≠ .reset

instance (job : Job) : Decidable job.Ordinary :=
  inferInstanceAs (Decidable (_ ∧ _))

def Launch.Ordinary (call : Launch) : Prop :=
  call.job.Ordinary ∧ ∀ cancel, call.cancel = some cancel → cancel.Ordinary

namespace PlayerServer

open PlayerServerTaskMgr

theorem launch_effect (server : PlayerServer) (call : Launch) :
    LaunchEffect server.taskMgr (server.launch call).taskMgr (some ⟨server.nextTask, call.job⟩)
      (call.cancel.map fun cancel => ⟨server.nextTask + 1, cancel⟩) := by
  have effect := call_effect server.taskMgr (server.launchCall call)
  cases call <;> exact effect trivial

/-- What an operation or a launch does to the task manager, the fresh handlers
and the history. -/
inductive TaskEffect (server next : PlayerServer) : Prop where
  | kept (taskMgr : next.taskMgr = server.taskMgr) (nextTask : next.nextTask = server.nextTask)
      (history : next.history = server.history)
  | launched (call : Launch)
      (effect : LaunchEffect server.taskMgr next.taskMgr (some ⟨server.nextTask, call.job⟩)
        (call.cancel.map fun cancel => ⟨server.nextTask + 1, cancel⟩))
      (ordinary : call.Ordinary) (nextTask : next.nextTask = server.nextTask + 2)
      (history : next.history = server.history)
  | cleared (taskMgr : next.taskMgr = server.taskMgr.clearAllTask)
      (nextTask : next.nextTask = server.nextTask) (history : next.history = server.clear.history)
      (status : server.lastOpStatus ≠ .idle)
  | inited (taskMgr : next.taskMgr = server.taskMgr.init.2)
      (nextTask : next.nextTask = server.nextTask) (history : next.history = server.history)
      (status : server.lastOpStatus = .idle)

/-- What an operation leaves alone: the handler on the thread and the engine's
requests.  Only a `SetSource` of an idle player changes the state. -/
structure OpFrame (server next : PlayerServer) : Prop where
  running : next.running = server.running
  outstanding : next.outstanding = server.outstanding
  moves : (next.currState = server.currState ∧
      (server.lastOpStatus = .idle ↔ next.lastOpStatus = .idle)) ∨
    (server.lastOpStatus = .idle ∧ next.taskMgr.isInited = true ∧
      next.currState = .initializedState ∧ next.lastOpStatus = .initialized)
  phase : next.phase = .free ∨ (server.lastOpStatus ≠ .idle ∧
    ((∃ resetting, next.phase = .stopLaunch resetting) ∨ next.phase = .resetLaunch) ∧
      next.taskMgr = server.taskMgr.clearAllTask)

/-- A launch after a change of status or data, which the task manager does not see. -/
theorem TaskEffect.launch {server next : PlayerServer} (changed : PlayerServer) (call : Launch)
    (ordinary : call.Ordinary) (taskMgr : changed.taskMgr = server.taskMgr)
    (nextTask : changed.nextTask = server.nextTask) (history : changed.history = server.history)
    (launched : next.taskMgr = (changed.launch call).taskMgr)
    (count : next.nextTask = changed.nextTask + 2) (past : next.history = changed.history) :
    TaskEffect server next := by
  have effect := changed.launch_effect call
  rw [taskMgr, nextTask, ← launched] at effect
  exact .launched call effect ordinary (by rw [count, nextTask]) (past.trans history)

theorem onStop_taskEffect (server : PlayerServer) (sync : Bool)
    (status : server.lastOpStatus ≠ .idle) : TaskEffect server (server.onStop sync) :=
  .cleared rfl rfl rfl status

theorem onReset_taskEffect (server : PlayerServer) (status : server.lastOpStatus ≠ .idle) :
    TaskEffect server server.onReset := by
  unfold onReset
  split
  · exact onStop_taskEffect server true status
  · split <;> exact .cleared rfl rfl rfl status

theorem ne_idle_of_isPreparedStatus {status : PlayerStates}
    (prepared : isPreparedStatus status = true) : status ≠ .idle := by
  rintro rfl
  cases prepared

theorem exitSeekContinousAsync_taskEffect (server : PlayerServer) :
    TaskEffect server server.exitSeekContinousAsync := by
  unfold exitSeekContinousAsync
  split
  · exact .launch (server.changeData _)
      (.seekContinousTask .exitSeekContinous "exit seek continous")
      (by simp [Launch.Ordinary, Job.Ordinary]) rfl rfl rfl rfl rfl rfl
  · exact .kept rfl rfl rfl

theorem seekContinous_taskEffect (server : PlayerServer) (mSeconds : Int64) :
    TaskEffect server (server.seekContinous mSeconds) := by
  unfold seekContinous
  split
  · exact exitSeekContinousAsync_taskEffect server
  · exact .launch (server.changeData _) (.seekContinousTask .seekContinous "seek continous")
      (by simp [Launch.Ordinary, Job.Ordinary]) rfl rfl rfl rfl rfl rfl

theorem launchIf_taskEffect (server : PlayerServer) (allowed : Prop) [Decidable allowed]
    (call : Launch) (ordinary : call.Ordinary) :
    TaskEffect server (server.launchIf allowed call) := by
  unfold launchIf
  split
  · exact .launch server call ordinary rfl rfl rfl rfl rfl rfl
  · exact .kept rfl rfl rfl

theorem operate_taskEffect (server : PlayerServer) (op : PlayerOp) :
    TaskEffect server (server.operate op) := by
  cases op with
  | setSource created =>
    simp only [operate, initPlayEngine]
    split
    · exact .kept rfl rfl rfl
    · rename_i idle
      rw [not_not] at idle
      split <;> exact .inited rfl rfl rfl idle
  | setPlayerCallback =>
    simp only [operate, setPlayerCallback]
    split <;> exact .kept rfl rfl rfl
  | prepare =>
    simp only [operate, prepare]
    split
    · exact .launch ((server.setStatus .prepared).changeData _)
        (.launchTask .prepare .stateChange "prepare")
        (by simp [Launch.Ordinary, Job.Ordinary]) rfl rfl rfl rfl rfl rfl
    · exact .kept rfl rfl rfl
  | play replayable =>
    simp only [operate, play]
    split
    · split
      · exact .kept rfl rfl rfl
      · exact .launch server (.launchTask .play .stateChange "play")
          (by simp [Launch.Ordinary, Job.Ordinary]) rfl rfl rfl rfl rfl rfl
    · split
      · exact exitSeekContinousAsync_taskEffect server
      · exact .kept rfl rfl rfl
  | pause =>
    simp only [operate, pause]
    split
    · exact .launch server (.launchTask (.pause false) .stateChange "pause")
        (by simp [Launch.Ordinary, Job.Ordinary]) rfl rfl rfl rfl rfl rfl
    · exact .kept rfl rfl rfl
  | stop =>
    simp only [operate, stop]
    split
    · rename_i prepared
      exact onStop_taskEffect server false (ne_idle_of_isPreparedStatus prepared)
    · exact .kept rfl rfl rfl
  | reset =>
    simp only [operate, reset]
    split
    · exact .kept rfl rfl rfl
    · rename_i status
      exact onReset_taskEffect server status
  | release =>
    simp only [operate, release, reset]
    split
    · exact .kept rfl rfl rfl
    rename_i status
    cases onReset_taskEffect (server.changeData fun data => { data with playerCb := false })
      status with
    | kept taskMgr nextTask history => exact .kept taskMgr nextTask history
    | launched call effect ordinary nextTask history =>
      exact .launched call effect ordinary nextTask history
    | cleared taskMgr nextTask history => exact .cleared taskMgr nextTask history status
    | inited taskMgr nextTask history status => exact .inited taskMgr nextTask history status
  | seek mSeconds mode =>
    simp only [operate, seek]
    split
    · exact .kept rfl rfl rfl
    · split
      · exact seekContinous_taskEffect server mSeconds
      · exact .launch server (.seekTask (.seek _ mode) .seekCancel "seek" mode _)
          (by simp [Launch.Ordinary, Job.Ordinary]) rfl rfl rfl rfl rfl rfl
  | setPlaybackSpeed | setPlaybackRate | setPlayRangeWithMode
  | setVolume | setVideoSurface | setVideoOutput | selectTrack | deselectTrack | setMediaMuted =>
    exact launchIf_taskEffect server _ _ (by simp [Launch.Ordinary, Job.Ordinary])
  | freeze =>
    simp only [operate, freeze]
    split
    · exact .kept rfl rfl rfl
    · exact .launch server (.freezeTask .freeze .freezeCancel "Freeze")
        (by simp [Launch.Ordinary, Job.Ordinary]) rfl rfl rfl rfl rfl rfl
  | unFreeze =>
    simp only [operate, unFreeze]
    split
    · exact .kept rfl rfl rfl
    · exact .launch server (.unFreezeTask .unFreeze .unFreezeCancel "UnFreeze")
        (by simp [Launch.Ordinary, Job.Ordinary]) rfl rfl rfl rfl rfl rfl
  | forceLoadVideo =>
    exact .launch server (.launchTask .forceLoadVideo .lightTask "ForceLoadVideo")
      (by simp [Launch.Ordinary, Job.Ordinary]) rfl rfl rfl rfl rfl rfl
  | setStartFrameRateOptEnabled =>
    exact launchIf_taskEffect server _ _ (by simp [Launch.Ordinary, Job.Ordinary])
  | setLooping loop accepted =>
    simp only [operate, setLooping]
    split
    · exact .kept rfl rfl rfl
    · split <;> exact .kept rfl rfl rfl
  | setAudioEffectMode isDefault accepted =>
    simp only [operate, setAudioEffectMode]
    split <;> exact .kept rfl rfl rfl

theorem OpFrame.of_same {server next : PlayerServer} (running : next.running = server.running)
    (outstanding : next.outstanding = server.outstanding)
    (state : next.currState = server.currState)
    (status : server.lastOpStatus = .idle ↔ next.lastOpStatus = .idle)
    (phase : next.phase = .free) : OpFrame server next :=
  ⟨running, outstanding, .inl ⟨state, status⟩, .inl phase⟩

theorem launchIf_frame (server : PlayerServer) (free : server.phase = .free) (allowed : Prop)
    [Decidable allowed] (call : Launch) : OpFrame server (server.launchIf allowed call) := by
  unfold launchIf
  split <;> exact .of_same rfl rfl rfl .rfl free

theorem onStop_frame (server : PlayerServer) (sync : Bool) (status : server.lastOpStatus ≠ .idle) :
    OpFrame server (server.onStop sync) :=
  ⟨rfl, rfl, .inl ⟨rfl, .rfl⟩, .inr ⟨status, .inl ⟨sync, rfl⟩, rfl⟩⟩

theorem onReset_frame (server : PlayerServer) (status : server.lastOpStatus ≠ .idle) :
    OpFrame server server.onReset := by
  unfold onReset
  split
  · exact onStop_frame server true status
  · split <;> exact ⟨rfl, rfl, .inl ⟨rfl, .rfl⟩, .inr ⟨status, .inr rfl, rfl⟩⟩

theorem exitSeekContinousAsync_frame (server : PlayerServer) (free : server.phase = .free) :
    OpFrame server server.exitSeekContinousAsync := by
  unfold exitSeekContinousAsync
  split <;> exact .of_same rfl rfl rfl .rfl free

theorem operate_frame (server : PlayerServer) (free : server.phase = .free) (op : PlayerOp) :
    OpFrame server (server.operate op) := by
  cases op with
  | setSource created =>
    simp only [operate, initPlayEngine]
    split
    · exact .of_same rfl rfl rfl .rfl free
    rename_i idle
    rw [not_not] at idle
    split
    · exact ⟨rfl, rfl, .inr ⟨idle, server.taskMgr.init_isInited, rfl, rfl⟩, .inl free⟩
    · exact .of_same rfl rfl rfl .rfl free
  | setPlayerCallback =>
    simp only [operate, setPlayerCallback]
    split <;> exact .of_same rfl rfl rfl .rfl free
  | prepare =>
    simp only [operate, prepare]
    split
    · rename_i status
      refine .of_same rfl rfl rfl ⟨fun idle => ?_, fun idle => by cases idle⟩ free
      rcases status with status | status <;> rw [idle] at status <;> cases status
    · exact .of_same rfl rfl rfl .rfl free
  | play replayable =>
    simp only [operate, play]
    split
    · rename_i status
      split
      · exact .of_same rfl rfl rfl .rfl free
      · refine .of_same rfl rfl rfl ⟨fun idle => ?_, fun idle => by cases idle⟩ free
        rcases status with status | status | status <;> rw [idle] at status <;> cases status
    · split
      · exact exitSeekContinousAsync_frame server free
      · exact .of_same rfl rfl rfl .rfl free
  | pause =>
    simp only [operate, pause]
    split
    · rename_i status
      refine .of_same rfl rfl rfl ⟨fun idle => ?_, fun idle => by cases idle⟩ free
      rw [idle] at status
      cases status
    · exact .of_same rfl rfl rfl .rfl free
  | stop =>
    simp only [operate, stop]
    split
    · rename_i prepared
      exact onStop_frame server false (ne_idle_of_isPreparedStatus prepared)
    · exact .of_same rfl rfl rfl .rfl free
  | reset =>
    simp only [operate, reset]
    split
    · exact .of_same rfl rfl rfl .rfl free
    · rename_i status
      exact onReset_frame server status
  | release =>
    simp only [operate, release, reset]
    split
    · exact .of_same rfl rfl rfl .rfl free
    · rename_i status
      obtain ⟨running, outstanding, moves, phase⟩ :=
        onReset_frame (server.changeData fun data => { data with playerCb := false }) status
      exact ⟨running, outstanding, moves, phase⟩
  | seek mSeconds mode =>
    simp only [operate, seek]
    split
    · exact .of_same rfl rfl rfl .rfl free
    split
    · unfold seekContinous
      split
      · exact exitSeekContinousAsync_frame server free
      · exact .of_same rfl rfl rfl .rfl free
    · exact .of_same rfl rfl rfl .rfl free
  | freeze =>
    simp only [operate, freeze]
    split <;> exact .of_same rfl rfl rfl .rfl free
  | unFreeze =>
    simp only [operate, unFreeze]
    split <;> exact .of_same rfl rfl rfl .rfl free
  | setLooping loop accepted =>
    simp only [operate, setLooping]
    split
    · exact .of_same rfl rfl rfl .rfl free
    · split <;> exact .of_same rfl rfl rfl .rfl free
  | setAudioEffectMode isDefault accepted =>
    simp only [operate, setAudioEffectMode]
    split <;> exact .of_same rfl rfl rfl .rfl free
  | forceLoadVideo => exact .of_same rfl rfl rfl .rfl free
  | setPlaybackSpeed | setPlaybackRate | setPlayRangeWithMode | setVolume | setVideoSurface
  | setVideoOutput | selectTrack | deselectTrack | setMediaMuted | setStartFrameRateOptEnabled =>
    exact launchIf_frame server free _ _

end PlayerServer

end PlayerFramework.Player
