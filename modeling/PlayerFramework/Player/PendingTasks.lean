import PlayerFramework.Player.TaskMgr

namespace PlayerFramework.Player

open Transition

variable {Handler : Type}

/-- The caller's side of a launch: handlers are never null. -/
def TaskMgrCall.HandlersPresent : TaskMgrCall Handler → Prop
  | .launchTask task _ _ _ => task ≠ none
  | .speedTask task cancelTask _ _ => task ≠ none ∧ cancelTask ≠ none
  | .seekTask task cancelTask _ _ _ => task ≠ none ∧ cancelTask ≠ none
  | .freezeTask task _ _ => task ≠ none
  | .unFreezeTask task _ _ => task ≠ none
  | .seekContinousTask task _ => task ≠ none
  | .setVideoSurfaeTask task _ => task ≠ none
  | .markTaskDone _ => True
  | .clearAllTask => True

/-- A busy `SeekTask` turns every pending seek into a `CANCEL_TASK`.  It finds
each of them cancellable unless one came from `SeekContinousTask`, which stores
a null cancel handler. -/
def TaskMgrCall.FindsSeeksCancellable (mgr : PlayerServerTaskMgr Handler) :
    TaskMgrCall Handler → Prop
  | .seekTask _ _ _ _ _ => mgr.currTwoPhaseTask ≠ none →
      ∀ item ∈ mgr.pendingTwoPhaseTasks, item.type = .seeking → item.cancelTask ≠ none
  | _ => True

def TaskMgrCall.Serves (mgr : PlayerServerTaskMgr Handler) (call : TaskMgrCall Handler) : Prop :=
  call.HandlersPresent ∧ call.FindsSeeksCancellable mgr

namespace TwoPhaseTaskItem

/-- An item whose turn leaves a task in flight, now and after a speed request
has retagged it. -/
structure Startable (item : TwoPhaseTaskItem Handler) : Prop where
  startable : item.handler ≠ none
  rateCancellable : item.type = .rateChange → item.cancelTask ≠ none

theorem Startable.retag {item : TwoPhaseTaskItem Handler} (startable : item.Startable)
    {old : PlayerServerTaskType} {replaced : TwoPhaseTaskItem Handler → Bool}
    (cancellable : item.type = old → item.cancelTask ≠ none) :
    (item.retag old replaced).Startable := by
  unfold TwoPhaseTaskItem.retag
  split
  · rename_i caught
    refine ⟨?_, ?_⟩
    · simpa only [handler, if_true] using cancellable caught.1
    · intro isRate
      cases isRate
  · exact startable

theorem startable_of_task {item : TwoPhaseTaskItem Handler} (present : item.task ≠ none)
    (notCancel : item.type ≠ .cancelTask)
    (rate : item.type = .rateChange → item.cancelTask ≠ none) : item.Startable := by
  refine ⟨?_, rate⟩
  simpa only [handler, if_neg notCancel] using present

end TwoPhaseTaskItem

namespace PlayerServerTaskMgr

/-- Pending work has a task in flight to wait for. -/
def NeverStranded (mgr : PlayerServerTaskMgr Handler) : Prop :=
  mgr.pendingTwoPhaseTasks ≠ [] → mgr.currTwoPhaseTask ≠ none

structure Serving (mgr : PlayerServerTaskMgr Handler) : Prop where
  inited : mgr.isInited = true
  startable : ∀ item ∈ mgr.pendingTwoPhaseTasks, item.Startable
  inFlight : mgr.NeverStranded

theorem initial_serving : (initial : PlayerServerTaskMgr Handler).Serving := by
  refine ⟨rfl, ?_, ?_⟩
  · intro item member
    cases member
  · intro pending
    exact absurd rfl pending

variable {mgr : PlayerServerTaskMgr Handler} {task cancelTask : Option Handler} {taskName : String}

/-- A task that is started while nothing is in flight becomes the one in flight. -/
theorem Serving.started {next : PlayerServerTaskMgr Handler} (serving : mgr.Serving)
    (inited : next.isInited = mgr.isInited)
    (pending : next.pendingTwoPhaseTasks = mgr.pendingTwoPhaseTasks)
    (current : next.currTwoPhaseTask ≠ none) : next.Serving :=
  ⟨inited.trans serving.inited, pending ▸ serving.startable, fun _ => current⟩

/-- A busy manager appends an item behind the old ones, retagged or not. -/
theorem Serving.appended {next : PlayerServerTaskMgr Handler} (serving : mgr.Serving)
    (change : TwoPhaseTaskItem Handler → TwoPhaseTaskItem Handler)
    (added : TwoPhaseTaskItem Handler) (busy : mgr.currTwoPhaseTask ≠ none)
    (inited : next.isInited = mgr.isInited) (current : next.currTwoPhaseTask = mgr.currTwoPhaseTask)
    (pending : next.pendingTwoPhaseTasks = mgr.pendingTwoPhaseTasks.map change ++ [added])
    (old : ∀ item ∈ mgr.pendingTwoPhaseTasks, (change item).Startable) (new : added.Startable) :
    next.Serving := by
  refine ⟨inited.trans serving.inited, ?_, ?_⟩
  · intro item member
    rw [pending, List.mem_append, List.mem_map, List.mem_singleton] at member
    rcases member with ⟨before, present, rfl⟩ | rfl
    · exact old before present
    · exact new
  · intro _
    rw [current]
    exact busy

theorem launch_serving (serving : mgr.Serving) {type : PlayerServerTaskType} (present : task ≠ none)
    (notCancel : type ≠ .cancelTask) (notRate : type ≠ .rateChange) :
    (mgr.launch task cancelTask type taskName).2.Serving := by
  rw [launch, if_neg (by simp [serving.inited])]
  by_cases idle : mgr.currTwoPhaseTask = none
  · rw [if_pos idle]
    exact serving.started rfl rfl present
  · rw [if_neg idle]
    refine serving.appended id { type, task, cancelTask, taskName } idle rfl rfl
      (by simp [pushPending]) serving.startable ?_
    exact TwoPhaseTaskItem.startable_of_task present notCancel fun isRate => absurd isRate notRate

theorem launchTask_serving (serving : mgr.Serving) {type : PlayerServerTaskType}
    (present : task ≠ none) : (mgr.launchTask task type taskName cancelTask).2.Serving := by
  rw [launchTask, if_neg (by simp [serving.inited])]
  split
  · exact serving
  · rename_i launched
    refine launch_serving serving present ?_ ?_ <;> rintro rfl <;> simp at launched

theorem speedTask_serving (serving : mgr.Serving) {speedMode : Int32} (present : task ≠ none)
    (cancellable : cancelTask ≠ none) :
    (mgr.speedTask task cancelTask taskName speedMode).2.Serving := by
  rw [speedTask, if_neg (by simp [serving.inited])]
  by_cases idle : mgr.currTwoPhaseTask = none
  · rw [if_pos idle]
    exact serving.started rfl rfl present
  rw [if_neg idle]
  refine serving.appended _ _ idle rfl rfl rfl ?_ ?_
  · intro item member
    have startable := serving.startable item member
    exact startable.retag startable.rateCancellable
  · exact TwoPhaseTaskItem.startable_of_task present (by simp) fun _ => cancellable

theorem seekTask_serving (serving : mgr.Serving) {seekMode : Int32} {seekTime : Int64}
    (present : task ≠ none) (cancellable : cancelTask ≠ none) (found : mgr.currTwoPhaseTask ≠ none →
      ∀ item ∈ mgr.pendingTwoPhaseTasks, item.type = .seeking → item.cancelTask ≠ none) :
    (mgr.seekTask task cancelTask taskName seekMode seekTime).2.Serving := by
  rw [seekTask, if_neg (by simp [serving.inited])]
  by_cases idle : mgr.currTwoPhaseTask = none
  · rw [if_pos idle]
    exact serving.started rfl rfl present
  rw [if_neg idle]
  refine serving.appended _ _ idle rfl rfl rfl ?_ ?_
  · intro item member
    exact (serving.startable item member).retag (found idle item member)
  -- The new item runs `cancelTask` when it repeats the current seek, else `task`.
  by_cases same : mgr.sameAsCurrentSeek seekMode seekTime = true
  · refine ⟨?_, ?_⟩
    · simpa only [same, if_true, TwoPhaseTaskItem.handler] using cancellable
    · simp [same]
  · simp only [same, Bool.false_eq_true, if_false]
    exact TwoPhaseTaskItem.startable_of_task present (by simp) (by simp)

theorem markTaskDone_serving (serving : mgr.Serving) (taskName : String) :
    (mgr.markTaskDone taskName).2.Serving := by
  rw [markTaskDone, if_neg (by simp [serving.inited])]
  cases pending : mgr.pendingTwoPhaseTasks with
  | nil =>
    simp only [finishCurrent, pending]
    refine ⟨serving.inited, by simp, fun nonempty => absurd rfl nonempty⟩
  | cons item rest =>
    have startable : item.handler ≠ none :=
      (serving.startable item (by simp [pending])).startable
    obtain ⟨task, present⟩ := Option.ne_none_iff_exists'.mp startable
    simp only [finishCurrent, pending, startItem, present]
    refine ⟨serving.inited, ?_, fun _ => by simp⟩
    intro later member
    exact serving.startable later (by simp [pending, member])

theorem clearAllTask_serving (serving : mgr.Serving) : mgr.clearAllTask.Serving := by
  rw [clearAllTask, if_neg (by simp [serving.inited])]
  exact ⟨serving.inited, by simp, fun nonempty => absurd rfl nonempty⟩

theorem call_serving (mgr : PlayerServerTaskMgr Handler) (call : TaskMgrCall Handler)
    (serving : mgr.Serving) (serves : call.Serves mgr) : (mgr.call call).Serving := by
  obtain ⟨present, found⟩ := serves
  cases call with
  | launchTask => exact launchTask_serving serving present
  | speedTask => exact speedTask_serving serving present.1 present.2
  | seekTask => exact seekTask_serving serving present.1 present.2 found
  | freezeTask | unFreezeTask | seekContinousTask | setVideoSurfaeTask =>
    exact launch_serving serving present (by decide) (by decide)
  | markTaskDone taskName => exact markTaskDone_serving serving taskName
  | clearAllTask => exact clearAllTask_serving serving

/-- While the calls of a run serve the manager, pending work always has a task
in flight, and the `MarkTaskDone` of that task puts the handler of the next
pending item in flight. -/
theorem pending_served_along (calls : List (TaskMgrCall Handler))
    (serves : Along call (fun mgr call => call.Serves mgr) initial calls) :
    let mgr := run call initial calls
    mgr.NeverStranded ∧ ∀ item rest taskName, mgr.pendingTwoPhaseTasks = item :: rest →
        item.handler ≠ none ∧ (mgr.markTaskDone taskName).2.currTwoPhaseTask = item.handler ∧
          (mgr.markTaskDone taskName).2.pendingTwoPhaseTasks = rest := by
  intro mgr
  have serving : mgr.Serving :=
    invariant_of_along Serving call_serving serves initial_serving
  refine ⟨serving.inFlight, ?_⟩
  intro item rest taskName pending
  have startable : item.handler ≠ none := (serving.startable item (by simp [pending])).startable
  obtain ⟨task, present⟩ := Option.ne_none_iff_exists'.mp startable
  refine ⟨startable, ?_, ?_⟩ <;>
    simp [markTaskDone, serving.inited, finishCurrent, pending, startItem, present]

theorem two_seeks_served :
    let calls : List (TaskMgrCall Nat) :=
      [.launchTask (some 0) .stateChange "play" none, .seekTask (some 1) (some 2) "seek" 0 5,
        .seekTask (some 3) (some 4) "seek" 0 7, .markTaskDone "play done"]
    (run call initial calls).NeverStranded ∧ (run call initial calls).currTwoPhaseTask =
      some 2 := by
  intro calls
  have serves : Along call (fun mgr call => call.Serves mgr) initial calls := by
    simp [calls, Along, TaskMgrCall.Serves, TaskMgrCall.HandlersPresent,
      TaskMgrCall.FindsSeeksCancellable, call, launchTask, launch, seekTask, initial, init,
      enqueueTask, sameAsCurrentSeek]
  exact ⟨(pending_served_along calls serves).1, rfl⟩

/-- A continuous seek that waits behind `play` is retagged by the next seek; its
turn puts a null handler in flight and the seek behind it waits for ever. -/
theorem continous_seek_strands_pending :
    let calls : List (TaskMgrCall Nat) :=
      [.launchTask (some 0) .stateChange "play" none, .seekContinousTask (some 1) "seek",
        .seekTask (some 2) (some 3) "seek" 0 5, .markTaskDone "play done"]
    ¬ (run call initial calls).NeverStranded := by
  intro calls served
  exact served (by decide) rfl

end PlayerServerTaskMgr

end PlayerFramework.Player
