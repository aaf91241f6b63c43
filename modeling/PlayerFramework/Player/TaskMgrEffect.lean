import PlayerFramework.Player.TaskMgr

/-!
What a call can do to the task in flight, the thread and the pending list, said
once for all launches, for `MarkTaskDone` and for `ClearAllTask`.
-/

namespace PlayerFramework.Player

variable {Handler : Type}

namespace TwoPhaseTaskItem

def tasks (item : TwoPhaseTaskItem Handler) : List Handler :=
  item.task.toList ++ item.cancelTask.toList

theorem handler_sublist (item : TwoPhaseTaskItem Handler) :
    item.handler.toList.Sublist item.tasks := by
  unfold handler tasks
  split
  · exact List.sublist_append_right _ _
  · exact List.sublist_append_left _ _

@[simp] theorem retag_tasks (old : PlayerServerTaskType)
    (replaced : TwoPhaseTaskItem Handler → Bool) (item : TwoPhaseTaskItem Handler) :
    (item.retag old replaced).tasks = item.tasks := by
  unfold retag
  split <;> rfl

end TwoPhaseTaskItem

def TaskMgrCall.task : TaskMgrCall Handler → Option Handler
  | .launchTask task _ _ _ => task
  | .speedTask task _ _ _ => task
  | .seekTask task _ _ _ _ => task
  | .freezeTask task _ _ => task
  | .unFreezeTask task _ _ => task
  | .seekContinousTask task _ => task
  | .setVideoSurfaeTask task _ => task
  | .markTaskDone _ => none
  | .clearAllTask => none

/-- The cancel handler that a launching call stores with its pending item. -/
def TaskMgrCall.storedCancel : TaskMgrCall Handler → Option Handler
  | .speedTask _ cancelTask _ _ => cancelTask
  | .seekTask _ cancelTask _ _ _ => cancelTask
  | .freezeTask _ cancelTask _ => cancelTask
  | .unFreezeTask _ cancelTask _ => cancelTask
  | _ => none

def TaskMgrCall.Launches : TaskMgrCall Handler → Prop
  | .markTaskDone _ => False
  | .clearAllTask => False
  | _ => True

namespace PlayerServerTaskMgr

/-- The handlers of the pending items, run or not, in the order of their requests. -/
def pendingHandlers (mgr : PlayerServerTaskMgr Handler) : List Handler :=
  mgr.pendingTwoPhaseTasks.flatMap TwoPhaseTaskItem.tasks

/-- Every handler that the manager or its thread still holds. -/
def tasks (mgr : PlayerServerTaskMgr Handler) : List Handler :=
  mgr.currTwoPhaseTask.toList ++ (mgr.taskThread.handlers ++ mgr.pendingHandlers)

/-- A launch is ignored, starts its task, or appends an item; what else is
pending keeps its handlers, and an item that is no seek and no rate change stays
as it is. -/
inductive LaunchEffect (mgr next : PlayerServerTaskMgr Handler)
    (task cancelTask : Option Handler) : Prop where
  | ignored (same : next = mgr)
  | started (idle : mgr.currTwoPhaseTask = none) (inited : next.isInited = mgr.isInited)
      (wasInited : mgr.isInited = true) (current : next.currTwoPhaseTask = task)
      (thread : next.taskThread = (mgr.taskThread.enqueueTask task).2)
      (pending : next.pendingTwoPhaseTasks = mgr.pendingTwoPhaseTasks)
  | appended (busy : mgr.currTwoPhaseTask ≠ none) (inited : next.isInited = mgr.isInited)
      (current : next.currTwoPhaseTask = mgr.currTwoPhaseTask)
      (thread : next.taskThread = mgr.taskThread)
      (change : TwoPhaseTaskItem Handler → TwoPhaseTaskItem Handler)
      (added : TwoPhaseTaskItem Handler)
      (pending : next.pendingTwoPhaseTasks = mgr.pendingTwoPhaseTasks.map change ++ [added])
      (changeTasks : ∀ item, (change item).tasks = item.tasks)
      (changeState : ∀ item, item.type = .stateChange → change item = item)
      (addedTask : added.task = task) (addedCancel : added.cancelTask = cancelTask)

theorem retag_stateChange {old : PlayerServerTaskType} (other : old ≠ .stateChange)
    (replaced : TwoPhaseTaskItem Handler → Bool) (item : TwoPhaseTaskItem Handler)
    (isState : item.type = .stateChange) : item.retag old replaced = item := by
  unfold TwoPhaseTaskItem.retag
  rw [if_neg]
  rintro ⟨caught, -⟩
  exact other (caught.symm.trans isState)

variable (mgr : PlayerServerTaskMgr Handler) (task cancelTask : Option Handler)

theorem launch_effect (type : PlayerServerTaskType) (taskName : String) :
    LaunchEffect mgr (mgr.launch task cancelTask type taskName).2 task cancelTask := by
  unfold launch
  split
  · exact .ignored rfl
  rename_i inited
  rw [Bool.not_eq_false] at inited
  split
  · rename_i idle
    exact .started idle rfl inited rfl rfl rfl
  · rename_i busy
    exact .appended busy rfl rfl rfl id { type, task, cancelTask, taskName }
      (by simp [pushPending]) (fun _ => rfl) (fun _ _ => rfl) rfl rfl

variable (taskName : String)

theorem speedTask_effect (speedMode : Int32) :
    LaunchEffect mgr (mgr.speedTask task cancelTask taskName speedMode).2 task cancelTask := by
  unfold speedTask
  split
  · exact .ignored rfl
  rename_i inited
  rw [Bool.not_eq_false] at inited
  split
  · rename_i idle
    exact .started idle rfl inited rfl rfl rfl
  · rename_i busy
    exact .appended busy rfl rfl rfl _ _ rfl (fun item => TwoPhaseTaskItem.retag_tasks _ _ item)
      (retag_stateChange (by decide) _) rfl rfl

theorem seekTask_effect (seekMode : Int32) (seekTime : Int64) :
    LaunchEffect mgr (mgr.seekTask task cancelTask taskName seekMode seekTime).2
      task cancelTask := by
  unfold seekTask
  split
  · exact .ignored rfl
  rename_i inited
  rw [Bool.not_eq_false] at inited
  split
  · rename_i idle
    exact .started idle rfl inited rfl rfl rfl
  · rename_i busy
    exact .appended busy rfl rfl rfl _ _ rfl (fun item => TwoPhaseTaskItem.retag_tasks _ _ item)
      (retag_stateChange (by decide) _) rfl rfl

theorem call_effect (call : TaskMgrCall Handler) (launches : call.Launches) :
    LaunchEffect mgr (mgr.call call) call.task call.storedCancel := by
  cases call with
  | launchTask task type taskName cancelTask =>
    simp only [PlayerServerTaskMgr.call, launchTask]
    split
    · exact .ignored rfl
    · split
      · exact .ignored rfl
      · exact launch_effect mgr task none type taskName
  | speedTask => exact speedTask_effect ..
  | seekTask => exact seekTask_effect ..
  | freezeTask | unFreezeTask | seekContinousTask | setVideoSurfaeTask => exact launch_effect ..
  | markTaskDone | clearAllTask => exact launches.elim

/-- `MarkTaskDone` ends the task in flight and starts the first pending item. -/
inductive MarkEffect (mgr next : PlayerServerTaskMgr Handler) : Prop where
  | ignored (notInited : mgr.isInited = false) (same : next = mgr)
  | finished (empty : mgr.pendingTwoPhaseTasks = []) (inited : next.isInited = mgr.isInited)
      (current : next.currTwoPhaseTask = none) (thread : next.taskThread = mgr.taskThread)
      (pending : next.pendingTwoPhaseTasks = [])
  | started (item : TwoPhaseTaskItem Handler) (rest : List (TwoPhaseTaskItem Handler))
      (first : mgr.pendingTwoPhaseTasks = item :: rest) (inited : next.isInited = true)
      (current : next.currTwoPhaseTask = item.handler)
      (thread : next.taskThread.handlers = mgr.taskThread.handlers ++ item.handler.toList)
      (pending : next.pendingTwoPhaseTasks = rest)

theorem markTaskDone_effect : MarkEffect mgr (mgr.markTaskDone taskName).2 := by
  unfold markTaskDone
  split
  · rename_i notInited
    exact .ignored notInited rfl
  rename_i inited
  cases pending : mgr.pendingTwoPhaseTasks with
  | nil =>
    simp only [finishCurrent, pending]
    exact .finished pending rfl rfl rfl rfl
  | cons item rest =>
    simp only [finishCurrent, pending]
    cases present : item.handler with
    | none | some task =>
      refine .started item rest pending ?_ ?_ ?_ ?_ <;> simp [startItem, present, inited]

theorem clearAllTask_effect : (mgr.isInited = false ∧ mgr.clearAllTask = mgr) ∨
      (mgr.clearAllTask.isInited = mgr.isInited ∧ mgr.clearAllTask.currTwoPhaseTask = none ∧
        mgr.clearAllTask.taskThread.handlers = [] ∧
        mgr.clearAllTask.pendingTwoPhaseTasks = []) := by
  unfold clearAllTask
  split
  · rename_i notInited
    exact .inl ⟨notInited, rfl⟩
  · exact .inr ⟨rfl, rfl, rfl, rfl⟩

@[simp] theorem init_isInited (mgr : PlayerServerTaskMgr Handler) : mgr.init.2.isInited = true := by
  unfold init
  split
  · assumption
  · rfl

theorem clearAllTask_isInited : mgr.clearAllTask.isInited = mgr.isInited := by
  unfold clearAllTask
  split <;> rfl

variable {mgr next : PlayerServerTaskMgr Handler} {handler : Handler}
  {task cancelTask : Option Handler}

theorem clearAllTask_tasks (inited : mgr.isInited = true) : mgr.clearAllTask.tasks = [] := by
  rcases mgr.clearAllTask_effect with ⟨notInited, _⟩ | ⟨_, current, thread, pending⟩
  · rw [inited] at notInited
    cases notInited
  · simp [tasks, current, thread, pendingHandlers, pending]

theorem init_mem_tasks (member : handler ∈ mgr.init.2.tasks) : handler ∈ mgr.tasks := by
  unfold init at member
  split at member
  · exact member
  · simp only [tasks, TaskThread.handlers, List.filterMap_nil, List.nil_append, List.mem_append]
      at member
    simp only [tasks, List.mem_append]
    exact member.imp_right .inr

theorem LaunchEffect.isInited (effect : LaunchEffect mgr next task cancelTask) :
    next.isInited = mgr.isInited := by
  cases effect with
  | ignored same => rw [same]
  | started idle inited | appended busy inited => exact inited

theorem LaunchEffect.uninited (effect : LaunchEffect mgr next task cancelTask)
    (notInited : mgr.isInited = false) (empty : mgr.tasks = []) : next.tasks = [] := by
  cases effect with
  | ignored same => exact same ▸ empty
  | started idle inited wasInited =>
    rw [wasInited] at notInited
    cases notInited
  | appended busy =>
    simp only [tasks, List.append_eq_nil_iff, Option.toList_eq_nil_iff] at empty
    exact absurd empty.1 busy

theorem LaunchEffect.mem_tasks (effect : LaunchEffect mgr next task cancelTask)
    (member : handler ∈ next.tasks) :
    handler ∈ mgr.tasks ∨ task = some handler ∨ cancelTask = some handler := by
  cases effect with
  | ignored same => exact .inl (same ▸ member)
  | started idle inited wasInited current thread pending =>
    cases task with
    | none =>
      simp only [tasks, current, thread, TaskThread.enqueueTask, pendingHandlers, pending,
        Option.toList_none, List.nil_append] at member
      exact .inl (by simp [tasks, pendingHandlers, idle, member])
    | some started =>
      simp only [tasks, current, thread, TaskThread.handlers_enqueueTask, pendingHandlers,
        pending, Option.toList_some, List.mem_append, List.mem_singleton] at member
      simp only [tasks, pendingHandlers, List.mem_append, Option.some.injEq]
      tauto
  | appended busy inited current thread change added pending changeTasks changeState addedTask
      addedCancel =>
      have flat : next.pendingHandlers = mgr.pendingHandlers ++ added.tasks := by
        simp [pendingHandlers, pending, List.flatMap_append, List.flatMap_map, changeTasks]
      simp only [tasks, current, thread, flat, TwoPhaseTaskItem.tasks, addedTask, addedCancel,
        List.mem_append, Option.mem_toList] at member
      simp only [tasks, List.mem_append, Option.mem_toList]
      tauto

theorem MarkEffect.mem_tasks (effect : MarkEffect mgr next) (member : handler ∈ next.tasks) :
    handler ∈ mgr.tasks := by
  cases effect with
  | ignored notInited same => exact same ▸ member
  | finished empty inited current thread pending =>
    simp only [tasks, current, thread, pendingHandlers, pending, Option.toList_none,
      List.flatMap_nil, List.append_nil, List.nil_append] at member
    simp [tasks, member]
  | started item rest first inited current thread pending =>
    have chosen := item.handler_sublist.subset
    simp only [tasks, current, thread, pendingHandlers, pending, List.mem_append] at member
    simp only [tasks, pendingHandlers, first, List.flatMap_cons, List.mem_append]
    rcases member with running | (queued | running) | waiting
    · exact .inr (.inr (.inl (chosen running)))
    · exact .inr (.inl queued)
    · exact .inr (.inr (.inl (chosen running)))
    · exact .inr (.inr (.inr waiting))

/-- The task will still be started: it is on the thread, or pending as a
`STATE_CHANGE`, which no later request retags. -/
def Waiting (mgr : PlayerServerTaskMgr Handler) (task : Handler) : Prop :=
  task ∈ mgr.taskThread.handlers ∨
    ∃ item ∈ mgr.pendingTwoPhaseTasks, item.type = .stateChange ∧ item.task = some task

theorem LaunchEffect.waiting (effect : LaunchEffect mgr next task cancelTask)
    (waiting : mgr.Waiting handler) : next.Waiting handler := by
  cases effect with
  | ignored same => exact same ▸ waiting
  | started idle inited wasInited current thread pending =>
    rcases waiting with queued | ⟨item, member, found⟩
    · left
      cases task with
      | none => simpa [thread, TaskThread.enqueueTask] using queued
      | some started => simp [thread, queued]
    · exact .inr ⟨item, pending ▸ member, found⟩
  | appended busy inited current thread change added pending changeTasks changeState addedTask
      addedCancel =>
      rcases waiting with queued | ⟨item, member, isState, found⟩
      · exact .inl (thread ▸ queued)
      · refine .inr ⟨item, ?_, isState, found⟩
        rw [pending, List.mem_append, List.mem_map]
        exact .inl ⟨item, member, changeState item isState⟩

theorem MarkEffect.waiting (effect : MarkEffect mgr next) (waiting : mgr.Waiting handler) :
    next.Waiting handler := by
  cases effect with
  | ignored notInited same => exact same ▸ waiting
  | finished empty inited current thread pending =>
    rcases waiting with queued | ⟨item, member, _⟩
    · exact .inl (thread ▸ queued)
    · rw [empty] at member
      cases member
  | started item rest first inited current thread pending =>
    rcases waiting with queued | ⟨other, member, isState, found⟩
    · exact .inl (by simp [thread, queued])
    · rw [first, List.mem_cons] at member
      rcases member with rfl | later
      · exact .inl (by simp [thread, TwoPhaseTaskItem.handler, isState, found])
      · exact .inr ⟨other, pending ▸ later, isState, found⟩

theorem launchTask_waiting (inited : mgr.isInited = true) (task : Handler) (taskName : String) :
    (mgr.launchTask (some task) .stateChange taskName none).2.Waiting task := by
  simp only [launchTask, launch, inited, Bool.true_eq_false, if_false, ne_eq, not_true_eq_false,
    false_and]
  split
  · exact .inl (by simp [enqueueTask])
  · exact .inr ⟨{ type := .stateChange, task := some task, cancelTask := none, taskName },
      by simp [pushPending], rfl, rfl⟩

end PlayerServerTaskMgr

end PlayerFramework.Player
