import Mathlib.Data.List.Count
import Mathlib.Logic.Function.Basic
import PlayerFramework.Player.TaskMgr

/-!
Which pending tasks a new request replaces.  The types that replace are `RATE_CHANGE` and
`SEEKING`.
-/

namespace PlayerFramework.Player

open Transition Function

variable {Handler : Type}

def PlayerServerTaskType.Replaceable (type : PlayerServerTaskType) : Prop :=
  type = .rateChange ∨ type = .seeking

/-- The type and the handler of a request that replaces pending ones. -/
def TaskMgrCall.request? : TaskMgrCall Handler → Option (PlayerServerTaskType × Option Handler)
  | .speedTask task _ _ _ => some (.rateChange, task)
  | .seekTask task _ _ _ _ => some (.seeking, task)
  | .seekContinousTask task _ => some (.seeking, task)
  | _ => none

/-- The comparison with a pending item of its type that the call makes. -/
def TaskMgrCall.replaces (item : TwoPhaseTaskItem Handler) : TaskMgrCall Handler → Bool
  | .speedTask _ _ _ speedMode => item.speedMode != speedMode
  | .seekTask _ _ _ _ _ => true
  | _ => false

inductive TaskMgrEvent (Handler : Type) where
  | init
  | reset
  | call (call : TaskMgrCall Handler)

/-- The manager with the last request of each type, a history variable. -/
structure RequestTrace (Handler : Type) where
  mgr : PlayerServerTaskMgr Handler := {}
  requested : PlayerServerTaskType → Option (Option Handler) := fun _ => none

namespace RequestTrace

def next (trace : RequestTrace Handler) : TaskMgrEvent Handler → RequestTrace Handler
  | .init => { trace with mgr := trace.mgr.init.2 }
  | .reset => { trace with mgr := trace.mgr.reset.2 }
  | .call call =>
    { mgr := trace.mgr.call call
      requested :=
        match call.request? with
        | some request => update trace.requested request.1 (some request.2)
        | none => trace.requested }

/-- Of each type that replaces, at most the last request is pending. -/
def Latest (requested : PlayerServerTaskType → Option (Option Handler))
    (pending : List (TwoPhaseTaskItem Handler)) : Prop :=
  ∀ type : PlayerServerTaskType, type.Replaceable →
    pending.countP (fun item => item.type = type) ≤ 1 ∧
      ∀ item ∈ pending, item.type = type → requested type = some item.task

/-- A request comes while a task is in flight and replaces what is pending of its type. -/
def Supersedes (trace : RequestTrace Handler) : TaskMgrEvent Handler → Prop
  | .call call => ∀ request ∈ call.request?, ∀ item ∈ trace.mgr.pendingTwoPhaseTasks,
      item.type = request.1 → trace.mgr.currTwoPhaseTask.isSome = true ∧
        call.replaces item = true
  | _ => True

instance (trace : RequestTrace Handler) (event : TaskMgrEvent Handler) :
    Decidable (trace.Supersedes event) := by
  unfold Supersedes
  split <;> infer_instance

variable {requested : PlayerServerTaskType → Option (Option Handler)}
  {pending : List (TwoPhaseTaskItem Handler)} {item : TwoPhaseTaskItem Handler}
  {type : PlayerServerTaskType}

theorem Latest.rest (latest : Latest requested (item :: pending)) : Latest requested pending := by
  intro type replaceable
  obtain ⟨single, last⟩ := latest type replaceable
  constructor
  · rw [List.countP_cons] at single
    exact Nat.le_trans (Nat.le_add_right _ _) single
  · exact fun other member => last other (List.mem_cons_of_mem _ member)

theorem Latest.pushed (latest : Latest requested pending) (other : ¬ item.type.Replaceable) :
    Latest requested (pending ++ [item]) := by
  intro type replaceable
  obtain ⟨single, last⟩ := latest type replaceable
  have different : item.type ≠ type := fun same => other (same ▸ replaceable)
  constructor
  · rw [List.countP_append, List.countP_singleton, if_neg (by simpa using different)]
    exact single
  intro member inside isType
  rcases List.mem_append.mp inside with before | added
  · exact last member before isType
  · rw [List.mem_singleton.mp added] at isType
    exact absurd isType different

/-- A request that finds nothing of its type. -/
theorem Latest.started (latest : Latest requested pending) (task : Option Handler)
    (none : ∀ item ∈ pending, item.type ≠ type) :
    Latest (update requested type (some task)) pending := by
  intro other replaceable
  obtain ⟨single, last⟩ := latest other replaceable
  refine ⟨single, ?_⟩
  intro member inside isType
  have different : other ≠ type := fun same => none member inside (isType.trans same)
  rw [update_of_ne different]
  exact last member inside isType

/-- A request that turns what is pending of its type into `CANCEL_TASK`s. -/
theorem Latest.replaced (latest : Latest requested pending)
    {change : TwoPhaseTaskItem Handler → TwoPhaseTaskItem Handler}
    (tasks : ∀ item, (change item).task = item.task)
    (types : ∀ item ∈ pending,
      (change item).type = if item.type = type then .cancelTask else item.type)
    (added : item.type = type ∨ item.type = .cancelTask) :
    Latest (update requested type (some item.task)) (pending.map change ++ [item]) := by
  intro other replaceable
  have notCancel : other ≠ .cancelTask := by
    rintro rfl
    rcases replaceable with same | same <;> cases same
  obtain ⟨single, last⟩ := latest other replaceable
  have kept : ∀ item ∈ pending, (change item).type = other → item.type = other ∧ other ≠ type := by
    intro member inside isOther
    rw [types member inside] at isOther
    split at isOther
    · exact absurd isOther.symm notCancel
    · rename_i different
      exact ⟨isOther, fun same => different (isOther.trans same)⟩
  by_cases same : other = type
  · subst same
    have gone : (pending.map change).countP (fun item => item.type = other) = 0 := by
      rw [List.countP_eq_zero]
      intro member inside
      obtain ⟨before, present, rfl⟩ := List.mem_map.mp inside
      simpa using fun isOther => (kept before present isOther).2 rfl
    constructor
    · rw [List.countP_append, gone, List.countP_singleton]
      split <;> decide
    intro member inside isOther
    rcases List.mem_append.mp inside with old | new
    · obtain ⟨before, present, rfl⟩ := List.mem_map.mp old
      exact absurd rfl (kept before present isOther).2
    · rw [List.mem_singleton.mp new, update_self]
  · have newType : item.type ≠ other := by
      intro isOther
      rcases added with isType | isCancel
      · exact same (isOther.symm.trans isType)
      · exact notCancel (isOther.symm.trans isCancel)
    constructor
    · rw [List.countP_append, List.countP_singleton, if_neg (by simpa using newType),
        List.countP_map]
      refine Nat.le_trans (List.countP_mono_left ?_) single
      intro member inside isOther
      simpa using (kept member inside (by simpa using isOther)).1
    · intro member inside isOther
      rw [update_of_ne same]
      rcases List.mem_append.mp inside with old | new
      · obtain ⟨before, present, rfl⟩ := List.mem_map.mp old
        rw [tasks]
        exact last before present (kept before present isOther).1
      · rw [List.mem_singleton.mp new] at isOther
        exact absurd isOther newType

theorem retag_replaces {replaced : TwoPhaseTaskItem Handler → Bool}
    (all : ∀ item ∈ pending, item.type = type → replaced item = true) :
    ∀ item ∈ pending, (item.retag type replaced).type =
      if item.type = type then .cancelTask else item.type := by
  intro item member
  unfold TwoPhaseTaskItem.retag
  by_cases same : item.type = type
  · rw [if_pos ⟨same, all item member same⟩, if_pos same]
  · rw [if_neg (fun both => same both.1), if_neg same]

theorem task_retag (replaced : TwoPhaseTaskItem Handler → Bool) (item : TwoPhaseTaskItem Handler) :
    (item.retag type replaced).task = item.task := by
  unfold TwoPhaseTaskItem.retag
  split <;> rfl

variable {trace : RequestTrace Handler}

/-- The tasks that are pending are the last requests, and without a thread there are none. -/
structure Current (trace : RequestTrace Handler) : Prop where
  latest : Latest trace.requested trace.mgr.pendingTwoPhaseTasks
  closed : trace.mgr.isInited = false → trace.mgr.pendingTwoPhaseTasks = []

theorem latest_nil : Latest requested [] :=
  fun _ _ => ⟨Nat.zero_le _, fun _ member => by cases member⟩

theorem Current.launch (current : Current trace) {task cancelTask : Option Handler}
    {taskName : String} (other : ¬ type.Replaceable) :
    Current { trace with mgr := (trace.mgr.launch task cancelTask type taskName).2 } := by
  unfold PlayerServerTaskMgr.launch
  split
  · exact current
  · rename_i inited
    split
    · exact ⟨current.latest, current.closed⟩
    · exact ⟨current.latest.pushed other, fun closed => absurd closed inited⟩

theorem Current.markTaskDone (current : Current trace) (taskName : String) :
    Current { trace with mgr := (trace.mgr.markTaskDone taskName).2 } := by
  unfold PlayerServerTaskMgr.markTaskDone
  split
  · exact current
  rename_i inited
  cases pending : trace.mgr.pendingTwoPhaseTasks with
  | nil =>
    simp only [PlayerServerTaskMgr.finishCurrent, pending]
    exact ⟨latest_nil, fun _ => rfl⟩
  | cons item rest =>
    have latest := current.latest
    rw [pending] at latest
    simp only [PlayerServerTaskMgr.finishCurrent, pending, PlayerServerTaskMgr.startItem]
    split
    · exact ⟨latest.rest, fun closed => absurd closed inited⟩
    · exact ⟨latest.rest, fun closed => absurd closed inited⟩

theorem Current.request (current : Current trace) {after : PlayerServerTaskMgr Handler}
    {task : Option Handler} (inited : after.isInited = trace.mgr.isInited)
    (latest : trace.mgr.isInited = true →
      Latest (update trace.requested type (some task)) after.pendingTwoPhaseTasks)
    (refused : trace.mgr.isInited = false → after = trace.mgr) :
    Current { mgr := after, requested := update trace.requested type (some task) } := by
  cases open? : trace.mgr.isInited with
  | true => exact ⟨latest open?, fun closed => by rw [inited, open?] at closed; cases closed⟩
  | false =>
    have empty := current.closed open?
    rw [refused open?]
    constructor
    · simp only [empty]
      exact latest_nil
    · exact fun _ => empty

theorem current_call (current : Current trace) (call : TaskMgrCall Handler)
    (supersedes : trace.Supersedes (.call call)) : Current (trace.next (.call call)) := by
  have idle {requested : PlayerServerTaskType × Option Handler}
      (request : call.request? = some requested) (free : trace.mgr.currTwoPhaseTask = none) :
      ∀ item ∈ trace.mgr.pendingTwoPhaseTasks, item.type ≠ requested.1 := by
    intro item member same
    have busy := (supersedes requested request item member same).1
    rw [free] at busy
    cases busy
  have all {requested : PlayerServerTaskType × Option Handler}
      (request : call.request? = some requested) : ∀ item ∈ trace.mgr.pendingTwoPhaseTasks,
        item.type = requested.1 → call.replaces item = true :=
    fun item member same => (supersedes requested request item member same).2
  cases call with
  | launchTask task type taskName cancelTask =>
    simp only [next, TaskMgrCall.request?, PlayerServerTaskMgr.call,
      PlayerServerTaskMgr.launchTask]
    split
    · exact current
    split
    · exact current
    · rename_i launched
      apply current.launch
      rintro (rfl | rfl) <;> simp at launched
  | freezeTask task cancelTask taskName | unFreezeTask task cancelTask taskName
  | setVideoSurfaeTask task taskName =>
    exact current.launch (by rintro (same | same) <;> cases same)
  | markTaskDone taskName => exact current.markTaskDone taskName
  | clearAllTask =>
    simp only [next, TaskMgrCall.request?, PlayerServerTaskMgr.call,
      PlayerServerTaskMgr.clearAllTask]
    split
    · exact current
    · exact ⟨latest_nil, fun _ => rfl⟩
  | speedTask task cancelTask taskName speedMode =>
    apply current.request
    · simp only [PlayerServerTaskMgr.call, PlayerServerTaskMgr.speedTask]
      split
      · rfl
      · split <;> rfl
    · intro inited
      simp only [PlayerServerTaskMgr.call, PlayerServerTaskMgr.speedTask, inited,
        Bool.true_eq_false, if_false]
      split
      · rename_i free
        exact current.latest.started task (idle rfl free)
      · exact current.latest.replaced (task_retag _) (retag_replaces (all rfl)) (.inl rfl)
    · intro closed
      simp [PlayerServerTaskMgr.call, PlayerServerTaskMgr.speedTask, if_pos closed]
  | seekTask task cancelTask taskName seekMode seekTime =>
    apply current.request
    · simp only [PlayerServerTaskMgr.call, PlayerServerTaskMgr.seekTask]
      split
      · rfl
      · split <;> rfl
    · intro inited
      simp only [PlayerServerTaskMgr.call, PlayerServerTaskMgr.seekTask, inited,
        Bool.true_eq_false, if_false]
      split
      · rename_i free
        exact current.latest.started task (idle rfl free)
      · apply current.latest.replaced (task_retag _) (retag_replaces (all rfl))
        split
        · exact .inr rfl
        · exact .inl rfl
    · intro closed
      simp [PlayerServerTaskMgr.call, PlayerServerTaskMgr.seekTask, if_pos closed]
  | seekContinousTask task taskName =>
    have none : ∀ item ∈ trace.mgr.pendingTwoPhaseTasks, item.type ≠ .seeking :=
      fun item member same => by cases all rfl item member same
    apply current.request
    · simp only [PlayerServerTaskMgr.call, PlayerServerTaskMgr.seekContinousTask,
        PlayerServerTaskMgr.launch]
      split
      · rfl
      · split <;> rfl
    · intro inited
      simp only [PlayerServerTaskMgr.call, PlayerServerTaskMgr.seekContinousTask,
        PlayerServerTaskMgr.launch, inited, Bool.true_eq_false, if_false]
      split
      · exact current.latest.started task none
      · have pushed := @Latest.replaced _ _ _ ⟨.seeking, task, .none, taskName, -1, -1, -1⟩ _
          current.latest id (fun _ => rfl)
          (fun item member => (if_neg (none item member)).symm) (.inl rfl)
        rwa [List.map_id] at pushed
    · intro closed
      simp [PlayerServerTaskMgr.call, PlayerServerTaskMgr.seekContinousTask,
        PlayerServerTaskMgr.launch, if_pos closed]

theorem current_next (trace : RequestTrace Handler) (event : TaskMgrEvent Handler)
    (current : Current trace) (supersedes : trace.Supersedes event) :
    Current (trace.next event) := by
  cases event with
  | init =>
    simp only [next, PlayerServerTaskMgr.init]
    split
    · exact current
    · rename_i closed
      have empty := current.closed (by simpa using closed)
      exact ⟨current.latest, fun _ => empty⟩
  | reset => exact ⟨latest_nil, fun _ => rfl⟩
  | call call => exact current_call current call supersedes

/-- In a run whose requests supersede what they find, each type that replaces has at most one
task pending, and this is the last one that was requested. -/
theorem last_request_pending (events : List (TaskMgrEvent Handler))
    (supersedes : Along next Supersedes {} events) :
    Latest (run next {} events).requested (run next {} events).mgr.pendingTwoPhaseTasks :=
  (invariant_of_along Current current_next supersedes ⟨latest_nil, fun _ => rfl⟩).latest

/-- Two seeks while a play is in flight. -/
theorem second_seek_pending :
    let events : List (TaskMgrEvent Nat) :=
      [.init, .call (.launchTask (some 0) .stateChange "play" none),
        .call (.seekTask (some 1) (some 2) "seek" 0 5),
        .call (.seekTask (some 3) (some 4) "seek" 0 7)]
    Along next Supersedes {} events ∧
      Latest (run next {} events).requested (run next {} events).mgr.pendingTwoPhaseTasks := by
  intro events
  have supersedes : Along next Supersedes {} events := by decide
  exact ⟨supersedes, last_request_pending events supersedes⟩

/-- Each `SetPlaybackSpeed` hands over the speed mode that is set, not the one asked for: while
a play is in flight the second request leaves the first one pending. -/
theorem both_speeds_pending :
    let trace := run next {} ([.init, .call (.launchTask (some 0) .stateChange "play" none),
      .call (.speedTask (some 1) (some 2) "speed" 1),
      .call (.speedTask (some 3) (some 4) "speed" 1)] : List (TaskMgrEvent Nat))
    ¬ Latest trace.requested trace.mgr.pendingTwoPhaseTasks := by
  intro trace latest
  exact absurd (latest .rateChange (.inl rfl)).1 (by decide)

end RequestTrace

end PlayerFramework.Player
