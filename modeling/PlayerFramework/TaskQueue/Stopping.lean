import PlayerFramework.TaskQueue.Order

/-!
What is left behind when `Stop` returns.
-/

namespace PlayerFramework.TaskQueue

open Transition

/-- The item that a thread has taken and that is not done. -/
def held : Stage → Option TaskHandlerItem
  | .taken item => some item
  | .approved item => some item
  | .executing item => some item
  | _ => none

def doneTickets (s : QueueState) : List Nat := s.done.map Prod.fst

/-- The inserted task is in the list, held by a thread, or done. -/
def Located (s : QueueState) (ticket : Nat) : Prop :=
  ticket ∈ s.taskList.map (·.ticket) ∨
    (∃ stage ∈ s.processors, ∃ item, held stage = some item ∧ item.ticket = ticket) ∨
    ticket ∈ doneTickets s

/-- No task is lost, and a task that is done leaves its handler answered or at work. -/
structure Accounts (s next : QueueState) : Prop where
  located : ∀ ticket, Located s ticket → Located next ticket
  issued : ∀ ticket < next.issued, ticket < s.issued ∨ Located next ticket
  kept : ∀ entry ∈ s.done, entry ∈ next.done
  answered : ∀ entry ∈ next.done, entry ∈ s.done ∨ entry.2 ≠ .idle

theorem Accounts.refl (s : QueueState) : Accounts s s where
  located _ here := here
  issued _ early := Or.inl early
  kept _ member := member
  answered _ member := Or.inl member

theorem Accounts.trans {s middle next : QueueState} (first : Accounts s middle)
    (second : Accounts middle next) : Accounts s next where
  located ticket here := second.located ticket (first.located ticket here)
  issued ticket early := by
    rcases second.issued ticket early with before | here
    · rcases first.issued ticket before with first' | there
      · exact Or.inl first'
      · exact Or.inr (second.located ticket there)
    · exact Or.inr here
  kept entry member := second.kept entry (first.kept entry member)
  answered entry member := by
    rcases second.answered entry member with before | active
    · exact first.answered entry before
    · exact Or.inr active

theorem Accounts.of_same {s next : QueueState} (list : next.taskList = s.taskList)
    (processors : next.processors = s.processors) (done : next.done = s.done)
    (issued : next.issued = s.issued) : Accounts s next where
  located ticket here := by
    unfold Located doneTickets at here ⊢
    rw [list, processors, done]
    exact here
  issued ticket early := by
    rw [issued] at early
    exact Or.inl early
  kept entry member := by
    rw [done]
    exact member
  answered entry member := by
    rw [done] at member
    exact Or.inl member

theorem Accounts.of_stage {s next : QueueState} {processor : Nat} {old new : Stage}
    (here : s.processors[processor]? = some old)
    (processors : next.processors = s.processors.set processor new)
    (list : ∀ item ∈ s.taskList, item ∈ next.taskList ∨ held new = some item)
    (moved : ∀ item, held old = some item → held new = some item ∨ item.ticket ∈ doneTickets next)
    (kept : ∀ entry ∈ s.done, entry ∈ next.done)
    (answered : ∀ entry ∈ next.done, entry ∈ s.done ∨ entry.2 ≠ .idle)
    (issued : next.issued = s.issued) : Accounts s next where
  located ticket there := by
    have inside : processor < s.processors.length := (List.getElem?_eq_some_iff.mp here).1
    have placed : new ∈ next.processors := by
      rw [processors]
      exact List.mem_set inside new
    rcases there with listed | ⟨stage, member, item, holds, named⟩ | finished
    · obtain ⟨item, member, named⟩ := List.mem_map.mp listed
      rcases list item member with stays | taken
      · exact Or.inl (List.mem_map.mpr ⟨item, stays, named⟩)
      · exact Or.inr (Or.inl ⟨new, placed, item, taken, named⟩)
    · obtain ⟨index, at_index⟩ := List.mem_iff_getElem?.mp member
      by_cases same : processor = index
      · have equal : old = stage := by
          rw [same, at_index] at here
          exact (Option.some.inj here).symm
        rw [← equal] at holds
        rcases moved item holds with still | finished
        · exact Or.inr (Or.inl ⟨new, placed, item, still, named⟩)
        · exact Or.inr (Or.inr (named ▸ finished))
      · have stays : stage ∈ next.processors := by
          rw [processors]
          refine List.mem_iff_getElem?.mpr ⟨index, ?_⟩
          rw [List.getElem?_set_ne same]
          exact at_index
        exact Or.inr (Or.inl ⟨stage, stays, item, holds, named⟩)
    · obtain ⟨entry, member, named⟩ := List.mem_map.mp finished
      exact Or.inr (Or.inr (List.mem_map.mpr ⟨entry, kept entry member, named⟩))
  issued ticket early := by
    rw [issued] at early
    exact Or.inl early
  kept := kept
  answered := answered

theorem cancel_answers (state : TaskState) : TaskHandler.cancel state ≠ .idle := by
  cases state with
  | idle | running | canceled | finished => decide

theorem foldl_cancelFront_done (items : List TaskHandlerItem) (s : QueueState) :
    (∀ item ∈ items, item.ticket ∈ doneTickets (items.foldl cancelFront s)) ∧
    (∀ entry ∈ s.done, entry ∈ (items.foldl cancelFront s).done) ∧
    (∀ entry ∈ (items.foldl cancelFront s).done, entry ∈ s.done ∨ entry.2 ≠ .idle) := by
  induction items generalizing s with
  | nil =>
    refine ⟨?_, fun entry member => member, fun entry member => Or.inl member⟩
    intro item member
    cases member
  | cons item rest ih =>
    obtain ⟨tickets, kept, answered⟩ := ih (cancelFront s item)
    have front : (item.ticket, TaskHandler.cancel (s.handlers item.task)) ∈
        (cancelFront s item).done := List.mem_append_right _ (List.mem_singleton.mpr rfl)
    refine ⟨?_, ?_, ?_⟩
    · intro other member
      rcases List.mem_cons.mp member with rfl | later
      · exact List.mem_map.mpr ⟨_, kept _ front, rfl⟩
      · exact tickets other later
    · intro entry member
      exact kept entry (List.mem_append_left _ member)
    · intro entry member
      rcases answered entry member with before | active
      · rcases List.mem_append.mp before with early | last
        · exact Or.inl early
        · rw [List.mem_singleton.mp last]
          exact Or.inr (cancel_answers _)
      · exact Or.inr active

theorem cancelNotExecutedTaskLocked_accounts (s : QueueState) :
    Accounts s (cancelNotExecutedTaskLocked s) where
  located ticket there := by
    obtain ⟨tickets, kept, -⟩ := foldl_cancelFront_done s.taskList s
    rcases there with listed | ⟨stage, member, item, holds, named⟩ | finished
    · obtain ⟨item, member, named⟩ := List.mem_map.mp listed
      exact Or.inr (Or.inr (named ▸ tickets item member))
    · have same : (cancelNotExecutedTaskLocked s).processors = s.processors :=
        foldl_cancelFront_keeps QueueState.processors (fun _ _ => rfl) s.taskList s
      refine Or.inr (Or.inl ⟨stage, ?_, item, holds, named⟩)
      rw [same]
      exact member
    · obtain ⟨entry, member, named⟩ := List.mem_map.mp finished
      exact Or.inr (Or.inr (List.mem_map.mpr ⟨entry, kept entry member, named⟩))
  issued ticket early := by
    have same : (cancelNotExecutedTaskLocked s).issued = s.issued :=
      foldl_cancelFront_keeps QueueState.issued (fun _ _ => rfl) s.taskList s
    rw [same] at early
    exact Or.inl early
  kept := (foldl_cancelFront_done s.taskList s).2.1
  answered := (foldl_cancelFront_done s.taskList s).2.2

theorem insertTask_accounts (task : Nat) (delayUs curTimeNs : UInt64) (s : QueueState) :
    Accounts s (insertTask task delayUs curTimeNs s) := by
  unfold insertTask
  split
  · exact .refl s
  let item : TaskHandlerItem := ⟨task, delayUs * usToNs + curTimeNs, s.issued⟩
  have perm := insertItem_perm item s.taskList
  refine ⟨?_, ?_, fun entry member => member, fun entry member => Or.inl member⟩
  · intro ticket there
    rcases there with listed | elsewhere
    · obtain ⟨other, member, named⟩ := List.mem_map.mp listed
      have stays : other ∈ insertItem item s.taskList :=
        perm.mem_iff.mpr (List.mem_cons_of_mem _ member)
      exact Or.inl (List.mem_map.mpr ⟨other, stays, named⟩)
    · exact Or.inr elsewhere
  · intro ticket early
    by_cases before : ticket < s.issued
    · exact Or.inl before
    have newest : ticket = s.issued := by
      have bound : ticket < s.issued + 1 := early
      omega
    have there : item ∈ insertItem item s.taskList := perm.mem_iff.mpr (by simp)
    exact Or.inr (Or.inl (List.mem_map.mpr ⟨item, there, newest.symm⟩))

theorem enqueueTask_accounts (task : Nat) (cancelNotExecuted : Bool) (delayUs curTimeNs : UInt64)
    (s : QueueState) : Accounts s (enqueueTask task cancelNotExecuted delayUs curTimeNs s) := by
  unfold enqueueTask
  split
  · exact .refl s
  split
  · exact .refl s
  cases cancelNotExecuted with
  | false => exact insertTask_accounts task delayUs curTimeNs s
  | true =>
    exact (cancelNotExecutedTaskLocked_accounts s).trans
      (insertTask_accounts task delayUs curTimeNs _)

theorem takeFront_accounts {processor : Nat} {s : QueueState}
    (here : s.processors[processor]? = some .top) (curTimeNs : UInt64) :
    Accounts s (takeFront processor curTimeNs s) := by
  unfold takeFront
  split
  · refine .of_stage here rfl (fun item member => Or.inl member) ?_ (fun entry member => member)
      (fun entry member => Or.inl member) rfl
    intro item holds
    cases holds
  · split
    · exact .refl s
    rename_i item rest front
    split
    · refine .of_stage here rfl ?_ ?_ (fun entry member => member)
        (fun entry member => Or.inl member) rfl
      · intro other member
        rw [front] at member
        rcases List.mem_cons.mp member with rfl | later
        · exact Or.inr rfl
        · exact Or.inl later
      · intro other holds
        cases holds
    · exact .refl s

theorem markDone_kept (s : QueueState) (item : TaskHandlerItem) (state : TaskState) :
    ∀ entry ∈ s.done, entry ∈ (markDone s item state).done :=
  fun _ member => List.mem_append_left _ member

theorem markDone_ticket (s : QueueState) (item : TaskHandlerItem) (state : TaskState) :
    item.ticket ∈ doneTickets (markDone s item state) :=
  List.mem_map.mpr ⟨(item.ticket, state), List.mem_append_right _ (by simp), rfl⟩

theorem markDone_answered {s : QueueState} {item : TaskHandlerItem} {state : TaskState}
    (active : state ≠ .idle) :
    ∀ entry ∈ (markDone s item state).done, entry ∈ s.done ∨ entry.2 ≠ .idle := by
  intro entry member
  rcases List.mem_append.mp member with early | last
  · exact Or.inl early
  · rw [List.mem_singleton.mp last]
    exact Or.inr active

theorem taskProcessor_accounts (periodicTimeUs : Nat → UInt64) (processor : Nat)
    (curTimeNs : UInt64) (s : QueueState) :
    Accounts s (taskProcessor periodicTimeUs processor curTimeNs s) := by
  unfold taskProcessor
  split
  · exact .refl s
  · exact .refl s
  · rename_i here
    exact takeFront_accounts here curTimeNs
  · rename_i item here
    split
    · refine .of_stage here rfl (fun other member => Or.inl member) ?_ (markDone_kept _ _ _)
        (markDone_answered (by decide)) rfl
      intro other holds
      cases holds
      exact Or.inr (markDone_ticket _ _ _)
    · refine .of_stage here rfl (fun other member => Or.inl member) ?_
        (fun entry member => member) (fun entry member => Or.inl member) rfl
      intro other holds
      exact Or.inl holds
  · rename_i item here
    refine .of_stage here rfl (fun other member => Or.inl member) ?_
      (fun entry member => member) (fun entry member => Or.inl member) rfl
    intro other holds
    cases holds
  · rename_i item here
    split
    · rename_i busy
      refine .of_stage here rfl (fun other member => Or.inl member) ?_ (markDone_kept _ _ _)
        (markDone_answered busy) rfl
      intro other holds
      cases holds
      exact Or.inr (markDone_ticket _ _ _)
    · refine .of_stage here rfl (fun other member => Or.inl member) ?_
        (fun entry member => member) (fun entry member => Or.inl member) rfl
      intro other holds
      exact Or.inl holds
  · rename_i item here
    refine .of_stage here rfl (fun other member => Or.inl member) ?_ (markDone_kept _ _ _)
      (markDone_answered (by decide)) rfl
    intro other holds
    cases holds
    exact Or.inr (markDone_ticket _ _ _)
  · rename_i item here
    refine .of_stage here rfl (fun other member => Or.inl member) ?_
      (fun entry member => member) (fun entry member => Or.inl member) rfl
    intro other holds
    cases holds
  · rename_i item here
    have leaves : Accounts s (setStage s processor .top) := by
      refine .of_stage here rfl (fun other member => Or.inl member) ?_
        (fun entry member => member) (fun entry member => Or.inl member) rfl
      intro other holds
      cases holds
    exact leaves.trans (enqueueTask_accounts item.task false (periodicTimeUs item.task) curTimeNs _)

theorem start_accounts (s : QueueState) : Accounts s (start s) := by
  unfold start
  split
  · exact .refl s
  refine ⟨?_, fun ticket early => Or.inl early, fun entry member => member,
    fun entry member => Or.inl member⟩
  intro ticket there
  rcases there with listed | ⟨stage, member, rest⟩ | finished
  · exact Or.inl listed
  · exact Or.inr (Or.inl ⟨stage, List.mem_append_left _ member, rest⟩)
  · exact Or.inr (Or.inr finished)

theorem step_accounts (periodicTimeUs : Nat → UInt64) (s : QueueState) (input : Input) :
    Accounts s (step periodicTimeUs s input) := by
  cases input with
  | start => exact start_accounts s
  | stop caller =>
    change Accounts s (stop caller s)
    unfold stop
    split
    · exact .refl s
    split
    · exact .of_same rfl rfl rfl rfl
    split
    · exact .refl s
    · split
      · exact .of_same rfl rfl rfl rfl
      · exact .of_same rfl rfl rfl rfl
  | stopJoined call =>
    change Accounts s (stopJoined call s)
    unfold stopJoined
    split
    · split
      · exact .of_same rfl rfl rfl rfl
      · exact .refl s
    · exact .refl s
  | stopDrained call =>
    change Accounts s (stopDrained call s)
    unfold stopDrained
    split
    · exact (cancelNotExecutedTaskLocked_accounts s).trans (.of_same rfl rfl rfl rfl)
    · exact .refl s
  | clear task => exact .of_same rfl rfl rfl rfl
  | enqueueTask task cancelNotExecuted delayUs curTimeNs =>
    exact enqueueTask_accounts task cancelNotExecuted delayUs curTimeNs s
  | cancel task | getResult task => exact .of_same rfl rfl rfl rfl
  | taskProcessor processor curTimeNs =>
    exact taskProcessor_accounts periodicTimeUs processor curTimeNs s

/-- A handler that is RUNNING is executed by a thread of the queue. -/
def RunningExecuted (s : QueueState) : Prop :=
  ∀ task, s.handlers task = .running →
    ∃ item, Stage.executing item ∈ s.processors ∧ item.task = task

section Executing

variable {s next : QueueState}

theorem RunningExecuted.of_kept (executed : RunningExecuted s)
    (processors : ∀ stage ∈ s.processors, stage ∈ next.processors)
    (handlers : ∀ task, next.handlers task = .running → s.handlers task = .running) :
    RunningExecuted next := by
  intro task running
  obtain ⟨item, executing, named⟩ := executed task (handlers task running)
  exact ⟨item, processors _ executing, named⟩

theorem setHandler_running {task other : Nat} {state : TaskState}
    (quiet : state = .running → s.handlers task = .running)
    (running : setHandler s.handlers task state other = .running) :
    s.handlers other = .running := by
  unfold setHandler at running
  split at running
  · rename_i same
    rw [same]
    exact quiet running
  · exact running

theorem cancelFront_running {item : TaskHandlerItem} {task : Nat}
    (running : (cancelFront s item).handlers task = .running) : s.handlers task = .running := by
  refine setHandler_running (fun cancelled => ?_) running
  cases state : s.handlers item.task <;> simp_all [TaskHandler.cancel]

theorem RunningExecuted.cancelled (executed : RunningExecuted s) :
    RunningExecuted (cancelNotExecutedTaskLocked s) := by
  have each (items : List TaskHandlerItem) (s : QueueState) (executed : RunningExecuted s) :
      RunningExecuted (items.foldl cancelFront s) := by
    induction items generalizing s with
    | nil => exact executed
    | cons item rest ih =>
      exact ih _ (executed.of_kept (fun _ member => member) fun _ => cancelFront_running)
  exact each s.taskList s executed

theorem RunningExecuted.enqueueTask (executed : RunningExecuted s) (task : Nat)
    (cancelNotExecuted : Bool) (delayUs curTimeNs : UInt64) :
    RunningExecuted (enqueueTask task cancelNotExecuted delayUs curTimeNs s) := by
  have inserted {s : QueueState} (executed : RunningExecuted s) :
      RunningExecuted (insertTask task delayUs curTimeNs s) := by
    unfold insertTask
    split <;> exact executed
  unfold TaskQueue.enqueueTask
  split_ifs
  · exact executed
  · exact inserted executed.cancelled
  · exact inserted executed
  · exact executed

variable {processor : Nat} {old : Stage}

/-- A thread goes on: the handler that it executed, if any, is not RUNNING any more. -/
theorem RunningExecuted.stage (executed : RunningExecuted s) (new : Stage)
    (found : s.processors[processor]? = some old)
    (processors : next.processors = s.processors.set processor new)
    (handlers : ∀ task, next.handlers task = .running →
      (∃ item, new = .executing item ∧ item.task = task) ∨
        s.handlers task = .running ∧ ∀ item, old = .executing item → item.task ≠ task) :
    RunningExecuted next := by
  have inside := (List.getElem?_eq_some_iff.mp found).1
  intro task running
  rw [processors]
  rcases handlers task running with ⟨item, rfl, named⟩ | ⟨before, others⟩
  · exact ⟨item, List.mem_set inside _, named⟩
  obtain ⟨item, member, named⟩ := executed task before
  refine ⟨item, ?_, named⟩
  obtain ⟨index, there⟩ := List.mem_iff_getElem?.mp member
  have apart : processor ≠ index := by
    intro same
    rw [same, there, Option.some.injEq] at found
    exact others item found.symm named
  exact List.mem_iff_getElem?.mpr ⟨index, by rw [List.getElem?_set_ne apart, there]⟩

theorem RunningExecuted.taskProcessor (executed : RunningExecuted s)
    (periodicTimeUs : Nat → UInt64) (curTimeNs : UInt64) :
    RunningExecuted (taskProcessor periodicTimeUs processor curTimeNs s) := by
  have moved {old new : Stage} (found : s.processors[processor]? = some old)
      (idle : ∀ item, old ≠ .executing item) : RunningExecuted (setStage s processor new) :=
    executed.stage new found rfl fun task running =>
      .inr ⟨running, fun item same => absurd same (idle item)⟩
  unfold TaskQueue.taskProcessor
  split
  · exact executed
  · exact executed
  · rename_i found
    have taken (new : Stage) : RunningExecuted (setStage s processor new) :=
      moved found fun _ => Stage.noConfusion
    unfold takeFront
    split
    · exact taken .exited
    split
    · exact executed
    · split
      · exact taken (.taken _)
      · exact executed
  · rename_i item found
    split
    · exact moved found fun _ => Stage.noConfusion
    · exact moved found fun _ => Stage.noConfusion
  · rename_i found
    exact moved found fun _ => Stage.noConfusion
  · rename_i item found
    split
    · exact moved found fun _ => Stage.noConfusion
    refine executed.stage (.executing item) found rfl fun task running => ?_
    by_cases mine : item.task = task
    · exact .inl ⟨item, rfl, mine⟩
    · refine .inr ⟨?_, fun _ => Stage.noConfusion⟩
      simpa [setHandler, Ne.symm mine] using running
  · rename_i item found
    refine executed.stage (.executed item) found rfl fun task running => .inr ?_
    have other : item.task ≠ task := by
      intro mine
      simp [mine, setHandler] at running
    refine ⟨by simpa [markDone, setStage, setHandler, other.symm] using running, ?_⟩
    intro mine same
    rw [Stage.executing.injEq] at same
    rwa [← same]
  · rename_i found
    exact moved found fun _ => Stage.noConfusion
  · rename_i item found
    have top : RunningExecuted (setStage s processor .top) :=
      moved found fun _ => Stage.noConfusion
    exact top.enqueueTask _ _ _ _

theorem RunningExecuted.step (executed : RunningExecuted s) (periodicTimeUs : Nat → UInt64)
    (input : Input) : RunningExecuted (step periodicTimeUs s input) := by
  cases input with
  | start =>
    change RunningExecuted (start s)
    unfold start
    split
    · exact executed
    · exact executed.of_kept (fun _ member => List.mem_append_left _ member) fun _ => id
  | stop caller =>
    change RunningExecuted (stop caller s)
    unfold stop
    repeat' split
    all_goals exact executed
  | stopJoined call =>
    change RunningExecuted (stopJoined call s)
    unfold stopJoined
    repeat' split
    all_goals exact executed
  | stopDrained call =>
    change RunningExecuted (stopDrained call s)
    unfold stopDrained
    split
    · exact executed.cancelled
    · exact executed
  | enqueueTask task cancelNotExecuted delayUs curTimeNs => exact executed.enqueueTask _ _ _ _
  | clear task | cancel task | getResult task =>
    refine executed.of_kept (fun _ member => member) fun other => setHandler_running fun now => ?_
    cases state : s.handlers task <;>
      simp_all [TaskHandler.cancel, TaskHandler.clearResult, TaskHandler.getResult]
  | taskProcessor processor curTimeNs => exact executed.taskProcessor periodicTimeUs curTimeNs

/-- In every run, whichever threads start and stop the queue. -/
theorem running_executed (periodicTimeUs : Nat → UInt64) (inputs : List Input) :
    RunningExecuted (reached periodicTimeUs inputs) :=
  invariant_of_run RunningExecuted (fun _ input executed => executed.step periodicTimeUs input)
    inputs fun _ running => by cases running

end Executing

end PlayerFramework.TaskQueue
