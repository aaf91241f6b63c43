import PlayerFramework.TaskQueue.Queue

/-!
The order of the list, and that each inserted task leaves it once, from the front.
-/

namespace PlayerFramework.TaskQueue

open Transition

section Cancelling

theorem foldl_cancelFront_keeps {β : Type} (field : QueueState → β)
    (kept : ∀ s item, field (cancelFront s item) = field s) (items : List TaskHandlerItem)
    (s : QueueState) : field (items.foldl cancelFront s) = field s := by
  induction items generalizing s with
  | nil => rfl
  | cons item rest ih => rw [List.foldl_cons, ih, kept]

theorem foldl_cancelFront_fates (items : List TaskHandlerItem) (s : QueueState) :
    (items.foldl cancelFront s).fates =
      s.fates ++ items.map fun item => (item.ticket, Fate.cancelled) := by
  induction items generalizing s with
  | nil => simp
  | cons item rest ih => simp [ih, cancelFront]

end Cancelling

/-- What the steps do with the list: nothing, take its first item, cancel all of it, or insert
an item with a new ticket. -/
inductive Moves (s : QueueState) : QueueState → Prop
  | same {next : QueueState} (list : next.taskList = s.taskList) (fates : next.fates = s.fates)
      (issued : next.issued = s.issued) : Moves s next
  | took {next : QueueState} (item : TaskHandlerItem) (list : s.taskList = item :: next.taskList)
      (fates : next.fates = s.fates ++ [(item.ticket, .taken)])
      (issued : next.issued = s.issued) : Moves s next
  | cancelled {next : QueueState} (list : next.taskList = [])
      (fates : next.fates = s.fates ++ s.taskList.map fun item => (item.ticket, .cancelled))
      (issued : next.issued = s.issued) : Moves s next
  | inserted {next : QueueState} (item : TaskHandlerItem) (ticket : item.ticket = s.issued)
      (list : next.taskList = insertItem item s.taskList) (fates : next.fates = s.fates)
      (issued : next.issued = s.issued + 1) : Moves s next

theorem Moves.refl (s : QueueState) : Moves s s := .same rfl rfl rfl

theorem Moves.of_same {s before next : QueueState} (moves : Moves before next)
    (list : before.taskList = s.taskList) (fates : before.fates = s.fates)
    (issued : before.issued = s.issued) : Moves s next := by
  cases moves with
  | same list' fates' issued' =>
    exact .same (list'.trans list) (fates'.trans fates) (issued'.trans issued)
  | took item list' fates' issued' =>
    exact .took item (list.symm.trans list') (by rw [fates', fates]) (issued'.trans issued)
  | cancelled list' fates' issued' =>
    exact .cancelled list' (by rw [fates', fates, list]) (issued'.trans issued)
  | inserted item ticket list' fates' issued' =>
    exact .inserted item (ticket.trans issued) (by rw [list', list]) (fates'.trans fates)
      (by rw [issued', issued])

theorem cancelNotExecutedTaskLocked_moves (s : QueueState) :
    Moves s (cancelNotExecutedTaskLocked s) :=
  .cancelled rfl (foldl_cancelFront_fates s.taskList s)
    (foldl_cancelFront_keeps QueueState.issued (fun _ _ => rfl) s.taskList s)

theorem insertTask_moves (task : Nat) (delayUs curTimeNs : UInt64) (s : QueueState) :
    Moves s (insertTask task delayUs curTimeNs s) := by
  unfold insertTask
  split
  · exact .refl s
  · exact .inserted ⟨task, delayUs * usToNs + curTimeNs, s.issued⟩ rfl rfl rfl rfl

theorem enqueueTask_moves (task : Nat) (cancelNotExecuted : Bool) (delayUs curTimeNs : UInt64)
    (s : QueueState) :
    ∃ middle, Moves s middle ∧
      Moves middle (enqueueTask task cancelNotExecuted delayUs curTimeNs s) := by
  unfold enqueueTask
  split
  · exact ⟨s, .refl s, .refl s⟩
  split
  · exact ⟨s, .refl s, .refl s⟩
  · cases cancelNotExecuted with
    | false => exact ⟨s, .refl s, insertTask_moves task delayUs curTimeNs s⟩
    | true =>
      exact ⟨_, cancelNotExecutedTaskLocked_moves s, insertTask_moves task delayUs curTimeNs _⟩

theorem takeFront_moves (processor : Nat) (curTimeNs : UInt64) (s : QueueState) :
    Moves s (takeFront processor curTimeNs s) := by
  unfold takeFront
  split
  · exact .same rfl rfl rfl
  split
  · exact .refl s
  · rename_i item rest front
    split
    · exact .took item front rfl rfl
    · exact .refl s

variable (periodicTimeUs : Nat → UInt64)

theorem taskProcessor_moves (processor : Nat) (curTimeNs : UInt64) (s : QueueState) :
    ∃ middle, Moves s middle ∧
      Moves middle (taskProcessor periodicTimeUs processor curTimeNs s) := by
  unfold taskProcessor
  split
  · exact ⟨s, .refl s, .refl s⟩
  · exact ⟨s, .refl s, .refl s⟩
  · exact ⟨s, .refl s, takeFront_moves processor curTimeNs s⟩
  · split
    · exact ⟨s, .refl s, .same rfl rfl rfl⟩
    · exact ⟨s, .refl s, .same rfl rfl rfl⟩
  · exact ⟨s, .refl s, .same rfl rfl rfl⟩
  · split
    · exact ⟨s, .refl s, .same rfl rfl rfl⟩
    · exact ⟨s, .refl s, .same rfl rfl rfl⟩
  · exact ⟨s, .refl s, .same rfl rfl rfl⟩
  · exact ⟨s, .refl s, .same rfl rfl rfl⟩
  · rename_i item repeats
    obtain ⟨middle, first, second⟩ := enqueueTask_moves item.task false
      (periodicTimeUs item.task) curTimeNs (setStage s processor .top)
    exact ⟨middle, first.of_same rfl rfl rfl, second⟩

theorem step_moves (s : QueueState) (input : Input) :
    ∃ middle, Moves s middle ∧ Moves middle (step periodicTimeUs s input) := by
  cases input with
  | start =>
    refine ⟨s, .refl s, ?_⟩
    change Moves s (start s)
    unfold start
    split
    · exact .refl s
    · exact .same rfl rfl rfl
  | stop caller =>
    refine ⟨s, .refl s, ?_⟩
    change Moves s (stop caller s)
    unfold stop
    split
    · exact .refl s
    split
    · exact .same rfl rfl rfl
    split
    · exact .refl s
    · split
      · exact .same rfl rfl rfl
      · exact .same rfl rfl rfl
  | stopJoined call =>
    refine ⟨s, .refl s, ?_⟩
    change Moves s (stopJoined call s)
    unfold stopJoined
    split
    · split
      · exact .same rfl rfl rfl
      · exact .refl s
    · exact .refl s
  | stopDrained call =>
    change ∃ middle, Moves s middle ∧ Moves middle (stopDrained call s)
    unfold stopDrained
    split
    · exact ⟨_, cancelNotExecutedTaskLocked_moves s, .same rfl rfl rfl⟩
    · exact ⟨s, .refl s, .refl s⟩
  | clear task => exact ⟨s, .refl s, .same rfl rfl rfl⟩
  | enqueueTask task cancelNotExecuted delayUs curTimeNs =>
    exact enqueueTask_moves task cancelNotExecuted delayUs curTimeNs s
  | cancel task | getResult task => exact ⟨s, .refl s, .same rfl rfl rfl⟩
  | taskProcessor processor curTimeNs =>
    exact taskProcessor_moves periodicTimeUs processor curTimeNs s

/-- Earlier in time, or inserted earlier for the same time. -/
def Before (first second : TaskHandlerItem) : Prop :=
  first.executeTimeNs < second.executeTimeNs ∨
    (first.executeTimeNs = second.executeTimeNs ∧ first.ticket < second.ticket)

theorem insertItem_cons (item front : TaskHandlerItem) (rest : List TaskHandlerItem) :
    insertItem item (front :: rest) =
      if front.executeTimeNs ≤ item.executeTimeNs then front :: insertItem item rest
      else item :: front :: rest := by
  unfold insertItem
  by_cases early : front.executeTimeNs ≤ item.executeTimeNs
  · simp [early]
  · simp [early]

theorem insertItem_perm (item : TaskHandlerItem) (taskList : List TaskHandlerItem) :
    (insertItem item taskList).Perm (item :: taskList) := by
  refine List.perm_middle.trans ?_
  rw [List.takeWhile_append_dropWhile]

theorem insertItem_sublist (item : TaskHandlerItem) (taskList : List TaskHandlerItem) :
    taskList.Sublist (insertItem item taskList) := by
  have whole : taskList =
      taskList.takeWhile (fun other => decide (other.executeTimeNs ≤ item.executeTimeNs)) ++
        taskList.dropWhile (fun other => decide (other.executeTimeNs ≤ item.executeTimeNs)) :=
    List.takeWhile_append_dropWhile.symm
  calc taskList = _ := whole
    List.Sublist _ _ := List.Sublist.append_left (List.sublist_cons_self item _) _

theorem Before.time_le {first second : TaskHandlerItem} (before : Before first second) :
    first.executeTimeNs ≤ second.executeTimeNs := by
  rcases before with earlier | ⟨same, -⟩
  · exact UInt64.le_of_lt earlier
  · rw [same]
    exact UInt64.le_refl _

theorem insertItem_sorted {item : TaskHandlerItem} {taskList : List TaskHandlerItem}
    (sorted : taskList.Pairwise Before) (newest : ∀ other ∈ taskList, other.ticket < item.ticket) :
    (insertItem item taskList).Pairwise Before := by
  induction taskList with
  | nil => exact List.pairwise_singleton Before item
  | cons front rest ih =>
    obtain ⟨first, later⟩ := List.pairwise_cons.mp sorted
    rw [insertItem_cons]
    by_cases early : front.executeTimeNs ≤ item.executeTimeNs
    · rw [if_pos early]
      refine List.pairwise_cons.mpr
        ⟨?_, ih later fun other member => newest other (by simp [member])⟩
      intro other member
      rcases List.mem_cons.mp ((insertItem_perm item rest).subset member) with rfl | inside
      · by_cases same : front.executeTimeNs = other.executeTimeNs
        · exact Or.inr ⟨same, newest front (by simp)⟩
        · exact Or.inl (UInt64.lt_of_le_of_ne early same)
      · exact first other inside
    · rw [if_neg early]
      have after : item.executeTimeNs < front.executeTimeNs := UInt64.not_le.mp early
      refine List.pairwise_cons.mpr ⟨?_, sorted⟩
      intro other member
      rcases List.mem_cons.mp member with rfl | inside
      · exact Or.inl after
      · exact Or.inl (UInt64.lt_of_lt_of_le after (first other inside).time_le)

/-- The tickets in the order in which they leave or will leave the list. -/
def order (s : QueueState) : List Nat := s.fates.map Prod.fst ++ s.taskList.map (·.ticket)

/-- The list is sorted, and each ticket has left it once or is in it once. -/
structure Ordered (s : QueueState) : Prop where
  sorted : s.taskList.Pairwise Before
  once : (order s).Nodup
  issued : ∀ ticket, ticket ∈ order s ↔ ticket < s.issued

theorem Moves.ordered {s next : QueueState} (moves : Moves s next) (ordered : Ordered s) :
    Ordered next := by
  cases moves with
  | same list fates issued =>
    have same : order next = order s := by rw [order, list, fates, order]
    refine ⟨by rw [list]; exact ordered.sorted, by rw [same]; exact ordered.once, ?_⟩
    rw [same, issued]
    exact ordered.issued
  | took item list fates issued =>
    have same : order next = order s := by
      rw [order, order, fates, list]
      simp
    have sorted := ordered.sorted
    rw [list] at sorted
    refine ⟨(List.pairwise_cons.mp sorted).2, by rw [same]; exact ordered.once, ?_⟩
    rw [same, issued]
    exact ordered.issued
  | cancelled list fates issued =>
    have same : order next = order s := by
      rw [order, order, fates, list]
      simp [Function.comp_def]
    refine ⟨by rw [list]; exact .nil, by rw [same]; exact ordered.once, ?_⟩
    rw [same, issued]
    exact ordered.issued
  | inserted item ticket list fates issued =>
    have more : (order next).Perm (s.issued :: order s) := by
      rw [order, fates, list, ← ticket]
      exact (((insertItem_perm item s.taskList).map _).append_left _).trans List.perm_middle
    have fresh : s.issued ∉ order s := fun member =>
      Nat.lt_irrefl _ ((ordered.issued s.issued).mp member)
    refine ⟨?_, ?_, ?_⟩
    · rw [list]
      refine insertItem_sorted ordered.sorted ?_
      intro other member
      rw [ticket]
      exact (ordered.issued other.ticket).mp
        (List.mem_append_right _ (List.mem_map.mpr ⟨other, member, rfl⟩))
    · exact more.nodup_iff.mpr (List.nodup_cons.mpr ⟨fresh, ordered.once⟩)
    · intro other
      rw [more.mem_iff, List.mem_cons, ordered.issued other]
      omega

theorem Moves.order_sublist {s next : QueueState} (moves : Moves s next) :
    (order s).Sublist (order next) := by
  cases moves with
  | same list fates issued =>
    rw [order, order, list, fates]
  | took item list fates issued =>
    rw [order, order, fates, list]
    simp
  | cancelled list fates issued =>
    rw [order, order, fates]
    simp [Function.comp_def]
  | inserted item ticket list fates issued =>
    rw [order, order, fates, list]
    exact List.Sublist.append_left ((insertItem_sublist item s.taskList).map _) _

theorem step_ordered {periodicTimeUs : Nat → UInt64} {s : QueueState} (input : Input)
    (ordered : Ordered s) : Ordered (step periodicTimeUs s input) := by
  obtain ⟨middle, first, second⟩ := step_moves periodicTimeUs s input
  exact second.ordered (first.ordered ordered)

theorem ordered_initially : Ordered {} where
  sorted := .nil
  once := List.nodup_nil
  issued ticket := by simp [order]

theorem run_order_sublist (s : QueueState) (inputs : List Input) :
    (order s).Sublist (order (run (step periodicTimeUs) s inputs)) := by
  induction inputs generalizing s with
  | nil => exact List.Sublist.refl _
  | cons input rest ih =>
    obtain ⟨middle, first, second⟩ := step_moves periodicTimeUs s input
    exact (first.order_sublist.trans second.order_sublist).trans (ih _)

/-- In every reachable state the list is sorted, with the order of insertion among equal times;
each inserted task is in the list, or it has left it once, taken or cancelled; and the tasks
leave in the order of the list, whatever is inserted between them. -/
theorem queue_in_order (periodicTimeUs : Nat → UInt64) (inputs more : List Input) :
    Ordered (reached periodicTimeUs inputs) ∧ (order (reached periodicTimeUs inputs)).Sublist
        (order (reached periodicTimeUs (inputs ++ more))) := by
  constructor
  · exact invariant_of_run Ordered (fun _ input ordered => step_ordered input ordered) inputs
      ordered_initially
  · rw [reached, reached, run_append]
    exact run_order_sublist periodicTimeUs _ more

end PlayerFramework.TaskQueue
