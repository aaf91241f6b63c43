import PlayerFramework.TaskQueue.Stopping

/-!
The phases of a queue whose calls of `Stop` come one after the other and from other threads.
-/

namespace PlayerFramework.TaskQueue

open Transition

/-- The fields by which `Start`, `Stop` and the threads know of each other. -/
structure SameControl (s next : QueueState) : Prop where
  isExit : next.isExit = s.isExit
  thread : next.thread = s.thread
  stops : next.stops = s.stops
  detached : next.detached = s.detached

theorem cancelNotExecutedTaskLocked_control (s : QueueState) :
    SameControl s (cancelNotExecutedTaskLocked s) where
  isExit := foldl_cancelFront_keeps QueueState.isExit (fun _ _ => rfl) s.taskList s
  thread := foldl_cancelFront_keeps QueueState.thread (fun _ _ => rfl) s.taskList s
  stops := foldl_cancelFront_keeps QueueState.stops (fun _ _ => rfl) s.taskList s
  detached := foldl_cancelFront_keeps QueueState.detached (fun _ _ => rfl) s.taskList s

theorem cancelNotExecutedTaskLocked_processors (s : QueueState) :
    (cancelNotExecutedTaskLocked s).processors = s.processors :=
  foldl_cancelFront_keeps QueueState.processors (fun _ _ => rfl) s.taskList s

theorem insertTask_control (task : Nat) (delayUs curTimeNs : UInt64) (s : QueueState) :
    SameControl s (insertTask task delayUs curTimeNs s) ∧
      (insertTask task delayUs curTimeNs s).processors = s.processors := by
  unfold insertTask
  split
  · exact ⟨⟨rfl, rfl, rfl, rfl⟩, rfl⟩
  · exact ⟨⟨rfl, rfl, rfl, rfl⟩, rfl⟩

theorem enqueueTask_control (task : Nat) (cancelNotExecuted : Bool) (delayUs curTimeNs : UInt64)
    (s : QueueState) :
    SameControl s (enqueueTask task cancelNotExecuted delayUs curTimeNs s) ∧
      (enqueueTask task cancelNotExecuted delayUs curTimeNs s).processors = s.processors := by
  unfold enqueueTask
  split
  · exact ⟨⟨rfl, rfl, rfl, rfl⟩, rfl⟩
  split
  · exact ⟨⟨rfl, rfl, rfl, rfl⟩, rfl⟩
  cases cancelNotExecuted with
  | false => exact insertTask_control task delayUs curTimeNs s
  | true =>
    have first := cancelNotExecutedTaskLocked_control s
    obtain ⟨second, same⟩ := insertTask_control task delayUs curTimeNs
      (cancelNotExecutedTaskLocked s)
    exact ⟨⟨second.isExit.trans first.isExit, second.thread.trans first.thread,
      second.stops.trans first.stops, second.detached.trans first.detached⟩,
      same.trans (cancelNotExecutedTaskLocked_processors s)⟩

variable {s : QueueState} {call : Nat}

theorem enqueueTask_stopped (stopped : s.isExit = true) (task : Nat) (cancelNotExecuted : Bool)
    (delayUs curTimeNs : UInt64) :
    enqueueTask task cancelNotExecuted delayUs curTimeNs s = s := by
  unfold enqueueTask
  by_cases valid : delayUs < maxDelayUs
  · rw [if_neg (fun invalid => invalid valid), if_pos stopped]
  · rw [if_pos valid]

theorem taskProcessor_control (periodicTimeUs : Nat → UInt64) (processor : Nat)
    (curTimeNs : UInt64) (s : QueueState) :
    SameControl s (taskProcessor periodicTimeUs processor curTimeNs s) ∧
      ((taskProcessor periodicTimeUs processor curTimeNs s).processors = s.processors ∨
        (∃ old new, s.processors[processor]? = some old ∧ old ≠ .exited ∧
          (taskProcessor periodicTimeUs processor curTimeNs s).processors =
            s.processors.set processor new)) := by
  unfold taskProcessor
  split
  · exact ⟨⟨rfl, rfl, rfl, rfl⟩, Or.inl rfl⟩
  · exact ⟨⟨rfl, rfl, rfl, rfl⟩, Or.inl rfl⟩
  · rename_i here
    unfold takeFront
    split
    · exact ⟨⟨rfl, rfl, rfl, rfl⟩, Or.inr ⟨_, _, here, by decide, rfl⟩⟩
    split
    · exact ⟨⟨rfl, rfl, rfl, rfl⟩, Or.inl rfl⟩
    · split
      · exact ⟨⟨rfl, rfl, rfl, rfl⟩, Or.inr ⟨_, _, here, by decide, rfl⟩⟩
      · exact ⟨⟨rfl, rfl, rfl, rfl⟩, Or.inl rfl⟩
  · rename_i item here
    split
    · exact ⟨⟨rfl, rfl, rfl, rfl⟩, Or.inr ⟨_, _, here, Stage.noConfusion, rfl⟩⟩
    · exact ⟨⟨rfl, rfl, rfl, rfl⟩, Or.inr ⟨_, _, here, Stage.noConfusion, rfl⟩⟩
  · rename_i item here
    exact ⟨⟨rfl, rfl, rfl, rfl⟩, Or.inr ⟨_, _, here, Stage.noConfusion, rfl⟩⟩
  · rename_i item here
    split
    · exact ⟨⟨rfl, rfl, rfl, rfl⟩, Or.inr ⟨_, _, here, Stage.noConfusion, rfl⟩⟩
    · exact ⟨⟨rfl, rfl, rfl, rfl⟩, Or.inr ⟨_, _, here, Stage.noConfusion, rfl⟩⟩
  · rename_i item here
    exact ⟨⟨rfl, rfl, rfl, rfl⟩, Or.inr ⟨_, _, here, Stage.noConfusion, rfl⟩⟩
  · rename_i item here
    exact ⟨⟨rfl, rfl, rfl, rfl⟩, Or.inr ⟨_, _, here, Stage.noConfusion, rfl⟩⟩
  · rename_i item here
    obtain ⟨control, same⟩ := enqueueTask_control item.task false (periodicTimeUs item.task)
      curTimeNs (setStage s processor .top)
    exact ⟨⟨control.isExit, control.thread, control.stops, control.detached⟩,
      Or.inr ⟨_, _, here, Stage.noConfusion, same⟩⟩

theorem taskProcessor_exited (gone : ∀ stage ∈ s.processors, stage = .exited)
    (periodicTimeUs : Nat → UInt64) (processor : Nat) (curTimeNs : UInt64) :
    taskProcessor periodicTimeUs processor curTimeNs s = s := by
  unfold taskProcessor
  cases here : s.processors[processor]? with
  | none => rfl
  | some stage =>
    have left := gone stage (List.mem_of_getElem? here)
    rw [left]

/-- No call of `Stop` is between its first unlock and its return. -/
def Quiet (s : QueueState) : Prop := ∀ stage ∈ s.stops, ∃ issued, stage = .returned issued

instance (s : QueueState) : Decidable (Quiet s) :=
  decidable_of_iff (∀ stage ∈ s.stops, stage = .returned (match stage with
    | .returned issued => issued
    | _ => 0)) (by
      refine forall₂_congr fun stage _ => ⟨fun same => ⟨_, same⟩, ?_⟩
      rintro ⟨issued, rfl⟩
      rfl)

/-- `Stop` comes from another thread than the queue's, and neither it nor `Start` comes while a
call of `Stop` is in progress. -/
def Orderly (s : QueueState) : Input → Prop
  | .start => s.thread = none → Quiet s
  | .stop caller => Quiet s ∧ (caller = none ∨ caller ≠ s.thread)
  | _ => True

instance (s : QueueState) : ∀ input, Decidable (Orderly s input)
  | .start => inferInstanceAs (Decidable (_ → Quiet s))
  | .stop _ => inferInstanceAs (Decidable (Quiet s ∧ (_ ∨ _)))
  | .stopJoined _ | .stopDrained _ | .clear _ | .enqueueTask _ _ _ _ | .cancel _ | .getResult _
  | .taskProcessor _ _ => .isTrue trivial

/-- All threads but this one have left the loop. -/
def Alone (s : QueueState) (processor : Nat) : Prop :=
  ∀ other stage, s.processors[other]? = some stage → other ≠ processor → stage = .exited

/-- All calls of `Stop` but this one have returned. -/
def LastStop (s : QueueState) (call : Nat) : Prop :=
  ∀ other stage, s.stops[other]? = some stage → other ≠ call → ∃ issued, stage = .returned issued

inductive Phase (s : QueueState) : Prop
  | running (processor : Nat) (isExit : s.isExit = false) (thread : s.thread = some processor)
      (alone : Alone s processor) (quiet : Quiet s) : Phase s
  | stopping (call processor : Nat) (isExit : s.isExit = true) (thread : s.thread = none)
      (joining : s.stops[call]? = some (.joining processor)) (last : LastStop s call)
      (alone : Alone s processor) : Phase s
  | draining (call : Nat) (isExit : s.isExit = true) (thread : s.thread = none)
      (joined : s.stops[call]? = some .joined) (last : LastStop s call)
      (gone : ∀ stage ∈ s.processors, stage = .exited) : Phase s
  | stopped (isExit : s.isExit = true) (thread : s.thread = none) (empty : s.taskList = [])
      (gone : ∀ stage ∈ s.processors, stage = .exited) (quiet : Quiet s) : Phase s

theorem phase_initially : Phase {} :=
  .stopped rfl rfl rfl (by simp) (by simp [Quiet])

theorem Quiet.at (quiet : Quiet s) {stage : StopStage} (here : s.stops[call]? = some stage) :
    ∃ issued, stage = .returned issued :=
  quiet stage (List.mem_of_getElem? here)

theorem LastStop.quiet_set (last : LastStop s call) (issued : Nat) :
    ∀ stage ∈ s.stops.set call (.returned issued), ∃ issued, stage = .returned issued := by
  intro stage member
  obtain ⟨other, here⟩ := List.mem_iff_getElem?.mp member
  by_cases same : call = other
  · rw [← same, List.getElem?_set_self'] at here
    cases before : s.stops[call]? with
    | none =>
      rw [before] at here
      cases here
    | some old =>
      rw [before] at here
      cases here
      exact ⟨issued, rfl⟩
  · rw [List.getElem?_set_ne same] at here
    exact last other stage here fun equal => same equal.symm

theorem not_quiet {stage : StopStage} (here : s.stops[call]? = some stage)
    (open_call : ∀ issued, stage ≠ .returned issued) :
    ¬ Quiet s := by
  intro quiet
  obtain ⟨issued, returned⟩ := quiet.at here
  exact open_call issued returned

theorem other_caller {caller : Option Nat} {processor : Nat}
    (other : caller = none ∨ caller ≠ s.thread) (thread : s.thread = some processor) :
    caller ≠ some processor := by
  rcases other with outside | different
  · simp [outside]
  · rw [thread] at different
    exact different

section Steps

variable {s : QueueState} (phase : Phase s)

include phase

theorem start_phase (orderly : s.thread = none → Quiet s) : Phase (start s) := by
  unfold start
  cases phase with
  | running processor isExit thread alone quiet =>
    rw [if_pos (by simp [thread])]
    exact .running processor isExit thread alone quiet
  | stopping call processor isExit thread joining last alone =>
    exact absurd (orderly thread) (not_quiet joining fun _ => StopStage.noConfusion)
  | draining call isExit thread joined last gone =>
    exact absurd (orderly thread) (not_quiet joined fun _ => StopStage.noConfusion)
  | stopped isExit thread empty gone quiet =>
    rw [if_neg (by simp [thread])]
    refine .running s.processors.length rfl rfl ?_ quiet
    intro other stage here different
    have early : other < s.processors.length := by
      have bound := (List.getElem?_eq_some_iff.mp here).1
      rw [List.length_append, List.length_singleton] at bound
      omega
    simp only [List.getElem?_append_left early] at here
    exact gone stage (List.mem_of_getElem? here)

theorem stop_phase {caller : Option Nat} (quiet : Quiet s)
    (other : caller = none ∨ caller ≠ s.thread) : Phase (stop caller s) := by
  unfold stop
  split
  · exact phase
  cases phase with
  | running processor isExit thread alone _ =>
    have different : caller ≠ some processor := other_caller other thread
    rw [if_neg (by simp [isExit]), thread]
    simp only [if_neg different]
    refine .stopping s.stops.length processor rfl rfl ?_ ?_ alone
    · simp
    intro call stage here different
    have early : call < s.stops.length := by
      have bound := (List.getElem?_eq_some_iff.mp here).1
      rw [List.length_append, List.length_singleton] at bound
      omega
    simp only [List.getElem?_append_left early] at here
    exact quiet.at here
  | stopping call processor isExit thread joining last alone =>
    exact absurd quiet (not_quiet joining fun _ => StopStage.noConfusion)
  | draining call isExit thread joined last gone =>
    exact absurd quiet (not_quiet joined fun _ => StopStage.noConfusion)
  | stopped isExit thread empty gone _ =>
    rw [if_pos isExit]
    refine .stopped isExit thread empty gone ?_
    intro stage member
    rcases List.mem_append.mp member with early | last
    · exact quiet stage early
    · exact ⟨s.issued, List.mem_singleton.mp last⟩

theorem stopJoined_phase (call : Nat) : Phase (stopJoined call s) := by
  unfold stopJoined
  split
  · rename_i target here
    split
    · rename_i left
      cases phase with
      | running processor isExit thread alone quiet | stopped isExit thread empty gone quiet =>
        exact absurd quiet (not_quiet here fun _ => StopStage.noConfusion)
      | stopping call' processor isExit thread joining last alone =>
        have same : call = call' := by
          by_contra different
          obtain ⟨issued, returned⟩ := last call _ here different
          cases returned
        subst same
        rw [joining] at here
        cases here
        refine .draining call isExit thread ?_ ?_ ?_
        · rw [List.getElem?_set_self']
          rw [joining]
          rfl
        · intro other stage at_other different
          rw [List.getElem?_set_ne (Ne.symm different)] at at_other
          exact last other stage at_other different
        · intro stage member
          obtain ⟨other, at_other⟩ := List.mem_iff_getElem?.mp member
          by_cases same : other = target
          · rw [same, left] at at_other
            exact (Option.some.inj at_other).symm
          · exact alone other stage at_other same
      | draining call' isExit thread joined last gone =>
        by_cases same : call = call'
        · rw [same, joined] at here
          cases here
        · obtain ⟨issued, returned⟩ := last call _ here same
          cases returned
    · exact phase
  · exact phase

theorem stopDrained_phase (call : Nat) : Phase (stopDrained call s) := by
  unfold stopDrained
  split
  · rename_i here
    have control := cancelNotExecutedTaskLocked_control s
    cases phase with
    | running processor isExit thread alone quiet | stopped isExit thread empty gone quiet =>
      exact absurd quiet (not_quiet here fun _ => StopStage.noConfusion)
    | stopping call' processor isExit thread joining last alone =>
      by_cases same : call = call'
      · rw [same, joining] at here
        cases here
      · obtain ⟨issued, returned⟩ := last call _ here same
        cases returned
    | draining call' isExit thread joined last gone =>
      have same : call = call' := by
        by_contra different
        obtain ⟨issued, returned⟩ := last call _ here different
        cases returned
      subst same
      refine .stopped (control.isExit.trans isExit) (control.thread.trans thread) rfl ?_
        (last.quiet_set s.issued)
      intro stage member
      have unmoved : stage ∈ s.processors := by
        rw [← cancelNotExecutedTaskLocked_processors s]
        exact member
      exact gone stage unmoved
  · exact phase

theorem enqueueTask_phase (task : Nat) (cancelNotExecuted : Bool) (delayUs curTimeNs : UInt64) :
    Phase (enqueueTask task cancelNotExecuted delayUs curTimeNs s) := by
  cases phase with
  | running processor isExit thread alone quiet =>
    obtain ⟨control, same⟩ := enqueueTask_control task cancelNotExecuted delayUs curTimeNs s
    refine .running processor (control.isExit.trans isExit) (control.thread.trans thread) ?_ ?_
    · unfold Alone
      rw [same]
      exact alone
    · unfold Quiet
      rw [control.stops]
      exact quiet
  | stopping call processor isExit thread joining last alone =>
    rw [enqueueTask_stopped isExit]
    exact .stopping call processor isExit thread joining last alone
  | draining call isExit thread joined last gone =>
    rw [enqueueTask_stopped isExit]
    exact .draining call isExit thread joined last gone
  | stopped isExit thread empty gone quiet =>
    rw [enqueueTask_stopped isExit]
    exact .stopped isExit thread empty gone quiet

omit phase in
theorem taskProcessor_alone {processor : Nat} (alone : Alone s processor)
    (periodicTimeUs : Nat → UInt64) (other : Nat) (curTimeNs : UInt64) :
    Alone (taskProcessor periodicTimeUs other curTimeNs s) processor := by
  obtain ⟨-, same | ⟨old, new, here, busy, moved⟩⟩ :=
    taskProcessor_control periodicTimeUs other curTimeNs s
  · unfold Alone
    rw [same]
    exact alone
  · have only : other = processor := by
      by_contra different
      exact busy (alone other old here different)
    intro index stage at_index different
    rw [moved, only, List.getElem?_set_ne (Ne.symm different)] at at_index
    exact alone index stage at_index different

theorem taskProcessor_phase (periodicTimeUs : Nat → UInt64) (other : Nat) (curTimeNs : UInt64) :
    Phase (taskProcessor periodicTimeUs other curTimeNs s) := by
  obtain ⟨control, -⟩ := taskProcessor_control periodicTimeUs other curTimeNs s
  cases phase with
  | running processor isExit thread alone quiet =>
    refine .running processor (control.isExit.trans isExit) (control.thread.trans thread)
      (taskProcessor_alone alone periodicTimeUs other curTimeNs) ?_
    unfold Quiet
    rw [control.stops]
    exact quiet
  | stopping call processor isExit thread joining last alone =>
    refine .stopping call processor (control.isExit.trans isExit) (control.thread.trans thread)
      (by rw [control.stops]; exact joining) ?_
      (taskProcessor_alone alone periodicTimeUs other curTimeNs)
    unfold LastStop
    rw [control.stops]
    exact last
  | draining call isExit thread joined last gone =>
    rw [taskProcessor_exited gone]
    exact .draining call isExit thread joined last gone
  | stopped isExit thread empty gone quiet =>
    rw [taskProcessor_exited gone]
    exact .stopped isExit thread empty gone quiet

theorem handlers_phase (handlers : Nat → TaskState) : Phase { s with handlers := handlers } := by
  cases phase with
  | running processor isExit thread alone quiet =>
    exact .running processor isExit thread alone quiet
  | stopping call processor isExit thread joining last alone =>
    exact .stopping call processor isExit thread joining last alone
  | draining call isExit thread joined last gone =>
    exact .draining call isExit thread joined last gone
  | stopped isExit thread empty gone quiet => exact .stopped isExit thread empty gone quiet

theorem step_phase {periodicTimeUs : Nat → UInt64} {input : Input} (orderly : Orderly s input) :
    Phase (step periodicTimeUs s input) := by
  cases input with
  | start => exact start_phase phase orderly
  | stop caller => exact stop_phase phase orderly.1 orderly.2
  | stopJoined call => exact stopJoined_phase phase call
  | stopDrained call => exact stopDrained_phase phase call
  | clear task => exact handlers_phase phase _
  | enqueueTask task cancelNotExecuted delayUs curTimeNs =>
    exact enqueueTask_phase phase task cancelNotExecuted delayUs curTimeNs
  | cancel task | getResult task => exact handlers_phase phase _
  | taskProcessor processor curTimeNs =>
    exact taskProcessor_phase phase periodicTimeUs processor curTimeNs

end Steps

/-- The calls of `Stop` that have returned left no task behind: each is done, with an answer for
those who wait for it or at work elsewhere. -/
def NothingLeft (s : QueueState) : Prop :=
  ∀ issued, StopStage.returned issued ∈ s.stops → ∀ ticket < issued,
    ∃ state, (ticket, state) ∈ s.done ∧ state ≠ .idle

/-- No caller of `GetResult` on a task that is done waits for ever: `GetResult` returned when the
task was done, or the handler was RUNNING; and on each that is RUNNING it returns after the next
section of some thread. -/
def GetResultReturns (periodicTimeUs : Nat → UInt64) (s : QueueState) : Prop :=
  (∀ entry ∈ s.done, TaskHandler.getResult entry.2 ≠ none ∨ entry.2 = .running) ∧
    ∀ task, s.handlers task = .running → ∃ processor, ∀ curTimeNs, TaskHandler.getResult
        ((taskProcessor periodicTimeUs processor curTimeNs s).handlers task) ≠ none

/-- What holds of a queue that is used in order. -/
structure Settled (s : QueueState) : Prop where
  phase : Phase s
  located : ∀ ticket < s.issued, Located s ticket
  answered : ∀ entry ∈ s.done, entry.2 ≠ .idle
  nothingLeft : NothingLeft s

theorem settled_initially : Settled {} where
  phase := phase_initially
  located ticket early := absurd early (Nat.not_lt_zero ticket)
  answered entry member := by cases member
  nothingLeft issued member := by cases member

theorem done_of_gone {s : QueueState} (located : ∀ ticket < s.issued, Located s ticket)
    (answered : ∀ entry ∈ s.done, entry.2 ≠ .idle) (empty : s.taskList = [])
    (gone : ∀ stage ∈ s.processors, stage = .exited) {ticket : Nat} (early : ticket < s.issued) :
    ∃ state, (ticket, state) ∈ s.done ∧ state ≠ .idle := by
  rcases located ticket early with listed | ⟨stage, member, item, holds, -⟩ | finished
  · rw [empty] at listed
    cases listed
  · rw [gone stage member] at holds
    cases holds
  · obtain ⟨entry, member, named⟩ := List.mem_map.mp finished
    refine ⟨entry.2, ?_, answered entry member⟩
    rw [← named]
    exact member

theorem Settled.allDone {s : QueueState} (settled : Settled s) (isExit : s.isExit = true)
    (quiet : Quiet s) {ticket : Nat} (early : ticket < s.issued) :
    ∃ state, (ticket, state) ∈ s.done ∧ state ≠ .idle := by
  cases settled.phase with
  | running processor open_queue thread alone _ =>
    rw [isExit] at open_queue
    cases open_queue
  | stopping call processor _ thread joining last alone =>
    exact absurd quiet (not_quiet joining fun _ => StopStage.noConfusion)
  | draining call _ thread joined last gone =>
    exact absurd quiet (not_quiet joined fun _ => StopStage.noConfusion)
  | stopped _ thread empty gone _ =>
    exact done_of_gone settled.located settled.answered empty gone early

variable {issued : Nat}

theorem stop_returned {s : QueueState} (settled : Settled s) {caller : Option Nat} (quiet : Quiet s)
    (other : caller = none ∨ caller ≠ s.thread)
    (returned : StopStage.returned issued ∈ (stop caller s).stops) :
    StopStage.returned issued ∈ s.stops ∨
      ∀ ticket < issued, ∃ state, (ticket, state) ∈ (stop caller s).done ∧ state ≠ .idle := by
  unfold stop at returned ⊢
  split at returned
  · exact Or.inl returned
  rename_i calls
  rw [if_neg calls]
  split at returned
  · rename_i isExit
    rcases List.mem_append.mp returned with early | last
    · exact Or.inl early
    · rw [if_pos isExit]
      cases List.mem_singleton.mp last
      exact Or.inr fun ticket early => settled.allDone isExit quiet early
  split at returned
  · exact Or.inl returned
  rename_i processor thread
  have different : caller ≠ some processor := other_caller other thread
  rw [if_neg different] at returned
  rcases List.mem_append.mp returned with early | last
  · exact Or.inl early
  · cases List.mem_singleton.mp last

theorem stopDrained_returned {s : QueueState} (settled : Settled s) {call : Nat}
    (returned : StopStage.returned issued ∈ (stopDrained call s).stops) :
    StopStage.returned issued ∈ s.stops ∨
      ∀ ticket < issued, ∃ state, (ticket, state) ∈ (stopDrained call s).done ∧ state ≠ .idle := by
  unfold stopDrained at returned ⊢
  split at returned
  · rename_i joined
    rcases List.mem_or_eq_of_mem_set returned with early | last
    · exact Or.inl early
    have accounts := cancelNotExecutedTaskLocked_accounts s
    have gone : ∀ stage ∈ s.processors, stage = .exited := by
      cases settled.phase with
      | running processor isExit thread alone quiet =>
        exact absurd quiet (not_quiet joined fun _ => StopStage.noConfusion)
      | stopping call' processor isExit thread joining last alone =>
        by_cases same : call = call'
        · rw [same, joining] at joined
          cases joined
        · obtain ⟨_, already⟩ := last call _ joined same
          cases already
      | draining call' isExit thread joined' last gone | stopped isExit thread empty gone quiet =>
        exact gone
    cases last
    refine Or.inr fun ticket early => ?_
    have located : ∀ ticket < s.issued, Located (cancelNotExecutedTaskLocked s) ticket :=
      fun ticket early => accounts.located ticket (settled.located ticket early)
    have answered : ∀ entry ∈ (cancelNotExecutedTaskLocked s).done, entry.2 ≠ .idle := by
      intro entry member
      rcases accounts.answered entry member with before | active
      · exact settled.answered entry before
      · exact active
    have same : (cancelNotExecutedTaskLocked s).issued = s.issued :=
      foldl_cancelFront_keeps QueueState.issued (fun _ _ => rfl) s.taskList s
    refine done_of_gone (by rw [same]; exact located) answered rfl ?_ (by rw [same]; exact early)
    rw [cancelNotExecutedTaskLocked_processors]
    exact gone
  · exact Or.inl returned

theorem step_returned {periodicTimeUs : Nat → UInt64} {s : QueueState} (settled : Settled s)
    {input : Input} (orderly : Orderly s input)
    (returned : StopStage.returned issued ∈ (step periodicTimeUs s input).stops) :
    StopStage.returned issued ∈ s.stops ∨
      ∀ ticket < issued, ∃ state, (ticket, state) ∈ (step periodicTimeUs s input).done ∧
        state ≠ .idle := by
  cases input with
  | start =>
    change StopStage.returned issued ∈ (start s).stops at returned
    unfold start at returned
    split at returned
    · exact Or.inl returned
    · exact Or.inl returned
  | stop caller => exact stop_returned settled orderly.1 orderly.2 returned
  | stopJoined call =>
    change StopStage.returned issued ∈ (stopJoined call s).stops at returned
    unfold stopJoined at returned
    split at returned
    · split at returned
      · rcases List.mem_or_eq_of_mem_set returned with early | last
        · exact Or.inl early
        · cases last
      · exact Or.inl returned
    · exact Or.inl returned
  | stopDrained call => exact stopDrained_returned settled returned
  | clear task => exact Or.inl returned
  | enqueueTask task cancelNotExecuted delayUs curTimeNs =>
    have same := (enqueueTask_control task cancelNotExecuted delayUs curTimeNs s).1.stops
    change StopStage.returned issued ∈
      (enqueueTask task cancelNotExecuted delayUs curTimeNs s).stops at returned
    rw [same] at returned
    exact Or.inl returned
  | cancel task | getResult task => exact Or.inl returned
  | taskProcessor processor curTimeNs =>
    have same := (taskProcessor_control periodicTimeUs processor curTimeNs s).1.stops
    change StopStage.returned issued ∈
      (taskProcessor periodicTimeUs processor curTimeNs s).stops at returned
    rw [same] at returned
    exact Or.inl returned

theorem step_settled {periodicTimeUs : Nat → UInt64} {s : QueueState} (settled : Settled s)
    {input : Input} (orderly : Orderly s input) : Settled (step periodicTimeUs s input) := by
  have accounts := step_accounts periodicTimeUs s input
  refine ⟨step_phase settled.phase orderly, ?_, ?_, ?_⟩
  · intro ticket early
    rcases accounts.issued ticket early with before | here
    · exact accounts.located ticket (settled.located ticket before)
    · exact here
  · intro entry member
    rcases accounts.answered entry member with before | active
    · exact settled.answered entry before
    · exact active
  · intro issued returned ticket early
    rcases step_returned settled orderly returned with before | all
    · obtain ⟨state, member, active⟩ := settled.nothingLeft issued before ticket early
      exact ⟨state, accounts.kept _ member, active⟩
    · exact all ticket early

theorem getResultReturns {periodicTimeUs : Nat → UInt64} {s : QueueState}
    (answered : ∀ entry ∈ s.done, entry.2 ≠ .idle) (executed : RunningExecuted s) :
    GetResultReturns periodicTimeUs s := by
  constructor
  · rintro ⟨ticket, state⟩ member
    cases state with
    | idle => exact absurd rfl (answered _ member)
    | running => exact .inr rfl
    | canceled | finished => exact .inl (by simp [TaskHandler.getResult])
  · intro task running
    obtain ⟨item, executing, rfl⟩ := executed task running
    obtain ⟨processor, found⟩ := List.mem_iff_getElem?.mp executing
    refine ⟨processor, fun curTimeNs => ?_⟩
    simp [taskProcessor, found, setHandler, TaskHandler.getResult]

def once : Nat → UInt64 := fun _ => uint64Max

/-- A queue that is stopped while one task runs and another one waits. -/
def stopFromOutside : List Input :=
  [.start, .enqueueTask 0 false 0 5, .enqueueTask 1 false 0 6, .taskProcessor 0 7,
    .taskProcessor 0 7, .taskProcessor 0 7, .stop none, .taskProcessor 0 8, .taskProcessor 0 8,
    .taskProcessor 0 9, .stopJoined 0, .stopDrained 0]

/-- The running task stops its own queue, and another thread stops it once more. -/
def stopFromInside : List Input :=
  [.start, .enqueueTask 0 false 0 5, .enqueueTask 1 false 0 6, .taskProcessor 0 7,
    .taskProcessor 0 7, .taskProcessor 0 7, .stop (some 0), .taskProcessor 0 8,
    .taskProcessor 0 8, .taskProcessor 0 9, .stop none]

end PlayerFramework.TaskQueue
