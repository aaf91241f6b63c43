import PlayerFramework.TaskQueue.StopPhases

/-!
How many threads process one queue.
-/

namespace PlayerFramework.TaskQueue

open Transition

def Processing (s : QueueState) (processor : Nat) : Prop :=
  ∃ stage, s.processors[processor]? = some stage ∧ stage ≠ .exited

/-- A thread that `Stop` waits for or that was detached by it. -/
def Told (s : QueueState) (processor : Nat) : Prop :=
  StopStage.joining processor ∈ s.stops ∨ processor ∈ s.detached

def StopStage.waits : StopStage → Bool
  | .joining _ => true
  | _ => false

/-- `Start` creates no thread while a call of `Stop` waits for the last one, and none before a
thread that stopped its own queue has left the loop. -/
def StartsLate (s : QueueState) : Input → Prop
  | .start => s.thread = none →
      (∀ stage ∈ s.stops, stage.waits = false) ∧
        ∀ processor ∈ s.detached, s.processors[processor]? = some .exited
  | _ => True

instance (s : QueueState) : ∀ input, Decidable (StartsLate s input)
  | .start => inferInstanceAs (Decidable (_ → (∀ _ ∈ _, _) ∧ ∀ _ ∈ _, _))
  | .stop _ | .stopJoined _ | .stopDrained _ | .clear _ | .enqueueTask _ _ _ _ | .cancel _
  | .getResult _ | .taskProcessor _ _ => .isTrue trivial

def AtMostOne (s : QueueState) : Prop :=
  ∀ first second, Processing s first → Processing s second → first = second

/-- One thread processes the queue at most, and it is the queue's own or has been told to
leave. -/
structure OneProcessor (s : QueueState) : Prop where
  known : ∀ processor, Processing s processor → s.thread = some processor ∨ Told s processor
  unique : AtMostOne s

theorem oneProcessor_initially : OneProcessor {} where
  known processor processing := by
    obtain ⟨stage, here, -⟩ := processing
    cases here
  unique first second processing _ := by
    obtain ⟨stage, here, -⟩ := processing
    cases here

variable {s : QueueState}

theorem OneProcessor.of_fewer {next : QueueState} (one : OneProcessor s)
    (fewer : ∀ processor, Processing next processor → Processing s processor)
    (known : ∀ processor, Processing next processor →
      (s.thread = some processor → next.thread = some processor ∨ Told next processor) ∧
      (Told s processor → Told next processor)) : OneProcessor next where
  known processor processing := by
    obtain ⟨own, told⟩ := known processor processing
    rcases one.known processor (fewer processor processing) with thread | left
    · exact own thread
    · exact Or.inr (told left)
  unique first second one' two := one.unique first second (fewer first one') (fewer second two)

theorem OneProcessor.of_control {next : QueueState} (one : OneProcessor s)
    (control : SameControl s next)
    (fewer : ∀ processor, Processing next processor → Processing s processor) :
    OneProcessor next := by
  refine one.of_fewer fewer fun processor _ => ⟨?_, ?_⟩
  · intro own
    rw [control.thread]
    exact Or.inl own
  · intro told
    unfold Told
    rw [control.stops, control.detached]
    exact told

theorem start_oneProcessor (one : OneProcessor s) (late : StartsLate s .start) :
    OneProcessor (start s) := by
  unfold start
  split
  · exact one
  rename_i created
  have none : s.thread = none := not_not.mp created
  obtain ⟨joined, left⟩ := late none
  have idle : ∀ processor, ¬ Processing s processor := by
    intro processor processing
    rcases one.known processor processing with own | waited | detached
    · rw [none] at own
      cases own
    · cases joined _ waited
    · obtain ⟨stage, here, busy⟩ := processing
      rw [left processor detached] at here
      exact busy (Option.some.inj here).symm
  have newest : ∀ processor stage, (s.processors ++ [.top])[processor]? = some stage →
      stage ≠ .exited → processor = s.processors.length := by
    intro processor stage here busy
    have bound := (List.getElem?_eq_some_iff.mp here).1
    rw [List.length_append, List.length_singleton] at bound
    by_contra early
    rw [List.getElem?_append_left (by omega)] at here
    exact idle processor ⟨stage, here, busy⟩
  refine ⟨?_, ?_⟩
  · rintro processor ⟨stage, here, busy⟩
    rw [newest processor stage here busy]
    exact Or.inl rfl
  · rintro first second ⟨stage, here, busy⟩ ⟨stage', here', busy'⟩
    rw [newest first stage here busy, newest second stage' here' busy']

theorem stop_oneProcessor (one : OneProcessor s) (caller : Option Nat) :
    OneProcessor (stop caller s) := by
  unfold stop
  split
  · exact one
  split
  · refine one.of_fewer (fun _ processing => processing) fun processor _ => ⟨Or.inl, ?_⟩
    rintro (waited | detached)
    · exact Or.inl (List.mem_append_left _ waited)
    · exact Or.inr detached
  split
  · exact one
  rename_i own thread
  split
  · refine one.of_fewer (fun _ processing => processing) fun processor _ => ⟨?_, ?_⟩
    · intro same
      rw [thread] at same
      cases same
      exact Or.inr (Or.inr (List.mem_append_right _ (List.mem_singleton.mpr rfl)))
    · rintro (waited | detached)
      · exact Or.inl (List.mem_append_left _ waited)
      · exact Or.inr (List.mem_append_left _ detached)
  · refine one.of_fewer (fun _ processing => processing) fun processor _ => ⟨?_, ?_⟩
    · intro same
      rw [thread] at same
      cases same
      exact Or.inr (Or.inl (List.mem_append_right _ (List.mem_singleton.mpr rfl)))
    · rintro (waited | detached)
      · exact Or.inl (List.mem_append_left _ waited)
      · exact Or.inr detached

theorem mem_set_of_other {stops : List StopStage} {call : Nat} {old new stage : StopStage}
    (here : stops[call]? = some old) (member : stage ∈ stops) (other : stage ≠ old) :
    stage ∈ stops.set call new := by
  obtain ⟨index, at_index⟩ := List.mem_iff_getElem?.mp member
  refine List.mem_iff_getElem?.mpr ⟨index, ?_⟩
  by_cases same : call = index
  · rw [same, at_index] at here
    exact absurd (Option.some.inj here) other
  · rw [List.getElem?_set_ne same]
    exact at_index

theorem stopJoined_oneProcessor (one : OneProcessor s) (call : Nat) :
    OneProcessor (stopJoined call s) := by
  unfold stopJoined
  split
  · rename_i target here
    split
    · rename_i left
      refine one.of_fewer (fun _ processing => processing) fun processor processing =>
        ⟨Or.inl, ?_⟩
      rintro (waited | detached)
      · refine Or.inl (mem_set_of_other here waited ?_)
        intro same
        cases same
        obtain ⟨stage, at_target, busy⟩ := processing
        have there : s.processors[target]? = some stage := at_target
        rw [left] at there
        exact busy (Option.some.inj there).symm
      · exact Or.inr detached
    · exact one
  · exact one

theorem stopDrained_oneProcessor (one : OneProcessor s) (call : Nat) :
    OneProcessor (stopDrained call s) := by
  unfold stopDrained
  split
  · rename_i here
    have control := cancelNotExecutedTaskLocked_control s
    refine one.of_fewer ?_ fun processor _ => ⟨?_, ?_⟩
    · rintro processor ⟨stage, at_processor, busy⟩
      refine ⟨stage, ?_, busy⟩
      rw [← cancelNotExecutedTaskLocked_processors s]
      exact at_processor
    · intro own
      exact Or.inl (control.thread.trans own)
    · rintro (waited | detached)
      · exact Or.inl (mem_set_of_other here waited StopStage.noConfusion)
      · refine Or.inr ?_
        rw [← control.detached] at detached
        exact detached
  · exact one

theorem taskProcessor_oneProcessor (one : OneProcessor s) (periodicTimeUs : Nat → UInt64)
    (processor : Nat) (curTimeNs : UInt64) :
    OneProcessor (taskProcessor periodicTimeUs processor curTimeNs s) := by
  obtain ⟨control, moved⟩ := taskProcessor_control periodicTimeUs processor curTimeNs s
  refine one.of_control control ?_
  rintro other ⟨stage, here, busy⟩
  rcases moved with same | ⟨old, new, before, active, same⟩
  · rw [same] at here
    exact ⟨stage, here, busy⟩
  by_cases equal : processor = other
  · rw [equal] at before
    exact ⟨old, before, active⟩
  · rw [same, List.getElem?_set_ne equal] at here
    exact ⟨stage, here, busy⟩

theorem step_oneProcessor {periodicTimeUs : Nat → UInt64} (one : OneProcessor s) {input : Input}
    (late : StartsLate s input) :
    OneProcessor (step periodicTimeUs s input) := by
  cases input with
  | start => exact start_oneProcessor one late
  | stop caller => exact stop_oneProcessor one caller
  | stopJoined call => exact stopJoined_oneProcessor one call
  | stopDrained call => exact stopDrained_oneProcessor one call
  | clear task => exact one.of_control ⟨rfl, rfl, rfl, rfl⟩ fun _ processing => processing
  | enqueueTask task cancelNotExecuted delayUs curTimeNs =>
    obtain ⟨control, same⟩ := enqueueTask_control task cancelNotExecuted delayUs curTimeNs s
    refine one.of_control control ?_
    rintro processor ⟨stage, here, busy⟩
    have there : (enqueueTask task cancelNotExecuted delayUs curTimeNs s).processors[processor]? =
      some stage := here
    rw [same] at there
    exact ⟨stage, there, busy⟩
  | cancel task | getResult task =>
    exact one.of_control ⟨rfl, rfl, rfl, rfl⟩ fun _ processing => processing
  | taskProcessor processor curTimeNs =>
    exact taskProcessor_oneProcessor one periodicTimeUs processor curTimeNs

/-- Where `Start` waits for the threads that `Stop` has told to leave, one thread at most
processes the queue. -/
theorem one_processor (periodicTimeUs : Nat → UInt64) (inputs : List Input)
    (late : Along (step periodicTimeUs) StartsLate {} inputs) :
    AtMostOne (reached periodicTimeUs inputs) :=
  (invariant_of_along OneProcessor (fun _ _ one late => step_oneProcessor one late) late
    oneProcessor_initially).unique

/-- The queue is started again once the first thread has been joined. -/
def restart : List Input := [.start, .stop none, .taskProcessor 0 1, .stopJoined 0, .start]

theorem restart_one_processor : AtMostOne (reached once restart) :=
  one_processor once restart (by decide +kernel)

/-- The queue is stopped by its running task, and started before the task has ended. -/
def restartInside : List Input :=
  [.start, .enqueueTask 0 false 0 5, .taskProcessor 0 7, .taskProcessor 0 7, .taskProcessor 0 7,
    .stop (some 0), .start]

theorem inside_restart_two_processors : ¬ AtMostOne (reached once restartInside) := by
  intro atMostOne
  have first : Processing (reached once restartInside) 0 :=
    ⟨.executing ⟨0, 5, 0⟩, by decide +kernel, Stage.noConfusion⟩
  have second : Processing (reached once restartInside) 1 :=
    ⟨.top, by decide +kernel, Stage.noConfusion⟩
  cases atMostOne 0 1 first second

end PlayerFramework.TaskQueue
