import PlayerFramework.Downloader.TaskLifecycle

/-!
What the worker of a `DownloadTask` has still to report.
-/

namespace PlayerFramework.Downloader

/-- The last report of a worker, by which the downloader lets go of the task. -/
def TaskCallback.final : TaskCallback → Bool
  | .onStateChanged _ => false
  | .onCompleted => true
  | .onFailed _ errorCode => !isNetworkConnectionError errorCode

def DownloadState.ended : DownloadState → Bool
  | .completed => true
  | .failed => true
  | .canceled => true
  | _ => false

namespace DownloadTask

variable {task : DownloadTask}

/-- What the worker has still to report goes with the state of the task. -/
structure Reports (task : DownloadTask) : Prop where
  joins : task.joining = true → task.state = .resuming
  completes : ∀ callbacks, task.worker = some (.notifying callbacks) →
    .onStateChanged .completed ∈ callbacks → task.state = .completed
  ends : ∀ callbacks, task.worker = some (.notifying callbacks) →
    ∀ callback ∈ callbacks, callback.final = true → task.state.ended = true
  last : ∀ callbacks, task.worker = some (.notifying callbacks) →
    callbacks.Pairwise fun first _ => first.final = false

/-- Its worker has nothing left to report. -/
def Silent (task : DownloadTask) : Prop :=
  task.worker = none ∨ task.worker = some (.notifying [])

theorem reports_initial : Reports {} := by
  constructor
  · intro joins
    cases joins
  all_goals
    intro callbacks notifying
    cases notifying

variable (event : TaskEvent)

theorem ended_frame (reports : Reports task) (others : ∀ execution, event ≠ .work execution) :
    ((next task event).worker = task.worker ∨ (next task event).worker = some .entering) ∧
    (task.state.ended = true →
      (next task event).state = task.state ∧ (next task event).worker = task.worker) := by
  have free : task.state.ended = true → task.joining = false := by
    intro ended
    cases joining : task.joining with
    | false => rfl
    | true =>
      rw [reports.joins joining] at ended
      cases ended
  have step := stepped task event
  generalize next task event = after at step ⊢
  cases step with
  | starts _ state =>
    refine ⟨.inr rfl, fun ended => ?_⟩
    rw [state] at ended
    cases ended
  | pauses _ state | resumes _ state | cancels _ state | interrupts _ state =>
    refine ⟨.inl rfl, fun ended => ?_⟩
    rw [state] at ended
    cases ended
  | joins joining _ =>
    refine ⟨.inr rfl, fun ended => ?_⟩
    rw [free ended] at joining
    cases joining
  | @expires waiter _ _ unfinished =>
    refine ⟨.inl rfl, fun ended => ?_⟩
    cases state : task.state with
    | completed | failed | canceled => cases waiter <;> simp [finished, state] at unfinished
    | _ => simp [state, DownloadState.ended] at ended
  | still | woken => exact ⟨.inl rfl, fun _ => ⟨rfl, rfl⟩⟩
  | _ => exact absurd rfl (others _)

theorem joins_next (reports : Reports task) (joins : (next task event).joining = true) :
    (next task event).state = .resuming := by
  have step := stepped task event
  generalize next task event = after at step joins ⊢
  have resuming := reports.joins
  cases step with
  | resumes => rfl
  | joins => cases joins
  | still | woken | announces | executes | reports | ends => exact resuming joins
  | starts free | pauses free | cancels free | interrupts free | expires free | leaves _ free
  | enters _ free | decides _ free =>
    have joining : task.joining = true := joins
    rw [free] at joining
    cases joining

theorem reports_decision (task : DownloadTask) (success : Bool) :
    let newState := decision success task.lastErrorCode task.state
    let callbacks := notifyDownloadResult newState
      (!success && isNetworkConnectionError task.lastErrorCode) task
    (.onStateChanged .completed ∈ callbacks → newState = .completed) ∧
    (∀ callback ∈ callbacks, callback.final = true → newState.ended = true) ∧
    callbacks.Pairwise fun first _ => first.final = false := by
  intro newState callbacks
  cases state : newState with
  | completed | failed =>
    simp [callbacks, state, notifyDownloadResult, TaskCallback.final, DownloadState.ended]
  | paused =>
    cases success with
    | true => simp [callbacks, state, notifyDownloadResult, TaskCallback.final]
    | false =>
      cases network : isNetworkConnectionError task.lastErrorCode <;>
        simp [callbacks, state, notifyDownloadResult, TaskCallback.final, network]
  | canceled => simp [callbacks, state, notifyDownloadResult, TaskCallback.final]
  | _ => simp [callbacks, state, notifyDownloadResult]

variable (execution : Execution)

theorem reports_work (reports : Reports task) : Reports (task.work execution) := by
  have joins := joins_next (.work execution) reports
  have step := @stepped_work task execution
  simp only [next] at joins
  generalize task.work execution = after at step joins ⊢
  cases step with
  | still => exact reports
  | woken waking _ => rcases waking with waking | waking <;> cases waking
  | leaves | enters | announces | executes | ends =>
    refine ⟨joins, ?_, ?_, ?_⟩
    all_goals
      rintro callbacks ⟨⟩
  | decides =>
    obtain ⟨completes, ends, last⟩ := reports_decision task _
    constructor
    · exact joins
    all_goals
      rintro callbacks ⟨⟩
    · exact completes
    · exact ends
    · exact last
  | reports worker =>
    constructor
    · exact joins
    all_goals
      rintro callbacks ⟨⟩
    · intro member
      exact reports.completes _ worker (List.mem_cons_of_mem _ member)
    · intro callback member
      exact reports.ends _ worker callback (List.mem_cons_of_mem _ member)
    · exact (List.pairwise_cons.mp (reports.last _ worker)).2

theorem reports_next (reports : Reports task) : Reports (next task event) := by
  by_cases works : ∃ execution, event = .work execution
  · obtain ⟨execution, rfl⟩ := works
    exact reports_work execution reports
  rw [not_exists] at works
  obtain ⟨worker, ended⟩ := ended_frame event reports works
  have kept : ∀ callbacks, (next task event).worker = some (.notifying callbacks) →
      task.worker = some (.notifying callbacks) := by
    intro callbacks notifying
    rcases worker with same | entering
    · rwa [same] at notifying
    · rw [entering] at notifying
      cases notifying
  constructor
  · exact joins_next event reports
  · intro callbacks notifying member
    have completed := reports.completes callbacks (kept callbacks notifying) member
    rw [(ended (by rw [completed]; rfl)).1]
    exact completed
  · intro callbacks notifying callback member final
    have terminal := reports.ends callbacks (kept callbacks notifying) callback member final
    rw [(ended terminal).1]
    exact terminal
  · intro callbacks notifying
    exact reports.last callbacks (kept callbacks notifying)

theorem over_next (reports : Reports task) (terminal : task.state.ended = true)
    (silent : Silent task) : (next task event).state.ended = true ∧ Silent (next task event) := by
  by_cases works : ∃ execution, event = .work execution
  · obtain ⟨execution, rfl⟩ := works
    rcases silent with worker | worker
    · simp [next, work, worker, terminal, Silent]
    · simp [next, work, worker, terminal, Silent]
  · rw [not_exists] at works
    obtain ⟨state, worker⟩ := (ended_frame event reports works).2 terminal
    rw [Silent, state, worker]
    exact ⟨terminal, silent⟩

theorem callback_notifying {callback : TaskCallback} (reported : task.callback = some callback)
    (other : callback ≠ .onStateChanged .running) :
    ∃ rest, task.worker = some (.notifying (callback :: rest)) := by
  unfold DownloadTask.callback at reported
  split at reported
  · cases reported
    exact absurd rfl other
  · rename_i first rest worker
    cases reported
    exact ⟨rest, worker⟩
  · cases reported

theorem final_report {callback : TaskCallback} (reports : Reports task)
    (reported : task.callback = some callback) (final : callback.final = true) :
    (task.work execution).state.ended = true ∧ Silent (task.work execution) := by
  obtain ⟨rest, worker⟩ := callback_notifying reported (by rintro rfl; cases final)
  have ended := reports.ends _ worker callback (List.mem_cons_self ..) final
  have nothing : rest = [] := by
    cases rest with
    | nil => rfl
    | cons second others =>
      have ordered := (List.pairwise_cons.mp (reports.last _ worker)).1 second
        (List.mem_cons_self ..)
      rw [final] at ordered
      cases ordered
  subst nothing
  simp [work, worker, ended, Silent]

theorem completed_report (reports : Reports task)
    (reported : task.callback = some (.onStateChanged .completed)) :
    (task.work execution).state = .completed := by
  obtain ⟨rest, worker⟩ := callback_notifying reported (by simp)
  have completed := reports.completes _ worker (List.mem_cons_self ..)
  simp [work, worker, completed]

open Transition

end DownloadTask

end PlayerFramework.Downloader
