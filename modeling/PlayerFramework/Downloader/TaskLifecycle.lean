import PlayerFramework.Downloader.DownloadTask

/-!
The life of a `DownloadTask` against the state table of its documentation.
-/

namespace PlayerFramework.Downloader.DownloadTask

open Transition

variable {task : DownloadTask}

/-- The state table; a task only starts from the first state. -/
def edge : DownloadState → DownloadState → Bool
  | .idle, .preparing => true
  | .preparing, .running => true
  | .resuming, .running => true
  | .running, .pausing => true
  | .pausing, .paused => true
  | .running, .paused => true
  | .paused, .resuming => true
  | .running, .canceling => true
  | .running, .completed => true
  | .running, .failed => true
  | .pausing, .failed => true
  | .canceling, .failed => true
  | .running, .canceled => true
  | .canceling, .canceled => true
  | .paused, .canceled => true
  | _, _ => false

/-- The error code as far as this attempt recorded it. -/
def ownErrorCode (task : DownloadTask) : Int :=
  if task.recordedBy = task.attempt then task.lastErrorCode else 0

/-- The worker has entered its attempt and not yet decided on the result. -/
def attempting : WorkerStage → Bool
  | .announcing => true
  | .executing => true
  | .executed _ => true
  | _ => false

/-- Which states the stages of the worker go with. -/
structure Fits (task : DownloadTask) : Prop where
  resting : task.worker = none → task.joining = false →
    task.state = .idle ∨ task.state = .paused ∨ task.state = .completed ∨
      task.state = .failed ∨ task.state = .canceled
  entering : task.worker = some .entering → task.joining = false ∧
    (task.state = .preparing ∨ task.state = .resuming)
  attempts : ∀ stage, task.worker = some stage → attempting stage = true → task.joining = false ∧
    (task.state = .running ∨ task.state = .pausing ∨ task.state = .canceling ∨ task.state = .failed)
  notifies : ∀ callbacks, task.worker = some (.notifying callbacks) → task.joining = false →
    task.state = .paused ∨ task.state = .completed ∨ task.state = .failed ∨ task.state = .canceled
  joins : task.joining = true → task.state = .resuming
  waits : task.waiters ≠ [] → task.state ≠ .idle ∧ task.state ≠ .preparing
  cancels : task.cancelAccepted = true →
    task.state = .canceling ∨ task.state = .canceled ∨ task.forced = true
  forces : task.forced = true → task.state = .failed
  fresh : task.state = .idle → task.recordedBy = task.attempt

/-- A worker does not write over a failure that was forced, nor over a cancellation, nor
decide by an old error code, and no wait runs out during a resumption. -/
def Proper (task : DownloadTask) (event : TaskEvent) : Prop :=
  match event with
  | .work _ =>
    match task.worker with
    | some (.executed success) =>
      let byCode := success = false ∧ isNetworkConnectionError task.lastErrorCode = true
      (task.state = .failed → success = false ∧ ¬ byCode) ∧ (task.state = .canceling → ¬ byCode) ∧
        (task.state = .running → byCode → task.recordedBy = task.attempt)
    | _ => True
  | .expire waiter =>
    waiter ∈ task.waiters → task.joining = false → task.state ≠ .resuming
  | _ => True

instance (task : DownloadTask) (event : TaskEvent) : Decidable (Proper task event) := by
  unfold Proper
  split
  · split <;> infer_instance
  · infer_instance
  · infer_instance

theorem recordErrors_frame (errors : List (DownloadErrorType × Int)) (task : DownloadTask) :
    ∃ errorType code recorder,
      errors.foldl (fun task error => task.recordError error.1 error.2) task =
        { task with
          lastErrorType := errorType, lastErrorCode := code, recordedBy := recorder } := by
  induction errors generalizing task with
  | nil => exact ⟨_, _, _, rfl⟩
  | cons error rest ih =>
    obtain ⟨errorType, code, recorder, recorded⟩ := ih (task.recordError error.1 error.2)
    exact ⟨errorType, code, recorder, recorded⟩

variable (execution : Execution)

theorem executeDownload_frame (task : DownloadTask) :
    ∃ errorType code recorder, task.executeDownload execution =
        { task with
          lastErrorType := errorType, lastErrorCode := code, recordedBy := recorder } := by
  cases execution with
  | noClient | badOutputPath ret => exact ⟨_, _, _, rfl⟩
  | download errors connectRet success =>
    obtain ⟨errorType, code, recorder, recorded⟩ := recordErrors_frame errors task
    simp only [executeDownload, recorded]
    split
    · exact ⟨_, _, _, rfl⟩
    · exact ⟨_, _, _, rfl⟩

/-- What one step makes of a task. -/
inductive Stepped (task : DownloadTask) : TaskEvent → DownloadTask → Prop
  | still {event : TaskEvent} : Stepped task event task
  | starts : task.joining = false → task.state = .idle → Stepped task .start
      { task with
        lastErrorType := .none, lastErrorCode := 0, state := .preparing, worker := some .entering
        attempt := task.attempt + 1, recordedBy := task.attempt + 1 }
  | pauses : task.joining = false → task.state = .running → Stepped task .pause
      { task with state := .pausing, waiters := task.waiters ++ [.pause] }
  | resumes : task.joining = false → task.state = .paused → Stepped task .resume
      { task with state := .resuming, joining := true }
  | cancels : task.joining = false → task.state = .paused → Stepped task .cancel
      { task with state := .canceled, cancelAccepted := true }
  | interrupts : task.joining = false → task.state = .running → Stepped task .cancel
      { task with
        state := .canceling, waiters := task.waiters ++ [.cancel], cancelAccepted := true }
  | joins : task.joining = true → task.worker = none → Stepped task .join
      { task with worker := some .entering, joining := false, attempt := task.attempt + 1 }
  | woken {event : TaskEvent} {waiter : Waiter} : event = .wake waiter ∨ event = .expire waiter →
      waiter ∈ task.waiters →
      Stepped task event { task with waiters := task.waiters.erase waiter }
  | expires {waiter : Waiter} : task.joining = false → waiter ∈ task.waiters →
      finished waiter task.state = false → Stepped task (.expire waiter)
        { task with state := .failed, waiters := task.waiters.erase waiter, forced := true }
  | leaves {execution : Execution} : task.worker = some .entering → task.joining = false →
      task.state ≠ .preparing ∧ task.state ≠ .resuming →
      Stepped task (.work execution) { task with worker := none }
  | enters {execution : Execution} : task.worker = some .entering → task.joining = false →
      task.state = .preparing ∨ task.state = .resuming →
      Stepped task (.work execution) { task with state := .running, worker := some .announcing }
  | announces {execution : Execution} : task.worker = some .announcing →
      Stepped task (.work execution) { task with worker := some .executing }
  | executes {execution : Execution} {errorType : DownloadErrorType} {code : Int}
      {recorder : Nat} : task.worker = some .executing → Stepped task (.work execution)
      { task with
        lastErrorType := errorType, lastErrorCode := code, recordedBy := recorder
        worker := some (.executed (isRequestSuccess execution)) }
  | decides {execution : Execution} {success : Bool} : task.worker = some (.executed success) →
      task.joining = false → Stepped task (.work execution) (task.checkDownloadResult success)
  | reports {execution : Execution} {first : TaskCallback} {rest : List TaskCallback} :
      task.worker = some (.notifying (first :: rest)) →
      Stepped task (.work execution) { task with worker := some (.notifying rest) }
  | ends {execution : Execution} : task.worker = some (.notifying []) →
      Stepped task (.work execution) { task with worker := none }

theorem stepped_work : Stepped task (.work execution) (task.work execution) := by
  unfold work
  split
  · exact .still
  · rename_i worker
    split
    · exact .still
    rename_i free
    rw [Bool.not_eq_true] at free
    unfold enterRunningState
    split
    · rename_i others
      exact .leaves worker free others
    · rename_i enters
      exact .enters worker free (by simpa only [not_and_or, not_not, ne_eq] using enters)
  · rename_i worker
    exact .announces worker
  · rename_i worker
    obtain ⟨errorType, code, recorder, executed⟩ := executeDownload_frame execution task
    rw [executed]
    exact .executes worker
  · rename_i worker
    split
    · exact .still
    · rename_i free
      exact .decides worker (by simpa using free)
  · rename_i worker
    exact .reports worker
  · rename_i worker
    exact .ends worker

theorem stepped (task : DownloadTask) (event : TaskEvent) :
    Stepped task event (next task event) := by
  have client : ∀ {after : DownloadTask}, (task.joining = false → Stepped task event after) →
      Stepped task event (if task.joining then task else after) := by
    intro after steps
    cases joining : task.joining with
    | true => exact .still
    | false => exact steps joining
  cases event with
  | start =>
    refine client fun free => ?_
    unfold start
    split
    · exact .still
    · rename_i idle
      exact .starts free (not_not.mp idle)
  | pause =>
    refine client fun free => ?_
    unfold pause
    split
    · exact .still
    · rename_i running
      exact .pauses free (not_not.mp running)
  | resume =>
    refine client fun free => ?_
    unfold resume
    split
    · exact .still
    · rename_i paused
      exact .resumes free (not_not.mp paused)
  | cancel =>
    refine client fun free => ?_
    unfold cancel
    split
    · rename_i paused
      exact .cancels free paused
    · rename_i running
      exact .interrupts free running
    · exact .still
  | join =>
    simp only [next, join]
    split
    · rename_i joins
      exact .joins joins.1 joins.2
    · exact .still
  | wake waiter =>
    refine client fun _ => ?_
    unfold wake
    split
    · rename_i waits
      exact .woken (.inl rfl) waits.1
    · exact .still
  | expire waiter =>
    refine client fun free => ?_
    unfold expire
    split
    · exact .still
    rename_i waiting
    rw [not_not] at waiting
    split
    · exact .woken (.inr rfl) waiting
    · rename_i unfinished
      exact .expires free waiting (by simpa using unfinished)
  | work execution => exact stepped_work execution

theorem decision_cases {success : Bool}
    (fits : Fits task) (worker : task.worker = some (.executed success))
    (proper : Proper task (.work .noClient)) :
    (decision success task.lastErrorCode task.state = task.state ∨
      edge task.state (decision success task.lastErrorCode task.state) = true) ∧
    (decision success task.lastErrorCode task.state = .paused ∨
      decision success task.lastErrorCode task.state = .completed ∨
      decision success task.lastErrorCode task.state = .failed ∨
      decision success task.lastErrorCode task.state = .canceled) ∧
    (task.state = .canceling → decision success task.lastErrorCode task.state = .canceled) ∧
    (task.state = .failed → decision success task.lastErrorCode task.state = .failed) := by
  obtain ⟨-, states⟩ := fits.attempts _ worker rfl
  simp only [Proper, worker] at proper
  obtain ⟨forced, cancels, -⟩ := proper
  unfold decision
  generalize isNetworkConnectionError task.lastErrorCode = networkError at *
  rcases states with state | state | state | state
  · rw [state]
    cases success <;> cases networkError <;> decide
  · rw [state]
    cases success <;> cases networkError <;> decide
  · have code := cancels state
    rw [state]
    cases success <;> cases networkError <;> first | decide | simp at code
  · obtain ⟨rfl, code⟩ := forced state
    rw [state]
    cases networkError <;> first | decide | simp at code

theorem Fits.unforced (fits : Fits task) (going : task.state ≠ .failed) : task.forced ≠ true :=
  fun forced => going (fits.forces forced)

theorem Fits.accepted (fits : Fits task) (going : task.state ≠ .failed)
    (accepted : task.cancelAccepted = true) :
    task.state = .canceling ∨ task.state = .canceled := by
  rcases fits.cancels accepted with state | state | forced
  · exact .inl state
  · exact .inr state
  · exact absurd forced (fits.unforced going)

variable {after : DownloadTask}

theorem fits_worker {execution : Execution} (fits : Fits task)
    (proper : Proper task (.work execution)) (step : Stepped task (.work execution) after) :
    Fits after := by
  cases step with
  | still => exact fits
  | woken waking _ => rcases waking with waking | waking <;> cases waking
  | leaves worker _ others =>
    rcases (fits.entering worker).2 with state | state
    · exact absurd state others.1
    · exact absurd state others.2
  | enters worker joining states =>
    have going : task.state ≠ .failed := by
      rcases states with state | state <;> simp [state]
    have accepted : task.cancelAccepted ≠ true := by
      intro accepted
      rcases states with state | state
      · simpa [state] using fits.accepted going accepted
      · simpa [state] using fits.accepted going accepted
    exact {
      resting := nofun
      entering := nofun
      attempts := fun _ _ _ => ⟨joining, .inl rfl⟩
      notifies := nofun
      joins := fun joins => by simp [joining] at joins
      waits := fun _ => by simp
      cancels := fun now => absurd now accepted
      forces := fun forced => absurd forced (fits.unforced going)
      fresh := nofun }
  | announces worker =>
    exact { fits with
      resting := nofun
      entering := nofun
      attempts := fun _ _ _ => fits.attempts _ worker rfl
      notifies := nofun }
  | executes worker =>
    have attempt := fits.attempts _ worker rfl
    exact { fits with
      resting := nofun
      entering := nofun
      attempts := fun _ _ _ => attempt
      notifies := nofun
      fresh := fun (idle : task.state = .idle) => by simp [idle] at attempt }
  | @decides _ success worker joining =>
    obtain ⟨-, ended, cancels, fails⟩ :=
      decision_cases fits worker (by simpa [Proper, worker] using proper)
    unfold checkDownloadResult
    generalize decision success task.lastErrorCode task.state = newState at *
    exact {
      resting := nofun
      entering := nofun
      attempts := by
        rintro stage ⟨⟩ attempts
        cases attempts
      notifies := fun _ _ _ => ended
      joins := fun joins => by simp [joining] at joins
      waits := fun _ => by rcases ended with rfl | rfl | rfl | rfl <;> simp
      cancels := by
        intro accepted
        rcases fits.cancels accepted with state | state | forced
        · exact .inr (.inl (cancels state))
        · simpa [state] using (fits.attempts _ worker rfl).2
        · exact .inr (.inr forced)
      forces := fun forced => fails (fits.forces forced)
      fresh := fun idle => by rcases ended with rfl | rfl | rfl | rfl <;> cases idle }
  | ends worker =>
    exact { fits with
      resting := fun _ joining => .inr (fits.notifies [] worker joining)
      entering := nofun
      attempts := nofun
      notifies := nofun }
  | reports worker =>
    exact { fits with
      resting := nofun
      entering := nofun
      attempts := by
        rintro stage ⟨⟩ attempts
        cases attempts
      notifies := fun _ _ joining => fits.notifies _ worker joining }

theorem fits_client (free : task.joining = false) (worker : after.worker = task.worker)
    (joining : after.joining = task.joining)
    (resting : task.worker = none → after.state = .idle ∨ after.state = .paused ∨
      after.state = .completed ∨ after.state = .failed ∨ after.state = .canceled)
    (entering : task.worker = some .entering → after.state = .preparing ∨ after.state = .resuming)
    (attempts : ∀ stage, task.worker = some stage → attempting stage = true →
      after.state = .running ∨ after.state = .pausing ∨ after.state = .canceling ∨
        after.state = .failed)
    (notifies : ∀ callbacks, task.worker = some (.notifying callbacks) →
      after.state = .paused ∨ after.state = .completed ∨ after.state = .failed ∨
        after.state = .canceled)
    (waits : after.waiters ≠ [] → after.state ≠ .idle ∧ after.state ≠ .preparing)
    (cancels : after.cancelAccepted = true →
      after.state = .canceling ∨ after.state = .canceled ∨ after.forced = true)
    (forces : after.forced = true → after.state = .failed)
    (fresh : after.state = .idle → after.recordedBy = after.attempt) : Fits after where
  resting none _ := resting (worker.symm.trans none)
  entering running := by
    rw [worker] at running
    exact ⟨joining.trans free, entering running⟩
  attempts stage running attempt := by
    rw [worker] at running
    exact ⟨joining.trans free, attempts stage running attempt⟩
  notifies callbacks running _ := by
    rw [worker] at running
    exact notifies callbacks running
  joins joins := by
    rw [joining, free] at joins
    cases joins
  waits
  cancels
  forces
  fresh

theorem fits_called {event : TaskEvent} (fits : Fits task) (proper : Proper task event)
    (step : Stepped task event after) (others : ∀ execution, event ≠ .work execution) :
    Fits after := by
  have resting := fits.resting
  have entering := fits.entering
  have attempts := fits.attempts
  have notifies := fits.notifies
  have cancels := fits.accepted
  have unforced := fits.unforced
  cases step with
  | still => exact fits
  | starts free idle =>
    have noWaiters : task.waiters = [] := by
      by_contra waits
      exact (fits.waits waits).1 idle
    exact {
      resting := nofun
      entering := fun _ => ⟨free, .inl rfl⟩
      attempts := by
        rintro stage ⟨⟩ attempts
        cases attempts
      notifies := nofun
      joins := fun joins => by simp [free] at joins
      waits := fun waits => absurd noWaiters waits
      cancels := fun accepted => by simpa [idle] using cancels (by simp [idle]) accepted
      forces := fun forced => absurd forced (unforced (by simp [idle]))
      fresh := fun _ => rfl }
  | pauses free running =>
    simp only [running] at resting entering notifies cancels unforced
    exact fits_client free rfl rfl (fun none => by simpa using resting none free)
      (fun starting => by simpa using entering starting) (fun _ _ _ => .inr (.inl rfl))
      (fun callbacks notifying => by simpa using notifies callbacks notifying free)
      (fun _ => by simp) (fun accepted => by simpa using cancels nofun accepted)
      (fun forced => absurd forced (unforced nofun)) nofun
  | cancels free paused =>
    simp only [paused] at entering attempts unforced
    exact fits_client free rfl rfl (fun _ => by simp)
      (fun starting => by simpa using entering starting)
      (fun stage worker attempt => by simpa using attempts stage worker attempt)
      (fun _ _ => by simp) (fun _ => by simp) (fun _ => .inr (.inl rfl))
      (fun forced => absurd forced (unforced nofun)) nofun
  | interrupts free running =>
    simp only [running] at resting entering notifies unforced
    exact fits_client free rfl rfl (fun none => by simpa using resting none free)
      (fun starting => by simpa using entering starting) (fun _ _ _ => by simp)
      (fun callbacks notifying => by simpa using notifies callbacks notifying free)
      (fun _ => by simp) (fun _ => .inl rfl)
      (fun forced => absurd forced (unforced nofun)) nofun
  | resumes _ paused =>
    simp only [paused] at entering attempts cancels unforced
    exact {
      resting := nofun
      entering := fun starting => by simpa using entering starting
      attempts := fun stage worker attempt => by simpa using attempts stage worker attempt
      notifies := nofun
      joins := fun _ => rfl
      waits := fun _ => by simp
      cancels := fun accepted => by simpa using cancels nofun accepted
      forces := fun forced => absurd forced (unforced nofun)
      fresh := nofun }
  | joins joins _ =>
    have resuming := fits.joins joins
    exact { fits with
      resting := nofun
      entering := fun _ => ⟨rfl, .inr resuming⟩
      attempts := by
        rintro stage ⟨⟩ attempts
        cases attempts
      notifies := nofun
      joins := nofun
      fresh := fun idle => by simp [resuming] at idle }
  | woken _ waiting =>
    exact { fits with waits := fun _ => fits.waits (List.ne_nil_of_mem waiting) }
  | @expires waiter free waiting unfinished =>
    have notResuming := proper waiting free
    obtain ⟨-, notPreparing⟩ := fits.waits (List.ne_nil_of_mem waiting)
    refine fits_client free rfl rfl (fun _ => by simp) ?_ (fun _ _ _ => by simp)
      (fun _ _ => by simp) (fun _ => by simp) (fun _ => .inr (.inr rfl)) (fun _ => rfl) nofun
    intro starting
    rcases (entering starting).2 with state | state
    · exact absurd state notPreparing
    · exact absurd state notResuming
  | _ => exact absurd rfl (others _)

theorem fits_next (task : DownloadTask) (event : TaskEvent) (fits : Fits task)
    (proper : Proper task event) : Fits (next task event) := by
  by_cases works : ∃ execution, event = .work execution
  · obtain ⟨execution, rfl⟩ := works
    exact fits_worker fits proper (stepped_work execution)
  · exact fits_called fits proper (stepped task event) (not_exists.mp works)

/-- A wait for a cancellation follows an accepted `Cancel`. -/
def Asked (task : DownloadTask) : Prop :=
  .cancel ∈ task.waiters → task.cancelAccepted = true

theorem asked_next (task : DownloadTask) (event : TaskEvent) (asked : Asked task) :
    Asked (next task event) := by
  have step := stepped task event
  generalize next task event = after at step ⊢
  cases step with
  | pauses _ _ => exact fun waits => asked (by simpa using waits)
  | cancels _ _ | interrupts _ _ => exact fun _ => rfl
  | woken _ _ | expires _ _ _ => exact fun waits => asked (List.mem_of_mem_erase waits)
  | _ => exact asked

/-- Every change of the state is in the table. -/
theorem edge_next (event : TaskEvent) (fits : Fits task) (asked : Asked task)
    (proper : Proper task event) :
    (next task event).state = task.state ∨ edge task.state (next task event).state = true := by
  have step := stepped task event
  generalize next task event = after at step ⊢
  cases step with
  | starts _ state | pauses _ state | resumes _ state | cancels _ state | interrupts _ state =>
    exact .inr (by rw [state]; rfl)
  | @expires waiter free waiting unfinished =>
    have notResuming := proper waiting free
    obtain ⟨notIdle, notPreparing⟩ := fits.waits (List.ne_nil_of_mem waiting)
    right
    cases waiter with
    | pause => cases state : task.state <;> simp_all [finished, edge]
    | cancel =>
      rcases fits.cancels (asked waiting) with state | state | forced
      · rw [state]
        rfl
      · simp [finished, state] at unfinished
      · simp [finished, fits.forces forced] at unfinished
  | enters _ _ states =>
    right
    rcases states with state | state <;> simp [state, edge]
  | decides worker _ =>
    exact (decision_cases fits worker (by simpa [Proper, worker] using proper)).1
  | _ => exact .inl rfl

/-- The decision of the worker is the one that the errors of its own attempt lead to. -/
theorem decision_own {success : Bool} (fits : Fits task)
    (worker : task.worker = some (.executed success)) (proper : Proper task (.work execution)) :
    decision success task.lastErrorCode task.state =
      decision success task.ownErrorCode task.state := by
  obtain ⟨-, states⟩ := fits.attempts _ worker rfl
  simp only [Proper, worker] at proper
  obtain ⟨forced, cancels, own⟩ := proper
  by_cases recorded : task.recordedBy = task.attempt
  · simp [ownErrorCode, recorded]
  have none : isNetworkConnectionError 0 = false := by decide
  simp only [ownErrorCode, if_neg recorded]
  cases success with
  | true => simp [decision]
  | false =>
    cases code : isNetworkConnectionError task.lastErrorCode with
    | false => simp [decision, code, none]
    | true =>
      simp only [true_and, code, not_true, and_false, imp_false] at forced cancels own
      rcases states with state | state | state | state
      · exact absurd (own state trivial) recorded
      · simp [decision, state]
      · exact absurd state cancels
      · exact absurd state forced

theorem fits_run (events : List TaskEvent) (proper : Along next Proper {} events) :
    Fits (run next {} events) ∧ Asked (run next {} events) := by
  apply invariant_of_along (fun task => Fits task ∧ Asked task) ?_ proper
  · refine ⟨?_, fun waits => by cases waits⟩
    constructor <;> simp
  · intro task event both proper
    exact ⟨fits_next task event both.1 proper, asked_next task event both.2⟩

/-- In a run of proper steps every change of the state is in the table, a cancellation that
was accepted ends in its own state unless its wait runs out, a failure that was forced stays,
and no attempt ends by the error of another one. -/
theorem lifecycle_holds (events : List TaskEvent) (event : TaskEvent)
    (proper : Along next Proper {} (events ++ [event])) :
    let before := run next {} events
    let after := next before event
    (after.state ≠ before.state → edge before.state after.state = true) ∧
    (after.cancelAccepted = true → after.forced = false →
      (after.state = .canceling ∨ after.state = .canceled) ∧
        (after.worker = none → after.state = .canceled)) ∧
    (after.forced = true → after.state = .failed) ∧
    ∀ execution success, event = .work execution → before.worker = some (.executed success) →
      decision success before.lastErrorCode before.state =
        decision success before.ownErrorCode before.state := by
  obtain ⟨first, second, -⟩ := (along_append events [event] _).mp proper
  obtain ⟨fits, asked⟩ := fits_run events first
  have fitsAfter := fits_next _ event fits second
  intro before after
  refine ⟨?_, ?_, fitsAfter.forces, ?_⟩
  · intro changed
    rcases edge_next event fits asked second with same | edge
    · exact absurd same changed
    · exact edge
  · intro accepted unforced
    have states : (next (run next {} events) event).state = .canceling ∨
        (next (run next {} events) event).state = .canceled := by
      rcases fitsAfter.cancels accepted with canceling | canceled | forced
      · exact .inl canceling
      · exact .inr canceled
      · cases unforced.symm.trans forced
    refine ⟨states, ?_⟩
    intro none
    rcases states with canceling | canceled
    · cases joining : (next (run next {} events) event).joining with
      | true =>
        have resuming := fitsAfter.joins joining
        rw [resuming] at canceling
        cases canceling
      | false =>
        have rest := fitsAfter.resting none joining
        simp [canceling] at rest
    · exact canceled
  · rintro execution success rfl worker
    exact decision_own execution fits worker second

section Runs

/-- An attempt whose request reports these errors. -/
def attemptWith (errors : List (DownloadErrorType × Int)) (success : Bool) : List TaskEvent :=
  [.work .noClient, .work .noClient, .work (.download errors (if success then 0 else 1) success)]

/-- A download that is paused, resumed and cancelled. -/
def canceledDownload : List TaskEvent :=
  [TaskEvent.start, .work .noClient, .pause] ++ (attemptWith [(.network, 23)] false).drop 1 ++
    [TaskEvent.work .noClient, .work .noClient, .work .noClient, .wake .pause, .resume, .join,
      .work .noClient, .cancel] ++ (attemptWith [(.network, 23)] false).drop 1

theorem canceled_download_is_canceled :
    let before := run next {} canceledDownload
    let after := next before (.work .noClient)
    (after.state ≠ before.state → edge before.state after.state = true) ∧
    (after.cancelAccepted = true → after.forced = false →
      (after.state = .canceling ∨ after.state = .canceled) ∧
        (after.worker = none → after.state = .canceled)) ∧
    (after.forced = true → after.state = .failed) ∧
    ∀ execution success, TaskEvent.work .noClient = .work execution →
      before.worker = some (.executed success) →
      decision success before.lastErrorCode before.state =
        decision success before.ownErrorCode before.state :=
  lifecycle_holds canceledDownload (.work .noClient) (by decide)

/-- A connection error turns an accepted cancellation into a pause; the worker completes a
task that a time-out has failed; and an attempt that reports no error is paused by the
connection error of the attempt before it. -/
theorem lifecycle_breaks : (let task := run next {} ([TaskEvent.start, .work .noClient, .cancel] ++
        (attemptWith [(.network, 56)] false).drop 1 ++ [TaskEvent.work .noClient])
     task.cancelAccepted = true ∧ task.state = .paused) ∧
    (let forced := run next {} ([TaskEvent.start, .work .noClient, .pause, .expire .pause] ++
        (attemptWith [] true).drop 1)
     forced.state = .failed ∧ (next forced (.work .noClient)).state = .completed) ∧
    (let stale := run next {} ([TaskEvent.start] ++ attemptWith [(.network, 56)] false ++
        [TaskEvent.work .noClient, .work .noClient, .work .noClient, .work .noClient, .resume,
          .join] ++
        attemptWith [] false)
     stale.worker = some (.executed false) ∧
      decision false stale.lastErrorCode stale.state = .paused ∧
      decision false stale.ownErrorCode stale.state = .failed) := by
  decide

end Runs

end PlayerFramework.Downloader.DownloadTask
