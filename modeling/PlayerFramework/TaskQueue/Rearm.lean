import PlayerFramework.TaskQueue.Queue

/-!
One `TaskHandler` that is enqueued again (`task_queue.h`).  `EnqueueTask` clears the handler
under its mutex and inserts it under the queue's; any number of queues and threads step in
between.
-/

namespace PlayerFramework.TaskQueue

open Transition

/-- The last `EnqueueTask` that returned OK and did not find the handler running: how many
executions had begun, and whether the handler has been cancelled since. -/
structure Armed where
  begun : Nat
  canceled : Bool := false
deriving DecidableEq

/-- A call of `EnqueueTask` that has cleared the handler: the state that its `Clear` found, and
whether the handler has been cancelled since, or executed and not cleared. -/
structure EnqueueCall where
  found : TaskState
  disturbed : Bool := false
deriving DecidableEq

/-- What a call of `EnqueueTask` knows of a handler that it has cleared. -/
structure EnqueueCall.Tells (entered : EnqueueCall) (state : TaskState) : Prop where
  canceled : entered.found = .canceled → state = .canceled
  settled : entered.found = .idle ∨ entered.found = .finished →
    (state = .idle ↔ entered.disturbed = false)

/-- A handler with what is under way for it: the calls of `EnqueueTask` that have cleared it, the
queues that hold it, and the threads that have taken it, that have found it not cancelled, and
that run its task.  A result is named by the execution it comes from. -/
structure RearmedHandler where
  state : TaskState := .idle
  result : Option Nat := none
  calls : List EnqueueCall := []
  queued : List Nat := []
  taken : Nat := 0
  approved : Nat := 0
  executing : List Nat := []
  begun : Nat := 0
  armed : Option Armed := none
deriving DecidableEq

inductive HandlerEvent where
  | clear
  | insert (call queue : Nat) (cancelNotExecuted : Bool)
  | refuse (call : Nat)
  | cancelNotExecuted (queue : Nat)
  | cancel
  | take (queue : Nat)
  | check
  | execute
  | finish (index : Nat)
  | getResult
deriving DecidableEq

namespace RearmedHandler

/-- The calls of `EnqueueTask` under way, after a step that disturbs them or settles them. -/
def callsLeft (disturbed : Bool) (handler : RearmedHandler) : List EnqueueCall :=
  handler.calls.map fun entered => { entered with disturbed }

def cancel (handler : RearmedHandler) : RearmedHandler :=
  if handler.state = .running then handler
  else
    { handler with
      state := .canceled
      calls := handler.callsLeft true
      armed := handler.armed.map fun armed => { armed with canceled := true } }

/-- The section of `Clear`, and of `GetResult` when it need not wait. -/
def clearResult (handler : RearmedHandler) : RearmedHandler :=
  if handler.state = .finished then
    { handler with state := .idle, result := none, calls := handler.callsLeft false }
  else handler

/-- `CancelNotExecutedTaskLocked` of a queue. -/
def cancelQueued (queue : Nat) (handler : RearmedHandler) : RearmedHandler :=
  if queue ∈ handler.queued then
    { handler.cancel with queued := handler.queued.filter (· ≠ queue) }
  else handler

/-- `EnqueueTask` behind its `Clear`, where it returns OK. -/
def insert (call queue : Nat) (cancelNotExecuted : Bool) (handler : RearmedHandler) :
    RearmedHandler :=
  match handler.calls[call]? with
  | none => handler
  | some entered =>
    let left := if cancelNotExecuted then handler.cancelQueued queue else handler
    { left with
      calls := left.calls.eraseIdx call
      queued := left.queued ++ [queue]
      armed := if entered.found = .running then left.armed else some { begun := left.begun } }

/-- The first section of `Execute`. -/
def execute (handler : RearmedHandler) : RearmedHandler :=
  if handler.approved = 0 then handler
  else if handler.state ≠ .idle then { handler with approved := handler.approved - 1 }
  else
    { handler with
      approved := handler.approved - 1
      state := .running
      calls := handler.callsLeft true
      executing := handler.executing ++ [handler.begun + 1]
      begun := handler.begun + 1 }

/-- The second section of `Execute`. -/
def finish (index : Nat) (handler : RearmedHandler) : RearmedHandler :=
  match handler.executing[index]? with
  | none => handler
  | some execution =>
    { handler with
      executing := handler.executing.eraseIdx index
      state := .finished
      result := some execution }

def next (handler : RearmedHandler) : HandlerEvent → RearmedHandler
  | .clear =>
    { handler.clearResult with
      calls := handler.clearResult.calls ++ [{ found := handler.state }] }
  | .insert call queue cancelNotExecuted => handler.insert call queue cancelNotExecuted
  | .refuse call => { handler with calls := handler.calls.eraseIdx call }
  | .cancelNotExecuted queue => handler.cancelQueued queue
  | .cancel => handler.cancel
  | .take queue =>
    if queue ∈ handler.queued then
      { handler with queued := handler.queued.erase queue, taken := handler.taken + 1 }
    else handler
  | .check =>
    if handler.taken = 0 then handler
    else if handler.state = .canceled then { handler with taken := handler.taken - 1 }
    else { handler with taken := handler.taken - 1, approved := handler.approved + 1 }
  | .execute => handler.execute
  | .finish index => handler.finish index
  | .getResult => handler.clearResult

/-- The handler may be skipped: it has been executed or cancelled since it was armed. -/
def Skippable (handler : RearmedHandler) : Prop :=
  ∀ armed ∈ handler.armed, armed.canceled = true ∨ armed.begun < handler.begun

/-- An `EnqueueTask` leaves the handler fresh; it is skipped only after its execution or a new
cancellation, and `GetResult` returns a new result, or a new cancellation. -/
def Rearms (handler : RearmedHandler) : HandlerEvent → Prop
  | .insert call queue cancelNotExecuted =>
    ∀ entered ∈ handler.calls[call]?, entered.found ≠ .running →
      (handler.insert call queue cancelNotExecuted).state = .idle ∧
        (handler.insert call queue cancelNotExecuted).result = none
  | .check => 0 < handler.taken → handler.state = .canceled → handler.Skippable
  | .execute => 0 < handler.approved → handler.state ≠ .idle → handler.Skippable
  | .getResult =>
    handler.state = .finished ∨ handler.state = .canceled → ∀ armed ∈ handler.armed,
      (∀ execution ∈ handler.result, armed.begun < execution) ∧
        (armed.canceled = false → handler.result ≠ none)
  | _ => True

/-- An `EnqueueTask` comes when the handler is not cancelled, nothing disturbs it behind its
`Clear`, and it does not cancel the handler itself. -/
def FindsSettled (handler : RearmedHandler) : HandlerEvent → Prop
  | .insert call queue cancelNotExecuted =>
    ∀ entered ∈ handler.calls[call]?, entered.found ≠ .running →
      entered.found ≠ .canceled ∧ entered.disturbed = false ∧
        (cancelNotExecuted = true → queue ∉ handler.queued)
  | _ => True

/-- What an armed handler keeps until it is executed or cancelled. -/
structure Promised (handler : RearmedHandler) : Prop where
  calls : ∀ entered ∈ handler.calls, entered.Tells handler.state
  empty : handler.state = .idle ∨ handler.state = .running → handler.result = none
  full : handler.state = .finished → handler.result ≠ none
  executing : handler.executing = if handler.state = .running then [handler.begun] else []
  begun : ∀ armed ∈ handler.armed, armed.begun ≤ handler.begun
  results : ∀ armed ∈ handler.armed, ∀ execution ∈ handler.result, armed.begun < execution
  waits : ∀ armed ∈ handler.armed, armed.begun = handler.begun →
    handler.state = .idle ∨ handler.state = .canceled
  kept : ∀ armed ∈ handler.armed, armed.canceled = false → handler.state ≠ .canceled

variable {handler : RearmedHandler}

/-- What is under way does not matter for the promise. -/
theorem Promised.of_same {after : RearmedHandler} (promised : handler.Promised)
    (state : after.state = handler.state) (result : after.result = handler.result)
    (executing : after.executing = handler.executing) (begun : after.begun = handler.begun)
    (armed : after.armed = handler.armed)
    (calls : ∀ entered ∈ after.calls, entered ∈ handler.calls) : after.Promised := by
  cases after
  cases handler
  subst state result executing begun armed
  exact
    { calls := fun entered member => promised.calls entered (calls entered member)
      empty := promised.empty, full := promised.full, executing := promised.executing
      begun := promised.begun, results := promised.results, waits := promised.waits
      kept := promised.kept }

/-- A step into `after` disturbs every call, or settles every call where the handler was not
cancelled. -/
theorem tells_callsLeft {disturbed : Bool} {after : TaskState} (promised : handler.Promised)
    (canceled : handler.state = .canceled → after = .canceled)
    (idle : after = .idle ↔ disturbed = false) :
    ∀ entered ∈ handler.callsLeft disturbed, entered.Tells after := by
  intro entered member
  rcases List.mem_map.mp member with ⟨before, present, rfl⟩
  exact ⟨fun found => canceled ((promised.calls before present).canceled found), fun _ => idle⟩

theorem promised_cancel (promised : handler.Promised) : handler.cancel.Promised := by
  unfold cancel
  by_cases running : handler.state = .running
  · rw [if_pos running]
    exact promised
  rw [if_neg running]
  have armedBefore : ∀ armed ∈ handler.armed.map fun armed => { armed with canceled := true },
      ∃ before ∈ handler.armed, armed = { before with canceled := true } := by
    intro armed member
    rcases Option.map_eq_some_iff.mp member with ⟨before, present, same⟩
    exact ⟨before, present, same.symm⟩
  refine
    { calls := tells_callsLeft promised (fun _ => rfl) (by simp), empty := by simp
      full := by simp, executing := ?_, begun := ?_, results := ?_
      waits := fun _ _ _ => Or.inr rfl, kept := ?_ }
  · simpa [running] using promised.executing
  · intro armed member
    rcases armedBefore armed member with ⟨before, present, rfl⟩
    exact promised.begun before present
  · intro armed member
    rcases armedBefore armed member with ⟨before, present, rfl⟩
    exact promised.results before present
  · intro armed member uncanceled
    rcases armedBefore armed member with ⟨before, present, rfl⟩
    cases uncanceled

/-- `Clear` leaves a handler idle just when it was idle or finished. -/
theorem clearResult_idle_iff :
    handler.clearResult.state = .idle ↔ handler.state = .idle ∨ handler.state = .finished := by
  unfold clearResult
  split_ifs with finished
  · simp [finished]
  · simp [finished]

theorem clearResult_canceled (canceled : handler.state = .canceled) :
    handler.clearResult.state = .canceled := by
  simp [clearResult, canceled]

theorem promised_clearResult (promised : handler.Promised) : handler.clearResult.Promised := by
  unfold clearResult
  by_cases finished : handler.state = .finished
  · rw [if_pos finished]
    refine
      { calls := tells_callsLeft promised (fun canceled => ?_) (by simp), empty := fun _ => rfl
        full := by simp, executing := ?_, begun := promised.begun, results := by simp
        waits := fun _ _ _ => Or.inl rfl, kept := by simp }
    · cases canceled.symm.trans finished
    · simpa [finished] using promised.executing
  · rw [if_neg finished]
    exact promised

/-- A handler is idle for the call that cleared it just when it was not cancelled before and
nothing has disturbed it. -/
theorem Promised.idle_iff_settled {entered : EnqueueCall} (promised : handler.Promised)
    (member : entered ∈ handler.calls) (waiting : entered.found ≠ .running) :
    handler.state = .idle ↔ entered.found ≠ .canceled ∧ entered.disturbed = false := by
  have tells := promised.calls entered member
  cases found : entered.found with
  | running => exact absurd found waiting
  | canceled => simp [tells.canceled found]
  | idle => simp [tells.settled (Or.inl found)]
  | finished => simp [tells.settled (Or.inr found)]

theorem promised_clear (promised : handler.Promised) : (handler.next .clear).Promised := by
  have cleared := promised_clearResult promised
  refine
    { calls := ?_, empty := cleared.empty, full := cleared.full, executing := cleared.executing
      begun := cleared.begun, results := cleared.results, waits := cleared.waits
      kept := cleared.kept }
  intro entered member
  rcases List.mem_append.mp member with before | added
  · exact cleared.calls entered before
  · rw [List.mem_singleton.mp added]
    refine ⟨clearResult_canceled, fun settled => iff_of_true ?_ rfl⟩
    exact clearResult_idle_iff.mpr settled

theorem promised_cancelQueued (queue : Nat) (promised : handler.Promised) :
    (handler.cancelQueued queue).Promised := by
  unfold cancelQueued
  split_ifs
  · exact (promised_cancel promised).of_same rfl rfl rfl rfl rfl fun _ => id
  · exact promised

/-- Arming an idle handler makes the promise. -/
theorem promised_insert (call queue : Nat) (cancelNotExecuted : Bool)
    (promised : handler.Promised)
    (settled : handler.FindsSettled (.insert call queue cancelNotExecuted)) :
    (handler.insert call queue cancelNotExecuted).Promised := by
  unfold insert
  split
  · exact promised
  rename_i entered found
  have left : (if cancelNotExecuted then handler.cancelQueued queue else handler).Promised := by
    split_ifs
    · exact promised_cancelQueued queue promised
    · exact promised
  by_cases running : entered.found = .running
  · simp only [if_pos running]
    exact left.of_same rfl rfl rfl rfl rfl fun _ => List.mem_of_mem_eraseIdx
  have free := settled entered found running
  have idle := (promised.idle_iff_settled (List.mem_of_getElem? found) running).mpr
    ⟨free.1, free.2.1⟩
  have same : (if cancelNotExecuted then handler.cancelQueued queue else handler) =
      handler := by
    split_ifs with cancels
    · exact if_neg (free.2.2 cancels)
    · rfl
  simp only [same, if_neg running]
  have empty := promised.empty (Or.inl idle)
  refine
    { calls := fun other member => promised.calls other (List.mem_of_mem_eraseIdx member)
      empty := promised.empty, full := promised.full, executing := promised.executing
      begun := ?_, results := ?_, waits := ?_, kept := ?_ }
  · intro armed member
    cases member
    exact Nat.le_refl _
  · intro armed _ execution present
    rw [empty] at present
    cases present
  · intro _ _ _
    exact Or.inl idle
  · intro _ _ _ canceled
    rw [idle] at canceled
    cases canceled

theorem promised_execute (promised : handler.Promised) : handler.execute.Promised := by
  unfold execute
  split_ifs with none busy
  · exact promised
  · exact promised.of_same rfl rfl rfl rfl rfl fun _ => id
  have idle : handler.state = .idle := not_not.mp busy
  have empty := promised.empty (Or.inl idle)
  have alone : handler.executing = [] := by
    simpa [idle] using promised.executing
  refine
    { calls := tells_callsLeft promised (by simp [idle]) (by simp), empty := fun _ => empty
      full := by simp, executing := by simp [alone], begun := ?_
      results := promised.results, waits := ?_, kept := by simp }
  · intro armed member
    exact Nat.le_succ_of_le (promised.begun armed member)
  · intro armed member same
    have before := promised.begun armed member
    change armed.begun = handler.begun + 1 at same
    omega

/-- The execution that ends has begun after the handler was armed. -/
theorem promised_finish (index : Nat) (promised : handler.Promised) :
    (handler.finish index).Promised := by
  unfold finish
  split
  · exact promised
  rename_i execution found
  have executing := promised.executing
  by_cases running : handler.state = .running
  · rw [if_pos running] at executing
    rw [executing] at found
    have first : index = 0 := by
      have inside := (List.getElem?_eq_some_iff.mp found).1
      simpa using inside
    subst first
    rw [List.getElem?_cons_zero, Option.some.injEq] at found
    subst found
    have later : ∀ armed ∈ handler.armed, armed.begun < handler.begun := by
      intro armed member
      rcases Nat.lt_or_eq_of_le (promised.begun armed member) with before | same
      · exact before
      · have waits := promised.waits armed member same
        simp [running] at waits
    refine
      { calls := ?_, empty := by simp, full := by simp, executing := by simp [executing]
        begun := promised.begun, results := ?_, waits := ?_, kept := by simp }
    · intro entered member
      have tells := promised.calls entered member
      rw [running] at tells
      exact ⟨fun canceled => absurd (tells.canceled canceled) (by simp), fun settled =>
        iff_of_false (by simp) ((not_congr (tells.settled settled)).mp (by simp))⟩
    · intro armed member other isResult
      cases isResult
      exact later armed member
    · intro armed member same
      exact absurd same (Nat.ne_of_lt (later armed member))
  · rw [if_neg running] at executing
    simp [executing] at found

theorem promised_next (event : HandlerEvent) (promised : handler.Promised)
    (settled : handler.FindsSettled event) : (handler.next event).Promised := by
  cases event with
  | clear => exact promised_clear promised
  | insert call queue cancelNotExecuted =>
    exact promised_insert call queue cancelNotExecuted promised settled
  | refuse call =>
    exact promised.of_same rfl rfl rfl rfl rfl fun _ => List.mem_of_mem_eraseIdx
  | cancelNotExecuted queue => exact promised_cancelQueued queue promised
  | cancel => exact promised_cancel promised
  | take queue =>
    simp only [next]
    split_ifs
    · exact promised.of_same rfl rfl rfl rfl rfl fun _ => id
    · exact promised
  | check =>
    simp only [next]
    split_ifs
    · exact promised
    · exact promised.of_same rfl rfl rfl rfl rfl fun _ => id
    · exact promised.of_same rfl rfl rfl rfl rfl fun _ => id
  | execute => exact promised_execute promised
  | finish index => exact promised_finish index promised
  | getResult => exact promised_clearResult promised

/-- An insertion leaves the handler fresh just when nothing stands against it before. -/
theorem fresh_iff (call queue : Nat) (cancelNotExecuted : Bool) (promised : handler.Promised) :
    handler.Rearms (.insert call queue cancelNotExecuted) ↔
      handler.FindsSettled (.insert call queue cancelNotExecuted) := by
  refine forall_congr' fun entered => forall_congr' fun found => forall_congr' fun waiting => ?_
  have settled := promised.idle_iff_settled (List.mem_of_getElem? found) waiting
  rw [← and_assoc, ← settled]
  simp only [insert, Option.mem_def.mp found]
  by_cases cancels : cancelNotExecuted = true ∧ queue ∈ handler.queued
  · have busy : (handler.cancelQueued queue).state ≠ .idle := by
      unfold cancelQueued cancel
      split_ifs with running <;> simp_all
    simp [cancels, busy]
  · have same : (if cancelNotExecuted then handler.cancelQueued queue else handler) =
        handler := by
      unfold cancelQueued
      split_ifs with asked inList
      · exact absurd ⟨asked, inList⟩ cancels
      · rfl
      · rfl
    rw [same]
    constructor
    · intro fresh
      exact ⟨fresh.1, fun asked inList => cancels ⟨asked, inList⟩⟩
    · intro idle
      exact ⟨idle.1, promised.empty (Or.inl idle.1)⟩

theorem Promised.skippable (promised : handler.Promised) (busy : handler.state ≠ .idle) :
    handler.Skippable := by
  intro armed member
  by_cases canceled : armed.canceled = true
  · exact Or.inl canceled
  right
  rcases Nat.lt_or_eq_of_le (promised.begun armed member) with before | same
  · exact before
  · have kept := promised.kept armed member (by simpa using canceled)
    rcases promised.waits armed member same with idle | isCanceled
    · exact absurd idle busy
    · exact absurd isCanceled kept

theorem rearms_of_findsSettled (event : HandlerEvent) (promised : handler.Promised)
    (idle : handler.FindsSettled event) : handler.Rearms event := by
  cases event with
  | insert call queue cancelNotExecuted =>
    exact (fresh_iff call queue cancelNotExecuted promised).mpr idle
  | check =>
    intro _ canceled
    exact promised.skippable (by simp [canceled])
  | execute =>
    intro _ busy
    exact promised.skippable busy
  | getResult =>
    intro done armed member
    refine ⟨promised.results armed member, ?_⟩
    intro uncanceled
    have kept := promised.kept armed member uncanceled
    exact promised.full (done.resolve_right kept)
  | clear | refuse call | cancelNotExecuted queue | cancel | take queue | finish index =>
    trivial

theorem findsSettled_of_rearms (event : HandlerEvent) (promised : handler.Promised)
    (rearms : handler.Rearms event) : handler.FindsSettled event := by
  cases event with
  | insert call queue cancelNotExecuted =>
    exact (fresh_iff call queue cancelNotExecuted promised).mp rearms
  | clear | refuse call | cancelNotExecuted queue | cancel | take queue | check | execute
  | finish index | getResult => trivial

theorem promised_initial : ({} : RearmedHandler).Promised where
  calls := by simp
  empty _ := rfl
  full finished := by cases finished
  executing := rfl
  begun := by simp
  results := by simp
  waits := by simp
  kept := by simp

/-- In a run a handler is armed anew by every `EnqueueTask` just when every `EnqueueTask` comes
to a handler that is not cancelled and is left alone until it is inserted. -/
theorem rearms_iff_findsSettled (events : List HandlerEvent) :
    Along next Rearms {} events ↔ Along next FindsSettled {} events := by
  constructor
  · intro rearms
    refine rearms.implies Promised ?_ ?_ promised_initial
    · intro before event promised good
      exact promised_next event promised (findsSettled_of_rearms event promised good)
    · intro before event promised good
      exact findsSettled_of_rearms event promised good
  · intro idle
    refine idle.implies Promised ?_ ?_ promised_initial
    · intro before event promised good
      exact promised_next event promised good
    · intro before event promised good
      exact rearms_of_findsSettled event promised good

/-- A handler is cancelled before it is executed, and enqueued again. -/
def canceledHandler : List HandlerEvent :=
  [.clear, .insert 0 0 false, .cancel, .take 0, .check, .clear, .insert 0 0 false]

/-- The second `EnqueueTask` returns OK, but the handler is still cancelled: it is skipped, and
`GetResult` returns at once. -/
theorem canceled_handler_skipped :
    (run next {} canceledHandler).state = .canceled ∧
      (run next {} (canceledHandler ++ [HandlerEvent.take 0, .check])).approved = 0 ∧
      ¬ ∀ events, Along next Rearms {} events := by
  refine ⟨by decide, by decide, ?_⟩
  intro always
  have along := always canceledHandler
  have fresh := along.2.2.2.2.2.2.1 { found := .canceled } rfl (by decide)
  revert fresh
  decide

end RearmedHandler

end PlayerFramework.TaskQueue
