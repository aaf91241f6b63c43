import PlayerFramework.Downloader.MessageQueue

/-!
What a `MessageQueue` delivers of the messages that have been posted to it.
-/

namespace PlayerFramework.Downloader

open Transition

variable {Payload : Type}

/-- Only `MSG_PROGRESS` may be dropped. -/
def QueuedMessage.control (message : QueuedMessage Payload) : Bool :=
  decide (message.type ≠ .progress)

namespace MessageQueue

/-- The message that a thread takes in its next step. -/
def taken (index : Nat) (queue : MessageQueue Payload) : List (QueuedMessage Payload) :=
  match queue.workers[index]? with
  | none => []
  | some worker =>
    if worker.stage = .ready ∧ queue.current worker then queue.queue.take 1 else []

/-- The message of the call of `PostMessage` that holds `queueMutex_`. -/
def incoming (queue : MessageQueue Payload) : List (QueuedMessage Payload) :=
  match queue.owner with
  | some (.post message) => [message]
  | _ => []

/-- The next step of the `Stop` clears the queue. -/
def clears (queue : MessageQueue Payload) : Bool :=
  match queue.stopping with
  | some (_, .clearing _) => queue.owner.isNone
  | _ => false

end MessageQueue

/-- A queue with the messages that it has accepted and those that its threads have taken, both
since a `Stop` cleared it last. -/
structure ObservedQueue (Payload : Type) where
  queue : MessageQueue Payload := {}
  posted : List (QueuedMessage Payload) := []
  delivered : List (QueuedMessage Payload) := []

namespace ObservedQueue

def next (state : ObservedQueue Payload) (event : QueueEvent Payload) : ObservedQueue Payload :=
  let queue := state.queue.next event
  match event with
  | .postGoesOn _ => { state with queue, posted := state.posted ++ state.queue.incoming }
  | .work index => { state with queue, delivered := state.delivered ++ state.queue.taken index }
  | .stopGoesOn => if state.queue.clears then { queue } else { state with queue }
  | _ => { state with queue }

/-- The queue stays below its limit, messages are delivered in the order of their posts, and
the control messages delivered and queued are those that were posted. -/
structure KeepsMessages (state : ObservedQueue Payload) : Prop where
  bounded : state.queue.queue.length ≤ maxQueueSize
  ordered : List.Sublist (state.delivered ++ state.queue.queue) state.posted
  kept : (state.delivered ++ state.queue.queue).filter QueuedMessage.control =
    state.posted.filter QueuedMessage.control

/-- A post finds room, or a progress message that can be dropped for it. -/
def FindsRoom (state : ObservedQueue Payload) : QueueEvent Payload → Prop
  | .postGoesOn _ =>
    state.queue.incoming ≠ [] → state.queue.queue.length < maxQueueSize ∨
      ∃ queued ∈ state.queue.queue, queued.type = .progress
  | _ => True

end ObservedQueue

namespace MessageQueue

def spared (queue : List (QueuedMessage Payload)) : List (QueuedMessage Payload) :=
  if maxQueueSize ≤ queue.length then
    if queue.any fun queued => queued.type == .progress then
      queue.eraseP fun queued => queued.type == .progress
    else queue.tail
  else queue

section Spared

variable {queue : List (QueuedMessage Payload)}

theorem pushed_eq_spared (message : QueuedMessage Payload) :
    pushed message queue = spared queue ++ [message] := rfl

theorem spared_sublist : List.Sublist (spared queue) queue := by
  unfold spared
  split_ifs
  · exact List.eraseP_sublist
  · exact List.tail_sublist queue
  · exact List.Sublist.refl queue

theorem length_spared_lt (bounded : queue.length ≤ maxQueueSize) :
    (spared queue).length < maxQueueSize := by
  have positive : 0 < maxQueueSize := by decide
  unfold spared
  split_ifs with full progress
  · rw [List.length_eraseP, if_pos progress]
    omega
  · rw [List.length_tail]
    omega
  · exact Nat.lt_of_not_le full

theorem filter_eraseP_progress :
    (queue.eraseP fun queued => queued.type == .progress).filter QueuedMessage.control =
      queue.filter QueuedMessage.control := by
  induction queue with
  | nil => rfl
  | cons head rest ih =>
    by_cases progress : head.type = .progress
    · simp [QueuedMessage.control, progress]
    · rw [List.eraseP_cons_of_neg (by simpa using progress), List.filter_cons, List.filter_cons, ih]

theorem filter_spared_iff :
    (spared queue).filter QueuedMessage.control = queue.filter QueuedMessage.control ↔
      queue.length < maxQueueSize ∨ ∃ queued ∈ queue, queued.type = .progress := by
  unfold spared
  split_ifs with full progress
  · have present : ∃ queued ∈ queue, queued.type = .progress := by
      simpa using progress
    exact iff_of_true filter_eraseP_progress (Or.inr present)
  · have absent : ¬ ∃ queued ∈ queue, queued.type = .progress := by
      simpa using progress
    have noRoom : ¬ queue.length < maxQueueSize := Nat.not_lt.mpr full
    refine iff_of_false ?_ (not_or.mpr ⟨noRoom, absent⟩)
    cases queue with
    | nil =>
      have positive : 0 < maxQueueSize := by decide
      exact absurd full (Nat.not_le.mpr positive)
    | cons head rest =>
      have lost : head.control = true := by
        apply decide_eq_true
        intro isProgress
        exact absent ⟨head, List.mem_cons_self, isProgress⟩
      rw [List.tail_cons, List.filter_cons_of_pos lost]
      intro same
      have lengths := congrArg List.length same
      rw [List.length_cons] at lengths
      omega
  · exact iff_of_true rfl (Or.inl (Nat.lt_of_not_le full))

end Spared

section Steps

variable {queue : MessageQueue Payload}

theorem taken_append_work (index : Nat) :
    queue.taken index ++ (queue.work index).queue = queue.queue := by
  unfold taken work
  cases queue.workers[index]? with
  | none => rfl
  | some worker =>
    cases stage : worker.stage with
    | ready =>
      by_cases current : queue.current worker = true
      · cases messages : queue.queue with
        | nil => simp [stage, current, messages, put]
        | cons head rest => simp [stage, current]
      · simp [stage, current, put]
    | locking | notified =>
      unfold lock
      by_cases held : queue.owner.isSome = true
      · simp [stage, held]
      · simp [stage, held, put]
    | entering =>
      by_cases stopping : queue.stopping.isSome = true
      · simp [stage, stopping]
      · simp [stage, stopping, put]
    | looping | testing | unready | handling => simp [stage, put]
    | blocked | ended => simp [stage]

theorem queue_postGoesOn (chosen : Nat) : (∃ message, queue.incoming = [message] ∧
        (queue.postGoesOn chosen).queue = pushed message queue.queue) ∨
      (queue.incoming = [] ∧ queue.postGoesOn chosen = queue) := by
  unfold incoming postGoesOn
  cases queue.owner with
  | none => exact Or.inr ⟨rfl, rfl⟩
  | some holder =>
    cases holder with
    | worker index => exact Or.inr ⟨rfl, rfl⟩
    | post message => exact Or.inl ⟨message, rfl, rfl⟩

theorem queue_stopGoesOn : queue.stopGoesOn.queue = if queue.clears then [] else queue.queue := by
  unfold stopGoesOn clears
  split
  · rename_i idle
    rw [idle]
    rfl
  · rename_i stopping
    rw [stopping]
    rfl
  · rename_i stopping
    rw [stopping]
    rfl
  · rename_i stopping
    rw [stopping]
    rfl
  · rename_i stopping
    rw [stopping]
    cases owner : queue.owner with
    | none | some holder => simp

theorem queue_next_other {event : QueueEvent Payload}
    (other : ∀ chosen, event ≠ .postGoesOn chosen) (idle : ∀ index, event ≠ .work index)
    (running : event ≠ .stopGoesOn) : (queue.next event).queue = queue.queue := by
  cases event with
  | start =>
    change queue.start.queue = queue.queue
    unfold start
    split_ifs <;> rfl
  | stop caller =>
    change (queue.stop caller).queue = queue.queue
    unfold stop
    split_ifs <;> rfl
  | join thread =>
    change (queue.join thread).queue = queue.queue
    unfold join
    split_ifs <;> rfl
  | post message =>
    change (queue.post message).queue = queue.queue
    unfold post
    split_ifs <;> rfl
  | wakeUp index => rfl
  | stopGoesOn => exact absurd rfl running
  | postGoesOn chosen => exact absurd rfl (other chosen)
  | work index => exact absurd rfl (idle index)

end Steps

end MessageQueue

namespace ObservedQueue

variable {state : ObservedQueue Payload}

/-- The queue stays below its limit, and delivers messages in the order of their posts. -/
def InOrder (state : ObservedQueue Payload) : Prop :=
  state.queue.queue.length ≤ maxQueueSize ∧
    List.Sublist (state.delivered ++ state.queue.queue) state.posted

theorem InOrder.next (inOrder : state.InOrder) (event : QueueEvent Payload) :
    (state.next event).InOrder := by
  obtain ⟨bounded, ordered⟩ := inOrder
  cases event with
  | postGoesOn chosen =>
    rcases state.queue.queue_postGoesOn chosen with ⟨message, incoming, queue⟩ | ⟨nothing, same⟩
    · simp only [InOrder, ObservedQueue.next, MessageQueue.next, queue, incoming,
        MessageQueue.pushed_eq_spared, List.length_append, ← List.append_assoc]
      exact ⟨MessageQueue.length_spared_lt bounded,
        ((MessageQueue.spared_sublist.append_left _).trans ordered).append_right _⟩
    · simpa [InOrder, ObservedQueue.next, MessageQueue.next, nothing, same] using ⟨bounded, ordered⟩
  | work index =>
    have front := @MessageQueue.taken_append_work Payload state.queue index
    simp only [InOrder, ObservedQueue.next, MessageQueue.next, List.append_assoc, front]
    refine ⟨Nat.le_trans ?_ bounded, ordered⟩
    rw [← front, List.length_append]
    exact Nat.le_add_left _ _
  | stopGoesOn =>
    have queue := @MessageQueue.queue_stopGoesOn Payload state.queue
    cases clears : state.queue.clears <;>
      simp_all [InOrder, ObservedQueue.next, MessageQueue.next]
  | _ =>
    simp only [InOrder, ObservedQueue.next, MessageQueue.queue_next_other, ne_eq, reduceCtorEq,
      not_false_eq_true, implies_true]
    exact ⟨bounded, ordered⟩

theorem keepsMessages_next_iff (event : QueueEvent Payload) (keeps : state.KeepsMessages) :
    (state.next event).KeepsMessages ↔ state.FindsRoom event := by
  have inOrder := InOrder.next ⟨keeps.bounded, keeps.ordered⟩ event
  have onlyKept : (state.next event).KeepsMessages ↔
      ((state.next event).delivered ++ (state.next event).queue.queue).filter
        QueuedMessage.control = (state.next event).posted.filter QueuedMessage.control :=
    ⟨fun later => later.kept, fun kept => ⟨inOrder.1, inOrder.2, kept⟩⟩
  have before := keeps.kept
  rw [onlyKept]
  cases event with
  | postGoesOn chosen =>
    rcases state.queue.queue_postGoesOn chosen with ⟨message, incoming, queue⟩ | ⟨nothing, same⟩
    · rw [List.filter_append] at before
      simp only [next, MessageQueue.next, queue, incoming, MessageQueue.pushed_eq_spared,
        List.filter_append, ← before, ← List.append_assoc, List.append_cancel_right_eq,
        List.append_cancel_left_eq, MessageQueue.filter_spared_iff]
      simp [FindsRoom, incoming]
    · refine iff_of_true ?_ fun incoming => absurd nothing incoming
      simpa [next, MessageQueue.next, nothing, same] using before
  | work index =>
    have front := @MessageQueue.taken_append_work Payload state.queue index
    refine iff_of_true ?_ trivial
    simpa only [next, MessageQueue.next, List.append_assoc, front] using before
  | stopGoesOn =>
    have queue := @MessageQueue.queue_stopGoesOn Payload state.queue
    refine iff_of_true ?_ trivial
    cases clears : state.queue.clears <;> simp_all [next, MessageQueue.next]
  | start | stop caller | join thread | post message | wakeUp index =>
    refine iff_of_true ?_ trivial
    simpa only [next, MessageQueue.queue_next_other, ne_eq, reduceCtorEq, not_false_eq_true,
      implies_true] using before

theorem keepsMessages_initial : ({} : ObservedQueue Payload).KeepsMessages where
  bounded := Nat.zero_le _
  ordered := List.Sublist.refl []
  kept := rfl

/-- Whichever messages are dropped, the queue stays below its limit and none is delivered twice
or before an earlier one.  The control messages are kept, always, just when every post finds
room or a progress message to drop. -/
theorem keepsMessages_iff_findsRoom (events : List (QueueEvent Payload)) :
    (∀ count, InOrder (run next ({} : ObservedQueue Payload) (events.take count))) ∧
      ((∀ count, (run next ({} : ObservedQueue Payload) (events.take count)).KeepsMessages) ↔
        Along next FindsRoom {} events) := by
  constructor
  · intro count
    exact invariant_of_run InOrder (fun _ event inOrder => inOrder.next event) _
      ⟨Nat.zero_le _, .refl []⟩
  · exact always_iff_along KeepsMessages
      (fun _ event keeps => keepsMessages_next_iff event keeps) keepsMessages_initial events

/-- A failure and then a hundred changes of state are posted while the thread is busy. -/
def busyPosts : List (QueueEvent Unit) :=
  .start :: (⟨.failed, ()⟩ :: List.replicate 100 ⟨.stateChanged, ()⟩).flatMap fun message =>
    [.post message, .postGoesOn 0]

/-- The failure is dropped. -/
theorem busy_failure_dropped :
    (⟨.failed, ()⟩ : QueuedMessage Unit) ∈ (run next {} busyPosts).posted ∧
      ⟨.failed, ()⟩ ∉ (run next {} busyPosts).queue.queue ∧
      (run next {} busyPosts).delivered = [] ∧
      ¬ ∀ (events : List (QueueEvent Unit)) (count : Nat),
        (run next ({} : ObservedQueue Unit) (events.take count)).KeepsMessages := by
  have dropped : (run next {} busyPosts).queue.queue = List.replicate 100 ⟨.stateChanged, ()⟩ := by
    decide +kernel
  have posted : (run next {} busyPosts).posted =
      ⟨.failed, ()⟩ :: List.replicate 100 ⟨.stateChanged, ()⟩ := by
    decide +kernel
  have delivered : (run next {} busyPosts).delivered = [] := by
    decide +kernel
  refine ⟨?_, ?_, delivered, ?_⟩
  · rw [posted]
    exact List.mem_cons_self
  · rw [dropped]
    simp
  intro always
  have kept := (always busyPosts busyPosts.length).kept
  have lengths := congrArg List.length kept
  revert lengths
  decide +kernel

end ObservedQueue

end PlayerFramework.Downloader
