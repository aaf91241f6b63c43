import PlayerFramework.LowPower.RenderedBytes

/-!
When a write callback is served in full: the loop of `FillAudioBuffer` must get past every buffer
that it comes to before it has the bytes asked for.
-/

namespace PlayerFramework.LowPower

open Transition

/-- `memcpy_s` copies from every buffer that is reached before so many bytes are taken; the first
of them is read from the offset on. -/
def Unblocked : List AVBuffer → Nat → Nat → Prop
  | [], _, _ => True
  | buffer :: rest, offset, size =>
    size = 0 ∨ (¬Fill.memcpyFails (min size (buffer.getSize - offset)) ∧
      Unblocked rest 0 (size - (buffer.getSize - offset)))

theorem unblocked_zero (buffers : List AVBuffer) (offset : Nat) : Unblocked buffers offset 0 := by
  cases buffers with
  | nil => trivial
  | cons buffer rest => exact Or.inl rfl

namespace Fill

theorem copyBufferData_total (hasBuffer : Bool) (buffer : AVBuffer) (fill : Fill) :
    (fill.copyBufferData hasBuffer buffer).1.data.length +
        (fill.copyBufferData hasBuffer buffer).1.size = fill.data.length + fill.size := by
  unfold copyBufferData
  simp only
  split_ifs <;>
    (try simp only [List.length_append, List.length_take, List.length_drop, AVBuffer.length_data])
    <;> omega

theorem takeFrom_total (hasBuffer : Bool) (queue : List AVBuffer) (fill : Fill) :
    (fill.takeFrom hasBuffer queue).2.1.data.length +
        (fill.takeFrom hasBuffer queue).2.1.size = fill.data.length + fill.size := by
  induction queue generalizing fill with
  | nil => rfl
  | cons buffer rest ih =>
    have drained : (fill.drain hasBuffer buffer).1.data.length +
        (fill.drain hasBuffer buffer).1.size = fill.data.length + fill.size := by
      rw [drain]
      split
      · exact copyBufferData_total hasBuffer buffer fill
      · rfl
    rw [takeFrom]
    split
    · rfl
    simp only
    split
    · split
      · exact (ih _).trans drained
      · exact drained
    · exact drained

theorem takeFrom_append (hasBuffer : Bool) (first second : List AVBuffer) (fill : Fill) :
    (fill.takeFrom hasBuffer (first ++ second)).2.1 =
      if (fill.takeFrom hasBuffer first).2.2 then
        ((fill.takeFrom hasBuffer first).2.1.takeFrom hasBuffer second).2.1
      else (fill.takeFrom hasBuffer first).2.1 := by
  induction first generalizing fill with
  | nil => rfl
  | cons buffer rest ih =>
    rw [List.cons_append, takeFrom, takeFrom]
    split
    · rfl
    simp only
    split
    · split
      · exact ih _
      · rfl
    · rfl

/-- With enough bytes in the queue, the loop has all that was asked for exactly if no buffer
stops it; by induction on the queue. -/
theorem takeFrom_served {queue : List AVBuffer} {fill : Fill}
    (plain : ∀ buffer ∈ queue, buffer.eos = false)
    (present : ∀ buffer ∈ queue, buffer.memory.isSome = true)
    (front : FrontHolds queue fill.currentQueuedBufferOffset) (asked : 0 < fill.size)
    (enough : fill.size ≤ (remaining queue fill.currentQueuedBufferOffset).length) :
    (fill.takeFrom true queue).2.1.size = 0 ↔
      Unblocked queue fill.currentQueuedBufferOffset fill.size := by
  induction queue generalizing fill with
  | nil =>
    rw [remaining_nil, List.length_nil] at enough
    omega
  | cons buffer rest ih =>
    have inside := front.le_size
    have available : fill.isBufferAvailable buffer = true := by
      simp [isBufferAvailable, present buffer List.mem_cons_self, inside]
    rw [remaining_cons inside, List.length_append, List.length_drop, AVBuffer.length_data] at enough
    rw [takeFrom, plain buffer List.mem_cons_self, drain, if_pos available, Unblocked]
    simp only [Bool.false_eq_true, if_false, copyBufferData, not_true_eq_false]
    by_cases more : buffer.getSize - fill.currentQueuedBufferOffset > fill.size
    · have least : min fill.size (buffer.getSize - fill.currentQueuedBufferOffset) =
          fill.size := by omega
      have left : fill.size - (buffer.getSize - fill.currentQueuedBufferOffset) = 0 := by omega
      simp only [more, if_true, least, left]
      by_cases fails : memcpyFails fill.size
      · simp [fails]
      · simp [fails, unblocked_zero]
    · have least : min fill.size (buffer.getSize - fill.currentQueuedBufferOffset) =
          buffer.getSize - fill.currentQueuedBufferOffset := by omega
      simp only [more, if_false, least]
      by_cases fails : memcpyFails (buffer.getSize - fill.currentQueuedBufferOffset)
      · simp [fails]
      simp only [fails, if_false, if_true, not_false_eq_true, true_and]
      have unserved : ¬fill.size = 0 := by omega
      simp only [unserved, false_or]
      split
      case isTrue unfinished =>
        exact ih (fun other there => plain other (List.mem_cons_of_mem _ there))
          (fun other there => present other (List.mem_cons_of_mem _ there))
          (frontHolds_zero rest) unfinished (by rw [remaining_zero]; simp only; omega)
      case isFalse finished =>
        have none : fill.size - (buffer.getSize - fill.currentQueuedBufferOffset) = 0 := by
          omega
        simp [none, unblocked_zero]

end Fill

namespace LppAudioRenderAdapter

theorem fillLoop_data (hasBuffer : Bool) (size : Nat) (adapter : LppAudioRenderAdapter) :
    (adapter.fillLoop hasBuffer size).2 = (Fill.takeFrom hasBuffer adapter.pending
        ⟨size, adapter.currentQueuedBufferOffset, adapter.availDataSize, []⟩).2.1.data := by
  rw [pending, Fill.takeFrom_append]
  unfold fillLoop
  simp only
  split <;> rfl

theorem driveBufferCircle_pending (created : Bool) (adapter : LppAudioRenderAdapter) :
    (adapter.driveBufferCircle created).pending = adapter.pending ∧
      (adapter.driveBufferCircle created).currentQueuedBufferOffset =
        adapter.currentQueuedBufferOffset ∧
      (adapter.driveBufferCircle created).availDataSize = adapter.availDataSize := by
  unfold driveBufferCircle
  cases avail : adapter.availOutputBuffers with
  | nil => exact ⟨rfl, rfl, rfl⟩
  | cons oldestBuffer rest =>
    simp only
    split_ifs <;> simp [pending, avail]

theorem noteLength_pending (length : Nat) (created : Bool) (adapter : LppAudioRenderAdapter) :
    (adapter.noteLength length created).pending = adapter.pending ∧
      (adapter.noteLength length created).currentQueuedBufferOffset =
        adapter.currentQueuedBufferOffset ∧
      (adapter.noteLength length created).availDataSize = adapter.availDataSize :=
  driveBufferCircle_pending created
    { adapter with maxCbDataSize := max adapter.maxCbDataSize length }

/-- The EOS flag is seen exactly in what was accepted. -/
theorem isEos_after (events : List AdapterEvent) :
    (after events).isEos = (after events).accepted.any AVBuffer.eos := by
  have driven (created : Bool) (adapter : LppAudioRenderAdapter) :
      (adapter.driveBufferCircle created).isEos = adapter.isEos ∧
        (adapter.driveBufferCircle created).accepted = adapter.accepted := by
    unfold driveBufferCircle
    split
    · exact ⟨rfl, rfl⟩
    · split_ifs <;> exact ⟨rfl, rfl⟩
  apply invariant_of_run (fun adapter : LppAudioRenderAdapter =>
    adapter.isEos = adapter.accepted.any AVBuffer.eos) _ events rfl
  intro adapter event seen
  cases event with
  | bufferAvailable filledInputBuffer created =>
    cases filledInputBuffer with
    | none => exact seen
    | some buffer =>
      simp only [next, handleBufferAvailable]
      split
      case isTrue valid =>
        rw [(driven created _).1, (driven created _).2]
        simp only [push, accepted] at seen ⊢
        simp [seen, valid]
      case isFalse invalid =>
        simp only [accepted] at seen ⊢
        simp [seen, invalid]
  | writeData request created =>
    have noted := driven created
      { adapter with maxCbDataSize := max adapter.maxCbDataSize request.length }
    have dropped (adapter : LppAudioRenderAdapter) : adapter.dropEosBuffer.isEos = adapter.isEos ∧
          adapter.dropEosBuffer.accepted = adapter.accepted := by
      unfold dropEosBuffer
      split
      · exact ⟨rfl, rfl⟩
      · split_ifs <;> exact ⟨rfl, rfl⟩
    have filled (adapter : LppAudioRenderAdapter) :
        (adapter.fillAudioBuffer request.length request.bufferDesc).1.isEos = adapter.isEos ∧
          (adapter.fillAudioBuffer request.length request.bufferDesc).1.accepted =
            adapter.accepted := by
      unfold fillAudioBuffer
      split <;> exact ⟨rfl, rfl⟩
    simp only [next, onWriteData]
    split
    · rw [(dropped _).1, (dropped _).2]
      have same := filled (adapter.noteLength request.length created)
      rw [noteLength, noted.1, noted.2] at same
      exact same.1.trans (seen.trans (congrArg (List.any · AVBuffer.eos) same.2.symm))
    · rw [noteLength, noted.1, noted.2]
      exact seen
  | flush flushed =>
    simp only [next, flush]
    split
    · rfl
    · exact seen

/-- In every state that can be reached and has not seen the end of the stream, a callback for
which there is enough data is served in full exactly if no buffer stops the loop. -/
theorem request_served_iff (events : List AdapterEvent) (request : WriteRequest) (created : Bool)
    (unended : (after events).isEos = false)
    (enough : (after events).checkBufferSize request.length = true)
    (offered : request.bufferDesc.buffer = true ∧
      request.bufferDesc.bufLength = request.length) :
    (((after events).noteLength request.length created).fillAudioBuffer request.length
        request.bufferDesc).2.length = request.length ↔
      Unblocked (after events).pending (after events).currentQueuedBufferOffset request.length := by
  have accounts := (after_accounted events).accounts
  have seen := isEos_after events
  revert unended enough accounts seen
  generalize after events = adapter
  intro unended enough accounts seen
  by_cases none : request.length = 0
  · have empty : request.bufferDesc.data = [] := by
      rcases request.offered with nothing | ⟨same, short⟩
      · exact nothing
      · rw [← List.length_eq_zero_iff]
        omega
    rw [fillAudioBuffer, if_pos (Or.inl none), none]
    exact iff_of_true (by simp [empty]) (unblocked_zero _ _)
  obtain ⟨pending, offset, size⟩ := noteLength_pending request.length created adapter
  rw [fillAudioBuffer, if_neg (by simp [none, offered.2]), fillLoop_data, offered.1, pending,
    offset, size]
  have accepted (buffer : AVBuffer) (inside : buffer ∈ adapter.pending) :
      buffer ∈ adapter.accepted := accounts.taken.subset inside
  have plain : ∀ buffer ∈ adapter.pending, buffer.eos = false := by
    intro buffer inside
    rw [unended] at seen
    simpa using List.any_eq_false.mp seen.symm buffer (accepted buffer inside)
  have present : ∀ buffer ∈ adapter.pending, buffer.memory.isSome = true := by
    intro buffer inside
    have valid := (List.mem_filter.mp (accepted buffer inside)).2
    rw [AVBuffer.valid, Bool.and_eq_true] at valid
    exact valid.1
  have bytes : request.length ≤ (remaining adapter.pending
      adapter.currentQueuedBufferOffset).length := by
    have held := accounts.size
    rw [checkBufferSize, unended, Bool.or_false, decide_eq_true_eq] at enough
    omega
  have total := Fill.takeFrom_total true adapter.pending
    ⟨request.length, adapter.currentQueuedBufferOffset, adapter.availDataSize, []⟩
  rw [List.length_nil, Nat.zero_add] at total
  have served := @Fill.takeFrom_served adapter.pending
    ⟨request.length, adapter.currentQueuedBufferOffset, adapter.availDataSize, []⟩ plain present
    accounts.front (Nat.pos_of_ne_zero none) bytes
  rw [← served]
  change _ + _ = request.length at total
  constructor <;> intro same <;> omega

/-- A valid buffer without data, and one with two bytes behind it. -/
def emptyThenData : List AdapterEvent :=
  [.bufferAvailable (some ⟨0, false, some [], by simp⟩) true,
   .bufferAvailable (some ⟨0, false, some [1, 2], by simp⟩) true]

def twoBytes : WriteRequest := ⟨2, ⟨true, 2, []⟩, Or.inl rfl⟩

/-- The empty buffer stays in front, and nothing is delivered. -/
theorem empty_buffer_blocks : (after emptyThenData).isEos = false ∧
      (after emptyThenData).checkBufferSize twoBytes.length = true ∧
      (((after emptyThenData).noteLength twoBytes.length true).fillAudioBuffer twoBytes.length
        twoBytes.bufferDesc).2 = [] := by
  decide

/-- Without the empty buffer the same request is served. -/
theorem data_request_served :
    (((after emptyThenData.tail).noteLength twoBytes.length true).fillAudioBuffer twoBytes.length
      twoBytes.bufferDesc).2.length = twoBytes.length :=
  (request_served_iff emptyThenData.tail twoBytes true (by decide) (by decide) ⟨rfl, rfl⟩).mpr (by
      right
      exact ⟨by decide, unblocked_zero _ _⟩)

end LppAudioRenderAdapter

end PlayerFramework.LowPower
