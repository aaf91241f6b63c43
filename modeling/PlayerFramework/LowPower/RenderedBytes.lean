import PlayerFramework.LowPower.RenderAdapter

/-!
The renderer gets the bytes of the valid buffers in their order, each of them once: what is
enqueued and what the queues still hold, from the offset on, are together what was accepted.
-/

namespace PlayerFramework.LowPower

open Transition

/-- What the buffers still hold where the first of them has been read up to the offset. -/
def remaining (buffers : List AVBuffer) (offset : Nat) : List UInt8 := (bytes buffers).drop offset

/-- The offset lies inside the first buffer, which then is no EOS buffer. -/
def FrontHolds : List AVBuffer → Nat → Prop
  | [], offset => offset = 0
  | buffer :: _, offset => offset = 0 ∨ (buffer.eos = false ∧ offset < buffer.getSize)

@[simp] theorem remaining_nil (offset : Nat) : remaining [] offset = [] := by
  simp [remaining]

@[simp] theorem remaining_zero (buffers : List AVBuffer) : remaining buffers 0 = bytes buffers := by
  simp [remaining]

@[simp] theorem frontHolds_zero (buffers : List AVBuffer) : FrontHolds buffers 0 := by
  cases buffers with
  | nil => rfl
  | cons buffer rest => exact Or.inl rfl

variable {buffer : AVBuffer} {rest buffers : List AVBuffer} {offset : Nat}

theorem FrontHolds.le_size (holds : FrontHolds (buffer :: rest) offset) :
    offset ≤ buffer.getSize := by
  rcases holds with zero | ⟨_, inside⟩
  · omega
  · omega

theorem FrontHolds.eq_zero_of_eos (holds : FrontHolds (buffer :: rest) offset)
    (eos : buffer.eos = true) : offset = 0 := by
  rcases holds with zero | ⟨plain, _⟩
  · exact zero
  · simp [eos] at plain

theorem FrontHolds.append (holds : FrontHolds buffers offset) (later : List AVBuffer) :
    FrontHolds (buffers ++ later) offset := by
  cases buffers with
  | nil =>
    have zero : offset = 0 := holds
    rw [zero]
    exact frontHolds_zero _
  | cons buffer rest => exact holds

theorem FrontHolds.le_length (holds : FrontHolds buffers offset) :
    offset ≤ (bytes buffers).length := by
  cases buffers with
  | nil => exact Nat.le_of_eq holds
  | cons buffer rest =>
    have inside := holds.le_size
    simp only [bytes_cons, List.length_append, AVBuffer.length_data]
    omega

theorem remaining_append (holds : FrontHolds buffers offset) (later : List AVBuffer) :
    remaining (buffers ++ later) offset = remaining buffers offset ++ bytes later := by
  rw [remaining, bytes_append, List.drop_append_of_le_length holds.le_length]
  rfl

theorem remaining_cons (inside : offset ≤ buffer.getSize) :
    remaining (buffer :: rest) offset = buffer.data.drop offset ++ bytes rest := by
  rw [remaining, bytes_cons, List.drop_append_of_le_length inside]

namespace Fill

/-- What the loop has copied and what the buffers hold after it is what they held before, and
the size has followed. -/
structure Moves (before after : List AVBuffer) (fill filled : Fill) : Prop where
  bytes : filled.data ++ remaining after filled.currentQueuedBufferOffset =
    fill.data ++ remaining before fill.currentQueuedBufferOffset
  size : filled.availDataSize - (remaining after filled.currentQueuedBufferOffset).length =
    fill.availDataSize - (remaining before fill.currentQueuedBufferOffset).length
  front : FrontHolds after filled.currentQueuedBufferOffset

variable {fill : Fill}

theorem Moves.refl {buffers : List AVBuffer}
    (front : FrontHolds buffers fill.currentQueuedBufferOffset) :
    Moves buffers buffers fill fill := ⟨rfl, rfl, front⟩

theorem Moves.trans {first second third : List AVBuffer} {middle filled : Fill}
    (early : Moves first second fill middle) (late : Moves second third middle filled) :
    Moves first third fill filled :=
  ⟨late.bytes.trans early.bytes, late.size.trans early.size, late.front⟩

theorem Moves.append {before after : List AVBuffer} {filled : Fill}
    (moves : Moves before after fill filled)
    (front : FrontHolds before fill.currentQueuedBufferOffset) (later : List AVBuffer) :
    Moves (before ++ later) (after ++ later) fill filled := by
  have bytes := moves.bytes
  have size := moves.size
  constructor
  · rw [remaining_append moves.front, remaining_append front, ← List.append_assoc, bytes,
      List.append_assoc]
  · rw [remaining_append moves.front, remaining_append front]
    simp only [List.length_append]
    omega
  · exact moves.front.append later

/-- `CopyBufferData` that drains the buffer leaves the rest of the queue, otherwise the buffer
stays in front. -/
theorem moves_copyBufferData (hasBuffer : Bool) {buffer : AVBuffer} (rest : List AVBuffer)
    (plain : buffer.eos = false)
    (front : FrontHolds (buffer :: rest) fill.currentQueuedBufferOffset) :
    let copied := fill.copyBufferData hasBuffer buffer
    Moves (buffer :: rest) (if copied.2 then rest else buffer :: rest) fill copied.1 := by
  have inside := front.le_size
  have held := (remaining_cons inside : remaining (buffer :: rest) _ = _)
  intro copied
  by_cases more : buffer.getSize - fill.currentQueuedBufferOffset > fill.size
  · -- the request ends inside the buffer
    have within : fill.currentQueuedBufferOffset + fill.size < buffer.getSize := by omega
    have after := (remaining_cons (Nat.le_of_lt within) : remaining (buffer :: rest) _ = _)
    have split : (buffer.data.drop fill.currentQueuedBufferOffset).take fill.size ++
        buffer.data.drop (fill.currentQueuedBufferOffset + fill.size) =
          buffer.data.drop fill.currentQueuedBufferOffset := by
      rw [← List.drop_drop]
      exact List.take_append_drop _ _
    simp only [copied, copyBufferData, more, if_true]
    split
    · exact Moves.refl front
    split
    · exact Moves.refl front
    constructor
    · simp only [Bool.false_eq_true, if_false]
      rw [held, after, List.append_assoc, ← List.append_assoc (List.take _ _), split]
    · simp only [Bool.false_eq_true, if_false]
      rw [held, after]
      simp only [List.length_append, List.length_drop, AVBuffer.length_data]
      omega
    · exact Or.inr ⟨plain, within⟩
  · -- the buffer is read to its end
    have whole : (buffer.data.drop fill.currentQueuedBufferOffset).take
        (buffer.getSize - fill.currentQueuedBufferOffset) =
          buffer.data.drop fill.currentQueuedBufferOffset := by
      apply List.take_of_length_le
      simp
    simp only [copied, copyBufferData, more, if_false]
    split
    · exact Moves.refl front
    split
    · exact Moves.refl front
    constructor
    · simp only [if_true, remaining_zero]
      rw [held, whole, List.append_assoc]
    · simp only [if_true, remaining_zero]
      rw [held]
      simp only [List.length_append, List.length_drop, AVBuffer.length_data]
      omega
    · exact frontHolds_zero _

theorem moves_drain (hasBuffer : Bool) {buffer : AVBuffer} (rest : List AVBuffer)
    (plain : buffer.eos = false)
    (front : FrontHolds (buffer :: rest) fill.currentQueuedBufferOffset) :
    let drained := fill.drain hasBuffer buffer
    Moves (buffer :: rest) (if drained.2 then rest else buffer :: rest) fill drained.1 := by
  have inside := front.le_size
  intro drained
  simp only [drained, drain]
  split
  · exact moves_copyBufferData hasBuffer rest plain front
  -- a buffer without memory holds nothing
  rename_i unavailable
  have absent : buffer.memory = none := by
    simpa [isBufferAvailable, inside] using unavailable
  have empty : buffer.data = [] := by simp [AVBuffer.data, absent]
  have none : buffer.getSize = 0 := by simp [AVBuffer.getSize, empty]
  have zero : fill.currentQueuedBufferOffset = 0 := by omega
  constructor
  · simp [zero, empty]
  · simp [zero, empty]
  · rw [zero]
    exact frontHolds_zero _

theorem moves_takeFrom (hasBuffer : Bool) (queue : List AVBuffer) (fill : Fill)
    (front : FrontHolds queue fill.currentQueuedBufferOffset) :
    Moves queue (fill.takeFrom hasBuffer queue).1 fill (fill.takeFrom hasBuffer queue).2.1 := by
  induction queue generalizing fill with
  | nil => exact Moves.refl front
  | cons buffer rest ih =>
    rw [takeFrom]
    cases eos : buffer.eos with
    | true => simpa using Moves.refl front
    | false =>
      have moves := moves_drain hasBuffer rest eos front
      simp only [Bool.false_eq_true, if_false]
      cases drained : (fill.drain hasBuffer buffer).2 with
      | false => simpa [drained] using moves
      | true =>
        simp only [drained, if_true] at moves ⊢
        split
        · exact moves.trans (ih _ moves.front)
        · exact moves

theorem takeFrom_suffix (hasBuffer : Bool) (queue : List AVBuffer) (fill : Fill) :
    (fill.takeFrom hasBuffer queue).1 <:+ queue := by
  induction queue generalizing fill with
  | nil => exact List.suffix_refl _
  | cons buffer rest ih =>
    rw [takeFrom]
    split
    · exact List.suffix_refl _
    simp only
    split
    · split
      · exact (ih _).trans (List.suffix_cons buffer rest)
      · exact List.suffix_cons buffer rest
    · exact List.suffix_refl _

theorem takeFrom_empties {hasBuffer : Bool} {queue : List AVBuffer}
    (goesOn : (fill.takeFrom hasBuffer queue).2.2 = true) :
    (fill.takeFrom hasBuffer queue).1 = [] := by
  induction queue generalizing fill with
  | nil => rfl
  | cons buffer rest ih =>
    rw [takeFrom] at goesOn ⊢
    split at goesOn
    · cases goesOn
    rename_i plain
    simp only at goesOn
    split at goesOn
    · rename_i drained
      split at goesOn
      · rename_i more
        simp only [plain, drained, more, if_true]
        exact ih goesOn
      · cases goesOn
    · cases goesOn

theorem moves_queues (hasBuffer : Bool) (swap avail : List AVBuffer) (fill : Fill)
    (front : FrontHolds (swap ++ avail) fill.currentQueuedBufferOffset) :
    let first := fill.takeFrom hasBuffer swap
    let second :=
      if first.2.2 then first.2.1.takeFrom hasBuffer avail else (avail, first.2.1, false)
    Moves (swap ++ avail) (first.1 ++ second.1) fill second.2.1 ∧
      first.1 ++ second.1 <:+ swap ++ avail := by
  intro first second
  cases swap with
  | nil =>
    exact ⟨moves_takeFrom hasBuffer avail fill front, takeFrom_suffix hasBuffer avail fill⟩
  | cons buffer rest =>
    have swapFront : FrontHolds (buffer :: rest) fill.currentQueuedBufferOffset := front
    have swapped := moves_takeFrom hasBuffer (buffer :: rest) fill swapFront
    have early := swapped.append swapFront avail
    cases goesOn : first.2.2 with
    | false =>
      have kept : second = (avail, first.2.1, false) := by simp [second, goesOn]
      rcases takeFrom_suffix hasBuffer (buffer :: rest) fill with ⟨before, whole⟩
      rw [kept]
      exact ⟨early, before, by rw [← List.append_assoc, whole]⟩
    | true =>
      have emptied : first.1 = [] := takeFrom_empties goesOn
      have taken : second = first.2.1.takeFrom hasBuffer avail := by simp [second, goesOn]
      have zero : first.2.1.currentQueuedBufferOffset = 0 := by
        have holds : FrontHolds first.1 first.2.1.currentQueuedBufferOffset := swapped.front
        rw [emptied] at holds
        exact holds
      have availFront : FrontHolds avail first.2.1.currentQueuedBufferOffset := by
        rw [zero]
        exact frontHolds_zero avail
      rw [emptied] at early
      rw [emptied, taken]
      constructor
      · exact early.trans (moves_takeFrom hasBuffer avail first.2.1 availFront)
      · exact (takeFrom_suffix hasBuffer avail first.2.1).trans (List.suffix_append _ _)

end Fill

/-- The job was submitted for the EOS buffer at its place when all that precedes this buffer in
the stream was enqueued. -/
def Completes (stream : List AVBuffer) (job : CompletionJob) : Prop :=
  ∃ eosBuffer, stream[job.place]? = some eosBuffer ∧ eosBuffer.eos = true ∧
    job.enqueued = bytes (stream.take job.place)

/-- The renderer has a beginning of the stream, `availDataSize_` counts the rest, and each
completion job was submitted in time. -/
def RendersExactly (stream : List AVBuffer) (adapter : LppAudioRenderAdapter) : Prop :=
  adapter.enqueued <+: bytes stream ∧
    adapter.availDataSize = (bytes stream).length - adapter.enqueued.length ∧
      ∀ job ∈ adapter.completions, Completes stream job

theorem Completes.append {stream : List AVBuffer} {job : CompletionJob}
    (completes : Completes stream job) (later : List AVBuffer) :
    Completes (stream ++ later) job := by
  rcases completes with ⟨eosBuffer, found, eos, enqueued⟩
  have inside : job.place < stream.length := (List.getElem?_eq_some_iff.mp found).1
  refine ⟨eosBuffer, ?_, eos, ?_⟩
  · rw [List.getElem?_append_left inside]
    exact found
  · rw [List.take_append_of_le_length (Nat.le_of_lt inside)]
    exact enqueued

/-- The bytes of what was accepted are those enqueued and those still pending. -/
structure Accounts (accepted pending : List AVBuffer) (offset : Nat) (enqueued : List UInt8)
    (availDataSize : Int) : Prop where
  taken : pending <:+ accepted
  bytes : enqueued ++ remaining pending offset = bytes accepted
  size : availDataSize = (remaining pending offset).length
  front : FrontHolds pending offset

namespace Accounts

variable {accepted pending : List AVBuffer} {offset : Nat} {enqueued : List UInt8}
  {availDataSize : Int}

theorem push (accounts : Accounts accepted pending offset enqueued availDataSize)
    (buffer : AVBuffer) :
    Accounts (accepted ++ [buffer]) (pending ++ [buffer]) offset enqueued
      (availDataSize + buffer.getSize) := by
  have left : remaining (pending ++ [buffer]) offset = remaining pending offset ++ buffer.data := by
    rw [remaining_append accounts.front]
    simp
  have size := accounts.size
  rcases accounts.taken with ⟨before, whole⟩
  constructor
  · exact ⟨before, by rw [← List.append_assoc, whole]⟩
  · rw [left, ← List.append_assoc, accounts.bytes]
    simp
  · rw [left, List.length_append, AVBuffer.length_data]
    omega
  · exact accounts.front.append _

theorem move (accounts : Accounts accepted pending offset enqueued availDataSize)
    {size : Nat} {after : List AVBuffer} {filled : Fill}
    (moves : Fill.Moves pending after ⟨size, offset, availDataSize, []⟩ filled)
    (suffix : after <:+ pending) :
    Accounts accepted after filled.currentQueuedBufferOffset (enqueued ++ filled.data)
      filled.availDataSize := by
  have bytes := moves.bytes
  have sizes := moves.size
  have size := accounts.size
  constructor
  · exact suffix.trans accounts.taken
  · rw [List.append_assoc, bytes]
    exact accounts.bytes
  · simp only at sizes
    omega
  · exact moves.front

/-- An EOS buffer in front holds nothing, and all before it is enqueued. -/
theorem completes {eosBuffer : AVBuffer} {rest : List AVBuffer}
    (accounts : Accounts accepted (eosBuffer :: rest) offset enqueued availDataSize)
    (eos : eosBuffer.eos = true) :
    Completes accepted ⟨accepted.length - (eosBuffer :: rest).length, enqueued⟩ := by
  have zero : offset = 0 := accounts.front.eq_zero_of_eos eos
  have whole := accounts.bytes
  rcases accounts.taken with ⟨before, split⟩
  have place : accepted.length - (eosBuffer :: rest).length = before.length := by
    rw [← split, List.length_append]
    omega
  refine ⟨eosBuffer, ?_, eos, ?_⟩
  · rw [← split]
    simp
  · simp only [place]
    rw [← split, zero, bytes_append] at whole
    rw [← split, List.take_left]
    exact List.append_cancel_right whole

theorem drop_eos {eosBuffer : AVBuffer} {rest : List AVBuffer}
    (accounts : Accounts accepted (eosBuffer :: rest) offset enqueued availDataSize)
    (eos : eosBuffer.eos = true) : Accounts accepted rest offset enqueued availDataSize := by
  have zero : offset = 0 := accounts.front.eq_zero_of_eos eos
  have empty : eosBuffer.data = [] := AVBuffer.data_of_eos eos
  have whole := accounts.bytes
  have size := accounts.size
  subst zero
  constructor
  · exact (List.suffix_cons eosBuffer rest).trans accounts.taken
  · simpa [empty] using whole
  · simpa [empty] using size
  · exact frontHolds_zero rest

end Accounts

namespace LppAudioRenderAdapter

/-- The invariant. Behind a swapped buffer stands no EOS buffer, since a buffer is swapped only
out of a full queue and before an EOS buffer was seen. -/
structure Accounted (adapter : LppAudioRenderAdapter) : Prop where
  accounts : Accounts adapter.accepted adapter.pending adapter.currentQueuedBufferOffset
    adapter.enqueued adapter.availDataSize
  plain : adapter.isEos = false → ∀ buffer ∈ adapter.availOutputBuffers, buffer.eos = false
  behind : adapter.swapOutputBuffers ≠ [] →
    ∃ buffer rest, adapter.availOutputBuffers = buffer :: rest ∧ buffer.eos = false
  completed : ∀ job ∈ adapter.completions, Completes adapter.accepted job

variable {adapter : LppAudioRenderAdapter}

theorem Accounted.rendersExactly (accounted : Accounted adapter) :
    RendersExactly adapter.accepted adapter := by
  have length := congrArg List.length accounted.accounts.bytes
  have size := accounted.accounts.size
  rw [List.length_append] at length
  refine ⟨⟨_, accounted.accounts.bytes⟩, ?_, accounted.completed⟩
  omega

theorem accounted_empty (maxCbDataSize : Nat) : Accounted { maxCbDataSize := maxCbDataSize } := by
  constructor
  · exact ⟨List.suffix_refl _, rfl, rfl, rfl⟩
  · simp
  · simp
  · simp

theorem accounted_driveBufferCircle (created : Bool) (accounted : Accounted adapter) :
    Accounted (adapter.driveBufferCircle created) := by
  rw [driveBufferCircle]
  split
  · exact accounted
  rename_i oldestBuffer rest avail
  split
  · exact accounted
  rename_i running
  split
  · exact accounted
  rename_i full
  split
  · exact accounted
  split
  · exact accounted
  have noEos : adapter.isEos = false := by simpa using running
  have plain := accounted.plain noEos
  rw [avail] at plain
  have same : adapter.swapOutputBuffers ++ [oldestBuffer] ++ rest = adapter.pending := by
    simp [pending, avail]
  have accounts := accounted.accounts
  rw [← same] at accounts
  constructor
  · exact accounts
  · intro _ buffer member
    exact plain buffer (List.mem_cons_of_mem _ member)
  · intro _
    cases rest with
    | nil => simp [queueSize] at full
    | cons buffer others => exact ⟨buffer, others, rfl, plain buffer (by simp)⟩
  · exact accounted.completed

theorem accounted_noteLength (length : Nat) (created : Bool) (accounted : Accounted adapter) :
    Accounted (adapter.noteLength length created) := by
  apply accounted_driveBufferCircle
  exact ⟨accounted.accounts, accounted.plain, accounted.behind, accounted.completed⟩

theorem accounted_push {buffer : AVBuffer} (valid : buffer.valid = true)
    (accounted : Accounted adapter) :
    Accounted ({ adapter with received := adapter.received ++ [buffer] }.push buffer) := by
  have accepted : (adapter.received ++ [buffer]).filter AVBuffer.valid =
      adapter.accepted ++ [buffer] := by
    simp [LppAudioRenderAdapter.accepted, valid]
  have pending : adapter.swapOutputBuffers ++ (adapter.availOutputBuffers ++ [buffer]) =
      adapter.pending ++ [buffer] := by
    simp [LppAudioRenderAdapter.pending]
  have accounts := accounted.accounts.push buffer
  rw [← accepted, ← pending] at accounts
  constructor
  · exact accounts
  · intro noEos other member
    have both : adapter.isEos = false ∧ buffer.eos = false := by
      simpa [push] using noEos
    rcases List.mem_append.mp member with old | new
    · exact accounted.plain both.1 other old
    · rw [List.mem_singleton.mp new]
      exact both.2
  · intro some
    rcases accounted.behind some with ⟨head, rest, avail, eos⟩
    refine ⟨head, rest ++ [buffer], ?_, eos⟩
    simp [push, avail]
  · intro job member
    have completes := (accounted.completed job member).append [buffer]
    rw [← accepted] at completes
    exact completes

theorem accounted_handleBufferAvailable (filledInputBuffer : Option AVBuffer) (created : Bool)
    (accounted : Accounted adapter) :
    Accounted (adapter.handleBufferAvailable filledInputBuffer created) := by
  cases filledInputBuffer with
  | none => exact accounted
  | some buffer =>
    simp only [handleBufferAvailable]
    split
    · rename_i valid
      exact accounted_driveBufferCircle created (accounted_push valid accounted)
    rename_i invalid
    have accepted : (adapter.received ++ [buffer]).filter AVBuffer.valid = adapter.accepted := by
      simp [LppAudioRenderAdapter.accepted, invalid]
    have accounts := accounted.accounts
    have completed := accounted.completed
    rw [← accepted] at accounts completed
    exact ⟨accounts, accounted.plain, accounted.behind, completed⟩

theorem accounted_fillLoop (hasBuffer : Bool) (size : Nat) (accounted : Accounted adapter) :
    Accounted ((adapter.fillLoop hasBuffer size).1.enqueue
      (adapter.fillLoop hasBuffer size).2) := by
  have front := accounted.accounts.front
  have queues := Fill.moves_queues hasBuffer adapter.swapOutputBuffers adapter.availOutputBuffers
    ⟨size, adapter.currentQueuedBufferOffset, adapter.availDataSize, []⟩ front
  constructor
  · exact accounted.accounts.move queues.1 queues.2
  · intro noEos buffer member
    apply accounted.plain noEos buffer
    simp only [fillLoop, enqueue] at member
    split at member
    · exact (Fill.takeFrom_suffix hasBuffer _ _).mem member
    · exact member
  · intro some
    simp only [fillLoop, enqueue] at some ⊢
    have before : adapter.swapOutputBuffers ≠ [] := by
      intro none
      simp [none, Fill.takeFrom] at some
    have stays : ((⟨size, adapter.currentQueuedBufferOffset, adapter.availDataSize, []⟩ :
        Fill).takeFrom hasBuffer adapter.swapOutputBuffers).2.2 = false := by
      rw [Bool.eq_false_iff]
      intro goesOn
      exact some (Fill.takeFrom_empties goesOn)
    simpa [stays] using accounted.behind before
  · exact accounted.completed

theorem accounted_fillAudioBuffer (request : WriteRequest) (accounted : Accounted adapter) :
    Accounted ((adapter.fillAudioBuffer request.length request.bufferDesc).1.enqueue
      (adapter.fillAudioBuffer request.length request.bufferDesc).2) := by
  rw [fillAudioBuffer]
  split
  · have nothing : request.bufferDesc.data = [] := by
      rcases request.offered with empty | ⟨long, within⟩
      · exact empty
      · apply List.eq_nil_of_length_eq_zero
        omega
    simpa [nothing, enqueue] using accounted
  · exact accounted_fillLoop _ _ accounted

theorem accounted_dropEosBuffer (accounted : Accounted adapter) :
    Accounted adapter.dropEosBuffer := by
  rw [dropEosBuffer]
  split
  · exact accounted
  rename_i cacheBuffer rest avail
  split
  · rename_i eos
    have noSwap : adapter.swapOutputBuffers = [] := by
      by_contra some
      rcases accounted.behind some with ⟨head, others, front, plain⟩
      rw [avail] at front
      rw [List.cons.injEq] at front
      rw [← front.1, eos.2] at plain
      cases plain
    have accounts := accounted.accounts
    have pending : adapter.pending = cacheBuffer :: rest := by
      simp [LppAudioRenderAdapter.pending, noSwap, avail]
    rw [pending] at accounts
    have after : adapter.swapOutputBuffers ++ rest = rest := by simp [noSwap]
    have dropped := accounts.drop_eos eos.2
    rw [← after] at dropped
    constructor
    · exact dropped
    · intro noEos
      rw [eos.1] at noEos
      cases noEos
    · exact fun some => absurd noSwap some
    · intro job member
      rcases List.mem_append.mp member with old | new
      · exact accounted.completed job old
      · rw [List.mem_singleton.mp new, avail]
        exact accounts.completes eos.2
  · exact accounted

theorem accounted_onWriteData (request : WriteRequest) (created : Bool)
    (accounted : Accounted adapter) :
    Accounted (adapter.onWriteData request created) := by
  have noted := accounted_noteLength request.length created accounted
  rw [onWriteData]
  split
  · exact accounted_dropEosBuffer (accounted_fillAudioBuffer request noted)
  · exact noted

theorem accounted_next (event : AdapterEvent) (accounted : Accounted adapter) :
    Accounted (adapter.next event) := by
  cases event with
  | bufferAvailable filledInputBuffer created =>
    exact accounted_handleBufferAvailable filledInputBuffer created accounted
  | writeData request created => exact accounted_onWriteData request created accounted
  | flush flushed =>
    cases flushed with
    | false => exact accounted
    | true => exact accounted_empty adapter.maxCbDataSize

theorem after_accounted (events : List AdapterEvent) : Accounted (after events) :=
  invariant_of_run Accounted (fun _ event accounted => accounted_next event accounted) events
    (accounted_empty 0)

/-- In every run the renderer gets the valid buffers exactly. -/
theorem valid_rendered (events : List AdapterEvent) :
    RendersExactly (after events).accepted (after events) :=
  (after_accounted events).rendersExactly

/-- A decoded buffer before time zero is released unheard. -/
def earlyBuffer : AVBuffer where
  pts := -1
  memory := some [1]
  eosEmpty := by simp

def nextBuffer : AVBuffer where
  pts := 0
  memory := some [2]
  eosEmpty := by simp

def oneByte : WriteRequest where
  length := 1
  bufferDesc := ⟨true, 1, []⟩
  offered := Or.inl rfl

theorem early_buffer_skipped :
    ¬ ∀ events, RendersExactly (after events).received (after events) := by
  intro all
  have exact := (all [.bufferAvailable (some earlyBuffer) true,
    .bufferAvailable (some nextBuffer) true, .writeData oneByte true]).1
  revert exact
  decide

end LppAudioRenderAdapter

end PlayerFramework.LowPower
