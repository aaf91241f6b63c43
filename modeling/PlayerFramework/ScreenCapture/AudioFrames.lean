import PlayerFramework.ScreenCapture.AudioDataSource

/-!
What becomes of the frames of one source: the queue of its capturer, and the line of frames
from the queue to the recorder.
-/

namespace PlayerFramework.ScreenCapture

open Transition

namespace AudioCapturerQueue

variable {before after : AudioCapturerQueue} {gone recorded : List CacheBuffer}

def Settled (queue : AudioCapturerQueue) : Prop :=
  queue.isRecording = false → queue.availBuffers = []

/-- The queue loses frames from its front; the recorded ones are discarded by a rule. -/
structure Loses (before after : AudioCapturerQueue) (gone recorded : List CacheBuffer) : Prop where
  front : before.availBuffers = gone ++ after.availBuffers
  captured : after.captured = before.captured
  discarded : after.discarded.map (·.1) = before.discarded.map (·.1) ++ recorded.map (·.seq)
  subset : recorded ⊆ gone
  settled : before.Settled → after.Settled

variable (queue : AudioCapturerQueue)

theorem Loses.refl : queue.Loses queue [] [] := by
  constructor <;> simp

theorem settled_of_recording (recording : after.isRecording = true) : after.Settled := by
  intro stopped
  rw [recording] at stopped
  cases stopped

theorem head_append_tail (buffers : List CacheBuffer) :
    buffers = buffers.head?.toList ++ buffers.tail := by
  cases buffers <;> rfl

theorem loses_stop : queue.Loses queue.stop queue.availBuffers queue.availBuffers where
  front := by simp [stop]
  captured := rfl
  discarded := by simp [stop]
  subset := List.Subset.refl _
  settled _ _ := rfl

theorem loses_dropBufferUntil (audioTime : Int) (queue : AudioCapturerQueue) :
    ∃ gone, queue.Loses (queue.dropBufferUntil audioTime) gone gone := by
  unfold dropBufferUntil
  split
  · exact ⟨[], Loses.refl queue⟩
  rename_i recording
  refine ⟨queue.availBuffers.takeWhile (isBefore audioTime), ?_⟩
  constructor
  · exact List.takeWhile_append_dropWhile.symm
  · rfl
  · simp
  · exact List.Subset.refl _
  · intro _
    apply settled_of_recording
    simpa using recording

theorem loses_dropOldest : ∃ gone, queue.Loses queue.dropOldest gone gone := by
  unfold dropOldest
  split
  · refine ⟨queue.availBuffers.head?.toList, ?_⟩
    constructor
    · exact head_append_tail queue.availBuffers
    · rfl
    · simp
    · exact List.Subset.refl _
    · intro settled stopped
      simp [settled stopped]
  · exact ⟨[], Loses.refl queue⟩

theorem loses_releaseAudioBuffer :
    queue.Loses queue.releaseAudioBuffer queue.released.toList [] := by
  unfold releaseAudioBuffer released
  split
  · rename_i recording
    constructor
    · exact head_append_tail queue.availBuffers
    · rfl
    · simp
    · exact List.nil_subset _
    · intro _
      exact settled_of_recording recording
  · exact Loses.refl queue

theorem loses_giveUp (own : Option CacheBuffer) : queue.Loses (queue.giveUp own)
    queue.released.toList
    (queue.released.toList.filter fun front => own.map (·.seq) = some front.seq) := by
  have popped := loses_releaseAudioBuffer queue
  constructor
  · exact popped.front
  · exact popped.captured
  · simp [giveUp]
  · exact List.filter_sublist.subset
  · exact popped.settled

end AudioCapturerQueue

/-- The frames of one source: its queue, the numbers of those that went into frames for the
recorder, and the frame that its slot holds before `Combine` uses it, or after that until it
is released. -/
structure FrameLine where
  queue : AudioCapturerQueue
  connected : Bool
  taken : List Nat
  held : Option CacheBuffer
  releasing : Option CacheBuffer

namespace FrameLine

variable {line after : FrameLine} {gone recorded : List CacheBuffer}

/-- A captured frame has been taken, waits in the queue, or was discarded by a rule. -/
def Accounted (line : FrameLine) : Prop :=
  ∀ seq < line.queue.captured, seq ∈ line.taken ∨
    seq ∈ line.queue.availBuffers.map (·.seq) ∨ seq ∈ line.queue.discarded.map (·.1)

/-- Frames are numbered as they are captured, and what was taken or discarded comes before
what is queued; only a frame that is still to be released is both. -/
structure Ordered (line : FrameLine) : Prop where
  connected : line.connected = false → line.held = none ∧ line.releasing = none
  settled : line.queue.Settled
  queued : (line.queue.availBuffers.map (·.seq)).Pairwise (· < ·)
  fresh : ∀ seq ∈ line.queue.availBuffers.map (·.seq), seq < line.queue.captured
  discarded : ∀ seq ∈ line.queue.discarded.map (·.1), seq < line.queue.captured ∧
    ∀ later ∈ line.queue.availBuffers.map (·.seq), seq < later
  taken : line.taken.Pairwise (· < ·)
  old : ∀ seq ∈ line.taken, seq < line.queue.captured
  behind : ∀ seq ∈ line.taken, ∀ later ∈ line.queue.availBuffers.map (·.seq),
    seq < later ∨ line.releasing.map (·.seq) = some seq ∧ seq = later
  held : ∀ buffer, line.held = some buffer → buffer.seq < line.queue.captured ∧
    (∀ seq ∈ line.taken, seq < buffer.seq) ∧
    ∀ later ∈ line.queue.availBuffers.map (·.seq), buffer.seq ≤ later
  releasing : ∀ buffer, line.releasing = some buffer → buffer.seq ∈ line.taken

variable {queue : AudioCapturerQueue}

theorem ordered_loses (ordered : line.Ordered) (loses : line.queue.Loses queue gone recorded) :
    { line with queue }.Ordered := by
  have front : line.queue.availBuffers.map (·.seq) =
      gone.map (·.seq) ++ queue.availBuffers.map (·.seq) := by
    rw [loses.front, List.map_append]
  have kept : ∀ seq ∈ queue.availBuffers.map (·.seq),
      seq ∈ line.queue.availBuffers.map (·.seq) := by
    intro seq member
    rw [front]
    exact List.mem_append_right _ member
  have sorted := ordered.queued
  rw [front, List.pairwise_append] at sorted
  constructor
  · exact ordered.connected
  · exact loses.settled ordered.settled
  · exact sorted.2.1
  · intro seq member
    rw [loses.captured]
    exact ordered.fresh seq (kept seq member)
  · intro seq member
    rw [loses.discarded, List.mem_append] at member
    rw [loses.captured]
    rcases member with earlier | now
    · obtain ⟨old, before⟩ := ordered.discarded seq earlier
      exact ⟨old, fun later waiting => before later (kept later waiting)⟩
    have lost : seq ∈ gone.map (·.seq) := by
      obtain ⟨buffer, member, rfl⟩ := List.mem_map.mp now
      exact List.mem_map_of_mem (loses.subset member)
    constructor
    · apply ordered.fresh
      rw [front]
      exact List.mem_append_left _ lost
    · intro later waiting
      exact sorted.2.2 seq lost later waiting
  · exact ordered.taken
  · intro seq member
    rw [loses.captured]
    exact ordered.old seq member
  · intro seq member later waiting
    exact ordered.behind seq member later (kept later waiting)
  · intro buffer holds
    obtain ⟨old, above, below⟩ := ordered.held buffer holds
    rw [loses.captured]
    exact ⟨old, above, fun later waiting => below later (kept later waiting)⟩
  · exact ordered.releasing

theorem accounted_loses (accounted : line.Accounted) (loses : line.queue.Loses queue gone gone) :
    { line with queue }.Accounted := by
  intro seq old
  rw [loses.captured] at old
  rw [loses.discarded]
  rcases accounted seq old with taken | queued | discarded
  · exact .inl taken
  · rw [loses.front, List.map_append, List.mem_append] at queued
    rcases queued with lost | waiting
    · exact .inr (.inr (List.mem_append_right _ lost))
    · exact .inr (.inl waiting)
  · exact .inr (.inr (List.mem_append_left _ discarded))

theorem ordered_push (ordered : line.Ordered) (buffer : CacheBuffer)
    (number : buffer.seq = line.queue.captured) (recording : line.queue.isRecording = true) :
    { line with
      queue :=
        { line.queue with
          captured := line.queue.captured + 1
          availBuffers := line.queue.availBuffers ++ [buffer] } }.Ordered := by
  constructor
  · exact ordered.connected
  · intro stopped
    simp [recording] at stopped
  · simp only [List.map_append, List.map_cons, List.map_nil, List.pairwise_append,
      List.pairwise_singleton, List.mem_singleton, forall_eq, true_and, number]
    exact ⟨ordered.queued, fun seq member => ordered.fresh seq member⟩
  · intro seq member
    simp only [List.map_append, List.map_cons, List.map_nil, List.mem_append,
      List.mem_singleton] at member ⊢
    rcases member with waiting | rfl
    · have old := ordered.fresh seq waiting
      omega
    · omega
  · intro seq member
    obtain ⟨old, before⟩ := ordered.discarded seq member
    simp only [List.map_append, List.map_cons, List.map_nil, List.mem_append, List.mem_singleton]
    constructor
    · omega
    · intro later waiting
      rcases waiting with waiting | rfl
      · exact before later waiting
      · omega
  · exact ordered.taken
  · intro seq member
    have old := ordered.old seq member
    dsimp only
    omega
  · intro seq member later waiting
    simp only [List.map_append, List.map_cons, List.map_nil, List.mem_append,
      List.mem_singleton] at waiting
    rcases waiting with waiting | rfl
    · exact ordered.behind seq member later waiting
    · left
      have old := ordered.old seq member
      omega
  · intro holding holds
    obtain ⟨old, above, below⟩ := ordered.held holding holds
    simp only [List.map_append, List.map_cons, List.map_nil, List.mem_append, List.mem_singleton]
    refine ⟨by omega, above, ?_⟩
    intro later waiting
    rcases waiting with waiting | rfl
    · exact below later waiting
    · omega
  · exact ordered.releasing

theorem accounted_push (accounted : line.Accounted) (buffer : CacheBuffer)
    (number : buffer.seq = line.queue.captured) :
    { line with
      queue :=
        { line.queue with
          captured := line.queue.captured + 1
          availBuffers := line.queue.availBuffers ++ [buffer] } }.Accounted := by
  intro seq old
  simp only [List.map_append, List.mem_append, List.map_cons, List.map_nil, List.mem_singleton]
  by_cases earlier : seq < line.queue.captured
  · rcases accounted seq earlier with taken | queued | discarded
    · exact .inl taken
    · exact .inr (.inl (.inl queued))
    · exact .inr (.inr discarded)
  · right
    left
    right
    dsimp only at old
    omega

/-- The step from one line to the other keeps the order, and loses track of no frame. -/
def Keeps (line after : FrameLine) : Prop :=
  line.Ordered → after.Ordered ∧ (line.Accounted → after.Accounted)

theorem Keeps.refl (line : FrameLine) : line.Keeps line := by
  intro ordered
  exact ⟨ordered, id⟩

theorem Keeps.trans {middle : FrameLine} (first : line.Keeps middle)
    (second : middle.Keeps after) : line.Keeps after := by
  intro ordered
  obtain ⟨between, kept⟩ := first ordered
  obtain ⟨last, keptToo⟩ := second between
  exact ⟨last, fun accounted => keptToo (kept accounted)⟩

theorem keeps_loses (loses : line.queue.Loses queue gone gone) :
    line.Keeps { line with queue } := by
  intro ordered
  exact ⟨ordered_loses ordered loses, fun accounted => accounted_loses accounted loses⟩

theorem keeps_start : line.Keeps { line with queue := line.queue.start } := by
  intro ordered
  refine ⟨?_, id⟩
  exact { ordered with settled := AudioCapturerQueue.settled_of_recording rfl }

theorem keeps_refuse (stopped : line.queue.isRecording = false) :
    line.Keeps { line with
      queue :=
        { line.queue with
          captured := line.queue.captured + 1
          discarded := line.queue.discarded ++ [(line.queue.captured, .stop)] } } := by
  intro ordered
  have empty : line.queue.availBuffers = [] := ordered.settled stopped
  refine ⟨?_, ?_⟩
  · constructor
    · exact ordered.connected
    · exact ordered.settled
    · exact ordered.queued
    · intro seq member
      simp [empty] at member
    · intro seq member
      simp only [List.map_append, List.map_cons, List.map_nil, List.mem_append,
        List.mem_singleton] at member
      simp only [empty, List.map_nil, List.not_mem_nil, false_implies, implies_true, and_true]
      rcases member with earlier | rfl
      · have old := (ordered.discarded seq earlier).1
        omega
      · omega
    · exact ordered.taken
    · intro seq member
      have old := ordered.old seq member
      dsimp only
      omega
    · intro seq member later waiting
      simp [empty] at waiting
    · intro buffer holds
      obtain ⟨old, above, below⟩ := ordered.held buffer holds
      refine ⟨?_, above, below⟩
      dsimp only
      omega
    · exact ordered.releasing
  · intro accounted seq old
    dsimp only at old ⊢
    by_cases earlier : seq < line.queue.captured
    · rcases accounted seq earlier with taken | queued | discarded
      · exact .inl taken
      · exact .inr (.inl queued)
      · right
        right
        rw [List.map_append, List.mem_append]
        exact .inl discarded
    · right
      right
      simp only [List.map_append, List.map_cons, List.map_nil, List.mem_append, List.mem_singleton]
      omega

theorem ordered_miss (ordered : line.Ordered) :
    { line with queue := { line.queue with captured := line.queue.captured + 1 } }.Ordered where
  connected := ordered.connected
  settled := ordered.settled
  queued := ordered.queued
  fresh seq member := Nat.lt_succ_of_lt (ordered.fresh seq member)
  discarded seq member :=
    ⟨Nat.lt_succ_of_lt (ordered.discarded seq member).1, (ordered.discarded seq member).2⟩
  taken := ordered.taken
  old seq member := Nat.lt_succ_of_lt (ordered.old seq member)
  behind := ordered.behind
  held buffer holds :=
    ⟨Nat.lt_succ_of_lt (ordered.held buffer holds).1, (ordered.held buffer holds).2⟩
  releasing := ordered.releasing

theorem not_accounted_miss (ordered : line.Ordered) :
    ¬ { line with queue := { line.queue with captured := line.queue.captured + 1 } }.Accounted := by
  intro accounted
  rcases accounted line.queue.captured (Nat.lt_succ_self _) with taken | queued | discarded
  · exact Nat.lt_irrefl _ (ordered.old _ taken)
  · exact Nat.lt_irrefl _ (ordered.fresh _ queued)
  · exact Nat.lt_irrefl _ (ordered.discarded _ discarded).1

theorem keeps_readData (source : AudioCaptureSourceType) (desc : BufferDesc)
    (usable : line.queue.isRecording = true → desc.bufLength ≠ 0 → desc.usable = true) :
    line.Keeps { line with queue := line.queue.onReadData source desc } := by
  unfold AudioCapturerQueue.onReadData
  split
  · exact Keeps.refl line
  rename_i filled
  split
  · rename_i stopped
    apply keeps_refuse
    simpa using stopped
  · rename_i recording
    rw [if_neg (by simp [usable (by simpa using recording) filled])]
    obtain ⟨gone, loses⟩ := line.queue.loses_dropOldest
    have stillRecording : line.queue.dropOldest.isRecording = true := by
      unfold AudioCapturerQueue.dropOldest
      split <;> simpa using recording
    have number : (AudioCapturerQueue.createCacheBuffer source line.queue.captured desc).seq =
        line.queue.dropOldest.captured := loses.captured.symm
    rw [← loses.captured] at number ⊢
    refine (keeps_loses loses).trans ?_
    intro ordered
    exact ⟨ordered_push ordered _ rfl stillRecording,
      fun accounted => accounted_push accounted _ rfl⟩

/-- `OnReadData` gets a frame that it does not queue. -/
def Misses (desc : BufferDesc) (queue : AudioCapturerQueue) : Prop :=
  queue.isRecording = true ∧ desc.bufLength ≠ 0 ∧ desc.usable = false

theorem onReadData_misses (source : AudioCaptureSourceType) (desc : BufferDesc)
    (misses : Misses desc line.queue) : line.queue.onReadData source desc =
      { line.queue with captured := line.queue.captured + 1 } := by
  obtain ⟨recording, filled, unusable⟩ := misses
  simp [AudioCapturerQueue.onReadData, recording, filled, unusable]

theorem ordered_readData (ordered : line.Ordered) (source : AudioCaptureSourceType)
    (desc : BufferDesc) : { line with queue := line.queue.onReadData source desc }.Ordered := by
  by_cases misses : Misses desc line.queue
  · rw [onReadData_misses source desc misses]
    exact ordered_miss ordered
  · refine (keeps_readData source desc ?_ ordered).1
    intro recording filled
    by_contra unusable
    exact misses ⟨recording, filled, by simpa using unusable⟩

theorem accounted_readData (ordered : line.Ordered) (accounted : line.Accounted)
    (source : AudioCaptureSourceType) (desc : BufferDesc) :
    { line with queue := line.queue.onReadData source desc }.Accounted ↔
      ¬ Misses desc line.queue := by
  constructor
  · intro after misses
    rw [onReadData_misses source desc misses] at after
    exact not_accounted_miss ordered after
  · intro kept
    refine (keeps_readData source desc ?_ ordered).2 accounted
    intro recording filled
    by_contra unusable
    exact kept ⟨recording, filled, by simpa using unusable⟩

theorem keeps_connect (connected : Bool) (held : line.held = none)
    (released : line.releasing = none) : line.Keeps { line with connected } := by
  intro ordered
  refine ⟨?_, id⟩
  exact { ordered with connected := fun _ => ⟨held, released⟩ }

theorem keeps_forget : line.Keeps { line with held := none } := by
  intro ordered
  refine ⟨?_, id⟩
  exact
    { ordered with
      connected := fun off => ⟨rfl, (ordered.connected off).2⟩
      held := by
        intro buffer holds
        cases holds }

theorem keeps_hold (connected : line.connected = true) (released : line.releasing = none) :
    line.Keeps { line with held := line.queue.acquireAudioBuffer } := by
  intro ordered
  refine ⟨?_, id⟩
  refine
    { ordered with
      connected := ?_
      held := ?_ }
  · intro off
    rw [connected] at off
    cases off
  · intro buffer holds
    have front : ∃ rest, line.queue.availBuffers = buffer :: rest := by
      unfold AudioCapturerQueue.acquireAudioBuffer at holds
      split at holds
      · cases queue : line.queue.availBuffers with
        | nil => simp [queue] at holds
        | cons first rest =>
          simp only [queue, List.head?_cons, Option.some.injEq] at holds
          exact ⟨rest, by rw [holds]⟩
      · cases holds
    obtain ⟨rest, queue⟩ := front
    have queued := ordered.queued
    rw [queue, List.map_cons, List.pairwise_cons] at queued
    refine ⟨?_, ?_, ?_⟩
    · apply ordered.fresh
      simp [queue]
    · intro seq member
      rcases ordered.behind seq member buffer.seq (by simp [queue]) with less | ⟨pending, -⟩
      · exact less
      · simp [released] at pending
    · intro later waiting
      rw [queue, List.map_cons, List.mem_cons] at waiting
      rcases waiting with rfl | waiting
      · exact Nat.le_refl _
      · exact Nat.le_of_lt (queued.1 later waiting)

theorem keeps_take {buffer : CacheBuffer} (held : line.held = some buffer) :
    line.Keeps { line with
      taken := line.taken ++ [buffer.seq], held := none, releasing := some buffer } := by
  intro ordered
  obtain ⟨old, above, below⟩ := ordered.held buffer held
  refine ⟨?_, ?_⟩
  · refine
      { ordered with
        connected := ?_, taken := ?_, old := ?_, behind := ?_, held := ?_, releasing := ?_ }
    · intro off
      have empty := (ordered.connected off).1
      rw [held] at empty
      cases empty
    · simp only [List.pairwise_append, List.pairwise_singleton, List.mem_singleton, forall_eq,
        true_and]
      exact ⟨ordered.taken, above⟩
    · intro seq member
      simp only [List.mem_append, List.mem_singleton] at member
      rcases member with earlier | rfl
      · exact ordered.old seq earlier
      · exact old
    · intro seq member later waiting
      simp only [List.mem_append, List.mem_singleton] at member
      rcases member with earlier | rfl
      · left
        have less := above seq earlier
        have atMost := below later waiting
        omega
      · rcases Nat.lt_or_eq_of_le (below later waiting) with less | equal
        · exact .inl less
        · exact .inr ⟨rfl, equal⟩
    · intro other holds
      cases holds
    · intro other pending
      simp only [Option.some.injEq] at pending
      simp [pending]
  · intro accounted seq earlier
    rcases accounted seq earlier with taken | queued | discarded
    · exact .inl (List.mem_append_left _ taken)
    · exact .inr (.inl queued)
    · exact .inr (.inr discarded)

/-- What `ReleaseAudioBuffer` pops is the frame that was taken. -/
def ReleasesOwn (line : FrameLine) : Prop :=
  ∀ front, line.queue.released = some front → line.releasing.map (·.seq) = some front.seq

def release (line : FrameLine) : FrameLine :=
  { line with
    queue := if line.connected then line.queue.releaseAudioBuffer else line.queue
    releasing := none }

theorem released_eq (queue : AudioCapturerQueue) (settled : queue.Settled) :
    queue.availBuffers = queue.released.toList ++ queue.releaseAudioBuffer.availBuffers ∧
      (queue.released = none → queue.releaseAudioBuffer.availBuffers = []) := by
  refine ⟨(queue.loses_releaseAudioBuffer).front, ?_⟩
  intro empty
  cases recording : queue.isRecording with
  | true =>
    simp only [AudioCapturerQueue.released, recording, if_true, List.head?_eq_none_iff] at empty
    simp [AudioCapturerQueue.releaseAudioBuffer, recording, empty]
  | false =>
    simp [AudioCapturerQueue.releaseAudioBuffer, recording, settled recording]

theorem release_of_disconnected (ordered : line.Ordered) (connected : line.connected = false) :
    line.release = line := by
  have empty := (ordered.connected connected).2
  obtain ⟨queue, isConnected, taken, held, releasing⟩ := line
  subst connected empty
  rfl

theorem ordered_release (ordered : line.Ordered) : line.release.Ordered := by
  cases connected : line.connected with
  | false =>
    rw [release_of_disconnected ordered connected]
    exact ordered
  | true =>
    have popped := ordered_loses ordered (line.queue.loses_releaseAudioBuffer)
    have shape : line.release =
        { line with queue := line.queue.releaseAudioBuffer, releasing := none } := by
      simp [release, connected]
    rw [shape]
    refine
      { popped with
        connected := ?_, behind := ?_, releasing := ?_ }
    · intro off
      exact ⟨(popped.connected off).1, rfl⟩
    · intro seq member later waiting
      rcases popped.behind seq member later waiting with less | ⟨pending, rfl⟩
      · exact .inl less
      left
      obtain ⟨front, ended⟩ := released_eq line.queue ordered.settled
      cases first : line.queue.released with
      | none => simp [ended first] at waiting
      | some head =>
        rw [first, Option.toList_some, List.singleton_append] at front
        have queued := ordered.queued
        rw [front, List.map_cons, List.pairwise_cons] at queued
        have above := queued.1 seq waiting
        rcases ordered.behind seq member head.seq (by simp [front]) with less | ⟨-, same⟩
        · omega
        · omega
    · intro buffer pending
      cases pending

/-- The front of the queue is only known elsewhere when it is still to be released. -/
theorem releasing_of_popped (ordered : line.Ordered) {front : CacheBuffer}
    {rest : List CacheBuffer} (queue : line.queue.availBuffers = front :: rest)
    (known : front.seq ∈ line.taken ∨ front.seq ∈ rest.map (·.seq) ∨
      front.seq ∈ line.queue.discarded.map (·.1)) :
    line.releasing.map (·.seq) = some front.seq := by
  have waiting : front.seq ∈ line.queue.availBuffers.map (·.seq) := by simp [queue]
  have sorted := ordered.queued
  rw [queue, List.map_cons, List.pairwise_cons] at sorted
  rcases known with taken | queued | discarded
  · rcases ordered.behind front.seq taken front.seq waiting with less | ⟨pending, -⟩
    · omega
    · exact pending
  · have above := sorted.1 front.seq queued
    omega
  · have less := (ordered.discarded front.seq discarded).2 front.seq waiting
    omega

theorem accounted_release (ordered : line.Ordered) (accounted : line.Accounted)
    (connected : line.connected = true) : line.release.Accounted ↔ line.ReleasesOwn := by
  obtain ⟨queue, ended⟩ := released_eq line.queue ordered.settled
  have loses := line.queue.loses_releaseAudioBuffer
  have history : line.queue.releaseAudioBuffer.discarded.map (·.1) =
      line.queue.discarded.map (·.1) := by
    simpa using loses.discarded
  unfold Accounted release
  simp only [connected, if_true, loses.captured, history]
  constructor
  · intro after front first
    rw [first, Option.toList_some, List.singleton_append] at queue
    exact releasing_of_popped ordered queue
      (after front.seq (ordered.fresh front.seq (by simp [queue])))
  · intro own seq old
    rcases accounted seq old with taken | queued | discarded
    · exact .inl taken
    · cases first : line.queue.released with
      | none =>
        rw [first] at queue
        rw [queue] at queued
        exact .inr (.inl queued)
      | some front =>
        rw [queue, first, Option.toList_some, List.singleton_append, List.map_cons,
          List.mem_cons] at queued
        rcases queued with rfl | queued
        · left
          obtain ⟨buffer, pending, same⟩ := Option.map_eq_some_iff.mp (own front first)
          rw [← same]
          exact ordered.releasing buffer pending
        · exact .inr (.inl queued)
    · exact .inr (.inr discarded)

def giveUp (own : Option CacheBuffer) (line : FrameLine) : FrameLine :=
  { line with queue := if line.connected then line.queue.giveUp own else line.queue }

theorem giveUp_eq (own : Option CacheBuffer) : line.giveUp own =
    if line.connected then { line with queue := line.queue.giveUp own } else line := by
  unfold giveUp
  split <;> rfl

theorem ordered_giveUp (ordered : line.Ordered) (own : Option CacheBuffer) :
    (line.giveUp own).Ordered := by
  rw [giveUp_eq]
  split
  · exact ordered_loses ordered (line.queue.loses_giveUp own)
  · exact ordered

theorem accounted_giveUp (ordered : line.Ordered) (accounted : line.Accounted)
    (released : line.releasing = none) (own : Option CacheBuffer) :
    (line.giveUp own).Accounted ↔ (line.connected = true →
      ∀ front, line.queue.released = some front → own.map (·.seq) = some front.seq) := by
  rw [giveUp_eq]
  split
  case isFalse off => exact iff_of_true accounted fun connected => absurd connected off
  rename_i connected
  rw [connected]
  simp only [true_implies]
  have loses := line.queue.loses_giveUp own
  cases first : line.queue.released with
  | none =>
    rw [first] at loses
    exact iff_of_true (accounted_loses accounted loses) (by simp)
  | some front =>
    rw [first, Option.toList_some] at loses
    simp only [Option.some.injEq, forall_eq']
    constructor
    · intro after
      by_contra other
      have nothing : [front].filter (fun front => own.map (·.seq) = some front.seq) = [] :=
        List.filter_cons_of_neg (by rw [decide_eq_true_eq]; exact other)
      rw [nothing] at loses
      have known := after front.seq
      rw [loses.captured, loses.discarded, List.map_nil, List.append_nil] at known
      have pending := releasing_of_popped ordered loses.front
        (known (ordered.fresh front.seq (by simp [loses.front])))
      simp [released] at pending
    · intro same
      have all : [front].filter (fun front => own.map (·.seq) = some front.seq) = [front] :=
        List.filter_cons_of_pos (by rw [decide_eq_true_eq]; exact same)
      rw [all] at loses
      exact accounted_loses accounted loses

end FrameLine

end PlayerFramework.ScreenCapture
