import Mathlib.Data.List.Perm.Subperm
import PlayerFramework.SoundPool.ParallelStreamManager

/-!
The two queues of the parallel stream manager: how long the playing queue is, in which order
both are, and which streams they hold.
-/

namespace PlayerFramework.SoundPool

open Transition BubbleSort

namespace ParallelStreamManager

def priorityOf (m : ParallelStreamManager) (entry : Int × Nat) : Int := m.getPriority entry.2

def idOf (m : ParallelStreamManager) (stream : Nat) : Option Int :=
  m.streams[stream]?.map Stream.streamID

def queued (m : ParallelStreamManager) : List (Int × Nat) := m.playingStream ++ m.waitingStream

def queuedIDs (m : ParallelStreamManager) : List Int := m.queued.map Prod.fst

/-- Both queues are sorted by descending priority. -/
structure Sorted (m : ParallelStreamManager) : Prop where
  playing : Descending m.priorityOf m.playingStream
  waiting : Descending m.priorityOf m.waitingStream

/-- What the queues keep even while a priority is being set. -/
structure Tidy (limit : Nat) (m : ParallelStreamManager) : Prop where
  capacity : m.playingStream.length ≤ limit
  known : ∀ entry ∈ m.queued, m.idOf entry.2 = some entry.1
  distinct : m.queuedIDs.Nodup
  counter : 0 ≤ m.nextStreamId

/-- No stream changes its ID, and none comes into the queues. -/
structure Settles (m after : ParallelStreamManager) : Prop where
  ids : ∀ stream id, m.idOf stream = some id → after.idOf stream = some id
  queued : after.queuedIDs ⊆ m.queuedIDs

theorem addToDeque_eq (m : ParallelStreamManager) (streamID : Int) (stream : Nat)
    (queue : List (Int × Nat)) :
    m.addToDeque streamID stream queue =
      queue.orderedInsert (fun before after => m.priorityOf after ≤ m.priorityOf before)
        (streamID, stream) := by
  induction queue with
  | nil => rfl
  | cons entry rest ih =>
    rw [addToDeque, List.orderedInsert_cons]
    by_cases before : m.getPriority stream ≥ m.getPriority entry.2
    · rw [if_pos before, if_pos (by exact before)]
    have behind : ¬ m.priorityOf entry ≤ m.priorityOf (streamID, stream) := before
    rw [if_neg before, if_neg behind, ih]
    by_cases last : rest = []
    · rw [last]
      rfl
    · rw [if_neg last]

theorem addToDeque_perm (m : ParallelStreamManager) (streamID : Int) (stream : Nat)
    (queue : List (Int × Nat)) :
    (m.addToDeque streamID stream queue).Perm ((streamID, stream) :: queue) := by
  rw [addToDeque_eq]
  exact List.perm_orderedInsert _ _ _

theorem addToDeque_descending {m : ParallelStreamManager} {queue : List (Int × Nat)}
    (descending : Descending m.priorityOf queue) (streamID : Int) (stream : Nat) :
    Descending m.priorityOf (m.addToDeque streamID stream queue) := by
  rw [addToDeque_eq]
  exact descending.orderedInsert m.priorityOf _

theorem eraseID_sublist (streamID : Int) (queue : List (Int × Nat)) :
    (eraseID streamID queue).Sublist queue := List.eraseP_sublist

section Fewer

variable {limit : Nat} {m after : ParallelStreamManager}

/-- Entries leave the queues, and the streams keep their IDs. -/
structure Fewer (m after : ParallelStreamManager) : Prop where
  playing : after.playingStream.Sublist m.playingStream
  waiting : after.waitingStream.Sublist m.waitingStream
  ids : ∀ stream id, m.idOf stream = some id → after.idOf stream = some id
  counter : 0 ≤ m.nextStreamId → 0 ≤ after.nextStreamId

theorem Fewer.queued (fewer : Fewer m after) : after.queued.Sublist m.queued :=
  fewer.playing.append fewer.waiting

theorem Fewer.settles (fewer : Fewer m after) : Settles m after where
  ids := fewer.ids
  queued := (fewer.queued.map Prod.fst).subset

theorem Tidy.fewer (tidy : Tidy limit m) (fewer : Fewer m after) : Tidy limit after where
  capacity := Nat.le_trans fewer.playing.length_le tidy.capacity
  known := by
    intro entry member
    exact fewer.ids entry.2 entry.1 (tidy.known entry (fewer.queued.subset member))
  distinct := tidy.distinct.sublist (fewer.queued.map Prod.fst)
  counter := fewer.counter tidy.counter

theorem descending_congr {queue : List (Int × Nat)} (descending : Descending m.priorityOf queue)
    (same : ∀ entry ∈ queue, after.priorityOf entry = m.priorityOf entry) :
    Descending after.priorityOf queue := by
  apply List.Pairwise.imp_of_mem _ descending
  intro first second firstMember secondMember ordered
  rw [same first firstMember, same second secondMember]
  exact ordered

theorem Sorted.fewer (sorted : Sorted m) (fewer : Fewer m after)
    (same : ∀ entry ∈ after.queued, after.priorityOf entry = m.priorityOf entry) :
    Sorted after where
  playing := descending_congr (sorted.playing.sublist fewer.playing)
    fun entry member => same entry (List.mem_append_left _ member)
  waiting := descending_congr (sorted.waiting.sublist fewer.waiting)
    fun entry member => same entry (List.mem_append_right _ member)

end Fewer

section Updates

variable {m : ParallelStreamManager}

variable {change : Stream → Stream}

theorem idOf_update (stream other : Nat)
    (kept : ∀ audio, (change audio).streamID = audio.streamID) :
    (m.update stream change).idOf other = m.idOf other := by
  simp only [idOf, update, List.getElem?_modify]
  by_cases same : stream = other
  · cases found : m.streams[other]? <;> simp [same, kept]
  · simp [same]

theorem getPriority_update (stream other : Nat)
    (kept : stream = other → ∀ audio ∈ m.streams[other]?, (change audio).priority =
      audio.priority) :
    (m.update stream change).getPriority other = m.getPriority other := by
  simp only [getPriority, update, List.getElem?_modify]
  by_cases same : stream = other
  · cases found : m.streams[other]? with
    | none => rfl
    | some audio => simp [same, kept same audio found]
  · simp [same]

theorem fewer_update (stream : Nat) (kept : ∀ audio, (change audio).streamID = audio.streamID) :
    Fewer m (m.update stream change) where
  playing := List.Sublist.refl _
  waiting := List.Sublist.refl _
  ids := by
    intro other id known
    rw [idOf_update stream other kept]
    exact known
  counter := id

theorem fewer_eraseID (streamID : Int) :
    Fewer m { m with playingStream := eraseID streamID m.playingStream } where
  playing := eraseID_sublist streamID m.playingStream
  waiting := List.Sublist.refl _
  ids := fun _ _ known => known
  counter := id

end Updates

section Additions

variable {limit : Nat} {m : ParallelStreamManager} {stream : Nat} {streamID : Int}

theorem queued_addToPlaying :
    (m.addToPlayingDeque streamID stream).queued.Perm ((streamID, stream) :: m.queued) :=
  (m.addToDeque_perm streamID stream m.playingStream).append_right m.waitingStream

theorem queued_addToWaiting :
    (m.addToWaitingDeque streamID stream).queued.Perm ((streamID, stream) :: m.queued) :=
  ((m.addToDeque_perm streamID stream m.waitingStream).append_left m.playingStream).trans
    List.perm_middle

theorem tidy_added {after : ParallelStreamManager} (tidy : Tidy limit m)
    (known : m.idOf stream = some streamID) (fresh : streamID ∉ m.queuedIDs)
    (capacity : after.playingStream.length ≤ limit) (streams : after.streams = m.streams)
    (counter : after.nextStreamId = m.nextStreamId)
    (added : after.queued.Perm ((streamID, stream) :: m.queued)) : Tidy limit after where
  capacity := capacity
  known := by
    intro entry member
    have same : after.idOf entry.2 = m.idOf entry.2 := by rw [idOf, idOf, streams]
    rw [same]
    rcases List.mem_cons.mp (added.subset member) with rfl | old
    · exact known
    · exact tidy.known entry old
  distinct := by
    have moved : after.queuedIDs.Perm (streamID :: m.queuedIDs) := added.map Prod.fst
    exact moved.nodup_iff.mpr (List.nodup_cons.mpr ⟨fresh, tidy.distinct⟩)
  counter := counter ▸ tidy.counter

theorem tidy_addToPlaying (tidy : Tidy limit m) (known : m.idOf stream = some streamID)
    (fresh : streamID ∉ m.queuedIDs) (room : m.playingStream.length < limit) :
    Tidy limit (m.addToPlayingDeque streamID stream) := by
  have longer := (m.addToDeque_perm streamID stream m.playingStream).length_eq
  have capacity : (m.addToPlayingDeque streamID stream).playingStream.length ≤ limit :=
    Nat.le_trans (Nat.le_of_eq longer) room
  exact tidy_added tidy known fresh capacity rfl rfl queued_addToPlaying

theorem tidy_addToWaiting (tidy : Tidy limit m) (known : m.idOf stream = some streamID)
    (fresh : streamID ∉ m.queuedIDs) : Tidy limit (m.addToWaitingDeque streamID stream) :=
  tidy_added tidy known fresh tidy.capacity rfl rfl queued_addToWaiting

theorem sorted_addToPlaying (sorted : Sorted m) : Sorted (m.addToPlayingDeque streamID stream) where
  playing := addToDeque_descending sorted.playing streamID stream
  waiting := sorted.waiting

theorem sorted_addToWaiting (sorted : Sorted m) : Sorted (m.addToWaitingDeque streamID stream) where
  playing := sorted.playing
  waiting := addToDeque_descending sorted.waiting streamID stream

theorem fewer_dropLast : Fewer m { m with playingStream := m.playingStream.dropLast } where
  playing := List.dropLast_sublist _
  waiting := List.Sublist.refl _
  ids := fun _ _ known => known
  counter := id

theorem sorted_dropLast (sorted : Sorted m) :
    Sorted { m with playingStream := m.playingStream.dropLast } :=
  sorted.fewer fewer_dropLast fun _ _ => rfl

theorem not_mem_queuedIDs_of_fewer {after : ParallelStreamManager} (fewer : Fewer m after)
    (fresh : streamID ∉ m.queuedIDs) : streamID ∉ after.queuedIDs :=
  fun member => fresh (fewer.settles.queued member)

end Additions

section Preparing

variable {limit : Nat} {m : ParallelStreamManager} {stream : Nat} {streamID : Int}

/-- What a section leaves: the queues tidy, and sorted if they were. -/
structure Dealt (limit : Nat) (m after : ParallelStreamManager) : Prop where
  tidy : Tidy limit after
  sorted : Sorted m → Sorted after

theorem getStreamID_of_known (known : m.idOf stream = some streamID) :
    m.getStreamID stream = streamID := by
  have found : m.streams[stream]?.map Stream.streamID = some streamID := known
  rw [getStreamID, found]
  rfl

theorem dealt_addToPlaying (tidy : Tidy limit m) (known : m.idOf stream = some streamID)
    (fresh : streamID ∉ m.queuedIDs) (room : m.playingStream.length < limit) :
    Dealt limit m (m.addToPlayingDeque streamID stream) where
  tidy := tidy_addToPlaying tidy known fresh room
  sorted := sorted_addToPlaying

theorem dealt_replace (tidy : Tidy limit m) (known : m.idOf stream = some streamID)
    (fresh : streamID ∉ m.queuedIDs) (plays : m.playingStream ≠ []) :
    Dealt limit m
      ({ m with playingStream := m.playingStream.dropLast }.addToPlayingDeque streamID stream) where
  tidy := by
    have shorter : m.playingStream.dropLast.length < limit := by
      have capacity := tidy.capacity
      have some := List.length_pos_iff.mpr plays
      rw [List.length_dropLast]
      omega
    exact tidy_addToPlaying (tidy.fewer fewer_dropLast) known
      (not_mem_queuedIDs_of_fewer fewer_dropLast fresh) shorter
  sorted := fun sorted => sorted_addToPlaying (sorted_dropLast sorted)

theorem dealt_playOrWait (tidy : Tidy limit m) (known : m.idOf stream = some streamID)
    (fresh : streamID ∉ m.queuedIDs) : Dealt limit m (m.playOrWait limit stream false).manager := by
  rw [playOrWait, getStreamID_of_known known]
  split
  · rename_i room
    exact dealt_addToPlaying tidy known fresh room
  split
  · exact ⟨tidy, id⟩
  · rename_i lastPlay present
    split
    · exact dealt_replace tidy known fresh (List.ne_nil_of_mem (List.mem_of_getLast? present))
    · exact ⟨tidy_addToWaiting tidy known fresh, sorted_addToWaiting⟩

variable {rest : List (Int × Nat)}

theorem dealQueue_front {before : ParallelStreamManager}
    (front : before.waitingStream = (streamID, stream) :: rest) :
    (before.dealQueueAndAddTask streamID stream true).1 =
      { before with waitingStream := rest }.addToPlayingDeque streamID stream := by
  simp only [dealQueueAndAddTask, if_true, removeFromWaitingDeque, addToPlayingDeque, front,
    eraseID, List.eraseP_cons, beq_self_eq_true, addToDeque_eq]
  rfl

theorem fewer_front (front : m.waitingStream = (streamID, stream) :: rest) :
    Fewer m { m with waitingStream := rest } where
  playing := List.Sublist.refl _
  waiting := by
    rw [front]
    exact List.sublist_cons_self _ _
  ids := fun _ _ known => known
  counter := id

theorem not_mem_of_front (tidy : Tidy limit m)
    (front : m.waitingStream = (streamID, stream) :: rest) :
    streamID ∉ { m with waitingStream := rest }.queuedIDs := by
  have distinct : (m.playingStream.map Prod.fst ++ streamID :: rest.map Prod.fst).Nodup := by
    have whole := tidy.distinct
    rwa [queuedIDs, queued, front, List.map_append, List.map_cons] at whole
  have without := List.nodup_cons.mp (List.perm_middle.nodup_iff.mp distinct)
  rw [queuedIDs, queued, List.map_append]
  exact without.1

theorem dealt_front (tidy : Tidy limit m) (front : m.waitingStream = (streamID, stream) :: rest) :
    Dealt limit m (m.playOrWait limit stream true).manager := by
  have known : m.idOf stream = some streamID := by
    apply tidy.known (streamID, stream)
    rw [queued, front]
    exact List.mem_append_right _ List.mem_cons_self
  have shorter : Tidy limit { m with waitingStream := rest } := tidy.fewer (fewer_front front)
  have fresh := not_mem_of_front tidy front
  have sorted (ordered : Sorted m) : Sorted { m with waitingStream := rest } :=
    ordered.fewer (fewer_front front) fun _ _ => rfl
  rw [playOrWait, getStreamID_of_known known]
  split
  · rename_i room
    change Dealt limit m (m.dealQueueAndAddTask streamID stream true).1
    rw [dealQueue_front front]
    have dealt := dealt_addToPlaying shorter known fresh room
    exact ⟨dealt.tidy, fun ordered => dealt.sorted (sorted ordered)⟩
  · split
    · exact ⟨tidy, id⟩
    rename_i lastPlay present
    split
    · have popped : ({ m with playingStream := m.playingStream.dropLast }).waitingStream =
          (streamID, stream) :: rest := front
      change Dealt limit m (dealQueueAndAddTask _ streamID stream true).1
      rw [dealQueue_front popped]
      have dealt := dealt_replace shorter known fresh
        (List.ne_nil_of_mem (List.mem_of_getLast? present))
      exact ⟨dealt.tidy, fun ordered => dealt.sorted (sorted ordered)⟩
    · exact ⟨tidy, id⟩

theorem queued_promoted (front : m.waitingStream = (streamID, stream) :: rest) :
    ({ m with waitingStream := rest }.addToPlayingDeque streamID stream).queued.Perm m.queued := by
  have moved : ((streamID, stream) :: (m.playingStream ++ rest)).Perm m.queued := by
    rw [queued, front]
    exact List.perm_middle.symm
  exact queued_addToPlaying.trans moved

theorem settles_promoted (front : m.waitingStream = (streamID, stream) :: rest) :
    Settles m ({ m with waitingStream := rest }.addToPlayingDeque streamID stream) where
  ids := fun _ _ known => known
  queued := ((queued_promoted front).map Prod.fst).subset

theorem Settles.refl (m : ParallelStreamManager) : Settles m m where
  ids := fun _ _ known => known
  queued := List.Subset.refl _

theorem Settles.trans {first second third : ParallelStreamManager} (before : Settles first second)
    (after : Settles second third) : Settles first third where
  ids := fun stream id known => after.ids stream id (before.ids stream id known)
  queued := List.Subset.trans after.queued before.queued

theorem settles_front (front : m.waitingStream = (streamID, stream) :: rest)
    (known : m.idOf stream = some streamID) :
    Settles m (m.playOrWait limit stream true).manager := by
  rw [playOrWait, getStreamID_of_known known]
  split
  · change Settles m (m.dealQueueAndAddTask streamID stream true).1
    rw [dealQueue_front front]
    exact settles_promoted front
  · split
    · exact Settles.refl m
    split
    · have popped : ({ m with playingStream := m.playingStream.dropLast }).waitingStream =
          (streamID, stream) :: rest := front
      change Settles m (dealQueueAndAddTask _ streamID stream true).1
      rw [dealQueue_front popped]
      exact fewer_dropLast.settles.trans (settles_promoted popped)
    · exact Settles.refl m

end Preparing

section Tasks

variable {limit : Nat} {m : ParallelStreamManager}

def FindsFront (m : ParallelStreamManager) : StreamTask → Prop
  | .preparePlay _ => m.waitingStream ≠ []
  | _ => True

/-- A queued stream that is played still has the priority that `Play` gave it. -/
def KeepsPriority (m : ParallelStreamManager) : StreamTask → Prop
  | .playStream stream _ =>
    (∃ entry ∈ m.queued, entry.2 = stream) →
      ∀ audio ∈ m.streams[stream]?, audio.priority = audio.playPriority
  | _ => True

instance (m : ParallelStreamManager) : (task : StreamTask) → Decidable (FindsFront m task)
  | .preparePlay _ => inferInstanceAs (Decidable (_ ≠ _))
  | .playStream _ _ | .doPlay _ | .playFailed _ | .stopTask _ | .stop _ | .onPlayFinished _
  | .stopEnds _ => .isTrue trivial

instance (m : ParallelStreamManager) : (task : StreamTask) → Decidable (KeepsPriority m task)
  | .playStream _ _ => inferInstanceAs (Decidable ((∃ _ ∈ _, _) → ∀ _ ∈ _, _))
  | .preparePlay _ | .doPlay _ | .playFailed _ | .stopTask _ | .stop _ | .onPlayFinished _
  | .stopEnds _ => .isTrue trivial

/-- What a task leaves; the queues stay sorted where `ordered` promises it. -/
structure Done (limit : Nat) (ordered : Prop) (m after : ParallelStreamManager) : Prop
    extends Settles m after where
  tidy : Tidy limit after
  sorted : ordered → Sorted m → Sorted after

variable {ordered : Prop}

theorem Done.refl (tidy : Tidy limit m) : Done limit ordered m m :=
  ⟨Settles.refl m, tidy, fun _ => id⟩

theorem Done.trans {between after : ParallelStreamManager} (first : Done limit ordered m between)
    (second : Done limit ordered between after) : Done limit ordered m after where
  toSettles := first.toSettles.trans second.toSettles
  tidy := second.tidy
  sorted := fun promised sorted => second.sorted promised (first.sorted promised sorted)

theorem Fewer.done {after : ParallelStreamManager} (fewer : Fewer m after) (tidy : Tidy limit m)
    (same : ∀ entry ∈ after.queued, after.priorityOf entry = m.priorityOf entry) :
    Done limit ordered m after where
  toSettles := fewer.settles
  tidy := tidy.fewer fewer
  sorted := fun _ sorted => sorted.fewer fewer same

theorem done_update (tidy : Tidy limit m) (stream : Nat) {change : Stream → Stream}
    (ids : ∀ audio, (change audio).streamID = audio.streamID)
    (priorities : ordered → (∃ entry ∈ m.queued, entry.2 = stream) →
      ∀ audio ∈ m.streams[stream]?, (change audio).priority = audio.priority) :
    Done limit ordered m (m.update stream change) where
  toSettles := (fewer_update stream ids).settles
  tidy := tidy.fewer (fewer_update stream ids)
  sorted := by
    intro promised sorted
    apply sorted.fewer (fewer_update stream ids)
    intro entry member
    apply getPriority_update
    intro same audio found
    exact priorities promised ⟨entry, member, same.symm⟩ audio (same ▸ found)

theorem done_eraseID (tidy : Tidy limit m) (streamID : Int) :
    Done limit ordered m { m with playingStream := eraseID streamID m.playingStream } :=
  (fewer_eraseID streamID).done tidy fun _ _ => rfl

theorem done_playStream (tidy : Tidy limit m) (stream : Nat) (streamID : Int)
    (answers : StreamAnswers) (keeps : ordered → KeepsPriority m (.playStream stream streamID)) :
    Done limit ordered m (m.playStream stream streamID answers).manager := by
  have prepared : Done limit ordered m (m.update stream fun audio =>
      { audio with audioRenderer := true, priority := audio.playPriority }) := by
    apply done_update tidy stream
    · exact fun _ => rfl
    · intro promised queued audio found
      exact (keeps promised queued audio found).symm
  have runs (running : Bool) :
    Done limit ordered _ (ParallelStreamManager.update _ stream fun audio =>
      { audio with isRunning := running }) :=
    done_update prepared.tidy stream (fun _ => rfl) fun _ _ _ _ => rfl
  rw [playStream]
  split
  · exact Done.refl tidy
  split
  · exact Done.refl tidy
  split
  · exact prepared
  · split
    · exact prepared.trans (runs true)
    · exact prepared.trans (runs false)

theorem done_stop (tidy : Tidy limit m) (stream : Nat) :
    Done limit ordered m (m.stop stream).manager := by
  rw [stop]
  split
  · exact Done.refl tidy
  · split
    · exact done_update tidy stream (fun _ => rfl) fun _ _ _ _ => rfl
    · exact Done.refl tidy

theorem done_onPlayFinished (tidy : Tidy limit m) (streamID : Int) :
    Done limit ordered m (m.onPlayFinished streamID).manager := by
  rw [onPlayFinished]
  split
  · exact done_eraseID tidy streamID
  · exact done_eraseID tidy streamID

theorem done_promote (tidy : Tidy limit m) (waitFront : Nat) (waits : m.waitingStream ≠ []) :
    Done limit ordered m (m.preparePlay limit waitFront true).manager := by
  cases front : m.waitingStream with
  | nil => exact absurd front waits
  | cons entry rest =>
    have known : m.idOf entry.2 = some entry.1 := by
      apply tidy.known entry
      rw [queued, front]
      exact List.mem_append_right _ List.mem_cons_self
    have dealt := dealt_front tidy front
    rw [preparePlay, front]
    exact ⟨settles_front front known, dealt.tidy, fun _ => dealt.sorted⟩

theorem perform_done (tidy : Tidy limit m) (answers : StreamAnswers) (task : StreamTask)
    (finds : FindsFront m task) (keeps : ordered → KeepsPriority m task) :
    Done limit ordered m (m.perform limit answers task).manager := by
  cases task with
  | preparePlay waitFront => exact done_promote tidy waitFront finds
  | doPlay streamID =>
    rw [perform, doPlay]
    split
    · exact Done.refl tidy
    · exact Done.refl tidy
  | playStream stream streamID => exact done_playStream tidy stream streamID answers keeps
  | playFailed streamID => exact done_eraseID tidy streamID
  | stopTask stream => exact Done.refl tidy
  | stop stream => exact done_stop tidy stream
  | onPlayFinished streamID => exact done_onPlayFinished tidy streamID
  | stopEnds stream => exact done_update tidy stream (fun _ => rfl) fun _ _ _ _ => rfl

end Tasks

section Calls

variable {limit : Nat} {ordered : Prop} {m : ParallelStreamManager}

theorem findStream_none {streamID : Int} (nonneg : 0 ≤ streamID)
    (absent : m.findStream streamID = none) : streamID ∉ m.queuedIDs := by
  rw [findStream, if_pos nonneg, Option.map_eq_none_iff, List.find?_eq_none] at absent
  intro member
  obtain ⟨entry, queued, same⟩ := List.mem_map.mp member
  exact absent entry queued (by simp [same])

theorem freshStreamId_fresh {tries : Nat} {last streamID : Int} (nonneg : 0 ≤ last)
    (fresh : m.freshStreamId tries last = some streamID) :
    0 ≤ streamID ∧ streamID ∉ m.queuedIDs := by
  induction tries generalizing last with
  | zero => cases fresh
  | succ tries ih =>
    have nextNonneg : 0 ≤ if last = int32Max then 1 else last + 1 := by
      split
      · decide
      · omega
    simp only [freshStreamId] at fresh
    generalize (if last = int32Max then 1 else last + 1) = tried at nextNonneg fresh
    by_cases absent : m.findStream tried = none
    · rw [if_pos absent] at fresh
      cases fresh
      exact ⟨nextNonneg, findStream_none nextNonneg absent⟩
    · rw [if_neg absent] at fresh
      exact ih nextNonneg fresh

theorem fewer_makeStream (soundID priority : Int) {streamID : Int} (nonneg : 0 ≤ streamID)
    (soundData : Bool) : Fewer m (m.makeStream soundID priority streamID soundData) where
  playing := List.Sublist.refl _
  waiting := List.Sublist.refl _
  ids := by
    intro stream id known
    obtain ⟨audio, found, same⟩ := Option.map_eq_some_iff.mp known
    rw [idOf, makeStream, List.getElem?_append_left (List.getElem?_eq_some_iff.mp found).1, found,
      Option.map_some, same]
  counter := fun _ => nonneg

theorem done_makeStream (tidy : Tidy limit m) (soundID priority : Int) {streamID : Int}
    (nonneg : 0 ≤ streamID) (soundData : Bool) :
    Done limit ordered m (m.makeStream soundID priority streamID soundData) := by
  apply (fewer_makeStream soundID priority nonneg soundData).done tidy
  intro entry member
  have known := tidy.known entry member
  obtain ⟨audio, found, same⟩ := Option.map_eq_some_iff.mp known
  rw [priorityOf, priorityOf, getPriority, getPriority, makeStream,
    List.getElem?_append_left (List.getElem?_eq_some_iff.mp found).1]

theorem idOf_makeStream (soundID priority streamID : Int) (soundData : Bool) :
    (m.makeStream soundID priority streamID soundData).idOf m.streams.length = some streamID := by
  simp [idOf, makeStream]

theorem done_unloadStream (tidy : Tidy limit m) (soundID : Int) :
    Done limit ordered m (m.unloadStream soundID).1 := by
  have fewer : Fewer m (m.unloadStream soundID).1 :=
    ⟨List.filter_sublist, List.filter_sublist, fun _ _ known => known, id⟩
  exact fewer.done tidy fun _ _ => rfl

theorem tidy_reorderStream (tidy : Tidy limit m) : Tidy limit m.reorderStream where
  capacity := Nat.le_trans (Nat.le_of_eq (sort_perm _ _).length_eq) tidy.capacity
  known := fun entry member =>
    tidy.known entry (((sort_perm _ _).append (sort_perm _ _)).subset member)
  distinct := by
    have same : m.reorderStream.queuedIDs.Perm m.queuedIDs :=
      ((sort_perm _ _).append (sort_perm _ _)).map Prod.fst
    exact same.nodup_iff.mpr tidy.distinct
  counter := tidy.counter

theorem sorted_reorderStream (m : ParallelStreamManager) : Sorted m.reorderStream where
  playing := sort_descending m.priorityOf m.playingStream
  waiting := sort_descending m.priorityOf m.waitingStream

end Calls

end ParallelStreamManager

open ParallelStreamManager

namespace ParallelPool

def nextTask? (s : ParallelPool) : ParallelEvent → Option StreamTask
  | .run thread _ => Threads.next? s.threads thread
  | .proceed _ =>
    match s.call with
    | some (.stopping (task :: _)) => some task
    | _ => none
  | _ => none

/-- The event does not promote from an empty waiting queue, and does not play a queued stream
whose priority has been set since `Play`. -/
def KeepsQueues (s : ParallelPool) (event : ParallelEvent) : Prop :=
  ∀ task ∈ s.nextTask? event, FindsFront s.manager task ∧ KeepsPriority s.manager task

instance (s : ParallelPool) (event : ParallelEvent) : Decidable (KeepsQueues s event) :=
  inferInstanceAs (Decidable (∀ task ∈ s.nextTask? event,
    FindsFront s.manager task ∧ KeepsPriority s.manager task))

/-- The queues are as long, as sorted and as distinct as they should be; between the two parts
of a `SetPriority` they need not be sorted. -/
structure QueuesOrdered (limit : Nat) (s : ParallelPool) : Prop where
  capacity : s.manager.playingStream.length ≤ limit
  sorted : s.call ≠ some .reorderStream → Sorted s.manager
  distinct : s.manager.queuedIDs.Nodup

/-- What every step keeps; the queues are sorted where `ordered` promises it. -/
structure Ordered (limit : Nat) (ordered : Prop) (s : ParallelPool) : Prop where
  tidy : Tidy limit s.manager
  sorted : ordered → s.call ≠ some .reorderStream → Sorted s.manager
  fresh : ∀ stream, s.call = some (.preparePlay stream) →
    ∃ streamID, s.manager.idOf stream = some streamID ∧ streamID ∉ s.manager.queuedIDs

theorem Ordered.queues {limit : Nat} {s : ParallelPool} (ordered : Ordered limit True s) :
    QueuesOrdered limit s :=
  ⟨ordered.tidy.capacity, ordered.sorted trivial, ordered.tidy.distinct⟩

def Keeps (promised : Prop) (s : ParallelPool) (event : ParallelEvent) : Prop :=
  ∀ task ∈ s.nextTask? event, FindsFront s.manager task ∧ (promised → KeepsPriority s.manager task)

section Steps

variable {limit : Nat} {promised : Prop} {s after : ParallelPool}

/-- The manager has changed as a task changes it, and the call is where it was. -/
theorem Ordered.done (ordered : Ordered limit promised s)
    (done : Done limit promised s.manager after.manager) (call : after.call = s.call) :
    Ordered limit promised after where
  tidy := done.tidy
  sorted := by
    rw [call]
    exact fun holds other => done.sorted holds (ordered.sorted holds other)
  fresh := by
    rw [call]
    intro stream prepares
    obtain ⟨streamID, known, fresh⟩ := ordered.fresh stream prepares
    exact ⟨streamID, done.ids stream streamID known, fun member => fresh (done.queued member)⟩

/-- The manager has changed as a task changes it, and the call gets on to a stage in which no
stream is prepared. -/
theorem Ordered.goesOn (ordered : Ordered limit promised s) (before : s.call ≠ some .reorderStream)
    (done : Done limit promised s.manager after.manager)
    (prepares : ∀ stream, after.call ≠ some (.preparePlay stream)) :
      Ordered limit promised after where
  tidy := done.tidy
  sorted := fun holds _ => done.sorted holds (ordered.sorted holds before)
  fresh := fun stream prepared => absurd prepared (prepares stream)

theorem stopping_ne_preparePlay (tasks : List StreamTask) (stream : Nat) :
    stopping tasks ≠ some (.preparePlay stream) := by
  rw [stopping]
  split <;> simp

theorem ordered_play {soundID priority : Int} (ordered : Ordered limit promised s)
    (call : s.call = some (.play soundID priority)) (answers : StreamAnswers) :
    Ordered limit promised (s.proceed limit answers) := by
  have sorted (holds : promised) : Sorted s.manager := ordered.sorted holds (by simp [call])
  simp only [proceed, call]
  split
  · exact ordered
  rename_i streamID found
  obtain ⟨nonneg, fresh⟩ := freshStreamId_fresh ordered.tidy.counter found
  have made : Done limit promised s.manager
      (s.manager.makeStream soundID priority streamID answers.soundData) :=
    done_makeStream ordered.tidy soundID priority nonneg answers.soundData
  refine ⟨made.tidy, fun holds _ => made.sorted holds (sorted holds), ?_⟩
  intro stream prepares
  have named : s.manager.streams.length = stream := by
    split at prepares
    · simpa using prepares
    · cases prepares
  subst named
  exact ⟨streamID, idOf_makeStream soundID priority streamID answers.soundData,
    fun member => fresh (made.queued member)⟩

theorem ordered_preparePlay {stream : Nat} (ordered : Ordered limit promised s)
    (call : s.call = some (.preparePlay stream)) (answers : StreamAnswers) :
    Ordered limit promised (s.proceed limit answers) := by
  have sorted (holds : promised) : Sorted s.manager := ordered.sorted holds (by simp [call])
  obtain ⟨streamID, known, fresh⟩ := ordered.fresh stream call
  have dealt := dealt_playOrWait ordered.tidy known fresh
  simp only [proceed, call, preparePlay]
  exact ⟨dealt.tidy, fun holds _ => dealt.sorted (sorted holds), by simp⟩

theorem ordered_prioritise {stream : Nat} {priority : Int} (ordered : Ordered limit promised s)
    (call : s.call = some (.prioritise stream priority)) (answers : StreamAnswers) :
    Ordered limit promised (s.proceed limit answers) := by
  simp only [proceed, call]
  split
  · exact ordered
  · have fewer : Fewer s.manager (s.manager.update stream fun audio =>
        { audio with priority := priority }) := fewer_update stream fun _ => rfl
    exact ⟨ordered.tidy.fewer fewer, by simp, by simp⟩

theorem ordered_stopping {tasks : List StreamTask} (ordered : Ordered limit promised s)
    (call : s.call = some (.stopping tasks)) (answers : StreamAnswers)
    (keeps : Keeps promised s (.proceed answers)) :
      Ordered limit promised (s.proceed limit answers) := by
  have before : s.call ≠ some .reorderStream := by simp [call]
  cases tasks with
  | nil =>
    simp only [proceed, call]
    exact ordered.goesOn before (Done.refl ordered.tidy) (by simp)
  | cons task rest =>
    have kept := keeps task (by simp [nextTask?, call])
    simp only [proceed, call]
    split
    · exact ordered
    · exact ordered.goesOn before (perform_done ordered.tidy answers task kept.1 kept.2)
        (stopping_ne_preparePlay _)

theorem ordered_proceed (ordered : Ordered limit promised s) (answers : StreamAnswers)
    (keeps : Keeps promised s (.proceed answers)) :
      Ordered limit promised (s.proceed limit answers) := by
  cases call : s.call with
  | none =>
    simp only [proceed, call]
    exact ordered
  | some stage =>
    cases stage with
    | play soundID priority => exact ordered_play ordered call answers
    | preparePlay stream => exact ordered_preparePlay ordered call answers
    | stop streamID | setPriority streamID priority =>
      simp only [proceed, call]
      refine ordered.goesOn (by simp [call]) (Done.refl ordered.tidy) ?_
      intro stream prepares
      cases found : s.manager.findStream streamID <;> simp [found] at prepares
    | prioritise stream priority => exact ordered_prioritise ordered call answers
    | reorderStream =>
      simp only [proceed, call]
      exact ⟨tidy_reorderStream ordered.tidy, fun _ _ => sorted_reorderStream s.manager, by simp⟩
    | unload soundID =>
      simp only [proceed, call]
      exact ordered.goesOn (by simp [call]) (done_unloadStream ordered.tidy soundID)
        (stopping_ne_preparePlay _)
    | stopping tasks => exact ordered_stopping ordered call answers keeps

theorem done_addStopTask (ordered : Ordered limit promised s) (stream : Nat) :
    Done limit promised s.manager (s.manager.addStopTask stream) :=
  done_update ordered.tidy stream (fun _ => rfl) fun _ _ _ _ => rfl

theorem ordered_runThread (ordered : Ordered limit promised s) (thread : Nat)
    (answers : StreamAnswers)
    (keeps : Keeps promised s (.run thread answers)) :
    Ordered limit promised (s.runThread limit thread answers) := by
  rw [runThread]
  split
  · exact ordered
  rename_i task ready
  split
  · exact ordered
  · exact ordered.done (perform_done ordered.tidy answers task (keeps task ready).1
      (keeps task ready).2) rfl

theorem step_ordered (ordered : Ordered limit promised s) {event : ParallelEvent}
    (keeps : Keeps promised s event) : Ordered limit promised (s.next limit event) := by
  rw [next.eq_def]
  split
  · exact ordered
  cases event with
  | call call =>
    simp only
    split
    · rename_i free
      refine ordered.goesOn (by simp [free.1]) (Done.refl ordered.tidy) ?_
      intro stream prepares
      cases prepares
      exact absurd free.2 (by simp [StreamCall.isEntry])
    · exact ordered
  | proceed answers => exact ordered_proceed ordered answers keeps
  | writeFinished stream =>
    simp only [writeFinished]
    split
    · exact ordered.done (done_addStopTask ordered stream) rfl
    · exact ordered
  | interrupted stream => exact ordered.done (done_addStopTask ordered stream) rfl
  | run thread answers => exact ordered_runThread ordered thread answers keeps

theorem ordered_start (limit : Nat) (promised : Prop) : Ordered limit promised {} where
  tidy := ⟨Nat.zero_le _, by simp [queued], List.nodup_nil, Int.le_refl 0⟩
  sorted := fun _ _ => ⟨List.Pairwise.nil, List.Pairwise.nil⟩
  fresh := by simp

end Steps

/-- As long as no promotion meets an empty waiting queue, and no queued stream is played whose
priority has been set since `Play`, no more streams play than the limit allows, both queues are
sorted and no stream is twice in them. -/
theorem queues_ordered (maxStreams : Int) (events : List ParallelEvent)
    (keeps : Along (next (initThreadPool maxStreams)) KeepsQueues {} events) :
    QueuesOrdered (initThreadPool maxStreams) (reachedParallel maxStreams events) := by
  have ordered : Ordered (initThreadPool maxStreams) True (reachedParallel maxStreams events) := by
    apply invariant_of_along (Ordered (initThreadPool maxStreams) True) _ keeps (ordered_start _ _)
    intro s event ordered keeps
    exact step_ordered ordered fun task taken =>
      ⟨(keeps task taken).1, fun _ => (keeps task taken).2⟩
  exact ordered.queues

/-- Two sounds are played at once and a third one waits; the first is stopped, and the third is
played in its place and gets the highest priority. -/
def playInPlace : List ParallelEvent :=
  [.call (.play 1 2), .proceed {}, .proceed {}, .run 0 {}, .run 0 {},
    .call (.play 2 1), .proceed {}, .proceed {}, .run 1 {}, .run 1 {},
    .call (.play 3 0), .proceed {}, .proceed {},
    .call (.stop 1), .proceed {}, .proceed {}, .proceed {}, .proceed {},
    .run 2 {}, .run 3 {}, .run 3 {}, .call (.setPriority 3 5), .proceed {}, .proceed {},
    .proceed {}]

theorem in_place_ordered : QueuesOrdered 2 (reachedParallel 2 playInPlace) :=
  queues_ordered 2 playInPlace (by decide +kernel)

/-- The second of two sounds gets a higher priority before it is played. -/
def playPrioritised : List ParallelEvent :=
  [.call (.play 1 1), .proceed {}, .proceed {}, .call (.play 2 0), .proceed {}, .proceed {},
    .call (.setPriority 2 5), .proceed {}, .proceed {}, .proceed {}, .run 1 {}, .run 1 {}]

/-- Playing the sound gives it back the priority of `Play`, at the head of the queue. -/
theorem prioritised_not_ordered :
    (reachedParallel 2 playPrioritised).manager.playingStream = [(2, 1), (1, 0)] ∧
      ¬ QueuesOrdered 2 (reachedParallel 2 playPrioritised) := by
  have queue : (reachedParallel 2 playPrioritised).manager.playingStream = [(2, 1), (1, 0)] := by
    decide +kernel
  refine ⟨queue, ?_⟩
  intro ordered
  have descending := (ordered.sorted (by decide +kernel)).playing
  have first := List.rel_of_pairwise_cons descending List.mem_cons_self
  exact absurd first (by decide +kernel)

end ParallelPool

end PlayerFramework.SoundPool
