import PlayerFramework.SoundPool.Promotion

/-!
The slots of the parallel stream manager that waiting streams are going to be offered. An end that
is on the way gives up the slot of its ID, if that has one, and promotes the front of the waiting
queue; a promotion that is on the way takes a slot for it.
-/

namespace PlayerFramework.SoundPool

open Transition ParallelStreamManager

def StreamTask.ends? : StreamTask → Option Int
  | .onPlayFinished streamID => some streamID
  | _ => none

/-- A task that neither ends nor promotes a stream. -/
def StreamTask.isQuiet : StreamTask → Bool
  | .preparePlay _ | .onPlayFinished _ | .stop _ => false
  | _ => true

section Lists

variable {Item : Type*}

theorem filter_wider (items : List Item) {narrow wide : Item → Bool}
    (wider : ∀ item, narrow item = true → wide item = true) :
    (items.filter wide).Perm
      (items.filter narrow ++ items.filter fun item => wide item && !narrow item) := by
  have split := List.filter_append_perm narrow (items.filter wide)
  have first : (items.filter wide).filter narrow = items.filter narrow := by
    rw [List.filter_filter]
    refine List.filter_congr ?_
    intro item _
    cases isNarrow : narrow item with
    | false => rfl
    | true => simp [wider item isNarrow]
  have second : (items.filter wide).filter (fun item => !narrow item) =
      items.filter fun item => wide item && !narrow item := by
    rw [List.filter_filter]
    refine List.filter_congr ?_
    intro item _
    rw [Bool.and_comm]
  rw [first, second] at split
  exact split.symm

variable [DecidableEq Item]

theorem filter_not_mem_append {items : List Item} (distinct : items.Nodup) (old more : List Item) :
    (items.filter (· ∉ old)).length ≤ (items.filter (· ∉ old ++ more)).length + more.length := by
  have split := (List.filter_append_perm (fun item => decide (item ∉ more))
    (items.filter (· ∉ old))).length_eq
  have gone : ((items.filter (· ∉ old)).filter fun item => !decide (item ∉ more)).length ≤
      more.length := by
    refine (List.subperm_of_subset ((distinct.filter _).filter _) ?_).length_le
    intro item member
    simpa using (List.mem_filter.mp member).2
  have left : (items.filter (· ∉ old)).filter (fun item => decide (item ∉ more)) =
      items.filter (· ∉ old ++ more) := by
    rw [List.filter_filter]
    refine List.filter_congr ?_
    intro item _
    simp [Bool.and_comm]
  rw [List.length_append, left] at split
  omega

theorem length_le_filter_not_mem {items : List Item} (distinct : items.Nodup)
    (others : List Item) :
    items.length ≤ (items.filter (· ∉ others)).length + others.length := by
  simpa using filter_not_mem_append distinct [] others

theorem filter_remove {items : List Item} (distinct : items.Nodup) {item : Item}
    {keeps : Item → Bool} (member : item ∈ items) (kept : keeps item = true) :
    (items.filter keeps).Perm (item :: items.filter fun other => keeps other && other != item) := by
  have nodup := distinct.filter keeps
  have inside : item ∈ items.filter keeps := List.mem_filter.mpr ⟨member, kept⟩
  refine (List.perm_cons_erase inside).trans ?_
  rw [nodup.erase_eq_filter, List.filter_filter]
  simp only [Bool.and_comm]
  exact .refl _

end Lists

namespace ParallelStreamManager

/-- The stream has a renderer that runs, so that a stop of it ends it. -/
def runs (m : ParallelStreamManager) (stream : Nat) : Bool :=
  m.streams[stream]?.any fun audio => audio.audioRenderer && audio.isRunning

/-- The streams that a stop on the way ends. -/
def stopped (m : ParallelStreamManager) (tasks : List StreamTask) : List Nat :=
  (List.range m.streams.length).filter fun stream =>
    m.runs stream && tasks.contains (.stop stream)

/-- The IDs of the streams whose end is on the way. -/
def endings (m : ParallelStreamManager) (tasks : List StreamTask) : List Int :=
  tasks.filterMap StreamTask.ends? ++ (m.stopped tasks).map m.getStreamID

/-- The promotions that are on the way: each end leads to one. -/
def promised (m : ParallelStreamManager) (tasks : List StreamTask) : Nat :=
  (tasks.filterMap StreamTask.promotes?).length + (m.endings tasks).length

def playingIDs (m : ParallelStreamManager) : List Int := m.playingStream.map Prod.fst

/-- The slots that no end on the way gives up. -/
def staying (m : ParallelStreamManager) (tasks : List StreamTask) : Nat :=
  (m.playingIDs.filter (· ∉ m.endings tasks)).length

/-- Each waiting stream has a promotion on the way, or the promotions on the way take all slots
that are free or being given up. -/
def Offered (limit : Nat) (m : ParallelStreamManager) (tasks : List StreamTask) : Prop :=
  m.waitingStream.length ≤ m.promised tasks ∨ limit ≤ m.staying tasks + m.promised tasks

variable {limit : Nat} {m after : ParallelStreamManager} {tasks rest later : List StreamTask}

theorem stopped_perm (same : tasks.Perm later) : m.stopped tasks = m.stopped later := by
  refine List.filter_congr ?_
  intro stream _
  have contains : tasks.contains (StreamTask.stop stream) = later.contains (.stop stream) := by
    rw [Bool.eq_iff_iff, List.contains_iff_mem, List.contains_iff_mem]
    exact same.mem_iff
  rw [contains]

theorem endings_perm (same : tasks.Perm later) : (m.endings tasks).Perm (m.endings later) := by
  rw [endings, stopped_perm same]
  exact (same.filterMap _).append_right _

structure SameCounts (m after : ParallelStreamManager) (tasks later : List StreamTask) : Prop where
  waiting : after.waitingStream.length ≤ m.waitingStream.length
  playing : after.playingIDs.Perm m.playingIDs
  endings : (after.endings later).Perm (m.endings tasks)
  promotions : (later.filterMap StreamTask.promotes?).length =
    (tasks.filterMap StreamTask.promotes?).length

theorem staying_eq (playing : after.playingIDs.Perm m.playingIDs)
    (endings : (after.endings later).Perm (m.endings tasks)) :
    after.staying later = m.staying tasks := by
  have kept : (fun id => decide (id ∉ after.endings later)) =
      fun id => decide (id ∉ m.endings tasks) := by
    funext id
    simp [endings.mem_iff]
  rw [staying, kept]
  exact (playing.filter _).length_eq

theorem SameCounts.offered (same : SameCounts m after tasks later)
    (offered : Offered limit m tasks) : Offered limit after later := by
  have staying := staying_eq same.playing same.endings
  have promised : after.promised later = m.promised tasks := by
    rw [promised, promised, same.promotions, same.endings.length_eq]
  rw [Offered, staying, promised]
  exact offered.imp_left fun enough => Nat.le_trans same.waiting enough

theorem offered_more {more : List Int} (distinct : m.playingIDs.Nodup)
    (waiting : after.waitingStream.length ≤ m.waitingStream.length)
    (playing : after.playingIDs.Perm m.playingIDs)
    (endings : (after.endings later).Perm (m.endings tasks ++ more))
    (promotions : (later.filterMap StreamTask.promotes?).length =
      (tasks.filterMap StreamTask.promotes?).length)
    (offered : Offered limit m tasks) : Offered limit after later := by
  have given := filter_not_mem_append distinct (m.endings tasks) more
  have kept : (fun id => decide (id ∉ after.endings later)) =
      fun id => decide (id ∉ m.endings tasks ++ more) := by
    funext id
    simp [endings.mem_iff]
  have staying : after.staying later =
      (m.playingIDs.filter (· ∉ m.endings tasks ++ more)).length := by
    rw [staying, kept]
    exact (playing.filter _).length_eq
  have promised : after.promised later = m.promised tasks + more.length := by
    rw [promised, promised, promotions, endings.length_eq, List.length_append, Nat.add_assoc]
  rcases offered with enough | full
  · exact .inl (by omega)
  · exact .inr (by rw [ParallelStreamManager.staying] at full; omega)

theorem offered_of_full (distinct : m.playingIDs.Nodup) (full : limit ≤ m.playingStream.length) :
    Offered limit m tasks := by
  have counted := length_le_filter_not_mem distinct (m.endings tasks)
  have length : m.playingIDs.length = m.playingStream.length := List.length_map _
  right
  rw [staying, promised]
  omega

theorem offered_of_none (waiting : m.waitingStream = []) : Offered limit m tasks := by
  left
  rw [waiting]
  exact Nat.zero_le _

theorem stopped_quiet {task : StreamTask} (other : ∀ stream, task ≠ .stop stream) :
    m.stopped (task :: rest) = m.stopped rest := by
  refine List.filter_congr ?_
  intro stream _
  rw [List.contains_cons, beq_false_of_ne (other stream).symm, Bool.false_or]

theorem endings_quiet {quiet : List StreamTask} (all : ∀ task ∈ quiet, task.isQuiet = true) :
    m.endings (quiet ++ rest) = m.endings rest ∧
      (quiet ++ rest).filterMap StreamTask.promotes? = rest.filterMap StreamTask.promotes? := by
  induction quiet with
  | nil => exact ⟨rfl, rfl⟩
  | cons task quiet ih =>
    have isQuiet := all task List.mem_cons_self
    have others := ih fun later member => all later (List.mem_cons_of_mem _ member)
    have stops : ∀ stream, task ≠ .stop stream := by
      rintro stream rfl
      cases isQuiet
    have ends : task.ends? = none := by
      cases task <;> first | rfl | cases isQuiet
    have promotes : task.promotes? = none := by
      cases task <;> first | rfl | cases isQuiet
    refine ⟨?_, ?_⟩
    · rw [← others.1, List.cons_append, endings, endings, stopped_quiet stops,
        List.filterMap_cons_none ends]
    · rw [← others.2, List.cons_append, List.filterMap_cons_none promotes]

theorem update_length (stream : Nat) (change : Stream → Stream) :
    (m.update stream change).streams.length = m.streams.length :=
  List.length_modify _ _ _

theorem getStreamID_update (stream other : Nat) {change : Stream → Stream}
    (ids : ∀ audio, (change audio).streamID = audio.streamID) :
    (m.update stream change).getStreamID other = m.getStreamID other := by
  have same := idOf_update (m := m) stream other ids
  rw [idOf, idOf] at same
  rw [getStreamID, getStreamID, same]

theorem runs_update (stream other : Nat) (change : Stream → Stream) :
    (m.update stream change).runs other =
      if other = stream then
        m.streams[other]?.any fun audio => (change audio).audioRenderer && (change audio).isRunning
      else m.runs other := by
  rw [runs, update, List.getElem?_modify]
  by_cases same : other = stream
  · subst same
    cases m.streams[other]? <;> simp
  · rw [if_neg same, runs]
    cases m.streams[other]? <;> simp [Ne.symm same]

/-- The streams that a change lets end, or whose stop it adds. -/
def newlyStopped (m after : ParallelStreamManager) (tasks later : List StreamTask) : List Nat :=
  (List.range m.streams.length).filter fun stream =>
    (after.runs stream && later.contains (.stop stream)) &&
      !(m.runs stream && tasks.contains (.stop stream))

theorem endings_wider (length : after.streams.length = m.streams.length)
    (ids : after.getStreamID = m.getStreamID)
    (ends : later.filterMap StreamTask.ends? = tasks.filterMap StreamTask.ends?)
    (runs : ∀ stream, m.runs stream = true → after.runs stream = true)
    (stops : ∀ stream, .stop stream ∈ tasks → .stop stream ∈ later) :
    (after.endings later).Perm
      (m.endings tasks ++ (m.newlyStopped after tasks later).map m.getStreamID) := by
  have wider (stream : Nat) (both : (m.runs stream && tasks.contains (.stop stream)) = true) :
      (after.runs stream && later.contains (.stop stream)) = true := by
    rw [Bool.and_eq_true, List.contains_iff_mem] at both ⊢
    exact ⟨runs stream both.1, stops stream both.2⟩
  have stopped := filter_wider (List.range m.streams.length) wider
  rw [endings, endings, ids, ends, ParallelStreamManager.stopped, length, List.append_assoc,
    ParallelStreamManager.stopped, newlyStopped, ← List.map_append]
  exact (stopped.map _).append_left _

theorem offered_update {stream : Nat} {change : Stream → Stream} (distinct : m.playingIDs.Nodup)
    (ids : ∀ audio, (change audio).streamID = audio.streamID)
    (wider : m.runs stream = true → (m.update stream change).runs stream = true)
    (offered : Offered limit m tasks) : Offered limit (m.update stream change) tasks := by
  have runs : ∀ other, m.runs other = true → (m.update stream change).runs other = true := by
    intro other runs
    by_cases same : other = stream
    · exact same ▸ wider (same ▸ runs)
    · rw [runs_update, if_neg same]
      exact runs
  have updated : (m.update stream change).getStreamID = m.getStreamID :=
    funext fun other => getStreamID_update stream other ids
  have endings := endings_wider (update_length stream change) updated
    (rfl : tasks.filterMap StreamTask.ends? = _) runs fun _ => id
  exact offered_more distinct (Nat.le_refl _) (.refl _) endings rfl offered

theorem offered_stop (distinct : m.playingIDs.Nodup) (stream : Nat)
    (offered : Offered limit m tasks) : Offered limit m (.stop stream :: tasks) := by
  have endings : (m.endings (.stop stream :: tasks)).Perm (m.endings tasks ++
      (m.newlyStopped m tasks (.stop stream :: tasks)).map m.getStreamID) :=
    endings_wider rfl rfl rfl (fun _ => id) fun _ => List.mem_cons_of_mem _
  exact offered_more distinct (Nat.le_refl _) (.refl _) endings rfl offered

theorem endings_stop {stream : Nat} {change : Stream → Stream}
    (ids : ∀ audio, (change audio).streamID = audio.streamID)
    (silent : ∀ audio, (change audio).isRunning = false) (runs : m.runs stream = true) :
    ((m.update stream change).endings (.onPlayFinished (m.getStreamID stream) :: rest)).Perm
      (m.endings (.stop stream :: rest)) := by
  have updated : (m.update stream change).getStreamID = m.getStreamID :=
    funext fun other => getStreamID_update stream other ids
  have within : stream ∈ List.range m.streams.length := by
    rw [List.mem_range]
    by_contra beyond
    rw [ParallelStreamManager.runs, List.getElem?_eq_none (Nat.le_of_not_lt beyond)] at runs
    cases runs
  let chosen (other : Nat) : Bool :=
    m.runs other && (StreamTask.stop stream :: rest).contains (.stop other)
  have isChosen : chosen stream = true := by
    simp only [chosen]
    rw [runs, List.contains_cons, beq_self_eq_true]
    rfl
  have taken := filter_remove List.nodup_range within isChosen
  have left : (m.update stream change).stopped (.onPlayFinished (m.getStreamID stream) :: rest) =
      (List.range m.streams.length).filter fun other =>
        (m.runs other && (StreamTask.stop stream :: rest).contains (.stop other)) &&
          other != stream := by
    rw [stopped, update_length]
    refine List.filter_congr ?_
    intro other _
    rw [runs_update]
    by_cases same : other = stream
    · subst same
      cases m.streams[other]? <;> simp [silent]
    · simp [same]
  rw [endings, endings, left, updated, List.filterMap_cons_some (by rfl),
    List.filterMap_cons_none (by rfl), stopped, List.cons_append]
  refine List.perm_middle.symm.trans ?_
  exact ((taken.map m.getStreamID).symm).append_left _

end ParallelStreamManager

end PlayerFramework.SoundPool
