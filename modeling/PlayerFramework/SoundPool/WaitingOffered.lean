import PlayerFramework.SoundPool.Offers

/-!
Whether the streams that wait in the parallel stream manager are offered every slot that comes
free. The end of a stream offers its slot; a start that fails and the unloading of a stream that
has not started yet do not.
-/

namespace PlayerFramework.SoundPool

open Transition BubbleSort ParallelStreamManager

namespace ParallelStreamManager

def hasSoundData (m : ParallelStreamManager) (stream : Nat) : Bool :=
  m.streams[stream]?.any Stream.soundData

/-- What a task has to meet, with the other tasks: a start that fails gives up its slot only where
that is offered anyway, a stream is not promoted under the ID of one that is still to end, and a
stream that runs is not started again in vain. -/
def KeepsOffers (limit : Nat) (m : ParallelStreamManager) (answers : StreamAnswers)
    (rest : List StreamTask) : StreamTask → Prop
  | .playFailed streamID =>
    streamID ∈ m.playingIDs → streamID ∉ m.endings rest →
      m.waitingStream.length ≤ m.promised rest ∨ limit < m.staying rest + m.promised rest
  | .preparePlay _ =>
    ∀ front ∈ m.waitingStream.head?, front.1 ∈ m.endings rest → m.playingStream.length < limit →
        m.waitingStream.length ≤ m.promised rest + 1 ∨ limit ≤ m.staying rest + m.promised rest
  | .playStream stream _ =>
    m.isLocked stream = false → m.runs stream = true → m.hasSoundData stream = true →
      answers.started = true
  | _ => True

instance (limit : Nat) (m : ParallelStreamManager) (answers : StreamAnswers)
    (rest : List StreamTask) : (task : StreamTask) →
      Decidable (KeepsOffers limit m answers rest task)
  | .playFailed _ => inferInstanceAs (Decidable (_ → _ → _ ∨ _))
  | .preparePlay _ => inferInstanceAs (Decidable (∀ _ ∈ _, _ → _ → _ ∨ _))
  | .playStream _ _ => inferInstanceAs (Decidable (_ → _ → _ → _))
  | .doPlay _ | .stopTask _ | .stop _ | .onPlayFinished _ | .stopEnds _ => .isTrue trivial

section Tasks

variable {limit : Nat} {m : ParallelStreamManager} {tasks rest : List StreamTask}

theorem Tidy.playing_distinct (tidy : Tidy limit m) : m.playingIDs.Nodup := by
  refine List.Nodup.sublist ?_ tidy.distinct
  rw [queuedIDs, queued, List.map_append]
  exact List.sublist_append_left _ _

theorem offered_quiet {quiet : List StreamTask} (all : ∀ task ∈ quiet, task.isQuiet = true) :
    Offered limit m (quiet ++ rest) ↔ Offered limit m rest := by
  have counted := @endings_quiet m rest quiet all
  simp [Offered, staying, promised, counted.1, counted.2]

theorem offered_quiet_head {task : StreamTask} (isQuiet : task.isQuiet = true) :
    Offered limit m (task :: rest) ↔ Offered limit m rest := by
  have all : ∀ other ∈ [task], other.isQuiet = true := by
    simpa using isQuiet
  exact offered_quiet all

theorem playingIDs_erase (distinct : m.playingIDs.Nodup) (streamID : Int) :
    (m.playFailed streamID).playingIDs = m.playingIDs.filter (· != streamID) := by
  rw [← distinct.erase_eq_filter]
  simp only [playingIDs, playFailed, eraseID]
  induction m.playingStream with
  | nil => rfl
  | cons entry queue ih =>
    by_cases same : entry.1 = streamID
    · simp [same]
    · simp [same, ih]

variable {streamID : Int} {stream : Nat}

theorem offered_playFailed (tidy : Tidy limit m) (answers : StreamAnswers)
    (keeps : KeepsOffers limit m answers rest (.playFailed streamID))
    (offered : Offered limit m rest) : Offered limit (m.playFailed streamID) rest := by
  have ids := playingIDs_erase tidy.playing_distinct streamID
  have endings : (m.playFailed streamID).endings rest = m.endings rest := rfl
  have promised : (m.playFailed streamID).promised rest = m.promised rest := rfl
  have left : (m.playFailed streamID).staying rest =
      ((m.playingIDs.filter (· ∉ m.endings rest)).filter (· != streamID)).length := by
    rw [staying, ids, endings, List.filter_filter, List.filter_filter]
    simp [Bool.and_comm]
  have distinct := tidy.playing_distinct.filter (fun id => decide (id ∉ m.endings rest))
  rw [← distinct.erase_eq_filter] at left
  rw [Offered, left]
  by_cases stays : streamID ∈ m.playingIDs ∧ streamID ∉ m.endings rest
  · have member : streamID ∈ m.playingIDs.filter (· ∉ m.endings rest) :=
      List.mem_filter.mpr ⟨stays.1, decide_eq_true stays.2⟩
    rw [List.length_erase_of_mem member]
    refine (keeps stays.1 stays.2).imp_right fun room => ?_
    rw [staying] at room
    omega
  · have absent : streamID ∉ m.playingIDs.filter (· ∉ m.endings rest) := by
      intro member
      rw [List.mem_filter, decide_eq_true_eq] at member
      exact stays member
    rw [List.erase_of_not_mem absent]
    exact offered

theorem endings_promotion (waitFront : Nat) :
    m.endings (.preparePlay waitFront :: rest) = m.endings rest := by
  rw [endings, endings, List.filterMap_cons_none (by rfl), stopped_quiet (by intro stream; simp)]

theorem promised_promotion (waitFront : Nat) :
    m.promised (.preparePlay waitFront :: rest) = m.promised rest + 1 := by
  rw [promised, promised, endings_promotion, List.filterMap_cons_some (by rfl), List.length_cons]
  omega

theorem endings_end (streamID : Int) :
    m.endings (.onPlayFinished streamID :: rest) = streamID :: m.endings rest := by
  rfl

theorem onPlayFinished_manager (streamID : Int) :
    (m.onPlayFinished streamID).manager = m.playFailed streamID := by
  rw [onPlayFinished]
  split <;> rfl

theorem onPlayFinished_tasks (streamID : Int) :
    (m.onPlayFinished streamID).next = [] ∧ (m.onPlayFinished streamID).created.flatten =
      m.front?.toList.map .preparePlay := by
  rw [onPlayFinished, front?]
  cases m.waitingStream with
  | nil | cons front queue => exact ⟨rfl, rfl⟩

theorem offered_finish (tidy : Tidy limit m)
    (offered : Offered limit m (.onPlayFinished streamID :: rest)) :
    Offered limit (m.playFailed streamID) (m.front?.toList.map .preparePlay ++ rest) := by
  cases waiting : m.waitingStream with
  | nil =>
    have none : (m.playFailed streamID).waitingStream = [] := waiting
    exact offered_of_none none
  | cons front queue =>
    have chosen : m.front? = some front.2 := by
      rw [front?, waiting]
      rfl
    have ids := playingIDs_erase tidy.playing_distinct streamID
    have endings : (m.playFailed streamID).endings rest = m.endings rest := rfl
    have left : (m.playFailed streamID).staying (.preparePlay front.2 :: rest) =
        m.staying (.onPlayFinished streamID :: rest) := by
      rw [staying, ids, List.filter_filter, staying, endings_promotion, endings_end, endings]
      congr 1
      refine List.filter_congr ?_
      intro id _
      by_cases same : id = streamID
      · simp [same]
      · simp [same]
    have promised : (m.playFailed streamID).promised (.preparePlay front.2 :: rest) =
        m.promised (.onPlayFinished streamID :: rest) := by
      rw [promised_promotion]
      rfl
    rw [chosen, Option.toList_some, List.map_singleton, List.singleton_append, Offered, left,
      promised]
    exact offered

theorem playing_length (m : ParallelStreamManager) :
    m.playingIDs.length = m.playingStream.length := List.length_map _

theorem playingIDs_added :
    (m.addToPlayingDeque streamID stream).playingIDs.Perm (streamID :: m.playingIDs) :=
  (addToDeque_perm m streamID stream m.playingStream).map Prod.fst

theorem staying_added : (m.addToPlayingDeque streamID stream).staying rest =
      if streamID ∈ m.endings rest then m.staying rest else m.staying rest + 1 := by
  have endings : (m.addToPlayingDeque streamID stream).endings rest = m.endings rest := rfl
  have added := @playingIDs_added m streamID stream
  have length := (added.filter (fun id => decide (id ∉ m.endings rest))).length_eq
  rw [staying, endings, length, staying]
  by_cases ends : streamID ∈ m.endings rest
  · rw [if_pos ends, List.filter_cons_of_neg (by simpa using ends)]
  · rw [if_neg ends, List.filter_cons_of_pos (by simpa using ends), List.length_cons]

theorem length_added :
    (m.addToPlayingDeque streamID stream).playingStream.length = m.playingStream.length + 1 :=
  (addToDeque_perm m streamID stream m.playingStream).length_eq

theorem full_playOrWait {waitQueueFlag : Bool} (full : limit ≤ m.playingStream.length) :
    limit ≤ (m.playOrWait limit stream waitQueueFlag).manager.playingStream.length := by
  rw [playOrWait, if_neg (Nat.not_lt.mpr full)]
  split
  · exact full
  let popped : ParallelStreamManager :=
    { m with playingStream := m.playingStream.dropLast }
  have replaced : limit ≤
      (popped.addToPlayingDeque (m.getStreamID stream) stream).playingStream.length := by
    rw [length_added]
    simp only [popped, List.length_dropLast]
    omega
  split
  · cases waitQueueFlag with
    | false | true => exact replaced
  · split
    · exact full
    · exact full

theorem quiet_playOrWait (stream : Nat) (waitQueueFlag : Bool) :
    ∀ task ∈ (m.playOrWait limit stream waitQueueFlag).created.flatten, task.isQuiet = true := by
  rw [playOrWait]
  split
  · intro task member
    rw [List.mem_singleton.mp member]
    rfl
  · split
    · intro task member
      cases member
    split
    · intro task member
      rcases List.mem_cons.mp member with rfl | member
      · rfl
      · rw [List.mem_singleton.mp member]
        rfl
    · split
      · intro task member
        cases member
      · intro task member
        cases member

theorem next_playOrWait (stream : Nat) (waitQueueFlag : Bool) :
    (m.playOrWait limit stream waitQueueFlag).next = [] := by
  rw [playOrWait]
  split
  · rfl
  split
  · rfl
  · split
    · rfl
    · split <;> rfl

theorem offered_new (tidy : Tidy limit m) (known : m.idOf stream = some streamID)
    (fresh : streamID ∉ m.queuedIDs) (offered : Offered limit m tasks) :
    Offered limit (m.playOrWait limit stream false).manager tasks := by
  by_cases room : m.playingStream.length < limit
  · rw [playOrWait, if_pos room]
    have staying := @staying_added m tasks (m.getStreamID stream) stream
    refine offered.imp_right fun enough => ?_
    change limit ≤ (m.addToPlayingDeque (m.getStreamID stream) stream).staying tasks + _
    rw [staying]
    change limit ≤ _ + m.promised tasks
    split
    · exact enough
    · omega
  · have after := (dealt_playOrWait tidy known fresh).tidy
    exact offered_of_full after.playing_distinct (full_playOrWait (Nat.not_lt.mp room))

/-- The front of the waiting queue takes a free slot or the slot of another stream, or there is no
free one. -/
theorem offered_promote (tidy : Tidy limit m) {waitFront : Nat} (answers : StreamAnswers)
    (keeps : KeepsOffers limit m answers rest (.preparePlay waitFront))
    (offered : Offered limit m (.preparePlay waitFront :: rest)) :
    Offered limit (m.preparePlay limit waitFront true).manager rest := by
  rw [preparePlay, if_pos rfl]
  cases waiting : m.waitingStream with
  | nil => exact offered_of_none waiting
  | cons front queue =>
    rcases front with ⟨streamID, stream⟩
    have known : m.idOf stream = some streamID := by
      apply tidy.known (streamID, stream)
      rw [queued, waiting]
      exact List.mem_append_right _ List.mem_cons_self
    have dealt := (dealt_front tidy waiting).tidy
    by_cases room : m.playingStream.length < limit
    · have manager : (m.playOrWait limit stream true).manager =
          { m with waitingStream := queue }.addToPlayingDeque streamID stream := by
        rw [playOrWait, if_pos room, getStreamID_of_known known]
        exact dealQueue_front waiting
      have length : m.waitingStream.length = queue.length + 1 := by
        rw [waiting]
        rfl
      have staying := @staying_added { m with waitingStream := queue } rest streamID stream
      have kept := keeps (streamID, stream) (by rw [waiting]; rfl)
      rw [Offered, promised_promotion] at offered
      change m.waitingStream.length ≤ m.promised rest + 1 ∨
        limit ≤ m.staying rest + (m.promised rest + 1) at offered
      rw [manager, Offered, staying]
      change queue.length ≤ m.promised rest ∨
        limit ≤ (if streamID ∈ m.endings rest then m.staying rest else m.staying rest + 1) +
          m.promised rest
      split
      · rename_i ends
        have slack := kept ends room
        omega
      · omega
    · exact offered_of_full dealt.playing_distinct (full_playOrWait (Nat.not_lt.mp room))

theorem offered_idle_stop (idle : m.runs stream = false)
    (offered : Offered limit m (.stop stream :: rest)) : Offered limit m rest := by
  have endings : m.endings rest = m.endings (.stop stream :: rest) := by
    have stopped : m.stopped rest = m.stopped (.stop stream :: rest) := by
      refine List.filter_congr ?_
      intro other _
      by_cases same : other = stream
      · subst same
        simp [idle]
      · simp [same]
    rw [ParallelStreamManager.endings, ParallelStreamManager.endings, stopped,
      List.filterMap_cons_none (by rfl)]
  have same : SameCounts m m (.stop stream :: rest) rest :=
    ⟨Nat.le_refl _, .refl _, .of_eq endings, by rw [List.filterMap_cons_none (by rfl)]⟩
  exact same.offered offered

theorem offered_stops (offered : Offered limit m (.stop stream :: rest)) :
    Offered limit (m.stop stream).manager ((m.stop stream).next ++ rest) := by
  rw [stop]
  cases found : m.streams[stream]? with
  | none => exact offered_idle_stop (by rw [runs, found]; rfl) offered
  | some audio =>
    by_cases running : audio.audioRenderer = true ∧ audio.isRunning = true
    · have runs : m.runs stream = true := by
        rw [runs, found]
        simp [running]
      have id : m.getStreamID stream = audio.streamID := by
        rw [getStreamID, found]
        rfl
      dsimp only
      rw [if_pos running, ← id]
      let ended (audio : Stream) : Stream :=
        { audio with
          isRunning := false, audioRenderer := false, soundData := false, streamLock := true }
      have ends := @endings_stop m rest stream ended (fun _ => rfl) (fun _ => rfl) runs
      have same : SameCounts m (m.update stream ended) (.stop stream :: rest)
          (.onPlayFinished (m.getStreamID stream) :: rest) :=
        ⟨Nat.le_refl _, .refl _, ends, rfl⟩
      have later := same.offered offered
      have quiet : ∀ task ∈ [StreamTask.stopEnds stream], task.isQuiet = true := by
        simp [StreamTask.isQuiet]
      have swapped : SameCounts (m.update stream ended) (m.update stream ended)
          (.onPlayFinished (m.getStreamID stream) :: rest)
          (.onPlayFinished (m.getStreamID stream) :: .stopEnds stream :: rest) := by
        have counted := @endings_quiet (m.update stream ended) rest [.stopEnds stream] quiet
        refine ⟨Nat.le_refl _, .refl _, ?_, ?_⟩
        · rw [endings_end]
          exact .of_eq (congrArg _ counted.1)
        · exact congrArg List.length counted.2
      exact swapped.offered later
    · dsimp only
      rw [if_neg running]
      refine offered_idle_stop ?_ offered
      rw [runs, found]
      simpa using running

theorem update_update (m : ParallelStreamManager) (stream : Nat) (first second : Stream → Stream) :
    (m.update stream first).update stream second = m.update stream (second ∘ first) := by
  rw [update, update, update, List.modify_modify_eq]

theorem offered_playStream (tidy : Tidy limit m) {answers : StreamAnswers}
    (free : m.isLocked stream = false)
    (keeps : KeepsOffers limit m answers rest (.playStream stream streamID))
    (offered : Offered limit m rest) :
    Offered limit (m.playStream stream streamID answers).manager
      ((m.playStream stream streamID answers).next ++ rest) := by
  have failed : ∀ task ∈ [StreamTask.playFailed streamID], task.isQuiet = true := by
    simp [StreamTask.isQuiet]
  rw [playStream]
  cases found : m.streams[stream]? with
  | none => exact offered
  | some audio =>
    let prepare (audio : Stream) : Stream :=
      { audio with audioRenderer := true, priority := audio.playPriority }
    have prepared : Offered limit (m.update stream prepare) rest := by
      refine offered_update tidy.playing_distinct (fun _ => rfl) ?_ offered
      intro runs
      rw [ParallelStreamManager.runs, found] at runs
      rw [runs_update, found]
      simpa [prepare] using (Bool.and_eq_true_iff.mp runs).2
    have distinct : (m.update stream prepare).playingIDs.Nodup := tidy.playing_distinct
    dsimp only
    split
    · exact (offered_quiet failed).mpr offered
    split
    · exact (offered_quiet failed).mpr prepared
    rename_i data
    split
    · refine offered_update distinct (fun _ => rfl) ?_ prepared
      intro runs
      rw [ParallelStreamManager.runs] at runs
      rw [runs_update]
      cases known : (m.update stream prepare).streams[stream]? with
      | none =>
        rw [known] at runs
        cases runs
      | some other =>
        rw [known] at runs
        simpa using (Bool.and_eq_true_iff.mp runs).1
    · rename_i refused
      refine (offered_quiet failed).mpr ?_
      rw [update_update]
      refine offered_update tidy.playing_distinct (fun _ => rfl) ?_ offered
      intro runs
      have hasData : m.hasSoundData stream = true := by
        rw [hasSoundData, found]
        simpa using data
      exact absurd (keeps free runs hasData) refused

theorem perform_offered (tidy : Tidy limit m) (answers : StreamAnswers) (task : StreamTask)
    (free : (waitsFor task).any m.isLocked = false)
    (keeps : KeepsOffers limit m answers rest task) (offered : Offered limit m (task :: rest)) :
    Offered limit (m.perform limit answers task).manager ((m.perform limit answers task).next ++
        ((m.perform limit answers task).created.flatten ++ rest)) := by
  cases task with
  | preparePlay waitFront =>
    have promoted := offered_promote tidy answers keeps offered
    rw [perform]
    revert promoted
    rw [preparePlay, if_pos rfl]
    cases m.waitingStream with
    | nil => exact id
    | cons front queue =>
      intro promoted
      rw [next_playOrWait]
      exact (offered_quiet (quiet_playOrWait front.2 true)).mpr promoted
  | doPlay streamID =>
    have left := (offered_quiet_head rfl).mp offered
    rw [perform, doPlay]
    split
    · exact left
    · exact (offered_quiet_head rfl).mpr left
  | playStream stream streamID =>
    have left := (offered_quiet_head rfl).mp offered
    have plays := offered_playStream tidy free keeps left
    have created : (m.playStream stream streamID answers).created = [] := by
      rw [playStream]
      split
      · rfl
      split
      · rfl
      · split
        · rfl
        · split <;> rfl
    rw [perform, created]
    exact plays
  | playFailed streamID =>
    exact offered_playFailed tidy answers keeps ((offered_quiet_head rfl).mp offered)
  | stopTask stream =>
    have left := (offered_quiet_head rfl).mp offered
    rw [perform]
    cases answers.alive with
    | false => exact left
    | true => exact offered_stop tidy.playing_distinct stream left
  | stop stream =>
    have created : (m.stop stream).created = [] := by
      rw [stop]
      split
      · rfl
      · split <;> rfl
    rw [perform, created]
    exact offered_stops offered
  | onPlayFinished streamID =>
    have tasks := @onPlayFinished_tasks m streamID
    rw [perform, onPlayFinished_manager, tasks.1, tasks.2]
    exact offered_finish tidy offered
  | stopEnds stream =>
    have left := (offered_quiet_head rfl).mp offered
    refine offered_update tidy.playing_distinct (fun _ => rfl) ?_ left
    intro runs
    rw [runs_update, if_pos rfl]
    exact runs

end Tasks

section Calls

variable {limit : Nat} {m : ParallelStreamManager} {tasks : List StreamTask}

def ofSound (m : ParallelStreamManager) (soundID : Int) : List (Int × Nat) :=
  m.playingStream.filter fun entry => m.getSoundID entry.2 == soundID

/-- The slots that unloading a sound frees without an end on the way. -/
def freed (m : ParallelStreamManager) (tasks : List StreamTask) (soundID : Int) : Nat :=
  ((m.ofSound soundID).filter fun entry => decide (entry.1 ∉ m.endings tasks)).length

/-- The streams that unloading a sound brings to their end. -/
def ended (m : ParallelStreamManager) (tasks : List StreamTask) (soundID : Int) : Nat :=
  ((List.range m.streams.length).filter fun stream =>
    m.runs stream && ((m.ofSound soundID).any (fun entry => entry.2 == stream) &&
      !tasks.contains (.stop stream))).length

/-- Unloading frees a slot for which no stream ends only where that is offered anyway. -/
def KeepsUnloaded (limit : Nat) (m : ParallelStreamManager) (tasks : List StreamTask)
    (soundID : Int) : Prop :=
  (m.waitingStream.filter fun entry => m.getSoundID entry.2 != soundID).length ≤
      m.promised tasks + m.ended tasks soundID ∨
    limit + m.freed tasks soundID ≤ m.staying tasks + (m.promised tasks + m.ended tasks soundID)

instance (limit : Nat) (m : ParallelStreamManager) (tasks : List StreamTask) (soundID : Int) :
    Decidable (KeepsUnloaded limit m tasks soundID) :=
  inferInstanceAs (Decidable (_ ≤ _ ∨ _ ≤ _))

theorem unload_stops (soundID : Int) :
    (m.unloadStream soundID).2 = (m.ofSound soundID).map fun entry => .stop entry.2 := by
  simp [unloadStream, ofSound, bne]

theorem newlyStopped_unload (soundID : Int) :
    (m.newlyStopped m tasks ((m.unloadStream soundID).2 ++ tasks)).length =
      m.ended tasks soundID := by
  congr 1
  refine List.filter_congr ?_
  intro stream _
  have stops : ((m.unloadStream soundID).2 ++ tasks).contains (.stop stream) =
      ((m.ofSound soundID).any (fun entry => entry.2 == stream) ||
        tasks.contains (.stop stream)) := by
    rw [unload_stops, Bool.eq_iff_iff, List.contains_iff_mem, Bool.or_eq_true,
      List.contains_iff_mem]
    simp
  rw [stops]
  cases m.runs stream <;> cases tasks.contains (StreamTask.stop stream) <;> simp

theorem offered_unload (tidy : Tidy limit m) {soundID : Int}
    (keeps : KeepsUnloaded limit m tasks soundID) :
    Offered limit (m.unloadStream soundID).1 ((m.unloadStream soundID).2 ++ tasks) := by
  let stops := (m.unloadStream soundID).2
  let after := (m.unloadStream soundID).1
  let more := (m.newlyStopped m tasks (stops ++ tasks)).map m.getStreamID
  have quiet : stops.filterMap StreamTask.ends? = [] := by
    simp only [stops, unload_stops]
    simp [StreamTask.ends?, List.filterMap_map, Function.comp_def]
  have endings : (after.endings (stops ++ tasks)).Perm (m.endings tasks ++ more) := by
    have ends : (stops ++ tasks).filterMap StreamTask.ends? = tasks.filterMap StreamTask.ends? := by
      rw [List.filterMap_append, quiet, List.nil_append]
    exact @endings_wider m after tasks (stops ++ tasks) rfl rfl ends (fun _ => id)
      fun _ => List.mem_append_right _
  have length : more.length = m.ended tasks soundID :=
    (List.length_map _).trans (newlyStopped_unload soundID)
  have promised : after.promised (stops ++ tasks) = m.promised tasks + m.ended tasks soundID := by
    rw [ParallelStreamManager.promised, endings.length_eq, List.length_append, length,
      List.filterMap_append, show stops.filterMap StreamTask.promotes? = [] from
        ParallelPool.unload_promotes m soundID, List.nil_append, ParallelStreamManager.promised,
          Nat.add_assoc]
  -- An ID that is newly on its end is that of an entry that has gone.
  have gone : ∀ entry ∈ after.playingStream, entry.1 ∉ more := by
    intro entry member new
    rcases List.mem_map.mp new with ⟨stream, chosen, same⟩
    have both := (List.mem_filter.mp chosen).2
    have isNew : StreamTask.stop stream ∈ stops := by
      simp only [Bool.and_eq_true, Bool.not_eq_true', List.contains_iff_mem] at both
      rcases List.mem_append.mp both.1.2 with stopped | old
      · exact stopped
      · have absent := both.2
        rw [both.1.1] at absent
        rw [List.contains_iff_mem.mpr old] at absent
        cases absent
    simp only [stops, unload_stops] at isNew
    rcases List.mem_map.mp isNew with ⟨other, ofSound, isStop⟩
    cases isStop
    have otherIn := List.mem_filter.mp ofSound
    have entryIn := List.mem_filter.mp member
    have known : m.idOf other.2 = some other.1 :=
      tidy.known other (List.mem_append_left _ otherIn.1)
    rw [getStreamID_of_known known] at same
    have entries : entry = other :=
      List.inj_on_of_nodup_map tidy.playing_distinct entryIn.1 otherIn.1 same.symm
    subst entries
    have left := entryIn.2
    rw [bne, otherIn.2] at left
    cases left
  have split := (List.filter_append_perm (fun entry : Int × Nat =>
    m.getSoundID entry.2 == soundID)
      (m.playingStream.filter fun entry => decide (entry.1 ∉ m.endings tasks))).length_eq
  have stayingBefore : m.staying tasks =
      (m.playingStream.filter fun entry => decide (entry.1 ∉ m.endings tasks)).length := by
    rw [staying, playingIDs, List.filter_map, List.length_map]
    rfl
  have stayingAfter : after.staying (stops ++ tasks) =
      ((m.playingStream.filter fun entry => decide (entry.1 ∉ m.endings tasks)).filter
        fun entry => !(m.getSoundID entry.2 == soundID)).length := by
    rw [staying, playingIDs, List.filter_map, List.length_map, List.filter_filter]
    have queue : after.playingStream =
        m.playingStream.filter fun entry => m.getSoundID entry.2 != soundID := rfl
    rw [queue, List.filter_filter]
    congr 1
    refine List.filter_congr ?_
    intro entry member
    by_cases other : m.getSoundID entry.2 = soundID
    · simp [other]
    · have kept : entry ∈ after.playingStream :=
        List.mem_filter.mpr ⟨member, by simpa using other⟩
      have isOld := gone entry kept
      simp [endings.mem_iff, isOld, bne, Bool.and_comm]
  have freedNow : m.freed tasks soundID =
      ((m.playingStream.filter fun entry => decide (entry.1 ∉ m.endings tasks)).filter
        fun entry => m.getSoundID entry.2 == soundID).length := by
    rw [freed, ofSound, List.filter_filter, List.filter_filter]
    simp [Bool.and_comm]
  rw [List.length_append] at split
  change Offered limit after (stops ++ tasks)
  rw [Offered, promised]
  refine keeps.imp (fun enough => enough) fun room => ?_
  omega

theorem offered_makeStream (soundID priority streamID : Int) (soundData : Bool)
    (offered : Offered limit m tasks) :
    Offered limit (m.makeStream soundID priority streamID soundData) tasks := by
  have earlier : ∀ stream < m.streams.length,
      (m.makeStream soundID priority streamID soundData).streams[stream]? = m.streams[stream]? :=
    fun stream before => List.getElem?_append_left before
  have stopped : (m.makeStream soundID priority streamID soundData).stopped tasks =
      m.stopped tasks := by
    have length : (m.makeStream soundID priority streamID soundData).streams.length =
        m.streams.length + 1 := List.length_append
    have silent : (m.makeStream soundID priority streamID soundData).runs m.streams.length =
        false := by
      rw [runs, makeStream, List.getElem?_concat_length]
      rfl
    rw [ParallelStreamManager.stopped, length, List.range_succ, List.filter_append,
      List.filter_singleton, silent]
    simp only [Bool.false_and, cond_false, List.append_nil]
    refine List.filter_congr ?_
    intro stream within
    rw [runs, earlier stream (List.mem_range.mp within), runs]
  have endings : (m.makeStream soundID priority streamID soundData).endings tasks =
      m.endings tasks := by
    rw [ParallelStreamManager.endings, stopped]
    congr 1
    refine List.map_congr_left ?_
    intro stream member
    have within := List.mem_range.mp (List.mem_filter.mp member).1
    rw [getStreamID, earlier stream within, getStreamID]
  have same : SameCounts m (m.makeStream soundID priority streamID soundData) tasks tasks :=
    ⟨Nat.le_refl _, .refl _, .of_eq endings, rfl⟩
  exact same.offered offered

theorem offered_reorder (offered : Offered limit m tasks) :
    Offered limit m.reorderStream tasks := by
  have same : SameCounts m m.reorderStream tasks tasks :=
    ⟨Nat.le_of_eq (sort_perm _ _).length_eq, (sort_perm _ _).map _, .refl _, rfl⟩
  exact same.offered offered

end Calls

end ParallelStreamManager

def ParallelEvent.answers : ParallelEvent → StreamAnswers
  | .proceed answers => answers
  | .run _ answers => answers
  | _ => {}

def StreamCall.KeepsOffers (limit : Nat) (m : ParallelStreamManager) (tasks : List StreamTask) :
    StreamCall → Prop
  | .unload soundID => m.KeepsUnloaded limit tasks soundID
  | _ => True

instance (limit : Nat) (m : ParallelStreamManager) (tasks : List StreamTask) :
    (call : StreamCall) → Decidable (call.KeepsOffers limit m tasks)
  | .unload soundID => inferInstanceAs (Decidable (m.KeepsUnloaded limit tasks soundID))
  | .play _ _ | .preparePlay _ | .stop _ | .setPriority _ _ | .prioritise _ _ | .reorderStream
  | .stopping _ => .isTrue trivial

namespace ParallelPool

/-- What a step has to meet, so that every slot that comes free is offered. -/
def KeepsOffers (limit : Nat) (s : ParallelPool) (event : ParallelEvent) : Prop :=
  (∀ task ∈ s.nextTask? event,
    s.manager.KeepsOffers limit event.answers (s.tasks.erase task) task) ∧
  ∀ call ∈ s.nextCall? event, call.KeepsOffers limit s.manager s.tasks

instance (limit : Nat) (s : ParallelPool) (event : ParallelEvent) :
    Decidable (KeepsOffers limit s event) :=
  inferInstanceAs (Decidable ((∀ _ ∈ _, _) ∧ ∀ _ ∈ _, _))

/-- A task that is on the way and leads to a promotion: the promotion itself, an end, or the stop
of a stream that runs. -/
def WillPromote (s : ParallelPool) (task : StreamTask) : Prop :=
  task ∈ s.tasks ∧
    match task with
    | .preparePlay _ | .onPlayFinished _ => True
    | .stop stream => s.manager.runs stream = true
    | _ => False

/-- No waiting stream is stranded: the playing queue is full, or a task on the way promotes one;
and the promotions on the way cover the waiting streams or the slots that are or come free. -/
structure NoneStranded (limit : Nat) (s : ParallelPool) : Prop where
  served : s.manager.waitingStream ≠ [] →
    s.manager.playingStream.length = limit ∨ ∃ task, s.WillPromote task
  offered : s.manager.Offered limit s.tasks

section Steps

variable {limit : Nat} {s after : ParallelPool}

theorem offered_tasks {tasks later : List StreamTask} {m : ParallelStreamManager}
    (same : tasks.Perm later) (offered : m.Offered limit tasks) : m.Offered limit later := by
  have counts : SameCounts m m tasks later :=
    ⟨Nat.le_refl _, .refl _, endings_perm same.symm, (same.filterMap _).symm.length_eq⟩
  exact counts.offered offered

theorem offered_task (tidy : Tidy limit s.manager) {task : StreamTask} (answers : StreamAnswers)
    (member : task ∈ s.tasks) (free : (waitsFor task).any s.manager.isLocked = false)
    (keeps : s.manager.KeepsOffers limit answers (s.tasks.erase task) task)
    (moved : (task :: after.tasks).Perm (s.tasks ++ ((s.manager.perform limit answers task).next ++
        (s.manager.perform limit answers task).created.flatten)))
    (manager : after.manager = (s.manager.perform limit answers task).manager)
    (offered : s.manager.Offered limit s.tasks) : after.manager.Offered limit after.tasks := by
  have taken := List.perm_cons_erase member
  have performed := perform_offered tidy answers task free keeps (offered_tasks taken offered)
  rw [manager]
  refine offered_tasks ?_ performed
  have whole := moved.trans (taken.append_right _)
  rw [List.cons_append, List.perm_cons] at whole
  rw [← List.append_assoc]
  exact List.perm_append_comm.trans whole.symm

theorem tasks_call {call : Option StreamCall} {created : List (List StreamTask)}
    (calls : after.call = call) (threads : after.threads = s.threads ++ created)
    (before : callTasks s.call = []) :
    after.tasks = callTasks call ++ (s.tasks ++ created.flatten) := by
  rw [tasks, tasks, calls, threads, before, List.flatten_append, List.nil_append]

theorem offered_preparePlay (ordered : Ordered limit False s) {stream : Nat}
    (call : s.call = some (.preparePlay stream)) (answers : StreamAnswers)
    (offered : s.manager.Offered limit s.tasks) :
    (s.proceed limit answers).manager.Offered limit (s.proceed limit answers).tasks := by
  obtain ⟨streamID, known, fresh⟩ := ordered.fresh stream call
  have prepared := offered_new ordered.tidy known fresh offered
  have quiet := @quiet_playOrWait limit s.manager stream false
  have added : (s.proceed limit answers).tasks = callTasks none ++
        (s.tasks ++ (s.manager.playOrWait limit stream false).created.flatten) := by
    refine tasks_call ?_ ?_ ?_
    · simp [proceed, call]
    · simp [proceed, call, preparePlay]
    · simp [call, callTasks]
  have manager : (s.proceed limit answers).manager =
      (s.manager.playOrWait limit stream false).manager := by
    simp [proceed, call, preparePlay]
  have none : callTasks none = [] := rfl
  rw [added, manager, none, List.nil_append]
  exact offered_tasks List.perm_append_comm ((offered_quiet quiet).mpr prepared)

theorem offered_stage {m : ParallelStreamManager} {call : Option StreamCall}
    (before : callTasks s.call = []) (offered : m.Offered limit (callTasks call ++ s.tasks)) :
    m.Offered limit { s with manager := m, call }.tasks := by
  have same : s.tasks = s.threads.flatten := by
    rw [tasks, before, List.nil_append]
  rw [same] at offered
  exact offered

theorem offered_proceed (ordered : Ordered limit False s) (answers : StreamAnswers)
    (keeps : KeepsOffers limit s (.proceed answers)) (offered : s.manager.Offered limit s.tasks) :
    (s.proceed limit answers).manager.Offered limit (s.proceed limit answers).tasks := by
  have distinct := ordered.tidy.playing_distinct
  cases call : s.call with
  | none =>
    simp only [proceed, call]
    exact offered
  | some stage =>
    have kept : stage.KeepsOffers limit s.manager s.tasks :=
      keeps.2 stage (by simp [nextCall?, call])
    cases stage with
    | play soundID priority =>
      have before : callTasks s.call = [] := by
        rw [call]
        rfl
      simp only [proceed, call]
      split
      · exact offered
      have made := @offered_makeStream limit s.manager s.tasks
      cases answers.callback with
      | false | true =>
        refine offered_stage before ?_
        exact made soundID priority _ answers.soundData offered
    | preparePlay stream => exact offered_preparePlay ordered call answers offered
    | stop streamID =>
      have before : callTasks s.call = [] := by
        rw [call]
        rfl
      simp only [proceed, call]
      refine offered_stage before ?_
      cases s.manager.findStream streamID with
      | none => exact offered
      | some stream => exact offered_stop distinct stream offered
    | setPriority streamID priority =>
      have before : callTasks s.call = [] := by
        rw [call]
        rfl
      simp only [proceed, call]
      refine offered_stage before ?_
      cases s.manager.findStream streamID with
      | none | some stream => exact offered
    | prioritise stream priority =>
      have before : callTasks s.call = [] := by
        rw [call]
        rfl
      simp only [proceed, call]
      split
      · exact offered
      refine offered_stage before ?_
      refine offered_update distinct (fun _ => rfl) ?_ offered
      intro runs
      rw [runs_update, if_pos rfl]
      exact runs
    | reorderStream =>
      have before : callTasks s.call = [] := by
        rw [call]
        rfl
      simp only [proceed, call]
      exact offered_stage before (offered_reorder offered)
    | unload soundID =>
      have before : callTasks s.call = [] := by
        rw [call]
        rfl
      simp only [proceed, call]
      refine offered_stage before ?_
      rw [callTasks_stopping]
      exact offered_unload ordered.tidy kept
    | stopping tasks =>
      cases tasks with
      | nil =>
        have before : callTasks s.call = [] := by
          rw [call]
          rfl
        simp only [proceed, call]
        exact offered_stage before offered
      | cons task rest =>
        have next : s.nextTask? (.proceed answers) = some task := by
          simp [nextTask?, call]
        simp only [proceed, call]
        split
        · exact offered
        rename_i free
        refine offered_task ordered.tidy answers (nextTask?_mem next) ?_
          (keeps.1 task next) ?_ rfl offered
        · exact Bool.not_eq_true _ ▸ free
        · exact tasks_stopping call (s.manager.perform limit answers task) rfl rfl

theorem offered_runThread (ordered : Ordered limit False s) (thread : Nat)
    (answers : StreamAnswers) (keeps : KeepsOffers limit s (.run thread answers))
    (offered : s.manager.Offered limit s.tasks) :
    (s.runThread limit thread answers).manager.Offered limit
      (s.runThread limit thread answers).tasks := by
  rw [runThread]
  split
  · exact offered
  rename_i task ready
  have next : s.nextTask? (.run thread answers) = some task := ready
  split
  · exact offered
  rename_i free
  refine offered_task ordered.tidy answers (nextTask?_mem next) ?_ (keeps.1 task next) ?_ rfl
    offered
  · exact Bool.not_eq_true _ ▸ free
  · exact tasks_run ready (s.manager.perform limit answers task) rfl rfl

theorem offered_stopTask (ordered : Ordered limit False s) (stream : Nat)
    (offered : s.manager.Offered limit s.tasks) :
    (s.interrupted stream).manager.Offered limit (s.interrupted stream).tasks := by
  have distinct := ordered.tidy.playing_distinct
  have marked : (s.manager.addStopTask stream).Offered limit s.tasks := by
    refine offered_update distinct (fun _ => rfl) ?_ offered
    intro runs
    rw [runs_update, if_pos rfl]
    exact runs
  have added : (s.interrupted stream).tasks = s.tasks ++ [StreamTask.stopTask stream] := by
    simp [interrupted, tasks]
  rw [added]
  exact offered_tasks List.perm_append_comm ((offered_quiet_head rfl).mpr marked)

theorem step_offered (ordered : Ordered limit False s) {event : ParallelEvent}
    (keeps : KeepsOffers limit s event) (offered : s.manager.Offered limit s.tasks) :
    (s.next limit event).manager.Offered limit (s.next limit event).tasks := by
  rw [next.eq_def]
  split
  · exact offered
  cases event with
  | call call =>
    simp only
    split
    · rename_i free
      have none : callTasks (some call) = [] := by
        have entry := free.2
        cases call <;> simp [StreamCall.isEntry, callTasks] at entry ⊢
      have before : callTasks s.call = [] := by
        rw [free.1]
        rfl
      refine offered_stage before ?_
      rw [none]
      exact offered
    · exact offered
  | proceed answers => exact offered_proceed ordered answers keeps offered
  | writeFinished stream =>
    simp only [writeFinished]
    split
    · exact offered_stopTask ordered stream offered
    · exact offered
  | interrupted stream => exact offered_stopTask ordered stream offered
  | run thread answers => exact offered_runThread ordered thread answers keeps offered

/-- The queues stay tidy without a promise: a promotion that finds no stream changes nothing. -/
theorem ordered_next (ordered : Ordered limit False s) (event : ParallelEvent) :
    Ordered limit False (s.next limit event) := by
  by_cases keeps : Keeps False s event
  · exact step_ordered ordered keeps
  have found : ∃ task, s.nextTask? event = some task ∧ ¬ FindsFront s.manager task := by
    by_contra none
    refine keeps fun task taken => ⟨?_, False.elim⟩
    by_contra misses
    exact none ⟨task, taken, misses⟩
  obtain ⟨task, taken, misses⟩ := found
  cases task with
  | preparePlay waitFront =>
    have waiting : s.manager.waitingStream = [] := not_not.mp misses
    have same : s.manager.perform limit event.answers (.preparePlay waitFront) =
        { manager := s.manager, undefined := true } := by
      rw [perform, preparePlay, if_pos rfl, waiting]
    rw [next.eq_def]
    split
    · exact ordered
    cases event with
    | run thread answers =>
      have ready : Threads.next? s.threads thread = some (.preparePlay waitFront) := taken
      simp only [ParallelEvent.answers] at same
      simp only [runThread, ready, waitsFor, Option.any_none, Bool.false_eq_true,
        if_false, same]
      exact ordered.done (Done.refl ordered.tidy) rfl
    | proceed answers =>
      simp only [nextTask?] at taken
      split at taken
      · rename_i first rest call
        cases taken
        simp only [ParallelEvent.answers] at same
        simp only [proceed, call, waitsFor, Option.any_none, Bool.false_eq_true, if_false, same]
        exact ordered.goesOn (by simp [call]) (Done.refl ordered.tidy)
          (stopping_ne_preparePlay _)
      · cases taken
    | call call | writeFinished stream | interrupted stream => cases taken
  | _ => exact absurd trivial misses

theorem willPromote_of_promised (some : 0 < s.manager.promised s.tasks) :
    ∃ task, s.WillPromote task := by
  rw [promised, endings] at some
  by_cases promotes : s.tasks.filterMap StreamTask.promotes? = []
  · by_cases ends : s.tasks.filterMap StreamTask.ends? = []
    · have stops : s.manager.stopped s.tasks ≠ [] := by
        intro none
        rw [promotes, ends, none] at some
        cases some
      rcases List.exists_mem_of_ne_nil _ stops with ⟨stream, member⟩
      have both := (List.mem_filter.mp member).2
      rw [Bool.and_eq_true, List.contains_iff_mem] at both
      exact ⟨.stop stream, both.2, both.1⟩
    · rcases List.exists_mem_of_ne_nil _ ends with ⟨streamID, member⟩
      rcases List.mem_filterMap.mp member with ⟨task, member, isEnd⟩
      cases task with
      | onPlayFinished streamID => exact ⟨_, member, trivial⟩
      | _ => cases isEnd
  · rcases List.exists_mem_of_ne_nil _ promotes with ⟨stream, member⟩
    rcases List.mem_filterMap.mp member with ⟨task, member, isPromotion⟩
    cases task with
    | preparePlay waitFront => exact ⟨_, member, trivial⟩
    | _ => cases isPromotion

theorem noneStranded_of_offered (ordered : Ordered limit False s)
    (offered : s.manager.Offered limit s.tasks) : NoneStranded limit s where
  served := by
    intro waiting
    by_cases none : s.manager.promised s.tasks = 0
    · left
      have capacity := ordered.tidy.capacity
      have some := List.length_pos_iff.mpr waiting
      have within : s.manager.staying s.tasks ≤ s.manager.playingStream.length := by
        rw [← playing_length]
        exact List.length_filter_le _ _
      rcases offered with enough | full
      · omega
      · omega
    · exact .inr (willPromote_of_promised (Nat.pos_of_ne_zero none))
  offered := offered

end Steps

/-- In every state of a run whose steps offer what they free, no waiting stream is stranded. -/
theorem none_stranded (maxStreams : Int) (events : List ParallelEvent)
    (keeps : Along (next (initThreadPool maxStreams)) (KeepsOffers (initThreadPool maxStreams)) {}
      events) :
    NoneStranded (initThreadPool maxStreams) (reachedParallel maxStreams events) := by
  have kept : Ordered (initThreadPool maxStreams) False (reachedParallel maxStreams events) ∧
      (reachedParallel maxStreams events).manager.Offered (initThreadPool maxStreams)
        (reachedParallel maxStreams events).tasks := by
    apply invariant_of_along (fun s => Ordered (initThreadPool maxStreams) False s ∧
      s.manager.Offered (initThreadPool maxStreams) s.tasks) _ keeps
    · exact ⟨ordered_start _ _, .inl (Nat.le_refl 0)⟩
    · intro s event ⟨ordered, offered⟩ keeps
      exact ⟨ordered_next ordered event, step_offered ordered keeps offered⟩
  exact noneStranded_of_offered kept.1 kept.2

theorem in_place_offered : NoneStranded 2 (reachedParallel 2 (playInPlace.take 20)) :=
  none_stranded 2 (playInPlace.take 20) (by decide +kernel)

/-- One stream plays and another one waits; the start of the first one fails. -/
def startFails : List ParallelEvent :=
  [.call (.play 1 2), .proceed {}, .proceed {}, .call (.play 2 1), .proceed {}, .proceed {},
    .run 0 {}, .run 0 { created := false }, .run 0 {}]

/-- The slot is free, nothing is on the way, and the other stream still waits. -/
theorem failed_start_strands : (reachedParallel 1 startFails).manager.waitingStream = [(2, 1)] ∧
      (reachedParallel 1 startFails).manager.playingStream = [] ∧
      (reachedParallel 1 startFails).tasks = [] ∧
      ¬ NoneStranded 1 (reachedParallel 1 startFails) := by
  have waiting : (reachedParallel 1 startFails).manager.waitingStream = [(2, 1)] := by
    decide +kernel
  have none : (reachedParallel 1 startFails).tasks = [] := by decide +kernel
  refine ⟨waiting, by decide +kernel, none, ?_⟩
  intro stranded
  rcases stranded.served (by rw [waiting]; exact List.cons_ne_nil _ _) with full | ⟨task, member, _⟩
  · revert full
    decide +kernel
  · rw [none] at member
    cases member

end ParallelPool

end PlayerFramework.SoundPool
