import PlayerFramework.SoundPool.ParallelOrder

/-!
The promotion of waiting streams by the parallel stream manager.  `OnPlayFinished` chooses the
front of the waiting queue in one section, and `PreparePlay` takes it from there in another.
-/

namespace PlayerFramework.SoundPool

open Transition BubbleSort ParallelStreamManager

def StreamTask.promotes? : StreamTask → Option Nat
  | .preparePlay waitFront => some waitFront
  | _ => none

def StreamTask.finishes : StreamTask → Bool
  | .onPlayFinished _ => true
  | _ => false

namespace ParallelStreamManager

/-- A new stream is played without waiting. -/
def PlaysAtOnce (limit : Nat) (m : ParallelStreamManager) (stream : Nat) : Prop :=
  m.playingStream.length < limit ∨
    ∀ last ∈ m.playingStream.getLast?, m.priorityOf last ≤ m.getPriority stream

/-- The call leaves the front of the waiting queue where it is: it puts no stream before it,
does not unload its sound, and does not sort another one before it. -/
def KeepsFront (limit : Nat) (m : ParallelStreamManager) : StreamCall → Prop
  | .preparePlay stream =>
    m.PlaysAtOnce limit stream ∨
      ∀ front ∈ m.waitingStream.head?, m.getPriority stream < m.priorityOf front
  | .unload soundID => ∀ front ∈ m.waitingStream.head?, m.getSoundID front.2 ≠ soundID
  | .reorderStream =>
    ∀ front ∈ m.waitingStream.head?, ∀ other ∈ m.waitingStream,
      m.priorityOf other ≤ m.priorityOf front
  | _ => True

instance (limit : Nat) (m : ParallelStreamManager) (stream : Nat) :
    Decidable (m.PlaysAtOnce limit stream) :=
  inferInstanceAs (Decidable (_ ∨ ∀ last ∈ m.playingStream.getLast?, _))

instance (limit : Nat) (m : ParallelStreamManager) :
    (call : StreamCall) → Decidable (m.KeepsFront limit call)
  | .preparePlay _ => inferInstanceAs (Decidable (_ ∨ ∀ _ ∈ _, _))
  | .unload _ => inferInstanceAs (Decidable (∀ _ ∈ _, _))
  | .reorderStream => inferInstanceAs (Decidable (∀ _ ∈ _, ∀ _ ∈ _, _))
  | .play _ _ | .stop _ | .setPriority _ _ | .prioritise _ _ | .stopping _ => .isTrue trivial

def front? (m : ParallelStreamManager) : Option Nat := m.waitingStream.head?.map Prod.snd

end ParallelStreamManager

namespace ParallelPool

def callTasks : Option StreamCall → List StreamTask
  | some (.stopping tasks) => tasks
  | _ => []

/-- What is still to be done, by the call that stops streams and by the threads. -/
def tasks (s : ParallelPool) : List StreamTask := callTasks s.call ++ s.threads.flatten

/-- The streams chosen that have still to be promoted. -/
def promotions (s : ParallelPool) : List Nat := s.tasks.filterMap StreamTask.promotes?

/-- The stage of the call that holds `soundPoolLock_`, where the event takes it on. -/
def nextCall? (s : ParallelPool) : ParallelEvent → Option StreamCall
  | .proceed _ => s.call
  | _ => none

/-- While a stream is to be promoted, no other one finishes, and the front of the waiting queue
stays. -/
def Undisturbed (limit : Nat) (s : ParallelPool) (event : ParallelEvent) : Prop :=
  s.promotions ≠ [] → (∀ task ∈ s.nextTask? event, task.finishes = false) ∧
      ∀ call ∈ s.nextCall? event, s.manager.KeepsFront limit call

instance (limit : Nat) (s : ParallelPool) (event : ParallelEvent) :
    Decidable (Undisturbed limit s event) :=
  inferInstanceAs (Decidable (_ → (∀ _ ∈ _, _) ∧ ∀ _ ∈ _, _))

/-- A stream that is promoted is the one at the front of the waiting queue, which loses no
other one. -/
structure PromotesFront (limit : Nat) (s : ParallelPool) : Prop where
  defined : s.undefined = false
  front : ∀ event stream, s.nextTask? event = some (.preparePlay stream) →
    ∃ streamID rest, s.manager.waitingStream = (streamID, stream) :: rest ∧
      ((s.next limit event).manager.waitingStream = s.manager.waitingStream ∨
        (s.next limit event).manager.waitingStream = rest) ∧
      (s.next limit event).undefined = false

/-- What an undisturbed step keeps: one promotion at a time, of the front. -/
structure Promoting (s : ParallelPool) : Prop where
  defined : s.undefined = false
  single : s.promotions.length ≤ 1
  chosen : ∀ stream ∈ s.promotions, s.manager.front? = some stream

end ParallelPool

section Tasks

variable {limit : Nat} {m : ParallelStreamManager} {answers : StreamAnswers}

theorem initThreadPool_pos (maxStreams : Int) : 0 < initThreadPool maxStreams := by
  have positive (value : Int) :
      0 < (if value < minPlayStreamsNumber then minPlayStreamsNumber else value).toNat := by
    by_cases low : value < minPlayStreamsNumber
    · rw [if_pos low]
      decide
    · simp only [minPlayStreamsNumber] at low
      omega
  exact positive _

theorem perform_waiting {task : StreamTask} (other : task.promotes? = none) :
    (m.perform limit answers task).manager.waitingStream = m.waitingStream ∧
      (m.perform limit answers task).undefined = false := by
  cases task with
  | preparePlay waitFront => cases other
  | doPlay streamID =>
    rw [perform, doPlay]
    split <;> exact ⟨rfl, rfl⟩
  | playStream stream streamID =>
    rw [perform, playStream]
    split
    · exact ⟨rfl, rfl⟩
    split
    · exact ⟨rfl, rfl⟩
    · split
      · exact ⟨rfl, rfl⟩
      · split <;> exact ⟨rfl, rfl⟩
  | playFailed streamID | stopTask stream => exact ⟨rfl, rfl⟩
  | stop stream =>
    rw [perform, stop]
    split
    · exact ⟨rfl, rfl⟩
    · split <;> exact ⟨rfl, rfl⟩
  | onPlayFinished streamID =>
    rw [perform, onPlayFinished]
    split <;> exact ⟨rfl, rfl⟩
  | stopEnds stream => exact ⟨rfl, rfl⟩

theorem perform_promotes (task : StreamTask) : ((m.perform limit answers task).next ++
        (m.perform limit answers task).created.flatten).filterMap StreamTask.promotes? =
      if task.finishes then m.front?.toList else [] := by
  cases task with
  | preparePlay waitFront =>
    rw [perform, preparePlay, if_pos rfl]
    split
    · rfl
    rw [playOrWait]
    split
    · rfl
    split
    · rfl
    · split
      · rfl
      · rfl
  | doPlay streamID =>
    rw [perform, doPlay]
    split <;> rfl
  | playStream stream streamID =>
    rw [perform, playStream]
    split
    · rfl
    split
    · rfl
    · split
      · rfl
      · split <;> rfl
  | playFailed streamID => rfl
  | stopTask stream =>
    rw [perform]
    split <;> rfl
  | stop stream =>
    rw [perform, stop]
    split
    · rfl
    · split <;> rfl
  | onPlayFinished streamID =>
    rw [perform, onPlayFinished]
    cases waiting : m.waitingStream with
    | nil => simp [StreamTask.finishes, front?, waiting]
    | cons entry rest => simp [StreamTask.finishes, front?, waiting, StreamTask.promotes?]
  | stopEnds stream => rfl

theorem promote_waiting {streamID : Int} {stream : Nat} {rest : List (Int × Nat)}
    (tidy : Tidy limit m) (positive : 0 < limit)
    (front : m.waitingStream = (streamID, stream) :: rest) (waitFront : Nat) :
    ((m.preparePlay limit waitFront true).manager.waitingStream = m.waitingStream ∨
        (m.preparePlay limit waitFront true).manager.waitingStream = rest) ∧
      (m.preparePlay limit waitFront true).undefined = false := by
  have known : m.idOf stream = some streamID := by
    apply tidy.known (streamID, stream)
    rw [queued, front]
    exact List.mem_append_right _ List.mem_cons_self
  have erased : eraseID streamID m.waitingStream = rest := by
    rw [eraseID, front, List.eraseP_cons_of_pos (by simp)]
  rw [preparePlay, if_pos rfl, front]
  simp only [playOrWait, getStreamID_of_known known]
  split
  · exact ⟨.inr erased, rfl⟩
  rename_i full
  split
  · rename_i none
    rw [List.getLast?_eq_none_iff.mp none] at full
    exact absurd positive full
  · split
    · exact ⟨.inr erased, rfl⟩
    · exact ⟨.inl front, rfl⟩

end Tasks

section Calls

variable {limit : Nat} {m : ParallelStreamManager}

variable {stream : Nat}

theorem front?_eq (front : m.front? = some stream) :
    ∃ streamID rest, m.waitingStream = (streamID, stream) :: rest := by
  rw [front?] at front
  cases waiting : m.waitingStream with
  | nil => simp [waiting] at front
  | cons entry rest =>
    have same : entry.2 = stream := by simpa [waiting] using front
    exact ⟨entry.1, rest, by rw [← same]⟩

theorem addToDeque_front {other : Nat} {front : Int × Nat} (rest : List (Int × Nat)) (fresh : Int)
    (lower : m.getPriority other < m.priorityOf front) :
    ∃ later, m.addToDeque fresh other (front :: rest) = front :: later := by
  have behind : ¬ m.priorityOf front ≤ m.priorityOf (fresh, other) := not_le.mpr lower
  rw [addToDeque_eq, List.orderedInsert_cons, if_neg behind]
  exact ⟨_, rfl⟩

theorem front?_preparePlay {other : Nat} (front : m.front? = some stream)
    (keeps : m.KeepsFront limit (.preparePlay other)) :
    (m.preparePlay limit other false).manager.front? = some stream := by
  obtain ⟨streamID, rest, waiting⟩ := front?_eq front
  rw [preparePlay, if_neg Bool.false_ne_true, playOrWait]
  split
  · exact front
  rename_i full
  split
  · exact front
  rename_i lastPlay present
  split
  · exact front
  rename_i lower
  rcases keeps with (room | atMost) | behind
  · exact absurd room full
  · exact absurd (atMost _ present) lower
  · obtain ⟨later, added⟩ := addToDeque_front rest (m.getStreamID other)
      (behind (streamID, stream) (by rw [waiting]; rfl))
    simp [addToWaitingDeque, front?, waiting, added]

theorem front?_unload {soundID : Int} (front : m.front? = some stream)
    (keeps : m.KeepsFront limit (.unload soundID)) :
    (m.unloadStream soundID).1.front? = some stream := by
  obtain ⟨streamID, rest, waiting⟩ := front?_eq front
  have other : m.getSoundID stream ≠ soundID := keeps (streamID, stream) (by rw [waiting]; rfl)
  simp [unloadStream, front?, waiting, other]

theorem front?_reorder (front : m.front? = some stream)
    (keeps : m.KeepsFront limit .reorderStream) :
    m.reorderStream.front? = some stream := by
  obtain ⟨streamID, rest, waiting⟩ := front?_eq front
  have highest : ∀ other ∈ rest, lowerKey m.priorityOf (streamID, stream) other = false := by
    intro other member
    have atMost : m.priorityOf other ≤ m.priorityOf (streamID, stream) :=
      keeps (streamID, stream) (by rw [waiting]; rfl) other
        (by rw [waiting]; exact List.mem_cons_of_mem _ member)
    exact decide_eq_false (not_lt.mpr atMost)
  obtain ⟨later, sorted, _⟩ := sort_head (lowerKey m.priorityOf) highest
  have same : m.reorderStream.waitingStream = (streamID, stream) :: later := by
    rw [← sorted, ← waiting]
    rfl
  rw [front?, same]
  rfl

end Calls

namespace ParallelPool

section Steps

variable {limit : Nat} {s after : ParallelPool}

theorem callTasks_stopping (tasks : List StreamTask) : callTasks (stopping tasks) = tasks := by
  rw [stopping]
  split
  · rename_i none
    rw [none]
    rfl
  · rfl

variable {task : StreamTask} {event : ParallelEvent}

theorem tasks_run {thread : Nat} (ready : Threads.next? s.threads thread = some task)
    (outcome : StreamOutcome) (call : after.call = s.call)
    (threads : after.threads = Threads.proceed s.threads thread outcome.next outcome.created) :
    (task :: after.tasks).Perm (s.tasks ++ (outcome.next ++ outcome.created.flatten)) := by
  have moved := (Threads.proceed_perm ready outcome.next outcome.created).append_left
    (callTasks s.call)
  rw [tasks, tasks, call, threads, List.append_assoc]
  exact List.perm_middle.symm.trans moved

theorem tasks_stopping {rest : List StreamTask} (taken : s.call = some (.stopping (task :: rest)))
    (outcome : StreamOutcome) (call : after.call = stopping (outcome.next ++ rest))
    (threads : after.threads = s.threads ++ outcome.created) :
    (task :: after.tasks).Perm (s.tasks ++ (outcome.next ++ outcome.created.flatten)) := by
  rw [tasks, tasks, call, taken, threads, callTasks_stopping, List.flatten_append, callTasks,
    List.cons_append, List.cons_append, List.perm_cons]
  calc (outcome.next ++ rest ++ (s.threads.flatten ++ outcome.created.flatten)).Perm
        (rest ++ outcome.next ++ (s.threads.flatten ++ outcome.created.flatten)) :=
      List.perm_append_comm.append_right _
    _ |>.Perm (rest ++ (s.threads.flatten ++ (outcome.next ++ outcome.created.flatten))) := by
      rw [List.append_assoc]
      apply List.Perm.append_left
      rw [← List.append_assoc, ← List.append_assoc]
      exact List.perm_append_comm.append_right _
    _ = rest ++ s.threads.flatten ++ (outcome.next ++ outcome.created.flatten) := by
      rw [List.append_assoc]

theorem promoting_task (promoting : Promoting s) (tidy : Tidy limit s.manager)
    (positive : 0 < limit) (task : StreamTask) (answers : StreamAnswers)
    (moved : (task :: after.tasks).Perm (s.tasks ++ ((s.manager.perform limit answers task).next ++
        (s.manager.perform limit answers task).created.flatten)))
    (manager : after.manager = (s.manager.perform limit answers task).manager)
    (undefined : after.undefined = (s.manager.perform limit answers task).undefined)
    (alone : s.promotions ≠ [] → task.finishes = false) : Promoting after := by
  have counted := moved.filterMap StreamTask.promotes?
  rw [List.filterMap_append, perform_promotes] at counted
  cases chosen : task.promotes? with
  | some stream =>
    obtain ⟨waitFront, rfl⟩ : ∃ waitFront, task = .preparePlay waitFront := by
      cases task <;> simp [StreamTask.promotes?] at chosen ⊢
    have plain : (StreamTask.preparePlay waitFront).finishes = false := rfl
    rw [List.filterMap_cons_some chosen, plain, if_neg Bool.false_ne_true,
      List.append_nil] at counted
    have front := promoting.chosen stream (counted.subset List.mem_cons_self)
    obtain ⟨streamID, rest, waiting⟩ := front?_eq front
    have length := counted.length_eq
    have single := promoting.single
    have none : after.promotions = [] := by
      rw [List.length_cons] at length
      exact List.length_eq_zero_iff.mp (by simp only [promotions] at single ⊢; omega)
    exact ⟨undefined ▸ (promote_waiting tidy positive waiting waitFront).2, by simp [none],
      by simp [none]⟩
  | none =>
    obtain ⟨waiting, defined⟩ := @perform_waiting limit s.manager answers task chosen
    rw [List.filterMap_cons_none chosen] at counted
    have front : after.manager.front? = s.manager.front? := by
      rw [front?, front?, manager, waiting]
    refine ⟨undefined ▸ defined, ?_, ?_⟩
    · by_cases finishes : task.finishes = true
      · have free : s.promotions = [] := by
          by_contra busy
          rw [alone busy] at finishes
          cases finishes
        have length := counted.length_eq
        rw [if_pos finishes, show s.tasks.filterMap StreamTask.promotes? = [] from free,
          List.nil_append] at length
        rw [promotions, length]
        cases s.manager.front? <;> simp
      · have length := counted.length_eq
        rw [if_neg finishes, List.append_nil] at length
        exact Nat.le_trans (Nat.le_of_eq length) promoting.single
    · intro stream member
      rw [front]
      rcases List.mem_append.mp (counted.subset member) with old | new
      · exact promoting.chosen stream old
      · split at new
        · exact Option.mem_toList.mp new
        · cases new

/-- A step that takes no task and leaves the front of the waiting queue. -/
theorem Promoting.goesOn (promoting : Promoting s) (tasks : after.promotions = s.promotions)
    (undefined : after.undefined = s.undefined)
    (front : ∀ stream, s.promotions ≠ [] → s.manager.front? = some stream →
      after.manager.front? = some stream) : Promoting after where
  defined := undefined.trans promoting.defined
  single := tasks ▸ promoting.single
  chosen := by
    rw [tasks]
    intro stream member
    exact front stream (List.ne_nil_of_mem member) (promoting.chosen stream member)

theorem promotions_created {call : Option StreamCall} {created : List (List StreamTask)}
    (calls : after.call = call) (threads : after.threads = s.threads ++ created)
    (same : (callTasks call).filterMap StreamTask.promotes? =
      (callTasks s.call).filterMap StreamTask.promotes?)
    (none : created.flatten.filterMap StreamTask.promotes? = []) :
    after.promotions = s.promotions := by
  rw [promotions, promotions, tasks, tasks, calls, threads, List.flatten_append,
    List.filterMap_append, List.filterMap_append, List.filterMap_append, same, none,
    List.append_nil]

theorem preparePlay_created (m : ParallelStreamManager) (stream : Nat) :
    (m.preparePlay limit stream false).created.flatten.filterMap StreamTask.promotes? = [] := by
  rw [preparePlay, if_neg Bool.false_ne_true, playOrWait]
  split
  · rfl
  split
  · rfl
  · split
    · rfl
    · rfl

theorem preparePlay_defined (m : ParallelStreamManager) (positive : 0 < limit) (stream : Nat) :
    (m.preparePlay limit stream false).undefined = false := by
  rw [preparePlay, if_neg Bool.false_ne_true, playOrWait]
  split
  · rfl
  rename_i full
  split
  · rename_i none
    rw [List.getLast?_eq_none_iff.mp none] at full
    exact absurd positive full
  · split
    · rfl
    · rfl

theorem unload_promotes (m : ParallelStreamManager) (soundID : Int) :
    (m.unloadStream soundID).2.filterMap StreamTask.promotes? = [] := by
  simp [unloadStream, StreamTask.promotes?, List.filterMap_map, Function.comp_def]

theorem promoting_proceed (promoting : Promoting s) (ordered : Ordered limit False s)
    (positive : 0 < limit) (answers : StreamAnswers)
    (undisturbed : Undisturbed limit s (.proceed answers)) :
    Promoting (s.proceed limit answers) := by
  cases call : s.call with
  | none =>
    simp only [proceed, call]
    exact promoting
  | some stage =>
    have keeps (busy : s.promotions ≠ []) : s.manager.KeepsFront limit stage :=
      (undisturbed busy).2 stage (by simp [nextCall?, call])
    cases stage with
    | play soundID priority =>
      simp only [proceed, call]
      split
      · exact promoting
      refine promoting.goesOn ?_ rfl fun _ _ front => front
      refine promotions_created rfl (List.append_nil _).symm ?_ rfl
      split
      · simp [callTasks, call]
      · simp [callTasks, call]
    | preparePlay stream =>
      simp only [proceed, call]
      refine promoting.goesOn ?_ ?_ fun front busy there => front?_preparePlay there (keeps busy)
      · exact promotions_created rfl rfl (by simp [callTasks, call]) (preparePlay_created _ stream)
      · exact (preparePlay_defined s.manager positive stream).trans promoting.defined.symm
    | stop streamID =>
      simp only [proceed, call]
      refine promoting.goesOn ?_ rfl fun _ _ front => front
      refine promotions_created rfl (List.append_nil _).symm ?_ rfl
      cases s.manager.findStream streamID <;> simp [callTasks, call, StreamTask.promotes?]
    | setPriority streamID priority =>
      simp only [proceed, call]
      refine promoting.goesOn ?_ rfl fun _ _ front => front
      refine promotions_created rfl (List.append_nil _).symm ?_ rfl
      cases s.manager.findStream streamID <;> simp [callTasks, call]
    | prioritise stream priority =>
      simp only [proceed, call]
      split
      · exact promoting
      · refine promoting.goesOn ?_ rfl fun _ _ front => front
        exact promotions_created rfl (List.append_nil _).symm (by simp [callTasks, call]) rfl
    | reorderStream =>
      simp only [proceed, call]
      refine promoting.goesOn ?_ rfl fun _ busy front => front?_reorder front (keeps busy)
      exact promotions_created rfl (List.append_nil _).symm (by simp [callTasks, call]) rfl
    | unload soundID =>
      simp only [proceed, call]
      refine promoting.goesOn ?_ rfl fun _ busy front => front?_unload front (keeps busy)
      refine promotions_created rfl (List.append_nil _).symm ?_ rfl
      rw [callTasks_stopping, unload_promotes, call]
      rfl
    | stopping tasks =>
      cases tasks with
      | nil =>
        simp only [proceed, call]
        refine promoting.goesOn ?_ rfl fun _ _ front => front
        exact promotions_created rfl (List.append_nil _).symm (by simp [callTasks, call]) rfl
      | cons task rest =>
        have alone (busy : s.promotions ≠ []) : task.finishes = false :=
          (undisturbed busy).1 task (by simp [nextTask?, call])
        simp only [proceed, call]
        split
        · exact promoting
        · refine promoting_task promoting ordered.tidy positive task answers ?_ rfl rfl alone
          exact tasks_stopping call (s.manager.perform limit answers task) rfl rfl

theorem promoting_runThread (promoting : Promoting s) (ordered : Ordered limit False s)
    (positive : 0 < limit) (thread : Nat) (answers : StreamAnswers)
    (undisturbed : Undisturbed limit s (.run thread answers)) :
    Promoting (s.runThread limit thread answers) := by
  rw [runThread]
  split
  · exact promoting
  rename_i task ready
  split
  · exact promoting
  · refine promoting_task promoting ordered.tidy positive task answers ?_ rfl rfl
      fun busy => (undisturbed busy).1 task ready
    exact tasks_run ready (s.manager.perform limit answers task) rfl rfl

theorem promoting_stopTask (promoting : Promoting s) (stream : Nat) : Promoting
    { s with
      manager := s.manager.addStopTask stream
      threads := s.threads ++ [[.stopTask stream]] } :=
  promoting.goesOn (promotions_created rfl rfl rfl rfl) rfl fun _ _ front => front

theorem step_promoting (promoting : Promoting s) (ordered : Ordered limit False s)
    (positive : 0 < limit) (undisturbed : Undisturbed limit s event) :
    Promoting (s.next limit event) := by
  rw [next.eq_def, if_neg (by simp [promoting.defined])]
  cases event with
  | call call =>
    simp only
    split
    · rename_i free
      refine promoting.goesOn ?_ rfl fun _ _ front => front
      refine promotions_created rfl (List.append_nil _).symm ?_ rfl
      rw [free.1]
      have entry := free.2
      cases call <;> simp [StreamCall.isEntry, callTasks] at entry ⊢
    · exact promoting
  | proceed answers => exact promoting_proceed promoting ordered positive answers undisturbed
  | writeFinished stream =>
    simp only [writeFinished]
    split
    · exact promoting_stopTask promoting stream
    · exact promoting
  | interrupted stream => exact promoting_stopTask promoting stream
  | run thread answers =>
    exact promoting_runThread promoting ordered positive thread answers undisturbed

theorem nextTask?_mem (taken : s.nextTask? event = some task) : task ∈ s.tasks := by
  cases event with
  | run thread answers =>
    have ready : Threads.next? s.threads thread = some task := taken
    have moved := (Threads.proceed_perm ready [] []).subset List.mem_cons_self
    simp only [List.flatten_nil, List.append_nil] at moved
    exact List.mem_append_right _ moved
  | proceed answers =>
    simp only [nextTask?] at taken
    split at taken
    · rename_i first rest call
      cases taken
      rw [tasks, call]
      exact List.mem_append_left _ List.mem_cons_self
    · cases taken
  | call call | writeFinished stream | interrupted stream => cases taken

theorem promotion_mem {stream : Nat} (taken : s.nextTask? event = some (.preparePlay stream)) :
    stream ∈ s.promotions :=
  List.mem_filterMap.mpr ⟨.preparePlay stream, nextTask?_mem taken, rfl⟩

theorem Promoting.findsFront (promoting : Promoting s) (event : ParallelEvent) :
    Keeps False s event := by
  intro task taken
  refine ⟨?_, False.elim⟩
  cases task with
  | preparePlay stream =>
    obtain ⟨streamID, rest, waiting⟩ := front?_eq (promoting.chosen stream (promotion_mem taken))
    rw [FindsFront, waiting]
    exact List.cons_ne_nil _ _
  | _ => trivial

theorem Promoting.promotesFront (promoting : Promoting s) (ordered : Ordered limit False s)
    (positive : 0 < limit) : PromotesFront limit s where
  defined := promoting.defined
  front := by
    intro event stream taken
    obtain ⟨streamID, rest, waiting⟩ := front?_eq (promoting.chosen stream (promotion_mem taken))
    have promoted := promote_waiting ordered.tidy positive waiting stream
    refine ⟨streamID, rest, waiting, ?_⟩
    rw [next.eq_def, if_neg (by simp [promoting.defined])]
    cases event with
    | run thread answers =>
      have ready : Threads.next? s.threads thread = some (.preparePlay stream) := taken
      simp only [runThread, ready, waitsFor, Option.any_none, Bool.false_eq_true, if_false]
      exact promoted
    | proceed answers =>
      simp only [nextTask?] at taken
      split at taken
      · rename_i first rest call
        cases taken
        simp only [proceed, call, waitsFor, Option.any_none, Bool.false_eq_true, if_false]
        exact promoted
      · cases taken
    | call call | writeFinished stream | interrupted stream => cases taken

end Steps

/-- As long as no stream ends and nothing comes before the front of the waiting queue while a
stream is to be promoted, every promotion is of the front, and defined. -/
theorem promotes_front (maxStreams : Int) (events : List ParallelEvent)
    (undisturbed : Along (next (initThreadPool maxStreams))
      (Undisturbed (initThreadPool maxStreams)) {} events) :
    PromotesFront (initThreadPool maxStreams) (reachedParallel maxStreams events) := by
  have positive := initThreadPool_pos maxStreams
  have kept : Ordered (initThreadPool maxStreams) False (reachedParallel maxStreams events) ∧
      Promoting (reachedParallel maxStreams events) := by
    apply invariant_of_along (fun s => Ordered (initThreadPool maxStreams) False s ∧ Promoting s) _
      undisturbed
    · exact ⟨ordered_start _ _, rfl, Nat.zero_le _, by simp [promotions, tasks, callTasks]⟩
    · intro s event ⟨ordered, promoting⟩ undisturbed
      exact ⟨step_ordered ordered (promoting.findsFront event),
        step_promoting promoting ordered positive undisturbed⟩
  exact kept.2.promotesFront kept.1 positive

theorem in_place_promotes : PromotesFront 2 (reachedParallel 2 (playInPlace.take 20)) :=
  promotes_front 2 (playInPlace.take 20) (by decide +kernel)

/-- Two sounds that are played are stopped while a third one waits. -/
def stopBoth : List ParallelEvent :=
  [.call (.play 1 1), .proceed {}, .proceed {}, .run 0 {}, .run 0 {},
    .call (.play 2 1), .proceed {}, .proceed {}, .run 1 {}, .run 1 {},
    .call (.play 3 0), .proceed {}, .proceed {},
    .call (.stop 1), .proceed {}, .proceed {}, .proceed {}, .proceed {},
    .call (.stop 2), .proceed {}, .proceed {}, .proceed {}, .proceed {}, .run 2 {}]

/-- Each of the two chooses the third one, and the second promotion finds no stream. -/
theorem both_promote_one :
    (reachedParallel 2 stopBoth).nextTask? (.run 3 {}) = some (.preparePlay 2) ∧
      (reachedParallel 2 stopBoth).manager.waitingStream = [] ∧
      ((reachedParallel 2 stopBoth).next 2 (.run 3 {})).undefined = true ∧
      ¬ PromotesFront 2 (reachedParallel 2 stopBoth) := by
  have chosen : (reachedParallel 2 stopBoth).nextTask? (.run 3 {}) = some (.preparePlay 2) := by
    decide +kernel
  have none : (reachedParallel 2 stopBoth).manager.waitingStream = [] := by decide +kernel
  refine ⟨chosen, none, by decide +kernel, ?_⟩
  intro promotes
  obtain ⟨streamID, rest, waiting, _⟩ := promotes.front (.run 3 {}) 2 chosen
  rw [none] at waiting
  cases waiting

end ParallelPool

end PlayerFramework.SoundPool
