import PlayerFramework.Downloader.MessageQueue

/-!
The worker of a `MessageQueue` does not miss the notification that is meant for it.
-/

namespace PlayerFramework.Downloader

open Transition QueueWorker

namespace QueueWorker

/-- The thread waits, or has made up its mind to. -/
def waits (worker : QueueWorker) : Prop :=
  worker.stage = .unready ∨ worker.stage = .blocked

/-- The stages in which the thread holds `queueMutex_`. -/
def holds (worker : QueueWorker) : Prop :=
  worker.stage = .testing ∨ worker.stage = .unready ∨ worker.stage = .ready

variable {worker : QueueWorker}

theorem wake_generation : worker.wake.myGeneration = worker.myGeneration := by
  unfold wake
  split <;> rfl

theorem wake_not_blocked : worker.wake.stage ≠ .blocked := by
  unfold wake
  split
  · simp [goesTo]
  · assumption

theorem wake_stage {stage : RunStage} (other : stage ≠ .notified)
    (woken : worker.wake.stage = stage) : worker.stage = stage := by
  unfold wake at woken
  split at woken
  · exact absurd woken.symm other
  · exact woken

end QueueWorker

section Notify

variable {workers : List QueueWorker}

theorem getElem?_modify_wake {index woken : Nat} {worker : QueueWorker}
    (found : (workers.modify woken .wake)[index]? = some worker) :
    ∃ before, workers[index]? = some before ∧
      worker = if woken = index then before.wake else before := by
  rw [List.getElem?_modify] at found
  cases was : workers[index]? with
  | none =>
    rw [was] at found
    cases found
  | some before =>
    rw [was] at found
    refine ⟨before, rfl, ?_⟩
    split at found
    · rename_i same
      rw [if_pos same]
      exact (Option.some.inj found).symm
    · rename_i different
      rw [if_neg different]
      exact (Option.some.inj found).symm

theorem notifyOne_eq (chosen : Nat) (workers : List QueueWorker) :
    ∃ woken, notifyOne chosen workers = workers.modify woken .wake ∧
      ((∃ worker ∈ workers, worker.stage = .blocked) →
        ∃ worker, workers[woken]? = some worker ∧ worker.stage = .blocked) := by
  unfold notifyOne
  split
  · rename_i waits
    refine ⟨chosen, rfl, fun _ => ?_⟩
    obtain ⟨worker, found, blocked⟩ := (Option.any_eq_true _ _).mp waits
    exact ⟨worker, found, by simpa using blocked⟩
  · refine ⟨_, rfl, ?_⟩
    rintro ⟨worker, member, blocked⟩
    have within : workers.findIdx (fun worker => worker.stage == .blocked) < workers.length :=
      List.findIdx_lt_length_of_exists ⟨worker, member, by simp [blocked]⟩
    refine ⟨_, List.getElem?_eq_getElem within, ?_⟩
    simpa using List.findIdx_getElem (w := within)

end Notify

namespace MessageQueue

variable {Payload : Type} {queue : MessageQueue Payload}

/-- Who waits is to be notified: it belongs to the queue that runs, or a `Stop` is about to. -/
def Served (queue : MessageQueue Payload) (worker : QueueWorker) : Prop :=
  (queue.running = true ∧ worker.myGeneration = queue.generation) ∨
    (∃ caller, queue.stopping = some (caller, .replacing) ∧
      worker.myGeneration = queue.generation) ∨
    ∃ caller, queue.stopping = some (caller, .notifying) ∧
      worker.myGeneration + 1 = queue.generation

structure Attentive (queue : MessageQueue Payload) : Prop where
  single : ∀ (first second : Nat) (one other : QueueWorker), queue.workers[first]? = some one →
    queue.workers[second]? = some other → one.myGeneration = other.myGeneration → first = second
  bounded : ∀ (index : Nat) (worker : QueueWorker), queue.workers[index]? = some worker →
    worker.myGeneration ≤ queue.generation
  owned : ∀ (index : Nat) (worker : QueueWorker), queue.workers[index]? = some worker →
    worker.holds → queue.owner = some (.worker index)
  served : ∀ (index : Nat) (worker : QueueWorker), queue.workers[index]? = some worker →
    worker.waits → queue.Served worker
  unready : ∀ (index : Nat) (worker : QueueWorker), queue.workers[index]? = some worker →
    worker.stage = .unready → queue.queue = []
  blocked : ∀ (index : Nat) (worker : QueueWorker), queue.workers[index]? = some worker →
    worker.stage = .blocked → queue.running = true → queue.queue = []
  stops : queue.running = true → ∀ caller, queue.stopping ≠ some (caller, .replacing) ∧
    queue.stopping ≠ some (caller, .notifying)

/-- No worker stands between the test of its predicate and its wait when `Stop` notifies. -/
def NotifiesAll (queue : MessageQueue Payload) (event : QueueEvent Payload) : Prop :=
  match event, queue.stopping with
  | .stopGoesOn, some (_, .notifying) => ∀ worker ∈ queue.workers, worker.stage ≠ .unready
  | _, _ => True

instance (queue : MessageQueue Payload) (event : QueueEvent Payload) :
    Decidable (queue.NotifiesAll event) := by
  unfold NotifiesAll
  split <;> infer_instance

/-- A waiting worker of a queue that runs is the only one. -/
theorem Attentive.alone (attentive : queue.Attentive) (running : queue.running = true)
    {first second : Nat} {one other : QueueWorker} (atFirst : queue.workers[first]? = some one)
    (atSecond : queue.workers[second]? = some other) (waits : one.waits) (too : other.waits) :
    first = second := by
  have mine : ∀ (index : Nat) (worker : QueueWorker), queue.workers[index]? = some worker →
      worker.waits → worker.myGeneration = queue.generation := by
    intro index worker found waits
    rcases attentive.served index worker found waits with ⟨_, same⟩ | ⟨caller, stops, _⟩ |
      ⟨caller, stops, _⟩
    · exact same
    · exact absurd stops (attentive.stops running caller).1
    · exact absurd stops (attentive.stops running caller).2
  apply attentive.single first second one other atFirst atSecond
  exact (mine first one atFirst waits).trans (mine second other atSecond too).symm

variable {after : MessageQueue Payload} {index : Nat}

theorem Attentive.put {worker moved : QueueWorker} (attentive : queue.Attentive)
    (found : queue.workers[index]? = some worker)
    (workers : after.workers = queue.workers.set index moved)
    (running : after.running = queue.running) (generation : after.generation = queue.generation)
    (stopping : after.stopping = queue.stopping) (same : moved.myGeneration = worker.myGeneration)
    (owner : ∀ other, other ≠ index → queue.owner = some (.worker other) →
      after.owner = some (.worker other)) (owned : moved.holds → after.owner = some (.worker index))
    (waits : moved.waits → queue.Served worker ∧ after.queue = [])
    (queued : queue.queue = [] → after.queue = []) : after.Attentive := by
  have inside : index < queue.workers.length := (List.getElem?_eq_some_iff.mp found).1
  have cases : ∀ (other : Nat) (rival : QueueWorker), after.workers[other]? = some rival →
      other = index ∧ rival = moved ∨ other ≠ index ∧ queue.workers[other]? = some rival := by
    intro other rival stands
    rw [workers] at stands
    by_cases mine : other = index
    · subst mine
      rw [List.getElem?_set_self inside] at stands
      exact .inl ⟨rfl, (Option.some.inj stands).symm⟩
    · rw [List.getElem?_set_ne (Ne.symm mine)] at stands
      exact .inr ⟨mine, stands⟩
  have serves : ∀ rival : QueueWorker, queue.Served rival → after.Served rival := by
    intro rival served
    rw [Served, running, generation, stopping]
    exact served
  constructor
  · intro first second one other atFirst atSecond equal
    rcases cases first one atFirst with ⟨rfl, rfl⟩ | ⟨differs, atFirst⟩
    · rcases cases second other atSecond with ⟨rfl, rfl⟩ | ⟨differs, atSecond⟩
      · rfl
      · rw [same] at equal
        exact attentive.single _ _ _ _ found atSecond equal
    · rcases cases second other atSecond with ⟨rfl, rfl⟩ | ⟨_, atSecond⟩
      · rw [same] at equal
        exact attentive.single _ _ _ _ atFirst found equal
      · exact attentive.single _ _ _ _ atFirst atSecond equal
  · intro other rival stands
    rw [generation]
    rcases cases other rival stands with ⟨rfl, rfl⟩ | ⟨_, stands⟩
    · rw [same]
      exact attentive.bounded _ _ found
    · exact attentive.bounded _ _ stands
  · intro other rival stands holds
    rcases cases other rival stands with ⟨rfl, rfl⟩ | ⟨differs, stands⟩
    · exact owned holds
    · exact owner other differs (attentive.owned _ _ stands holds)
  · intro other rival stands waiting
    rcases cases other rival stands with ⟨rfl, rfl⟩ | ⟨_, stands⟩
    · have served := serves _ (waits waiting).1
      simpa only [Served, same] using served
    · exact serves _ (attentive.served _ _ stands waiting)
  · intro other rival stands stage
    rcases cases other rival stands with ⟨rfl, rfl⟩ | ⟨_, stands⟩
    · exact (waits (.inl stage)).2
    · exact queued (attentive.unready _ _ stands stage)
  · intro other rival stands stage runs
    rw [running] at runs
    rcases cases other rival stands with ⟨rfl, rfl⟩ | ⟨_, stands⟩
    · exact (waits (.inr stage)).2
    · exact queued (attentive.blocked _ _ stands stage runs)
  · rw [running, stopping]
    exact attentive.stops

theorem attentive_lock {worker : QueueWorker} (attentive : queue.Attentive)
    (found : queue.workers[index]? = some worker) : (queue.lock index worker).Attentive := by
  unfold lock
  split
  · exact attentive
  rename_i free
  refine attentive.put found rfl rfl rfl rfl rfl ?_ ?_ ?_ ?_
  · intro other _ owner
    rw [owner] at free
    exact absurd rfl free
  · intro _
    rfl
  · rintro (waits | waits) <;> cases waits
  · exact id

theorem Attentive.frees {worker : QueueWorker} {stage : RunStage} (attentive : queue.Attentive)
    (found : queue.workers[index]? = some worker)
    (workers : after.workers = queue.workers.set index (worker.goesTo stage))
    (running : after.running = queue.running) (generation : after.generation = queue.generation)
    (stopping : after.stopping = queue.stopping)
    (owner : ∀ other, other ≠ index → queue.owner = some (.worker other) →
      after.owner = some (.worker other)) (queued : queue.queue = [] → after.queue = [])
    (idle : ¬ (worker.goesTo stage).holds ∧ ¬ (worker.goesTo stage).waits) : after.Attentive := by
  apply attentive.put found workers running generation stopping rfl owner
  · intro holds
    exact absurd holds idle.1
  · intro waits
    exact absurd waits idle.2
  · exact queued

theorem attentive_work (index : Nat) (attentive : queue.Attentive) :
    (queue.work index).Attentive := by
  unfold work
  cases found : queue.workers[index]? with
  | none => exact attentive
  | some worker =>
    have mine : worker.holds → queue.owner = some (.worker index) :=
      attentive.owned index worker found
    have others : worker.holds → ∀ (owner : Option (QueueOwner Payload)) (other : Nat),
        other ≠ index → queue.owner = some (.worker other) → owner = some (.worker other) := by
      intro holds owner other differs owned
      rw [mine holds] at owned
      cases owned
      exact absurd rfl differs
    cases stage : worker.stage with
    | entering =>
      simp only [stage]
      split
      · exact attentive
      · refine attentive.frees found rfl rfl rfl rfl (fun _ _ owner => owner) id ?_
        simp [goesTo, holds, waits]
    | looping =>
      simp only [stage]
      refine attentive.frees found rfl rfl rfl rfl (fun _ _ owner => owner) id ?_
      split <;> simp [goesTo, holds, waits]
    | locking | notified =>
      simp only [stage]
      exact attentive_lock attentive found
    | testing =>
      have owned := mine (.inl stage)
      simp only [stage]
      refine attentive.put found rfl rfl rfl rfl rfl (fun _ _ owner => owner) ?_ ?_ ?_
      · intro _
        exact owned
      · intro waits
        split at waits
        · rcases waits with waits | waits <;> cases waits
        · rename_i unmet
          rw [not_or, not_not, not_not] at unmet
          obtain ⟨runs, generation⟩ := (Bool.and_eq_true _ _).mp unmet.2
          exact ⟨.inl ⟨runs, (beq_iff_eq.mp generation).symm⟩, unmet.1⟩
      · exact id
    | unready =>
      simp only [stage]
      refine attentive.put found rfl rfl rfl rfl rfl (others (.inr (.inl stage)) none) ?_ ?_ ?_
      · simp [goesTo, holds]
      · intro _
        exact ⟨attentive.served _ _ found (.inl stage), attentive.unready _ _ found stage⟩
      · exact id
    | blocked | ended =>
      simp only [stage]
      exact attentive
    | ready =>
      have free := others (.inr (.inr stage)) none
      simp only [stage]
      split
      · refine attentive.frees found rfl rfl rfl rfl free id ?_
        simp [goesTo, holds, waits]
      split
      · refine attentive.frees found rfl rfl rfl rfl free id ?_
        simp [goesTo, holds, waits]
      rename_i queued
      refine attentive.frees found rfl rfl rfl rfl free ?_ ?_
      · intro empty
        rw [queued] at empty
        cases empty
      · simp [goesTo, holds, waits]
    | handling =>
      simp only [stage]
      refine attentive.frees found rfl rfl rfl rfl (fun _ _ owner => owner) id ?_
      simp [goesTo, holds, waits]

theorem served_of_stopped (stopped : queue.running = false) (free : queue.stopping = none)
    (worker : QueueWorker) : ¬ queue.Served worker := by
  rintro (⟨running, _⟩ | ⟨caller, stops, _⟩ | ⟨caller, stops, _⟩)
  · rw [stopped] at running
    cases running
  · rw [free] at stops
    cases stops
  · rw [free] at stops
    cases stops

theorem attentive_start (attentive : queue.Attentive) : queue.start.Attentive := by
  unfold start
  split
  · exact attentive
  rename_i idle
  rw [not_or, Bool.not_eq_true, Bool.not_eq_true, Option.isSome_eq_false_iff,
    Option.isNone_iff_eq_none] at idle
  obtain ⟨free, stopped⟩ := idle
  have resting : ∀ (index : Nat) (worker : QueueWorker),
      queue.workers[index]? = some worker → ¬ worker.waits := by
    intro index worker found waits
    exact served_of_stopped stopped free worker (attentive.served index worker found waits)
  have cases : ∀ (index : Nat) (worker : QueueWorker),
      (queue.workers ++ [({ myGeneration := queue.generation + 1 } : QueueWorker)])[index]? =
        some worker →
      queue.workers[index]? = some worker ∨
        index = queue.workers.length ∧ worker = { myGeneration := queue.generation + 1 } := by
    intro index worker found
    rcases Nat.lt_or_ge index queue.workers.length with within | beyond
    · rw [List.getElem?_append_left within] at found
      exact .inl found
    · rw [List.getElem?_append_right beyond, List.getElem?_singleton] at found
      split at found
      · exact .inr ⟨by omega, (Option.some.inj found).symm⟩
      · cases found
  constructor
  · intro first second one other atFirst atSecond same
    rcases cases first one atFirst with before | ⟨rfl, rfl⟩
    · rcases cases second other atSecond with early | ⟨rfl, rfl⟩
      · exact attentive.single _ _ _ _ before early same
      · have below := attentive.bounded _ _ before
        rw [same] at below
        exact absurd below (Nat.not_succ_le_self _)
    · rcases cases second other atSecond with early | ⟨rfl, rfl⟩
      · have below := attentive.bounded _ _ early
        rw [← same] at below
        exact absurd below (Nat.not_succ_le_self _)
      · rfl
  · intro index worker found
    rcases cases index worker found with before | ⟨rfl, rfl⟩
    · exact Nat.le_succ_of_le (attentive.bounded _ _ before)
    · exact Nat.le_refl _
  · intro index worker found holds
    rcases cases index worker found with before | ⟨rfl, rfl⟩
    · exact attentive.owned _ _ before holds
    · rcases holds with holds | holds | holds <;> cases holds
  · intro index worker found waits
    rcases cases index worker found with before | ⟨rfl, rfl⟩
    · exact absurd waits (resting _ _ before)
    · rcases waits with waits | waits <;> cases waits
  · intro index worker found stage
    rcases cases index worker found with before | ⟨rfl, rfl⟩
    · exact absurd (.inl stage) (resting _ _ before)
    · cases stage
  · intro index worker found stage _
    rcases cases index worker found with before | ⟨rfl, rfl⟩
    · exact absurd (.inr stage) (resting _ _ before)
    · cases stage
  · intro _ caller
    rw [free]
    exact ⟨nofun, nofun⟩

/-- A step of `Stop` that leaves the threads alone, and who waits served. -/
theorem Attentive.stopped (attentive : queue.Attentive) (workers : after.workers = queue.workers)
    (generation : queue.generation ≤ after.generation) (owner : after.owner = queue.owner)
    (served : ∀ worker, queue.Served worker → after.Served worker)
    (queued : queue.queue = [] → after.queue = [])
    (running : after.running = true → queue.running = true)
    (stops : after.running = true → ∀ caller, after.stopping ≠ some (caller, .replacing) ∧
      after.stopping ≠ some (caller, .notifying)) : after.Attentive := by
  constructor
  · rw [workers]
    exact attentive.single
  · intro index worker found
    rw [workers] at found
    exact Nat.le_trans (attentive.bounded index worker found) generation
  · rw [workers, owner]
    exact attentive.owned
  · intro index worker found waits
    rw [workers] at found
    exact served worker (attentive.served index worker found waits)
  · intro index worker found stage
    rw [workers] at found
    exact queued (attentive.unready index worker found stage)
  · intro index worker found stage runs
    rw [workers] at found
    exact queued (attentive.blocked index worker found stage (running runs))
  · exact stops

theorem attentive_stop (caller : Option Nat) (attentive : queue.Attentive) :
    (queue.stop caller).Attentive := by
  unfold stop
  split
  · exact attentive
  rename_i free
  rw [Option.not_isSome_iff_eq_none] at free
  split
  · refine attentive.stopped rfl (Nat.le_refl _) rfl ?_ id nofun nofun
    rintro worker (⟨_, same⟩ | ⟨other, stops, _⟩ | ⟨other, stops, _⟩)
    · exact .inr (.inl ⟨caller, rfl, same⟩)
    · rw [free] at stops
      cases stops
    · rw [free] at stops
      cases stops
  · rename_i stopped
    refine attentive.stopped rfl (Nat.le_refl _) rfl ?_ id id ?_
    · intro worker served
      exact absurd served (served_of_stopped (Bool.eq_false_iff.mpr stopped) free worker)
    · intro runs
      exact absurd runs stopped

theorem attentive_notifyAll {caller : Option Nat} (attentive : queue.Attentive)
    (stopping : queue.stopping = some (caller, .notifying))
    (none : ∀ worker ∈ queue.workers, worker.stage ≠ .unready) :
    Attentive { queue with
      workers := queue.workers.map .wake, stopping := some (caller, .moving) } := by
  have before : ∀ (index : Nat) (worker : QueueWorker),
      (queue.workers.map .wake)[index]? = some worker →
        ∃ earlier, queue.workers[index]? = some earlier ∧ worker = earlier.wake := by
    intro index worker found
    rw [List.getElem?_map, Option.map_eq_some_iff] at found
    obtain ⟨earlier, was, rfl⟩ := found
    exact ⟨earlier, was, rfl⟩
  have resting : ∀ (index : Nat) (worker : QueueWorker),
      (queue.workers.map .wake)[index]? = some worker → ¬ worker.waits := by
    intro index worker found waits
    obtain ⟨earlier, was, rfl⟩ := before index worker found
    rcases waits with unready | blocked
    · exact none earlier (List.mem_of_getElem? was) (wake_stage nofun unready)
    · exact wake_not_blocked blocked
  constructor
  · intro first second one other atFirst atSecond same
    obtain ⟨was, found, rfl⟩ := before first one atFirst
    obtain ⟨had, stands, rfl⟩ := before second other atSecond
    rw [wake_generation, wake_generation] at same
    exact attentive.single _ _ _ _ found stands same
  · intro index worker found
    obtain ⟨was, stands, rfl⟩ := before index worker found
    rw [wake_generation]
    exact attentive.bounded _ _ stands
  · intro index worker found holds
    obtain ⟨was, stands, rfl⟩ := before index worker found
    apply attentive.owned _ _ stands
    rcases holds with stage | stage | stage
    · exact .inl (wake_stage nofun stage)
    · exact .inr (.inl (wake_stage nofun stage))
    · exact .inr (.inr (wake_stage nofun stage))
  · intro index worker found waits
    exact absurd waits (resting index worker found)
  · intro index worker found stage
    exact absurd (.inl stage) (resting index worker found)
  · intro index worker found stage
    exact absurd (.inr stage) (resting index worker found)
  · intro runs
    exact absurd stopping (attentive.stops runs caller).2

theorem attentive_stopGoesOn (attentive : queue.Attentive)
    (notifies : queue.NotifiesAll .stopGoesOn) : queue.stopGoesOn.Attentive := by
  unfold stopGoesOn
  split
  · exact attentive
  · rename_i caller stopping
    have stopped : queue.running ≠ true :=
      fun runs => (attentive.stops runs caller).1 stopping
    refine attentive.stopped rfl (Nat.le_succ _) rfl ?_ id id fun runs => absurd runs stopped
    rintro worker (⟨runs, _⟩ | ⟨other, stops, same⟩ | ⟨other, stops, _⟩)
    · exact absurd runs stopped
    · exact .inr (.inr ⟨caller, rfl, by rw [same]⟩)
    · rw [stopping] at stops
      cases stops
  · rename_i caller stopping
    simp only [NotifiesAll, stopping] at notifies
    exact attentive_notifyAll attentive stopping notifies
  · rename_i caller stopping
    refine attentive.stopped rfl (Nat.le_refl _) rfl ?_ id id fun _ _ => ⟨nofun, nofun⟩
    rintro worker (runs | ⟨other, stops, _⟩ | ⟨other, stops, _⟩)
    · exact .inl runs
    · rw [stopping] at stops
      cases stops
    · rw [stopping] at stops
      cases stops
  · rename_i caller localThread stopping
    split
    · exact attentive
    refine attentive.stopped rfl (Nat.le_refl _) rfl ?_ (fun _ => rfl) id
      fun _ _ => ⟨nofun, nofun⟩
    rintro worker (runs | ⟨other, stops, _⟩ | ⟨other, stops, _⟩)
    · exact .inl runs
    · rw [stopping] at stops
      cases stops
    · rw [stopping] at stops
      cases stops

theorem Attentive.woken {woken : Nat} (attentive : queue.Attentive)
    (workers : after.workers = queue.workers.modify woken .wake)
    (running : after.running = queue.running) (generation : after.generation = queue.generation)
    (stopping : after.stopping = queue.stopping)
    (owner : ∀ index, queue.owner = some (.worker index) → after.owner = some (.worker index))
    (unready : ∀ (index : Nat) (worker : QueueWorker), queue.workers[index]? = some worker →
      worker.stage = .unready → after.queue = [])
    (blocked : ∀ (index : Nat) (worker : QueueWorker), queue.workers[index]? = some worker →
      worker.stage = .blocked → woken ≠ index → queue.running = true → after.queue = []) :
    after.Attentive := by
  have before : ∀ (index : Nat) (worker : QueueWorker), after.workers[index]? = some worker →
      ∃ earlier, queue.workers[index]? = some earlier ∧ worker.myGeneration = earlier.myGeneration ∧
          (∀ stage, stage ≠ .notified → worker.stage = stage → earlier.stage = stage) ∧
            (worker.stage = .blocked → woken ≠ index) := by
    intro index worker found
    rw [workers] at found
    obtain ⟨earlier, was, rfl⟩ := getElem?_modify_wake found
    refine ⟨earlier, was, ?_⟩
    split
    · refine ⟨wake_generation, fun _ other => wake_stage other, ?_⟩
      intro still
      exact absurd still wake_not_blocked
    · rename_i different
      exact ⟨rfl, fun _ _ => id, fun _ => different⟩
  constructor
  · intro first second one other atFirst atSecond same
    obtain ⟨was, found, equal, _⟩ := before first one atFirst
    obtain ⟨had, stands, equals, _⟩ := before second other atSecond
    rw [equal, equals] at same
    exact attentive.single _ _ _ _ found stands same
  · intro index worker found
    obtain ⟨was, stands, equal, _⟩ := before index worker found
    rw [equal, generation]
    exact attentive.bounded _ _ stands
  · intro index worker found holds
    obtain ⟨was, stands, _, stages, _⟩ := before index worker found
    apply owner index
    apply attentive.owned _ _ stands
    rcases holds with stage | stage | stage
    · exact .inl (stages _ nofun stage)
    · exact .inr (.inl (stages _ nofun stage))
    · exact .inr (.inr (stages _ nofun stage))
  · intro index worker found waits
    obtain ⟨was, stands, equal, stages, _⟩ := before index worker found
    have served : queue.Served was := by
      apply attentive.served _ _ stands
      rcases waits with stage | stage
      · exact .inl (stages _ nofun stage)
      · exact .inr (stages _ nofun stage)
    rw [Served, running, generation, stopping, equal]
    exact served
  · intro index worker found stage
    obtain ⟨was, stands, _, stages, _⟩ := before index worker found
    exact unready _ _ stands (stages _ nofun stage)
  · intro index worker found stage runs
    obtain ⟨was, stands, _, stages, still⟩ := before index worker found
    rw [running] at runs
    exact blocked _ _ stands (stages _ nofun stage) (still stage) runs
  · rw [running, stopping]
    exact attentive.stops

theorem attentive_postGoesOn (chosen : Nat) (attentive : queue.Attentive) :
    (queue.postGoesOn chosen).Attentive := by
  unfold postGoesOn
  split
  · rename_i message posting
    obtain ⟨woken, notified, reaches⟩ := notifyOne_eq chosen queue.workers
    refine attentive.woken notified rfl rfl rfl ?_ ?_ ?_
    · intro index owned
      rw [posting] at owned
      cases owned
    · intro index worker found stage
      have owned := attentive.owned index worker found (.inr (.inl stage))
      rw [posting] at owned
      cases owned
    · intro index worker found stage different runs
      obtain ⟨reached, stands, blocked⟩ :=
        reaches ⟨worker, List.mem_of_getElem? found, stage⟩
      exact absurd (attentive.alone runs stands found (.inr blocked) (.inr stage)) different
  · exact attentive

theorem attentive_next (event : QueueEvent Payload) (attentive : queue.Attentive)
    (notifies : queue.NotifiesAll event) : (queue.next event).Attentive := by
  cases event with
  | start => exact attentive_start attentive
  | stop caller => exact attentive_stop caller attentive
  | stopGoesOn => exact attentive_stopGoesOn attentive notifies
  | join thread =>
    simp only [next, join]
    split
    · exact attentive.stopped rfl (Nat.le_refl _) rfl (fun _ => id) id id attentive.stops
    · exact attentive
  | post message =>
    simp only [next, post]
    split
    · exact attentive
    rename_i free
    rw [not_or, Option.not_isSome_iff_eq_none] at free
    refine ⟨attentive.single, attentive.bounded, ?_, attentive.served, attentive.unready,
      attentive.blocked, attentive.stops⟩
    intro index worker found holds
    have owned := attentive.owned index worker found holds
    rw [free.1] at owned
    cases owned
  | postGoesOn chosen => exact attentive_postGoesOn chosen attentive
  | work index => exact attentive_work index attentive
  | wakeUp index =>
    refine attentive.woken rfl rfl rfl rfl (fun _ => id) attentive.unready ?_
    intro other worker found stage _ runs
    exact attentive.blocked other worker found stage runs

theorem attentive_initial : @Attentive Payload {} := by
  constructor
  · intro _ _ _ _ found
    cases found
  · intro _ _ found
    cases found
  · intro _ _ found
    cases found
  · intro _ _ found
    cases found
  · intro _ _ found
    cases found
  · intro _ _ found
    cases found
  · intro running
    cases running

/-- No worker waits for a queue that has stopped or has a message, unless it is about to be
notified, in the runs in which `Stop` never notifies between the test of a worker and its wait. -/
theorem workers_wake (events : List (QueueEvent Payload))
    (notifies : Along next NotifiesAll {} events) (worker : QueueWorker)
    (member : worker ∈ (run next {} events).workers) (blocked : worker.stage = .blocked) :
    ((run next {} events).running = true ∧ (run next {} events).generation = worker.myGeneration ∧
          (run next {} events).queue = []) ∨
      (run next {} events).notificationToCome := by
  have attentive : (run next {} events).Attentive :=
    invariant_of_along Attentive (fun _ event attentive notifies =>
      attentive_next event attentive notifies) notifies attentive_initial
  obtain ⟨index, found⟩ := List.getElem?_of_mem member
  rcases attentive.served index worker found (.inr blocked) with ⟨runs, same⟩ | toCome | toCome
  · exact .inl ⟨runs, same.symm, attentive.blocked index worker found blocked runs⟩
  · obtain ⟨caller, stops, _⟩ := toCome
    exact .inr (.inl ⟨caller, stops⟩)
  · obtain ⟨caller, stops, _⟩ := toCome
    exact .inr (.inr (.inl ⟨caller, stops⟩))

/-- The worker waits, is notified and ends. -/
def stopsWaiting : List (QueueEvent Unit) :=
  [QueueEvent.start] ++ List.replicate 5 (QueueEvent.work 0) ++
    [QueueEvent.post ⟨.completed, ()⟩, .postGoesOn 0] ++ List.replicate 8 (QueueEvent.work 0) ++
    [QueueEvent.stop none, .stopGoesOn, .stopGoesOn, .stopGoesOn, .stopGoesOn] ++
    [QueueEvent.start] ++ List.replicate 5 (QueueEvent.work 1)

theorem stopped_wakes : ((run next {} stopsWaiting).running = true ∧
        (run next {} stopsWaiting).generation = 3 ∧ (run next {} stopsWaiting).queue = []) ∨
      (run next {} stopsWaiting).notificationToCome :=
  workers_wake stopsWaiting (by decide +kernel) ⟨3, .blocked⟩ (by decide +kernel) rfl

/-- `Stop` comes between the test of the worker and its wait. -/
def stopsTested : List (QueueEvent Unit) :=
  [QueueEvent.start] ++ List.replicate 4 (QueueEvent.work 0) ++
    [QueueEvent.stop none, .stopGoesOn, .stopGoesOn, .work 0, .stopGoesOn, .stopGoesOn]

/-- The worker waits for ever, and so does the `Stop` that joins it. -/
theorem tested_sleeps : (run next {} stopsTested).workers = [⟨1, .blocked⟩] ∧
      (run next {} stopsTested).running = false ∧ (run next {} stopsTested).generation = 2 ∧
        (run next {} stopsTested).joins = [0] ∧ ¬ (run next {} stopsTested).notificationToCome := by
  refine ⟨by decide +kernel, by decide +kernel, by decide +kernel, by decide +kernel, ?_⟩
  rintro (⟨_, stops⟩ | ⟨_, stops⟩ | ⟨_, posts⟩)
  · cases stops
  · cases stops
  · cases posts

end MessageQueue

end PlayerFramework.Downloader
