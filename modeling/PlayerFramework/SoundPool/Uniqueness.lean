import PlayerFramework.SoundPool.StreamLimit

/-!
Which streams the two queues of the sound pool hold.
-/

namespace PlayerFramework.SoundPool

open Transition

/-- No stream is twice in the queues, and no stream is stopped in order to be started itself. -/
structure Unique (s : PoolState) : Prop where
  playing : s.manager.playingStreamIDs.Nodup
  willPlay : s.manager.willPlayStreamIDs.Nodup
  apart : ∀ streamID ∈ s.manager.playingStreamIDs, streamID ∉ s.manager.willPlayStreamIDs
  others : ∀ start ∈ s.starting, start.2 ≠ some start.1

/-- Where the event decides about a stream, that stream neither plays nor waits, and is not
being started. -/
def PlaysIdle (s : PoolState) : Event → Prop
  | .run thread _ =>
    ∀ action ∈ Threads.next? s.threads thread, ∀ streamID ∈ s.manager.decides? action,
      streamID ∉ s.manager.playingStreamIDs ∧ streamID ∉ s.manager.willPlayStreamIDs ∧
        streamID ∉ s.starting.map Prod.fst
  | _ => True

instance (s : PoolState) : (event : Event) → Decidable (PlaysIdle s event)
  | .run _ _ => inferInstanceAs (Decidable (∀ _ ∈ _, ∀ _ ∈ _, _ ∧ _ ∧ _))
  | .play _ _ _ | .stop _ | .setPriority _ _ | .unload _ | .playbackCompleted _ _
  | .interrupted _ => .isTrue trivial

/-- How often a stream is in a queue or being started. -/
def uses (m : StreamIDManager) (starting : List (Int × Option Int)) (streamID : Int) : Nat :=
  m.playingStreamIDs.count streamID + m.willPlayStreamIDs.count streamID +
    (starting.map Prod.fst).count streamID

structure UsedOnce (m : StreamIDManager) (starting : List (Int × Option Int)) : Prop where
  once : ∀ streamID, uses m starting streamID ≤ 1
  others : ∀ start ∈ starting, start.2 ≠ some start.1

theorem count_start (start : Int × Option Int) (starting : List (Int × Option Int))
    (streamID : Int) :
    ((start :: starting).map Prod.fst).count streamID =
      (starting.map Prod.fst).count streamID + if start.1 = streamID then 1 else 0 := by
  rw [List.map_cons, List.count_cons]
  simp

theorem count_fresh {queue : List Int} (fresh streamID : Int) {added : List Int}
    (within : added.Subperm (fresh :: queue)) :
    added.count streamID ≤ queue.count streamID + if fresh = streamID then 1 else 0 := by
  have bound := within.count_le streamID
  rw [List.count_cons] at bound
  simpa only [beq_iff_eq] using bound

variable {m : StreamIDManager} {before after : List (Int × Option Int)} {s : PoolState}

theorem uses_idle {starting : List (Int × Option Int)} {streamID : Int}
    (playing : streamID ∉ m.playingStreamIDs) (willPlay : streamID ∉ m.willPlayStreamIDs)
    (started : streamID ∉ starting.map Prod.fst) : uses m starting streamID = 0 := by
  rw [uses, List.count_eq_zero.mpr playing, List.count_eq_zero.mpr willPlay,
    List.count_eq_zero.mpr started]

theorem UsedOnce.grow {after : StreamIDManager} {starting later : List (Int × Option Int)}
    (once : UsedOnce m starting) {streamID : Int} (idle : uses m starting streamID = 0)
    (grown : ∀ other, uses after later other ≤
      uses m starting other + if streamID = other then 1 else 0)
    (others : ∀ start ∈ later, start.2 ≠ some start.1) : UsedOnce after later := by
  refine ⟨?_, others⟩
  intro other
  have bound := grown other
  have before := once.once other
  by_cases same : streamID = other
  · rw [if_pos same] at bound
    rw [← same] at bound ⊢
    omega
  · rw [if_neg same] at bound
    omega

theorem count_moved {start : Option (Int × Option Int)} {started : List (Int × Option Int)}
    (moved : (start.toList ++ after).Perm (before ++ started)) (streamID : Int) :
    (start.toList.map Prod.fst).count streamID + (after.map Prod.fst).count streamID =
      (before.map Prod.fst).count streamID + (started.map Prod.fst).count streamID := by
  have counted := (moved.map Prod.fst).count_eq streamID
  rwa [List.map_append, List.map_append, List.count_append, List.count_append] at counted

theorem others_moved {start : Option (Int × Option Int)} {started : List (Int × Option Int)}
    (moved : (start.toList ++ after).Perm (before ++ started))
    (others : ∀ start ∈ before, start.2 ≠ some start.1)
    (fresh : ∀ start ∈ started, start.2 ≠ some start.1) :
    ∀ start ∈ after, start.2 ≠ some start.1 := by
  intro entry member
  have there : entry ∈ before ++ started := moved.subset (List.mem_append_right _ member)
  rcases List.mem_append.mp there with old | new
  · exact others entry old
  · exact fresh entry new

theorem effect_usedOnce {limit : Nat} {action : Action} {outcome : Outcome}
    (effect : Effect limit m action outcome)
    (moved : (action.start?.toList ++ after).Perm (before ++ outcome.starts))
    (once : UsedOnce m before)
    (idle : ∀ streamID ∈ m.decides? action, streamID ∉ m.playingStreamIDs ∧
      streamID ∉ m.willPlayStreamIDs ∧ streamID ∉ before.map Prod.fst) :
    UsedOnce outcome.manager after := by
  have counted := count_moved moved
  cases effect with
  | fewer playing willPlay none starts =>
    rw [starts] at moved counted
    refine ⟨?_, others_moved moved once.others (by simp)⟩
    intro streamID
    have bound := once.once streamID
    have fewerPlaying := playing.count_le streamID
    have fewerWaiting := willPlay.count_le streamID
    have same := counted streamID
    rw [none] at same
    simp only [uses, List.map_nil, List.count_nil, Option.toList_none] at bound same ⊢
    omega
  | added streamID last start playing willPlay starts =>
    rw [starts] at moved counted
    refine ⟨?_, others_moved moved once.others (by simp)⟩
    intro other
    have bound := once.once other
    have added := count_fresh streamID other playing
    have same := counted other
    rw [start, Option.toList_some, count_start] at same
    simp only [uses, List.map_nil, List.count_nil, willPlay] at bound same ⊢
    omega
  | room streamID decides short playing willPlay starts =>
    obtain ⟨notPlaying, notWaiting, notStarted⟩ := idle streamID decides
    rw [starts] at moved counted
    refine once.grow (uses_idle notPlaying notWaiting notStarted) ?_
      (others_moved moved once.others (by simp))
    intro other
    have same := counted other
    rw [count_start] at same
    simp only [uses, List.map_nil, List.count_nil, playing, willPlay] at same ⊢
    omega
  | replaced streamID last decides present playing willPlay starts =>
    obtain ⟨notPlaying, notWaiting, notStarted⟩ := idle streamID decides
    have different : last ≠ streamID := fun same =>
      notPlaying (same ▸ List.mem_of_getLast? present)
    rw [starts] at moved counted
    refine once.grow (uses_idle notPlaying notWaiting notStarted) ?_
      (others_moved moved once.others (by simpa using different))
    intro other
    have same := counted other
    have fewer := (List.dropLast_sublist m.playingStreamIDs).count_le other
    rw [count_start] at same
    simp only [uses, List.map_nil, List.count_nil, playing, willPlay] at same ⊢
    omega
  | queued streamID decides playing willPlay starts =>
    obtain ⟨notPlaying, notWaiting, notStarted⟩ := idle streamID decides
    rw [starts] at moved counted
    refine once.grow (uses_idle notPlaying notWaiting notStarted) ?_
      (others_moved moved once.others (by simp))
    intro other
    have same := counted other
    have added := count_fresh streamID other willPlay
    simp only [uses, List.map_nil, List.count_nil, playing] at same ⊢
    omega
  | promoted streamID waiting promotes playing willPlay starts =>
    rw [starts] at moved counted
    refine ⟨?_, others_moved moved once.others (by simp)⟩
    intro other
    have bound := once.once other
    have same := counted other
    have fewer := (@List.erase_sublist _ _ streamID m.playingStreamIDs).count_le other
    rw [count_start] at same
    simp only [uses, List.map_nil, List.count_nil, playing, willPlay, List.count_cons,
      beq_iff_eq] at bound same ⊢
    omega

theorem runThread_usedOnce {cfg : Config} (once : UsedOnce s.manager s.starting) (thread : Nat)
    (answers : Answers) (idle : PlaysIdle s (.run thread answers)) :
    UsedOnce (s.runThread cfg thread answers).manager
      (s.runThread cfg thread answers).starting := by
  rw [PoolState.runThread]
  split
  · exact once
  rename_i action ready
  split
  · exact once
  · exact effect_usedOnce (s.manager.perform_effect cfg answers action)
      (starting_perm ready (s.manager.perform cfg answers action)) once (idle action ready)

theorem step_usedOnce {cfg : Config} (once : UsedOnce s.manager s.starting) {event : Event}
    (idle : PlaysIdle s event) :
    UsedOnce (step cfg s event).manager (step cfg s event).starting := by
  have called {actions : List Action} (none : starts actions = []) :
      UsedOnce s.manager (s.call actions).starting := by
    rw [call_starting none]
    exact once
  cases event with
  | play soundID priority order | stop streamID | setPriority streamID priority | unload soundID
  | playbackCompleted stream tooEarly | interrupted stream => exact called rfl
  | run thread answers => exact runThread_usedOnce once thread answers idle

theorem UsedOnce.unique (once : UsedOnce s.manager s.starting) : Unique s := by
  constructor
  · rw [List.nodup_iff_count_le_one]
    intro streamID
    have bound := once.once streamID
    rw [uses] at bound
    omega
  · rw [List.nodup_iff_count_le_one]
    intro streamID
    have bound := once.once streamID
    rw [uses] at bound
    omega
  · intro streamID playing waiting
    have bound := once.once streamID
    have first := List.count_pos_iff.mpr playing
    have second := List.count_pos_iff.mpr waiting
    rw [uses] at bound
    omega
  · exact once.others

/-- As long as `SetPlay` decides about no stream that plays, waits or is being started, no
stream is twice in the queues and none is stopped to be started itself. -/
theorem queues_unique (cfg : Config) (events : List Event)
    (idle : Along (step cfg) PlaysIdle {} events) : Unique (reached cfg events) := by
  have once : UsedOnce (reached cfg events).manager (reached cfg events).starting :=
    invariant_of_along (fun s => UsedOnce s.manager s.starting)
      (fun _ _ once idle => step_usedOnce once idle) idle
      ⟨fun _ => Nat.zero_le _, fun _ member => absurd member List.not_mem_nil⟩
  exact once.unique

theorem in_turn_unique : Unique (reached onlyOne playInTurn) :=
  queues_unique onlyOne playInTurn (by decide +kernel)

def twoAtOnce : Config := ⟨.sameSoundInterrupt, 2, by decide⟩

/-- One sound, played twice. -/
def playAgain : List Event :=
  [.play 1 0 [], .run 0 {}, .run 0 {}, .run 0 {}, .run 0 {}, .run 1 {}, .run 1 {}, .run 1 {},
    .play 1 0 [], .run 2 {}, .run 2 {}, .run 2 {}, .run 2 {}]

/-- With a place to spare the stream is in the playing queue twice; without one it is stopped
to be started itself. -/
theorem again_not_unique : (reached twoAtOnce playAgain).manager.playingStreamIDs = [1, 1] ∧
      ¬ Unique (reached twoAtOnce playAgain) ∧
      (reached onlyOne (playAgain.take 12)).starting = [(1, some 1)] ∧
      ¬ Unique (reached onlyOne (playAgain.take 12)) := by
  have twice : (reached twoAtOnce playAgain).manager.playingStreamIDs = [1, 1] := by
    decide +kernel
  have itself : (reached onlyOne (playAgain.take 12)).starting = [(1, some 1)] := by
    decide +kernel
  refine ⟨twice, ?_, itself, ?_⟩
  · intro unique
    have apart := unique.playing
    rw [twice] at apart
    exact absurd apart (by decide)
  · intro unique
    have others := unique.others (1, some 1) (by rw [itself]; exact List.mem_singleton_self _)
    exact others rfl

end PlayerFramework.SoundPool
