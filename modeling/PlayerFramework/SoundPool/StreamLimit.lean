import PlayerFramework.SoundPool.Effects

/-!
How many streams play at once.
-/

namespace PlayerFramework.SoundPool

open Transition

/-- The action lets a stream be started for which no playing one is given up: `SetPlay` finds the
queue short, or a stream that is not in the queue any more ends while others wait. -/
def StreamIDManager.TakesPlace (limit : Nat) (m : StreamIDManager) (action : Action) : Prop :=
  (m.decides? action ≠ none ∧ m.playingStreamIDs.length < limit) ∨
    ∃ streamID ∈ m.promotes? action, streamID ∉ m.playingStreamIDs

instance (limit : Nat) (m : StreamIDManager) (action : Action) :
    Decidable (m.TakesPlace limit action) :=
  inferInstanceAs (Decidable (_ ∨ _))

/-- Where the event takes a place, the streams that play and those being started leave one. -/
def HasRoom (cfg : Config) (s : PoolState) : Event → Prop
  | .run thread _ =>
    ∀ action ∈ Threads.next? s.threads thread, s.manager.TakesPlace cfg.limit action →
      s.manager.playingStreamIDs.length + s.starting.length < cfg.limit
  | _ => True

instance (cfg : Config) (s : PoolState) : (event : Event) → Decidable (HasRoom cfg s event)
  | .run _ _ => inferInstanceAs (Decidable (∀ _ ∈ _, _ → _))
  | .play _ _ _ | .stop _ | .setPriority _ _ | .unload _ | .playbackCompleted _ _
  | .interrupted _ => .isTrue trivial

/-- The streams being started are counted with those that play. -/
def WithinLimit (cfg : Config) (s : PoolState) : Prop :=
  s.manager.playingStreamIDs.length + s.starting.length ≤ cfg.limit

theorem call_starting {s : PoolState} {actions : List Action} (none : starts actions = []) :
    (s.call actions).starting = s.starting := by
  rw [PoolState.starting, PoolState.call, List.flatten_append, List.flatten_singleton, starts,
    List.filterMap_append]
  calc s.threads.flatten.filterMap Action.start? ++ actions.filterMap Action.start? =
        s.starting ++ [] := congrArg (s.starting ++ ·) none
    _ = s.starting := List.append_nil _

theorem effect_withinLimit {limit : Nat} {m : StreamIDManager} {action : Action}
    {outcome : Outcome} (effect : Effect limit m action outcome) {before after : Nat}
    (counted : action.start?.toList.length + after = before + outcome.starts.length)
    (within : m.playingStreamIDs.length + before ≤ limit)
    (room : m.TakesPlace limit action → m.playingStreamIDs.length + before < limit) :
    outcome.manager.playingStreamIDs.length + after ≤ limit := by
  cases effect with
  | fewer playing willPlay none starts =>
    have shorter := playing.length_le
    rw [starts] at counted
    simp at counted
    omega
  | added streamID last start playing willPlay starts =>
    have longer := playing.length_le
    rw [start, starts] at counted
    simp at counted longer
    omega
  | room streamID decides short playing willPlay starts =>
    have more := room (.inl ⟨by rw [decides]; exact Option.some_ne_none _, short⟩)
    rw [starts] at counted
    simp at counted
    rw [playing]
    omega
  | replaced streamID last decides present playing willPlay starts =>
    have nonempty : 0 < m.playingStreamIDs.length :=
      List.length_pos_of_mem (List.mem_of_getLast? present)
    rw [starts] at counted
    simp at counted
    rw [playing, List.length_dropLast]
    omega
  | queued streamID decides playing willPlay starts =>
    rw [starts] at counted
    simp at counted
    rw [playing]
    omega
  | promoted streamID waiting promotes playing willPlay starts =>
    rw [starts] at counted
    simp at counted
    rw [playing]
    by_cases present : streamID ∈ m.playingStreamIDs
    · have nonempty := List.length_pos_of_mem present
      rw [List.length_erase_of_mem present]
      omega
    · have more := room (.inr ⟨streamID, promotes, present⟩)
      rw [List.erase_of_not_mem present]
      omega

theorem runThread_withinLimit {cfg : Config} {s : PoolState} (within : WithinLimit cfg s)
    (thread : Nat) (answers : Answers) (room : HasRoom cfg s (.run thread answers)) :
    WithinLimit cfg (s.runThread cfg thread answers) := by
  rw [PoolState.runThread]
  split
  · exact within
  rename_i action ready
  split
  · exact within
  · have counted := (starting_perm ready (s.manager.perform cfg answers action)).length_eq
    rw [List.length_append, List.length_append] at counted
    exact effect_withinLimit (s.manager.perform_effect cfg answers action) counted within
      (room action ready)

theorem step_withinLimit {cfg : Config} {s : PoolState} (within : WithinLimit cfg s)
    {event : Event} (room : HasRoom cfg s event) : WithinLimit cfg (step cfg s event) := by
  have called {actions : List Action} (none : starts actions = []) :
      WithinLimit cfg (s.call actions) := by
    rw [WithinLimit, call_starting none]
    exact within
  cases event with
  | play soundID priority order | stop streamID | setPriority streamID priority | unload soundID
  | playbackCompleted stream tooEarly | interrupted stream => exact called rfl
  | run thread answers => exact runThread_withinLimit within thread answers room

/-- As long as a place that is taken is free when the streams being started are counted too, no
more streams play than the limit allows. -/
theorem playing_within_limit (cfg : Config) (events : List Event)
    (room : Along (step cfg) (HasRoom cfg) {} events) :
    (reached cfg events).manager.playingStreamIDs.length ≤ cfg.limit := by
  have within : WithinLimit cfg (reached cfg events) :=
    invariant_of_along (WithinLimit cfg) (fun _ _ within room => step_withinLimit within room) room
      (Nat.zero_le _)
  exact Nat.le_trans (Nat.le_add_right _ _) within

def onlyOne : Config := ⟨.sameSoundInterrupt, 1, Int.one_pos⟩

/-- A sound is played, another waits behind it, and the first ends. -/
def playInTurn : List Event :=
  [.play 1 1 [], .run 0 {}, .run 0 {}, .run 0 {}, .run 0 {}, .run 1 {}, .run 1 {}, .run 1 {},
    .play 2 0 [], .run 2 {}, .run 2 {}, .run 2 {},
    .playbackCompleted 0 false, .run 3 {}, .run 3 {}, .run 3 {}]

theorem in_turn_within_limit : (reached onlyOne playInTurn).manager.playingStreamIDs.length ≤ 1 :=
  playing_within_limit onlyOne playInTurn (by decide +kernel)

/-- A sound is played and another waits; a third with a higher priority stops the first, and
the end of the first lets the second be played beside the third. -/
def replaceWhileWaiting : List Event :=
  [.play 1 1 [], .run 0 {}, .run 0 {}, .run 0 {}, .run 0 {}, .run 1 {}, .run 1 {}, .run 1 {},
    .play 2 0 [], .run 2 {}, .run 2 {}, .run 2 {},
    .play 3 5 [], .run 3 {}, .run 3 {}, .run 3 {}, .run 3 {}, .run 4 {}, .run 4 {}, .run 4 {}]

theorem replaced_exceeds_limit :
    (reached onlyOne replaceWhileWaiting).manager.playingStreamIDs = [3, 2] ∧
      ¬ (reached onlyOne replaceWhileWaiting).manager.playingStreamIDs.length ≤ onlyOne.limit := by
  decide +kernel

end PlayerFramework.SoundPool
