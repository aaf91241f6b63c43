import PlayerFramework.SoundPool.StreamIDManager

/-!
What an action does to the two queues, and to the streams that have left `SetPlay` or
`OnPlayFinished` to be started and are not in the playing queue yet.
-/

namespace PlayerFramework.SoundPool

/-- The stream an action starts, and the one that was stopped for it. -/
def Action.start? : Action → Option (Int × Option Int)
  | .addPlayTask streamID lastStreamID => some (streamID, lastStreamID)
  | _ => none

/-- The stream that a section of `SetPlay` decides about, where it finds it. -/
def StreamIDManager.decides? (m : StreamIDManager) : Action → Option Int
  | .setPlay streamID _ => if (m.getStreamByStreamID streamID).isSome then some streamID else none
  | .setPlayDecision _ streamID => some streamID
  | _ => none

/-- The stream whose end lets a waiting one be played. -/
def StreamIDManager.promotes? (m : StreamIDManager) : Action → Option Int
  | .onPlayFinished streamID =>
    if (m.getStreamByStreamID streamID).isSome ∧ m.willPlayStreamIDs ≠ [] then some streamID
    else none
  | _ => none

def starts (actions : List Action) : List (Int × Option Int) := actions.filterMap Action.start?

def Outcome.starts (outcome : Outcome) : List (Int × Option Int) :=
  SoundPool.starts (outcome.next ++ outcome.created.flatten)

def PoolState.starting (s : PoolState) : List (Int × Option Int) := starts s.threads.flatten

/-- Everything an action can do to the queues. -/
inductive Effect (limit : Nat) (m : StreamIDManager) (action : Action) (outcome : Outcome) : Prop
  | fewer
      (playing : outcome.manager.playingStreamIDs.Subperm m.playingStreamIDs)
      (willPlay : outcome.manager.willPlayStreamIDs.Subperm m.willPlayStreamIDs)
      (none : action.start? = none) (starts : outcome.starts = [])
  | added (streamID : Int) (last : Option Int) (start : action.start? = some (streamID, last))
      (playing : outcome.manager.playingStreamIDs.Subperm (streamID :: m.playingStreamIDs))
      (willPlay : outcome.manager.willPlayStreamIDs = m.willPlayStreamIDs)
      (starts : outcome.starts = [])
  | room (streamID : Int) (decides : m.decides? action = some streamID)
      (short : m.playingStreamIDs.length < limit)
      (playing : outcome.manager.playingStreamIDs = m.playingStreamIDs)
      (willPlay : outcome.manager.willPlayStreamIDs = m.willPlayStreamIDs)
      (starts : outcome.starts = [(streamID, none)])
  | replaced (streamID last : Int) (decides : m.decides? action = some streamID)
      (present : m.playingStreamIDs.getLast? = some last)
      (playing : outcome.manager.playingStreamIDs = m.playingStreamIDs.dropLast)
      (willPlay : outcome.manager.willPlayStreamIDs = m.willPlayStreamIDs)
      (starts : outcome.starts = [(streamID, some last)])
  | queued (streamID : Int) (decides : m.decides? action = some streamID)
      (playing : outcome.manager.playingStreamIDs = m.playingStreamIDs)
      (willPlay : outcome.manager.willPlayStreamIDs.Subperm (streamID :: m.willPlayStreamIDs))
      (starts : outcome.starts = [])
  | promoted (streamID waiting : Int) (promotes : m.promotes? action = some streamID)
      (playing : outcome.manager.playingStreamIDs = m.playingStreamIDs.erase streamID)
      (willPlay : m.willPlayStreamIDs = waiting :: outcome.manager.willPlayStreamIDs)
      (starts : outcome.starts = [(waiting, none)])

theorem starts_map {α : Type} (items : List α) {action : α → Action}
    (none : ∀ item, (action item).start? = none) : starts (items.map action) = [] := by
  induction items with
  | nil => rfl
  | cons item rest ih =>
    rw [List.map_cons, starts, List.filterMap_cons_none (none item)]
    exact ih

namespace StreamIDManager

variable {limit : Nat} {m : StreamIDManager} {action : Action}

theorem untouched {outcome : Outcome}
    (playing : outcome.manager.playingStreamIDs = m.playingStreamIDs)
    (willPlay : outcome.manager.willPlayStreamIDs = m.willPlayStreamIDs)
    (none : action.start? = none) (starts : outcome.starts = []) :
    Effect limit m action outcome := by
  refine .fewer ?_ ?_ none starts
  · rw [playing]
  · rw [willPlay]

theorem removeStreams_queues (untilFew : Bool) (state : StreamState) (streams : List Nat)
    (m : StreamIDManager) :
    (removeStreams untilFew state streams m).1.playingStreamIDs = m.playingStreamIDs ∧
      (removeStreams untilFew state streams m).1.willPlayStreamIDs = m.willPlayStreamIDs := by
  induction streams generalizing m with
  | nil => exact ⟨rfl, rfl⟩
  | cons stream rest ih =>
    rw [removeStreams]
    split
    · exact ⟨rfl, rfl⟩
    · split
      · exact ih (m.unmap stream)
      · exact ih m

theorem addReleaseTask_starts (streams : List Nat) :
    starts (addReleaseTask streams).flatten = [] := by
  rw [addReleaseTask]
  split
  · rfl
  · rw [List.flatten_singleton]
    exact starts_map streams fun _ => rfl

theorem removeInvalidStreams_effect (limit : Nat) (mode : InterruptMode) (m : StreamIDManager)
    (order : List Int) :
    Effect limit m (.removeInvalidStreams order) (m.removeInvalidStreams mode order) := by
  cases mode with
  | sameSoundInterrupt =>
    have first := removeStreams_queues false .released m.sortedByStreamID m
    have second := removeStreams_queues true .stopped m.sortedByStreamID
      (removeStreams false .released m.sortedByStreamID m).1
    have third := removeStreams_queues true .prepared m.sortedByStreamID
      (removeStreams true .stopped m.sortedByStreamID
        (removeStreams false .released m.sortedByStreamID m).1).1
    exact untouched (third.1.trans (second.1.trans first.1))
      (third.2.trans (second.2.trans first.2)) rfl (addReleaseTask_starts _)
  | noInterrupt =>
    have first := removeStreams_queues true .released (m.streamsOfSounds order) m
    refine untouched first.1 first.2 rfl ?_
    simp only [removeInvalidStreams, Outcome.starts]
    split
    · exact addReleaseTask_starts _
    · exact addReleaseTask_starts _

theorem removeStoppedStreams_effect (limit : Nat) (m : StreamIDManager) (order : List Int) :
    Effect limit m (.removeStoppedStreams order) (m.removeStoppedStreams order) := by
  have queues := removeStreams_queues true .stopped (m.streamsOfSounds order) m
  exact untouched queues.1 queues.2 rfl (addReleaseTask_starts _)

theorem getAvailableStreamIDBySoundID_queues {mode : InterruptMode} {prepared : StreamIDManager}
    {soundID streamID : Int}
    (available : m.getAvailableStreamIDBySoundID mode soundID = some (streamID, prepared)) :
    prepared.playingStreamIDs = m.playingStreamIDs ∧
      prepared.willPlayStreamIDs = m.willPlayStreamIDs := by
  cases mode with
  | sameSoundInterrupt =>
    simp only [getAvailableStreamIDBySoundID] at available
    split at available
    · cases available
    · split at available
      · cases available
        exact ⟨rfl, rfl⟩
      · cases available
  | noInterrupt =>
    simp only [getAvailableStreamIDBySoundID] at available
    split at available
    · cases available
    · obtain ⟨audio, there, same⟩ := Option.map_eq_some_iff.mp available
      cases same
      exact ⟨rfl, rfl⟩

theorem createAudioStream_queues (mode : InterruptMode) (m : StreamIDManager) (soundID : Int)
    (answers : Answers) :
    (m.createAudioStream mode soundID answers).2.playingStreamIDs = m.playingStreamIDs ∧
      (m.createAudioStream mode soundID answers).2.willPlayStreamIDs = m.willPlayStreamIDs := by
  simp only [createAudioStream]
  split
  · exact ⟨rfl, rfl⟩
  · exact ⟨rfl, rfl⟩

theorem getStream_effect (limit : Nat) (mode : InterruptMode) (m : StreamIDManager)
    (soundID priority : Int) (answers : Answers) :
    Effect limit m (.getStream soundID priority) (m.getStream mode soundID priority answers) := by
  rw [getStream]
  split
  · rename_i streamID prepared available
    have queues := getAvailableStreamIDBySoundID_queues available
    refine untouched queues.1 queues.2 rfl ?_
    cases mode with
    | sameSoundInterrupt | noInterrupt => rfl
  · have queues := createAudioStream_queues mode m soundID answers
    split
    · rename_i streamID created same
      rw [same] at queues
      refine untouched queues.1 queues.2 rfl ?_
      cases mode with
      | sameSoundInterrupt | noInterrupt => rfl
    · rename_i unchanged same
      rw [same] at queues
      exact untouched queues.1 queues.2 rfl rfl

theorem playOrReplace_effect {before notPlayed : StreamIDManager} (stream : Nat) {streamID : Int}
    (decides : before.decides? action = some streamID) (none : action.start? = none)
    (playing : m.playingStreamIDs = before.playingStreamIDs)
    (willPlay : m.willPlayStreamIDs = before.willPlayStreamIDs)
    (notPlaying : notPlayed.playingStreamIDs = before.playingStreamIDs)
    (waiting : notPlayed.willPlayStreamIDs.Subperm (streamID :: before.willPlayStreamIDs)) :
    Effect limit before action (m.playOrReplace limit stream streamID notPlayed) := by
  rw [playOrReplace]
  split
  · exact .room streamID decides (by rwa [← playing]) playing willPlay rfl
  split
  · exact untouched playing willPlay none rfl
  rename_i last present
  split
  · refine .fewer ?_ ?_ none rfl
    · rw [← playing]
      exact (List.dropLast_sublist _).subperm
    · rw [← willPlay]
  · split
    · exact .replaced streamID last decides (by rw [← playing, present])
        (by rw [← playing]) willPlay rfl
    · exact .queued streamID decides notPlaying waiting rfl

theorem setPlay_effect (limit : Nat) (m : StreamIDManager) (streamID priority : Int) :
    Effect limit m (.setPlay streamID priority) (m.setPlay limit streamID priority) := by
  rw [setPlay]
  split
  · exact untouched rfl rfl rfl rfl
  · rename_i stream found
    have decides : m.decides? (.setPlay streamID priority) = some streamID := by
      rw [decides?, found, if_pos Option.isSome_some]
    exact playOrReplace_effect _ decides rfl rfl rfl rfl (queueAndSort_subperm _ _ _)

theorem setPlayDecision_effect (limit : Nat) (m : StreamIDManager) (stream : Nat)
    (streamID : Int) :
    Effect limit m (.setPlayDecision stream streamID) (m.setPlayDecision limit stream streamID) :=
  playOrReplace_effect stream rfl rfl rfl rfl rfl (List.sublist_cons_self _ _).subperm

theorem playStream_effect (limit : Nat) (mode : InterruptMode) (m : StreamIDManager)
    (stream : Nat) (answers : Answers) :
    Effect limit m (.playStream stream) (m.playStream mode stream answers) := by
  rw [playStream]
  split
  · exact untouched rfl rfl rfl rfl
  split
  · exact untouched rfl rfl rfl rfl
  split
  · exact untouched rfl rfl rfl rfl
  · split
    · exact untouched rfl rfl rfl rfl
    · exact untouched rfl rfl rfl rfl

theorem startRenderer_effect (limit : Nat) (mode : InterruptMode) (m : StreamIDManager)
    (stream : Nat) (answers : Answers) :
    Effect limit m (.startRenderer stream) (m.startRenderer mode stream answers) := by
  rw [startRenderer]
  split
  · exact untouched rfl rfl rfl rfl
  dsimp only
  split
  · exact untouched rfl rfl rfl rfl
  · refine untouched rfl rfl rfl ?_
    split
    · rfl
    · rfl

theorem postProcessing_effect (limit : Nat) (m : StreamIDManager) (streamID : Int) :
    Effect limit m (.postProcessing streamID) { manager := m.postProcessing streamID } := by
  rw [postProcessing]
  split
  · split
    · exact untouched rfl rfl rfl rfl
    · exact .fewer List.erase_sublist.subperm (List.Subperm.refl _) rfl rfl
  · exact untouched rfl rfl rfl rfl

theorem stop_effect (limit : Nat) (m : StreamIDManager) (stream : Nat) (tooEarly : Bool) :
    Effect limit m (.stop stream tooEarly) (m.stop stream tooEarly) := by
  rw [stop]
  split
  · exact untouched rfl rfl rfl rfl
  split
  · exact untouched rfl rfl rfl rfl
  · split
    · exact untouched rfl rfl rfl rfl
    · exact untouched rfl rfl rfl rfl

theorem innerProcessOfOnPlayFinished_queues (m : StreamIDManager) (streamID : Int) :
    (m.innerProcessOfOnPlayFinished streamID).1.playingStreamIDs =
        m.playingStreamIDs.erase streamID ∧
      (m.innerProcessOfOnPlayFinished streamID).1.willPlayStreamIDs = m.willPlayStreamIDs ∧
      (m.innerProcessOfOnPlayFinished streamID).2 = (m.getStreamByStreamID streamID).isSome := by
  simp only [innerProcessOfOnPlayFinished]
  split
  · rename_i there
    rw [there]
    exact ⟨rfl, rfl, rfl⟩
  · rename_i stream there
    rw [there]
    exact ⟨rfl, rfl, rfl⟩

theorem onPlayFinished_effect (limit : Nat) (mode : InterruptMode) (m : StreamIDManager)
    (streamID : Int) :
    Effect limit m (.onPlayFinished streamID) (m.onPlayFinished mode streamID) := by
  obtain ⟨playing, willPlay, found⟩ := innerProcessOfOnPlayFinished_queues m streamID
  have erased {outcome : Outcome}
      (same : outcome = { manager := (m.innerProcessOfOnPlayFinished streamID).1 }) :
      Effect limit m (.onPlayFinished streamID) outcome := by
    subst same
    refine .fewer ?_ ?_ rfl rfl
    · rw [playing]
      exact List.erase_sublist.subperm
    · rw [willPlay]
  cases mode with
  | noInterrupt => exact erased rfl
  | sameSoundInterrupt =>
    rcases result : m.innerProcessOfOnPlayFinished streamID with ⟨finished, there⟩
    rw [result] at playing willPlay found erased
    cases there with
    | false =>
      simp only [onPlayFinished, result]
      exact erased rfl
    | true =>
      simp only [onPlayFinished, result]
      split
      · exact erased rfl
      rename_i waiting rest front
      have waits : m.willPlayStreamIDs = waiting :: rest := willPlay.symm.trans front
      have promotes : m.promotes? (.onPlayFinished streamID) = some streamID := by
        rw [promotes?, if_pos ⟨found.symm, by rw [waits]; exact List.cons_ne_nil _ _⟩]
      exact .promoted streamID waiting promotes playing waits rfl

theorem reorderStream_effect (limit : Nat) (m : StreamIDManager) :
    Effect limit m .reorderStream { manager := m.reorderStream } :=
  .fewer (reorder_perm _ _).subperm (reorder_perm _ _).subperm rfl rfl

theorem clearStreamIDInDeque_effect (limit : Nat) (mode : InterruptMode) (m : StreamIDManager)
    (soundID streamID : Int) :
    Effect limit m (.clearStreamIDInDeque soundID streamID)
      { manager := m.clearStreamIDInDeque mode soundID streamID } := by
  have kept (cleared : StreamIDManager) :
      (cleared.removeStreamBySoundIDAndStreamID soundID streamID).playingStreamIDs =
          cleared.playingStreamIDs ∧
        (cleared.removeStreamBySoundIDAndStreamID soundID streamID).willPlayStreamIDs =
          cleared.willPlayStreamIDs := by
    rw [removeStreamBySoundIDAndStreamID]
    split
    · exact ⟨rfl, rfl⟩
    · exact ⟨rfl, rfl⟩
  refine .fewer ?_ ?_ rfl rfl
  · simp only [clearStreamIDInDeque, (kept _).1]
    exact List.filter_sublist.subperm
  · simp only [clearStreamIDInDeque, (kept _).2]
    cases mode with
    | sameSoundInterrupt => exact List.filter_sublist.subperm
    | noInterrupt => exact List.Subperm.refl _

theorem lookup_effect {outcome : Outcome} (streamID : Int) {found : Nat → Outcome}
    (none : action.start? = none) (looked : outcome =
      match m.getStreamByStreamID streamID with
      | .none => { manager := m }
      | some stream => found stream) (same : ∀ stream, (found stream).manager = m)
    (starts : ∀ stream, (found stream).starts = []) :
    Effect limit m action outcome := by
  rw [looked]
  split
  · exact untouched rfl rfl none rfl
  · rename_i stream there
    exact untouched (by rw [same]) (by rw [same]) none (starts stream)

theorem unload_effect (limit : Nat) (m : StreamIDManager) (soundID : Int) :
    Effect limit m (.unload soundID) (m.unload soundID) := by
  refine untouched rfl rfl rfl ?_
  rw [Outcome.starts, unload, List.flatten_nil, List.append_nil]
  exact starts_map _ fun _ => rfl

theorem perform_effect (cfg : Config) (m : StreamIDManager) (answers : Answers)
    (action : Action) : Effect cfg.limit m action (m.perform cfg answers action) := by
  cases action with
  | removeInvalidStreams order => exact removeInvalidStreams_effect _ _ m order
  | removeStoppedStreams order => exact removeStoppedStreams_effect _ m order
  | getStream soundID priority => exact getStream_effect _ _ m soundID priority answers
  | setPlay streamID priority => exact setPlay_effect _ m streamID priority
  | setPlayLookup streamID priority | setPriority streamID priority
  | unloadStream soundID streamID =>
    exact lookup_effect streamID rfl rfl (fun _ => rfl) (fun _ => rfl)
  | configure stream priority => exact untouched rfl rfl rfl rfl
  | setPlayDecision stream streamID => exact setPlayDecision_effect _ m stream streamID
  | addPlayTask streamID last =>
    exact .added streamID last rfl (queueAndSort_subperm _ _ _) rfl rfl
  | doPlay streamID => exact lookup_effect streamID rfl rfl (fun _ => rfl) (fun _ => rfl)
  | playStream stream => exact playStream_effect _ _ m stream answers
  | startRenderer stream => exact startRenderer_effect _ _ m stream answers
  | postProcessing streamID => exact postProcessing_effect _ m streamID
  | stopAudioStream streamID => exact lookup_effect streamID rfl rfl (fun _ => rfl) (fun _ => rfl)
  | stop stream tooEarly => exact stop_effect _ m stream tooEarly
  | onPlayFinished streamID => exact onPlayFinished_effect _ _ m streamID
  | stopRenderer stream | prioritise stream priority => exact untouched rfl rfl rfl rfl
  | reorderStream => exact reorderStream_effect _ m
  | release stream => exact untouched rfl rfl rfl rfl
  | unload soundID => exact unload_effect _ m soundID
  | clearStreamIDInDeque soundID streamID =>
    exact clearStreamIDInDeque_effect _ _ m soundID streamID

end StreamIDManager

theorem starting_perm {s : PoolState} {thread : Nat} {action : Action}
    (ready : Threads.next? s.threads thread = some action) (outcome : Outcome) :
    (action.start?.toList ++
      starts (Threads.proceed s.threads thread outcome.next outcome.created).flatten).Perm
      (s.starting ++ outcome.starts) := by
  have moved := (Threads.proceed_perm ready outcome.next outcome.created).filterMap Action.start?
  rw [List.filterMap_append] at moved
  refine List.Perm.trans (List.Perm.of_eq ?_) moved
  rw [← List.singleton_append, List.filterMap_append]
  rfl

end PlayerFramework.SoundPool
