import PlayerFramework.SoundPool.StreamIDManager

/-!
The number of streams that the manager counts, against those that its map of sounds has.
-/

namespace PlayerFramework.SoundPool

open Transition

variable {audio : AudioStream}

theorem countP_modify_add (counted : AudioStream → Bool) (change : AudioStream → AudioStream)
    {streams : List AudioStream} {stream : Nat} (there : streams[stream]? = some audio) :
    (streams.modify stream change).countP counted + (if counted audio then 1 else 0) =
      streams.countP counted + (if counted (change audio) then 1 else 0) := by
  rw [List.modify_eq_set_getElem?, there]
  exact countP_set_add there counted (change audio)

namespace StreamIDManager

/-- The streams in the map of sounds. -/
def heldStreams (m : StreamIDManager) : Nat := m.streams.countP AudioStream.mapped

/-- Those of them that are not released. -/
def unreleasedStreams (m : StreamIDManager) : Nat :=
  m.streams.countP fun audio => audio.mapped && decide (audio.streamState ≠ .released)

/-- What the counter has too many. -/
def surplus (m : StreamIDManager) : Int := m.currentStreamsNum - m.heldStreams

/-- `CreateAudioStream` puts its stream in the place of a released one that the map still has. -/
def Overwrites (mode : InterruptMode) (m : StreamIDManager) (answers : Answers) : Action → Prop
  | .getStream soundID _ =>
    mode = .sameSoundInterrupt ∧ answers.created = true ∧
      ∃ audio ∈ m.streams.find? fun audio => audio.mapped && decide (audio.soundID = soundID),
        audio.streamState = .released
  | _ => False

variable {m before after : StreamIDManager} {stream : Nat}

theorem update_surplus (m : StreamIDManager) (stream : Nat) {change : AudioStream → AudioStream}
    (same : ∀ audio, (change audio).mapped = audio.mapped) :
    (m.update stream change).surplus = m.surplus := by
  have held : (m.update stream change).heldStreams = m.heldStreams := by
    cases there : m.streams[stream]? with
    | none =>
      rw [heldStreams, update, List.modify_eq_self (List.getElem?_eq_none_iff.mp there),
        heldStreams]
    | some audio =>
      have counted := countP_modify_add AudioStream.mapped change there
      rw [same] at counted
      exact Nat.add_right_cancel counted
  rw [surplus, held]
  rfl

theorem setStreamState_surplus (m : StreamIDManager) (stream : Nat) (state : StreamState) :
    (m.setStreamState stream state).surplus = m.surplus :=
  m.update_surplus stream fun _ => rfl

theorem playOrReplace_surplus {limit : Nat} {streamID : Int} {notPlayed : StreamIDManager}
    (same : m.surplus = before.surplus) (other : notPlayed.surplus = before.surplus) :
    (m.playOrReplace limit stream streamID notPlayed).manager.surplus = before.surplus := by
  rw [playOrReplace]
  split
  · exact same
  split
  · exact same
  split
  · exact same
  · split
    · exact same
    · exact other

/-- Streams have left the map, and are not counted any more. -/
structure Shrunk (m after : StreamIDManager) : Prop where
  surplus : after.surplus = m.surplus
  number : after.currentStreamsNum ≤ m.currentStreamsNum
  stays : ∀ (stream : Nat) audio, after.streams[stream]? = some audio → audio.mapped = true →
    m.streams[stream]? = some audio

theorem Shrunk.refl (m : StreamIDManager) : Shrunk m m :=
  ⟨rfl, Int.le_refl _, fun _ _ there _ => there⟩

theorem Shrunk.trans (first : Shrunk before m) (second : Shrunk m after) : Shrunk before after :=
  ⟨second.surplus.trans first.surplus, Int.le_trans second.number first.number,
    fun stream audio there mapped =>
      first.stays stream audio (second.stays stream audio there mapped) mapped⟩

theorem unmap_shrunk (there : m.streams[stream]? = some audio) (mapped : audio.mapped = true) :
    Shrunk m (m.unmap stream) where
  surplus := by
    have counted := countP_modify_add AudioStream.mapped
      (fun audio => { audio with mapped := false }) there
    simp only [mapped, if_true, Bool.false_eq_true, if_false, Nat.add_zero] at counted
    simp only [surplus, heldStreams, unmap, update]
    omega
  number := by
    simp only [unmap]
    omega
  stays other audio there mapped := by
    simp only [unmap, update, List.getElem?_modify] at there
    split at there
    · obtain ⟨held, -, same⟩ := Option.map_eq_some_iff.mp there
      rw [← same] at mapped
      cases mapped
    · simpa using there

variable {state : StreamState}

theorem isMappedIn_eq_true : m.isMappedIn stream state = true ↔
      ∃ audio, m.streams[stream]? = some audio ∧ audio.mapped = true ∧
        audio.streamState = state := by
  simp [isMappedIn, Option.any_eq_true]

/-- What the streams are that have left, and that there is none left to leave. -/
structure Removal (untilFew : Bool) (state : StreamState) (streams : List Nat)
    (m after : StreamIDManager) : Prop extends Shrunk m after where
  removed : ∀ (stream : Nat) audio, m.streams[stream]? = some audio → audio.streamState ≠ state →
    after.streams[stream]? = some audio
  few : untilFew = true → after = m ∨ maxNumberOfHeldStreams ≤ after.currentStreamsNum
  complete : maxNumberOfHeldStreams < after.currentStreamsNum →
    ∀ stream ∈ streams, after.isMappedIn stream state = false

theorem removeStreams_removal (untilFew : Bool) (state : StreamState) (streams : List Nat)
    (m : StreamIDManager) :
    Removal untilFew state streams m (removeStreams untilFew state streams m).1 := by
  induction streams generalizing m with
  | nil => exact ⟨.refl m, fun _ _ there _ => there, fun _ => .inl rfl, by simp⟩
  | cons stream rest ih =>
    rw [removeStreams]
    split_ifs with enough isMapped
    · refine ⟨.refl m, fun _ _ there _ => there, fun _ => .inl rfl, ?_⟩
      intro many
      exact absurd enough.2 (Int.not_le.mpr many)
    · obtain ⟨audio, there, mapped, inState⟩ := isMappedIn_eq_true.mp isMapped
      have later := ih (m.unmap stream)
      have shrunk := (unmap_shrunk there mapped).trans later.toShrunk
      refine ⟨shrunk, ?_, ?_, ?_⟩
      · intro other held atOther different
        refine later.removed other held ?_ different
        have apart : stream ≠ other := by
          rintro rfl
          rw [there, Option.some_inj] at atOther
          exact different (atOther ▸ inState)
        simpa [unmap, update, List.getElem?_modify, apart] using atOther
      · intro few
        have many : ¬ m.currentStreamsNum ≤ maxNumberOfHeldStreams := fun less =>
          enough ⟨few, less⟩
        have still : maxNumberOfHeldStreams ≤ (m.unmap stream).currentStreamsNum := by
          simp only [unmap]
          omega
        rcases later.few few with same | enoughLeft
        · exact .inr (Int.le_trans still (Int.le_of_eq (congrArg currentStreamsNum same.symm)))
        · exact .inr enoughLeft
      · intro many other member
        rcases List.mem_cons.mp member with rfl | inRest
        · by_contra stillMapped
          obtain ⟨held, atOther, isHeld, -⟩ :=
            isMappedIn_eq_true.mp (by simpa using stillMapped)
          have unmapped := later.stays other held atOther isHeld
          simp only [unmap, update, List.getElem?_modify_eq] at unmapped
          obtain ⟨_, -, same⟩ := Option.map_eq_some_iff.mp unmapped
          rw [← same] at isHeld
          cases isHeld
        · exact later.complete many other inRest
    · have later := ih m
      refine ⟨later.toShrunk, later.removed, later.few, ?_⟩
      intro many other member
      rcases List.mem_cons.mp member with rfl | inRest
      · by_contra stillMapped
        obtain ⟨held, atOther, isHeld, inState⟩ :=
          isMappedIn_eq_true.mp (by simpa using stillMapped)
        exact isMapped (isMappedIn_eq_true.mpr
          ⟨held, later.stays other held atOther isHeld, isHeld, inState⟩)
      · exact later.complete many other inRest

variable (mode : InterruptMode)

theorem clearStreamIDInDeque_surplus (m : StreamIDManager) (soundID streamID : Int) :
    (m.clearStreamIDInDeque mode soundID streamID).surplus = m.surplus := by
  simp only [clearStreamIDInDeque, removeStreamBySoundIDAndStreamID]
  split
  · rfl
  rename_i stream found
  obtain ⟨within, holds, -⟩ := List.findIdx?_eq_some_iff_getElem.mp found
  have mapped : m.streams[stream].mapped = true := by
    simp only [Bool.and_eq_true] at holds
    exact holds.1
  exact (unmap_shrunk (List.getElem?_eq_getElem within) mapped).surplus

/-- `RemoveInvalidStreams` of the same sound mode goes through the streams three times. -/
theorem removeInvalidSameSound_removals (m : StreamIDManager) :
    ∃ first second, Removal false .released m.sortedByStreamID m first ∧
      Removal true .stopped m.sortedByStreamID first second ∧
        Removal true .prepared m.sortedByStreamID second m.removeInvalidSameSound.manager :=
  ⟨_, _, removeStreams_removal _ _ _ _, removeStreams_removal _ _ _ _,
    removeStreams_removal _ _ _ _⟩

theorem removeInvalidStreams_shrunk (m : StreamIDManager) (order : List Int) :
    Shrunk m (m.removeInvalidStreams mode order).manager := by
  cases mode with
  | sameSoundInterrupt =>
    obtain ⟨first, second, released, stopped, prepared⟩ := m.removeInvalidSameSound_removals
    exact (released.toShrunk.trans stopped.toShrunk).trans prepared.toShrunk
  | noInterrupt => exact (removeStreams_removal true .released _ m).toShrunk

/-- Without the streams of a sound so many fewer are held. -/
theorem heldStreams_split (soundID : Int) (streams : List AudioStream) :
    streams.countP AudioStream.mapped =
      (streams.map fun audio =>
        if audio.soundID = soundID then { audio with mapped := false } else audio).countP
          AudioStream.mapped +
      streams.countP fun audio => audio.mapped && decide (audio.soundID = soundID) := by
  induction streams with
  | nil => rfl
  | cons audio rest ih =>
    rw [List.map_cons, List.countP_cons, List.countP_cons, List.countP_cons, ih]
    by_cases same : audio.soundID = soundID
    · simp [same]
      omega
    · simp [same]
      omega

/-- The surplus grows where a stream is overwritten, and nowhere else. -/
structure Counts (mode : InterruptMode) (m : StreamIDManager) (answers : Answers)
    (action : Action) (after : StreamIDManager) : Prop where
  grows : m.surplus ≤ after.surplus
  same : after.surplus = m.surplus ↔ ¬ m.Overwrites mode answers action

theorem Counts.keep {mode : InterruptMode} {answers : Answers} {action : Action}
    (none : ¬ m.Overwrites mode answers action) (same : after.surplus = m.surplus) :
    Counts mode m answers action after :=
  ⟨Int.le_of_eq same.symm, iff_of_true same none⟩

theorem createAudioStream_surplus (m : StreamIDManager) (soundID : Int) {answers : Answers}
    (created : answers.created = true) :
    (m.createAudioStream .sameSoundInterrupt soundID answers).2.surplus = m.surplus +
      m.streams.countP fun audio => audio.mapped && decide (audio.soundID = soundID) := by
  have split := heldStreams_split soundID m.streams
  simp only [createAudioStream, created, if_true, surplus, heldStreams, List.countP_append,
    List.countP_singleton]
  omega

theorem getStream_counts (m : StreamIDManager) (soundID priority : Int) (answers : Answers) :
    Counts mode m answers (.getStream soundID priority)
      (m.getStream mode soundID priority answers).manager := by
  cases mode with
  | sameSoundInterrupt =>
    simp only [getStream, getAvailableStreamIDBySoundID]
    cases found : m.streams.find? fun audio => audio.mapped && decide (audio.soundID = soundID) with
    | none =>
      have absent : m.streams.countP
          (fun audio => audio.mapped && decide (audio.soundID = soundID)) = 0 := by
        rw [List.countP_eq_zero]
        simpa using List.find?_eq_none.mp found
      refine .keep (by simp [Overwrites, found]) ?_
      by_cases created : answers.created = true
      · have counted := m.createAudioStream_surplus soundID created
        rw [absent] at counted
        simp only [createAudioStream, created, if_true] at counted ⊢
        simpa using counted
      · simp [createAudioStream, created]
        rfl
    | some audio =>
      by_cases released : audio.streamState = .released
      · have present : 0 < m.streams.countP
            fun audio => audio.mapped && decide (audio.soundID = soundID) :=
          List.countP_pos_iff.mpr ⟨audio, List.mem_of_find?_eq_some found,
            by simpa using List.find?_some found⟩
        by_cases created : answers.created = true
        · have counted := m.createAudioStream_surplus soundID created
          simp only [createAudioStream, created, if_true, released, ne_eq, not_true_eq_false,
            if_false] at counted ⊢
          have overwrites : m.Overwrites .sameSoundInterrupt answers
              (.getStream soundID priority) := ⟨rfl, created, audio, found, released⟩
          refine ⟨by omega, iff_of_false (by omega) (not_not.mpr overwrites)⟩
        · refine .keep (fun overwrites => created overwrites.2.1) ?_
          simp [createAudioStream, created, released]
          rfl
      · refine .keep ?_ (by simp [released])
        rintro ⟨-, -, other, same, isReleased⟩
        rw [found] at same
        cases same
        exact released isReleased
  | noInterrupt =>
    refine .keep (fun overwrites => nomatch overwrites.1) ?_
    simp only [getStream, getAvailableStreamIDBySoundID]
    split
    · rename_i streamID prepared available
      split at available
      · cases available
      · obtain ⟨audio, -, same⟩ := Option.map_eq_some_iff.mp available
        cases same
        exact m.setStreamState_surplus _ _
    · simp only [createAudioStream]
      split_ifs
      · simp only [surplus, heldStreams, List.countP_append, List.countP_singleton, if_true]
        omega
      · rfl

theorem setPlay_surplus (limit : Nat) (m : StreamIDManager) (streamID priority : Int) :
    (m.setPlay limit streamID priority).manager.surplus = m.surplus := by
  rw [setPlay]
  split
  · rfl
  · rename_i stream found
    have configured : (m.configure stream priority).surplus = m.surplus :=
      m.update_surplus stream fun _ => rfl
    exact playOrReplace_surplus configured configured

theorem setPlayDecision_surplus (limit : Nat) (m : StreamIDManager) (stream : Nat)
    (streamID : Int) : (m.setPlayDecision limit stream streamID).manager.surplus = m.surplus := by
  refine playOrReplace_surplus rfl (m.update_surplus stream ?_)
  intro audio
  split <;> rfl

theorem playStream_surplus (m : StreamIDManager) (stream : Nat) (answers : Answers) :
    (m.playStream mode stream answers).manager.surplus = m.surplus := by
  rw [playStream]
  split
  · rfl
  split
  · rfl
  · split
    · rfl
    · split <;> exact m.update_surplus stream fun _ => rfl

theorem startRenderer_surplus (m : StreamIDManager) (stream : Nat) (answers : Answers) :
    (m.startRenderer mode stream answers).manager.surplus = m.surplus := by
  have unlocked (state : StreamState) :
      ((m.setStreamState stream state).unlock stream).surplus = m.surplus := by
    rw [unlock, update_surplus, setStreamState_surplus]
    exact fun _ => rfl
  simp only [startRenderer]
  split
  · rfl
  · split_ifs <;> exact unlocked _

theorem postProcessing_surplus (m : StreamIDManager) (streamID : Int) :
    (m.postProcessing streamID).surplus = m.surplus := by
  rw [postProcessing]
  split
  · split
    · rfl
    · exact setStreamState_surplus _ _ _
  · rfl

theorem stop_surplus (m : StreamIDManager) (stream : Nat) (tooEarly : Bool) :
    (m.stop stream tooEarly).manager.surplus = m.surplus := by
  rw [StreamIDManager.stop]
  split
  · rfl
  split
  · rfl
  · split
    · exact m.update_surplus stream fun _ => rfl
    · rfl

theorem onPlayFinished_surplus (m : StreamIDManager) (streamID : Int) :
    (m.onPlayFinished mode streamID).manager.surplus = m.surplus := by
  have finished : (m.innerProcessOfOnPlayFinished streamID).1.surplus = m.surplus := by
    simp only [innerProcessOfOnPlayFinished]
    split
    · rfl
    · refine update_surplus _ _ ?_
      intro audio
      split <;> rfl
  unfold onPlayFinished
  split
  · rename_i same
    rw [same] at finished
    split <;> exact finished
  · rename_i same
    rwa [same] at finished

theorem perform_counts (cfg : Config) (m : StreamIDManager) (answers : Answers) (action : Action) :
    Counts cfg.interruptMode m answers action (m.perform cfg answers action).manager := by
  cases action with
  | removeInvalidStreams order => exact .keep id (m.removeInvalidStreams_shrunk _ order).surplus
  | removeStoppedStreams order => exact .keep id (removeStreams_removal true .stopped _ m).surplus
  | getStream soundID priority => exact m.getStream_counts _ soundID priority answers
  | setPlay streamID priority => exact .keep id (m.setPlay_surplus _ streamID priority)
  | setPlayLookup streamID priority =>
    refine .keep id ?_
    simp only [perform, setPlayLookup]
    split <;> rfl
  | configure stream priority | prioritise stream priority | release stream
  | stopRenderer stream => exact .keep id (m.update_surplus stream fun _ => rfl)
  | setPlayDecision stream streamID =>
    exact .keep id (m.setPlayDecision_surplus _ stream streamID)
  | addPlayTask streamID lastStreamID => exact .keep id rfl
  | doPlay streamID =>
    refine .keep id ?_
    simp only [perform, doPlay]
    split <;> rfl
  | playStream stream => exact .keep id (m.playStream_surplus _ stream answers)
  | startRenderer stream => exact .keep id (m.startRenderer_surplus _ stream answers)
  | postProcessing streamID => exact .keep id (m.postProcessing_surplus streamID)
  | stopAudioStream streamID =>
    refine .keep id ?_
    simp only [perform, stopAudioStream]
    split <;> rfl
  | stop stream tooEarly => exact .keep id (m.stop_surplus stream tooEarly)
  | onPlayFinished streamID => exact .keep id (m.onPlayFinished_surplus _ streamID)
  | setPriority streamID priority =>
    refine .keep id ?_
    simp only [perform, setPriority]
    split <;> rfl
  | reorderStream | unload soundID => exact .keep id rfl
  | unloadStream soundID streamID =>
    refine .keep id ?_
    simp only [perform, unloadStream]
    split <;> rfl
  | clearStreamIDInDeque soundID streamID =>
    exact .keep id (m.clearStreamIDInDeque_surplus _ soundID streamID)

/-- The states whose streams a removal takes out of the map. -/
def evicted (mode : InterruptMode) : Action → List StreamState
  | .removeInvalidStreams _ =>
    match mode with
    | .sameSoundInterrupt => [.released, .stopped, .prepared]
    | .noInterrupt => [.released]
  | .removeStoppedStreams _ => [.stopped]
  | _ => []

/-- A removal that goes through the hash map comes by every sound of it. -/
def Covers (mode : InterruptMode) (m : StreamIDManager) : Action → Prop
  | .removeInvalidStreams order =>
    mode = .noInterrupt → ∀ audio ∈ m.streams, audio.mapped = true → audio.soundID ∈ order
  | .removeStoppedStreams order =>
    ∀ audio ∈ m.streams, audio.mapped = true → audio.soundID ∈ order
  | _ => True

/-- What the cap asks of the removals: none takes a stream out that is not released where no more
would be held than the cap allows, and where more are held it leaves none to be taken out. -/
structure CapKept (cfg : Config) (m : StreamIDManager) : Prop where
  spared : ∀ action answers, evicted cfg.interruptMode action ≠ [] →
    ∀ (stream : Nat) audio, m.streams[stream]? = some audio → audio.mapped = true →
      audio.streamState ≠ .released →
      (m.perform cfg answers action).manager.streams[stream]? ≠ some audio →
        maxNumberOfHeldStreams ≤ (m.perform cfg answers action).manager.heldStreams
  bounded : ∀ action answers, m.Covers cfg.interruptMode action →
    maxNumberOfHeldStreams < (m.perform cfg answers action).manager.heldStreams →
      ∀ state ∈ evicted cfg.interruptMode action,
        ∀ audio ∈ (m.perform cfg answers action).manager.streams, audio.mapped = true →
          audio.streamState ≠ state

theorem mem_sortedByStreamID (there : m.streams[stream]? = some audio)
    (mapped : audio.mapped = true) : stream ∈ m.sortedByStreamID := by
  have within := (List.getElem?_eq_some_iff.mp there).1
  simp only [sortedByStreamID, List.mem_insertionSort, List.mem_filter, List.mem_range]
  exact ⟨within, by simp [there, mapped]⟩

theorem mem_streamsOfSounds {order : List Int} (there : m.streams[stream]? = some audio)
    (mapped : audio.mapped = true) (covered : audio.soundID ∈ order) :
    stream ∈ m.streamsOfSounds order := by
  have within := (List.getElem?_eq_some_iff.mp there).1
  simp only [streamsOfSounds, List.mem_flatMap, List.mem_filter, List.mem_range]
  exact ⟨audio.soundID, covered, within, by simp [there, mapped]⟩

/-- A removal that has passed by all mapped streams leaves none in its state. -/
theorem Removal.none_left {untilFew : Bool} {streams : List Nat}
    (removal : Removal untilFew state streams m after)
    (all : ∀ (stream : Nat) audio, m.streams[stream]? = some audio → audio.mapped = true →
      stream ∈ streams)
    (many : maxNumberOfHeldStreams < after.currentStreamsNum) (member : audio ∈ after.streams)
    (mapped : audio.mapped = true) : audio.streamState ≠ state := by
  obtain ⟨stream, there⟩ := List.getElem?_of_mem member
  have passed := removal.complete many stream
    (all stream audio (removal.stays stream audio there mapped) mapped)
  intro inState
  rw [isMappedIn_eq_true.mpr ⟨audio, there, mapped, inState⟩] at passed
  cases passed

theorem Shrunk.member (shrunk : Shrunk m after) (member : audio ∈ after.streams)
    (mapped : audio.mapped = true) : audio ∈ m.streams := by
  obtain ⟨stream, there⟩ := List.getElem?_of_mem member
  exact List.mem_of_getElem? (shrunk.stays stream audio there mapped)

theorem Shrunk.counted (shrunk : Shrunk m after) (counts : m.surplus = 0)
    (enough : maxNumberOfHeldStreams ≤ after.currentStreamsNum) :
    maxNumberOfHeldStreams ≤ after.heldStreams := by
  have counted := shrunk.surplus
  rw [counts, StreamIDManager.surplus] at counted
  omega

theorem spared_sameSound (m : StreamIDManager) (counts : m.surplus = 0)
    (there : m.streams[stream]? = some audio) (unreleased : audio.streamState ≠ .released)
    (gone : m.removeInvalidSameSound.manager.streams[stream]? ≠ some audio) :
    maxNumberOfHeldStreams ≤ m.removeInvalidSameSound.manager.heldStreams := by
  obtain ⟨first, second, released, stopped, prepared⟩ := m.removeInvalidSameSound_removals
  have kept := released.removed stream audio there unreleased
  suffices enough : maxNumberOfHeldStreams ≤ m.removeInvalidSameSound.manager.currentStreamsNum from
    (m.removeInvalidStreams_shrunk .sameSoundInterrupt []).counted counts enough
  rcases prepared.few rfl with same | enough
  · rcases stopped.few rfl with unchanged | enough
    · rw [same, unchanged] at gone
      exact absurd kept gone
    · rwa [same]
  · exact enough

theorem bounded_sameSound (m : StreamIDManager)
    (many : maxNumberOfHeldStreams < m.removeInvalidSameSound.manager.currentStreamsNum)
    (taken : state ∈ evicted .sameSoundInterrupt (.removeInvalidStreams []))
    (member : audio ∈ m.removeInvalidSameSound.manager.streams) (mapped : audio.mapped = true) :
    audio.streamState ≠ state := by
  obtain ⟨first, second, released, stopped, prepared⟩ := m.removeInvalidSameSound_removals
  have inSecond := prepared.member member mapped
  have inFirst := stopped.member inSecond mapped
  have manySecond := Int.lt_of_lt_of_le many prepared.number
  have manyFirst := Int.lt_of_lt_of_le manySecond stopped.number
  have sorted : ∀ (stream : Nat) audio, m.streams[stream]? = some audio → audio.mapped = true →
      stream ∈ m.sortedByStreamID := fun _ _ => mem_sortedByStreamID
  have sortedFirst : ∀ (stream : Nat) audio, first.streams[stream]? = some audio →
      audio.mapped = true → stream ∈ m.sortedByStreamID := fun stream audio there isMapped =>
    sorted stream audio (released.stays stream audio there isMapped) isMapped
  simp only [evicted, List.mem_cons, List.not_mem_nil, or_false] at taken
  rcases taken with rfl | rfl | rfl
  · exact released.none_left sorted manyFirst inFirst mapped
  · exact stopped.none_left sortedFirst manySecond inSecond mapped
  · refine prepared.none_left ?_ many member mapped
    intro stream audio there isMapped
    exact sortedFirst stream audio (stopped.stays stream audio there isMapped) isMapped

theorem capKept (cfg : Config) (counts : m.surplus = 0) : CapKept cfg m where
  spared action answers evicts stream audio there mapped unreleased gone := by
    cases action with
    | removeInvalidStreams order =>
      simp only [perform, removeInvalidStreams] at gone ⊢
      cases mode : cfg.interruptMode with
      | sameSoundInterrupt =>
        simp only [mode] at gone ⊢
        exact m.spared_sameSound counts there unreleased gone
      | noInterrupt =>
        simp only [mode] at gone ⊢
        have removal := removeStreams_removal true .released (m.streamsOfSounds order) m
        exact absurd (removal.removed stream audio there unreleased) gone
    | removeStoppedStreams order =>
      have removal := removeStreams_removal true .stopped (m.streamsOfSounds order) m
      rcases removal.few rfl with same | enough
      · refine absurd ?_ gone
        simpa [perform, removeStoppedStreams, innerProcessOfRemoveInvalidStreams, same] using there
      · exact removal.counted counts enough
    | _ => exact absurd rfl evicts
  bounded action answers covers many state taken audio member mapped := by
    have counted (shrunk : Shrunk m (m.perform cfg answers action).manager) :
        maxNumberOfHeldStreams < (m.perform cfg answers action).manager.currentStreamsNum := by
      have same := shrunk.surplus
      rw [counts, surplus] at same
      omega
    cases action with
    | removeInvalidStreams order =>
      have enough := counted (m.removeInvalidStreams_shrunk _ order)
      simp only [perform, removeInvalidStreams] at enough member
      cases mode : cfg.interruptMode with
      | sameSoundInterrupt =>
        simp only [mode] at enough member taken
        exact m.bounded_sameSound enough taken member mapped
      | noInterrupt =>
        simp only [mode, evicted, List.mem_singleton] at enough member taken
        subst taken
        refine (removeStreams_removal true .released (m.streamsOfSounds order) m).none_left ?_
          enough member mapped
        intro stream held there isMapped
        exact mem_streamsOfSounds there isMapped
          (covers mode held (List.mem_of_getElem? there) isMapped)
    | removeStoppedStreams order =>
      have removal := removeStreams_removal true .stopped (m.streamsOfSounds order) m
      obtain rfl := List.mem_singleton.mp taken
      refine removal.none_left ?_ (counted removal.toShrunk) member mapped
      intro stream held there isMapped
      exact mem_streamsOfSounds there isMapped (covers held (List.mem_of_getElem? there) isMapped)
    | _ => cases taken

/-- The counter is right where the surplus is none, and no smaller number is ever right. -/
theorem unreleased_iff (counted : m.heldStreams ≤ m.currentStreamsNum) :
    m.currentStreamsNum = m.unreleasedStreams ↔ m.currentStreamsNum = m.heldStreams ∧
      ∀ audio ∈ m.streams, audio.mapped = true → audio.streamState ≠ .released := by
  have within : m.heldStreams = (m.streams.filter AudioStream.mapped).length :=
    List.countP_eq_length_filter
  have unreleased : m.unreleasedStreams = (m.streams.filter AudioStream.mapped).countP
      fun audio => decide (audio.streamState ≠ .released) := by
    rw [List.countP_filter, unreleasedStreams]
    exact List.countP_congr fun audio _ => by rw [Bool.and_comm]
  have fewer : m.unreleasedStreams ≤ m.heldStreams := by
    rw [within, unreleased]
    exact List.countP_le_length
  have all : m.unreleasedStreams = m.heldStreams ↔
      ∀ audio ∈ m.streams, audio.mapped = true → audio.streamState ≠ .released := by
    rw [within, unreleased, List.countP_eq_length]
    simp [List.mem_filter]
  rw [← all]
  omega

end StreamIDManager

/-- No step of the run overwrites a stream. -/
def OverwritesNone (cfg : Config) (s : PoolState) : Event → Prop
  | .run thread answers =>
    ∀ action ∈ Threads.next? s.threads thread,
      ¬ s.manager.Overwrites cfg.interruptMode answers action
  | _ => True

theorem step_counts (cfg : Config) (s : PoolState) (event : Event) :
    s.manager.surplus ≤ (step cfg s event).manager.surplus ∧
      ((step cfg s event).manager.surplus = s.manager.surplus ↔ OverwritesNone cfg s event) := by
  cases event with
  | run thread answers =>
    simp only [step, PoolState.runThread, OverwritesNone]
    cases ready : Threads.next? s.threads thread with
    | none => simp
    | some action =>
      have counts := s.manager.perform_counts cfg answers action
      simp only [Option.mem_def, Option.some.injEq, forall_eq']
      split
      · rename_i waits
        refine ⟨Int.le_refl _, iff_of_true rfl ?_⟩
        intro overwrites
        cases action <;> first | exact overwrites | cases waits
      · exact ⟨counts.grows, counts.same⟩
  | _ => exact ⟨Int.le_refl _, iff_of_true rfl trivial⟩

/-- The counter is the number of streams in the map as long as no stream is overwritten there,
and the number of those not released as long as, besides, none released is left in the map; the
cap is then kept. -/
theorem counter_matches_iff (cfg : Config) (events : List Event) :
    ((reached cfg events).manager.currentStreamsNum = (reached cfg events).manager.heldStreams ↔
      Along (step cfg) (OverwritesNone cfg) {} events) ∧
    ((reached cfg events).manager.currentStreamsNum =
        (reached cfg events).manager.unreleasedStreams ↔
      Along (step cfg) (OverwritesNone cfg) {} events ∧
        ∀ audio ∈ (reached cfg events).manager.streams, audio.mapped = true →
          audio.streamState ≠ .released) ∧
    (Along (step cfg) (OverwritesNone cfg) {} events →
      StreamIDManager.CapKept cfg (reached cfg events).manager) := by
  obtain ⟨grows, same⟩ := measure_iff_along (fun s : PoolState => s.manager.surplus)
    (fun s event => (step_counts cfg s event).1) (fun s event => (step_counts cfg s event).2)
    {} events
  have exactly : (reached cfg events).manager.currentStreamsNum =
      (reached cfg events).manager.heldStreams ↔
        Along (step cfg) (OverwritesNone cfg) {} events := by
    rw [← same, ← Int.sub_eq_zero]
    rfl
  refine ⟨exactly, ?_, ?_⟩
  · rw [← exactly]
    refine StreamIDManager.unreleased_iff ?_
    exact Int.sub_nonneg.mp grows
  · intro along
    exact StreamIDManager.capKept cfg (same.mpr along)

def twoStreams : Config := ⟨.sameSoundInterrupt, 2, Int.natCast_pos.mpr Nat.two_pos⟩

/-- The first play of a sound fails while the second one is between its two sections. -/
def failBetween : List Event :=
  [.play 1 0 [], .run 0 {}, .run 0 {}, .run 0 {}, .run 0 {},
    .play 1 0 [], .run 2 {}, .run 1 {}, .run 1 { created := false }, .run 1 {}, .run 2 {}]

/-- The failed stream goes from the map and stays counted. -/
theorem overwritten_counted :
    let manager := (reached twoStreams failBetween).manager
    manager.currentStreamsNum = 2 ∧ manager.heldStreams = 1 ∧ manager.unreleasedStreams = 1 ∧
      ¬ manager.currentStreamsNum = manager.heldStreams := by
  decide +kernel

end PlayerFramework.SoundPool
