import PlayerFramework.SoundPool.PlayingSet

/-!
When a step of the sound pool keeps the playing queue and the streams that play together.
-/

namespace PlayerFramework.SoundPool

open Transition

namespace StreamIDManager

/-- The stream is in the map, and plays or has its ID in the playing queue. -/
def isUsed (m : StreamIDManager) (stream : Nat) : Bool :=
  m.streams[stream]?.any fun audio => audio.mapped &&
    (decide (audio.streamState = .playing) || decide (audio.streamID ∈ m.playingStreamIDs))

/-- The mapped streams in `state`, in the order of their IDs. -/
def sortedIn (m : StreamIDManager) (state : StreamState) : List Nat :=
  m.sortedByStreamID.filter fun stream => m.isMappedIn stream state

/-- The streams that are not needed: the released ones, and as many others as are held beyond the
cap, the stopped before the prepared. -/
def invalidStreams (m : StreamIDManager) : List Nat :=
  m.sortedIn .released ++ (m.sortedIn .stopped ++ m.sortedIn .prepared).take
    (m.currentStreamsNum - (m.sortedIn .released).length - maxNumberOfHeldStreams).toNat

/-- No stream of the list plays or is in the playing queue. -/
def NoneUsed (m : StreamIDManager) (streams : List Nat) : Prop :=
  ∀ stream ∈ streams, m.isUsed stream = false

instance (m : StreamIDManager) (streams : List Nat) : Decidable (m.NoneUsed streams) :=
  inferInstanceAs (Decidable (∀ _ ∈ _, _))

/-- The condition on `CreateAudioStream`: the stream of the sound that it replaces is not used,
and the ID is new. -/
def KeepsCreating (m : StreamIDManager) (soundID : Int) : Prop :=
  (∀ stream ∈ List.range m.streams.length, m.isUsed stream = true →
    (m.streams[stream]?.any fun audio => decide (audio.soundID = soundID)) = false) ∧
  m.freshStreamID (m.streams.length + 1) m.nextStreamID ∉ m.ids

instance (m : StreamIDManager) (soundID : Int) : Decidable (m.KeepsCreating soundID) :=
  inferInstanceAs (Decidable (_ ∧ _))

/-- The condition on the start of a renderer: a stream that is not in the map does not begin to
play; one that is already playing, or that is released in the end, leaves no ID behind. -/
def KeepsStarting (m : StreamIDManager) (tasks : List Action) (answers : Answers)
    (audio : AudioStream) : Prop :=
  if audio.mapped then
    if answers.started then
      audio.streamState = .prepared ∨ audio.streamState = .stopped ∨
        m.listed audio.streamID < audio.sounding + plays m.ids tasks audio.streamID
    else if answers.stillRunning then
      m.listed audio.streamID < plays m.ids tasks audio.streamID
    else m.listed audio.streamID ≤ plays m.ids tasks audio.streamID
  else answers.started → audio.streamState ≠ .prepared ∧ audio.streamState ≠ .stopped

instance (m : StreamIDManager) (tasks : List Action) (answers : Answers) (audio : AudioStream) :
    Decidable (m.KeepsStarting tasks answers audio) :=
  inferInstanceAs (Decidable (ite _ (ite _ (_ ∨ _ ∨ _) (ite _ _ _)) (_ → _ ∧ _)))

/-- The condition on an action, given all that the threads still have to do. -/
def KeepsPlaying (cfg : Config) (m : StreamIDManager) (tasks : List Action) (answers : Answers) :
    Action → Prop
  | .removeInvalidStreams _ => m.NoneUsed m.invalidStreams
  | .removeStoppedStreams order =>
    m.NoneUsed ((m.streamsOfSounds order).filter fun stream => m.isMappedIn stream .stopped)
  | .getStream soundID _ =>
    m.getAvailableStreamIDBySoundID cfg.interruptMode soundID = none →
      answers.created = true → m.KeepsCreating soundID
  | .addPlayTask streamID _ => (m.getStreamByStreamID streamID).isSome = true
  | .startRenderer stream => ∀ audio ∈ m.streams[stream]?, m.KeepsStarting tasks answers audio
  | .postProcessing streamID =>
    streamID ∈ m.playingStreamIDs → m.listed streamID ≤ plays m.ids tasks streamID
  | .stop stream false =>
    ∀ audio ∈ m.streams[stream]?, audio.mapped = true →
      (audio.audioRenderer ∧ audio.streamState = .playing ∧ audio.streamCallback) ∨
        audio.sounding + plays m.ids tasks audio.streamID <
          m.listed audio.streamID + stops m.ids tasks audio.streamID
  | .onPlayFinished streamID =>
    (m.getStreamByStreamID streamID).isSome = true →
      plays m.ids tasks streamID < m.listed streamID - 1 + stops m.ids tasks streamID
  | .release stream =>
    ∀ audio ∈ m.streams[stream]?, audio.mapped = true → audio.audioRenderer = true →
      m.listed audio.streamID ≤ plays m.ids tasks audio.streamID
  | .clearStreamIDInDeque soundID streamID =>
    match m.streams.findIdx? fun audio => audio.mapped &&
        decide (audio.soundID = soundID ∧ audio.streamID = streamID) with
    | none => streamID ∉ m.playingStreamIDs
    | some stream => ∀ audio ∈ m.streams[stream]?, audio.streamState ≠ .playing
  | _ => True

instance (cfg : Config) (m : StreamIDManager) (tasks : List Action) (answers : Answers) :
    (action : Action) → Decidable (m.KeepsPlaying cfg tasks answers action)
  | .removeInvalidStreams _ | .removeStoppedStreams _ =>
    inferInstanceAs (Decidable (m.NoneUsed _))
  | .getStream _ _ => inferInstanceAs (Decidable (_ → _ → StreamIDManager.KeepsCreating _ _))
  | .addPlayTask _ _ => inferInstanceAs (Decidable (_ = true))
  | .startRenderer _ => inferInstanceAs (Decidable (∀ _ ∈ _, _))
  | .postProcessing _ | .onPlayFinished _ => inferInstanceAs (Decidable (_ → _))
  | .stop _ false => inferInstanceAs (Decidable (∀ _ ∈ _, _ → _ ∨ _))
  | .release _ => inferInstanceAs (Decidable (∀ _ ∈ _, _ → _ → _))
  | .clearStreamIDInDeque soundID streamID =>
    match found : m.streams.findIdx? fun audio => audio.mapped &&
        decide (audio.soundID = soundID ∧ audio.streamID = streamID) with
    | none => decidable_of_iff (streamID ∉ m.playingStreamIDs) (by simp only [KeepsPlaying, found])
    | some stream =>
      decidable_of_iff (∀ audio ∈ m.streams[stream]?, audio.streamState ≠ .playing)
        (by simp only [KeepsPlaying, found])
  | .stop _ true | .setPlay _ _ | .setPlayLookup _ _ | .configure _ _ | .setPlayDecision _ _
  | .doPlay _ | .playStream _ | .stopAudioStream _ | .stopRenderer _ | .setPriority _ _
  | .prioritise _ _ | .reorderStream | .unload _ | .unloadStream _ _ => .isTrue trivial

variable {m after : StreamIDManager} {tasks later rest : List Action} {streamID : Int}
  {stream : Nat} {answers : Answers}

/-- Streams change, but none of them begins or ends to play or leaves the map, and the queue has
the same IDs. -/
theorem Accounted.quiet {change : Nat → AudioStream → AudioStream}
    (accounted : m.Accounted tasks) (changed : Changed m after change)
    (mapped : ∀ stream audio, (change stream audio).mapped = audio.mapped)
    (sounding : ∀ stream audio,
      ((change stream audio).streamState = .playing ↔ audio.streamState = .playing))
    (playing : after.playingStreamIDs.Perm m.playingStreamIDs)
    (placed : ∀ action ∈ later, action ∈ tasks ∨ action.Placed m.ids)
    (samePlays : ∀ (stream : Nat) audio, m.streams[stream]? = some audio → audio.mapped = true →
      plays m.ids later audio.streamID = plays m.ids tasks audio.streamID)
    (moreStops : ∀ (stream : Nat) audio, m.streams[stream]? = some audio → audio.mapped = true →
      stops m.ids tasks audio.streamID ≤ stops m.ids later audio.streamID) :
    after.Accounted later := by
  refine accounted.change changed placed ?_ ?_ ?_ ?_
  · intro streamID member
    exact .inl (playing.mem_iff.mp member)
  · intro stream audio there isMapped books
    rw [mapped] at isMapped
    have sameSounding : (change stream audio).sounding = audio.sounding := by
      simp [AudioStream.sounding, sounding]
    have sameListed : after.listed audio.streamID = m.listed audio.streamID :=
      playing.count_eq _
    have plays := samePlays stream audio there isMapped
    have stops := moreStops stream audio there isMapped
    obtain ⟨noMore, enough⟩ := books
    constructor
    · rw [changed.ids, changed.ids_eq, sameSounding, sameListed, plays]
      exact noMore
    · rw [changed.ids, changed.ids_eq]
      omega
  · intro stream audio there isMapped unmapped
    rw [mapped, isMapped] at unmapped
    cases unmapped
  · intro stream audio there unmapped silent
    rwa [ne_eq, sounding]

variable {action : Action} {cfg : Config} {limit : Nat}

/-- An action that neither plays nor stops a stream leaves only streams changed that go on as they
did. -/
theorem Accounted.calm {change : Nat → AudioStream → AudioStream} {more : List Action}
    (accounted : m.Accounted (action :: rest)) (changed : Changed m after change)
    (mapped : ∀ stream audio, (change stream audio).mapped = audio.mapped)
    (sounding : ∀ stream audio,
      ((change stream audio).streamState = .playing ↔ audio.streamState = .playing))
    (playing : after.playingStreamIDs.Perm m.playingStreamIDs) (noPlay : action.plays? m.ids = none)
    (noStop : action.stops? m.ids = none) (quiet : ∀ later ∈ more, later.plays? m.ids = none)
    (placed : ∀ later ∈ more, later.Placed m.ids) : after.Accounted (more ++ rest) := by
  refine accounted.quiet changed mapped sounding playing ?_ ?_ ?_
  · intro later member
    rcases List.mem_append.mp member with new | old
    · exact .inr (placed later new)
    · exact .inl (List.mem_cons_of_mem _ old)
  · intro stream audio there isMapped
    simp [noPlay, plays_quiet quiet]
  · intro stream audio there isMapped
    simp [noStop]

/-- Streams leave the map, and nothing else happens to them or to the playing queue. -/
structure Unmaps (m after : StreamIDManager) : Prop where
  streams : ∀ stream : Nat, after.streams[stream]? = m.streams[stream]? ∨ after.streams[stream]? =
      (m.streams[stream]?).map fun audio => { audio with mapped := false }
  playing : after.playingStreamIDs = m.playingStreamIDs
  next : after.nextStreamID = m.nextStreamID

theorem Unmaps.refl (m : StreamIDManager) : Unmaps m m :=
  ⟨fun _ => .inl rfl, rfl, rfl⟩

theorem Unmaps.trans {middle : StreamIDManager} (first : Unmaps m middle)
    (second : Unmaps middle after) : Unmaps m after where
  streams stream := by
      rcases second.streams stream with same | gone
      · rw [same]
        exact first.streams stream
      rcases first.streams stream with same | before
      · rw [gone, same]
        exact .inr rfl
      · right
        rw [gone, before, Option.map_map]
        rfl
  playing := second.playing.trans first.playing
  next := second.next.trans first.next

theorem unmap_unmaps (m : StreamIDManager) (stream : Nat) : Unmaps m (m.unmap stream) where
  streams other := by
      simp only [unmap, update, List.getElem?_modify]
      by_cases same : stream = other
      · right
        simp [same]
      · left
        simp [same]
  playing := rfl
  next := rfl

theorem removeStreams_unmaps (untilFew : Bool) (state : StreamState) (streams : List Nat)
    (m : StreamIDManager) : Unmaps m (removeStreams untilFew state streams m).1 := by
  induction streams generalizing m with
  | nil => exact .refl m
  | cons stream rest ih =>
    rw [removeStreams]
    split
    · exact .refl m
    · split
      · exact (unmap_unmaps m stream).trans (ih (m.unmap stream))
      · exact ih m

/-- What a removal leaves as it was. -/
theorem removeStreams_stays (untilFew : Bool) (state : StreamState) (streams : List Nat)
    (m : StreamIDManager) :
    (removeStreams untilFew state streams m).1.currentStreamsNum =
        m.currentStreamsNum - (removeStreams untilFew state streams m).2.length ∧
      ∀ stream, stream ∉ (removeStreams untilFew state streams m).2 →
        (removeStreams untilFew state streams m).1.streams[stream]? = m.streams[stream]? := by
  induction streams generalizing m with
  | nil => simp [removeStreams]
  | cons first rest ih =>
    rw [removeStreams]
    split
    · simp
    split
    · obtain ⟨number, others⟩ := ih (m.unmap first)
      constructor
      · rw [number, List.length_cons, unmap]
        push_cast
        omega
      · intro stream outside
        rw [List.mem_cons, not_or] at outside
        rw [others stream outside.2]
        simp [unmap, update, Ne.symm outside.1]
    · exact ih m

theorem isMappedIn_unmap (m : StreamIDManager) {gone stream : Nat} (apart : stream ≠ gone)
    (state : StreamState) : (m.unmap gone).isMappedIn stream state = m.isMappedIn stream state := by
  simp [isMappedIn, unmap, update, Ne.symm apart]

/-- A removal takes the streams in `state`, all of them or as many as are held beyond the cap. -/
theorem removeStreams_removed (untilFew : Bool) (state : StreamState) {streams : List Nat}
    (distinct : streams.Nodup) (m : StreamIDManager) :
    (removeStreams untilFew state streams m).2 =
      if untilFew then
        (streams.filter fun stream => m.isMappedIn stream state).take
          (m.currentStreamsNum - maxNumberOfHeldStreams).toNat
      else streams.filter fun stream => m.isMappedIn stream state := by
  induction streams generalizing m with
  | nil => simp [removeStreams]
  | cons first rest ih =>
    obtain ⟨outside, distinct⟩ := List.nodup_cons.mp distinct
    have same : (rest.filter fun stream => (m.unmap first).isMappedIn stream state) =
        rest.filter fun stream => m.isMappedIn stream state := by
      apply List.filter_congr
      intro stream member
      exact isMappedIn_unmap m (fun equal => outside (by rw [← equal]; exact member)) state
    rw [removeStreams, List.filter_cons]
    by_cases enough : untilFew = true ∧ m.currentStreamsNum ≤ maxNumberOfHeldStreams
    · have nothing : (m.currentStreamsNum - maxNumberOfHeldStreams).toNat = 0 := by omega
      rw [if_pos enough, if_pos enough.1, nothing]
      rfl
    · rw [if_neg enough]
      by_cases isMapped : m.isMappedIn first state = true
      · rw [if_pos isMapped, if_pos isMapped]
        show first :: (removeStreams untilFew state rest (m.unmap first)).2 = _
        rw [ih distinct, same]
        cases untilFew with
        | false => rfl
        | true =>
          have many : ¬ m.currentStreamsNum ≤ maxNumberOfHeldStreams := fun few => enough ⟨rfl, few⟩
          have one : (m.currentStreamsNum - maxNumberOfHeldStreams).toNat =
              ((m.unmap first).currentStreamsNum - maxNumberOfHeldStreams).toNat + 1 := by
            simp only [unmap]
            omega
          simp only [if_true]
          rw [one, List.take_succ_cons]
      · rw [if_neg isMapped, if_neg isMapped, ih distinct]

theorem sortedByStreamID_nodup (m : StreamIDManager) : m.sortedByStreamID.Nodup :=
  (List.perm_insertionSort _ _).nodup_iff.mpr (List.nodup_range.filter _)

/-- The streams of a state are untouched by a removal from another state. -/
theorem sorted_removeStreams (untilFew : Bool) {state other : StreamState} (apart : other ≠ state)
    (streams sorted : List Nat) (m : StreamIDManager) :
    (sorted.filter fun stream =>
        (removeStreams untilFew state streams m).1.isMappedIn stream other) =
      sorted.filter fun stream => m.isMappedIn stream other := by
  apply List.filter_congr
  intro stream _
  induction streams generalizing m with
  | nil => rfl
  | cons first rest ih =>
    rw [removeStreams]
    split
    · rfl
    split
    · rename_i isMapped
      rw [ih]
      by_cases same : stream = first
      · subst same
        cases there : m.streams[stream]? with
        | none => simp [isMappedIn, unmap, update, there]
        | some audio =>
          simp only [isMappedIn, there, Option.any_some, Bool.and_eq_true,
            decide_eq_true_eq] at isMapped
          simp [isMappedIn, unmap, update, there, isMapped.2, Ne.symm apart]
      · exact isMappedIn_unmap m same other
    · exact ih m

/-- `RemoveInvalidStreams` leaves every stream that is not among the invalid ones as it is. -/
theorem removeInvalidSameSound_stays (m : StreamIDManager) {stream : Nat}
    (outside : stream ∉ m.invalidStreams) :
    m.removeInvalidSameSound.manager.streams[stream]? = m.streams[stream]? := by
  have distinct := m.sortedByStreamID_nodup
  unfold removeInvalidSameSound
  extract_lets sorted released stopped prepared
  have first : released.2 = m.sortedIn .released :=
    removeStreams_removed false .released distinct m
  have firstNum := removeStreams_stays false .released sorted m
  have second : stopped.2 = (m.sortedIn .stopped).take
      (released.1.currentStreamsNum - maxNumberOfHeldStreams).toNat := by
    rw [sortedIn, ← @sorted_removeStreams false .released .stopped (by decide) sorted]
    exact removeStreams_removed true .stopped distinct released.1
  have secondNum := removeStreams_stays true .stopped sorted released.1
  have third : prepared.2 = (m.sortedIn .prepared).take
      (stopped.1.currentStreamsNum - maxNumberOfHeldStreams).toNat := by
    rw [sortedIn, ← @sorted_removeStreams false .released .prepared (by decide) sorted,
      ← @sorted_removeStreams true .stopped .prepared (by decide) sorted]
    exact removeStreams_removed true .prepared distinct stopped.1
  have thirdNum := removeStreams_stays true .prepared sorted stopped.1
  rw [invalidStreams, List.take_append, List.mem_append, List.mem_append, not_or, not_or] at outside
  have left : released.1.currentStreamsNum =
      m.currentStreamsNum - (m.sortedIn .released).length := by
    rw [← first]
    exact firstNum.1
  have rest : (stopped.1.currentStreamsNum - maxNumberOfHeldStreams).toNat =
      (m.currentStreamsNum - (m.sortedIn .released).length - maxNumberOfHeldStreams).toNat -
        (m.sortedIn .stopped).length := by
    have number : stopped.1.currentStreamsNum = released.1.currentStreamsNum - stopped.2.length :=
      secondNum.1
    rw [number, second, List.length_take, left]
    omega
  rw [thirdNum.2 stream, secondNum.2 stream, firstNum.2 stream]
  · change stream ∉ released.2
    rw [first]
    exact outside.1
  · change stream ∉ stopped.2
    rw [second, left]
    exact outside.2.1
  · change stream ∉ prepared.2
    rw [third, rest]
    exact outside.2.2

/-- A removal through the hash map takes streams in `state`. -/
theorem mem_removeStreams (untilFew : Bool) (state : StreamState) (streams : List Nat)
    (m : StreamIDManager) {stream : Nat}
    (member : stream ∈ (removeStreams untilFew state streams m).2) :
    stream ∈ streams.filter fun stream => m.isMappedIn stream state := by
  induction streams generalizing m with
  | nil => cases member
  | cons first rest ih =>
    rw [removeStreams] at member
    split at member
    · cases member
    split at member
    · rename_i isMapped
      rw [List.filter_cons, if_pos isMapped]
      rcases List.mem_cons.mp member with rfl | later
      · exact List.mem_cons_self
      have kept := ih _ later
      rw [List.mem_filter] at kept
      refine List.mem_cons_of_mem _ (List.mem_filter.mpr ⟨kept.1, ?_⟩)
      by_cases same : stream = first
      · rw [same]
        exact isMapped
      · rw [← isMappedIn_unmap m same]
        exact kept.2
    · have kept := ih _ member
      rw [List.mem_filter] at kept ⊢
      exact ⟨List.mem_cons_of_mem _ kept.1, kept.2⟩

theorem Accounted.unmaps {more : List Action} (accounted : m.Accounted (action :: rest))
    (unmaps : Unmaps m after)
    (used : ∀ stream, m.isUsed stream = true → after.streams[stream]? = m.streams[stream]?)
    (noPlay : action.plays? m.ids = none)
    (noStop : action.stops? m.ids = none) (quiet : ∀ later ∈ more, later.plays? m.ids = none)
    (placed : ∀ later ∈ more, later.Placed m.ids) : after.Accounted (more ++ rest) := by
  have changed : Changed m after fun stream audio =>
      if after.streams[stream]? = m.streams[stream]? then audio
      else { audio with mapped := false } := by
    refine ⟨?_, ?_, ?_, fun natural => unmaps.next ▸ natural⟩
    · intro stream
      by_cases same : after.streams[stream]? = m.streams[stream]?
      · simp [same]
      · simp only [same, if_false]
        exact (unmaps.streams stream).resolve_left same
    · intro stream audio
      split <;> rfl
    · intro stream audio isMapped
      split at isMapped
      · exact isMapped
      · cases isMapped
  refine accounted.change changed ?_ ?_ ?_ ?_ ?_
  · intro later member
    rcases List.mem_append.mp member with new | old
    · exact .inr (placed later new)
    · exact .inl (List.mem_cons_of_mem _ old)
  · intro streamID member
    exact .inl (unmaps.playing ▸ member)
  · intro stream audio there isMapped books
    split at isMapped
    · rename_i same
      rw [if_pos same]
      obtain ⟨noMore, enough⟩ := books
      constructor
      · rw [changed.ids_eq]
        simpa [listed, unmaps.playing, noPlay, plays_quiet quiet] using noMore
      rw [changed.ids_eq]
      have before : audio.sounding + plays m.ids rest audio.streamID ≤
          m.listed audio.streamID + stops m.ids rest audio.streamID := by
        simpa [noPlay, noStop] using enough
      have listedSame : after.listed audio.streamID = m.listed audio.streamID := by
        rw [listed, listed, unmaps.playing]
      rw [plays_append, stops_append, plays_quiet quiet]
      omega
    · cases isMapped
  · intro stream audio there isMapped gone
    have lost : ¬ m.isUsed stream = true := by
      intro isUsed
      rw [if_pos (used stream isUsed)] at gone
      rw [isMapped] at gone
      cases gone
    simp only [isUsed, there, Option.any_some, isMapped, Bool.true_and, Bool.or_eq_true,
      decide_eq_true_eq, not_or] at lost
    rw [unmaps.playing]
    refine ⟨?_, lost.2⟩
    split
    · exact lost.1
    · exact lost.1
  · intro stream audio there unmapped silent
    split
    · exact silent
    · exact silent

theorem addReleaseTask_releases {streams : List Nat} {task : Action}
    (member : task ∈ (addReleaseTask streams).flatten) : ∃ stream, task = .release stream := by
  rw [addReleaseTask] at member
  split at member
  · cases member
  · rw [List.flatten_singleton] at member
    obtain ⟨stream, -, same⟩ := List.mem_map.mp member
    exact ⟨stream, same.symm⟩

theorem Accounted.removeInvalidStreams {order : List Int}
    (mode : cfg.interruptMode = .sameSoundInterrupt)
    (accounted : m.Accounted (.removeInvalidStreams order :: rest))
    (kept : m.KeepsPlaying cfg tasks answers (.removeInvalidStreams order)) :
    (m.removeInvalidStreams cfg.interruptMode order).manager.Accounted
      ((m.removeInvalidStreams cfg.interruptMode order).next ++
        (m.removeInvalidStreams cfg.interruptMode order).created.flatten ++ rest) := by
  rw [mode]
  refine accounted.unmaps ?_ ?_ rfl rfl ?_ ?_
  · exact ((removeStreams_unmaps _ _ _ _).trans (removeStreams_unmaps _ _ _ _)).trans
      (removeStreams_unmaps _ _ _ _)
  · intro stream isUsed
    apply m.removeInvalidSameSound_stays
    intro invalid
    exact absurd isUsed (Bool.not_eq_true _ ▸ kept stream invalid)
  · intro later member
    obtain ⟨stream, rfl⟩ := addReleaseTask_releases member
    rfl
  · intro later member
    obtain ⟨stream, rfl⟩ := addReleaseTask_releases member
    trivial

theorem Accounted.removeStoppedStreams {order : List Int}
    (accounted : m.Accounted (.removeStoppedStreams order :: rest))
    (kept : m.KeepsPlaying cfg tasks answers (.removeStoppedStreams order)) :
    (m.removeStoppedStreams order).manager.Accounted ((m.removeStoppedStreams order).next ++
        (m.removeStoppedStreams order).created.flatten ++ rest) := by
  refine accounted.unmaps (removeStreams_unmaps _ _ _ _) ?_ rfl rfl ?_ ?_
  · intro stream isUsed
    apply (removeStreams_stays _ _ _ _).2
    intro member
    exact absurd isUsed (Bool.not_eq_true _ ▸ kept stream (mem_removeStreams _ _ _ _ member))
  · intro later member
    obtain ⟨stream, rfl⟩ := addReleaseTask_releases member
    rfl
  · intro later member
    obtain ⟨stream, rfl⟩ := addReleaseTask_releases member
    trivial

theorem freshStreamID_nonneg (m : StreamIDManager) (calls : Nat) {last : Int} (natural : 0 ≤ last) :
    0 ≤ m.freshStreamID calls last := by
  induction calls generalizing last with
  | zero => exact natural
  | succ calls ih =>
    simp only [freshStreamID]
    have next : 0 ≤ if last = int32Max then 1 else last + 1 := by
      split <;> omega
    generalize (if last = int32Max then 1 else last + 1) = tried at next
    split
    · exact next
    · exact ih next

theorem Accounted.append (accounted : m.Accounted tasks) (soundID : Int)
    (streams : after.streams = m.streams ++ [{ soundID := soundID, streamID := streamID }])
    (next : after.nextStreamID = streamID) (natural : 0 ≤ streamID)
    (playing : after.playingStreamIDs = m.playingStreamIDs) (fresh : streamID ∉ m.ids) :
    after.Accounted tasks := by
  have idsAfter : after.ids = m.ids ++ [streamID] := by
    rw [ids, streams, List.map_append]
    rfl
  have samePlays (action : Action) (member : action ∈ tasks) :
      action.plays? after.ids = action.plays? m.ids := by
    have placed := accounted.placed action member
    rw [idsAfter]
    cases action with
    | playStream stream | startRenderer stream => exact List.getElem?_append_left placed
    | _ => rfl
  have playsEq (other : Int) : plays after.ids tasks other = plays m.ids tasks other := by
    rw [plays, plays, List.filterMap_congr samePlays]
  have moreStops (other : Int) : stops m.ids tasks other ≤ stops after.ids tasks other := by
    rw [idsAfter]
    clear accounted samePlays playsEq
    induction tasks with
    | nil => exact Nat.le_refl _
    | cons action tasks ih =>
      rw [stops_cons, stops_cons]
      have first : action.stops? m.ids = some other →
          action.stops? (m.ids ++ [streamID]) = some other := by
        intro stopped
        cases action with
        | stop stream tooEarly =>
          cases tooEarly with
          | false =>
            simp only [Action.stops?] at stopped ⊢
            obtain ⟨within, -⟩ := List.getElem?_eq_some_iff.mp stopped
            rwa [List.getElem?_append_left within]
          | true => exact stopped
        | _ => exact stopped
      by_cases stopped : action.stops? m.ids = some other
      · rw [if_pos stopped, if_pos (first stopped)]
        omega
      · rw [if_neg stopped]
        omega
  have held (stream : Nat) (audio : AudioStream) (there : after.streams[stream]? = some audio) :
      m.streams[stream]? = some audio ∨ audio = { soundID := soundID, streamID := streamID } := by
    rw [streams] at there
    by_cases within : stream < m.streams.length
    · rw [List.getElem?_append_left within] at there
      exact .inl there
    · rw [List.getElem?_append_right (by omega)] at there
      have last := List.mem_of_getElem? there
      exact .inr (List.mem_singleton.mp last)
  exact {
    distinct := by
      rw [idsAfter, List.nodup_append]
      refine ⟨accounted.distinct, List.nodup_singleton _, ?_⟩
      intro first member second isNew same
      rw [List.mem_singleton] at isNew
      exact fresh (isNew ▸ same ▸ member)
    natural := by rw [next]; exact natural
    naturals := by
      intro other member
      rw [idsAfter, List.mem_append, List.mem_singleton] at member
      rcases member with old | new
      · exact accounted.naturals other old
      · exact new ▸ natural
    placed := by
      intro action member
      have before := accounted.placed action member
      rw [idsAfter]
      cases action with
      | doPlay streamID | postProcessing streamID => exact List.mem_append_left _ before
      | playStream stream | startRenderer stream =>
        simp only [Action.Placed, List.length_append] at before ⊢
        omega
      | _ => trivial
    known := by
      intro other member
      rw [playing] at member
      rw [idsAfter]
      exact List.mem_append_left _ (accounted.known other member)
    balanced := by
      intro stream audio there isMapped
      have listedSame : after.listed audio.streamID = m.listed audio.streamID := by
        rw [listed, listed, playing]
      rcases held stream audio there with old | new
      · obtain ⟨noMore, enough⟩ := accounted.balanced stream audio old isMapped
        have stops := moreStops audio.streamID
        constructor
        · rwa [listedSame, playsEq]
        · rw [playsEq]
          omega
      · have unlisted : m.listed streamID = 0 := by
          rw [listed, List.count_eq_zero]
          exact fun member => fresh (accounted.known streamID member)
        have unplayed : plays m.ids tasks streamID = 0 := by
          rw [plays, List.count_eq_zero]
          intro member
          obtain ⟨action, inTasks, target⟩ := List.mem_filterMap.mp member
          exact fresh (Action.mem_of_plays (accounted.placed action inTasks) target)
        subst new
        constructor
        · rw [listedSame]
          simp [unlisted]
        · rw [playsEq]
          simp [unplayed, AudioStream.sounding]
    gone := by
      intro stream audio there unmapped
      rw [playing]
      rcases held stream audio there with old | new
      · exact accounted.gone stream audio old unmapped
      · rw [new] at unmapped
        cases unmapped }

theorem Accounted.getStream {soundID priority : Int}
    (mode : cfg.interruptMode = .sameSoundInterrupt)
    (accounted : m.Accounted (.getStream soundID priority :: rest))
    (kept : m.KeepsPlaying cfg tasks answers (.getStream soundID priority)) :
    (m.getStream cfg.interruptMode soundID priority answers).manager.Accounted
      ((m.getStream cfg.interruptMode soundID priority answers).next ++
        (m.getStream cfg.interruptMode soundID priority answers).created.flatten ++ rest) := by
  simp only [KeepsPlaying] at kept
  rw [mode] at kept ⊢
  have calm (more : List Action) (quiet : ∀ later ∈ more, later.plays? m.ids = none)
      (placed : ∀ later ∈ more, later.Placed m.ids) {now : StreamIDManager}
      (streams : now.streams = m.streams) (next : 0 ≤ now.nextStreamID)
      (playing : now.playingStreamIDs = m.playingStreamIDs) : now.Accounted (more ++ rest) :=
    accounted.calm (.same streams fun _ => next) (fun _ _ => rfl) (fun _ _ => Iff.rfl)
      (.of_eq playing) rfl rfl quiet placed
  simp only [StreamIDManager.getStream]
  split
  · rename_i streamID prepared available
    have same : prepared = m := by
      simp only [getAvailableStreamIDBySoundID] at available
      split at available
      · cases available
      · split at available
        · exact (Prod.mk.inj (Option.some.inj available)).2.symm
        · cases available
    rw [same]
    exact calm [.setPlay streamID priority] (by simp [Action.plays?]) (by simp [Action.Placed])
      rfl accounted.natural rfl
  · rename_i unavailable
    have natural := freshStreamID_nonneg m (m.streams.length + 1) accounted.natural
    cases created : answers.created with
    | false =>
      simp only [createAudioStream, created, Bool.false_eq_true, if_false]
      exact calm [] (by simp) (by simp) rfl natural rfl
    | true =>
      simp only [createAudioStream, created, if_true]
      obtain ⟨unused, fresh⟩ := kept unavailable created
      have replaced : ({ m with streams := m.streams.map fun audio =>
          if audio.soundID = soundID then { audio with mapped := false } else audio } :
            StreamIDManager).Accounted
          ([Action.setPlay (m.freshStreamID (m.streams.length + 1) m.nextStreamID) priority] ++
            rest) := by
        refine accounted.unmaps ⟨?_, rfl, rfl⟩ ?_ rfl rfl (by simp [Action.plays?])
          (by simp [Action.Placed])
        · intro stream
          simp only [List.getElem?_map]
          cases m.streams[stream]? with
          | none => exact .inl rfl
          | some audio =>
            by_cases same : audio.soundID = soundID
            · exact .inr (by simp [same])
            · exact .inl (by simp [same])
        · intro stream isUsed
          simp only [List.getElem?_map]
          cases there : m.streams[stream]? with
          | none => rfl
          | some audio =>
            have within := (List.getElem?_eq_some_iff.mp there).1
            have other := unused stream (List.mem_range.mpr within) isUsed
            simp only [there, Option.any_some, decide_eq_false_iff_not] at other
            simp [other]
      exact replaced.append soundID rfl rfl natural rfl (by
        have sameIds : ({ m with streams := m.streams.map fun audio =>
            if audio.soundID = soundID then { audio with mapped := false } else audio } :
              StreamIDManager).ids = m.ids := by
          simp only [ids, List.map_map]
          refine List.map_congr_left ?_
          intro audio _
          by_cases same : audio.soundID = soundID <;> simp [same]
        rwa [sameIds])

theorem Accounted.done (accounted : m.Accounted (action :: rest))
    (noPlay : action.plays? m.ids = none) (noStop : action.stops? m.ids = none) :
    m.Accounted rest := by
  have none : m.Accounted ([] ++ rest) :=
    accounted.calm (.same rfl id) (fun _ _ => rfl) (fun _ _ => Iff.rfl) (.refl _) noPlay noStop
      (by simp) (by simp)
  exact none

theorem Accounted.alike (accounted : m.Accounted rest) (streams : after.streams = m.streams)
    (next : after.nextStreamID = m.nextStreamID)
    (playing : after.playingStreamIDs.Perm m.playingStreamIDs) : after.Accounted rest :=
  accounted.quiet (.same streams fun natural => next ▸ natural) (fun _ _ => rfl)
    (fun _ _ => Iff.rfl) playing (fun _ => .inl) (fun _ _ _ _ => rfl) (fun _ _ _ _ => Nat.le_refl _)

/-- Actions come that play nothing yet. -/
theorem Accounted.more {actions : List Action} (accounted : m.Accounted rest)
    (quiet : ∀ later ∈ actions, later.plays? m.ids = none)
    (placed : ∀ later ∈ actions, later.Placed m.ids) : m.Accounted (actions ++ rest) := by
  refine accounted.quiet (.same rfl id) (fun _ _ => rfl) (fun _ _ => Iff.rfl) (.refl _) ?_ ?_ ?_
  · intro later member
    rcases List.mem_append.mp member with new | old
    · exact .inr (placed later new)
    · exact .inl old
  · intro stream audio there isMapped
    simp [plays_quiet quiet]
  · intro stream audio there isMapped
    simp

theorem Accounted.adjust (accounted : m.Accounted rest) (stream : Nat)
    {change : AudioStream → AudioStream}
    (ids : ∀ audio, (change audio).streamID = audio.streamID)
    (mapped : ∀ audio, (change audio).mapped = audio.mapped)
    (sounding : ∀ audio, ((change audio).streamState = .playing ↔ audio.streamState = .playing)) :
    (m.update stream change).Accounted rest := by
  refine accounted.quiet (.update stream rfl ids mapped id) ?_ ?_ (.refl _)
    (fun _ => .inl) (fun _ _ _ _ => rfl) (fun _ _ _ _ => Nat.le_refl _)
  · intro other audio
    split
    · exact mapped audio
    · rfl
  · intro other audio
    split
    · exact sounding audio
    · exact Iff.rfl

theorem Accounted.replace {last : Int} {lastStream : Nat} (accounted : m.Accounted rest)
    (present : m.playingStreamIDs.getLast? = some last)
    (found : m.getStreamByStreamID last = some lastStream) (streamID : Int) :
    ({ m with playingStreamIDs := m.playingStreamIDs.dropLast } : StreamIDManager).Accounted
      ([Action.addPlayTask streamID (some last)] ++ [Action.stop lastStream false] ++ rest) := by
  obtain ⟨lastAudio, atLast, -, lastID⟩ := getStreamByStreamID_some found
  have stopID : m.ids[lastStream]? = some last := by
    rw [ids_getElem?, atLast, Option.map_some, lastID]
  have counted (other : Int) : m.listed other =
      m.playingStreamIDs.dropLast.count other + if last = other then 1 else 0 := by
    obtain ⟨init, whole⟩ := List.getLast?_eq_some_iff.mp present
    simp [listed, whole, List.count_append, List.count_singleton]
  refine accounted.change (.same rfl id) ?_ ?_ ?_ ?_ (fun _ _ _ _ silent => silent)
  · intro action member
    simp only [List.cons_append, List.nil_append, List.mem_cons] at member
    rcases member with rfl | rfl | old
    · exact .inr trivial
    · exact .inr trivial
    · exact .inl old
  · intro other member
    exact .inl (List.dropLast_subset _ member)
  · intro stream audio there isMapped books
    obtain ⟨noMore, enough⟩ := books
    have before := counted audio.streamID
    have sameIds : ({ m with playingStreamIDs := m.playingStreamIDs.dropLast } :
      StreamIDManager).ids = m.ids := rfl
    constructor
    · rw [sameIds]
      simp only [listed, List.cons_append, List.nil_append, plays_cons, Action.plays?]
      omega
    · rw [sameIds]
      simp only [listed, List.cons_append, List.nil_append, plays_cons, stops_cons, Action.plays?,
        Action.stops?, stopID, Option.some_inj]
      simp only [reduceCtorEq, if_false]
      omega
  · intro stream audio there isMapped unmapped
    rw [isMapped] at unmapped
    cases unmapped

theorem Accounted.playOrReplace {notPlayed : StreamIDManager} (accounted : m.Accounted rest)
    (notPlaying : notPlayed.Accounted rest) (stream : Nat) (streamID : Int) :
    (m.playOrReplace limit stream streamID notPlayed).manager.Accounted
      ((m.playOrReplace limit stream streamID notPlayed).next ++
        (m.playOrReplace limit stream streamID notPlayed).created.flatten ++ rest) := by
  rw [StreamIDManager.playOrReplace]
  split
  · exact accounted.more (by simp [Action.plays?]) (by simp [Action.Placed])
  split
  · exact accounted
  rename_i last present
  split
  · rename_i missing
    obtain ⟨lastStream, audio, there, mapped, same⟩ :=
      accounted.mapped_of_playing (List.mem_of_getLast? present)
    rw [← same, accounted.lookup there mapped] at missing
    cases missing
  · rename_i lastStream found
    split
    · exact accounted.replace present found streamID
    · exact notPlaying

theorem Accounted.setPlay {streamID priority : Int}
    (accounted : m.Accounted (.setPlay streamID priority :: rest)) :
    (m.setPlay limit streamID priority).manager.Accounted
      ((m.setPlay limit streamID priority).next ++
        (m.setPlay limit streamID priority).created.flatten ++ rest) := by
  have done := accounted.done rfl rfl
  rw [StreamIDManager.setPlay]
  split
  · exact done
  rename_i stream found
  have configured : (m.configure stream priority).Accounted rest :=
    done.adjust stream (fun _ => rfl) (fun _ => rfl) (fun _ => Iff.rfl)
  have waiting : ((m.configure stream priority).queueAndSortWillPlayStreamID
      streamID).Accounted rest := configured.alike rfl rfl (.refl _)
  exact configured.playOrReplace waiting stream streamID

theorem Accounted.setPlayDecision {stream : Nat} {streamID : Int}
    (accounted : m.Accounted (.setPlayDecision stream streamID :: rest)) :
    (m.setPlayDecision limit stream streamID).manager.Accounted
      ((m.setPlayDecision limit stream streamID).next ++
        (m.setPlayDecision limit stream streamID).created.flatten ++ rest) := by
  have done := accounted.done rfl rfl
  refine done.playOrReplace (done.adjust stream ?_ ?_ ?_) stream streamID
  · intro audio
    split <;> rfl
  · intro audio
    split <;> rfl
  intro audio
  split
  · rename_i prepared
    simp [prepared]
  · exact Iff.rfl

theorem Accounted.addPlayTask {streamID : Int} {last : Option Int}
    (accounted : m.Accounted (.addPlayTask streamID last :: rest))
    (mapped : (m.getStreamByStreamID streamID).isSome = true) :
    (m.addPlayTask streamID).manager.Accounted ([Action.doPlay streamID] ++ rest) := by
  obtain ⟨stream, found⟩ := Option.isSome_iff_exists.mp mapped
  obtain ⟨audio, there, isMapped, sameID⟩ := getStreamByStreamID_some found
  have perm : (m.queueAndSortPlayingStreamID streamID).playingStreamIDs.Perm
      (streamID :: m.playingStreamIDs) := by
    refine queueAndSort_perm ?_
    intro other member
    have known : (m.getStreamByStreamID other).isSome := by
      rcases List.mem_cons.mp member with same | inQueue
      · rw [same]
        exact mapped
      · obtain ⟨otherStream, held, atOther, heldMapped, same⟩ :=
          accounted.mapped_of_playing inQueue
        rw [← same, accounted.lookup atOther heldMapped]
        rfl
    rw [priorityOf, Option.isSome_map]
    exact known
  have inIds : streamID ∈ m.ids :=
    List.mem_map.mpr ⟨audio, List.mem_of_getElem? there, sameID⟩
  have sameIds : (m.addPlayTask streamID).manager.ids = m.ids := rfl
  refine accounted.change (.same rfl id) ?_ ?_ ?_ ?_ (fun _ _ _ _ silent => silent)
  · intro action member
    rcases List.mem_cons.mp member with rfl | old
    · exact .inr inIds
    · exact .inl (List.mem_cons_of_mem _ old)
  · intro other member
    rcases List.mem_cons.mp (perm.mem_iff.mp member) with same | old
    · exact .inr ⟨stream, audio, there, isMapped, sameID.trans same.symm⟩
    · exact .inl old
  · intro otherStream other otherThere otherMapped books
    obtain ⟨noMore, enough⟩ := books
    have counted : (m.addPlayTask streamID).manager.listed other.streamID =
        (if streamID = other.streamID then 1 else 0) + m.listed other.streamID := by
      rw [listed, listed, StreamIDManager.addPlayTask, perm.count_eq, List.count_cons, Nat.add_comm]
      simp
    simp only [plays_cons, stops_cons, Action.plays?, Action.stops?, reduceCtorEq,
      if_false, Nat.zero_add] at noMore enough
    constructor
    · rw [sameIds]
      simp only [List.cons_append, List.nil_append, plays_cons, Action.plays?, Option.some_inj]
      omega
    · rw [sameIds]
      simp only [List.cons_append, List.nil_append, plays_cons, stops_cons, Action.plays?,
        Action.stops?, Option.some_inj, reduceCtorEq, if_false]
      omega
  · intro otherStream other otherThere otherMapped unmapped
    rw [otherMapped] at unmapped
    cases unmapped

end StreamIDManager

end PlayerFramework.SoundPool
