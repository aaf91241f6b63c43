import PlayerFramework.SoundPool.PlayingKept

/-!
The stream's own work against the playing queue, and whole runs of the sound pool.
-/

namespace PlayerFramework.SoundPool

open Transition

namespace StreamIDManager

variable {m after : StreamIDManager} {tasks later rest : List Action} {streamID : Int}
  {stream : Nat} {answers : Answers} {cfg : Config}

theorem Accounted.goOn {action next : Action} (accounted : m.Accounted (action :: rest))
    (samePlay : next.plays? m.ids = action.plays? m.ids) (noStop : action.stops? m.ids = none)
    (placed : next.Placed m.ids) : m.Accounted ([next] ++ rest) := by
  refine accounted.quiet (.same rfl id) (fun _ _ => rfl) (fun _ _ => Iff.rfl) (.refl _) ?_ ?_ ?_
  · intro later member
    rcases List.mem_cons.mp member with same | old
    · exact .inr (same ▸ placed)
    · exact .inl (List.mem_cons_of_mem _ old)
  · intro stream audio there isMapped
    simp [samePlay]
  · intro stream audio there isMapped
    simp [noStop]

theorem Accounted.doPlay (accounted : m.Accounted (.doPlay streamID :: rest)) :
    (m.doPlay streamID).manager.Accounted
      ((m.doPlay streamID).next ++ (m.doPlay streamID).created.flatten ++ rest) := by
  rw [StreamIDManager.doPlay]
  split
  · rename_i missing
    refine accounted.quiet (.same rfl id) (fun _ _ => rfl) (fun _ _ => Iff.rfl) (.refl _) ?_ ?_ ?_
    · intro later member
      exact .inl (List.mem_cons_of_mem _ member)
    · intro stream audio there isMapped
      have different : streamID ≠ audio.streamID := by
        intro same
        rw [same, accounted.lookup there isMapped] at missing
        cases missing
      simp [Action.plays?, different]
    · intro other audio there isMapped
      simp [Action.stops?]
  · rename_i stream found
    obtain ⟨audio, there, isMapped, same⟩ := getStreamByStreamID_some found
    refine accounted.goOn ?_ rfl ?_
    · simp [Action.plays?, ids_getElem?, there, same]
    · rw [Action.Placed, ids, List.length_map]
      exact (List.getElem?_eq_some_iff.mp there).1

theorem Accounted.playStream (mode : cfg.interruptMode = .sameSoundInterrupt)
    (accounted : m.Accounted (.playStream stream :: rest)) :
    (m.playStream cfg.interruptMode stream answers).manager.Accounted
      ((m.playStream cfg.interruptMode stream answers).next ++
        (m.playStream cfg.interruptMode stream answers).created.flatten ++ rest) := by
  have within : stream < m.ids.length := accounted.placed _ List.mem_cons_self
  rw [StreamIDManager.playStream, mode]
  cases there : m.streams[stream]? with
  | none =>
    rw [List.getElem?_eq_none_iff] at there
    rw [ids, List.length_map] at within
    omega
  | some audio =>
    have target : m.ids[stream]? = some audio.streamID := by
      rw [ids_getElem?, there]
      rfl
    have inIds : audio.streamID ∈ m.ids := List.mem_of_getElem? target
    have failed : m.Accounted ([Action.postProcessing audio.streamID] ++ rest) :=
      accounted.goOn (by simp [Action.plays?, target]) rfl inIds
    have prepared : (m.update stream fun audio => { audio with
          audioRenderer := true
          priority := audio.playPriority
          streamLock := true }).Accounted (.playStream stream :: rest) :=
      accounted.adjust stream (fun _ => rfl) (fun _ => rfl) (fun _ => Iff.rfl)
    have sameIds : (m.update stream fun audio => { audio with
          audioRenderer := true
          priority := audio.playPriority
          streamLock := true }).ids = m.ids :=
      ids_update m stream fun _ => rfl
    have starting : (m.update stream fun audio => { audio with
          audioRenderer := true
          priority := audio.playPriority
          streamLock := true }).Accounted ([Action.startRenderer stream] ++ rest) :=
      prepared.goOn rfl rfl (sameIds.symm ▸ within)
    simp only
    split
    · exact failed
    split
    · exact failed
    split
    · have finishing : (m.update stream fun audio => { audio with
          audioRenderer := true
          priority := audio.playPriority
          streamLock := true }).Accounted ([Action.onPlayFinished audio.streamID] ++
              ([Action.startRenderer stream] ++ rest)) :=
        starting.more (by simp [Action.plays?]) (by simp [Action.Placed])
      exact finishing
    · exact starting

theorem Accounted.turn {change : AudioStream → AudioStream} {audio : AudioStream}
    (accounted : m.Accounted tasks) (there : m.streams[stream]? = some audio)
    (streams : after.streams = m.streams.modify stream change)
    (next : after.nextStreamID = m.nextStreamID)
    (ids : ∀ audio, (change audio).streamID = audio.streamID)
    (mapped : ∀ audio, (change audio).mapped = audio.mapped)
    (playing : ∀ other ∈ after.playingStreamIDs, other ∈ m.playingStreamIDs)
    (placed : ∀ action ∈ later, action ∈ tasks ∨ action.Placed m.ids)
    (others : ∀ other, other ≠ audio.streamID → after.listed other = m.listed other ∧
      plays m.ids later other = plays m.ids tasks other ∧
        stops m.ids tasks other ≤ stops m.ids later other)
    (own : audio.mapped = true →
      m.listed audio.streamID ≤ audio.sounding + plays m.ids tasks audio.streamID →
      audio.sounding + plays m.ids tasks audio.streamID ≤
        m.listed audio.streamID + stops m.ids tasks audio.streamID →
      after.listed audio.streamID ≤ (change audio).sounding + plays m.ids later audio.streamID ∧
        (change audio).sounding + plays m.ids later audio.streamID ≤
          after.listed audio.streamID + stops m.ids later audio.streamID)
    (silent : audio.mapped = false → audio.streamState ≠ .playing →
      (change audio).streamState ≠ .playing) : after.Accounted later := by
  have changed := Changed.update stream streams ids mapped fun natural => next ▸ natural
  refine accounted.change changed placed (fun other member => .inl (playing other member)) ?_ ?_ ?_
  · intro other held atOther isMapped books
    obtain ⟨noMore, enough⟩ := books
    by_cases same : stream = other
    · subst other
      rw [there, Option.some_inj] at atOther
      subst held
      simp only [if_true] at isMapped ⊢
      rw [mapped] at isMapped
      obtain ⟨newNoMore, newEnough⟩ := own isMapped noMore enough
      constructor
      · rwa [ids, changed.ids_eq]
      · rwa [ids, changed.ids_eq]
    · simp only [same, if_false]
      have different : held.streamID ≠ audio.streamID := by
        intro equal
        exact same (accounted.unique atOther there equal).symm
      obtain ⟨listedSame, playsSame, moreStops⟩ := others held.streamID different
      constructor
      · rw [changed.ids_eq, listedSame, playsSame]
        exact noMore
      · rw [changed.ids_eq]
        omega
  · intro other held atOther isMapped unmapped
    have stays : (if stream = other then change held else held).mapped = held.mapped := by
      split
      · exact mapped held
      · rfl
    rw [stays, isMapped] at unmapped
    cases unmapped
  · intro other held atOther unmapped quiet
    by_cases same : stream = other
    · subst other
      rw [there, Option.some_inj] at atOther
      subst held
      simp only [if_true]
      exact silent unmapped quiet
    · simpa only [same, if_false] using quiet

theorem sounding_le (audio : AudioStream) : audio.sounding ≤ 1 := by
  unfold AudioStream.sounding
  split <;> omega

theorem listed_erase (m : StreamIDManager) (streamID other : Int) :
    (m.playingStreamIDs.erase streamID).count other =
      m.listed other - if streamID = other then 1 else 0 := by
  rw [listed, List.count_erase]
  simp

theorem Accounted.startRenderer (mode : cfg.interruptMode = .sameSoundInterrupt)
    (accounted : m.Accounted (.startRenderer stream :: rest))
    (kept : m.KeepsPlaying cfg (.startRenderer stream :: rest) answers (.startRenderer stream)) :
    (m.startRenderer cfg.interruptMode stream answers).manager.Accounted
      ((m.startRenderer cfg.interruptMode stream answers).next ++
        (m.startRenderer cfg.interruptMode stream answers).created.flatten ++ rest) := by
  have within : stream < m.ids.length := accounted.placed _ List.mem_cons_self
  rw [StreamIDManager.startRenderer, mode]
  cases there : m.streams[stream]? with
  | none =>
    rw [List.getElem?_eq_none_iff] at there
    rw [ids, List.length_map] at within
    omega
  | some audio =>
    have target : m.ids[stream]? = some audio.streamID := by
      rw [ids_getElem?, there]
      rfl
    have inIds : audio.streamID ∈ m.ids := List.mem_of_getElem? target
    have guarded := kept audio there
    simp only [KeepsStarting, plays_cons, Action.plays?, target, if_true] at guarded
    have streams (state : StreamState) : ((m.setStreamState stream state).unlock stream).streams =
          m.streams.modify stream fun audio =>
            { audio with streamState := state, streamLock := false } := by
      simp only [unlock, setStreamState, update, List.modify_modify_eq]
      rfl
    have others (other : Int) (different : other ≠ audio.streamID) :
        plays m.ids (.startRenderer stream :: rest) other = plays m.ids rest other ∧
          stops m.ids (.startRenderer stream :: rest) other = stops m.ids rest other := by
      constructor
      · simp [Action.plays?, target, Ne.symm different]
      · simp [Action.stops?]
    simp only [reduceCtorEq, false_or]
    split
    · rename_i started
      rw [if_pos started] at guarded
      refine accounted.turn there (streams _) rfl (fun _ => rfl) (fun _ => rfl)
        (fun _ => id) ?_ ?_ ?_ ?_
      · intro action member
        exact .inl (List.mem_cons_of_mem _ member)
      · intro other different
        obtain ⟨samePlays, sameStops⟩ := others other different
        exact ⟨rfl, samePlays.symm, Nat.le_of_eq sameStops⟩
      · intro isMapped noMore enough
        rw [if_pos isMapped] at guarded
        simp only [plays_cons, stops_cons, Action.plays?, Action.stops?, target,
          if_true, reduceCtorEq, if_false] at noMore enough
        have sameListed : ((m.setStreamState stream
            (if audio.streamState = .prepared ∨ audio.streamState = .stopped then .playing
              else audio.streamState)).unlock stream).listed audio.streamID =
            m.listed audio.streamID := rfl
        simp only [List.nil_append, List.flatten_nil, sameListed]
        cases state : audio.streamState <;>
          simp only [state, AudioStream.sounding, reduceCtorEq, or_true, true_or, or_false,
            false_or, if_true, if_false] at noMore enough guarded ⊢ <;> omega
      · intro unmapped silent
        rw [if_neg (by simp [unmapped])] at guarded
        simp only [started, forall_const] at guarded
        simp only [guarded.1, guarded.2, or_self, if_false]
        exact silent
    · rename_i failed
      rw [if_neg failed] at guarded
      refine accounted.turn there (streams _) rfl (fun _ => rfl) (fun _ => rfl)
        (fun _ => id) ?_ ?_ ?_ ?_
      · intro action member
        split at member
        · exact .inl (List.mem_cons_of_mem _ member)
        · rcases List.mem_cons.mp member with same | old
          · exact .inr (same ▸ inIds)
          · exact .inl (List.mem_cons_of_mem _ old)
      · intro other different
        obtain ⟨samePlays, sameStops⟩ := others other different
        refine ⟨rfl, ?_, ?_⟩
        · rw [samePlays]
          split
          · simp
          · simp [Action.plays?, Ne.symm different]
        · rw [sameStops]
          split
          · simp
          · simp [Action.stops?]
      · intro isMapped noMore enough
        rw [if_pos isMapped] at guarded
        have sameListed : ((m.setStreamState stream .released).unlock stream).listed
            audio.streamID = m.listed audio.streamID := rfl
        simp only [plays_cons, stops_cons, Action.plays?, Action.stops?, target,
          if_true, reduceCtorEq, if_false] at noMore enough
        simp only [List.flatten_nil, List.append_nil, sameListed, AudioStream.sounding,
          reduceCtorEq, if_false]
        split
        · rename_i running
          rw [if_pos running] at guarded
          simp only [List.nil_append]
          omega
        · rename_i idle
          rw [if_neg idle] at guarded
          simp only [List.cons_append, List.nil_append, plays_cons, stops_cons, Action.plays?,
            Action.stops?, if_true, reduceCtorEq, if_false]
          omega
      · intro unmapped silent
        simp

theorem Accounted.postProcessing (accounted : m.Accounted (.postProcessing streamID :: rest))
    (kept : m.KeepsPlaying cfg (.postProcessing streamID :: rest) answers
      (.postProcessing streamID)) :
    (m.postProcessing streamID).Accounted rest := by
  have others (other : Int) (different : other ≠ streamID) :
      plays m.ids (.postProcessing streamID :: rest) other = plays m.ids rest other ∧
        stops m.ids (.postProcessing streamID :: rest) other = stops m.ids rest other := by
    constructor
    · simp [Action.plays?, Ne.symm different]
    · simp [Action.stops?]
  rw [StreamIDManager.postProcessing]
  split
  · rename_i inQueue
    obtain ⟨stream, audio, there, isMapped, same⟩ := accounted.mapped_of_playing inQueue
    subst same
    have guarded := kept inQueue
    have positive : 0 < m.listed audio.streamID := List.count_pos_iff.mpr inQueue
    rw [accounted.lookup there isMapped]
    refine accounted.turn there rfl rfl (fun _ => rfl) (fun _ => rfl) ?_ ?_ ?_ ?_ ?_
    · intro other member
      exact List.mem_of_mem_erase member
    · intro action member
      exact .inl (List.mem_cons_of_mem _ member)
    · intro other different
      obtain ⟨samePlays, sameStops⟩ := others other different
      refine ⟨?_, samePlays.symm, Nat.le_of_eq sameStops⟩
      have erased := listed_erase m audio.streamID other
      rw [if_neg (Ne.symm different)] at erased
      exact erased
    · intro _ noMore enough
      have erased := listed_erase m audio.streamID audio.streamID
      rw [if_pos rfl] at erased
      have low := sounding_le audio
      simp only [plays_cons, stops_cons, Action.plays?, Action.stops?, if_true, reduceCtorEq,
        if_false] at guarded noMore enough
      simp only [AudioStream.sounding, reduceCtorEq, if_false, listed, setStreamState,
        update_playing, erased]
      simp only [listed] at guarded noMore enough positive
      omega
    · intro unmapped
      rw [isMapped] at unmapped
      cases unmapped
  · rename_i outside
    refine accounted.change (.same rfl id) ?_ (fun _ => .inl) ?_ ?_ (fun _ _ _ _ => id)
    · intro action member
      exact .inl (List.mem_cons_of_mem _ member)
    · intro stream audio there isMapped books
      obtain ⟨noMore, enough⟩ := books
      by_cases same : audio.streamID = streamID
      · subst same
        have unlisted : m.listed audio.streamID = 0 := List.count_eq_zero.mpr outside
        simp only [plays_cons, stops_cons, Action.plays?, Action.stops?, if_true,
          reduceCtorEq, if_false] at noMore enough
        constructor
        · omega
        · omega
      · obtain ⟨samePlays, sameStops⟩ := others audio.streamID same
        constructor
        · rwa [← samePlays]
        · rwa [← samePlays, ← sameStops]
    · intro stream audio there isMapped unmapped
      rw [isMapped] at unmapped
      cases unmapped

theorem Accounted.stop {tooEarly : Bool} (accounted : m.Accounted (.stop stream tooEarly :: rest))
    (kept : m.KeepsPlaying cfg (.stop stream tooEarly :: rest) answers (.stop stream tooEarly)) :
    (m.stop stream tooEarly).manager.Accounted
      ((m.stop stream tooEarly).next ++ (m.stop stream tooEarly).created.flatten ++ rest) := by
  rw [StreamIDManager.stop]
  cases there : m.streams[stream]? with
  | none =>
    have noStop : (Action.stop stream tooEarly).stops? m.ids = none := by
      cases tooEarly with
      | true => rfl
      | false => simp [Action.stops?, ids_getElem?, there]
    exact accounted.done rfl noStop
  | some audio =>
    have target : m.ids[stream]? = some audio.streamID := by
      rw [ids_getElem?, there]
      rfl
    cases tooEarly with
    | true =>
      exact accounted.done rfl rfl
    | false =>
      simp only [Bool.false_eq_true, if_false]
      split
      · have locked : (m.update stream fun audio => { audio with
            streamLock := true }).Accounted (.stop stream false :: rest) :=
          accounted.adjust stream (fun _ => rfl) (fun _ => rfl) (fun _ => Iff.rfl)
        have sameIds : (m.update stream fun audio => { audio with
            streamLock := true }).ids = m.ids :=
          ids_update m stream fun _ => rfl
        refine locked.quiet (.same rfl id) (fun _ _ => rfl) (fun _ _ => Iff.rfl) (.refl _) ?_ ?_ ?_
        · intro action member
          simp only [List.flatten_nil, List.append_nil, List.cons_append, List.nil_append,
            List.mem_cons] at member
          rcases member with rfl | rfl | old
          · exact .inr trivial
          · exact .inr trivial
          · exact .inl (List.mem_cons_of_mem _ old)
        · intro other held atOther isMapped
          simp [Action.plays?]
        · intro other held atOther isMapped
          simp [Action.stops?, sameIds, target]
      · rename_i idle
        refine accounted.turn there (List.modify_id stream m.streams).symm rfl
          (fun _ => rfl) (fun _ => rfl) (fun _ => id) ?_ ?_ ?_ (fun _ => id)
        · intro action member
          exact .inl (List.mem_cons_of_mem _ member)
        · intro other different
          refine ⟨rfl, ?_, ?_⟩
          · simp [Action.plays?]
          · simp [Action.stops?, target, Ne.symm different]
        · intro isMapped noMore enough
          have guarded := (kept audio there isMapped).resolve_left idle
          simp only [plays_cons, stops_cons, Action.plays?, Action.stops?, target, if_true,
            reduceCtorEq, if_false] at noMore enough guarded
          simp only [List.flatten_nil, List.append_nil, List.nil_append, id]
          omega

theorem Accounted.finish (accounted : m.Accounted (.onPlayFinished streamID :: rest))
    (kept : m.KeepsPlaying cfg (.onPlayFinished streamID :: rest) answers
      (.onPlayFinished streamID)) :
    (m.innerProcessOfOnPlayFinished streamID).1.Accounted rest := by
  simp only [innerProcessOfOnPlayFinished]
  cases found : m.getStreamByStreamID streamID with
  | none =>
    have outside : streamID ∉ m.playingStreamIDs := by
      intro inQueue
      obtain ⟨stream, audio, there, isMapped, same⟩ := accounted.mapped_of_playing inQueue
      rw [← same, accounted.lookup there isMapped] at found
      cases found
    refine accounted.quiet (.same rfl id) (fun _ _ => rfl) (fun _ _ => Iff.rfl)
      (.of_eq (List.erase_of_not_mem outside)) ?_ ?_ ?_
    · intro action member
      exact .inl (List.mem_cons_of_mem _ member)
    · intro stream audio there isMapped
      simp [Action.plays?]
    intro stream audio there isMapped
    have different : streamID ≠ audio.streamID := by
      intro same
      rw [same, accounted.lookup there isMapped] at found
      cases found
    simp [Action.stops?, different]
  | some stream =>
    obtain ⟨audio, there, isMapped, same⟩ := getStreamByStreamID_some found
    subst same
    have guarded := kept (by rw [found]; rfl)
    refine accounted.turn there rfl rfl ?_ ?_ ?_ ?_ ?_ ?_ ?_
    · intro held
      split <;> rfl
    · intro held
      split <;> rfl
    · intro other member
      exact List.mem_of_mem_erase member
    · intro action member
      exact .inl (List.mem_cons_of_mem _ member)
    · intro other different
      have erased := listed_erase m audio.streamID other
      rw [if_neg (Ne.symm different)] at erased
      refine ⟨erased, ?_, ?_⟩
      · simp [Action.plays?]
      · simp [Action.stops?, Ne.symm different]
    · intro _ noMore enough
      have erased := listed_erase m audio.streamID audio.streamID
      rw [if_pos rfl] at erased
      have silent : (if audio.streamState = .playing then
          { audio with streamState := StreamState.stopped } else audio).sounding = 0 := by
        split
        · rfl
        · rename_i other
          simp [AudioStream.sounding, other]
      have low := sounding_le audio
      simp only [plays_cons, stops_cons, Action.plays?, Action.stops?, if_true, reduceCtorEq,
        if_false] at guarded noMore enough
      rw [silent]
      simp only [listed, update_playing, erased]
      simp only [listed] at guarded noMore enough
      omega
    · intro unmapped
      rw [isMapped] at unmapped
      cases unmapped

theorem Accounted.onPlayFinished (mode : cfg.interruptMode = .sameSoundInterrupt)
    (accounted : m.Accounted (.onPlayFinished streamID :: rest))
    (kept : m.KeepsPlaying cfg (.onPlayFinished streamID :: rest) answers
      (.onPlayFinished streamID)) :
    (m.onPlayFinished cfg.interruptMode streamID).manager.Accounted
      ((m.onPlayFinished cfg.interruptMode streamID).next ++
        (m.onPlayFinished cfg.interruptMode streamID).created.flatten ++ rest) := by
  have finished := accounted.finish kept
  rw [mode]
  rcases result : m.innerProcessOfOnPlayFinished streamID with ⟨now, found⟩
  rw [result] at finished
  cases found with
  | false =>
    simp only [StreamIDManager.onPlayFinished, result]
    exact finished
  | true =>
    simp only [StreamIDManager.onPlayFinished, result]
    split
    · exact finished
    rename_i waiting others front
    have promoted : ({ now with willPlayStreamIDs := others } : StreamIDManager).Accounted
        rest := finished.alike rfl rfl (.refl _)
    have starting : ({ now with willPlayStreamIDs := others } : StreamIDManager).Accounted
        ([Action.addPlayTask waiting none] ++ rest) :=
      promoted.more (by simp [Action.plays?]) (by simp [Action.Placed])
    exact starting

theorem Accounted.release (accounted : m.Accounted (.release stream :: rest))
    (kept : m.KeepsPlaying cfg (.release stream :: rest) answers (.release stream)) :
    (m.release stream).Accounted rest := by
  cases there : m.streams[stream]? with
  | none =>
    have beyond := List.getElem?_eq_none_iff.mp there
    have unchanged : (m.release stream).streams = m.streams :=
      List.modify_eq_self beyond
    exact (accounted.done rfl rfl).alike unchanged rfl (.refl _)
  | some audio =>
    refine accounted.turn there rfl rfl (fun _ => rfl) (fun _ => rfl) (fun _ => id) ?_ ?_ ?_ ?_
    · intro action member
      exact .inl (List.mem_cons_of_mem _ member)
    · intro other different
      refine ⟨rfl, ?_, ?_⟩
      · simp [Action.plays?]
      · simp [Action.stops?]
    · intro isMapped noMore enough
      have guarded := kept audio there isMapped
      simp only [plays_cons, stops_cons, Action.plays?, Action.stops?, reduceCtorEq,
        if_false] at guarded noMore enough
      have sameListed : (m.release stream).listed audio.streamID = m.listed audio.streamID :=
        rfl
      cases renderer : audio.audioRenderer with
      | false =>
        simp only [AudioStream.sounding, Bool.false_eq_true, if_false] at noMore enough ⊢
        omega
      | true =>
        have few := guarded renderer
        have released : AudioStream.sounding { audio with
            streamState := if (true : Bool) = true then .released else audio.streamState
            audioRenderer := false
            streamCallback := false } = 0 := rfl
        omega
    · intro unmapped silent
      cases audio.audioRenderer with
      | false => simpa using silent
      | true => simp

theorem Accounted.leave {audio : AudioStream} (accounted : m.Accounted rest)
    (there : m.streams[stream]? = some audio) (silent : audio.streamState ≠ .playing)
    (streams : after.streams = m.streams.modify stream fun audio => { audio with mapped := false })
    (next : after.nextStreamID = m.nextStreamID)
    (playing : after.playingStreamIDs =
      m.playingStreamIDs.filter fun other => other ≠ audio.streamID) : after.Accounted rest := by
  have changed : Changed m after fun other held =>
      if stream = other then { held with mapped := false } else held := by
    refine ⟨?_, ?_, ?_, fun natural => next ▸ natural⟩
    · intro other
      rw [streams, List.getElem?_modify]
      rfl
    · intro other held
      split <;> rfl
    · intro other held stays
      split at stays
      · cases stays
      · exact stays
  refine accounted.change changed (fun _ => .inl) ?_ ?_ ?_ ?_
  · intro other member
    rw [playing] at member
    exact .inl (List.mem_of_mem_filter member)
  · intro other held atOther stays books
    split at stays
    · cases stays
    rename_i elsewhere
    rw [if_neg elsewhere]
    have different : held.streamID ≠ audio.streamID := by
      intro equal
      exact elsewhere (accounted.unique atOther there equal).symm
    have sameListed : after.listed held.streamID = m.listed held.streamID := by
      rw [listed, playing]
      exact List.count_filter (by simpa using different)
    obtain ⟨noMore, enough⟩ := books
    constructor
    · rwa [changed.ids_eq, sameListed]
    · rwa [changed.ids_eq, sameListed]
  · intro other held atOther wasMapped lost
    by_cases atStream : stream = other
    · subst other
      rw [there, Option.some_inj] at atOther
      subst held
      simp only [if_true]
      refine ⟨silent, ?_⟩
      simp [playing]
    · rw [if_neg atStream, wasMapped] at lost
      cases lost
  · intro other held atOther unmapped quiet
    split
    · exact quiet
    · exact quiet

theorem Accounted.clearStreamIDInDeque {soundID : Int}
    (accounted : m.Accounted (.clearStreamIDInDeque soundID streamID :: rest))
    (kept : m.KeepsPlaying cfg (.clearStreamIDInDeque soundID streamID :: rest) answers
      (.clearStreamIDInDeque soundID streamID)) :
    (m.clearStreamIDInDeque cfg.interruptMode soundID streamID).Accounted rest := by
  have done := accounted.done rfl rfl
  simp only [KeepsPlaying] at kept
  simp only [StreamIDManager.clearStreamIDInDeque, removeStreamBySoundIDAndStreamID]
  cases found : m.streams.findIdx? fun audio => audio.mapped &&
      decide (audio.soundID = soundID ∧ audio.streamID = streamID) with
  | none =>
    simp only [found] at kept
    refine done.alike rfl rfl (.of_eq (List.filter_eq_self.mpr ?_))
    intro other member
    simp only [ne_eq, decide_not, Bool.not_eq_true', decide_eq_false_iff_not]
    rintro rfl
    exact kept member
  | some stream =>
    simp only [found] at kept
    obtain ⟨within, holds, -⟩ := List.findIdx?_eq_some_iff_getElem.mp found
    have there : m.streams[stream]? = some m.streams[stream] := List.getElem?_eq_getElem within
    simp only [Bool.and_eq_true, decide_eq_true_eq] at holds
    exact done.leave there (kept _ there) rfl rfl (by rw [holds.2.2]; rfl)

/-- The step lemma of the actions. -/
theorem Accounted.perform {action : Action} (mode : cfg.interruptMode = .sameSoundInterrupt)
    (accounted : m.Accounted (action :: rest))
    (kept : m.KeepsPlaying cfg (action :: rest) answers action) :
    (m.perform cfg answers action).manager.Accounted ((m.perform cfg answers action).next ++
        (m.perform cfg answers action).created.flatten ++ rest) := by
  cases action with
  | removeInvalidStreams order => exact accounted.removeInvalidStreams mode kept
  | removeStoppedStreams order => exact accounted.removeStoppedStreams kept
  | getStream soundID priority => exact accounted.getStream mode kept
  | setPlay streamID priority => exact accounted.setPlay
  | setPlayLookup streamID priority =>
    have done := accounted.done rfl rfl
    simp only [StreamIDManager.perform, setPlayLookup]
    split
    · exact done
    · exact done.more (by simp [Action.plays?]) (by simp [Action.Placed])
  | configure stream priority | stopRenderer stream | prioritise stream priority =>
    exact (accounted.done rfl rfl).adjust stream (fun _ => rfl) (fun _ => rfl) fun _ => Iff.rfl
  | setPlayDecision stream streamID => exact accounted.setPlayDecision
  | addPlayTask streamID last => exact accounted.addPlayTask kept
  | doPlay streamID => exact accounted.doPlay
  | playStream stream => exact accounted.playStream mode
  | startRenderer stream => exact accounted.startRenderer mode kept
  | postProcessing streamID => exact accounted.postProcessing kept
  | stopAudioStream streamID =>
    have done := accounted.done rfl rfl
    simp only [StreamIDManager.perform, stopAudioStream]
    split
    · exact done
    · exact done.more (by simp [Action.plays?]) (by simp [Action.Placed])
  | stop stream tooEarly => exact accounted.stop kept
  | onPlayFinished streamID => exact accounted.onPlayFinished mode kept
  | setPriority streamID priority =>
    have done := accounted.done rfl rfl
    simp only [StreamIDManager.perform, setPriority]
    split
    · exact done
    · exact done.more (by simp [Action.plays?]) (by simp [Action.Placed])
  | reorderStream => exact (accounted.done rfl rfl).alike rfl rfl (reorder_perm _ _)
  | release stream => exact accounted.release kept
  | unload soundID =>
    have done := accounted.done rfl rfl
    simp only [StreamIDManager.perform, unload, List.flatten_nil, List.append_nil]
    refine done.more ?_ ?_
    · intro later member
      obtain ⟨streamID, -, rfl⟩ := List.mem_map.mp member
      rfl
    · intro later member
      obtain ⟨streamID, -, rfl⟩ := List.mem_map.mp member
      trivial
  | unloadStream soundID streamID =>
    have done := accounted.done rfl rfl
    simp only [StreamIDManager.perform, unloadStream]
    split
    · exact done
    · exact done.more (by simp [Action.plays?]) (by simp [Action.Placed])
  | clearStreamIDInDeque soundID streamID => exact accounted.clearStreamIDInDeque kept

theorem keepsPlaying_perm {action : Action} (same : tasks.Perm later)
    (kept : m.KeepsPlaying cfg tasks answers action) :
    m.KeepsPlaying cfg later answers action := by
  have playsSame : plays m.ids later = plays m.ids tasks :=
    funext fun streamID => (plays_perm same streamID).symm
  have stopsSame : stops m.ids later = stops m.ids tasks :=
    funext fun streamID => (stops_perm same streamID).symm
  cases action with
  | startRenderer stream =>
    simp only [KeepsPlaying, KeepsStarting, playsSame] at kept ⊢
    exact kept
  | postProcessing streamID | release stream =>
    simp only [KeepsPlaying, playsSame] at kept ⊢
    exact kept
  | stop stream tooEarly =>
    cases tooEarly with
    | true => trivial
    | false =>
      simp only [KeepsPlaying, playsSame, stopsSame] at kept ⊢
      exact kept
  | onPlayFinished streamID =>
    simp only [KeepsPlaying, playsSame, stopsSame] at kept ⊢
    exact kept
  | _ => exact kept

end StreamIDManager

def KeepsPlaying (cfg : Config) (s : PoolState) : Event → Prop
  | .run thread answers =>
    ∀ action ∈ Threads.next? s.threads thread,
      (StreamIDManager.waitsFor action).any s.manager.isLocked = false →
        s.manager.KeepsPlaying cfg s.threads.flatten answers action
  | _ => True

instance (cfg : Config) (s : PoolState) : (event : Event) → Decidable (KeepsPlaying cfg s event)
  | .run _ _ => inferInstanceAs (Decidable (∀ _ ∈ _, _ → _))
  | .play _ _ _ | .stop _ | .setPriority _ _ | .unload _ | .playbackCompleted _ _
  | .interrupted _ => .isTrue trivial

/-- No task is on the way to play or to stop the stream. -/
def PoolState.Settled (s : PoolState) (streamID : Int) : Prop :=
  ∀ action ∈ s.threads.flatten, action.plays? s.manager.ids ≠ some streamID ∧
    action.stops? s.manager.ids ≠ some streamID

/-- A stream that no task is going to play or to stop plays if and only if its ID is in the
playing queue, and the queue holds no other IDs. -/
structure PlayTogether (s : PoolState) : Prop where
  same : ∀ audio ∈ s.manager.streams, s.Settled audio.streamID →
    (audio.streamState = .playing ↔ audio.streamID ∈ s.manager.playingStreamIDs)
  known : ∀ streamID ∈ s.manager.playingStreamIDs, streamID ∈ s.manager.ids

def PoolState.Accounted (s : PoolState) : Prop := s.manager.Accounted s.threads.flatten

theorem next?_mem {threads : List (List Action)} {thread : Nat} {action : Action}
    (ready : Threads.next? threads thread = some action) : action ∈ threads.flatten := by
  obtain ⟨actions, there, head⟩ := Option.bind_eq_some_iff.mp ready
  exact List.mem_flatten.mpr ⟨actions, List.mem_of_getElem? there, List.mem_of_head? head⟩

theorem runThread_accounted {cfg : Config} {s : PoolState}
    (mode : cfg.interruptMode = .sameSoundInterrupt) (accounted : s.Accounted) (thread : Nat)
    (answers : Answers) (kept : KeepsPlaying cfg s (.run thread answers)) :
    (s.runThread cfg thread answers).Accounted := by
  rw [PoolState.runThread]
  split
  · exact accounted
  rename_i action ready
  split
  · exact accounted
  rename_i free
  have split := List.perm_cons_erase (next?_mem ready)
  have guarded := StreamIDManager.keepsPlaying_perm split
    (kept action ready (by simpa using free))
  have performed := (StreamIDManager.Accounted.perm accounted split).perform mode guarded
  refine performed.perm ?_
  have moved := Threads.proceed_perm ready (s.manager.perform cfg answers action).next
    (s.manager.perform cfg answers action).created
  refine List.Perm.cons_inv (a := action) ?_
  refine List.Perm.trans ?_ moved.symm
  refine List.perm_append_comm.cons action |>.trans ?_
  exact (split.symm.append_right _)

theorem step_accounted {cfg : Config} {s : PoolState}
    (mode : cfg.interruptMode = .sameSoundInterrupt) (accounted : s.Accounted) {event : Event}
    (kept : KeepsPlaying cfg s event) : (step cfg s event).Accounted := by
  have called {actions : List Action}
      (quiet : ∀ action ∈ actions, action.plays? s.manager.ids = none)
      (placed : ∀ action ∈ actions, action.Placed s.manager.ids) :
      (s.call actions).Accounted := by
    have more := StreamIDManager.Accounted.more accounted quiet placed
    refine more.perm ?_
    rw [PoolState.call, List.flatten_append, List.flatten_singleton]
    exact List.perm_append_comm
  cases event with
  | play soundID priority order | stop streamID | setPriority streamID priority
  | playbackCompleted stream tooEarly | unload soundID | interrupted stream =>
    exact called (by simp [Action.plays?]) (by simp [Action.Placed])
  | run thread answers => exact runThread_accounted mode accounted thread answers kept

theorem PoolState.Accounted.playTogether {s : PoolState} (accounted : s.Accounted) :
    PlayTogether s where
  known := StreamIDManager.Accounted.known accounted
  same audio member settled := by
      obtain ⟨stream, there⟩ := List.getElem?_of_mem member
      have unplayed : plays s.manager.ids s.threads.flatten audio.streamID = 0 := by
        rw [plays, List.count_eq_zero]
        intro target
        obtain ⟨action, inTasks, same⟩ := List.mem_filterMap.mp target
        exact (settled action inTasks).1 same
      have unstopped : stops s.manager.ids s.threads.flatten audio.streamID = 0 := by
        rw [stops, List.count_eq_zero]
        intro target
        obtain ⟨action, inTasks, same⟩ := List.mem_filterMap.mp target
        exact (settled action inTasks).2 same
      cases isMapped : audio.mapped with
      | true =>
        obtain ⟨noMore, enough⟩ :=
          StreamIDManager.Accounted.balanced accounted stream audio there isMapped
        rw [unplayed] at noMore enough
        rw [unstopped] at enough
        rw [← List.count_pos_iff, ← StreamIDManager.listed, Nat.le_antisymm noMore enough,
          AudioStream.sounding]
        split
        · rename_i isPlaying
          simp [isPlaying]
        · rename_i silent
          simp [silent]
      | false =>
        obtain ⟨silent, out⟩ :=
          StreamIDManager.Accounted.gone accounted stream audio there isMapped
        exact ⟨fun isPlaying => absurd isPlaying silent, fun inQueue => absurd inQueue out⟩

/-- In every run of the mode that interrupts the same sound whose steps all meet the condition,
the streams that play are those in the playing queue. -/
theorem playing_streams_in_queue (cfg : Config) (mode : cfg.interruptMode = .sameSoundInterrupt)
    (events : List Event) (kept : Along (step cfg) (KeepsPlaying cfg) {} events) :
    PlayTogether (reached cfg events) := by
  have accounted : (reached cfg events).Accounted :=
    invariant_of_along PoolState.Accounted
      (fun _ _ accounted kept => step_accounted mode accounted kept) kept {
        distinct := List.nodup_nil
        natural := Int.le_refl 0
        naturals := fun _ member => absurd member List.not_mem_nil
        placed := fun _ member => absurd member List.not_mem_nil
        known := fun _ member => absurd member List.not_mem_nil
        balanced := fun _ _ there => absurd there (by simp)
        gone := fun _ _ there => absurd there (by simp) }
  exact accounted.playTogether

def onePlace : Config := ⟨.sameSoundInterrupt, 1, by decide⟩

/-- A sound is played, another one takes its place, and that one ends. -/
def playOver : List Event :=
  [.play 1 0 [], .run 0 {}, .run 0 {}, .run 0 {}, .run 0 {}, .run 1 {}, .run 1 {}, .run 1 {},
    .play 2 0 [], .run 2 {}, .run 2 {}, .run 2 {}, .run 2 {}, .run 4 {}, .run 3 {}, .run 3 {},
    .run 3 {}, .run 4 {}, .run 4 {}, .playbackCompleted 1 false, .run 5 {}, .run 5 {}, .run 5 {}]

theorem played_over_in_queue : PlayTogether (reached onePlace playOver) :=
  playing_streams_in_queue onePlace rfl playOver (by decide +kernel)

/-- The sound that plays is played again: it is stopped to be started itself, and the stop comes
first. -/
def stopBeforePlay : List Event :=
  [.play 1 0 [], .run 0 {}, .run 0 {}, .run 0 {}, .run 0 {}, .run 1 {}, .run 1 {}, .run 1 {},
    .play 1 0 [], .run 2 {}, .run 2 {}, .run 2 {}, .run 2 {}, .run 3 {}, .run 3 {}, .run 3 {},
    .run 4 {}, .run 4 {}, .run 4 {}]

/-- In the end nothing is left to be done, the stream plays, and the queue is empty. -/
theorem plays_outside_queue : (reached onePlace stopBeforePlay).threads.flatten = [] ∧
      (reached onePlace stopBeforePlay).manager.streams.map AudioStream.streamState = [.playing] ∧
      (reached onePlace stopBeforePlay).manager.playingStreamIDs = [] ∧
      ¬ PlayTogether (reached onePlace stopBeforePlay) := by
  have idle : (reached onePlace stopBeforePlay).threads.flatten = [] := by decide +kernel
  have states : (reached onePlace stopBeforePlay).manager.streams.map AudioStream.streamState =
      [.playing] := by decide +kernel
  have empty : (reached onePlace stopBeforePlay).manager.playingStreamIDs = [] := by
    decide +kernel
  refine ⟨idle, states, empty, ?_⟩
  intro together
  obtain ⟨audio, member, isPlaying⟩ := List.mem_map.mp
    (states ▸ List.mem_singleton_self StreamState.playing)
  have settled : (reached onePlace stopBeforePlay).Settled audio.streamID := by
    intro action inTasks
    rw [idle] at inTasks
    cases inTasks
  have inQueue := (together.same audio member settled).mp isPlaying
  rw [empty] at inQueue
  cases inQueue

end PlayerFramework.SoundPool
