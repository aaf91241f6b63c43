import PlayerFramework.SoundPool.PlayTasks

/-!
The invariant of the playing queue: a mapped stream has an ID in the queue for itself, if it
plays, and for each task that is to play it; where IDs are missing, as many stops are on the way.
-/

namespace PlayerFramework.SoundPool

open Transition

namespace StreamIDManager

structure Balanced (m : StreamIDManager) (tasks : List Action) (audio : AudioStream) : Prop where
  noMore : m.listed audio.streamID ≤ audio.sounding + plays m.ids tasks audio.streamID
  enough : audio.sounding + plays m.ids tasks audio.streamID ≤
    m.listed audio.streamID + stops m.ids tasks audio.streamID

structure Accounted (m : StreamIDManager) (tasks : List Action) : Prop where
  distinct : m.ids.Nodup
  natural : 0 ≤ m.nextStreamID
  naturals : ∀ streamID ∈ m.ids, 0 ≤ streamID
  placed : ∀ action ∈ tasks, action.Placed m.ids
  known : ∀ streamID ∈ m.playingStreamIDs, streamID ∈ m.ids
  balanced : ∀ (stream : Nat) audio, m.streams[stream]? = some audio → audio.mapped = true →
    m.Balanced tasks audio
  gone : ∀ (stream : Nat) audio, m.streams[stream]? = some audio → audio.mapped = false →
    audio.streamState ≠ .playing ∧ audio.streamID ∉ m.playingStreamIDs

variable {m after : StreamIDManager} {tasks later : List Action} {streamID : Int} {stream : Nat}

theorem ids_getElem? (m : StreamIDManager) (stream : Nat) :
    m.ids[stream]? = (m.streams[stream]?).map AudioStream.streamID :=
  List.getElem?_map

theorem Accounted.perm (accounted : m.Accounted tasks) (same : tasks.Perm later) :
    m.Accounted later where
  distinct := accounted.distinct
  natural := accounted.natural
  naturals := accounted.naturals
  placed action member := accounted.placed action (same.mem_iff.mpr member)
  known := accounted.known
  balanced stream audio there mapped := by
      obtain ⟨noMore, enough⟩ := accounted.balanced stream audio there mapped
      constructor
      · rwa [← plays_perm same]
      · rwa [← plays_perm same, ← stops_perm same]
  gone := accounted.gone

/-- Two streams with one ID are the same. -/
theorem Accounted.unique (accounted : m.Accounted tasks) {first second : Nat}
    {audio other : AudioStream} (atFirst : m.streams[first]? = some audio)
    (atSecond : m.streams[second]? = some other) (same : audio.streamID = other.streamID) :
    first = second := by
  have within : first < m.ids.length := by
    rw [ids, List.length_map]
    exact (List.getElem?_eq_some_iff.mp atFirst).1
  refine (List.getElem?_inj within accounted.distinct).mp ?_
  rw [ids_getElem?, ids_getElem?, atFirst, atSecond]
  exact congrArg some same

theorem getStreamByStreamID_some (found : m.getStreamByStreamID streamID = some stream) :
    ∃ audio, m.streams[stream]? = some audio ∧ audio.mapped = true ∧ audio.streamID = streamID := by
  unfold getStreamByStreamID at found
  split at found
  · obtain ⟨within, holds, -⟩ := List.findIdx?_eq_some_iff_getElem.mp found
    refine ⟨m.streams[stream], List.getElem?_eq_getElem within, ?_⟩
    simpa using holds
  · cases found

theorem Accounted.lookup (accounted : m.Accounted tasks) {audio : AudioStream}
    (there : m.streams[stream]? = some audio) (mapped : audio.mapped = true) :
    m.getStreamByStreamID audio.streamID = some stream := by
  have member : audio.streamID ∈ m.ids := by
    refine List.mem_map.mpr ⟨audio, List.mem_of_getElem? there, rfl⟩
  have found : (m.getStreamByStreamID audio.streamID).isSome := by
    rw [getStreamByStreamID, if_pos (accounted.naturals _ member), List.findIdx?_isSome,
      List.any_eq_true]
    exact ⟨audio, List.mem_of_getElem? there, by simp [mapped]⟩
  obtain ⟨other, same⟩ := Option.isSome_iff_exists.mp found
  obtain ⟨held, atOther, -, sameID⟩ := getStreamByStreamID_some same
  rw [same, accounted.unique atOther there sameID]

theorem Accounted.mapped_of_playing (accounted : m.Accounted tasks)
    (playing : streamID ∈ m.playingStreamIDs) :
    ∃ (stream : Nat) (audio : AudioStream), m.streams[stream]? = some audio ∧
      audio.mapped = true ∧ audio.streamID = streamID := by
  obtain ⟨audio, member, same⟩ := List.mem_map.mp (accounted.known streamID playing)
  obtain ⟨stream, there⟩ := List.getElem?_of_mem member
  refine ⟨stream, audio, there, ?_, same⟩
  by_contra unmapped
  have out := (accounted.gone stream audio there (by simpa using unmapped)).2
  exact out (same ▸ playing)

/-- Streams change, but not their IDs, and none comes. -/
structure Changed (m after : StreamIDManager) (change : Nat → AudioStream → AudioStream) :
    Prop where
  streams : ∀ stream : Nat, after.streams[stream]? = (m.streams[stream]?).map (change stream)
  ids : ∀ stream audio, (change stream audio).streamID = audio.streamID
  mapped : ∀ stream audio, (change stream audio).mapped = true → audio.mapped = true
  next : 0 ≤ m.nextStreamID → 0 ≤ after.nextStreamID

theorem Changed.ids_eq {change : Nat → AudioStream → AudioStream}
    (changed : Changed m after change) :
    after.ids = m.ids := by
  refine List.ext_getElem? ?_
  intro stream
  rw [ids_getElem?, ids_getElem?, changed.streams]
  cases m.streams[stream]? with
  | none => rfl
  | some audio => exact congrArg some (changed.ids stream audio)

theorem Changed.same (streams : after.streams = m.streams)
    (next : 0 ≤ m.nextStreamID → 0 ≤ after.nextStreamID) : Changed m after fun _ audio =>
      audio where
  streams stream := by
      rw [streams]
      cases m.streams[stream]? <;> rfl
  ids _ _ := rfl
  mapped _ _ := id
  next := next

theorem Changed.update {change : AudioStream → AudioStream} (stream : Nat)
    (streams : after.streams = m.streams.modify stream change)
    (ids : ∀ audio, (change audio).streamID = audio.streamID)
    (mapped : ∀ audio, (change audio).mapped = audio.mapped)
    (next : 0 ≤ m.nextStreamID → 0 ≤ after.nextStreamID) :
    Changed m after fun other audio => if stream = other then change audio else audio where
  streams other := by
      rw [streams, List.getElem?_modify]
      rfl
  ids other audio := by
      split
      · exact ids audio
      · rfl
  mapped other audio isMapped := by
      split at isMapped
      · rwa [mapped] at isMapped
      · exact isMapped
  next := next

theorem ids_update (m : StreamIDManager) (stream : Nat) {change : AudioStream → AudioStream}
    (same : ∀ audio, (change audio).streamID = audio.streamID) :
    (m.update stream change).ids = m.ids := by
  refine List.ext_getElem? ?_
  intro other
  rw [ids_getElem?, ids_getElem?, update, List.getElem?_modify]
  cases m.streams[other]? with
  | none => rfl
  | some audio =>
    by_cases atStream : stream = other
    · simp [atStream, same]
    · simp [atStream]

/-- The rule of the invariant: what the books of the mapped streams are then, and that a stream
which leaves the map neither plays nor is in the queue. -/
theorem Accounted.change {change : Nat → AudioStream → AudioStream}
    (accounted : m.Accounted tasks) (changed : Changed m after change)
    (placed : ∀ action ∈ later, action ∈ tasks ∨ action.Placed m.ids)
    (playing : ∀ streamID ∈ after.playingStreamIDs, streamID ∈ m.playingStreamIDs ∨
      ∃ (stream : Nat) (audio : AudioStream), m.streams[stream]? = some audio ∧
        audio.mapped = true ∧
        audio.streamID = streamID)
    (balanced : ∀ (stream : Nat) audio, m.streams[stream]? = some audio →
      (change stream audio).mapped = true → m.Balanced tasks audio →
        after.Balanced later (change stream audio))
    (left : ∀ (stream : Nat) audio, m.streams[stream]? = some audio → audio.mapped = true →
      (change stream audio).mapped = false → (change stream audio).streamState ≠ .playing ∧
          audio.streamID ∉ after.playingStreamIDs)
    (idle : ∀ (stream : Nat) audio, m.streams[stream]? = some audio → audio.mapped = false →
      audio.streamState ≠ .playing → (change stream audio).streamState ≠ .playing) :
    after.Accounted later where
  distinct := changed.ids_eq ▸ accounted.distinct
  natural := changed.next accounted.natural
  naturals := changed.ids_eq ▸ accounted.naturals
  placed action member := by
      rw [changed.ids_eq]
      rcases placed action member with old | new
      · exact accounted.placed action old
      · exact new
  known streamID member := by
      rw [changed.ids_eq]
      rcases playing streamID member with old | ⟨stream, audio, there, -, same⟩
      · exact accounted.known streamID old
      · exact List.mem_map.mpr ⟨audio, List.mem_of_getElem? there, same⟩
  balanced stream now there mapped := by
      rw [changed.streams] at there
      obtain ⟨audio, before, same⟩ := Option.map_eq_some_iff.mp there
      subst same
      exact balanced stream audio before mapped
        (accounted.balanced stream audio before (changed.mapped stream audio mapped))
  gone stream now there unmapped := by
      rw [changed.streams] at there
      obtain ⟨audio, before, same⟩ := Option.map_eq_some_iff.mp there
      subst same
      rw [changed.ids]
      cases was : audio.mapped with
      | true => exact left stream audio before was unmapped
      | false =>
        obtain ⟨silent, out⟩ := accounted.gone stream audio before was
        refine ⟨idle stream audio before was silent, ?_⟩
        intro member
        rcases playing audio.streamID member with old | ⟨other, held, atOther, mapped, same⟩
        · exact out old
        · have atStream := accounted.unique atOther before same
          rw [atStream, before, Option.some_inj] at atOther
          rw [atOther, mapped] at was
          cases was

end StreamIDManager

end PlayerFramework.SoundPool
