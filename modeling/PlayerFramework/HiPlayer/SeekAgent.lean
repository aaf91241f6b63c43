import Mathlib.Data.List.Nodup

/-!
The tracks that a seek to the closest frame waits for (`seek_agent.cpp`): a listener on the buffer
queue of each of them tells when a buffer has reached the target.
-/

namespace PlayerFramework.HiPlayer

/-- What `GetStreamMetaInfo` tells of a track: `Tag::REGULAR_TRACK_ID` and `Tag::MIME_TYPE`. -/
structure StreamMeta where
  regularTrackId : Option Int
  mimeType : Option (List Char)
deriving DecidableEq

inductive ListenerKind where
  | audio
  | video
deriving DecidableEq

/-- What the MIME type of a track begins with. -/
def ListenerKind.mime : ListenerKind → List Char
  | .audio => ['a', 'u', 'd', 'i', 'o']
  | .video => ['v', 'i', 'd', 'e', 'o']

/-- `GetBufferQueueProducerMap`: the track IDs in order, each with whether its producer exists. -/
structure ProducerMap where
  entries : List (Int × Bool)
  distinct : (entries.map Prod.fst).Nodup

structure SeekAgent where
  isAudioTargetArrived : Bool := true
  isVideoTargetArrived : Bool := true
  listenerMap : List (Int × ListenerKind) := []
deriving DecidableEq

namespace StreamMeta

/-- The MIME type is found to begin with that of the kind. -/
def isKind (track : StreamMeta) (kind : ListenerKind) : Bool :=
  match track.mimeType with
  | none => false
  | some mimeType => kind.mime.isPrefixOf mimeType

end StreamMeta

namespace SeekAgent

/-- The loop of `GetAllTrackInfo`; it gives a video track's place in the list in place of its
ID. -/
def collectTrackIds : Nat → List StreamMeta → List Int → List Int → List Int × List Int
  | _, [], videoTrackIds, audioTrackIds => (videoTrackIds, audioTrackIds)
  | index, track :: rest, videoTrackIds, audioTrackIds =>
    match track.regularTrackId with
    | none => collectTrackIds (index + 1) rest videoTrackIds audioTrackIds
    | some trackIndex =>
      if track.isKind .video then
        collectTrackIds (index + 1) rest (videoTrackIds ++ [(index : Int)]) audioTrackIds
      else if track.isKind .audio then
        collectTrackIds (index + 1) rest videoTrackIds (audioTrackIds ++ [trackIndex])
      else collectTrackIds (index + 1) rest videoTrackIds audioTrackIds

/-- The IDs of the video tracks and of the audio tracks. -/
def getAllTrackInfo (trackInfo : List StreamMeta) : List Int × List Int :=
  collectTrackIds 0 trackInfo [] []

def listen (agent : SeekAgent) (trackId : Int) (kind : ListenerKind) : SeekAgent :=
  match kind with
  | .audio =>
    { agent with
      isAudioTargetArrived := false, listenerMap := agent.listenerMap ++ [(trackId, kind)] }
  | .video =>
    { agent with
      isVideoTargetArrived := false, listenerMap := agent.listenerMap ++ [(trackId, kind)] }

/-- The loop of `SetBufferFilledListener`. -/
def installListeners (videoTrackIds audioTrackIds : List Int) :
    List (Int × Bool) → SeekAgent → SeekAgent
  | [], agent => agent
  | (trackId, producer) :: rest, agent =>
    if ¬producer then installListeners videoTrackIds audioTrackIds rest agent
    else if trackId ∈ audioTrackIds then
      installListeners videoTrackIds audioTrackIds rest (agent.listen trackId .audio)
    else if trackId ∈ videoTrackIds then
      installListeners videoTrackIds audioTrackIds rest (agent.listen trackId .video)
    else installListeners videoTrackIds audioTrackIds rest agent

/-- `SetBufferFilledListener`; without a producer it fails. -/
def setBufferFilledListener (agent : SeekAgent) (trackInfo : List StreamMeta)
    (producerMap : ProducerMap) : Option SeekAgent :=
  if producerMap.entries = [] then none
  else
    let trackIds := getAllTrackInfo trackInfo
    some (installListeners trackIds.1 trackIds.2 producerMap.entries agent)

/-- `OnAudioBufferFilled` and `OnVideoBufferFilled` for a buffer that has reached the target: the
listener of the track sets the flag of its kind. -/
def onBufferFilled (agent : SeekAgent) (trackId : Int) : SeekAgent :=
  { agent with
    isAudioTargetArrived := agent.isAudioTargetArrived || (trackId, .audio) ∈ agent.listenerMap
    isVideoTargetArrived := agent.isVideoTargetArrived || (trackId, .video) ∈ agent.listenerMap }

/-- What `Seek` waits for, until the time is over. -/
def waitEnds (agent : SeekAgent) (videoMuted isInterruptNeeded : Bool) : Bool :=
  (agent.isAudioTargetArrived && (agent.isVideoTargetArrived || videoMuted)) || isInterruptNeeded

/-- The agent of a seek once these tracks have reached the target. -/
def afterArrivals (trackInfo : List StreamMeta) (producerMap : ProducerMap)
    (arrivals : List Int) : SeekAgent :=
  arrivals.foldl onBufferFilled
    (((({} : SeekAgent).setBufferFilledListener trackInfo producerMap)).getD {})

def IsTrack (trackInfo : List StreamMeta) (kind : ListenerKind) (trackId : Int) : Prop :=
  ∃ track ∈ trackInfo, track.regularTrackId = some trackId ∧ track.isKind kind = true

/-- A video track that has an ID stands at this place of the list. -/
def IsVideoPlace (trackInfo : List StreamMeta) (place : Int) : Prop :=
  ∃ index : Nat, (index : Int) = place ∧ ∃ track, trackInfo[index]? = some track ∧
    track.regularTrackId.isSome ∧ track.isKind .video = true

def listening (trackInfo : List StreamMeta) (producerMap : ProducerMap) : SeekAgent :=
  (({} : SeekAgent).setBufferFilledListener trackInfo producerMap).getD {}

/-- The listener that the loop installs for an entry of the producer map. -/
def listenerOf (videoTrackIds audioTrackIds : List Int) (entry : Int × Bool) :
    Option (Int × ListenerKind) :=
  if ¬entry.2 then none
  else if entry.1 ∈ audioTrackIds then some (entry.1, .audio)
  else if entry.1 ∈ videoTrackIds then some (entry.1, .video)
  else none

theorem not_audio_of_video {track : StreamMeta} (video : track.isKind .video = true) :
    track.isKind .audio = false := by
  unfold StreamMeta.isKind at video ⊢
  cases mime : track.mimeType with
  | none => rfl
  | some mimeType =>
    rw [mime] at video
    cases mimeType with
    | nil => rfl
    | cons first rest =>
      by_cases same : first = 'v'
      · subst same
        rfl
      · simp [ListenerKind.mime, List.isPrefixOf, Ne.symm same] at video

variable {trackInfo : List StreamMeta}

theorem mem_collectTrackIds_video {index : Nat} {videoTrackIds audioTrackIds : List Int}
    {place : Int} :
    place ∈ (collectTrackIds index trackInfo videoTrackIds audioTrackIds).1 ↔
      place ∈ videoTrackIds ∨ ∃ offset : Nat, ((index + offset : Nat) : Int) = place ∧
        ∃ track, trackInfo[offset]? = some track ∧ track.regularTrackId.isSome ∧
          track.isKind .video = true := by
  induction trackInfo generalizing index videoTrackIds audioTrackIds with
  | nil => simp [collectTrackIds]
  | cons track rest ih =>
    have shift : (∃ offset : Nat, ((index + offset : Nat) : Int) = place ∧
        ∃ found, (track :: rest)[offset]? = some found ∧ found.regularTrackId.isSome ∧
          found.isKind .video = true) ↔
        ((index : Int) = place ∧ track.regularTrackId.isSome ∧ track.isKind .video = true) ∨
        ∃ offset : Nat, ((index + 1 + offset : Nat) : Int) = place ∧
          ∃ found, rest[offset]? = some found ∧ found.regularTrackId.isSome ∧
            found.isKind .video = true := by
      constructor
      · rintro ⟨offset, there, found, at_, kind⟩
        cases offset with
        | zero =>
          have same : track = found := Option.some.inj at_
          subst same
          exact Or.inl ⟨there, kind⟩
        | succ offset =>
          refine Or.inr ⟨offset, ?_, found, at_, kind⟩
          rw [← there]
          congr 1
          omega
      · rintro (⟨there, kind⟩ | ⟨offset, there, found, at_, kind⟩)
        · exact ⟨0, there, track, rfl, kind⟩
        · refine ⟨offset + 1, ?_, found, at_, kind⟩
          rw [← there]
          congr 1
          omega
    rw [shift, collectTrackIds]
    cases known : track.regularTrackId with
    | none =>
      rw [ih]
      simp
    | some trackIndex =>
      by_cases video : track.isKind .video = true
      · simp only [video, if_true]
        rw [ih, List.mem_append, List.mem_singleton]
        simp only [Option.isSome_some, and_true, or_assoc, eq_comm]
      · simp only [video, Bool.false_eq_true, if_false]
        split <;> rw [ih] <;> simp

variable {trackId : Int}

theorem mem_collectTrackIds_audio {index : Nat} {videoTrackIds audioTrackIds : List Int} :
    trackId ∈ (collectTrackIds index trackInfo videoTrackIds audioTrackIds).2 ↔
      trackId ∈ audioTrackIds ∨ IsTrack trackInfo .audio trackId := by
  induction trackInfo generalizing index videoTrackIds audioTrackIds with
  | nil => simp [collectTrackIds, IsTrack]
  | cons track rest ih =>
    have shift : IsTrack (track :: rest) .audio trackId ↔
        (track.regularTrackId = some trackId ∧ track.isKind .audio = true) ∨
          IsTrack rest .audio trackId := by
      simp [IsTrack]
    rw [shift, collectTrackIds]
    cases known : track.regularTrackId with
    | none =>
      rw [ih]
      simp
    | some trackIndex =>
      by_cases video : track.isKind .video = true
      · have silent := not_audio_of_video video
        simp only [video, if_true]
        rw [ih]
        simp [silent]
      · simp only [video, Bool.false_eq_true, if_false]
        by_cases audio : track.isKind .audio = true
        · simp only [audio, if_true]
          rw [ih, List.mem_append, List.mem_singleton]
          simp [or_assoc, eq_comm]
        · simp only [audio, Bool.false_eq_true, if_false]
          rw [ih]
          simp

theorem mem_getAllTrackInfo (trackInfo : List StreamMeta) (trackId : Int) :
    (trackId ∈ (getAllTrackInfo trackInfo).1 ↔ IsVideoPlace trackInfo trackId) ∧
      (trackId ∈ (getAllTrackInfo trackInfo).2 ↔ IsTrack trackInfo .audio trackId) := by
  constructor
  · rw [getAllTrackInfo, mem_collectTrackIds_video]
    simp [IsVideoPlace]
  · rw [getAllTrackInfo, mem_collectTrackIds_audio]
    simp

theorem installListeners_spec (videoTrackIds audioTrackIds : List Int)
    (entries : List (Int × Bool)) (agent : SeekAgent) :
    installListeners videoTrackIds audioTrackIds entries agent =
      { listenerMap := agent.listenerMap ++
          entries.filterMap (listenerOf videoTrackIds audioTrackIds)
        isAudioTargetArrived := agent.isAudioTargetArrived &&
          (entries.filterMap (listenerOf videoTrackIds audioTrackIds)).all (·.2 ≠ .audio)
        isVideoTargetArrived := agent.isVideoTargetArrived &&
          (entries.filterMap (listenerOf videoTrackIds audioTrackIds)).all (·.2 ≠ .video) } := by
  induction entries generalizing agent with
  | nil => simp [installListeners]
  | cons entry rest ih =>
    obtain ⟨trackId, producer⟩ := entry
    rw [installListeners]
    cases producer with
    | false => simp [ih, listenerOf]
    | true =>
      by_cases audio : trackId ∈ audioTrackIds
      · simp [ih, listenerOf, audio, listen]
      · by_cases video : trackId ∈ videoTrackIds
        · simp [ih, listenerOf, audio, video, listen]
        · simp [ih, listenerOf, audio, video]

def listeners (trackInfo : List StreamMeta) (producerMap : ProducerMap) :
    List (Int × ListenerKind) :=
  producerMap.entries.filterMap
    (listenerOf (getAllTrackInfo trackInfo).1 (getAllTrackInfo trackInfo).2)

theorem listening_eq (trackInfo : List StreamMeta) (producerMap : ProducerMap) :
    listening trackInfo producerMap =
      { listenerMap := listeners trackInfo producerMap
        isAudioTargetArrived := (listeners trackInfo producerMap).all (·.2 ≠ .audio)
        isVideoTargetArrived := (listeners trackInfo producerMap).all (·.2 ≠ .video) } := by
  unfold listening setBufferFilledListener listeners
  split
  case isTrue empty => simp [empty]
  case isFalse => simp [installListeners_spec]

variable {kind : ListenerKind}

theorem mem_listeners {producerMap : ProducerMap} :
    (trackId, kind) ∈ listeners trackInfo producerMap ↔ (trackId, true) ∈ producerMap.entries ∧
      ((kind = .audio ∧ IsTrack trackInfo .audio trackId) ∨
        (kind = .video ∧ ¬IsTrack trackInfo .audio trackId ∧
          IsVideoPlace trackInfo trackId)) := by
  rw [← (mem_getAllTrackInfo trackInfo trackId).1, ← (mem_getAllTrackInfo trackInfo trackId).2,
    listeners, List.mem_filterMap]
  constructor
  · rintro ⟨⟨entryId, producer⟩, inside, found⟩
    unfold listenerOf at found
    split_ifs at found with missing audio video
    · obtain ⟨rfl, rfl⟩ := Prod.mk.inj (Option.some.inj found)
      have present : producer = true := by simpa using missing
      subst present
      exact ⟨inside, Or.inl ⟨rfl, audio⟩⟩
    · obtain ⟨rfl, rfl⟩ := Prod.mk.inj (Option.some.inj found)
      have present : producer = true := by simpa using missing
      subst present
      exact ⟨inside, Or.inr ⟨rfl, audio, video⟩⟩
  · rintro ⟨inside, ⟨rfl, audio⟩ | ⟨rfl, audio, video⟩⟩
    · exact ⟨_, inside, by simp [listenerOf, audio]⟩
    · exact ⟨_, inside, by simp [listenerOf, audio, video]⟩

theorem listeners_nodup (trackInfo : List StreamMeta) (producerMap : ProducerMap) :
    ((listeners trackInfo producerMap).map Prod.fst).Nodup := by
  have part : List.Sublist ((listeners trackInfo producerMap).map Prod.fst)
      (producerMap.entries.map Prod.fst) := by
    unfold listeners
    induction producerMap.entries with
    | nil => exact List.Sublist.refl _
    | cons entry rest ih =>
      rw [List.filterMap_cons]
      split
      case h_1 => exact ih.cons _
      case h_2 listener found =>
        have same : listener.1 = entry.1 := by
          unfold listenerOf at found
          split_ifs at found <;> exact (Prod.mk.inj (Option.some.inj found)).1.symm ▸ rfl
        rw [List.map_cons, same]
        exact ih.cons_cons _
  exact producerMap.distinct.sublist part

theorem onBufferFilled_arrivals (arrivals : List Int) (agent : SeekAgent) :
    arrivals.foldl onBufferFilled agent =
      { agent with
        isAudioTargetArrived := agent.isAudioTargetArrived ||
          arrivals.any (fun trackId => (trackId, .audio) ∈ agent.listenerMap)
        isVideoTargetArrived := agent.isVideoTargetArrived ||
          arrivals.any (fun trackId => (trackId, .video) ∈ agent.listenerMap) } := by
  induction arrivals generalizing agent with
  | nil => simp
  | cons trackId rest ih => simp [ih, onBufferFilled, Bool.or_assoc]

theorem waitEnds_afterArrivals (trackInfo : List StreamMeta) (producerMap : ProducerMap)
    (arrivals : List Int) :
    (afterArrivals trackInfo producerMap arrivals).waitEnds false false = true ↔
      ∀ kind trackId, (trackId, kind) ∈ listeners trackInfo producerMap →
        ∃ arrived ∈ arrivals, (arrived, kind) ∈ listeners trackInfo producerMap := by
  have same : afterArrivals trackInfo producerMap arrivals =
      arrivals.foldl onBufferFilled (listening trackInfo producerMap) := rfl
  rw [same, onBufferFilled_arrivals, listening_eq]
  simp only [waitEnds, Bool.or_false, Bool.and_eq_true, Bool.or_eq_true, List.all_eq_true,
    List.any_eq_true, decide_eq_true_eq]
  constructor
  · rintro ⟨audio, video⟩ kind trackId listener
    cases kind with
    | audio =>
      rcases audio with none | some
      · exact absurd rfl (none _ listener)
      · exact some
    | video =>
      rcases video with none | some
      · exact absurd rfl (none _ listener)
      · exact some
  · intro arrived
    have each (kind : ListenerKind) :
        (∀ listener ∈ listeners trackInfo producerMap, listener.2 ≠ kind) ∨
          ∃ arrived ∈ arrivals, (arrived, kind) ∈ listeners trackInfo producerMap := by
      by_cases any : ∃ trackId, (trackId, kind) ∈ listeners trackInfo producerMap
      · obtain ⟨trackId, listener⟩ := any
        exact Or.inr (arrived kind trackId listener)
      · left
        rintro ⟨trackId, other⟩ listener same
        exact any ⟨trackId, same ▸ listener⟩
    exact ⟨each .audio, each .video⟩

/-- A track that plays: one of audio or video with a producer of its own. -/
def Plays (trackInfo : List StreamMeta) (producerMap : ProducerMap) (trackId : Int) : Prop :=
  (trackId, true) ∈ producerMap.entries ∧
    (IsTrack trackInfo .audio trackId ∨ IsTrack trackInfo .video trackId)

/-- There is one listener for each track that plays and none for another, and the wait is over
once these tracks, and only these, have reached the target. -/
structure WatchesPlaying (trackInfo : List StreamMeta) (producerMap : ProducerMap) : Prop where
  one : ∀ trackId, Plays trackInfo producerMap trackId →
    ((listening trackInfo producerMap).listenerMap.map Prod.fst).count trackId = 1
  none : ∀ trackId, ¬Plays trackInfo producerMap trackId →
    trackId ∉ (listening trackInfo producerMap).listenerMap.map Prod.fst
  waits : ∀ arrivals,
    (afterArrivals trackInfo producerMap arrivals).waitEnds false false = true ↔
      ∀ trackId, Plays trackInfo producerMap trackId → trackId ∈ arrivals

/-- Where a producer is not that of an audio track, its ID is the place of a video track exactly
if it is the ID of one; and of each kind at most one track plays. -/
structure PlacesAgree (trackInfo : List StreamMeta) (producerMap : ProducerMap) : Prop where
  places : ∀ trackId, (trackId, true) ∈ producerMap.entries →
    ¬IsTrack trackInfo .audio trackId →
      (IsVideoPlace trackInfo trackId ↔ IsTrack trackInfo .video trackId)
  soleAudio : ∀ first second, (first, true) ∈ producerMap.entries →
    (second, true) ∈ producerMap.entries → IsTrack trackInfo .audio first →
      IsTrack trackInfo .audio second → first = second
  soleVideo : ∀ first second, (first, true) ∈ producerMap.entries →
    (second, true) ∈ producerMap.entries → ¬IsTrack trackInfo .audio first →
      ¬IsTrack trackInfo .audio second → IsTrack trackInfo .video first →
        IsTrack trackInfo .video second → first = second

section

variable {trackInfo : List StreamMeta} {producerMap : ProducerMap}

theorem mem_listened :
    trackId ∈ (listening trackInfo producerMap).listenerMap.map Prod.fst ↔
      ∃ kind, (trackId, kind) ∈ listeners trackInfo producerMap := by
  rw [listening_eq]
  simp

theorem PlacesAgree.listened (agree : PlacesAgree trackInfo producerMap) (trackId : Int) :
    (∃ kind, (trackId, kind) ∈ listeners trackInfo producerMap) ↔
      Plays trackInfo producerMap trackId := by
  constructor
  · rintro ⟨kind, listener⟩
    obtain ⟨present, ⟨-, audio⟩ | ⟨-, audio, place⟩⟩ := mem_listeners.mp listener
    · exact ⟨present, Or.inl audio⟩
    · exact ⟨present, Or.inr ((agree.places trackId present audio).mp place)⟩
  · rintro ⟨present, playing⟩
    by_cases audio : IsTrack trackInfo .audio trackId
    · exact ⟨.audio, mem_listeners.mpr ⟨present, Or.inl ⟨rfl, audio⟩⟩⟩
    · have video := playing.resolve_left audio
      exact ⟨.video, mem_listeners.mpr ⟨present,
        Or.inr ⟨rfl, audio, (agree.places trackId present audio).mpr video⟩⟩⟩

theorem PlacesAgree.sole (agree : PlacesAgree trackInfo producerMap) {first second : Int}
    (one : (first, kind) ∈ listeners trackInfo producerMap)
    (other : (second, kind) ∈ listeners trackInfo producerMap) : first = second := by
  obtain ⟨presentOne, ⟨kindOne, audioOne⟩ | ⟨kindOne, audioOne, placeOne⟩⟩ :=
    mem_listeners.mp one <;>
  obtain ⟨presentOther, ⟨kindOther, audioOther⟩ | ⟨kindOther, audioOther, placeOther⟩⟩ :=
    mem_listeners.mp other
  · exact agree.soleAudio first second presentOne presentOther audioOne audioOther
  · rw [kindOne] at kindOther
    cases kindOther
  · rw [kindOne] at kindOther
    cases kindOther
  · exact agree.soleVideo first second presentOne presentOther audioOne audioOther
      ((agree.places first presentOne audioOne).mp placeOne)
      ((agree.places second presentOther audioOther).mp placeOther)

theorem PlacesAgree.watchesPlaying (agree : PlacesAgree trackInfo producerMap) :
    WatchesPlaying trackInfo producerMap := by
  constructor
  case one =>
    intro trackId plays
    apply List.count_eq_one_of_mem
    · rw [listening_eq]
      exact listeners_nodup trackInfo producerMap
    · exact mem_listened.mpr ((agree.listened trackId).mpr plays)
  case none =>
    intro trackId silent listened
    exact silent ((agree.listened trackId).mp (mem_listened.mp listened))
  case waits =>
    intro arrivals
    rw [waitEnds_afterArrivals]
    constructor
    · intro arrived trackId plays
      obtain ⟨kind, listener⟩ := (agree.listened trackId).mpr plays
      obtain ⟨first, inside, other⟩ := arrived kind trackId listener
      rw [agree.sole listener other]
      exact inside
    · intro all kind trackId listener
      exact ⟨trackId, all trackId ((agree.listened trackId).mp ⟨kind, listener⟩), listener⟩

theorem WatchesPlaying.sole (watches : WatchesPlaying trackInfo producerMap) {first second : Int}
    (one : (first, kind) ∈ listeners trackInfo producerMap)
    (other : (second, kind) ∈ listeners trackInfo producerMap) : first = second := by
  by_contra differ
  have plays : Plays trackInfo producerMap second := by
    by_contra silent
    exact watches.none second silent (mem_listened.mpr ⟨kind, other⟩)
  -- every listened track but the second arrives
  have missing := (watches.waits (((listeners trackInfo producerMap).map Prod.fst).filter
    (fun trackId => trackId ≠ second))).mp
  rw [waitEnds_afterArrivals] at missing
  have reached (trackId : Int) (listenerKind : ListenerKind)
      (listener : (trackId, listenerKind) ∈ listeners trackInfo producerMap)
      (remains : trackId ≠ second) :
      trackId ∈ ((listeners trackInfo producerMap).map Prod.fst).filter
        (fun trackId => trackId ≠ second) := by
    rw [List.mem_filter]
    exact ⟨List.mem_map.mpr ⟨_, listener, rfl⟩, by simpa using remains⟩
  have arrived := missing (by
    intro listenerKind trackId listener
    by_cases same : trackId = second
    · subst same
      have kinds : listenerKind = kind := by
        obtain ⟨presentOne, ⟨kindOne, audioOne⟩ | ⟨kindOne, audioOne, placeOne⟩⟩ :=
          mem_listeners.mp listener <;>
        obtain ⟨presentOther, ⟨kindOther, audioOther⟩ | ⟨kindOther, audioOther, placeOther⟩⟩ :=
          mem_listeners.mp other
        · rw [kindOne, kindOther]
        · exact absurd audioOne audioOther
        · exact absurd audioOther audioOne
        · rw [kindOne, kindOther]
      subst kinds
      exact ⟨first, reached first listenerKind one differ, one⟩
    · exact ⟨trackId, reached trackId listenerKind listener same, listener⟩) second plays
  simp at arrived

theorem WatchesPlaying.placesAgree (watches : WatchesPlaying trackInfo producerMap) :
    PlacesAgree trackInfo producerMap := by
  have places (trackId : Int) (present : (trackId, true) ∈ producerMap.entries)
      (audio : ¬IsTrack trackInfo .audio trackId) :
      IsVideoPlace trackInfo trackId ↔ IsTrack trackInfo .video trackId := by
    constructor
    · intro place
      by_contra video
      have silent : ¬Plays trackInfo producerMap trackId :=
        fun plays => plays.2.elim audio video
      exact watches.none trackId silent (mem_listened.mpr
        ⟨.video, mem_listeners.mpr ⟨present, Or.inr ⟨rfl, audio, place⟩⟩⟩)
    · intro video
      have once := watches.one trackId ⟨present, Or.inr video⟩
      have listened := List.count_pos_iff.mp (Nat.lt_of_lt_of_eq Nat.zero_lt_one once.symm)
      obtain ⟨kind, listener⟩ := mem_listened.mp listened
      obtain ⟨-, ⟨-, is⟩ | ⟨-, -, place⟩⟩ := mem_listeners.mp listener
      · exact absurd is audio
      · exact place
  constructor
  case places => exact places
  case soleAudio =>
    intro first second presentFirst presentSecond audioFirst audioSecond
    exact watches.sole (mem_listeners.mpr ⟨presentFirst, Or.inl ⟨rfl, audioFirst⟩⟩)
      (mem_listeners.mpr ⟨presentSecond, Or.inl ⟨rfl, audioSecond⟩⟩)
  case soleVideo =>
    intro first second presentFirst presentSecond audioFirst audioSecond videoFirst videoSecond
    exact watches.sole
      (mem_listeners.mpr ⟨presentFirst, Or.inr ⟨rfl, audioFirst,
        (places first presentFirst audioFirst).mpr videoFirst⟩⟩)
      (mem_listeners.mpr ⟨presentSecond, Or.inr ⟨rfl, audioSecond,
        (places second presentSecond audioSecond).mpr videoSecond⟩⟩)

end

theorem watches_playing_iff (trackInfo : List StreamMeta) (producerMap : ProducerMap) :
    WatchesPlaying trackInfo producerMap ↔ PlacesAgree trackInfo producerMap :=
  ⟨WatchesPlaying.placesAgree, PlacesAgree.watchesPlaying⟩

/-- A picture without an ID before the video track. -/
def pictureFirst : List StreamMeta :=
  [⟨none, some ['i', 'm', 'a', 'g', 'e', '/', 'j', 'p', 'e', 'g']⟩,
   ⟨some 0, some ['v', 'i', 'd', 'e', 'o', '/', 'a', 'v', 'c']⟩,
   ⟨some 1, some ['a', 'u', 'd', 'i', 'o', '/', 'a', 'a', 'c']⟩]

/-- The video track's producer gets no listener, and the wait is over without it. -/
theorem picture_first_unwatched :
    ¬WatchesPlaying pictureFirst ⟨[(0, true), (1, true)], by decide⟩ ∧
      (afterArrivals pictureFirst ⟨[(0, true), (1, true)], by decide⟩ [1]).waitEnds false false =
        true := by
  refine ⟨fun watches => ?_, by decide⟩
  have once := watches.one 0 ⟨by decide, Or.inr ⟨_, List.mem_cons_of_mem _ List.mem_cons_self,
    rfl, rfl⟩⟩
  revert once
  decide

end SeekAgent

end PlayerFramework.HiPlayer
