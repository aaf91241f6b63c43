import PlayerFramework.ScreenCapture.AudioFrames
import Mathlib.Data.List.Nodup

/-!
No frame of a capturer is lost on the way through the data source, unless the queue moved
on between the reading of its front and the release.
-/

namespace PlayerFramework.ScreenCapture

open Transition AudioDataSourceGeneric

def Emission.origin : Emission → List Frame
  | .frame _ _ origin | .muted _ _ origin => origin
  | .silence _ _ => []

namespace AudioPipe

variable {pipe : AudioPipe} {type : AudioCaptureSourceType}

def seqs (type : AudioCaptureSourceType) (frames : List Frame) : List Nat :=
  frames.filterMap fun frame => if frame.1 = type then some frame.2 else none

/-- The captured frames that were emitted, in order. -/
def emittedFrames (pipe : AudioPipe) : List Frame := pipe.emitted.flatMap Emission.origin

/-- The slots whose frame is not yet taken up in this round. -/
def unreached : ReadStage → Option (List AudioCaptureSourceType)
  | .check todo => some todo
  | .acquire type todo => some (type :: todo)
  | .giveUp todo => some todo
  | .drop _ => none
  | .release _ => none

def held (pipe : AudioPipe) (type : AudioCaptureSourceType) : Option CacheBuffer :=
  match pipe.reading.bind unreached with
  | some todo =>
    if type ∈ pipe.source.captures ∧ type ∉ todo then (pipe.source.slots type).currentBuf
    else none
  | none => none

def releasing (pipe : AudioPipe) (type : AudioCaptureSourceType) : Option CacheBuffer :=
  match pipe.reading with
  | some (.release todo) => if type ∈ todo then (pipe.source.slots type).currentBuf else none
  | _ => none

/-- The frames of one source in the state of the data source. -/
def lineOf (pipe : AudioPipe) (type : AudioCaptureSourceType) : FrameLine where
  queue := pipe.capturers type
  connected := (pipe.source.slots type).capture
  taken := seqs type (pipe.emittedFrames ++ pipe.origin)
  held := pipe.held type
  releasing := pipe.releasing type

/-- Each source has one slot; a frame is only cached while no round reads, and a slot is
only read with its capturer. -/
structure Staged (pipe : AudioPipe) : Prop where
  nodup : pipe.source.captures.Nodup
  uncached : pipe.source.cacheBuffer = none → pipe.origin = []
  early : ∀ stage todo, pipe.reading = some stage → unreached stage = some todo →
    pipe.source.cacheBuffer = none
  acquires : ∀ type todo, pipe.reading = some (.acquire type todo) →
    (pipe.source.slots type).capture = true

theorem seqs_append (type : AudioCaptureSourceType) (first second : List Frame) :
    seqs type (first ++ second) = seqs type first ++ seqs type second :=
  List.filterMap_append

variable (source : AudioDataSourceGeneric)

theorem seqs_acquired (nodup : source.captures.Nodup) (type : AudioCaptureSourceType) :
    seqs type (source.acquired.map fun held => (held.1, held.2.seq)) =
      if type ∈ source.captures then ((source.slots type).currentBuf.map (·.seq)).toList
      else [] := by
  unfold acquired
  generalize source.captures = captures at nodup ⊢
  induction captures with
  | nil => rfl
  | cons first rest ih =>
    rw [List.nodup_cons] at nodup
    have later := ih nodup.2
    cases current : (source.slots first).currentBuf with
    | none =>
      rw [List.filterMap_cons_none (by simp [current])]
      rw [later]
      by_cases same : type = first
      · subst same
        simp [nodup.1, current]
      · simp [same]
    | some buffer =>
      rw [List.filterMap_cons_some (b := (first, buffer)) (by simp [current])]
      rw [List.map_cons, ← List.singleton_append, seqs_append, later]
      by_cases same : type = first
      · subst same
        simp [seqs, nodup.1, current]
      · have other : first ≠ type := fun equal => same equal.symm
        simp [seqs, same, other]

theorem lineOf_setCapturer (queue : AudioCapturerQueue) (type other : AudioCaptureSourceType) :
    (pipe.setCapturer type queue).lineOf other =
      if other = type then { pipe.lineOf type with queue } else pipe.lineOf other := by
  split
  · rename_i same
    subst same
    simp only [lineOf, setCapturer, Function.update_self]
    rfl
  · rename_i apart
    simp only [lineOf, setCapturer, Function.update_of_ne apart]
    rfl

theorem keeps_setCapturer (queue : AudioCapturerQueue)
    (keeps : (pipe.lineOf type).Keeps { pipe.lineOf type with queue })
    (other : AudioCaptureSourceType) :
    (pipe.lineOf other).Keeps ((pipe.setCapturer type queue).lineOf other) := by
  rw [lineOf_setCapturer]
  split
  · rename_i same
    rw [same]
    exact keeps
  · exact FrameLine.Keeps.refl _

/-- The step changes neither queues nor what was taken. -/
def SameFrames (before after : AudioPipe) : Prop :=
  after.capturers = before.capturers ∧ after.emitted = before.emitted ∧ after.origin = before.origin

theorem keeps_quiet {before after : AudioPipe} (same : SameFrames before after)
    (capture : (after.source.slots type).capture = (before.source.slots type).capture)
    (released : after.releasing type = before.releasing type)
    (holds : after.held type = before.held type ∨ after.held type = none) :
    (before.lineOf type).Keeps (after.lineOf type) := by
  have shape : after.lineOf type = { before.lineOf type with held := after.held type } := by
    unfold lineOf emittedFrames
    rw [same.1, same.2.1, same.2.2, capture, released]
  rw [shape]
  rcases holds with kept | forgotten
  · rw [kept]
    exact FrameLine.Keeps.refl _
  · rw [forgotten]
    exact FrameLine.keeps_forget

theorem keeps_end (released : pipe.releasing type = none) :
    (pipe.lineOf type).Keeps ({ pipe with reading := none }.lineOf type) := by
  apply keeps_quiet
  · exact ⟨rfl, rfl, rfl⟩
  · rfl
  · rw [released]
    rfl
  · exact .inr rfl

theorem releasing_of_unreached {stage : ReadStage} {todo : List AudioCaptureSourceType}
    (reading : pipe.reading = some stage) (early : unreached stage = some todo) :
    pipe.releasing type = none := by
  unfold releasing
  rw [reading]
  cases stage with
  | release rest => cases early
  | check rest | acquire first rest | drop rest | giveUp rest => rfl

theorem mem_acquired (held : AudioCaptureSourceType × CacheBuffer) : held ∈ source.acquired ↔
      held.1 ∈ source.captures ∧ (source.slots held.1).currentBuf = some held.2 := by
  obtain ⟨type, buffer⟩ := held
  simp only [acquired, List.mem_filterMap, Option.map_eq_some_iff, Prod.mk.injEq]
  constructor
  · rintro ⟨_, member, _, current, rfl, rfl⟩
    exact ⟨member, current⟩
  · rintro ⟨member, current⟩
    exact ⟨type, member, buffer, current, rfl, rfl⟩

/-- What a slot holds once every slot was reached. -/
def current (source : AudioDataSourceGeneric) (type : AudioCaptureSourceType) :
    Option CacheBuffer :=
  if type ∈ source.captures then (source.slots type).currentBuf else none

theorem mem_acquired_types (type : AudioCaptureSourceType) :
    type ∈ source.acquired.map (·.1) ↔ (current source type).isSome = true := by
  unfold current
  simp only [List.mem_map, Option.isSome_iff_exists]
  constructor
  · rintro ⟨held, member, rfl⟩
    obtain ⟨present, current⟩ := (mem_acquired source held).mp member
    exact ⟨held.2, by rw [if_pos present, current]⟩
  · rintro ⟨buffer, current⟩
    split at current
    · rename_i present
      exact ⟨(type, buffer), (mem_acquired source (type, buffer)).mpr ⟨present, current⟩, rfl⟩
    · cases current

theorem keeps_combine (staged : Staged pipe) (uncached : pipe.source.cacheBuffer = none)
    (holds : pipe.held type = current pipe.source type) (released : pipe.releasing type = none) :
    (pipe.lineOf type).Keeps (pipe.combine.lineOf type) := by
  unfold combine
  split
  · exact keeps_end released
  rename_i buffer _
  have before : pipe.origin = [] := staged.uncached uncached
  have shape : ({ pipe with
      source := { pipe.source with cacheBuffer := some buffer }
      origin := pipe.source.acquired.map fun held => (held.1, held.2.seq)
      reading := some (.release (pipe.source.acquired.map (·.1))) } : AudioPipe).lineOf type =
      { pipe.lineOf type with
        taken := (pipe.lineOf type).taken ++ ((current pipe.source type).map (·.seq)).toList
        held := none
        releasing := current pipe.source type } := by
    have numbers := seqs_acquired pipe.source staged.nodup type
    have taken : seqs type (pipe.emittedFrames ++
        pipe.source.acquired.map fun held => (held.1, held.2.seq)) =
        seqs type (pipe.emittedFrames ++ pipe.origin) ++
          ((current pipe.source type).map (·.seq)).toList := by
      rw [before, List.append_nil, seqs_append, numbers]
      unfold current
      split <;> rfl
    have pending : (if type ∈ pipe.source.acquired.map (·.1) then
        (pipe.source.slots type).currentBuf else none) = current pipe.source type := by
      simp only [mem_acquired_types]
      unfold current
      split
      · split
        · rfl
        · rename_i empty
          symm
          simpa using empty
      · rfl
    calc _ = FrameLine.mk (pipe.capturers type) (pipe.source.slots type).capture
            (seqs type (pipe.emittedFrames ++
              pipe.source.acquired.map fun held => (held.1, held.2.seq))) none
            (if type ∈ pipe.source.acquired.map (·.1) then
              (pipe.source.slots type).currentBuf else none) := rfl
      _ = _ := by
        rw [taken, pending]
        rfl
  rw [shape]
  cases now : current pipe.source type with
  | none =>
    have same : { pipe.lineOf type with
        taken := (pipe.lineOf type).taken ++ (Option.map CacheBuffer.seq none).toList
        held := none, releasing := none } = pipe.lineOf type := by
      simp only [Option.map_none, Option.toList_none, List.append_nil]
      unfold lineOf
      rw [holds.trans now, released]
    rw [same]
    exact FrameLine.Keeps.refl _
  | some buffer => exact FrameLine.keeps_take (holds.trans now)

/-- `ReadAudioBuffer` has reached every slot. -/
def Reached (pipe : AudioPipe) : Prop :=
  ∃ stage, pipe.reading = some stage ∧ unreached stage = some []

theorem held_of_reached (reached : Reached pipe) : pipe.held type = current pipe.source type := by
  obtain ⟨stage, reading, all⟩ := reached
  simp [held, current, reading, all]

theorem releasing_of_reached (reached : Reached pipe) : pipe.releasing type = none := by
  obtain ⟨stage, reading, all⟩ := reached
  exact releasing_of_unreached reading all

theorem Staged.uncached_of_reached (staged : Staged pipe) (reached : Reached pipe) :
    pipe.source.cacheBuffer = none := by
  obtain ⟨stage, reading, all⟩ := reached
  exact staged.early stage [] reading all

theorem Staged.of_reached (staged : Staged pipe) (reached : Reached pipe)
    (slots : AudioCaptureSourceType → CaptureSlot) (avSynced : Bool) :
    Staged { pipe with source := { pipe.source with slots, avSynced } } := by
  constructor
  · exact staged.nodup
  · exact staged.uncached
  · exact staged.early
  intro type todo acquiring
  obtain ⟨stage, reading, all⟩ := reached
  rw [reading] at acquiring
  cases acquiring
  cases all

theorem keeps_giveUpStage (reached : Reached pipe) (todo : List AudioCaptureSourceType) :
    (pipe.lineOf type).Keeps ({ pipe with reading := some (.giveUp todo) }.lineOf type) := by
  apply keeps_quiet
  · exact ⟨rfl, rfl, rfl⟩
  · rfl
  · rw [releasing_of_reached reached]
    rfl
  rw [held_of_reached reached]
  by_cases waits : type ∈ todo
  · right
    simp [held, unreached, waits]
  · left
    simp [held, unreached, current, waits]

theorem keeps_holdAhead (reached : Reached pipe) (refType : AudioCaptureSourceType)
    (reference : CacheBuffer) :
    (pipe.lineOf type).Keeps
      ({ pipe with source := pipe.source.holdAhead refType reference }.lineOf type) := by
  have reachedToo : Reached { pipe with source := pipe.source.holdAhead refType reference } :=
    reached
  apply keeps_quiet
  · exact ⟨rfl, rfl, rfl⟩
  · simp only [holdAhead]
    split <;> rfl
  · rw [releasing_of_reached reached, releasing_of_reached reachedToo]
  rw [held_of_reached reached, held_of_reached reachedToo]
  simp only [current, holdAhead]
  split
  · split
    · exact .inr rfl
    · exact .inl rfl
  · exact .inl rfl

theorem keeps_alignOrCombine (staged : Staged pipe) (reached : Reached pipe) :
    (pipe.lineOf type).Keeps (pipe.alignOrCombine.lineOf type) := by
  unfold alignOrCombine
  split
  · exact keeps_end (releasing_of_reached reached)
  rename_i refType reference _
  split
  · exact keeps_giveUpStage reached _
  refine (keeps_holdAhead reached refType reference).trans ?_
  have reachedToo : Reached { pipe with source := pipe.source.holdAhead refType reference } :=
    reached
  apply keeps_combine
  · exact staged.of_reached reached _ pipe.source.avSynced
  · exact staged.uncached_of_reached reached
  · exact held_of_reached reachedToo
  · exact releasing_of_reached reachedToo

theorem keeps_videoAudioSync (staged : Staged pipe) (reached : Reached pipe) :
    (pipe.lineOf type).Keeps (pipe.videoAudioSync.lineOf type) := by
  unfold videoAudioSync
  split
  · exact keeps_end (releasing_of_reached reached)
  split
  · apply keeps_quiet
    · exact ⟨rfl, rfl, rfl⟩
    · rfl
    · rw [releasing_of_reached reached]
      rfl
    · exact .inr rfl
  · exact keeps_alignOrCombine (staged.of_reached reached pipe.source.slots true) reached

theorem keeps_acquireReady (staged : Staged pipe) (reached : Reached pipe) :
    (pipe.lineOf type).Keeps (pipe.acquireReady.lineOf type) := by
  unfold acquireReady
  split
  · exact keeps_end (releasing_of_reached reached)
  split
  · exact keeps_videoAudioSync staged reached
  · split
    · exact keeps_end (releasing_of_reached reached)
    · exact keeps_alignOrCombine staged reached

/-- The step calls `ReleaseAudioBuffer` for a slot: its frame was taken or is given up. -/
def releases (pipe : AudioPipe) : Option AudioCaptureSourceType :=
  match pipe.reading with
  | some (.release (type :: _)) => some type
  | some (.giveUp (type :: _)) => some type
  | _ => none

theorem keeps_check (type other : AudioCaptureSourceType) (todo : List AudioCaptureSourceType)
    (reading : pipe.reading = some (.check (type :: todo))) :
    (pipe.lineOf other).Keeps (pipe.proceed.lineOf other) := by
  unfold proceed
  rw [reading]
  dsimp only
  split
  · apply keeps_quiet
    · exact ⟨rfl, rfl, rfl⟩
    · rfl
    · simp [releasing, reading]
    · left
      simp [held, unreached, reading]
  · apply keeps_quiet
    · exact ⟨rfl, rfl, rfl⟩
    · by_cases same : other = type
      · simp [deactivate, setSlot, same]
      · simp [deactivate, setSlot, same]
    · simp [releasing, reading]
    · left
      by_cases same : other = type
      · simp [held, unreached, reading, deactivate, setSlot, same]
      · simp [held, unreached, reading, deactivate, setSlot, same]

theorem keeps_acquire (staged : Staged pipe) (type other : AudioCaptureSourceType)
    (todo : List AudioCaptureSourceType) (reading : pipe.reading = some (.acquire type todo)) :
    (pipe.lineOf other).Keeps (pipe.proceed.lineOf other) := by
  have connected := staged.acquires type todo reading
  have released : pipe.releasing other = none := releasing_of_unreached reading rfl
  unfold proceed
  rw [reading]
  dsimp only
  by_cases same : other = type
  · subst same
    have shape : ({ pipe with
        source := pipe.source.acquire other (pipe.capturers other).acquireAudioBuffer
        reading := some (.check todo) } : AudioPipe).lineOf other =
        { pipe.lineOf other with
          held :=
            if other ∈ pipe.source.captures ∧ other ∉ todo then
              (pipe.lineOf other).queue.acquireAudioBuffer
            else none } := by
      cases front : (pipe.capturers other).acquireAudioBuffer with
      | none | some buffer =>
        simp [lineOf, acquire, setSlot, held, unreached, releasing, emittedFrames, reading, front]
    rw [shape]
    split
    · exact FrameLine.keeps_hold connected released
    · exact FrameLine.keeps_forget
  · apply keeps_quiet
    · exact ⟨rfl, rfl, rfl⟩
    · unfold acquire
      split <;> simp [setSlot, same]
    · rw [released]
      rfl
    · left
      unfold acquire
      split <;> simp [held, unreached, reading, setSlot, same]

theorem keeps_drop (type other : AudioCaptureSourceType)
    (todo : List AudioCaptureSourceType) (reading : pipe.reading = some (.drop (type :: todo))) :
    (pipe.lineOf other).Keeps (pipe.proceed.lineOf other) := by
  unfold proceed
  rw [reading]
  obtain ⟨gone, loses⟩ :=
    (pipe.capturers type).loses_dropBufferUntil pipe.source.firstVideoFramePts
  refine (keeps_setCapturer _ (FrameLine.keeps_loses loses) other).trans ?_
  apply keeps_quiet
  · exact ⟨rfl, rfl, rfl⟩
  · rfl
  · simp [releasing, setCapturer, reading]
  · exact .inr rfl

theorem lineOf_giveUp (type other : AudioCaptureSourceType)
    (todo : List AudioCaptureSourceType) (reading : pipe.reading = some (.giveUp (type :: todo))) :
    pipe.proceed.lineOf other =
      if other = type then (pipe.lineOf type).giveUp (pipe.source.slots type).currentBuf
      else pipe.lineOf other := by
  unfold proceed
  by_cases same : other = type
  · subst same
    simp [lineOf, FrameLine.giveUp, setCapturer, clearCurrent, setSlot, emittedFrames, held,
      releasing, unreached,
      reading]
  · simp [lineOf, setCapturer, clearCurrent, setSlot, emittedFrames, held, releasing, unreached,
      reading, same]

theorem lineOf_release (type other : AudioCaptureSourceType) (todo : List AudioCaptureSourceType)
    (reading : pipe.reading = some (.release (type :: todo))) :
    pipe.proceed.lineOf other =
      if other = type then (pipe.lineOf type).release else pipe.lineOf other := by
  unfold proceed
  by_cases same : other = type
  · subst same
    cases connected : (pipe.source.slots other).capture with
    | true | false =>
      simp [lineOf, FrameLine.release, setCapturer, setStable,
        clearCurrent, setSlot, emittedFrames, held,
        releasing, unreached, reading, connected]
  · simp [lineOf, setCapturer, setStable,
      clearCurrent, setSlot, emittedFrames, held,
      releasing, unreached, reading, same]

theorem keeps_proceed (staged : Staged pipe) (quiet : pipe.releases = none)
    (other : AudioCaptureSourceType) : (pipe.lineOf other).Keeps (pipe.proceed.lineOf other) := by
  cases reading : pipe.reading with
  | none =>
    simp only [proceed, reading]
    exact FrameLine.Keeps.refl _
  | some stage =>
    cases stage with
    | check todo =>
      cases todo with
      | nil =>
        simp only [proceed, reading]
        exact keeps_acquireReady staged ⟨_, reading, rfl⟩
      | cons type todo => exact keeps_check type other todo reading
    | acquire type todo => exact keeps_acquire staged type other todo reading
    | drop todo =>
      cases todo with
      | nil =>
        simp only [proceed, reading]
        exact keeps_end (by simp [releasing, reading])
      | cons type todo => exact keeps_drop type other todo reading
    | giveUp todo =>
      cases todo with
      | nil =>
        have reached : Reached pipe := ⟨_, reading, rfl⟩
        simp only [proceed, reading]
        apply keeps_combine staged
        · exact staged.uncached_of_reached reached
        · exact held_of_reached reached
        · exact releasing_of_reached reached
      | cons type todo => simp [releases, reading] at quiet
    | release todo =>
      cases todo with
      | nil =>
        simp only [proceed, reading]
        exact keeps_end (by simp [releasing, reading])
      | cons type todo => simp [releases, reading] at quiet

theorem keeps_between {before after : AudioPipe} (idle : before.reading = none)
    (queues : after.capturers = before.capturers)
    (taken : after.emittedFrames ++ after.origin = before.emittedFrames ++ before.origin)
    (starts : after.reading = none ∨ after.reading = some (.check after.source.captures)) :
    (before.lineOf type).Keeps (after.lineOf type) := by
  have held : before.held type = none := by simp [held, idle]
  have released : before.releasing type = none := by simp [releasing, idle]
  have shape : after.lineOf type =
      { before.lineOf type with connected := (after.source.slots type).capture } := by
    have heldAfter : after.held type = none := by
      rcases starts with none | first
      · simp [AudioPipe.held, none]
      simp only [AudioPipe.held, first, unreached, Option.bind_some]
      split
      · rename_i both
        exact absurd both.1 both.2
      · rfl
    have releasedAfter : after.releasing type = none := by
      rcases starts with none | first
      · simp [releasing, none]
      · simp [releasing, first]
    unfold lineOf
    rw [queues, taken, heldAfter, releasedAfter, held, released]
  rw [shape]
  exact FrameLine.keeps_connect _ held released

theorem readAudioBuffer_cases (pipe : AudioPipe) :
    ∃ reading, pipe.readAudioBuffer = { pipe with reading } ∧
      (reading = none ∨ reading = some (.check pipe.source.captures)) := by
  unfold readAudioBuffer
  split
  · exact ⟨_, rfl, .inl rfl⟩
  · split
    · exact ⟨_, rfl, .inl rfl⟩
    · exact ⟨_, rfl, .inr rfl⟩

theorem lostFrameNum_frame (timestamp : Int) (source : AudioDataSourceGeneric) :
    ∃ left, (source.lostFrameNum timestamp).2 = { source with remainingSilentFrames := left } := by
  unfold lostFrameNum
  split
  · exact ⟨_, rfl⟩
  · split
    · exact ⟨_, rfl⟩
    · dsimp only
      split <;> exact ⟨_, rfl⟩

theorem origin_writeTo (buffer : AVBuffer) (length : Nat) (cached : CacheBuffer)
    (origin : List Frame) : (writeTo buffer length cached origin).origin = origin := by
  unfold writeTo
  split <;> rfl

theorem readAt_frames (buffer : AVBuffer) (length : Nat) (pipe : AudioPipe) :
    ∃ source emitted origin reading,
      pipe.readAt buffer length = { pipe with source, emitted, origin, reading } ∧
      source.captures = pipe.source.captures ∧ source.slots = pipe.source.slots ∧
      emitted.flatMap Emission.origin ++ origin = pipe.emittedFrames ++ pipe.origin ∧
      (source.cacheBuffer = pipe.source.cacheBuffer ∧ origin = pipe.origin ∧
          reading = pipe.reading ∨
        source.cacheBuffer = none ∧ origin = [] ∧
          (reading = none ∨ reading = some (.check pipe.source.captures))) := by
  unfold readAt
  split
  · exact ⟨_, _, _, _, rfl, rfl, rfl, rfl, .inl ⟨rfl, rfl, rfl⟩⟩
  rename_i cached _
  obtain ⟨left, counted⟩ := lostFrameNum_frame cached.timestamp pipe.source
  split
  · exact ⟨_, _, _, _, rfl, rfl, rfl, rfl, .inl ⟨rfl, rfl, rfl⟩⟩
  dsimp only
  rw [counted]
  split
  · refine ⟨_, _, _, _, rfl, rfl, rfl, ?_, .inl ⟨rfl, rfl, rfl⟩⟩
    simp [emittedFrames, Emission.origin]
  obtain ⟨reading, read, starts⟩ := readAudioBuffer_cases
    { pipe with
      source :=
        { pipe.source with
          cacheBuffer := none
          remainingSilentFrames := left
          writedFrameTime := pipe.source.writedFrameTime + cached.intervalNs }
      origin := []
      emitted := pipe.emitted ++ [writeTo buffer length cached pipe.origin] }
  refine ⟨_, _, _, reading, read, rfl, rfl, ?_, .inr ⟨rfl, rfl, starts⟩⟩
  simp [emittedFrames, origin_writeTo]

theorem readAt_source (buffer : AVBuffer) (length : Nat) (pipe : AudioPipe) :
    ∃ cacheBuffer remainingSilentFrames writedFrameTime, (pipe.readAt buffer length).source =
        { pipe.source with cacheBuffer, remainingSilentFrames, writedFrameTime } := by
  unfold readAt
  split
  · exact ⟨_, _, _, rfl⟩
  rename_i cached _
  obtain ⟨left, counted⟩ := lostFrameNum_frame cached.timestamp pipe.source
  split
  · exact ⟨_, _, _, rfl⟩
  simp only [counted]
  split
  · exact ⟨_, _, _, rfl⟩
  obtain ⟨reading, read, -⟩ := readAudioBuffer_cases
    { pipe with
      source :=
        { pipe.source with
          cacheBuffer := none
          remainingSilentFrames := left
          writedFrameTime := pipe.source.writedFrameTime + cached.intervalNs }
      origin := []
      emitted := pipe.emitted ++ [writeTo buffer length cached pipe.origin] }
  rw [read]
  exact ⟨_, _, _, rfl⟩

theorem getSize_source :
    ∃ remainingSilentFrames, source.getSize.2 = { source with remainingSilentFrames } := by
  unfold getSize
  split
  · exact ⟨_, rfl⟩
  rename_i cached _
  obtain ⟨left, counted⟩ := lostFrameNum_frame cached.timestamp source
  split
  · exact ⟨_, rfl⟩
  · simp only [counted]
    split <;> exact ⟨left, rfl⟩

theorem keeps_handleCall (idle : pipe.reading = none) (call : SourceCall) :
    (pipe.lineOf type).Keeps ((pipe.handleCall call).lineOf type) := by
  cases call with
  | setCapture _ _ | setOutputFormat _ _ | setVideoFirstFramePts _ | pause | resume =>
    exact keeps_between idle rfl rfl (.inl idle)
  | bufferAvailable =>
    simp only [handleCall, onBufferAvailable]
    split
    · exact FrameLine.Keeps.refl _
    · obtain ⟨reading, read, starts⟩ := readAudioBuffer_cases pipe
      rw [read]
      exact keeps_between idle rfl rfl starts
  | readAt buffer length =>
    obtain ⟨source, emitted, origin, reading, read, captures, -, taken, stage⟩ :=
      readAt_frames buffer length pipe
    simp only [handleCall, read]
    apply keeps_between idle
    · rfl
    · exact taken
    · rcases stage with ⟨-, -, same⟩ | ⟨-, -, starts⟩
      · exact .inl (same.trans idle)
      · simpa [captures] using starts
  | getSize => exact keeps_between idle rfl rfl (.inl idle)

theorem keeps_next (staged : Staged pipe) (event : PipeEvent)
    (handed : ∀ type desc, event ≠ .readData type desc)
    (quiet : event = .proceed → pipe.releases = none) (other : AudioCaptureSourceType) :
    (pipe.lineOf other).Keeps ((next pipe event).lineOf other) := by
  cases event with
  | startCapturer type => exact keeps_setCapturer _ FrameLine.keeps_start other
  | stopCapturer type =>
    exact keeps_setCapturer _ (FrameLine.keeps_loses (pipe.capturers type).loses_stop) other
  | readData type desc => exact absurd rfl (handed type desc)
  | stop =>
    apply keeps_quiet
    · exact ⟨rfl, rfl, rfl⟩
    · rfl
    · rfl
    · exact .inl rfl
  | call call =>
    simp only [next]
    split
    · exact FrameLine.Keeps.refl _
    · rename_i idle
      apply keeps_handleCall
      simpa using idle
  | proceed => exact keeps_proceed staged (quiet rfl) other

def Idle (pipe : AudioPipe) : Prop :=
  ∀ stage, pipe.reading = some stage → unreached stage = none

theorem Staged.of_idle (idle : Idle pipe) (nodup : pipe.source.captures.Nodup)
    (uncached : pipe.source.cacheBuffer = none → pipe.origin = []) : Staged pipe where
  nodup
  uncached
  early stage todo reading unread := by
    rw [idle stage reading] at unread
    cases unread
  acquires type todo reading := by
    cases idle _ reading

theorem idle_of_none (reading : pipe.reading = none) : Idle pipe := by
  intro stage running
  rw [reading] at running
  cases running

theorem Staged.of_check (todo : List AudioCaptureSourceType)
    (reading : pipe.reading = some (.check todo)) (nodup : pipe.source.captures.Nodup)
    (cacheBuffer : pipe.source.cacheBuffer = none) (origin : pipe.origin = []) : Staged pipe where
  nodup
  uncached _ := origin
  early _ _ _ _ := cacheBuffer
  acquires type rest acquiring := by
    rw [reading] at acquiring
    cases acquiring

theorem staged_combine (staged : Staged pipe) : Staged pipe.combine := by
  unfold combine
  split
  · exact Staged.of_idle (idle_of_none rfl) staged.nodup staged.uncached
  apply Staged.of_idle
  · intro stage reading
    cases reading
    rfl
  · exact staged.nodup
  · intro empty
    cases empty

theorem staged_alignOrCombine (staged : Staged pipe) (reached : Reached pipe) :
    Staged pipe.alignOrCombine := by
  unfold alignOrCombine
  split
  · exact Staged.of_idle (idle_of_none rfl) staged.nodup staged.uncached
  split
  · constructor
    · exact staged.nodup
    · exact staged.uncached
    · intro stage todo reading unread
      exact staged.uncached_of_reached reached
    · intro type todo acquiring
      cases acquiring
  · exact staged_combine (staged.of_reached reached _ pipe.source.avSynced)

theorem staged_acquireReady (staged : Staged pipe) (reached : Reached pipe) :
    Staged pipe.acquireReady := by
  have ended : Staged { pipe with reading := none } :=
    Staged.of_idle (idle_of_none rfl) staged.nodup staged.uncached
  unfold acquireReady videoAudioSync
  split
  · exact ended
  split
  · split
    · exact ended
    split
    · apply Staged.of_idle
      · intro stage reading
        cases reading
        rfl
      · exact staged.nodup
      · exact staged.uncached
    · exact staged_alignOrCombine (staged.of_reached reached pipe.source.slots true) reached
  · split
    · exact ended
    · exact staged_alignOrCombine staged reached

theorem staged_proceed (staged : Staged pipe) : Staged pipe.proceed := by
  have ended : Staged { pipe with reading := none } :=
    Staged.of_idle (idle_of_none rfl) staged.nodup staged.uncached
  cases reading : pipe.reading with
  | none =>
    simp only [proceed, reading]
    exact staged
  | some stage =>
    cases stage with
    | check todo =>
      cases todo with
      | nil =>
        simp only [proceed, reading]
        exact staged_acquireReady staged ⟨_, reading, rfl⟩
      | cons type todo =>
        have cacheBuffer := staged.early _ _ reading rfl
        simp only [proceed, reading]
        split
        · rename_i recording
          constructor
          · exact staged.nodup
          · exact staged.uncached
          · intro _ _ _ _
            exact cacheBuffer
          intro other rest acquiring
          simp only [Option.some.injEq, ReadStage.acquire.injEq] at acquiring
          rw [← acquiring.1]
          simp only [Bool.and_eq_true] at recording
          exact recording.1
        · apply Staged.of_check todo rfl
          · exact staged.nodup
          · exact cacheBuffer
          · exact staged.uncached cacheBuffer
    | acquire type todo =>
      have cacheBuffer := staged.early _ _ reading rfl
      have same : (pipe.source.acquire type
            (pipe.capturers type).acquireAudioBuffer).captures = pipe.source.captures ∧
          (pipe.source.acquire type (pipe.capturers type).acquireAudioBuffer).cacheBuffer =
              pipe.source.cacheBuffer := by
        unfold acquire
        split <;> exact ⟨rfl, rfl⟩
      simp only [proceed, reading]
      apply Staged.of_check todo rfl
      · rw [same.1]
        exact staged.nodup
      · exact same.2.trans cacheBuffer
      · exact staged.uncached cacheBuffer
    | drop todo | release todo =>
      cases todo with
      | nil =>
        simp only [proceed, reading]
        exact ended
      | cons type todo =>
        simp only [proceed, reading]
        apply Staged.of_idle
        · intro stage next
          cases next
          rfl
        · exact staged.nodup
        · exact staged.uncached
    | giveUp todo =>
      cases todo with
      | nil =>
        simp only [proceed, reading]
        exact staged_combine staged
      | cons type todo =>
        have cacheBuffer := staged.early _ _ reading rfl
        simp only [proceed, reading]
        constructor
        · exact staged.nodup
        · exact staged.uncached
        · intro _ _ _ _
          exact cacheBuffer
        · intro other rest acquiring
          cases acquiring

theorem staged_starts {after : AudioPipe} (nodup : after.source.captures.Nodup)
    (starts : after.reading = none ∨ after.reading = some (.check after.source.captures))
    (cacheBuffer : after.source.cacheBuffer = none) (origin : after.origin = []) :
    Staged after := by
  rcases starts with none | first
  · exact Staged.of_idle (idle_of_none none) nodup fun _ => origin
  · exact Staged.of_check _ first nodup cacheBuffer origin

theorem staged_handleCall (staged : Staged pipe) (idle : pipe.reading = none) (call : SourceCall) :
    Staged (pipe.handleCall call) := by
  cases call with
  | setCapture type capture =>
    apply Staged.of_idle
    · exact idle_of_none idle
    · simp only [handleCall, setCapture]
      split
      · exact staged.nodup
      rename_i absent
      rw [List.nodup_append]
      refine ⟨staged.nodup, List.nodup_singleton type, ?_⟩
      intro first member second only same
      rw [List.mem_singleton] at only
      rw [only] at same
      exact absent (same ▸ member)
    · exact staged.uncached
  | setOutputFormat sampleRate channels =>
    apply Staged.of_idle
    · exact idle_of_none idle
    · simp only [handleCall, setOutputFormat]
      split <;> exact staged.nodup
    · simp only [handleCall, setOutputFormat]
      split <;> exact staged.uncached
  | setVideoFirstFramePts firstFramePts =>
    apply Staged.of_idle
    · exact idle_of_none idle
    · simp only [handleCall, setVideoFirstFramePts]
      split <;> exact staged.nodup
    · simp only [handleCall, setVideoFirstFramePts]
      split <;> exact staged.uncached
  | pause | resume => exact Staged.of_idle (idle_of_none idle) staged.nodup staged.uncached
  | bufferAvailable =>
    simp only [handleCall, onBufferAvailable]
    split
    · exact staged
    rename_i reads
    obtain ⟨reading, read, starts⟩ := readAudioBuffer_cases pipe
    have cacheBuffer : pipe.source.cacheBuffer = none := by
      simp only [not_or, Bool.not_eq_true, Option.isSome_eq_false_iff,
        Option.isNone_iff_eq_none] at reads
      exact reads.2
    rw [read]
    exact staged_starts staged.nodup starts cacheBuffer (staged.uncached cacheBuffer)
  | readAt buffer length =>
    obtain ⟨source, emitted, origin, reading, read, captures, -, -, stage⟩ :=
      readAt_frames buffer length pipe
    simp only [handleCall, read]
    rcases stage with ⟨cacheBuffer, rfl, same⟩ | ⟨cacheBuffer, rfl, starts⟩
    · apply Staged.of_idle (idle_of_none (same.trans idle))
      · exact captures ▸ staged.nodup
      · intro empty
        exact staged.uncached (cacheBuffer.symm.trans empty)
    · apply staged_starts
      · exact captures ▸ staged.nodup
      · simpa [captures] using starts
      · exact cacheBuffer
      · rfl
  | getSize =>
    have same : pipe.source.getSize.2.captures = pipe.source.captures ∧
        pipe.source.getSize.2.cacheBuffer = pipe.source.cacheBuffer := by
      unfold getSize
      split
      · exact ⟨rfl, rfl⟩
      rename_i cached _
      obtain ⟨left, counted⟩ := lostFrameNum_frame cached.timestamp pipe.source
      split
      · exact ⟨rfl, rfl⟩
      · dsimp only
        rw [counted]
        split <;> exact ⟨rfl, rfl⟩
    apply Staged.of_idle
    · exact idle_of_none idle
    · simp only [handleCall, same.1]
      exact staged.nodup
    · intro empty
      exact staged.uncached (same.2.symm.trans empty)

theorem staged_next (staged : Staged pipe) (event : PipeEvent) : Staged (next pipe event) := by
  cases event with
  | startCapturer type | stopCapturer type | readData type desc | stop =>
    exact ⟨staged.nodup, staged.uncached, staged.early, staged.acquires⟩
  | call call =>
    simp only [next]
    split
    · exact staged
    · rename_i idle
      apply staged_handleCall staged
      simpa using idle
  | proceed => exact staged_proceed staged

/-- Frames of one source are emitted in the order of their capture, each at most once. -/
def InOrder (pipe : AudioPipe) : Prop :=
  ∀ type, (seqs type pipe.emittedFrames).Pairwise (· < ·)

/-- Every captured frame was emitted, is on its way, or was discarded by a rule. -/
def Accounted (pipe : AudioPipe) : Prop :=
  ∀ type, ∀ seq < (pipe.capturers type).captured,
    seq ∈ seqs type pipe.emittedFrames ∨ seq ∈ seqs type pipe.origin ∨
      seq ∈ (pipe.capturers type).availBuffers.map (·.seq) ∨
      seq ∈ (pipe.capturers type).discarded.map (·.1)

/-- A frame that is handed over can be queued, and what a slot releases is the frame that it has
acquired. -/
def PassesOn (pipe : AudioPipe) (event : PipeEvent) : Prop :=
  match event with
  | .readData type desc => ¬ FrameLine.Misses desc (pipe.capturers type)
  | .proceed =>
    ∀ type, pipe.releases = some type → (pipe.source.slots type).capture = true →
      ∀ front, (pipe.capturers type).released = some front →
        (pipe.source.slots type).currentBuf.map (·.seq) = some front.seq
  | _ => True

theorem accounted_iff : Accounted pipe ↔ ∀ type, (pipe.lineOf type).Accounted := by
  unfold Accounted FrameLine.Accounted lineOf
  simp only [seqs_append, List.mem_append, or_assoc]

/-- What holds of every state, whatever the capturers do. -/
structure Sound (pipe : AudioPipe) : Prop where
  staged : Staged pipe
  ordered : ∀ type, (pipe.lineOf type).Ordered

theorem releases_cases {type : AudioCaptureSourceType} (releases : pipe.releases = some type) :
    ∃ todo, pipe.reading = some (.release (type :: todo)) ∨
      pipe.reading = some (.giveUp (type :: todo)) := by
  unfold AudioPipe.releases at releases
  split at releases
  · rename_i todo reading
    cases releases
    exact ⟨todo, .inl reading⟩
  · rename_i todo reading
    cases releases
    exact ⟨todo, .inr reading⟩
  · cases releases

theorem sound_next (pipe : AudioPipe) (event : PipeEvent) (sound : Sound pipe) :
    Sound (next pipe event) := by
  refine ⟨staged_next sound.staged event, ?_⟩
  intro other
  cases event with
  | readData type desc =>
    simp only [next, lineOf_setCapturer]
    split
    · exact FrameLine.ordered_readData (sound.ordered type) type desc
    · exact sound.ordered other
  | proceed =>
    cases releases : pipe.releases with
    | none => exact (keeps_proceed sound.staged releases other (sound.ordered other)).1
    | some type =>
      obtain ⟨todo, reading | reading⟩ := releases_cases releases
      · simp only [next, lineOf_release type other todo reading]
        split
        · exact FrameLine.ordered_release (sound.ordered type)
        · exact sound.ordered other
      · simp only [next, lineOf_giveUp type other todo reading]
        split
        · exact FrameLine.ordered_giveUp (sound.ordered type) _
        · exact sound.ordered other
  | startCapturer _ | stopCapturer _ | stop | call _ =>
    exact (keeps_next sound.staged _ (by simp) (by simp) other (sound.ordered other)).1

theorem forall_line_iff {holds : FrameLine → Prop} {line : FrameLine} {condition : Prop}
    (others : ∀ other, other ≠ type → holds (pipe.lineOf other)) (own : holds line ↔ condition) :
    (∀ other, holds (if other = type then line else pipe.lineOf other)) ↔ condition := by
  rw [← own]
  constructor
  · intro all
    simpa using all type
  intro mine other
  split
  · exact mine
  · rename_i apart
    exact others other apart

theorem accounted_giveUp (sound : Sound pipe) (accounted : Accounted pipe)
    {todo : List AudioCaptureSourceType} (reading : pipe.reading = some (.giveUp (type :: todo))) :
    Accounted pipe.proceed ↔ ((pipe.source.slots type).capture = true → ∀ front,
      (pipe.capturers type).released = some front →
        (pipe.source.slots type).currentBuf.map (·.seq) = some front.seq) := by
  rw [accounted_iff] at accounted ⊢
  simp only [lineOf_giveUp type _ todo reading]
  refine forall_line_iff (fun other _ => accounted other) ?_
  have pending : (pipe.lineOf type).releasing = none := by
    simp [lineOf, releasing, reading]
  exact FrameLine.accounted_giveUp (sound.ordered type) (accounted type) pending _

theorem accounted_release (sound : Sound pipe) (accounted : Accounted pipe)
    {todo : List AudioCaptureSourceType} (reading : pipe.reading = some (.release (type :: todo))) :
    Accounted pipe.proceed ↔ ((pipe.source.slots type).capture = true → ∀ front,
      (pipe.capturers type).released = some front →
        (pipe.source.slots type).currentBuf.map (·.seq) = some front.seq) := by
  rw [accounted_iff] at accounted ⊢
  simp only [lineOf_release type _ todo reading]
  refine forall_line_iff (fun other _ => accounted other) ?_
  have pending : pipe.releasing type = (pipe.source.slots type).currentBuf := by
    simp [releasing, reading]
  cases connected : (pipe.lineOf type).connected with
  | false =>
    have off : (pipe.source.slots type).capture = false := connected
    rw [FrameLine.release_of_disconnected (sound.ordered type) connected]
    simpa [off] using accounted type
  | true =>
    have on : (pipe.source.slots type).capture = true := connected
    rw [FrameLine.accounted_release (sound.ordered type) (accounted type) connected, on]
    simp only [true_implies]
    unfold FrameLine.ReleasesOwn lineOf
    rw [pending]

/-- A step loses track of no frame exactly when it passes on what it is handed. -/
theorem accounted_next (event : PipeEvent) (sound : Sound pipe) (accounted : Accounted pipe) :
    Accounted (next pipe event) ↔ PassesOn pipe event := by
  have lines := accounted_iff.mp accounted
  have quietly : (∀ type desc, event ≠ .readData type desc) →
      (event = .proceed → pipe.releases = none) → Accounted (next pipe event) := by
    intro handed quiet
    rw [accounted_iff]
    intro other
    exact (keeps_next sound.staged event handed quiet other (sound.ordered other)).2 (lines other)
  cases event with
  | readData type desc =>
    rw [accounted_iff]
    simp only [next, lineOf_setCapturer]
    exact forall_line_iff (fun other _ => lines other)
      (FrameLine.accounted_readData (sound.ordered type) (lines type) type desc)
  | proceed =>
    cases releases : pipe.releases with
    | none => exact iff_of_true (quietly (by simp) fun _ => releases) (by simp [PassesOn, releases])
    | some type =>
      simp only [PassesOn, releases, Option.some.injEq, forall_eq']
      obtain ⟨todo, reading | reading⟩ := releases_cases releases
      · exact accounted_release sound accounted reading
      · exact accounted_giveUp sound accounted reading
  | startCapturer _ | stopCapturer _ | stop | call _ =>
    exact iff_of_true (quietly (by simp) (by simp)) trivial

theorem sound_create (policy : AudioCombinePolicy) (recorderFileWithVideo : Bool) :
    Sound (create policy recorderFileWithVideo) := by
  refine ⟨Staged.of_idle (idle_of_none rfl) List.nodup_nil fun _ => rfl, ?_⟩
  intro type
  constructor <;> simp [lineOf, create, held, releasing, seqs, emittedFrames,
    AudioCapturerQueue.Settled]

theorem accounted_create (policy : AudioCombinePolicy) (recorderFileWithVideo : Bool) :
    Accounted (create policy recorderFileWithVideo) := by
  intro type seq none
  simp [create] at none

theorem inOrder_of_sound (sound : Sound pipe) : InOrder pipe := by
  intro type
  have taken := (sound.ordered type).taken
  simp only [lineOf, seqs_append, List.pairwise_append] at taken
  exact taken.1

/-- In every run the frames of a source are emitted at most once and in order, and no frame
gets lost on the way exactly in the runs whose steps pass on what they are handed. -/
theorem frames_accounted_iff_along (policy : AudioCombinePolicy) (recorderFileWithVideo : Bool)
    (events : List PipeEvent) :
    (∀ count, InOrder (run next (create policy recorderFileWithVideo) (events.take count)) ∧
      Accounted (run next (create policy recorderFileWithVideo) (events.take count))) ↔
    Along next PassesOn (create policy recorderFileWithVideo) events := by
  have sound : ∀ count,
      Sound (run next (create policy recorderFileWithVideo) (events.take count)) := by
    intro count
    exact invariant_of_run Sound sound_next _ (sound_create policy recorderFileWithVideo)
  rw [← always_iff_along (fun pipe => Sound pipe ∧ Accounted pipe)]
  · constructor
    · intro always count
      exact ⟨sound count, (always count).2⟩
    · intro always count
      exact ⟨inOrder_of_sound (sound count), (always count).2⟩
  · intro pipe event both
    rw [← accounted_next event both.1 both.2]
    exact and_iff_right (sound_next pipe event both.1)
  · exact ⟨sound_create policy recorderFileWithVideo, accounted_create policy recorderFileWithVideo⟩

section Runs

def firstFrame : BufferDesc where
  bufLength := 3840
  frameCount := 960
  audioSampleRate := 48000
  time := 0

/-- The microphone alone records sound only; its first frame is acquired, and 129 frames
come before the round releases it. -/
def overrun : List PipeEvent :=
  [PipeEvent.call (.setCapture .mic true), .startCapturer .mic] ++
    List.replicate 129 (PipeEvent.readData .mic firstFrame) ++
    [PipeEvent.call .bufferAvailable, .proceed, .proceed,
      .readData .mic firstFrame, .proceed, .proceed, .proceed]

/-- The round that acquired frame 0 releases frame 1, which is then nowhere. -/
theorem overflow_loses_next_frame :
    let pipe := run next (create .passthrough false) overrun
    pipe.origin = [(.mic, 0)] ∧ (pipe.capturers .mic).captured = 130 ∧
      (pipe.capturers .mic).discarded = [(0, .overflow)] ∧
      ((pipe.capturers .mic).availBuffers.map (·.seq)).head? = some 2 ∧ ¬ Accounted pipe := by
  refine ⟨by decide +kernel, by decide +kernel, by decide +kernel, by decide +kernel, ?_⟩
  intro accounted
  have lost := accounted .mic 1 (by decide +kernel)
  revert lost
  decide +kernel

end Runs

end AudioPipe

end PlayerFramework.ScreenCapture
