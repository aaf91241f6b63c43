import PlayerFramework.Thumbnail.Generator
import Mathlib.Algebra.Order.Group.Int
import Mathlib.Algebra.Order.Group.Abs

/-!
Which frame a fetch call of the `AVThumbnailGenerator` returns.
-/

namespace PlayerFramework.Thumbnail

open Transition

/-- No frame accepted for the request is closer to its time. -/
def Nearest (seekTime : Int) (accepted : List OutputBuffer) (frame : OutputBuffer) : Prop :=
  ∀ other ∈ accepted, other.eos = false → |frame.pts - seekTime| ≤ |other.pts - seekTime|

/-- The call is none that returns shared memory. -/
def FetchCall.yuv (call : FetchCall) : Prop := call ≠ .fetchFrameAtTime

/-- A frame of the request, and the nearest unless the change of the decoder found no frame of the
wanted mode. -/
def Return.Answers (answer : Return) (frame : OutputBuffer) : Prop :=
  frame ∈ answer.accepted ∧
    (frame.picture = true → answer.seekMode = .closest ∨ answer.switched = false →
      Nearest answer.seekTime answer.accepted frame)

/-- What the code means a call to return. -/
structure Return.Meets (answer : Return) : Prop where
  own : answer.call.yuv → ∀ frame, answer.returned = .copy frame ∨
    answer.returned = .uncopied frame →
    frame ∈ answer.accepted
  fetched : answer.call.yuv → answer.ended = .fetched →
    answer.returned = .null ∨ ∃ frame, answer.returned = .copy frame ∧ frame.picture = true ∧
      answer.Answers frame
  shared : answer.call = .fetchFrameAtTime → answer.made = true →
    ∃ frame, answer.returned = .copy frame ∧ answer.Answers frame
  early : answer.ended = .early → answer.returned = .null ∨ answer.returned = .eosMarker ∧
    (answer.call = .fetchFrameYuv ∨ answer.call = .fetchFrameYuvWithTimeout)
  timedOut : answer.call = .fetchFrameYuvWithTimeout → answer.ended = .timedOut →
    answer.returned = .null
  without : answer.call.yuv → answer.accepted = [] →
    answer.returned = .null ∨ answer.returned = .eosMarker

namespace Generator

/-- The frames of a request come in ascending order. -/
def Ascending (generator : Generator) : Event → Prop
  | .output buffer => buffer.picture = true →
      ∀ earlier ∈ generator.accepted, earlier.picture = true → earlier.pts ≤ buffer.pts
  | _ => True

/-- The callback under way has accepted its buffer but not taken it. -/
def taking (generator : Generator) : Bool :=
  match generator.callback with
  | some (.candidate _) | some (.fetched _ _) => true
  | none | some (.unwanted _) | some .pausing => false

/-- No call starts or goes on between the two. -/
def Unraced (generator : Generator) : Event → Prop
  | .fetch .. => generator.caller = .idle → generator.taking = false
  | .goesOn _ => generator.taking = false
  | _ => True

instance (generator : Generator) (event : Event) : Decidable (generator.Ascending event) := by
  cases event <;> unfold Ascending <;> infer_instance

instance (generator : Generator) (event : Event) : Decidable (generator.Unraced event) := by
  cases event <;> unfold Unraced <;> infer_instance

/-- What is held once the callback has taken its frame or left the candidate. -/
def settledBuffer (generator : Generator) : Option Held :=
  match generator.callback with
  | some (.candidate buffer) => some (.decoded buffer)
  | some (.fetched buffer isClosest) =>
    match isClosest, generator.avBuffer with
    | true, some held =>
      if buffer.pts - generator.seekTime < generator.seekTime - held.source.pts && !buffer.eos then
        some (.decoded buffer)
      else some held
    | _, _ => some (.decoded buffer)
  | none | some (.unwanted _) | some .pausing => generator.avBuffer

def settled (generator : Generator) : Generator :=
  { generator with avBuffer := generator.settledBuffer }

/-- The wanted mode is in force, or has been since the request started. -/
def Faithful (generator : Generator) : Prop :=
  generator.seekMode = .closest ∨ generator.switched = false

structure Tracks (generator : Generator) : Prop where
  held : ∀ held, generator.avBuffer = some held → held.source ∈ generator.accepted
  valid : ∀ frame ∈ generator.accepted, frame.isValidBuffer = true
  nearest : generator.Faithful → ∀ held, generator.avBuffer = some held →
    held.source.picture = true → Nearest generator.seekTime generator.accepted held.source
  /-- A mode other than the closest takes the first frame. -/
  first : generator.switched = false → generator.seekMode ≠ .closest →
    generator.hasFetchedFrame = false → generator.accepted = []
  unheld : generator.caller ≠ .idle ∨ generator.hasFetchedFrame = false →
    generator.avBuffer = none → generator.accepted = []
  /-- Where what is held is empty it is the end of the stream, and nothing came before. -/
  empty : generator.Faithful → generator.hasFetchedFrame = false ∨ generator.switched = false →
    ∀ held, generator.avBuffer = some held → held.source.picture = false →
      ∀ frame ∈ generator.accepted, frame.eos = true
  /-- While a frame is awaited what is held is one. -/
  pictured : generator.switched = false → generator.hasFetchedFrame = false →
    ∀ held, generator.avBuffer = some held → held.source.picture = true
  once : ∀ call, generator.caller = .waiting call false ∨
    (∃ res, generator.caller = .woken call false res) → generator.switched = false
  woken : ∀ call again, generator.caller = .woken call again true → generator.awaited = true
  returns : ∀ answer ∈ generator.returns, answer.Meets

section

variable {generator : Generator}

theorem Tracks.congr (tracks : Tracks generator) {other : Generator}
    (avBuffer : other.avBuffer = generator.avBuffer)
    (accepted : other.accepted = generator.accepted)
    (seekMode : other.seekMode = generator.seekMode)
    (seekTime : other.seekTime = generator.seekTime)
    (switched : other.switched = generator.switched)
    (hasFetchedFrame : other.hasFetchedFrame = generator.hasFetchedFrame)
    (caller : other.caller = generator.caller) (returns : other.returns = generator.returns)
    (awaited : generator.awaited = true → other.awaited = true) : Tracks other where
  held := by
    rw [avBuffer, accepted]
    exact tracks.held
  valid := by
    rw [accepted]
    exact tracks.valid
  nearest := by
    rw [Faithful, avBuffer, accepted, seekMode, seekTime, switched]
    exact tracks.nearest
  first := by
    rw [accepted, seekMode, switched, hasFetchedFrame]
    exact tracks.first
  unheld := by
    rw [avBuffer, accepted, caller, hasFetchedFrame]
    exact tracks.unheld
  empty := by
    rw [Faithful, avBuffer, accepted, seekMode, switched, hasFetchedFrame]
    exact tracks.empty
  pictured := by
    rw [avBuffer, switched, hasFetchedFrame]
    exact tracks.pictured
  once := by
    rw [caller, switched]
    exact tracks.once
  woken := by
    rw [caller]
    exact fun call again woken => awaited (tracks.woken call again woken)
  returns := by
    rw [returns]
    exact tracks.returns

theorem Tracks.release (tracks : Tracks generator) (index : Nat) (kept : Option OutputBuffer) :
    Tracks (generator.release index kept) := by
  unfold Generator.release
  cases generator.decoder with
  | none => exact tracks
  | some outstanding => exact tracks.congr rfl rfl rfl rfl rfl rfl rfl rfl id

theorem Tracks.pauseFetchFrame (tracks : Tracks generator) : Tracks generator.pauseFetchFrame where
  held := tracks.held
  valid := tracks.valid
  nearest := tracks.nearest
  first := fun _ _ fetched => nomatch fetched
  unheld := by
    rintro (busy | fetched)
    · exact tracks.unheld (.inl busy)
    · cases fetched
  empty := by
    rintro faithful (fetched | unswitched)
    · cases fetched
    · exact tracks.empty faithful (.inr unswitched)
  pictured := fun _ fetched => nomatch fetched
  once := tracks.once
  woken := fun _ _ _ => rfl
  returns := tracks.returns

variable {buffer : OutputBuffer} {seekTime : Int} {accepted : List OutputBuffer} {call : FetchCall}
  {answer : Return}

theorem picture_of_valid (valid : buffer.isValidBuffer = true) (more : buffer.eos = false) :
    buffer.picture = true := by
  simpa [OutputBuffer.isValidBuffer, OutputBuffer.picture, more] using valid

theorem nearest_early (ascending : ∀ other ∈ accepted, other.eos = false → other.pts ≤ buffer.pts)
    (before : buffer.pts < seekTime) : Nearest seekTime (accepted ++ [buffer]) buffer := by
  intro other member more
  rcases List.mem_append.mp member with earlier | last
  · have order := ascending other earlier more
    rw [abs_of_nonpos (by omega), abs_of_nonpos (by omega)]
    omega
  · rw [List.mem_singleton.mp last]

theorem nearest_nearer {held : OutputBuffer} (nearest : Nearest seekTime accepted held)
    (behind : seekTime ≤ buffer.pts) (near : buffer.pts - seekTime < seekTime - held.pts) :
    Nearest seekTime (accepted ++ [buffer]) buffer := by
  intro other member more
  rcases List.mem_append.mp member with earlier | last
  · have order := nearest other earlier more
    rw [abs_of_nonpos (by omega)] at order
    rw [abs_of_nonneg (by omega)]
    omega
  · rw [List.mem_singleton.mp last]

theorem nearest_kept {held : OutputBuffer} (nearest : Nearest seekTime accepted held)
    (far : buffer.eos = false → held.pts ≤ buffer.pts ∧
      seekTime - held.pts ≤ buffer.pts - seekTime) :
    Nearest seekTime (accepted ++ [buffer]) held := by
  intro other member more
  rcases List.mem_append.mp member with earlier | last
  · exact nearest other earlier more
  · rw [List.mem_singleton.mp last] at more ⊢
    obtain ⟨order, difference⟩ := far more
    rw [abs_of_nonneg (by omega : 0 ≤ buffer.pts - seekTime), abs_le]
    omega

theorem nearest_only (ends : ∀ other ∈ accepted, other.eos = true) :
    Nearest seekTime (accepted ++ [buffer]) buffer := by
  intro other member more
  rcases List.mem_append.mp member with earlier | last
  · rw [ends other earlier] at more
    cases more
  · rw [List.mem_singleton.mp last]

/-- A callback that takes its buffer. -/
theorem Tracks.take (tracks : Tracks generator) {other : Generator}
    (valid : buffer.isValidBuffer = true) (avBuffer : other.avBuffer = some (.decoded buffer))
    (accepted : other.accepted = generator.accepted ++ [buffer])
    (seekMode : other.seekMode = generator.seekMode)
    (seekTime : other.seekTime = generator.seekTime)
    (switched : other.switched = generator.switched) (caller : other.caller = generator.caller)
    (returns : other.returns = generator.returns)
    (awaited : generator.awaited = true → other.awaited = true)
    (nearest : generator.Faithful →
      Nearest generator.seekTime (generator.accepted ++ [buffer]) buffer)
    (taken : other.hasFetchedFrame = true ∨
      generator.seekMode = .closest ∧ buffer.picture = true)
    (empty : generator.Faithful → buffer.picture = false →
      other.hasFetchedFrame = false ∨ generator.switched = false →
        ∀ frame ∈ generator.accepted, frame.eos = true) : Tracks other where
  held := by
    intro held same
    rw [avBuffer] at same
    cases same
    rw [accepted]
    exact List.mem_append_right _ (List.mem_singleton_self _)
  valid := by
    intro frame member
    rw [accepted] at member
    rcases List.mem_append.mp member with earlier | last
    · exact tracks.valid frame earlier
    · rwa [List.mem_singleton.mp last]
  nearest := by
    rw [Faithful, avBuffer, accepted, seekMode, seekTime, switched]
    intro faithful held same _
    cases same
    exact nearest faithful
  first := by
    intro _ other_ awaits
    rcases taken with fetched | ⟨closest, -⟩
    · rw [fetched] at awaits
      cases awaits
    · rw [seekMode] at other_
      exact absurd closest other_
  unheld := by
    intro _ nothing
    rw [avBuffer] at nothing
    cases nothing
  empty := by
    rw [Faithful, avBuffer, accepted, seekMode, switched]
    intro faithful awaits held same blank frame member
    cases same
    rcases List.mem_append.mp member with earlier | last
    · exact empty faithful blank awaits frame earlier
    rw [List.mem_singleton.mp last]
    cases more : buffer.eos with
    | true => rfl
    | false =>
      rw [Held.source, picture_of_valid valid more] at blank
      cases blank
  pictured := by
    intro _ awaits held same
    rw [avBuffer] at same
    cases same
    rcases taken with fetched | ⟨-, picture⟩
    · rw [fetched] at awaits
      cases awaits
    · exact picture
  once := by
    rw [caller, switched]
    exact tracks.once
  woken := by
    rw [caller]
    exact fun call again woken => awaited (tracks.woken call again woken)
  returns := by
    rw [returns]
    exact tracks.returns

theorem Tracks.keep (tracks : Tracks generator) {held : Held} (valid : buffer.isValidBuffer = true)
    (candidate : generator.avBuffer = some held) (awaits : generator.hasFetchedFrame = false)
    (far : held.source.picture = true → buffer.eos = false →
      held.source.pts ≤ buffer.pts ∧
        generator.seekTime - held.source.pts ≤ buffer.pts - generator.seekTime) :
    Tracks (generator.acceptLast buffer) where
  held := by
    intro other same
    exact List.mem_append_left _ (tracks.held other same)
  valid := by
    intro frame member
    rcases List.mem_append.mp member with earlier | last
    · exact tracks.valid frame earlier
    · rwa [List.mem_singleton.mp last]
  nearest := by
    intro faithful other same picture
    have is : held = other := Option.some.inj (candidate.symm.trans same)
    subst is
    exact nearest_kept (tracks.nearest faithful held candidate picture) (far picture)
  first := fun _ _ fetched => nomatch fetched
  unheld := by
    intro _ nothing
    have nothing : generator.avBuffer = none := nothing
    rw [candidate] at nothing
    cases nothing
  empty := by
    rintro faithful (fetched | same) other is blank frame member
    · cases fetched
    have candidate_ : held = other := Option.some.inj (candidate.symm.trans is)
    subst candidate_
    have something := tracks.pictured same awaits held candidate
    rw [something] at blank
    cases blank
  pictured := fun _ fetched => nomatch fetched
  once := tracks.once
  woken := fun _ _ _ => rfl
  returns := tracks.returns

/-- A callback looks at the flags. -/
theorem Tracks.looks (tracks : Tracks generator)
    (ordered : buffer.picture = true → ∀ earlier ∈ generator.accepted, earlier.picture = true →
      earlier.pts ≤ buffer.pts) : Tracks (generator.onOutputBufferAvailable buffer).settled := by
  unfold onOutputBufferAvailable
  split
  · exact tracks.congr rfl rfl rfl rfl rfl rfl rfl rfl id
  rename_i wanted
  simp only [Bool.or_eq_true, not_or, Bool.not_eq_true, Bool.not_eq_false'] at wanted
  obtain ⟨⟨valid, awaits⟩, -⟩ := wanted
  simp only
  split
  · rename_i early
    simp only [Bool.and_eq_true, beq_iff_eq, decide_eq_true_eq, Bool.not_eq_true'] at early
    obtain ⟨⟨closest, before⟩, more⟩ := early
    have picture := picture_of_valid valid more
    refine tracks.take valid rfl rfl rfl rfl rfl rfl rfl id ?_ (.inr ⟨closest, picture⟩) ?_
    · intro _
      refine nearest_early (fun other member eos => ?_) before
      exact ordered picture other member (picture_of_valid (tracks.valid other member) eos)
    · intro _ blank
      rw [picture] at blank
      cases blank
  · rename_i late
    have first : (generator.seekMode = .closest → generator.avBuffer = none) →
        Tracks ((generator.acceptLast buffer).take buffer) := by
      intro only
      have nothing : generator.Faithful → generator.accepted = [] := by
        intro faithful
        by_cases closest : generator.seekMode = .closest
        · exact tracks.unheld (.inr awaits) (only closest)
        · exact tracks.first (faithful.resolve_left closest) closest awaits
      refine tracks.take valid rfl rfl rfl rfl rfl rfl rfl (fun _ => rfl) ?_ (.inl rfl) ?_
      · intro faithful
        rw [nothing faithful]
        exact nearest_only (by simp)
      · intro faithful _ _ frame member
        rw [nothing faithful] at member
        cases member
    by_cases closest : generator.seekMode = .closest
    · have wanted : (generator.seekMode == SeekMode.closest) = true := by simpa using closest
      rw [wanted] at late ⊢
      cases candidate : generator.avBuffer with
      | none =>
        refine (first fun _ => candidate).congr ?_ rfl rfl rfl rfl rfl rfl rfl id
        simp [settled, settledBuffer, acceptLast, accept, candidate, Generator.take]
      | some held =>
        by_cases nearer : (decide (buffer.pts - generator.seekTime <
            generator.seekTime - held.source.pts) && !buffer.eos) = true
        · have holds : (settled { generator.acceptLast buffer with
              callback := some (.fetched buffer true) }).avBuffer = some (.decoded buffer) := by
            simp only [settled, settledBuffer, acceptLast, accept, candidate, if_pos nearer]
          simp only [Bool.and_eq_true, decide_eq_true_eq, Bool.not_eq_true'] at nearer
          obtain ⟨near, more⟩ := nearer
          have picture := picture_of_valid valid more
          refine tracks.take valid holds rfl rfl rfl rfl rfl rfl (fun _ => rfl) ?_ (.inl rfl) ?_
          · intro faithful
            cases something : held.source.picture with
            | true =>
              have behind : generator.seekTime ≤ buffer.pts := by simpa [more] using late
              exact nearest_nearer (tracks.nearest faithful held candidate something) behind near
            | false =>
              exact nearest_only (tracks.empty faithful (.inl awaits) held candidate something)
          · intro _ blank
            rw [picture] at blank
            cases blank
        · have holds : (settled { generator.acceptLast buffer with
              callback := some (.fetched buffer true) }).avBuffer = generator.avBuffer := by
            simp only [settled, settledBuffer, acceptLast, accept, candidate, if_neg nearer]
          have keeps : Tracks (generator.acceptLast buffer) := by
            refine tracks.keep valid candidate awaits fun something more => ?_
            have member := tracks.held held candidate
            refine ⟨ordered (picture_of_valid valid more) _ member something, ?_⟩
            simpa [more] using nearer
          exact keeps.congr holds rfl rfl rfl rfl rfl rfl rfl id
    · have other : (generator.seekMode == SeekMode.closest) = false := by simpa using closest
      rw [other]
      exact (first fun same => absurd same closest).congr rfl rfl rfl rfl rfl rfl rfl rfl id

theorem settled_of_rests (rests : generator.taking = false) : generator.settled = generator := by
  have same : generator.settledBuffer = generator.avBuffer := by
    unfold taking at rests
    unfold settledBuffer
    cases callback : generator.callback with
    | none => rfl
    | some under =>
      rw [callback] at rests
      cases under with
      | unwanted | pausing => rfl
      | candidate | fetched => cases rests
  rw [settled, same]

theorem Tracks.output (tracks : Tracks generator.settled)
    (ascending : generator.Ascending (.output buffer)) :
    Tracks (generator.output buffer).settled := by
  unfold Generator.output
  split
  · exact tracks
  rename_i calls
  rw [not_or, not_not] at calls
  rw [settled_of_rests (by simp [taking, calls.2])] at tracks
  have handed : Tracks (generator.handOut { buffer with delivery := generator.deliveries }) :=
    tracks.congr rfl rfl rfl rfl rfl rfl rfl rfl id
  exact handed.looks ascending

/-- A callback takes its frame or gives a buffer back. -/
theorem Tracks.takes (tracks : Tracks generator.settled) : Tracks generator.takes.settled := by
  cases callback : generator.callback with
  | none => rwa [Generator.takes, callback]
  | some under =>
    cases under with
    | pausing => rwa [Generator.takes, callback]
    | unwanted buffer =>
      rw [settled_of_rests (by simp [taking, callback])] at tracks
      have gave := tracks.release buffer.index generator.heldBuffer
      simp only [Generator.takes, callback]
      exact gave.congr rfl rfl rfl rfl rfl rfl rfl rfl id
    | candidate buffer =>
      simp only [Generator.takes, callback]
      have holds : generator.settledBuffer = some (.decoded buffer) := by
        rw [settledBuffer, callback]
      cases decoder : generator.decoder <;>
        (simp only [Generator.release, decoder, Generator.take]
         exact tracks.congr holds.symm rfl rfl rfl rfl rfl rfl rfl id)
    | fetched buffer isClosest =>
      have first : generator.settledBuffer = some (.decoded buffer) →
          Tracks { generator.take buffer with callback := some .pausing }.settled := by
        intro holds
        exact tracks.congr holds.symm rfl rfl rfl rfl rfl rfl rfl id
      simp only [Generator.takes, callback, takeFetched]
      cases isClosest with
      | false => exact first (by rw [settledBuffer, callback])
      | true =>
        cases candidate : generator.avBuffer with
        | none => exact first (by rw [settledBuffer, callback, candidate])
        | some held =>
          simp only
          split
          · rename_i near
            have holds : generator.settledBuffer = some (.decoded buffer) := by
              simp only [settledBuffer, callback, candidate, if_pos near]
            cases decoder : generator.decoder <;>
              (simp only [Generator.release, decoder, Generator.take]
               exact tracks.congr holds.symm rfl rfl rfl rfl rfl rfl rfl id)
          · rename_i far
            have holds : generator.settledBuffer = generator.avBuffer := by
              simp only [settledBuffer, callback, candidate, if_neg far]
            cases decoder : generator.decoder <;>
              (simp only [Generator.release, decoder]
               exact tracks.congr holds.symm rfl rfl rfl rfl rfl rfl rfl id)

theorem Tracks.reply (tracks : Tracks generator) {ended : Ended} {made : Bool} {returned : Returned}
    (meets : Return.Meets
      { call, seekMode := generator.seekMode, seekTime := generator.seekTime
        switched := generator.switched, accepted := generator.accepted, ended, made, returned }) :
    Tracks (generator.reply call ended made returned) where
  held := tracks.held
  valid := tracks.valid
  nearest := tracks.nearest
  first := tracks.first
  unheld := by
    rintro (busy | awaits)
    · exact absurd rfl busy
    · exact tracks.unheld (.inr awaits)
  empty := tracks.empty
  pictured := tracks.pictured
  once := by
    rintro call (waits | ⟨res, woken⟩)
    · cases waits
    · cases woken
  woken := fun _ _ woken => nomatch woken
  returns := by
    intro answer member
    rcases List.mem_append.mp member with earlier | last
    · exact tracks.returns answer earlier
    · rw [List.mem_singleton.mp last]
      exact meets

theorem meets_early {seekMode : SeekMode} {switched : Bool} {returned : Returned}
    (nothing : returned = .null ∨
      returned = .eosMarker ∧ (call = .fetchFrameYuv ∨ call = .fetchFrameYuvWithTimeout)) :
    Return.Meets { call, seekMode, seekTime, switched, accepted, ended := .early, made := false
                   returned } := by
  constructor
  case own =>
    rintro - frame (copy | uncopied)
    all_goals rcases nothing with null | ⟨marker, -⟩
    all_goals simp_all
  case fetched => exact fun _ early => nomatch early
  case shared => exact fun _ made => nomatch made
  case early => exact fun _ => nothing
  case timedOut => exact fun _ early => nomatch early
  case without => exact fun _ _ => nothing.imp id And.left

theorem Tracks.initDecoder (tracks : Tracks generator) (created started : Bool) :
    Tracks (generator.initDecoder created started).1 ∧
      (generator.initDecoder created started).1.accepted = generator.accepted ∧
      (generator.initDecoder created started).1.switched = generator.switched := by
  unfold Generator.initDecoder
  cases generator.decoder with
  | some _ => exact ⟨tracks, rfl, rfl⟩
  | none =>
    cases created with
    | false => exact ⟨tracks, rfl, rfl⟩
    | true => exact ⟨tracks.congr rfl rfl rfl rfl rfl rfl rfl rfl id, rfl, rfl⟩

theorem Tracks.fetch (tracks : Tracks generator) (idle : generator.caller = .idle)
    (call : FetchCall) (timeUs : Int) (option : SeekMode) (answers : Answers) :
    Tracks (generator.fetch call timeUs option answers) := by
  have started : ∀ start : Generator, start.avBuffer = none → start.accepted = [] →
      start.switched = false → start.caller = .idle → start.returns = generator.returns →
        Tracks start := by
    intro start avBuffer accepted switched caller returns
    refine ⟨?_, ?_, ?_, fun _ _ _ => accepted, fun _ _ => accepted, ?_, ?_, fun _ _ => switched,
      ?_, ?_⟩
    · simp [avBuffer]
    · simp [accepted]
    · simp [avBuffer]
    · simp [avBuffer]
    · simp [avBuffer]
    · simp [caller]
    · rw [returns]
      exact tracks.returns
  have reset : Tracks (generator.resetParamsBeforeFetchFrame call timeUs option) ∧
      (generator.resetParamsBeforeFetchFrame call timeUs option).avBuffer = none ∧
      (generator.resetParamsBeforeFetchFrame call timeUs option).accepted = [] ∧
      (generator.resetParamsBeforeFetchFrame call timeUs option).switched = false ∧
      (generator.resetParamsBeforeFetchFrame call timeUs option).caller = .idle ∧
      (generator.resetParamsBeforeFetchFrame call timeUs option).returns = generator.returns := by
    unfold resetParamsBeforeFetchFrame
    split
    · exact ⟨started _ rfl rfl rfl idle rfl, rfl, rfl, rfl, idle, rfl⟩
    · exact ⟨started _ rfl rfl rfl idle rfl, rfl, rfl, rfl, idle, rfl⟩
  unfold Generator.fetch
  generalize generator.resetParamsBeforeFetchFrame call timeUs option = start at reset
  obtain ⟨startTracks, avBuffer, accepted, switched, caller, returns⟩ := reset
  generalize seekToTime generator.mpegTs option answers.first answers.second = sought
  have seeking : Tracks { start with seekMode := sought.2 } :=
    started _ avBuffer accepted switched caller returns
  have ready := seeking.initDecoder answers.created answers.started
  simp only
  split
  · exact startTracks.reply (meets_early (.inl rfl))
  split
  · exact seeking.reply (meets_early (.inl rfl))
  split
  · rename_i ends
    exact seeking.reply (meets_early (.inr ⟨rfl, ends.1⟩))
  split
  · exact seeking.reply (meets_early (.inl rfl))
  split
  · exact ready.1.reply (meets_early (.inl rfl))
  refine ⟨ready.1.held, ready.1.valid, ready.1.nearest, ready.1.first, ?_, ready.1.empty,
    ready.1.pictured, ?_, ?_, ready.1.returns⟩
  · exact fun _ _ => ready.2.1.trans accepted
  · exact fun _ _ => ready.2.2.trans switched
  · exact fun _ _ woken => nomatch woken

theorem switchToSoftWareDecoder_fields (resources : Resources) (generator : Generator) :
    (generator.switchToSoftWareDecoder resources).avBuffer = generator.avBuffer ∧
      (generator.switchToSoftWareDecoder resources).accepted = generator.accepted ∧
      (generator.switchToSoftWareDecoder resources).seekTime = generator.seekTime ∧
      (generator.switchToSoftWareDecoder resources).returns = generator.returns := by
  unfold Generator.switchToSoftWareDecoder Generator.initDecoder
  split
  · exact ⟨rfl, rfl, rfl, rfl⟩
  · simp only
    split_ifs <;> exact ⟨rfl, rfl, rfl, rfl⟩

theorem Tracks.retry (tracks : Tracks generator) {res : Bool}
    (caller : generator.caller = .woken call false res) (resources : Resources) :
    Tracks (generator.retry call resources) := by
  have unswitched := tracks.once call (.inr ⟨res, caller⟩)
  obtain ⟨avBuffer, accepted, seekTime, returns⟩ :=
    switchToSoftWareDecoder_fields resources { generator with stopProcessing := false }
  constructor
  case held =>
    intro held same
    have same := avBuffer.symm.trans same
    exact accepted.symm ▸ tracks.held held same
  case valid =>
    intro frame member
    exact tracks.valid frame (accepted ▸ member)
  case nearest =>
    intro _ held same picture
    have nearest := tracks.nearest (.inr unswitched) held (avBuffer.symm.trans same) picture
    exact accepted.symm ▸ seekTime.symm ▸ nearest
  case first => exact fun same => nomatch same
  case unheld =>
    intro _ nothing
    have none := tracks.unheld (.inl (by rw [caller]; exact fun idle => nomatch idle))
      (avBuffer.symm.trans nothing)
    exact accepted.trans none
  case empty =>
    intro _ _ held same blank frame member
    exact tracks.empty (.inr unswitched) (.inr unswitched) held (avBuffer.symm.trans same) blank
      frame (accepted ▸ member)
  case pictured => exact fun same => nomatch same
  case once =>
    rintro call (waits | ⟨res, woken⟩)
    · cases waits
    · cases woken
  case woken => exact fun _ _ woken => nomatch woken
  case returns =>
    intro answer member
    exact tracks.returns answer (returns ▸ member)

theorem Tracks.answers (tracks : Tracks generator) {held : Held}
    (candidate : generator.avBuffer = some held) (accepted : answer.accepted = generator.accepted)
    (seekMode : answer.seekMode = generator.seekMode)
    (seekTime : answer.seekTime = generator.seekTime)
    (switched : answer.switched = generator.switched) : answer.Answers held.source := by
  constructor
  · rw [accepted]
    exact tracks.held held candidate
  · rw [accepted, seekMode, seekTime, switched]
    intro picture faithful
    exact tracks.nearest faithful held candidate picture

theorem release_request (index : Nat) (kept : Option OutputBuffer) (generator : Generator) :
    (generator.release index kept).accepted = generator.accepted ∧
      (generator.release index kept).seekMode = generator.seekMode ∧
      (generator.release index kept).seekTime = generator.seekTime ∧
      (generator.release index kept).switched = generator.switched ∧
      (generator.release index kept).avBuffer = generator.avBuffer ∧
      (generator.release index kept).fetchedFrameAtTime = generator.fetchedFrameAtTime := by
  unfold Generator.release
  cases generator.decoder <;> exact ⟨rfl, rfl, rfl, rfl, rfl, rfl⟩

theorem convertToAVSharedMemory_cases (resources : Resources) (generator : Generator) :
    ∃ shared, (generator.convertToAVSharedMemory resources).1 =
        { generator with fetchedFrameAtTime := shared } ∧
      ((generator.convertToAVSharedMemory resources).2 = true →
        ∃ held, generator.avBuffer = some held ∧ shared = some (.copy held.source)) := by
  unfold Generator.convertToAVSharedMemory
  split
  · exact ⟨_, rfl, fun made => nomatch made⟩
  rename_i held candidate
  split_ifs
  · exact ⟨_, rfl, fun made => nomatch made⟩
  · exact ⟨_, rfl, fun made => nomatch made⟩
  · exact ⟨_, rfl, fun made => nomatch made⟩
  · exact ⟨_, rfl, fun _ => ⟨held, candidate, rfl⟩⟩

theorem meets_shared (call : answer.call = .fetchFrameAtTime) (waited : answer.ended ≠ .early)
    (made : answer.made = true → ∃ frame, answer.returned = .copy frame ∧ answer.Answers frame) :
    answer.Meets where
  own := fun yuv => absurd call yuv
  fetched := fun yuv => absurd call yuv
  shared := fun _ => made
  early := fun ended => absurd ended waited
  timedOut := fun other => by
    rw [call] at other
    cases other
  without := fun yuv => absurd call yuv

theorem Tracks.endAtTime (tracks : Tracks generator) (res : Bool) (resources : Resources) :
    Tracks (generator.endAtTime res resources) := by
  unfold Generator.endAtTime
  split
  · exact tracks.pauseFetchFrame.reply
      (meets_shared rfl (fun early => nomatch early) fun made => nomatch made)
  split
  · exact tracks.pauseFetchFrame.reply
      (meets_shared rfl (fun early => nomatch early) fun made => nomatch made)
  obtain ⟨shared, fields, copied⟩ := convertToAVSharedMemory_cases resources generator
  generalize generator.convertToAVSharedMemory resources = converted at fields copied
  obtain ⟨after, made⟩ := converted
  subst fields
  have convertedTracks : Tracks { generator with fetchedFrameAtTime := shared } :=
    tracks.congr rfl rfl rfl rfl rfl rfl rfl rfl id
  obtain ⟨accepted, seekMode, seekTime, switched, -, kept⟩ := release_request
    generator.bufferIndex none { generator with fetchedFrameAtTime := shared }
  refine (convertedTracks.release _ none).reply
    (meets_shared rfl (fun early => nomatch early) fun made => ?_)
  obtain ⟨held, candidate, copy⟩ := copied made
  have returned := congrArg Returned.ofShared (kept.trans copy)
  exact ⟨held.source, returned, tracks.answers candidate accepted seekMode seekTime switched⟩

theorem Tracks.meets_failed (tracks : Tracks generator)
    (accepted : answer.accepted = generator.accepted)
    (failed : answer.ended = .failed ∨ answer.ended = .timedOut) (made : answer.made = false)
    (returned : answer.returned = .null ∨ answer.returned = .ofHeld generator.avBuffer ∧
      (answer.ended = .timedOut → answer.call ≠ .fetchFrameYuvWithTimeout)) : answer.Meets := by
  have own : answer.returned = .null ∨ ∃ held, held.source ∈ answer.accepted ∧
      answer.returned = .ofHeld (some held) := by
    rcases returned with null | ⟨returned, -⟩
    · exact .inl null
    cases candidate : generator.avBuffer with
    | none =>
      rw [candidate] at returned
      exact .inl returned
    | some held =>
      rw [candidate] at returned
      rw [accepted]
      exact .inr ⟨held, tracks.held held candidate, returned⟩
  constructor
  case own =>
    intro _ frame gives
    rcases own with null | ⟨held, member, returned⟩
    · rw [null] at gives
      rcases gives with gives | gives <;> cases gives
    · rw [returned] at gives
      cases held <;> rcases gives with gives | gives <;> cases gives <;> exact member
  case fetched =>
    intro _ ended
    rcases failed with failed | failed <;> rw [failed] at ended <;> cases ended
  case shared =>
    rw [made]
    exact fun _ made => nomatch made
  case early =>
    intro ended
    rcases failed with failed | failed <;> rw [failed] at ended <;> cases ended
  case timedOut =>
    intro call ended
    rcases returned with null | ⟨-, other⟩
    · exact null
    · exact absurd call (other ended)
  case without =>
    intro _ nothing
    rcases own with null | ⟨held, member, -⟩
    · exact .inl null
    · rw [nothing] at member
      cases member

theorem Tracks.handleFetchFrameYuvFailed (tracks : Tracks generator) (kept : Option OutputBuffer) :
    Tracks (generator.handleFetchFrameYuvFailed kept) ∧
      (generator.handleFetchFrameYuvFailed kept).accepted = generator.accepted ∧
      (generator.handleFetchFrameYuvFailed kept).avBuffer = generator.avBuffer := by
  unfold Generator.handleFetchFrameYuvFailed
  split
  · exact ⟨tracks, rfl, rfl⟩
  · obtain ⟨accepted, -, -, -, avBuffer, -⟩ := release_request generator.bufferIndex kept generator
    exact ⟨(tracks.release _ _).pauseFetchFrame, accepted, avBuffer⟩

theorem generateAlignmentAvBuffer_cases (resources : Resources) (generator : Generator) :
    generator.generateAlignmentAvBuffer resources = none ∨
      ∃ held, generator.avBuffer = some held ∧ held.source.picture = true ∧
        generator.generateAlignmentAvBuffer resources = some (.copy held.source) := by
  unfold Generator.generateAlignmentAvBuffer
  split
  · exact .inl rfl
  rename_i held candidate
  split_ifs with copies
  · simp only [Bool.and_eq_true] at copies
    exact .inr ⟨held, candidate, copies.1, rfl⟩
  · exact .inl rfl

/-- The copy takes the place of the frame, or nothing does, after the wait has found a frame. -/
theorem Tracks.copied (tracks : Tracks generator) {copied : Option Held}
    (idle : generator.caller = .idle) (fetched : generator.hasFetchedFrame = true)
    (is : copied = none ∨ ∃ held, generator.avBuffer = some held ∧ held.source.picture = true ∧
      copied = some (.copy held.source)) : Tracks { generator with avBuffer := copied } := by
  have source : ∀ what, copied = some what →
      ∃ held, generator.avBuffer = some held ∧ held.source.picture = true ∧
        what.source = held.source := by
    rintro what rfl
    rcases is with none | ⟨held, candidate, picture, copy⟩
    · cases none
    · cases copy
      exact ⟨held, candidate, picture, rfl⟩
  constructor
  case held =>
    intro what same
    obtain ⟨held, candidate, -, same⟩ := source what same
    rw [same]
    exact tracks.held held candidate
  case valid => exact tracks.valid
  case nearest =>
    intro faithful what same picture
    obtain ⟨held, candidate, -, same⟩ := source what same
    rw [same] at picture ⊢
    exact tracks.nearest faithful held candidate picture
  case first => exact tracks.first
  case unheld =>
    rintro (busy | awaits)
    · exact absurd idle busy
    · rw [show generator.hasFetchedFrame = false from awaits] at fetched
      cases fetched
  case empty =>
    intro _ _ what same blank
    obtain ⟨held, -, picture, same⟩ := source what same
    rw [same, picture] at blank
    cases blank
  case pictured =>
    intro _ _ what same
    obtain ⟨held, -, picture, same⟩ := source what same
    rw [same]
    exact picture
  case once => exact tracks.once
  case woken => exact tracks.woken
  case returns => exact tracks.returns

theorem Tracks.idle (tracks : Tracks generator) : Tracks { generator with caller := .idle } where
  held := tracks.held
  valid := tracks.valid
  nearest := tracks.nearest
  first := tracks.first
  unheld := by
    rintro (busy | awaits)
    · exact absurd rfl busy
    · exact tracks.unheld (.inr awaits)
  empty := tracks.empty
  pictured := tracks.pictured
  once := by
    rintro call (waits | ⟨res, woken⟩)
    · cases waits
    · cases woken
  woken := fun _ _ woken => nomatch woken
  returns := tracks.returns

theorem Tracks.endYuv (tracks : Tracks generator) {again res : Bool}
    (caller : generator.caller = .woken call again res) (yuv : call.yuv) (resources : Resources) :
    Tracks (generator.endYuv call res resources) := by
  unfold Generator.endYuv
  split
  · split
    · obtain ⟨failed, accepted, -⟩ := tracks.handleFetchFrameYuvFailed none
      exact failed.reply (tracks.meets_failed accepted (.inr rfl) rfl (.inl rfl))
    · rename_i other
      obtain ⟨failed, accepted, avBuffer⟩ := tracks.handleFetchFrameYuvFailed generator.heldBuffer
      exact failed.reply (tracks.meets_failed accepted (.inr rfl) rfl
        (.inr ⟨congrArg Returned.ofHeld avBuffer, fun _ => other⟩))
  · split
    · obtain ⟨failed, accepted, avBuffer⟩ := tracks.handleFetchFrameYuvFailed generator.heldBuffer
      exact failed.reply (tracks.meets_failed accepted (.inl rfl) rfl
        (.inr ⟨congrArg Returned.ofHeld avBuffer, fun ended => nomatch ended⟩))
    · rename_i answered fine
      have fetched : generator.hasFetchedFrame = true := by
        have res_ : res = true := by simpa using answered
        subst res_
        have awaited := tracks.woken call again caller
        simp only [Bool.or_eq_true, not_or, Bool.not_eq_true] at fine
        simpa [awaited, Generator.awaited, fine.1, fine.2] using awaited
      have copies := generateAlignmentAvBuffer_cases resources generator
      generalize generator.generateAlignmentAvBuffer resources = copied at copies
      have tracksCopied := tracks.idle.copied rfl fetched copies
      refine tracksCopied.reply ?_
      constructor
      case own =>
        intro _ frame gives
        rcases copies with rfl | ⟨held, candidate, -, rfl⟩
        · rcases gives with gives | gives <;> cases gives
        · rcases gives with gives | gives
          · cases gives
            exact tracks.held held candidate
          · cases gives
      case fetched =>
        intro _ _
        rcases copies with rfl | ⟨held, candidate, picture, rfl⟩
        · exact .inl rfl
        · exact .inr ⟨held.source, rfl, picture, tracks.answers candidate rfl rfl rfl rfl⟩
      case shared => exact fun shared => absurd shared yuv
      case early => exact fun early => nomatch early
      case timedOut => exact fun _ ended => nomatch ended
      case without =>
        intro _ nothing
        rcases copies with rfl | ⟨held, candidate, -, rfl⟩
        · exact .inl rfl
        · have member := tracks.held held candidate
          rw [show generator.accepted = [] from nothing] at member
          cases member

theorem Tracks.goesOn (tracks : Tracks generator) (resources : Resources) :
    Tracks (generator.goesOn resources) := by
  unfold Generator.goesOn
  split
  · rename_i call again res caller
    split_ifs with shared changes
    · exact tracks.endAtTime res resources
    · rw [changes.1] at caller
      exact tracks.retry caller resources
    · exact tracks.endYuv caller shared resources
  · exact tracks

theorem Tracks.waitEnds (tracks : Tracks generator) : Tracks (generator.next .waitEnds) := by
  unfold Generator.next
  simp only
  split
  · rename_i call again caller
    constructor
    case held => exact tracks.held
    case valid => exact tracks.valid
    case nearest => exact tracks.nearest
    case first => exact tracks.first
    case unheld =>
      intro _
      exact tracks.unheld (.inl (by rw [caller]; exact fun idle => nomatch idle))
    case empty => exact tracks.empty
    case pictured => exact tracks.pictured
    case once =>
      rintro call (waits | ⟨res, woken⟩)
      · cases waits
      · cases woken
        exact tracks.once call (.inl caller)
    case woken =>
      intro call again woken
      injection woken
    case returns => exact tracks.returns
  · exact tracks

theorem settled_of_callback {other : Generator} (same : other.callback = generator.callback)
    (rests : generator.taking = false) : other.settled = other := by
  apply settled_of_rests
  unfold taking at rests ⊢
  rwa [same]

theorem initDecoder_callback (created started : Bool) (generator : Generator) :
    (generator.initDecoder created started).1.callback = generator.callback := by
  unfold Generator.initDecoder
  cases generator.decoder with
  | none => cases created <;> rfl
  | some _ => rfl

theorem fetch_callback (timeUs : Int) (option : SeekMode) (answers : Answers)
    (generator : Generator) :
    (generator.fetch call timeUs option answers).callback = generator.callback := by
  have reset : (generator.resetParamsBeforeFetchFrame call timeUs option).callback =
      generator.callback := by
    unfold resetParamsBeforeFetchFrame
    split <;> rfl
  unfold Generator.fetch
  simp only
  split_ifs <;> simp only [Generator.reply, initDecoder_callback] <;> exact reset

theorem release_callback (index : Nat) (kept : Option OutputBuffer) (generator : Generator) :
    (generator.release index kept).callback = generator.callback := by
  unfold Generator.release
  cases generator.decoder <;> rfl

theorem goesOn_callback (resources : Resources) (generator : Generator) :
    (generator.goesOn resources).callback = generator.callback := by
  have failed : ∀ kept,
      (generator.handleFetchFrameYuvFailed kept).callback = generator.callback := by
    intro kept
    unfold Generator.handleFetchFrameYuvFailed
    split
    · rfl
    · exact release_callback _ _ _
  have converted : (generator.convertToAVSharedMemory resources).1.callback =
      generator.callback := by
    unfold Generator.convertToAVSharedMemory
    split
    · rfl
    · split_ifs <;> rfl
  unfold Generator.goesOn
  split
  · split_ifs
    · unfold Generator.endAtTime
      split_ifs
      · rfl
      · rfl
      · exact (release_callback _ _ _).trans converted
    · unfold Generator.retry Generator.switchToSoftWareDecoder
      simp only
      split
      · rfl
      split_ifs
      · rfl
      · rfl
      · rfl
      · exact initDecoder_callback _ _ _
    · unfold Generator.endYuv
      split_ifs
      · exact failed _
      · exact failed _
      · exact failed _
      · rfl
  · rfl

theorem Tracks.next (tracks : Tracks generator.settled) {event : Event}
    (ascending : generator.Ascending event) (unraced : generator.Unraced event) :
    Tracks (generator.next event).settled := by
  cases event with
  | fetch call timeUs option answers =>
    simp only [Generator.next]
    split
    · rename_i idle
      have rests : generator.taking = false := unraced idle
      rw [settled_of_rests rests] at tracks
      rw [settled_of_callback (fetch_callback timeUs option answers generator) rests]
      exact tracks.fetch idle call timeUs option answers
    · exact tracks
  | waitEnds =>
    have ends := tracks.waitEnds
    simp only [Generator.next] at ends ⊢
    cases caller : generator.caller with
    | idle | woken => exact tracks
    | waiting call again =>
      have same : generator.settled.caller = .waiting call again := caller
      rw [same] at ends
      exact ends
  | goesOn resources =>
    have rests : generator.taking = false := unraced
    rw [settled_of_rests rests] at tracks
    simp only [Generator.next]
    rw [settled_of_callback (goesOn_callback resources generator) rests]
    exact tracks.goesOn resources
  | output buffer => exact tracks.output ascending
  | takes => exact tracks.takes
  | pauses =>
    simp only [Generator.next, Generator.pauses]
    split
    · rename_i pausing
      rw [settled_of_rests (by simp [taking, pausing])] at tracks
      exact tracks.pauseFetchFrame.congr rfl rfl rfl rfl rfl rfl rfl rfl id
    · exact tracks
  | readError =>
    refine tracks.congr rfl rfl rfl rfl rfl rfl rfl rfl fun _ => ?_
    simp [Generator.next, settled, awaited]
  | error unsupported =>
    simp only [Generator.next, Generator.onError]
    split
    · split
      · exact tracks
      · refine tracks.congr rfl rfl rfl rfl rfl rfl rfl rfl fun _ => ?_
        simp [settled, awaited]
    · refine tracks.congr rfl rfl rfl rfl rfl rfl rfl rfl fun _ => ?_
      simp [settled, awaited]

theorem tracks_initial (mpegTs : Bool) : Tracks { mpegTs } where
  held := fun _ same => nomatch same
  valid := fun _ member => nomatch member
  nearest := fun _ _ same => nomatch same
  first := fun _ _ _ => rfl
  unheld := fun _ _ => rfl
  empty := fun _ _ _ same => nomatch same
  pictured := fun _ _ _ same => nomatch same
  once := fun _ _ => rfl
  woken := fun _ _ woken => nomatch woken
  returns := fun _ member => nomatch member

/-- In every run whose pictures come in ascending order, and in which no call overtakes a
callback that takes its frame, every call returns what it may. -/
theorem returns_meet (mpegTs : Bool) (events : List Event)
    (along : Along Generator.next
      (fun generator event => generator.Ascending event ∧ generator.Unraced event) { mpegTs }
      events) :
    ∀ answer ∈ (run Generator.next { mpegTs } events).returns, answer.Meets := by
  have reached := invariant_of_along (fun generator => Tracks generator.settled)
    (fun _ _ tracks ⟨ascending, unraced⟩ => tracks.next ascending unraced) along
    (tracks_initial mpegTs)
  exact reached.returns

end

/-- The second frame is farther from the time than the first. -/
def closestOfTwo : List Event :=
  [.fetch .fetchFrameYuv 30 .closest {}, .output { index := 3, pts := 20 }, .takes,
    .output { index := 4, pts := 60 }, .takes, .pauses, .waitEnds, .goesOn {}]

theorem returns_meet_closestOfTwo :
    ((run Generator.next {} closestOfTwo).returns.map (·.returned) =
      [.copy { index := 3, pts := 20 }]) ∧
    ∀ answer ∈ (run Generator.next { mpegTs := false } closestOfTwo).returns, answer.Meets :=
  ⟨by decide +kernel, returns_meet false closestOfTwo (by decide +kernel)⟩

/-- A call returns a private copy of a frame of its own, or nothing. -/
def Return.Private (answer : Return) : Prop :=
  answer.returned = .null ∨ ∃ frame ∈ answer.accepted, answer.returned = .copy frame

/-- A seek to the end of the stream is answered with a marker.  A call that times out after one
that found a frame returns that frame, one that meets a read error its candidate, which has been
released, one that finds the end of the stream a copy of nothing, and one that is woken before
the callback has compared its frame the candidate, however much farther it is. -/
theorem marker_not_private :
    (Along Generator.next Ascending { mpegTs := true }
        [.fetch .fetchFrameYuv 90 .closest { first := .endOfStream }] ∧
      ¬∀ answer ∈ (run Generator.next { mpegTs := true }
        [.fetch .fetchFrameYuv 90 .closest { first := .endOfStream }]).returns,
          Return.Private answer) ∧
    (run Generator.next {} [.fetch .fetchFrameAtTime 0 .closest {},
      .output { index := 3, pts := 0 },
        .takes, .pauses, .waitEnds, .goesOn {}, .fetch .fetchFrameAtTime 40 .closest {}, .waitEnds,
        .goesOn {}]).returns.getLast?.map (fun answer => (answer.accepted, answer.returned)) =
      some ([], .copy { index := 3, pts := 0 }) ∧
    (run Generator.next {} [.fetch .fetchFrameYuv 40 .closest {}, .output { index := 3, pts := 0 },
        .takes, .readError, .waitEnds, .goesOn {}]).returns.map (·.returned) =
      [.uncopied { index := 3, pts := 0 }] ∧
    (run Generator.next {} [.fetch .fetchFrameAtTime 40 .closest {},
        .output { index := 3, pts := 0, eos := true, surface := false }, .takes, .pauses, .waitEnds,
        .goesOn {}]).returns.map (·.returned) =
      [.copy { index := 3, pts := 0, eos := true, surface := false }] ∧
    (run Generator.next {} [.fetch .fetchFrameYuv 30 .closest {}, .output { index := 3, pts := 20 },
        .takes, .output { index := 4, pts := 31 }, .waitEnds, .goesOn {}]).returns.map
          (fun answer => (answer.accepted.map (·.pts), answer.returned)) =
      [([20, 31], .copy { index := 3, pts := 20 })] := by
  refine ⟨⟨by decide +kernel, fun always => ?_⟩, by decide +kernel, by decide +kernel,
    by decide +kernel, by decide +kernel⟩
  rcases always _ (List.mem_singleton_self _) with null | ⟨frame, member, -⟩
  · cases null
  · cases member

end Generator

end PlayerFramework.Thumbnail
