import PlayerFramework.Thumbnail.Generator

/-!
Which buffers of the decoder the `AVThumbnailGenerator` releases, and when.
-/

namespace PlayerFramework.Thumbnail

open Transition

/-- The decoder had handed out a buffer under the index, and it is not the one that is kept. -/
def Release.Sound (release : Release) : Prop :=
  ∃ buffer, release.found = some buffer ∧ release.kept ≠ some buffer

namespace Generator

def Takes (generator : Generator) (buffer : OutputBuffer) : Prop :=
  generator.decoder ≠ none ∧ generator.callback = none ∧ buffer.isValidBuffer = true ∧
    generator.hasFetchedFrame = false ∧ generator.stopProcessing = false

/-- The buffer that is held is neither released nor flushed. -/
def unflushed (generator : Generator) : Bool :=
  match generator.heldBuffer with
  | some buffer => generator.outstanding.contains buffer
  | none => false

/-- Every release was of a buffer handed out and not kept, and no request has started with buffers
of the one before. -/
structure ReleasesOnce (generator : Generator) : Prop where
  sound : ∀ release ∈ generator.releases, release.Sound
  clean : generator.carried = []

/-- The callback under way has yet to give a buffer back. -/
def givesBack (generator : Generator) : Bool :=
  match generator.callback with
  | some (.unwanted _) | some (.candidate _) => true
  | some (.fetched _ isClosest) => isClosest && generator.avBuffer.isSome
  | none | some .pausing => false

/-- The step takes none of the branches that release the index that is remembered while nothing
is held under it, flushes or changes no decoder that a callback has to give a buffer back to,
and starts no request before the callback of the last frame has ended. -/
def Orderly (generator : Generator) : Event → Prop
  | .output buffer => generator.Takes buffer → generator.seekMode = .closest →
      buffer.eos = false → generator.seekTime ≤ buffer.pts
  | .takes =>
    match generator.callback with
    | some (.fetched buffer true) => buffer.eos = false → ∀ held ∈ generator.avBuffer,
        generator.seekTime - held.source.pts ≤ buffer.pts - generator.seekTime
    | _ => True
  | .fetch .. => generator.caller = .idle → generator.callback = none
  | .goesOn resources =>
    match generator.caller with
    | .woken call again res =>
      if call = .fetchFrameAtTime then
        if res = true ∧ generator.readErrorFlag = false ∧ generator.stopProcessing = false then
          generator.unflushed = true
        else generator.givesBack = false
      else if again = false ∧ generator.hasReceivedCodecErrCodeOfUnsupported = true then
        resources.hardware = true → generator.givesBack = false
      else
        res = false ∨ generator.readErrorFlag = true ∨ generator.stopProcessing = true →
          generator.decoder = none ∨
            (call = .fetchFrameYuvWithTimeout ∧ res = false ∧ generator.unflushed = true)
    | _ => True
  | _ => True

instance (generator : Generator) (buffer : OutputBuffer) : Decidable (generator.Takes buffer) := by
  unfold Takes
  infer_instance

instance (generator : Generator) : ∀ event, Decidable (generator.Orderly event)
  | .output _ => inferInstanceAs (Decidable (_ → _ → _ → _))
  | .takes => by
    unfold Orderly
    exact match generator.callback with
    | some (.fetched _ true) => inferInstanceAs (Decidable (_ → _))
    | none | some (.fetched _ false) | some (.unwanted _) | some (.candidate _)
    | some .pausing => .isTrue trivial
  | .fetch _ _ _ _ => inferInstanceAs (Decidable (_ → _))
  | .goesOn _ => by
    unfold Orderly
    exact match generator.caller with
    | .woken _ _ _ => by
      dsimp only
      infer_instance
    | .idle | .waiting _ _ => .isTrue trivial
  | .waitEnds | .pauses | .readError | .error _ => .isTrue trivial

/-- What the callback under way still has to do with the buffers that are handed out. -/
def Single (generator : Generator) : Prop :=
  match generator.callback with
  | none => generator.outstanding = []
  | some (.unwanted buffer) => generator.outstanding = [buffer]
  | some (.candidate _) => False
  | some (.fetched buffer isClosest) => generator.outstanding = [buffer] ∨
      generator.outstanding = [] ∧ (isClosest = true → generator.avBuffer = none)
  | some .pausing => generator.outstanding = [] ∨
      ∃ buffer, generator.outstanding = [buffer] ∧ generator.bufferIndex = buffer.index

/-- The buffer of the callback under way is not the one that is held. -/
def Newer (generator : Generator) : Prop :=
  match generator.callback with
  | some (.unwanted buffer) | some (.candidate buffer) | some (.fetched buffer _) =>
    buffer.delivery < generator.deliveries ∧
      ∀ held ∈ generator.heldBuffer, held.delivery < buffer.delivery
  | none | some .pausing => True

structure Handles (generator : Generator) : Prop extends ReleasesOnce generator where
  single : generator.Single
  older : ∀ buffer ∈ generator.heldBuffer, buffer.delivery < generator.deliveries
  newer : generator.Newer

section

variable {generator : Generator}

theorem outstanding_of_decoder {outstanding : List OutputBuffer}
    (decoder : generator.decoder = some outstanding) : generator.outstanding = outstanding := by
  rw [Generator.outstanding, decoder, Option.getD_some]

theorem release_fields (index : Nat) (kept : Option OutputBuffer) (generator : Generator) :
    (generator.release index kept).callback = generator.callback ∧
      (generator.release index kept).avBuffer = generator.avBuffer ∧
      (generator.release index kept).bufferIndex = generator.bufferIndex ∧
      (generator.release index kept).deliveries = generator.deliveries := by
  unfold release
  cases generator.decoder <;> exact ⟨rfl, rfl, rfl, rfl⟩

theorem heldBuffer_congr {other : Generator} (same : other.avBuffer = generator.avBuffer) :
    other.heldBuffer = generator.heldBuffer := by
  rw [heldBuffer, heldBuffer, same]

theorem ReleasesOnce.releaseOnly (once : ReleasesOnce generator) {buffer : OutputBuffer}
    {kept : Option OutputBuffer} (only : generator.outstanding = [buffer])
    (other : kept ≠ some buffer) :
    ReleasesOnce (generator.release buffer.index kept) ∧
      (generator.release buffer.index kept).outstanding = [] := by
  cases decoder : generator.decoder with
  | none =>
    rw [Generator.outstanding, decoder] at only
    cases only
  | some outstanding =>
    rw [outstanding_of_decoder decoder] at only
    subst only
    have released : generator.release buffer.index kept =
        { generator with
          decoder := some []
          releases := generator.releases ++
            [{ index := buffer.index, found := some buffer, kept }] } := by
      simp [release, decoder]
    rw [released]
    refine ⟨⟨?_, once.clean⟩, rfl⟩
    intro release member
    rcases List.mem_append.mp member with earlier | last
    · exact once.sound release earlier
    · rw [List.mem_singleton.mp last]
      exact ⟨buffer, rfl, other⟩

theorem Handles.congr (handles : Handles generator) {other : Generator}
    (releases : other.releases = generator.releases) (carried : other.carried = generator.carried)
    (decoder : other.decoder = generator.decoder) (callback : other.callback = generator.callback)
    (bufferIndex : other.bufferIndex = generator.bufferIndex)
    (avBuffer : other.avBuffer = generator.avBuffer)
    (deliveries : other.deliveries = generator.deliveries) : Handles other := by
  refine ⟨⟨?_, carried.trans handles.clean⟩, ?_, ?_, ?_⟩
  · rw [releases]
    exact handles.sound
  · rw [Single, Generator.outstanding, decoder, callback, bufferIndex, avBuffer]
    exact handles.single
  · rw [heldBuffer_congr avBuffer, deliveries]
    exact handles.older
  · rw [Newer, callback, heldBuffer_congr avBuffer, deliveries]
    exact handles.newer

/-- Where nothing is handed out any more, and no callback wants to give a buffer back. -/
theorem Handles.empty (handles : Handles generator) {other : Generator}
    (once : ReleasesOnce other) (none : other.outstanding = [])
    (callback : other.callback = generator.callback)
    (avBuffer : other.avBuffer = generator.avBuffer)
    (deliveries : other.deliveries = generator.deliveries)
    (kept : generator.givesBack = false) : Handles other := by
  refine ⟨once, ?_, ?_, ?_⟩
  · unfold givesBack at kept
    rw [Single, callback, avBuffer]
    split at kept
    · cases kept
    · cases kept
    · rename_i closest under
      rw [under]
      refine .inr ⟨none, fun same => ?_⟩
      simpa [same] using kept
    · rename_i under
      rw [under]
      exact none
    · rename_i under
      rw [under]
      exact .inl none
  · rw [heldBuffer_congr avBuffer, deliveries]
    exact handles.older
  · rw [Newer, callback, heldBuffer_congr avBuffer, deliveries]
    exact handles.newer

/-- What is handed out and held is the frame of a callback that is about to pause. -/
theorem Handles.pausing (handles : Handles generator) (unflushed : generator.unflushed = true) :
    generator.callback = some .pausing ∧
      ∃ buffer, generator.outstanding = [buffer] ∧ generator.bufferIndex = buffer.index := by
  unfold Generator.unflushed at unflushed
  split at unflushed
  · rename_i held holds
    have member : held ∈ generator.outstanding := List.contains_iff_mem.mp unflushed
    have single := handles.single
    have newer := handles.newer
    unfold Single at single
    unfold Newer at newer
    cases callback : generator.callback with
    | none =>
      rw [callback] at single
      rw [show generator.outstanding = [] from single] at member
      cases member
    | some under =>
      rw [callback] at single newer
      have apart : ∀ buffer : OutputBuffer,
          (∀ held ∈ generator.heldBuffer, held.delivery < buffer.delivery) →
            generator.outstanding ≠ [buffer] := by
        intro buffer later only
        rw [only, List.mem_singleton] at member
        have before := later held holds
        rw [member] at before
        exact absurd before (Nat.lt_irrefl _)
      cases under with
      | unwanted buffer => exact absurd single (apart buffer newer.2)
      | candidate buffer => exact single.elim
      | fetched buffer isClosest =>
        rcases single with only | ⟨nothing, -⟩
        · exact absurd only (apart buffer newer.2)
        · rw [nothing] at member
          cases member
      | pausing =>
        rcases single with nothing | only
        · rw [nothing] at member
          cases member
        · exact ⟨rfl, only⟩
  · cases unflushed

theorem pauseFetchFrame_outstanding (generator : Generator) :
    generator.pauseFetchFrame.outstanding = [] := by
  simp only [pauseFetchFrame, Generator.outstanding]
  cases generator.decoder <;> rfl

theorem Handles.pauseFetchFrame (handles : Handles generator)
    (kept : generator.givesBack = false) : Handles generator.pauseFetchFrame :=
  handles.empty ⟨handles.sound, handles.clean⟩ generator.pauseFetchFrame_outstanding rfl rfl rfl
    kept

theorem Handles.releaseHeld (handles : Handles generator) (unflushed : generator.unflushed = true) :
    Handles (generator.release generator.bufferIndex none) ∧
      (generator.release generator.bufferIndex none).givesBack = false := by
  obtain ⟨callback, only, outstanding, index⟩ := handles.pausing unflushed
  have fields := release_fields generator.bufferIndex none generator
  have kept : generator.givesBack = false := by
    rw [givesBack, callback]
  have released := handles.toReleasesOnce.releaseOnly outstanding
    (by simp : (none : Option OutputBuffer) ≠ some only)
  rw [← index] at released
  refine ⟨handles.empty released.1 released.2 fields.1 fields.2.1 fields.2.2.2 kept, ?_⟩
  rw [givesBack, fields.1, callback]

/-- A callback looks at the flags; it meets no candidate. -/
theorem Handles.output (handles : Handles generator) {buffer : OutputBuffer}
    (orderly : generator.Orderly (.output buffer)) : Handles (generator.output buffer) := by
  unfold Generator.output
  split
  · exact handles
  rename_i calls
  rw [not_or, not_not] at calls
  obtain ⟨exists_, free⟩ := calls
  have nothing : generator.decoder = some [] := by
    obtain ⟨outstanding, decoder⟩ := Option.ne_none_iff_exists'.mp exists_
    have single := handles.single
    rw [Single, free] at single
    rw [decoder, ← outstanding_of_decoder decoder]
    exact congrArg some single
  generalize given : ({ buffer with delivery := generator.deliveries } : OutputBuffer) = delivered
  have same : delivered.pts = buffer.pts ∧ delivered.eos = buffer.eos ∧
      delivered.isValidBuffer = buffer.isValidBuffer ∧
      delivered.delivery = generator.deliveries := by
    subst given
    exact ⟨rfl, rfl, rfl, rfl⟩
  have only : (generator.handOut delivered).outstanding = [delivered] := by
    simp [handOut, Generator.outstanding, nothing]
  have newer : delivered.delivery < generator.deliveries + 1 ∧
      ∀ held ∈ generator.heldBuffer, held.delivery < delivered.delivery := by
    rw [same.2.2.2]
    exact ⟨Nat.lt_succ_self _, handles.older⟩
  have older : ∀ held ∈ generator.heldBuffer, held.delivery < generator.deliveries + 1 :=
    fun held member => Nat.lt_succ_of_lt (handles.older held member)
  simp only [onOutputBufferAvailable]
  split
  · exact ⟨⟨handles.sound, handles.clean⟩, only, older, newer⟩
  rename_i wanted
  simp only [Bool.or_eq_true, not_or, Bool.not_eq_true, Bool.not_eq_false'] at wanted
  have rules := orderly ⟨exists_, free, same.2.2.1.symm.trans wanted.1.1, wanted.1.2, wanted.2⟩
  split
  · rename_i early
    simp only [Bool.and_eq_true, beq_iff_eq, decide_eq_true_eq, Bool.not_eq_true'] at early
    have late := rules early.1.1 (same.2.1 ▸ early.2)
    have before : delivered.pts < generator.seekTime := early.1.2
    omega
  · exact ⟨⟨handles.sound, handles.clean⟩, .inl only, older, newer⟩

/-- A callback gives its own buffer back. -/
theorem Handles.giveBack (handles : Handles generator) {buffer : OutputBuffer}
    (only : generator.outstanding = [buffer])
    (newer : ∀ held ∈ generator.heldBuffer, held.delivery < buffer.delivery)
    {callback : Option Underway} (ends : callback = none ∨ callback = some .pausing) :
    Handles { generator.release buffer.index generator.heldBuffer with callback } := by
  have other : generator.heldBuffer ≠ some buffer := by
    intro held
    exact absurd (newer buffer held) (Nat.lt_irrefl _)
  have fields := release_fields buffer.index generator.heldBuffer generator
  obtain ⟨once, nothing⟩ := handles.toReleasesOnce.releaseOnly only other
  refine ⟨⟨once.sound, once.clean⟩, ?_, ?_, ?_⟩
  · rcases ends with rfl | rfl
    · exact nothing
    · exact .inl nothing
  · have held : ({ generator.release buffer.index generator.heldBuffer with callback } :
        Generator).heldBuffer = generator.heldBuffer := heldBuffer_congr fields.2.1
    have deliveries : ({ generator.release buffer.index generator.heldBuffer with callback } :
        Generator).deliveries = generator.deliveries := fields.2.2.2
    rw [held, deliveries]
    exact handles.older
  · rcases ends with rfl | rfl <;> trivial

theorem Handles.takes (handles : Handles generator) (orderly : generator.Orderly .takes) :
    Handles generator.takes := by
  have single := handles.single
  have newer := handles.newer
  unfold Single at single
  unfold Newer at newer
  unfold Generator.takes
  simp only [Orderly] at orderly
  cases callback : generator.callback with
  | none => exact handles
  | some under =>
    rw [callback] at single newer orderly
    cases under with
    | unwanted buffer => exact handles.giveBack single newer.2 (.inl rfl)
    | candidate buffer => exact single.elim
    | pausing => exact handles
    | fetched buffer isClosest =>
      have took : Handles { generator.take buffer with callback := some .pausing } := by
        refine ⟨⟨handles.sound, handles.clean⟩, ?_, ?_, trivial⟩
        · rcases single with only | ⟨nothing, -⟩
          · exact .inr ⟨buffer, only, rfl⟩
          · exact .inl nothing
        · intro held member
          cases member
          exact newer.1
      simp only [takeFetched]
      cases isClosest with
      | false => exact took
      | true =>
        cases candidate : generator.avBuffer with
        | none => exact took
        | some held =>
          simp only
          have only : generator.outstanding = [buffer] := by
            rcases single with only | ⟨-, without⟩
            · exact only
            · rw [without rfl] at candidate
              cases candidate
          split
          · rename_i near
            simp only [Bool.and_eq_true, decide_eq_true_eq, Bool.not_eq_true'] at near
            have far := orderly near.2 held candidate
            omega
          · exact handles.giveBack only newer.2 (.inr rfl)

theorem Handles.reply (handles : Handles generator) (call : FetchCall) (ended : Ended) (made : Bool)
    (returned : Returned) : Handles (generator.reply call ended made returned) :=
  handles.congr rfl rfl rfl rfl rfl rfl rfl

theorem Handles.initDecoder (handles : Handles generator) (kept : generator.givesBack = false)
    (created started : Bool) : Handles (generator.initDecoder created started).1 := by
  unfold Generator.initDecoder
  cases decoder : generator.decoder with
  | some _ => exact handles
  | none =>
    cases created with
    | false => exact handles
    | true => exact handles.empty ⟨handles.sound, handles.clean⟩ rfl rfl rfl rfl kept

theorem Handles.fetch (handles : Handles generator) (free : generator.callback = none)
    (call : FetchCall) (timeUs : Int) (option : SeekMode) (answers : Answers) :
    Handles (generator.fetch call timeUs option answers) := by
  have nothing : generator.outstanding = [] := by
    have single := handles.single
    rwa [Single, free] at single
  have reset : Handles (generator.resetParamsBeforeFetchFrame call timeUs option) := by
    have clean : generator.carried ++ generator.outstanding = [] := by
      rw [handles.clean, nothing, List.append_nil]
    have started : ∀ other : Generator, other.releases = generator.releases →
        other.callback = generator.callback → other.carried = [] →
        other.outstanding = generator.outstanding → other.avBuffer = none → Handles other := by
      intro other releases callback clean outstanding avBuffer
      refine ⟨⟨?_, clean⟩, ?_, ?_, ?_⟩
      · rw [releases]
        exact handles.sound
      · rw [Single, callback, free]
        exact outstanding.trans nothing
      · simp [heldBuffer, avBuffer]
      · rw [Newer, callback, free]
        trivial
    unfold resetParamsBeforeFetchFrame
    split
    · exact started _ rfl rfl clean rfl rfl
    · exact started _ rfl rfl clean rfl rfl
  have kept : (generator.resetParamsBeforeFetchFrame call timeUs option).givesBack = false := by
    unfold resetParamsBeforeFetchFrame
    split <;> simp [givesBack, free]
  unfold Generator.fetch
  generalize generator.resetParamsBeforeFetchFrame call timeUs option = start at reset kept
  generalize seekToTime generator.mpegTs option answers.first answers.second = sought
  have seeking : Handles { start with seekMode := sought.2 } :=
    reset.congr rfl rfl rfl rfl rfl rfl rfl
  have ready := seeking.initDecoder kept answers.created answers.started
  simp only
  split
  · exact reset.reply _ _ _ _
  split
  · exact seeking.reply _ _ _ _
  split
  · exact seeking.reply _ _ _ _
  split
  · exact seeking.reply _ _ _ _
  · split
    · exact ready.reply _ _ _ _
    · exact ready.congr rfl rfl rfl rfl rfl rfl rfl

theorem Handles.switchToSoftWareDecoder (handles : Handles generator) (resources : Resources)
    (kept : resources.hardware = true → generator.givesBack = false) :
    Handles (generator.switchToSoftWareDecoder resources) := by
  unfold Generator.switchToSoftWareDecoder
  cases decoder : generator.decoder with
  | none => exact handles
  | some outstanding =>
    simp only
    split
    · exact handles
    rename_i hardware
    have kept := kept (by simpa using hardware)
    have released : Handles { generator with decoder := none } :=
      handles.empty ⟨handles.sound, handles.clean⟩ rfl rfl rfl rfl kept
    split
    · exact released
    split
    · exact released.congr rfl rfl rfl rfl rfl rfl rfl
    · refine Handles.initDecoder ?_ ?_ _ _
      · exact released.congr rfl rfl rfl rfl rfl rfl rfl
      · exact kept

theorem Handles.endAtTime (handles : Handles generator) {res : Bool} (resources : Resources)
    (orderly : if res = true ∧ generator.readErrorFlag = false ∧ generator.stopProcessing = false
      then generator.unflushed = true else generator.givesBack = false) :
    Handles (generator.endAtTime res resources) := by
  unfold Generator.endAtTime
  split
  · rename_i timedOut
    rw [if_neg (by simp [show res = false by simpa using timedOut])] at orderly
    exact (handles.pauseFetchFrame orderly).reply _ _ _ _
  · split
    · rename_i failed
      rw [if_neg (by
        rintro ⟨-, read, running⟩
        simp [read, running] at failed)] at orderly
      exact (handles.pauseFetchFrame orderly).reply _ _ _ _
    · rename_i woken running
      simp only [Bool.or_eq_true, not_or, Bool.not_eq_true] at running
      rw [if_pos ⟨by simpa using woken, running⟩] at orderly
      have converted : ∃ shared, (generator.convertToAVSharedMemory resources).1 =
          { generator with fetchedFrameAtTime := shared } := by
        unfold convertToAVSharedMemory
        split
        · exact ⟨generator.fetchedFrameAtTime, rfl⟩
        · split_ifs <;> exact ⟨_, rfl⟩
      obtain ⟨shared, same⟩ := converted
      simp only [same]
      refine Handles.reply ?_ _ _ _ _
      exact ((handles.congr rfl rfl rfl rfl rfl rfl rfl : Handles
        { generator with fetchedFrameAtTime := shared }).releaseHeld orderly).1

/-- The copy that takes the place of the frame is no buffer of the decoder. -/
theorem Handles.copied (handles : Handles generator) (resources : Resources) :
    Handles { generator with avBuffer := generator.generateAlignmentAvBuffer resources } := by
  have unheld : ({ generator with
      avBuffer := generator.generateAlignmentAvBuffer resources } : Generator).heldBuffer =
        none := by
    unfold heldBuffer generateAlignmentAvBuffer
    cases generator.avBuffer with
    | none => rfl
    | some held =>
      simp only
      split_ifs <;> rfl
  refine ⟨⟨handles.sound, handles.clean⟩, ?_, ?_, ?_⟩
  · have single := handles.single
    unfold Single at single ⊢
    simp only
    split
    · rename_i free
      rwa [free] at single
    · rename_i under
      rwa [under] at single
    · rename_i under
      rwa [under] at single
    · rename_i under
      rw [under] at single
      refine single.imp id fun ⟨nothing, without⟩ => ⟨nothing, fun closest => ?_⟩
      simp [generateAlignmentAvBuffer, without closest]
    · rename_i under
      rwa [under] at single
  · rw [unheld]
    simp
  · have newer := handles.newer
    unfold Newer at newer ⊢
    rw [unheld]
    simp only
    split
    · rename_i under
      rw [under] at newer
      exact ⟨newer.1, by simp⟩
    · rename_i under
      rw [under] at newer
      exact ⟨newer.1, by simp⟩
    · rename_i under
      rw [under] at newer
      exact ⟨newer.1, by simp⟩
    · trivial
    · trivial

theorem Handles.endYuv (handles : Handles generator) {call : FetchCall} {res : Bool}
    (resources : Resources)
    (orderly : res = false ∨ generator.readErrorFlag = true ∨ generator.stopProcessing = true →
      generator.decoder = none ∨
        (call = .fetchFrameYuvWithTimeout ∧ res = false ∧ generator.unflushed = true)) :
    Handles (generator.endYuv call res resources) := by
  have without : generator.decoder = none → ∀ kept,
      Handles (generator.handleFetchFrameYuvFailed kept) := by
    intro none kept
    rw [handleFetchFrameYuvFailed, none]
    exact handles
  unfold Generator.endYuv
  split
  · rename_i timedOut
    have timedOut : res = false := by simpa using timedOut
    split
    · refine Handles.reply ?_ _ _ _ _
      rcases orderly (.inl timedOut) with none | ⟨-, -, unflushed⟩
      · exact without none _
      obtain ⟨released, kept⟩ := handles.releaseHeld unflushed
      unfold handleFetchFrameYuvFailed
      split
      · exact handles
      · exact released.pauseFetchFrame kept
    · rename_i other
      refine Handles.reply ?_ _ _ _ _
      rcases orderly (.inl timedOut) with none | ⟨same, -⟩
      · exact without none _
      · exact absurd same other
  · rename_i woken
    split
    · rename_i failed
      refine Handles.reply ?_ _ _ _ _
      rcases orderly (.inr (by simpa using failed)) with none | ⟨-, timedOut, -⟩
      · exact without none _
      · rw [timedOut] at woken
        exact absurd rfl woken
    · exact (handles.copied resources).reply _ _ _ _

theorem Handles.next (handles : Handles generator) {event : Event}
    (orderly : generator.Orderly event) : Handles (generator.next event) := by
  cases event with
  | fetch call timeUs option answers =>
    simp only [Generator.next]
    split
    · rename_i idle
      exact handles.fetch (orderly idle) call timeUs option answers
    · exact handles
  | waitEnds =>
    simp only [Generator.next]
    split
    · exact handles.congr rfl rfl rfl rfl rfl rfl rfl
    · exact handles
  | goesOn resources =>
    simp only [Generator.next, Generator.goesOn]
    split
    · rename_i call again res caller
      simp only [Orderly, caller] at orderly
      split
      · rename_i atTime
        rw [if_pos atTime] at orderly
        exact handles.endAtTime resources orderly
      · rename_i yuv
        rw [if_neg yuv] at orderly
        split
        · rename_i changes
          rw [if_pos changes] at orderly
          have running : Handles { generator with stopProcessing := false } :=
            handles.congr rfl rfl rfl rfl rfl rfl rfl
          exact (running.switchToSoftWareDecoder resources orderly).congr rfl rfl rfl rfl rfl rfl
            rfl
        · rename_i last
          rw [if_neg last] at orderly
          exact handles.endYuv resources orderly
    · exact handles
  | output buffer => exact handles.output orderly
  | takes => exact handles.takes orderly
  | pauses =>
    simp only [Generator.next, Generator.pauses]
    split
    · exact ⟨⟨handles.sound, handles.clean⟩, generator.pauseFetchFrame_outstanding, handles.older,
        trivial⟩
    · exact handles
  | readError => exact handles.congr rfl rfl rfl rfl rfl rfl rfl
  | error unsupported =>
    simp only [Generator.next, onError]
    split
    · split
      · exact handles
      · exact handles.congr rfl rfl rfl rfl rfl rfl rfl
    · exact handles.congr rfl rfl rfl rfl rfl rfl rfl

/-- In every run of such steps a buffer is released while it is handed out and no longer kept, and
none is left to the next request. -/
theorem releasesOnce_along (mpegTs : Bool) (events : List Event)
    (along : Along next Orderly { mpegTs } events) (count : Nat) :
    ReleasesOnce (run next { mpegTs } (events.take count)) := by
  have initially : Handles { mpegTs } := ⟨⟨by simp, rfl⟩, rfl, by simp [heldBuffer], trivial⟩
  exact (invariant_of_along Handles (fun _ _ handles orderly => handles.next orderly)
    (along.take count) initially).toReleasesOnce

end

/-- Two frames, the first copied after its callback, the second before the callback pauses. -/
def twoFrames : List Event :=
  [.fetch .fetchFrameYuv 0 .previousSync {}, .output { index := 3, pts := 0 }, .takes, .pauses,
    .waitEnds, .goesOn {}, .fetch .fetchFrameAtTime 40 .closest {},
    .output { index := 3, pts := 40 }, .takes, .waitEnds, .goesOn {}, .pauses]

theorem releasesOnce_twoFrames : ReleasesOnce (run next { mpegTs := false } (twoFrames.take 12)) :=
  releasesOnce_along false twoFrames (by decide +kernel) 12

/-- A call that times out without a frame releases an index that was never handed out; so does a
call that converts its frame after the callback has flushed the decoder, one that is woken
before the callback has taken its frame, and a callback that gives a late frame back after the
caller has flushed. -/
theorem released_without_buffer :
    (run next {} [.fetch .fetchFrameYuv 0 .previousSync {}, .waitEnds, .goesOn {}]).releases =
      [{ index := 0, found := none, kept := none }] ∧
    (run next {} [.fetch .fetchFrameAtTime 0 .previousSync {}, .output { index := 3, pts := 0 },
        .takes, .pauses, .waitEnds, .goesOn {}]).releases =
      [{ index := 3, found := none, kept := none }] ∧
    (run next {} [.fetch .fetchFrameAtTime 0 .previousSync {}, .output { index := 3, pts := 0 },
        .waitEnds, .goesOn {}]).releases = [{ index := 0, found := none, kept := none }] ∧
    (run next {} [.fetch .fetchFrameAtTime 0 .previousSync {},
        .output { index := 3, pts := 0, memory := false }, .waitEnds, .goesOn {},
        .takes]).releases = [{ index := 3, found := none, kept := none }] ∧
    ¬∀ events, ReleasesOnce (run next {} events) := by
  refine ⟨by decide +kernel, by decide +kernel, by decide +kernel, by decide +kernel,
    fun always => ?_⟩
  have releases : (run next {} [.fetch .fetchFrameYuv 0 .previousSync {}, .waitEnds,
      .goesOn {}]).releases = [{ index := 0, found := none, kept := none }] := by decide +kernel
  obtain ⟨buffer, found, -⟩ := (always _).sound _ (releases ▸ List.mem_singleton_self _)
  cases found

end Generator

end PlayerFramework.Thumbnail
