import PlayerFramework.ScreenCapture.AudioAccounting
import PlayerFramework.ScreenCapture.AudioAlignment
import Mathlib.Algebra.Group.Int.Defs
import Mathlib.Algebra.Group.Nat.Defs

/-!
The recorder asks for the size of the next output (`GetSize`) and reads that many bytes
(`ReadAt`).  Both decide on their own whether the output is silence or the cached frame, and agree
as long as no call comes between them that changes what they decide by.
-/

namespace PlayerFramework.ScreenCapture

open Transition AudioDataSourceGeneric

/-- What a `ReadAt` that returned `OK` was asked for, and what it wrote. -/
structure SizedRead where
  announced : Int
  requested : Nat
  addr : Bool
  emission : Emission
deriving DecidableEq

namespace SizedRead

/-- The bytes copied out of the cached frame. -/
def copied (read : SizedRead) : Nat :=
  match read.emission with
  | .frame _ length _ => length
  | .muted _ _ _ | .silence _ _ => 0

def available (read : SizedRead) : Nat :=
  match read.emission with
  | .frame cached _ _ => cached.length
  | .muted _ _ _ | .silence _ _ => 0

/-- The bytes of the destination that were written. -/
def defined (read : SizedRead) : Int :=
  match read.emission with
  | .frame _ length _ => if read.addr then length else 0
  | .muted _ bytes _ | .silence _ bytes => bytes

/-- No byte is copied from beyond the frame or written beyond the request, and the announced
ones are all defined. -/
def Exact (read : SizedRead) : Prop :=
  read.copied ≤ read.available ∧ read.defined ≤ read.requested ∧ read.defined = read.announced

end SizedRead

/-- A data source with the size announced last, until a `ReadAt` has returned `OK`. -/
structure SizedPipe where
  pipe : AudioPipe
  announced : Option Int := none
  reads : List SizedRead := []

inductive SizedEvent where
  | getSize
  | readAt (buffer : AVBuffer)
  | other (event : PipeEvent)
deriving DecidableEq

namespace SizedPipe

/-- The size as the unsigned 32-bit length of `ReadAt`. -/
def request (size : Int) : Nat := size.toNat % 2 ^ 32

def getSize (sized : SizedPipe) : SizedPipe :=
  if sized.pipe.reading.isSome then sized
  else
    { sized with
      pipe := sized.pipe.next (.call .getSize), announced := sized.pipe.source.getSize.1 }

def readAt (buffer : AVBuffer) (sized : SizedPipe) : SizedPipe :=
  match sized.announced with
  | none => sized
  | some size =>
    if sized.pipe.reading.isSome then sized
    else
      let after := sized.pipe.next (.call (.readAt buffer (request size)))
      match (after.emitted.drop sized.pipe.emitted.length).head? with
      | none => { sized with pipe := after }
      | some emission =>
        { pipe := after
          announced := none
          reads := sized.reads ++
            [{ announced := size, requested := request size, addr := buffer.addr, emission }] }

/-- The calls of the recorder are events of their own. -/
def other (event : PipeEvent) (sized : SizedPipe) : SizedPipe :=
  match event with
  | .call .getSize => sized
  | .call (.readAt _ _) => sized
  | event => { sized with pipe := sized.pipe.next event }

def next (sized : SizedPipe) (event : SizedEvent) : SizedPipe :=
  match event with
  | .getSize => sized.getSize
  | .readAt buffer => sized.readAt buffer
  | .other event => sized.other event

def create (policy : AudioCombinePolicy) (recorderFileWithVideo : Bool) : SizedPipe where
  pipe := AudioPipe.create policy recorderFileWithVideo

def AllExact (sized : SizedPipe) : Prop := ∀ read ∈ sized.reads, read.Exact

/-- Between a size that is announced and the `ReadAt` that returns it comes no new video frame and
no format with another silence; the size is one that `ReadAt` can take, and memory has an
address. -/
def Undisturbed (sized : SizedPipe) (event : SizedEvent) : Prop :=
  match event with
  | .readAt buffer =>
    (buffer.memory = true → buffer.addr = true) ∧ ∀ size ∈ sized.announced, 0 ≤ size ∧ size < 2 ^ 32
  | .other (.call (.setVideoFirstFramePts _)) => sized.announced = none
  | .other (.call (.setOutputFormat sampleRate channels)) =>
    sized.announced ≠ none →
      (sized.pipe.source.setOutputFormat sampleRate channels).silentFrameSize =
        sized.pipe.source.silentFrameSize
  | _ => True

instance (sized : SizedPipe) (event : SizedEvent) : Decidable (Undisturbed sized event) := by
  unfold Undisturbed
  split <;> infer_instance

/-- What `GetSize` and `ReadAt` decide for a cached frame. -/
def outputSize (cached : CacheBuffer) (source : AudioDataSourceGeneric) : Int :=
  let lostNum := (source.lostFrameNum cached.timestamp).1
  if 0 < lostNum then lostNum * source.silentFrameSize else cached.length

/-- What was announced is what `ReadAt` will decide. -/
structure Agreed (sized : SizedPipe) : Prop where
  announced : ∀ size, sized.announced = some size → sized.pipe.reading = none ∧
    ∃ cached, sized.pipe.source.cacheBuffer = some cached ∧
      outputSize cached sized.pipe.source = size
  exact : sized.AllExact

variable {sized : SizedPipe} {pipe after : AudioPipe} {source other : AudioDataSourceGeneric}
  {cached : CacheBuffer} {size : Int}

section Decision

/-- The decision is kept in `remainingSilentFrames_`, so that a second call comes to the same. -/
theorem lostFrameNum_again (timestamp : Int) (source : AudioDataSourceGeneric) :
    ((source.lostFrameNum timestamp).2.lostFrameNum timestamp).1 =
      (source.lostFrameNum timestamp).1 := by
  by_cases remaining : source.remainingSilentFrames > 0
  · simp only [lostFrameNum, if_pos remaining]
  by_cases guarded : source.firstVideoFramePts < 0 ∨ timestamp < 0 ∨ source.pauseDuration < 0 ∨
      source.writedFrameTime < 0
  · simp only [lostFrameNum, if_neg remaining, if_pos guarded]
  by_cases lost : (timestamp - source.pauseDuration - source.writedFrameTime -
      source.firstVideoFramePts).tdiv audioIntervalInNs ≥ frameLossThreshold ∧
      source.silentFrameSize > 0
  · have some := lost.1
    simp only [frameLossThreshold] at some
    simp only [lostFrameNum, if_neg remaining, if_neg guarded, if_pos lost]
    rw [if_pos (by omega)]
  · simp only [lostFrameNum, if_neg remaining, if_neg guarded, if_neg lost]

theorem outputSize_congr (remaining : other.remainingSilentFrames = source.remainingSilentFrames)
    (first : other.firstVideoFramePts = source.firstVideoFramePts)
    (pause : other.pauseDuration = source.pauseDuration)
    (written : other.writedFrameTime = source.writedFrameTime)
    (silent : other.silentFrameSize = source.silentFrameSize) :
    outputSize cached other = outputSize cached source := by
  have same : (other.lostFrameNum cached.timestamp).1 =
      (source.lostFrameNum cached.timestamp).1 := by
    simp only [lostFrameNum, remaining, first, pause, written, silent]
    split_ifs <;> rfl
  rw [outputSize, outputSize, same, silent]

/-- `ReadAt` would decide what `GetSize` has announced. -/
theorem outputSize_getSize (answered : source.getSize.1 = some size) :
    ∃ cached, source.getSize.2.cacheBuffer = some cached ∧
      outputSize cached source.getSize.2 = size := by
  unfold AudioDataSourceGeneric.getSize at answered ⊢
  cases holds : source.cacheBuffer with
  | none => simp [holds] at answered
  | some cached =>
    simp only [holds] at answered ⊢
    split at answered
    · cases answered
    rename_i settled
    have again := lostFrameNum_again cached.timestamp source
    obtain ⟨left, counted⟩ := AudioPipe.lostFrameNum_frame cached.timestamp source
    rw [if_neg settled]
    refine ⟨cached, ?_, ?_⟩
    · split <;> simp [counted, holds]
    split at answered
    · rename_i lost
      rw [if_pos lost, outputSize, again, if_pos lost]
      exact Option.some.inj answered
    · rename_i found
      rw [if_neg found, outputSize, again, if_neg found]
      exact Option.some.inj answered

end Decision

section Answer

/-- What `ReadAt` writes where it does not skip. -/
def answer (buffer : AVBuffer) (length : Nat) (cached : CacheBuffer) (pipe : AudioPipe) :
    Emission :=
  let lostNum := (pipe.source.lostFrameNum cached.timestamp).1
  if lostNum > 0 then
    .silence lostNum (AudioPipe.fillSilence buffer (lostNum * pipe.source.silentFrameSize))
  else AudioPipe.writeTo buffer length cached pipe.origin

variable (buffer : AVBuffer)

theorem readAt_answers (length : Nat) (holds : pipe.source.cacheBuffer = some cached)
    (settled : pipe.source.pauseDurationPending = false) (memory : buffer.memory = true) :
    (pipe.readAt buffer length).emitted = pipe.emitted ++ [answer buffer length cached pipe] := by
  obtain ⟨left, counted⟩ := AudioPipe.lostFrameNum_frame cached.timestamp pipe.source
  simp only [AudioPipe.readAt, holds, settled, memory, answer, counted, Bool.not_true,
    Bool.false_eq_true, or_self, if_false]
  split
  · rfl
  · rw [AudioPipe.emitted_readAudioBuffer]

theorem readAt_skips (length : Nat) (holds : pipe.source.cacheBuffer = some cached)
    (skips : pipe.source.pauseDurationPending = true ∨ buffer.memory = false) :
    pipe.readAt buffer length = pipe := by
  unfold AudioPipe.readAt
  rw [holds]
  exact if_pos (by simpa using skips)

theorem exact_answer (addr : buffer.addr = true)
    (range : 0 ≤ outputSize cached pipe.source ∧ outputSize cached pipe.source < 2 ^ 32) :
    (SizedRead.mk (outputSize cached pipe.source) (request (outputSize cached pipe.source)) true
      (answer buffer (request (outputSize cached pipe.source)) cached pipe)).Exact := by
  have requested : (request (outputSize cached pipe.source) : Int) =
      outputSize cached pipe.source := by
    unfold request
    omega
  generalize length_eq : request (outputSize cached pipe.source) = length at requested ⊢
  unfold answer
  dsimp only
  split
  · rename_i lost
    have size : outputSize cached pipe.source =
        (pipe.source.lostFrameNum cached.timestamp).1 * pipe.source.silentFrameSize := if_pos lost
    rw [← size]
    have filled := AudioPipe.fillSilence_addr buffer addr range.1
    simp [SizedRead.Exact, SizedRead.copied, SizedRead.available, SizedRead.defined, filled,
      requested]
  · rename_i found
    have size : outputSize cached pipe.source = cached.length := if_neg found
    have filled := AudioPipe.fillSilence_addr buffer addr (Int.natCast_nonneg length)
    unfold AudioPipe.writeTo
    split
    · simp only [SizedRead.Exact, SizedRead.copied, SizedRead.available, SizedRead.defined, if_true]
      omega
    · simp [SizedRead.Exact, SizedRead.copied, SizedRead.available, SizedRead.defined, filled,
        ← requested]

end Answer

/-- A call that comes between `GetSize` and `ReadAt` leaves the decision alone. -/
theorem outputSize_call (call : SourceCall) (holds : pipe.source.cacheBuffer = some cached)
    (asks : ∀ buffer length, call ≠ .readAt buffer length) (sizes : call ≠ .getSize)
    (video : ∀ firstFramePts, call ≠ .setVideoFirstFramePts firstFramePts)
    (format : ∀ sampleRate channels, call = .setOutputFormat sampleRate channels →
      (pipe.source.setOutputFormat sampleRate channels).silentFrameSize =
        pipe.source.silentFrameSize) :
    (pipe.handleCall call).reading = pipe.reading ∧
      (pipe.handleCall call).source.cacheBuffer = some cached ∧
      outputSize cached (pipe.handleCall call).source = outputSize cached pipe.source := by
  cases call with
  | setCapture _ _ | pause | resume =>
    exact ⟨rfl, holds, outputSize_congr rfl rfl rfl rfl rfl⟩
  | setOutputFormat sampleRate channels =>
    have silent := format sampleRate channels rfl
    refine ⟨rfl, ?_⟩
    simp only [AudioPipe.handleCall, setOutputFormat] at silent ⊢
    split at silent
    · rename_i positive
      rw [if_pos positive]
      exact ⟨holds, outputSize_congr rfl rfl rfl rfl silent⟩
    · rename_i refused
      rw [if_neg refused]
      exact ⟨holds, rfl⟩
  | setVideoFirstFramePts firstFramePts => exact absurd rfl (video firstFramePts)
  | bufferAvailable =>
    have full : pipe.handleCall .bufferAvailable = pipe := if_pos (.inr (by simp [holds]))
    rw [full]
    exact ⟨rfl, holds, rfl⟩
  | readAt buffer length => exact absurd rfl (asks buffer length)
  | getSize => exact absurd rfl sizes

theorem agreed_other (event : PipeEvent) (agreed : Agreed sized)
    (undisturbed : Undisturbed sized (.other event)) : Agreed (sized.other event) := by
  unfold SizedPipe.other
  split
  · exact agreed
  · exact agreed
  rename_i sizes asks
  cases event with
  | startCapturer _ | stopCapturer _ | readData _ _ =>
    exact ⟨agreed.announced, agreed.exact⟩
  | stop =>
    refine ⟨?_, agreed.exact⟩
    intro size announced
    obtain ⟨idle, cached, holds, same⟩ := agreed.announced size announced
    refine ⟨idle, cached, holds, Eq.trans ?_ same⟩
    exact outputSize_congr rfl rfl rfl rfl rfl
  | proceed =>
    refine ⟨?_, agreed.exact⟩
    intro size announced
    obtain ⟨idle, found⟩ := agreed.announced size announced
    have still : sized.pipe.proceed = sized.pipe := by
      unfold AudioPipe.proceed
      rw [idle]
    simp only [AudioPipe.next, still]
    exact ⟨idle, found⟩
  | call call =>
    simp only [AudioPipe.next]
    split
    · exact ⟨agreed.announced, agreed.exact⟩
    refine ⟨?_, agreed.exact⟩
    intro size announced
    obtain ⟨free, cached, holds, same⟩ := agreed.announced size announced
    have kept := outputSize_call call holds ?_ ?_ ?_ ?_
    · exact ⟨kept.1.trans free, cached, kept.2.1, kept.2.2.trans same⟩
    · rintro buffer length rfl
      exact asks buffer length rfl
    · rintro rfl
      exact sizes rfl
    · rintro firstFramePts rfl
      have none : sized.announced = none := undisturbed
      rw [none] at announced
      cases announced
    · rintro sampleRate channels rfl
      have pending : sized.announced = some size := announced
      exact undisturbed (by simp [pending])

theorem agreed_getSize (agreed : Agreed sized) : Agreed sized.getSize := by
  unfold SizedPipe.getSize
  split
  · exact agreed
  rename_i idle
  have stepped : sized.pipe.next (.call .getSize) = sized.pipe.handleCall .getSize := if_neg idle
  rw [stepped]
  have free : sized.pipe.reading = none := by simpa using idle
  exact ⟨fun size answered => ⟨free, outputSize_getSize answered⟩, agreed.exact⟩

theorem agreed_readAt (buffer : AVBuffer) (agreed : Agreed sized)
    (undisturbed : Undisturbed sized (.readAt buffer)) : Agreed (sized.readAt buffer) := by
  unfold SizedPipe.readAt
  split
  · exact agreed
  rename_i size announced
  obtain ⟨idle, cached, holds, same⟩ := agreed.announced size announced
  have free : ¬ sized.pipe.reading.isSome = true := by simp [idle]
  have stepped : sized.pipe.next (.call (.readAt buffer (request size))) =
      sized.pipe.readAt buffer (request size) := if_neg free
  rw [if_neg free]
  dsimp only
  rw [stepped]
  by_cases skips : sized.pipe.source.pauseDurationPending = true ∨ buffer.memory = false
  · rw [readAt_skips buffer _ holds skips, List.drop_length]
    exact ⟨agreed.announced, agreed.exact⟩
  simp only [not_or, Bool.not_eq_true, Bool.not_eq_false] at skips
  rw [readAt_answers buffer _ holds skips.1 skips.2, List.drop_left]
  refine ⟨nofun, ?_⟩
  intro read member
  rcases List.mem_append.mp member with earlier | now
  · exact agreed.exact read earlier
  have addr := undisturbed.1 skips.2
  have range := undisturbed.2 size announced
  rw [← same] at range
  rw [List.mem_singleton.mp now, addr, ← same]
  exact exact_answer buffer addr range

theorem agreed_next (event : SizedEvent) (agreed : Agreed sized)
    (undisturbed : Undisturbed sized event) : Agreed (sized.next event) := by
  cases event with
  | getSize => exact agreed_getSize agreed
  | readAt buffer => exact agreed_readAt buffer agreed undisturbed
  | other event => exact agreed_other event agreed undisturbed

theorem agreed_create (policy : AudioCombinePolicy) (recorderFileWithVideo : Bool) :
    Agreed (create policy recorderFileWithVideo) where
  announced := nofun
  exact := nofun

/-- The announced and the delivered sizes agree all along a run in which no call comes between
that changes the decision. -/
theorem sizes_agree (policy : AudioCombinePolicy) (recorderFileWithVideo : Bool)
    (events : List SizedEvent)
    (undisturbed : Along next Undisturbed (create policy recorderFileWithVideo) events) :
    AllExact (run next (create policy recorderFileWithVideo) events) :=
  (invariant_of_along Agreed (fun _ event agreed quiet => agreed_next event agreed quiet)
    undisturbed (agreed_create policy recorderFileWithVideo)).exact

/-- Of a hole of ten silent frames the first five are announced, and are read after a notification
and a call of `SetCapture`. -/
theorem silence_read_as_announced : AllExact (run next (create .passthrough true)
      ((AudioPipe.microphone 48000 2 ++ AudioPipe.captures 200000000).map .other ++
        [SizedEvent.getSize, .other (.call .bufferAvailable),
          .other (.call (.setCapture .mic true)),
          .readAt {}])) :=
  sizes_agree .passthrough true _ (by decide +kernel)

/-- Five silent frames are announced, then the recording is paused and goes on: of a frame of
3840 bytes 19200 are copied. -/
theorem frame_overread :
    let events := (AudioPipe.microphone 48000 2 ++ AudioPipe.captures 200000000).map .other ++
      [SizedEvent.getSize, .other (.call .pause), .other (.call .resume),
        .other (.call (.setVideoFirstFramePts 200000000)), .readAt {}]
    ¬ AllExact (run next (create .passthrough true) events) ∧
      (run next (create .passthrough true) events).reads.map (fun read =>
        (read.announced, read.available, read.copied)) = [(19200, 3840, 19200)] := by
  intro events
  have reads : (run next (create .passthrough true) events).reads.map (fun read =>
      (read.announced, read.available, read.copied)) = [(19200, 3840, 19200)] := by decide +kernel
  refine ⟨?_, reads⟩
  intro exact
  obtain ⟨read, member, same⟩ := List.exists_of_mem_map (reads ▸ List.mem_singleton_self _)
  simp only [Prod.mk.injEq] at same
  have copied := (exact read member).1
  omega

end SizedPipe

end PlayerFramework.ScreenCapture
