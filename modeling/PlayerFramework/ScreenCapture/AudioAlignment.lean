import PlayerFramework.ScreenCapture.AudioDataSource

/-!
Screen recordings keep their audio aligned with the video: the data source fills what is
missing before a captured frame with silence.
-/

namespace PlayerFramework.ScreenCapture

/-- The frame that is written or muted. -/
def Emission.buffer : Emission → Option CacheBuffer
  | .frame buffer _ _ | .muted buffer _ _ => some buffer
  | .silence _ _ => none

namespace AudioPipe

open Transition AudioDataSourceGeneric

variable {pipe : AudioPipe}

/-- How far a frame with this timestamp is behind what was written. -/
def gap (source : AudioDataSourceGeneric) (timestamp : Int) : Int :=
  timestamp - source.pauseDuration - source.firstVideoFramePts - source.writedFrameTime

/-- The step writes a captured frame, or the silence in its place. -/
def Emits (before after : AudioPipe) (buffer : CacheBuffer) : Prop :=
  ∃ emission, emission.buffer = some buffer ∧ after.emitted = before.emitted ++ [emission]

def Fills (before after : AudioPipe) (lostNum bytes : Int) : Prop :=
  after.emitted = before.emitted ++ [.silence lostNum bytes]

/-- The step writes silence in place of a muted frame. -/
def Mutes (before after : AudioPipe) (buffer : CacheBuffer) (bytes : Int) : Prop :=
  ∃ origin, after.emitted = before.emitted ++ [.muted buffer bytes origin]

/-- The interval of a frame is exactly what its bytes last in the format. -/
def LastsInterval (sampleRate channels : Int) (buffer : CacheBuffer) : Prop :=
  buffer.length * secToNs = buffer.intervalNs * (sampleRate * channels * 2)

def clock (pipe : AudioPipe) : Int × Int × Int × Option (Int × Int) :=
  (pipe.source.writedFrameTime, pipe.source.remainingSilentFrames, pipe.source.silentFrameSize,
    pipe.outputFormat)

/-- The time and the silent frames to go are counted up from zero, and a silent frame has
the size of an interval in the format. -/
structure Timed (pipe : AudioPipe) : Prop where
  written : 0 ≤ pipe.source.writedFrameTime
  remaining : 0 ≤ pipe.source.remainingSilentFrames
  silent : ∀ sampleRate channels, pipe.outputFormat = some (sampleRate, channels) →
    0 < sampleRate ∧ 0 < channels ∧
      pipe.source.silentFrameSize = sampleRate * channels * 2 * audioIntervalInNs / secToNs

theorem timed_of_clock {before after : AudioPipe} (timed : Timed before)
    (same : clock after = clock before) : Timed after := by
  simp only [clock, Prod.mk.injEq] at same
  obtain ⟨written, remaining, silent, format⟩ := same
  constructor
  · rw [written]
    exact timed.written
  · rw [remaining]
    exact timed.remaining
  · intro sampleRate channels set
    rw [silent]
    apply timed.silent
    rw [← format, set]

theorem clock_combine : clock pipe.combine = clock pipe := by
  unfold combine
  split <;> rfl

theorem clock_alignOrCombine : clock pipe.alignOrCombine = clock pipe := by
  unfold alignOrCombine
  split
  · rfl
  · split
    · rfl
    · exact clock_combine

theorem clock_videoAudioSync : clock pipe.videoAudioSync = clock pipe := by
  unfold videoAudioSync
  split
  · rfl
  · split
    · rfl
    · exact clock_alignOrCombine

theorem clock_acquireReady : clock pipe.acquireReady = clock pipe := by
  unfold acquireReady
  split
  · rfl
  split
  · exact clock_videoAudioSync
  · split
    · rfl
    · exact clock_alignOrCombine

theorem clock_readAudioBuffer : clock pipe.readAudioBuffer = clock pipe := by
  unfold readAudioBuffer
  split
  · rfl
  · split <;> rfl

theorem clock_proceed : clock pipe.proceed = clock pipe := by
  unfold proceed
  split
  case h_2 => exact clock_acquireReady
  case h_3 => split <;> rfl
  case h_4 =>
    simp only [clock, acquire]
    split <;> rfl
  case h_7 => exact clock_combine
  all_goals rfl

theorem lostFrameNum_spec (timestamp : Int) (source : AudioDataSourceGeneric)
    (remaining : 0 ≤ source.remainingSilentFrames) :
    ∃ left, (source.lostFrameNum timestamp).2 = { source with remainingSilentFrames := left } ∧
      0 ≤ left ∧ 0 ≤ (source.lostFrameNum timestamp).1 ∧
      (source.lostFrameNum timestamp).1 ≤ left := by
  unfold lostFrameNum
  split
  · refine ⟨source.remainingSilentFrames, rfl, remaining, ?_, ?_⟩
    · simp only [silentFrameChunk]
      omega
    · exact Int.min_le_left _ _
  · split
    · exact ⟨source.remainingSilentFrames, rfl, remaining, Int.le_refl 0, remaining⟩
    dsimp only
    split
    · rename_i lost
      simp only [frameLossThreshold] at lost
      refine ⟨_, rfl, ?_, ?_, Int.min_le_left _ _⟩
      · omega
      · simp only [silentFrameChunk]
        omega
    · exact ⟨source.remainingSilentFrames, rfl, remaining, Int.le_refl 0, remaining⟩

theorem gap_of_lostFrameNum (timestamp : Int) (source : AudioDataSourceGeneric)
    (nothing : (source.lostFrameNum timestamp).1 ≤ 0) (known : 0 ≤ source.firstVideoFramePts)
    (shift : 0 ≤ source.pauseDuration) (written : 0 ≤ source.writedFrameTime)
    (format : 0 < source.silentFrameSize) :
    gap source timestamp < frameLossThreshold * audioIntervalInNs := by
  unfold lostFrameNum at nothing
  split at nothing
  · simp only [silentFrameChunk] at nothing
    omega
  split at nothing
  · simp only [gap, frameLossThreshold, audioIntervalInNs]
    omega
  dsimp only at nothing
  split at nothing
  · rename_i lost
    simp only [frameLossThreshold, silentFrameChunk] at lost nothing
    omega
  · rename_i few
    simp only [format, and_true, frameLossThreshold, Int.not_le, ge_iff_le,
      audioIntervalInNs] at few
    simp only [gap, frameLossThreshold, audioIntervalInNs]
    by_contra long
    have positive : 0 ≤ timestamp - source.pauseDuration - source.writedFrameTime -
        source.firstVideoFramePts := by omega
    rw [Int.tdiv_eq_ediv_of_nonneg positive] at few
    omega

variable (buffer : AVBuffer) (length : Nat)

theorem readAt_cases (timed : Timed pipe) :
    pipe.readAt buffer length = pipe ∨
    ∃ cached left, pipe.source.cacheBuffer = some cached ∧
      (pipe.source.lostFrameNum cached.timestamp).2 =
        { pipe.source with remainingSilentFrames := left } ∧
      (pipe.source.lostFrameNum cached.timestamp).1 ≤ left ∧ 0 ≤ left ∧
      ((0 < (pipe.source.lostFrameNum cached.timestamp).1 ∧
        pipe.readAt buffer length =
          { pipe with
            source :=
              { pipe.source with
                writedFrameTime := pipe.source.writedFrameTime +
                  (pipe.source.lostFrameNum cached.timestamp).1 * audioIntervalInNs
                remainingSilentFrames :=
                  left - (pipe.source.lostFrameNum cached.timestamp).1 }
            emitted := pipe.emitted ++
              [.silence (pipe.source.lostFrameNum cached.timestamp).1
                (fillSilence buffer ((pipe.source.lostFrameNum cached.timestamp).1 *
                  pipe.source.silentFrameSize))] }) ∨
      ((pipe.source.lostFrameNum cached.timestamp).1 ≤ 0 ∧
        pipe.readAt buffer length =
          readAudioBuffer
            { pipe with
              source :=
                { pipe.source with
                  cacheBuffer := none
                  remainingSilentFrames := left
                  writedFrameTime := pipe.source.writedFrameTime + cached.intervalNs }
              origin := []
              emitted := pipe.emitted ++ [writeTo buffer length cached pipe.origin] })) := by
  unfold readAt
  cases holds : pipe.source.cacheBuffer with
  | none => exact .inl rfl
  | some cached =>
    by_cases skips : pipe.source.pauseDurationPending ∨ !buffer.memory
    · left
      exact if_pos skips
    right
    obtain ⟨left, counted, positive, -, enough⟩ :=
      lostFrameNum_spec cached.timestamp pipe.source timed.remaining
    refine ⟨cached, left, rfl, counted, enough, positive, ?_⟩
    simp only [if_neg skips, counted]
    by_cases lost : 0 < (pipe.source.lostFrameNum cached.timestamp).1
    · left
      refine ⟨lost, ?_⟩
      exact if_pos lost
    · right
      refine ⟨Int.not_lt.mp lost, ?_⟩
      exact if_neg lost

theorem timed_readAt (timed : Timed pipe) : Timed (pipe.readAt buffer length) := by
  rcases readAt_cases buffer length timed with
    same | ⟨cached, left, -, -, enough, positive, ⟨lost, filled⟩ | ⟨-, written⟩⟩
  · rw [same]
    exact timed
  · rw [filled]
    constructor
    · have before := timed.written
      simp only [audioIntervalInNs]
      omega
    · dsimp only
      omega
    · exact timed.silent
  · rw [written]
    refine timed_of_clock ?_ clock_readAudioBuffer
    constructor
    · have before := timed.written
      dsimp only
      omega
    · exact positive
    · exact timed.silent

theorem timed_handleCall (call : SourceCall) (timed : Timed pipe) :
    Timed (pipe.handleCall call) := by
  cases call with
  | setCapture type capture => exact timed_of_clock timed rfl
  | setOutputFormat sampleRate channels =>
    simp only [handleCall, setOutputFormat]
    by_cases positive : 0 < sampleRate ∧ 0 < channels
    · rw [if_pos positive, if_pos positive]
      constructor
      · exact timed.written
      · exact timed.remaining
      · intro rate count set
        obtain ⟨rfl, rfl⟩ := set
        exact ⟨positive.1, positive.2, rfl⟩
    · rw [if_neg positive, if_neg positive]
      exact timed
  | setVideoFirstFramePts firstFramePts =>
    simp only [handleCall, setVideoFirstFramePts]
    split
    · exact timed_of_clock timed rfl
    · exact ⟨timed.written, Int.le_refl 0, timed.silent⟩
  | pause | resume => exact timed_of_clock timed rfl
  | bufferAvailable =>
    simp only [handleCall, onBufferAvailable]
    split
    · exact timed
    · exact timed_of_clock timed clock_readAudioBuffer
  | readAt buffer length => exact timed_readAt buffer length timed
  | getSize =>
    simp only [handleCall, getSize]
    split
    · exact timed
    rename_i cached _
    obtain ⟨left, counted, positive, -, -⟩ :=
      lostFrameNum_spec cached.timestamp pipe.source timed.remaining
    split
    · exact timed
    · have kept : Timed
          { pipe with source := { pipe.source with remainingSilentFrames := left } } :=
        ⟨timed.written, positive, timed.silent⟩
      rw [counted]
      split <;> exact kept

theorem timed_next (pipe : AudioPipe) (event : PipeEvent) (timed : Timed pipe) :
    Timed (next pipe event) := by
  cases event with
  | startCapturer type | stopCapturer type | readData type desc | stop =>
    exact timed_of_clock timed rfl
  | call call =>
    simp only [next]
    split
    · exact timed
    · exact timed_handleCall call timed
  | proceed => exact timed_of_clock timed clock_proceed

theorem timed_run (policy : AudioCombinePolicy) (recorderFileWithVideo : Bool)
    (events : List PipeEvent) :
    Timed (run next (create policy recorderFileWithVideo) events) := by
  apply invariant_of_run Timed timed_next events
  constructor
  · exact Int.le_refl 0
  · exact Int.le_refl 0
  · intro sampleRate channels set
    cases set

/-- Silent frames of a format in which an interval is a whole number of bytes last as long as
they are counted. -/
theorem silence_lasts (sampleRate channels lostNum : Int)
    (whole : (25 : Int) ∣ sampleRate * channels) :
    lostNum * audioIntervalInNs * (sampleRate * channels * 2) =
      lostNum * (sampleRate * channels * 2 * audioIntervalInNs / secToNs) * secToNs := by
  obtain ⟨samples, product⟩ := whole
  have size : sampleRate * channels * 2 * audioIntervalInNs / secToNs = samples := by
    simp only [audioIntervalInNs, secToNs]
    omega
  rw [size, product]
  calc
    lostNum * audioIntervalInNs * (25 * samples * 2) = lostNum * samples * 1000000000 := by
      simp only [audioIntervalInNs]
      rw [Int.mul_assoc lostNum, Int.mul_assoc lostNum]
      congr 1
      omega
    _ = lostNum * samples * secToNs := rfl

/-- A captured frame that holds all its samples lasts its interval when that is a whole number of
nanoseconds. -/
theorem lastsInterval_createCacheBuffer (source : AudioCaptureSourceType) (seq : Nat)
    {desc : BufferDesc} {channels : Nat} (rate : 0 < desc.audioSampleRate)
    (filled : 0 < desc.frameCount) (size : desc.bufLength = desc.frameCount * channels * 2)
    (whole : desc.audioSampleRate ∣ desc.frameCount * secToNs) :
    LastsInterval desc.audioSampleRate channels
      (AudioCapturerQueue.createCacheBuffer source seq desc) := by
  have bytes : desc.frameCount * channels * 2 * secToNs =
      desc.frameCount * secToNs / desc.audioSampleRate * (desc.audioSampleRate * channels * 2) := by
    obtain ⟨interval, product⟩ := whole
    rw [product, Nat.mul_div_cancel_left _ rate]
    calc
      _ = desc.frameCount * secToNs * (channels * 2) := by ac_rfl
      _ = _ := by
        rw [product]
        ac_rfl
  simp only [LastsInterval, AudioCapturerQueue.createCacheBuffer, size,
    if_pos (And.intro rate filled)]
  exact_mod_cast bytes

theorem emitted_readAudioBuffer : pipe.readAudioBuffer.emitted = pipe.emitted := by
  unfold readAudioBuffer
  split
  · rfl
  · split <;> rfl

theorem buffer_writeTo (cached : CacheBuffer) (origin : List Frame) :
    (writeTo buffer length cached origin).buffer = some cached := by
  unfold writeTo
  split <;> rfl

theorem writeTo_eq_muted {cached other : CacheBuffer} {bytes : Int} {origin own : List Frame}
    (muted : writeTo buffer length cached origin = .muted other bytes own) :
    cached = other ∧ bytes = fillSilence buffer length := by
  unfold writeTo at muted
  split at muted
  · cases muted
  · cases muted
    exact ⟨rfl, rfl⟩

theorem writeTo_ne_silence (cached : CacheBuffer) (origin : List Frame) (lostNum bytes : Int) :
    writeTo buffer length cached origin ≠ .silence lostNum bytes := by
  unfold writeTo
  split <;> simp

theorem fillSilence_addr {size : Int} (addr : buffer.addr = true) (positive : 0 ≤ size) :
    fillSilence buffer size = size := by
  unfold fillSilence
  split
  · rfl
  · rename_i refused
    have nothing : ¬ 0 < size := fun some => refused ⟨addr, some⟩
    omega

theorem emits_aligned (cached : CacheBuffer) (timed : Timed pipe)
    (silent : 0 < pipe.source.silentFrameSize) (known : 0 ≤ pipe.source.firstVideoFramePts)
    (emits : Emits pipe (pipe.readAt buffer length) cached)
    (shift : 0 ≤ pipe.source.pauseDuration) :
    gap pipe.source cached.timestamp < frameLossThreshold * audioIntervalInNs := by
  obtain ⟨emission, own, emitted⟩ := emits
  rcases readAt_cases buffer length timed with
    same | ⟨held, left, -, -, -, -, ⟨-, filled⟩ | ⟨nothing, written⟩⟩
  · rw [same] at emitted
    simp at emitted
  · rw [filled] at emitted
    simp only [List.append_cancel_left_eq, List.cons.injEq, and_true] at emitted
    rw [← emitted] at own
    cases own
  · rw [written, emitted_readAudioBuffer] at emitted
    simp only [List.append_cancel_left_eq, List.cons.injEq, and_true] at emitted
    rw [← emitted, buffer_writeTo, Option.some.injEq] at own
    rw [← own]
    exact gap_of_lostFrameNum held.timestamp pipe.source nothing known shift timed.written silent

theorem fills_exactly (lostNum bytes : Int) (timed : Timed pipe)
    (silent : 0 < pipe.source.silentFrameSize)
    (fills : Fills pipe (pipe.readAt buffer length) lostNum bytes) (addr : buffer.addr = true) :
    bytes = lostNum * pipe.source.silentFrameSize ∧
      (pipe.readAt buffer length).source.writedFrameTime =
        pipe.source.writedFrameTime + lostNum * audioIntervalInNs := by
  unfold Fills at fills
  rcases readAt_cases buffer length timed with
    same | ⟨held, left, -, -, -, -, ⟨lost, filled⟩ | ⟨-, written⟩⟩
  · rw [same] at fills
    simp at fills
  · rw [filled] at fills
    simp only [List.append_cancel_left_eq, List.cons.injEq, Emission.silence.injEq, and_true]
      at fills
    obtain ⟨rfl, size⟩ := fills
    rw [fillSilence_addr buffer addr (Int.le_of_lt (Int.mul_pos lost silent))] at size
    rw [filled]
    exact ⟨size.symm, rfl⟩
  · rw [written, emitted_readAudioBuffer] at fills
    simp only [List.append_cancel_left_eq, List.cons.injEq, and_true] at fills
    exact (writeTo_ne_silence buffer length held pipe.origin lostNum bytes fills).elim

theorem mutes_exactly (cached : CacheBuffer) (bytes : Int) (timed : Timed pipe)
    (mutes : Mutes pipe (pipe.readAt buffer length) cached bytes) (addr : buffer.addr = true) :
    bytes = length ∧ (pipe.readAt buffer length).source.writedFrameTime =
      pipe.source.writedFrameTime + cached.intervalNs := by
  obtain ⟨origin, emitted⟩ := mutes
  rcases readAt_cases buffer length timed with
    same | ⟨held, left, -, -, -, -, ⟨-, filled⟩ | ⟨-, written⟩⟩
  · rw [same] at emitted
    simp at emitted
  · rw [filled] at emitted
    simp at emitted
  have clock := @clock_readAudioBuffer
    { pipe with
      source :=
        { pipe.source with
          cacheBuffer := none
          remainingSilentFrames := left
          writedFrameTime := pipe.source.writedFrameTime + held.intervalNs }
      origin := []
      emitted := pipe.emitted ++ [writeTo buffer length held pipe.origin] }
  rw [written] at emitted ⊢
  rw [emitted_readAudioBuffer] at emitted
  simp only [List.append_cancel_left_eq, List.cons.injEq, and_true] at emitted
  obtain ⟨rfl, size⟩ := writeTo_eq_muted buffer length emitted
  rw [fillSilence_addr buffer addr (Int.natCast_nonneg length)] at size
  exact ⟨size, congrArg Prod.fst clock⟩

/-- While the correction for pauses is not negative, no captured frame is written after a
hole of the threshold or more, and each silence lasts as long as the clock advances, that in place
of a muted frame where the frame lasts its interval and is asked for whole. -/
theorem recording_stays_aligned (policy : AudioCombinePolicy) (events : List PipeEvent)
    (buffer : AVBuffer) (length : Nat) (sampleRate channels : Int)
    (format : (run next (create policy true) events).outputFormat = some (sampleRate, channels))
    (whole : (25 : Int) ∣ sampleRate * channels)
    (known : 0 ≤ (run next (create policy true) events).source.firstVideoFramePts) :
    let before := run next (create policy true) events
    let after := next before (.call (.readAt buffer length))
    (∀ cached, Emits before after cached → 0 ≤ before.source.pauseDuration →
      gap before.source cached.timestamp < frameLossThreshold * audioIntervalInNs) ∧
    (∀ lostNum bytes, Fills before after lostNum bytes → buffer.addr = true →
      bytes = lostNum * before.source.silentFrameSize ∧
      (after.source.writedFrameTime - before.source.writedFrameTime) *
        (sampleRate * channels * 2) = bytes * secToNs) ∧
    ∀ cached bytes, Mutes before after cached bytes → buffer.addr = true →
      bytes = length ∧
      after.source.writedFrameTime = before.source.writedFrameTime + cached.intervalNs ∧
      (length = cached.length → LastsInterval sampleRate channels cached →
        (after.source.writedFrameTime - before.source.writedFrameTime) *
          (sampleRate * channels * 2) = bytes * secToNs) := by
  have timed := timed_run policy true events
  generalize run next (create policy true) events = pipe at *
  obtain ⟨positiveRate, positiveChannels, size⟩ := timed.silent sampleRate channels format
  have silent : 0 < pipe.source.silentFrameSize := by
    have samples := silence_lasts sampleRate channels 1 whole
    have product : 0 < sampleRate * channels := Int.mul_pos positiveRate positiveChannels
    rw [size]
    simp only [audioIntervalInNs, secToNs] at samples ⊢
    omega
  intro before after
  by_cases busy : before.reading.isSome = true
  · have waits : after = before := if_pos busy
    refine ⟨?_, ?_, ?_⟩
    · rintro cached ⟨emission, -, emitted⟩
      rw [waits] at emitted
      simp at emitted
    · intro lostNum bytes fills
      rw [waits] at fills
      simp [Fills] at fills
    · rintro cached bytes ⟨origin, emitted⟩
      rw [waits] at emitted
      simp at emitted
  · have reads : after = pipe.readAt buffer length := if_neg busy
    rw [reads]
    refine ⟨?_, ?_, ?_⟩
    · intro cached emits shift
      exact emits_aligned buffer length cached timed silent known emits shift
    · intro lostNum bytes fills addr
      obtain ⟨written, clock⟩ := fills_exactly buffer length lostNum bytes timed silent fills addr
      refine ⟨written, ?_⟩
      have advanced : pipe.source.writedFrameTime + lostNum * audioIntervalInNs -
          pipe.source.writedFrameTime = lostNum * audioIntervalInNs := by omega
      rw [clock, written, advanced, silence_lasts sampleRate channels lostNum whole, size]
    · intro cached bytes mutes addr
      obtain ⟨written, clock⟩ := mutes_exactly buffer length cached bytes timed mutes addr
      refine ⟨written, clock, ?_⟩
      intro all lasts
      have advanced : pipe.source.writedFrameTime + cached.intervalNs -
          pipe.source.writedFrameTime = cached.intervalNs := by omega
      rw [clock, written, all, advanced, lasts]

section Runs

/-- A full round of `ReadAudioBuffer` over one slot. -/
def round : List PipeEvent := List.replicate 7 .proceed

/-- A frame of 20 ms in stereo. -/
def stereoFrame (time : Int) : BufferDesc where
  bufLength := 3840
  frameCount := 960
  audioSampleRate := 48000
  time

/-- A microphone alone, with the first video frame at time zero. -/
def microphone (sampleRate channels : Int) : List PipeEvent :=
  [.call (.setOutputFormat sampleRate channels), .call (.setCapture .mic true),
    .startCapturer .mic, .call (.setVideoFirstFramePts 0)]

/-- The microphone hands over a frame, and the data source reads it. -/
def captures (time : Int) : List PipeEvent :=
  [PipeEvent.readData .mic (stereoFrame time), .call .bufferAvailable] ++ round

theorem long_hole_is_filled :
    let before := run next (create .passthrough true)
      (microphone 48000 2 ++ captures 0 ++ [PipeEvent.call (.readAt {} 3840)] ++ round ++
        captures 60000000)
    let after := next before (.call (.readAt {} 3840))
    (after.source.writedFrameTime - before.source.writedFrameTime) * (48000 * 2 * 2) =
      7680 * secToNs :=
  ((recording_stays_aligned .passthrough _ {} 3840 48000 2 (by decide) (by decide)
    (by decide)).2.1 2 7680 (by unfold Fills; decide) rfl).2

/-- A frame of 1024 samples, which do not last a whole number of nanoseconds. -/
def mutedFrame : BufferDesc where
  bufLength := 4096
  frameCount := 1024
  audioSampleRate := 48000
  time := 0
  isMute := true

/-- A correction for a pause that is below zero leaves a hole of 190 ms, the silence of a format
that has no whole number of bytes in an interval is too short, and so is the interval of a muted
frame that lasts no whole number of nanoseconds. -/
theorem hole_stays_after_pause :
    (let before := run next (create .passthrough true)
      (microphone 48000 2 ++ captures 0 ++ [PipeEvent.call (.readAt {} 3840)] ++ round ++
        [PipeEvent.call .pause, .call .resume, .call (.setVideoFirstFramePts 10000000)] ++
        captures 200000000)
     let after := next before (.call (.readAt {} 3840))
     before.source.pauseDuration = -10000000 ∧
      (∃ cached, Emits before after cached ∧ gap before.source cached.timestamp = 190000000)) ∧
    let before := run next (create .passthrough true) (microphone 44110 1 ++ captures 100000000)
    let after := next before (.call (.readAt {} 3840))
    (Fills before after 5 8820 ∧
      (after.source.writedFrameTime - before.source.writedFrameTime) * (44110 * 1 * 2) ≠
        8820 * secToNs) ∧
    let before := run next (create .passthrough true)
      (microphone 48000 2 ++
        ([PipeEvent.readData .mic mutedFrame, .call .bufferAvailable] ++ round))
    let after := next before (.call (.readAt {} 4096))
    (∃ cached, Mutes before after cached 4096) ∧
      (after.source.writedFrameTime - before.source.writedFrameTime) * (48000 * 2 * 2) ≠
        4096 * secToNs := by
  refine ⟨⟨by decide, ?_⟩, ?_, ?_⟩
  · exact ⟨_, ⟨.frame _ 3840 [(.mic, 1)], rfl, rfl⟩, by decide⟩
  · exact ⟨by unfold Fills; decide, by decide⟩
  · exact ⟨⟨_, [(.mic, 0)], rfl⟩, by decide⟩

end Runs

end AudioPipe

end PlayerFramework.ScreenCapture
