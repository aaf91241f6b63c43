import PlayerFramework.ScreenCapture.AudioAccounting
import PlayerFramework.ScreenCapture.AudioAlignment

/-!
Frames that end before the first video frame.  The data source drops them once, when it
synchronises; what comes later, or waits in a slower queue, goes the usual way.
-/

namespace PlayerFramework.ScreenCapture

open Transition AudioDataSourceGeneric AudioCapturerQueue Function

def CacheBuffer.endsBefore (pts : Int) (frame : CacheBuffer) : Prop :=
  frame.timestamp + frame.intervalNs ≤ pts

instance (pts : Int) (frame : CacheBuffer) : Decidable (frame.endsBefore pts) :=
  inferInstanceAs (Decidable (frame.timestamp + frame.intervalNs ≤ pts))

/-- A data source with the frames that were captured, a history variable. -/
structure FilmedPipe where
  pipe : AudioPipe
  frames : AudioCaptureSourceType → Nat → Option CacheBuffer := fun _ _ => none

namespace FilmedPipe

def record (type : AudioCaptureSourceType) (desc : BufferDesc) (filmed : FilmedPipe) :
    AudioCaptureSourceType → Nat → Option CacheBuffer :=
  let seq := (filmed.pipe.capturers type).captured
  if desc.bufLength = 0 then filmed.frames
  else
    update filmed.frames type (update (filmed.frames type) seq
        (some (createCacheBuffer type seq desc)))

def next (filmed : FilmedPipe) (event : PipeEvent) : FilmedPipe where
  pipe := filmed.pipe.next event
  frames :=
    match event with
    | .readData type desc => filmed.record type desc
    | _ => filmed.frames

def create (policy : AudioCombinePolicy) : FilmedPipe where
  pipe := AudioPipe.create policy true

/-- Every captured frame that was emitted ends after the first video frame. -/
def NothingEarly (filmed : FilmedPipe) : Prop :=
  ∀ frame ∈ filmed.pipe.emittedFrames, ∃ captured, filmed.frames frame.1 frame.2 = some captured ∧
      ¬ captured.endsBefore filmed.pipe.source.firstVideoFramePts

/-- No frame of the list ends before the first video frame. -/
def Late (pts : Int) (buffers : List CacheBuffer) : Prop :=
  ∀ frame ∈ buffers, ¬ frame.endsBefore pts

instance (pts : Int) (buffers : List CacheBuffer) : Decidable (Late pts buffers) :=
  inferInstanceAs (Decidable (∀ frame ∈ buffers, ¬ frame.endsBefore pts))

/-- What `DropBufferUntil` leaves in a queue. -/
def remaining (pts : Int) (buffers : List CacheBuffer) : List CacheBuffer :=
  buffers.dropWhile (isBefore pts)

/-- The synchronisation would leave no frame that ends before the first video frame. -/
def SyncsClean (pipe : AudioPipe) : Prop :=
  let pts := pipe.source.firstVideoFramePts
  ∀ first ∈ earliest pipe.source.acquired,
    if pts - first.2.timestamp ≥ first.2.intervalNs then
      ∀ type ∈ pipe.source.captures, Late pts
        (if (pipe.source.slots type).currentBuf.isSome ∧ (pipe.source.slots type).capture then
          remaining pts (pipe.capturers type).availBuffers
        else (pipe.capturers type).availBuffers)
    else
      ∀ type ∈ pipe.source.captures, Late pts (pipe.capturers type).availBuffers ∧
        Late pts (pipe.source.slots type).currentBuf.toList

instance (pipe : AudioPipe) : Decidable (SyncsClean pipe) :=
  inferInstanceAs (Decidable (∀ first ∈ earliest pipe.source.acquired, _))

/-- The synchronisation leaves no frame that ends before the first video frame, and none
comes to a source of the recording after it. -/
def InTime (filmed : FilmedPipe) (event : PipeEvent) : Prop :=
  let pipe := filmed.pipe
  let pts := pipe.source.firstVideoFramePts
  match event with
  | .readData type desc =>
    pipe.source.avSynced = true → type ∈ pipe.source.captures → desc.bufLength ≠ 0 →
      (pipe.capturers type).isRecording = true →
      ¬ (createCacheBuffer type (pipe.capturers type).captured desc).endsBefore pts
  | .call (.setCapture type _) =>
    pipe.source.avSynced = true → Late pts (pipe.capturers type).availBuffers
  | .call (.setVideoFirstFramePts _) => pipe.source.avSynced = true → 0 ≤ pts
  | .proceed =>
    pipe.reading = some (.check []) → pipe.source.avSynced = false → SyncsClean pipe
  | _ => True

variable {filmed : FilmedPipe} {pipe : AudioPipe} {type : AudioCaptureSourceType}

/-- What is queued or held was captured. -/
structure History (filmed : FilmedPipe) : Prop where
  counted : ∀ type seq frame, filmed.frames type seq = some frame →
    seq < (filmed.pipe.capturers type).captured
  settled : ∀ type, (filmed.pipe.capturers type).Settled
  queued : ∀ type, ∀ frame ∈ (filmed.pipe.capturers type).availBuffers,
    filmed.frames type frame.seq = some frame
  held : ∀ type frame, (filmed.pipe.source.slots type).currentBuf = some frame →
    filmed.frames type frame.seq = some frame

/-- Queues lose frames from their front, and slots take up the front of their queue. -/
structure Passes (before after : AudioPipe) : Prop where
  loses : ∀ type, ∃ gone recorded,
    (before.capturers type).Loses (after.capturers type) gone recorded
  holds : ∀ type frame, (after.source.slots type).currentBuf = some frame →
    (before.source.slots type).currentBuf = some frame ∨
      frame ∈ (before.capturers type).availBuffers

variable {after : AudioPipe} {queue : AudioCapturerQueue} {gone recorded : List CacheBuffer}
  {source : AudioDataSourceGeneric} {pts : Int} {stage : ReadStage}
  {todo : List AudioCaptureSourceType}

theorem Passes.of_same {before : AudioPipe} (queues : after.capturers = before.capturers)
    (holds : ∀ type frame, (after.source.slots type).currentBuf = some frame →
      (before.source.slots type).currentBuf = some frame) : Passes before after where
  loses type := by
    rw [queues]
    exact ⟨[], [], AudioCapturerQueue.Loses.refl _⟩
  holds type frame current := .inl (holds type frame current)

theorem Passes.of_queue (queues : after.capturers = update pipe.capturers type queue)
    (loses : (pipe.capturers type).Loses queue gone recorded)
    (holds : ∀ type frame, (after.source.slots type).currentBuf = some frame →
      (pipe.source.slots type).currentBuf = some frame) : Passes pipe after where
  loses other := by
    rw [queues]
    by_cases same : other = type
    · subst same
      rw [update_self]
      exact ⟨gone, recorded, loses⟩
    · rw [update_of_ne same]
      exact ⟨[], [], AudioCapturerQueue.Loses.refl _⟩
  holds other frame current := .inl (holds other frame current)

theorem History.passes (history : History filmed) (passes : Passes filmed.pipe after) :
    History { filmed with pipe := after } where
  counted type seq frame captured := by
    obtain ⟨gone, recorded, loses⟩ := passes.loses type
    rw [loses.captured]
    exact history.counted type seq frame captured
  settled type := by
    obtain ⟨gone, recorded, loses⟩ := passes.loses type
    exact loses.settled (history.settled type)
  queued type frame member := by
    obtain ⟨gone, recorded, loses⟩ := passes.loses type
    apply history.queued type frame
    rw [loses.front]
    exact List.mem_append_right gone member
  held type frame current := by
    rcases passes.holds type frame current with before | front
    · exact history.held type frame before
    · exact history.queued type frame front

theorem currentBuf_setSlot {slot : CaptureSlot} (kept : ∀ frame, slot.currentBuf = some frame →
      (source.slots type).currentBuf = some frame) (other : AudioCaptureSourceType)
    (frame : CacheBuffer)
    (current : ((source.setSlot type slot).slots other).currentBuf = some frame) :
    (source.slots other).currentBuf = some frame := by
  by_cases same : other = type
  · subst same
    simp only [setSlot, update_self] at current
    exact kept frame current
  · simp only [setSlot, update_of_ne same] at current
    exact current

theorem currentBuf_clearCurrent (other : AudioCaptureSourceType) (frame : CacheBuffer)
    (current : ((source.clearCurrent type).slots other).currentBuf = some frame) :
    (source.slots other).currentBuf = some frame :=
  currentBuf_setSlot (fun _ none => by cases none) other frame current

theorem passes_combine : Passes pipe pipe.combine := by
  unfold AudioPipe.combine
  split
  · exact Passes.of_same rfl fun _ _ current => current
  · exact Passes.of_same rfl fun _ _ current => current

theorem currentBuf_holdAhead {refType : AudioCaptureSourceType} {reference : CacheBuffer}
    (other : AudioCaptureSourceType) (frame : CacheBuffer)
    (current : ((pipe.source.holdAhead refType reference).slots other).currentBuf = some frame) :
    (pipe.source.slots other).currentBuf = some frame := by
  simp only [holdAhead] at current
  split at current
  · cases current
  · exact current

theorem Passes.of_source (passes : Passes { pipe with source } after)
    (kept : ∀ type frame, (source.slots type).currentBuf = some frame →
      (pipe.source.slots type).currentBuf = some frame) : Passes pipe after where
  loses := passes.loses
  holds other frame current := by
    rcases passes.holds other frame current with before | front
    · exact .inl (kept other frame before)
    · exact .inr front

theorem passes_alignOrCombine : Passes pipe pipe.alignOrCombine := by
  unfold AudioPipe.alignOrCombine
  split
  · exact Passes.of_same rfl fun _ _ current => current
  · split
    · exact Passes.of_same rfl fun _ _ current => current
    · exact passes_combine.of_source currentBuf_holdAhead

theorem passes_videoAudioSync : Passes pipe pipe.videoAudioSync := by
  unfold AudioPipe.videoAudioSync
  split
  · exact Passes.of_same rfl fun _ _ current => current
  · split
    · exact Passes.of_same rfl fun _ _ current => current
    · exact passes_alignOrCombine.of_source fun _ _ current => current

theorem passes_acquireReady : Passes pipe pipe.acquireReady := by
  unfold AudioPipe.acquireReady
  split
  · exact Passes.of_same rfl fun _ _ current => current
  split
  · exact passes_videoAudioSync
  · split
    · exact Passes.of_same rfl fun _ _ current => current
    · exact passes_alignOrCombine

theorem passes_acquire (todo : List AudioCaptureSourceType) :
    Passes pipe { pipe with
      source := pipe.source.acquire type (pipe.capturers type).acquireAudioBuffer
      reading := some (.check todo) } where
  loses _ := ⟨[], [], AudioCapturerQueue.Loses.refl _⟩
  holds other frame current := by
    by_cases same : other = type
    · subst same
      right
      unfold AudioDataSourceGeneric.acquire acquireAudioBuffer at current
      split at current
      · simp [setSlot] at current
      rename_i front taken
      simp only [setSlot, update_self, Option.some.injEq] at current
      subst current
      split at taken
      · exact List.mem_of_mem_head? taken
      · cases taken
    · left
      unfold AudioDataSourceGeneric.acquire at current
      split at current
      · simpa [setSlot, same] using current
      · simpa [setSlot, same] using current

theorem passes_proceed : Passes pipe pipe.proceed := by
  unfold AudioPipe.proceed
  split
  case h_1 => exact Passes.of_same rfl fun _ _ current => current
  case h_2 => exact passes_acquireReady
  case h_3 =>
    split
    · exact Passes.of_same rfl fun _ _ current => current
    · exact Passes.of_same rfl (currentBuf_setSlot fun _ none => by cases none)
  case h_4 type todo _ => exact passes_acquire todo
  case h_5 => exact Passes.of_same rfl fun _ _ current => current
  case h_6 type todo _ =>
    obtain ⟨gone, loses⟩ := loses_dropBufferUntil
      pipe.source.firstVideoFramePts (pipe.capturers type)
    exact Passes.of_queue rfl loses fun _ _ current => current
  case h_7 => exact passes_combine
  case h_8 type todo _ =>
    split
    · exact Passes.of_queue rfl (loses_giveUp (pipe.capturers type) _) currentBuf_clearCurrent
    · exact Passes.of_queue rfl (AudioCapturerQueue.Loses.refl _) currentBuf_clearCurrent
  case h_9 => exact Passes.of_same rfl fun _ _ current => current
  case h_10 type todo _ =>
    have cleared (other : AudioCaptureSourceType) (frame : CacheBuffer)
        (current : (((pipe.source.setStable type).clearCurrent type).slots other).currentBuf =
          some frame) : (pipe.source.slots other).currentBuf = some frame := by
      have before := currentBuf_clearCurrent other frame current
      refine currentBuf_setSlot ?_ other frame before
      intro _ same
      exact same
    split
    · exact Passes.of_queue rfl (loses_releaseAudioBuffer (pipe.capturers type)) cleared
    · exact Passes.of_queue rfl (AudioCapturerQueue.Loses.refl _) cleared

theorem passes_readAudioBuffer : Passes pipe pipe.readAudioBuffer := by
  obtain ⟨reading, read, -⟩ := AudioPipe.readAudioBuffer_cases pipe
  rw [read]
  exact Passes.of_same rfl fun _ _ current => current

theorem passes_handleCall (call : SourceCall) : Passes pipe (pipe.handleCall call) := by
  cases call with
  | setCapture type capture =>
    refine Passes.of_same rfl fun other frame current => ?_
    refine currentBuf_setSlot ?_ other frame current
    intro _ same
    exact same
  | setOutputFormat sampleRate channels =>
    refine Passes.of_same rfl fun other frame current => ?_
    simp only [AudioPipe.handleCall, setOutputFormat] at current
    split at current <;> exact current
  | setVideoFirstFramePts firstFramePts =>
    refine Passes.of_same rfl fun other frame current => ?_
    simp only [AudioPipe.handleCall, setVideoFirstFramePts] at current
    split at current <;> exact current
  | pause | resume => exact Passes.of_same rfl fun _ _ current => current
  | bufferAvailable =>
    simp only [AudioPipe.handleCall, AudioPipe.onBufferAvailable]
    split
    · exact Passes.of_same rfl fun _ _ current => current
    · exact passes_readAudioBuffer
  | readAt buffer length =>
    obtain ⟨source, emitted, origin, reading, read, -, slots, -⟩ :=
      AudioPipe.readAt_frames buffer length pipe
    simp only [AudioPipe.handleCall, read]
    refine Passes.of_same rfl fun other frame current => ?_
    rwa [slots] at current
  | getSize =>
    refine Passes.of_same rfl fun other frame current => ?_
    obtain ⟨left, counted⟩ := AudioPipe.getSize_source pipe.source
    simpa only [AudioPipe.handleCall, counted] using current

theorem loses_start (queue : AudioCapturerQueue) : queue.Loses queue.start [] [] where
  front := rfl
  captured := rfl
  discarded := by simp [start]
  subset := List.Subset.refl _
  settled _ := settled_of_recording rfl

theorem passes_next (event : PipeEvent)
    (other : ∀ type desc, event ≠ .readData type desc) : Passes pipe (pipe.next event) := by
  cases event with
  | startCapturer type =>
    exact Passes.of_queue rfl (loses_start _) fun _ _ current => current
  | stopCapturer type =>
    exact Passes.of_queue rfl (loses_stop _) fun _ _ current => current
  | readData type desc => exact absurd rfl (other type desc)
  | stop => exact Passes.of_same rfl fun _ _ current => current
  | call call =>
    simp only [AudioPipe.next]
    split
    · exact Passes.of_same rfl fun _ _ current => current
    · exact passes_handleCall call
  | proceed => exact passes_proceed

theorem onReadData_frames (desc : BufferDesc) (queue : AudioCapturerQueue) (frame : CacheBuffer)
    (member : frame ∈ (queue.onReadData type desc).availBuffers) :
    frame ∈ queue.availBuffers ∨
      (desc.bufLength ≠ 0 ∧ queue.isRecording = true ∧ desc.usable = true ∧
        frame = createCacheBuffer type queue.captured desc) := by
  unfold onReadData at member
  split at member
  · exact .inl member
  rename_i filled
  split at member
  · exact .inl member
  rename_i recording
  split at member
  · exact .inl member
  rename_i usable
  obtain ⟨gone, loses⟩ := loses_dropOldest queue
  rcases List.mem_append.mp member with kept | new
  · left
    rw [loses.front]
    exact List.mem_append_right gone kept
  · exact .inr ⟨filled, by simpa using recording, by simpa using usable,
      List.mem_singleton.mp new⟩

theorem settled_onReadData (desc : BufferDesc) (queue : AudioCapturerQueue)
    (settled : queue.Settled) : (queue.onReadData type desc).Settled := by
  unfold onReadData
  split
  · exact settled
  split
  · exact settled
  rename_i recording
  split
  · exact settled
  apply settled_of_recording
  have same : queue.dropOldest.isRecording = queue.isRecording := by
    unfold dropOldest
    split <;> rfl
  simpa [same] using recording

theorem captured_onReadData (desc : BufferDesc) (queue : AudioCapturerQueue) :
    (queue.onReadData type desc).captured =
      if desc.bufLength = 0 then queue.captured else queue.captured + 1 := by
  unfold onReadData
  split
  · rfl
  · split
    · rfl
    · split <;> rfl

theorem record_of_known (history : History filmed) (desc : BufferDesc)
    {other : AudioCaptureSourceType} {seq : Nat} {frame : CacheBuffer}
    (known : filmed.frames other seq = some frame) :
    filmed.record type desc other seq = some frame := by
  have below := history.counted other seq frame known
  simp only [record]
  split
  · exact known
  by_cases same : other = type
  · subst same
    rw [update_self, update_of_ne (Nat.ne_of_lt below)]
    exact known
  · rw [update_of_ne same]
    exact known

theorem history_readData (history : History filmed) (desc : BufferDesc) :
    History (filmed.next (.readData type desc)) where
  counted other seq frame known := by
    have total := @captured_onReadData type desc (filmed.pipe.capturers type)
    simp only [next, AudioPipe.next, AudioPipe.setCapturer, record] at known ⊢
    by_cases same : other = type
    · subst same
      rw [update_self, total]
      split at known
      · rename_i empty
        rw [if_pos empty]
        exact history.counted other seq frame known
      · rename_i filled
        rw [if_neg filled]
        rw [update_self] at known
        by_cases newest : seq = (filmed.pipe.capturers other).captured
        · omega
        · rw [update_of_ne newest] at known
          exact Nat.lt_succ_of_lt (history.counted other seq frame known)
    · rw [update_of_ne same]
      apply history.counted other seq frame
      split at known
      · exact known
      · rwa [update_of_ne same] at known
  settled other := by
    simp only [next, AudioPipe.next, AudioPipe.setCapturer]
    by_cases same : other = type
    · subst same
      rw [update_self]
      exact settled_onReadData desc _ (history.settled other)
    · rw [update_of_ne same]
      exact history.settled other
  queued other frame member := by
    simp only [next, AudioPipe.next, AudioPipe.setCapturer] at member ⊢
    by_cases same : other = type
    · subst same
      rw [update_self] at member
      rcases onReadData_frames desc _ frame member with before | ⟨filled, -, -, new⟩
      · exact record_of_known history desc (history.queued other frame before)
      · rw [new]
        unfold record
        rw [if_neg filled, update_self]
        exact update_self ..
    · rw [update_of_ne same] at member
      exact record_of_known history desc (history.queued other frame member)
  held other frame current :=
    record_of_known history desc (history.held other frame current)

theorem history_next (history : History filmed) (event : PipeEvent) :
    History (filmed.next event) := by
  cases event with
  | readData type desc => exact history_readData history desc
  | startCapturer type | stopCapturer type | stop | call call | proceed =>
    exact history.passes (passes_next _ fun _ _ other => by cases other)

theorem history_create (policy : AudioCombinePolicy) : History (create policy) where
  counted _ _ _ known := by cases known
  settled _ _ := rfl
  queued _ _ member := by cases member
  held _ _ current := by cases current

/-- The frames of a queue that the data source may still take up. -/
def waiting (pipe : AudioPipe) (type : AudioCaptureSourceType) : List CacheBuffer :=
  match pipe.reading with
  | some (.drop todo) =>
    if type ∈ todo then
      remaining pipe.source.firstVideoFramePts (pipe.capturers type).availBuffers
    else (pipe.capturers type).availBuffers
  | _ => (pipe.capturers type).availBuffers

/-- The stages that `ReadAudioBuffer` has before the synchronisation. -/
def beforeSync : Option ReadStage → Bool
  | some (.drop _) => false
  | some (.giveUp _) => false
  | some (.release _) => false
  | _ => true

/-- Once the data source has synchronised, no frame that ends before the first video frame
waits or is held; until then nothing was taken. -/
structure Punctual (filmed : FilmedPipe) : Prop where
  films : filmed.pipe.source.recorderFileWithVideo = true
  taken : ∀ frame ∈ filmed.pipe.emittedFrames ++ filmed.pipe.origin, ∃ captured,
    filmed.frames frame.1 frame.2 = some captured ∧
      ¬ captured.endsBefore filmed.pipe.source.firstVideoFramePts
  unsynced : filmed.pipe.source.avSynced = false →
    filmed.pipe.emittedFrames ++ filmed.pipe.origin = [] ∧ beforeSync filmed.pipe.reading = true
  queues : filmed.pipe.source.avSynced = true → ∀ type ∈ filmed.pipe.source.captures,
    Late filmed.pipe.source.firstVideoFramePts (waiting filmed.pipe type)
  holds : filmed.pipe.source.avSynced = true → ∀ type,
    Late filmed.pipe.source.firstVideoFramePts (filmed.pipe.held type).toList

def film (pipe : AudioPipe) : Bool × Bool × Int × List AudioCaptureSourceType :=
  (pipe.source.recorderFileWithVideo, pipe.source.avSynced, pipe.source.firstVideoFramePts,
    pipe.source.captures)

theorem Punctual.step (punctual : Punctual filmed) (same : film after = film filmed.pipe)
    (taken : after.emittedFrames ++ after.origin = filmed.pipe.emittedFrames ++ filmed.pipe.origin)
    (starts : filmed.pipe.source.avSynced = false → beforeSync after.reading = true)
    (queues : filmed.pipe.source.avSynced = true → ∀ type ∈ filmed.pipe.source.captures,
      Late filmed.pipe.source.firstVideoFramePts (waiting filmed.pipe type) →
        Late filmed.pipe.source.firstVideoFramePts (waiting after type))
    (holds : filmed.pipe.source.avSynced = true → ∀ type frame, after.held type = some frame →
      filmed.pipe.held type = some frame ∨
        (type ∈ filmed.pipe.source.captures ∧ frame ∈ waiting filmed.pipe type)) :
    Punctual { filmed with pipe := after } := by
  simp only [film, Prod.mk.injEq] at same
  obtain ⟨films, synced, pts, captures⟩ := same
  constructor
  · rw [films]
    exact punctual.films
  · intro frame member
    rw [pts]
    rw [taken] at member
    exact punctual.taken frame member
  · intro before
    rw [synced] at before
    rw [taken]
    exact ⟨(punctual.unsynced before).1, starts before⟩
  · intro done type member
    rw [synced] at done
    rw [captures] at member
    rw [pts]
    exact queues done type member (punctual.queues done type member)
  · intro done type frame held
    rw [synced] at done
    rw [pts]
    rw [Option.mem_toList] at held
    rcases holds done type frame held with before | ⟨member, waits⟩
    · exact punctual.holds done type frame (Option.mem_toList.mpr before)
    · exact punctual.queues done type member frame waits

theorem late_of_subset {before after : List CacheBuffer} (late : Late pts before)
    (subset : after ⊆ before) : Late pts after :=
  fun frame member => late frame (subset member)

theorem late_append {first second : List CacheBuffer} :
    Late pts (first ++ second) ↔ Late pts first ∧ Late pts second := by
  simp [Late, or_imp, forall_and]

theorem late_remaining (gone rest extra : List CacheBuffer)
    (late : Late pts (remaining pts (gone ++ rest))) (new : Late pts extra) :
    Late pts (remaining pts (rest ++ extra)) := by
  induction gone with
  | nil =>
    induction rest with
    | nil => exact late_of_subset new (List.dropWhile_suffix _).subset
    | cons frame rest ih =>
      by_cases before : isBefore pts frame = true
      · have dropped (tail : List CacheBuffer) :
            remaining pts (frame :: tail) = remaining pts tail :=
          List.dropWhile_cons_of_pos before
        rw [List.cons_append, dropped]
        rw [List.nil_append, dropped] at late
        exact ih late
      · have kept (tail : List CacheBuffer) : remaining pts (frame :: tail) = frame :: tail :=
          List.dropWhile_cons_of_neg before
        rw [List.cons_append, kept, ← List.cons_append, late_append]
        rw [List.nil_append, kept] at late
        exact ⟨late, new⟩
  | cons frame gone ih =>
    apply ih
    by_cases before : isBefore pts frame = true
    · rwa [List.cons_append, remaining, List.dropWhile_cons_of_pos before] at late
    · rw [List.cons_append, remaining, List.dropWhile_cons_of_neg before] at late
      apply late_of_subset late
      exact fun _ member => List.mem_cons_of_mem _ ((List.dropWhile_suffix _).subset member)

theorem late_setCapturer (gone rest extra : List CacheBuffer)
    (front : (pipe.capturers type).availBuffers = gone ++ rest)
    (back : queue.availBuffers = rest ++ extra) (new : Late pipe.source.firstVideoFramePts extra)
    (other : AudioCaptureSourceType)
    (late : Late pipe.source.firstVideoFramePts (waiting pipe other)) :
    Late pipe.source.firstVideoFramePts (waiting (pipe.setCapturer type queue) other) := by
  by_cases same : other = type
  · subst same
    have shorter (before : Late pipe.source.firstVideoFramePts
        (pipe.capturers other).availBuffers) :
        Late pipe.source.firstVideoFramePts queue.availBuffers := by
      rw [front, late_append] at before
      rw [back, late_append]
      exact ⟨before.2, new⟩
    simp only [waiting, AudioPipe.setCapturer, update_self] at late ⊢
    split
    · rename_i todo reading
      simp only [reading] at late
      split
      · rename_i member
        rw [if_pos member, front] at late
        rw [back]
        exact late_remaining gone rest extra late new
      · rename_i member
        rw [if_neg member] at late
        exact shorter late
    · rename_i other
      split at late
      · rename_i todo reading
        exact absurd reading (other todo)
      · exact shorter late
  · simpa only [waiting, AudioPipe.setCapturer, update_of_ne same] using late

theorem punctual_setCapturer (punctual : Punctual filmed)
    (loses : (filmed.pipe.capturers type).Loses queue gone recorded) :
    Punctual { filmed with pipe := filmed.pipe.setCapturer type queue } := by
  apply punctual.step
  · rfl
  · rfl
  · exact fun before => (punctual.unsynced before).2
  · intro _ other _ late
    apply late_setCapturer gone queue.availBuffers [] loses.front (by simp) _ other late
    exact fun _ member => by cases member
  · exact fun _ _ _ held => .inl held

theorem punctual_readData (history : History filmed) (punctual : Punctual filmed)
    (desc : BufferDesc) (inTime : InTime filmed (.readData type desc)) :
    Punctual (filmed.next (.readData type desc)) := by
  have waits : filmed.pipe.source.avSynced = true → ∀ other ∈ filmed.pipe.source.captures,
      Late filmed.pipe.source.firstVideoFramePts (waiting filmed.pipe other) →
        Late filmed.pipe.source.firstVideoFramePts (waiting (filmed.pipe.setCapturer type
          ((filmed.pipe.capturers type).onReadData type desc)) other) := by
    intro done other member late
    by_cases same : other = type
    · subst same
      unfold onReadData
      split
      · exact late_setCapturer [] _ [] rfl (by simp) (fun _ none => by cases none) other late
      rename_i filled
      split
      · exact late_setCapturer [] _ [] rfl (by simp) (fun _ none => by cases none) other late
      rename_i recording
      split
      · exact late_setCapturer [] _ [] rfl (by simp) (fun _ none => by cases none) other late
      obtain ⟨gone, loses⟩ :=
        loses_dropOldest (filmed.pipe.capturers other)
      apply late_setCapturer gone _ _ loses.front rfl _ other late
      intro frame new
      rw [List.mem_singleton.mp new]
      exact inTime done member filled (by simpa using recording)
    · simpa only [waiting, AudioPipe.setCapturer, update_of_ne same] using late
  have stepped : Punctual { filmed with pipe := filmed.pipe.next (.readData type desc) } := by
    apply punctual.step
    · rfl
    · rfl
    · exact fun before => (punctual.unsynced before).2
    · exact waits
    · exact fun _ _ _ held => .inl held
  constructor
  · exact stepped.films
  · intro frame member
    obtain ⟨captured, known, late⟩ := stepped.taken frame member
    exact ⟨captured, record_of_known history desc known, late⟩
  · exact stepped.unsynced
  · exact stepped.queues
  · exact stepped.holds

theorem idle_waiting (idle : pipe.reading = none) (type : AudioCaptureSourceType) :
    waiting pipe type = (pipe.capturers type).availBuffers := by
  simp [waiting, idle]

theorem start_waiting (queues : after.capturers = pipe.capturers)
    (starts : after.reading = none ∨ after.reading = some (.check after.source.captures))
    (type : AudioCaptureSourceType) :
    waiting after type = (pipe.capturers type).availBuffers ∧ after.held type = none := by
  rcases starts with none | first
  · simp [waiting, AudioPipe.held, none, queues]
  simp only [waiting, AudioPipe.held, first, AudioPipe.unreached, queues, true_and,
    Option.bind_some]
  split
  · rename_i both
    exact absurd both.1 both.2
  · rfl

theorem beforeSync_start
    (starts : after.reading = none ∨ after.reading = some (.check after.source.captures)) :
    beforeSync after.reading = true := by
  rcases starts with none | first
  · rw [none]
    rfl
  · rw [first]
    rfl

theorem punctual_between (punctual : Punctual filmed) (idle : filmed.pipe.reading = none)
    (same : film after = film filmed.pipe) (queues : after.capturers = filmed.pipe.capturers)
    (taken : after.emittedFrames ++ after.origin = filmed.pipe.emittedFrames ++ filmed.pipe.origin)
    (starts : after.reading = none ∨ after.reading = some (.check after.source.captures)) :
    Punctual { filmed with pipe := after } := by
  apply punctual.step same taken
  · exact fun _ => beforeSync_start starts
  · intro _ type _ late
    rw [(start_waiting queues starts type).1]
    rwa [idle_waiting idle] at late
  · intro _ type frame held
    rw [(start_waiting queues starts type).2] at held
    cases held

theorem punctual_setCapture (punctual : Punctual filmed) (capture : Bool)
    (idle : filmed.pipe.reading = none)
    (inTime : InTime filmed (.call (.setCapture type capture))) :
    Punctual { filmed with pipe := filmed.pipe.handleCall (.setCapture type capture) } where
  films := punctual.films
  taken := punctual.taken
  unsynced := punctual.unsynced
  queues done other member := by
    have waits : waiting (filmed.pipe.handleCall (.setCapture type capture)) other =
        (filmed.pipe.capturers other).availBuffers := (start_waiting rfl (.inl idle) other).1
    have before : other ∈ filmed.pipe.source.captures ∨ other = type := by
      simp only [AudioPipe.handleCall, setCapture, setSlot] at member
      split at member
      · exact .inl member
      · simpa using member
    rw [waits]
    rcases before with present | rfl
    · have late := punctual.queues done other present
      rwa [idle_waiting idle] at late
    · exact inTime done
  holds done other := by
    have none : ({ filmed.pipe with
        source := filmed.pipe.source.setCapture type capture } : AudioPipe).held other = none := by
      simp [AudioPipe.held, idle]
    simp only [AudioPipe.handleCall, none, Option.toList_none]
    exact fun _ member => by cases member

theorem punctual_setVideoFirstFramePts (punctual : Punctual filmed) (pts : Int)
    (idle : filmed.pipe.reading = none)
    (inTime : InTime filmed (.call (.setVideoFirstFramePts pts))) :
    Punctual { filmed with pipe := filmed.pipe.handleCall (.setVideoFirstFramePts pts) } := by
  by_cases set : 0 ≤ filmed.pipe.source.firstVideoFramePts
  · apply punctual_between punctual idle
    · simp only [film, AudioPipe.handleCall, setVideoFirstFramePts]
      rw [if_neg (Int.not_lt.mpr set)]
    · rfl
    · rfl
    · exact .inl idle
  · have before : filmed.pipe.source.avSynced = false := by
      cases synced : filmed.pipe.source.avSynced with
      | false => rfl
      | true => exact absurd (inTime synced) set
    have unset : filmed.pipe.source.firstVideoFramePts < 0 := Int.not_le.mp set
    simp only [AudioPipe.handleCall, setVideoFirstFramePts, if_pos unset]
    have nothing := (punctual.unsynced before).1
    constructor
    · exact punctual.films
    · intro frame member
      have taken : frame ∈ filmed.pipe.emittedFrames ++ filmed.pipe.origin := member
      rw [nothing] at taken
      cases taken
    · exact punctual.unsynced
    · intro done
      exact absurd (before.symm.trans done) (by decide)
    · intro done
      exact absurd (before.symm.trans done) (by decide)

theorem punctual_handleCall (punctual : Punctual filmed) (call : SourceCall)
    (idle : filmed.pipe.reading = none) (inTime : InTime filmed (.call call)) :
    Punctual { filmed with pipe := filmed.pipe.handleCall call } := by
  cases call with
  | setCapture type capture => exact punctual_setCapture punctual capture idle inTime
  | setOutputFormat sampleRate channels =>
    apply punctual_between punctual idle
    · simp only [film, AudioPipe.handleCall, setOutputFormat]
      split <;> rfl
    · rfl
    · rfl
    · exact .inl idle
  | setVideoFirstFramePts pts => exact punctual_setVideoFirstFramePts punctual pts idle inTime
  | pause | resume => exact punctual_between punctual idle rfl rfl rfl (.inl idle)
  | bufferAvailable =>
    simp only [AudioPipe.handleCall, AudioPipe.onBufferAvailable]
    split
    · exact punctual
    · obtain ⟨reading, read, starts⟩ := AudioPipe.readAudioBuffer_cases filmed.pipe
      rw [read]
      exact punctual_between punctual idle rfl rfl rfl starts
  | readAt buffer length =>
    have same : film (filmed.pipe.readAt buffer length) = film filmed.pipe := by
      obtain ⟨_, _, _, changed⟩ := AudioPipe.readAt_source buffer length filmed.pipe
      simp [film, changed]
    obtain ⟨source, emitted, origin, reading, read, captures, -, taken, stage⟩ :=
      AudioPipe.readAt_frames buffer length filmed.pipe
    simp only [AudioPipe.handleCall]
    rw [read] at same ⊢
    apply punctual_between punctual idle same
    · rfl
    · exact taken
    · rcases stage with ⟨-, -, kept⟩ | ⟨-, -, starts⟩
      · exact .inl (kept.trans idle)
      · simpa [captures] using starts
  | getSize =>
    apply punctual_between punctual idle
    · obtain ⟨left, counted⟩ := AudioPipe.getSize_source filmed.pipe.source
      simp [film, AudioPipe.handleCall, counted]
    · rfl
    · rfl
    · exact .inl idle

theorem punctual_end (punctual : Punctual filmed)
    (waits : ∀ type, waiting filmed.pipe type = (filmed.pipe.capturers type).availBuffers) :
    Punctual { filmed with pipe := { filmed.pipe with reading := none } } := by
  apply punctual.step
  · rfl
  · rfl
  · exact fun _ => rfl
  · intro _ type _ late
    rwa [waits] at late
  · intro _ type frame held
    cases held

theorem punctual_combine (history : History filmed) (punctual : Punctual filmed)
    (synced : filmed.pipe.source.avSynced = true)
    (holds : ∀ held ∈ filmed.pipe.source.acquired,
      ¬ held.2.endsBefore filmed.pipe.source.firstVideoFramePts)
    (waits : ∀ type, waiting filmed.pipe type = (filmed.pipe.capturers type).availBuffers) :
    Punctual { filmed with pipe := filmed.pipe.combine } := by
  have unsynced (before : filmed.pipe.source.avSynced = false) : False := by
    rw [synced] at before
    cases before
  unfold AudioPipe.combine
  split
  · exact punctual_end punctual waits
  constructor
  · exact punctual.films
  · intro frame member
    rcases List.mem_append.mp member with emitted | new
    · exact punctual.taken frame (List.mem_append_left _ emitted)
    · obtain ⟨held, acquired, rfl⟩ := List.mem_map.mp new
      have current := ((AudioPipe.mem_acquired _ held).mp acquired).2
      exact ⟨held.2, history.held held.1 held.2 current, holds held acquired⟩
  · exact fun before => (unsynced before).elim
  · intro _ type member
    have late := punctual.queues synced type member
    rwa [waits] at late
  · intro _ type frame held
    cases held

theorem waiting_of_unreached (reads : pipe.reading = some stage)
    (before : AudioPipe.unreached stage = some todo) (type : AudioCaptureSourceType) :
    waiting pipe type = (pipe.capturers type).availBuffers := by
  unfold waiting
  rw [reads]
  split
  · rename_i list drops
    cases drops
    cases before
  · rfl

theorem reached_waiting (reached : AudioPipe.Reached pipe) (type : AudioCaptureSourceType) :
    waiting pipe type = (pipe.capturers type).availBuffers := by
  obtain ⟨stage, reads, all⟩ := reached
  exact waiting_of_unreached reads all type

theorem held_iff {frame : CacheBuffer} (reads : pipe.reading = some stage)
    (before : AudioPipe.unreached stage = some todo) :
    pipe.held type = some frame ↔ type ∈ pipe.source.captures ∧ type ∉ todo ∧
      (pipe.source.slots type).currentBuf = some frame := by
  simp only [AudioPipe.held, reads, Option.bind_some, before]
  split
  · rename_i both
    simp [both]
  rename_i missing
  constructor
  · intro none
    cases none
  · rintro ⟨member, outside, -⟩
    exact absurd ⟨member, outside⟩ missing

theorem late_acquired (punctual : Punctual filmed) (reached : AudioPipe.Reached filmed.pipe)
    (synced : filmed.pipe.source.avSynced = true) :
    ∀ held ∈ filmed.pipe.source.acquired,
      ¬ held.2.endsBefore filmed.pipe.source.firstVideoFramePts := by
  intro held acquired
  obtain ⟨present, current⟩ := (AudioPipe.mem_acquired _ held).mp acquired
  have holds : filmed.pipe.held held.1 = some held.2 := by
    rw [AudioPipe.held_of_reached reached, AudioPipe.current, if_pos present, current]
  exact punctual.holds synced held.1 held.2 (Option.mem_toList.mpr holds)

theorem punctual_alignOrCombine (history : History filmed) (punctual : Punctual filmed)
    (reached : AudioPipe.Reached filmed.pipe)
    (synced : filmed.pipe.source.avSynced = true) :
    Punctual { filmed with pipe := filmed.pipe.alignOrCombine } := by
  have unsynced (before : filmed.pipe.source.avSynced = false) : False := by
    rw [synced] at before
    cases before
  have waits := reached_waiting reached
  unfold AudioPipe.alignOrCombine
  split
  · exact punctual_end punctual waits
  rename_i refType reference _
  split
  · apply punctual.step
    · rfl
    · rfl
    · exact fun before => (unsynced before).elim
    · intro _ type _ late
      rwa [waits] at late
    intro _ type frame held
    left
    obtain ⟨stage, reads, all⟩ := reached
    obtain ⟨member, -, current⟩ := (held_iff rfl rfl).mp held
    exact (held_iff reads all).mpr ⟨member, List.not_mem_nil, current⟩
  · have aligned : Punctual { filmed with
        pipe := { filmed.pipe with
          source := filmed.pipe.source.holdAhead refType reference } } := by
      apply punctual.step
      · rfl
      · rfl
      · exact fun before => (unsynced before).elim
      · exact fun _ _ _ late => late
      intro _ type frame held
      left
      obtain ⟨stage, reads, all⟩ := reached
      obtain ⟨member, outside, current⟩ := (@held_iff
        { filmed.pipe with source := filmed.pipe.source.holdAhead refType reference }
        type stage [] frame reads all).mp held
      exact (held_iff reads all).mpr ⟨member, outside, currentBuf_holdAhead type frame current⟩
    have before : History { filmed with
        pipe := { filmed.pipe with
          source := filmed.pipe.source.holdAhead refType reference } } := by
      apply history.passes
      exact Passes.of_same rfl currentBuf_holdAhead
    exact punctual_combine before aligned synced (late_acquired aligned reached synced) waits

theorem punctual_videoAudioSync (history : History filmed) (punctual : Punctual filmed)
    (reads : filmed.pipe.reading = some (.check []))
    (before : filmed.pipe.source.avSynced = false) (clean : SyncsClean filmed.pipe) :
    Punctual { filmed with pipe := filmed.pipe.videoAudioSync } := by
  have nothing := (punctual.unsynced before).1
  have unheld (frame : Frame) (member : frame ∈ filmed.pipe.emittedFrames ++ filmed.pipe.origin) :
      False := by
    rw [nothing] at member
    cases member
  unfold AudioPipe.videoAudioSync
  split
  · exact punctual_end punctual (reached_waiting ⟨_, reads, rfl⟩)
  rename_i first found
  have clean := clean _ found
  split
  · rename_i drops
    rw [if_pos drops] at clean
    constructor
    · exact punctual.films
    · exact fun frame member => (unheld frame member).elim
    · intro synced
      cases synced
    · intro _ type member
      have late := clean type member
      simp only [waiting]
      have todo : type ∈ ((filmed.pipe.source.acquired.map (·.1)).filter
            fun type => (filmed.pipe.source.slots type).capture) ↔
          (filmed.pipe.source.slots type).currentBuf.isSome ∧
            (filmed.pipe.source.slots type).capture = true := by
        rw [List.mem_filter, AudioPipe.mem_acquired_types, AudioPipe.current, if_pos member]
      simp only [todo]
      exact late
    · intro _ type frame held
      cases held
  · rename_i keeps
    rw [if_neg keeps] at clean
    have synced : Punctual { filmed with
        pipe := { filmed.pipe with
          source := { filmed.pipe.source with avSynced := true } } } := by
      constructor
      · exact punctual.films
      · exact fun frame member => (unheld frame member).elim
      · intro unsynced
        cases unsynced
      · intro _ type member
        have waits : waiting filmed.pipe type = (filmed.pipe.capturers type).availBuffers :=
          reached_waiting ⟨_, reads, rfl⟩ type
        exact waits ▸ (clean type member).1
      · intro _ type frame held
        obtain ⟨member, -, current⟩ := (held_iff reads rfl).mp (Option.mem_toList.mp held)
        exact (clean type member).2 frame (Option.mem_toList.mpr current)
    have same : History { filmed with
        pipe := { filmed.pipe with
          source := { filmed.pipe.source with avSynced := true } } } := by
      apply history.passes
      exact Passes.of_same rfl fun _ _ current => current
    exact punctual_alignOrCombine same synced ⟨_, reads, rfl⟩ rfl

theorem punctual_acquireReady (history : History filmed) (punctual : Punctual filmed)
    (reads : filmed.pipe.reading = some (.check [])) (inTime : InTime filmed .proceed) :
    Punctual { filmed with pipe := filmed.pipe.acquireReady } := by
  have reached : AudioPipe.Reached filmed.pipe := ⟨_, reads, rfl⟩
  have ends := punctual_end punctual (reached_waiting reached)
  have synced (both : ¬ (filmed.pipe.source.recorderFileWithVideo = true ∧
      filmed.pipe.source.avSynced = false)) : filmed.pipe.source.avSynced = true := by
    simpa [punctual.films] using both
  unfold AudioPipe.acquireReady
  split
  · exact ends
  split
  · rename_i both
    exact punctual_videoAudioSync history punctual reads both.2 (inTime reads both.2)
  · rename_i both
    split
    · exact ends
    · exact punctual_alignOrCombine history punctual reached (synced both)

theorem punctual_slot (punctual : Punctual filmed) {slot : CaptureSlot}
    {rest : List AudioCaptureSourceType} (reads : filmed.pipe.reading = some stage)
    (before : AudioPipe.unreached stage = some todo)
    (keeps : ∀ other, other ≠ type → other ∉ rest → other ∉ todo)
    (front : ∀ frame, slot.currentBuf = some frame →
      type ∉ rest → frame ∈ (filmed.pipe.capturers type).availBuffers) :
    Punctual { filmed with
      pipe := { filmed.pipe with
        source := filmed.pipe.source.setSlot type slot
        reading := some (.check rest) } } := by
  have waits := waiting_of_unreached reads before
  apply punctual.step
  · rfl
  · rfl
  · exact fun _ => rfl
  · intro _ other _ late
    rwa [waits] at late
  intro _ other frame held
  obtain ⟨member, outside, current⟩ := (held_iff rfl rfl).mp held
  by_cases same : other = type
  · subst same
    right
    simp only [setSlot, update_self] at current
    rw [waits]
    exact ⟨member, front frame current outside⟩
  · left
    simp only [setSlot, update_of_ne same] at current
    exact (held_iff reads before).mpr ⟨member, keeps other same outside, current⟩

theorem acquire_eq (front : Option CacheBuffer) (source : AudioDataSourceGeneric) :
    ∃ slot : CaptureSlot, source.acquire type front = source.setSlot type slot ∧
      slot.currentBuf = front := by
  unfold AudioDataSourceGeneric.acquire
  split
  · exact ⟨_, rfl, rfl⟩
  · exact ⟨_, rfl, rfl⟩

theorem punctual_acquire (punctual : Punctual filmed) (todo : List AudioCaptureSourceType)
    (reads : filmed.pipe.reading = some (.acquire type todo)) :
    Punctual { filmed with
      pipe := { filmed.pipe with
        source := filmed.pipe.source.acquire type (filmed.pipe.capturers type).acquireAudioBuffer
        reading := some (.check todo) } } := by
  obtain ⟨slot, same, current⟩ := @acquire_eq type
    (filmed.pipe.capturers type).acquireAudioBuffer filmed.pipe.source
  rw [same]
  apply punctual_slot punctual reads rfl
  · intro other different outside member
    rcases List.mem_cons.mp member with equal | inside
    · exact different equal
    · exact outside inside
  · intro frame taken _
    rw [current, acquireAudioBuffer] at taken
    split at taken
    · exact List.mem_of_mem_head? taken
    · cases taken

theorem punctual_drop (history : History filmed) (punctual : Punctual filmed)
    (todo : List AudioCaptureSourceType)
    (reads : filmed.pipe.reading = some (.drop (type :: todo))) :
    Punctual { filmed with
      pipe := { filmed.pipe.setCapturer type ((filmed.pipe.capturers type).dropBufferUntil
          filmed.pipe.source.firstVideoFramePts) with
        reading := some (.drop todo) } } := by
  have left : ((filmed.pipe.capturers type).dropBufferUntil
      filmed.pipe.source.firstVideoFramePts).availBuffers =
      remaining filmed.pipe.source.firstVideoFramePts
        (filmed.pipe.capturers type).availBuffers := by
    unfold dropBufferUntil
    split
    · rename_i stopped
      rw [history.settled type (by simpa using stopped)]
      rfl
    · rfl
  have shorter (late : Late filmed.pipe.source.firstVideoFramePts
      (remaining filmed.pipe.source.firstVideoFramePts
        (filmed.pipe.capturers type).availBuffers)) :
      Late filmed.pipe.source.firstVideoFramePts (remaining filmed.pipe.source.firstVideoFramePts
          (remaining filmed.pipe.source.firstVideoFramePts
            (filmed.pipe.capturers type).availBuffers)) :=
    late_of_subset late (List.dropWhile_suffix _).subset
  apply punctual.step
  · rfl
  · rfl
  · intro before
    have early := (punctual.unsynced before).2
    rw [reads] at early
    cases early
  · intro _ other _ late
    simp only [waiting, reads] at late
    by_cases same : other = type
    · subst same
      rw [if_pos List.mem_cons_self] at late
      simp only [waiting, AudioPipe.setCapturer, update_self, left]
      split
      · exact shorter late
      · exact late
    · simp only [waiting, AudioPipe.setCapturer, update_of_ne same]
      simpa only [List.mem_cons, same, false_or] using late
  · intro _ other frame held
    cases held

theorem punctual_loses (punctual : Punctual filmed) {next : ReadStage}
    (loses : (filmed.pipe.capturers type).Loses queue gone recorded)
    (same : film { filmed.pipe with source := source } = film filmed.pipe)
    (reads : filmed.pipe.reading = some stage) (late : beforeSync (some stage) = false)
    (stays : ∀ todo, stage ≠ .drop todo ∧ next ≠ .drop todo)
    (holds : ∀ other frame, ({ filmed.pipe with source, reading := some next } : AudioPipe).held
      other = some frame → filmed.pipe.held other = some frame) :
    Punctual { filmed with
      pipe := { filmed.pipe.setCapturer type queue with source, reading := some next } } := by
  apply punctual.step
  · exact same
  · rfl
  · intro before
    have early := (punctual.unsynced before).2
    rw [reads, late] at early
    cases early
  · intro synced other _ before
    have shrunk := late_setCapturer gone queue.availBuffers [] loses.front
      (List.append_nil _).symm (fun _ none => by cases none) other before
    simp only [waiting, AudioPipe.setCapturer, reads] at shrunk ⊢
    split
    · rename_i todo drops
      exact absurd (Option.some.inj drops) (stays todo).2
    · split at shrunk
      · rename_i todo drops
        exact absurd (Option.some.inj drops) (stays todo).1
      · exact shrunk
  · exact fun _ other frame held => .inl (holds other frame held)

theorem punctual_proceed (history : History filmed) (punctual : Punctual filmed)
    (inTime : InTime filmed .proceed) :
    Punctual { filmed with pipe := filmed.pipe.proceed } := by
  unfold AudioPipe.proceed
  split
  case h_1 => exact punctual
  case h_2 reads => exact punctual_acquireReady history punctual reads inTime
  case h_3 type todo reads =>
    split
    · apply punctual.step
      · rfl
      · rfl
      · exact fun _ => rfl
      · intro _ other _ late
        simpa only [waiting, reads] using late
      · intro _ other frame held
        left
        simpa only [AudioPipe.held, reads, Option.bind_some, AudioPipe.unreached] using held
    · apply punctual_slot punctual reads rfl
      · intro other different outside member
        rcases List.mem_cons.mp member with equal | inside
        · exact different equal
        · exact outside inside
      · intro frame none
        cases none
  case h_4 type todo reads => exact punctual_acquire punctual todo reads
  case h_5 reads =>
    apply punctual_end punctual
    intro type
    simp [waiting, reads]
  case h_6 type todo reads => exact punctual_drop history punctual todo reads
  case h_7 reads =>
    have synced : filmed.pipe.source.avSynced = true := by
      cases done : filmed.pipe.source.avSynced with
      | false =>
        have early := (punctual.unsynced done).2
        rw [reads] at early
        cases early
      | true => rfl
    have reached : AudioPipe.Reached filmed.pipe := ⟨_, reads, rfl⟩
    exact punctual_combine history punctual synced (late_acquired punctual reached synced)
      (reached_waiting reached)
  case h_8 type todo reads =>
    have holds (other : AudioCaptureSourceType) (frame : CacheBuffer)
        (held : ({ filmed.pipe with
          source := filmed.pipe.source.clearCurrent type
          reading := some (.giveUp todo) } : AudioPipe).held other = some frame) :
        filmed.pipe.held other = some frame := by
      obtain ⟨member, outside, current⟩ := (held_iff rfl rfl).mp held
      apply (held_iff reads rfl).mpr
      refine ⟨member, ?_, currentBuf_clearCurrent other frame current⟩
      intro inside
      rcases List.mem_cons.mp inside with same | later
      · subst same
        simp [clearCurrent, setSlot] at current
      · exact outside later
    split
    · exact punctual_loses punctual (loses_giveUp (filmed.pipe.capturers type) _) rfl reads rfl
        (fun _ => ⟨by simp, by simp⟩) holds
    · exact punctual_loses punctual (AudioCapturerQueue.Loses.refl _) rfl reads rfl
        (fun _ => ⟨by simp, by simp⟩) holds
  case h_9 reads =>
    apply punctual_end punctual
    intro type
    simp [waiting, reads]
  case h_10 type todo reads =>
    split
    · exact punctual_loses punctual
        (loses_releaseAudioBuffer (filmed.pipe.capturers type)) rfl reads rfl
        (fun _ => ⟨by simp, by simp⟩) fun _ _ held => by cases held
    · exact punctual_loses punctual (AudioCapturerQueue.Loses.refl _) rfl reads rfl
        (fun _ => ⟨by simp, by simp⟩) fun _ _ held => by cases held

theorem punctual_next (history : History filmed) (punctual : Punctual filmed)
    (event : PipeEvent) (inTime : InTime filmed event) : Punctual (filmed.next event) := by
  cases event with
  | startCapturer type => exact punctual_setCapturer punctual (loses_start _)
  | stopCapturer type => exact punctual_setCapturer punctual (loses_stop _)
  | readData type desc => exact punctual_readData history punctual desc inTime
  | stop =>
    apply punctual.step
    · rfl
    · rfl
    · exact fun before => (punctual.unsynced before).2
    · exact fun _ _ _ late => late
    · exact fun _ _ _ held => .inl held
  | call call =>
    simp only [next, AudioPipe.next]
    split
    · exact punctual
    · rename_i idle
      exact punctual_handleCall punctual call (by simpa using idle) inTime
  | proceed => exact punctual_proceed history punctual inTime

theorem punctual_create (policy : AudioCombinePolicy) : Punctual (create policy) where
  films := rfl
  taken _ member := by cases member
  unsynced _ := ⟨rfl, rfl⟩
  queues synced := by cases synced
  holds synced := by cases synced

/-- As long as the synchronisation leaves no frame that ends before the first video frame and
none comes after it, none is emitted. -/
theorem nothing_early (policy : AudioCombinePolicy) (events : List PipeEvent)
    (inTime : Along next InTime (create policy) events) :
    NothingEarly (run next (create policy) events) := by
  have kept : History (run next (create policy) events) ∧
      Punctual (run next (create policy) events) := by
    refine invariant_of_along (fun filmed => History filmed ∧ Punctual filmed) ?_ inTime
      ⟨history_create policy, punctual_create policy⟩
    intro filmed event both clean
    exact ⟨history_next both.1 event, punctual_next both.1 both.2 event clean⟩
  intro frame emitted
  exact kept.2.taken frame (List.mem_append_left _ emitted)

section Runs

instance (filmed : FilmedPipe) (event : PipeEvent) : Decidable (InTime filmed event) := by
  unfold InTime
  split <;> infer_instance

/-- A microphone that is filmed from one second on, and hands over a frame at this time. -/
def filmedMicrophone (time : Int) : List PipeEvent :=
  [PipeEvent.call (.setOutputFormat 48000 2), .call (.setCapture .mic true), .startCapturer .mic,
    .call (.setVideoFirstFramePts 1000000000)] ++ AudioPipe.captures time

/-- An early frame is dropped by the synchronisation, and a later one is emitted. -/
theorem early_frame_dropped :
    let events := filmedMicrophone 900000000 ++ AudioPipe.captures 1000000000 ++
      [PipeEvent.call (.readAt {} 3840)]
    Along next InTime (create .passthrough) events ∧
      (run next (create .passthrough) events).pipe.emittedFrames = [(.mic, 1)] ∧
      NothingEarly (run next (create .passthrough) events) := by
  have clean : Along next InTime (create .passthrough) (filmedMicrophone 900000000 ++
      AudioPipe.captures 1000000000 ++ [PipeEvent.call (.readAt {} 3840)]) := by decide +kernel
  exact ⟨clean, by decide +kernel, nothing_early .passthrough _ clean⟩

/-- The sound inside starts slower than the microphone: its first frame ends 240 ms before
the first video frame, and is emitted. -/
theorem slow_source_starts_early :
    let events := filmedMicrophone 1000000000 ++
      [PipeEvent.call (.setCapture .allPlayback true), .startCapturer .allPlayback,
        .call (.readAt {} 3840)] ++ AudioPipe.round ++
      [PipeEvent.readData .allPlayback (AudioPipe.stereoFrame 500000000), .call .bufferAvailable] ++
      AudioPipe.round ++ AudioPipe.round ++ [PipeEvent.call (.readAt {} 3840)]
    ¬ NothingEarly (run next (create .passthrough) events) := by
  intro events
  have emitted : (.allPlayback, 0) ∈
      (run next (create .passthrough) events).pipe.emittedFrames := by decide +kernel
  intro nothing
  obtain ⟨captured, known, late⟩ := nothing _ emitted
  have early : (run next (create .passthrough) events).frames .allPlayback 0 =
      some (AudioCapturerQueue.createCacheBuffer .allPlayback 0
        (AudioPipe.stereoFrame 500000000)) := by decide +kernel
  rw [early, Option.some.injEq] at known
  subst known
  exact late (by decide +kernel)

end Runs

end FilmedPipe

end PlayerFramework.ScreenCapture
