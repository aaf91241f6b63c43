import Mathlib.Data.List.Infix
import Mathlib.Tactic.Ring
import PlayerFramework.Transition
import PlayerFramework.Pieces
import PlayerFramework.Utils.UriHelper

/-!
What a playing stream of the sound pool gives its renderer (`stream.cpp`).  Each callback of the
renderer asks for a buffer of a length of its own; the sound is copied into the buffers
`loop_ + 1` times, or without end where `loop_` is negative.
-/

namespace PlayerFramework.SoundPool

open Transition Pieces Utils

/-- The functions from elsewhere: the limit `SECUREC_MEM_MAX_LEN` of `memcpy_s`, and what
`MuteAudioBuffer` writes over a length, `none` where it fails. -/
structure BufferFunctions where
  memMaxLen : Nat
  muteAudioBuffer : Nat → Option (List UInt8)
  length_muted : ∀ length muted, muteAudioBuffer length = some muted → muted.length = length

def BufferFunctions.memcpyFails (functions : BufferFunctions) (destMax count : Nat) : Bool :=
  destMax == 0 || functions.memMaxLen < destMax || destMax < count

/-- The `AudioBufferEntry` of a sound, whose `size` is an `int32_t`. -/
structure SoundData where
  buffer : List UInt8
  positive : 0 < buffer.length
  fits : buffer.length < 2 ^ 31

def SoundData.size (sound : SoundData) : Nat := sound.buffer.length

/-- A `Stream` as its renderer's callbacks see it, with the tasks added to its stop pool, the
buffers enqueued and the parts of the sound read, each with its offset and its length. -/
structure RenderedStream where
  loop : Int32 := 0
  cacheDataFrameIndex : Nat := 0
  havePlayedCount : Int32 := 0
  audioRenderer : Bool := false
  isRunning : Bool := false
  startStopFlag : Bool := false
  streamStopThreadPool : Bool := true
  stopTasks : Nat := 0
  enqueued : List (List UInt8) := []
  reads : List (Nat × Nat) := []
deriving DecidableEq

namespace RenderedStream

/-- `DoPlay`; the environment says whether there is a renderer and whether it starts. -/
def doPlay (stream : RenderedStream) (loop : Int32) (prepared started : Bool) : RenderedStream :=
  if prepared then
    { stream with
      loop, audioRenderer := true, cacheDataFrameIndex := 0, havePlayedCount := 0
      isRunning := started }
  else { stream with audioRenderer := false }

def addStopTask (stream : RenderedStream) : RenderedStream :=
  if stream.streamStopThreadPool then
    { stream with stopTasks := stream.stopTasks + 1, startStopFlag := true }
  else { stream with startStopFlag := true }

/-- The buffer filled with the next `copyLength` bytes of the sound and then with `silence`. -/
def enqueue (sound : SoundData) (stream : RenderedStream) (copyLength : Nat)
    (silence : List UInt8) : RenderedStream :=
  let next := stream.cacheDataFrameIndex + copyLength
  { stream with
    cacheDataFrameIndex := next
    enqueued := stream.enqueued ++ [slice sound.buffer stream.cacheDataFrameIndex next ++ silence]
    reads := stream.reads ++ [(stream.cacheDataFrameIndex, copyLength)] }

def dealWriteData (functions : BufferFunctions) (sound : SoundData) (stream : RenderedStream)
    (length : Nat) : RenderedStream :=
  if stream.audioRenderer then
    let copyLength := sizeSub sound.size stream.cacheDataFrameIndex
    if length ≤ copyLength then
      if functions.memcpyFails length length then stream else stream.enqueue sound length []
    else
      match functions.muteAudioBuffer length with
      | none => stream
      | some muted =>
        if functions.memcpyFails length copyLength then stream
        else stream.enqueue sound copyLength (muted.drop copyLength)
  else stream

def onWriteData (functions : BufferFunctions) (sound : SoundData) (stream : RenderedStream)
    (length : Nat) : RenderedStream :=
  if ¬stream.audioRenderer ∨ ¬stream.isRunning ∨ stream.startStopFlag then stream
  else if sound.size ≤ stream.cacheDataFrameIndex then
    if 0 ≤ stream.loop ∧ stream.loop ≤ stream.havePlayedCount then stream.addStopTask
    else
      dealWriteData functions sound
        { stream with
          cacheDataFrameIndex := 0, havePlayedCount := stream.havePlayedCount + 1 } length
  else dealWriteData functions sound stream length

/-- What a new stream has done once it plays and its renderer has asked for these lengths. -/
def afterCallbacks (functions : BufferFunctions) (sound : SoundData) (loop : Int32)
    (lengths : List Nat) : RenderedStream :=
  run (onWriteData functions sound) (doPlay {} loop true true) lengths

/-- One copy of the sound as the renderer gets it.  Only its last buffer may go on beyond the
sound, and there it holds silence. -/
def IsCopy (functions : BufferFunctions) (sound : SoundData) (buffers : List (List UInt8)) : Prop :=
  ∃ front last silence, buffers = front ++ [last] ∧ buffers.flatten = sound.buffer ++ silence ∧
    silence.length < last.length ∧
    (silence = [] ∨ ∃ muted, functions.muteAudioBuffer last.length = some muted ∧ silence <:+ muted)

/-- The buffers are whole copies of the sound and then the beginning of one more. -/
structure Copies (functions : BufferFunctions) (sound : SoundData) (buffers : List (List UInt8))
    (copies : List (List (List UInt8))) (rest : List (List UInt8)) : Prop where
  parts : buffers = copies.flatten ++ rest
  whole : ∀ copy ∈ copies, IsCopy functions sound copy
  beginning : rest.flatten <+: sound.buffer
  unfinished : rest.flatten ≠ sound.buffer
  filled : ∀ buffer ∈ rest, buffer ≠ []

/-- How far the copy that is being written has come; at the end of the sound none is. -/
def progress (sound : SoundData) (stream : RenderedStream) : Nat :=
  if sound.size ≤ stream.cacheDataFrameIndex then 0 else stream.cacheDataFrameIndex

/-- The stream plays, and its fields tell what it has enqueued. -/
structure Written (functions : BufferFunctions) (sound : SoundData) (stream : RenderedStream)
    (copies : List (List (List UInt8))) (rest : List (List UInt8)) : Prop where
  renderer : stream.audioRenderer = true
  running : stream.isRunning = true
  stopPool : stream.streamStopThreadPool = true
  within : stream.cacheDataFrameIndex ≤ sound.size
  parts : stream.enqueued = copies.flatten ++ rest
  whole : ∀ copy ∈ copies, IsCopy functions sound copy
  unfinished : rest.flatten = slice sound.buffer 0 (progress sound stream)
  filled : ∀ buffer ∈ rest, buffer ≠ []
  played : 0 ≤ stream.havePlayedCount.toInt ∨ stream.loop.toInt < 0
  bounded : 0 ≤ stream.loop.toInt → stream.havePlayedCount.toInt ≤ stream.loop.toInt
  counted : 0 ≤ stream.loop.toInt → (copies.length : Int) = stream.havePlayedCount.toInt +
      if sound.size ≤ stream.cacheDataFrameIndex then 1 else 0
  stopped : stream.startStopFlag = true → 0 ≤ stream.loop.toInt ∧
    sound.size ≤ stream.cacheDataFrameIndex ∧ stream.loop.toInt ≤ stream.havePlayedCount.toInt
  tasks : stream.stopTasks = if stream.startStopFlag then 1 else 0
  copied : (stream.reads.map Prod.snd).sum = copies.length * sound.size + progress sound stream
  inside : ∀ read ∈ stream.reads, read.1 + read.2 ≤ sound.size

/-- Where the last copy is complete, the next one begins. -/
def nextCopy (sound : SoundData) (stream : RenderedStream) : RenderedStream :=
  if sound.size ≤ stream.cacheDataFrameIndex then
    { stream with cacheDataFrameIndex := 0, havePlayedCount := stream.havePlayedCount + 1 }
  else stream

/-- `memcpy_s` and `MuteAudioBuffer` work on a buffer of this length. -/
def accepts (functions : BufferFunctions) (length : Nat) : Bool :=
  length ≤ functions.memMaxLen && (functions.muteAudioBuffer length).isSome

/-- The sound has been copied as often as its loop count asks. -/
def Complete (sound : SoundData) (stream : RenderedStream) : Prop :=
  sound.size ≤ stream.cacheDataFrameIndex ∧ 0 ≤ stream.loop.toInt ∧
    stream.loop.toInt ≤ stream.havePlayedCount.toInt

section

variable {functions : BufferFunctions} {sound : SoundData} {stream : RenderedStream}
  {copies : List (List (List UInt8))} {rest : List (List UInt8)}

theorem size_positive (sound : SoundData) : 0 < sound.size := sound.positive

theorem toInt_succ {count limit : Int32} (below : count.toInt < limit.toInt) :
    (count + 1).toInt = count.toInt + 1 := by
  have upper := limit.toInt_lt
  have lower := count.le_toInt
  have sum : (count + 1).toInt = (count.toInt + 1).bmod 4294967296 := by
    rw [Int32.toInt_add]
    rfl
  rw [sum, Int.bmod_def]
  split_ifs <;> omega

theorem written_doPlay (loop : Int32) :
    Written functions sound (doPlay {} loop true true) [] [] := by
  have positive := size_positive sound
  have early : ¬sound.size ≤ 0 := by omega
  constructor
  case bounded => exact fun nonnegative => nonnegative
  all_goals simp [doPlay, progress, slice, early]

theorem Written.nextCopy (written : Written functions sound stream copies rest)
    (incomplete : ¬Complete sound stream) (playing : stream.startStopFlag = false) :
    Written functions sound (nextCopy sound stream) copies rest := by
  unfold RenderedStream.nextCopy
  split
  case isFalse => exact written
  case isTrue ended =>
    have positive := size_positive sound
    have early : ¬sound.size ≤ 0 := by omega
    have below : 0 ≤ stream.loop.toInt → stream.havePlayedCount.toInt < stream.loop.toInt := by
      intro nonnegative
      by_contra above
      exact incomplete ⟨ended, nonnegative, by omega⟩
    have succ : 0 ≤ stream.loop.toInt →
        (stream.havePlayedCount + 1).toInt = stream.havePlayedCount.toInt + 1 :=
      fun nonnegative => toInt_succ (below nonnegative)
    have counted := written.counted
    have unfinished := written.unfinished
    have copied := written.copied
    simp only [progress, ended, if_true] at counted unfinished copied
    exact {
      written with
      within := Nat.zero_le _
      unfinished := by simpa only [progress, early, if_false] using unfinished
      played := by
        by_cases nonnegative : 0 ≤ stream.loop.toInt
        · have next := succ nonnegative
          left
          simp only [next]
          omega
        · exact Or.inr (Int.not_le.mp nonnegative)
      bounded := by
        intro nonnegative
        have next := succ nonnegative
        have room := below nonnegative
        simp only [next]
        omega
      counted := by
        intro nonnegative
        have next := succ nonnegative
        have count := counted nonnegative
        simp only [next, early, if_false]
        omega
      stopped := by
        intro flag
        rw [playing] at flag
        cases flag
      copied := by simpa only [progress, early, if_false] using copied }

theorem nextCopy_index (sound : SoundData) (stream : RenderedStream) :
    (nextCopy sound stream).cacheDataFrameIndex < sound.size := by
  have positive := size_positive sound
  unfold nextCopy
  split
  · exact positive
  · omega

@[simp] theorem nextCopy_startStopFlag (sound : SoundData) (stream : RenderedStream) :
    (nextCopy sound stream).startStopFlag = stream.startStopFlag := by
  unfold nextCopy
  split <;> rfl

@[simp] theorem nextCopy_enqueued (sound : SoundData) (stream : RenderedStream) :
    (nextCopy sound stream).enqueued = stream.enqueued := by
  unfold nextCopy
  split <;> rfl

@[simp] theorem nextCopy_reads (sound : SoundData) (stream : RenderedStream) :
    (nextCopy sound stream).reads = stream.reads := by
  unfold nextCopy
  split <;> rfl

@[simp] theorem nextCopy_loop (sound : SoundData) (stream : RenderedStream) :
    (nextCopy sound stream).loop = stream.loop := by
  unfold nextCopy
  split <;> rfl

variable {length : Nat}

theorem Written.enqueue_part (written : Written functions sound stream copies rest)
    (playing : stream.startStopFlag = false) (asked : 0 < length)
    (before : stream.cacheDataFrameIndex + length < sound.size) :
    Written functions sound (stream.enqueue sound length []) copies
      (rest ++ [slice sound.buffer stream.cacheDataFrameIndex
        (stream.cacheDataFrameIndex + length)]) := by
  have early : ¬sound.size ≤ stream.cacheDataFrameIndex := by omega
  have later : ¬sound.size ≤ stream.cacheDataFrameIndex + length := by omega
  have size : sound.size = sound.buffer.length := rfl
  have pieceLength : (slice sound.buffer stream.cacheDataFrameIndex
      (stream.cacheDataFrameIndex + length)).length = length := by
    rw [length_slice (by omega)]
    omega
  have unfinished := written.unfinished
  have copied := written.copied
  have counted := written.counted
  simp only [progress, early, if_false] at unfinished copied counted
  exact {
    written with
    within := Nat.le_of_lt before
    parts := by simp [enqueue, written.parts]
    unfinished := by
      rw [List.flatten_append, unfinished, List.flatten_singleton,
        slice_append (Nat.zero_le _) (Nat.le_add_right _ _)]
      simp [progress, enqueue, later]
    filled := by
      intro buffer inside
      rcases List.mem_append.mp inside with old | new
      · exact written.filled buffer old
      rw [List.mem_singleton.mp new]
      intro empty
      rw [empty] at pieceLength
      simp only [List.length_nil] at pieceLength
      omega
    counted := by simpa only [enqueue, later, if_false] using counted
    stopped := by
      intro flag
      simp only [enqueue, playing] at flag
      cases flag
    copied := by
      simp only [enqueue, progress, later, if_false, List.map_append, List.sum_append, copied,
        List.map_cons, List.map_nil, List.sum_cons, List.sum_nil]
      omega
    inside := by
      intro read inside
      rcases List.mem_append.mp inside with old | new
      · exact written.inside read old
      · rw [List.mem_singleton.mp new]
        exact Nat.le_of_lt before }

theorem Written.enqueue_last (written : Written functions sound stream copies rest)
    (playing : stream.startStopFlag = false)
    (early : stream.cacheDataFrameIndex < sound.size) {copyLength : Nat} {silence : List UInt8}
    (left : stream.cacheDataFrameIndex + copyLength = sound.size)
    (silent : silence = [] ∨ ∃ muted,
      functions.muteAudioBuffer (copyLength + silence.length) = some muted ∧ silence <:+ muted) :
    Written functions sound (stream.enqueue sound copyLength silence)
      (copies ++ [rest ++ [slice sound.buffer stream.cacheDataFrameIndex
        (stream.cacheDataFrameIndex + copyLength) ++ silence]]) [] := by
  have notEnded : ¬sound.size ≤ stream.cacheDataFrameIndex := by omega
  have ended : sound.size ≤ stream.cacheDataFrameIndex + copyLength := by omega
  have size : sound.size = sound.buffer.length := rfl
  have pieceLength : (slice sound.buffer stream.cacheDataFrameIndex
      (stream.cacheDataFrameIndex + copyLength)).length = copyLength := by
    rw [length_slice (by omega)]
    omega
  have unfinished := written.unfinished
  have copied := written.copied
  have counted := written.counted
  simp only [progress, notEnded, if_false] at unfinished copied counted
  have copy : IsCopy functions sound (rest ++ [slice sound.buffer stream.cacheDataFrameIndex
      (stream.cacheDataFrameIndex + copyLength) ++ silence]) := by
    have lastLength : (slice sound.buffer stream.cacheDataFrameIndex
        (stream.cacheDataFrameIndex + copyLength) ++ silence).length =
          copyLength + silence.length := by
      rw [List.length_append, pieceLength]
    have whole : slice sound.buffer 0 (stream.cacheDataFrameIndex + copyLength) = sound.buffer := by
      rw [left, slice, List.drop_zero, Nat.sub_zero, size, List.take_length]
    refine ⟨rest, _, silence, rfl, ?_, ?_, ?_⟩
    · rw [List.flatten_append, unfinished, List.flatten_singleton, ← List.append_assoc,
        slice_append (Nat.zero_le _) (Nat.le_add_right _ _), whole]
    · rw [lastLength]
      omega
    · rw [lastLength]
      exact silent
  exact {
    written with
    within := Nat.le_of_eq left
    parts := by simp [enqueue, written.parts]
    whole := by
      intro candidate inside
      rcases List.mem_append.mp inside with old | new
      · exact written.whole candidate old
      · rw [List.mem_singleton.mp new]
        exact copy
    unfinished := by simp [progress, enqueue, ended, slice]
    filled := by simp
    counted := by
      intro nonnegative
      have count := counted nonnegative
      simp only [enqueue, ended, if_true, List.length_append, List.length_singleton]
      omega
    stopped := by
      intro flag
      simp only [enqueue, playing] at flag
      cases flag
    copied := by
      simp only [enqueue, progress, ended, if_true, List.map_append, List.sum_append, copied,
        List.map_cons, List.map_nil, List.sum_cons, List.sum_nil, List.length_append,
        List.length_singleton, Nat.add_mul]
      omega
    inside := by
      intro read inside
      rcases List.mem_append.mp inside with old | new
      · exact written.inside read old
      · rw [List.mem_singleton.mp new]
        exact Nat.le_of_eq left }

theorem written_addStopTask (written : Written functions sound stream copies rest)
    (playing : stream.startStopFlag = false) (complete : Complete sound stream) :
    Written functions sound stream.addStopTask copies rest := by
  have pool := written.stopPool
  have tasks := written.tasks
  rw [playing] at tasks
  unfold addStopTask
  rw [if_pos pool]
  exact {
    written with
    stopped := fun _ => ⟨complete.2.1, complete.1, complete.2.2⟩
    tasks := by simp [tasks] }

inductive WriteEffect (functions : BufferFunctions) (sound : SoundData) (stream : RenderedStream)
    (length : Nat) : RenderedStream → Prop
  | stopped (flag : stream.startStopFlag = true) :
      WriteEffect functions sound stream length stream
  | completed (playing : stream.startStopFlag = false) (complete : Complete sound stream) :
      WriteEffect functions sound stream length stream.addStopTask
  | refused (playing : stream.startStopFlag = false) (incomplete : ¬Complete sound stream)
      (refusal : accepts functions length = false) :
      WriteEffect functions sound stream length (nextCopy sound stream)
  | inside (playing : stream.startStopFlag = false) (incomplete : ¬Complete sound stream)
      (fits : (nextCopy sound stream).cacheDataFrameIndex + length ≤ sound.size) :
      WriteEffect functions sound stream length ((nextCopy sound stream).enqueue sound length [])
  | last (playing : stream.startStopFlag = false) (incomplete : ¬Complete sound stream)
      (copyLength : Nat) (muted : List UInt8)
      (left : (nextCopy sound stream).cacheDataFrameIndex + copyLength = sound.size)
      (short : copyLength < length) (mute : functions.muteAudioBuffer length = some muted) :
      WriteEffect functions sound stream length
        ((nextCopy sound stream).enqueue sound copyLength (muted.drop copyLength))

theorem onWriteData_playing (renderer : stream.audioRenderer = true)
    (running : stream.isRunning = true) (playing : stream.startStopFlag = false) (length : Nat) :
    onWriteData functions sound stream length =
      if sound.size ≤ stream.cacheDataFrameIndex ∧ 0 ≤ stream.loop ∧
          stream.loop ≤ stream.havePlayedCount then stream.addStopTask
      else dealWriteData functions sound (nextCopy sound stream) length := by
  unfold onWriteData nextCopy
  rw [if_neg (by simp [renderer, running, playing])]
  by_cases ended : sound.size ≤ stream.cacheDataFrameIndex
  · simp only [ended, if_true, true_and]
  · simp [ended]

theorem dealWriteData_effect {next : RenderedStream} (renderer : next.audioRenderer = true)
    (early : next.cacheDataFrameIndex < sound.size) (asked : 0 < length) :
    (accepts functions length = false ∧ dealWriteData functions sound next length = next) ∨
      (next.cacheDataFrameIndex + length ≤ sound.size ∧
        dealWriteData functions sound next length = next.enqueue sound length []) ∨
      ∃ copyLength muted, next.cacheDataFrameIndex + copyLength = sound.size ∧
        copyLength < length ∧ functions.muteAudioBuffer length = some muted ∧
        dealWriteData functions sound next length =
          next.enqueue sound copyLength (muted.drop copyLength) := by
  have remaining := sizeSub_of_le (Nat.le_of_lt early)
  have refusal {copyLength : Nat} (short : copyLength ≤ length)
      (fails : functions.memcpyFails length copyLength = true) :
      accepts functions length = false := by
    have large : functions.memMaxLen < length := by
      simp only [BufferFunctions.memcpyFails, Bool.or_eq_true, beq_iff_eq,
        decide_eq_true_eq] at fails
      omega
    simp only [accepts, Bool.and_eq_false_iff, decide_eq_false_iff_not]
    exact Or.inl (by omega)
  unfold dealWriteData
  simp only [renderer, if_true, remaining]
  by_cases fits : length ≤ sound.size - next.cacheDataFrameIndex
  · rw [if_pos fits]
    cases fails : functions.memcpyFails length length with
    | true => exact Or.inl ⟨refusal (Nat.le_refl length) fails, rfl⟩
    | false => exact Or.inr (Or.inl ⟨by omega, rfl⟩)
  · rw [if_neg fits]
    cases mute : functions.muteAudioBuffer length with
    | none => exact Or.inl ⟨by simp [accepts, mute], rfl⟩
    | some muted =>
      cases fails : functions.memcpyFails length (sound.size - next.cacheDataFrameIndex) with
      | true => exact Or.inl ⟨refusal (by omega) fails, by simp⟩
      | false =>
        exact Or.inr (Or.inr ⟨sound.size - next.cacheDataFrameIndex, muted, by omega,
          by omega, rfl, by simp⟩)

theorem onWriteData_effect (written : Written functions sound stream copies rest)
    (asked : 0 < length) :
    WriteEffect functions sound stream length (onWriteData functions sound stream length) := by
  cases playing : stream.startStopFlag with
  | true =>
    have same : onWriteData functions sound stream length = stream := by
      rw [onWriteData, if_pos (by simp [playing])]
    rw [same]
    exact .stopped playing
  | false =>
    rw [onWriteData_playing written.renderer written.running playing]
    by_cases complete : Complete sound stream
    · have ends : sound.size ≤ stream.cacheDataFrameIndex ∧ 0 ≤ stream.loop ∧
          stream.loop ≤ stream.havePlayedCount := by
        refine ⟨complete.1, ?_, Int32.le_iff_toInt_le.mpr complete.2.2⟩
        rw [Int32.le_iff_toInt_le]
        exact complete.2.1
      rw [if_pos ends]
      exact .completed playing complete
    · have continues : ¬(sound.size ≤ stream.cacheDataFrameIndex ∧ 0 ≤ stream.loop ∧
          stream.loop ≤ stream.havePlayedCount) := by
        intro ends
        have nonnegative := Int32.le_iff_toInt_le.mp ends.2.1
        exact complete ⟨ends.1, nonnegative, Int32.le_iff_toInt_le.mp ends.2.2⟩
      rw [if_neg continues]
      have next := written.nextCopy complete playing
      have effect : (accepts functions length = false ∧ _) ∨ _ :=
        dealWriteData_effect next.renderer (nextCopy_index sound stream) asked
      rcases effect with ⟨refusal, same⟩ | ⟨fits, same⟩ | ⟨copyLength, muted, left, short,
        mute, same⟩
      · rw [same]
        exact .refused playing complete refusal
      · rw [same]
        exact .inside playing complete fits
      · rw [same]
        exact .last playing complete copyLength muted left short mute

theorem Written.onWriteData (written : Written functions sound stream copies rest)
    (asked : 0 < length) : ∃ copies rest,
      Written functions sound (onWriteData functions sound stream length) copies rest := by
  have effect := onWriteData_effect written asked
  revert effect
  generalize RenderedStream.onWriteData functions sound stream length = next
  intro effect
  cases effect with
  | stopped flag => exact ⟨copies, rest, written⟩
  | completed playing complete => exact ⟨copies, rest, written_addStopTask written playing complete⟩
  | refused playing incomplete refusal => exact ⟨copies, rest, written.nextCopy incomplete playing⟩
  | inside playing incomplete fits =>
    have begun := written.nextCopy incomplete playing
    have still : (RenderedStream.nextCopy sound stream).startStopFlag = false := by
      rw [nextCopy_startStopFlag, playing]
    rcases Nat.lt_or_eq_of_le fits with before | left
    · exact ⟨_, _, begun.enqueue_part still asked before⟩
    · exact ⟨_, _, begun.enqueue_last still (nextCopy_index sound stream) left (Or.inl rfl)⟩
  | last playing incomplete copyLength muted left short mute =>
    have begun := written.nextCopy incomplete playing
    have still : (RenderedStream.nextCopy sound stream).startStopFlag = false := by
      rw [nextCopy_startStopFlag, playing]
    have total : copyLength + (muted.drop copyLength).length = length := by
      have whole := functions.length_muted length muted mute
      rw [List.length_drop]
      omega
    have silent : ∃ muted', functions.muteAudioBuffer
        (copyLength + (muted.drop copyLength).length) = some muted' ∧
          muted.drop copyLength <:+ muted' := by
      rw [total]
      exact ⟨muted, mute, List.drop_suffix copyLength muted⟩
    exact ⟨_, _, begun.enqueue_last still (nextCopy_index sound stream) left (Or.inr silent)⟩

/-- How many bytes of the sound have been copied. -/
def copiedBytes (stream : RenderedStream) : Nat := (stream.reads.map Prod.snd).sum

theorem copiedBytes_enqueue (length : Nat) (silence : List UInt8) :
    copiedBytes (stream.enqueue sound length silence) = copiedBytes stream + length := by
  simp [copiedBytes, enqueue]

theorem copiedBytes_nextCopy (sound : SoundData) (stream : RenderedStream) :
    copiedBytes (nextCopy sound stream) = copiedBytes stream := by
  rw [copiedBytes, nextCopy_reads, copiedBytes]

theorem copiedBytes_onWriteData (written : Written functions sound stream copies rest)
    (asked : 0 < length) :
    (onWriteData functions sound stream length).startStopFlag = true ∨
      copiedBytes stream + [length].countP (accepts functions) ≤
        copiedBytes (onWriteData functions sound stream length) := by
  have effect := onWriteData_effect written asked
  have atMostOne : [length].countP (accepts functions) ≤ 1 := List.countP_le_length
  revert effect
  generalize onWriteData functions sound stream length = next
  intro effect
  cases effect with
  | stopped flag => exact Or.inl flag
  | completed playing complete =>
    left
    unfold addStopTask
    split <;> rfl
  | refused playing incomplete refusal =>
    right
    rw [copiedBytes_nextCopy, List.countP_singleton, refusal]
    exact Nat.le_refl _
  | inside playing incomplete fits =>
    right
    rw [copiedBytes_enqueue, copiedBytes_nextCopy]
    omega
  | last playing incomplete copyLength muted left short mute =>
    have early := nextCopy_index sound stream
    right
    rw [copiedBytes_enqueue, copiedBytes_nextCopy]
    omega

theorem enqueued_onWriteData (written : Written functions sound stream copies rest)
    (asked : 0 < length) :
    List.Sublist ((onWriteData functions sound stream length).enqueued.map List.length)
      (stream.enqueued.map List.length ++ [length]) := by
  have effect := onWriteData_effect written asked
  revert effect
  generalize onWriteData functions sound stream length = next
  intro effect
  have kept := List.sublist_append_left (stream.enqueued.map List.length) [length]
  have size : sound.size = sound.buffer.length := rfl
  cases effect with
  | stopped flag => exact kept
  | completed playing complete =>
    unfold addStopTask
    split <;> exact kept
  | refused playing incomplete refusal =>
    rw [nextCopy_enqueued]
    exact kept
  | inside playing incomplete fits =>
    simp only [enqueue, nextCopy_enqueued, List.map_append, List.map_cons, List.map_nil,
      List.append_nil, length_slice (Nat.le_trans fits (Nat.le_of_eq size))]
    rw [Nat.add_sub_cancel_left]
  | last playing incomplete copyLength muted left short mute =>
    have whole := functions.length_muted length muted mute
    simp only [enqueue, nextCopy_enqueued, List.map_append, List.map_cons, List.map_nil,
      List.length_append, List.length_drop, whole,
      length_slice (Nat.le_of_eq (left.trans size))]
    rw [Nat.add_sub_cancel_left, Nat.add_sub_cancel' (Nat.le_of_lt short)]

theorem onWriteData_loop (written : Written functions sound stream copies rest)
    (asked : 0 < length) :
    (onWriteData functions sound stream length).loop = stream.loop := by
  have effect := onWriteData_effect written asked
  revert effect
  generalize onWriteData functions sound stream length = next
  intro effect
  cases effect with
  | stopped flag => rfl
  | completed playing complete =>
    unfold addStopTask
    split <;> rfl
  | refused playing incomplete refusal | inside playing incomplete fits
  | last playing incomplete copyLength muted left short mute => exact nextCopy_loop sound stream

theorem onWriteData_stopped (flag : stream.startStopFlag = true) (length : Nat) :
    onWriteData functions sound stream length = stream := by
  rw [onWriteData, if_pos (by simp [flag])]

theorem run_stopped (flag : stream.startStopFlag = true) (lengths : List Nat) :
    run (onWriteData functions sound) stream lengths = stream := by
  induction lengths with
  | nil => rfl
  | cons length lengths ih => rw [run_cons, onWriteData_stopped flag, ih]

theorem run_written (written : Written functions sound stream copies rest) {lengths : List Nat}
    (asked : ∀ length ∈ lengths, 0 < length) :
    (∃ copies rest,
      Written functions sound (run (onWriteData functions sound) stream lengths) copies rest) ∧
    ((run (onWriteData functions sound) stream lengths).startStopFlag = true ∨
      copiedBytes stream + lengths.countP (accepts functions) ≤
        copiedBytes (run (onWriteData functions sound) stream lengths)) ∧
    List.Sublist ((run (onWriteData functions sound) stream lengths).enqueued.map List.length)
      (stream.enqueued.map List.length ++ lengths) ∧
    (run (onWriteData functions sound) stream lengths).loop = stream.loop := by
  induction lengths generalizing stream copies rest with
  | nil =>
    rw [List.append_nil]
    exact ⟨⟨copies, rest, written⟩, Or.inr (by simp), List.Sublist.refl _, rfl⟩
  | cons length lengths ih =>
    have now := asked length List.mem_cons_self
    obtain ⟨later, remaining, next⟩ := written.onWriteData now
    obtain ⟨kept, grows, order, loop⟩ := ih next (fun length inside =>
      asked length (List.mem_cons_of_mem _ inside))
    refine ⟨kept, ?_, ?_, loop.trans (onWriteData_loop written now)⟩
    · rcases copiedBytes_onWriteData written now with flag | more
      · left
        rw [run_cons, run_stopped flag]
        exact flag
      · rcases grows with flag | growth
        · exact Or.inl flag
        right
        have split : (length :: lengths).countP (accepts functions) =
            [length].countP (accepts functions) + lengths.countP (accepts functions) := by
          rw [← List.countP_append, List.singleton_append]
        rw [run_cons]
        omega
    · have first := enqueued_onWriteData written now
      have both := order.trans (first.append_right lengths)
      simpa using both

theorem progress_lt (sound : SoundData) (stream : RenderedStream) :
    progress sound stream < sound.size := by
  have positive := size_positive sound
  unfold progress
  split <;> omega

theorem Written.enqueuedCopies (written : Written functions sound stream copies rest) :
    Copies functions sound stream.enqueued copies rest := by
  have short : (slice sound.buffer 0 (progress sound stream)).length < sound.buffer.length := by
    have early : progress sound stream < sound.buffer.length := progress_lt sound stream
    rw [length_slice (Nat.le_of_lt early)]
    omega
  constructor
  case parts => exact written.parts
  case whole => exact written.whole
  case beginning =>
    rw [written.unfinished]
    exact List.take_prefix _ _
  case unfinished =>
    intro finished
    rw [written.unfinished] at finished
    rw [finished] at short
    exact Nat.lt_irrefl _ short
  case filled => exact written.filled

theorem Written.rest_nil (written : Written functions sound stream copies rest)
    (ended : sound.size ≤ stream.cacheDataFrameIndex) : rest = [] := by
  have flat := written.unfinished
  rw [progress, if_pos ended, slice, List.take_zero, List.flatten_eq_nil_iff] at flat
  cases rest with
  | nil => rfl
  | cons first others =>
    exact absurd (flat first List.mem_cons_self) (written.filled first List.mem_cons_self)

theorem Written.bounds (written : Written functions sound stream copies rest)
    (nonnegative : 0 ≤ stream.loop.toInt) :
    (copies.length : Int) ≤ stream.loop.toInt + 1 ∧
      ((copies.length : Int) = stream.loop.toInt + 1 → rest = []) ∧
      (stream.startStopFlag = true → (copies.length : Int) = stream.loop.toInt + 1) := by
  have counted := written.counted nonnegative
  have bounded := written.bounded nonnegative
  refine ⟨?_, ?_, ?_⟩
  · split at counted <;> omega
  · intro full
    apply written.rest_nil
    by_contra early
    omega
  · intro flag
    obtain ⟨-, ended, reached⟩ := written.stopped flag
    omega

/-- Until the stop task is added, so many bytes are at most copied. -/
theorem Written.copied_le (written : Written functions sound stream copies rest)
    (nonnegative : 0 ≤ stream.loop.toInt) :
    (copiedBytes stream : Int) ≤ (stream.loop.toInt + 1) * sound.size := by
  have total : copiedBytes stream = copies.length * sound.size + progress sound stream :=
    written.copied
  have early := progress_lt sound stream
  obtain ⟨most, full, -⟩ := written.bounds nonnegative
  have counted := written.counted nonnegative
  have bounded := written.bounded nonnegative
  have count : (copiedBytes stream : Int) = copies.length * sound.size + progress sound stream := by
    exact_mod_cast total
  by_cases ended : sound.size ≤ stream.cacheDataFrameIndex
  · have none : progress sound stream = 0 := if_pos ended
    have product := Int.mul_le_mul_of_nonneg_right most (Int.natCast_nonneg sound.size)
    rw [count, none]
    simpa using product
  · have less : (copies.length : Int) ≤ stream.loop.toInt := by omega
    have product := Int.mul_le_mul_of_nonneg_right less (Int.natCast_nonneg sound.size)
    calc (copiedBytes stream : Int) = copies.length * sound.size + progress sound stream := count
      _ ≤ stream.loop.toInt * sound.size + sound.size := by omega
      _ = (stream.loop.toInt + 1) * sound.size := by ring

end

/-- The loop count decides how often the sound is copied, whatever the lengths asked for: the
buffers hold whole copies and the beginning of the next; once there are `loop + 1` of them one
stop task is added and then nothing changes; below zero the copies never end. -/
theorem loop_playback_exact (functions : BufferFunctions) (sound : SoundData) (loop : Int32)
    (lengths : List Nat) (asked : ∀ length ∈ lengths, 0 < length) :
    (∀ read ∈ (afterCallbacks functions sound loop lengths).reads, read.1 + read.2 ≤ sound.size) ∧
    List.Sublist ((afterCallbacks functions sound loop lengths).enqueued.map List.length) lengths ∧
    (0 ≤ loop.toInt →
      (∃ copies rest,
        Copies functions sound (afterCallbacks functions sound loop lengths).enqueued copies rest ∧
        (copies.length : Int) ≤ loop.toInt + 1 ∧
        ((copies.length : Int) = loop.toInt + 1 → rest = []) ∧
        (0 < (afterCallbacks functions sound loop lengths).stopTasks →
          (copies.length : Int) = loop.toInt + 1)) ∧
      (0 < (afterCallbacks functions sound loop lengths).stopTasks →
        (afterCallbacks functions sound loop lengths).stopTasks = 1 ∧
        ∀ later, afterCallbacks functions sound loop (lengths ++ later) =
          afterCallbacks functions sound loop lengths) ∧
      ((loop.toInt + 1) * sound.size < lengths.countP (accepts functions) →
        (afterCallbacks functions sound loop lengths).stopTasks = 1)) ∧
    (loop.toInt < 0 → (afterCallbacks functions sound loop lengths).stopTasks = 0 ∧
      ∃ copies rest,
        Copies functions sound (afterCallbacks functions sound loop lengths).enqueued copies rest ∧
        ∀ count, count * sound.size ≤ lengths.countP (accepts functions) →
          count ≤ copies.length) := by
  have begun : Written functions sound (doPlay {} loop true true) [] [] := written_doPlay loop
  obtain ⟨⟨copies, rest, written⟩, grows, order, kept⟩ := run_written begun asked
  have same : run (onWriteData functions sound) (doPlay {} loop true true) lengths =
      afterCallbacks functions sound loop lengths := rfl
  rw [same] at written grows order kept
  have looping : (afterCallbacks functions sound loop lengths).loop = loop := kept
  have later (more : List Nat) : afterCallbacks functions sound loop (lengths ++ more) =
      run (onWriteData functions sound) (afterCallbacks functions sound loop lengths) more :=
    run_append _ _ _ _
  have start : copiedBytes (doPlay {} loop true true) = 0 := rfl
  have tasks := written.tasks
  revert written grows order tasks looping later
  generalize afterCallbacks functions sound loop lengths = stream
  intro written grows order looping later tasks
  subst looping
  have ended (added : 0 < stream.stopTasks) : stream.startStopFlag = true := by
    cases flag : stream.startStopFlag with
    | true => rfl
    | false =>
      rw [tasks, flag] at added
      exact absurd added (by decide)
  refine ⟨written.inside, by simpa [doPlay] using order, ?_, ?_⟩
  · intro nonnegative
    obtain ⟨most, full, stops⟩ := written.bounds nonnegative
    refine ⟨⟨copies, rest, written.enqueuedCopies, most, full, fun added => stops (ended added)⟩,
      ?_, ?_⟩
    · intro added
      have flag := ended added
      refine ⟨by rw [tasks, flag]; rfl, ?_⟩
      intro more
      rw [later more, run_stopped flag]
    · intro enough
      rcases grows with flag | growth
      · rw [tasks, flag]
        rfl
      · have bound := written.copied_le nonnegative
        omega
  · intro negative
    have playing : stream.startStopFlag = false := by
      cases flag : stream.startStopFlag with
      | false => rfl
      | true =>
        have nonnegative := (written.stopped flag).1
        omega
    refine ⟨by rw [tasks, playing]; rfl, copies, rest, written.enqueuedCopies, ?_⟩
    intro count enough
    rcases grows with flag | growth
    · rw [playing] at flag
      cases flag
    have total : copiedBytes stream = copies.length * sound.size + progress sound stream :=
      written.copied
    have early := progress_lt sound stream
    have less : count * sound.size < (copies.length + 1) * sound.size := by
      rw [Nat.add_mul]
      omega
    exact Nat.le_of_lt_succ (Nat.lt_of_mul_lt_mul_right less)

/-- Silence of zeros for every length but 0, and the limit of `securec`. -/
def zeroSilence : BufferFunctions where
  memMaxLen := 0x7fffffff
  muteAudioBuffer := fun length => if length = 0 then none else some (List.replicate length 0)
  length_muted := by
    intro length muted mute
    split at mute
    · cases mute
    · rw [← Option.some.inj mute, List.length_replicate]

def threeBytes : SoundData := ⟨[1, 2, 3], by decide, by decide⟩

theorem loop_playback_exact_twice :
    (afterCallbacks zeroSilence threeBytes 1 [2, 4, 5, 1]).enqueued =
      [[1, 2], [3, 0, 0, 0], [1, 2, 3, 0, 0]] ∧
    ∀ later, afterCallbacks zeroSilence threeBytes 1 ([2, 4, 5, 1] ++ later) =
      afterCallbacks zeroSilence threeBytes 1 [2, 4, 5, 1] :=
  ⟨by decide, (((loop_playback_exact zeroSilence threeBytes 1 [2, 4, 5, 1] (by decide)).2.2.1
      (by decide)).2.1 (by decide)).2⟩

end RenderedStream

end PlayerFramework.SoundPool
