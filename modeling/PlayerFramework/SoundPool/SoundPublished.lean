import PlayerFramework.SoundPool.SoundParser

/-!
What is published of a decoded sound: in which order it is announced, when it is the whole of
what was received, and which callbacks give their output buffer back and leave the lock free.
-/

namespace PlayerFramework.SoundPool

open Transition ReceivedSound

namespace SoundDecoderCallback

theorem combine_of_fits {entries : List (List UInt8)} {remaining : Nat}
    (fits : entries.flatten.length ≤ remaining) :
    combine entries remaining = some entries.flatten := by
  induction entries generalizing remaining with
  | nil => rfl
  | cons entry entries ih =>
    rw [List.flatten_cons, List.length_append] at fits
    rw [combine, if_neg (by omega), ih (by omega)]
    rfl

/-- The callback finds the end of the stream, or the cap exceeded. -/
def Completes (decoder : SoundDecoderCallback) (output : OutputBuffer) : Prop :=
  output.buffer.isSome ∧ decoder.decodeShouldCompleted = false ∧
    (maxSoundBufferSize < decoder.currentSoundBufferSize ∨ output.endOfStream)

/-- The callback finds a size out of range. -/
def Refuses (decoder : SoundDecoderCallback) (output : OutputBuffer) : Prop :=
  output.buffer.isSome ∧ decoder.decodeShouldCompleted = false ∧
    ¬(maxSoundBufferSize < decoder.currentSoundBufferSize ∨ output.endOfStream) ∧
    (output.size ≤ 0 ∨ maxCodecBufferSize < output.size)

/-- The buffers of the sound put together, with what the failed ones leave unwritten. -/
def recombined (decoder : SoundDecoderCallback) : PcmBytes :=
  decoder.availableAudioBuffers.flatten.map some ++ List.replicate (decoder.currentSoundBufferSize -
      decoder.availableAudioBuffers.flatten.length) none

/-- `SetAudioSharedMemory` succeeds after `ReCombineCacheData`. -/
def Shares (decoder : SoundDecoderCallback) (allocations : Allocations) : Prop :=
  allocations.full = true ∧ 0 < decoder.currentSoundBufferSize ∧
    allocations.sharedMemory = true ∧ allocations.sharedCopy = true

instance (decoder : SoundDecoderCallback) (output : OutputBuffer) :
    Decidable (decoder.Completes output) := inferInstanceAs (Decidable (_ ∧ _ ∧ _))

instance (decoder : SoundDecoderCallback) (output : OutputBuffer) :
    Decidable (decoder.Refuses output) := inferInstanceAs (Decidable (_ ∧ _ ∧ _ ∧ _))

instance (decoder : SoundDecoderCallback) (allocations : Allocations) :
    Decidable (decoder.Shares allocations) := inferInstanceAs (Decidable (_ ∧ _ ∧ _ ∧ _))

/-- All that is reported of a sound, in order. -/
def publication (data : Option PcmBytes) (size : Nat) : List SoundEvent :=
  [.soundDecodeCompleted data, .soundBufferTotalSize size, .audioSharedMemory (data.getD []),
    .loadCompleted]

def SoundEvent.released : SoundEvent → Option Nat
  | .outputReleased index => some index
  | _ => none

/-- The output buffers given back to the decoder. -/
def released (decoder : SoundDecoderCallback) : List Nat :=
  decoder.events.filterMap SoundEvent.released

def reports (decoder : SoundDecoderCallback) : List SoundEvent :=
  decoder.events.filter (fun event => (SoundEvent.released event).isNone)

structure Receiving (decoder : SoundDecoderCallback) (sound : ReceivedSound) : Prop where
  decoded : decoder.isRawFile = false
  listener : decoder.listener = true
  unlocked : decoder.amutexLocked = false
  incomplete : decoder.decodeShouldCompleted = false
  unpublished : decoder.fullPcmBuffer = none
  unreported : decoder.reports = []
  size : decoder.currentSoundBufferSize = sound.bytes.length
  stored : List.Sublist decoder.availableAudioBuffers.flatten sound.bytes
  unended : sound.ended = false

section

variable {decoder : SoundDecoderCallback} {sound : ReceivedSound} {output : OutputBuffer}

theorem reCombineCacheData_eq
    (fits : decoder.availableAudioBuffers.flatten.length ≤ decoder.currentSoundBufferSize)
    (empty : decoder.fullPcmBuffer = none) (allocated : Bool) :
    { decoder with decodeShouldCompleted := true }.reCombineCacheData allocated =
      { decoder with
        decodeShouldCompleted := true
        fullPcmBuffer := if allocated then some decoder.recombined else none
        availableAudioBuffers :=
          if allocated then [] else decoder.availableAudioBuffers } := by
  cases allocated with
  | true =>
    have whole := combine_of_fits fits
    simp [reCombineCacheData, whole, recombined]
  | false =>
    cases decoder
    simp_all [reCombineCacheData]

theorem completeDecoding_spec (receiving : Receiving decoder sound) (allocations : Allocations) :
    (decoder.completeDecoding allocations).events = decoder.events ++
      (publication (if allocations.full then some decoder.recombined else none)
        decoder.currentSoundBufferSize).take
          (if decoder.Shares allocations then if decoder.callback then 4 else 3 else 2) ∧
    (decoder.completeDecoding allocations).amutexLocked = !decide (decoder.Shares allocations) ∧
    (decoder.completeDecoding allocations).decodeShouldCompleted = true ∧
    (decoder.completeDecoding allocations).isRawFile = false := by
  have listening := receiving.listener
  have unlocked := receiving.unlocked
  have decoded := receiving.decoded
  have fits : decoder.availableAudioBuffers.flatten.length ≤ decoder.currentSoundBufferSize := by
    rw [receiving.size]
    exact receiving.stored.length_le
  unfold completeDecoding
  rw [reCombineCacheData_eq fits receiving.unpublished]
  simp only [listening, if_true]
  cases full : allocations.full with
  | false => simp [notifyListener, report, setAudioSharedMemory, Shares, full, publication, decoded]
  | true =>
    by_cases shares : decoder.Shares allocations
    · have all := shares.2
      cases decoder.callback <;>
        simp [notifyListener, report, setAudioSharedMemory, shares, all.1, all.2.1, all.2.2,
          publication, decoded, unlocked]
    · have missing : ¬(0 < decoder.currentSoundBufferSize ∧ allocations.sharedMemory = true ∧
          allocations.sharedCopy = true) := fun all => shares ⟨full, all⟩
      simp [notifyListener, report, setAudioSharedMemory, shares, missing, publication, decoded]

theorem receive_more {sound : ReceivedSound} (unended : sound.ended = false) {endOfStream : Bool}
    (more : ¬(maxSoundBufferSize < sound.bytes.length ∨ endOfStream = true))
    (bytes : List UInt8) :
    sound.receive endOfStream bytes = { sound with bytes := sound.bytes ++ bytes } := by
  rw [receive, if_neg (by simp [unended]), if_neg more]

/-- A callback before the end receives the buffer's data, and gives the buffer back unless it
refuses its size. -/
theorem onOutputBufferAvailable_receiving (receiving : Receiving decoder sound)
    (continues : ¬decoder.Completes output) :
    Receiving (decoder.onOutputBufferAvailable output) (sound.receiveOutput output) ∧
    (decoder.onOutputBufferAvailable output).events =
      decoder.events ++ if decoder.Refuses output then [] else [.outputReleased output.index] := by
  have decoded := receiving.decoded
  have unlocked := receiving.unlocked
  have incomplete := receiving.incomplete
  have size := receiving.size
  have unended := receiving.unended
  have released : Receiving (decoder.report [.outputReleased output.index]) sound := {
    receiving with
    unreported := by
      have before := receiving.unreported
      simp only [reports, report, List.filter_append] at before ⊢
      rw [before]
      rfl }
  unfold onOutputBufferAvailable receiveOutput
  simp only [unlocked, decoded, incomplete, Bool.false_eq_true, if_false]
  cases buffer : output.buffer with
  | none =>
    have accepted : ¬decoder.Refuses output := by simp [Refuses, buffer]
    rw [if_neg accepted]
    exact ⟨released, rfl⟩
  | some memory =>
    have more : ¬(maxSoundBufferSize < decoder.currentSoundBufferSize ∨
        output.endOfStream = true) := by
      intro ends
      exact continues ⟨by rw [buffer]; rfl, incomplete, ends⟩
    have moreBytes : ¬(maxSoundBufferSize < sound.bytes.length ∨ output.endOfStream = true) := by
      rw [← size]
      exact more
    simp only [more, if_false, receive_more unended moreBytes, validBytes]
    by_cases invalid : output.size ≤ 0 ∨ maxCodecBufferSize < output.size
    · have refuses : decoder.Refuses output :=
        ⟨by rw [buffer]; rfl, incomplete, more, invalid⟩
      simp only [invalid, refuses, if_true, List.append_nil]
      exact ⟨receiving, trivial⟩
    · have accepted : ¬decoder.Refuses output := fun refuses => invalid refuses.2.2.2
      simp only [invalid, accepted, if_false]
      refine ⟨?_, rfl⟩
      exact {
        released with
        size := by
          simp [report, storeBuffer, size]
        stored := by
          simp only [report, storeBuffer]
          split
          · rw [List.flatten_append, List.flatten_singleton]
            exact receiving.stored.append_right _
          · exact receiving.stored.trans (List.sublist_append_left _ _)
        unended := unended }

theorem onOutputBufferAvailable_completes (receiving : Receiving decoder sound)
    (completes : decoder.Completes output) :
    decoder.onOutputBufferAvailable output = decoder.completeDecoding output.allocations ∧
      sound.receiveOutput output = { sound with ended := true } := by
  have decoded := receiving.decoded
  have unlocked := receiving.unlocked
  have unended := receiving.unended
  obtain ⟨present, incomplete, ends⟩ := completes
  obtain ⟨memory, buffer⟩ := Option.isSome_iff_exists.mp present
  have endsBytes : maxSoundBufferSize < sound.bytes.length ∨ output.endOfStream = true := by
    rw [← receiving.size]
    exact ends
  unfold onOutputBufferAvailable receiveOutput
  simp only [buffer, unlocked, decoded, incomplete, ends, Bool.false_eq_true, if_false, if_true,
    receive, unended, endsBytes]
  exact ⟨trivial, trivial⟩

theorem onOutputBufferAvailable_completed (decoded : decoder.isRawFile = false)
    (completed : decoder.decodeShouldCompleted = true) (output : OutputBuffer) :
    decoder.onOutputBufferAvailable output =
      if decoder.amutexLocked then decoder else decoder.report [.outputReleased output.index] := by
  unfold onOutputBufferAvailable
  rw [decoded, completed]
  cases output.buffer <;> simp

theorem run_completed (decoded : decoder.isRawFile = false)
    (completed : decoder.decodeShouldCompleted = true) (outputs : List OutputBuffer) :
    (run onOutputBufferAvailable decoder outputs).events = decoder.events ++
      (if decoder.amutexLocked then [] else
        outputs.map (fun output => SoundEvent.outputReleased output.index)) ∧
    (run onOutputBufferAvailable decoder outputs).amutexLocked = decoder.amutexLocked := by
  induction outputs generalizing decoder with
  | nil => simp
  | cons output outputs ih =>
    rw [run_cons, onOutputBufferAvailable_completed decoded completed]
    cases locked : decoder.amutexLocked with
    | true =>
      have rest := ih decoded completed
      simpa [locked] using rest
    | false =>
      have rest := @ih (decoder.report [.outputReleased output.index]) decoded completed
      have same : (decoder.report [.outputReleased output.index]).amutexLocked = false := locked
      rw [same] at rest
      simp only [Bool.false_eq_true, if_false, List.map_cons] at rest ⊢
      refine ⟨?_, rest.2⟩
      rw [rest.1]
      simp [report]

theorem receive_ended {sound : ReceivedSound} (ended : sound.ended = true)
    (outputs : List OutputBuffer) :
    run receiveOutput sound outputs = sound := by
  induction outputs with
  | nil => rfl
  | cons output outputs ih =>
    have same : sound.receiveOutput output = sound := by
      unfold receiveOutput receive
      cases output.buffer <;> simp [ended]
    rw [run_cons, same, ih]

theorem publication_not_released {data : Option PcmBytes} {size : Nat} {event : SoundEvent}
    (inside : event ∈ publication data size) : SoundEvent.released event = none := by
  simp only [publication, List.mem_cons, List.not_mem_nil, or_false] at inside
  rcases inside with rfl | rfl | rfl | rfl <;> rfl

theorem mem_take_publication {data other : Option PcmBytes} {size count : Nat} :
    .soundDecodeCompleted other ∈ (publication data size).take (count + 1) ↔ other = data := by
  rw [publication, List.take_succ_cons, List.mem_cons]
  constructor
  · rintro (same | later)
    · exact SoundEvent.soundDecodeCompleted.inj same
    · have inside := List.mem_of_mem_take later
      simp at inside
  · rintro rfl
    exact Or.inl rfl

theorem filterMap_take_publication (data : Option PcmBytes) (size count : Nat) :
    ((publication data size).take count).filterMap SoundEvent.released = [] :=
  List.filterMap_eq_nil_iff.mpr (fun _ inside =>
    publication_not_released (List.mem_of_mem_take inside))

theorem filter_take_publication (data : Option PcmBytes) (size count : Nat) :
    ((publication data size).take count).filter
      (fun event => (SoundEvent.released event).isNone) = (publication data size).take count :=
  List.filter_eq_self.mpr (fun _ inside => by
    rw [publication_not_released (List.mem_of_mem_take inside)]
    rfl)

theorem along_completed (decoded : decoder.isRawFile = false)
    (completed : decoder.decodeShouldCompleted = true) (outputs : List OutputBuffer) :
    Along onOutputBufferAvailable (fun decoder output => ¬decoder.Completes output) decoder
      outputs := by
  induction outputs generalizing decoder with
  | nil => trivial
  | cons output outputs ih =>
    refine ⟨fun completes => by simp [completes.2.1] at completed, ?_⟩
    rw [onOutputBufferAvailable_completed decoded completed]
    split
    · exact ih decoded completed
    · exact @ih (decoder.report [.outputReleased output.index]) decoded completed

/-- What the callbacks up to the completing one and after it have done. -/
structure Completed (decoder : SoundDecoderCallback) (sound : ReceivedSound)
    (before : List OutputBuffer) (output : OutputBuffer) (after : List OutputBuffer) : Prop where
  earlier : Along onOutputBufferAvailable (fun decoder output => ¬decoder.Completes output)
    decoder before
  receiving : Receiving (run onOutputBufferAvailable decoder before)
    (run receiveOutput sound before)
  completes : (run onOutputBufferAvailable decoder before).Completes output
  later : Along onOutputBufferAvailable (fun decoder output => ¬decoder.Completes output)
    ((run onOutputBufferAvailable decoder before).onOutputBufferAvailable output) after
  events : (run onOutputBufferAvailable decoder (before ++ output :: after)).events =
    (run onOutputBufferAvailable decoder before).events ++ (publication
        (if output.allocations.full then
          some (run onOutputBufferAvailable decoder before).recombined else none)
        (run onOutputBufferAvailable decoder before).currentSoundBufferSize).take
          (if (run onOutputBufferAvailable decoder before).Shares output.allocations then
            if (run onOutputBufferAvailable decoder before).callback then 4 else 3 else 2) ++
      if (run onOutputBufferAvailable decoder before).Shares output.allocations then
        after.map (fun output => SoundEvent.outputReleased output.index) else []
  locked : (run onOutputBufferAvailable decoder (before ++ output :: after)).amutexLocked =
    !decide ((run onOutputBufferAvailable decoder before).Shares output.allocations)
  sound : run receiveOutput sound (before ++ output :: after) =
    { run receiveOutput sound before with ended := true }

theorem completed_now (receiving : Receiving decoder sound)
    (completes : decoder.Completes output) (after : List OutputBuffer) :
    Completed decoder sound [] output after := by
  obtain ⟨same, ended⟩ := onOutputBufferAvailable_completes receiving completes
  obtain ⟨events, locked, completed, decoded⟩ :=
    completeDecoding_spec receiving output.allocations
  obtain ⟨laterEvents, laterLocked⟩ := run_completed decoded completed after
  constructor
  case earlier => trivial
  case receiving => exact receiving
  case completes => exact completes
  case later =>
    rw [run_nil, same]
    exact along_completed decoded completed after
  case events =>
    rw [List.nil_append, run_cons, run_nil, same, laterEvents, events, locked]
    by_cases shares : decoder.Shares output.allocations <;> simp [shares]
  case locked =>
    rw [List.nil_append, run_cons, run_nil, same, laterLocked, locked]
  case sound =>
    rw [List.nil_append, run_cons, ended]
    exact receive_ended rfl after

theorem run_receiving (receiving : Receiving decoder sound) (outputs : List OutputBuffer) :
    (Along onOutputBufferAvailable (fun decoder output => ¬decoder.Completes output) decoder
        outputs ∧
      Receiving (run onOutputBufferAvailable decoder outputs) (run receiveOutput sound outputs)) ∨
    ∃ before output after, outputs = before ++ output :: after ∧
      Completed decoder sound before output after := by
  induction outputs generalizing decoder sound with
  | nil => exact Or.inl ⟨trivial, receiving⟩
  | cons output outputs ih =>
    by_cases completes : decoder.Completes output
    · exact Or.inr ⟨[], output, outputs, rfl, completed_now receiving completes outputs⟩
    have next := (onOutputBufferAvailable_receiving receiving completes).1
    rcases ih next with ⟨along, still⟩ | ⟨before, last, after, rfl, completed⟩
    · exact Or.inl ⟨⟨completes, along⟩, still⟩
    · exact Or.inr ⟨output :: before, last, after, rfl,
        { completed with earlier := ⟨completes, completed.earlier⟩ }⟩

theorem Completed.along_iff {before after : List OutputBuffer}
    (completed : Completed decoder sound before output after)
    {guard : SoundDecoderCallback → OutputBuffer → Prop}
    (only : ∀ decoder output, ¬Completes decoder output → guard decoder output) :
    Along onOutputBufferAvailable guard decoder (before ++ output :: after) ↔
      guard (run onOutputBufferAvailable decoder before) output := by
  rw [along_append]
  constructor
  · intro along
    exact along.2.1
  · intro met
    exact ⟨completed.earlier.weaken only, met, completed.later.weaken only⟩

theorem Completed.reports_eq {before after : List OutputBuffer}
    (completed : Completed decoder sound before output after) :
    (run onOutputBufferAvailable decoder (before ++ output :: after)).reports = (publication
        (if output.allocations.full then
          some (run onOutputBufferAvailable decoder before).recombined else none)
        (run receiveOutput sound (before ++ output :: after)).bytes.length).take
          (if (run onOutputBufferAvailable decoder before).Shares output.allocations then
            if (run onOutputBufferAvailable decoder before).callback then 4 else 3 else 2) := by
  have unreported := completed.receiving.unreported
  have given : ((if (run onOutputBufferAvailable decoder before).Shares output.allocations then
      after.map (fun output => SoundEvent.outputReleased output.index) else []).filter
        (fun event => (SoundEvent.released event).isNone)) = [] := by
    rw [List.filter_eq_nil_iff]
    intro event inside
    split at inside
    · obtain ⟨_, _, rfl⟩ := List.mem_map.mp inside
      simp [SoundEvent.released]
    · cases inside
  rw [reports] at unreported
  rw [reports, completed.events, List.filter_append, List.filter_append, unreported, given,
    filter_take_publication, completed.sound, completed.receiving.size, List.nil_append,
    List.append_nil]

/-- What is reported of a sound is a beginning of the publication, in its order. -/
theorem reports_prefix (receiving : Receiving decoder sound) (outputs : List OutputBuffer) :
    ∃ data, (run onOutputBufferAvailable decoder outputs).reports <+:
      publication data (run receiveOutput sound outputs).bytes.length := by
  rcases run_receiving receiving outputs with ⟨-, still⟩ | ⟨before, output, after, rfl, completed⟩
  · refine ⟨none, ?_⟩
    rw [still.unreported]
    exact List.nil_prefix
  · rw [completed.reports_eq]
    exact ⟨_, List.take_prefix _ _⟩

theorem mem_reports {event : SoundEvent} (unreleased : SoundEvent.released event = none) :
    event ∈ decoder.events ↔ event ∈ decoder.reports := by
  rw [reports, List.mem_filter, unreleased]
  simp

/-- No buffer was lost: the stored ones hold all the bytes counted. -/
def Lossless (decoder : SoundDecoderCallback) : Prop :=
  decoder.availableAudioBuffers.flatten.length = decoder.currentSoundBufferSize

theorem recombined_eq_iff (receiving : Receiving decoder sound) :
    decoder.recombined = sound.bytes.map some ↔ decoder.Lossless := by
  have size := receiving.size
  have stored := receiving.stored
  have most := stored.length_le
  unfold recombined Lossless
  constructor
  · intro whole
    by_contra lost
    have unwritten : none ∈ decoder.availableAudioBuffers.flatten.map some ++
        List.replicate (decoder.currentSoundBufferSize -
          decoder.availableAudioBuffers.flatten.length) none := by
      rw [List.mem_append, List.mem_replicate]
      exact Or.inr ⟨by omega, rfl⟩
    rw [whole] at unwritten
    simp at unwritten
  · intro whole
    have same := stored.eq_of_length (whole.trans size)
    rw [same, size, Nat.sub_self, List.replicate_zero, List.append_nil]

/-- The data published is what was received, exactly where the completing callback can put the
buffers together and none was lost. -/
theorem published_iff (receiving : Receiving decoder sound) (outputs : List OutputBuffer) :
    (∀ data, .soundDecodeCompleted data ∈ (run onOutputBufferAvailable decoder outputs).events →
      data = some ((run receiveOutput sound outputs).bytes.map some)) ↔
    Along onOutputBufferAvailable (fun decoder output => decoder.Completes output →
      output.allocations.full = true ∧ decoder.Lossless) decoder outputs := by
  rcases run_receiving receiving outputs with ⟨along, still⟩ | ⟨before, output, after, rfl,
    completed⟩
  · refine iff_of_true ?_ (along.weaken (fun _ _ continues completes =>
      absurd completes continues))
    intro data published
    rw [mem_reports rfl, still.unreported] at published
    cases published
  · have only : ∀ decoder output, ¬Completes decoder output → Completes decoder output →
        output.allocations.full = true ∧ decoder.Lossless :=
      fun _ _ continues completes => absurd completes continues
    rw [completed.along_iff only]
    have one (data : Option PcmBytes) : .soundDecodeCompleted data ∈
        (run onOutputBufferAvailable decoder (before ++ output :: after)).events ↔
          data = if output.allocations.full then
            some (run onOutputBufferAvailable decoder before).recombined else none := by
      rw [mem_reports rfl, completed.reports_eq]
      split_ifs <;> simp [publication]
    have whole := recombined_eq_iff completed.receiving
    simp only [one, forall_eq, completed.sound]
    cases full : output.allocations.full with
    | false => simp [completed.completes]
    | true => simp [completed.completes, whole]

theorem unlocked_iff (receiving : Receiving decoder sound) (outputs : List OutputBuffer) :
    (run onOutputBufferAvailable decoder outputs).amutexLocked = false ↔
    Along onOutputBufferAvailable (fun decoder output => decoder.Completes output →
      decoder.Shares output.allocations) decoder outputs := by
  rcases run_receiving receiving outputs with ⟨along, still⟩ | ⟨before, output, after, rfl,
    completed⟩
  · exact iff_of_true still.unlocked (along.weaken (fun _ _ continues completes =>
      absurd completes continues))
  have only : ∀ decoder output, ¬Completes decoder output → Completes decoder output →
      decoder.Shares output.allocations :=
    fun _ _ continues completes => absurd completes continues
  rw [completed.along_iff only, completed.locked]
  simp [completed.completes]

theorem released_of_events {first second : List SoundEvent}
    (events : decoder.events = first ++ second) :
    decoder.released = first.filterMap SoundEvent.released ++
      second.filterMap SoundEvent.released := by
  rw [released, events, List.filterMap_append]

theorem filterMap_outputReleased (outputs : List OutputBuffer) :
    (outputs.map (fun output => SoundEvent.outputReleased output.index)).filterMap
      SoundEvent.released = outputs.map OutputBuffer.index := by
  induction outputs with
  | nil => rfl
  | cons output outputs ih => simpa [SoundEvent.released] using ih

theorem released_completes (receiving : Receiving decoder sound)
    (completes : decoder.Completes output) (outputs : List OutputBuffer) :
    (run onOutputBufferAvailable decoder (output :: outputs)).released.length ≤
      decoder.released.length + outputs.length := by
  have events := (completed_now receiving completes outputs).events
  rw [List.nil_append] at events
  rw [released, events, List.filterMap_append, List.filterMap_append,
    filterMap_take_publication, released]
  split
  · rw [filterMap_outputReleased]
    simp
  · simp

theorem released_length_le (receiving : Receiving decoder sound) (outputs : List OutputBuffer) :
    (run onOutputBufferAvailable decoder outputs).released.length ≤
      decoder.released.length + outputs.length := by
  induction outputs generalizing decoder sound with
  | nil => exact Nat.le_refl _
  | cons output outputs ih =>
    by_cases completes : decoder.Completes output
    · have most := released_completes receiving completes outputs
      rw [List.length_cons]
      omega
    · obtain ⟨next, events⟩ := onOutputBufferAvailable_receiving receiving completes
      have rest := ih next
      have now : (decoder.onOutputBufferAvailable output).released.length ≤
          decoder.released.length + 1 := by
        rw [released_of_events events, released]
        split <;> simp [SoundEvent.released]
      rw [run_cons, List.length_cons]
      omega

/-- Every output buffer is given back exactly where no callback completes the sound or refuses a
size. -/
theorem released_iff (receiving : Receiving decoder sound) (outputs : List OutputBuffer) :
    (run onOutputBufferAvailable decoder outputs).released =
      decoder.released ++ outputs.map OutputBuffer.index ↔
    Along onOutputBufferAvailable (fun decoder output => ¬decoder.Completes output ∧
      ¬decoder.Refuses output) decoder outputs := by
  induction outputs generalizing decoder sound with
  | nil => simp [Along]
  | cons output outputs ih =>
    by_cases completes : decoder.Completes output
    · refine iff_of_false ?_ (fun along => along.1.1 completes)
      intro all
      have most := released_completes receiving completes outputs
      rw [all, List.length_append, List.length_map, List.length_cons] at most
      omega
    · obtain ⟨next, events⟩ := onOutputBufferAvailable_receiving receiving completes
      by_cases refuses : decoder.Refuses output
      · refine iff_of_false ?_ (fun along => along.1.2 refuses)
        intro all
        have most := released_length_le next outputs
        rw [if_pos refuses, List.append_nil] at events
        rw [run_cons] at all
        rw [all, List.length_append, List.length_map, List.length_cons, released,
          released, events] at most
        omega
      · rw [if_neg refuses] at events
        have one : (decoder.onOutputBufferAvailable output).released =
            decoder.released ++ [output.index] := released_of_events events
        have rest := ih next
        rw [one, List.append_assoc] at rest
        simp only [run_cons, List.map_cons, Along]
        rw [show output.index :: outputs.map OutputBuffer.index =
          [output.index] ++ outputs.map OutputBuffer.index from rfl, rest]
        simp [completes, refuses]

/-- A raw file is still being read; nothing was lost, since the loop ends where a copy fails. -/
structure Splicing (decoder : SoundDecoderCallback) (sound : ReceivedSound) : Prop where
  listener : decoder.listener = true
  incomplete : decoder.decodeShouldCompleted = false
  unpublished : decoder.fullPcmBuffer = none
  unreported : decoder.events = []
  size : decoder.currentSoundBufferSize = sound.bytes.length
  stored : decoder.availableAudioBuffers.flatten = sound.bytes
  unended : sound.ended = false

/-- The sample that ends the sound, if the loop gets so far, finds memory for the whole. -/
def SamplesRecombine : Nat → List RawSample → Prop
  | _, [] => True
  | size, raw :: rest =>
    match raw.sample with
    | none => True
    | some (bytes, endOfStream) =>
      if raw.memory = false then True
      else if maxSoundBufferSize < size ∨ endOfStream then raw.allocations.full = true
      else if raw.allocations.buffer ∧ raw.allocations.copy ∧ bytes ≠ [] then
        SamplesRecombine (size + bytes.length) rest
      else True

theorem dealBufferRawFile_completes (splicing : Splicing decoder sound) {raw : RawSample}
    {bytes : List UInt8} {endOfStream : Bool} (memory : raw.memory = true)
    (sample : raw.sample = some (bytes, endOfStream))
    (ends : maxSoundBufferSize < decoder.currentSoundBufferSize ∨ endOfStream = true) :
    (∃ count, (decoder.dealBufferRawFile raw).2.events =
      (publication (if raw.allocations.full then some decoder.recombined else none)
        decoder.currentSoundBufferSize).take (count + 1)) ∧
    ((decoder.dealBufferRawFile raw).1 = true →
      (decoder.dealBufferRawFile raw).2.decodeShouldCompleted = true) := by
  have listening := splicing.listener
  have unreported := splicing.unreported
  have fits : decoder.availableAudioBuffers.flatten.length ≤ decoder.currentSoundBufferSize := by
    rw [splicing.size, splicing.stored]
  unfold dealBufferRawFile
  simp only [memory, sample, splicing.incomplete, ends, if_true, Bool.false_eq_true,
    not_false_eq_true, true_and, reCombineCacheData_eq fits splicing.unpublished]
  simp only [listening, if_true]
  cases full : raw.allocations.full with
  | false =>
    refine ⟨⟨1, ?_⟩, ?_⟩
    · simp [notifyListener, report, setAudioSharedMemory, publication, unreported]
    · simp [notifyListener, report, setAudioSharedMemory]
  | true =>
    by_cases shares : 0 < decoder.currentSoundBufferSize ∧
        raw.allocations.sharedMemory = true ∧ raw.allocations.sharedCopy = true
    · cases decoder.callback with
      | false =>
        refine ⟨⟨2, ?_⟩, ?_⟩
        · simp [notifyListener, report, setAudioSharedMemory, shares, publication, unreported]
        · simp [notifyListener, report, setAudioSharedMemory, shares]
      | true =>
        refine ⟨⟨3, ?_⟩, ?_⟩
        · simp [notifyListener, report, setAudioSharedMemory, shares, publication, unreported]
        · simp [notifyListener, report, setAudioSharedMemory, shares]
    · refine ⟨⟨1, ?_⟩, ?_⟩
      · simp [notifyListener, report, setAudioSharedMemory, shares, publication, unreported]
      · simp [notifyListener, report, setAudioSharedMemory, shares]

theorem spliceFullPcmInRawFile_completed (completed : decoder.decodeShouldCompleted = true)
    (samples : List RawSample) : decoder.spliceFullPcmInRawFile samples = decoder := by
  cases samples with
  | nil => rfl
  | cons raw rest => rw [spliceFullPcmInRawFile, if_pos completed]

theorem spliceFullPcmInRawFile_cons (incomplete : decoder.decodeShouldCompleted = false)
    (raw : RawSample) (samples : List RawSample) :
    decoder.spliceFullPcmInRawFile (raw :: samples) =
      if (decoder.dealBufferRawFile raw).1 then
        (decoder.dealBufferRawFile raw).2.spliceFullPcmInRawFile samples
      else (decoder.dealBufferRawFile raw).2 := by
  rw [spliceFullPcmInRawFile, if_neg (by simp [incomplete])]
  cases decoder.dealBufferRawFile raw with
  | mk ok next => cases ok <;> rfl

theorem receiveSample_ended {sound : ReceivedSound} (ended : sound.ended = true)
    (samples : List RawSample) :
    run receiveSample sound samples = sound := by
  induction samples with
  | nil => rfl
  | cons raw samples ih =>
    have same : sound.receiveSample raw = sound := by
      unfold receiveSample receive
      cases raw.sample <;> simp [ended]
    rw [run_cons, same, ih]

/-- What is reported of a raw file, and when its data is the whole of what was read. -/
theorem splice_published (splicing : Splicing decoder sound) (samples : List RawSample) :
    (∃ data, (decoder.spliceFullPcmInRawFile samples).events <+:
      publication data (run receiveSample sound samples).bytes.length) ∧
    ((∀ data, .soundDecodeCompleted data ∈ (decoder.spliceFullPcmInRawFile samples).events →
      data = some ((run receiveSample sound samples).bytes.map some)) ↔
        SamplesRecombine decoder.currentSoundBufferSize samples) := by
  have nothing {events : List SoundEvent} (none : events = []) {size : Nat} {bytes : PcmBytes} :
      (∃ data, events <+: publication data size) ∧
        ((∀ data, .soundDecodeCompleted data ∈ events → data = some bytes) ↔ True) := by
    subst none
    exact ⟨⟨Option.none, List.nil_prefix⟩, by simp⟩
  induction samples generalizing decoder sound with
  | nil => exact nothing splicing.unreported
  | cons raw samples ih =>
    rw [spliceFullPcmInRawFile_cons splicing.incomplete, SamplesRecombine]
    cases sample : raw.sample with
    | none =>
      have fails : decoder.dealBufferRawFile raw = (false, decoder) := by
        unfold dealBufferRawFile
        cases raw.memory <;> simp [sample]
      simp only [fails, Bool.false_eq_true, if_false]
      exact nothing splicing.unreported
    | some read =>
      obtain ⟨bytes, endOfStream⟩ := read
      cases memory : raw.memory with
      | false =>
        have fails : decoder.dealBufferRawFile raw = (false, decoder) := by
          simp [dealBufferRawFile, memory]
        simp only [fails, Bool.false_eq_true, if_false, if_true]
        exact nothing splicing.unreported
      | true =>
        by_cases ends : maxSoundBufferSize < decoder.currentSoundBufferSize ∨ endOfStream = true
        · obtain ⟨⟨count, events⟩, completed⟩ :=
            dealBufferRawFile_completes splicing memory sample ends
          have received : sound.receiveSample raw = { sound with ended := true } := by
            rw [splicing.size] at ends
            simp [receiveSample, sample, receive, splicing.unended, ends]
          have same : (if (decoder.dealBufferRawFile raw).1 then
              (decoder.dealBufferRawFile raw).2.spliceFullPcmInRawFile samples
              else (decoder.dealBufferRawFile raw).2) = (decoder.dealBufferRawFile raw).2 := by
            split
            case isTrue ok =>
              exact spliceFullPcmInRawFile_completed (completed ok) samples
            case isFalse => rfl
          have whole : decoder.recombined = sound.bytes.map some := by
            rw [recombined, splicing.stored, splicing.size, Nat.sub_self,
              List.replicate_zero, List.append_nil]
          rw [same, events, run_cons, received, receiveSample_ended rfl]
          refine ⟨⟨if raw.allocations.full then some decoder.recombined else none, ?_⟩, ?_⟩
          · rw [← splicing.size]
            exact List.take_prefix _ _
          · simp only [Bool.true_eq_false, if_false, ends, if_true]
            simp only [mem_take_publication, forall_eq]
            cases raw.allocations.full <;> simp [whole]
        · have more : ¬(maxSoundBufferSize < sound.bytes.length ∨ endOfStream = true) := by
            rw [← splicing.size]
            exact ends
          have received : sound.receiveSample raw =
              { sound with bytes := sound.bytes ++ bytes } := by
            rw [receiveSample, sample]
            exact receive_more splicing.unended more bytes
          simp only [Bool.true_eq_false, if_false, ends]
          by_cases copied : raw.allocations.buffer = true ∧ raw.allocations.copy = true ∧ bytes ≠ []
          · have stores : decoder.dealBufferRawFile raw = (true, decoder.storeBuffer bytes {}) := by
              simp [dealBufferRawFile, memory, sample, ends, copied]
            have next : Splicing (decoder.storeBuffer bytes {})
                { sound with bytes := sound.bytes ++ bytes } := {
              splicing with
              size := by simp [storeBuffer, splicing.size]
              stored := by simp [storeBuffer, splicing.stored]
              unended := splicing.unended }
            simp only [stores, if_true, if_pos copied, run_cons, received]
            exact ih next
          · have fails : decoder.dealBufferRawFile raw = (false, decoder) := by
              simp [dealBufferRawFile, sample, ends, copied]
            simp only [fails, Bool.false_eq_true, if_false, if_neg copied]
            exact nothing splicing.unreported

theorem receiving_start (callback : Bool) : Receiving { isRawFile := false, callback } {} := by
  constructor <;> rfl

theorem splicing_start (callback : Bool) : Splicing { isRawFile := true, callback } {} := by
  constructor <;> rfl

end

/-- After these callbacks the sound has been published as it should be: in order and once, whole,
with every output buffer given back and the lock free. -/
structure PublishedOnce (callback : Bool) (outputs : List OutputBuffer) : Prop where
  ordered : ∃ data, (afterOutputs callback outputs).reports <+:
    publication data (ofOutputs outputs).bytes.length
  whole : ∀ data, .soundDecodeCompleted data ∈ (afterOutputs callback outputs).events →
    data = some ((ofOutputs outputs).bytes.map some)
  returned : (afterOutputs callback outputs).released = outputs.map OutputBuffer.index
  unlocked : (afterOutputs callback outputs).amutexLocked = false

/-- A sound that is complete keeps an output buffer, so all of it is right only while no callback
completes the sound or refuses a size.  The order of the reports and the size announced are
always right; the data is whole, and the lock free, under conditions of their own.  A raw file is
published in order too, and whole where its last sample finds the memory. -/
theorem published_once_iff (callback : Bool) (outputs : List OutputBuffer)
    (samples : List RawSample) :
    (PublishedOnce callback outputs ↔
      Along onOutputBufferAvailable (fun decoder output => ¬decoder.Completes output ∧
        ¬decoder.Refuses output) { isRawFile := false, callback } outputs) ∧
    (∃ data, (afterOutputs callback outputs).reports <+:
      publication data (ReceivedSound.ofOutputs outputs).bytes.length) ∧
    ((∀ data, .soundDecodeCompleted data ∈ (afterOutputs callback outputs).events →
        data = some ((ReceivedSound.ofOutputs outputs).bytes.map some)) ↔
      Along onOutputBufferAvailable (fun decoder output => decoder.Completes output →
        output.allocations.full = true ∧ decoder.Lossless)
        { isRawFile := false, callback } outputs) ∧
    ((afterOutputs callback outputs).amutexLocked = false ↔
      Along onOutputBufferAvailable (fun decoder output => decoder.Completes output →
        decoder.Shares output.allocations) { isRawFile := false, callback } outputs) ∧
    (∃ data, (spliceFullPcmInRawFile { isRawFile := true, callback } samples).events <+:
      publication data (run ReceivedSound.receiveSample {} samples).bytes.length) ∧
    ((∀ data, .soundDecodeCompleted data ∈
        (spliceFullPcmInRawFile { isRawFile := true, callback } samples).events →
        data = some ((run ReceivedSound.receiveSample {} samples).bytes.map some)) ↔
      SamplesRecombine 0 samples) := by
  have receiving := receiving_start callback
  have ordered := reports_prefix receiving outputs
  have whole := published_iff receiving outputs
  have returned := released_iff receiving outputs
  have unlocked := unlocked_iff receiving outputs
  refine ⟨?_, ordered, whole, unlocked, splice_published (splicing_start callback) samples⟩
  constructor
  · intro published
    exact returned.mp published.returned
  intro along
  exact {
    ordered := ordered
    whole := whole.mpr (along.weaken (fun _ _ neither completes =>
      absurd completes neither.1))
    returned := returned.mpr along
    unlocked := unlocked.mpr (along.weaken (fun _ _ neither completes =>
      absurd completes neither.1)) }

/-- The output buffer that ends the stream is not given back, and an empty sound leaves the lock
taken. -/
theorem completed_sound_keeps_buffer : ¬PublishedOnce true
      [{ index := 0, size := 2, endOfStream := false, buffer := some [1, 2] },
       { index := 1, size := 0, endOfStream := true, buffer := some [] }] ∧
    (afterOutputs true
      [{ index := 0, size := 0, endOfStream := true, buffer := some [] }]).amutexLocked = true := by
  refine ⟨fun published => ?_, by decide⟩
  have returned := published.returned
  revert returned
  decide

end SoundDecoderCallback

end PlayerFramework.SoundPool
