import PlayerFramework.LowPower.DataManager

/-!
When the data managers keep the frames flowing, and when they keep what was asked for before a
flush apart from what was asked for after it.
-/

namespace PlayerFramework.LowPower

open Transition

namespace DataManager

/-- The event was sent after the last flush and is not answered. -/
def Open (manager : DataManager) (number : Nat) : Prop :=
  manager.flushedAt ≤ number ∧ number < manager.dataNeeded ∧ number ∉ manager.answered

/-- A data-needed event was sent after the last flush and is not answered. -/
def Awaits (manager : DataManager) : Prop :=
  ∃ number, manager.Open number

/-- Something will make the task go on, if it runs and the decoder has a free buffer. -/
def Pumps (manager : DataManager) : Prop :=
  manager.running = true → 0 < manager.free → 0 < manager.jobs ∨ manager.Awaits

/-- The pump does not stall, and it has mixed and lost nothing so far. -/
structure Flows (manager : DataManager) : Prop where
  pumps : manager.Pumps
  unmixed : ∀ push ∈ manager.pushes, push.stale = false
  kept : manager.overwritten = []

/-- There is something that a job would push here. -/
def ready (manager : DataManager) : Bool :=
  decide (manager.running ∧ 0 < manager.jobs ∧ manager.isRequiringData = false ∧
    0 < manager.free) && manager.held.isSome

/-- What is required of a step. `flush` of a running task with a free buffer finds a job; a
`Resume` that submits no job finds one, or the flag of a request, or no free buffer; new data
answers an open event; and `PushBuffer` takes the buffer of a job, unless there is no other
buffer or another job. -/
def Orderly (kind : ManagerKind) (manager : DataManager) : ManagerEvent → Prop
  | .flush => manager.running = true → 0 < manager.free → 0 < manager.jobs
  | .resume =>
    kind.resumeSubmits = false → 0 < manager.free →
      0 < manager.jobs ∨ manager.isRequiringData = true
  | .processNewData framePacket => ∃ number ∈ framePacket.answers, manager.Open number
  | .job _ pushed => manager.ready = true → pushed = false → 1 < manager.free →
      1 < manager.jobs
  | _ => True

instance (manager : DataManager) (number : Nat) : Decidable (manager.Open number) :=
  inferInstanceAs (Decidable (_ ∧ _ ∧ _))

instance (kind : ManagerKind) (manager : DataManager) (event : ManagerEvent) :
    Decidable (Orderly kind manager event) :=
  match event with
  | .flush | .resume => inferInstanceAs (Decidable (_ → _ → _))
  | .processNewData framePacket =>
    inferInstanceAs (Decidable (∃ number ∈ framePacket.answers, manager.Open number))
  | .job _ _ => inferInstanceAs (Decidable (_ → _ → _ → _))
  | .start | .pause | .bufferFreed => .isTrue trivial

/-- Only the last event is open, and only while data is required and no packet is in hand; the
packet in hand answers an event sent after the last flush. -/
structure Current (manager : DataManager) : Prop where
  answered : ∀ number ∈ manager.answered, number < manager.dataNeeded
  flushed : manager.flushedAt ≤ manager.dataNeeded
  requiring : manager.isRequiringData = true → manager.Awaits ∧ manager.dataPacket = none
  last : ∀ number, manager.Open number →
    manager.isRequiringData = true ∧ number + 1 = manager.dataNeeded
  fresh : ∀ packet ∈ manager.dataPacket, ∀ number ∈ packet.answers, manager.flushedAt ≤ number

variable {manager : DataManager}

theorem current_requireData (current : Current manager)
    (wanted : manager.isRequiringData = false) : Current manager.requireData := by
  have unanswered : manager.dataNeeded ∉ manager.answered :=
    fun answered => Nat.lt_irrefl _ (current.answered _ answered)
  constructor
  · exact fun number answered => Nat.lt_succ_of_lt (current.answered number answered)
  · exact Nat.le_succ_of_le current.flushed
  · exact fun _ => ⟨⟨manager.dataNeeded, current.flushed, Nat.lt_succ_self _, unanswered⟩, rfl⟩
  · rintro number ⟨later, sent, waits⟩
    refine ⟨rfl, ?_⟩
    rcases Nat.lt_succ_iff_lt_or_eq.mp sent with before | same
    · have earlier := (current.last number ⟨later, before, waits⟩).1
      rw [wanted] at earlier
      cases earlier
    · rw [same]
      rfl
  · exact fun _ none => nomatch none

theorem current_flush (current : Current manager) : Current manager.flush := by
  constructor
  · exact current.answered
  · exact Nat.le_refl _
  · exact fun requiring => nomatch requiring
  · rintro number ⟨later, sent, -⟩
    exact absurd sent (Nat.not_lt.mpr later)
  · exact fun _ none => nomatch none

/-- The answer to the open event closes it. -/
theorem current_processNewData {framePacket : LppDataPacket} {number : Nat}
    (answers : framePacket.answers = some number) (isOpen : manager.Open number)
    (current : Current manager) : Current (manager.processNewData framePacket) := by
  have noted : (manager.processNewData framePacket).answered = manager.answered ++ [number] := by
    simp [processNewData, onBufferAvailable, answers, isOpen.2.1]
  constructor
  · intro other member
    rw [noted, List.mem_append, List.mem_singleton] at member
    rcases member with earlier | rfl
    · exact current.answered other earlier
    · exact isOpen.2.1
  · exact current.flushed
  · exact fun requiring => nomatch requiring
  · rintro other ⟨later, sent, waits⟩
    rw [noted, List.mem_append, List.mem_singleton, not_or] at waits
    have last := (current.last other ⟨later, sent, waits.1⟩).2
    have same := (current.last number isOpen).2
    omega
  · intro packet member other answered
    cases member
    rw [answers] at answered
    cases answered
    exact isOpen.1

variable (kind : ManagerKind) (capacity : Nat) (pushed : Bool)

theorem current_pushFrames {packet : LppDataPacket} (holds : manager.dataPacket = some packet)
    (current : Current manager) : Current (manager.pushFrames kind capacity pushed packet) := by
  have unwanted : manager.isRequiringData = false := by
    by_contra requiring
    have none := (current.requiring (by simpa using requiring)).2
    rw [holds] at none
    cases none
  have fresh : ∀ number ∈ packet.answers, manager.flushedAt ≤ number :=
    current.fresh packet holds
  cases pushed with
  | true | false =>
    refine ⟨current.answered, current.flushed, ?_, current.last, ?_⟩
    · intro requiring
      exact absurd (unwanted.symm.trans requiring) (by simp)
    · intro left member
      cases member
      exact fresh

theorem current_handleBufferAvailable (current : Current manager) :
    Current (manager.handleBufferAvailable kind capacity pushed) := by
  rw [handleBufferAvailable]
  split
  · exact current
  rename_i unwanted
  have unwanted : manager.isRequiringData = false := by simpa using unwanted
  split
  · exact current_requireData current unwanted
  rename_i packet holds
  split
  · exact current_requireData current unwanted
  · split
    · exact current
    · exact current_pushFrames kind capacity pushed holds current

theorem current_next (event : ManagerEvent) (current : Current manager)
    (orderly : Orderly kind manager event) : Current (manager.next kind event) := by
  have same : ∀ running jobs free, Current { manager with running, jobs, free } :=
    fun _ _ _ => ⟨current.answered, current.flushed, current.requiring, current.last, current.fresh⟩
  cases event with
  | start | pause | bufferFreed => exact same _ _ _
  | resume =>
    simp only [next, resume]
    split
    · exact same _ _ _
    · exact same _ _ _
  | flush => exact current_flush current
  | processNewData framePacket =>
    obtain ⟨number, answers, isOpen⟩ := orderly
    exact current_processNewData answers isOpen current
  | job capacity pushed =>
    simp only [next, job]
    split
    · exact current_handleBufferAvailable kind capacity pushed (same _ _ _)
    · exact current

theorem flows_of_queued (queued : 0 < manager.jobs)
    (unmixed : ∀ push ∈ manager.pushes, push.stale = false) (kept : manager.overwritten = []) :
    Flows manager := by
  constructor
  · intro _ _
    exact Or.inl queued
  · exact unmixed
  · exact kept

theorem flows_resume (current : Current manager) (flows : Flows manager)
    (orderly : Orderly kind manager .resume) : Flows (manager.resume kind) := by
  simp only [resume]
  split
  · exact flows_of_queued (Nat.succ_pos _) flows.unmixed flows.kept
  rename_i silent
  refine ⟨fun _ free => ?_, flows.unmixed, flows.kept⟩
  rcases orderly (by simpa using silent) free with queued | requiring
  · exact .inl queued
  · exact .inr (current.requiring requiring).1

/-- Data is only taken while there is no packet in hand. -/
theorem flows_processNewData {framePacket : LppDataPacket} {number : Nat}
    (isOpen : manager.Open number) (current : Current manager) (flows : Flows manager) :
    Flows (manager.processNewData framePacket) := by
  have none : manager.dataPacket = none :=
    (current.requiring (current.last number isOpen).1).2
  have kept : (manager.processNewData framePacket).overwritten = [] := by
    simp [processNewData, onBufferAvailable, held, none, flows.kept]
  exact flows_of_queued (Nat.succ_pos _) flows.unmixed kept

/-- What is pushed was asked for since the last flush, which has dropped the packet in hand. -/
theorem flows_pushFrames {packet : LppDataPacket} (holds : manager.dataPacket = some packet)
    (current : Current manager) (unmixed : ∀ push ∈ manager.pushes, push.stale = false)
    (kept : manager.overwritten = [])
    (going : pushed = false → 1 < manager.free → 0 < manager.jobs) :
    Flows (manager.pushFrames kind capacity pushed packet) := by
  cases pushed with
  | true =>
    apply flows_of_queued (Nat.succ_pos _)
    · intro push member
      rcases List.mem_append.mp member with old | new
      · exact unmixed push old
      rw [List.mem_singleton.mp new]
      cases answers : packet.answers with
      | none => simp [Push.stale]
      | some number =>
        have fresh := current.fresh packet holds number answers
        simp [Push.stale, Nat.not_lt.mpr fresh]
    · exact kept
  | false =>
    refine ⟨fun _ free => .inl (going rfl ?_), unmixed, kept⟩
    exact Nat.lt_of_sub_pos free

theorem flows_job (current : Current manager) (flows : Flows manager)
    (orderly : Orderly kind manager (.job capacity pushed)) :
    Flows (manager.job kind capacity pushed) := by
  unfold job
  split
  · rename_i begins
    have begun : Current { manager with jobs := manager.jobs - 1 } :=
      ⟨current.answered, current.flushed, current.requiring, current.last, current.fresh⟩
    -- data is required, so the answer is awaited
    have waits : ∀ after : DataManager, Current after → after.isRequiringData = true →
        after.pushes = manager.pushes → after.overwritten = manager.overwritten →
        Flows after := by
      intro after currentAfter requiring pushes overwritten
      refine ⟨fun _ _ => .inr (currentAfter.requiring requiring).1, ?_, overwritten ▸ flows.kept⟩
      rw [pushes]
      exact flows.unmixed
    unfold handleBufferAvailable
    split
    · rename_i requiring
      exact waits _ begun requiring rfl rfl
    rename_i unwanted
    have unwanted : manager.isRequiringData = false := by simpa using unwanted
    have requires := waits _ (current_requireData begun unwanted) rfl rfl rfl
    split
    · exact requires
    rename_i packet holds
    split
    · exact requires
    rename_i frames
    split
    · -- the decoder has no buffer, so its next one brings a job
      rename_i exhausted
      refine ⟨fun _ free => ?_, flows.unmixed, flows.kept⟩
      have available : 0 < manager.free := free
      exact absurd exhausted (Nat.ne_of_gt available)
    · rename_i available
      apply flows_pushFrames kind capacity pushed holds begun flows.unmixed flows.kept
      intro refused more
      have ready : manager.ready = true := by
        have holds : manager.dataPacket = some packet := holds
        have free : 0 < manager.free := Nat.pos_of_ne_zero available
        simp [ready, begins, unwanted, free, held, holds, Option.filter, frames]
      have another := orderly ready refused more
      exact Nat.sub_pos_of_lt another
  · exact flows

theorem flows_next (event : ManagerEvent) (current : Current manager) (flows : Flows manager)
    (orderly : Orderly kind manager event) : Flows (manager.next kind event) := by
  cases event with
  | start | bufferFreed => exact flows_of_queued (Nat.succ_pos _) flows.unmixed flows.kept
  | pause =>
    have paused : Pumps manager.pause := fun running => Bool.noConfusion running
    exact ⟨paused, flows.unmixed, flows.kept⟩
  | resume => exact flows_resume kind current flows orderly
  | flush => exact ⟨fun running free => .inl (orderly running free), flows.unmixed, flows.kept⟩
  | processNewData framePacket =>
    obtain ⟨number, -, isOpen⟩ := orderly
    exact flows_processNewData isOpen current flows
  | job capacity pushed => exact flows_job kind capacity pushed current flows orderly

variable (free : Nat)

theorem current_prepared : Current (prepared free) := by
  constructor
  · simp [prepared]
  · simp [prepared]
  · simp [prepared]
  · simp [prepared, Open]
  · simp [prepared]

theorem flows_prepared : Flows (prepared free) := by
  constructor
  · simp [prepared, Pumps]
  · simp [prepared]
  · rfl

/-- A manager flows through every run of orderly steps. -/
theorem flows_along {events : List ManagerEvent}
    (along : Along (next kind) (Orderly kind) (prepared free) events) (count : Nat) :
    Flows (run (next kind) (prepared free) (events.take count)) := by
  have reached := invariant_of_along (fun manager => Current manager ∧ Flows manager) ?_
    (along.take count) ⟨current_prepared free, flows_prepared free⟩
  · exact reached.2
  · intro manager event ⟨current, flows⟩ orderly
    exact ⟨current_next kind event current orderly, flows_next kind event current flows orderly⟩

/-- Both managers flow through every run that is orderly for them. -/
theorem managers_flow (free : Nat) (events : List ManagerEvent) :
    (Along (next lppAudioDataManager) (Orderly lppAudioDataManager) (prepared free) events →
      ∀ count, Flows (run (next lppAudioDataManager) (prepared free) (events.take count))) ∧
    ∀ disablePacketInput, Along (next (lppVideoDataManager disablePacketInput))
          (Orderly (lppVideoDataManager disablePacketInput)) (prepared free) events →
        ∀ count, Flows (run (next (lppVideoDataManager disablePacketInput)) (prepared free)
          (events.take count)) :=
  ⟨flows_along lppAudioDataManager free,
    fun disablePacketInput => flows_along (lppVideoDataManager disablePacketInput) free⟩

/-- Two requests that are answered in time, with a flush between them. -/
def answeredInTime : List ManagerEvent :=
  [.start, .job 100 true, .processNewData { frames := [{ size := 8 }], answers := some 0 },
    .job 100 true, .pause, .flush, .start, .job 100 true,
    .processNewData { frames := [{ size := 8 }], answers := some 1 }, .job 100 true]

theorem answered_in_time_flows :
    (∀ count, Flows (run (next lppAudioDataManager) (prepared 2) (answeredInTime.take count))) ∧
      ∀ disablePacketInput count, Flows (run (next (lppVideoDataManager disablePacketInput))
        (prepared 2) (answeredInTime.take count)) := by
  refine ⟨(managers_flow 2 answeredInTime).1 (by decide), fun disablePacketInput => ?_⟩
  apply (managers_flow 2 answeredInTime).2 disablePacketInput
  cases disablePacketInput with
  | true | false => decide

/-- The answer to the first event comes after a flush. -/
def lateAnswer : List ManagerEvent :=
  [.start, .job 100 true, .pause, .flush, .start,
    .processNewData { frames := [{ size := 8 }], answers := some 0 }, .job 100 true]

/-- Both managers push a late answer to the decoder. -/
theorem late_answer_pushed : ¬ Flows (run (next lppAudioDataManager) (prepared 1) lateAnswer) ∧
      ∀ disablePacketInput,
        ¬ Flows (run (next (lppVideoDataManager disablePacketInput)) (prepared 1) lateAnswer) := by
  constructor
  · intro flows
    have unmixed := flows.unmixed
    revert unmixed
    decide
  · intro disablePacketInput flows
    have unmixed := flows.unmixed
    cases disablePacketInput with
    | true | false => revert unmixed; decide

/-- `Resume` of the audio manager alone does not set the task going after a flush. -/
example : ¬ Pumps (run (next lppAudioDataManager) (prepared 1)
    [.start, .job 100 true, .pause, .flush, .resume]) := by
  intro pumps
  rcases pumps rfl (by decide) with queued | ⟨number, later, sent, -⟩
  · revert queued
    decide
  · exact absurd sent (Nat.not_lt.mpr later)

end DataManager

end PlayerFramework.LowPower
