import Mathlib.Algebra.Group.Nat.Defs
import PlayerFramework.Transition

/-!
The watchdog (`watchdog.cpp`): the calls of its users, each one critical section of `mutex_`, and
the thread that waits for them or for a time-out.
-/

namespace PlayerFramework.Utils

open Transition

/-- What has been called, as far as it took effect: the calls of a watchdog that is not enabled
do not.  A `notify` says whether it called `AlarmRecovery`. -/
inductive WatchEvent where
  | enable
  | disable
  | pause
  | resume
  | notify (recovered : Bool)
  | alarm
deriving DecidableEq

/-- Where `WatchDogThread` is without holding `mutex_`: before or in the wait of a paused
watchdog, in the wait for a time-out, or at its end. -/
inductive WatchStage where
  | top
  | timing (deadline : Nat)
  | exited
deriving DecidableEq

/-- `now` is the clock; `log` has what was called and when, the latest first. -/
structure WatchDog where
  disabling : Bool := false
  enable : Bool := false
  pause : Bool := false
  paused : Bool := false
  alarmed : Bool := false
  count : Nat := 0
  thread : Option WatchStage := none
  now : Nat := 0
  log : List (WatchEvent × Nat) := []
deriving DecidableEq

inductive WatchStep where
  | enableWatchDog
  | disableWatchDog
  | disableGoesOn
  | pauseWatchDog
  | resumeWatchDog
  | notify
  | thread
  | elapse (timeMs : Nat)
deriving DecidableEq

namespace WatchDog

def called (event : WatchEvent) (dog : WatchDog) : WatchDog :=
  { dog with log := (event, dog.now) :: dog.log }

/-- While a `DisableWatchDog` is under way the call tries again. -/
def enableWatchDog (dog : WatchDog) : WatchDog :=
  if dog.enable ∨ dog.disabling then dog
  else { dog with enable := true, thread := some .top }.called .enable

/-- `DisableWatchDog` up to the point where it waits for the thread. -/
def disableWatchDog (dog : WatchDog) : WatchDog :=
  if dog.disabling then dog
  else { dog with disabling := true, enable := false }.called .disable

/-- The thread is joined and the flags it may have changed are cleared. -/
def disableGoesOn (dog : WatchDog) : WatchDog :=
  if dog.disabling ∧ (dog.thread = none ∨ dog.thread = some .exited) then
    { dog with disabling := false, thread := none, pause := false, alarmed := false }
  else dog

def pauseWatchDog (dog : WatchDog) : WatchDog :=
  if dog.enable then { dog with pause := true, paused := true }.called .pause else dog

def resumeWatchDog (dog : WatchDog) : WatchDog :=
  if dog.enable then { dog with pause := false }.called .resume else dog

/-- `count_` has 32 bits. -/
def notify (dog : WatchDog) : WatchDog :=
  if dog.enable then
    let recovered :=
      if dog.alarmed then { dog with alarmed := false, pause := false } else dog
    { recovered with count := (dog.count + 1) % 2 ^ 32 }.called (.notify dog.alarmed)
  else dog

/-- The condition that ends the wait for a time-out. -/
def Wakes (dog : WatchDog) : Prop := dog.enable = false ∨ dog.pause = true ∨ 0 < dog.count

/-- What the thread does behind the wait for a time-out, up to the end of the round. -/
def decideRound (dog : WatchDog) : WatchDog :=
  if !dog.enable then { dog with thread := some .exited }
  else if dog.pause ∨ dog.paused then { dog with thread := some .top }
  else if dog.count = 0 ∧ !dog.alarmed then
    { dog with alarmed := true, pause := true, count := 0, thread := some .top }.called .alarm
  else { dog with count := 0, thread := some .top }

instance (dog : WatchDog) : Decidable dog.Wakes := inferInstanceAs (Decidable (_ ∨ _ ∨ _))

/-- A round begins; its wait may be over before it releases `mutex_`. -/
def beginRound (timeoutMs : Nat) (dog : WatchDog) : WatchDog :=
  let started := { dog with paused := false }
  if started.Wakes then started.decideRound
  else { started with thread := some (.timing (dog.now + timeoutMs)) }

/-- The thread gets `mutex_` and goes on to where it releases it again. -/
def threadStep (timeoutMs : Nat) (dog : WatchDog) : WatchDog :=
  match dog.thread with
  | some .top => if dog.enable = false ∨ dog.pause = false then dog.beginRound timeoutMs else dog
  | some (.timing deadline) => if dog.Wakes ∨ deadline ≤ dog.now then dog.decideRound else dog
  | _ => dog

def next (timeoutMs : Nat) (dog : WatchDog) : WatchStep → WatchDog
  | .enableWatchDog => dog.enableWatchDog
  | .disableWatchDog => dog.disableWatchDog
  | .disableGoesOn => dog.disableGoesOn
  | .pauseWatchDog => dog.pauseWatchDog
  | .resumeWatchDog => dog.resumeWatchDog
  | .notify => dog.notify
  | .thread => dog.threadStep timeoutMs
  | .elapse timeMs => { dog with now := dog.now + timeMs }

end WatchDog

def enabledBy : List (WatchEvent × Nat) → Bool
  | [] => false
  | (.enable, _) :: _ => true
  | (.disable, _) :: _ => false
  | _ :: earlier => enabledBy earlier

/-- There has been an alarm since the last `EnableWatchDog`, and no recovery after it. -/
def ringing : List (WatchEvent × Nat) → Bool
  | [] => false
  | (.enable, _) :: _ | (.disable, _) :: _ | (.notify true, _) :: _ => false
  | (.alarm, _) :: _ => true
  | _ :: earlier => ringing earlier

/-- There has been a `PauseWatchDog`, and no `ResumeWatchDog` after it. -/
def heldBy : List (WatchEvent × Nat) → Bool
  | [] => false
  | (.enable, _) :: _ | (.disable, _) :: _ | (.resume, _) :: _ => false
  | (.pause, _) :: _ => true
  | _ :: earlier => heldBy earlier

/-- When the last `EnableWatchDog`, `ResumeWatchDog` or `Notify` was. -/
def lastFed : List (WatchEvent × Nat) → Option Nat
  | [] => none
  | (.enable, time) :: _ | (.resume, time) :: _ | (.notify _, time) :: _ => some time
  | _ :: earlier => lastFed earlier

/-- Every alarm comes while the watchdog is enabled, not held and not ringing, a whole time-out
after it was fed; a `Notify` recovers just where it rings. -/
def SoundAlarms (timeoutMs : Nat) : List (WatchEvent × Nat) → Prop
  | [] => True
  | (.alarm, time) :: earlier =>
    SoundAlarms timeoutMs earlier ∧ enabledBy earlier = true ∧ ringing earlier = false ∧
      heldBy earlier = false ∧ ∃ fed, lastFed earlier = some fed ∧ fed + timeoutMs ≤ time
  | (.notify recovered, _) :: earlier =>
    SoundAlarms timeoutMs earlier ∧ recovered = (enabledBy earlier && ringing earlier)
  | _ :: earlier => SoundAlarms timeoutMs earlier

namespace WatchDog

/-- A round runs that nothing has ended but its time. -/
def RunsRound (dog : WatchDog) (deadline : Nat) : Prop :=
  dog.thread = some (.timing deadline) ∧ dog.enable = true ∧ dog.pause = false ∧
    dog.paused = false ∧ dog.count = 0 ∧ dog.alarmed = false

/-- A `Notify` does not come while an alarmed watchdog is held, nor as the one that turns `count_`
to 0; a `ResumeWatchDog` does not come in a round that was neither paused nor fed. -/
def Fair (dog : WatchDog) : WatchStep → Prop
  | .notify =>
    dog.enable = true → ¬(dog.alarmed = true ∧ heldBy dog.log = true) ∧ dog.count ≠ 2 ^ 32 - 1
  | .resumeWatchDog =>
    match dog.thread with
    | some (.timing deadline) => ¬dog.RunsRound deadline
    | _ => True
  | _ => True

instance (dog : WatchDog) (deadline : Nat) : Decidable (dog.RunsRound deadline) :=
  inferInstanceAs (Decidable (_ ∧ _))

instance (dog : WatchDog) (step : WatchStep) : Decidable (dog.Fair step) := by
  unfold Fair
  cases step
  case resumeWatchDog => cases dog.thread with
    | none => infer_instance
    | some stage => cases stage <;> infer_instance
  all_goals infer_instance

/-- The flags say what was called, and a round that runs ends a time-out after the last feeding
at the earliest. -/
structure Tracks (timeoutMs : Nat) (dog : WatchDog) : Prop where
  sound : SoundAlarms timeoutMs dog.log
  past : ∀ fed, lastFed dog.log = some fed → fed ≤ dog.now
  bounded : dog.count < 2 ^ 32
  enabled : enabledBy dog.log = dog.enable
  fed : dog.enable = true → ∃ fed, lastFed dog.log = some fed
  off : dog.enable = false → dog.disabling = false → dog.pause = false ∧ dog.alarmed = false
  on : dog.enable = true → dog.disabling = false
  rings : dog.enable = true → ringing dog.log = dog.alarmed
  held : dog.enable = true → heldBy dog.log = true → dog.pause = true
  marked : ∀ deadline, dog.thread = some (.timing deadline) → dog.enable = true →
    dog.pause = true → dog.paused = true
  round : ∀ deadline, dog.RunsRound deadline →
    ∃ fed, lastFed dog.log = some fed ∧ fed + timeoutMs ≤ deadline

variable {timeoutMs : Nat} {dog : WatchDog}

theorem not_enabled {goal : Prop} (off : dog.enable = false) (on : dog.enable = true) : goal := by
  rw [off] at on
  cases on

theorem tracks_enableWatchDog (tracks : Tracks timeoutMs dog) :
    Tracks timeoutMs dog.enableWatchDog := by
  rw [enableWatchDog]
  split
  · exact tracks
  rename_i free
  obtain ⟨disabled, idle⟩ := not_or.mp free
  have idle : dog.disabling = false := by simpa using idle
  have cleared := tracks.off (by simpa using disabled) idle
  exact {
    sound := tracks.sound
    past := by
      rintro _ ⟨rfl⟩
      exact Nat.le_refl _
    bounded := tracks.bounded
    enabled := rfl
    fed := fun _ => ⟨dog.now, rfl⟩
    off := fun off => nomatch off
    on := fun _ => idle
    rings := fun _ => cleared.2.symm
    held := fun _ held => nomatch held
    marked := fun _ timing => nomatch timing
    round := fun _ runs => nomatch runs.1 }

theorem tracks_disableWatchDog (tracks : Tracks timeoutMs dog) :
    Tracks timeoutMs dog.disableWatchDog := by
  rw [disableWatchDog]
  split
  · exact tracks
  exact {
    sound := tracks.sound
    past := tracks.past
    bounded := tracks.bounded
    enabled := rfl
    fed := fun on => nomatch on
    off := fun _ idle => nomatch idle
    on := fun on => nomatch on
    rings := fun on => nomatch on
    held := fun on => nomatch on
    marked := fun _ _ on => nomatch on
    round := fun _ runs => nomatch runs.2.1 }

theorem tracks_disableGoesOn (tracks : Tracks timeoutMs dog) :
    Tracks timeoutMs dog.disableGoesOn := by
  rw [disableGoesOn]
  split
  · rename_i joins
    have disabled : dog.enable = false := by
      cases enable : dog.enable with
      | false => rfl
      | true =>
        have idle := tracks.on enable
        rw [idle] at joins
        cases joins.1
    exact {
      sound := tracks.sound
      past := tracks.past
      bounded := tracks.bounded
      enabled := tracks.enabled
      fed := tracks.fed
      off := fun _ _ => ⟨rfl, rfl⟩
      on := fun _ => rfl
      rings := not_enabled disabled
      held := not_enabled disabled
      marked := fun _ timing => nomatch timing
      round := fun _ runs => nomatch runs.1 }
  · exact tracks

theorem tracks_pauseWatchDog (tracks : Tracks timeoutMs dog) :
    Tracks timeoutMs dog.pauseWatchDog := by
  rw [pauseWatchDog]
  split
  · rename_i on
    exact {
      sound := tracks.sound
      past := tracks.past
      bounded := tracks.bounded
      enabled := tracks.enabled
      fed := tracks.fed
      off := fun off => not_enabled off on
      on := tracks.on
      rings := tracks.rings
      held := fun _ _ => rfl
      marked := fun _ _ _ _ => rfl
      round := fun _ runs => nomatch runs.2.2.1 }
  · exact tracks

theorem tracks_resumeWatchDog (tracks : Tracks timeoutMs dog) (fair : dog.Fair .resumeWatchDog) :
    Tracks timeoutMs dog.resumeWatchDog := by
  rw [resumeWatchDog]
  split
  · rename_i on
    exact {
      sound := tracks.sound
      past := by
        rintro _ ⟨rfl⟩
        exact Nat.le_refl _
      bounded := tracks.bounded
      enabled := tracks.enabled
      fed := fun _ => ⟨dog.now, rfl⟩
      off := fun off => not_enabled off on
      on := tracks.on
      rings := tracks.rings
      held := fun _ held => nomatch held
      marked := fun _ _ _ pause => nomatch pause
      round := by
        rintro deadline ⟨timing, -, -, unmarked, unfed, silent⟩
        have timing : dog.thread = some (.timing deadline) := timing
        have unmarked : dog.paused = false := unmarked
        have unpaused : dog.pause = false := by
          cases pause : dog.pause with
          | false => rfl
          | true =>
            have marked := tracks.marked deadline timing on pause
            rw [unmarked] at marked
            cases marked
        unfold Fair at fair
        rw [timing] at fair
        exact absurd ⟨timing, on, unpaused, unmarked, unfed, silent⟩ fair }
  · exact tracks

theorem tracks_notify (tracks : Tracks timeoutMs dog) (fair : dog.Fair .notify) :
    Tracks timeoutMs dog.notify := by
  rw [notify]
  split
  · rename_i on
    obtain ⟨alone, unfull⟩ := fair on
    have bounded := tracks.bounded
    have fed : (dog.count + 1) % 2 ^ 32 ≠ 0 := by omega
    have recovers : dog.alarmed = (enabledBy dog.log && ringing dog.log) := by
      rw [tracks.enabled, on, tracks.rings on, Bool.true_and]
    cases alarmed : dog.alarmed with
    | true =>
      rw [alarmed] at alone recovers
      exact {
        sound := ⟨tracks.sound, recovers⟩
        past := by
          rintro _ ⟨rfl⟩
          exact Nat.le_refl _
        bounded := Nat.mod_lt _ (by decide)
        enabled := tracks.enabled
        fed := fun _ => ⟨dog.now, rfl⟩
        off := fun off => not_enabled off on
        on := tracks.on
        rings := fun _ => rfl
        held := fun _ held => absurd ⟨rfl, held⟩ alone
        marked := by rintro _ _ _ ⟨⟩
        round := fun _ runs => absurd runs.2.2.2.2.1 fed }
    | false =>
      rw [alarmed] at recovers
      exact {
        sound := ⟨tracks.sound, recovers⟩
        past := by
          rintro _ ⟨rfl⟩
          exact Nat.le_refl _
        bounded := Nat.mod_lt _ (by decide)
        enabled := tracks.enabled
        fed := fun _ => ⟨dog.now, rfl⟩
        off := fun off => not_enabled off on
        on := tracks.on
        rings := tracks.rings
        held := tracks.held
        marked := tracks.marked
        round := fun _ runs => absurd runs.2.2.2.2.1 fed }
  · exact tracks

theorem tracks_decideRound (tracks : Tracks timeoutMs dog)
    (due : dog.Wakes ∨ ∃ deadline, dog.thread = some (.timing deadline) ∧ deadline ≤ dog.now) :
    Tracks timeoutMs dog.decideRound := by
  rw [decideRound]
  split
  · exact { tracks with
      marked := fun _ timing => nomatch timing
      round := fun _ runs => nomatch runs.1 }
  · rename_i on
    have on : dog.enable = true := by simpa using on
    split
    · exact { tracks with
        marked := fun _ timing => nomatch timing
        round := fun _ runs => nomatch runs.1 }
    · rename_i unpaused
      obtain ⟨unpaused, unmarked⟩ := not_or.mp unpaused
      have unpaused : dog.pause = false := by simpa using unpaused
      have unmarked : dog.paused = false := by simpa using unmarked
      split
      · rename_i unfed
        have silent : dog.alarmed = false := by simpa using unfed.2
        obtain ⟨deadline, timing, late⟩ := due.resolve_left fun wakes => by
          rcases wakes with off | pause | fed
          · exact not_enabled off on
          · rw [unpaused] at pause
            cases pause
          · omega
        obtain ⟨fed, last, whole⟩ :=
          tracks.round deadline ⟨timing, on, unpaused, unmarked, unfed.1, silent⟩
        have free : heldBy dog.log = false := by
          cases held : heldBy dog.log with
          | false => rfl
          | true =>
            have pause := tracks.held on held
            rw [unpaused] at pause
            cases pause
        exact {
          sound := ⟨tracks.sound, tracks.enabled.trans on, (tracks.rings on).trans silent, free,
            fed, last, Nat.le_trans whole late⟩
          past := tracks.past
          bounded := Nat.two_pow_pos 32
          enabled := tracks.enabled
          fed := tracks.fed
          off := fun off => not_enabled off on
          on := tracks.on
          rings := fun _ => rfl
          held := fun _ _ => rfl
          marked := fun _ timing => nomatch timing
          round := fun _ runs => nomatch runs.1 }
      · exact { tracks with
          bounded := Nat.two_pow_pos 32
          marked := fun _ timing => nomatch timing
          round := fun _ runs => nomatch runs.1 }

theorem tracks_threadStep (tracks : Tracks timeoutMs dog) :
    Tracks timeoutMs (dog.threadStep timeoutMs) := by
  rw [threadStep]
  split
  · rename_i top
    split
    · rename_i passes
      have started : Tracks timeoutMs { dog with paused := false } := { tracks with
        marked := fun _ timing => by
          rw [top] at timing
          cases timing
        round := fun _ runs => by
          have timing : dog.thread = some (.timing _) := runs.1
          rw [top] at timing
          cases timing }
      simp only [beginRound]
      split
      · rename_i wakes
        exact tracks_decideRound started (.inl wakes)
      rename_i waits
      have unpaused : dog.pause = false := by
        rcases passes with off | unpaused
        · exact absurd (.inl off) waits
        · exact unpaused
      exact { started with
        marked := fun _ _ _ pause => by
          rw [unpaused] at pause
          cases pause
        round := by
          rintro deadline ⟨⟨rfl⟩, on, -⟩
          obtain ⟨fed, last⟩ := tracks.fed on
          exact ⟨fed, last, Nat.add_le_add_right (tracks.past fed last) timeoutMs⟩ }
    · exact tracks
  · rename_i deadline timing
    split
    · rename_i due
      refine tracks_decideRound tracks (due.imp_right fun late => ⟨deadline, timing, late⟩)
    · exact tracks
  · exact tracks

theorem tracks_next (tracks : Tracks timeoutMs dog) (step : WatchStep) (fair : dog.Fair step) :
    Tracks timeoutMs (dog.next timeoutMs step) := by
  cases step with
  | enableWatchDog => exact tracks_enableWatchDog tracks
  | disableWatchDog => exact tracks_disableWatchDog tracks
  | disableGoesOn => exact tracks_disableGoesOn tracks
  | pauseWatchDog => exact tracks_pauseWatchDog tracks
  | resumeWatchDog => exact tracks_resumeWatchDog tracks fair
  | notify => exact tracks_notify tracks fair
  | thread => exact tracks_threadStep tracks
  | elapse timeMs =>
    exact { tracks with
      past := fun fed last => Nat.le_trans (tracks.past fed last) (Nat.le_add_right _ _) }

theorem tracks_initial (timeoutMs : Nat) : Tracks timeoutMs {} where
  sound := trivial
  past := fun _ last => nomatch last
  bounded := by decide
  enabled := rfl
  fed := fun on => nomatch on
  off := fun _ _ => ⟨rfl, rfl⟩
  on := fun on => nomatch on
  rings := fun on => nomatch on
  held := fun on => nomatch on
  marked := fun _ timing => nomatch timing
  round := fun _ runs => nomatch runs.1

/-- In every run of fair steps the alarms are sound. -/
theorem soundAlarms_of_fair (timeoutMs : Nat) (steps : List WatchStep)
    (fair : Along (next timeoutMs) Fair {} steps) :
    SoundAlarms timeoutMs (run (next timeoutMs) {} steps).log :=
  (invariant_of_along (Tracks timeoutMs)
    (fun _ step tracks fair => tracks_next tracks step fair) fair (tracks_initial timeoutMs)).sound

/-- An alarm, its recovery, a pause, a resumption and another alarm. -/
theorem soundAlarms_of_pause : SoundAlarms 1000 (run (next 1000) {}
      [.enableWatchDog, .thread, .elapse 1000, .thread, .notify, .thread, .thread, .pauseWatchDog,
        .elapse 5000, .thread, .resumeWatchDog, .thread, .elapse 1000, .thread]).log :=
  soundAlarms_of_fair 1000
    [.enableWatchDog, .thread, .elapse 1000, .thread, .notify, .thread, .thread, .pauseWatchDog,
      .elapse 5000, .thread, .resumeWatchDog, .thread, .elapse 1000, .thread] (by decide +kernel)

/-- A watchdog that is paused while it rings is let go by the `Notify` that recovers it, and rings
again though nothing has resumed it. -/
theorem alarm_while_held : (run (next 1000) {}
      [.enableWatchDog, .thread, .elapse 1000, .thread, .pauseWatchDog, .notify, .thread, .thread,
        .elapse 1000, .thread]).log =
      [(.alarm, 2000), (.notify true, 1000), (.pause, 1000), (.alarm, 1000), (.enable, 0)] ∧
    ¬∀ (timeoutMs : Nat) (steps : List WatchStep),
      SoundAlarms timeoutMs (run (next timeoutMs) {} steps).log := by
  refine ⟨by decide +kernel, ?_⟩
  intro always
  have sound := always 1000
    [.enableWatchDog, .thread, .elapse 1000, .thread, .pauseWatchDog, .notify, .thread, .thread,
      .elapse 1000, .thread]
  have held := sound.2.2.2.1
  revert held
  decide +kernel

end WatchDog

end PlayerFramework.Utils
