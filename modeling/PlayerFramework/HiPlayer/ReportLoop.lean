import PlayerFramework.Transition

/-!
A loop made of an event that puts itself into the queue again as long as the loop is wanted.
Wanted means requested and enabled; a flag tells whether the loop runs.
-/

namespace PlayerFramework.HiPlayer

open Transition

/-- `pending` counts the events of the loop in the queue. -/
structure ReportLoop where
  requested : Bool
  enabled : Bool
  running : Bool
  pending : Nat
deriving DecidableEq

/-- In `fireOnce` another event looks at the loop without being its own. -/
inductive LoopStep where
  | start
  | stop
  | enable (enabled : Bool)
  | fire
  | fireOnce
  | stay
deriving DecidableEq

namespace ReportLoop

def wanted (loop : ReportLoop) : Bool := loop.requested && loop.enabled

def begin (loop : ReportLoop) : ReportLoop :=
  { loop with running := true, pending := loop.pending + 1 }

/-- A start does not look at `running`, an enabling does. -/
def next (loop : ReportLoop) (step : LoopStep) : ReportLoop :=
  match step with
  | .start =>
    if loop.requested then loop
    else if loop.enabled then { loop with requested := true }.begin
    else { loop with requested := true }
  | .stop => { loop with requested := false }
  | .enable enabled =>
    if loop.enabled = enabled then loop
    else if loop.requested ∧ enabled ∧ !loop.running then { loop with enabled }.begin
    else { loop with enabled }
  | .fire =>
    if loop.pending = 0 ∨ loop.wanted then loop
    else { loop with running := false, pending := loop.pending - 1 }
  | .fireOnce => if loop.wanted then loop else { loop with running := false }
  | .stay => loop

/-- At most one event of the loop is in the queue, and one if the loop is wanted. -/
def Single (loop : ReportLoop) : Prop :=
  loop.pending ≤ 1 ∧ (loop.wanted = true → loop.pending = 1)

/-- A loop that runs has its event in the queue. -/
def Tracked (loop : ReportLoop) : Prop := loop.running = true → 0 < loop.pending

/-- No event of the loop is left from before where the step begins the loop again. -/
def Safe (loop : ReportLoop) (step : LoopStep) : Prop :=
  match step with
  | .start => loop.requested = false → loop.enabled = true → loop.pending = 0
  | .enable enabled =>
    loop.enabled = false → enabled = true → loop.requested = true →
      loop.running = false → loop.pending = 0
  | _ => True

instance (loop : ReportLoop) : Decidable loop.Single := inferInstanceAs (Decidable (_ ∧ _))

variable {loop : ReportLoop}

theorem tracked_next (tracked : Tracked loop) (step : LoopStep) : Tracked (loop.next step) := by
  cases step with
  | start | enable enabled =>
    simp only [next]
    split
    · exact tracked
    · split
      · exact fun _ => Nat.succ_pos _
      · exact tracked
  | stop => exact tracked
  | fire | fireOnce =>
    simp only [next]
    split
    · exact tracked
    · intro running
      cases running
  | stay => exact tracked

theorem single_fire (single : Single loop) : Single (loop.next .fire) := by
  by_cases kept : loop.pending = 0 ∨ loop.wanted = true
  · rw [next, if_pos kept]
    exact single
  · rw [next, if_neg kept]
    constructor
    · exact Nat.le_trans (Nat.sub_le _ _) single.1
    · exact fun wants => absurd (.inr wants) kept

theorem single_fireOnce (single : Single loop) : Single (loop.next .fireOnce) := by
  by_cases kept : loop.wanted = true
  · rw [next, if_pos kept]
    exact single
  · rw [next, if_neg kept]
    exact single

theorem single_next_iff (tracked : Tracked loop) (single : Single loop) (step : LoopStep) :
    Single (loop.next step) ↔ loop.Safe step := by
  obtain ⟨requested, enabled, running, pending⟩ := loop
  simp only [Single, Tracked, wanted] at single tracked
  cases step with
  | start =>
    simp only [next, Safe, Single, begin, wanted]
    cases requested <;> cases enabled <;> simp at single ⊢ <;> omega
  | stop =>
    simp only [next, Safe, Single, wanted]
    simpa using single.1
  | enable on =>
    simp only [next, Safe, Single, begin, wanted]
    cases requested <;> cases enabled <;> cases on <;> cases running <;>
      simp at single tracked ⊢ <;> omega
  | fire => exact iff_of_true (single_fire single) trivial
  | fireOnce => exact iff_of_true (single_fireOnce single) trivial
  | stay => simpa only [next, Safe, Single, wanted, iff_true] using single

end ReportLoop

end PlayerFramework.HiPlayer
