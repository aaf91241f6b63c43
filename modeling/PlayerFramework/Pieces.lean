import Mathlib.Data.List.Basic

/-!
Pieces of a text that follow one another, each with its offset.
-/

namespace PlayerFramework.Pieces

variable {α : Type*}

/-- The part of the data from `start` up to `stop`. -/
def slice (data : List α) (start stop : Nat) : List α := (data.drop start).take (stop - start)

variable {data : List α} {start stop middle : Nat} {pieces : List (Int × List α)}

theorem length_slice (within : stop ≤ data.length) :
    (slice data start stop).length = stop - start := by
  rw [slice, List.length_take, List.length_drop]
  omega

theorem slice_append (early : start ≤ middle) (late : middle ≤ stop) :
    slice data start middle ++ slice data middle stop = slice data start stop := by
  have whole : stop - start = (middle - start) + (stop - middle) := by omega
  have rest : data.drop middle = (data.drop start).drop (middle - start) := by
    rw [List.drop_drop]
    congr 1
    omega
  rw [slice, slice, slice, whole, rest, List.take_add]

/-- The pieces start at `start`, each where the one before it ends, up to `stop`. -/
def Spans : Int → List (Int × List α) → Int → Prop
  | start, [], stop => start = stop
  | start, (offset, piece) :: rest, stop => offset = start ∧ Spans (start + piece.length) rest stop

theorem spans_le {start stop : Int} (spans : Spans start pieces stop) : start ≤ stop := by
  induction pieces generalizing start with
  | nil => exact Int.le_of_eq spans
  | cons piece rest ih =>
    have later := ih spans.2
    omega

/-- No piece lies outside the range that the pieces span. -/
theorem spans_bounds {start stop : Int} (spans : Spans start pieces stop) {piece : Int × List α}
    (inside : piece ∈ pieces) :
    start ≤ piece.1 ∧ piece.1 + piece.2.length ≤ stop := by
  induction pieces generalizing start with
  | nil => cases inside
  | cons first rest ih =>
    have remaining := spans_le spans.2
    have here : first.1 = start := spans.1
    rcases List.mem_cons.mp inside with rfl | later
    · omega
    · have bounds := ih spans.2 later
      omega

/-- Pieces that span something have a last one, which ends where the range does. -/
theorem spans_last {start stop : Int} (spans : Spans start pieces stop) (nonempty : start < stop) :
    ∃ piece ∈ pieces, piece.1 + piece.2.length = stop := by
  induction pieces generalizing start with
  | nil =>
    have same : start = stop := spans
    omega
  | cons first rest ih =>
    have here : first.1 = start := spans.1
    by_cases final : start + first.2.length = stop
    · exact ⟨first, List.mem_cons_self, by omega⟩
    · have remaining := spans_le spans.2
      obtain ⟨piece, inside, ends⟩ := ih spans.2 (by omega)
      exact ⟨piece, List.mem_cons_of_mem first inside, ends⟩

/-- The pieces are consecutive and together the data from `start` up to `stop`. -/
def Delivers (data : List α) (start stop : Nat) (pieces : List (Int × List α)) : Prop :=
  Spans start pieces stop ∧ pieces.flatMap Prod.snd = slice data start stop

theorem delivers_nil (data : List α) (start : Nat) : Delivers data start start [] := by
  simp [Delivers, Spans, slice]

theorem delivers_cons {rest : List (Int × List α)} (early : start ≤ middle) (late : middle ≤ stop)
    (within : stop ≤ data.length) (delivers : Delivers data middle stop rest) :
    Delivers data start stop (((start : Int), slice data start middle) :: rest) := by
  have length : (slice data start middle).length = middle - start :=
    length_slice (Nat.le_trans late within)
  have next : (start : Int) + (slice data start middle).length = middle := by omega
  refine ⟨⟨rfl, ?_⟩, ?_⟩
  · rw [next]
    exact delivers.1
  · rw [List.flatMap_cons, delivers.2]
    exact slice_append early late

end PlayerFramework.Pieces
