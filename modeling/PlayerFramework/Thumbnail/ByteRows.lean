import Mathlib.Data.List.Basic
import Mathlib.Logic.Function.Basic
import Mathlib.Tactic.Ring

/-!
Copying rows of samples from one block of memory into another: what the rows leave, and when
every access of theirs was inside the two blocks.
-/

namespace PlayerFramework.Thumbnail

/-- What is copied: bytes, or the high byte of little-endian pairs. -/
inductive Sample where
  | byte
  | high
deriving DecidableEq

def Sample.width : Sample → Nat
  | .byte => 1
  | .high => 2

/-- The byte that is stored for the sample at an offset. -/
def Sample.read (source : Int → UInt8) (offset : Int) : Sample → UInt8
  | .byte => source offset
  | .high =>
    UInt8.ofNat (((source offset).toNat + 256 * (source (offset + 1)).toNat) >>> 8)

/-- The block that is read, its size, and the size of the block that is written. -/
structure Blocks where
  source : Int → UInt8
  size : Int
  capacity : Int

/-- The bytes of the block that is written, and whether every access so far was inside. -/
structure Copying where
  bytes : Int → UInt8 := fun _ => 0
  inside : Bool := true

section

variable (blocks : Blocks) (sample : Sample)

def Copying.move (src dst : Int) (copying : Copying) : Copying :=
  { bytes := Function.update copying.bytes dst (sample.read blocks.source src)
    inside := copying.inside && decide (0 ≤ src) && decide (src + sample.width ≤ blocks.size) &&
      decide (0 ≤ dst) && decide (dst < blocks.capacity) }

/-- A loop that moves on by one sample and one byte. -/
def copyRow : Nat → Int → Int → Copying → Copying
  | 0, _, _, copying => copying
  | count + 1, src, dst, copying =>
    copyRow count (src + sample.width) (dst + 1) (copying.move blocks sample src dst)

/-- Rows one after the other, each at places of its own. -/
def copyRows (count : Nat → Nat) (src dst : Nat → Int) (rows : Nat) (copying : Copying) : Copying :=
  (List.range rows).foldl
    (fun copied row => copyRow blocks sample (count row) (src row) (dst row) copied) copying

/-- The places of a row that are read and written are inside. -/
def RowInside (count : Nat) (src dst : Int) : Prop :=
  count = 0 ∨ (0 ≤ src ∧ src + sample.width * count ≤ blocks.size ∧ 0 ≤ dst ∧
    dst + count ≤ blocks.capacity)

variable {blocks sample}

theorem copyRow_inside (count : Nat) (src dst : Int) (copying : Copying) :
    (copyRow blocks sample count src dst copying).inside = true ↔
      copying.inside = true ∧ RowInside blocks sample count src dst := by
  have positive : (0 : Int) < sample.width := by cases sample <;> decide
  induction count generalizing src dst copying with
  | zero => simp [copyRow, RowInside]
  | succ count ih =>
    refine (ih _ _ _).trans ?_
    have step : (sample.width : Int) * (count + 1 : Nat) = sample.width * count + sample.width := by
      push_cast
      ring
    have nonneg : (0 : Int) ≤ sample.width * count := Int.mul_nonneg positive.le (by omega)
    simp only [Copying.move, RowInside, Bool.and_eq_true, decide_eq_true_eq, step, and_assoc]
    refine and_congr_right fun _ => ?_
    by_cases none : count = 0
    · subst none
      omega
    · omega

theorem copyRow_bytes (count : Nat) (src dst : Int) (copying : Copying) (place : Int) :
    (copyRow blocks sample count src dst copying).bytes place =
      if dst ≤ place ∧ place < dst + count then
        sample.read blocks.source (src + sample.width * (place - dst))
      else copying.bytes place := by
  induction count generalizing src dst copying with
  | zero => rw [copyRow, if_neg (by omega)]
  | succ count ih =>
    rw [copyRow, ih]
    by_cases first : place = dst
    · subst first
      have stored : (copying.move blocks sample src place).bytes place =
          sample.read blocks.source src := Function.update_self _ _ _
      rw [if_neg (by omega), if_pos (by omega), stored, Int.sub_self, Int.mul_zero, Int.add_zero]
    · have other : (copying.move blocks sample src dst).bytes place = copying.bytes place :=
        Function.update_of_ne first _ _
      have moved : src + sample.width + sample.width * (place - (dst + 1)) =
          src + sample.width * (place - dst) := by ring
      rw [other, moved]
      exact if_congr (by omega) rfl rfl

theorem copyRows_succ (count : Nat → Nat) (src dst : Nat → Int) (rows : Nat) (copying : Copying) :
    copyRows blocks sample count src dst (rows + 1) copying =
      copyRow blocks sample (count rows) (src rows) (dst rows)
        (copyRows blocks sample count src dst rows copying) := by
  simp [copyRows, List.range_succ]

variable {count : Nat → Nat} {src dst : Nat → Int} {rows : Nat}

theorem copyRows_congr {count' : Nat → Nat} {src' dst' : Nat → Int}
    (same : ∀ row < rows, count row = count' row ∧ src row = src' row ∧ dst row = dst' row)
    (copying : Copying) :
    copyRows blocks sample count src dst rows copying =
      copyRows blocks sample count' src' dst' rows copying := by
  induction rows with
  | zero => rfl
  | succ rows ih =>
    obtain ⟨counts, sources, targets⟩ := same rows (Nat.lt_succ_self rows)
    rw [copyRows_succ, copyRows_succ, counts, sources, targets,
      ih fun row within => same row (Nat.lt_succ_of_lt within)]

theorem copyRows_inside (count : Nat → Nat) (src dst : Nat → Int) (rows : Nat)
    (copying : Copying) :
    (copyRows blocks sample count src dst rows copying).inside = true ↔ copying.inside = true ∧
        ∀ row < rows, RowInside blocks sample (count row) (src row) (dst row) := by
  induction rows with
  | zero => simp [copyRows]
  | succ rows ih =>
    rw [copyRows_succ, copyRow_inside, ih]
    constructor
    · rintro ⟨⟨before, earlier⟩, last⟩
      refine ⟨before, fun row within => ?_⟩
      rcases Nat.lt_succ_iff_lt_or_eq.mp within with less | rfl
      · exact earlier row less
      · exact last
    · rintro ⟨before, every⟩
      exact ⟨⟨before, fun row within => every row (Nat.lt_succ_of_lt within)⟩,
        every rows (Nat.lt_succ_self rows)⟩

theorem copyRows_before {place : Int} (before : ∀ row < rows, place < dst row) (copying : Copying) :
    (copyRows blocks sample count src dst rows copying).bytes place = copying.bytes place := by
  induction rows with
  | zero => rfl
  | succ rows ih =>
    have later := before rows (Nat.lt_succ_self rows)
    rw [copyRows_succ, copyRow_bytes, if_neg (by omega),
      ih fun row within => before row (Nat.lt_succ_of_lt within)]

/-- Where a row may write over those behind it but none over those in front of it, each row
stands in the end as it was read. -/
theorem copyRows_bytes {row length : Nat} (within : row < rows) (whole : length ≤ count row)
    (ahead : ∀ later, row < later → later < rows → dst row + length ≤ dst later) (copying : Copying)
    {column : Nat} (inRow : column < length) :
    (copyRows blocks sample count src dst rows copying).bytes (dst row + column) =
      sample.read blocks.source (src row + sample.width * column) := by
  induction rows with
  | zero => omega
  | succ rows ih =>
    rw [copyRows_succ, copyRow_bytes]
    rcases Nat.lt_succ_iff_lt_or_eq.mp within with less | rfl
    · have behind := ahead rows less (Nat.lt_succ_self rows)
      rw [if_neg (by omega), ih less fun later after before =>
        ahead later after (Nat.lt_succ_of_lt before)]
    · have offset : dst row + column - dst row = (column : Int) := by omega
      rw [if_pos (by omega), offset]

end

end PlayerFramework.Thumbnail
