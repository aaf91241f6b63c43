import Mathlib.Data.List.Perm.Basic
import Mathlib.Data.List.Sort

/-!
Bubble sort in place: passes over neighbours, each one neighbour shorter than the one before.
A comparison that comes from a key sorts by descending key.
-/

namespace PlayerFramework.BubbleSort

variable {Item : Type*}

/-- One pass over the first `pairs` neighbours. -/
def pass (lower : Item → Item → Bool) : Nat → List Item → List Item
  | pairs + 1, left :: right :: rest =>
    if lower left right then right :: pass lower pairs (left :: rest)
    else left :: pass lower pairs (right :: rest)
  | _, items => items

/-- The first `rounds` passes over items that are `length` many. -/
def rounds (lower : Item → Item → Bool) (length count : Nat) (items : List Item) : List Item :=
  (List.range count).foldl (fun sorted round => pass lower (length - 1 - round) sorted) items

def sort (lower : Item → Item → Bool) (items : List Item) : List Item :=
  rounds lower items.length (items.length - 1) items

section Comparison

variable (lower : Item → Item → Bool)

theorem rounds_succ (length count : Nat) (items : List Item) :
    rounds lower length (count + 1) items =
      pass lower (length - 1 - count) (rounds lower length count items) := by
  simp only [rounds, List.range_succ, List.foldl_append, List.foldl_cons, List.foldl_nil]

theorem pass_perm (pairs : Nat) (items : List Item) : (pass lower pairs items).Perm items := by
  induction pairs, items using pass.induct lower with
  | case1 pairs left right rest swap ih =>
    rw [pass, if_pos swap]
    exact (ih.cons right).trans (List.Perm.swap left right rest)
  | case2 pairs left right rest keep ih =>
    rw [pass, if_neg keep]
    exact ih.cons left
  | case3 pairs items short =>
    rw [pass.eq_2 _ _ _ short]

theorem rounds_perm (length count : Nat) (items : List Item) :
    (rounds lower length count items).Perm items := by
  induction count with
  | zero => exact List.Perm.refl items
  | succ count ih =>
    rw [rounds_succ]
    exact (pass_perm lower _ _).trans ih

theorem sort_perm (items : List Item) : (sort lower items).Perm items :=
  rounds_perm lower _ _ items

/-- A pass does not reach what stands behind its neighbours. -/
theorem pass_append {pairs : Nat} {front : List Item} (reach : front.length = pairs + 1)
    (behind : List Item) :
      pass lower pairs (front ++ behind) = pass lower pairs front ++ behind := by
  induction pairs generalizing front with
  | zero =>
    rw [pass.eq_2 _ _ _ (by simp), pass.eq_2 _ _ _ (by simp)]
  | succ pairs ih =>
    match front, reach with
    | left :: right :: rest, reach =>
      have later (first : Item) := @ih (first :: rest) (by simpa using reach)
      simp only [List.cons_append] at later ⊢
      rw [pass, pass]
      split
      · rw [later, List.cons_append]
      · rw [later, List.cons_append]

/-- Items of which none is lower than another keep their order. -/
theorem pass_filter {level : Item → Bool}
    (alike : ∀ left right, level left = true → level right = true → lower left right = false)
    (pairs : Nat) (items : List Item) :
    (pass lower pairs items).filter level = items.filter level := by
  induction pairs, items using pass.induct lower with
  | case1 pairs left right rest swap ih =>
    rw [pass, if_pos swap, List.filter_cons, ih]
    cases ofLeft : level left with
    | false => simp [ofLeft, List.filter_cons]
    | true =>
      have apart : level right = false := by
        by_contra ofRight
        rw [alike left right ofLeft (by simpa using ofRight)] at swap
        cases swap
      simp [ofLeft, apart]
  | case2 pairs left right rest keep ih =>
    rw [pass, if_neg keep, List.filter_cons, ih, ← List.filter_cons]
  | case3 pairs items short =>
    rw [pass.eq_2 _ _ _ short]

theorem sort_filter {level : Item → Bool}
    (alike : ∀ left right, level left = true → level right = true → lower left right = false)
    (items : List Item) : (sort lower items).filter level = items.filter level := by
  have filtered (count : Nat) :
      (rounds lower items.length count items).filter level = items.filter level := by
    induction count with
    | zero => rfl
    | succ count ih => rw [rounds_succ, pass_filter lower alike, ih]
  exact filtered _

theorem pass_congr {other : Item → Item → Bool} {pairs : Nat} {items : List Item}
    (agree : ∀ left ∈ items, ∀ right ∈ items, lower left right = other left right) :
    pass lower pairs items = pass other pairs items := by
  induction pairs generalizing items with
  | zero => rw [pass.eq_2 _ _ _ (by simp), pass.eq_2 _ _ _ (by simp)]
  | succ pairs ih =>
    match items with
    | [] | [item] => rfl
    | left :: right :: rest =>
      rw [pass, pass, agree left (by simp) right (by simp)]
      split
      · rw [ih]
        intro first atFirst second atSecond
        exact agree first (by grind) second (by grind)
      · rw [ih]
        intro first atFirst second atSecond
        exact agree first (by grind) second (by grind)

/-- Only how the items compare with each other matters. -/
theorem sort_congr {other : Item → Item → Bool} {items : List Item}
    (agree : ∀ left ∈ items, ∀ right ∈ items, lower left right = other left right) :
    sort lower items = sort other items := by
  have rounded (count : Nat) :
      rounds lower items.length count items = rounds other items.length count items := by
    induction count with
    | zero => rfl
    | succ count ih =>
      have same := (rounds_perm other items.length count items).subset
      rw [rounds_succ, rounds_succ, ih, pass_congr]
      intro left atLeft right atRight
      exact agree left (same atLeft) right (same atRight)
  exact rounded _

variable {first : Item} {rest : List Item}

theorem pass_head (highest : ∀ item ∈ rest, lower first item = false) (pairs : Nat) :
    ∃ later, pass lower pairs (first :: rest) = first :: later ∧ later.Perm rest := by
  match pairs, rest with
  | 0, rest => exact ⟨rest, by rw [pass.eq_2 _ _ _ (by simp)], List.Perm.refl rest⟩
  | pairs + 1, [] => exact ⟨[], by rw [pass.eq_2 _ _ _ (by simp)], List.Perm.refl []⟩
  | pairs + 1, right :: rest =>
    refine ⟨pass lower pairs (right :: rest), ?_, pass_perm lower _ _⟩
    rw [pass, if_neg (by simp [highest right])]

theorem rounds_head (highest : ∀ item ∈ rest, lower first item = false) (length count : Nat) :
    ∃ later, rounds lower length count (first :: rest) = first :: later ∧ later.Perm rest := by
  induction count with
  | zero => exact ⟨rest, rfl, List.Perm.refl rest⟩
  | succ count ih =>
    obtain ⟨later, sorted, same⟩ := ih
    have still : ∀ item ∈ later, lower first item = false := by
      intro item member
      exact highest item (same.subset member)
    obtain ⟨after, passed, again⟩ := pass_head lower still (length - 1 - count)
    exact ⟨after, by rw [rounds_succ, sorted, passed], again.trans same⟩

theorem sort_head (highest : ∀ item ∈ rest, lower first item = false) :
    ∃ later, sort lower (first :: rest) = first :: later ∧ later.Perm rest :=
  rounds_head lower highest _ _

end Comparison

section Key

variable {Key : Type*} [LinearOrder Key] (key : Item → Key)

/-- The key never grows along the items. -/
def Descending (items : List Item) : Prop :=
  items.Pairwise fun before after => key after ≤ key before

def lowerKey (left right : Item) : Bool := decide (key left < key right)

theorem pass_lowest {pairs : Nat} {items : List Item} (reach : items.length = pairs + 1) :
    ∃ front lowest, pass (lowerKey key) pairs items = front ++ [lowest] ∧
      front.length = pairs ∧ ∀ item ∈ items, key lowest ≤ key item := by
  induction pairs generalizing items with
  | zero =>
    obtain ⟨item, rfl⟩ := List.length_eq_one_iff.mp reach
    exact ⟨[], item, rfl, rfl, by simp⟩
  | succ pairs ih =>
    match items, reach with
    | left :: right :: rest, reach =>
      rw [pass]
      by_cases swap : lowerKey key left right = true
      · rw [if_pos swap]
        have ordered : key left < key right := of_decide_eq_true swap
        obtain ⟨front, lowest, passed, length, least⟩ := @ih (left :: rest) (by simpa using reach)
        refine ⟨right :: front, lowest, by rw [passed]; rfl, by simp [length], ?_⟩
        have atMost : key lowest ≤ key left := least left List.mem_cons_self
        intro item member
        rcases List.mem_cons.mp member with rfl | member
        · exact atMost
        · rcases List.mem_cons.mp member with rfl | member
          · exact le_trans atMost (le_of_lt ordered)
          · exact least item (List.mem_cons_of_mem _ member)
      · rw [if_neg swap]
        have ordered : key right ≤ key left := by
          simpa [lowerKey] using swap
        obtain ⟨front, lowest, passed, length, least⟩ := @ih (right :: rest) (by simpa using reach)
        refine ⟨left :: front, lowest, by rw [passed]; rfl, by simp [length], ?_⟩
        have atMost : key lowest ≤ key right := least right List.mem_cons_self
        intro item member
        rcases List.mem_cons.mp member with rfl | member
        · exact le_trans atMost ordered
        · exact least item member

/-- After some passes as many items stand sorted behind the others, none higher than those. -/
theorem rounds_sorted (items : List Item) {count : Nat} (within : count + 1 ≤ items.length) :
    ∃ front behind, rounds (lowerKey key) items.length count items = front ++ behind ∧
      front.length + count = items.length ∧ Descending key behind ∧
      ∀ item ∈ front, ∀ later ∈ behind, key later ≤ key item := by
  induction count with
  | zero => exact ⟨items, [], by simp [rounds], by simp, List.Pairwise.nil, by simp⟩
  | succ count ih =>
    obtain ⟨front, behind, sorted, length, descending, dominated⟩ := ih (by omega)
    have reach : front.length = (items.length - 1 - count) + 1 := by omega
    obtain ⟨shorter, lowest, passed, shortened, least⟩ := pass_lowest key reach
    have same : (shorter ++ [lowest]).Perm front := passed ▸ pass_perm (lowerKey key) _ front
    have members : shorter ++ [lowest] ⊆ front := same.subset
    refine ⟨shorter, lowest :: behind, ?_, by omega, ?_, ?_⟩
    · rw [rounds_succ, sorted, pass_append _ reach, passed, List.append_assoc]
      rfl
    · refine List.Pairwise.cons ?_ descending
      intro later member
      exact dominated lowest (members (by simp)) later member
    · intro item member later behindMember
      have inFront : item ∈ front := members (List.mem_append_left _ member)
      rcases List.mem_cons.mp behindMember with rfl | behindMember
      · exact least item inFront
      · exact dominated item inFront later behindMember

theorem sort_descending (items : List Item) : Descending key (sort (lowerKey key) items) := by
  cases items with
  | nil => exact List.Pairwise.nil
  | cons first rest =>
    obtain ⟨front, behind, sorted, length, descending, dominated⟩ :=
      @rounds_sorted _ _ _ key (first :: rest) rest.length (by simp)
    obtain ⟨highest, rfl⟩ : ∃ highest, front = [highest] :=
      List.length_eq_one_iff.mp (by simp at length; omega)
    have whole : sort (lowerKey key) (first :: rest) = highest :: behind := sorted
    rw [whole]
    exact List.Pairwise.cons (dominated highest List.mem_cons_self) descending

/-- Insertion before the first item that is not higher keeps the order. -/
theorem Descending.orderedInsert {items : List Item} (descending : Descending key items)
    (item : Item) :
    Descending key (items.orderedInsert (fun before after => key after ≤ key before) item) := by
  exact List.Pairwise.orderedInsert item items descending

end Key

end PlayerFramework.BubbleSort
