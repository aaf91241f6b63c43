import Mathlib.Order.Defs.LinearOrder
import Mathlib.Order.Lattice

/-!
Maps as `std::map` keeps them: their entries in the order of the keys, each key once.
-/

namespace PlayerFramework

variable {Key Value : Type*} [LinearOrder Key]

structure OrderedMap (Key Value : Type*) [LinearOrder Key] where
  entries : List (Key × Value)
  ordered : entries.Pairwise fun first second => first.1 < second.1

namespace OrderedMap

@[ext] theorem ext {first second : OrderedMap Key Value}
    (entries : first.entries = second.entries) : first = second := by
  cases first
  cases second
  cases entries
  rfl

def empty : OrderedMap Key Value := ⟨[], .nil⟩

def assigned (key : Key) (value : Value) : List (Key × Value) → List (Key × Value)
  | [] => [(key, value)]
  | entry :: rest =>
    if key < entry.1 then (key, value) :: entry :: rest
    else if entry.1 < key then entry :: assigned key value rest
    else (key, value) :: rest

variable {entries : List (Key × Value)}

theorem mem_assigned {key : Key} {value : Value} {entry : Key × Value}
    (member : entry ∈ assigned key value entries) : entry = (key, value) ∨ entry ∈ entries := by
  induction entries with
  | nil => exact .inl (List.mem_singleton.mp member)
  | cons first rest ih =>
    rw [assigned] at member
    split at member
    · exact List.mem_cons.mp member
    split at member
    · rcases List.mem_cons.mp member with rfl | later
      · exact .inr List.mem_cons_self
      · rcases ih later with here | there
        · exact .inl here
        · exact .inr (List.mem_cons_of_mem first there)
    · rcases List.mem_cons.mp member with here | later
      · exact .inl here
      · exact .inr (List.mem_cons_of_mem first later)

theorem assigned_ordered (key : Key) (value : Value)
    (ordered : entries.Pairwise fun first second => first.1 < second.1) :
    (assigned key value entries).Pairwise fun first second => first.1 < second.1 := by
  induction entries with
  | nil => exact List.pairwise_singleton _ _
  | cons entry rest ih =>
    obtain ⟨above, later⟩ := List.pairwise_cons.mp ordered
    rw [assigned]
    split
    · rename_i below
      refine List.pairwise_cons.mpr ⟨?_, ordered⟩
      intro other member
      rcases List.mem_cons.mp member with rfl | there
      · exact below
      · exact lt_trans below (above other there)
    · split
      · rename_i behind
        refine List.pairwise_cons.mpr ⟨?_, ih later⟩
        intro other member
        rcases mem_assigned member with rfl | there
        · exact behind
        · exact above other there
      · rename_i notBelow notBehind
        have same : entry.1 = key := le_antisymm (not_lt.mp notBelow) (not_lt.mp notBehind)
        exact List.pairwise_cons.mpr ⟨fun other member => same ▸ above other member, later⟩

def assign (map : OrderedMap Key Value) (key : Key) (value : Value) : OrderedMap Key Value where
  entries := assigned key value map.entries
  ordered := assigned_ordered key value map.ordered

/-- A key above all others is assigned at the end. -/
theorem assigned_greatest {key : Key} (value : Value)
    (greatest : ∀ entry ∈ entries, entry.1 < key) :
    assigned key value entries = entries ++ [(key, value)] := by
  induction entries with
  | nil => rfl
  | cons entry rest ih =>
    have below := greatest entry List.mem_cons_self
    rw [assigned, if_neg (lt_asymm below), if_pos below,
      ih fun other member => greatest other (List.mem_cons_of_mem entry member)]
    rfl

/-- Assigning the entries of a map, in their order, to an empty map gives the map. -/
theorem foldl_assign (map : OrderedMap Key Value) :
    map.entries.foldl (fun map entry => map.assign entry.1 entry.2) empty = map := by
  have grown : ∀ (late early : List (Key × Value)) (start : OrderedMap Key Value),
      start.entries = early →
      (early ++ late).Pairwise (fun first second => first.1 < second.1) →
      (late.foldl (fun map entry => map.assign entry.1 entry.2) start).entries = early ++ late := by
    intro late
    induction late with
    | nil =>
      intro early start same _
      rw [List.append_nil]
      exact same
    | cons entry late ih =>
      intro early start same ordered
      have above : ∀ other ∈ early, other.1 < entry.1 := by
        intro other member
        exact (List.pairwise_append.mp ordered).2.2 other member entry List.mem_cons_self
      rw [List.append_cons] at ordered ⊢
      exact ih (early ++ [entry]) (start.assign entry.1 entry.2)
        ((congrArg _ same).trans (assigned_greatest entry.2 above)) ordered
  exact ext (grown map.entries [] empty rfl map.ordered)

end OrderedMap

end PlayerFramework
