import Mathlib.Algebra.GroupWithZero.Nat
import Mathlib.Algebra.Ring.Int.Defs
import PlayerFramework.Loader.StreamCacheManager

/-!
What `RemoveCacheDirectory` takes off `cacheSize_`, against the files it removes.
-/

namespace PlayerFramework.StreamCache

def removedSizes : List (Nat × Bool) → Nat → List Nat
  | [], _ => []
  | (size, removable) :: rest, removeSize =>
    if removeSize ≥ needRemoveCacheSize then []
    else if ¬ removable then removedSizes rest removeSize
    else size :: removedSizes rest (removeSize + size)

def removedFrom (system : System) (entry : Text) : List Nat :=
  removedSizes (system.files entry) 0

/-- The sums of all beginnings, over what was added up before. -/
def cumulated : Nat → List Nat → Nat
  | _, [] => 0
  | sum, size :: rest => sum + size + cumulated (sum + size) rest

/-- The counter goes down by the bytes removed, and the eviction goes on exactly where what
remains is above the waterline. -/
structure SizeAccounted (system : System) (m : StreamCacheManager) (entry : Text) : Prop where
  decrease : (m.removeCacheDirectory system entry).cacheSize + (removedFrom system entry).sum =
    m.cacheSize
  goesOn : (m.removeCacheDirectory system entry).cacheSize > cacheFileSizeWaterline ↔
    m.cacheSize > cacheFileSizeWaterline + (removedFrom system entry).sum

theorem removeFiles_cacheSize (files : List (Nat × Bool)) (removeSize : Nat)
    (m : StreamCacheManager) :
    (StreamCacheManager.removeFiles files removeSize m).cacheSize =
      m.cacheSize - cumulated removeSize (removedSizes files removeSize) := by
  induction files generalizing removeSize m with
  | nil => rfl
  | cons file rest ih =>
    obtain ⟨size, removable⟩ := file
    rw [StreamCacheManager.removeFiles, removedSizes]
    split
    · rfl
    split
    · exact ih removeSize m
    have flushed : (m.flushCacheSize (removeSize + size)).cacheSize =
        m.cacheSize - (removeSize + size) := by
      unfold StreamCacheManager.flushCacheSize
      dsimp only
      split <;> omega
    rw [ih, flushed, cumulated]
    omega

theorem removeCacheDirectory_cacheSize (system : System) (m : StreamCacheManager) (entry : Text) :
    (m.removeCacheDirectory system entry).cacheSize =
      m.cacheSize - cumulated 0 (removedFrom system entry) := by
  have removed := removeFiles_cacheSize (system.files entry) 0 m
  unfold StreamCacheManager.removeCacheDirectory
  split
  · exact removed
  · exact removed

theorem sum_le_cumulated (sum : Nat) (sizes : List Nat) :
    sizes.sum + sum * sizes.length ≤ cumulated sum sizes := by
  induction sizes generalizing sum with
  | nil => exact Nat.le_refl _
  | cons size rest ih =>
    have later := ih (sum + size)
    have more : sum * rest.length ≤ (sum + size) * rest.length :=
      Nat.mul_le_mul_right _ (Nat.le_add_right _ _)
    rw [cumulated, List.sum_cons, List.length_cons, Nat.mul_succ]
    omega

/-- Beginnings sum up to no more than the whole exactly where all but the last are empty. -/
theorem cumulated_eq_sum_iff (sizes : List Nat) :
    cumulated 0 sizes = sizes.sum ↔ ∀ size ∈ sizes.dropLast, size = 0 := by
  induction sizes with
  | nil => exact iff_of_true rfl (List.forall_mem_nil _)
  | cons size rest ih =>
    rw [cumulated, List.sum_cons, Nat.zero_add, Nat.add_left_cancel_iff]
    cases rest with
    | nil => exact iff_of_true rfl (List.forall_mem_nil _)
    | cons next rest =>
      rw [List.dropLast_cons_cons, List.forall_mem_cons]
      constructor
      · intro same
        have above := sum_le_cumulated size (next :: rest)
        have nothing : size = 0 := by
          by_contra some
          have positive : 0 < size * (next :: rest).length :=
            Nat.mul_pos (Nat.pos_of_ne_zero some) (Nat.succ_pos _)
          omega
        rw [nothing] at same
        exact ⟨nothing, ih.mp same⟩
      · rintro ⟨rfl, others⟩
        exact ih.mpr others

/-- The counter is right only where the whole cache goes, or one file with bytes in it as the
last. -/
theorem size_accounted_iff (system : System) (m : StreamCacheManager) (entry : Text) :
    SizeAccounted system m entry ↔ (removedFrom system entry).sum = m.cacheSize ∨
        (removedFrom system entry).sum ≤ m.cacheSize ∧
          ∀ size ∈ (removedFrom system entry).dropLast, size = 0 := by
  have after := removeCacheDirectory_cacheSize system m entry
  have above := sum_le_cumulated 0 (removedFrom system entry)
  rw [← cumulated_eq_sum_iff]
  constructor
  · intro accounted
    have decrease := accounted.decrease
    omega
  · intro right
    have decrease : (m.removeCacheDirectory system entry).cacheSize +
        (removedFrom system entry).sum = m.cacheSize := by
      omega
    exact ⟨decrease, by omega⟩

/-- Two files of one and two bytes below a cache of ten. -/
theorem two_files_overcounted :
    ¬ SizeAccounted { files := fun _ => [(1, true), (2, true)] } { cacheSize := 10 } [49] := by
  intro accounted
  have decrease := accounted.decrease
  revert decrease
  decide +kernel

end PlayerFramework.StreamCache
