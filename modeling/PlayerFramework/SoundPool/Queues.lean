import Mathlib.Data.List.Basic
import Mathlib.Data.List.Perm.Subperm
import Mathlib.Data.List.TakeWhile
import PlayerFramework.BubbleSort

/-!
The two queues of stream IDs of the sound pool, sorted by descending priority.  An ID that has
no stream has no priority.
-/

namespace PlayerFramework.SoundPool

/-- What one round of the loop over the queue leaves: the finished queue, or a queue without
the first ID that had no stream, to be gone through again. -/
inductive Round
  | done (queue : List Int)
  | again (queue : List Int)

/-- The loop of `QueueAndSortPlayingStreamID` from the ID behind `passed` on. -/
def insertRound (priority : Int → Option Int) (fresh : Int) (passed : List Int) : List Int → Round
  | [] => .done passed
  | streamID :: rest =>
    match priority streamID with
    | none => .again (passed ++ rest)
    | some other =>
      match priority fresh with
      | none => .done (passed ++ streamID :: rest)
      | some own =>
        if own ≥ other then .done (passed ++ fresh :: streamID :: rest)
        else if rest = [] then .done (passed ++ [streamID, fresh])
        else insertRound priority fresh (passed ++ [streamID]) rest

/-- The calls of itself are counted down; each has a shorter queue. -/
def queueAndSortWithin (priority : Int → Option Int) (fresh : Int) : Nat → List Int → List Int
  | _, [] => [fresh]
  | 0, queue => queue
  | calls + 1, queue =>
    match insertRound priority fresh [] queue with
    | .done sorted => sorted
    | .again shorter => queueAndSortWithin priority fresh calls shorter

def queueAndSort (priority : Int → Option Int) (fresh : Int) (queue : List Int) : List Int :=
  queueAndSortWithin priority fresh queue.length queue

theorem insertRound_again {priority : Int → Option Int} {fresh : Int}
    {passed rest shorter : List Int}
    (again : insertRound priority fresh passed rest = .again shorter) :
    shorter.length + 1 = passed.length + rest.length ∧ shorter.Sublist (passed ++ rest) := by
  induction rest generalizing passed with
  | nil => simp [insertRound] at again
  | cons streamID rest ih =>
    rw [insertRound] at again
    split at again
    · cases again
      constructor
      · simp
        omega
      · exact (List.sublist_cons_self streamID rest).append_left passed
    · split at again
      · cases again
      split at again
      · cases again
      · split at again
        · cases again
        · have later := ih again
          simpa [Nat.add_assoc, Nat.add_comm 1] using later

theorem insertRound_done {priority : Int → Option Int} {fresh : Int} {passed rest sorted : List Int}
    (done : insertRound priority fresh passed rest = .done sorted) :
    sorted.Subperm (fresh :: (passed ++ rest)) := by
  induction rest generalizing passed with
  | nil =>
    cases done
    exact ((List.sublist_append_left sorted []).trans (List.sublist_cons_self fresh _)).subperm
  | cons streamID rest ih =>
    rw [insertRound] at done
    split at done
    · cases done
    split at done
    · cases done
      exact (List.sublist_cons_self fresh _).subperm
    split at done
    · cases done
      exact List.perm_middle.subperm
    split at done
    · rename_i last
      cases done
      subst last
      rw [← List.singleton_append, ← List.append_assoc]
      exact List.perm_append_comm.subperm
    · simpa using ih done

variable (priority : Int → Option Int) (fresh : Int)

theorem queueAndSortWithin_enough {calls more : Nat} {queue : List Int}
    (enough : queue.length ≤ calls) (moreEnough : queue.length ≤ more) :
    queueAndSortWithin priority fresh calls queue =
      queueAndSortWithin priority fresh more queue := by
  induction calls generalizing queue more with
  | zero =>
    have empty : queue = [] := List.length_eq_zero_iff.mp (by omega)
    rw [empty, queueAndSortWithin, queueAndSortWithin]
  | succ calls ih =>
    cases queue with
    | nil => rw [queueAndSortWithin, queueAndSortWithin]
    | cons streamID rest =>
      obtain ⟨fewer, rfl⟩ : ∃ fewer, more = fewer + 1 :=
        ⟨more - 1, by simp at moreEnough; omega⟩
      rw [queueAndSortWithin.eq_3 _ _ _ _ (by simp), queueAndSortWithin.eq_3 _ _ _ _ (by simp)]
      split
      · rfl
      · rename_i shorter again
        have length := (insertRound_again again).1
        simp at length enough moreEnough
        exact ih (by omega) (by omega)

theorem queueAndSort_eq (queue : List Int) : queueAndSort priority fresh queue =
      if queue = [] then [fresh]
      else
        match insertRound priority fresh [] queue with
        | .done sorted => sorted
        | .again shorter => queueAndSort priority fresh shorter := by
  cases queue with
  | nil => rfl
  | cons streamID rest =>
    rw [if_neg (by simp), queueAndSort, List.length_cons, queueAndSortWithin.eq_3 _ _ _ _ (by simp)]
    split
    · rfl
    · rename_i shorter again
      have length := (insertRound_again again).1
      simp at length
      exact queueAndSortWithin_enough priority fresh (by omega) (Nat.le_refl _)

theorem queueAndSort_subperm (queue : List Int) :
    (queueAndSort priority fresh queue).Subperm (fresh :: queue) := by
  induction size : queue.length using Nat.strongRecOn generalizing queue with
  | ind length ih =>
    rw [queueAndSort_eq]
    split
    · rename_i empty
      rw [empty]
    split
    · rename_i sorted done
      exact insertRound_done done
    rename_i shorter again
    obtain ⟨counted, kept⟩ := insertRound_again again
    simp at counted kept
    have later := ih shorter.length (by omega) shorter rfl
    exact later.trans (kept.cons_cons fresh).subperm

section Place

variable {priority : Int → Option Int} {fresh own : Int}

def hasStream (priority : Int → Option Int) (streamID : Int) : Bool := (priority streamID).isSome

/-- The ID is not one to insert before. -/
def passes (priority : Int → Option Int) (own streamID : Int) : Bool :=
  (priority streamID).all fun other => own < other

/-- The fresh ID in its place, without the dead IDs before it. -/
def placed (priority : Int → Option Int) (own fresh : Int) (queue : List Int) : List Int :=
  (queue.takeWhile (passes priority own)).filter (hasStream priority) ++
    fresh :: queue.dropWhile (passes priority own)

theorem placed_append {passed : List Int}
    (higher : ∀ streamID ∈ passed, ∃ other, priority streamID = some other ∧ own < other)
    (rest : List Int) :
    placed priority own fresh (passed ++ rest) = passed ++ placed priority own fresh rest := by
  have through : ∀ streamID ∈ passed, passes priority own streamID = true := by
    intro streamID member
    obtain ⟨other, there, above⟩ := higher streamID member
    simp [passes, there, above]
  have alive : passed.filter (hasStream priority) = passed := by
    rw [List.filter_eq_self]
    intro streamID member
    obtain ⟨other, there, -⟩ := higher streamID member
    simp [hasStream, there]
  rw [placed, List.takeWhile_append_of_pos through, List.dropWhile_append_of_pos through,
    List.filter_append, alive, List.append_assoc, placed]

theorem insertRound_placed (ofFresh : priority fresh = some own) {passed rest : List Int}
    (higher : ∀ streamID ∈ passed, ∃ other, priority streamID = some other ∧ own < other)
    (nonempty : rest ≠ []) :
    match insertRound priority fresh passed rest with
    | .done sorted => sorted = placed priority own fresh (passed ++ rest)
    | .again shorter =>
      placed priority own fresh shorter = placed priority own fresh (passed ++ rest) := by
  induction rest generalizing passed with
  | nil => exact absurd rfl nonempty
  | cons streamID rest ih =>
    cases there : priority streamID with
    | none =>
      simp only [insertRound, there]
      rw [placed_append higher, placed_append higher]
      simp [placed, passes, hasStream, there]
    | some other =>
      simp only [insertRound, there, ofFresh]
      by_cases here : own ≥ other
      · rw [if_pos here, placed_append higher]
        simp [placed, passes, there, Int.not_lt.mpr here]
      rw [if_neg here]
      have below : own < other := Int.not_le.mp here
      split_ifs with last
      · rw [last, placed_append higher]
        simp [placed, passes, hasStream, there, below]
      have later := @ih (passed ++ [streamID]) (by
        intro earlier member
        rcases List.mem_append.mp member with old | same
        · exact higher earlier old
        · exact ⟨other, List.mem_singleton.mp same ▸ there, below⟩) last
      simpa using later

/-- The whole of `QueueAndSort…`, its calls of itself included. -/
theorem queueAndSort_placed (ofFresh : priority fresh = some own) (queue : List Int) :
    queueAndSort priority fresh queue = placed priority own fresh queue := by
  induction size : queue.length using Nat.strongRecOn generalizing queue with
  | ind length ih =>
    rw [queueAndSort_eq]
    split_ifs with empty
    · rw [empty]
      rfl
    have round := @insertRound_placed _ _ _ ofFresh [] queue (by simp) empty
    split
    · rename_i sorted done
      rwa [done] at round
    rename_i shorter again
    have fewer := (insertRound_again again).1
    rw [again] at round
    simp only [List.length_nil, Nat.zero_add] at fewer
    rw [ih shorter.length (by omega) shorter rfl]
    exact round

end Place

/-- One pass of `ReorderStream` over the first `pairs` neighbours. -/
def swapPass (lower : Int → Int → Bool) : Nat → List Int → List Int
  | pairs + 1, left :: right :: rest =>
    if lower left right then right :: swapPass lower pairs (left :: rest)
    else left :: swapPass lower pairs (right :: rest)
  | _, queue => queue

def reorder (lower : Int → Int → Bool) (queue : List Int) : List Int :=
  (List.range (queue.length - 1)).foldl
    (fun sorted pass => swapPass lower (queue.length - 1 - pass) sorted) queue

variable (lower : Int → Int → Bool)

theorem swapPass_eq (pairs : Nat) (queue : List Int) :
    swapPass lower pairs queue = BubbleSort.pass lower pairs queue := by
  induction pairs, queue using swapPass.induct lower with
  | case1 pairs left right rest swap ih =>
    rw [swapPass, BubbleSort.pass, if_pos swap, if_pos swap, ih]
  | case2 pairs left right rest keep ih =>
    rw [swapPass, BubbleSort.pass, if_neg keep, if_neg keep, ih]
  | case3 pairs queue none =>
    rw [swapPass.eq_2 _ _ _ none, BubbleSort.pass.eq_2 _ _ _ none]

theorem reorder_eq_sort (queue : List Int) : reorder lower queue = BubbleSort.sort lower queue := by
  simp only [reorder, swapPass_eq, BubbleSort.sort, BubbleSort.rounds]

theorem reorder_perm (queue : List Int) : (reorder lower queue).Perm queue := by
  rw [reorder_eq_sort]
  exact BubbleSort.sort_perm lower queue

end PlayerFramework.SoundPool
