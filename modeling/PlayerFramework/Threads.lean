import Mathlib.Data.List.Basic

/-!
Threads that run the actions of a program one after another.  A pool is the list of what each
thread still has to do; an action may put further actions before the rest of its thread, and
create threads.
-/

namespace PlayerFramework.Threads

variable {Action : Type*}

def next? (threads : List (List Action)) (thread : Nat) : Option Action :=
  threads[thread]?.bind List.head?

/-- The pool after a thread's next action, which is replaced by `continuing`. -/
def proceed (threads : List (List Action)) (thread : Nat) (continuing : List Action)
    (created : List (List Action)) : List (List Action) :=
  threads.modify thread (fun actions => continuing ++ actions.tail) ++ created

theorem modify_perm {threads : List (List Action)} {thread : Nat} {action : Action}
    (ready : next? threads thread = some action) (continuing : List Action) :
    (action :: (threads.modify thread fun actions => continuing ++ actions.tail).flatten).Perm
      (continuing ++ threads.flatten) := by
  induction threads generalizing thread with
  | nil => simp [next?] at ready
  | cons actions others ih =>
    cases thread with
    | zero =>
      obtain ⟨rest, rfl⟩ : ∃ rest, actions = action :: rest := by
        cases actions with
        | nil => simp [next?] at ready
        | cons head rest =>
          have same : head = action := by simpa [next?] using ready
          exact ⟨rest, by rw [same]⟩
      rw [List.modify_zero_cons, List.flatten_cons, List.flatten_cons, List.tail_cons,
        List.append_assoc, List.cons_append]
      exact List.perm_middle.symm
    | succ thread =>
      have later := @ih thread (by simpa [next?] using ready)
      calc (action :: (actions ++ (others.modify thread
            fun actions => continuing ++ actions.tail).flatten)).Perm
            (actions ++ action :: (others.modify thread
              fun actions => continuing ++ actions.tail).flatten) := List.perm_middle.symm
        _ |>.Perm (actions ++ (continuing ++ others.flatten)) := later.append_left actions
        _ |>.Perm (continuing ++ (actions ++ others.flatten)) := by
            rw [← List.append_assoc, ← List.append_assoc]
            exact List.perm_append_comm.append_right others.flatten

/-- What is still to be done, but for the order: the action goes, what it continues with and
the threads it creates come. -/
theorem proceed_perm {threads : List (List Action)} {thread : Nat} {action : Action}
    (ready : next? threads thread = some action) (continuing : List Action)
    (created : List (List Action)) :
    (action :: (proceed threads thread continuing created).flatten).Perm
      (threads.flatten ++ (continuing ++ created.flatten)) := by
  have moved := (modify_perm ready continuing).append_right created.flatten
  rw [proceed, List.flatten_append]
  refine moved.trans ?_
  rw [← List.append_assoc]
  exact List.perm_append_comm.append_right created.flatten

end PlayerFramework.Threads
