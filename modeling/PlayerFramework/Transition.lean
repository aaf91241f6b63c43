import Mathlib.Data.List.Basic
import Mathlib.Order.Defs.PartialOrder

/-!
Runs of a deterministic step function over a list of inputs, guarded runs, and
the induction rules that carry an invariant along them.  Nondeterminism of the
environment is an input: a step function reads the environment's choices from
the input it is given.
-/

namespace PlayerFramework.Transition

variable {State Input : Type*}

/-- The state reached after the inputs have been taken in order. -/
def run (step : State → Input → State) (start : State) (inputs : List Input) : State :=
  inputs.foldl step start

/-- Every input of the run meets `guard` in the state it is taken in. -/
def Along (step : State → Input → State) (guard : State → Input → Prop) : State → List Input → Prop
  | _, [] => True
  | state, input :: rest => guard state input ∧ Along step guard (step state input) rest

instance Along.instDecidable (step : State → Input → State) (guard : State → Input → Prop)
    [∀ state input, Decidable (guard state input)] :
    ∀ state inputs, Decidable (Along step guard state inputs)
  | _, [] => .isTrue trivial
  | state, input :: rest =>
    haveI := Along.instDecidable step guard (step state input) rest
    inferInstanceAs (Decidable (guard state input ∧ Along step guard (step state input) rest))

@[simp] theorem run_nil (step : State → Input → State) (start : State) :
    run step start [] = start := rfl

@[simp] theorem run_cons (step : State → Input → State) (start : State) (input : Input)
    (rest : List Input) : run step start (input :: rest) = run step (step start input) rest := rfl

theorem run_append (step : State → Input → State) (start : State) (first second : List Input) :
    run step start (first ++ second) = run step (run step start first) second := by
  simp only [run, List.foldl_append]

variable {step : State → Input → State} {guard : State → Input → Prop} {inputs : List Input}

theorem along_append (first second : List Input) (start : State) :
    Along step guard start (first ++ second) ↔
      Along step guard start first ∧ Along step guard (run step start first) second := by
  induction first generalizing start with
  | nil => simp [Along]
  | cons input rest ih => simp only [List.cons_append, Along, ih, run_cons, and_assoc]

/-- A weaker guard accepts every run that a stronger one accepts. -/
theorem Along.weaken {wider : State → Input → Prop}
    (implied : ∀ state input, guard state input → wider state input) {start : State}
    (along : Along step guard start inputs) :
    Along step wider start inputs := by
  induction inputs generalizing start with
  | nil => trivial
  | cons input rest ih => exact ⟨implied start input along.1, ih along.2⟩

/-- The run rule: what the start state has and every guarded step keeps, every
guarded run keeps. -/
theorem invariant_of_along (invariant : State → Prop)
    (kept : ∀ state input, invariant state → guard state input → invariant (step state input))
    {start : State} (along : Along step guard start inputs) (initially : invariant start) :
    invariant (run step start inputs) := by
  induction inputs generalizing start with
  | nil => exact initially
  | cons input rest ih =>
    exact ih along.2 (kept start input initially along.1)

theorem invariant_of_run (invariant : State → Prop)
    (kept : ∀ state input, invariant state → invariant (step state input)) {start : State}
    (inputs : List Input) (initially : invariant start) :
    invariant (run step start inputs) := by
  induction inputs generalizing start with
  | nil => exact initially
  | cons input rest ih => exact ih (kept start input initially)

/-- What every guarded step from a state of an invariant does, every step of a guarded run
does. -/
theorem Along.implies {wider : State → Input → Prop} (invariant : State → Prop)
    (kept : ∀ state input, invariant state → guard state input → invariant (step state input))
    (implied : ∀ state input, invariant state → guard state input → wider state input)
    {start : State} (along : Along step guard start inputs) (initially : invariant start) :
    Along step wider start inputs := by
  induction inputs generalizing start with
  | nil => trivial
  | cons input rest ih =>
    exact ⟨implied start input initially along.1, ih along.2 (kept start input initially along.1)⟩

theorem Along.take {start : State} (along : Along step guard start inputs) (count : Nat) :
    Along step guard start (inputs.take count) := by
  have whole : Along step guard start (inputs.take count ++ inputs.drop count) := by
    rw [List.take_append_drop]
    exact along
  exact ((along_append _ _ _).mp whole).1

theorem along_and {first second : State → Input → Prop} {start : State} :
    Along step (fun state input => first state input ∧ second state input) start inputs ↔
      Along step first start inputs ∧ Along step second start inputs := by
  induction inputs generalizing start with
  | nil => simp [Along]
  | cons input rest ih =>
    simp only [Along, ih]
    exact and_and_and_comm

/-- Guards that agree where an invariant of the run holds accept the same runs. -/
theorem along_congr {first second : State → Input → Prop} (invariant : State → Prop)
    (kept : ∀ state input, invariant state → invariant (step state input))
    (agree : ∀ state input, invariant state → (first state input ↔ second state input))
    {start : State} (initially : invariant start) (inputs : List Input) :
    Along step first start inputs ↔ Along step second start inputs := by
  induction inputs generalizing start with
  | nil => rfl
  | cons input rest ih =>
    exact and_congr (agree start input initially) (ih (kept start input initially))

/-- Where the guard says exactly which steps keep the invariant, the guarded runs are
the runs on which it always holds. -/
theorem always_iff_along (invariant : State → Prop)
    (kept : ∀ state input, invariant state → (invariant (step state input) ↔ guard state input))
    {start : State} (initially : invariant start) (inputs : List Input) :
    (∀ count, invariant (run step start (inputs.take count))) ↔ Along step guard start inputs := by
  induction inputs generalizing start with
  | nil => simpa [Along] using initially
  | cons input rest ih =>
    constructor
    · intro always
      have first : invariant (step start input) := always 1
      refine ⟨(kept start input initially).mp first, (ih first).mp ?_⟩
      intro count
      exact always (count + 1)
    · intro along count
      have first := (kept start input initially).mpr along.1
      cases count with
      | zero => exact initially
      | succ count => exact (ih first).mpr along.2 count

/-- The same where the guard is exact only in the states of `kept`, which guarded steps do not
leave. -/
theorem always_iff_along_within (invariant kept : State → Prop)
    (exactly : ∀ state input, invariant state → kept state →
      (invariant (step state input) ↔ guard state input))
    (keeps : ∀ state input, invariant state → kept state → guard state input →
      kept (step state input)) {start : State} (initially : invariant start) (within : kept start)
    (inputs : List Input) :
    (∀ count, invariant (run step start (inputs.take count))) ↔ Along step guard start inputs := by
  induction inputs generalizing start with
  | nil => simpa [Along] using initially
  | cons input rest ih =>
    constructor
    · intro always
      have first : invariant (step start input) := always 1
      have guarded := (exactly start input initially within).mp first
      have later := keeps start input initially within guarded
      refine ⟨guarded, (ih first later).mp ?_⟩
      intro count
      exact always (count + 1)
    · intro along count
      have first := (exactly start input initially within).mpr along.1
      have later := keeps start input initially within along.1
      cases count with
      | zero => exact initially
      | succ count => exact (ih first later).mpr along.2 count

/-- Where no step lowers a measure, and the guard says exactly which steps leave it as it is, the
guarded runs are those that leave it as it is. -/
theorem measure_iff_along {Value : Type*} [PartialOrder Value] (measure : State → Value)
    (grows : ∀ state input, measure state ≤ measure (step state input))
    (same : ∀ state input, measure (step state input) = measure state ↔ guard state input)
    (start : State) (inputs : List Input) :
    measure start ≤ measure (run step start inputs) ∧
      (measure (run step start inputs) = measure start ↔ Along step guard start inputs) := by
  induction inputs generalizing start with
  | nil => simp [Along]
  | cons input rest ih =>
    obtain ⟨later, exactly⟩ := ih (step start input)
    have first := grows start input
    refine ⟨le_trans first later, ?_⟩
    rw [Along, run_cons]
    constructor
    · intro whole
      have unmoved : measure (step start input) = measure start :=
        le_antisymm (whole ▸ later) first
      exact ⟨(same start input).mp unmoved, exactly.mp (whole.trans unmoved.symm)⟩
    · intro along
      exact (exactly.mpr along.2).trans ((same start input).mpr along.1)

/-- What a step that changes one party of a state does to the number of the parties of a kind. -/
theorem countP_set_add {Party : Type*} {parties : List Party} {index : Nat} {party : Party}
    (found : parties[index]? = some party) (counted : Party → Bool) (changed : Party) :
    (parties.set index changed).countP counted + (if counted party then 1 else 0) =
      parties.countP counted + if counted changed then 1 else 0 := by
  obtain ⟨inside, same⟩ := List.getElem?_eq_some_iff.mp found
  rw [List.countP_set inside, same]
  by_cases mine : counted party = true
  · have positive : 0 < parties.countP counted :=
      List.countP_pos_iff.mpr ⟨party, List.mem_of_getElem? found, mine⟩
    rw [if_pos mine]
    omega
  · rw [if_neg mine, Nat.sub_zero, Nat.add_zero]

end PlayerFramework.Transition
