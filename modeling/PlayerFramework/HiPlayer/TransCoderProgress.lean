import Mathlib.Algebra.Group.Int.Defs
import Mathlib.Algebra.Group.Nat.Defs
import Mathlib.Data.Int.Order.Basic
import PlayerFramework.HiPlayer.TransCoderLooper

/-!
The progress values of the transcoder: `GetCurrentTime` and `GetDuration` of
`hitranscoder_impl.cpp` answer the callback looper, which makes a percentage of them.
-/

namespace PlayerFramework.HiPlayer

open Transition

/-- `muxer` is the position of the muxer filter, if there is one. -/
inductive ProgressStep where
  | startReportMediaProgress (updateIntervalMs : Int)
  | startGoesOn (index : Nat) (nowMs : Int)
  | stopReportMediaProgress
  | manualReportMediaProgressOnce (nowMs : Int)
  | loopOnce (index : Nat) (nowMs : Int) (obs : Bool) (muxer : Option Int)
deriving DecidableEq

/-- The looper, and the values it has reported with the positions of the muxer they are for. -/
structure TransCoding where
  looper : HiTransCoderCallbackLooper := {}
  reported : List (Int × Int) := []
deriving DecidableEq

/-- `GetCurrentTime` narrows the position to 32 bits. -/
def getCurrentTime (muxer : Option Int) : Option Int :=
  muxer.map fun currentPts => Int.bmod currentPts (2 ^ 32)

/-- `durationMs_`, which `SetInputFile` leaves at -1 where the demuxer knows no duration. -/
def getDuration : Option Int → Int
  | none => -1
  | some duration => Int.bmod duration (2 ^ 32)

namespace ProgressStep

def call (source : Option Int) (step : ProgressStep) : TransCoderCall :=
  match step with
  | .startReportMediaProgress interval => .startReportMediaProgress interval
  | .startGoesOn index nowMs => .startGoesOn index nowMs
  | .stopReportMediaProgress => .stopReportMediaProgress
  | .manualReportMediaProgressOnce nowMs => .manualReportMediaProgressOnce nowMs
  | .loopOnce index nowMs obs muxer =>
    .loopOnce index
      { nowMs, obs
        currentTime := getCurrentTime muxer
        duration := some (getDuration source) }

def position (step : ProgressStep) : Int :=
  match step with
  | .loopOnce _ _ _ muxer => muxer.getD 0
  | _ => 0

end ProgressStep

namespace TransCoding

def next (source : Option Int) (state : TransCoding) (step : ProgressStep) : TransCoding :=
  let looper := state.looper.next (step.call source)
  { looper
    reported := state.reported ++
      (looper.progress.drop state.looper.progress.length).map fun value => (step.position, value) }

/-- A further report is in the queue, or a start is about to put one there. -/
def Scheduled (state : TransCoding) : Prop :=
  state.looper.reportMediaProgress = true →
    state.looper.queue ≠ [] ∨ .stored ∈ state.looper.starts

/-- The value is the part of the source's duration that lies before the position, in percent. -/
def Percentage (source : Option Int) (report : Int × Int) : Prop :=
  ∃ duration, source = some duration ∧ 0 < duration ∧ report.2 = 100 * report.1 / duration ∧
    0 ≤ report.2 ∧ report.2 ≤ 100

structure Reports (source : Option Int) (state : TransCoding) : Prop where
  percentages : ∀ report ∈ state.reported, Percentage source report
  ordered : state.reported.Pairwise fun earlier later =>
    earlier.1 ≤ later.1 → earlier.2 ≤ later.2
  scheduled : Scheduled state

/-- The looper takes an event while reporting is requested and finds a position. -/
def Computes (state : TransCoding) (step : ProgressStep) : Prop :=
  match step with
  | .loopOnce index _ obs muxer =>
    index < state.looper.queue.length ∧ state.looper.reportMediaProgress = true ∧
      obs = true ∧ muxer.isSome = true
  | _ => False

/-- The muxer is not beyond the end of the source. -/
def Within (source : Option Int) (step : ProgressStep) : Prop :=
  match step with
  | .loopOnce _ _ _ (some position) =>
    0 ≤ position ∧ position < 2 ^ 63 ∧ ∀ duration, source = some duration → position ≤ duration
  | _ => True

variable {index : Nat}

theorem within_known {nowMs duration position : Int} {obs : Bool} (low : 0 ≤ position)
    (high : position < 2 ^ 63) (inside : position ≤ duration) :
    Within (some duration) (.loopOnce index nowMs obs (some position)) := by
  refine ⟨low, high, ?_⟩
  rintro _ ⟨⟩
  exact inside

/-- Where a value is computed the duration is known and fits into 32 bits, and so does a hundred
times the position; a source of no length leaves another report pending. -/
def Fits (source : Option Int) (state : TransCoding) (step : ProgressStep) : Prop :=
  Computes state step →
    match source with
    | none => False
    | some duration =>
      duration < 2 ^ 31 ∧
        if duration = 0 then 1 < state.looper.queue.length ∨ .stored ∈ state.looper.starts
        else step.position * 100 < 2 ^ 31

instance (state : TransCoding) (step : ProgressStep) : Decidable (Computes state step) := by
  unfold Computes
  cases step <;> infer_instance

instance (source : Option Int) (state : TransCoding) (step : ProgressStep) :
    Decidable (Fits source state step) := by
  unfold Fits
  cases source <;> infer_instance

/-- In 32 bits a position's percentage comes out right just where a hundred times the position
fits in. -/
theorem narrowed_percentage_iff {position duration : Int} (from_start : 0 ≤ position)
    (inside : position ≤ duration) (long : 0 < duration) (narrow : duration < 2 ^ 31) :
    (Int.bmod (Int.bmod position (2 ^ 32) * 100) (2 ^ 32)).tdiv (Int.bmod duration (2 ^ 32)) =
        100 * position / duration ↔
      position * 100 < 2 ^ 31 := by
  have same (value : Int) (low : 0 ≤ value) (high : value < 2 ^ 31) :
      Int.bmod value (2 ^ 32) = value := Int.bmod_eq_of_le_mul_two (by omega) (by omega)
  rw [same position from_start (by omega), same duration (by omega) narrow]
  have remainder := Int.lt_ediv_add_one_mul_self (100 * position) long
  constructor
  · intro right
    by_contra overflows
    have wraps : Int.bmod (position * 100) (2 ^ 32) ≤ position * 100 - 2 ^ 32 := by
      have split := Int.bmod_eq_self_sub_mul_bdiv (position * 100) (2 ^ 32)
      have most : Int.bmod (position * 100) (2 ^ 32) < 2 ^ 31 :=
        Int.lt_of_lt_of_le (Int.bmod_lt (by decide)) (by decide)
      omega
    by_cases positive : 0 ≤ Int.bmod (position * 100) (2 ^ 32)
    · rw [Int.tdiv_eq_ediv_of_nonneg positive] at right
      have least := Int.ediv_mul_le (Int.bmod (position * 100) (2 ^ 32)) (Int.ne_of_gt long)
      rw [right] at least
      rw [Int.add_mul] at remainder
      omega
    · have negative := Int.tdiv_nonneg (a := -Int.bmod (position * 100) (2 ^ 32)) (b := duration)
        (by omega) (by omega)
      rw [Int.neg_tdiv] at negative
      have none : 100 * position / duration = 0 := by
        have nonneg := Int.ediv_nonneg (a := 100 * position) (b := duration) (by omega) (by omega)
        omega
      rw [none] at remainder
      omega
  · intro fits
    rw [same (position * 100) (by omega) fits, Int.tdiv_eq_ediv_of_nonneg (by omega),
      Int.mul_comm]

def value (source : Option Int) (position : Int) : Int :=
  (Int.bmod (Int.bmod position (2 ^ 32) * 100) (2 ^ 32)).tdiv (getDuration source)

variable {source : Option Int} {state : TransCoding}

variable {step : ProgressStep}

theorem computes_cases (computes : Computes state step) :
    ∃ index nowMs position, step = .loopOnce index nowMs true (some position) ∧
      index < state.looper.queue.length ∧ state.looper.reportMediaProgress = true := by
  cases step with
  | loopOnce index nowMs obs muxer =>
    obtain ⟨inside, requested, rfl, known⟩ := computes
    obtain ⟨position, rfl⟩ := Option.isSome_iff_exists.mp known
    exact ⟨index, nowMs, position, rfl, inside, requested⟩
  | startReportMediaProgress interval | startGoesOn index nowMs | stopReportMediaProgress
  | manualReportMediaProgressOnce nowMs => exact computes.elim

theorem next_computes (inside : index < state.looper.queue.length)
    (requested : state.looper.reportMediaProgress = true)
    (undropped : state.looper.isDropMediaProgress = false) (nowMs position : Int) :
    next source state (.loopOnce index nowMs true (some position)) =
      if getDuration source = 0 then
        { state with looper.queue := state.looper.queue.eraseIdx index }
      else
        { looper := { state.looper with
            queue := state.looper.queue.eraseIdx index ++
              [nowMs + state.looper.reportProgressIntervalMs]
            progress := state.looper.progress ++ [value source position] }
          reported := state.reported ++ [(position, value source position)] } := by
  have found := List.getElem?_eq_getElem inside
  rcases state with ⟨⟨reporting, dropping, interval, queue, starts, progress⟩, reported⟩
  subst requested undropped
  by_cases none : getDuration source = 0
  · simp [next, ProgressStep.call, HiTransCoderCallbackLooper.next,
      HiTransCoderCallbackLooper.loopOnce, found,
      HiTransCoderCallbackLooper.doReportMediaProgress,
      HiTransCoderCallbackLooper.reportPosition, getCurrentTime, none]
  · simp [next, ProgressStep.call, HiTransCoderCallbackLooper.next,
      HiTransCoderCallbackLooper.loopOnce, found,
      HiTransCoderCallbackLooper.doReportMediaProgress, HiTransCoderCallbackLooper.enqueue,
      HiTransCoderCallbackLooper.reportPosition, getCurrentTime, none, value,
      ProgressStep.position]

theorem next_quiet (quiet : ¬Computes state step)
    (undropped : state.looper.isDropMediaProgress = false) :
    (next source state step).reported = state.reported ∧
      (next source state step).looper.isDropMediaProgress = false ∧
      (Scheduled state → Scheduled (next source state step)) := by
  rcases state with ⟨⟨reporting, dropping, interval, queue, starts, progress⟩, reported⟩
  subst undropped
  cases step with
  | startReportMediaProgress updateInterval =>
    cases reporting <;>
      simp [next, ProgressStep.call, HiTransCoderCallbackLooper.next,
        HiTransCoderCallbackLooper.startReportMediaProgress, Scheduled]
  | startGoesOn index nowMs =>
    cases found : starts[index]? with
    | none =>
      simp [next, ProgressStep.call, HiTransCoderCallbackLooper.next,
        HiTransCoderCallbackLooper.startGoesOn, found]
    | some stage =>
      cases stage with
      | checked =>
        have storing := List.mem_set (List.getElem?_eq_some_iff.mp found).1 StartStage.stored
        simp [next, ProgressStep.call, HiTransCoderCallbackLooper.next,
          HiTransCoderCallbackLooper.startGoesOn, found, Scheduled, storing]
      | stored =>
        simp [next, ProgressStep.call, HiTransCoderCallbackLooper.next,
          HiTransCoderCallbackLooper.startGoesOn, found,
          HiTransCoderCallbackLooper.enqueue, Scheduled]
  | stopReportMediaProgress =>
    simp [next, ProgressStep.call, HiTransCoderCallbackLooper.next, Scheduled]
  | manualReportMediaProgressOnce nowMs =>
    simp [next, ProgressStep.call, HiTransCoderCallbackLooper.next,
      HiTransCoderCallbackLooper.enqueue, Scheduled]
  | loopOnce index nowMs obs muxer =>
    cases found : queue[index]? with
    | none =>
      simp [next, ProgressStep.call, HiTransCoderCallbackLooper.next,
        HiTransCoderCallbackLooper.loopOnce, found]
    | some whenMs =>
      have inside := (List.getElem?_eq_some_iff.mp found).1
      cases reporting with
      | false =>
        simp [next, ProgressStep.call, HiTransCoderCallbackLooper.next,
          HiTransCoderCallbackLooper.loopOnce, found, Scheduled,
          HiTransCoderCallbackLooper.doReportMediaProgress]
      | true =>
        -- the round goes on to its end without a value
        have nothing : obs = false ∨ muxer = none := by
          cases obs with
          | false => exact .inl rfl
          | true =>
            cases muxer with
            | none => exact .inr rfl
            | some position => exact absurd ⟨inside, rfl, rfl, rfl⟩ quiet
        rcases nothing with rfl | rfl <;>
          simp [next, ProgressStep.call, HiTransCoderCallbackLooper.next,
            HiTransCoderCallbackLooper.loopOnce, found, Scheduled, getCurrentTime,
            HiTransCoderCallbackLooper.doReportMediaProgress,
            HiTransCoderCallbackLooper.reportPosition, HiTransCoderCallbackLooper.enqueue]

theorem percentage_monotone {earlier later : Int × Int} (first : Percentage source earlier)
    (second : Percentage source later) (ordered : earlier.1 ≤ later.1) :
    earlier.2 ≤ later.2 := by
  obtain ⟨duration, same, long, value, -⟩ := first
  obtain ⟨_, same', -, value', -⟩ := second
  cases same.symm.trans same'
  rw [value, value']
  exact Int.ediv_le_ediv long (by omega)

theorem percentage_iff {duration position : Int} (from_start : 0 ≤ position)
    (inside : position ≤ duration) (long : 0 < duration) (narrow : duration < 2 ^ 31) :
    Percentage (some duration) (position, value (some duration) position) ↔
      position * 100 < 2 ^ 31 := by
  rw [← narrowed_percentage_iff from_start inside long narrow]
  constructor
  · rintro ⟨_, ⟨rfl⟩, -, same, -⟩
    exact same
  intro same
  refine ⟨duration, rfl, long, same, ?_⟩
  have right : value (some duration) position = 100 * position / duration := same
  rw [right]
  constructor
  · exact Int.ediv_nonneg (by omega) (by omega)
  · exact Int.ediv_le_of_le_mul long (by omega)

theorem reports_append_iff (before : Reports source state) (report : Int × Int)
    {looper : HiTransCoderCallbackLooper} (pending : looper.queue ≠ []) :
    Reports source { looper, reported := state.reported ++ [report] } ↔
      Percentage source report := by
  constructor
  · intro after
    exact after.percentages report (by simp)
  intro right
  refine ⟨?_, ?_, fun _ => .inl pending⟩
  · intro earlier member
    rcases List.mem_append.mp member with old | new
    · exact before.percentages earlier old
    · rw [List.mem_singleton.mp new]
      exact right
  · refine List.pairwise_append.mpr ⟨before.ordered, List.pairwise_singleton _ _, ?_⟩
    intro earlier old later new ordered
    rw [List.mem_singleton.mp new] at ordered ⊢
    exact percentage_monotone (before.percentages earlier old) right ordered

theorem reports_computes_iff (before : Reports source state)
    (undropped : state.looper.isDropMediaProgress = false)
    (inside : index < state.looper.queue.length)
    (requested : state.looper.reportMediaProgress = true) {nowMs position : Int}
    (within : Within source (.loopOnce index nowMs true (some position)))
    (narrow : ∀ duration, source = some duration → duration < 2 ^ 31) :
    Reports source (next source state (.loopOnce index nowMs true (some position))) ↔
      Fits source state (.loopOnce index nowMs true (some position)) := by
  have computes : Computes state (.loopOnce index nowMs true (some position)) :=
    ⟨inside, requested, rfl, rfl⟩
  unfold Fits
  rw [forall_prop_of_true computes, next_computes inside requested undropped]
  cases source with
  | none =>
    rw [if_neg (by decide)]
    rw [reports_append_iff before _ (by simp)]
    exact ⟨fun ⟨_, known, _⟩ => (nomatch known), False.elim⟩
  | some duration =>
    have short := narrow duration rfl
    have ends := within.2.2 duration rfl
    have starts := within.1
    dsimp only
    by_cases none : duration = 0
    · subst none
      have left : (state.looper.queue.eraseIdx index).length + 1 = state.looper.queue.length := by
        rw [List.length_eraseIdx_of_lt inside]
        omega
      have more : state.looper.queue.eraseIdx index ≠ [] ↔ 1 < state.looper.queue.length := by
        rw [← List.length_pos_iff]
        omega
      rw [if_pos (by decide), if_pos rfl, ← more]
      constructor
      · exact fun after => ⟨short, after.scheduled requested⟩
      · exact fun fits => ⟨before.percentages, before.ordered, fun _ => fits.2⟩
    · have long : 0 < duration := by omega
      have same : getDuration (some duration) = duration :=
        Int.bmod_eq_of_le_mul_two (by omega) (by omega)
      rw [if_neg (by omega), if_neg none, reports_append_iff before _ (by simp),
        percentage_iff starts ends long short]
      exact ⟨fun fits => ⟨short, fits⟩, And.right⟩

theorem reports_next_iff (before : Reports source state)
    (undropped : state.looper.isDropMediaProgress = false) (within : Within source step)
    (narrow : Computes state step → ∀ duration, source = some duration → duration < 2 ^ 31) :
    Reports source (next source state step) ↔ Fits source state step := by
  by_cases computes : Computes state step
  · obtain ⟨index, nowMs, position, rfl, inside, requested⟩ := computes_cases computes
    exact reports_computes_iff before undropped inside requested within (narrow computes)
  obtain ⟨same, -, scheduled⟩ := @next_quiet source state step computes undropped
  refine iff_of_true ⟨?_, ?_, scheduled before.scheduled⟩ fun now => absurd now computes
  · rw [same]
    exact before.percentages
  · rw [same]
    exact before.ordered

theorem undropped_next (undropped : state.looper.isDropMediaProgress = false)
    (step : ProgressStep) : (next source state step).looper.isDropMediaProgress = false := by
  by_cases computes : Computes state step
  · obtain ⟨index, nowMs, position, rfl, inside, requested⟩ := computes_cases computes
    rw [next_computes inside requested undropped]
    split <;> exact undropped
  · exact (next_quiet computes undropped).2.1

theorem narrow_of_fits (fits : Fits source state step) (computes : Computes state step) :
    ∀ duration, source = some duration → duration < 2 ^ 31 := by
  rintro duration rfl
  exact (fits computes).1

/-- A step with a position that is not beyond the end of the source. -/
abbrev StepWithin (source : Option Int) := {step : ProgressStep // Within source step}

def nextWithin (source : Option Int) (state : TransCoding) (step : StepWithin source) :
    TransCoding :=
  state.next source step.val

/-- In every run whose values fit every report is the percentage of its position, and another
stays scheduled; where the duration itself fits into 32 bits, the values of no other run do. -/
theorem reports_along (source : Option Int) (steps : List (StepWithin source)) :
    (Along (nextWithin source) (fun state step => Fits source state step.val) {} steps →
      ∀ count, Reports source (run (nextWithin source) {} (steps.take count))) ∧
    ((∀ duration, source = some duration → duration < 2 ^ 31) →
      (∀ count, Reports source (run (nextWithin source) {} (steps.take count))) →
        Along (nextWithin source) (fun state step => Fits source state step.val) {} steps) := by
  have first : Reports source {} := ⟨by simp, List.Pairwise.nil, fun requested => nomatch requested⟩
  constructor
  · intro along count
    refine (invariant_of_along (fun state => Reports source state ∧
      state.looper.isDropMediaProgress = false) ?_ (along.take count) ⟨first, rfl⟩).1
    intro state step kept fits
    exact ⟨(reports_next_iff kept.1 kept.2 step.property (narrow_of_fits fits)).mpr fits,
      undropped_next kept.2 step.val⟩
  · intro narrow always
    refine (always_iff_along_within (Reports source)
      (fun state => state.looper.isDropMediaProgress = false) ?_ ?_ first rfl steps).mp always
    · intro state step right undropped
      exact reports_next_iff right undropped step.property fun _ => narrow
    · intro state step _ undropped _
      exact undropped_next undropped step.val

/-- Half a minute into a source of a minute. -/
theorem reports_of_minute :
    Reports (some 60000) (run (nextWithin (some 60000)) {}
      [⟨.startReportMediaProgress 100, trivial⟩, ⟨.startGoesOn 0 0, trivial⟩,
        ⟨.startGoesOn 0 0, trivial⟩,
        ⟨.loopOnce 0 0 true (some 30000), within_known (by decide) (by decide) (by decide)⟩]) :=
  (reports_along (some 60000)
    [⟨.startReportMediaProgress 100, trivial⟩, ⟨.startGoesOn 0 0, trivial⟩,
      ⟨.startGoesOn 0 0, trivial⟩,
      ⟨.loopOnce 0 0 true (some 30000), within_known (by decide) (by decide) (by decide)⟩]).1
        (by decide +kernel) 4

/-- Six hours into a source of seven hours the value is negative; a source of no length has the
reports end although they are wanted. -/
theorem reports_of_long_source :
    (run (nextWithin (some 25200000)) {}
      [⟨.startReportMediaProgress 100, trivial⟩, ⟨.startGoesOn 0 0, trivial⟩,
        ⟨.startGoesOn 0 0, trivial⟩,
        ⟨.loopOnce 0 0 true (some 21600000),
          within_known (by decide) (by decide) (by decide)⟩]).reported = [(21600000, -84)] ∧
    (run (nextWithin (some 0)) {}
      [⟨.startReportMediaProgress 100, trivial⟩, ⟨.startGoesOn 0 0, trivial⟩,
        ⟨.startGoesOn 0 0, trivial⟩,
        ⟨.loopOnce 0 0 true (some 0), within_known (by decide) (by decide) (by decide)⟩]).looper =
      { reportMediaProgress := true } ∧
    ¬∀ (source : Option Int) (steps : List (StepWithin source)),
      Reports source (run (nextWithin source) {} steps) := by
  refine ⟨by decide +kernel, by decide +kernel, ?_⟩
  intro always
  have right := (always (some 0)
    [⟨.startReportMediaProgress 100, trivial⟩, ⟨.startGoesOn 0 0, trivial⟩,
      ⟨.startGoesOn 0 0, trivial⟩,
      ⟨.loopOnce 0 0 true (some 0), within_known (by decide) (by decide) (by decide)⟩]).scheduled
        (by decide +kernel)
  revert right
  decide +kernel

end TransCoding

end PlayerFramework.HiPlayer
