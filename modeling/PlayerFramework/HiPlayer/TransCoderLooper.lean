import Mathlib.Algebra.Group.Int.Defs
import Mathlib.Algebra.Group.Nat.Defs
import PlayerFramework.HiPlayer.CallbackLooper

/-!
The callback looper of the transcoder (`hitranscoder_callback_looper.cpp`).  Its
`StartReportMediaProgress` does not take `loopMutex_`, so a start goes on in stages.
-/

namespace PlayerFramework.HiPlayer

open Transition

/-- Where a start stands that has found reporting off: before it turns reporting on, or before
it enqueues the event. -/
inductive StartStage where
  | checked
  | stored
deriving DecidableEq

structure TransCoderAnswers where
  nowMs : Int
  obs : Bool := true
  transCoderEngine : Bool := true
  currentTime : Option Int := none
  duration : Option Int := none
deriving DecidableEq

/-- `queue` holds the times of the progress events; `starts` and `progress` are the starts under
way and what has been reported. -/
structure HiTransCoderCallbackLooper where
  reportMediaProgress : Bool := false
  isDropMediaProgress : Bool := false
  reportProgressIntervalMs : Int := 100
  queue : List Int := []
  starts : List StartStage := []
  progress : List Int := []
deriving DecidableEq

inductive TransCoderCall where
  | startReportMediaProgress (updateIntervalMs : Int)
  | startGoesOn (index : Nat) (nowMs : Int)
  | stopReportMediaProgress
  | manualReportMediaProgressOnce (nowMs : Int)
  | loopOnce (index : Nat) (answers : TransCoderAnswers)
deriving DecidableEq

namespace HiTransCoderCallbackLooper

def enqueue (whenMs : Int) (looper : HiTransCoderCallbackLooper) : HiTransCoderCallbackLooper :=
  { looper with queue := looper.queue ++ [whenMs] }

def startReportMediaProgress (updateIntervalMs : Int) (looper : HiTransCoderCallbackLooper) :
    HiTransCoderCallbackLooper :=
  let timed := { looper with reportProgressIntervalMs := updateIntervalMs }
  if looper.reportMediaProgress then timed
  else { timed with starts := looper.starts ++ [.checked] }

def startGoesOn (index : Nat) (nowMs : Int) (looper : HiTransCoderCallbackLooper) :
    HiTransCoderCallbackLooper :=
  match looper.starts[index]? with
  | none => looper
  | some .checked =>
    { looper with
      reportMediaProgress := true
      starts := looper.starts.set index .stored }
  | some .stored => { looper with starts := looper.starts.eraseIdx index }.enqueue nowMs

/-- The report of `DoReportMediaProgress`; nothing where it leaves the function before the next
event is enqueued. -/
def reportPosition (answers : TransCoderAnswers) (looper : HiTransCoderCallbackLooper) :
    Option HiTransCoderCallbackLooper :=
  if answers.obs ∧ !looper.isDropMediaProgress then
    if !answers.transCoderEngine then none
    else
      match answers.currentTime, answers.duration with
      | some currentPositionMs, some durationMs =>
        if durationMs = 0 then none
        else
          some { looper with
            progress := looper.progress ++
              [(Int.bmod (currentPositionMs * 100) (2 ^ 32)).tdiv durationMs] }
      | _, _ => some looper
  else some looper

def doReportMediaProgress (answers : TransCoderAnswers) (looper : HiTransCoderCallbackLooper) :
    HiTransCoderCallbackLooper :=
  if !looper.reportMediaProgress then looper
  else
    match looper.reportPosition answers with
    | none => looper
    | some reported =>
      { reported with isDropMediaProgress := false }.enqueue
        (answers.nowMs + looper.reportProgressIntervalMs)

def loopOnce (index : Nat) (answers : TransCoderAnswers) (looper : HiTransCoderCallbackLooper) :
    HiTransCoderCallbackLooper :=
  match looper.queue[index]? with
  | none => looper
  | some _ =>
    { looper with queue := looper.queue.eraseIdx index }.doReportMediaProgress answers

def next (looper : HiTransCoderCallbackLooper) (call : TransCoderCall) :
    HiTransCoderCallbackLooper :=
  match call with
  | .startReportMediaProgress interval => looper.startReportMediaProgress interval
  | .startGoesOn index nowMs => looper.startGoesOn index nowMs
  | .stopReportMediaProgress => { looper with reportMediaProgress := false }
  | .manualReportMediaProgressOnce nowMs => looper.enqueue nowMs
  | .loopOnce index answers => looper.loopOnce index answers

/-- At most one progress event is pending, and one if reporting is requested and no start is
about to enqueue its event. -/
def OneLoop (looper : HiTransCoderCallbackLooper) : Prop :=
  looper.queue.length ≤ 1 ∧
    (looper.reportMediaProgress = true → .stored ∉ looper.starts → looper.queue.length = 1)

/-- An event is enqueued into an empty queue only, and none is given up while reporting is
requested. -/
def BeginsClean (looper : HiTransCoderCallbackLooper) (call : TransCoderCall) : Prop :=
  match call with
  | .startGoesOn index _ => looper.starts[index]? = some .stored → looper.queue = []
  | .manualReportMediaProgressOnce _ => looper.queue = []
  | .loopOnce index answers =>
    index < looper.queue.length → looper.reportMediaProgress = true →
      .stored ∉ looper.starts → (looper.reportPosition answers).isSome = true
  | _ => True

instance (looper : HiTransCoderCallbackLooper) : Decidable looper.OneLoop :=
  inferInstanceAs (Decidable (_ ∧ _))

variable {looper : HiTransCoderCallbackLooper}

theorem reportPosition_same {answers : TransCoderAnswers} {reported : HiTransCoderCallbackLooper}
    (goes : looper.reportPosition answers = some reported) :
    reported.queue = looper.queue ∧ reported.starts = looper.starts ∧
      reported.reportMediaProgress = looper.reportMediaProgress := by
  rw [reportPosition] at goes
  split at goes
  · split at goes
    · cases goes
    split at goes
    · split at goes
      · cases goes
      · cases goes
        exact ⟨rfl, rfl, rfl⟩
    · cases goes
      exact ⟨rfl, rfl, rfl⟩
  · cases goes
    exact ⟨rfl, rfl, rfl⟩

theorem reportPosition_taken (index : Nat) (answers : TransCoderAnswers) :
    ({ looper with queue := looper.queue.eraseIdx index }.reportPosition answers).isSome =
      (looper.reportPosition answers).isSome := by
  rw [reportPosition, reportPosition]
  split
  · split
    · rfl
    · split
      · split <;> rfl
      · rfl
  · rfl

theorem enqueue_oneLoop_iff (single : looper.queue.length ≤ 1) (whenMs : Int) :
    OneLoop (looper.enqueue whenMs) ↔ looper.queue = [] := by
  simp only [OneLoop, enqueue, List.length_append, List.length_singleton, ← List.length_eq_zero_iff]
  omega

theorem startGoesOn_oneLoop_iff (single : OneLoop looper) (index : Nat) (nowMs : Int) :
    OneLoop (looper.startGoesOn index nowMs) ↔
      (looper.starts[index]? = some .stored → looper.queue = []) := by
  rw [startGoesOn]
  cases found : looper.starts[index]? with
  | none => simpa using single
  | some stage =>
    cases stage with
    | checked =>
      have inside := (List.getElem?_eq_some_iff.mp found).1
      have storing := List.mem_set inside StartStage.stored
      simpa using ⟨single.1, fun _ absent => absurd storing absent⟩
    | stored =>
      have enqueued := @enqueue_oneLoop_iff
        { looper with starts := looper.starts.eraseIdx index } single.1 nowMs
      simpa using enqueued

theorem loopOnce_oneLoop_iff (single : OneLoop looper) (index : Nat)
    (answers : TransCoderAnswers) :
    OneLoop (looper.loopOnce index answers) ↔ looper.BeginsClean (.loopOnce index answers) := by
  rw [loopOnce, BeginsClean]
  cases found : looper.queue[index]? with
  | none =>
    have outside : ¬index < looper.queue.length := by simpa using found
    exact iff_of_true single fun inside => absurd inside outside
  | some whenMs =>
    have inside := (List.getElem?_eq_some_iff.mp found).1
    have empty : looper.queue.eraseIdx index = [] := by
      rw [← List.length_eq_zero_iff, List.length_eraseIdx_of_lt inside]
      have most := single.1
      omega
    have same := @reportPosition_taken looper index answers
    rw [doReportMediaProgress, ← same]
    by_cases requested : looper.reportMediaProgress = true
    · rw [if_neg (by simp [requested])]
      cases goes : { looper with queue := looper.queue.eraseIdx index }.reportPosition answers with
      | none => simp [OneLoop, empty, inside, requested]
      | some reported =>
        have kept := (reportPosition_same goes).1
        refine iff_of_true ((enqueue_oneLoop_iff ?_ _).mpr ?_) fun _ _ _ => rfl
        · simp [kept, empty]
        · simp [kept, empty]
    · simp [OneLoop, empty, requested]

theorem oneLoop_next_iff (single : OneLoop looper) (call : TransCoderCall) :
    OneLoop (looper.next call) ↔ looper.BeginsClean call := by
  cases call with
  | startReportMediaProgress interval =>
    simp only [next, startReportMediaProgress, BeginsClean, iff_true]
    split
    · exact single
    · exact ⟨single.1, fun requested => absurd requested ‹_›⟩
  | startGoesOn index nowMs => exact startGoesOn_oneLoop_iff single index nowMs
  | stopReportMediaProgress =>
    exact iff_of_true ⟨single.1, fun requested => nomatch requested⟩ trivial
  | manualReportMediaProgressOnce nowMs => exact enqueue_oneLoop_iff single.1 nowMs
  | loopOnce index answers => exact loopOnce_oneLoop_iff single index answers

end HiTransCoderCallbackLooper

/-- Both loops of a player's looper, and the loop of a transcoder's, are single in every state
of a run just where no call of the run begins a loop while its last event is pending. -/
theorem progress_loops_single_iff (calls : List LooperCall)
    (transCoderCalls : List TransCoderCall) :
    ((∀ count, (run HiPlayerCallbackLooper.next {} (calls.take count)).OneLoop) ↔
      Along HiPlayerCallbackLooper.next HiPlayerCallbackLooper.BeginsClean {} calls) ∧
    ((∀ count, (run HiTransCoderCallbackLooper.next {} (transCoderCalls.take count)).OneLoop) ↔
      Along HiTransCoderCallbackLooper.next HiTransCoderCallbackLooper.BeginsClean {}
        transCoderCalls) := by
  constructor
  · exact HiPlayerCallbackLooper.oneLoop_always_iff calls
  · exact always_iff_along HiTransCoderCallbackLooper.OneLoop
      (fun _ call single => HiTransCoderCallbackLooper.oneLoop_next_iff single call)
      (by decide) transCoderCalls

/-- Start, stop and start again before the first event is taken: two loops of every kind. -/
theorem restart_doubles_loops : (run HiPlayerCallbackLooper.next {}
        [.startReportMediaProgress 100 0, .startCollectMaxAmplitude 20 0,
          .stopReportMediaProgress, .stopCollectMaxAmplitude,
          .startReportMediaProgress 100 1, .startCollectMaxAmplitude 20 1]).queue =
      [⟨.mediaProgress, 100⟩, ⟨.collectAmplitude, 20⟩, ⟨.mediaProgress, 101⟩,
        ⟨.collectAmplitude, 21⟩] ∧
    (run HiTransCoderCallbackLooper.next {}
        [.startReportMediaProgress 100, .startGoesOn 0 0, .startGoesOn 0 0,
          .stopReportMediaProgress,
          .startReportMediaProgress 100, .startGoesOn 0 1, .startGoesOn 0 1]).queue = [0, 1] ∧
    ¬∀ (calls : List LooperCall) (transCoderCalls : List TransCoderCall),
      (run HiPlayerCallbackLooper.next {} calls).OneLoop ∧
        (run HiTransCoderCallbackLooper.next {} transCoderCalls).OneLoop := by
  refine ⟨by decide +kernel, by decide +kernel, ?_⟩
  intro always
  have single := (always [.startReportMediaProgress 100 0, .stopReportMediaProgress,
    .startReportMediaProgress 100 1] []).1.1.1
  revert single
  decide +kernel

end PlayerFramework.HiPlayer
