import Mathlib.Algebra.Group.Int.Defs
import Mathlib.Algebra.Group.Nat.Defs
import Mathlib.Data.List.Perm.Basic
import PlayerFramework.HiPlayer.ReportLoop

/-!
The callback looper of the player (`hiplayer_callback_looper.cpp`).  A submitted job is an
event in the queue; its delay is over at any time.  `loopMutex_` is held for one step.
-/

namespace PlayerFramework.HiPlayer

open Transition

def maxAmplitudeSize : Nat := 5
def progressReportInterval : Int := 90

/-- The events of the loops; the others do not look at them. -/
inductive LooperWhat where
  | mediaProgress
  | collectAmplitude
  | mediaProgressOnce
deriving DecidableEq

structure QueuedEvent where
  what : LooperWhat
  whenMs : Int
deriving DecidableEq

/-- An amplitude is a float, given by its bits. -/
inductive LooperReport where
  | positionUpdate (positionMs : Int)
  | maxAmplitudeCollect (amplitudes : List Nat)
deriving DecidableEq

/-- What the processing of an event meets: the clock, whether the observer is alive, and the
answers of the engine. -/
structure LoopAnswers where
  nowMs : Int
  obs : Bool := true
  currentTime : Option Int := none
  maxAmplitude : Nat := 0
deriving DecidableEq

/-- `reports` is a history variable. -/
structure HiPlayerCallbackLooper where
  reportMediaProgress : Bool := false
  collectMaxAmplitude : Bool := false
  isDropMediaProgress : Bool := false
  reportUV : Bool := true
  reportUVProgressLoopRunning : Bool := false
  enableReportMediaProgress : Bool := true
  isReportMediaProgressLoopRunning : Bool := false
  reportProgressIntervalMs : Int := 100
  collectMaxAmplitudeIntervalMs : Int := 100
  vMaxAmplitudeArray : List Nat := []
  lastReportTime : Int := 0
  queue : List QueuedEvent := []
  reports : List LooperReport := []
deriving DecidableEq

inductive LooperCall where
  | startReportMediaProgress (updateIntervalMs nowMs : Int)
  | stopReportMediaProgress
  | enableReportMediaProgress (enable : Bool) (nowMs : Int)
  | manualReportMediaProgressOnce (nowMs : Int)
  | startCollectMaxAmplitude (updateIntervalMs nowMs : Int)
  | stopCollectMaxAmplitude
  | setMaxAmplitudeCbStatus (status : Bool) (nowMs : Int)
  | loopOnce (index : Nat) (answers : LoopAnswers)
deriving DecidableEq

namespace HiPlayerCallbackLooper

def enqueue (what : LooperWhat) (whenMs : Int) (looper : HiPlayerCallbackLooper) :
    HiPlayerCallbackLooper :=
  { looper with queue := looper.queue ++ [⟨what, whenMs⟩] }

def setMaxAmplitudeCbStatus (status : Bool) (nowMs : Int) (looper : HiPlayerCallbackLooper) :
    HiPlayerCallbackLooper :=
  if looper.reportUV = status then looper
  else
    let set := { looper with reportUV := status }
    if status ∧ looper.collectMaxAmplitude ∧ !looper.reportUVProgressLoopRunning then
      { set with reportUVProgressLoopRunning := true }.enqueue .collectAmplitude
        (nowMs + looper.collectMaxAmplitudeIntervalMs)
    else set

def enableReport (enable : Bool) (nowMs : Int) (looper : HiPlayerCallbackLooper) :
    HiPlayerCallbackLooper :=
  if looper.enableReportMediaProgress = enable then looper
  else
    let set := { looper with enableReportMediaProgress := enable }
    if looper.reportMediaProgress ∧ enable ∧ !looper.isReportMediaProgressLoopRunning then
      { set with isReportMediaProgressLoopRunning := true }.enqueue .mediaProgress
        (nowMs + looper.reportProgressIntervalMs)
    else set

def startReportMediaProgress (updateIntervalMs nowMs : Int) (looper : HiPlayerCallbackLooper) :
    HiPlayerCallbackLooper :=
  let timed := { looper with reportProgressIntervalMs := updateIntervalMs }
  if looper.reportMediaProgress then timed
  else if !looper.enableReportMediaProgress then { timed with reportMediaProgress := true }
  else
    { timed with
      reportMediaProgress := true
      isReportMediaProgressLoopRunning := true }.enqueue .mediaProgress (nowMs + updateIntervalMs)

def startCollectMaxAmplitude (updateIntervalMs nowMs : Int) (looper : HiPlayerCallbackLooper) :
    HiPlayerCallbackLooper :=
  let timed := { looper with collectMaxAmplitudeIntervalMs := updateIntervalMs }
  if looper.collectMaxAmplitude then timed
  else if !looper.reportUV then { timed with lastReportTime := 0, collectMaxAmplitude := true }
  else
    { timed with
      lastReportTime := 0
      collectMaxAmplitude := true
      reportUVProgressLoopRunning := true }.enqueue .collectAmplitude (nowMs + updateIntervalMs)

def manualReportMediaProgressOnce (nowMs : Int) (looper : HiPlayerCallbackLooper) :
    HiPlayerCallbackLooper :=
  looper.enqueue .mediaProgressOnce nowMs

def stopReportMediaProgress (looper : HiPlayerCallbackLooper) : HiPlayerCallbackLooper :=
  { looper with reportMediaProgress := false, lastReportTime := 0 }

def stopCollectMaxAmplitude (looper : HiPlayerCallbackLooper) : HiPlayerCallbackLooper :=
  { looper with collectMaxAmplitude := false }

/-- The position update of `DoReportMediaProgress`. -/
def reportPosition (type : LooperWhat) (answers : LoopAnswers) (looper : HiPlayerCallbackLooper) :
    HiPlayerCallbackLooper :=
  if answers.obs ∧ !looper.isDropMediaProgress then
    match answers.currentTime with
    | none => looper
    | some positionMs =>
      if type = .mediaProgressOnce ∨ (type = .mediaProgress ∧
          answers.nowMs - looper.lastReportTime ≥ progressReportInterval) then
        { looper with
          lastReportTime :=
            if type = .mediaProgress then answers.nowMs else looper.lastReportTime
          reports := looper.reports ++ [.positionUpdate positionMs] }
      else looper
  else looper

def doReportMediaProgress (type : LooperWhat) (answers : LoopAnswers)
    (looper : HiPlayerCallbackLooper) : HiPlayerCallbackLooper :=
  if !looper.reportMediaProgress ∨ !looper.enableReportMediaProgress then
    { looper with isReportMediaProgressLoopRunning := false }
  else
    let reported := { looper.reportPosition type answers with isDropMediaProgress := false }
    if type = .mediaProgress then
      reported.enqueue .mediaProgress (answers.nowMs + looper.reportProgressIntervalMs)
    else reported

def collectAmplitude (answers : LoopAnswers) (looper : HiPlayerCallbackLooper) :
    HiPlayerCallbackLooper :=
  if !answers.obs then looper
  else
    let amplitudes := looper.vMaxAmplitudeArray ++ [answers.maxAmplitude]
    if amplitudes.length = maxAmplitudeSize then
      { looper with
        vMaxAmplitudeArray := []
        reports := looper.reports ++ [.maxAmplitudeCollect amplitudes] }
    else { looper with vMaxAmplitudeArray := amplitudes }

def doCollectAmplitude (answers : LoopAnswers) (looper : HiPlayerCallbackLooper) :
    HiPlayerCallbackLooper :=
  if !looper.collectMaxAmplitude ∨ !looper.reportUV then
    { looper with reportUVProgressLoopRunning := false }
  else
    (looper.collectAmplitude answers).enqueue .collectAmplitude
      (answers.nowMs + looper.collectMaxAmplitudeIntervalMs)

/-- The task takes an event of the queue. -/
def loopOnce (index : Nat) (answers : LoopAnswers) (looper : HiPlayerCallbackLooper) :
    HiPlayerCallbackLooper :=
  match looper.queue[index]? with
  | none => looper
  | some event =>
    let taken := { looper with queue := looper.queue.eraseIdx index }
    match event.what with
    | .mediaProgress => taken.doReportMediaProgress .mediaProgress answers
    | .mediaProgressOnce => taken.doReportMediaProgress .mediaProgressOnce answers
    | .collectAmplitude => taken.doCollectAmplitude answers

def next (looper : HiPlayerCallbackLooper) (call : LooperCall) : HiPlayerCallbackLooper :=
  match call with
  | .startReportMediaProgress interval nowMs => looper.startReportMediaProgress interval nowMs
  | .stopReportMediaProgress => looper.stopReportMediaProgress
  | .enableReportMediaProgress enable nowMs => looper.enableReport enable nowMs
  | .manualReportMediaProgressOnce nowMs => looper.manualReportMediaProgressOnce nowMs
  | .startCollectMaxAmplitude interval nowMs => looper.startCollectMaxAmplitude interval nowMs
  | .stopCollectMaxAmplitude => looper.stopCollectMaxAmplitude
  | .setMaxAmplitudeCbStatus status nowMs => looper.setMaxAmplitudeCbStatus status nowMs
  | .loopOnce index answers => looper.loopOnce index answers

def pending (what : LooperWhat) (looper : HiPlayerCallbackLooper) : Nat :=
  looper.queue.countP fun event => event.what = what

def kind (index : Nat) (looper : HiPlayerCallbackLooper) : Option LooperWhat :=
  (looper.queue[index]?).map QueuedEvent.what

def progressLoop (looper : HiPlayerCallbackLooper) : ReportLoop where
  requested := looper.reportMediaProgress
  enabled := looper.enableReportMediaProgress
  running := looper.isReportMediaProgressLoopRunning
  pending := looper.pending .mediaProgress

def amplitudeLoop (looper : HiPlayerCallbackLooper) : ReportLoop where
  requested := looper.collectMaxAmplitude
  enabled := looper.reportUV
  running := looper.reportUVProgressLoopRunning
  pending := looper.pending .collectAmplitude

def progressStep (looper : HiPlayerCallbackLooper) (call : LooperCall) : LoopStep :=
  match call with
  | .startReportMediaProgress _ _ => .start
  | .stopReportMediaProgress => .stop
  | .enableReportMediaProgress enable _ => .enable enable
  | .loopOnce index _ =>
    match looper.kind index with
    | some .mediaProgress => .fire
    | some .mediaProgressOnce => .fireOnce
    | _ => .stay
  | _ => .stay

def amplitudeStep (looper : HiPlayerCallbackLooper) (call : LooperCall) : LoopStep :=
  match call with
  | .startCollectMaxAmplitude _ _ => .start
  | .stopCollectMaxAmplitude => .stop
  | .setMaxAmplitudeCbStatus status _ => .enable status
  | .loopOnce index _ =>
    match looper.kind index with
    | some .collectAmplitude => .fire
    | _ => .stay
  | _ => .stay

/-- At most one event of either loop is pending, and one if the loop is requested and
enabled. -/
def OneLoop (looper : HiPlayerCallbackLooper) : Prop :=
  looper.progressLoop.Single ∧ looper.amplitudeLoop.Single

/-- Neither loop is begun while its last event is pending. -/
def BeginsClean (looper : HiPlayerCallbackLooper) (call : LooperCall) : Prop :=
  looper.progressLoop.Safe (looper.progressStep call) ∧
    looper.amplitudeLoop.Safe (looper.amplitudeStep call)

instance (looper : HiPlayerCallbackLooper) : Decidable looper.OneLoop :=
  inferInstanceAs (Decidable (_ ∧ _))

variable {looper : HiPlayerCallbackLooper}

theorem pending_enqueue (what other : LooperWhat) (whenMs : Int)
    (looper : HiPlayerCallbackLooper) :
    (looper.enqueue what whenMs).pending other =
      looper.pending other + if what = other then 1 else 0 := by
  simp [pending, enqueue, List.countP_append, List.countP_singleton]

theorem pending_taken {index : Nat} {event : QueuedEvent}
    (found : looper.queue[index]? = some event) (what : LooperWhat) :
    looper.pending what = { looper with queue := looper.queue.eraseIdx index }.pending what +
      if event.what = what then 1 else 0 := by
  obtain ⟨inside, same⟩ := List.getElem?_eq_some_iff.mp found
  have count := (List.getElem_cons_eraseIdx_perm inside).countP_eq
    fun event : QueuedEvent => decide (event.what = what)
  rw [same, List.countP_cons] at count
  simpa [pending] using count.symm

theorem loops_reportPosition (type : LooperWhat) (answers : LoopAnswers)
    (looper : HiPlayerCallbackLooper) :
    (looper.reportPosition type answers).progressLoop = looper.progressLoop ∧
      (looper.reportPosition type answers).amplitudeLoop = looper.amplitudeLoop := by
  rw [reportPosition]
  split
  · split
    · exact ⟨rfl, rfl⟩
    · split <;> exact ⟨rfl, rfl⟩
  · exact ⟨rfl, rfl⟩

theorem loops_collectAmplitude (answers : LoopAnswers) (looper : HiPlayerCallbackLooper) :
    (looper.collectAmplitude answers).progressLoop = looper.progressLoop ∧
      (looper.collectAmplitude answers).amplitudeLoop = looper.amplitudeLoop := by
  rw [collectAmplitude]
  split
  · exact ⟨rfl, rfl⟩
  · dsimp only
    split <;> exact ⟨rfl, rfl⟩

theorem loops_enqueue (what : LooperWhat) (whenMs : Int) (looper : HiPlayerCallbackLooper) :
    (looper.enqueue what whenMs).progressLoop =
        { looper.progressLoop with
          pending := looper.progressLoop.pending + if what = .mediaProgress then 1 else 0 } ∧
      (looper.enqueue what whenMs).amplitudeLoop =
        { looper.amplitudeLoop with
          pending := looper.amplitudeLoop.pending +
            if what = .collectAmplitude then 1 else 0 } := by
  constructor
  · simp only [progressLoop, pending_enqueue]
    rfl
  · simp only [amplitudeLoop, pending_enqueue]
    rfl

theorem wanted_progressLoop (looper : HiPlayerCallbackLooper) : looper.progressLoop.wanted = true ↔
      ¬((!looper.reportMediaProgress) = true ∨ (!looper.enableReportMediaProgress) = true) := by
  simp [progressLoop, ReportLoop.wanted]

theorem wanted_amplitudeLoop (looper : HiPlayerCallbackLooper) :
    looper.amplitudeLoop.wanted = true ↔
      ¬((!looper.collectMaxAmplitude) = true ∨ (!looper.reportUV) = true) := by
  simp [amplitudeLoop, ReportLoop.wanted]

theorem loops_doReportMediaProgress (type : LooperWhat) (answers : LoopAnswers)
    (looper : HiPlayerCallbackLooper) :
    (looper.doReportMediaProgress type answers).progressLoop =
        (if looper.progressLoop.wanted then
          { looper.progressLoop with
            pending := looper.progressLoop.pending + if type = .mediaProgress then 1 else 0 }
        else { looper.progressLoop with running := false }) ∧
      (looper.doReportMediaProgress type answers).amplitudeLoop = looper.amplitudeLoop := by
  have reported := loops_reportPosition type answers looper
  rw [doReportMediaProgress]
  by_cases wants : looper.progressLoop.wanted = true
  · rw [if_neg (looper.wanted_progressLoop.mp wants), if_pos wants]
    by_cases periodic : type = .mediaProgress
    · rw [if_pos periodic, if_pos periodic]
      constructor
      · rw [(loops_enqueue _ _ _).1, if_pos rfl]
        exact congrArg (fun loop : ReportLoop => { loop with pending := loop.pending + 1 })
          reported.1
      · rw [(loops_enqueue _ _ _).2, if_neg LooperWhat.noConfusion]
        exact reported.2
    · rw [if_neg periodic, if_neg periodic]
      exact reported
  · have unwanted := not_not.mp (mt looper.wanted_progressLoop.mpr wants)
    rw [if_pos unwanted, if_neg wants]
    exact ⟨rfl, rfl⟩

theorem loops_doCollectAmplitude (answers : LoopAnswers) (looper : HiPlayerCallbackLooper) :
    (looper.doCollectAmplitude answers).progressLoop = looper.progressLoop ∧
      (looper.doCollectAmplitude answers).amplitudeLoop =
        if looper.amplitudeLoop.wanted then
          { looper.amplitudeLoop with pending := looper.amplitudeLoop.pending + 1 }
        else { looper.amplitudeLoop with running := false } := by
  have collected := loops_collectAmplitude answers looper
  rw [doCollectAmplitude]
  by_cases wants : looper.amplitudeLoop.wanted = true
  · rw [if_neg (looper.wanted_amplitudeLoop.mp wants), if_pos wants]
    constructor
    · rw [(loops_enqueue _ _ _).1, if_neg LooperWhat.noConfusion]
      exact collected.1
    · rw [(loops_enqueue _ _ _).2, if_pos rfl, collected.2]
  · have unwanted := not_not.mp (mt looper.wanted_amplitudeLoop.mpr wants)
    rw [if_pos unwanted, if_neg wants]
    exact ⟨rfl, rfl⟩

theorem progressLoop_loopOnce (index : Nat) (answers : LoopAnswers)
    (looper : HiPlayerCallbackLooper) :
    (looper.loopOnce index answers).progressLoop =
      looper.progressLoop.next (looper.progressStep (.loopOnce index answers)) := by
  rw [loopOnce, progressStep, kind]
  cases found : looper.queue[index]? with
  | none => rfl
  | some event =>
    have count := pending_taken found .mediaProgress
    rcases event with ⟨what, whenMs⟩
    cases what with
    | mediaProgress =>
      have before : looper.progressLoop =
          { { looper with queue := looper.queue.eraseIdx index }.progressLoop with
            pending := looper.pending .mediaProgress } := rfl
      rw [if_pos rfl] at count
      simp only [Option.map_some, (loops_doReportMediaProgress _ _ _).1, if_true]
      rw [before, count]
      simp only [ReportLoop.next, ReportLoop.wanted, Nat.succ_ne_zero, false_or, Nat.add_sub_cancel]
      rfl
    | collectAmplitude =>
      have before : looper.progressLoop =
          { looper with queue := looper.queue.eraseIdx index }.progressLoop :=
        congrArg (fun pending => { looper.progressLoop with pending }) count
      simp only [Option.map_some, (loops_doCollectAmplitude _ _).1]
      exact before.symm
    | mediaProgressOnce =>
      have before : looper.progressLoop =
          { looper with queue := looper.queue.eraseIdx index }.progressLoop :=
        congrArg (fun pending => { looper.progressLoop with pending }) count
      simp only [Option.map_some, (loops_doReportMediaProgress _ _ _).1]
      rw [before]
      rfl

theorem amplitudeLoop_loopOnce (index : Nat) (answers : LoopAnswers)
    (looper : HiPlayerCallbackLooper) :
    (looper.loopOnce index answers).amplitudeLoop =
      looper.amplitudeLoop.next (looper.amplitudeStep (.loopOnce index answers)) := by
  rw [loopOnce, amplitudeStep, kind]
  cases found : looper.queue[index]? with
  | none => rfl
  | some event =>
    have count := pending_taken found .collectAmplitude
    rcases event with ⟨what, whenMs⟩
    cases what with
    | collectAmplitude =>
      have before : looper.amplitudeLoop =
          { { looper with queue := looper.queue.eraseIdx index }.amplitudeLoop with
            pending := looper.pending .collectAmplitude } := rfl
      rw [if_pos rfl] at count
      simp only [Option.map_some, (loops_doCollectAmplitude _ _).2]
      rw [before, count]
      simp only [ReportLoop.next, ReportLoop.wanted, Nat.succ_ne_zero, false_or, Nat.add_sub_cancel]
      rfl
    | mediaProgress | mediaProgressOnce =>
      have before : looper.amplitudeLoop =
          { looper with queue := looper.queue.eraseIdx index }.amplitudeLoop :=
        congrArg (fun pending => { looper.amplitudeLoop with pending }) count
      simp only [Option.map_some, (loops_doReportMediaProgress _ _ _).2]
      exact before.symm

theorem progressLoop_next (looper : HiPlayerCallbackLooper) (call : LooperCall) :
    (looper.next call).progressLoop = looper.progressLoop.next (looper.progressStep call) := by
  cases call with
  | startReportMediaProgress interval nowMs =>
    rcases looper with ⟨_ | _, _, _, _, _, _ | _, _, _, _, _, _, _, _⟩
    · rfl
    · exact (loops_enqueue _ _ _).1
    · rfl
    · rfl
  | stopReportMediaProgress => rfl
  | enableReportMediaProgress enable nowMs =>
    rcases looper with ⟨_ | _, _, _, _, _, _ | _, _ | _, _, _, _, _, _, _⟩ <;> cases enable <;>
      first | rfl | exact (loops_enqueue _ _ _).1
  | manualReportMediaProgressOnce nowMs => exact (loops_enqueue _ _ _).1
  | startCollectMaxAmplitude interval nowMs =>
    rcases looper with ⟨_, _ | _, _, _ | _, _, _, _, _, _, _, _, _, _⟩
    · rfl
    · exact (loops_enqueue _ _ _).1
    · rfl
    · rfl
  | stopCollectMaxAmplitude => rfl
  | setMaxAmplitudeCbStatus status nowMs =>
    rcases looper with ⟨_, _ | _, _, _ | _, _ | _, _, _, _, _, _, _, _, _⟩ <;> cases status <;>
      first | rfl | exact (loops_enqueue _ _ _).1
  | loopOnce index answers => exact looper.progressLoop_loopOnce index answers

theorem amplitudeLoop_next (looper : HiPlayerCallbackLooper) (call : LooperCall) :
    (looper.next call).amplitudeLoop = looper.amplitudeLoop.next (looper.amplitudeStep call) := by
  cases call with
  | startReportMediaProgress interval nowMs =>
    rcases looper with ⟨_ | _, _, _, _, _, _ | _, _, _, _, _, _, _, _⟩
    · rfl
    · exact (loops_enqueue _ _ _).2
    · rfl
    · rfl
  | stopReportMediaProgress => rfl
  | enableReportMediaProgress enable nowMs =>
    rcases looper with ⟨_ | _, _, _, _, _, _ | _, _ | _, _, _, _, _, _, _⟩ <;> cases enable <;>
      first | rfl | exact (loops_enqueue _ _ _).2
  | manualReportMediaProgressOnce nowMs => exact (loops_enqueue _ _ _).2
  | startCollectMaxAmplitude interval nowMs =>
    rcases looper with ⟨_, _ | _, _, _ | _, _, _, _, _, _, _, _, _, _⟩
    · rfl
    · exact (loops_enqueue _ _ _).2
    · rfl
    · rfl
  | stopCollectMaxAmplitude => rfl
  | setMaxAmplitudeCbStatus status nowMs =>
    rcases looper with ⟨_, _ | _, _, _ | _, _ | _, _, _, _, _, _, _, _, _⟩ <;> cases status <;>
      first | rfl | exact (loops_enqueue _ _ _).2
  | loopOnce index answers => exact looper.amplitudeLoop_loopOnce index answers

/-- What both loops keep whatever the calls are. -/
def LoopsTracked (looper : HiPlayerCallbackLooper) : Prop :=
  looper.progressLoop.Tracked ∧ looper.amplitudeLoop.Tracked

theorem loopsTracked_next (tracked : LoopsTracked looper) (call : LooperCall) :
    LoopsTracked (looper.next call) := by
  rw [LoopsTracked, progressLoop_next, amplitudeLoop_next]
  exact ⟨ReportLoop.tracked_next tracked.1 _, ReportLoop.tracked_next tracked.2 _⟩

/-- Of a looper with single loops, the clean calls keep them single and the others do not. -/
theorem oneLoop_next_iff (tracked : LoopsTracked looper) (single : OneLoop looper)
    (call : LooperCall) : OneLoop (looper.next call) ↔ looper.BeginsClean call := by
  rw [OneLoop, progressLoop_next, amplitudeLoop_next]
  exact and_congr (ReportLoop.single_next_iff tracked.1 single.1 _)
    (ReportLoop.single_next_iff tracked.2 single.2 _)

theorem oneLoop_always_iff (calls : List LooperCall) :
    (∀ count, OneLoop (run next {} (calls.take count))) ↔ Along next BeginsClean {} calls := by
  have tracked : LoopsTracked {} := by
    constructor <;> exact fun running => nomatch running
  have single : OneLoop {} := by decide
  rw [← always_iff_along (fun looper => LoopsTracked looper ∧ OneLoop looper) _ ⟨tracked, single⟩]
  · constructor
    · intro always count
      exact ⟨invariant_of_run LoopsTracked (fun _ call known => loopsTracked_next known call) _
        tracked, always count⟩
    · exact fun always count => (always count).2
  · intro looper call known
    rw [← oneLoop_next_iff known.1 known.2]
    exact and_iff_right (loopsTracked_next known.1 call)

end HiPlayerCallbackLooper

end PlayerFramework.HiPlayer
