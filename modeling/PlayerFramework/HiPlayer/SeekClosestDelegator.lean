import Mathlib.Algebra.Group.Int.Defs
import Mathlib.Data.List.Basic
import PlayerFramework.Transition

/-!
`SeekClosestDelegator`, which seeks while the user drags (`dragging_player_agent.cpp`).
`queueMutex_` is held for one step at a time, and all seeks are made by the thread of the
task, or by `Release` once the task has stopped.
-/

namespace PlayerFramework.HiPlayer

open Transition

/-- A position with the number of its request, a history variable. -/
structure SeekRequest where
  number : Nat
  position : Int
deriving DecidableEq

/-- Before the queue is taken, and with what was taken from it. -/
inductive SeekStage where
  | taking
  | seeking (request : Option SeekRequest)
deriving DecidableEq

/-- In `stopping`, `Release` waits in `Stop` of the task for the running job. -/
inductive ReleaseStage where
  | stopping
  | goes (stage : SeekStage)
  | released
deriving DecidableEq

/-- `jobs` are submitted and not begun; `requested` and `seeks`, the seeks of the demuxer, are
history variables. -/
structure SeekClosestDelegator where
  seekTimeMsQue : List SeekRequest := []
  curSeekTimeMs : Int := -1
  jobs : Nat := 0
  job : Option SeekStage := none
  release : Option ReleaseStage := none
  requested : List SeekRequest := []
  seeks : List SeekRequest := []
deriving DecidableEq

def SeekStage.request? : SeekStage → Option SeekRequest
  | .taking => none
  | .seeking request => request

def ReleaseStage.request? : ReleaseStage → Option SeekRequest
  | .goes stage => stage.request?
  | _ => none

inductive SeekEvent where
  | updateSeekPos (position : Int)
  | seekJob
  | release
deriving DecidableEq

namespace SeekClosestDelegator

section

-- `Us2HstTime` of the plug-ins, which fails where the result does not fit
variable (us2HstTime : Int → Option Int)

def updateSeekPos (position : Int) (delegator : SeekClosestDelegator) : SeekClosestDelegator :=
  let request : SeekRequest := ⟨delegator.requested.length, position⟩
  let queue := delegator.seekTimeMsQue ++ [request]
  { delegator with
    seekTimeMsQue := queue
    jobs := if queue.length = 1 then delegator.jobs + 1 else delegator.jobs
    requested := delegator.requested ++ [request] }

/-- Without a request the position is -1, which is refused. -/
def doSeek (request : Option SeekRequest) (delegator : SeekClosestDelegator) :
    SeekClosestDelegator :=
  match request with
  | none => delegator
  | some request =>
    if request.position < 0 then delegator
    else if request.position = delegator.curSeekTimeMs then delegator
    else
      let current := { delegator with curSeekTimeMs := request.position }
      match us2HstTime request.position with
      | none => current
      | some _ => { current with seeks := delegator.seeks ++ [request] }

def stopped (delegator : SeekClosestDelegator) : Bool :=
  match delegator.release with
  | none => false
  | some .stopping => false
  | _ => true

/-- The next step of the thread of the task. -/
def seekJob (delegator : SeekClosestDelegator) : SeekClosestDelegator :=
  match delegator.job with
  | none =>
    if delegator.jobs = 0 ∨ delegator.stopped then delegator
    else { delegator with jobs := delegator.jobs - 1, job := some .taking }
  | some .taking =>
    if delegator.seekTimeMsQue.length ≤ 0 then { delegator with job := none }
    else
      { delegator with
        seekTimeMsQue := [], job := some (.seeking delegator.seekTimeMsQue.getLast?) }
  | some (.seeking request) => { delegator.doSeek us2HstTime request with job := none }

def goRelease (delegator : SeekClosestDelegator) : SeekClosestDelegator :=
  match delegator.release with
  | none => { delegator with release := some .stopping }
  | some .stopping =>
    if delegator.job.isSome then delegator else { delegator with release := some (.goes .taking) }
  | some (.goes .taking) =>
    { delegator with
      seekTimeMsQue := [], release := some (.goes (.seeking delegator.seekTimeMsQue.getLast?)) }
  | some (.goes (.seeking request)) =>
    { delegator.doSeek us2HstTime request with release := some .released }
  | some .released => delegator

def next (delegator : SeekClosestDelegator) (event : SeekEvent) : SeekClosestDelegator :=
  match event with
  | .updateSeekPos position => delegator.updateSeekPos position
  | .seekJob => delegator.seekJob us2HstTime
  | .release => delegator.goRelease us2HstTime

/-- Positions are not negative and can be converted, and none is requested once `Release` has
started. -/
def Valid (delegator : SeekClosestDelegator) (event : SeekEvent) : Prop :=
  match event with
  | .updateSeekPos position =>
    delegator.release = none ∧ 0 ≤ position ∧ (us2HstTime position).isSome = true
  | _ => True

end

/-- What was taken from the queue and is not yet sought. -/
def inFlight (delegator : SeekClosestDelegator) : Option SeekRequest :=
  (delegator.job.bind SeekStage.request?).or (delegator.release.bind ReleaseStage.request?)

variable {us2HstTime : Int → Option Int} {delegator : SeekClosestDelegator}

/-- The requests are the settled ones, up to which everything was sought or left out for a later
one, those that the taken one has replaced, the taken one and the queue. -/
structure Split (delegator : SeekClosestDelegator) (settled replaced : List SeekRequest) :
    Prop where
  all : delegator.requested =
    settled ++ replaced ++ delegator.inFlight.toList ++ delegator.seekTimeMsQue
  sought : delegator.seeks.Sublist settled
  idle : delegator.inFlight = none → replaced = []
  current : ∀ last, settled.getLast? = some last → delegator.curSeekTimeMs = last.position

structure Follows (us2HstTime : Int → Option Int) (delegator : SeekClosestDelegator) : Prop where
  numbered : delegator.requested.map (·.number) = List.range delegator.requested.length
  valid : ∀ request ∈ delegator.requested,
    0 ≤ request.position ∧ (us2HstTime request.position).isSome = true
  split : ∃ settled replaced, Split delegator settled replaced
  last : delegator.curSeekTimeMs = (delegator.seeks.getLast?.map (·.position)).getD (-1)
  alone : delegator.stopped = true → delegator.job = none
  empty : ∀ stage, delegator.release = some stage → stage ≠ .stopping → stage ≠ .goes .taking →
    delegator.seekTimeMsQue = []

theorem doSeek_cases (request : SeekRequest) (positive : 0 ≤ request.position)
    (converts : (us2HstTime request.position).isSome = true) :
    request.position = delegator.curSeekTimeMs ∧
        delegator.doSeek us2HstTime (some request) = delegator ∨
      delegator.doSeek us2HstTime (some request) =
        { delegator with
          curSeekTimeMs := request.position, seeks := delegator.seeks ++ [request] } := by
  obtain ⟨time, converted⟩ := Option.isSome_iff_exists.mp converts
  unfold doSeek
  simp only [if_neg (Int.not_lt.mpr positive), converted]
  by_cases same : request.position = delegator.curSeekTimeMs
  · exact .inl ⟨same, if_pos same⟩
  · exact .inr (if_neg same)

/-- The end of a seek: `after` has nothing in flight any more. -/
theorem Follows.seeks (follows : Follows us2HstTime delegator) {after : SeekClosestDelegator}
    {request : Option SeekRequest} (flight : delegator.inFlight = request)
    (landed : after.inFlight = none) (alone : after.stopped = true → after.job = none)
    (empty : ∀ stage, after.release = some stage → stage ≠ .stopping → stage ≠ .goes .taking →
      delegator.seekTimeMsQue = [])
    (same : after.seekTimeMsQue = delegator.seekTimeMsQue ∧ after.requested = delegator.requested ∧
      after.curSeekTimeMs = (delegator.doSeek us2HstTime request).curSeekTimeMs ∧
      after.seeks = (delegator.doSeek us2HstTime request).seeks) :
    Follows us2HstTime after := by
  obtain ⟨queue, requested, current, seeks⟩ := same
  obtain ⟨settled, replaced, split⟩ := follows.split
  have all := split.all
  rw [flight] at all
  have emptied (stage : ReleaseStage) (released : after.release = some stage)
      (begun : stage ≠ .stopping) (took : stage ≠ .goes .taking) : after.seekTimeMsQue = [] := by
    rw [queue]
    exact empty stage released begun took
  cases request with
  | none =>
    refine ⟨?_, ?_, ?_, ?_, alone, emptied⟩
    · rw [requested]
      exact follows.numbered
    · rw [requested]
      exact follows.valid
    · refine ⟨settled, [], ?_, ?_, fun _ => rfl, ?_⟩
      · rw [requested, queue, landed, all, split.idle flight]
      · rw [seeks]
        exact split.sought
      · rw [current]
        exact split.current
    · rw [current, seeks]
      exact follows.last
  | some request =>
    have member : request ∈ delegator.requested := by
      rw [all]
      simp
    obtain ⟨positive, converts⟩ := follows.valid request member
    have last (other : SeekRequest)
        (found : (settled ++ replaced ++ [request]).getLast? = some other) : request = other := by
      simpa using found
    have taken : after.requested =
        settled ++ replaced ++ [request] ++ [] ++ after.inFlight.toList ++ after.seekTimeMsQue := by
      rw [requested, queue, landed, all]
      simp
    rcases @doSeek_cases us2HstTime delegator request positive converts with
      ⟨same, skipped⟩ | sought
    · rw [skipped] at current seeks
      refine ⟨?_, ?_, ?_, ?_, alone, emptied⟩
      · rw [requested]
        exact follows.numbered
      · rw [requested]
        exact follows.valid
      · refine ⟨settled ++ replaced ++ [request], [], taken, ?_, fun _ => rfl, ?_⟩
        · rw [seeks, List.append_assoc]
          exact split.sought.trans (List.sublist_append_left settled _)
        · intro other found
          rw [current, ← last other found, same]
      · rw [current, seeks]
        exact follows.last
    · rw [sought] at current seeks
      refine ⟨?_, ?_, ?_, ?_, alone, emptied⟩
      · rw [requested]
        exact follows.numbered
      · rw [requested]
        exact follows.valid
      · refine ⟨settled ++ replaced ++ [request], [], taken, ?_, fun _ => rfl, ?_⟩
        · rw [seeks]
          exact (split.sought.trans (List.sublist_append_left settled replaced)).append
            (List.Sublist.refl [request])
        · intro other found
          rw [current, last other found]
      · rw [current, seeks]
        simp

theorem dropLast_append_getLast? (queue : List SeekRequest) :
    queue.dropLast ++ queue.getLast?.toList = queue := by
  cases last : queue.getLast? with
  | none =>
    rw [List.getLast?_eq_none_iff.mp last]
    rfl
  | some request => exact List.dropLast_append_getLast? request last

theorem frame_doSeek (us2HstTime : Int → Option Int) (request : Option SeekRequest)
    (delegator : SeekClosestDelegator) :
    (delegator.doSeek us2HstTime request).release = delegator.release ∧
      (delegator.doSeek us2HstTime request).seekTimeMsQue = delegator.seekTimeMsQue ∧
      (delegator.doSeek us2HstTime request).requested = delegator.requested ∧
      (delegator.doSeek us2HstTime request).job = delegator.job := by
  unfold doSeek
  split
  · exact ⟨rfl, rfl, rfl, rfl⟩
  split
  · exact ⟨rfl, rfl, rfl, rfl⟩
  · split
    · exact ⟨rfl, rfl, rfl, rfl⟩
    · split <;> exact ⟨rfl, rfl, rfl, rfl⟩

theorem flight_of_running (running : delegator.stopped = false) :
    delegator.release.bind ReleaseStage.request? = none := by
  unfold stopped at running
  split at running
  · rename_i none
    rw [none]
    rfl
  · rename_i stopping
    rw [stopping]
    rfl
  · cases running

theorem Follows.takes (follows : Follows us2HstTime delegator) {after : SeekClosestDelegator}
    (idle : delegator.inFlight = none) (alone : after.stopped = true → after.job = none)
    (flight : after.inFlight = delegator.seekTimeMsQue.getLast?)
    (same : after.seekTimeMsQue = [] ∧ after.requested = delegator.requested ∧
      after.curSeekTimeMs = delegator.curSeekTimeMs ∧ after.seeks = delegator.seeks) :
    Follows us2HstTime after := by
  obtain ⟨queue, requested, current, seeks⟩ := same
  obtain ⟨settled, replaced, split⟩ := follows.split
  refine ⟨?_, ?_, ?_, ?_, alone, fun _ _ _ _ => queue⟩
  · rw [requested]
    exact follows.numbered
  · rw [requested]
    exact follows.valid
  · refine ⟨settled, delegator.seekTimeMsQue.dropLast, ?_, ?_, ?_, ?_⟩
    · rw [requested, queue, flight, split.all, idle, split.idle idle, List.append_nil,
        List.append_nil, Option.toList_none, List.append_nil, List.append_assoc]
      rw [dropLast_append_getLast?]
    · rw [seeks]
      exact split.sought
    · intro none
      rw [flight, List.getLast?_eq_none_iff] at none
      rw [none]
      rfl
    · rw [current]
      exact split.current
  · rw [current, seeks]
    exact follows.last

theorem Follows.updateSeekPos (follows : Follows us2HstTime delegator) (position : Int)
    (valid : Valid us2HstTime delegator (.updateSeekPos position)) :
    Follows us2HstTime (delegator.updateSeekPos position) := by
  obtain ⟨running, positive, converts⟩ := valid
  obtain ⟨settled, replaced, split⟩ := follows.split
  constructor
  · simp only [SeekClosestDelegator.updateSeekPos, List.map_append, follows.numbered,
      List.length_append, List.map_cons, List.map_nil, List.length_singleton]
    exact List.range_succ.symm
  · intro request member
    rcases List.mem_append.mp member with before | new
    · exact follows.valid request before
    · rw [List.mem_singleton.mp new]
      exact ⟨positive, converts⟩
  · refine ⟨settled, replaced, ?_, split.sought, split.idle, split.current⟩
    have same : (delegator.updateSeekPos position).inFlight = delegator.inFlight := rfl
    rw [same]
    simp [SeekClosestDelegator.updateSeekPos, split.all]
  · exact follows.last
  · exact follows.alone
  · intro stage released
    have none : delegator.release = some stage := released
    rw [running] at none
    cases none

theorem Follows.seekJob (follows : Follows us2HstTime delegator) :
    Follows us2HstTime (delegator.seekJob us2HstTime) := by
  obtain ⟨settled, replaced, split⟩ := follows.split
  have running {stage : SeekStage} (works : delegator.job = some stage) :
      delegator.stopped = false := by
    cases stops : delegator.stopped with
    | false => rfl
    | true =>
      have none := follows.alone stops
      rw [works] at none
      cases none
  unfold SeekClosestDelegator.seekJob
  split
  · split
    · exact follows
    rename_i none begins
    have going : delegator.stopped = false := by
      simpa using (not_or.mp begins).2
    refine ⟨follows.numbered, follows.valid, ⟨settled, replaced, ?_⟩, follows.last, ?_,
      follows.empty⟩
    · have same : ({ delegator with
          jobs := delegator.jobs - 1, job := some .taking } : SeekClosestDelegator).inFlight =
          delegator.inFlight := by
        simp only [inFlight, none]
        rfl
      exact ⟨by rw [same]; exact split.all, split.sought, by rw [same]; exact split.idle,
        split.current⟩
    · intro stops
      exact absurd (going.symm.trans stops) (by decide)
  · rename_i takes
    have going := running takes
    have idle : delegator.inFlight = none := by
      simp only [inFlight, takes, flight_of_running going]
      rfl
    split
    · refine ⟨follows.numbered, follows.valid, ⟨settled, replaced, ?_⟩, follows.last,
        fun _ => rfl, follows.empty⟩
      have same : ({ delegator with job := none } : SeekClosestDelegator).inFlight =
          delegator.inFlight := by
        simp only [inFlight, takes]
        rfl
      exact ⟨by rw [same]; exact split.all, split.sought, by rw [same]; exact split.idle,
        split.current⟩
    · apply follows.takes idle
      · intro stops
        exact absurd (going.symm.trans stops) (by decide)
      · simp [inFlight, SeekStage.request?, flight_of_running going]
      · exact ⟨rfl, rfl, rfl, rfl⟩
  · rename_i request seeks
    have going := running seeks
    have flight : delegator.inFlight = request := by
      simp [inFlight, seeks, SeekStage.request?, flight_of_running going]
    have same := frame_doSeek us2HstTime request delegator
    apply follows.seeks flight
    · simp [inFlight, same, flight_of_running going]
    · exact fun _ => rfl
    · rw [same.1]
      exact follows.empty
    · exact ⟨same.2.1, same.2.2.1, rfl, rfl⟩

theorem Follows.goRelease (follows : Follows us2HstTime delegator) :
    Follows us2HstTime (delegator.goRelease us2HstTime) := by
  obtain ⟨settled, replaced, split⟩ := follows.split
  unfold SeekClosestDelegator.goRelease
  split
  · rename_i unreleased
    have same : ({ delegator with release := some .stopping } : SeekClosestDelegator).inFlight =
        delegator.inFlight := by
      simp only [inFlight, unreleased]
      rfl
    refine ⟨follows.numbered, follows.valid, ⟨settled, replaced, ?_⟩, follows.last, ?_, ?_⟩
    · exact ⟨by rw [same]; exact split.all, split.sought, by rw [same]; exact split.idle,
        split.current⟩
    · intro stops
      cases stops
    · intro stage stopping begun
      exact absurd (Option.some.inj stopping).symm begun
  · rename_i stopping
    split
    · exact follows
    rename_i ended
    have jobless : delegator.job = none := by simpa using ended
    have same : ({ delegator with
        release := some (.goes .taking) } : SeekClosestDelegator).inFlight =
        delegator.inFlight := by
      simp only [inFlight, stopping]
      rfl
    refine ⟨follows.numbered, follows.valid, ⟨settled, replaced, ?_⟩, follows.last,
      fun _ => jobless, ?_⟩
    · exact ⟨by rw [same]; exact split.all, split.sought, by rw [same]; exact split.idle,
        split.current⟩
    · intro stage taking _ took
      exact absurd (Option.some.inj taking).symm took
  · rename_i taking
    have jobless : delegator.job = none := follows.alone (by simp [stopped, taking])
    apply follows.takes
    · simp only [inFlight, taking, jobless]
      rfl
    · exact fun _ => jobless
    · simp [inFlight, jobless, ReleaseStage.request?, SeekStage.request?]
    · exact ⟨rfl, rfl, rfl, rfl⟩
  · rename_i request seeks
    have jobless : delegator.job = none := follows.alone (by simp [stopped, seeks])
    have flight : delegator.inFlight = request := by
      simp [inFlight, jobless, seeks, ReleaseStage.request?, SeekStage.request?]
    have same := frame_doSeek us2HstTime request delegator
    apply follows.seeks flight
    · simp [inFlight, same, jobless, ReleaseStage.request?]
    · intro _
      exact same.2.2.2.trans jobless
    · intro _ _ _ _
      exact follows.empty _ seeks (by simp) (by simp)
    · exact ⟨same.2.1, same.2.2.1, rfl, rfl⟩
  · exact follows

theorem Follows.next (follows : Follows us2HstTime delegator) (event : SeekEvent)
    (valid : Valid us2HstTime delegator event) :
    Follows us2HstTime (delegator.next us2HstTime event) := by
  cases event with
  | updateSeekPos position => exact follows.updateSeekPos position valid
  | seekJob => exact follows.seekJob
  | release => exact follows.goRelease

theorem follows_init : Follows us2HstTime {} where
  numbered := rfl
  valid _ none := by cases none
  split := ⟨[], [], rfl, List.Sublist.refl [], fun _ => rfl, fun _ none => by cases none⟩
  last := rfl
  alone _ := rfl
  empty _ _ _ _ := rfl

/-- The seeks are a part of the requests in their order, each later than the one before, and the
last one after `Release` goes to the position requested last. -/
theorem seeks_follow_requests (us2HstTime : Int → Option Int) (events : List SeekEvent)
    (valid : Along (next us2HstTime) (Valid us2HstTime) {} events) :
    let delegator := run (next us2HstTime) {} events
    delegator.seeks.Sublist delegator.requested ∧
      delegator.seeks.Pairwise (fun older newer => older.number < newer.number) ∧
      (delegator.release = some .released → ∀ last, delegator.requested.getLast? = some last →
        ∃ sought, delegator.seeks.getLast? = some sought ∧ sought.position = last.position) := by
  intro delegator
  have follows : Follows us2HstTime delegator :=
    invariant_of_along (Follows us2HstTime)
      (fun _ event follows valid => follows.next event valid) valid follows_init
  obtain ⟨settled, replaced, split⟩ := follows.split
  have part : delegator.seeks.Sublist delegator.requested := by
    rw [split.all, List.append_assoc, List.append_assoc]
    exact split.sought.trans (List.sublist_append_left settled _)
  refine ⟨part, ?_, ?_⟩
  · have increasing : (delegator.requested.map (·.number)).Pairwise (· < ·) := by
      rw [follows.numbered]
      exact List.pairwise_lt_range
    exact (List.pairwise_map.mp increasing).sublist part
  · intro released last requested
    have jobless : delegator.job = none := follows.alone (by simp [stopped, released])
    have empty := follows.empty _ released (by simp) (by simp)
    have idle : delegator.inFlight = none := by
      simp only [inFlight, jobless, released]
      rfl
    have all : delegator.requested = settled := by
      rw [split.all, idle, empty, split.idle idle]
      simp
    have current : delegator.curSeekTimeMs = last.position := split.current last (all ▸ requested)
    have positive := (follows.valid last (List.mem_of_getLast? requested)).1
    have sought := follows.last
    cases found : delegator.seeks.getLast? with
    | none =>
      rw [found] at sought
      simp only [Option.map_none, Option.getD_none] at sought
      omega
    | some seek =>
      rw [current, found] at sought
      exact ⟨seek, rfl, sought.symm⟩

/-- The conversion from microseconds to nanoseconds. -/
def usToNs (time : Int) : Option Int :=
  if time * 1000 < 2 ^ 63 then some (time * 1000) else none

/-- Three positions, of which the job leaves out one, and one that `Release` takes over. -/
theorem release_takes_over :
    let events := [.updateSeekPos 100, .updateSeekPos 200, .seekJob, .seekJob,
      .updateSeekPos 300, .seekJob, .release, .release, .release, .release]
    let delegator := run (next usToNs) {} events
    Along (next usToNs) (Valid usToNs) {} events ∧ delegator.seeks.map (·.position) = [200, 300] ∧
      ∃ sought, delegator.seeks.getLast? = some sought ∧ sought.position = 300 := by
  intro events delegator
  have valid : Along (next usToNs) (Valid usToNs) {} events := by
    simp only [events, Along, Valid]
    decide
  refine ⟨valid, by decide, ?_⟩
  exact (seeks_follow_requests usToNs events valid).2.2 (by decide) ⟨2, 300⟩ (by decide)

end SeekClosestDelegator

end PlayerFramework.HiPlayer
