import PlayerFramework.Downloader.DownloaderSteps
import PlayerFramework.Downloader.StopCalls

/-!
What `Cancel` and `Release` leave of the tasks of a `DownloaderImpl`.
-/

namespace PlayerFramework.Downloader

open Transition DownloaderImpl

namespace DownloadTask

variable {task : DownloadTask}

theorem active_next {event : TaskEvent} (starts : event ≠ .start) (resumes : event ≠ .resume)
    (active : (task.next event).active = true) : task.active = true := by
  have step := stepped task event
  generalize next task event = after at step active
  cases step with
  | starts => exact absurd rfl starts
  | resumes => exact absurd rfl resumes
  | joins joining _ => simp [DownloadTask.active, joining]
  | still | woken => exact active
  | pauses | cancels | interrupts | expires =>
    cases worker : task.worker with
    | none => simpa [DownloadTask.active, worker] using active
    | some stage => cases stage <;> simp_all [DownloadTask.active]
  | leaves _ free _ | decides _ free =>
    simp [DownloadTask.active, checkDownloadResult, free] at active
  | enters worker _ states => simpa [DownloadTask.active, worker] using .inr states
  | announces worker | executes worker => simp [DownloadTask.active, worker]
  | reports | ends =>
    have joining : task.joining = true := by
      simpa [DownloadTask.active] using active
    simp [DownloadTask.active, joining]

theorem canceling_next {event : TaskEvent} (expires : ∀ waiter, event ≠ .expire waiter)
    (canceling : task.state = .canceling) (free : task.joining = false)
    (active : (task.next event).active = true) :
    (task.next event).state = .canceling ∧ (task.next event).joining = false := by
  have step := stepped task event
  generalize next task event = after at step active ⊢
  cases step with
  | starts _ state | pauses _ state | resumes _ state | cancels _ state | interrupts _ state =>
    rw [canceling] at state
    cases state
  | joins joining _ =>
    rw [free] at joining
    cases joining
  | expires => exact absurd rfl (expires _)
  | leaves | decides | reports | ends =>
    simp [DownloadTask.active, checkDownloadResult, free] at active
  | enters _ _ states => rcases states with state | state <;> simp [canceling] at state
  | still | woken | announces | executes => exact ⟨canceling, free⟩

end DownloadTask

namespace StopCall

/-- The call has taken its task and not yet returned. -/
def past (call : StopCall) : Bool :=
  match call.stage with
  | .taking => false
  | .returned => false
  | _ => true

/-- The call has taken its task and not yet cleared the queue. -/
def clears (call : StopCall) : Bool :=
  match call.stage with
  | .canceling | .waiting | .dropping | .stopping | .joining | .clearing => true
  | _ => false

def covers (call : StopCall) (id : Nat) (task : DownloadTask) : Prop :=
  match call.stage with
  | .taking => True
  | .returned => True
  | .canceling => call.localTask = some id
  | .waiting => call.localTask = some id ∧ task.state = .canceling ∧ task.joining = false
  | _ => call.localTask = some id ∧ call.gaveUp = true

variable {call : StopCall}

theorem covers_of_not_past {id : Nat} {task : DownloadTask} (outside : call.past = false) :
    call.covers id task := by
  cases stage : call.stage with
  | taking | returned => simp [covers, stage]
  | _ => simp [past, stage] at outside

theorem covers_next {id : Nat} {task : DownloadTask} {event : TaskEvent}
    (covers : call.covers id task)
    (expires : call.stage = .waiting → call.localTask = some id → ∀ waiter, event ≠ .expire waiter)
    (active : (task.next event).active = true) : call.covers id (task.next event) := by
  cases stage : call.stage with
  | waiting =>
    simp only [StopCall.covers, stage] at covers ⊢
    obtain ⟨mine, canceling, free⟩ := covers
    exact ⟨mine, DownloadTask.canceling_next (expires stage mine) canceling free active⟩
  | taking | returned => simp [StopCall.covers, stage]
  | _ => simpa only [StopCall.covers, stage] using covers

end StopCall

namespace StoppableDownloader

variable {stoppable : StoppableDownloader}

/-- A `Cancel` or `Release` has taken the task, and no `Start` has come after it. -/
def halted (stoppable : StoppableDownloader) : Bool :=
  stoppable.stopped || stoppable.calls.any StopCall.past

/-- There may be files that no `Cancel` or `Release` has cleared away. -/
def refilled (stoppable : StoppableDownloader) : Bool :=
  stoppable.added || stoppable.calls.any StopCall.clears

/-- Each task that is active is one that a `Cancel` or `Release` under way has taken. -/
structure Final (stoppable : StoppableDownloader) : Prop where
  unmade : ∀ task, stoppable.downloader.taskCount ≤ task → stoppable.downloader.tasks task = {}
  bounded : stoppable.downloader.Bounded
  quiet : stoppable.halted = true →
    stoppable.downloader.launching = false ∧ stoppable.downloader.task = none
  drained : stoppable.halted = true → stoppable.refilled = false →
    stoppable.downloader.taskQueue = []
  covered : ∀ (index : Nat) (call : StopCall), stoppable.calls[index]? = some call → ∀ task,
    (stoppable.downloader.tasks task).active = true →
      call.covers task (stoppable.downloader.tasks task)
  single : ∀ (first second : Nat) (one other : StopCall), stoppable.calls[first]? = some one →
    stoppable.calls[second]? = some other → one.localTask ≠ none → other.localTask ≠ none →
      first = second
  untaken : ∀ (index : Nat) (call : StopCall), stoppable.calls[index]? = some call →
    call.past = false →
    call.localTask = none
  final : stoppable.stopped = true → ∀ task, (stoppable.downloader.tasks task).active = false

/-- A stop takes the task when no thread is starting a file and no other task is active, and it
does not return to a task that has not ended and that somebody else keeps; between its taking of
the task and its clearing of the queue, or where files are added behind the clearing, no file is
taken off the queue before the next `Start`, which comes when no stop is under way, and no other
call gives up its wait for the task. -/
def StopsCleanly (stoppable : StoppableDownloader) (event : StoppableEvent) : Prop :=
  let downloader := stoppable.downloader
  match event with
  | .other event =>
    (stoppable.halted = true → stoppable.refilled = true → ¬ downloader.Begins event) ∧
      match event with
      | .start caller network =>
        starts caller network downloader = true → stoppable.calls.any StopCall.past = false
      | .proceed _ true =>
        match downloader.client with
        | some (_, .pausing task) => stoppable.stopWaits task = false
        | _ => True
      | _ => True
  | .goesOn index _ =>
    match stoppable.calls[index]? with
    | none => True
    | some call =>
      match call.stage with
      | .taking =>
        downloader.taskHeld = false → downloader.launching = false ∧
          ∀ task < downloader.taskCount, (downloader.tasks task).active = true →
            downloader.task = some task
      | .leaving =>
        call.gaveUp = true → call.localTask.all fun task => !stoppable.refersElsewhere task
      | _ => True
  | _ => True

instance (stoppable : StoppableDownloader) (event : StoppableEvent) :
    Decidable (stoppable.StopsCleanly event) := by
  unfold StopsCleanly
  split
  · refine @instDecidableAnd _ _ inferInstance ?_
    split
    · infer_instance
    · split <;> infer_instance
    · infer_instance
  · split
    · infer_instance
    · split <;> infer_instance
  · infer_instance

variable {index : Nat} {after : StoppableDownloader} {downloader : DownloaderImpl}

variable {call : StopCall}

theorem halted_of_past (found : stoppable.calls[index]? = some call) (past : call.past = true) :
    stoppable.halted = true := by
  rw [halted, Bool.or_eq_true]
  right
  rw [List.any_eq_true]
  exact ⟨call, List.mem_of_getElem? found, past⟩

theorem halted_iff : stoppable.halted = true ↔ stoppable.stopped = true ∨
    ∃ (index : Nat) (call : StopCall), stoppable.calls[index]? = some call ∧ call.past = true := by
  rw [halted, Bool.or_eq_true, List.any_eq_true]
  constructor
  · rintro (stopped | ⟨call, member, past⟩)
    · exact .inl stopped
    · obtain ⟨index, found⟩ := List.getElem?_of_mem member
      exact .inr ⟨index, call, found, past⟩
  · rintro (stopped | ⟨index, call, found, past⟩)
    · exact .inl stopped
    · exact .inr ⟨call, List.mem_of_getElem? found, past⟩

theorem refilled_eq_false : stoppable.refilled = false ↔ stoppable.added = false ∧
    ∀ call ∈ stoppable.calls, call.clears = false := by
  rw [refilled, Bool.or_eq_false_iff, List.any_eq_false]
  simp

variable {event : DownloaderEvent} {task : Nat}

theorem untouched {taskEvent : TaskEvent}
    (quiet : stoppable.downloader.launching = false ∧ stoppable.downloader.task = none)
    (touches : stoppable.downloader.Touches event task taskEvent) :
    taskEvent ≠ .start ∧ taskEvent ≠ .resume := by
  constructor
  · rintro rfl
    have launching := launching_iff.mpr ⟨_, touches, rfl⟩
    rw [quiet.1] at launching
    cases launching
  · rintro rfl
    have current : stoppable.downloader.task = some task := touches
    rw [quiet.2] at current
    cases current

theorem not_begins_of_empty (empty : stoppable.downloader.taskQueue = []) :
    ¬ stoppable.downloader.Begins event := by
  cases event with
  | proceed _ _ | handle _ =>
    rintro ⟨-, -, queued, -⟩
    exact queued empty
  | _ => exact id

theorem Final.not_begins (final : stoppable.Final) (halted : stoppable.halted = true)
    (clean : stoppable.refilled = true → ¬ stoppable.downloader.Begins event) :
    ¬ stoppable.downloader.Begins event := by
  cases refilled : stoppable.refilled with
  | true => exact clean refilled
  | false => exact not_begins_of_empty (final.drained halted refilled)

theorem uncreated (quiet : stoppable.downloader.launching = false) :
    ¬ stoppable.downloader.Schedules .creating := by
  intro creating
  have launching := launching_iff.mpr ⟨_, creating, rfl⟩
  rw [quiet] at launching
  cases launching

/-- A step of the rest of the downloader keeps the invariant. -/
theorem Final.other (final : stoppable.Final)
    (reached : ∀ task, DownloadTask.Reached (stoppable.downloader.Touches event task)
      (stoppable.downloader.Schedules .creating ∧ task = stoppable.downloader.taskCount)
      (stoppable.downloader.tasks task) (after.downloader.tasks task))
    (follows : DownloaderImpl.Follows
      (stoppable.downloader.Begins event) stoppable.downloader after.downloader)
    (calls : after.calls = stoppable.calls)
    (stopped : after.stopped = true → stoppable.stopped = true)
    (added : after.added = false → stoppable.added = false ∧
      (stoppable.downloader.taskQueue = [] → after.downloader.taskQueue = []))
    (begins : stoppable.halted = true → ¬ stoppable.downloader.Begins event)
    (waits : ∀ task, stoppable.stopWaits task = true → ¬ stoppable.downloader.GivesUp event task) :
    after.Final := by
  have was : after.halted = true → stoppable.halted = true := by
    rw [halted_iff, halted_iff, calls]
    rintro (now | past)
    · exact .inl (stopped now)
    · exact .inr past
  constructor
  · intro task beyond
    have before := Nat.le_trans follows.counts beyond
    apply (reached task).carry (fun state => state = {})
    · rintro state event touches rfl
      apply unmade_next
      rintro rfl
      exact absurd (final.bounded _ task touches rfl) (Nat.not_lt.mpr before)
    · intro _
      rfl
    · exact final.unmade task before
  · exact follows.bounded final.bounded
  · intro now
    obtain ⟨launching, free⟩ := final.quiet (was now)
    refine ⟨?_, follows.free free launching⟩
    rw [← Bool.not_eq_true]
    intro launches
    rcases follows.launches launches with already | takes
    · rw [launching] at already
      cases already
    · exact begins (was now) takes
  · intro now refilled
    rw [refilled_eq_false, calls] at refilled
    obtain ⟨before, keeps⟩ := added refilled.1
    exact keeps (final.drained (was now) (refilled_eq_false.mpr ⟨before, refilled.2⟩))
  · intro index call found task
    rw [calls] at found
    cases past : call.past with
    | false =>
      intro _
      exact StopCall.covers_of_not_past past
    | true =>
      have quiet := final.quiet (halted_of_past found past)
      apply (reached task).carry (fun state => state.active = true → call.covers task state)
      · intro state taskEvent touches covers active
        obtain ⟨starts, resumes⟩ := untouched quiet touches
        apply StopCall.covers_next (covers (DownloadTask.active_next starts resumes active)) ?_
          active
        rintro waiting mine waiter rfl
        refine waits task ?_ touches
        rw [stopWaits, List.any_eq_true]
        exact ⟨call, List.mem_of_getElem? found, by simp [mine, waiting]⟩
      · intro made
        exact absurd made.1 (uncreated quiet.1)
      · exact final.covered index call found task
  · rw [calls]
    exact final.single
  · rw [calls]
    exact final.untaken
  · intro now task
    have before := stopped now
    have quiet := final.quiet (by rw [halted, before]; rfl)
    apply (reached task).carry (fun state => state.active = false)
    · intro state taskEvent touches inactive
      obtain ⟨starts, resumes⟩ := untouched quiet touches
      rw [← Bool.not_eq_true]
      intro active
      rw [DownloadTask.active_next starts resumes active] at inactive
      cases inactive
    · intro made
      exact absurd made.1 (uncreated quiet.1)
    · exact final.final before task

/-- The events that a `Cancel` or `Release` raises for its task. -/
def Ends (localTask : Option Nat) (task : Nat) : TaskEvent → Prop
  | .start => False
  | .resume => False
  | .expire _ => localTask = some task
  | _ => True

/-- The call goes on towards its clearing, or clears the queue, or leaves it as it is. -/
def Empties (stoppable after : StoppableDownloader) (call turned : StopCall) : Prop :=
  turned.clears = true ∨ after.downloader.taskQueue = [] ∨
    call.past = true ∧ call.clears = false ∧ after.added = stoppable.added ∧
      after.downloader.taskQueue = stoppable.downloader.taskQueue

/-- A step of a `Cancel` or `Release` keeps the invariant. -/
theorem Final.goesOn {call turned : StopCall} (final : stoppable.Final)
    (found : stoppable.calls[index]? = some call)
    (calls : after.calls = stoppable.calls.set index turned)
    (reached : ∀ task, DownloadTask.Reached (Ends call.localTask task) False
      (stoppable.downloader.tasks task) (after.downloader.tasks task))
    (taskCount : after.downloader.taskCount = stoppable.downloader.taskCount)
    (handler : after.downloader.handler = stoppable.downloader.handler)
    (client : after.downloader.client = stoppable.downloader.client)
    (launching : stoppable.downloader.launching = false) (free : after.downloader.task = none)
    (alone : turned.localTask ≠ none → ∀ (other : Nat) (rival : StopCall),
      stoppable.calls[other]? = some rival → rival.localTask ≠ none → other = index)
    (untaken : turned.past = false → turned.localTask = none)
    (covers : ∀ task, (after.downloader.tasks task).active = true →
      turned.covers task (after.downloader.tasks task))
    (empties : Empties stoppable after call turned)
    (stopped : after.stopped = true → stoppable.stopped = true ∨
      ∀ task, (after.downloader.tasks task).active = false) : after.Final := by
  have inside : index < stoppable.calls.length := (List.getElem?_eq_some_iff.mp found).1
  have turns : after.calls[index]? = some turned := by
    rw [calls, List.getElem?_set_self inside]
  have others : ∀ other, other ≠ index → after.calls[other]? = stoppable.calls[other]? := by
    intro other different
    rw [calls, List.getElem?_set_ne (Ne.symm different)]
  have keeps : ∀ task, (after.downloader.tasks task).active = true →
      (stoppable.downloader.tasks task).active = true := by
    intro task
    apply (reached task).carry (fun state => state.active = true →
      (stoppable.downloader.tasks task).active = true)
    · intro state event ends before active
      apply before
      apply DownloadTask.active_next _ _ active
      · rintro rfl
        exact ends
      · rintro rfl
        exact ends
    · exact False.elim
    · exact id
  constructor
  · intro task beyond
    rw [taskCount] at beyond
    apply (reached task).carry (fun state => state = {})
    · rintro state event ends rfl
      apply unmade_next
      rintro rfl
      exact ends
    · exact False.elim
    · exact final.unmade task beyond
  · intro stage task stands
    rw [taskCount]
    exact final.bounded stage task ((schedules_of_threads handler client stage).mp stands)
  · intro _
    refine ⟨?_, free⟩
    rw [← Bool.not_eq_true, launching_iff]
    rintro ⟨stage, stands, launches⟩
    rw [← Bool.not_eq_true, launching_iff] at launching
    exact launching ⟨stage, (schedules_of_threads handler client stage).mp stands, launches⟩
  · intro _ refilled
    rw [refilled_eq_false] at refilled
    rcases empties with clears | empty | ⟨past, cleared, added, queue⟩
    · rw [refilled.2 turned (List.mem_of_getElem? turns)] at clears
      cases clears
    · exact empty
    rw [queue]
    refine final.drained (halted_of_past found past)
      (refilled_eq_false.mpr ⟨added ▸ refilled.1, ?_⟩)
    intro rival member
    obtain ⟨other, stands⟩ := List.getElem?_of_mem member
    by_cases mine : other = index
    · rw [mine, found] at stands
      cases stands
      exact cleared
    · rw [← others other mine] at stands
      exact refilled.2 rival (List.mem_of_getElem? stands)
  · intro other rival stands task active
    by_cases mine : other = index
    · rw [mine, turns] at stands
      cases stands
      exact covers task active
    · rw [others other mine] at stands
      revert active
      apply (reached task).carry (fun state => state.active = true → rival.covers task state)
      · intro state event ends before active
        have starts : event ≠ .start := by
          rintro rfl
          exact ends
        have resumes : event ≠ .resume := by
          rintro rfl
          exact ends
        apply StopCall.covers_next (before (DownloadTask.active_next starts resumes active)) ?_
          active
        rintro waiting has waiter rfl
        apply mine
        have taken : call.localTask = some task := ends
        exact final.single other index rival call stands found (by simp [has]) (by simp [taken])
      · exact False.elim
      · exact final.covered other rival stands task
  · intro first second one other atFirst atSecond has too
    by_cases mine : first = index
    · by_cases same : second = index
      · exact mine.trans same.symm
      · rw [mine, turns] at atFirst
        cases atFirst
        rw [others second same] at atSecond
        exact absurd (alone has second other atSecond too) same
    · rw [others first mine] at atFirst
      by_cases same : second = index
      · rw [same, turns] at atSecond
        cases atSecond
        exact absurd (alone too first one atFirst has) mine
      · rw [others second same] at atSecond
        exact final.single first second one other atFirst atSecond has too
  · intro other rival stands outside
    by_cases mine : other = index
    · rw [mine, turns] at stands
      cases stands
      exact untaken outside
    · rw [others other mine] at stands
      exact final.untaken other rival stands outside
  · intro now task
    rcases stopped now with before | ended
    · rw [← Bool.not_eq_true]
      intro active
      have was := keeps task active
      rw [final.final before task] at was
      cases was
    · exact ended task

theorem Final.turns {call turned : StopCall} (final : stoppable.Final)
    (found : stoppable.calls[index]? = some call) (past : call.past = true)
    (calls : after.calls = stoppable.calls.set index turned)
    (reached : ∀ task, DownloadTask.Reached (Ends call.localTask task) False
      (stoppable.downloader.tasks task) (after.downloader.tasks task))
    (taskCount : after.downloader.taskCount = stoppable.downloader.taskCount)
    (handler : after.downloader.handler = stoppable.downloader.handler)
    (client : after.downloader.client = stoppable.downloader.client)
    (task : after.downloader.task = stoppable.downloader.task)
    (same : turned.localTask = call.localTask) (goes : turned.past = true)
    (covers : ∀ task, (after.downloader.tasks task).active = true →
      turned.covers task (after.downloader.tasks task))
    (empties : Empties stoppable after call turned)
    (stopped : after.stopped = stoppable.stopped) : after.Final := by
  obtain ⟨launching, free⟩ := final.quiet (halted_of_past found past)
  refine final.goesOn found calls reached taskCount handler client launching (task.trans free) ?_ ?_
    covers empties ?_
  · intro has other rival stands too
    rw [same] at has
    exact final.single other index rival call stands found too has
  · intro outside
    rw [goes] at outside
    cases outside
  · intro now
    rw [stopped] at now
    exact .inl now

theorem active_onTask {task other : Nat} (event : TaskEvent) (starts : event ≠ .start)
    (resumes : event ≠ .resume)
    (active : ((downloader.onTask task event).tasks other).active = true) :
    (downloader.tasks other).active = true := by
  by_cases same : other = task
  · subst same
    simp only [onTask, Function.update_self] at active
    exact DownloadTask.active_next starts resumes active
  · simpa [onTask, same] using active

theorem afterCancel_cases (call : StopCall) :
    call.afterCancel = .dropping ∨ call.afterCancel = .clearing := by
  unfold StopCall.afterCancel
  split
  · exact .inl rfl
  · exact .inr rfl

theorem clears_of_afterCancel {turned : StopCall} (next : turned.stage = call.afterCancel) :
    turned.clears = true := by
  rcases afterCancel_cases call with stage | stage <;> simp [StopCall.clears, next, stage]

theorem final_cancelTask (final : stoppable.Final) (found : stoppable.calls[index]? = some call)
    (stage : call.stage = .canceling) (has : call.localTask = some task) :
    (stoppable.cancelTask index task call).Final := by
  have past : call.past = true := by
    rw [StopCall.past, stage]
  have reached : ∀ other, DownloadTask.Reached (Ends call.localTask other) False
      (stoppable.downloader.tasks other)
      ((stoppable.downloader.onTask task .cancel).tasks other) :=
    fun other => reached_onTask fun _ => trivial
  have mine : ∀ other, (stoppable.downloader.tasks other).active = true → other = task := by
    intro other active
    have covers := final.covered index call found other active
    simp only [StopCall.covers, stage, has, Option.some.injEq] at covers
    exact covers.symm
  unfold cancelTask
  simp only
  split
  · exact final
  rename_i free
  split
  · rename_i running
    refine final.turns found past rfl reached rfl rfl rfl rfl rfl rfl ?_ (.inl rfl) rfl
    intro other active
    obtain rfl := mine other (active_onTask .cancel nofun nofun active)
    refine ⟨has, ?_⟩
    simp [update, onTask, DownloadTask.next, free, DownloadTask.cancel, running]
  · refine final.turns found past rfl reached rfl rfl rfl rfl rfl ?_ ?_
      (.inl (clears_of_afterCancel rfl)) rfl
    · rcases afterCancel_cases call with next | next <;> simp [StopCall.past, next]
    intro other active
    have before := active_onTask .cancel nofun nofun active
    obtain rfl := mine other before
    rcases afterCancel_cases call with next | next
    · simp only [StopCall.covers, next]
      exact ⟨has, before⟩
    · simp only [StopCall.covers, next]
      exact ⟨has, before⟩

theorem final_awaitTask (expired : Bool) (final : stoppable.Final)
    (found : stoppable.calls[index]? = some call) (stage : call.stage = .waiting)
    (has : call.localTask = some task) : (stoppable.awaitTask index task expired call).Final := by
  have past : call.past = true := by
    rw [StopCall.past, stage]
  have canceling : ∀ other, (stoppable.downloader.tasks other).active = true →
      other = task ∧ (stoppable.downloader.tasks other).state = .canceling := by
    intro other active
    have covers := final.covered index call found other active
    simp only [StopCall.covers, stage, has, Option.some.injEq] at covers
    exact ⟨covers.1.symm, covers.2.1⟩
  have goes : ∀ gaveUp, ({ call with stage := call.afterCancel, gaveUp := gaveUp } :
      StopCall).past = true := by
    intro gaveUp
    rcases afterCancel_cases call with next | next <;> simp [StopCall.past, next]
  unfold awaitTask
  simp only
  split
  · exact final
  split
  · rename_i finished
    refine final.turns found past rfl ?_ rfl rfl rfl rfl rfl (goes call.gaveUp) ?_
      (.inl (clears_of_afterCancel rfl)) rfl
    · exact fun other => reached_onTask fun _ => trivial
    intro other active
    obtain ⟨rfl, state⟩ :=
      canceling other (active_onTask (.wake .cancel) nofun nofun active)
    rw [state] at finished
    cases finished
  · split
    · refine final.turns found past rfl ?_ rfl rfl rfl rfl rfl (goes true) ?_
        (.inl (clears_of_afterCancel rfl)) rfl
      · intro other
        apply reached_onTask
        rintro rfl
        exact has
      · intro other active
        obtain ⟨rfl, -⟩ :=
          canceling other (active_onTask (.expire .cancel) nofun nofun active)
        rcases afterCancel_cases call with next | next
        · simp only [StopCall.covers, next]
          exact ⟨has, trivial⟩
        · simp only [StopCall.covers, next]
          exact ⟨has, trivial⟩
    · exact final

theorem final_returns (final : stoppable.Final) (found : stoppable.calls[index]? = some call)
    (past : call.past = true) (cleared : call.clears = false)
    (queue : downloader.taskQueue = stoppable.downloader.taskQueue)
    (tasks : downloader.tasks = stoppable.downloader.tasks)
    (taskCount : downloader.taskCount = stoppable.downloader.taskCount)
    (handler : downloader.handler = stoppable.downloader.handler)
    (client : downloader.client = stoppable.downloader.client)
    (task : downloader.task = stoppable.downloader.task)
    (ended : ∀ task, (stoppable.downloader.tasks task).active = false) :
    (stoppable.returns index downloader call).Final := by
  obtain ⟨launching, free⟩ := final.quiet (halted_of_past found past)
  have none : ∀ task, (downloader.tasks task).active = false := by
    intro task
    rw [tasks]
    exact ended task
  refine final.goesOn found rfl ?_ taskCount handler client launching (task.trans free) ?_ ?_ ?_
    (.inr (.inr ⟨past, cleared, rfl, queue⟩)) ?_
  · intro task
    dsimp only [returns, update]
    rw [tasks]
    exact .same
  · intro has
    exact absurd rfl has
  · intro _
    rfl
  · intro task active
    dsimp only [returns, update] at active
    rw [none task] at active
    cases active
  · intro _
    exact .inr none

theorem final_leave (final : stoppable.Final) (found : stoppable.calls[index]? = some call)
    (stage : call.stage = .leaving)
    (last : call.gaveUp = true → call.localTask.all (fun task => !stoppable.refersElsewhere task) =
      true) :
    (stoppable.leave index call).Final := by
  have past : call.past = true := by
    rw [StopCall.past, stage]
  have mine : ∀ other, (stoppable.downloader.tasks other).active = true →
      call.localTask = some other ∧ call.gaveUp = true := by
    intro other active
    have covers := final.covered index call found other active
    simpa only [StopCall.covers, stage] using covers
  have stored : ∀ downloader : DownloaderImpl,
      (downloader = if call.releases then { stoppable.downloader with state := .idle }
        else stoppable.downloader) →
      downloader.taskQueue = stoppable.downloader.taskQueue ∧
        downloader.tasks = stoppable.downloader.tasks ∧
        downloader.taskCount = stoppable.downloader.taskCount ∧
        downloader.handler = stoppable.downloader.handler ∧
        downloader.client = stoppable.downloader.client ∧
        downloader.task = stoppable.downloader.task := by
    rintro _ rfl
    split <;> exact ⟨rfl, rfl, rfl, rfl, rfl, rfl⟩
  have cleared : call.clears = false := by
    rw [StopCall.clears, stage]
  unfold leave
  generalize stores : (if call.releases = true then
    { stoppable.downloader with state := .idle } else stoppable.downloader) = downloader
  obtain ⟨queue, tasks, taskCount, handler, client, task⟩ := stored downloader stores.symm
  simp only
  split
  · rename_i without
    apply final_returns final found past cleared queue tasks taskCount handler client task
    intro other
    rw [← Bool.not_eq_true]
    intro active
    have has := (mine other active).1
    rw [without] at has
    cases has
  · rename_i taken has
    split
    · rename_i kept
      apply final_returns final found past cleared queue tasks taskCount handler client task
      intro other
      rw [← Bool.not_eq_true]
      intro active
      have alone := last (mine other active).2
      rw [has, Option.all_some, kept] at alone
      cases alone
    · split
      · exact final
      have reached : ∀ other, DownloadTask.Reached (Ends call.localTask other) False
          (stoppable.downloader.tasks other) ((downloader.onTask taken .cancel).tasks other) := by
        intro other
        rw [← tasks]
        exact reached_onTask fun _ => trivial
      refine final.turns found past rfl reached taskCount handler client task rfl rfl ?_
        (.inr (.inr ⟨past, cleared, rfl, queue⟩)) rfl
      intro other active
      have before := active_onTask .cancel nofun nofun active
      rw [tasks] at before
      exact mine other before

theorem final_goesOn (index : Nat) (expired : Bool) (final : stoppable.Final)
    (clean : stoppable.StopsCleanly (.goesOn index expired)) :
    (stoppable.goesOn index expired).Final := by
  unfold StoppableDownloader.goesOn
  cases found : stoppable.calls[index]? with
  | none => exact final
  | some call =>
    simp only [StopsCleanly, found] at clean
    have still : ∀ (turned : StopCall) (after : StoppableDownloader), call.past = true →
        after.calls = stoppable.calls.set index turned →
        after.downloader.tasks = stoppable.downloader.tasks →
        after.downloader.taskCount = stoppable.downloader.taskCount →
        after.downloader.handler = stoppable.downloader.handler →
        after.downloader.client = stoppable.downloader.client →
        after.downloader.task = stoppable.downloader.task →
        turned.localTask = call.localTask → turned.past = true →
        (∀ task state, call.covers task state → turned.covers task state) →
        Empties stoppable after call turned → after.stopped = stoppable.stopped → after.Final := by
      intro turned after past calls tasks taskCount handler client task same goes covers
        empties stopped
      have reached : ∀ task, DownloadTask.Reached (Ends call.localTask task) False
          (stoppable.downloader.tasks task) (after.downloader.tasks task) := by
        intro task
        rw [tasks]
        exact .same
      refine final.turns found past calls reached taskCount handler client task same goes ?_
        empties stopped
      intro task active
      rw [tasks] at active ⊢
      exact covers task _ (final.covered index call found task active)
    cases stage : call.stage with
    | taking =>
      simp only [stage] at clean ⊢
      split
      · exact final
      rename_i held
      obtain ⟨launching, current⟩ := clean (Bool.eq_false_iff.mpr held)
      refine final.goesOn found rfl (fun _ => .same) rfl rfl rfl launching rfl ?_ nofun ?_
        (.inl rfl) .inl
      · intro has other rival stands too
        have past : rival.past = true := by
          rw [← Bool.not_eq_false]
          intro outside
          exact too (final.untaken other rival stands outside)
        exact absurd (final.quiet (halted_of_past stands past)).2 has
      · intro task active
        have made : task < stoppable.downloader.taskCount := by
          rcases Nat.lt_or_ge task stoppable.downloader.taskCount with within | beyond
          · exact within
          · simp only [update] at active
            rw [final.unmade task beyond] at active
            cases active
        exact current task made active
    | canceling =>
      simp only [stage]
      cases has : call.localTask with
      | none =>
        refine still (call.goesTo call.afterCancel) _ ?_ rfl rfl rfl rfl rfl rfl rfl ?_ ?_
          (.inl (clears_of_afterCancel rfl)) rfl
        · rw [StopCall.past, stage]
        · rcases afterCancel_cases call with next | next <;>
            simp [StopCall.past, StopCall.goesTo, next]
        · intro task state covers
          simp only [StopCall.covers, stage, has] at covers
          cases covers
      | some task => exact final_cancelTask final found stage has
    | waiting =>
      simp only [stage]
      cases has : call.localTask with
      | none => exact final
      | some task => exact final_awaitTask expired final found stage has
    | dropping =>
      simp only [stage]
      split
      · exact final
      · refine still (call.goesTo .stopping) _ ?_ rfl rfl rfl rfl rfl rfl rfl rfl ?_ (.inl rfl) rfl
        · rw [StopCall.past, stage]
        · intro task state covers
          simpa only [StopCall.covers, StopCall.goesTo, stage] using covers
    | stopping =>
      simp only [stage]
      refine still (call.goesTo (if stoppable.schedulerThread then .joining else .clearing)) _ ?_
        rfl rfl rfl rfl rfl rfl rfl ?_ ?_ ?_ rfl
      · rw [StopCall.past, stage]
      · split <;> rfl
      · intro task state covers
        simp only [StopCall.covers, stage] at covers
        split <;> exact covers
      · left
        split <;> rfl
    | joining =>
      simp only [stage]
      split
      · exact final
      · refine still (call.goesTo .clearing) _ ?_ rfl rfl rfl rfl rfl rfl rfl rfl ?_ (.inl rfl) rfl
        · rw [StopCall.past, stage]
        · intro task state covers
          simpa only [StopCall.covers, StopCall.goesTo, stage] using covers
    | clearing =>
      simp only [stage]
      split
      · exact final
      refine still (call.goesTo (if call.releases then .leaving else .posting)) _ ?_
        rfl rfl rfl rfl rfl rfl rfl ?_ ?_ (.inr (.inl rfl)) rfl
      · rw [StopCall.past, stage]
      · split <;> rfl
      · intro task state covers
        simp only [StopCall.covers, stage] at covers
        split <;> exact covers
    | posting =>
      simp only [stage]
      refine still (call.goesTo .leaving) _ ?_ rfl rfl rfl rfl rfl rfl rfl rfl ?_
        (.inr (.inr ⟨by rw [StopCall.past, stage], by rw [StopCall.clears, stage], rfl, rfl⟩)) rfl
      · rw [StopCall.past, stage]
      · intro task state covers
        simpa only [StopCall.covers, StopCall.goesTo, stage] using covers
    | leaving =>
      simp only [stage] at clean ⊢
      exact final_leave final found stage clean
    | destroying =>
      simp only [stage]
      cases has : call.localTask with
      | none => exact final
      | some task =>
        simp only
        split
        · exact final
        rename_i settled
        rw [not_or, not_not, taskEnded, decide_eq_true_eq] at settled
        apply final_returns final found (by rw [StopCall.past, stage])
          (by rw [StopCall.clears, stage]) rfl rfl rfl rfl rfl rfl
        intro other
        rw [← Bool.not_eq_true]
        intro active
        have covers := final.covered index call found other active
        simp only [StopCall.covers, stage, has, Option.some.injEq] at covers
        obtain ⟨rfl, -⟩ := covers
        simp [DownloadTask.active, settled.1, settled.2.1] at active
    | returned =>
      simp only [stage]
      exact final

theorem discard_frame (running : Bool) (downloader : DownloaderImpl) :
    (discard running downloader).taskQueue = downloader.taskQueue ∧
      (discard running downloader).tasks = downloader.tasks ∧
      (discard running downloader).taskCount = downloader.taskCount ∧
      (discard running downloader).handler = downloader.handler ∧
      (discard running downloader).client = downloader.client ∧
      (discard running downloader).task = downloader.task := by
  unfold discard
  split <;> exact ⟨rfl, rfl, rfl, rfl, rfl, rfl⟩

theorem follows_congr {stepped after : DownloaderImpl} {begins : Prop}
    (follows : DownloaderImpl.Follows begins downloader stepped)
    (taskCount : after.taskCount = stepped.taskCount) (handler : after.handler = stepped.handler)
    (client : after.client = stepped.client) (task : after.task = stepped.task) :
    DownloaderImpl.Follows begins downloader after := by
  have stages := schedules_of_threads handler client
  constructor
  · rw [taskCount]
    exact follows.counts
  · intro launching
    obtain ⟨stage, stands, launches⟩ := launching_iff.mp launching
    exact follows.launches (launching_iff.mpr ⟨stage, (stages stage).mp stands, launches⟩)
  · intro bounded stage made stands makes
    rw [taskCount]
    exact follows.bounded bounded stage made ((stages stage).mp stands) makes
  · intro free quiet
    rw [task]
    exact follows.free free quiet

/-- The rest of the downloader takes a step of its own. -/
theorem Final.steps {stepped : DownloaderImpl} (final : stoppable.Final)
    (reached : ∀ task, DownloadTask.Reached (stoppable.downloader.Touches event task)
      (stoppable.downloader.Schedules .creating ∧ task = stoppable.downloader.taskCount)
      (stoppable.downloader.tasks task) (stepped.tasks task))
    (follows : DownloaderImpl.Follows
      (stoppable.downloader.Begins event) stoppable.downloader stepped)
    (downloader : ∃ running, after.downloader = discard running stepped)
    (calls : after.calls = stoppable.calls)
    (stopped : after.stopped = true → stoppable.stopped = true)
    (added : after.added = false → stoppable.added = false ∧
      (stoppable.downloader.taskQueue = [] → stepped.taskQueue = []))
    (begins : stoppable.halted = true → ¬ stoppable.downloader.Begins event)
    (waits : ∀ task, stoppable.stopWaits task = true → ¬ stoppable.downloader.GivesUp event task) :
    after.Final := by
  obtain ⟨running, discarded⟩ := downloader
  obtain ⟨queue, tasks, taskCount, handler, client, task⟩ := discard_frame running stepped
  rw [← discarded] at queue tasks taskCount handler client task
  rw [← queue] at added
  refine final.other ?_ (follows_congr follows taskCount handler client task) calls stopped added
    begins waits
  intro id
  rw [tasks]
  exact reached id

theorem final_proceed (network : NetConnType) (expired : Bool) (final : stoppable.Final)
    (clean : stoppable.StopsCleanly (.other (.proceed network expired))) :
    (stoppable.withDownloader (stoppable.proceed network expired)).Final := by
  have begins := fun halted => final.not_begins halted (clean.1 halted)
  have waits := clean.2
  have drains : ∀ lent : Option Nat, stoppable.downloader.taskQueue = [] →
      (({ stoppable.downloader with pendingTaskToRelease := lent }).proceed network
        expired).taskQueue = [] :=
    fun lent empty => @queue_next { stoppable.downloader with pendingTaskToRelease := lent }
      (.proceed network expired) nofun empty
  have keeps : ∀ task, stoppable.stopWaits task = true →
      ¬ stoppable.downloader.GivesUp (.proceed network expired) task := by
    rintro task waiting ⟨rfl, caller, client⟩
    simp only [client] at waits
    rw [waiting] at waits
    cases waits
  have steps : ∀ lent : Option Nat, (stoppable.withDownloader
        { ({ stoppable.downloader with pendingTaskToRelease := lent }).proceed network expired with
          pendingTaskToRelease := stoppable.downloader.pendingTaskToRelease }).Final := by
    intro lent
    have reached := fun task => @reached_next
      { stoppable.downloader with pendingTaskToRelease := lent } (.proceed network expired) task
    have follows := @follows_next
      { stoppable.downloader with pendingTaskToRelease := lent } (.proceed network expired)
    refine final.steps ?_ ?_ ⟨_, rfl⟩ rfl id (fun before => ⟨before, drains lent⟩) begins keeps
    · intro task
      exact reached task
    · exact ⟨follows.counts, follows.launches, follows.bounded, follows.free⟩
  unfold StoppableDownloader.proceed
  split
  · exact final.steps (reached_next (.proceed network expired))
      (follows_next (.proceed network expired)) ⟨_, rfl⟩ rfl id
      (fun before => ⟨before, drains _⟩) begins keeps
  · split
    · exact steps _
    · exact final.steps (reached_next (.proceed network expired))
        (follows_next (.proceed network expired)) ⟨_, rfl⟩ rfl id
        (fun before => ⟨before, drains _⟩) begins keeps

theorem final_other (event : DownloaderEvent) (final : stoppable.Final)
    (clean : stoppable.StopsCleanly (.other event)) : (stoppable.other event).Final := by
  have steps : ∀ after : StoppableDownloader,
      (∃ running, after.downloader = discard running (stoppable.downloader.next event)) →
      after.calls = stoppable.calls →
      (after.stopped = true → stoppable.stopped = true) →
      (after.added = false → stoppable.added = false ∧
        ∀ url outputPath config, event ≠ .addFileTask url outputPath config) →
      (∀ task, stoppable.stopWaits task = true → ¬ stoppable.downloader.GivesUp event task) →
      after.Final := by
    intro after downloader calls stopped added waits
    refine final.steps (reached_next event) (follows_next event) downloader calls stopped ?_
      (fun halted => final.not_begins halted (clean.1 halted)) waits
    intro now
    obtain ⟨before, adds⟩ := added now
    exact ⟨before, queue_next adds⟩
  cases event with
  | start caller network =>
    simp only [StoppableDownloader.other]
    split
    · exact steps _ ⟨true, rfl⟩ rfl nofun (fun before => ⟨before, nofun⟩) (fun _ _ => id)
    · exact steps _ ⟨_, rfl⟩ rfl id (fun before => ⟨before, nofun⟩) (fun _ _ => id)
  | proceed network expired => exact final_proceed network expired final clean
  | cancelWaited task expired =>
    simp only [StoppableDownloader.other]
    split
    · exact final
    · rename_i unwaited
      refine steps _ ⟨_, rfl⟩ rfl id (fun before => ⟨before, nofun⟩) ?_
      rintro other waiting ⟨_, rfl⟩
      exact unwaited waiting
  | addFileTask url outputPath config => exact steps _ ⟨_, rfl⟩ rfl id nofun (fun _ _ => id)
  | pause caller | resume caller network | handle network | work task execution | deliver =>
    exact steps _ ⟨_, rfl⟩ rfl id (fun before => ⟨before, nofun⟩) (fun _ _ => id)

theorem Final.called (final : stoppable.Final) (releases : Bool)
    (queue : downloader.taskQueue = stoppable.downloader.taskQueue)
    (tasks : downloader.tasks = stoppable.downloader.tasks)
    (taskCount : downloader.taskCount = stoppable.downloader.taskCount)
    (handler : downloader.handler = stoppable.downloader.handler)
    (client : downloader.client = stoppable.downloader.client)
    (task : downloader.task = stoppable.downloader.task) :
    Final { stoppable with
      downloader := downloader, calls := stoppable.calls ++ [{ releases := releases }] } := by
  have stages := schedules_of_threads handler client
  have earlier : ∀ (index : Nat) (call : StopCall),
      (stoppable.calls ++ [({ releases := releases } : StopCall)])[index]? = some call →
        stoppable.calls[index]? = some call ∨ call = { releases := releases } := by
    intro index call found
    rcases Nat.lt_or_ge index stoppable.calls.length with within | beyond
    · rw [List.getElem?_append_left within] at found
      exact .inl found
    · rw [List.getElem?_append_right beyond] at found
      exact .inr (List.mem_singleton.mp (List.mem_of_getElem? found))
  constructor
  · intro id beyond
    rw [taskCount] at beyond
    rw [tasks]
    exact final.unmade id beyond
  · intro stage id stands
    rw [taskCount]
    exact final.bounded stage id ((stages stage).mp stands)
  · intro now
    have was : stoppable.halted = true := by
      simpa [halted, StopCall.past] using now
    obtain ⟨launching, free⟩ := final.quiet was
    refine ⟨?_, task.trans free⟩
    rw [← Bool.not_eq_true, launching_iff] at launching ⊢
    rintro ⟨stage, stands, launches⟩
    exact launching ⟨stage, (stages stage).mp stands, launches⟩
  · intro now refilled
    have was : stoppable.halted = true := by
      simpa [halted, StopCall.past] using now
    rw [queue]
    refine final.drained was ?_
    simpa [StoppableDownloader.refilled, StopCall.clears] using refilled
  · intro index call found id active
    rw [tasks] at active ⊢
    rcases earlier index call found with before | rfl
    · exact final.covered index call before id active
    · trivial
  · intro first second one other atFirst atSecond has too
    rcases earlier first one atFirst with before | rfl
    · rcases earlier second other atSecond with early | rfl
      · exact final.single first second one other before early has too
      · exact absurd rfl too
    · exact absurd rfl has
  · intro index call found outside
    rcases earlier index call found with before | rfl
    · exact final.untaken index call before outside
    · rfl
  · intro now id
    rw [tasks]
    exact final.final now id

theorem final_next (event : StoppableEvent) (final : stoppable.Final)
    (clean : stoppable.StopsCleanly event) : (stoppable.next event).Final := by
  cases event with
  | other event => exact final_other event final clean
  | cancel =>
    simp only [next, cancel]
    split
    · exact final
    · split
      · exact final
      · exact final.called false rfl rfl rfl rfl rfl rfl
  | release => exact final.called true rfl rfl rfl rfl rfl rfl
  | goesOn index expired => exact final_goesOn index expired final clean
  | handleTaskCanceled =>
    simp only [next, handleTaskCanceled]
    split
    · exact final
    · exact @Final.other stoppable _ .deliver final (fun _ => .same)
        (follows_same rfl (fun _ => .inl) (.inl rfl)) rfl id (fun before => ⟨before, id⟩)
        (fun _ => id)
        (fun _ _ => id)
  | destroy task =>
    simp only [next, destroy]
    split
    · exact final
    · exact @Final.other stoppable _ .deliver final (fun _ => reached_onTask fun _ => trivial)
        (follows_same rfl (fun _ => .inl) (.inl rfl)) rfl id (fun before => ⟨before, id⟩)
        (fun _ => id)
        (fun _ _ => id)

theorem final_initial : Final {} where
  unmade _ _ := rfl
  bounded _ _ stands := by
    rcases stands with stands | stands <;> cases stands
  quiet halted := by cases halted
  drained _ _ := rfl
  covered _ _ found := by cases found
  single _ _ _ _ found := by cases found
  untaken _ _ found := by cases found
  final stopped := by cases stopped

/-- Once a `Cancel` or `Release` has returned, no task runs or is about to run before the next
`Start`, in the runs in which the stops meet no thread that starts a file. -/
theorem cancel_final (events : List StoppableEvent) (clean : Along next StopsCleanly {} events)
    (stopped : (run next {} events).stopped = true) (task : Nat) :
    ((run next {} events).downloader.tasks task).active = false := by
  have final : (run next {} events).Final :=
    invariant_of_along Final (fun _ event final clean => final_next event final clean) clean
      final_initial
  exact final.final stopped task

def startsFile : List StoppableEvent :=
  [StoppableEvent.other (.addFileTask "http://a/b".toList ['b'] {}), .other (.start 0 .wifi)] ++
    List.replicate 4 (StoppableEvent.other (.proceed .wifi false))

def works (steps : Nat) (execution : Execution) : List StoppableEvent :=
  List.replicate steps (.other (.work 0 execution))

/-- `Cancel` waits for a task that runs, and returns after it has ended. -/
def cancelsRunning : List StoppableEvent :=
  startsFile ++ works 2 .noClient ++ [StoppableEvent.cancel, .goesOn 0 false, .goesOn 0 false] ++
    works 2 (.download [] 0 false) ++ List.replicate 4 (StoppableEvent.goesOn 0 false) ++
    works 2 .noClient ++ [StoppableEvent.handleTaskCanceled]

theorem running_canceled : ((run next {} cancelsRunning).downloader.tasks 0).active = false :=
  cancel_final cancelsRunning (by decide +kernel) (by decide +kernel) 0

/-- The thread of the task has not entered its attempt when `Cancel` comes. -/
def cancelsPreparing : List StoppableEvent :=
  startsFile ++ [StoppableEvent.cancel] ++ List.replicate 5 (StoppableEvent.goesOn 0 false) ++
    works 2 .noClient

/-- Its `Cancel` is refused, and the task runs after the `Cancel` of the downloader. -/
theorem preparing_runs_on : (run next {} cancelsPreparing).stopped = true ∧
      ((run next {} cancelsPreparing).downloader.tasks 0).worker = some .executing ∧
      ((run next {} cancelsPreparing).downloader.tasks 0).active = true := by
  decide +kernel

end StoppableDownloader

end PlayerFramework.Downloader
