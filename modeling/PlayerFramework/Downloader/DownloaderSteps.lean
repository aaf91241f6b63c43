import PlayerFramework.Downloader.FileOrder
import PlayerFramework.Downloader.FileTasks

/-!
What one step of a `DownloaderImpl` does to each of its tasks, and to the threads that schedule.
-/

namespace PlayerFramework.Downloader

open Transition

namespace DownloadTask

/-- What a task may be after some of these events, or anew. -/
inductive Reached (allowed : TaskEvent → Prop) (made : Prop) (first : DownloadTask) :
    DownloadTask → Prop
  | same : Reached allowed made first first
  | anew : made → Reached allowed made first {}
  | next {task : DownloadTask} {event : TaskEvent} :
      Reached allowed made first task → allowed event → Reached allowed made first (task.next event)

theorem Reached.carry {allowed : TaskEvent → Prop} {made : Prop} {first last : DownloadTask}
    (reached : Reached allowed made first last) (kept : DownloadTask → Prop)
    (step : ∀ task event, allowed event → kept task → kept (task.next event))
    (fresh : made → kept {}) (initially : kept first) : kept last := by
  induction reached with
  | same => exact initially
  | anew new => exact fresh new
  | next _ event ih => exact step _ _ event ih

end DownloadTask

def SchedulingStage.launches : SchedulingStage → Bool
  | .creating => true
  | .replacing _ _ => true
  | .starting _ => true
  | _ => false

/-- The task that a thread has made and not yet started. -/
def SchedulingStage.task? : SchedulingStage → Option Nat
  | .replacing _ task => some task
  | .starting task => some task
  | _ => none

namespace DownloaderImpl

variable {downloader : DownloaderImpl}

/-- A thread has taken a file off the queue, and its task has not started. -/
def launching (downloader : DownloaderImpl) : Bool :=
  downloader.handlerScheduling.any SchedulingStage.launches ||
    downloader.clientScheduling.any SchedulingStage.launches

/-- A thread is in one of these stages of `ProcessNextTaskInQueue`. -/
def Schedules (downloader : DownloaderImpl) (stage : SchedulingStage) : Prop :=
  downloader.handlerScheduling = some stage ∨ downloader.clientScheduling = some stage

def GivesUp (downloader : DownloaderImpl) (event : DownloaderEvent) (task : Nat) : Prop :=
  match event with
  | .proceed _ expired => expired = true ∧
    ∃ caller, downloader.client = some (caller, .pausing task)
  | .cancelWaited waited expired => expired = true ∧ waited = task
  | _ => False

def Touches (downloader : DownloaderImpl) (event : DownloaderEvent) (task : Nat) : TaskEvent → Prop
  | .start => downloader.Schedules (.starting task)
  | .resume => downloader.task = some task
  | .expire _ => downloader.GivesUp event task
  | _ => True

open DownloadTask (Reached)

section Steps

variable {allowed : TaskEvent → Prop} {made : Prop} {task : Nat}

theorem reached_onTask {other : Nat} {event : TaskEvent} (may : other = task → allowed event) :
    Reached allowed made (downloader.tasks task) ((downloader.onTask other event).tasks task) := by
  by_cases same : other = task
  · subst same
    simpa [onTask] using Reached.next (.same) (may rfl)
  · simpa [onTask, Ne.symm same] using Reached.same

theorem tasks_report (callback : TaskCallback) :
    (downloader.report callback).tasks = downloader.tasks := by
  cases callback with
  | onStateChanged state =>
    simp only [report, onStateChanged]
    split <;> rfl
  | onCompleted =>
    simp only [report, onCompleted]
    split <;> rfl
  | onFailed errorType errorCode =>
    simp only [report, onFailed]
    split
    · rfl
    · split <;> rfl

theorem reached_scheduled {network : NetConnType} {stage : SchedulingStage}
    {stepped result : DownloaderImpl} {outcome : SchedulingResult}
    (scheduled : Scheduled network downloader stage stepped outcome)
    (tasks : result.tasks = stepped.tasks) (starts : stage = .starting task → allowed .start)
    (cancels : allowed .cancel)
    (makes : stage = .creating → task = downloader.taskCount → made) :
    Reached allowed made (downloader.tasks task) (result.tasks task) := by
  have creates : stage = .creating →
      Reached allowed made (downloader.tasks task) (downloader.created.tasks task) := by
    intro creating
    by_cases new : task = downloader.taskCount
    · subst new
      simpa [created] using Reached.anew (makes creating rfl)
    · simpa [created, new] using Reached.same
  rw [tasks]
  cases scheduled with
  | creates => exact creates rfl
  | @replaces old =>
    by_cases mine : old = task
    · subst mine
      simpa [onTask] using (creates rfl).next cancels
    · simpa [onTask, Ne.symm mine] using creates rfl
  | starts => exact reached_onTask fun same => starts (same ▸ rfl)
  | _ => exact .same

theorem reached_letGo {before : DownloadTask} (caller other : Nat) (ret : Int)
    (reached : Reached allowed made before (downloader.tasks task)) (cancels : allowed .cancel) :
    Reached allowed made before ((downloader.letGo caller other ret).tasks task) := by
  unfold letGo
  split
  · exact reached
  · by_cases same : other = task
    · subst same
      simpa [onTask] using reached.next cancels
    · simpa [onTask, Ne.symm same] using reached

theorem reached_pauseEnds {before : DownloadTask} (caller other : Nat)
    (reached : Reached allowed made before (downloader.tasks task)) (cancels : allowed .cancel) :
    Reached allowed made before ((downloader.pauseEnds caller other).tasks task) := by
  unfold pauseEnds
  split
  · exact reached_letGo caller other _ reached cancels
  · exact reached_letGo caller other _ reached cancels

end Steps

variable (network : NetConnType)

theorem reached_handle (task : Nat) : Reached (downloader.Touches (.handle network) task)
      (downloader.Schedules .creating ∧ task = downloader.taskCount) (downloader.tasks task)
      ((downloader.handle network).tasks task) := by
  have handled := @handled downloader network
  generalize downloader.handle network = after at handled ⊢
  cases handled with
  | goes handler scheduled | pauses handler scheduled _ | begins handler scheduled _ =>
    have stands := stands_handler handler
    exact reached_scheduled scheduled rfl (fun starting => .inl (starting ▸ stands)) trivial
      (fun creating new => ⟨.inl (creating ▸ stands), new⟩)
  | _ => exact .same

theorem reached_proceed (expired : Bool) (task : Nat) :
    Reached (downloader.Touches (.proceed network expired) task)
      (downloader.Schedules .creating ∧ task = downloader.taskCount) (downloader.tasks task)
      ((downloader.proceed network expired).tasks task) := by
  have proceeded := @proceeded downloader network expired
  generalize downloader.proceed network expired = after at proceeded ⊢
  cases proceeded with
  | starting client scheduled | started client scheduled | scheduling client scheduled
  | fails client scheduled _ | begins client scheduled _ =>
    have stands := stands_client client rfl
    exact reached_scheduled scheduled rfl (fun starting => .inr (starting ▸ stands)) trivial
      (fun creating new => ⟨.inr (creating ▸ stands), new⟩)
  | @pauseEnds caller other _ client ended =>
    rcases ended with rfl | ⟨rfl, gaveUp⟩
    · exact reached_pauseEnds caller other (reached_onTask fun _ => trivial) trivial
    · refine reached_pauseEnds caller other (reached_onTask ?_) trivial
      rintro rfl
      exact ⟨gaveUp, caller, client⟩
  | joins => exact reached_onTask fun _ => trivial
  | @resumes caller other => exact reached_letGo caller other _ .same trivial
  | _ => exact .same

theorem reached_called {caller task : Nat} {event : DownloaderEvent} {after : DownloaderImpl}
    (called : Called downloader caller after) :
    Reached (downloader.Touches event task)
      (downloader.Schedules .creating ∧ task = downloader.taskCount) (downloader.tasks task)
      (after.tasks task) := by
  cases called with
  | pauses => exact reached_onTask fun _ => trivial
  | resumes current => exact reached_onTask fun same => same ▸ current
  | _ => exact .same

theorem reached_next (event : DownloaderEvent) (task : Nat) :
    Reached (downloader.Touches event task)
      (downloader.Schedules .creating ∧ task = downloader.taskCount) (downloader.tasks task)
      ((downloader.next event).tasks task) := by
  cases event with
  | addFileTask url outputPath config =>
    simp only [next, addFileTask]
    split
    · exact .same
    split
    · exact .same
    · split
      · exact .same
      · split <;> exact .same
  | start caller network =>
    simp only [next]
    split
    · exact .same
    · exact reached_called (called_start caller network)
  | pause caller =>
    simp only [next]
    split
    · exact .same
    · exact reached_called (called_pause caller)
  | resume caller network =>
    simp only [next]
    split
    · exact .same
    · exact reached_called (called_resume caller network)
  | proceed network expired => exact reached_proceed network expired task
  | handle network => exact reached_handle network task
  | work other execution =>
    simp only [next, work]
    split
    · exact reached_onTask fun _ => trivial
    · split
      · exact .same
      · rw [tasks_report]
        exact reached_onTask fun _ => trivial
  | cancelWaited other expired =>
    simp only [next, cancelWaited]
    split
    · exact reached_onTask fun _ => trivial
    split
    · rename_i gaveUp
      refine reached_onTask ?_
      rintro rfl
      exact ⟨gaveUp, rfl⟩
    · exact .same
  | deliver =>
    simp only [next]
    split <;> exact .same

/-- The event takes a file off the queue. -/
def Begins (downloader : DownloaderImpl) (event : DownloaderEvent) : Prop :=
  match event with
  | .proceed network _ =>
    downloader.clientScheduling = some .processing ∧ downloader.takesFile network
  | .handle network =>
    downloader.handlerScheduling = some .processing ∧ downloader.takesFile network
  | _ => False

instance (downloader : DownloaderImpl) : ∀ event, Decidable (downloader.Begins event)
  | .proceed _ _ | .handle _ => inferInstanceAs (Decidable (_ ∧ _ ∧ _ ∧ _))
  | .addFileTask _ _ _ | .start _ _ | .pause _ | .resume _ _ | .work _ _ | .cancelWaited _ _
  | .deliver => .isFalse id

/-- The tasks that the threads are about to start have been made. -/
def Bounded (downloader : DownloaderImpl) : Prop :=
  ∀ stage task, downloader.Schedules stage → stage.task? = some task → task < downloader.taskCount

/-- What a step does to the threads that schedule, and to the current task. -/
structure Follows (begins : Prop) (downloader after : DownloaderImpl) : Prop where
  counts : downloader.taskCount ≤ after.taskCount
  launches : after.launching = true → downloader.launching = true ∨ begins
  bounded : downloader.Bounded → after.Bounded
  free : downloader.task = none → downloader.launching = false → after.task = none

section Threads

variable {after : DownloaderImpl} {begins : Prop}

theorem launching_iff : downloader.launching = true ↔
    ∃ stage, downloader.Schedules stage ∧ stage.launches = true := by
  rw [launching, Bool.or_eq_true, Option.any_eq_true, Option.any_eq_true]
  constructor
  · rintro (⟨stage, stands, launches⟩ | ⟨stage, stands, launches⟩)
    · exact ⟨stage, .inl stands, launches⟩
    · exact ⟨stage, .inr stands, launches⟩
  · rintro ⟨stage, stands | stands, launches⟩
    · exact .inl ⟨stage, stands, launches⟩
    · exact .inr ⟨stage, stands, launches⟩

theorem follows_same (taskCount : after.taskCount = downloader.taskCount)
    (stages : ∀ stage, after.Schedules stage → downloader.Schedules stage ∨ stage = .processing)
    (task : after.task = downloader.task ∨ after.task = none) :
    Follows begins downloader after := by
  constructor
  · exact Nat.le_of_eq taskCount.symm
  · intro launching
    obtain ⟨stage, stands, launches⟩ := launching_iff.mp launching
    rcases stages stage stands with before | rfl
    · exact .inl (launching_iff.mpr ⟨stage, before, launches⟩)
    · cases launches
  · intro bounded stage made stands makes
    rw [taskCount]
    rcases stages stage stands with before | rfl
    · exact bounded stage made before makes
    · cases makes
  · intro free _
    rcases task with same | gone
    · exact same.trans free
    · exact gone

theorem Scheduled.schedules {network : NetConnType} {stage : SchedulingStage}
    {outcome : SchedulingResult} (scheduled : Scheduled network downloader stage after outcome) :
    after.handlerScheduling = downloader.handlerScheduling ∧
      after.clientScheduling = downloader.clientScheduling := by
  cases scheduled <;> exact ⟨rfl, rfl⟩

theorem follows_scheduled {network : NetConnType} {stage : SchedulingStage}
    {stepped result : DownloaderImpl} {outcome : SchedulingResult}
    (scheduled : Scheduled network downloader stage stepped outcome)
    (stands : downloader.Schedules stage)
    (taskCount : result.taskCount = stepped.taskCount) (task : result.task = stepped.task)
    (stages : ∀ other, result.Schedules other → downloader.Schedules other ∨ outcome = .goes other)
    (begun : stage = .processing → downloader.takesFile network → begins) :
    Follows begins downloader result := by
  have counts := scheduled.tasks.1
  constructor
  · rw [taskCount]
    exact counts
  · intro launching
    obtain ⟨other, now, launches⟩ := launching_iff.mp launching
    rcases stages other now with before | rfl
    · exact .inl (launching_iff.mpr ⟨other, before, launches⟩)
    · cases scheduled with
      | takes takes => exact .inr (begun rfl takes)
      | waits | starts => cases launches
      | _ => exact .inl (launching_iff.mpr ⟨_, stands, rfl⟩)
  · intro bounded other made now makes
    rw [taskCount]
    rcases stages other now with before | rfl
    · exact Nat.lt_of_lt_of_le (bounded other made before makes) counts
    cases scheduled with
    | creates | replaces =>
      cases makes
      exact Nat.lt_succ_self _
    | destroyed | destroys => exact bounded _ made stands makes
    | waits | takes | starts => cases makes
  · intro free quiet
    rw [task]
    cases scheduled with
    | creates | replaces | destroyed | destroys | starts =>
      rw [launching_iff.mpr ⟨_, stands, rfl⟩] at quiet
      cases quiet
    | _ => exact free

end Threads

variable {after : DownloaderImpl}

theorem schedules_of_threads (handler : after.handler = downloader.handler)
    (client : after.client = downloader.client) (stage : SchedulingStage) :
    after.Schedules stage ↔ downloader.Schedules stage := by
  rw [Schedules, handlerScheduling, clientScheduling, handler, client]
  rfl

theorem follows_handle :
    Follows (downloader.Begins (.handle network)) downloader (downloader.handle network) := by
  have handled := @handled downloader network
  generalize downloader.handle network = after at handled ⊢
  cases handled with
  | waits => exact follows_same rfl (fun _ => .inl) (.inl rfl)
  | completed =>
    refine follows_same rfl ?_ (.inl rfl)
    rintro stage (⟨⟨⟩⟩ | stands)
    · exact .inr rfl
    · exact .inl (.inr stands)
  | goes handler scheduled =>
    have stands := stands_handler handler
    refine follows_scheduled scheduled (.inl stands) rfl rfl ?_ fun begun takes =>
      ⟨begun ▸ stands, takes⟩
    rintro other (⟨⟨⟩⟩ | now)
    · exact .inr rfl
    · exact .inl (.inr (scheduled.schedules.2.symm.trans now))
  | pauses handler scheduled _ | begins handler scheduled _ =>
    have stands := stands_handler handler
    refine follows_scheduled scheduled (.inl stands) rfl rfl ?_ fun begun takes =>
      ⟨begun ▸ stands, takes⟩
    rintro other (⟨⟨⟩⟩ | now)
    exact .inl (.inr (scheduled.schedules.2.symm.trans now))
  | failed | drained | checked | notifies | clears | fails =>
    refine follows_same rfl ?_ (.inl rfl)
    rintro stage (⟨⟨⟩⟩ | stands)
    exact .inl (.inr stands)

theorem Rests.follows {begins : Prop} (rests : Rests downloader after) :
    Follows begins downloader after := by
  refine follows_same rests.taskCount ?_ (.inl rests.task)
  rintro stage (stands | stands)
  · rw [handlerScheduling, rests.handler] at stands
    exact .inl (.inl stands)
  · rw [rests.client] at stands
    cases stands

theorem follows_proceed (expired : Bool) :
    Follows (downloader.Begins (.proceed network expired)) downloader
      (downloader.proceed network expired) := by
  have proceeded := @proceeded downloader network expired
  generalize downloader.proceed network expired = after at proceeded ⊢
  cases proceeded with
  | waits => exact follows_same rfl (fun _ => .inl) (.inl rfl)
  | starting client scheduled | scheduling client scheduled =>
    have stands := stands_client client rfl
    refine follows_scheduled scheduled (.inr stands) rfl rfl ?_ fun begun takes =>
      ⟨begun ▸ stands, takes⟩
    rintro other (now | ⟨⟨⟩⟩)
    · exact .inl (.inl (scheduled.schedules.1.symm.trans now))
    · exact .inr rfl
  | started client scheduled | fails client scheduled _ | begins client scheduled _ =>
    have stands := stands_client client rfl
    refine follows_scheduled scheduled (.inr stands) rfl rfl ?_ fun begun takes =>
      ⟨begun ▸ stands, takes⟩
    rintro other (now | ⟨⟨⟩⟩)
    exact .inl (.inl (scheduled.schedules.1.symm.trans now))
  | pauseEnds => exact (rests_pauseEnds _ _ _).follows
  | resumes => exact (rests_letGo _ _ _).follows
  | joins | drained | checked | notifies | released =>
    exact Rests.follows ⟨rfl, rfl, rfl, rfl, rfl⟩

theorem follows_called {caller : Nat} {begins : Prop} (called : Called downloader caller after) :
    Follows begins downloader after := by
  cases called with
  | schedules stage =>
    refine follows_same rfl ?_ (.inl rfl)
    rintro other (before | now)
    · exact .inl (.inl before)
    rcases stage with rfl | rfl
    · cases now
      exact .inr rfl
    · cases now
      exact .inr rfl
  | _ => exact Rests.follows ⟨rfl, rfl, rfl, rfl, rfl⟩

theorem follows_next (event : DownloaderEvent) :
    Follows (downloader.Begins event) downloader (downloader.next event) := by
  cases event with
  | addFileTask url outputPath config =>
    simp only [next, addFileTask]
    split
    · exact follows_same rfl (fun _ => .inl) (.inl rfl)
    split
    · exact follows_same rfl (fun _ => .inl) (.inl rfl)
    · split
      · exact follows_same rfl (fun _ => .inl) (.inl rfl)
      · split <;> exact follows_same rfl (fun _ => .inl) (.inl rfl)
  | start caller network =>
    simp only [next]
    split
    · exact follows_same rfl (fun _ => .inl) (.inl rfl)
    · exact follows_called (called_start caller network)
  | pause caller =>
    simp only [next]
    split
    · exact follows_same rfl (fun _ => .inl) (.inl rfl)
    · exact follows_called (called_pause caller)
  | resume caller network =>
    simp only [next]
    split
    · exact follows_same rfl (fun _ => .inl) (.inl rfl)
    · exact follows_called (called_resume caller network)
  | proceed network expired => exact follows_proceed network expired
  | handle network => exact follows_handle network
  | work task execution =>
    simp only [next, work]
    split
    · exact follows_same rfl (fun _ => .inl) (.inl rfl)
    rename_i callback reported
    split
    · exact follows_same rfl (fun _ => .inl) (.inl rfl)
    · obtain ⟨taskCount, -, handler, client, task⟩ :=
        @report_same (downloader.onTask task (.work execution)) callback
      exact follows_same taskCount
        (fun stage stands => .inl ((schedules_of_threads handler client stage).mp stands)) task
  | cancelWaited task expired =>
    simp only [next, cancelWaited]
    split
    · exact follows_same rfl (fun _ => .inl) (.inl rfl)
    · split <;> exact follows_same rfl (fun _ => .inl) (.inl rfl)
  | deliver =>
    simp only [next]
    split <;> exact follows_same rfl (fun _ => .inl) (.inl rfl)

theorem Scheduled.drained {stage : SchedulingStage} {outcome : SchedulingResult}
    (scheduled : Scheduled network downloader stage after outcome)
    (empty : downloader.taskQueue = []) : after.taskQueue = [] := by
  cases scheduled with
  | takes _ queued =>
    rw [empty] at queued
    cases queued
  | _ => exact empty

theorem queue_called {caller : Nat} (called : Called downloader caller after) :
    after.taskQueue = downloader.taskQueue := by
  cases called <;> rfl

theorem queue_handle (empty : downloader.taskQueue = []) :
    (downloader.handle network).taskQueue = [] := by
  have handled := @handled downloader network
  generalize downloader.handle network = after at handled ⊢
  cases handled with
  | goes _ scheduled | pauses _ scheduled _ | begins _ scheduled _ =>
    exact scheduled.drained network empty
  | clears => rfl
  | _ => exact empty

theorem queue_proceed (expired : Bool) (empty : downloader.taskQueue = []) :
    (downloader.proceed network expired).taskQueue = [] := by
  have proceeded := @proceeded downloader network expired
  generalize downloader.proceed network expired = after at proceeded ⊢
  cases proceeded with
  | starting _ scheduled | scheduling _ scheduled | started _ scheduled | fails _ scheduled _
  | begins _ scheduled _ => exact scheduled.drained network empty
  | pauseEnds => exact (rests_pauseEnds _ _ _).taskQueue.trans empty
  | resumes => exact (rests_letGo _ _ _).taskQueue.trans empty
  | _ => exact empty

/-- Only `AddFileTask` puts files into the queue. -/
theorem queue_next {event : DownloaderEvent}
    (adds : ∀ url outputPath config, event ≠ .addFileTask url outputPath config)
    (empty : downloader.taskQueue = []) : (downloader.next event).taskQueue = [] := by
  cases event with
  | addFileTask => exact absurd rfl (adds _ _ _)
  | start caller network =>
    simp only [next]
    split
    · exact empty
    · exact (queue_called (called_start caller network)).trans empty
  | pause caller =>
    simp only [next]
    split
    · exact empty
    · exact (queue_called (called_pause caller)).trans empty
  | resume caller network =>
    simp only [next]
    split
    · exact empty
    · exact (queue_called (called_resume caller network)).trans empty
  | proceed network expired => exact queue_proceed network expired empty
  | handle network => exact queue_handle network empty
  | work task execution =>
    simp only [next, work]
    split
    · exact empty
    · rename_i callback reported
      split
      · exact empty
      · exact (@report_same (downloader.onTask task (.work execution)) callback).2.1.trans empty
  | cancelWaited task expired =>
    simp only [next, cancelWaited]
    split
    · exact empty
    · split <;> exact empty
  | deliver =>
    simp only [next]
    split <;> exact empty

end DownloaderImpl

end PlayerFramework.Downloader
