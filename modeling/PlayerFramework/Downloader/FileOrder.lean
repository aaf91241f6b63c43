import PlayerFramework.Downloader.StepCases
import PlayerFramework.Downloader.TaskReports

/-!
One file at a time in a `DownloaderImpl`: its task, then the message that it is over, then the
scheduler thread.
-/

namespace PlayerFramework.Downloader

/-- The stages of the scheduler thread before it has made another task. -/
def HandlerStage.deciding : HandlerStage → Bool
  | .scheduling .processing => true
  | .scheduling .creating => true
  | .checking begun => !begun
  | .notifying => true
  | .clearing _ _ => true
  | .failing _ _ => true
  | _ => false

/-- No task is replaced, and the task to start has been made. -/
def SchedulingStage.Fits (taskCount : Nat) : SchedulingStage → Prop
  | .replacing _ _ => False
  | .starting task => task < taskCount
  | _ => True

namespace DownloaderImpl

variable {downloader : DownloaderImpl}

/-- A thread has taken a file off the queue, and its task is not made yet. -/
def creating (downloader : DownloaderImpl) : Prop :=
  downloader.handler = some (.scheduling .creating) ∨ downloader.clientScheduling = some .creating

/-- The queue is empty and no task is active. -/
def Drained (downloader : DownloaderImpl) : Prop :=
  downloader.taskQueue = [] ∧ ¬ downloader.creating ∧
    ∀ task < downloader.taskCount, (downloader.tasks task).state.ended = true

/-- The downloader has let go of its last task, and no message about it is left. -/
def Settled (downloader : DownloaderImpl) : Prop :=
  downloader.task = none ∧ downloader.schedulerQueue = [] ∧ downloader.handler = none

/-- No file is queued when a worker reports its own as completed, none is added while the
scheduler thread concludes, a client begins a file only when nothing is going on, a resumption
without a task finds a file, and a file that a thread has begun is not over before its check. -/
def Undisturbed (downloader : DownloaderImpl) (event : DownloaderEvent) : Prop :=
  match event with
  | .addFileTask _ _ _ =>
    downloader.handler ≠ some (.checking false) ∧ downloader.handler ≠ some .notifying
  | .work task _ =>
    (downloader.tasks task).callback = some (.onStateChanged .completed) → downloader.taskQueue = []
  | .handle _ => downloader.handler = some (.checking true) → downloader.task ≠ none
  | .proceed network _ =>
    match downloader.client with
    | some (_, .starting .processing) => downloader.takesFile network → downloader.Settled
    | some (_, .resumeScheduling .processing) =>
      (downloader.queueHeld = false → downloader.taskQueue ≠ []) ∧
        (downloader.takesFile network → downloader.Settled)
    | some (_, .resumeChecking true) => downloader.task ≠ none
    | _ => True
  | _ => True

instance (downloader : DownloaderImpl) (event : DownloaderEvent) :
    Decidable (downloader.Undisturbed event) := by
  unfold Undisturbed takesFile Settled
  split
  · infer_instance
  · infer_instance
  · infer_instance
  · split <;> infer_instance
  · infer_instance

/-- A task is either the current one or over. -/
structure TasksFit (downloader : DownloaderImpl) : Prop where
  reports : ∀ task, (downloader.tasks task).Reports
  unmade : ∀ task, downloader.taskCount ≤ task → downloader.tasks task = {}
  released : ∀ task < downloader.taskCount, downloader.task ≠ some task →
    (downloader.tasks task).state.ended = true ∧ (downloader.tasks task).Silent

/-- What stands for a file: its task, the message that it is over, or the scheduler thread. -/
def charge (downloader : DownloaderImpl) : Nat :=
  (if downloader.task.isSome then 1 else 0) + downloader.schedulerQueue.length +
    (if downloader.clientScheduling = some .creating then 1 else 0) +
    (if downloader.handler.any HandlerStage.deciding then 1 else 0)

/-- One file at a time, from the queue to the completion message. -/
structure Orderly (downloader : DownloaderImpl) : Prop where
  single : downloader.charge ≤ 1
  owing : downloader.unannounced = true → 0 < downloader.charge ∨ downloader.taskQueue ≠ []
  message : .taskCompleted ∈ downloader.schedulerQueue → downloader.unannounced = true
  concluding : ∀ stage, downloader.handler = some stage →
    stage = .scheduling .processing ∨ stage = .checking false ∨ stage = .notifying →
      downloader.unannounced = true
  empty : downloader.handler = some (.checking false) ∨ downloader.handler = some .notifying →
    downloader.taskQueue = []
  handlerFits : ∀ stage, downloader.handler = some (.scheduling stage) →
    stage.Fits downloader.taskCount
  clientFits : ∀ stage, downloader.clientScheduling = some stage → stage.Fits downloader.taskCount
  resumption : ∀ caller stage, downloader.client = some (caller, stage) →
    stage ≠ .resumeChecking false ∧ stage ≠ .resumeNotifying

/-- What a step does to the state and to the completion messages. -/
structure Sound (before after : DownloaderImpl) : Prop where
  state : after.state = .completed → before.state ≠ .completed → after.Drained
  messages : after.completions = before.completions ∨
    after.completions = before.completions + 1 ∧ before.unannounced = true ∧ after.Drained
  announced : after.Settled → after.Drained → after.unannounced = false

variable {after : DownloaderImpl} {stage : HandlerStage} {task : Nat}

theorem charge_congr (task : after.task = downloader.task)
    (schedulerQueue : after.schedulerQueue = downloader.schedulerQueue)
    (client : after.clientScheduling = downloader.clientScheduling)
    (handler : after.handler.any HandlerStage.deciding =
      downloader.handler.any HandlerStage.deciding) : after.charge = downloader.charge := by
  simp [charge, task, schedulerQueue, client, handler]

theorem charge_pos_handler (handler : downloader.handler = some stage)
    (deciding : stage.deciding = true) : 0 < downloader.charge := by
  have counted : downloader.handler.any HandlerStage.deciding = true := by
    rw [handler]
    exact deciding
  simp only [charge, if_pos counted]
  omega

theorem charge_pos_client (client : downloader.clientScheduling = some .creating) :
    0 < downloader.charge := by
  simp only [charge, if_pos client]
  omega

theorem charge_pos_task (current : downloader.task = some task) : 0 < downloader.charge := by
  simp only [charge, current, Option.isSome_some, if_true]
  omega

theorem announced (orderly : Orderly downloader) (settled : downloader.Settled)
    (drained : downloader.Drained) : downloader.unannounced = false := by
  cases owing : downloader.unannounced with
  | false => rfl
  | true =>
    obtain ⟨task, messages, handler⟩ := settled
    obtain ⟨empty, creating, -⟩ := drained
    rcases orderly.owing owing with charged | files
    · have client : downloader.clientScheduling ≠ some .creating := by
        intro client
        exact creating (.inr client)
      simp [charge, task, messages, handler, client] at charged
    · exact absurd empty files

theorem alone_task (orderly : Orderly downloader) (current : downloader.task = some task) :
    downloader.schedulerQueue = [] ∧ ¬ downloader.creating ∧
      downloader.handler.any HandlerStage.deciding = false := by
  have single := orderly.single
  simp only [charge, current, Option.isSome_some, if_true] at single
  refine ⟨?_, ?_, ?_⟩
  · apply List.eq_nil_of_length_eq_zero
    omega
  · rintro (handler | client)
    · have counted : downloader.handler.any HandlerStage.deciding = true := by
        rw [handler]
        rfl
      rw [if_pos counted] at single
      omega
    · rw [if_pos client] at single
      omega
  · cases deciding : downloader.handler.any HandlerStage.deciding with
    | false => rfl
    | true =>
      rw [if_pos deciding] at single
      omega

theorem alone_deciding (orderly : Orderly downloader) (handler : downloader.handler = some stage)
    (deciding : stage.deciding = true) :
    downloader.task = none ∧ downloader.schedulerQueue = [] ∧
      downloader.clientScheduling ≠ some .creating := by
  have single := orderly.single
  have counted : downloader.handler.any HandlerStage.deciding = true := by
    rw [handler]
    exact deciding
  simp only [charge, if_pos counted] at single
  refine ⟨?_, ?_, ?_⟩
  · cases task : downloader.task with
    | none => rfl
    | some task =>
      rw [task, Option.isSome_some, if_pos rfl] at single
      omega
  · apply List.eq_nil_of_length_eq_zero
    omega
  · intro client
    rw [if_pos client] at single
    omega

theorem alone_message {message : SchedulerMessage} {rest : List SchedulerMessage}
    (orderly : Orderly downloader) (queued : downloader.schedulerQueue = message :: rest) :
    downloader.task = none ∧ rest = [] ∧ downloader.clientScheduling ≠ some .creating := by
  have single := orderly.single
  simp only [charge, queued, List.length_cons] at single
  refine ⟨?_, ?_, ?_⟩
  · cases task : downloader.task with
    | none => rfl
    | some task =>
      rw [task, Option.isSome_some, if_pos rfl] at single
      omega
  · apply List.eq_nil_of_length_eq_zero
    omega
  · intro client
    rw [if_pos client] at single
    omega

theorem alone_client (orderly : Orderly downloader)
    (client : downloader.clientScheduling = some .creating) :
    downloader.task = none ∧ downloader.schedulerQueue = [] ∧
      downloader.handler.any HandlerStage.deciding = false := by
  have single := orderly.single
  simp only [charge, if_pos client] at single
  refine ⟨?_, ?_, ?_⟩
  · cases task : downloader.task with
    | none => rfl
    | some task =>
      rw [task, Option.isSome_some, if_pos rfl] at single
      omega
  · apply List.eq_nil_of_length_eq_zero
    omega
  · cases deciding : downloader.handler.any HandlerStage.deciding with
    | false => rfl
    | true =>
      rw [if_pos deciding] at single
      omega

theorem unmade_next (event : TaskEvent) (others : event ≠ .start) :
    DownloadTask.next {} event = {} := by
  cases event with
  | start => exact absurd rfl others
  | wake waiter | expire waiter => cases waiter <;> rfl
  | _ => rfl

theorem tasksFit_onTask (task : Nat) (event : TaskEvent) (fits : TasksFit downloader)
    (made : event = .start → task < downloader.taskCount) :
    TasksFit (downloader.onTask task event) := by
  constructor
  · intro other
    by_cases same : other = task
    · subst same
      simpa [onTask] using DownloadTask.reports_next event (fits.reports other)
    · simpa [onTask, same] using fits.reports other
  · intro other beyond
    by_cases same : other = task
    · subst same
      have initial : (downloader.tasks other).next event = {} := by
        rw [fits.unmade other beyond]
        apply unmade_next
        intro starts
        exact absurd (made starts) (Nat.not_lt.mpr beyond)
      simpa [onTask] using initial
    · simpa [onTask, same] using fits.unmade other beyond
  · intro other within released
    have before := fits.released other within released
    by_cases same : other = task
    · subst same
      simpa [onTask] using DownloadTask.over_next event (fits.reports other) before.1 before.2
    · simpa [onTask, same] using before

theorem tasksFit_created (fits : TasksFit downloader) (free : downloader.task = none) :
    TasksFit downloader.created := by
  constructor
  · intro other
    by_cases same : other = downloader.taskCount
    · subst same
      simpa [created] using DownloadTask.reports_initial
    · simpa [created, same] using fits.reports other
  · intro other beyond
    have different : other ≠ downloader.taskCount := Nat.ne_of_gt beyond
    simpa [created, different] using fits.unmade other (Nat.le_of_succ_le beyond)
  · intro other within released
    have different : other ≠ downloader.taskCount := by
      rintro rfl
      exact released rfl
    have made : other < downloader.taskCount :=
      Nat.lt_of_le_of_ne (Nat.le_of_lt_succ within) different
    have before := fits.released other made (by simp [free])
    simpa [created, different] using before

theorem reporter_current {callback : TaskCallback} (fits : TasksFit downloader)
    (reports : (downloader.tasks task).callback = some callback) :
    task < downloader.taskCount ∧ downloader.task = some task := by
  have made : task < downloader.taskCount := by
    rcases Nat.lt_or_ge task downloader.taskCount with within | beyond
    · exact within
    · rw [fits.unmade task beyond] at reports
      cases reports
  refine ⟨made, ?_⟩
  by_cases current : downloader.task = some task
  · exact current
  · have silent := (fits.released task made current).2
    rcases silent with worker | worker
    · simp [DownloadTask.callback, worker] at reports
    · simp [DownloadTask.callback, worker] at reports

structure Keeps (before after : DownloaderImpl) : Prop where
  fits : TasksFit after
  orderly : Orderly after
  state : after.state = .completed → before.state ≠ .completed → after.Drained
  messages : after.completions = before.completions ∨
    after.completions = before.completions + 1 ∧ before.unannounced = true ∧ after.Drained

theorem keeps_quiet (fits : TasksFit after) (orderly : Orderly after)
    (state : after.state = downloader.state ∨ after.state ≠ .completed)
    (messages : after.completions = downloader.completions) : Keeps downloader after where
  fits
  orderly
  state completed before := by
    rcases state with same | other
    · exact absurd (same.symm.trans completed) before
    · exact absurd completed other
  messages := .inl messages

theorem Keeps.refl (fits : TasksFit downloader) (orderly : Orderly downloader) :
    Keeps downloader downloader :=
  keeps_quiet fits orderly (.inl rfl) rfl

theorem Orderly.congr (orderly : Orderly downloader) (task : after.task = downloader.task)
    (taskCount : after.taskCount = downloader.taskCount)
    (schedulerQueue : after.schedulerQueue = downloader.schedulerQueue)
    (handler : after.handler = downloader.handler) (client : after.client = downloader.client)
    (taskQueue : after.taskQueue = downloader.taskQueue)
    (unannounced : after.unannounced = downloader.unannounced) : Orderly after := by
  have scheduling : after.clientScheduling = downloader.clientScheduling := by
    simp [clientScheduling, client]
  have charges : after.charge = downloader.charge := by
    apply charge_congr task schedulerQueue scheduling
    rw [handler]
  constructor
  · rw [charges]
    exact orderly.single
  · rw [charges, unannounced, taskQueue]
    exact orderly.owing
  · rw [schedulerQueue, unannounced]
    exact orderly.message
  · rw [handler, unannounced]
    exact orderly.concluding
  · rw [handler, taskQueue]
    exact orderly.empty
  · rw [handler, taskCount]
    exact orderly.handlerFits
  · rw [scheduling, taskCount]
    exact orderly.clientFits
  · rw [client]
    exact orderly.resumption

theorem TasksFit.congr (fits : TasksFit downloader) (tasks : after.tasks = downloader.tasks)
    (taskCount : after.taskCount = downloader.taskCount) (task : after.task = downloader.task) :
    TasksFit after := by
  constructor
  · rw [tasks]
    exact fits.reports
  · rw [tasks, taskCount]
    exact fits.unmade
  · rw [tasks, taskCount, task]
    exact fits.released

theorem tasksFit_release (fits : TasksFit downloader) (current : downloader.task = some task)
    (terminal : (downloader.tasks task).state.ended = true)
    (silent : (downloader.tasks task).Silent) (tasks : after.tasks = downloader.tasks)
    (taskCount : after.taskCount = downloader.taskCount) : TasksFit after := by
  constructor
  · rw [tasks]
    exact fits.reports
  · rw [tasks, taskCount]
    exact fits.unmade
  intro other within _
  rw [taskCount] at within
  rw [tasks]
  by_cases same : downloader.task = some other
  · rw [current] at same
    cases same
    exact ⟨terminal, silent⟩
  · exact fits.released other within same

theorem orderly_post (message : SchedulerMessage) (orderly : Orderly downloader)
    (current : downloader.task = some task) (gone : after.task = none)
    (taskCount : after.taskCount = downloader.taskCount)
    (posted : after.schedulerQueue = postMessage downloader.schedulerQueue message)
    (handler : after.handler = downloader.handler) (client : after.client = downloader.client)
    (taskQueue : after.taskQueue = downloader.taskQueue)
    (unannounced : after.unannounced = downloader.unannounced ∨ after.unannounced = true)
    (marks : message = .taskCompleted → after.unannounced = true) : Orderly after := by
  obtain ⟨none, creating, deciding⟩ := alone_task orderly current
  have scheduling : after.clientScheduling = downloader.clientScheduling := by
    simp [clientScheduling, client]
  have queued : after.schedulerQueue = [message] := by
    rw [posted, none]
    rfl
  have charged : after.charge = 1 := by
    simp only [charge, gone, queued, handler, scheduling, deciding]
    rw [if_neg (fun makes => creating (.inr makes))]
    rfl
  constructor
  · omega
  · intro _
    omega
  · intro member
    rw [queued, List.mem_singleton] at member
    exact marks member.symm
  · intro stage running first
    rw [handler] at running
    have concluded := orderly.concluding stage running first
    rcases unannounced with same | marked
    · rw [same]
      exact concluded
    · exact marked
  · rw [handler, taskQueue]
    exact orderly.empty
  · rw [handler, taskCount]
    exact orderly.handlerFits
  · rw [scheduling, taskCount]
    exact orderly.clientFits
  · rw [client]
    exact orderly.resumption

theorem orderly_onTask (task : Nat) (event : TaskEvent) (orderly : Orderly downloader) :
    Orderly (downloader.onTask task event) :=
  orderly.congr rfl rfl rfl rfl rfl rfl rfl

theorem drained_report (execution : Execution) (fits : TasksFit downloader)
    (orderly : Orderly downloader)
    (reported : (downloader.tasks task).callback = some (.onStateChanged .completed))
    (empty : downloader.taskQueue = []) :
    (downloader.onTask task (.work execution)).Drained := by
  obtain ⟨-, current⟩ := reporter_current fits reported
  obtain ⟨-, creating, -⟩ := alone_task orderly current
  refine ⟨empty, creating, ?_⟩
  intro other within
  by_cases same : other = task
  · subst same
    have completed := DownloadTask.completed_report execution (fits.reports other) reported
    simp [onTask, DownloadTask.next, completed, DownloadState.ended]
  · have released : downloader.task ≠ some other := by
      rw [current]
      rintro ⟨⟩
      exact same rfl
    simpa [onTask, same] using (fits.released other within released).1

theorem keeps_work (task : Nat) (execution : Execution) (fits : TasksFit downloader)
    (orderly : Orderly downloader) (undisturbed : Undisturbed downloader (.work task execution)) :
    Keeps downloader (downloader.work task execution) := by
  have fitsWorked : TasksFit (downloader.onTask task (.work execution)) := by
    apply tasksFit_onTask task (.work execution) fits
    intro starts
    cases starts
  have orderlyWorked := orderly_onTask task (.work execution) orderly
  unfold work
  split
  · exact keeps_quiet fitsWorked orderlyWorked (.inl rfl) rfl
  rename_i callback reported
  split
  · exact Keeps.refl fits orderly
  obtain ⟨-, current⟩ := reporter_current fits reported
  have last (final : callback.final = true) :=
    DownloadTask.final_report execution (fits.reports task) reported final
  have worked : (downloader.onTask task (.work execution)).tasks task =
      (downloader.tasks task).work execution := by
    simp [onTask, DownloadTask.next]
  cases callback with
  | onStateChanged state =>
    have kept : TasksFit ((downloader.onTask task (.work execution)).onStateChanged state) ∧
        Orderly ((downloader.onTask task (.work execution)).onStateChanged state) := by
      unfold onStateChanged
      split
      · exact ⟨fitsWorked.congr rfl rfl rfl, orderlyWorked.congr rfl rfl rfl rfl rfl rfl rfl⟩
      · exact ⟨fitsWorked.congr rfl rfl rfl, orderlyWorked.congr rfl rfl rfl rfl rfl rfl rfl⟩
    constructor
    · exact kept.1
    · exact kept.2
    · intro completed _
      have same : state = .completed := by
        simp only [report, onStateChanged] at completed
        split at completed <;> exact completed
      subst same
      exact drained_report execution fits orderly reported (undisturbed reported)
    · left
      simp only [report, onStateChanged]
      split <;> rfl
  | onCompleted =>
    obtain ⟨terminal, silent⟩ := last rfl
    have currentWorked : (downloader.onTask task (.work execution)).task = some task :=
      current
    simp only [report, onCompleted, currentWorked]
    apply keeps_quiet
    · apply tasksFit_release fitsWorked currentWorked
      · rwa [worked]
      · rwa [worked]
      · rfl
      · rfl
    · apply orderly_post .taskCompleted orderlyWorked currentWorked
      · rfl
      · rfl
      · rfl
      · rfl
      · rfl
      · rfl
      · exact .inr rfl
      · exact fun _ => rfl
    · exact .inl rfl
    · rfl
  | onFailed errorType errorCode =>
    have currentWorked : (downloader.onTask task (.work execution)).task = some task :=
      current
    simp only [report, onFailed]
    split
    · apply keeps_quiet
      · exact fitsWorked.congr rfl rfl rfl
      · exact orderlyWorked.congr rfl rfl rfl rfl rfl rfl rfl
      · exact .inr (by simp [notify])
      · rfl
    · rename_i other
      obtain ⟨terminal, silent⟩ := last (by simpa [TaskCallback.final] using other)
      simp only [currentWorked]
      apply keeps_quiet
      · apply tasksFit_release fitsWorked currentWorked
        · rwa [worked]
        · rwa [worked]
        · rfl
        · rfl
      · apply orderly_post (.taskFailed errorType errorCode) orderlyWorked currentWorked
        · rfl
        · rfl
        · rfl
        · rfl
        · rfl
        · rfl
        · exact .inl rfl
        · intro completed
          cases completed
      · exact .inl rfl
      · rfl

theorem fits_mono {stage : SchedulingStage} {first second : Nat} (grows : first ≤ second)
    (fits : stage.Fits first) : stage.Fits second := by
  cases stage with
  | replacing old task => exact fits
  | starting task => exact Nat.lt_of_lt_of_le fits grows
  | _ => trivial

/-- The scheduler thread has let go of a file, or has made a task for it. -/
theorem orderly_passive (orderly : Orderly downloader)
    (idle : ∀ stage, after.handler = some stage → stage.deciding = false)
    (handlerFits : ∀ stage, after.handler = some (.scheduling stage) → stage.Fits after.taskCount)
    (client : after.client = downloader.client)
    (grows : downloader.taskCount ≤ after.taskCount) (single : after.charge ≤ 1)
    (owing : after.unannounced = true → 0 < after.charge ∨ after.taskQueue ≠ [])
    (message : .taskCompleted ∈ after.schedulerQueue → after.unannounced = true) :
    Orderly after where
  single
  owing
  message
  concluding stage running first := by
    have passive := idle stage running
    rcases first with rfl | rfl | rfl <;> cases passive
  empty running := by
    rcases running with running | running
    · cases idle _ running
    · cases idle _ running
  handlerFits
  clientFits stage scheduling := by
    rw [clientScheduling, client] at scheduling
    exact fits_mono grows (orderly.clientFits stage scheduling)
  resumption := client ▸ orderly.resumption

/-- The scheduler thread has a file in its hands. -/
theorem orderly_deciding (orderly : Orderly downloader) (handler : after.handler = some stage)
    (deciding : stage.deciding = true) (task : after.task = none)
    (messages : after.schedulerQueue = []) (client : after.client = downloader.client)
    (others : downloader.clientScheduling ≠ some .creating)
    (taskCount : after.taskCount = downloader.taskCount)
    (fits : ∀ made, stage = .scheduling made → made.Fits after.taskCount)
    (concluding : stage = .scheduling .processing ∨ stage = .checking false ∨ stage = .notifying →
      after.unannounced = true)
    (empty : stage = .checking false ∨ stage = .notifying → after.taskQueue = []) :
    Orderly after := by
  have scheduling : after.clientScheduling = downloader.clientScheduling := by
    simp [clientScheduling, client]
  constructor
  · simp [charge, task, messages, scheduling, others, handler, deciding]
  · intro _
    exact .inl (charge_pos_handler handler deciding)
  · intro member
    simp [messages] at member
  · intro running stands
    rw [handler] at stands
    cases stands
    exact concluding
  · rw [handler, Option.some_inj, Option.some_inj]
    exact empty
  · intro made stands
    rw [handler] at stands
    exact fits made (Option.some.inj stands)
  · rw [scheduling, taskCount]
    exact orderly.clientFits
  · rw [client]
    exact orderly.resumption

theorem charge_alone (task : after.task = none) (messages : after.schedulerQueue = [])
    (client : after.client = downloader.client)
    (others : downloader.clientScheduling ≠ some .creating)
    (handler : after.handler.any HandlerStage.deciding = false) : after.charge ≤ 1 := by
  have scheduling : after.clientScheduling ≠ some .creating := by
    simpa only [clientScheduling, client] using others
  simp [charge, task, messages, scheduling, handler]

theorem drained_concluding (fits : TasksFit downloader) (orderly : Orderly downloader)
    (handler : downloader.handler = some stage)
    (concluding : stage = .checking false ∨ stage = .notifying) : downloader.Drained := by
  have deciding : stage.deciding = true := by
    rcases concluding with rfl | rfl <;> rfl
  obtain ⟨task, -, client⟩ := alone_deciding orderly handler deciding
  refine ⟨?_, ?_, ?_⟩
  · apply orderly.empty
    rw [handler]
    rcases concluding with rfl | rfl
    · exact .inl rfl
    · exact .inr rfl
  · rintro (creating | creating)
    · rw [handler] at creating
      cases creating
      rcases concluding with running | running <;> cases running
    · exact client creating
  · intro other within
    exact (fits.released other within (by simp [task])).1

theorem keeps_handle_goes {stage next : SchedulingStage} {network : NetConnType}
    (fits : TasksFit downloader) (orderly : Orderly downloader)
    (handler : downloader.handler = some (.scheduling stage))
    (scheduled : Scheduled network downloader stage after (.goes next)) :
    Keeps downloader { after with handler := some (.scheduling next) } := by
  have stageFits := orderly.handlerFits stage handler
  cases scheduled with
  | waits =>
    refine keeps_quiet (fits.congr rfl rfl rfl) ?_ (.inl rfl) rfl
    exact orderly.congr rfl rfl rfl handler.symm rfl rfl rfl
  | takes _ _ =>
    obtain ⟨task, messages, client⟩ := alone_deciding orderly handler rfl
    refine keeps_quiet (fits.congr rfl rfl rfl) ?_ (.inr (by simp)) rfl
    exact orderly_deciding orderly rfl rfl task messages rfl client rfl
      (by simp [SchedulingStage.Fits]) (by simp) (by simp)
  | creates =>
    obtain ⟨task, messages, client⟩ := alone_deciding orderly handler rfl
    have made := tasksFit_created fits task
    refine keeps_quiet (made.congr rfl rfl rfl) ?_ (.inl rfl) rfl
    refine orderly_passive orderly ?_ ?_ rfl (Nat.le_succ _) ?_ ?_ ?_
    · rintro stage ⟨⟩
      rfl
    · rintro stage ⟨⟩
      exact Nat.lt_succ_self _
    · simp [created, charge, messages, HandlerStage.deciding, clientScheduling] at client ⊢
      simp [client]
    · intro _
      exact .inl (charge_pos_task rfl)
    · intro member
      simp [created, messages] at member
  | replaces current _ =>
    obtain ⟨task, -, -⟩ := alone_deciding orderly handler rfl
    rw [task] at current
    cases current
  | destroyed | destroys => exact stageFits.elim
  | @starts task =>
    have charges : DownloaderImpl.charge { downloader.onTask task .start with
        handler := some (.scheduling .started) } = downloader.charge := by
      refine charge_congr rfl rfl rfl ?_
      rw [handler]
      rfl
    apply keeps_quiet
    · apply TasksFit.congr (tasksFit_onTask task .start fits (fun _ => stageFits)) <;> rfl
    · refine orderly_passive orderly ?_ ?_ rfl (Nat.le_refl _) ?_ ?_ orderly.message
      · rintro stage ⟨⟩
        rfl
      · rintro stage ⟨⟩
        trivial
      · rw [charges]
        exact orderly.single
      · rw [charges]
        exact orderly.owing
    · exact .inl rfl
    · rfl

theorem keeps_handle (network : NetConnType) (fits : TasksFit downloader)
    (orderly : Orderly downloader) (undisturbed : Undisturbed downloader (.handle network)) :
    Keeps downloader (downloader.handle network) := by
  have handled := @handled downloader network
  generalize downloader.handle network = after at handled ⊢
  cases handled with
  | waits => exact Keeps.refl fits orderly
  | completed _ queued =>
    obtain ⟨task, rfl, client⟩ := alone_message orderly queued
    have owing := orderly.message (by rw [queued]; exact List.mem_cons_self ..)
    refine keeps_quiet (fits.congr rfl rfl rfl) ?_ (.inl rfl) rfl
    exact orderly_deciding orderly rfl rfl task rfl rfl client rfl
      (by simp [SchedulingStage.Fits]) (fun _ => owing) (by simp)
  | failed _ queued =>
    obtain ⟨task, rfl, client⟩ := alone_message orderly queued
    refine keeps_quiet (fits.congr rfl rfl rfl) ?_ (.inl rfl) rfl
    exact orderly_deciding orderly rfl rfl task rfl rfl client rfl (by rintro _ ⟨⟩) (by simp)
      (by simp)
  | goes handler scheduled => exact keeps_handle_goes fits orderly handler scheduled
  | pauses handler scheduled failed =>
    cases scheduled with
    | empty | started => exact absurd rfl failed
    | refused _ files =>
      obtain ⟨task, messages, client⟩ := alone_deciding orderly handler rfl
      refine keeps_quiet (fits.congr rfl rfl rfl) ?_ (.inr (by simp [notify])) rfl
      refine orderly_passive orderly (by rintro _ ⟨⟩) (by rintro _ ⟨⟩) rfl (Nat.le_refl _)
        ?_ ?_ orderly.message
      · exact charge_alone task messages rfl client rfl
      · intro _
        exact .inr files
  | begins handler scheduled succeeded =>
    cases scheduled with
    | refused => exact absurd succeeded (by decide)
    | empty _ empty =>
      obtain ⟨task, messages, client⟩ := alone_deciding orderly handler rfl
      refine keeps_quiet (fits.congr rfl rfl rfl) ?_ (.inl rfl) rfl
      exact orderly_deciding orderly rfl rfl task messages rfl client rfl (by rintro _ ⟨⟩)
        (fun _ => orderly.concluding _ handler (.inl rfl)) (fun _ => empty)
    | started =>
      have charges : DownloaderImpl.charge { downloader with
          state := .running, handler := some (.checking true) } = downloader.charge := by
        refine charge_congr rfl rfl rfl ?_
        rw [handler]
        rfl
      refine keeps_quiet (fits.congr rfl rfl rfl) ?_ (.inr (by simp)) rfl
      refine orderly_passive orderly ?_ ?_ rfl (Nat.le_refl _) ?_ ?_ orderly.message
      · rintro stage ⟨⟩
        rfl
      · rintro stage ⟨⟩
      · rw [charges]
        exact orderly.single
      · rw [charges]
        exact orderly.owing
  | @drained begun handler none =>
    cases begun with
    | true => exact absurd none (undisturbed handler)
    | false =>
      have drained := drained_concluding fits orderly handler (.inl rfl)
      obtain ⟨task, messages, client⟩ := alone_deciding orderly handler rfl
      constructor
      · exact fits.congr rfl rfl rfl
      · exact orderly_deciding orderly rfl rfl task messages rfl client rfl (by rintro _ ⟨⟩)
          (fun _ => orderly.concluding _ handler (.inr (.inl rfl)))
          (fun _ => orderly.empty (.inl handler))
      · intro _ _
        refine ⟨drained.1, ?_, drained.2.2⟩
        rintro (running | running)
        · cases running
        · exact client running
      · exact .inl rfl
  | checked handler current =>
    obtain ⟨messages, creating, -⟩ := alone_task orderly current
    have client : downloader.clientScheduling ≠ some .creating := fun makes => creating (.inr makes)
    refine keeps_quiet (fits.congr rfl rfl rfl) ?_ (.inl rfl) rfl
    refine orderly_passive orderly (by rintro _ ⟨⟩) (by rintro _ ⟨⟩) rfl (Nat.le_refl _)
        ?_ ?_ orderly.message
    · simp [charge, messages, clientScheduling] at client ⊢
      simp [client, current]
    · intro _
      exact .inl (charge_pos_task current)
  | notifies handler =>
    have drained := drained_concluding fits orderly handler (.inr rfl)
    obtain ⟨task, messages, client⟩ := alone_deciding orderly handler rfl
    constructor
    · exact fits.congr rfl rfl rfl
    · refine orderly_passive orderly (by rintro _ ⟨⟩) (by rintro _ ⟨⟩) rfl (Nat.le_refl _)
        ?_ (by rintro ⟨⟩) ?_
      · exact charge_alone task messages rfl client rfl
      · intro member
        simp [notifyCompleted, notify, messages] at member
    · intro completed before
      exact absurd completed before
    · right
      refine ⟨rfl, orderly.concluding _ handler (.inr (.inr rfl)), drained.1, ?_, drained.2.2⟩
      rintro (running | running)
      · cases running
      · exact client running
  | clears handler _ =>
    obtain ⟨task, messages, client⟩ := alone_deciding orderly handler rfl
    refine keeps_quiet (fits.congr rfl rfl rfl) ?_ (.inl rfl) rfl
    exact orderly_deciding orderly rfl rfl task messages rfl client rfl (by rintro _ ⟨⟩) (by simp)
      (by simp)
  | fails handler =>
    obtain ⟨task, messages, client⟩ := alone_deciding orderly handler rfl
    refine keeps_quiet (fits.congr rfl rfl rfl) ?_ (.inr (by simp [notify])) rfl
    refine orderly_passive orderly (by rintro _ ⟨⟩) (by rintro _ ⟨⟩) rfl (Nat.le_refl _)
        ?_ (by rintro ⟨⟩) ?_
    · exact charge_alone task messages rfl client rfl
    · intro member
      simp [notify, messages] at member

end DownloaderImpl

end PlayerFramework.Downloader
