import PlayerFramework.Downloader.DownloaderImpl

/-!
The cases of a step of `DownloaderImpl`.
-/

namespace PlayerFramework.Downloader.DownloaderImpl

variable {downloader : DownloaderImpl}

/-- `ProcessNextTaskInQueue` gets the lock and finds a file that it may download. -/
def takesFile (network : NetConnType) (downloader : DownloaderImpl) : Prop :=
  downloader.queueHeld = false ∧ downloader.taskQueue ≠ [] ∧
    isNetworkAllowDownload downloader.config network = true

/-- `InnerStart` has made a task. -/
def created (downloader : DownloaderImpl) : DownloaderImpl :=
  { downloader with
    tasks := Function.update downloader.tasks downloader.taskCount {}
    taskCount := downloader.taskCount + 1
    task := some downloader.taskCount }

section Cases

variable (network : NetConnType) (downloader : DownloaderImpl)

inductive Scheduled : SchedulingStage → DownloaderImpl → SchedulingResult → Prop
  | waits : downloader.queueHeld = true → Scheduled .processing downloader (.goes .processing)
  | empty : downloader.queueHeld = false → downloader.taskQueue = [] →
      Scheduled .processing downloader (.returns false downloadRetOk)
  | refused : downloader.queueHeld = false → downloader.taskQueue ≠ [] →
      Scheduled .processing downloader (.returns false downloadErrorNetwork)
  | takes {taskInfo : QueuedTaskInfo} {rest : List QueuedTaskInfo} :
      downloader.takesFile network → downloader.taskQueue = taskInfo :: rest →
      Scheduled .processing
        { downloader with taskQueue := rest, config := taskInfo.config, state := .preparing }
        (.goes .creating)
  | creates : (∀ old, downloader.task = some old → downloader.clientRefers old = true) →
      Scheduled .creating downloader.created (.goes (.starting downloader.taskCount))
  | replaces {old : Nat} : downloader.task = some old → downloader.clientRefers old = false →
      Scheduled .creating (downloader.created.onTask old .cancel)
        (.goes (.replacing old downloader.taskCount))
  | destroyed {old task : Nat} : downloader.taskEnded old = true →
      Scheduled (.replacing old task) downloader (.goes (.starting task))
  | destroys {old task : Nat} : downloader.taskEnded old = false →
      Scheduled (.replacing old task) downloader (.goes (.replacing old task))
  | starts {task : Nat} :
    Scheduled (.starting task) (downloader.onTask task .start) (.goes .started)
  | started : Scheduled .started { downloader with state := .running } (.returns true downloadRetOk)

inductive Handled : DownloaderImpl → Prop
  | waits : Handled downloader
  | completed {rest : List SchedulerMessage} {messages : List Message} :
      downloader.handler = none → downloader.schedulerQueue = .taskCompleted :: rest →
      Handled { downloader with
        schedulerQueue := rest, pendingTaskToRelease := none, messageQueue := messages
        handler := some (.scheduling .processing) }
  | failed {errorType : DownloadErrorType} {errorCode : Int} {rest : List SchedulerMessage} :
      downloader.handler = none →
      downloader.schedulerQueue = .taskFailed errorType errorCode :: rest →
      Handled { downloader with
        schedulerQueue := rest, pendingTaskToRelease := none
        handler := some (.clearing errorType errorCode) }
  | goes {stage next : SchedulingStage} {after : DownloaderImpl} :
      downloader.handler = some (.scheduling stage) →
      Scheduled network downloader stage after (.goes next) →
      Handled { after with handler := some (.scheduling next) }
  | pauses {stage : SchedulingStage} {begun : Bool} {ret : Int} {after : DownloaderImpl} :
      downloader.handler = some (.scheduling stage) →
      Scheduled network downloader stage after (.returns begun ret) → ret ≠ downloadRetOk →
      Handled (({ after with state := .paused, handler := none }).notify (.stateChanged .paused))
  | begins {stage : SchedulingStage} {begun : Bool} {ret : Int} {after : DownloaderImpl} :
      downloader.handler = some (.scheduling stage) →
      Scheduled network downloader stage after (.returns begun ret) → ret = downloadRetOk →
      Handled { after with handler := some (.checking begun) }
  | drained {begun : Bool} :
      downloader.handler = some (.checking begun) → downloader.task = none →
      Handled { downloader with state := .completed, handler := some .notifying }
  | checked {begun : Bool} {task : Nat} :
      downloader.handler = some (.checking begun) → downloader.task = some task →
      Handled { downloader with handler := none }
  | notifies : downloader.handler = some .notifying →
      Handled ({ downloader with handler := none }).notifyCompleted
  | clears {errorType : DownloadErrorType} {errorCode : Int} :
      downloader.handler = some (.clearing errorType errorCode) → downloader.queueHeld = false →
      Handled { downloader with taskQueue := [], handler := some (.failing errorType errorCode) }
  | fails {errorType : DownloadErrorType} {errorCode : Int} :
      downloader.handler = some (.failing errorType errorCode) →
      Handled (({ downloader with state := .failed, handler := none, unannounced := false }).notify
          (.failed errorType errorCode))

/-- What a call does that finds its lock free. -/
inductive Called (caller : Nat) : DownloaderImpl → Prop
  | refused {ret : Int} : Called caller (downloader.finish caller ret)
  | stores {state : DownloadState} {message : Message} {ret : Int} :
      state = .paused ∨ state = .failed →
      Called caller ((({ downloader with state := state }).notify message).finish caller ret)
  | schedules {stage : ClientStage} :
      stage = .starting .processing ∨ stage = .resumeScheduling .processing →
      Called caller { downloader with client := some (caller, stage) }
  | pauses {task : Nat} : downloader.task = some task →
      Called caller { downloader.onTask task .pause with client := some (caller, .pausing task) }
  | resumes {task : Nat} : downloader.task = some task →
      Called caller { downloader.onTask task .resume with client := some (caller, .resuming task) }

variable (expired : Bool)

/-- What the call does that holds `mutex_`. -/
inductive Proceeded : DownloaderImpl → Prop
  | waits : Proceeded downloader
  | starting {caller : Nat} {stage next : SchedulingStage} {after : DownloaderImpl} :
      downloader.client = some (caller, .starting stage) →
      Scheduled network downloader stage after (.goes next) →
      Proceeded { after with client := some (caller, .starting next) }
  | started {caller : Nat} {stage : SchedulingStage} {begun : Bool} {ret : Int}
      {after : DownloaderImpl} :
      downloader.client = some (caller, .starting stage) →
      Scheduled network downloader stage after (.returns begun ret) →
      Proceeded (after.finish caller ret)
  | pauseEnds {caller task : Nat} {event : TaskEvent} :
      downloader.client = some (caller, .pausing task) →
      event = .wake .pause ∨ event = .expire .pause ∧ expired = true →
      Proceeded ((downloader.onTask task event).pauseEnds caller task)
  | joins {caller task : Nat} :
      downloader.client = some (caller, .resuming task) → (downloader.tasks task).worker = none →
      Proceeded { downloader.onTask task .join with client := some (caller, .resumed task) }
  | resumes {caller task : Nat} : downloader.client = some (caller, .resumed task) →
      Proceeded ((({ downloader with state := .running }).notify (.stateChanged .running)).letGo
          caller task downloadRetOk)
  | scheduling {caller : Nat} {stage next : SchedulingStage} {after : DownloaderImpl} :
      downloader.client = some (caller, .resumeScheduling stage) →
      Scheduled network downloader stage after (.goes next) →
      Proceeded { after with client := some (caller, .resumeScheduling next) }
  | fails {caller : Nat} {stage : SchedulingStage} {begun : Bool} {ret : Int}
      {after : DownloaderImpl} :
      downloader.client = some (caller, .resumeScheduling stage) →
      Scheduled network downloader stage after (.returns begun ret) → ret ≠ downloadRetOk →
      Proceeded (after.finish caller ret)
  | begins {caller : Nat} {stage : SchedulingStage} {begun : Bool} {ret : Int}
      {after : DownloaderImpl} :
      downloader.client = some (caller, .resumeScheduling stage) →
      Scheduled network downloader stage after (.returns begun ret) → ret = downloadRetOk →
      Proceeded { after with client := some (caller, .resumeChecking begun) }
  | drained {caller : Nat} {begun : Bool} :
      downloader.client = some (caller, .resumeChecking begun) → downloader.task = none →
      Proceeded { downloader with state := .completed, client := some (caller, .resumeNotifying) }
  | checked {caller task : Nat} {begun : Bool} :
      downloader.client = some (caller, .resumeChecking begun) → downloader.task = some task →
      Proceeded (downloader.finish caller downloadRetOk)
  | notifies {caller : Nat} : downloader.client = some (caller, .resumeNotifying) →
      Proceeded (downloader.notifyCompleted.finish caller downloadRetOk)
  | released {caller task : Nat} {ret : Int} :
      downloader.client = some (caller, .releasing task ret) → downloader.taskEnded task = true →
      Proceeded (downloader.finish caller ret)

end Cases

theorem stands_handler {stage : SchedulingStage}
    (handler : downloader.handler = some (.scheduling stage)) :
    downloader.handlerScheduling = some stage := by
  rw [handlerScheduling, handler]
  rfl

theorem stands_client {stage : SchedulingStage} {call : Nat × ClientStage}
    (client : downloader.client = some call) (scheduling : call.2.scheduling? = some stage) :
    downloader.clientScheduling = some stage := by
  rw [clientScheduling, client]
  exact scheduling

variable (network : NetConnType)

theorem scheduled (stage : SchedulingStage) :
    Scheduled network downloader stage (downloader.schedule network stage).1
      (downloader.schedule network stage).2 := by
  cases stage with
  | processing =>
    simp only [schedule]
    split
    · rename_i held
      exact .waits held
    rename_i free
    rw [Bool.not_eq_true] at free
    unfold processNextTaskInQueue
    split
    · rename_i empty
      exact .empty free empty
    rename_i taskInfo rest queued
    have files : downloader.taskQueue ≠ [] := by
      simp [queued]
    split
    · exact .refused free files
    · rename_i allowed
      exact .takes ⟨free, files, by simpa using allowed⟩ queued
  | creating =>
    simp only [schedule, createTask]
    split
    · rename_i none
      exact .creates (by simp [none])
    rename_i old current
    split
    · rename_i refers
      refine .creates ?_
      intro other same
      rw [current] at same
      cases same
      exact refers
    · rename_i last
      exact .replaces current (by simpa using last)
  | replacing old task =>
    simp only [schedule]
    split
    · rename_i ended
      exact .destroyed ended
    · rename_i running
      exact .destroys (by simpa using running)
  | starting task => exact .starts
  | started => exact .started

theorem handled : Handled network downloader (downloader.handle network) := by
  cases handler : downloader.handler with
  | none =>
    simp only [handle, handler]
    split
    · exact .waits
    rename_i message rest queued
    split
    · exact .waits
    cases message with
    | taskCompleted =>
      simp only [takeMessage]
      split
      · exact .completed handler queued
      · exact .completed handler queued
    | taskFailed errorType errorCode => exact .failed handler queued
  | some stage =>
    cases stage with
    | scheduling stage =>
      have scheduled := @scheduled downloader network stage
      simp only [handle, handler]
      split
      · rename_i result
        rw [result] at scheduled
        exact .goes handler scheduled
      · rename_i result
        rw [result] at scheduled
        split
        · rename_i failed
          exact .pauses handler scheduled failed
        · rename_i succeeded
          exact .begins handler scheduled (not_not.mp succeeded)
    | checking begun =>
      simp only [handle, handler]
      split
      · exact .waits
      split
      · rename_i none
        exact .drained handler none
      · rename_i current
        exact .checked handler current
    | notifying =>
      simp only [handle, handler]
      exact .notifies handler
    | clearing errorType errorCode =>
      simp only [handle, handler]
      split
      · exact .waits
      · rename_i free
        exact .clears handler (by simpa using free)
    | failing errorType errorCode =>
      simp only [handle, handler]
      exact .fails handler

variable (caller : Nat)

theorem called_start (network : NetConnType) :
    Called downloader caller (downloader.start caller network) := by
  unfold start
  split
  · exact .refused
  · split
    · exact .refused
    · exact .schedules (.inl rfl)

theorem called_pause : Called downloader caller (downloader.pause caller) := by
  unfold pause
  split
  · exact .refused
  split
  · exact .stores (.inl rfl)
  · rename_i task current
    split
    · exact .stores (.inr rfl)
    · exact .pauses current

theorem called_resume (network : NetConnType) :
    Called downloader caller (downloader.resume caller network) := by
  unfold resume
  split
  · exact .refused
  split
  · exact .refused
  split
  · exact .schedules (.inr rfl)
  · rename_i task current
    split
    · exact .stores (.inr rfl)
    · exact .resumes current

theorem proceeded (expired : Bool) :
    Proceeded network downloader expired (downloader.proceed network expired) := by
  cases client : downloader.client with
  | none =>
    simp only [proceed, client]
    exact .waits
  | some call =>
    obtain ⟨caller, stage⟩ := call
    cases stage with
    | starting stage =>
      have scheduled := @scheduled downloader network stage
      simp only [proceed, client]
      split
      · rename_i result
        rw [result] at scheduled
        exact .starting client scheduled
      · rename_i result
        rw [result] at scheduled
        exact .started client scheduled
    | pausing task =>
      simp only [proceed, client]
      split
      · exact .pauseEnds client (.inl rfl)
      · split
        · rename_i late
          exact .pauseEnds client (.inr ⟨rfl, late⟩)
        · exact .waits
    | resuming task =>
      simp only [proceed, client]
      split
      · exact .waits
      · rename_i ended
        exact .joins client (not_not.mp ended)
    | resumed task =>
      simp only [proceed, client]
      exact .resumes client
    | resumeScheduling stage =>
      have scheduled := @scheduled downloader network stage
      simp only [proceed, client]
      split
      · rename_i result
        rw [result] at scheduled
        exact .scheduling client scheduled
      · rename_i result
        rw [result] at scheduled
        split
        · rename_i failed
          exact .fails client scheduled failed
        · rename_i succeeded
          exact .begins client scheduled (not_not.mp succeeded)
    | resumeChecking begun =>
      simp only [proceed, client]
      split
      · exact .waits
      split
      · rename_i none
        exact .drained client none
      · rename_i current
        exact .checked client current
    | resumeNotifying =>
      simp only [proceed, client]
      exact .notifies client
    | releasing task ret =>
      simp only [proceed, client]
      split
      · rename_i ended
        exact .released client ended
      · exact .waits

theorem report_same (callback : TaskCallback) :
    (downloader.report callback).taskCount = downloader.taskCount ∧
      (downloader.report callback).taskQueue = downloader.taskQueue ∧
      (downloader.report callback).handler = downloader.handler ∧
      (downloader.report callback).client = downloader.client ∧
      ((downloader.report callback).task = downloader.task ∨
        (downloader.report callback).task = none) := by
  cases callback with
  | onStateChanged state =>
    simp only [report, onStateChanged]
    split <;> exact ⟨rfl, rfl, rfl, rfl, .inl rfl⟩
  | onCompleted =>
    simp only [report, onCompleted]
    split
    · exact ⟨rfl, rfl, rfl, rfl, .inl rfl⟩
    · exact ⟨rfl, rfl, rfl, rfl, .inr rfl⟩
  | onFailed errorType errorCode =>
    simp only [report, onFailed]
    split
    · exact ⟨rfl, rfl, rfl, rfl, .inl rfl⟩
    · split
      · exact ⟨rfl, rfl, rfl, rfl, .inl rfl⟩
      · exact ⟨rfl, rfl, rfl, rfl, .inr rfl⟩

/-- The client's call schedules nothing any more, and nothing else goes on. -/
structure Rests (downloader after : DownloaderImpl) : Prop where
  taskCount : after.taskCount = downloader.taskCount
  taskQueue : after.taskQueue = downloader.taskQueue
  task : after.task = downloader.task
  handler : after.handler = downloader.handler
  client : after.clientScheduling = none

theorem rests_letGo {state : DownloadState} {message : Message} (caller task : Nat) (ret : Int) :
    Rests downloader
      ((({ downloader with state := state }).notify message).letGo caller task ret) := by
  unfold letGo
  split <;> exact ⟨rfl, rfl, rfl, rfl, rfl⟩

theorem rests_pauseEnds (caller task : Nat) (event : TaskEvent) :
    Rests downloader ((downloader.onTask task event).pauseEnds caller task) := by
  have told : ∀ after, Rests (downloader.onTask task event) after → Rests downloader after :=
    fun _ rests => { rests with }
  unfold pauseEnds
  split
  · exact told _ (rests_letGo caller task downloadRetOk)
  · exact told _ (rests_letGo caller task downloadErrorInvalidOperation)

end PlayerFramework.Downloader.DownloaderImpl
