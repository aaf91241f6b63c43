import Mathlib.Logic.Function.Basic
import PlayerFramework.Downloader.DownloadTask

/-!
`DownloaderImpl`, which downloads the files of a queue one after the other
(`downloader_impl.cpp`).  Client calls hold `mutex_`, `ProcessNextTaskInQueue` holds
`queueMutex_` until the next file has started, and `taskMutex_` is held for one step at a
time, except while a task that was replaced is destroyed.
-/

namespace PlayerFramework.Downloader

open Transition

inductive NetConnType where
  | unknown
  | cellular
  | wifi
  | bluetooth
  | ethernet
  | vpn
  | none
deriving DecidableEq

def downloadRetOk : Int := 0
def downloadErrorInvalidOperation : Int := -1
def downloadErrorInvalidParam : Int := -2

/-- `DOWNLOAD_ERROR_NETWORK`, an error type that is returned as a code. -/
def downloadErrorNetwork : Int := 1

def minUrlLength : Nat := 10
def maxUrlLength : Nat := 8192
def maxTaskQueueSize : Nat := 100000

def maxQueueSize : Nat := 100

structure DownloadConfig where
  allowWifi : Bool := true
  allowMobileData : Bool := false
deriving DecidableEq

structure QueuedTaskInfo where
  url : List Char
  outputPath : List Char
  config : DownloadConfig
deriving DecidableEq

/-- The messages to the client; the progress is left out. -/
inductive Message where
  | stateChanged (state : DownloadState)
  | completed
  | failed (errorType : DownloadErrorType) (errorCode : Int)
  | fileCompleted
deriving DecidableEq

inductive SchedulerMessage where
  | taskCompleted
  | taskFailed (errorType : DownloadErrorType) (errorCode : Int)
deriving DecidableEq

/-- Where `ProcessNextTaskInQueue` stands.  After `processing` it holds `queueMutex_`; in
`replacing` the destructor of the last task waits for its worker. -/
inductive SchedulingStage where
  | processing
  | creating
  | replacing (old task : Nat)
  | starting (task : Nat)
  | started
deriving DecidableEq

/-- `begun` tells whether `ProcessNextTaskInQueue` took a file. -/
inductive SchedulingResult where
  | goes (stage : SchedulingStage)
  | returns (begun : Bool) (ret : Int)
deriving DecidableEq

/-- Where the scheduler thread stands in a message. -/
inductive HandlerStage where
  | scheduling (stage : SchedulingStage)
  | checking (begun : Bool)
  | notifying
  | clearing (errorType : DownloadErrorType) (errorCode : Int)
  | failing (errorType : DownloadErrorType) (errorCode : Int)
deriving DecidableEq

/-- Where the call that holds `mutex_` stands. -/
inductive ClientStage where
  | starting (stage : SchedulingStage)
  | pausing (task : Nat)
  | resuming (task : Nat)
  | resumed (task : Nat)
  | resumeScheduling (stage : SchedulingStage)
  | resumeChecking (begun : Bool)
  | resumeNotifying
  | releasing (task : Nat) (ret : Int)
deriving DecidableEq

/-- `tasks` are the first `taskCount` tasks made; `completions`, and whether a file has
completed since the last completion message, are history variables. -/
structure DownloaderImpl where
  state : DownloadState := .idle
  tasks : Nat → DownloadTask := fun _ => {}
  taskCount : Nat := 0
  task : Option Nat := none
  pendingTaskToRelease : Option Nat := none
  taskQueue : List QueuedTaskInfo := []
  config : DownloadConfig := {}
  messageQueue : List Message := []
  schedulerQueue : List SchedulerMessage := []
  handler : Option HandlerStage := none
  client : Option (Nat × ClientStage) := none
  returned : List (Nat × Int) := []
  completions : Nat := 0
  unannounced : Bool := false

def validateUrl (url : List Char) : Int :=
  if url = [] ∨ url.length < minUrlLength then downloadErrorInvalidParam
  else if maxUrlLength < url.length then downloadErrorInvalidParam
  else if ¬ ['h', 't', 't', 'p', ':', '/', '/'] <+: url ∧
      ¬ ['h', 't', 't', 'p', 's', ':', '/', '/'] <+: url then downloadErrorInvalidParam
  else downloadRetOk

/-- `IsPathTraversalSafe`: no component of the path is "..". -/
def isPathTraversalSafe (path : List Char) : Bool :=
  (path.splitOn '/').all fun component => component ≠ ['.', '.']

def validateOutputPath (path : List Char) : Int :=
  if path = [] then downloadErrorInvalidParam
  else if ¬ isPathTraversalSafe path then downloadErrorInvalidParam
  else downloadRetOk

def isNetworkAllowDownload (config : DownloadConfig) : NetConnType → Bool
  | .none => false
  | .unknown => false
  | .wifi => config.allowWifi
  | .cellular => config.allowMobileData
  | _ => false

/-- `PostMessage`: a full queue loses its oldest message. -/
def postMessage {α : Type} (queue : List α) (message : α) : List α :=
  (if maxQueueSize ≤ queue.length then queue.tail else queue) ++ [message]

def SchedulingStage.holds : SchedulingStage → Bool
  | .processing => false
  | _ => true

def SchedulingStage.destroys : SchedulingStage → Bool
  | .replacing _ _ => true
  | _ => false

def HandlerStage.scheduling? : HandlerStage → Option SchedulingStage
  | .scheduling stage => some stage
  | _ => none

def ClientStage.scheduling? : ClientStage → Option SchedulingStage
  | .starting stage => some stage
  | .resumeScheduling stage => some stage
  | _ => none

namespace DownloaderImpl

def handlerScheduling (downloader : DownloaderImpl) : Option SchedulingStage :=
  downloader.handler.bind HandlerStage.scheduling?

def clientScheduling (downloader : DownloaderImpl) : Option SchedulingStage :=
  downloader.client.bind fun call => call.2.scheduling?

def queueHeld (downloader : DownloaderImpl) : Bool :=
  downloader.handlerScheduling.any SchedulingStage.holds ||
    downloader.clientScheduling.any SchedulingStage.holds

def taskHeld (downloader : DownloaderImpl) : Bool :=
  downloader.handlerScheduling.any SchedulingStage.destroys ||
    downloader.clientScheduling.any SchedulingStage.destroys

/-- The call that holds `mutex_` has its own reference to this task. -/
def clientRefers (task : Nat) (downloader : DownloaderImpl) : Bool :=
  match downloader.client with
  | some (_, .pausing held) => held == task
  | some (_, .resuming held) => held == task
  | some (_, .resumed held) => held == task
  | _ => false

def onTask (task : Nat) (event : TaskEvent) (downloader : DownloaderImpl) : DownloaderImpl :=
  { downloader with
    tasks := Function.update downloader.tasks task ((downloader.tasks task).next event) }

def notify (message : Message) (downloader : DownloaderImpl) : DownloaderImpl :=
  { downloader with messageQueue := postMessage downloader.messageQueue message }

def notifyCompleted (downloader : DownloaderImpl) : DownloaderImpl :=
  { downloader.notify .completed with
    completions := downloader.completions + 1, unannounced := false }

def postTask (message : SchedulerMessage) (downloader : DownloaderImpl) : DownloaderImpl :=
  { downloader with schedulerQueue := postMessage downloader.schedulerQueue message }

def addFileTask (url outputPath : List Char) (config : DownloadConfig)
    (downloader : DownloaderImpl) : DownloaderImpl × Int :=
  if validateUrl url ≠ downloadRetOk then (downloader, validateUrl url)
  else if validateOutputPath outputPath ≠ downloadRetOk then
    (downloader, validateOutputPath outputPath)
  else if maxTaskQueueSize ≤ downloader.taskQueue.length then
    (downloader, downloadErrorInvalidOperation)
  else
    ({ downloader with taskQueue := downloader.taskQueue ++ [⟨url, outputPath, config⟩] },
      downloadRetOk)

def setConfig (config : DownloadConfig) (downloader : DownloaderImpl) : DownloaderImpl :=
  if downloader.state ≠ .idle then downloader else { downloader with config := config }

def onStateChanged (state : DownloadState) (downloader : DownloaderImpl) : DownloaderImpl :=
  if state = .running ∨ state = .paused ∨ state = .canceled then
    ({ downloader with state := state }).notify (.stateChanged state)
  else { downloader with state := state }

def onCompleted (downloader : DownloaderImpl) : DownloaderImpl :=
  match downloader.task with
  | none => downloader
  | some task =>
    ({ downloader with
      pendingTaskToRelease := some task
      task := none
      unannounced := true }).postTask .taskCompleted

def onFailed (errorType : DownloadErrorType) (errorCode : Int) (downloader : DownloaderImpl) :
    DownloaderImpl :=
  if isNetworkConnectionError errorCode then
    ({ downloader with state := .paused }).notify (.stateChanged .paused)
  else
    match downloader.task with
    | none => downloader
    | some task =>
      ({ downloader with
        pendingTaskToRelease := some task
        task := none }).postTask (.taskFailed errorType errorCode)

def report (callback : TaskCallback) (downloader : DownloaderImpl) : DownloaderImpl :=
  match callback with
  | .onStateChanged state => downloader.onStateChanged state
  | .onCompleted => downloader.onCompleted
  | .onFailed errorType errorCode => downloader.onFailed errorType errorCode

/-- The report takes `taskMutex_`, and another thread holds it. -/
def reportWaits (callback : TaskCallback) (downloader : DownloaderImpl) : Bool :=
  match callback with
  | .onStateChanged _ => false
  | .onCompleted => downloader.taskHeld
  | .onFailed _ errorCode => !isNetworkConnectionError errorCode && downloader.taskHeld

def work (task : Nat) (execution : Execution) (downloader : DownloaderImpl) : DownloaderImpl :=
  match (downloader.tasks task).callback with
  | none => downloader.onTask task (.work execution)
  | some callback =>
    if downloader.reportWaits callback then downloader
    else (downloader.onTask task (.work execution)).report callback

/-- `ProcessNextTaskInQueue` up to `InnerStart`. -/
def processNextTaskInQueue (network : NetConnType) (downloader : DownloaderImpl) :
    DownloaderImpl × SchedulingResult :=
  match downloader.taskQueue with
  | [] => (downloader, .returns false downloadRetOk)
  | taskInfo :: rest =>
    if ¬ isNetworkAllowDownload downloader.config network then
      (downloader, .returns false downloadErrorNetwork)
    else
      ({ downloader with taskQueue := rest, config := taskInfo.config, state := .preparing },
        .goes .creating)

/-- `InnerStart` makes the task; the last reference to the one before it may go. -/
def createTask (downloader : DownloaderImpl) : DownloaderImpl × SchedulingResult :=
  let task := downloader.taskCount
  let created := { downloader with
    tasks := Function.update downloader.tasks task {}
    taskCount := task + 1
    task := some task }
  match downloader.task with
  | none => (created, .goes (.starting task))
  | some old =>
    if downloader.clientRefers old then (created, .goes (.starting task))
    else (created.onTask old .cancel, .goes (.replacing old task))

/-- Nothing is left for the destructor of a task to wait for. -/
def taskEnded (task : Nat) (downloader : DownloaderImpl) : Bool :=
  (downloader.tasks task).worker = none ∧ Waiter.cancel ∉ (downloader.tasks task).waiters

/-- The next step of `ProcessNextTaskInQueue` in a thread that stands there. -/
def schedule (network : NetConnType) (stage : SchedulingStage) (downloader : DownloaderImpl) :
    DownloaderImpl × SchedulingResult :=
  match stage with
  | .processing =>
    if downloader.queueHeld then (downloader, .goes .processing)
    else downloader.processNextTaskInQueue network
  | .creating => downloader.createTask
  | .replacing old task =>
    if downloader.taskEnded old then (downloader, .goes (.starting task))
    else (downloader, .goes (.replacing old task))
  | .starting task => (downloader.onTask task .start, .goes .started)
  | .started => ({ downloader with state := .running }, .returns true downloadRetOk)

/-- `HandleTaskCompleted` and `HandleTaskFailed` up to their next lock. -/
def takeMessage (message : SchedulerMessage) (downloader : DownloaderImpl) : DownloaderImpl :=
  match message with
  | .taskCompleted =>
    let released := { downloader with
      pendingTaskToRelease := none, handler := some (.scheduling .processing) }
    if downloader.pendingTaskToRelease.isSome then released.notify .fileCompleted else released
  | .taskFailed errorType errorCode =>
    { downloader with
      pendingTaskToRelease := none, handler := some (.clearing errorType errorCode) }

def handle (network : NetConnType) (downloader : DownloaderImpl) : DownloaderImpl :=
  match downloader.handler with
  | none =>
    match downloader.schedulerQueue with
    | [] => downloader
    | message :: rest =>
      if downloader.taskHeld then downloader
      else ({ downloader with schedulerQueue := rest }).takeMessage message
  | some (.scheduling stage) =>
    match downloader.schedule network stage with
    | (after, .goes stage) => { after with handler := some (.scheduling stage) }
    | (after, .returns begun ret) =>
      if ret ≠ downloadRetOk then
        ({ after with state := .paused, handler := none }).notify (.stateChanged .paused)
      else { after with handler := some (.checking begun) }
  | some (.checking _) =>
    if downloader.taskHeld then downloader
    else
      match downloader.task with
      | none => { downloader with state := .completed, handler := some .notifying }
      | some _ => { downloader with handler := none }
  | some .notifying => ({ downloader with handler := none }).notifyCompleted
  | some (.clearing errorType errorCode) =>
    if downloader.queueHeld then downloader
    else { downloader with taskQueue := [], handler := some (.failing errorType errorCode) }
  | some (.failing errorType errorCode) =>
    ({ downloader with
      state := .failed, handler := none, unannounced := false }).notify
        (.failed errorType errorCode)

def finish (caller : Nat) (ret : Int) (downloader : DownloaderImpl) : DownloaderImpl :=
  { downloader with client := none, returned := downloader.returned ++ [(caller, ret)] }

/-- A call returns and drops its reference, which may be the last one. -/
def letGo (caller task : Nat) (ret : Int) (downloader : DownloaderImpl) : DownloaderImpl :=
  if downloader.task = some task ∨ downloader.pendingTaskToRelease = some task then
    downloader.finish caller ret
  else
    { downloader.onTask task .cancel with client := some (caller, .releasing task ret) }

def start (caller : Nat) (network : NetConnType) (downloader : DownloaderImpl) : DownloaderImpl :=
  if downloader.state ≠ .idle ∧ downloader.state ≠ .completed then
    downloader.finish caller downloadErrorInvalidOperation
  else if ¬ isNetworkAllowDownload downloader.config network then
    downloader.finish caller downloadErrorNetwork
  else { downloader with client := some (caller, .starting .processing) }

def pauseEnds (caller task : Nat) (downloader : DownloaderImpl) : DownloaderImpl :=
  if (downloader.tasks task).state = .paused then
    (({ downloader with state := .paused }).notify (.stateChanged .paused)).letGo
      caller task downloadRetOk
  else
    (({ downloader with state := .failed }).notify (.stateChanged .failed)).letGo
      caller task downloadErrorInvalidOperation

def pause (caller : Nat) (downloader : DownloaderImpl) : DownloaderImpl :=
  if downloader.state ≠ .running then downloader.finish caller downloadErrorInvalidOperation
  else
    match downloader.task with
    | none =>
      (({ downloader with state := .paused }).notify (.stateChanged .paused)).finish
        caller downloadRetOk
    | some task =>
      if (downloader.tasks task).state ≠ .running then
        (({ downloader with state := .failed }).notify (.stateChanged .failed)).finish
          caller downloadErrorInvalidOperation
      else { downloader.onTask task .pause with client := some (caller, .pausing task) }

def resume (caller : Nat) (network : NetConnType) (downloader : DownloaderImpl) : DownloaderImpl :=
  if downloader.state ≠ .paused then downloader.finish caller downloadErrorInvalidOperation
  else if ¬ isNetworkAllowDownload downloader.config network then
    downloader.finish caller downloadErrorNetwork
  else
    match downloader.task with
    | none => { downloader with client := some (caller, .resumeScheduling .processing) }
    | some task =>
      if (downloader.tasks task).state ≠ .paused then
        (({ downloader with state := .failed }).notify
          (.failed .internal downloadErrorInvalidOperation)).finish
            caller downloadErrorInvalidOperation
      else { downloader.onTask task .resume with client := some (caller, .resuming task) }

/-- The next step of the call that holds `mutex_`; `expired` ends a wait in vain. -/
def proceed (network : NetConnType) (expired : Bool) (downloader : DownloaderImpl) :
    DownloaderImpl :=
  match downloader.client with
  | none => downloader
  | some (caller, .starting stage) =>
    match downloader.schedule network stage with
    | (after, .goes stage) => { after with client := some (caller, .starting stage) }
    | (after, .returns _ ret) => after.finish caller ret
  | some (caller, .pausing task) =>
    if DownloadTask.finished .pause (downloader.tasks task).state then
      (downloader.onTask task (.wake .pause)).pauseEnds caller task
    else if expired then (downloader.onTask task (.expire .pause)).pauseEnds caller task
    else downloader
  | some (caller, .resuming task) =>
    if (downloader.tasks task).worker ≠ none then downloader
    else { downloader.onTask task .join with client := some (caller, .resumed task) }
  | some (caller, .resumed task) =>
    (({ downloader with state := .running }).notify (.stateChanged .running)).letGo
      caller task downloadRetOk
  | some (caller, .resumeScheduling stage) =>
    match downloader.schedule network stage with
    | (after, .goes stage) => { after with client := some (caller, .resumeScheduling stage) }
    | (after, .returns begun ret) =>
      if ret ≠ downloadRetOk then after.finish caller ret
      else { after with client := some (caller, .resumeChecking begun) }
  | some (caller, .resumeChecking _) =>
    if downloader.taskHeld then downloader
    else
      match downloader.task with
      | none => { downloader with state := .completed, client := some (caller, .resumeNotifying) }
      | some _ => downloader.finish caller downloadRetOk
  | some (caller, .resumeNotifying) => downloader.notifyCompleted.finish caller downloadRetOk
  | some (caller, .releasing task ret) =>
    if downloader.taskEnded task then downloader.finish caller ret else downloader

/-- The end of the wait in the `Cancel` of a destructor. -/
def cancelWaited (task : Nat) (expired : Bool) (downloader : DownloaderImpl) : DownloaderImpl :=
  if DownloadTask.finished .cancel (downloader.tasks task).state then
    downloader.onTask task (.wake .cancel)
  else if expired then downloader.onTask task (.expire .cancel)
  else downloader

end DownloaderImpl

inductive DownloaderEvent where
  | addFileTask (url outputPath : List Char) (config : DownloadConfig)
  | start (caller : Nat) (network : NetConnType)
  | pause (caller : Nat)
  | resume (caller : Nat) (network : NetConnType)
  | proceed (network : NetConnType) (expired : Bool)
  | handle (network : NetConnType)
  | work (task : Nat) (execution : Execution)
  | cancelWaited (task : Nat) (expired : Bool)
  | deliver
deriving DecidableEq

namespace DownloaderImpl

/-- The step function; a call that finds a lock held waits, and is made again. -/
def next (downloader : DownloaderImpl) (event : DownloaderEvent) : DownloaderImpl :=
  match event with
  | .addFileTask url outputPath config =>
    if downloader.queueHeld then downloader
    else (downloader.addFileTask url outputPath config).1
  | .start caller network =>
    if downloader.client.isSome then downloader else downloader.start caller network
  | .pause caller =>
    if downloader.client.isSome ∨ downloader.taskHeld then downloader
    else downloader.pause caller
  | .resume caller network =>
    if downloader.client.isSome ∨ downloader.taskHeld then downloader
    else downloader.resume caller network
  | .proceed network expired => downloader.proceed network expired
  | .handle network => downloader.handle network
  | .work task execution => downloader.work task execution
  | .cancelWaited task expired => downloader.cancelWaited task expired
  | .deliver =>
    if downloader.client.isSome then downloader
    else { downloader with messageQueue := downloader.messageQueue.tail }

end DownloaderImpl

end PlayerFramework.Downloader
