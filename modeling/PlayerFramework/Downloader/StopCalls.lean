import PlayerFramework.Downloader.DownloaderImpl

/-!
`Cancel` and `Release` of a `DownloaderImpl`.  Both take their locks one after the other:
`Cancel` holds `mutex_` only while it stores the state, and `Release` never holds it.
-/

namespace PlayerFramework.Downloader

open Transition

namespace DownloadTask

/-- The task runs, or a thread that will run it has been made. -/
def active (task : DownloadTask) : Bool :=
  task.joining ||
    match task.worker with
    | some .entering => task.state = .preparing ∨ task.state = .resuming
    | some .announcing => true
    | some .executing => true
    | some (.executed _) => true
    | _ => false

end DownloadTask

inductive StopStage where
  | taking
  | canceling
  | waiting
  | dropping
  | stopping
  | joining
  | clearing
  | posting
  | leaving
  | destroying
  | returned
deriving DecidableEq

/-- A call of `Cancel`, or of `Release`.  That the `Cancel` of its task was refused or its wait
given up while the task was active is a history variable. -/
structure StopCall where
  releases : Bool
  stage : StopStage := .taking
  localTask : Option Nat := none
  gaveUp : Bool := false
deriving DecidableEq

/-- A `DownloaderImpl` with its calls of `Cancel` and `Release`.  `localPendingTask` is the
reference of `HandleTaskCompleted`, and `stopped` tells whether a `Cancel` or `Release` has
returned since the last `Start`, `added` whether `AddFileTask` has come since one has cleared the
queue. -/
structure StoppableDownloader where
  downloader : DownloaderImpl := {}
  calls : List StopCall := []
  localPendingTask : Option Nat := none
  schedulerRunning : Bool := false
  schedulerThread : Bool := false
  canceledMessages : Nat := 0
  stopped : Bool := false
  added : Bool := false

namespace StopCall

def goesTo (stage : StopStage) (call : StopCall) : StopCall := { call with stage := stage }

def afterCancel (call : StopCall) : StopStage := if call.releases then .dropping else .clearing

end StopCall

namespace StoppableDownloader

/-- A call of `Cancel` or `Release` has its own reference to this task. -/
def stopRefers (task : Nat) (stoppable : StoppableDownloader) : Bool :=
  stoppable.calls.any fun call => call.localTask = some task

/-- `InnerStart` refers to the task that it has made, which is the last one. -/
def innerStartRefers (task taskCount : Nat) : SchedulingStage → Bool
  | .replacing _ made => made == task
  | .starting made => made == task
  | .started => task + 1 == taskCount
  | _ => false

/-- Somebody apart from the calls of `Cancel` and `Release` refers to this task. -/
def refersElsewhere (task : Nat) (stoppable : StoppableDownloader) : Bool :=
  let downloader := stoppable.downloader
  downloader.task = some task || downloader.pendingTaskToRelease = some task ||
    downloader.clientRefers task || stoppable.localPendingTask = some task ||
    downloader.handlerScheduling.any (innerStartRefers task downloader.taskCount) ||
    downloader.clientScheduling.any (innerStartRefers task downloader.taskCount)

def stopWaits (task : Nat) (stoppable : StoppableDownloader) : Bool :=
  stoppable.calls.any fun call => call.localTask = some task && call.stage == .waiting

/-- The task that the call that holds `mutex_` is about to let go. -/
def heldTask (downloader : DownloaderImpl) : Option Nat :=
  match downloader.client with
  | some (_, .pausing task) => some task
  | some (_, .resumed task) => some task
  | _ => none

/-- The next step of the call that holds `mutex_`.  A task that a call of `Cancel` or `Release`
has taken is not destroyed by letting it go, no more than a pending one. -/
def proceed (network : NetConnType) (expired : Bool) (stoppable : StoppableDownloader) :
    DownloaderImpl :=
  match heldTask stoppable.downloader with
  | none => stoppable.downloader.proceed network expired
  | some task =>
    if stoppable.stopRefers task then
      { ({ stoppable.downloader with pendingTaskToRelease := some task }).proceed network
          expired with
        pendingTaskToRelease := stoppable.downloader.pendingTaskToRelease }
    else stoppable.downloader.proceed network expired

/-- Without its thread the scheduler queue takes no messages. -/
def discard (running : Bool) (downloader : DownloaderImpl) : DownloaderImpl :=
  if running then downloader else { downloader with schedulerQueue := [] }

def withDownloader (downloader : DownloaderImpl) (stoppable : StoppableDownloader) :
    StoppableDownloader :=
  { stoppable with downloader := discard stoppable.schedulerRunning downloader }

def starts (caller : Nat) (network : NetConnType) (downloader : DownloaderImpl) : Bool :=
  downloader.client.isNone && (downloader.start caller network).client.isSome

/-- What `HandleTaskCompleted` refers to after a step of the scheduler thread. -/
def pendingAfter (after : DownloaderImpl) (stoppable : StoppableDownloader) : Option Nat :=
  match stoppable.downloader.handler, after.handler with
  | _, none => none
  | none, some (.scheduling _) => stoppable.downloader.pendingTaskToRelease
  | _, _ => stoppable.localPendingTask

/-- A step of the rest of the downloader. -/
def other (event : DownloaderEvent) (stoppable : StoppableDownloader) : StoppableDownloader :=
  match event with
  | .start caller network =>
    if starts caller network stoppable.downloader then
      { stoppable with
        downloader := stoppable.downloader.next event
        schedulerRunning := true
        schedulerThread := stoppable.schedulerThread || !stoppable.schedulerRunning
        stopped := false }
    else stoppable.withDownloader (stoppable.downloader.next event)
  | .addFileTask _ _ _ =>
    { stoppable.withDownloader (stoppable.downloader.next event) with added := true }
  | .proceed network expired => stoppable.withDownloader (stoppable.proceed network expired)
  | .handle _ =>
    let after := stoppable.downloader.next event
    { stoppable.withDownloader after with localPendingTask := stoppable.pendingAfter after }
  | .cancelWaited task _ =>
    if stoppable.stopWaits task then stoppable
    else stoppable.withDownloader (stoppable.downloader.next event)
  | _ => stoppable.withDownloader (stoppable.downloader.next event)

/-- `Cancel` up to the end of its first section. -/
def cancel (stoppable : StoppableDownloader) : StoppableDownloader :=
  if stoppable.downloader.client.isSome then stoppable
  else if stoppable.downloader.state ≠ .preparing ∧ stoppable.downloader.state ≠ .running ∧
      stoppable.downloader.state ≠ .paused then stoppable
  else
    { stoppable with
      downloader := { stoppable.downloader with state := .canceled }
      calls := stoppable.calls ++ [{ releases := false }] }

/-- `Release`, up to where it takes the task. -/
def release (stoppable : StoppableDownloader) : StoppableDownloader :=
  { stoppable with calls := stoppable.calls ++ [{ releases := true }] }

def update (index : Nat) (downloader : DownloaderImpl) (call : StopCall)
    (stoppable : StoppableDownloader) : StoppableDownloader :=
  { stoppable with downloader := downloader, calls := stoppable.calls.set index call }

def returns (index : Nat) (downloader : DownloaderImpl) (call : StopCall)
    (stoppable : StoppableDownloader) : StoppableDownloader :=
  { stoppable.update index downloader
      { call with stage := .returned, localTask := none } with
    stopped := true }

/-- `task->Cancel()`, which waits for `stateMutex_` while `Resume` keeps it. -/
def cancelTask (index task : Nat) (call : StopCall) (stoppable : StoppableDownloader) :
    StoppableDownloader :=
  let downloader := stoppable.downloader
  if (downloader.tasks task).joining then stoppable
  else if (downloader.tasks task).state = .running then
    stoppable.update index (downloader.onTask task .cancel) (call.goesTo .waiting)
  else
    stoppable.update index (downloader.onTask task .cancel)
      { call with stage := call.afterCancel, gaveUp := (downloader.tasks task).active }

/-- The wait of `task->Cancel()`; `expired` ends it in vain. -/
def awaitTask (index task : Nat) (expired : Bool) (call : StopCall)
    (stoppable : StoppableDownloader) : StoppableDownloader :=
  let downloader := stoppable.downloader
  if (downloader.tasks task).joining then stoppable
  else if DownloadTask.finished .cancel (downloader.tasks task).state then
    stoppable.update index (downloader.onTask task (.wake .cancel)) (call.goesTo call.afterCancel)
  else if expired then
    stoppable.update index (downloader.onTask task (.expire .cancel))
      { call with stage := call.afterCancel, gaveUp := true }
  else stoppable

/-- The end of the function: the last reference to a task destroys it. -/
def leave (index : Nat) (call : StopCall) (stoppable : StoppableDownloader) : StoppableDownloader :=
  let downloader :=
    if call.releases then { stoppable.downloader with state := .idle } else stoppable.downloader
  match call.localTask with
  | none => stoppable.returns index downloader call
  | some task =>
    if stoppable.refersElsewhere task then stoppable.returns index downloader call
    else if (downloader.tasks task).joining then stoppable
    else stoppable.update index (downloader.onTask task .cancel) (call.goesTo .destroying)

/-- The next step of a call of `Cancel` or `Release`. -/
def goesOn (index : Nat) (expired : Bool) (stoppable : StoppableDownloader) : StoppableDownloader :=
  let downloader := stoppable.downloader
  match stoppable.calls[index]? with
  | none => stoppable
  | some call =>
    match call.stage with
    | .taking =>
      if downloader.taskHeld then stoppable
      else
        stoppable.update index
          { downloader with pendingTaskToRelease := downloader.task, task := none }
          { call with stage := .canceling, localTask := downloader.task }
    | .canceling =>
      match call.localTask with
      | none => stoppable.update index downloader (call.goesTo call.afterCancel)
      | some task => stoppable.cancelTask index task call
    | .waiting =>
      match call.localTask with
      | none => stoppable
      | some task => stoppable.awaitTask index task expired call
    | .dropping =>
      if downloader.taskHeld then stoppable
      else
        stoppable.update index { downloader with pendingTaskToRelease := none }
          (call.goesTo .stopping)
    | .stopping =>
      { stoppable.update index { downloader with schedulerQueue := [] }
          (call.goesTo (if stoppable.schedulerThread then .joining else .clearing)) with
        schedulerRunning := false
        schedulerThread := false
        canceledMessages := 0 }
    | .joining =>
      if downloader.handler.isSome then stoppable
      else stoppable.update index downloader (call.goesTo .clearing)
    | .clearing =>
      if downloader.queueHeld then stoppable
      else
        { stoppable.update index { downloader with taskQueue := [] }
            (call.goesTo (if call.releases then .leaving else .posting)) with
          added := false }
    | .posting =>
      { stoppable.update index downloader (call.goesTo .leaving) with
        canceledMessages :=
          stoppable.canceledMessages + if stoppable.schedulerRunning then 1 else 0 }
    | .leaving => stoppable.leave index call
    | .destroying =>
      match call.localTask with
      | none => stoppable
      | some task =>
        -- a `Resume` under way keeps `stateMutex_`
        if (downloader.tasks task).joining ∨ ¬ downloader.taskEnded task then stoppable
        else stoppable.returns index downloader call
    | .returned => stoppable

def handleTaskCanceled (stoppable : StoppableDownloader) : StoppableDownloader :=
  if stoppable.canceledMessages = 0 ∨ stoppable.downloader.handler.isSome ∨
      stoppable.downloader.taskHeld then stoppable
  else
    { stoppable with
      downloader :=
        ({ stoppable.downloader with pendingTaskToRelease := none }).notify
          (.stateChanged .canceled)
      canceledMessages := stoppable.canceledMessages - 1 }

/-- The destructor of a task that nobody refers to any more cancels it. -/
def destroy (task : Nat) (stoppable : StoppableDownloader) : StoppableDownloader :=
  if stoppable.refersElsewhere task ∨ stoppable.stopRefers task then stoppable
  else { stoppable with downloader := stoppable.downloader.onTask task .cancel }

end StoppableDownloader

inductive StoppableEvent where
  | other (event : DownloaderEvent)
  | cancel
  | release
  | goesOn (index : Nat) (expired : Bool)
  | handleTaskCanceled
  | destroy (task : Nat)
deriving DecidableEq

namespace StoppableDownloader

/-- The step function; the thread of the destructor of a dropped task may go on at once. -/
def next (stoppable : StoppableDownloader) (event : StoppableEvent) : StoppableDownloader :=
  match event with
  | .other event => stoppable.other event
  | .cancel => stoppable.cancel
  | .release => stoppable.release
  | .goesOn index expired => stoppable.goesOn index expired
  | .handleTaskCanceled => stoppable.handleTaskCanceled
  | .destroy task => stoppable.destroy task

end StoppableDownloader

end PlayerFramework.Downloader
