import PlayerFramework.Transition

/-!
`DownloadTask`, the download of one file (`download_task.cpp`).  Clients call it on their
own threads, each attempt runs on a worker thread, and `stateMutex_` is held for one step
at a time, except that `Resume` keeps it while it joins the last worker.
-/

namespace PlayerFramework.Downloader

open Transition

inductive DownloadState where
  | idle
  | preparing
  | running
  | pausing
  | paused
  | resuming
  | canceling
  | completed
  | failed
  | canceled
deriving DecidableEq

inductive DownloadErrorType where
  | none
  | network
  | fileIo
  | invalidUrl
  | diskSpace
  | timeout
  | internal
deriving DecidableEq

def downloadErrorCreateFailed : Int := -6

def networkConnectionErrorCodes : List Int := [6, 7, 35, 55, 56]

def isNetworkConnectionError (code : Int) : Bool := networkConnectionErrorCodes.contains code

/-- What the worker reports to the `DownloaderImpl`; the progress is left out. -/
inductive TaskCallback where
  | onStateChanged (state : DownloadState)
  | onCompleted
  | onFailed (errorType : DownloadErrorType) (errorCode : Int)
deriving DecidableEq

/-- Where `Run` stands; `announcing` is before its report that it runs. -/
inductive WorkerStage where
  | entering
  | announcing
  | executing
  | executed (success : Bool)
  | notifying (callbacks : List TaskCallback)
deriving DecidableEq

/-- A call that waits on `finishCv_`. -/
inductive Waiter where
  | pause
  | cancel
deriving DecidableEq

/-- What `ExecuteDownload` meets: no client, a bad output path, or a request with the
errors that it reports, its return code, and whether it succeeded. -/
inductive Execution where
  | noClient
  | badOutputPath (ret : Int)
  | download (errors : List (DownloadErrorType × Int)) (connectRet : Int) (success : Bool)
deriving DecidableEq

/-- `attempt`, the attempt that recorded the last error, whether a `Cancel` was accepted and
whether a wait has run out for good are history variables. -/
structure DownloadTask where
  state : DownloadState := .idle
  lastErrorType : DownloadErrorType := .none
  lastErrorCode : Int := 0
  worker : Option WorkerStage := none
  joining : Bool := false
  waiters : List Waiter := []
  attempt : Nat := 0
  recordedBy : Nat := 0
  cancelAccepted : Bool := false
  forced : Bool := false
deriving DecidableEq

namespace DownloadTask

def start (task : DownloadTask) : DownloadTask :=
  if task.state ≠ .idle then task
  else
    { task with
      lastErrorType := .none
      lastErrorCode := 0
      state := .preparing
      worker := some .entering
      attempt := task.attempt + 1
      recordedBy := task.attempt + 1 }

/-- `Pause` up to its wait. -/
def pause (task : DownloadTask) : DownloadTask :=
  if task.state ≠ .running then task
  else { task with state := .pausing, waiters := task.waiters ++ [.pause] }

/-- `Resume` up to the join of the last worker. -/
def resume (task : DownloadTask) : DownloadTask :=
  if task.state ≠ .paused then task else { task with state := .resuming, joining := true }

/-- The end of `Resume`: the last worker has ended, and the next one starts. -/
def join (task : DownloadTask) : DownloadTask :=
  if task.joining ∧ task.worker = none then
    { task with worker := some .entering, joining := false, attempt := task.attempt + 1 }
  else task

/-- `Cancel` up to its wait. -/
def cancel (task : DownloadTask) : DownloadTask :=
  match task.state with
  | .paused => { task with state := .canceled, cancelAccepted := true }
  | .running =>
    { task with
      state := .canceling, waiters := task.waiters ++ [.cancel], cancelAccepted := true }
  | _ => task

/-- The states in which a wait on `finishCv_` ends. -/
def finished (waiter : Waiter) (state : DownloadState) : Bool :=
  match waiter, state with
  | .pause, .paused => true
  | _, .completed => true
  | _, .canceled => true
  | _, .failed => true
  | _, _ => false

def wake (waiter : Waiter) (task : DownloadTask) : DownloadTask :=
  if waiter ∈ task.waiters ∧ finished waiter task.state then
    { task with waiters := task.waiters.erase waiter }
  else task

/-- The wait after `ForceClose` times out. -/
def expire (waiter : Waiter) (task : DownloadTask) : DownloadTask :=
  if waiter ∉ task.waiters then task
  else if finished waiter task.state then { task with waiters := task.waiters.erase waiter }
  else { task with state := .failed, waiters := task.waiters.erase waiter, forced := true }

def enterRunningState (task : DownloadTask) : DownloadTask :=
  if task.state ≠ .preparing ∧ task.state ≠ .resuming then { task with worker := none }
  else { task with state := .running, worker := some .announcing }

def recordError (errorType : DownloadErrorType) (errorCode : Int) (task : DownloadTask) :
    DownloadTask :=
  { task with
    lastErrorType := errorType, lastErrorCode := errorCode, recordedBy := task.attempt }

def executeDownload (execution : Execution) (task : DownloadTask) : DownloadTask :=
  match execution with
  | .noClient => task.recordError .internal downloadErrorCreateFailed
  | .badOutputPath ret => task.recordError .fileIo ret
  | .download errors connectRet _ =>
    let reported := errors.foldl (fun task error => task.recordError error.1 error.2) task
    if connectRet ≠ 0 ∧ reported.lastErrorType = .none then
      reported.recordError .network connectRet
    else reported

/-- `client->IsRequestSuccess()` after the execution. -/
def isRequestSuccess : Execution → Bool
  | .noClient => false
  | .badOutputPath _ => false
  | .download _ _ success => success

/-- The state that `CheckDownloadResult` decides on. -/
def decision (success : Bool) (lastErrorCode : Int) (current : DownloadState) : DownloadState :=
  if success ∧ current ≠ .pausing ∧ current ≠ .canceling then .completed
  else if current = .pausing ∨ (success = false ∧ isNetworkConnectionError lastErrorCode) then
    .paused
  else if current = .canceling then .canceled
  else .failed

def notifyDownloadResult (newState : DownloadState) (isNetworkError : Bool)
    (task : DownloadTask) : List TaskCallback :=
  match newState with
  | .completed => [.onStateChanged .completed, .onCompleted]
  | .paused =>
    if isNetworkError then
      [.onStateChanged .paused, .onFailed task.lastErrorType task.lastErrorCode]
    else [.onStateChanged .paused]
  | .canceled => [.onStateChanged .canceled]
  | .failed => [.onStateChanged .failed, .onFailed task.lastErrorType task.lastErrorCode]
  | _ => []

def checkDownloadResult (success : Bool) (task : DownloadTask) : DownloadTask :=
  let newState := decision success task.lastErrorCode task.state
  let isNetworkError := !success && isNetworkConnectionError task.lastErrorCode
  { task with
    state := newState
    worker := some (.notifying (notifyDownloadResult newState isNetworkError task)) }

def callback (task : DownloadTask) : Option TaskCallback :=
  match task.worker with
  | some .announcing => some (.onStateChanged .running)
  | some (.notifying (first :: _)) => some first
  | _ => none

def work (execution : Execution) (task : DownloadTask) : DownloadTask :=
  match task.worker with
  | none => task
  | some .entering => if task.joining then task else task.enterRunningState
  | some .announcing => { task with worker := some .executing }
  | some .executing =>
    { task.executeDownload execution with
      worker := some (.executed (isRequestSuccess execution)) }
  | some (.executed success) => if task.joining then task else task.checkDownloadResult success
  | some (.notifying (_ :: callbacks)) => { task with worker := some (.notifying callbacks) }
  | some (.notifying []) => { task with worker := none }

end DownloadTask

inductive TaskEvent where
  | start
  | pause
  | resume
  | cancel
  | join
  | wake (waiter : Waiter)
  | expire (waiter : Waiter)
  | work (execution : Execution)
deriving DecidableEq

namespace DownloadTask

/-- The step function: `stateMutex_` is held while `Resume` joins the last worker. -/
def next (task : DownloadTask) (event : TaskEvent) : DownloadTask :=
  match event with
  | .start => if task.joining then task else task.start
  | .pause => if task.joining then task else task.pause
  | .resume => if task.joining then task else task.resume
  | .cancel => if task.joining then task else task.cancel
  | .join => task.join
  | .wake waiter => if task.joining then task else task.wake waiter
  | .expire waiter => if task.joining then task else task.expire waiter
  | .work execution => task.work execution

end DownloadTask

end PlayerFramework.Downloader
