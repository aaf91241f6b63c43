import Mathlib.Data.List.Basic
import PlayerFramework.MediaErrors
import PlayerFramework.Transition

/-!
`PlayerServerTaskMgr` of `services/services/player/server/player_server_task_mgr.cpp`.
Every member function runs under `mutex_`, so one call is one step.  A handler
is a shared pointer that may be null: `Option Handler`.  The thread keeps the
handlers that were enqueued and not yet taken; the manager enqueues without a
delay, so it is first in, first out.
-/

namespace PlayerFramework.Player

inductive PlayerServerTaskType where
  | stateChange
  | seeking
  | rateChange
  | cancelTask
  | seekContinous
  | lightTask
  | freezeTask
  | unfreezeTask
  | setVideoSurface
  | butt
deriving DecidableEq

structure TwoPhaseTaskItem (Handler : Type) where
  type : PlayerServerTaskType
  task : Option Handler
  cancelTask : Option Handler
  taskName : String
  seekMode : Int32 := -1
  seekTime : Int64 := -1
  speedMode : Int32 := -1
deriving DecidableEq

/-- An entry of the task thread.  `ClearAllTask` enqueues a handler of its own
that only writes a log line. -/
inductive ThreadTask (Handler : Type) where
  | handler (task : Handler)
  | dummyTask
deriving DecidableEq

structure TaskThread (Handler : Type) where
  taskList : List (ThreadTask Handler) := []
deriving DecidableEq

structure PlayerServerTaskMgr (Handler : Type) where
  taskThread : TaskThread Handler := {}
  currTwoPhaseTask : Option Handler := none
  currTwoPhaseType : PlayerServerTaskType := .butt
  currTwoPhaseTaskName : String := "Unknown"
  currentSeekMode : Int32 := -1
  currentSeekTime : Int32 := -1
  pendingTwoPhaseTasks : List (TwoPhaseTaskItem Handler) := []
  isInited : Bool := false
deriving DecidableEq

variable {Handler : Type}

namespace TwoPhaseTaskItem

/-- The handler that `MarkTaskDone` starts for an item. -/
def handler (item : TwoPhaseTaskItem Handler) : Option Handler :=
  if item.type = .cancelTask then item.cancelTask else item.task

/-- Both retagging loops: an item of type `old` for which `replaced` holds
becomes a `CANCEL_TASK`. -/
def retag (old : PlayerServerTaskType) (replaced : TwoPhaseTaskItem Handler → Bool)
    (item : TwoPhaseTaskItem Handler) : TwoPhaseTaskItem Handler :=
  if item.type = old ∧ replaced item = true then { item with type := .cancelTask } else item

end TwoPhaseTaskItem

namespace TaskThread

/-- `TaskQueue::EnqueueTask(task)` on a running queue: a null handler is refused. -/
def enqueueTask (thread : TaskThread Handler) : Option Handler → MSErr × TaskThread Handler
  | none => (.invalidVal, thread)
  | some task => (.ok, { thread with taskList := thread.taskList ++ [.handler task] })

/-- `TaskQueue::EnqueueTask(dummyTask, true, 0)`: everything not yet taken is
cancelled first. -/
def enqueueDummy (thread : TaskThread Handler) : TaskThread Handler :=
  { thread with taskList := [.dummyTask] }

/-- The handlers that the thread has still to execute, in its order. -/
def handlers (thread : TaskThread Handler) : List Handler :=
  thread.taskList.filterMap fun
    | .handler task => some task
    | .dummyTask => none

@[simp] theorem handlers_enqueueTask (thread : TaskThread Handler) (task : Handler) :
    (thread.enqueueTask (some task)).2.handlers = thread.handlers ++ [task] := by
  simp [handlers, enqueueTask, List.filterMap_append]

end TaskThread

namespace PlayerServerTaskMgr

def init (mgr : PlayerServerTaskMgr Handler) : MSErr × PlayerServerTaskMgr Handler :=
  if mgr.isInited then (.ok, mgr)
  else (.ok, { mgr with taskThread := {}, isInited := true })

def enqueueTask (mgr : PlayerServerTaskMgr Handler) (task : Option Handler)
    (type : PlayerServerTaskType) (taskName : String) : MSErr × PlayerServerTaskMgr Handler :=
  (.ok, { mgr with
    taskThread := (mgr.taskThread.enqueueTask task).2
    currTwoPhaseTask := task
    currTwoPhaseType := type
    currTwoPhaseTaskName := taskName })

def enqueueSeekTask (mgr : PlayerServerTaskMgr Handler) (task : Option Handler)
    (type : PlayerServerTaskType) (taskName : String) (seekMode : Int32) (seekTime : Int64) :
    MSErr × PlayerServerTaskMgr Handler :=
  (.ok, { mgr with
    taskThread := (mgr.taskThread.enqueueTask task).2
    currTwoPhaseTask := task
    currTwoPhaseType := type
    currTwoPhaseTaskName := taskName
    currentSeekMode := seekMode
    -- `currentSeekTime_` is an `int32_t`: the assignment narrows.
    currentSeekTime := seekTime.toInt32 })

def pushPending (mgr : PlayerServerTaskMgr Handler) (item : TwoPhaseTaskItem Handler) :
    PlayerServerTaskMgr Handler :=
  { mgr with pendingTwoPhaseTasks := mgr.pendingTwoPhaseTasks ++ [item] }

/-- The shape that the launch functions share: start the task when nothing is
in flight, else append a pending item. -/
def launch (mgr : PlayerServerTaskMgr Handler) (task cancelTask : Option Handler)
    (type : PlayerServerTaskType) (taskName : String) : MSErr × PlayerServerTaskMgr Handler :=
  if mgr.isInited = false then (.invalidOperation, mgr)
  else if mgr.currTwoPhaseTask = none then mgr.enqueueTask task type taskName
  else (.ok, mgr.pushPending { type, task, cancelTask, taskName })

/-- `cancelTask` is ignored, and only two types are launched at all. -/
def launchTask (mgr : PlayerServerTaskMgr Handler) (task : Option Handler)
    (type : PlayerServerTaskType) (taskName : String) (_cancelTask : Option Handler) :
    MSErr × PlayerServerTaskMgr Handler :=
  if mgr.isInited = false then (.invalidOperation, mgr)
  else if type ≠ .stateChange ∧ type ≠ .lightTask then (.ok, mgr)
  else mgr.launch task none type taskName

def speedTask (mgr : PlayerServerTaskMgr Handler) (task cancelTask : Option Handler)
    (taskName : String) (speedMode : Int32) : MSErr × PlayerServerTaskMgr Handler :=
  if mgr.isInited = false then (.invalidOperation, mgr)
  else if mgr.currTwoPhaseTask = none then
    (.ok, (mgr.enqueueTask task .rateChange taskName).2)
  else
    let pending := mgr.pendingTwoPhaseTasks.map
      (TwoPhaseTaskItem.retag .rateChange fun item => item.speedMode != speedMode)
    (.ok, { mgr with pendingTwoPhaseTasks := pending ++
      [{ type := .rateChange, task, cancelTask, taskName, speedMode }] })

/-- `SeekTask` compares the narrowed `currentSeekTime_`, widened again, with the
requested time. -/
def sameAsCurrentSeek (mgr : PlayerServerTaskMgr Handler) (seekMode : Int32)
    (seekTime : Int64) : Bool :=
  mgr.currentSeekMode == seekMode && mgr.currentSeekTime.toInt64 == seekTime

def seekTask (mgr : PlayerServerTaskMgr Handler) (task cancelTask : Option Handler)
    (taskName : String) (seekMode : Int32) (seekTime : Int64) :
    MSErr × PlayerServerTaskMgr Handler :=
  if mgr.isInited = false then (.invalidOperation, mgr)
  else if mgr.currTwoPhaseTask = none then
    mgr.enqueueSeekTask task .seeking taskName seekMode seekTime
  else
    let pending := mgr.pendingTwoPhaseTasks.map (TwoPhaseTaskItem.retag .seeking fun _ => true)
    let type := if mgr.sameAsCurrentSeek seekMode seekTime then
      PlayerServerTaskType.cancelTask else .seeking
    (.ok, { mgr with pendingTwoPhaseTasks := pending ++
      [{ type, task, cancelTask, taskName, seekMode, seekTime }] })

def freezeTask (mgr : PlayerServerTaskMgr Handler) (task cancelTask : Option Handler)
    (taskName : String) : MSErr × PlayerServerTaskMgr Handler :=
  mgr.launch task cancelTask .freezeTask taskName

def unFreezeTask (mgr : PlayerServerTaskMgr Handler) (task cancelTask : Option Handler)
    (taskName : String) : MSErr × PlayerServerTaskMgr Handler :=
  mgr.launch task cancelTask .unfreezeTask taskName

def seekContinousTask (mgr : PlayerServerTaskMgr Handler) (task : Option Handler)
    (taskName : String) : MSErr × PlayerServerTaskMgr Handler :=
  mgr.launch task none .seeking taskName

def setVideoSurfaeTask (mgr : PlayerServerTaskMgr Handler) (task : Option Handler)
    (taskName : String) : MSErr × PlayerServerTaskMgr Handler :=
  mgr.launch task none .setVideoSurface taskName

/-- What `MarkTaskDone` does to the current task before it looks at the list. -/
def finishCurrent (mgr : PlayerServerTaskMgr Handler) : PlayerServerTaskMgr Handler :=
  { mgr with
    currTwoPhaseTask := none
    currTwoPhaseType := .butt
    currTwoPhaseTaskName := "None"
    currentSeekMode := -1
    currentSeekTime := -1 }

/-- The pending item becomes current; the thread refuses a null handler. -/
def startItem (mgr : PlayerServerTaskMgr Handler) (item : TwoPhaseTaskItem Handler)
    (rest : List (TwoPhaseTaskItem Handler)) : MSErr × PlayerServerTaskMgr Handler :=
  let started : PlayerServerTaskMgr Handler := { mgr with
    pendingTwoPhaseTasks := rest
    currTwoPhaseType := item.type
    currTwoPhaseTask := item.handler
    currTwoPhaseTaskName := item.taskName
    currentSeekMode := if item.type = .seeking then item.seekMode else mgr.currentSeekMode
    currentSeekTime := if item.type = .seeking then item.seekTime.toInt32
      else mgr.currentSeekTime }
  match item.handler with
  | none => (.ok, started)
  | some task =>
    let enqueued := mgr.taskThread.enqueueTask (some task)
    (enqueued.1, { started with taskThread := enqueued.2 })

def markTaskDone (mgr : PlayerServerTaskMgr Handler) (_taskName : String) :
    MSErr × PlayerServerTaskMgr Handler :=
  if mgr.isInited = false then (.invalidOperation, mgr)
  else
    let finished := mgr.finishCurrent
    match finished.pendingTwoPhaseTasks with
    | [] => (.ok, finished)
    | item :: rest => finished.startItem item rest

/-- `currentSeekMode_` and `currentSeekTime_` keep their values. -/
def clearAllTask (mgr : PlayerServerTaskMgr Handler) : PlayerServerTaskMgr Handler :=
  if mgr.isInited = false then mgr
  else { mgr with
    currTwoPhaseTask := none
    currTwoPhaseType := .butt
    pendingTwoPhaseTasks := []
    taskThread := mgr.taskThread.enqueueDummy }

def reset (mgr : PlayerServerTaskMgr Handler) : MSErr × PlayerServerTaskMgr Handler :=
  (.ok, { mgr with
    currTwoPhaseTask := none
    currTwoPhaseType := .butt
    pendingTwoPhaseTasks := []
    isInited := false
    taskThread := {} })

/-- The manager as `PlayerServer::Init` leaves it. -/
def initial : PlayerServerTaskMgr Handler :=
  (init {}).2

end PlayerServerTaskMgr

/-- One call of a member function, made between two critical sections. -/
inductive TaskMgrCall (Handler : Type) where
  | launchTask (task : Option Handler) (type : PlayerServerTaskType) (taskName : String)
      (cancelTask : Option Handler)
  | speedTask (task cancelTask : Option Handler) (taskName : String) (speedMode : Int32)
  | seekTask (task cancelTask : Option Handler) (taskName : String) (seekMode : Int32)
      (seekTime : Int64)
  | freezeTask (task cancelTask : Option Handler) (taskName : String)
  | unFreezeTask (task cancelTask : Option Handler) (taskName : String)
  | seekContinousTask (task : Option Handler) (taskName : String)
  | setVideoSurfaeTask (task : Option Handler) (taskName : String)
  | markTaskDone (taskName : String)
  | clearAllTask
deriving DecidableEq

def PlayerServerTaskMgr.call (mgr : PlayerServerTaskMgr Handler) :
    TaskMgrCall Handler → PlayerServerTaskMgr Handler
  | .launchTask task type taskName cancelTask => (mgr.launchTask task type taskName cancelTask).2
  | .speedTask task cancelTask taskName speedMode =>
    (mgr.speedTask task cancelTask taskName speedMode).2
  | .seekTask task cancelTask taskName seekMode seekTime =>
    (mgr.seekTask task cancelTask taskName seekMode seekTime).2
  | .freezeTask task cancelTask taskName => (mgr.freezeTask task cancelTask taskName).2
  | .unFreezeTask task cancelTask taskName => (mgr.unFreezeTask task cancelTask taskName).2
  | .seekContinousTask task taskName => (mgr.seekContinousTask task taskName).2
  | .setVideoSurfaeTask task taskName => (mgr.setVideoSurfaeTask task taskName).2
  | .markTaskDone taskName => (mgr.markTaskDone taskName).2
  | .clearAllTask => mgr.clearAllTask

end PlayerFramework.Player
