import PlayerFramework.Transition

/-!
The task queue (`task_queue.cpp`, `task_queue.h`): its list, the threads that process it, and
the threads that stop it.  Each input is one critical section of a thread.
-/

namespace PlayerFramework.TaskQueue

open Transition

inductive TaskState
  | idle
  | running
  | canceled
  | finished
deriving DecidableEq

/-- The ticket counts the insertions, and tells those of one handler apart. -/
structure TaskHandlerItem where
  task : Nat
  executeTimeNs : UInt64
  ticket : Nat
deriving DecidableEq

/-- Where a thread stands in `TaskProcessor`. -/
inductive Stage
  | top
  | taken (item : TaskHandlerItem)
  | approved (item : TaskHandlerItem)
  | executing (item : TaskHandlerItem)
  | executed (item : TaskHandlerItem)
  | skipped (item : TaskHandlerItem)
  | repeating (item : TaskHandlerItem)
  | exited
deriving DecidableEq

/-- Where a call of `Stop` stands; a call that has returned knows how many tasks had been
inserted by then. -/
inductive StopStage
  | joining (processor : Nat)
  | joined
  | returned (issued : Nat)
deriving DecidableEq

inductive Fate
  | taken
  | cancelled
deriving DecidableEq

/-- The queue, its threads in the order of their creation and the calls of `Stop`.  The fields
behind them are history: the threads that were detached, what became of the items that have left
the list, and which items are done, with the state of their handler at that time. -/
structure QueueState where
  isExit : Bool := true
  thread : Option Nat := none
  taskList : List TaskHandlerItem := []
  isTaskExecuting : Bool := false
  handlers : Nat → TaskState := fun _ => .idle
  processors : List Stage := []
  stops : List StopStage := []
  detached : List Nat := []
  fates : List (Nat × Fate) := []
  done : List (Nat × TaskState) := []
  issued : Nat := 0

def maxDelayUs : UInt64 := 10000000

def usToNs : UInt64 := 1000

def uint64Max : UInt64 := 0xFFFFFFFFFFFFFFFF

namespace TaskHandler

def cancel : TaskState → TaskState
  | .running => .running
  | _ => .canceled

def clearResult : TaskState → TaskState
  | .finished => .idle
  | state => state

/-- `GetResult` waits, or returns and leaves the handler in another state. -/
def getResult : TaskState → Option TaskState
  | .finished => some (clearResult .finished)
  | .canceled => some (clearResult .canceled)
  | _ => none

end TaskHandler

def setHandler (handlers : Nat → TaskState) (task : Nat) (state : TaskState) : Nat → TaskState :=
  fun other => if other = task then state else handlers other

def start (s : QueueState) : QueueState :=
  if s.thread ≠ none then s
  else
    { s with
      isExit := false
      thread := some s.processors.length
      processors := s.processors ++ [.top] }

def cancelFront (s : QueueState) (item : TaskHandlerItem) : QueueState :=
  let state := TaskHandler.cancel (s.handlers item.task)
  { s with
    handlers := setHandler s.handlers item.task state
    fates := s.fates ++ [(item.ticket, .cancelled)]
    done := s.done ++ [(item.ticket, state)] }

def cancelNotExecutedTaskLocked (s : QueueState) : QueueState :=
  { s.taskList.foldl cancelFront s with taskList := [] }

/-- `insert` before the first item with a later time. -/
def insertItem (item : TaskHandlerItem) (taskList : List TaskHandlerItem) : List TaskHandlerItem :=
  taskList.takeWhile (fun other => decide (other.executeTimeNs ≤ item.executeTimeNs)) ++
    item :: taskList.dropWhile fun other => decide (other.executeTimeNs ≤ item.executeTimeNs)

def insertTask (task : Nat) (delayUs curTimeNs : UInt64) (s : QueueState) : QueueState :=
  if ¬ curTimeNs < uint64Max - delayUs * usToNs then s
  else
    { s with
      taskList := insertItem ⟨task, delayUs * usToNs + curTimeNs, s.issued⟩ s.taskList
      issued := s.issued + 1 }

/-- `EnqueueTask` behind its call of `Clear`. -/
def enqueueTask (task : Nat) (cancelNotExecuted : Bool) (delayUs curTimeNs : UInt64)
    (s : QueueState) : QueueState :=
  if ¬ delayUs < maxDelayUs then s
  else if s.isExit then s
  else
    insertTask task delayUs curTimeNs
      (if cancelNotExecuted then cancelNotExecutedTaskLocked s else s)

def setStage (s : QueueState) (processor : Nat) (stage : Stage) : QueueState :=
  { s with processors := s.processors.set processor stage }

def markDone (s : QueueState) (item : TaskHandlerItem) (state : TaskState) : QueueState :=
  { s with done := s.done ++ [(item.ticket, state)] }

/-- The head of the loop: waiting, and taking the first item when it is due. -/
def takeFront (processor : Nat) (curTimeNs : UInt64) (s : QueueState) : QueueState :=
  if s.isExit then setStage s processor .exited
  else
    match s.taskList with
    | [] => s
    | item :: rest =>
      if item.executeTimeNs ≤ curTimeNs then
        { setStage s processor (.taken item) with
          taskList := rest
          isTaskExecuting := true
          fates := s.fates ++ [(item.ticket, .taken)] }
      else s

/-- The next section of a thread in `TaskProcessor`; `periodicTimeUs` is the attribute of each
handler. -/
def taskProcessor (periodicTimeUs : Nat → UInt64) (processor : Nat) (curTimeNs : UInt64)
    (s : QueueState) : QueueState :=
  match s.processors[processor]? with
  | none => s
  | some .exited => s
  | some .top => takeFront processor curTimeNs s
  | some (.taken item) =>
    if s.handlers item.task = .canceled then
      markDone (setStage s processor (.skipped item)) item .canceled
    else setStage s processor (.approved item)
  | some (.skipped _) => { setStage s processor .top with isTaskExecuting := false }
  | some (.approved item) =>
    if s.handlers item.task ≠ .idle then
      markDone (setStage s processor (.executed item)) item (s.handlers item.task)
    else
      { setStage s processor (.executing item) with
        handlers := setHandler s.handlers item.task .running }
  | some (.executing item) =>
    { markDone (setStage s processor (.executed item)) item .finished with
      handlers := setHandler s.handlers item.task .finished }
  | some (.executed item) =>
    { setStage s processor
        (if periodicTimeUs item.task = uint64Max then .top else .repeating item) with
      isTaskExecuting := false }
  | some (.repeating item) =>
    enqueueTask item.task false (periodicTimeUs item.task) curTimeNs (setStage s processor .top)

def onTask (s : QueueState) (processor : Nat) : Bool :=
  match s.processors[processor]? with
  | some (.executing _) => true
  | _ => false

/-- `Stop` up to its first unlock; the caller is a thread of the queue or another one. -/
def stop (caller : Option Nat) (s : QueueState) : QueueState :=
  if caller.any fun processor => !onTask s processor then s
  else if s.isExit then { s with stops := s.stops ++ [.returned s.issued] }
  else
    match s.thread with
    | none => s
    | some processor =>
      if caller = some processor then
        { s with
          isExit := true
          thread := none
          detached := s.detached ++ [processor]
          stops := s.stops ++ [.returned s.issued] }
      else
        { s with
          isExit := true
          thread := none
          stops := s.stops ++ [.joining processor] }

def stopJoined (call : Nat) (s : QueueState) : QueueState :=
  match s.stops[call]? with
  | some (.joining processor) =>
    if s.processors[processor]? = some .exited then
      { s with stops := s.stops.set call .joined }
    else s
  | _ => s

def stopDrained (call : Nat) (s : QueueState) : QueueState :=
  match s.stops[call]? with
  | some .joined =>
    { cancelNotExecutedTaskLocked s with stops := s.stops.set call (.returned s.issued) }
  | _ => s

inductive Input
  | start
  | stop (caller : Option Nat)
  | stopJoined (call : Nat)
  | stopDrained (call : Nat)
  | clear (task : Nat)
  | enqueueTask (task : Nat) (cancelNotExecuted : Bool) (delayUs curTimeNs : UInt64)
  | cancel (task : Nat)
  | getResult (task : Nat)
  | taskProcessor (processor : Nat) (curTimeNs : UInt64)
deriving DecidableEq

def step (periodicTimeUs : Nat → UInt64) (s : QueueState) : Input → QueueState
  | .start => start s
  | .stop caller => stop caller s
  | .stopJoined call => stopJoined call s
  | .stopDrained call => stopDrained call s
  | .clear task =>
    { s with handlers := setHandler s.handlers task (TaskHandler.clearResult (s.handlers task)) }
  | .enqueueTask task cancelNotExecuted delayUs curTimeNs =>
    enqueueTask task cancelNotExecuted delayUs curTimeNs s
  | .cancel task =>
    { s with handlers := setHandler s.handlers task (TaskHandler.cancel (s.handlers task)) }
  | .getResult task =>
    { s with
      handlers := setHandler s.handlers task
        ((TaskHandler.getResult (s.handlers task)).getD (s.handlers task)) }
  | .taskProcessor processor curTimeNs => taskProcessor periodicTimeUs processor curTimeNs s

abbrev reached (periodicTimeUs : Nat → UInt64) (inputs : List Input) : QueueState :=
  run (step periodicTimeUs) {} inputs

end PlayerFramework.TaskQueue
