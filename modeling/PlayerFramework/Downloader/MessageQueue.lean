import PlayerFramework.Downloader.DownloaderImpl

/-!
`MessageQueue` and its worker threads (`message_queue.cpp`).  `queueMutex_` and
`lifecycleMutex_` are held over several steps where another thread may step in between:
`Stop` does not hold `queueMutex_` while it stops and notifies.
-/

namespace PlayerFramework.Downloader

open Transition

inductive MessageType where
  | stateChanged
  | completed
  | failed
  | progress
  | cancel
  | taskCompleted
  | taskFailed
  | taskNetChange
  | taskCanceled
  | releaseDownloader
  | processNextTask
  | fileCompleted
deriving DecidableEq

structure QueuedMessage (Payload : Type) where
  type : MessageType
  payload : Payload
deriving DecidableEq

/-- Where `Run` stands.  In `unready` the predicate of the wait has failed and the thread does
not wait yet; from `testing` to there, and in `ready`, it holds `queueMutex_`. -/
inductive RunStage where
  | entering
  | looping
  | locking
  | testing
  | unready
  | blocked
  | notified
  | ready
  | handling
  | ended
deriving DecidableEq

/-- A thread of `Run`, with its `myGeneration`. -/
structure QueueWorker where
  myGeneration : Nat
  stage : RunStage := .entering
deriving DecidableEq

/-- Who holds `queueMutex_`; a call of `PostMessage` has found the queue running. -/
inductive QueueOwner (Payload : Type) where
  | worker (index : Nat)
  | post (message : QueuedMessage Payload)
deriving DecidableEq

/-- Where the `Stop` stands that holds `lifecycleMutex_`. -/
inductive LifecycleStage where
  | replacing
  | notifying
  | moving
  | clearing (localThread : Option Nat)
deriving DecidableEq

/-- `stopping` is the `Stop` that holds `lifecycleMutex_`, with the worker that calls it if one
does; `joins` are the threads that calls of `Stop` wait for. -/
structure MessageQueue (Payload : Type) where
  running : Bool := false
  generation : Nat := 0
  queue : List (QueuedMessage Payload) := []
  thread : Option Nat := none
  workers : List QueueWorker := []
  owner : Option (QueueOwner Payload) := none
  stopping : Option (Option Nat × LifecycleStage) := none
  joins : List Nat := []

namespace QueueWorker

def goesTo (stage : RunStage) (worker : QueueWorker) : QueueWorker := { worker with stage := stage }

/-- A notification reaches a thread that waits. -/
def wake (worker : QueueWorker) : QueueWorker :=
  if worker.stage = .blocked then worker.goesTo .notified else worker

end QueueWorker

/-- `notify_one`: one of the threads that wait, `chosen` if that one does. -/
def notifyOne (chosen : Nat) (workers : List QueueWorker) : List QueueWorker :=
  if (workers[chosen]?).any fun worker => worker.stage == .blocked then
    workers.modify chosen .wake
  else workers.modify (workers.findIdx fun worker => worker.stage == .blocked) .wake

namespace MessageQueue

variable {Payload : Type}

/-- The queue after a message has come; a full queue loses its first progress message, or else
its oldest message. -/
def pushed (message : QueuedMessage Payload) (queue : List (QueuedMessage Payload)) :
    List (QueuedMessage Payload) :=
  let room :=
    if maxQueueSize ≤ queue.length then
      if queue.any fun queued => queued.type == .progress then
        queue.eraseP fun queued => queued.type == .progress
      else queue.tail
    else queue
  room ++ [message]

/-- The worker still belongs to a queue that runs. -/
def current (worker : QueueWorker) (queue : MessageQueue Payload) : Bool :=
  queue.running && queue.generation == worker.myGeneration

def start (queue : MessageQueue Payload) : MessageQueue Payload :=
  if queue.stopping.isSome ∨ queue.running then queue
  else
    { queue with
      generation := queue.generation + 1
      running := true
      thread := some queue.workers.length
      workers := queue.workers ++ [{ myGeneration := queue.generation + 1 }] }

/-- `Stop` up to `running_.store(false)`. -/
def stop (caller : Option Nat) (queue : MessageQueue Payload) : MessageQueue Payload :=
  if queue.stopping.isSome then queue
  else if queue.running then
    { queue with running := false, stopping := some (caller, .replacing) }
  else { queue with stopping := some (caller, .moving) }

/-- The thread that a `Stop` waits for: not its own one, which it detaches. -/
def joined (caller localThread : Option Nat) : List Nat :=
  if caller = localThread then [] else localThread.toList

/-- The next step of the `Stop` that holds `lifecycleMutex_`. -/
def stopGoesOn (queue : MessageQueue Payload) : MessageQueue Payload :=
  match queue.stopping with
  | none => queue
  | some (caller, .replacing) =>
    { queue with
      generation := queue.generation + 1, stopping := some (caller, .notifying) }
  | some (caller, .notifying) =>
    { queue with workers := queue.workers.map .wake, stopping := some (caller, .moving) }
  | some (caller, .moving) =>
    { queue with thread := none, stopping := some (caller, .clearing queue.thread) }
  | some (caller, .clearing localThread) =>
    if queue.owner.isSome then queue
    else
      { queue with
        queue := [], stopping := none, joins := queue.joins ++ joined caller localThread }

/-- A call of `Stop` returns from `localThread.join()`. -/
def join (thread : Nat) (queue : MessageQueue Payload) : MessageQueue Payload :=
  if (queue.workers[thread]?).any fun worker => worker.stage == .ended then
    { queue with joins := queue.joins.erase thread }
  else queue

/-- `PostMessage` up to its check that the queue runs. -/
def post (message : QueuedMessage Payload) (queue : MessageQueue Payload) : MessageQueue Payload :=
  if queue.owner.isSome ∨ ¬ queue.running then queue
  else { queue with owner := some (.post message) }

def postGoesOn (chosen : Nat) (queue : MessageQueue Payload) : MessageQueue Payload :=
  match queue.owner with
  | some (.post message) =>
    { queue with
      queue := pushed message queue.queue
      workers := notifyOne chosen queue.workers
      owner := none }
  | _ => queue

def put (index : Nat) (worker : QueueWorker) (queue : MessageQueue Payload) :
    MessageQueue Payload :=
  { queue with workers := queue.workers.set index worker }

/-- A thread gets `queueMutex_` and is about to test the predicate of its wait. -/
def lock (index : Nat) (worker : QueueWorker) (queue : MessageQueue Payload) :
    MessageQueue Payload :=
  if queue.owner.isSome then queue
  else { queue.put index (worker.goesTo .testing) with owner := some (.worker index) }

/-- The next step of `Run` in a thread. -/
def work (index : Nat) (queue : MessageQueue Payload) : MessageQueue Payload :=
  match queue.workers[index]? with
  | none => queue
  | some worker =>
    match worker.stage with
    | .entering =>
      if queue.stopping.isSome then queue else queue.put index (worker.goesTo .looping)
    | .looping =>
      queue.put index (worker.goesTo (if queue.current worker then .locking else .ended))
    | .locking => queue.lock index worker
    | .testing =>
      queue.put index
        (worker.goesTo (if queue.queue ≠ [] ∨ ¬ queue.current worker then .ready else .unready))
    | .unready => { queue.put index (worker.goesTo .blocked) with owner := none }
    | .blocked => queue
    | .notified => queue.lock index worker
    | .ready =>
      if ¬ queue.current worker then
        { queue.put index (worker.goesTo .ended) with owner := none }
      else
        match queue.queue with
        | [] => { queue.put index (worker.goesTo .looping) with owner := none }
        | _ :: rest =>
          { queue.put index (worker.goesTo .handling) with owner := none, queue := rest }
    | .handling => queue.put index (worker.goesTo .looping)
    | .ended => queue

/-- A wait ends without a notification. -/
def wakeUp (index : Nat) (queue : MessageQueue Payload) : MessageQueue Payload :=
  { queue with workers := queue.workers.modify index .wake }

end MessageQueue

/-- The steps of the callers and of the threads; a call that finds its lock held is made again. -/
inductive QueueEvent (Payload : Type) where
  | start
  | stop (caller : Option Nat)
  | stopGoesOn
  | join (thread : Nat)
  | post (message : QueuedMessage Payload)
  | postGoesOn (chosen : Nat)
  | work (index : Nat)
  | wakeUp (index : Nat)
deriving DecidableEq

namespace MessageQueue

variable {Payload : Type}

def next (queue : MessageQueue Payload) (event : QueueEvent Payload) : MessageQueue Payload :=
  match event with
  | .start => queue.start
  | .stop caller => queue.stop caller
  | .stopGoesOn => queue.stopGoesOn
  | .join thread => queue.join thread
  | .post message => queue.post message
  | .postGoesOn chosen => queue.postGoesOn chosen
  | .work index => queue.work index
  | .wakeUp index => queue.wakeUp index

/-- A `Stop` or a `PostMessage` is about to notify. -/
def notificationToCome (queue : MessageQueue Payload) : Prop :=
  (∃ caller, queue.stopping = some (caller, .replacing)) ∨
    (∃ caller, queue.stopping = some (caller, .notifying)) ∨
      ∃ message, queue.owner = some (.post message)

end MessageQueue

end PlayerFramework.Downloader
