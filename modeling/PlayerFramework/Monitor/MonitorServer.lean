import Mathlib.Algebra.Group.Int.Defs
import Mathlib.Algebra.Group.Nat.Defs
import PlayerFramework.Transition

/-!
`MonitorServer` (`monitor_server.cpp`): processes that send heartbeats, the thread that counts
down for each of them, and the objects that it tells of a silent process. A step is what is done
under `mutex_` at a time; the objects are told after it is let go.
-/

namespace PlayerFramework.Monitor

open Transition

def monitorTimeMs : Int := 15000

/-- The conversion to `int32_t`. -/
def toInt32 (value : Int) : Int := Int.bmod value (2 ^ 32)

/-- An entry of `timesMap_`. The last two fields are history: when the process was heard last,
and how long the thread had waited in all when the countdown began. -/
structure TimeInfo where
  pid : Int
  time : Int := monitorTimeMs
  triggerFlag : Bool := true
  alarmed : Bool := false
  heardAt : Nat
  begunAt : Nat := 0
deriving DecidableEq

/-- What has happened to a process, with the time. -/
inductive Record where
  | enabled (moment : Nat)
  | clicked (moment : Nat)
  | abnormality (moment : Nat)
  | recovery (moment : Nat)
deriving DecidableEq

/-- Where `MonitorThread` stands: before its wait, in it, or telling objects. An absent thread may
be on its way. -/
inductive MonitorThread where
  | absent
  | running
  | waiting (timeStart deadline : Nat)
  | controlling (recoveryList abnormalList : List Nat)
deriving DecidableEq

/-- A process that is not in `objListMap_` has no objects here; `alarmedObjs` are the objects whose
`alarmed_` is set. The last four fields are history: what the thread has waited in all, the
records of each process with the newest first, whether a countdown has left the range of
`int32_t`, and the processes that were removed while they were alarmed. -/
structure MonitorServer where
  now : Nat := 0
  timesMap : List TimeInfo := []
  objListMap : Int → List Nat := fun _ => []
  waitingAgain : Bool := false
  threadRunning : Bool := false
  thread : MonitorThread := .absent
  alarmedObjs : List Nat := []
  waited : Nat := 0
  records : Int → List Record := fun _ => []
  overflowed : Bool := false
  leftAlarmed : List Int := []

/-- Calls of the clients, the passing of time, and what the thread does next. -/
inductive MonitorEvent where
  | tick (passed : Nat)
  | enableMonitor (pid : Int)
  | disableMonitor (pid : Int)
  | click (pid : Int)
  | onClientDie (pid : Int)
  | registerObj (pid : Int) (obj : Nat)
  | cancellationObj (pid : Int) (obj : Nat)
  | createThread
  | startWait
  | wake
  | objCtrl
deriving DecidableEq

namespace TimeInfo

/-- A process that was heard during the wait begins anew, the others count the wait. -/
def countDown (waitTime : Int) (waited : Nat) (info : TimeInfo) : TimeInfo :=
  if info.triggerFlag then { info with triggerFlag := false, begunAt := waited }
  else { info with time := toInt32 (info.time - waitTime) }

/-- The alarm ends, after the countdown. -/
def recovers (info : TimeInfo) : Bool :=
  info.alarmed && decide (info.time > 0)

def expires (info : TimeInfo) : Bool :=
  decide (info.time ≤ 0) && !info.alarmed

/-- The two tests of the loop body. -/
def judge (info : TimeInfo) : TimeInfo :=
  if info.recovers then { info with alarmed := false }
  else if info.expires then { info with alarmed := true }
  else info

def checked (waitTime : Int) (waited : Nat) (info : TimeInfo) : TimeInfo :=
  (info.countDown waitTime waited).judge

/-- The wait does not fit, or the difference does not. -/
def overflows (elapsed : Nat) (info : TimeInfo) : Bool :=
  !info.triggerFlag && decide ((2 ^ 31 : Int) ≤ elapsed ∨ info.time - elapsed < -(2 ^ 31 : Int))

end TimeInfo

namespace MonitorServer

def find (pid : Int) (server : MonitorServer) : Option TimeInfo :=
  server.timesMap.find? fun info => info.pid = pid

/-- The process is in `timesMap_` and alarmed. -/
def alarmedIn (pid : Int) (server : MonitorServer) : Bool :=
  match server.find pid with
  | none => false
  | some info => info.alarmed

def record (pid : Int) (entry : Record) (server : MonitorServer) : MonitorServer :=
  { server with
    records := fun other =>
      if other = pid then entry :: server.records other else server.records other }

def click (pid : Int) (server : MonitorServer) : MonitorServer :=
  match server.find pid with
  | none => server
  | some _ =>
    let heard : MonitorServer :=
      { server with
        timesMap := server.timesMap.map fun info =>
          if info.pid = pid then
            { info with time := monitorTimeMs, triggerFlag := true, heardAt := server.now }
          else info
        waitingAgain := true }
    heard.record pid (.clicked server.now)

/-- Where no thread runs, `threadRunning_` is set before it is created. -/
def enableMonitor (pid : Int) (server : MonitorServer) : MonitorServer :=
  match server.find pid with
  | some _ => server
  | none =>
    let watched : MonitorServer :=
      { server with
        timesMap := server.timesMap ++ [{ pid, heardAt := server.now }]
        waitingAgain := true
        threadRunning := true }
    watched.record pid (.enabled server.now)

def disableMonitor (pid : Int) (server : MonitorServer) : MonitorServer :=
  { server with
    timesMap := server.timesMap.filter fun info => info.pid ≠ pid
    leftAlarmed :=
      if server.alarmedIn pid then pid :: server.leftAlarmed else server.leftAlarmed }

def registerObj (pid : Int) (obj : Nat) (server : MonitorServer) : MonitorServer :=
  if obj ∈ server.objListMap pid then server
  else
    { server with
      objListMap := fun other =>
        if other = pid then server.objListMap pid ++ [obj] else server.objListMap other }

def cancellationObj (pid : Int) (obj : Nat) (server : MonitorServer) : MonitorServer :=
  { server with
    objListMap := fun other =>
      if other = pid then (server.objListMap pid).erase obj else server.objListMap other }

def onClientDie (pid : Int) (server : MonitorServer) : MonitorServer :=
  { server with
    objListMap := fun other => if other = pid then [] else server.objListMap other
    timesMap := server.timesMap.filter fun info => info.pid ≠ pid
    leftAlarmed :=
      if server.alarmedIn pid then pid :: server.leftAlarmed else server.leftAlarmed }

def getWaitTime (server : MonitorServer) : Int :=
  server.timesMap.foldl
    (fun minTime info => if 0 < info.time ∧ info.time < minTime then info.time else minTime)
    monitorTimeMs

def createThread (server : MonitorServer) : MonitorServer :=
  if server.threadRunning ∧ server.thread = .absent then { server with thread := .running }
  else server

def startWait (server : MonitorServer) : MonitorServer :=
  if server.thread = .running then
    { server with
      thread := .waiting server.now (server.now + server.getWaitTime.toNat) }
  else server

/-- The loop over `timesMap_`, with what it finds to tell. -/
def round (elapsed : Nat) (server : MonitorServer) : MonitorServer :=
  let waited := server.waited + elapsed
  let counted := server.timesMap.map (TimeInfo.countDown (toInt32 elapsed) waited)
  { server with
    timesMap := counted.map TimeInfo.judge
    waitingAgain := false
    thread := .controlling
      ((counted.filter TimeInfo.recovers).flatMap fun info => server.objListMap info.pid)
      ((counted.filter TimeInfo.expires).flatMap fun info => server.objListMap info.pid)
    waited
    records := fun pid =>
      match counted.find? fun info => info.pid = pid with
      | none => server.records pid
      | some info =>
        if info.recovers then .recovery server.now :: server.records pid
        else if info.expires then .abnormality server.now :: server.records pid
        else server.records pid
    overflowed := server.overflowed || server.timesMap.any (TimeInfo.overflows elapsed) }

/-- The wait is over when its time is or when it is called off. -/
def wake (server : MonitorServer) : MonitorServer :=
  match server.thread with
  | .waiting timeStart deadline =>
    if server.timesMap ≠ [] ∧ server.waitingAgain = false ∧ server.now < deadline then server
    else if server.timesMap = [] then
      { server with threadRunning := false, thread := .absent }
    else server.round (server.now - timeStart)
  | _ => server

/-- `ObjCtrl`, an object at a time. -/
def objCtrl (server : MonitorServer) : MonitorServer :=
  match server.thread with
  | .controlling (obj :: recoveryList) abnormalList =>
    { server with
      alarmedObjs := server.alarmedObjs.filter fun other => other ≠ obj
      thread := .controlling recoveryList abnormalList }
  | .controlling [] (obj :: abnormalList) =>
    { server with
      alarmedObjs := obj :: server.alarmedObjs
      thread := .controlling [] abnormalList }
  | .controlling [] [] => { server with thread := .running }
  | _ => server

def next (server : MonitorServer) (event : MonitorEvent) : MonitorServer :=
  match event with
  | .tick passed => { server with now := server.now + passed }
  | .enableMonitor pid => server.enableMonitor pid
  | .disableMonitor pid => server.disableMonitor pid
  | .click pid => server.click pid
  | .onClientDie pid => server.onClientDie pid
  | .registerObj pid obj => server.registerObj pid obj
  | .cancellationObj pid obj => server.cancellationObj pid obj
  | .createThread => server.createThread
  | .startWait => server.startWait
  | .wake => server.wake
  | .objCtrl => server.objCtrl

end MonitorServer

end PlayerFramework.Monitor
