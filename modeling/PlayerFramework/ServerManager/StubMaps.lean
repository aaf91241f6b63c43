import PlayerFramework.Transition

/-!
`MediaServerManager` (`media_server_manager.cpp`): the maps of the stubs that the media service has
given out, the mark that the memory manager was last told, and the time at which the last instance
was released. Every operation holds `mutex_`; what it leaves to run is the task of `std::async` of
the latest `CreateStubObject` and the detached threads of `AsyncExecutor::Clear`.
-/

namespace PlayerFramework.ServerManager

open Transition

inductive StubType where
  | recorder
  | player
  | avMetadataHelper
  | avCodecList
  | avCodec
  | recorderProfiles
  | monitor
  | screenCapture
  | screenCaptureController
  | transCoder
  | screenCaptureMonitor
  | lppAudioPlayer
  | lppVideoPlayer
deriving DecidableEq

abbrev StubEntry := Nat × Int

/-- `stubMap` holds the map of every type. `future` says that the task of the latest create is
still to run, `cleaners` counts the threads of `AsyncExecutor` before their callback, and `critical`
is the mark that `SetCritical` last gave the process. -/
structure MediaServerManager where
  stubMap : StubType → List StubEntry := fun _ => []
  pidToPlayerStubMap : List (Int × List Nat) := []
  nextObject : Nat := 0
  future : Bool := false
  cleaners : Nat := 0
  critical : Bool := false
  allInstancesReleasedTime : Int := 0

inductive ManagerEvent where
  | createStubObject (type : StubType) (pid : Int) (created : Bool)
  | destroyStubObject (type : StubType) (object : Nat) (now : Int)
  | destroyStubObjectForPid (pid : Int) (now : Int)
  | resetAllInstancesReleasedTime
  | raise
  | handleAsyncExecution
deriving DecidableEq

def serverMaxNumber : Nat := 16

/-- `instanceSet.insert(object)` for the set of the process. -/
def insertPlayerStub (object : Nat) (pid : Int) (index : List (Int × List Nat)) :
    List (Int × List Nat) :=
  if index.any (fun entry => entry.1 == pid) then
    index.map fun entry => if entry.1 = pid then (pid, object :: entry.2) else entry
  else (pid, [object]) :: index

def removePlayerStubFromMap (object : Nat) (pid : Int) (index : List (Int × List Nat)) :
    List (Int × List Nat) :=
  (index.map fun entry =>
    if entry.1 = pid then (pid, entry.2.filter (· ≠ object)) else entry).filter
      fun entry => entry.1 ≠ pid || !entry.2.isEmpty

namespace MediaServerManager

def setStubMap (type : StubType) (entries : List StubEntry) (manager : MediaServerManager) :
    MediaServerManager :=
  { manager with
    stubMap := fun kind => if kind = type then entries else manager.stubMap kind }

def setCritical (critical : Bool) (manager : MediaServerManager) : MediaServerManager :=
  { manager with critical }

/-- The stub of a create that comes through enters the map of its type. -/
def addStub (type : StubType) (pid : Int) (manager : MediaServerManager) : MediaServerManager :=
  let manager := manager.setStubMap type ((manager.nextObject, pid) :: manager.stubMap type)
  { manager with nextObject := manager.nextObject + 1 }

def createPlayerStubObject (pid : Int) (manager : MediaServerManager) : MediaServerManager :=
  let index := insertPlayerStub manager.nextObject pid manager.pidToPlayerStubMap
  let manager := manager.addStub .player pid
  { manager with pidToPlayerStubMap := index }

/-- `created` is whether the stub of the type could be made. The monitor is a single stub that no
map holds, and there is no case for the two codec types. -/
def createStubObjectByType (type : StubType) (pid : Int) (created : Bool)
    (manager : MediaServerManager) : MediaServerManager :=
  match type with
  | .recorderProfiles =>
    if serverMaxNumber ≤ (manager.stubMap .recorderProfiles).length then manager
    else if created then manager.addStub .recorderProfiles pid else manager
  | .player => if created then manager.createPlayerStubObject pid else manager
  | .monitor | .avCodec | .avCodecList => manager
  | type => if created then manager.addStub type pid else manager

/-- The assignment of `future_` waits for the task that it held, and leaves the new one to run. -/
def createStubObject (type : StubType) (pid : Int) (created : Bool)
    (manager : MediaServerManager) : MediaServerManager :=
  let manager := manager.createStubObjectByType type pid created
  { manager with critical := manager.critical || manager.future, future := true }

def getStubMapCountIsEmpty (manager : MediaServerManager) : Bool :=
  (manager.stubMap .recorder).isEmpty && (manager.stubMap .transCoder).isEmpty &&
  (manager.stubMap .player).isEmpty && manager.pidToPlayerStubMap.isEmpty &&
  (manager.stubMap .avMetadataHelper).isEmpty && (manager.stubMap .avCodecList).isEmpty &&
  (manager.stubMap .avCodec).isEmpty && (manager.stubMap .recorderProfiles).isEmpty &&
  (manager.stubMap .screenCapture).isEmpty &&
  (manager.stubMap .screenCaptureController).isEmpty &&
  (manager.stubMap .lppAudioPlayer).isEmpty && (manager.stubMap .lppVideoPlayer).isEmpty

def getInstanceCount (manager : MediaServerManager) : Nat :=
  (manager.stubMap .recorder).length + (manager.stubMap .player).length +
  (manager.stubMap .avMetadataHelper).length + (manager.stubMap .avCodecList).length +
  (manager.stubMap .avCodec).length + (manager.stubMap .recorderProfiles).length +
  (manager.stubMap .screenCapture).length + (manager.stubMap .screenCaptureController).length +
  (manager.stubMap .screenCaptureMonitor).length + (manager.stubMap .transCoder).length

def updateAllInstancesReleasedTime (now : Int) (manager : MediaServerManager) :
    MediaServerManager :=
  if manager.allInstancesReleasedTime = 0 ∧ manager.getInstanceCount = 0 then
    { manager with allInstancesReleasedTime := now }
  else manager

/-- The player that is found leaves the index of its process as well. -/
def destroyAVPlayerStub (object : Nat) (manager : MediaServerManager) : MediaServerManager :=
  match (manager.stubMap .player).find? (fun entry => entry.1 == object) with
  | none => manager
  | some entry =>
    let index := removePlayerStubFromMap object entry.2 manager.pidToPlayerStubMap
    let players := (manager.stubMap .player).filter fun entry => entry.1 ≠ object
    let manager := manager.setStubMap .player players
    { manager with pidToPlayerStubMap := index }

def destroyStubByType (type : StubType) (object : Nat) (manager : MediaServerManager) :
    MediaServerManager :=
  match type with
  | .player => manager.destroyAVPlayerStub object
  | .monitor => manager
  | type =>
    manager.setStubMap type ((manager.stubMap type).filter fun entry => entry.1 ≠ object)

/-- The callback of the cleaner, and the end of `DestroyStubObject`. -/
def lowerIfEmpty (manager : MediaServerManager) : MediaServerManager :=
  if manager.getStubMapCountIsEmpty then manager.setCritical false else manager

def destroyStubObject (type : StubType) (object : Nat) (now : Int)
    (manager : MediaServerManager) : MediaServerManager :=
  ((manager.destroyStubByType type object).updateAllInstancesReleasedTime now).lowerIfEmpty

/-- Every map loses the stubs of the process, which go to `freeList_`: the list decides only how
long the thread of `executor_.Clear` waits. -/
def destroyStubsOfPid (pid : Int) (manager : MediaServerManager) : MediaServerManager :=
  { manager with
    stubMap := fun kind => (manager.stubMap kind).filter fun entry => entry.2 ≠ pid
    pidToPlayerStubMap := manager.pidToPlayerStubMap.filter fun entry => entry.1 ≠ pid }

def destroyStubObjectForPid (pid now : Int) (manager : MediaServerManager) : MediaServerManager :=
  let manager := manager.destroyStubsOfPid pid
  let manager : MediaServerManager := { manager with cleaners := manager.cleaners + 1 }
  manager.updateAllInstancesReleasedTime now

/-- The task of `std::async` runs. -/
def raise (manager : MediaServerManager) : MediaServerManager :=
  if manager.future then { manager with future := false, critical := true } else manager

/-- A thread of `AsyncExecutor` is done waiting and calls back. -/
def handleAsyncExecution (manager : MediaServerManager) : MediaServerManager :=
  if manager.cleaners = 0 then manager
  else
    let manager : MediaServerManager := { manager with cleaners := manager.cleaners - 1 }
    manager.lowerIfEmpty

/-- `GetSubSystemAbility` resets the time before it creates a stub, under a lock of its own. -/
def resetAllInstancesReleasedTime (manager : MediaServerManager) : MediaServerManager :=
  { manager with allInstancesReleasedTime := 0 }

def step (manager : MediaServerManager) : ManagerEvent → MediaServerManager
  | .createStubObject type pid created => manager.createStubObject type pid created
  | .destroyStubObject type object now => manager.destroyStubObject type object now
  | .destroyStubObjectForPid pid now => manager.destroyStubObjectForPid pid now
  | .resetAllInstancesReleasedTime => manager.resetAllInstancesReleasedTime
  | .raise => manager.raise
  | .handleAsyncExecution => manager.handleAsyncExecution

end MediaServerManager

end PlayerFramework.ServerManager
