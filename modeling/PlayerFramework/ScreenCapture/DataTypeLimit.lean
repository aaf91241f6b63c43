import Mathlib.Data.List.Nodup
import PlayerFramework.ScreenCapture.Manager
import PlayerFramework.Transition

/-!
`ScreenCaptureServer::SetDataType` of any number of servers against one
`ScreenCaptureServerManager`.  A call sets the configuration under the server's lock, changes
the server's entry of `serverMap_` under the manager's, and counts the entries in a third
section.  `saUidAppUidMap_` is left to the sessions of system abilities.
-/

namespace PlayerFramework.ScreenCapture

open Transition

def ServerEntry.isOf (appUid : Int) (dataType : DataType) (entry : ServerEntry) : Bool :=
  decide (entry.appUid = appUid ∧ entry.dataType = dataType)

namespace ScreenCaptureServerManager

def updateServerDataType (sessionId : Int) (dataType : DataType) :
    ScreenCaptureServerManager → ScreenCaptureServerManager :=
  updateServer sessionId fun entry => { entry with dataType }

/-- The loop of `CheckSCServerSpecifiedDataTypeNum` over the entries that are left. -/
def checkDataTypeNum (curAppUid : Int) (dataType : DataType) :
    List (Int × ServerEntry) → Nat → Bool
  | [], _ => true
  | (_, entry) :: rest, count =>
    let count :=
      if entry.appUid = curAppUid ∧ entry.dataType = dataType then count + 1 else count
    if count ≤ maxSCServerDataTypePerUid then checkDataTypeNum curAppUid dataType rest count
    else false

def checkSCServerSpecifiedDataTypeNum (curAppUid : Int) (dataType : DataType)
    (manager : ScreenCaptureServerManager) : Bool :=
  checkDataTypeNum curAppUid dataType manager.serverMap 0

def entryOf (sessionId : Int) (manager : ScreenCaptureServerManager) : Option ServerEntry :=
  manager.serverMap.lookup sessionId

/-- How many servers of a uid are registered with a data type. -/
def countDataType (appUid : Int) (dataType : DataType) (manager : ScreenCaptureServerManager) :
    Nat :=
  manager.serverMap.countP fun entry => entry.2.isOf appUid dataType

/-- No uid has more servers of one data type than its limit.  A server whose data type has not
been set has none. -/
def WithinLimit (manager : ScreenCaptureServerManager) : Prop :=
  ∀ appUid dataType, dataType ≠ .invalid →
    manager.countDataType appUid dataType ≤ maxSCServerDataTypePerUid

/-- There is room for what a change makes of an entry: it stays as it is, it has no data type,
or its uid has fewer servers of that type than its limit. -/
def HasRoom (sessionId : Int) (change : ServerEntry → ServerEntry)
    (manager : ScreenCaptureServerManager) : Prop :=
  ∀ entry ∈ manager.entryOf sessionId,
    change entry = entry ∨ (change entry).dataType = .invalid ∨
      manager.countDataType (change entry).appUid (change entry).dataType <
        maxSCServerDataTypePerUid

section Counts

variable {entries : List (Int × ServerEntry)} {sessionId : Int}
  {change : ServerEntry → ServerEntry}

theorem checkDataTypeNum_iff (curAppUid : Int) (dataType : DataType)
    (entries : List (Int × ServerEntry)) (count : Nat)
    (below : count ≤ maxSCServerDataTypePerUid) :
    checkDataTypeNum curAppUid dataType entries count = true ↔
      count + entries.countP (fun entry => entry.2.isOf curAppUid dataType) ≤
        maxSCServerDataTypePerUid := by
  induction entries generalizing count with
  | nil => simpa [checkDataTypeNum] using below
  | cons head rest ih =>
    rw [List.countP_cons]
    by_cases counted : head.2.appUid = curAppUid ∧ head.2.dataType = dataType
    · simp only [checkDataTypeNum, if_pos counted, ServerEntry.isOf, decide_eq_true counted]
      by_cases room : count + 1 ≤ maxSCServerDataTypePerUid
      · rw [if_pos room, ih (count + 1) room]
        simp only [ServerEntry.isOf, if_true]
        omega
      · rw [if_neg room]
        simp only [if_true, Bool.false_eq_true, false_iff]
        omega
    · simp only [checkDataTypeNum, if_neg counted, if_pos below, ServerEntry.isOf,
        decide_eq_false counted, Bool.false_eq_true, if_false, Nat.add_zero]
      exact ih count below

theorem checkSCServerSpecifiedDataTypeNum_iff (curAppUid : Int) (dataType : DataType)
    (manager : ScreenCaptureServerManager) :
    manager.checkSCServerSpecifiedDataTypeNum curAppUid dataType = true ↔
      manager.countDataType curAppUid dataType ≤ maxSCServerDataTypePerUid := by
  have counted := checkDataTypeNum_iff curAppUid dataType manager.serverMap 0 (Nat.zero_le _)
  rwa [Nat.zero_add] at counted

theorem map_change_of_not_mem (absent : sessionId ∉ entries.map Prod.fst) :
    (entries.map fun entry => if entry.1 = sessionId then (entry.1, change entry.2) else entry) =
      entries := by
  have same : ∀ entry ∈ entries,
      (if entry.1 = sessionId then (entry.1, change entry.2) else entry) = id entry := by
    intro entry member
    have other : entry.1 ≠ sessionId := by
      intro same
      exact absent (same ▸ List.mem_map_of_mem member)
    exact if_neg other
  rw [List.map_congr_left same, List.map_id]

theorem countP_map_change (entries : List (Int × ServerEntry)) (counted : ServerEntry → Bool)
    (once : (entries.map Prod.fst).Nodup) {entry : ServerEntry}
    (found : entries.lookup sessionId = some entry) :
    (entries.map fun entry =>
        if entry.1 = sessionId then (entry.1, change entry.2) else entry).countP
          (counted ·.2) + (if counted entry then 1 else 0) =
      entries.countP (counted ·.2) + if counted (change entry) then 1 else 0 := by
  induction entries with
  | nil => simp at found
  | cons head rest ih =>
    simp only [List.map_cons, List.nodup_cons] at once
    rw [List.map_cons, List.countP_cons, List.countP_cons]
    by_cases here : head.1 = sessionId
    · subst here
      rw [List.lookup_cons_self, Option.some.injEq] at found
      subst found
      rw [map_change_of_not_mem once.1]
      simp only [if_true]
      omega
    · rw [List.lookup_cons, beq_false_of_ne (Ne.symm here)] at found
      have tail := ih once.2 found
      simp only [if_neg here]
      omega

end Counts

section Limit

variable {manager : ScreenCaptureServerManager} {sessionId : Int}
  {change : ServerEntry → ServerEntry}

theorem updateServer_of_absent (absent : manager.entryOf sessionId = none) :
    manager.updateServer sessionId change = manager := by
  unfold updateServer
  have kept : (manager.serverMap.map fun entry =>
      if entry.1 = sessionId then (entry.1, change entry.2) else entry) = manager.serverMap := by
    apply map_change_of_not_mem
    intro member
    rcases List.mem_map.mp member with ⟨entry, present, same⟩
    have missing := List.lookup_eq_none_iff.mp absent entry present
    simp [same] at missing
  rw [kept]

theorem countDataType_updateServer (once : (manager.serverMap.map Prod.fst).Nodup)
    {entry : ServerEntry} (found : manager.entryOf sessionId = some entry) (appUid : Int)
    (dataType : DataType) :
    (manager.updateServer sessionId change).countDataType appUid dataType +
        (if entry.isOf appUid dataType then 1 else 0) =
      manager.countDataType appUid dataType +
        if (change entry).isOf appUid dataType then 1 else 0 :=
  countP_map_change manager.serverMap (·.isOf appUid dataType) once found

theorem withinLimit_updateServer_iff (once : (manager.serverMap.map Prod.fst).Nodup)
    (within : manager.WithinLimit) :
    (manager.updateServer sessionId change).WithinLimit ↔ manager.HasRoom sessionId change := by
  cases found : manager.entryOf sessionId with
  | none =>
    rw [updateServer_of_absent found]
    simp [HasRoom, found, within]
  | some entry =>
    have counts := @countDataType_updateServer manager sessionId change once entry found
    constructor
    · intro later present isPresent
      rw [found, Option.mem_def, Option.some.injEq] at isPresent
      subst isPresent
      by_cases same : change entry = entry
      · exact Or.inl same
      by_cases untyped : (change entry).dataType = .invalid
      · exact Or.inr (Or.inl untyped)
      have most := later (change entry).appUid (change entry).dataType untyped
      have count := counts (change entry).appUid (change entry).dataType
      have new :
          (change entry).isOf (change entry).appUid (change entry).dataType = true := by
        simp [ServerEntry.isOf]
      have old : entry.isOf (change entry).appUid (change entry).dataType = false := by
        apply decide_eq_false
        intro unchanged
        apply same
        cases entry
        cases eq : change _
        simp_all
      rw [new, old] at count
      simp only [if_true, Bool.false_eq_true, if_false] at count
      exact Or.inr (Or.inr (by omega))
    · intro room appUid dataType typed
      have count := counts appUid dataType
      have before := within appUid dataType typed
      cases new : (change entry).isOf appUid dataType with
      | false =>
        rw [new] at count
        simp only [Bool.false_eq_true, if_false] at count
        omega
      | true =>
        rcases room entry found with same | untyped | below
        · rw [same] at count
          omega
        · have isType := (of_decide_eq_true new).2
          exact absurd (isType.symm.trans untyped) typed
        have isKey := of_decide_eq_true new
        rw [isKey.1, isKey.2] at below
        rw [new] at count
        simp only [if_true] at count
        omega

theorem withinLimit_of_sublist {other : ScreenCaptureServerManager}
    (fewer : List.Sublist other.serverMap manager.serverMap) (within : manager.WithinLimit) :
    other.WithinLimit := by
  intro appUid dataType typed
  exact Nat.le_trans (fewer.countP_le) (within appUid dataType typed)

theorem withinLimit_registerServer (appUid : Int) (within : manager.WithinLimit) :
    (manager.registerServer sessionId appUid).WithinLimit := by
  intro uid dataType typed
  have rest : (manager.serverMap.filter (·.1 ≠ sessionId)).countP
      (fun entry => entry.2.isOf uid dataType) ≤ maxSCServerDataTypePerUid :=
    Nat.le_trans List.filter_sublist.countP_le (within uid dataType typed)
  have untyped : ServerEntry.isOf uid dataType { appUid } = false := by
    apply decide_eq_false
    intro isKey
    exact typed isKey.2.symm
  unfold countDataType registerServer
  rw [List.countP_cons, untyped]
  simpa using rest

theorem keys_updateServer :
    (manager.updateServer sessionId change).serverMap.map Prod.fst =
      manager.serverMap.map Prod.fst := by
  unfold updateServer
  rw [List.map_map]
  apply List.map_congr_left
  intro entry _
  by_cases here : entry.1 = sessionId
  · simp [here]
  · simp [here]

theorem keys_filter (once : (manager.serverMap.map Prod.fst).Nodup) :
    ((manager.serverMap.filter (·.1 ≠ sessionId)).map Prod.fst).Nodup :=
  once.sublist (List.filter_sublist.map Prod.fst)

theorem keys_registerServer (appUid : Int) (once : (manager.serverMap.map Prod.fst).Nodup) :
    ((manager.registerServer sessionId appUid).serverMap.map Prod.fst).Nodup := by
  unfold registerServer
  rw [List.map_cons, List.nodup_cons]
  constructor
  · simp
  · exact keys_filter once

end Limit

end ScreenCaptureServerManager

/-- What `SetDataType` returns; `refused` carries the code of `CheckDataType`. -/
inductive SetDataTypeResult where
  | ok
  | invalidOperationCreate
  | refused (ret : MSErr)
  | invalidOperationOversize
deriving DecidableEq

/-- What `SetDataType` reads and sets of a `ScreenCaptureServer`. -/
structure TypedServer where
  sessionId : Int
  appUid : Int
  captureState : AVScreenCaptureState := .created
  dataType : DataType := .invalid
deriving DecidableEq

/-- A call behind its first section.  `configChange` and `entryChange` are history: the data
type of the configuration and of the entry before and after the call's own section. -/
structure SetDataTypeCall where
  server : Nat
  dataType : DataType
  appUid : Int
  configChange : DataType × DataType
  entryChange : Option (Option DataType × Option DataType) := none
deriving DecidableEq

structure SetDataTypeReturn where
  ret : SetDataTypeResult
  configChange : DataType × DataType
  entryChange : Option DataType × Option DataType
deriving DecidableEq

/-- `releases` are the session ids in the calls of `ReleaseInner` that have still to give them
back. -/
structure DataTypeServers where
  manager : ScreenCaptureServerManager
  servers : List TypedServer := []
  calls : List SetDataTypeCall := []
  returned : List SetDataTypeReturn := []
  releases : List Int := []

/-- `enter` is any change of a server's capture state, `setAppUid` a `SetAndCheckSaLimit` that
has found its caller valid. -/
inductive DataTypeEvent where
  | create (callingUid : Int)
  | setDataType (server : Nat) (dataType : DataType)
  | updateServerDataType (call : Nat)
  | checkDataTypeNum (call : Nat)
  | setAppUid (server : Nat) (appUid : Int)
  | enter (server : Nat) (state : AVScreenCaptureState)
  | release (server : Nat)
  | remove (call : Nat)
deriving DecidableEq

namespace DataTypeServers

def start (limit : Nat) : DataTypeServers where
  manager := { idGenerator := .new limit }

def create (callingUid : Int) (state : DataTypeServers) : DataTypeServers :=
  let new := state.manager.getNewSessionId
  if new.1 = -1 then { state with manager := new.2 }
  else
    { state with
      manager := new.2.registerServer new.1 callingUid
      servers := state.servers ++ [{ sessionId := new.1, appUid := callingUid }] }

/-- The data type that `serverMap_` has for a session. -/
def registeredType (sessionId : Int) (state : DataTypeServers) : Option DataType :=
  (state.manager.entryOf sessionId).map ServerEntry.dataType

/-- A call that ends in its first section has changed nothing. -/
def refuse (ret : SetDataTypeResult) (server : TypedServer) (state : DataTypeServers) :
    DataTypeServers :=
  let registered := state.registeredType server.sessionId
  { state with
    returned := state.returned ++
      [{ ret, configChange := (server.dataType, server.dataType)
         entryChange := (registered, registered) }] }

/-- `SetDataType` under the server's lock. -/
def setDataType (index : Nat) (dataType : DataType) (state : DataTypeServers) :
    DataTypeServers :=
  match state.servers[index]? with
  | none => state
  | some server =>
    if server.captureState.isState .config = false then
      state.refuse .invalidOperationCreate server
    else if checkDataType dataType ≠ .ok then
      state.refuse (.refused (checkDataType dataType)) server
    else
      { state with
        servers := state.servers.set index { server with dataType }
        calls := state.calls ++
          [{ server := index, dataType, appUid := server.appUid
             configChange := (server.dataType, dataType) }] }

/-- The session id is read when the manager is called, not under the server's lock. -/
def sessionOf (call : SetDataTypeCall) (state : DataTypeServers) : Int :=
  match state.servers[call.server]? with
  | none => -1
  | some server => server.sessionId

def updateServerDataType (index : Nat) (state : DataTypeServers) : DataTypeServers :=
  match state.calls[index]? with
  | none => state
  | some call =>
    match call.entryChange with
    | some _ => state
    | none =>
      let sessionId := state.sessionOf call
      let updated := { state with
        manager := state.manager.updateServerDataType sessionId call.dataType }
      let entryChange := some (state.registeredType sessionId, updated.registeredType sessionId)
      { updated with calls := state.calls.set index { call with entryChange } }

/-- `CheckSCServerSpecifiedDataTypeNum` of a call, which then returns. -/
def checkDataTypeNum (index : Nat) (state : DataTypeServers) : DataTypeServers :=
  match state.calls[index]? with
  | none => state
  | some call =>
    match call.entryChange with
    | none => state
    | some entryChange =>
      let ret : SetDataTypeResult :=
        if state.manager.checkSCServerSpecifiedDataTypeNum call.appUid call.dataType then .ok
        else .invalidOperationOversize
      { state with
        calls := state.calls.eraseIdx index
        returned := state.returned ++
          [{ ret, configChange := call.configChange, entryChange }] }

/-- `SetAndCheckSaLimit` behind `IsSAUidValid`, under the server's lock. -/
def setAppUid (index : Nat) (appUid : Int) (state : DataTypeServers) : DataTypeServers :=
  match state.servers[index]? with
  | none => state
  | some server =>
    { state with
      manager := state.manager.updateServerAppUid server.sessionId appUid
      servers := state.servers.set index { server with appUid } }

def enter (index : Nat) (captureState : AVScreenCaptureState) (state : DataTypeServers) :
    DataTypeServers :=
  match state.servers[index]? with
  | none => state
  | some server => { state with servers := state.servers.set index { server with captureState } }

/-- `ReleaseInner` under the server's lock. -/
def release (index : Nat) (state : DataTypeServers) : DataTypeServers :=
  match state.servers[index]? with
  | none => state
  | some server =>
    let captureState :=
      if server.captureState.isState .alive then .stopped else server.captureState
    { state with
      servers := state.servers.set index { server with sessionId := -1, captureState }
      releases := state.releases ++ [server.sessionId] }

def remove (call : Nat) (state : DataTypeServers) : DataTypeServers :=
  match state.releases[call]? with
  | none => state
  | some sessionId =>
    { state with
      manager := state.manager.removeScreenCaptureServerMap sessionId
      releases := state.releases.eraseIdx call }

def next (state : DataTypeServers) : DataTypeEvent → DataTypeServers
  | .create callingUid => state.create callingUid
  | .setDataType server dataType => state.setDataType server dataType
  | .updateServerDataType call => state.updateServerDataType call
  | .checkDataTypeNum call => state.checkDataTypeNum call
  | .setAppUid server appUid => state.setAppUid server appUid
  | .enter server captureState => state.enter server captureState
  | .release server => state.release server
  | .remove call => state.remove call

/-- A call that failed has changed neither the configuration nor the entry. -/
def Atomic (state : DataTypeServers) : Prop :=
  ∀ call ∈ state.returned, call.ret ≠ .ok →
    call.configChange.1 = call.configChange.2 ∧ call.entryChange.1 = call.entryChange.2

/-- There is room for the data type, or for the uid, that an event gives to an entry. -/
def RoomFor (state : DataTypeServers) : DataTypeEvent → Prop
  | .updateServerDataType index =>
    ∀ call ∈ state.calls[index]?, call.entryChange = none →
      state.manager.HasRoom (state.sessionOf call)
        fun entry => { entry with dataType := call.dataType }
  | .setAppUid index appUid =>
    ∀ server ∈ state.servers[index]?,
      state.manager.HasRoom server.sessionId fun entry => { entry with appUid }
  | _ => True

/-- Every session has one entry, and every call has a data type that is supported. -/
structure CallsChecked (state : DataTypeServers) : Prop where
  once : (state.manager.serverMap.map Prod.fst).Nodup
  typed : ∀ call ∈ state.calls, call.dataType ≠ .invalid

section Kept

variable {state : DataTypeServers}

theorem callsChecked_create (callingUid : Int) (checked : state.CallsChecked) :
    (state.create callingUid).CallsChecked := by
  unfold create
  by_cases refused : state.manager.getNewSessionId.1 = -1
  · rw [if_pos refused]
    exact { once := checked.once, typed := checked.typed }
  · rw [if_neg refused]
    exact
      { once := ScreenCaptureServerManager.keys_registerServer callingUid checked.once
        typed := checked.typed }

theorem checkDataType_typed {dataType : DataType} (supported : checkDataType dataType = .ok) :
    dataType ≠ .invalid := by
  intro untyped
  rw [untyped] at supported
  cases supported

variable (index : Nat)

theorem callsChecked_setDataType (dataType : DataType) (checked : state.CallsChecked) :
    (state.setDataType index dataType).CallsChecked := by
  unfold setDataType
  cases state.servers[index]? with
  | none => exact checked
  | some server =>
    by_cases config : server.captureState.isState .config = false
    · simp only [if_pos config]
      exact { once := checked.once, typed := checked.typed }
    by_cases supported : checkDataType dataType = .ok
    · simp only [if_neg config, supported, ne_eq, not_true_eq_false, if_false]
      refine { once := checked.once, typed := ?_ }
      intro call member
      rcases List.mem_append.mp member with old | new
      · exact checked.typed call old
      · rw [List.mem_singleton.mp new]
        exact checkDataType_typed supported
    · simp only [if_neg config, if_pos supported, ne_eq]
      exact { once := checked.once, typed := checked.typed }

theorem callsChecked_updateServerDataType (checked : state.CallsChecked) :
    (state.updateServerDataType index).CallsChecked := by
  unfold updateServerDataType
  cases found : state.calls[index]? with
  | none => exact checked
  | some call =>
    dsimp only
    cases phase : call.entryChange with
    | some change => exact checked
    | none =>
      refine { once := ?_, typed := ?_ }
      · simpa only [ScreenCaptureServerManager.updateServerDataType,
          ScreenCaptureServerManager.keys_updateServer] using checked.once
      intro other member
      rcases List.mem_or_eq_of_mem_set member with old | new
      · exact checked.typed other old
      · rw [new]
        exact checked.typed call (List.mem_of_getElem? found)

theorem callsChecked_checkDataTypeNum (checked : state.CallsChecked) :
    (state.checkDataTypeNum index).CallsChecked := by
  unfold checkDataTypeNum
  cases state.calls[index]? with
  | none => exact checked
  | some call =>
    dsimp only
    cases call.entryChange with
    | none => exact checked
    | some change =>
      refine { once := checked.once, typed := ?_ }
      intro other member
      exact checked.typed other (List.mem_of_mem_eraseIdx member)

theorem callsChecked_setAppUid (appUid : Int) (checked : state.CallsChecked) :
    (state.setAppUid index appUid).CallsChecked := by
  unfold setAppUid
  cases state.servers[index]? with
  | none => exact checked
  | some server =>
    refine { once := ?_, typed := checked.typed }
    simpa only [ScreenCaptureServerManager.updateServerAppUid,
      ScreenCaptureServerManager.keys_updateServer] using checked.once

theorem callsChecked_remove (checked : state.CallsChecked) : (state.remove index).CallsChecked := by
  unfold remove
  cases state.releases[index]? with
  | none => exact checked
  | some sessionId =>
    exact
      { once := ScreenCaptureServerManager.keys_filter checked.once
        typed := checked.typed }

theorem callsChecked_next (event : DataTypeEvent) (checked : state.CallsChecked) :
    (state.next event).CallsChecked := by
  cases event with
  | create callingUid => exact callsChecked_create callingUid checked
  | setDataType server dataType => exact callsChecked_setDataType server dataType checked
  | updateServerDataType call => exact callsChecked_updateServerDataType call checked
  | checkDataTypeNum call => exact callsChecked_checkDataTypeNum call checked
  | setAppUid server appUid => exact callsChecked_setAppUid server appUid checked
  | enter server captureState =>
    change (state.enter server captureState).CallsChecked
    unfold enter
    cases state.servers[server]? with
    | none => exact checked
    | some found => exact { once := checked.once, typed := checked.typed }
  | release server =>
    change (state.release server).CallsChecked
    unfold release
    cases state.servers[server]? with
    | none => exact checked
    | some found => exact { once := checked.once, typed := checked.typed }
  | remove call => exact callsChecked_remove call checked

end Kept

section Limit

variable {state : DataTypeServers}

/-- The calls are atomic and the entries within the limit. -/
def Limited (state : DataTypeServers) : Prop := state.Atomic ∧ state.manager.WithinLimit

theorem limited_create (callingUid : Int) (limited : state.Limited) :
    (state.create callingUid).Limited := by
  unfold create
  by_cases refused : state.manager.getNewSessionId.1 = -1
  · rw [if_pos refused]
    exact limited
  · rw [if_neg refused]
    exact ⟨limited.1,
      ScreenCaptureServerManager.withinLimit_registerServer callingUid limited.2⟩

theorem limited_refuse (ret : SetDataTypeResult) (server : TypedServer)
    (limited : state.Limited) : (state.refuse ret server).Limited := by
  constructor
  · intro call member failed
    rcases List.mem_append.mp member with old | new
    · exact limited.1 call old failed
    · rw [List.mem_singleton.mp new]
      exact ⟨rfl, rfl⟩
  · exact limited.2

variable (index : Nat)

theorem limited_setDataType (dataType : DataType) (limited : state.Limited) :
    (state.setDataType index dataType).Limited := by
  unfold setDataType
  cases state.servers[index]? with
  | none => exact limited
  | some server =>
    by_cases config : server.captureState.isState .config = false
    · simp only [if_pos config]
      exact limited_refuse _ server limited
    by_cases supported : checkDataType dataType = .ok
    · simp only [if_neg config, supported, ne_eq, not_true_eq_false, if_false]
      exact limited
    · simp only [if_neg config, if_pos supported, ne_eq]
      exact limited_refuse _ server limited

theorem limited_checkDataTypeNum (checked : state.CallsChecked) (limited : state.Limited) :
    (state.checkDataTypeNum index).Limited := by
  unfold checkDataTypeNum
  cases found : state.calls[index]? with
  | none => exact limited
  | some call =>
    dsimp only
    cases call.entryChange with
    | none => exact limited
    | some change =>
      have typed := checked.typed call (List.mem_of_getElem? found)
      have passes :=
        (ScreenCaptureServerManager.checkSCServerSpecifiedDataTypeNum_iff call.appUid
          call.dataType state.manager).mpr (limited.2 call.appUid call.dataType typed)
      refine ⟨?_, limited.2⟩
      intro other member failed
      rcases List.mem_append.mp member with old | new
      · exact limited.1 other old failed
      · rw [List.mem_singleton.mp new] at failed
        simp [passes] at failed

theorem limited_updateServerDataType_iff (checked : state.CallsChecked) (limited : state.Limited) :
    (state.updateServerDataType index).Limited ↔
      state.RoomFor (.updateServerDataType index) := by
  unfold updateServerDataType RoomFor
  cases found : state.calls[index]? with
  | none => simp [limited, found]
  | some call =>
    cases phase : call.entryChange with
    | some change => simp [limited, found, phase]
    | none =>
      have exactly := @ScreenCaptureServerManager.withinLimit_updateServer_iff state.manager
        (state.sessionOf call) (fun entry => { entry with dataType := call.dataType })
        checked.once limited.2
      simp only [found, Option.mem_def, Option.some.injEq, forall_eq', phase, forall_const]
      exact (and_iff_right limited.1).trans exactly

theorem limited_setAppUid_iff (appUid : Int) (checked : state.CallsChecked)
    (limited : state.Limited) :
    (state.setAppUid index appUid).Limited ↔ state.RoomFor (.setAppUid index appUid) := by
  unfold setAppUid RoomFor
  cases found : state.servers[index]? with
  | none => simp [limited, found]
  | some server =>
    have exactly := @ScreenCaptureServerManager.withinLimit_updateServer_iff state.manager
      server.sessionId (fun entry => { entry with appUid }) checked.once limited.2
    simp only [found, Option.mem_def, Option.some.injEq, forall_eq']
    exact (and_iff_right limited.1).trans exactly

theorem limited_remove (limited : state.Limited) : (state.remove index).Limited := by
  unfold remove
  cases state.releases[index]? with
  | none => exact limited
  | some sessionId =>
    exact ⟨limited.1,
      ScreenCaptureServerManager.withinLimit_of_sublist List.filter_sublist limited.2⟩

theorem limited_next_iff (event : DataTypeEvent) (limited : state.Limited)
    (checked : state.CallsChecked) : (state.next event).Limited ↔ state.RoomFor event := by
  cases event with
  | create callingUid => exact iff_of_true (limited_create callingUid limited) trivial
  | setDataType server dataType =>
    exact iff_of_true (limited_setDataType server dataType limited) trivial
  | updateServerDataType call => exact limited_updateServerDataType_iff call checked limited
  | checkDataTypeNum call =>
    exact iff_of_true (limited_checkDataTypeNum call checked limited) trivial
  | setAppUid server appUid => exact limited_setAppUid_iff server appUid checked limited
  | enter server captureState =>
    refine iff_of_true (?_ : (state.enter server captureState).Limited) trivial
    unfold enter
    cases state.servers[server]? with
    | none | some found => exact limited
  | release server =>
    refine iff_of_true (?_ : (state.release server).Limited) trivial
    unfold release
    cases state.servers[server]? with
    | none | some found => exact limited
  | remove call => exact iff_of_true (limited_remove call limited) trivial

theorem limited_start (limit : Nat) : (start limit).Limited := by
  constructor
  · intro call member
    simp [start] at member
  · intro appUid dataType _
    exact Nat.zero_le _

theorem callsChecked_start (limit : Nat) : (start limit).CallsChecked where
  once := List.nodup_nil
  typed := by simp [start]

end Limit

/-- In a run every failed call is atomic and every uid within its limit, always, just when
every entry that is changed on the way had room. -/
theorem limited_iff_roomFor (limit : Nat) (events : List DataTypeEvent) :
    (∀ count, (run next (start limit) (events.take count)).Atomic ∧
        (run next (start limit) (events.take count)).manager.WithinLimit) ↔
      Along next RoomFor (start limit) events :=
  always_iff_along_within Limited CallsChecked
    (fun _ event limited checked => limited_next_iff event limited checked)
    (fun _ event _ checked _ => callsChecked_next event checked)
    (limited_start limit) (callsChecked_start limit) events

def wholeSetDataType (server : Nat) (dataType : DataType) : List DataTypeEvent :=
  [.setDataType server dataType, .updateServerDataType 0, .checkDataTypeNum 0]

/-- Three servers of uid 7, which set the same data type. -/
def thirdServer : List DataTypeEvent :=
  [DataTypeEvent.create 7, .create 7, .create 7] ++ wholeSetDataType 0 .captureFile ++
    wholeSetDataType 1 .captureFile ++ wholeSetDataType 2 .captureFile

/-- The third call fails, but its configuration and its entry are set, and three servers of the
uid are registered with the data type. -/
theorem third_server_exceeds :
    ((run next (start 16) thirdServer).returned.getLast?.map fun call =>
        (call.ret, call.configChange, call.entryChange)) =
      some (.invalidOperationOversize, (.invalid, .captureFile),
        (some .invalid, some .captureFile)) ∧
    (run next (start 16) thirdServer).manager.countDataType 7 .captureFile = 3 ∧
    ¬ ∀ (limit : Nat) (events : List DataTypeEvent) (count : Nat),
      (run next (start limit) (events.take count)).Atomic ∧
        (run next (start limit) (events.take count)).manager.WithinLimit := by
  refine ⟨by decide, by decide, ?_⟩
  intro always
  have within := (always 16 thirdServer 12).2 7 .captureFile (by decide)
  revert within
  decide

end DataTypeServers

end PlayerFramework.ScreenCapture
