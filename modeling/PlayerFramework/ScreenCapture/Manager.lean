import PlayerFramework.ScreenCapture.Config

/-!
`UniqueIDGenerator` (`limitIdGenerator.cpp`) and `ScreenCaptureServerManager`
(`screen_capture_server_manager.cpp`).  `serverMap_` is the list of its entries;
an entry's weak pointer is left out.
-/

namespace PlayerFramework.ScreenCapture

structure UniqueIDGenerator where
  limit : Int
  availableIDs : List Int
deriving DecidableEq

namespace UniqueIDGenerator

def new (limit : Nat) : UniqueIDGenerator where
  limit
  availableIDs := (List.range limit).map fun i => (i : Int) + 1

def getNewID (generator : UniqueIDGenerator) : Int × UniqueIDGenerator :=
  match generator.availableIDs with
  | [] => (-1, generator)
  | id :: rest => (id, { generator with availableIDs := rest })

def returnID (id : Int) (generator : UniqueIDGenerator) : Int × UniqueIDGenerator :=
  if id < 1 ∨ id > generator.limit then (-1, generator)
  else if id ∈ generator.availableIDs then (id, generator)
  else (id, { generator with availableIDs := generator.availableIDs ++ [id] })

end UniqueIDGenerator

structure ServerEntry where
  appUid : Int
  dataType : DataType := .invalid
deriving DecidableEq

/-- A value of `saUidAppUidMap_`. -/
structure SaAppInfo where
  appUid : Int
  count : Nat
deriving DecidableEq

structure ScreenCaptureServerManager where
  serverMap : List (Int × ServerEntry) := []
  saUidAppUidMap : Int → Option SaAppInfo := fun _ => none
  idGenerator : UniqueIDGenerator

namespace ScreenCaptureServerManager

def maxSessionId : Nat := 16
def maxAppLimit : Nat := 4
def maxSessionPerUid : Nat := 4
def maxSCServerDataTypePerUid : Nat := 2

def getNewSessionId (manager : ScreenCaptureServerManager) : Int × ScreenCaptureServerManager :=
  (manager.idGenerator.getNewID.1, { manager with idGenerator := manager.idGenerator.getNewID.2 })

def registerServer (sessionId appUid : Int) (manager : ScreenCaptureServerManager) :
    ScreenCaptureServerManager :=
  { manager with
    serverMap := (sessionId, { appUid }) :: manager.serverMap.filter (·.1 ≠ sessionId) }

def removeScreenCaptureServerMap (sessionId : Int) (manager : ScreenCaptureServerManager) :
    ScreenCaptureServerManager :=
  { manager with
    serverMap := manager.serverMap.filter (·.1 ≠ sessionId)
    idGenerator := (manager.idGenerator.returnID sessionId).2 }

def updateServer (sessionId : Int) (change : ServerEntry → ServerEntry)
    (manager : ScreenCaptureServerManager) : ScreenCaptureServerManager :=
  { manager with
    serverMap := manager.serverMap.map fun entry =>
      if entry.1 = sessionId then (entry.1, change entry.2) else entry }

def updateServerAppUid (sessionId appUid : Int) :
    ScreenCaptureServerManager → ScreenCaptureServerManager :=
  updateServer sessionId fun entry => { entry with appUid }

/-- The loop of `CanScreenCaptureInstanceBeCreate` over the entries that are left. -/
def countSessions (appUid : Int) : List (Int × ServerEntry) → List Int → Nat → Bool
  | [], appUidSet, _ => decide (appUidSet.length ≤ maxAppLimit)
  | (_, entry) :: rest, appUidSet, countForUid =>
    let countForUid := if entry.appUid = appUid then countForUid + 1 else countForUid
    if countForUid ≤ maxSessionPerUid then
      countSessions appUid rest (appUidSet.insert entry.appUid) countForUid
    else false

def canScreenCaptureInstanceBeCreate (appUid : Int) (manager : ScreenCaptureServerManager) : Bool :=
  decide (manager.serverMap.length ≤ maxSessionId) && countSessions appUid manager.serverMap [] 0

def addSaAppInfoMap (saUid curAppUid : Int) (manager : ScreenCaptureServerManager) :
    ScreenCaptureServerManager :=
  let info := match manager.saUidAppUidMap saUid with
    | none => { appUid := curAppUid, count := 1 }
    | some info => { info with count := info.count + 1 }
  { manager with saUidAppUidMap := Function.update manager.saUidAppUidMap saUid (some info) }

def removeSaAppInfoMap (saUid : Int) (manager : ScreenCaptureServerManager) :
    ScreenCaptureServerManager :=
  if saUid = -1 then manager
  else match manager.saUidAppUidMap saUid with
    | none => manager
    | some info =>
      let left := if info.count = 0 then some info
        else if info.count - 1 = 0 then none
        else some { info with count := info.count - 1 }
      { manager with saUidAppUidMap := Function.update manager.saUidAppUidMap saUid left }

def isSAUidValid (saUid appUid : Int) (isSACalling : Bool) (manager : ScreenCaptureServerManager) :
    Bool :=
  decide (saUid ≥ 0 ∧ appUid ≥ 0) && isSACalling &&
    (manager.saUidAppUidMap saUid).all fun info =>
      decide (info.appUid = appUid) && decide (info.count < maxSessionPerUid)

/-- How many sessions the map counts for a caller. -/
def saCount (manager : ScreenCaptureServerManager) (saUid : Int) : Nat :=
  ((manager.saUidAppUidMap saUid).map (·.count)).getD 0

/-- No caller has an entry without a session. -/
def NoEmptyEntry (manager : ScreenCaptureServerManager) : Prop :=
  ∀ saUid info, manager.saUidAppUidMap saUid = some info → 0 < info.count

section Counts

variable {manager : ScreenCaptureServerManager} {saUid : Int}

@[simp] theorem saCount_add (curAppUid caller : Int) :
    (manager.addSaAppInfoMap saUid curAppUid).saCount caller =
      manager.saCount caller + if caller = saUid then 1 else 0 := by
  unfold saCount addSaAppInfoMap
  by_cases same : caller = saUid
  · subst same
    cases entry : manager.saUidAppUidMap caller <;> simp
  · simp [same]

theorem noEmptyEntry_add (curAppUid : Int) (full : manager.NoEmptyEntry) :
    (manager.addSaAppInfoMap saUid curAppUid).NoEmptyEntry := by
  intro caller info entry
  by_cases same : caller = saUid
  · subst same
    cases before : manager.saUidAppUidMap caller with
    | none =>
      simp only [addSaAppInfoMap, before, Function.update_self, Option.some.injEq] at entry
      subst entry
      exact Nat.one_pos
    | some old =>
      simp only [addSaAppInfoMap, before, Function.update_self, Option.some.injEq] at entry
      subst entry
      exact Nat.succ_pos _
  · apply full caller info
    simpa [addSaAppInfoMap, Function.update_of_ne same] using entry

theorem saCount_remove (full : manager.NoEmptyEntry) (known : saUid ≠ -1) (caller : Int) :
    (manager.removeSaAppInfoMap saUid).saCount caller =
      manager.saCount caller - if caller = saUid then 1 else 0 := by
  unfold saCount removeSaAppInfoMap
  rw [if_neg known]
  cases entry : manager.saUidAppUidMap saUid with
  | none =>
    by_cases same : caller = saUid
    · subst same
      simp [entry]
    · simp [same]
  | some info =>
    have counted : info.count ≠ 0 := Nat.ne_of_gt (full saUid info entry)
    by_cases same : caller = saUid
    · subst same
      by_cases last : info.count - 1 = 0
      · simp [entry, last, counted]
      · simp [entry, last, counted]
    · simp [same]

theorem noEmptyEntry_remove (full : manager.NoEmptyEntry) :
    (manager.removeSaAppInfoMap saUid).NoEmptyEntry := by
  unfold removeSaAppInfoMap
  split
  · exact full
  split
  · exact full
  rename_i info entry
  have counted : info.count ≠ 0 := Nat.ne_of_gt (full saUid info entry)
  intro caller left leftEntry
  by_cases same : caller = saUid
  · subst same
    by_cases last : info.count - 1 = 0
    · simp [last, counted] at leftEntry
    · simp only [counted, last, if_false, Function.update_self, Option.some.injEq] at leftEntry
      subst leftEntry
      exact Nat.pos_of_ne_zero last
  · apply full caller left
    simpa [Function.update_of_ne same] using leftEntry

theorem isSAUidValid_nonneg {appUid : Int} {isSACalling : Bool}
    (valid : manager.isSAUidValid saUid appUid isSACalling = true) : 0 ≤ saUid := by
  simp only [isSAUidValid, Bool.and_eq_true, decide_eq_true_eq] at valid
  exact valid.1.1.1

theorem isSAUidValid_count {appUid : Int} {isSACalling : Bool}
    (valid : manager.isSAUidValid saUid appUid isSACalling = true) :
    manager.saCount saUid < maxSessionPerUid := by
  unfold saCount
  cases entry : manager.saUidAppUidMap saUid with
  | none => decide
  | some info =>
    simp only [isSAUidValid, entry, Option.all_some, Bool.and_eq_true, decide_eq_true_eq] at valid
    exact valid.2.2

theorem saUidAppUidMap_eq_none_iff (full : manager.NoEmptyEntry) :
    manager.saUidAppUidMap saUid = none ↔ manager.saCount saUid = 0 := by
  unfold saCount
  cases entry : manager.saUidAppUidMap saUid with
  | none => simp
  | some info =>
    have counted : info.count ≠ 0 := Nat.ne_of_gt (full saUid info entry)
    simp [counted]

end Counts

end ScreenCaptureServerManager

end PlayerFramework.ScreenCapture
