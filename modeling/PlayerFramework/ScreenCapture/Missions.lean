import PlayerFramework.ScreenCapture.Config
import PlayerFramework.Transition
import Mathlib.Data.Finset.Dedup
import Mathlib.Data.Finset.Lattice.Lemmas

/-!
The windows of a selected app (`UpdateMissionData`, `AddWhiteListWindows` and
`InitVirtualScreenOption` in `screen_capture_server.cpp`,
`OnAppInstanceLifecycleEvent` in `screen_capture_server_callback.cpp`).  The screen
manager's white list of the virtual screen is a set of window ids.
-/

namespace PlayerFramework.ScreenCapture

open Transition

inductive SessionState where
  | stateDisconnect
  | stateConnect
  | stateForeground
  | stateActive
  | stateInactive
  | stateBackground
  | stateEnd
deriving DecidableEq

structure MissionInfo where
  missionId : UInt64
  isForeground : Bool
deriving DecidableEq

/-- The bits `ADD_WHITE_LIST`, `REMOVE_WHITE_LIST`, `NOTIFY_VISIBLE`,
`NOTIFY_UNAVAILABLE` and `UPDATE_MIRROR`. -/
structure MissionFlags where
  addWhiteList : Bool := false
  removeWhiteList : Bool := false
  notifyVisible : Bool := false
  notifyUnavailable : Bool := false
  updateMirror : Bool := false
deriving DecidableEq

structure LifecycleEventPayload where
  persistentId : Int32
  sessionState : SessionState
deriving DecidableEq

/-- `static_cast<uint64_t>(payload.persistentId_)`. -/
def LifecycleEventPayload.missionId (payload : LifecycleEventPayload) : UInt64 :=
  payload.persistentId.toInt64.toUInt64

def missionIds (missionInfos : List MissionInfo) : List UInt64 :=
  missionInfos.map (·.missionId)

def isForegroundAt (missionInfos : List MissionInfo) (it : Nat) : Bool :=
  missionInfos[it]?.any (·.isForeground)

/-- The flags and `missionInfos_` after an event; `allIds` are the ids of the latter. -/
def updateMissionData (missionId : UInt64) (state : SessionState)
    (missionInfos : List MissionInfo) : MissionFlags × List MissionInfo :=
  let it := missionInfos.findIdx? fun mission => mission.missionId == missionId
  match state with
  | .stateForeground | .stateActive =>
    match it with
    | none =>
      ({ addWhiteList := true, notifyVisible := true },
        missionInfos ++ [{ missionId, isForeground := true }])
    | some it => ({}, missionInfos.modify it fun mission => { mission with isForeground := true })
  | .stateBackground =>
    match it with
    | none => ({}, missionInfos)
    | some it =>
      if isForegroundAt missionInfos it then
        ({ updateMirror := true },
          missionInfos.modify it fun mission => { mission with isForeground := false })
      else ({}, missionInfos)
  | .stateDisconnect =>
    match it with
    | none => ({ removeWhiteList := true }, missionInfos)
    | some it =>
      ({ removeWhiteList := true
         updateMirror := isForegroundAt missionInfos it
         notifyUnavailable := (missionInfos.eraseIdx it).isEmpty }, missionInfos.eraseIdx it)
  | _ => ({}, missionInfos)

/-- What the handler of an event calls. -/
inductive MissionAction where
  | addWhiteListWindows (windowIDs : List UInt64)
  | notifyWindowVisible (missionId : UInt64)
  | notifyContentUnavailable
  | changeMirrorScreen
deriving DecidableEq

/-- `OnAppInstanceLifecycleEvent`; it has no branch for `REMOVE_WHITE_LIST`. -/
def missionActions (missionId : UInt64) (allIds : List UInt64) (flags : MissionFlags) :
    List MissionAction :=
  (if flags.addWhiteList then [MissionAction.addWhiteListWindows allIds] else []) ++
  (if flags.notifyVisible then [MissionAction.notifyWindowVisible missionId] else []) ++
  (if flags.notifyUnavailable then [MissionAction.notifyContentUnavailable] else []) ++
  (if flags.updateMirror then [MissionAction.changeMirrorScreen] else [])

/-- A running capture of a specified app that has its virtual screen. -/
structure AppCapture where
  captureState : AVScreenCaptureState
  running : captureState.isState .running = true
  missionInfos : List MissionInfo
  whiteList : Finset UInt64
deriving DecidableEq

namespace AppCapture

/-- The virtual screen is created with the ids of `InitVirtualScreenOption`. -/
def create (captureState : AVScreenCaptureState) (running : captureState.isState .running = true)
    (missionInfos : List MissionInfo) : AppCapture where
  captureState
  running
  missionInfos
  whiteList := (missionIds missionInfos).toFinset

def addWhiteListWindows (windowIDs : List UInt64) (capture : AppCapture) : MSErr × AppCapture :=
  if capture.captureState.isState .active then
    (.ok, { capture with whiteList := capture.whiteList ∪ windowIDs.toFinset })
  else (.invalidOperation, capture)

def act (capture : AppCapture) : MissionAction → AppCapture
  | .addWhiteListWindows windowIDs => (capture.addWhiteListWindows windowIDs).2
  | .notifyWindowVisible _ | .notifyContentUnavailable | .changeMirrorScreen => capture

def onAppInstanceLifecycleEvent (capture : AppCapture) (payload : LifecycleEventPayload) :
    AppCapture :=
  let updated := updateMissionData payload.missionId payload.sessionState capture.missionInfos
  (missionActions payload.missionId (missionIds updated.2) updated.1).foldl act
    { capture with missionInfos := updated.2 }

def Captures (capture : AppCapture) : Prop :=
  capture.whiteList = (missionIds capture.missionInfos).toFinset

instance (capture : AppCapture) : Decidable (Captures capture) := by
  unfold Captures
  infer_instance

/-- The event is no disconnect of a window that the app has once. -/
def KeepsWindows (capture : AppCapture) (payload : LifecycleEventPayload) : Prop :=
  payload.sessionState = .stateDisconnect →
    (missionIds capture.missionInfos).count payload.missionId ≠ 1

instance (capture : AppCapture) (payload : LifecycleEventPayload) :
    Decidable (KeepsWindows capture payload) := by
  unfold KeepsWindows
  infer_instance

end AppCapture

@[simp] theorem missionIds_modify (missionInfos : List MissionInfo) (it : Nat)
    (isForeground : Bool) :
    missionIds (missionInfos.modify it fun mission => { mission with isForeground }) =
      missionIds missionInfos := by
  induction missionInfos generalizing it with
  | nil => simp [missionIds]
  | cons mission rest ih =>
    cases it with
    | zero => simp [missionIds]
    | succ it => simpa [missionIds] using ih it

@[simp] theorem missionIds_append (missionInfos : List MissionInfo) (mission : MissionInfo) :
    missionIds (missionInfos ++ [mission]) = missionIds missionInfos ++ [mission.missionId] := by
  simp [missionIds]

variable {missionInfos : List MissionInfo} {missionId : UInt64}

theorem missionIds_eraseIdx {it : Nat}
    (found : (missionInfos.findIdx? fun mission => mission.missionId == missionId) = some it) :
    missionIds (missionInfos.eraseIdx it) = (missionIds missionInfos).erase missionId := by
  have erased : missionInfos.eraseP (fun mission => mission.missionId == missionId) =
      missionInfos.eraseIdx it := by
    rw [List.eraseP_eq_eraseIdx, found]
  have sameKey : (fun id => missionId == id) ∘ MissionInfo.missionId =
      fun mission => mission.missionId == missionId := by
    funext mission
    exact BEq.comm
  rw [List.erase_eq_eraseP, missionIds, missionIds, List.eraseP_map, sameKey, erased]

theorem notMem_of_findIdx?_none
    (absent : (missionInfos.findIdx? fun mission => mission.missionId == missionId) = none) :
    missionId ∉ missionIds missionInfos := by
  intro member
  obtain ⟨mission, inside, same⟩ := List.mem_map.mp member
  have different := List.findIdx?_eq_none_iff.mp absent mission inside
  simp [same] at different

theorem mem_of_findIdx?_some {it : Nat}
    (found : (missionInfos.findIdx? fun mission => mission.missionId == missionId) = some it) :
    missionId ∈ missionIds missionInfos := by
  obtain ⟨bound, same, -⟩ := List.findIdx?_eq_some_iff_getElem.mp found
  exact List.mem_map.mpr ⟨missionInfos[it], List.getElem_mem bound, by simpa using same⟩

theorem toFinset_erase_eq_iff {ids : List UInt64} {id : UInt64} (member : id ∈ ids) :
    ids.toFinset = (ids.erase id).toFinset ↔ ids.count id ≠ 1 := by
  have positive : 0 < ids.count id := List.count_pos_iff.mpr member
  constructor
  · intro same
    have still : id ∈ ids.erase id := by
      rw [← List.mem_toFinset, ← same, List.mem_toFinset]
      exact member
    have twice : 0 < (ids.erase id).count id := List.count_pos_iff.mpr still
    rw [List.count_erase_self] at twice
    omega
  · intro several
    have still : id ∈ ids.erase id := by
      rw [← List.count_pos_iff, List.count_erase_self]
      omega
    ext other
    simp only [List.mem_toFinset]
    by_cases same : other = id
    · subst same
      exact ⟨fun _ => still, fun _ => member⟩
    · exact (List.mem_erase_of_ne same).symm

namespace AppCapture

variable {capture : AppCapture} {payload : LifecycleEventPayload}

theorem active (capture : AppCapture) : capture.captureState.isState .active = true := by
  have running := capture.running
  revert running
  cases capture.captureState <;> decide

theorem captures_create (captureState : AVScreenCaptureState)
    (running : captureState.isState .running = true) (missionInfos : List MissionInfo) :
    (create captureState running missionInfos).Captures := rfl

theorem onAppInstanceLifecycleEvent_spec :
    let updated := updateMissionData payload.missionId payload.sessionState capture.missionInfos
    capture.onAppInstanceLifecycleEvent payload =
      { capture with
        missionInfos := updated.2
        whiteList := if updated.1.addWhiteList then
            capture.whiteList ∪ (missionIds updated.2).toFinset
          else capture.whiteList } := by
  intro updated
  unfold onAppInstanceLifecycleEvent missionActions
  simp only
  cases updated.1.addWhiteList <;> cases updated.1.notifyVisible <;>
    cases updated.1.notifyUnavailable <;> cases updated.1.updateMirror <;>
      simp [act, addWhiteListWindows, active, updated]

/-- One event keeps the captured windows exactly when it is not the disconnect of a
window that the app has once. -/
theorem captures_event_iff (captures : capture.Captures) :
    (capture.onAppInstanceLifecycleEvent payload).Captures ↔ KeepsWindows capture payload := by
  rw [onAppInstanceLifecycleEvent_spec]
  unfold Captures at captures ⊢
  unfold KeepsWindows updateMissionData
  cases found : capture.missionInfos.findIdx? fun mission =>
      mission.missionId == payload.missionId with
  | none =>
    have absent := notMem_of_findIdx?_none found
    have unlisted : (missionIds capture.missionInfos).count payload.missionId ≠ 1 := by
      rw [List.count_eq_zero_of_not_mem absent]
      decide
    cases payload.sessionState <;> simp [captures, unlisted, List.toFinset_append]
  | some it =>
    cases state : payload.sessionState with
    | stateDisconnect =>
      simp only [captures, missionIds_eraseIdx found, forall_true_left]
      exact toFinset_erase_eq_iff (mem_of_findIdx?_some found)
    | stateBackground =>
      cases foreground : isForegroundAt capture.missionInfos it <;>
        simp [captures, foreground]
    | stateForeground | stateActive | stateConnect | stateInactive | stateEnd => simp [captures]

end AppCapture

end PlayerFramework.ScreenCapture
