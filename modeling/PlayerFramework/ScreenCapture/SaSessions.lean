import PlayerFramework.ScreenCapture.Manager
import PlayerFramework.Transition

/-!
The sessions that system abilities hold: `Create`, `SetAndCheckSaLimit`, `Release` and
the destruction of any number of `ScreenCaptureServer`s against one
`ScreenCaptureServerManager`.
-/

namespace PlayerFramework.ScreenCapture

open Transition ScreenCaptureServerManager

/-- What a session keeps in its `ScreenCaptureServer`.  `live`, `released` and
`acceptedFor`, the callers whose `SetAndCheckSaLimit` returned OK, are history. -/
structure CaptureSession where
  sessionId : Int
  appUid : Int
  saUid : Int := -1
  live : Bool := true
  released : Bool := false
  acceptedFor : List Int := []
deriving DecidableEq

/-- A live server that was accepted for a caller and is not yet released. -/
def CaptureSession.holds (saUid : Int) (server : CaptureSession) : Bool :=
  server.live && !server.released && decide (saUid ∈ server.acceptedFor)

structure CaptureSessions where
  manager : ScreenCaptureServerManager
  servers : List CaptureSession := []

namespace CaptureSessions

def start (limit : Nat) : CaptureSessions where
  manager := { idGenerator := .new limit }

/-- How many servers a caller holds. -/
def held (sessions : CaptureSessions) (saUid : Int) : Nat :=
  sessions.servers.countP (·.holds saUid)

def create (callingUid : Int) (sessions : CaptureSessions) : CaptureSessions :=
  let new := sessions.manager.getNewSessionId
  if new.1 = -1 then { sessions with manager := new.2 }
  else
    { manager := new.2.registerServer new.1 callingUid
      servers := sessions.servers ++ [{ sessionId := new.1, appUid := callingUid }] }

def setAndCheckSaLimit (saUid appUid : Int) (isSACalling : Bool)
    (manager : ScreenCaptureServerManager) (server : CaptureSession) :
    MSErr × ScreenCaptureServerManager × CaptureSession :=
  if manager.isSAUidValid saUid appUid isSACalling = false then
    (.invalidOperation, manager, { server with saUid := -1 })
  else
    let server := { server with appUid }
    let manager := (manager.updateServerAppUid server.sessionId appUid).addSaAppInfoMap saUid appUid
    if manager.canScreenCaptureInstanceBeCreate appUid = false then
      (.invalidOperation, manager, { server with saUid := -1 })
    else (.ok, manager, { server with saUid, acceptedFor := saUid :: server.acceptedFor })

def releaseInner (manager : ScreenCaptureServerManager) (server : CaptureSession) :
    ScreenCaptureServerManager × CaptureSession :=
  ((manager.removeSaAppInfoMap server.saUid).removeScreenCaptureServerMap server.sessionId,
    { server with sessionId := -1, released := true })

inductive SessionOp where
  | create (callingUid : Int)
  | setAndCheckSaLimit (server : Nat) (saUid appUid : Int) (isSACalling : Bool)
  | release (server : Nat)
  | destroy (server : Nat)
deriving DecidableEq

/-- A call on a server that is not live cannot be made. -/
def onServer (server : Nat) (sessions : CaptureSessions)
    (call : ScreenCaptureServerManager → CaptureSession →
      ScreenCaptureServerManager × CaptureSession) : CaptureSessions :=
  match sessions.servers[server]? with
  | none => sessions
  | some session =>
    if session.live then
      { manager := (call sessions.manager session).1
        servers := sessions.servers.set server (call sessions.manager session).2 }
    else sessions

def next (sessions : CaptureSessions) : SessionOp → CaptureSessions
  | .create callingUid => sessions.create callingUid
  | .setAndCheckSaLimit server saUid appUid isSACalling =>
    sessions.onServer server fun manager session =>
      (setAndCheckSaLimit saUid appUid isSACalling manager session).2
  | .release server => sessions.onServer server releaseInner
  | .destroy server => sessions.onServer server fun manager session =>
    ((releaseInner manager session).1, { (releaseInner manager session).2 with live := false })

/-- When a `SetAndCheckSaLimit` keeps the accounting: the server was not accepted
before, and a caller found valid gets its session. -/
def Admits (saUid appUid : Int) (isSACalling : Bool) (manager : ScreenCaptureServerManager)
    (server : CaptureSession) : Prop :=
  if manager.isSAUidValid saUid appUid isSACalling = false then
    server.released = true ∨ server.acceptedFor = []
  else server.released = false ∧ server.acceptedFor = [] ∧
    (manager.updateServerAppUid server.sessionId appUid).canScreenCaptureInstanceBeCreate appUid =
      true

/-- When a `ReleaseInner` keeps the accounting: a server is released again only after
its caller's last session. -/
def ReleasesOnce (manager : ScreenCaptureServerManager) (server : CaptureSession) : Prop :=
  server.released = true → manager.saUidAppUidMap server.saUid = none

/-- The condition on an operation under which the accounting is kept. -/
def Accountable (sessions : CaptureSessions) : SessionOp → Prop
  | .create _ => True
  | .setAndCheckSaLimit server saUid appUid isSACalling =>
    ∀ session ∈ sessions.servers[server]?, session.live = true →
      Admits saUid appUid isSACalling sessions.manager session
  | .release server | .destroy server =>
    ∀ session ∈ sessions.servers[server]?, session.live = true →
      ReleasesOnce sessions.manager session

instance (sessions : CaptureSessions) (op : SessionOp) : Decidable (Accountable sessions op) := by
  unfold Accountable Admits ReleasesOnce
  cases op <;> infer_instance

/-- A server in use remembers the caller that it was accepted for. -/
def Owned (server : CaptureSession) : Prop :=
  server.live = true → server.released = false → (server.acceptedFor = [] ∧ server.saUid = -1) ∨
      (0 ≤ server.saUid ∧ server.acceptedFor = [server.saUid])

/-- The manager counts for each caller the servers that it holds. -/
structure Accounted (sessions : CaptureSessions) : Prop where
  full : sessions.manager.NoEmptyEntry
  counts : ∀ saUid, sessions.manager.saCount saUid = sessions.held saUid
  bounded : ∀ saUid, sessions.manager.saCount saUid ≤ maxSessionPerUid
  owned : ∀ session ∈ sessions.servers, Owned session

variable {sessions : CaptureSessions} {server : Nat}

/-- The step rule: a call that changes the count of each caller as it changes what its
server holds keeps the accounting. -/
theorem accounted_onServer {call : ScreenCaptureServerManager → CaptureSession →
      ScreenCaptureServerManager × CaptureSession} (accounted : Accounted sessions)
    (kept : ∀ session ∈ sessions.servers[server]?, session.live = true →
      (call sessions.manager session).1.NoEmptyEntry ∧ Owned (call sessions.manager session).2 ∧
      ∀ saUid, (call sessions.manager session).1.saCount saUid ≤ maxSessionPerUid ∧
        (call sessions.manager session).1.saCount saUid + (if session.holds saUid then 1 else 0) =
          sessions.manager.saCount saUid +
            (if (call sessions.manager session).2.holds saUid then 1 else 0)) :
    Accounted (sessions.onServer server call) := by
  unfold onServer
  cases there : sessions.servers[server]? with
  | none => exact accounted
  | some session =>
    by_cases live : session.live = true
    · obtain ⟨full, owned, counted⟩ := kept session there live
      simp only [live, if_true]
      refine ⟨full, ?_, fun saUid => (counted saUid).1, ?_⟩
      · intro saUid
        have changed := countP_set_add there (·.holds saUid) (call sessions.manager session).2
        have before := accounted.counts saUid
        have after := (counted saUid).2
        simp only [held] at before ⊢
        omega
      · intro other member
        rcases List.mem_or_eq_of_mem_set member with old | new
        · exact accounted.owned other old
        · rw [new]
          exact owned
    · simpa [live] using accounted

theorem accounted_create (accounted : Accounted sessions) (callingUid : Int) :
    Accounted (sessions.create callingUid) := by
  unfold create
  simp only
  split
  · exact ⟨accounted.full, accounted.counts, accounted.bounded, accounted.owned⟩
  refine ⟨accounted.full, ?_, accounted.bounded, ?_⟩
  · intro saUid
    calc sessions.manager.saCount saUid = sessions.held saUid := accounted.counts saUid
      _ = _ := by simp [held, CaptureSession.holds]
  · intro session member
    rcases List.mem_append.mp member with old | new
    · exact accounted.owned session old
    · rw [List.mem_singleton.mp new]
      intro _ _
      exact .inl ⟨rfl, rfl⟩

theorem accounted_setAndCheckSaLimit {saUid appUid : Int} {isSACalling : Bool}
    (accounted : Accounted sessions)
    (admits : Accountable sessions (.setAndCheckSaLimit server saUid appUid isSACalling)) :
    Accounted (sessions.next (.setAndCheckSaLimit server saUid appUid isSACalling)) := by
  show Accounted (sessions.onServer server fun manager session =>
    (setAndCheckSaLimit saUid appUid isSACalling manager session).2)
  apply accounted_onServer accounted
  intro session there live
  have admitted := admits session there live
  unfold Admits at admitted
  unfold setAndCheckSaLimit
  split
  · rename_i invalid
    simp only [invalid, if_true] at admitted
    refine ⟨accounted.full, ?_, fun caller => ⟨accounted.bounded caller, rfl⟩⟩
    intro _ inUse
    rcases admitted with released | fresh
    · simp [released] at inUse
    · exact .inl ⟨fresh, rfl⟩
  · rename_i valid
    simp only [valid] at admitted
    obtain ⟨inUse, fresh, room⟩ := admitted
    have accepts : ((sessions.manager.updateServerAppUid session.sessionId appUid).addSaAppInfoMap
        saUid appUid).canScreenCaptureInstanceBeCreate appUid = true := room
    simp only [accepts, Bool.true_eq_false, if_false]
    have valid : sessions.manager.isSAUidValid saUid appUid isSACalling = true := by
      simpa using valid
    refine ⟨noEmptyEntry_add appUid accounted.full, ?_, ?_⟩
    · intro _ _
      exact .inr ⟨isSAUidValid_nonneg valid, by rw [fresh]⟩
    intro caller
    have count : ((sessions.manager.updateServerAppUid session.sessionId appUid).addSaAppInfoMap
        saUid appUid).saCount caller =
        sessions.manager.saCount caller + if caller = saUid then 1 else 0 :=
      saCount_add appUid caller
    have bound := accounted.bounded caller
    have free := isSAUidValid_count valid
    rw [count]
    by_cases same : caller = saUid
    · subst same
      simp only [if_true, CaptureSession.holds, live, inUse, fresh]
      constructor
      · omega
      · simp
    · simp only [same, if_false, CaptureSession.holds, fresh]
      constructor
      · omega
      · simp [same]

theorem accounted_release (alive : CaptureSession → Bool) (accounted : Accounted sessions)
    (once : ∀ session ∈ sessions.servers[server]?, session.live = true →
      ReleasesOnce sessions.manager session) :
    Accounted (sessions.onServer server fun manager session =>
      ((releaseInner manager session).1,
        { (releaseInner manager session).2 with live := alive session })) := by
  apply accounted_onServer accounted
  intro session there live
  have owned := accounted.owned session (List.mem_of_getElem? there)
  have releasesOnce := once session there live
  refine ⟨noEmptyEntry_remove accounted.full, by simp [Owned, releaseInner], ?_⟩
  intro caller
  have after : ({ (releaseInner sessions.manager session).2 with live := alive session }).holds
      caller = false := by
    simp [CaptureSession.holds, releaseInner]
  have bound := accounted.bounded caller
  -- what the session gives back is what it holds
  have given : ((releaseInner sessions.manager session).1).saCount caller +
      (if session.holds caller then 1 else 0) = sessions.manager.saCount caller := by
    have count : ((releaseInner sessions.manager session).1).saCount caller =
        (sessions.manager.removeSaAppInfoMap session.saUid).saCount caller := rfl
    rw [count]
    by_cases known : session.saUid = -1
    · have holdsNone : session.holds caller = false := by
        cases inUse : session.released with
        | true => simp [CaptureSession.holds, inUse]
        | false =>
          rcases owned live inUse with ⟨fresh, -⟩ | ⟨nonneg, -⟩
          · simp [CaptureSession.holds, fresh]
          · omega
      simp [removeSaAppInfoMap, known, holdsNone]
    · rw [saCount_remove accounted.full known]
      cases inUse : session.released with
      | true =>
        have gone := (saUidAppUidMap_eq_none_iff accounted.full).mp (releasesOnce inUse)
        by_cases same : caller = session.saUid
        · subst same
          simp [CaptureSession.holds, inUse, gone]
        · simp [CaptureSession.holds, inUse, same]
      | false =>
        have accepted : session.acceptedFor = [session.saUid] := by
          rcases owned live inUse with ⟨-, unknown⟩ | ⟨-, accepted⟩
          · exact absurd unknown known
          · exact accepted
        have holdsOne : session.holds caller = decide (caller = session.saUid) := by
          simp [CaptureSession.holds, live, inUse, accepted]
        by_cases same : caller = session.saUid
        · rw [decide_eq_true same] at holdsOne
          have counted : 0 < sessions.held caller :=
            List.countP_pos_iff.mpr ⟨session, List.mem_of_getElem? there, holdsOne⟩
          rw [← accounted.counts] at counted
          rw [if_pos same, if_pos holdsOne]
          omega
        · simp [holdsOne, same]
  rw [after]
  constructor
  · exact Nat.le_trans (Nat.le.intro given) bound
  · simpa using given

theorem accounted_next (op : SessionOp) (accounted : Accounted sessions)
    (accountable : Accountable sessions op) :
    Accounted (sessions.next op) := by
  cases op with
  | create callingUid => exact accounted_create accounted callingUid
  | setAndCheckSaLimit server saUid appUid isSACalling =>
    exact accounted_setAndCheckSaLimit accounted accountable
  | release server => exact accounted_release (·.live) accounted accountable
  | destroy server => exact accounted_release (fun _ => false) accounted accountable

/-- In every run of accountable operations a caller's entry is the number of servers it
holds, there is none without a server, and the limit is kept. -/
theorem sa_sessions_accounted {limit : Nat} {ops : List SessionOp}
    (accountable : Along next Accountable (start limit) ops) (saUid : Int) :
    let sessions := run next (start limit) ops
    (sessions.manager.saUidAppUidMap saUid).map (·.count) =
        (if sessions.held saUid = 0 then none else some (sessions.held saUid)) ∧
      sessions.held saUid ≤ maxSessionPerUid := by
  intro sessions
  have accounted : Accounted sessions := by
    refine invariant_of_along Accounted (fun _ op kept => accounted_next op kept) accountable ?_
    refine ⟨?_, fun _ => rfl, fun _ => Nat.zero_le _, ?_⟩
    · intro caller info entry
      cases entry
    · intro session member
      cases member
  have counts := accounted.counts saUid
  constructor
  · rw [← counts]
    cases entry : sessions.manager.saUidAppUidMap saUid with
    | none => simp [saCount, entry]
    | some info =>
      have positive := accounted.full saUid info entry
      simp [saCount, entry, Nat.ne_of_gt positive]
  · rw [← counts]
    exact accounted.bounded saUid

/-- A caller with two servers releases one and destroys it after its last session; a
third is accepted and a call of a stranger is refused. -/
theorem accountable_sessions :
    let sessions := run next (start 16) [.create 1000, .create 1000,
      .setAndCheckSaLimit 0 5000 20010 true, .release 0, .destroy 0,
      .setAndCheckSaLimit 1 5000 20010 true, .create 1000, .setAndCheckSaLimit 2 5000 20011 true]
    (sessions.manager.saUidAppUidMap 5000).map (·.count) =
        (if sessions.held 5000 = 0 then none else some (sessions.held 5000)) ∧
      sessions.held 5000 ≤ maxSessionPerUid :=
  sa_sessions_accounted (by decide) 5000

/-- `Release` and the destructor take the session of one server away twice, so a caller
that still holds a server has no entry. -/
theorem release_and_destroy_count_twice :
    let sessions := run next (start 16) [.create 1000, .create 1000,
      .setAndCheckSaLimit 0 5000 20010 true, .setAndCheckSaLimit 1 5000 20010 true,
      .release 0, .destroy 0]
    sessions.held 5000 = 1 ∧ sessions.manager.saUidAppUidMap 5000 = none := by
  decide

end CaptureSessions

end PlayerFramework.ScreenCapture
