import Mathlib.Data.List.Nodup
import Mathlib.Data.List.Perm.Basic
import PlayerFramework.ScreenCapture.Manager
import PlayerFramework.Transition

/-!
The session ids of the `ScreenCaptureServer`s.  `Create` takes its id in one section and
registers the server in another; `ReleaseInner` takes the id from the server under the server's
lock and gives it back under the manager's.
-/

namespace PlayerFramework.ScreenCapture

open Transition ScreenCaptureServerManager UniqueIDGenerator

def sessionIdInvalid : Int := -1

/-- `registered` tells whether `Create` has registered and returned the server. -/
structure SessionServer where
  sessionId : Int
  registered : Bool := false
deriving DecidableEq

/-- `pointers` are the weak pointers of `serverMap_`, and `releases` the ids in the calls of
`ReleaseInner` that have still to give them back. -/
structure SessionServers where
  manager : ScreenCaptureServerManager
  pointers : Int → Option Nat := fun _ => none
  servers : List SessionServer := []
  releases : List Int := []

namespace SessionServers

def start (limit : Nat) : SessionServers where
  manager := { idGenerator := .new limit }

/-- `Create` up to its new server. -/
def create (sessions : SessionServers) : SessionServers :=
  let new := sessions.manager.getNewSessionId
  if new.1 = -1 then { sessions with manager := new.2 }
  else { sessions with
    manager := new.2, servers := sessions.servers ++ [{ sessionId := new.1 }] }

def register (index : Nat) (appUid : Int) (sessions : SessionServers) : SessionServers :=
  match sessions.servers[index]? with
  | none => sessions
  | some server =>
    if server.registered then sessions
    else
      { sessions with
        manager := sessions.manager.registerServer server.sessionId appUid
        pointers := Function.update sessions.pointers server.sessionId (some index)
        servers := sessions.servers.set index { server with registered := true } }

/-- `ReleaseInner` under the lock of the server. -/
def releaseInner (index : Nat) (sessions : SessionServers) : SessionServers :=
  match sessions.servers[index]? with
  | none => sessions
  | some server =>
    if server.registered then
      { sessions with
        servers := sessions.servers.set index { server with sessionId := sessionIdInvalid }
        releases := sessions.releases ++ [server.sessionId] }
    else sessions

def remove (call : Nat) (sessions : SessionServers) : SessionServers :=
  match sessions.releases[call]? with
  | none => sessions
  | some sessionId =>
    { sessions with
      manager := sessions.manager.removeScreenCaptureServerMap sessionId
      pointers := Function.update sessions.pointers sessionId none
      releases := sessions.releases.eraseIdx call }

end SessionServers

/-- The destructor of a server releases it, too. -/
inductive SessionIdEvent where
  | create
  | register (server : Nat) (appUid : Int)
  | release (server : Nat)
  | destroy (server : Nat)
  | remove (call : Nat)
deriving DecidableEq

namespace SessionServers

def next (sessions : SessionServers) (event : SessionIdEvent) : SessionServers :=
  match event with
  | .create => sessions.create
  | .register server appUid => sessions.register server appUid
  | .release server => sessions.releaseInner server
  | .destroy server => sessions.releaseInner server
  | .remove call => sessions.remove call

/-- The ids of the live servers, from their issue until they are given back. -/
def liveIds (sessions : SessionServers) : List Int :=
  (sessions.servers.map SessionServer.sessionId ++ sessions.releases).filter (· ≠ sessionIdInvalid)

def availableIDs (sessions : SessionServers) : List Int := sessions.manager.idGenerator.availableIDs

def entries (sessions : SessionServers) : List Int := sessions.manager.serverMap.map Prod.fst

/-- What the ids are to be: those of the live servers differ, the others are available once
each, an id is refused just when all are taken, and a server that has not been released has its
own entry. -/
structure IdsKept (limit : Nat) (sessions : SessionServers) : Prop where
  live : ∀ id ∈ sessions.liveIds, 1 ≤ id ∧ id ≤ limit
  distinct : sessions.liveIds.Nodup
  available : ∀ id, id ∈ sessions.availableIDs ↔ (1 ≤ id ∧ id ≤ limit) ∧ id ∉ sessions.liveIds
  once : sessions.availableIDs.Nodup
  refused : sessions.manager.getNewSessionId.1 = -1 ↔ sessions.liveIds.length = limit
  entered : ∀ id ∈ sessions.entries, id ∈ sessions.liveIds
  registered : ∀ (index : Nat) (server : SessionServer), sessions.servers[index]? = some server →
    server.registered = true → server.sessionId ≠ sessionIdInvalid →
      server.sessionId ∈ sessions.entries ∧ sessions.pointers server.sessionId = some index


def holds (id : Int) (registered : Bool) (server : SessionServer) : Bool :=
  server.registered == registered && server.sessionId == id

def holders (sessions : SessionServers) (registered : Bool) (id : Int) : Nat :=
  sessions.servers.countP (holds id registered)

/-- Every id is in one place: it is available, with a server, or on its way back. -/
structure Counted (limit : Nat) (sessions : SessionServers) : Prop where
  bound : sessions.manager.idGenerator.limit = limit
  total : ∀ id, id ≠ sessionIdInvalid →
    sessions.availableIDs.count id + sessions.holders false id + sessions.holders true id +
      sessions.releases.count id = if 1 ≤ id ∧ id ≤ limit then 1 else 0
  valid : sessionIdInvalid ∉ sessions.availableIDs
  issued : ∀ server ∈ sessions.servers, server.registered = false →
    server.sessionId ≠ sessionIdInvalid
  entries : ∀ id, sessions.entries.count id =
    if id = sessionIdInvalid then 0 else sessions.holders true id + sessions.releases.count id
  pointers : ∀ (index : Nat) (server : SessionServer), sessions.servers[index]? = some server →
    server.registered = true → server.sessionId ≠ sessionIdInvalid →
      sessions.pointers server.sessionId = some index

section Counts

variable {limit : Nat} {sessions : SessionServers}

variable {index : Nat} {server : SessionServer} {id : Int}

theorem holders_pos (found : sessions.servers[index]? = some server) :
    0 < sessions.holders server.registered server.sessionId := by
  rw [holders, List.countP_pos_iff]
  exact ⟨server, List.mem_of_getElem? found, by simp [holds]⟩

theorem holds_iff {registered : Bool} :
    holds id registered server = true ↔ server.registered = registered ∧ server.sessionId = id := by
  rw [holds, Bool.and_eq_true, beq_iff_eq, beq_iff_eq]

theorem countP_set_server {servers : List SessionServer} (found : servers[index]? = some server)
    (changed : SessionServer) (registered : Bool) (id : Int) :
    (servers.set index changed).countP (holds id registered) +
        (if server.registered = registered ∧ server.sessionId = id then 1 else 0) =
      servers.countP (holds id registered) +
        if changed.registered = registered ∧ changed.sessionId = id then 1 else 0 := by
  simpa only [holds_iff] using countP_set_add found (holds id registered) changed

theorem count_eraseIdx {ids : List Int} {call : Nat} (found : ids[call]? = some id) (other : Int) :
    ids.count other = (ids.eraseIdx call).count other + if id = other then 1 else 0 := by
  obtain ⟨inside, rfl⟩ := List.getElem?_eq_some_iff.mp found
  calc ids.count other = (ids[call] :: ids.eraseIdx call).count other :=
      ((List.getElem_cons_eraseIdx_perm inside).count_eq other).symm
    _ = (ids.eraseIdx call).count other + if ids[call] = other then 1 else 0 := by
      rw [List.count_cons]
      simp

theorem count_entries_filter (serverMap : List (Int × ServerEntry)) (sessionId id : Int) :
    ((serverMap.filter fun entry => entry.1 ≠ sessionId).map Prod.fst).count id =
      if id = sessionId then 0 else (serverMap.map Prod.fst).count id := by
  induction serverMap with
  | nil => simp
  | cons entry rest ih =>
    by_cases same : entry.1 = sessionId
    · simp only [List.filter_cons, same, ne_eq, not_true_eq_false, decide_false,
        Bool.false_eq_true, if_false, List.map_cons, List.count_cons]
      rw [ih]
      by_cases mine : id = sessionId
      · simp [mine]
      · simp [mine, Ne.symm mine]
    · simp only [List.filter_cons, ne_eq, same, not_false_eq_true, decide_true, if_true,
        List.map_cons, List.count_cons]
      rw [ih]
      by_cases mine : id = sessionId
      · simp [mine, same]
      · simp [mine]

theorem new_availableIDs (limit : Nat) : (new limit).availableIDs =
    (List.range limit).map fun i : Nat => (i : Int) + 1 := by
  rw [List.map_eq_flatMap]
  simp [new, List.map_flatMap]

theorem mem_ids : id ∈ (new limit).availableIDs ↔ 1 ≤ id ∧ id ≤ limit := by
  rw [new_availableIDs, List.mem_map]
  constructor
  · rintro ⟨i, listed, rfl⟩
    rw [List.mem_range] at listed
    omega
  · intro within
    refine ⟨(id - 1).toNat, List.mem_range.mpr ?_, ?_⟩
    · omega
    · omega

theorem nodup_ids (limit : Nat) : (new limit).availableIDs.Nodup := by
  rw [new_availableIDs]
  apply List.Nodup.map _ List.nodup_range
  intro first second same
  dsimp only at same
  omega

theorem counted_start : Counted limit (start limit) := by
  constructor
  · rfl
  · intro id _
    have counted : _ = if id ∈ (new limit).availableIDs then 1 else 0 :=
      (nodup_ids limit).count
    rw [if_congr mem_ids rfl rfl] at counted
    simpa [start, availableIDs, holders] using counted
  · intro listed
    have within := mem_ids.mp listed
    simp [sessionIdInvalid] at within
  · intro server member
    cases member
  · intro id
    simp [start, entries, holders]
  · intro index server found
    cases found

theorem counted_create (counted : Counted limit sessions) : Counted limit sessions.create := by
  unfold create getNewSessionId getNewID
  cases available : sessions.manager.idGenerator.availableIDs with
  | nil => exact counted
  | cons id rest =>
    have listed : sessions.availableIDs = id :: rest := available
    have known : id ≠ sessionIdInvalid := by
      rintro rfl
      exact counted.valid (listed ▸ List.mem_cons_self ..)
    simp only [if_neg (show ¬ id = -1 from known)]
    constructor
    · exact counted.bound
    · intro other valid
      have before := counted.total other valid
      rw [listed, List.count_cons] at before
      simp only [availableIDs, holders, List.countP_append, List.countP_singleton,
        holds] at before ⊢
      simp only [beq_self_eq_true, Bool.true_and, Bool.false_eq_true, beq_iff_eq,
        Bool.and_eq_true, false_and, if_false, Nat.add_zero] at before ⊢
      omega
    · intro member
      exact counted.valid (listed ▸ List.mem_cons_of_mem _ member)
    · intro server member unregistered
      rcases List.mem_append.mp member with old | new
      · exact counted.issued server old unregistered
      · rw [List.mem_singleton.mp new]
        exact known
    · intro other
      have before := counted.entries other
      simpa [entries, holders, List.countP_append, holds] using before
    · intro index server found registered valid
      rcases Nat.lt_or_ge index sessions.servers.length with within | beyond
      · rw [List.getElem?_append_left within] at found
        exact counted.pointers index server found registered valid
      · rw [List.getElem?_append_right beyond] at found
        rw [List.mem_singleton.mp (List.mem_of_getElem? found)] at registered
        cases registered

theorem Counted.unregistered (counted : Counted limit sessions)
    (found : sessions.servers[index]? = some server) (unregistered : server.registered = false) :
    server.sessionId ≠ sessionIdInvalid ∧ sessions.holders true server.sessionId = 0 ∧
      sessions.releases.count server.sessionId = 0 := by
  have valid := counted.issued server (List.mem_of_getElem? found) unregistered
  have total := counted.total server.sessionId valid
  have pos := holders_pos found
  rw [unregistered] at pos
  refine ⟨valid, ?_⟩
  split at total
  · omega
  · omega

theorem mem_set_server {servers : List SessionServer} {other : Nat} {changed rival : SessionServer}
    (found : servers[index]? = some server)
    (stands : (servers.set index changed)[other]? = some rival) :
    other = index ∧ rival = changed ∨ other ≠ index ∧ servers[other]? = some rival := by
  by_cases mine : other = index
  · subst mine
    rw [List.getElem?_set_self (List.getElem?_eq_some_iff.mp found).1] at stands
    exact .inl ⟨rfl, (Option.some.inj stands).symm⟩
  · rw [List.getElem?_set_ne (Ne.symm mine)] at stands
    exact .inr ⟨mine, stands⟩

theorem counted_register (index : Nat) (appUid : Int) (counted : Counted limit sessions) :
    Counted limit (sessions.register index appUid) := by
  unfold register
  cases found : sessions.servers[index]? with
  | none => exact counted
  | some server =>
    simp only
    split
    · exact counted
    rename_i unregistered
    rw [Bool.not_eq_true] at unregistered
    obtain ⟨valid, unheld, unreleased⟩ := counted.unregistered found unregistered
    have moved := countP_set_server found { server with registered := true }
    simp only [unregistered] at moved
    constructor
    · exact counted.bound
    · intro id known
      have before := counted.total id known
      have waiting := moved false id
      have entered := moved true id
      simp only [availableIDs, registerServer, holders] at before ⊢
      simp only [true_and, Bool.false_eq_true, Bool.true_eq_false, false_and, if_false,
        Nat.add_zero] at waiting entered
      omega
    · exact counted.valid
    · intro rival member other
      obtain ⟨place, stands⟩ := List.getElem?_of_mem member
      rcases mem_set_server found stands with ⟨_, rfl⟩ | ⟨_, before⟩
      · cases other
      · exact counted.issued rival (List.mem_of_getElem? before) other
    · intro id
      have before := counted.entries id
      have entered := moved true id
      simp only [true_and, Bool.false_eq_true, false_and, if_false, Nat.add_zero] at entered
      simp only [SessionServers.entries, registerServer, holders, List.map_cons,
        List.count_cons, count_entries_filter, beq_iff_eq] at before unheld ⊢
      by_cases mine : server.sessionId = id
      · subst mine
        rw [if_neg valid]
        simp only [if_true] at entered ⊢
        omega
      · rw [if_neg mine] at entered
        rw [if_neg (Ne.symm mine), if_neg mine, before, entered]
        rfl
    · intro other rival stands registered known
      dsimp only
      rcases mem_set_server found stands with ⟨rfl, rfl⟩ | ⟨_, before⟩
      · exact Function.update_self ..
      have pos := holders_pos before
      rw [registered] at pos
      have different : rival.sessionId ≠ server.sessionId := by
        intro same
        rw [same] at pos
        omega
      rw [Function.update_of_ne different]
      exact counted.pointers other rival before registered known

theorem counted_releaseInner (index : Nat) (counted : Counted limit sessions) :
    Counted limit (sessions.releaseInner index) := by
  unfold releaseInner
  cases found : sessions.servers[index]? with
  | none => exact counted
  | some server =>
    simp only
    split
    · rename_i registered
      obtain ⟨sessionId, _⟩ := server
      obtain rfl : _ = true := registered
      have moved := countP_set_server found ⟨sessionIdInvalid, true⟩
      have taken : ∀ id, id ≠ sessionIdInvalid →
          (sessions.servers.set index ⟨sessionIdInvalid, true⟩).countP (holds id true) +
              (sessions.releases ++ [sessionId]).count id =
            sessions.holders true id + sessions.releases.count id := by
        intro id known
        have change := moved true id
        simp only [true_and, Ne.symm known, if_false, Nat.add_zero] at change
        rw [List.count_append, List.count_singleton, holders]
        simp only [beq_iff_eq]
        split at change
        · rename_i mine
          rw [if_pos mine]
          omega
        · rename_i different
          rw [if_neg different]
          omega
      constructor
      · exact counted.bound
      · intro id known
        have before := counted.total id known
        have kept := moved false id
        have change := taken id known
        simp only [Bool.true_eq_false, false_and, if_false, Nat.add_zero] at kept
        simp only [availableIDs, holders] at before change ⊢
        omega
      · exact counted.valid
      · intro rival member other
        obtain ⟨place, stands⟩ := List.getElem?_of_mem member
        rcases mem_set_server found stands with ⟨_, rfl⟩ | ⟨_, before⟩
        · cases other
        · exact counted.issued rival (List.mem_of_getElem? before) other
      · intro id
        have before := counted.entries id
        by_cases invalid : id = sessionIdInvalid
        · rw [if_pos invalid] at before ⊢
          exact before
        · rw [if_neg invalid] at before ⊢
          have change := taken id invalid
          simp only [SessionServers.entries, holders] at before change ⊢
          omega
      · intro other rival stands held known
        rcases mem_set_server found stands with ⟨_, rfl⟩ | ⟨_, before⟩
        · exact absurd rfl known
        · exact counted.pointers other rival before held known
    · exact counted

/-- The id of a release under way is nowhere else. -/
theorem Counted.released {call : Nat} (counted : Counted limit sessions)
    (found : sessions.releases[call]? = some id) (valid : id ≠ sessionIdInvalid) :
    (1 ≤ id ∧ id ≤ limit) ∧ sessions.availableIDs.count id = 0 ∧
      sessions.holders false id = 0 ∧ sessions.holders true id = 0 ∧
        sessions.releases.count id = 1 := by
  have total := counted.total id valid
  have pos : 0 < sessions.releases.count id :=
    List.count_pos_iff.mpr (List.mem_of_getElem? found)
  split at total
  · rename_i within
    refine ⟨within, ?_⟩
    omega
  · omega

theorem counted_remove (call : Nat) (counted : Counted limit sessions) :
    Counted limit (sessions.remove call) := by
  unfold remove
  cases found : sessions.releases[call]? with
  | none => exact counted
  | some sessionId =>
    have erased := count_eraseIdx found
    have pointers : ∀ (index : Nat) (server : SessionServer),
        sessions.servers[index]? = some server → server.registered = true →
          server.sessionId ≠ sessionIdInvalid →
            Function.update sessions.pointers sessionId none server.sessionId = some index := by
      intro index server stands registered known
      have pos := holders_pos stands
      rw [registered] at pos
      have different : server.sessionId ≠ sessionId := by
        rintro rfl
        have nobody := (counted.released found known).2.2.2.1
        omega
      rw [Function.update_of_ne different]
      exact counted.pointers index server stands registered known
    have entries : ∀ id, ((sessions.manager.serverMap.filter fun entry =>
        entry.1 ≠ sessionId).map Prod.fst).count id = if id = sessionIdInvalid then 0
          else sessions.holders true id + (sessions.releases.eraseIdx call).count id := by
      intro id
      have before := counted.entries id
      have change := erased id
      rw [count_entries_filter]
      simp only [SessionServers.entries] at before
      by_cases invalid : id = sessionIdInvalid
      · rw [if_pos invalid] at before ⊢
        rw [before]
        exact ite_self 0
      · rw [if_neg invalid] at before ⊢
        by_cases mine : id = sessionId
        · subst mine
          obtain ⟨_, _, _, nobody, once⟩ := counted.released found invalid
          rw [if_pos rfl] at change ⊢
          omega
        · rw [if_neg (Ne.symm mine)] at change
          rw [if_neg mine, before, change]
          rfl
    by_cases valid : sessionId = sessionIdInvalid
    · have refused : sessions.manager.idGenerator.returnID sessionId =
          (-1, sessions.manager.idGenerator) := by
        rw [returnID, if_pos]
        left
        rw [valid]
        decide
      simp only [removeScreenCaptureServerMap, refused]
      refine ⟨counted.bound, ?_, counted.valid, counted.issued, entries, pointers⟩
      intro id known
      have before := counted.total id known
      have change := erased id
      rw [if_neg (by rw [valid]; exact Ne.symm known)] at change
      simp only [availableIDs, holders] at before ⊢
      omega
    · obtain ⟨within, away, unregistered, nobody, once⟩ := counted.released found valid
      have absent : sessionId ∉ sessions.manager.idGenerator.availableIDs :=
        List.count_eq_zero.mp away
      have returned : sessions.manager.idGenerator.returnID sessionId =
          (sessionId, { sessions.manager.idGenerator with
            availableIDs := sessions.manager.idGenerator.availableIDs ++ [sessionId] }) := by
        rw [returnID, if_neg, if_neg absent]
        rw [counted.bound]
        omega
      simp only [removeScreenCaptureServerMap, returned]
      refine ⟨counted.bound, ?_, ?_, counted.issued, entries, pointers⟩
      · intro id known
        have before := counted.total id known
        have change := erased id
        simp only [availableIDs, holders, List.count_append, List.count_singleton,
          beq_iff_eq] at before ⊢
        omega
      · intro listed
        rcases List.mem_append.mp listed with before | new
        · exact counted.valid before
        · exact valid (List.mem_singleton.mp new).symm

theorem counted_next (event : SessionIdEvent) (counted : Counted limit sessions) :
    Counted limit (sessions.next event) := by
  cases event with
  | create => exact counted_create counted
  | register server appUid => exact counted_register server appUid counted
  | release server | destroy server => exact counted_releaseInner server counted
  | remove call => exact counted_remove call counted

theorem count_liveIds (valid : id ≠ sessionIdInvalid) : sessions.liveIds.count id =
      sessions.holders false id + sessions.holders true id + sessions.releases.count id := by
  have split : ∀ servers : List SessionServer, (servers.map SessionServer.sessionId).count id =
        servers.countP (holds id false) + servers.countP (holds id true) := by
    intro servers
    induction servers with
    | nil => rfl
    | cons server rest ih =>
      obtain ⟨sessionId, registered⟩ := server
      rw [List.map_cons, List.count_cons, List.countP_cons, List.countP_cons]
      cases registered <;> simp [holds] <;> omega
  rw [liveIds, List.count_filter (by simpa using valid), List.count_append, split]
  rfl

theorem not_mem_liveIds : sessionIdInvalid ∉ sessions.liveIds := by
  intro member
  simpa using (List.mem_filter.mp member).2

theorem Counted.perm (counted : Counted limit sessions) :
    (sessions.availableIDs ++ sessions.liveIds).Perm (new limit).availableIDs := by
  have initial : Counted limit (SessionServers.start limit) := counted_start
  have ids : (SessionServers.start limit).availableIDs = (new limit).availableIDs := rfl
  rw [List.perm_iff_count]
  intro id
  rw [List.count_append]
  by_cases valid : id = sessionIdInvalid
  · have never := initial.valid
    rw [ids] at never
    subst valid
    rw [List.count_eq_zero.mpr counted.valid, List.count_eq_zero.mpr not_mem_liveIds,
      List.count_eq_zero.mpr never]
  · have total := counted.total id valid
    have all := initial.total id valid
    have none : (SessionServers.start limit).holders false id = 0 ∧
        (SessionServers.start limit).holders true id = 0 ∧
          (SessionServers.start limit).releases.count id = 0 := ⟨rfl, rfl, rfl⟩
    rw [ids] at all
    rw [count_liveIds valid]
    omega

theorem getNewSessionId_invalid (valid : sessionIdInvalid ∉ sessions.availableIDs) :
    sessions.manager.getNewSessionId.1 = -1 ↔ sessions.availableIDs = [] := by
  rw [getNewSessionId, getNewID]
  cases available : sessions.manager.idGenerator.availableIDs with
  | nil =>
    simp [availableIDs, available]
  | cons id rest =>
    simp only [availableIDs, available, List.cons_ne_nil, iff_false]
    rintro rfl
    apply valid
    rw [availableIDs, available]
    exact List.mem_cons_self ..

theorem Counted.idsKept (counted : Counted limit sessions) : IdsKept limit sessions := by
  have perm := counted.perm
  have nodup := perm.nodup_iff.mpr (nodup_ids limit)
  obtain ⟨once, distinct, apart⟩ := List.nodup_append.mp nodup
  constructor
  · intro id member
    exact mem_ids.mp (perm.mem_iff.mp (List.mem_append_right _ member))
  · exact distinct
  · intro id
    constructor
    · intro available
      refine ⟨mem_ids.mp (perm.mem_iff.mp (List.mem_append_left _ available)), ?_⟩
      intro live
      exact apart id available id live rfl
    · rintro ⟨within, free⟩
      rcases List.mem_append.mp (perm.mem_iff.mpr (mem_ids.mpr within)) with available | live
      · exact available
      · exact absurd live free
  · exact once
  · have length := perm.length_eq
    rw [List.length_append, new_availableIDs, List.length_map, List.length_range] at length
    rw [getNewSessionId_invalid counted.valid, ← List.length_eq_zero_iff]
    omega
  · intro id member
    have pos := List.count_pos_iff.mpr member
    rw [counted.entries id] at pos
    split at pos
    · exact absurd pos (Nat.lt_irrefl 0)
    · rename_i valid
      rw [← List.count_pos_iff, count_liveIds valid]
      omega
  · intro index server found registered valid
    refine ⟨?_, counted.pointers index server found registered valid⟩
    have pos := holders_pos found
    rw [registered] at pos
    rw [← List.count_pos_iff, counted.entries, if_neg valid]
    omega

/-- The ids of the live servers differ and lie within the limit, the queue has each of the
others once, `Create` is refused just when all are taken, and no release takes the entry of
another server, whatever the steps of `Create`, `Release` and the destructors. -/
theorem session_ids (limit : Nat) (events : List SessionIdEvent) :
    IdsKept limit (run next (start limit) events) := by
  have counted : Counted limit (run next (start limit) events) :=
    invariant_of_run (Counted limit) (fun _ event => counted_next event) events counted_start
  exact counted.idsKept

end Counts

/-- Two servers of three, one of them released twice at a time, and another one. -/
example : (run next (start 3) [.create, .create, .register 1 10, .register 0 10, .release 0,
    .release 0, .remove 1, .create, .remove 0, .destroy 0, .remove 0]).liveIds = [2, 3] := by
  decide

end SessionServers

end PlayerFramework.ScreenCapture
