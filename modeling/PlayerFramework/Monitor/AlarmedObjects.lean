import PlayerFramework.Monitor.Heartbeat

/-!
Whether the objects of a process are told of its alarms: the flag of every registered object
against the one in `timesMap_`.
-/

namespace PlayerFramework.Monitor

open Transition

namespace MonitorServer

/-- The flag of an object once `ObjCtrl` has told what it has to tell. While the thread waits it
is the object's own flag. -/
def settled (obj : Nat) (server : MonitorServer) : Bool :=
  match server.thread with
  | .controlling recoveryList abnormalList =>
    if obj ∈ abnormalList then true
    else if obj ∈ recoveryList then false
    else decide (obj ∈ server.alarmedObjs)
  | _ => decide (obj ∈ server.alarmedObjs)

/-- Every registered object is alarmed exactly if its process is. -/
def Consistent (server : MonitorServer) : Prop :=
  ∀ pid, ∀ obj ∈ server.objListMap pid, server.settled obj = server.alarmedIn pid

/-- The countdown of the process has run out with the wait, which does not count for a process
that was heard during it. -/
def runsOut (elapsed : Nat) (pid : Int) (server : MonitorServer) : Bool :=
  match server.find pid with
  | none => false
  | some info =>
    decide ((if info.triggerFlag then info.time else toInt32 (info.time - toInt32 elapsed)) ≤ 0)

/-- No process with objects is disabled during its alarm, an object comes with the flag of its
process, and a wait ends the countdowns of all processes of an object or of none. -/
def Orderly (server : MonitorServer) (event : MonitorEvent) : Prop :=
  match event with
  | .disableMonitor pid => server.alarmedIn pid = true → server.objListMap pid = []
  | .registerObj pid obj =>
    obj ∈ server.objListMap pid ∨ server.settled obj = server.alarmedIn pid
  | .wake =>
    ∀ elapsed, server.dueRound = some elapsed → ∀ pid other,
      ∀ obj ∈ server.objListMap pid, obj ∈ server.objListMap other →
        server.runsOut elapsed pid = server.runsOut elapsed other
  | _ => True

/-- A process has one entry in `timesMap_`. -/
def Unique (server : MonitorServer) : Prop :=
  (server.timesMap.map TimeInfo.pid).Nodup

variable {server : MonitorServer}

variable {info : TimeInfo}

theorem find_of_unique (unique : server.Unique) (member : info ∈ server.timesMap) :
    server.find info.pid = some info :=
  find_of_mem unique member

theorem next_unique (unique : server.Unique) (event : MonitorEvent) :
    (server.next event).Unique := by
  cases event with
  | enableMonitor pid =>
    simp only [next, enableMonitor]
    cases found : server.find pid with
    | some info => exact unique
    | none =>
      have other := find_none found
      simp only [Unique, record, List.map_append, List.map_cons, List.map_nil]
      rw [List.nodup_append]
      refine ⟨unique, by simp, ?_⟩
      intro a first b second same
      rcases List.mem_map.mp first with ⟨info, present, named⟩
      rw [List.mem_singleton] at second
      exact other info present (named.trans (same.trans second))
  | click pid =>
    simp only [next, click]
    cases found : server.find pid with
    | none => exact unique
    | some info =>
      have pids : ((server.timesMap.map fun info =>
          if info.pid = pid then
            { info with time := monitorTimeMs, triggerFlag := true, heardAt := server.now }
          else info).map TimeInfo.pid) = server.timesMap.map TimeInfo.pid := by
        rw [List.map_map]
        apply List.map_congr_left
        intro info _
        simp only [Function.comp_apply]
        split <;> rfl
      simp only [Unique, record]
      rw [pids]
      exact unique
  | wake =>
    rcases wake_cases server with ⟨elapsed, due, rounds⟩ | ⟨none, -⟩
    · simp only [next, rounds, Unique, round]
      rw [judged_pids, counted_pids]
      exact unique
    · exact (untouched_next server .wake (by simp) (by simp) (Or.inr none)).unique unique
  | tick _ | disableMonitor _ | onClientDie _ | registerObj _ _ | cancellationObj _ _
  | createThread | startWait | objCtrl =>
    exact (untouched_next server _ (by simp) (by simp) (Or.inl (by simp))).unique unique

theorem judge_alarmed_eq (info : TimeInfo) : info.judge.alarmed = decide (info.time ≤ 0) := by
  by_cases lapsed : info.time ≤ 0
  · have low : ¬ info.time > 0 := by omega
    cases alarmed : info.alarmed <;>
      simp [TimeInfo.judge, TimeInfo.recovers, TimeInfo.expires, alarmed, lapsed, low]
  · have left : info.time > 0 := by omega
    cases alarmed : info.alarmed <;>
      simp [TimeInfo.judge, TimeInfo.recovers, TimeInfo.expires, alarmed, left, lapsed]

/-- The alarm that a round leaves a process with. -/
theorem runsOut_eq (elapsed : Nat) (pid : Int) (server : MonitorServer) :
    server.runsOut elapsed pid =
      match server.find pid with
      | none => false
      | some info =>
        (info.countDown (toInt32 elapsed) (server.waited + elapsed)).judge.alarmed := by
  unfold runsOut
  split
  · rfl
  · rw [judge_alarmed_eq, TimeInfo.countDown]
    split <;> rfl

theorem round_runsOut (elapsed : Nat) (pid : Int) :
    (server.round elapsed).alarmedIn pid = server.runsOut elapsed pid :=
  (alarmedIn_round elapsed pid).trans (runsOut_eq elapsed pid server).symm

section Flags

variable {after : MonitorServer}

/-- Steps that change neither what is found nor what the objects come to. -/
theorem Consistent.same (consistent : server.Consistent)
    (objects : ∀ pid, ∀ obj ∈ after.objListMap pid, obj ∈ server.objListMap pid)
    (settled : ∀ obj, after.settled obj = server.settled obj)
    (alarmedIn : ∀ pid, after.alarmedIn pid = server.alarmedIn pid) : after.Consistent := by
  intro pid obj member
  rw [settled, alarmedIn]
  exact consistent pid obj (objects pid obj member)

theorem settled_objCtrl (obj : Nat) : server.objCtrl.settled obj = server.settled obj := by
  rw [objCtrl]
  split
  · rename_i told recoveryList abnormalList thread
    by_cases same : obj = told
    · simp [settled, thread, same]
    · simp [settled, thread, same]
  · rename_i told abnormalList thread
    by_cases same : obj = told
    · simp [settled, thread, same]
    · simp [settled, thread, same]
  · rename_i thread
    simp [settled, thread]
  · rfl

end Flags

theorem disableMonitor_iff (consistent : server.Consistent) (pid : Int) :
    (server.disableMonitor pid).Consistent ↔ server.Orderly (.disableMonitor pid) := by
  constructor
  · intro later alarmed
    rw [List.eq_nil_iff_forall_not_mem]
    intro obj member
    have before : server.settled obj = server.alarmedIn pid := consistent pid obj member
    have after : server.settled obj = (server.disableMonitor pid).alarmedIn pid :=
      later pid obj member
    rw [alarmedIn_filter, if_pos rfl, before, alarmed] at after
    cases after
  · intro orderly other obj member
    have before : server.settled obj = server.alarmedIn other := consistent other obj member
    show server.settled obj = _
    rw [alarmedIn_filter, before]
    split
    · rename_i same
      rw [same] at member ⊢
      cases alarmed : server.alarmedIn pid with
      | false => rfl
      | true =>
        have none : (server.disableMonitor pid).objListMap pid = [] := orderly alarmed
        rw [none] at member
        cases member
    · rfl

theorem registerObj_iff (consistent : server.Consistent) (pid : Int) (obj : Nat) :
    (server.registerObj pid obj).Consistent ↔ server.Orderly (.registerObj pid obj) := by
  rw [registerObj]
  by_cases known : obj ∈ server.objListMap pid
  · rw [if_pos known]
    exact iff_of_true consistent (Or.inl known)
  rw [if_neg known]
  constructor
  · intro later
    exact Or.inr (later pid obj (by simp))
  intro orderly other second member
  simp only at member
  split at member
  · rename_i same
    rcases List.mem_append.mp member with member | new
    · exact same ▸ consistent pid second member
    · rw [List.mem_singleton.mp new, same]
      rcases orderly with present | flag
      · exact absurd present known
      · exact flag
  · exact consistent other second member

theorem onClientDie_consistent (consistent : server.Consistent) (pid : Int) :
    (server.onClientDie pid).Consistent := by
  intro other obj member
  simp only [onClientDie] at member
  split at member
  · cases member
  rename_i apart
  have same : (server.onClientDie pid).alarmedIn other = server.alarmedIn other := by
    have removed : (server.onClientDie pid).alarmedIn other =
        (server.disableMonitor pid).alarmedIn other := rfl
    rw [removed, alarmedIn_filter, if_neg apart]
  rw [same]
  exact consistent other obj member

theorem cancellationObj_consistent (consistent : server.Consistent) (pid : Int) (obj : Nat) :
    (server.cancellationObj pid obj).Consistent := by
  refine consistent.same ?_ (fun _ => rfl) (fun _ => rfl)
  intro other second member
  simp only [cancellationObj] at member
  split at member
  · rename_i same
    rw [same]
    exact List.mem_of_mem_erase member
  · exact member

section Round

variable {elapsed : Nat}

theorem mem_told (unique : server.Unique) (test : TimeInfo → Bool) (obj : Nat) :
    (obj ∈ ((server.timesMap.map (TimeInfo.countDown (toInt32 elapsed)
        (server.waited + elapsed))).filter test).flatMap fun info => server.objListMap info.pid) ↔
      ∃ pid info, server.find pid = some info ∧
        test (info.countDown (toInt32 elapsed) (server.waited + elapsed)) = true ∧
          obj ∈ server.objListMap pid := by
  constructor
  · intro member
    rcases List.mem_flatMap.mp member with ⟨counted, found, told⟩
    rcases List.mem_filter.mp found with ⟨found, holds⟩
    rcases List.mem_map.mp found with ⟨info, present, rfl⟩
    rw [countDown_pid] at told
    exact ⟨info.pid, info, find_of_unique unique present, holds, told⟩
  · intro exists_
    rcases exists_ with ⟨pid, info, found, holds, told⟩
    rcases find_pid found with ⟨named, present⟩
    refine List.mem_flatMap.mpr ⟨_, List.mem_filter.mpr ⟨List.mem_map_of_mem present, holds⟩, ?_⟩
    rw [countDown_pid, named]
    exact told

theorem judge_of_expires (expires : info.expires = true) : info.judge.alarmed = true := by
  have stays : info.recovers = false := by
    simp only [TimeInfo.expires, Bool.and_eq_true, decide_eq_true_iff] at expires
    simp only [TimeInfo.recovers, Bool.and_eq_false_iff, decide_eq_false_iff_not]
    exact Or.inr (by omega)
  simp [TimeInfo.judge, stays, expires]

theorem round_consistent_iff (unique : server.Unique) (consistent : server.Consistent)
    (due : server.dueRound = some elapsed) :
    (server.round elapsed).Consistent ↔ ∀ pid other, ∀ obj ∈ server.objListMap pid,
      obj ∈ server.objListMap other →
        server.runsOut elapsed pid = server.runsOut elapsed other := by
  have before : ∀ obj, server.settled obj = decide (obj ∈ server.alarmedObjs) := by
    intro obj
    rw [dueRound] at due
    rw [settled]
    cases thread : server.thread with
    | controlling recoveryList abnormalList =>
      rw [thread] at due
      cases due
    | _ => rfl
  constructor
  · intro later pid other obj first second
    have one := later pid obj first
    have two := later other obj second
    rw [round_runsOut] at one two
    exact one.symm.trans two
  · intro together pid obj member
    rw [round_runsOut]
    simp only [settled, round]
    split
    · rename_i told
      rcases (mem_told unique TimeInfo.expires obj).mp told with
        ⟨other, info, found, expires, registered⟩
      have alarm : server.runsOut elapsed other = true := by
        simp only [runsOut_eq, found]
        exact judge_of_expires expires
      rw [together pid other obj member registered, alarm]
    · rename_i quiet
      split
      · rename_i told
        rcases (mem_told unique TimeInfo.recovers obj).mp told with
          ⟨other, info, found, recovers, registered⟩
        have quieted : server.runsOut elapsed other = false := by
          simp [runsOut_eq, found, TimeInfo.judge, recovers]
        rw [together pid other obj member registered, quieted]
      · rename_i still
        have flag : decide (obj ∈ server.alarmedObjs) = server.alarmedIn pid :=
          (before obj).symm.trans (consistent pid obj member)
        refine Eq.trans flag ?_
        simp only [alarmedIn, runsOut_eq]
        cases found : server.find pid with
        | none => rfl
        | some info =>
          have goes : (info.countDown (toInt32 elapsed)
              (server.waited + elapsed)).expires = false := by
            by_contra expires
            exact quiet ((mem_told unique TimeInfo.expires obj).mpr
              ⟨pid, info, found, by simpa using expires, member⟩)
          have stays : (info.countDown (toInt32 elapsed)
              (server.waited + elapsed)).recovers = false := by
            by_contra recovers
            exact still ((mem_told unique TimeInfo.recovers obj).mpr
              ⟨pid, info, found, by simpa using recovers, member⟩)
          simp [TimeInfo.judge, goes, stays, countDown_alarmed]

end Round

theorem next_consistent_iff (unique : server.Unique) (consistent : server.Consistent)
    (event : MonitorEvent) : (server.next event).Consistent ↔ server.Orderly event := by
  cases event with
  | tick passed => exact iff_of_true consistent trivial
  | enableMonitor pid =>
    refine iff_of_true (consistent.same ?_ ?_ (alarmedIn_enableMonitor pid)) trivial
    · intro other obj member
      simp only [next, enableMonitor] at member
      split at member <;> exact member
    · intro obj
      simp only [next, enableMonitor]
      split <;> rfl
  | click pid =>
    refine iff_of_true (consistent.same ?_ ?_ (alarmedIn_click pid)) trivial
    · intro other obj member
      simp only [next, click] at member
      split at member <;> exact member
    · intro obj
      simp only [next, click]
      split <;> rfl
  | disableMonitor pid => exact disableMonitor_iff consistent pid
  | onClientDie pid => exact iff_of_true (onClientDie_consistent consistent pid) trivial
  | registerObj pid obj => exact registerObj_iff consistent pid obj
  | cancellationObj pid obj =>
    exact iff_of_true (cancellationObj_consistent consistent pid obj) trivial
  | createThread =>
    refine iff_of_true ?_ trivial
    simp only [next, createThread]
    split
    · rename_i absent
      exact consistent.same (fun _ _ member => member)
        (fun obj => by simp [settled, absent.2]) (fun _ => rfl)
    · exact consistent
  | startWait =>
    refine iff_of_true ?_ trivial
    simp only [next, startWait]
    split
    · rename_i running
      exact consistent.same (fun _ _ member => member)
        (fun obj => by simp [settled, running]) (fun _ => rfl)
    · exact consistent
  | wake =>
    rcases wake_cases server with
      ⟨elapsed, due, rounds⟩ | ⟨none, same | ⟨-, ⟨timeStart, deadline, waiting⟩, gone⟩⟩
    · simp only [next, rounds, Orderly, due, Option.some.injEq, forall_eq']
      exact round_consistent_iff unique consistent due
    · refine iff_of_true ?_ (by simp [Orderly, none])
      simp only [next, same]
      exact consistent
    · refine iff_of_true ?_ (by simp [Orderly, none])
      simp only [next, gone]
      exact consistent.same (fun _ _ member => member)
        (fun obj => by simp [settled, waiting]) (fun _ => rfl)
  | objCtrl =>
    refine iff_of_true (consistent.same ?_ settled_objCtrl ?_) trivial
    · intro pid obj member
      simp only [next, objCtrl] at member
      split at member <;> exact member
    · intro pid
      simp only [next, objCtrl]
      split <;> rfl

/-- The objects of every process stay with its alarms exactly in the runs whose steps are
orderly. -/
theorem objects_consistent_iff (events : List MonitorEvent) :
    (∀ count, (run next {} (events.take count)).Consistent) ↔ Along next Orderly {} events := by
  have consistent : ({} : MonitorServer).Consistent := by
    intro pid obj member
    cases member
  have unique : ({} : MonitorServer).Unique := List.nodup_nil
  exact always_iff_along_within Consistent Unique
    (fun server event consistent unique => next_consistent_iff unique consistent event)
    (fun server event _ unique _ => next_unique unique event) consistent unique events

/-- An object whose process is disabled during its alarm stays alarmed, although the process is
monitored again and sends its heartbeats. -/
theorem disabled_during_alarm :
    let calls : List MonitorEvent := [.registerObj 1 7, .enableMonitor 1, .createThread,
      .startWait, .wake, .objCtrl, .startWait, .tick 15000, .wake, .objCtrl, .objCtrl,
      .disableMonitor 1, .enableMonitor 1, .startWait, .wake, .objCtrl, .startWait, .click 1, .wake,
      .objCtrl, .startWait]
    let server := run next {} calls
    server.thread = .waiting 15000 30000 ∧ 7 ∈ server.objListMap 1 ∧ 7 ∈ server.alarmedObjs ∧
      server.alarmedIn 1 = false ∧ ¬ server.Consistent := by
  intro calls server
  have waits : server.thread = .waiting 15000 30000 ∧ 7 ∈ server.objListMap 1 ∧
      7 ∈ server.alarmedObjs ∧ server.alarmedIn 1 = false := by
    decide +kernel
  refine ⟨waits.1, waits.2.1, waits.2.2.1, waits.2.2.2, ?_⟩
  intro consistent
  have flag := consistent 1 7 waits.2.1
  cases flag

end MonitorServer

end PlayerFramework.Monitor
