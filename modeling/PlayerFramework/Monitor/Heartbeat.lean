import PlayerFramework.Monitor.MonitorServer

/-!
Alarms and recoveries over whole runs of the monitor: which silence an alarm stands for, what ends
it, and how far the countdowns have come.
-/

namespace PlayerFramework.Monitor

open Transition

namespace Record

/-- The last alarm or recovery, with the newest record first. -/
def lastSwitch : List Record → Option Bool
  | [] => none
  | .abnormality _ :: _ => some true
  | .recovery _ :: _ => some false
  | .enabled _ :: older => lastSwitch older
  | .clicked _ :: older => lastSwitch older

def clickedSince : List Record → Bool
  | .clicked _ :: _ => true
  | .enabled _ :: older => clickedSince older
  | _ => false

def moment : Record → Nat
  | .enabled moment | .clicked moment | .abnormality moment | .recovery moment => moment

def isHeard : Record → Bool
  | .enabled _ | .clicked _ => true
  | _ => false

/-- An alarm comes after `MONITOR_TIMEMS` of silence and not after another one, a recovery after
an alarm and a `Click`. -/
def Justified (entry : Record) (older : List Record) : Prop :=
  match entry with
  | .abnormality moment =>
    (∀ heard ∈ older, heard.isHeard = true → (heard.moment : Int) + monitorTimeMs ≤ moment) ∧
      lastSwitch older ≠ some true
  | .recovery _ => lastSwitch older = some true ∧ clickedSince older = true
  | _ => True

def Sound : List Record → Prop
  | [] => True
  | entry :: older => Justified entry older ∧ Sound older

end Record

namespace MonitorServer

/-- Every record is justified, and a countdown has run for what the thread has waited since it
began, whoever was heard meanwhile. -/
structure Exact (server : MonitorServer) : Prop where
  sound : ∀ pid, Record.Sound (server.records pid)
  counted : ∀ info ∈ server.timesMap, info.triggerFlag = false →
    info.time = monitorTimeMs - ((server.waited : Int) - info.begunAt)
  kept : server.overflowed = false

/-- The length of the wait that `wake` ends with a round. -/
def dueRound (server : MonitorServer) : Option Nat :=
  match server.thread with
  | .waiting timeStart deadline =>
    if server.timesMap ≠ [] ∧ server.waitingAgain = false ∧ server.now < deadline then none
    else if server.timesMap = [] then none
    else some (server.now - timeStart)
  | _ => none

/-- A wait fits into 32 bits; a process that was not heard during it has not been counted down
for more than `2 ^ 31` ms beyond `MONITOR_TIMEMS`; and where its silence reaches
`MONITOR_TIMEMS`, it was never removed during an alarm. -/
def Counted (server : MonitorServer) (event : MonitorEvent) : Prop :=
  match event with
  | .wake =>
    ∀ elapsed, server.dueRound = some elapsed → ∀ info ∈ server.timesMap,
      info.triggerFlag = false →
        (elapsed < 2 ^ 31 ∧
          (server.waited + elapsed : Int) ≤ info.begunAt + monitorTimeMs + 2 ^ 31) ∧
        (info.alarmed = false → info.begunAt + monitorTimeMs ≤ server.waited + elapsed →
          info.pid ∉ server.leftAlarmed)
  | _ => True

/-- Until when the countdowns have been counted. -/
def countedUntil (server : MonitorServer) : Nat :=
  match server.thread with
  | .waiting timeStart _ => timeStart
  | _ => server.now

/-- What an entry says about its process. -/
structure Watched (server : MonitorServer) (info : TimeInfo) : Prop where
  begun : info.begunAt ≤ server.waited
  upper : info.time ≤ monitorTimeMs
  fresh : info.triggerFlag = true → info.time = monitorTimeMs
  heard : info.heardAt ≤ server.now
  heardLast : ∀ entry ∈ server.records info.pid, entry.isHeard = true →
    entry.moment ≤ info.heardAt
  silent : info.triggerFlag = false →
    monitorTimeMs - info.time + info.heardAt ≤ server.countedUntil
  alarmed : info.alarmed = true → Record.lastSwitch (server.records info.pid) = some true ∧
    (info.time ≤ 0 ∨ info.triggerFlag = true ∧ Record.clickedSince (server.records info.pid) = true)

structure Timed (server : MonitorServer) : Prop where
  unique : (server.timesMap.map TimeInfo.pid).Nodup
  watched : ∀ info ∈ server.timesMap, server.Watched info
  past : ∀ pid, ∀ entry ∈ server.records pid, entry.moment ≤ server.now
  started : server.countedUntil ≤ server.now

/-- A process whose last switch was an alarm is alarmed, or was removed during the alarm. -/
structure Switched (server : MonitorServer) : Prop where
  last : ∀ pid, Record.lastSwitch (server.records pid) = some true ↔
    pid ∈ server.leftAlarmed ∨ server.alarmedIn pid = true
  apart : ∀ pid ∈ server.leftAlarmed, server.alarmedIn pid = false

section Lists

theorem find_of_mem {infos : List TimeInfo} (unique : (infos.map TimeInfo.pid).Nodup)
    {info : TimeInfo} (member : info ∈ infos) :
    (infos.find? fun other => other.pid = info.pid) = some info := by
  induction infos with
  | nil => cases member
  | cons first rest ih =>
    rw [List.map_cons, List.nodup_cons] at unique
    rcases List.mem_cons.mp member with same | later
    · simp [same]
    · have differs : first.pid ≠ info.pid := by
        intro same
        exact unique.1 (List.mem_map.mpr ⟨info, later, same.symm⟩)
      simp [differs, ih unique.2 later]

theorem countDown_pid (waitTime : Int) (waited : Nat) (info : TimeInfo) :
    (info.countDown waitTime waited).pid = info.pid := by
  simp only [TimeInfo.countDown]
  split <;> rfl

theorem judge_pid (info : TimeInfo) : info.judge.pid = info.pid := by
  simp only [TimeInfo.judge]
  split
  · rfl
  · split <;> rfl

theorem counted_pids (waitTime : Int) (waited : Nat) (infos : List TimeInfo) :
    (infos.map (TimeInfo.countDown waitTime waited)).map TimeInfo.pid =
      infos.map TimeInfo.pid := by
  rw [List.map_map]
  exact List.map_congr_left fun info _ => countDown_pid waitTime waited info

theorem judged_pids (infos : List TimeInfo) :
    (infos.map TimeInfo.judge).map TimeInfo.pid = infos.map TimeInfo.pid := by
  rw [List.map_map]
  exact List.map_congr_left fun info _ => judge_pid info

theorem find_filter (infos : List TimeInfo) (pid other : Int) :
    ((infos.filter fun info => info.pid ≠ pid).find? fun info => info.pid = other) =
      if other = pid then none else infos.find? fun info => info.pid = other := by
  induction infos with
  | nil => simp
  | cons first rest ih =>
    by_cases removed : first.pid = pid
    · have shorter : ((first :: rest).filter fun info => info.pid ≠ pid) =
          rest.filter fun info => info.pid ≠ pid := by
        simp [removed]
      rw [shorter, ih]
      split
      · rfl
      rename_i apart
      have differs : ¬ first.pid = other := by
        intro same
        exact apart (same.symm.trans removed)
      simp [differs]
    · have kept : ((first :: rest).filter fun info => info.pid ≠ pid) =
          first :: rest.filter fun info => info.pid ≠ pid := by
        simp [removed]
      rw [kept, List.find?_cons, ih]
      by_cases same : first.pid = other
      · have apart : ¬ other = pid := by
          intro equal
          exact removed (same.trans equal)
        simp [same, apart]
      · simp [same]

theorem find_map (infos : List TimeInfo) (change : TimeInfo → TimeInfo)
    (kept : ∀ info, (change info).pid = info.pid) (pid : Int) :
    ((infos.map change).find? fun info => info.pid = pid) =
      (infos.find? fun info => info.pid = pid).map change := by
  rw [List.find?_map]
  simp only [Function.comp_def, kept]

end Lists

variable {server after : MonitorServer}

/-- Steps that leave the entries and the records alone. -/
structure Untouched (server after : MonitorServer) : Prop where
  timesMap : ∀ info ∈ after.timesMap, info ∈ server.timesMap
  unique : (server.timesMap.map TimeInfo.pid).Nodup → (after.timesMap.map TimeInfo.pid).Nodup
  records : after.records = server.records
  waited : after.waited = server.waited
  overflowed : after.overflowed = server.overflowed
  now : server.now ≤ after.now
  countedUntil : after.timesMap ≠ [] → server.countedUntil ≤ after.countedUntil
  started : server.countedUntil ≤ server.now → after.countedUntil ≤ after.now

theorem Timed.untouched (timed : server.Timed) (same : Untouched server after) : after.Timed := by
  constructor
  · exact same.unique timed.unique
  · intro info member
    have before := timed.watched info (same.timesMap info member)
    have later := same.countedUntil (List.ne_nil_of_mem member)
    have now := same.now
    constructor
    · rw [same.waited]
      exact before.begun
    · exact before.upper
    · exact before.fresh
    · exact Nat.le_trans before.heard now
    · rw [same.records]
      exact before.heardLast
    · intro counting
      have silent := before.silent counting
      omega
    · rw [same.records]
      exact before.alarmed
  · intro pid entry member
    rw [same.records] at member
    exact Nat.le_trans (timed.past pid entry member) same.now
  · exact same.started timed.started

theorem Exact.untouched (exactly : server.Exact) (same : Untouched server after) : after.Exact := by
  constructor
  · rw [same.records]
    exact exactly.sound
  · intro info member
    rw [same.waited]
    exact exactly.counted info (same.timesMap info member)
  · rw [same.overflowed]
    exact exactly.kept

theorem find_pid {info : TimeInfo} {pid : Int} (found : server.find pid = some info) :
    info.pid = pid ∧ info ∈ server.timesMap := by
  have holds := List.find?_some found
  exact ⟨by simpa using holds, List.mem_of_find?_eq_some found⟩

theorem find_none {pid : Int} (absent : server.find pid = none) :
    ∀ info ∈ server.timesMap, info.pid ≠ pid := by
  intro info member
  simpa using List.find?_eq_none.mp absent info member

theorem alarmedIn_enableMonitor (pid other : Int) :
    (server.enableMonitor pid).alarmedIn other = server.alarmedIn other := by
  rw [enableMonitor]
  cases found : server.find pid with
  | some info => rfl
  | none =>
    simp only [alarmedIn, find, record, List.find?_append]
    cases known : server.timesMap.find? fun info => info.pid = other with
    | some info => rfl
    | none =>
      by_cases same : pid = other
      · simp [same]
      · simp [same]

theorem alarmedIn_click (pid other : Int) :
    (server.click pid).alarmedIn other = server.alarmedIn other := by
  rw [click]
  cases found : server.find pid with
  | none => rfl
  | some info =>
    simp only [alarmedIn, find, record]
    rw [find_map]
    · cases known : server.timesMap.find? fun info => info.pid = other with
      | none => rfl
      | some info =>
        simp only [Option.map_some]
        split <;> rfl
    · intro info
      split <;> rfl

theorem alarmedIn_filter (pid other : Int) :
    (server.disableMonitor pid).alarmedIn other =
      if other = pid then false else server.alarmedIn other := by
  simp only [alarmedIn, find, disableMonitor]
  rw [find_filter]
  by_cases same : other = pid
  · rw [if_pos same, if_pos same]
  · rw [if_neg same, if_neg same]

theorem alarmedIn_round (elapsed : Nat) (pid : Int) :
    (server.round elapsed).alarmedIn pid =
      match server.find pid with
      | none => false
      | some info =>
        (info.countDown (toInt32 elapsed) (server.waited + elapsed)).judge.alarmed := by
  simp only [alarmedIn, find, round]
  rw [find_map _ _ judge_pid, find_map _ _ (countDown_pid _ _)]
  cases server.timesMap.find? fun info => info.pid = pid with
  | none | some info => rfl

theorem records_record_other (server : MonitorServer) (entry : Record) {pid other : Int}
    (apart : other ≠ pid) : (server.record pid entry).records other = server.records other := by
  simp [record, apart]

theorem records_record (server : MonitorServer) (entry : Record) (pid : Int) :
    (server.record pid entry).records pid = entry :: server.records pid := by
  simp [record]

theorem past_record (timed : server.Timed) {entry : Record} (pid : Int)
    (now : entry.moment = server.now) :
    ∀ other, ∀ known ∈ (server.record pid entry).records other, known.moment ≤ server.now := by
  intro other known member
  by_cases same : other = pid
  · rw [same, records_record] at member
    rcases List.mem_cons.mp member with rfl | member
    · exact Nat.le_of_eq now
    · exact timed.past pid known member
  · rw [records_record_other _ _ same] at member
    exact timed.past other known member

theorem sound_record (sound : ∀ pid, Record.Sound (server.records pid)) {entry : Record}
    (heard : entry.isHeard = true) (pid : Int) :
    ∀ other, Record.Sound ((server.record pid entry).records other) := by
  intro other
  by_cases same : other = pid
  · rw [same, records_record]
    refine ⟨?_, sound pid⟩
    cases entry with
    | enabled moment | clicked moment => trivial
    | abnormality moment | recovery moment => cases heard
  · rw [records_record_other _ _ same]
    exact sound other

theorem enableMonitor_timed (timed : server.Timed) (pid : Int) :
    (server.enableMonitor pid).Timed := by
  rw [enableMonitor]
  cases found : server.find pid with
  | some info => exact timed
  | none =>
    have other := find_none found
    constructor
    · have fresh : pid ∉ server.timesMap.map TimeInfo.pid := by
        intro member
        rcases List.mem_map.mp member with ⟨info, present, same⟩
        exact other info present same
      simp only [record, List.map_append, List.map_cons, List.map_nil]
      rw [List.nodup_append]
      refine ⟨timed.unique, by simp, ?_⟩
      intro a first b second same
      rw [List.mem_singleton] at second
      exact fresh (second ▸ same ▸ first)
    · intro info member
      simp only [record, List.mem_append, List.mem_singleton] at member
      rcases member with member | rfl
      · have before := timed.watched info member
        have apart := other info member
        exact
          { begun := before.begun, upper := before.upper, fresh := before.fresh
            heard := before.heard
            heardLast := by
              rw [records_record_other _ _ apart]
              exact before.heardLast
            silent := before.silent
            alarmed := by
              rw [records_record_other _ _ apart]
              exact before.alarmed }
      · constructor
        · exact Nat.zero_le _
        · exact Int.le_refl _
        · intro _
          rfl
        · exact Nat.le_refl _
        · intro entry member _
          simp only [record, if_true, List.mem_cons] at member
          rcases member with rfl | member
          · exact Nat.le_refl _
          · exact timed.past pid entry member
        · intro counting
          cases counting
        · intro alarmed
          cases alarmed
    · exact past_record timed pid rfl
    · exact timed.started

theorem enableMonitor_exact (exactly : server.Exact) (pid : Int) :
    (server.enableMonitor pid).Exact := by
  rw [enableMonitor]
  cases found : server.find pid with
  | some info => exact exactly
  | none =>
    constructor
    · exact sound_record exactly.sound rfl pid
    · intro info member counting
      simp only [record, List.mem_append, List.mem_singleton] at member
      rcases member with member | rfl
      · exact exactly.counted info member counting
      · cases counting
    · exact exactly.kept

theorem click_timed (timed : server.Timed) (pid : Int) : (server.click pid).Timed := by
  rw [click]
  cases found : server.find pid with
  | none => exact timed
  | some _ =>
    constructor
    · have pids : ((server.timesMap.map fun info =>
          if info.pid = pid then
            { info with time := monitorTimeMs, triggerFlag := true, heardAt := server.now }
          else info).map TimeInfo.pid) = server.timesMap.map TimeInfo.pid := by
        rw [List.map_map]
        apply List.map_congr_left
        intro info _
        simp only [Function.comp_apply]
        split <;> rfl
      simp only [record]
      rw [pids]
      exact timed.unique
    · intro info member
      simp only [record, List.mem_map] at member
      rcases member with ⟨before, member, rfl⟩
      have known := timed.watched before member
      by_cases same : before.pid = pid
      · rw [if_pos same]
        constructor
        · exact known.begun
        · exact Int.le_refl _
        · intro _
          rfl
        · exact Nat.le_refl _
        · intro entry member _
          exact past_record timed pid rfl before.pid entry member
        · intro counting
          cases counting
        · intro alarmed
          rw [same, records_record]
          exact ⟨(same ▸ known.alarmed alarmed).1, Or.inr ⟨rfl, rfl⟩⟩
      · rw [if_neg same]
        exact
          { begun := known.begun, upper := known.upper, fresh := known.fresh
            heard := known.heard
            heardLast := by
              rw [records_record_other _ _ same]
              exact known.heardLast
            silent := known.silent
            alarmed := by
              rw [records_record_other _ _ same]
              exact known.alarmed }
    · exact past_record timed pid rfl
    · exact timed.started

theorem click_exact (exactly : server.Exact) (pid : Int) : (server.click pid).Exact := by
  rw [click]
  cases found : server.find pid with
  | none => exact exactly
  | some _ =>
    constructor
    · exact sound_record exactly.sound rfl pid
    · intro info member counting
      simp only [record, List.mem_map] at member
      rcases member with ⟨before, member, rfl⟩
      by_cases same : before.pid = pid
      · rw [if_pos same] at counting
        cases counting
      · rw [if_neg same] at counting ⊢
        exact exactly.counted before member counting
    · exact exactly.kept

theorem toInt32_eq {value : Int} (low : -(2 ^ 31 : Int) ≤ value) (high : value < 2 ^ 31) :
    toInt32 value = value := by
  apply Int.bmod_eq_of_le <;> omega

section Round

variable {info : TimeInfo} {elapsed timeStart : Nat}

theorem countDown_time (watched : server.Watched info) (fits : info.overflows elapsed = false)
    (waited : Nat) :
    (info.countDown (toInt32 elapsed) waited).time =
      if info.triggerFlag then monitorTimeMs else info.time - elapsed := by
  simp only [TimeInfo.countDown]
  cases heard : info.triggerFlag with
  | true => simpa using watched.fresh heard
  | false =>
    simp only [TimeInfo.overflows, heard, Bool.not_false, Bool.true_and, decide_eq_false_iff_not,
      not_or] at fits
    have upper := watched.upper
    have limit : monitorTimeMs = 15000 := rfl
    have wait : toInt32 elapsed = elapsed := toInt32_eq (by omega) (by omega)
    rw [wait]
    simpa using toInt32_eq (by omega) (by omega)

theorem countDown_alarmed (waitTime : Int) (waited : Nat) (info : TimeInfo) :
    (info.countDown waitTime waited).alarmed = info.alarmed := by
  simp only [TimeInfo.countDown]
  split <;> rfl

theorem countDown_triggerFlag (waitTime : Int) (waited : Nat) (info : TimeInfo) :
    (info.countDown waitTime waited).triggerFlag = false := by
  simp only [TimeInfo.countDown]
  split
  · rfl
  · rename_i counting
    simpa using counting

theorem recovers_justified (watched : server.Watched info) (fits : info.overflows elapsed = false)
    {waited : Nat} (recovers : (info.countDown (toInt32 elapsed) waited).recovers = true) :
    Record.lastSwitch (server.records info.pid) = some true ∧
      Record.clickedSince (server.records info.pid) = true := by
  rw [TimeInfo.recovers, Bool.and_eq_true, decide_eq_true_iff, countDown_alarmed,
    countDown_time watched fits] at recovers
  have known := watched.alarmed recovers.1
  refine ⟨known.1, ?_⟩
  rcases known.2 with lapsed | clicked
  · cases heard : info.triggerFlag with
    | true =>
      have full := watched.fresh heard
      omega
    | false =>
      rw [heard] at recovers
      have positive : info.time - elapsed > 0 := by simpa using recovers.2
      omega
  · exact clicked.2

theorem expires_silent (watched : server.Watched info) (fits : info.overflows elapsed = false)
    (whole : server.countedUntil + elapsed = server.now) {waited : Nat}
    (expires : (info.countDown (toInt32 elapsed) waited).expires = true) :
    info.alarmed = false ∧ ∀ heard ∈ server.records info.pid, heard.isHeard = true →
      (heard.moment : Int) + monitorTimeMs ≤ server.now := by
  rw [TimeInfo.expires, Bool.and_eq_true, decide_eq_true_iff, Bool.not_eq_true',
    countDown_alarmed, countDown_time watched fits] at expires
  refine ⟨expires.2, ?_⟩
  intro heard member isHeard
  have last := watched.heardLast heard member isHeard
  cases counting : info.triggerFlag with
  | true =>
    rw [counting] at expires
    exact absurd expires.1 (by simp [monitorTimeMs])
  | false =>
    rw [counting] at expires
    have lapsed : info.time - elapsed ≤ 0 := by simpa using expires.1
    have silent := watched.silent counting
    omega

def roundRecords (elapsed : Nat) (server : MonitorServer) (info : TimeInfo) : List Record :=
  let counted := info.countDown (toInt32 elapsed) (server.waited + elapsed)
  if counted.recovers then .recovery server.now :: server.records info.pid
  else if counted.expires then .abnormality server.now :: server.records info.pid
  else server.records info.pid

theorem round_records (elapsed : Nat) (unique : (server.timesMap.map TimeInfo.pid).Nodup)
    (member : info ∈ server.timesMap) :
    (server.round elapsed).records info.pid = server.roundRecords elapsed info := by
  have uniqueCounted := unique
  rw [← counted_pids (toInt32 elapsed) (server.waited + elapsed)] at uniqueCounted
  have found := find_of_mem uniqueCounted (List.mem_map_of_mem member)
  rw [countDown_pid] at found
  simp only [round, found, roundRecords]

theorem round_records_absent {pid : Int} (absent : ∀ info ∈ server.timesMap, info.pid ≠ pid) :
    (server.round elapsed).records pid = server.records pid := by
  have none : ((server.timesMap.map (TimeInfo.countDown (toInt32 elapsed)
      (server.waited + elapsed))).find? fun info => info.pid = pid) = none := by
    rw [List.find?_eq_none]
    intro counted member
    rcases List.mem_map.mp member with ⟨info, present, rfl⟩
    rw [countDown_pid]
    simpa using absent info present
  simp only [round, none]

theorem judge_keeps (info : TimeInfo) :
    info.judge.time = info.time ∧ info.judge.triggerFlag = info.triggerFlag ∧
      info.judge.heardAt = info.heardAt ∧ info.judge.begunAt = info.begunAt := by
  simp only [TimeInfo.judge]
  split
  · exact ⟨rfl, rfl, rfl, rfl⟩
  · split <;> exact ⟨rfl, rfl, rfl, rfl⟩

theorem countDown_keeps (waitTime : Int) (waited : Nat) (info : TimeInfo) :
    (info.countDown waitTime waited).heardAt = info.heardAt ∧
      (info.countDown waitTime waited).begunAt =
        if info.triggerFlag then waited else info.begunAt := by
  simp only [TimeInfo.countDown]
  split <;> exact ⟨rfl, rfl⟩

theorem judge_alarmed {counted : TimeInfo} (alarmed : counted.judge.alarmed = true) :
    counted.recovers = false ∧ counted.time ≤ 0 ∧
      (counted.expires = true ∨ counted.expires = false ∧ counted.alarmed = true) := by
  simp only [TimeInfo.judge] at alarmed
  split at alarmed
  · cases alarmed
  rename_i stays
  refine ⟨by simpa using stays, ?_⟩
  split at alarmed
  · rename_i expires
    have lapsed := expires
    simp only [TimeInfo.expires, Bool.and_eq_true, decide_eq_true_iff] at lapsed
    exact ⟨lapsed.1, Or.inl expires⟩
  · rename_i goes
    have low : ¬ counted.time > 0 := by
      intro positive
      simp [TimeInfo.recovers, alarmed, positive] at stays
    exact ⟨by omega, Or.inr ⟨by simpa using goes, alarmed⟩⟩

theorem checked_watched (timed : server.Timed) (member : info ∈ server.timesMap)
    (fits : info.overflows elapsed = false)
    (whole : server.countedUntil + elapsed = server.now) :
    (server.round elapsed).Watched
      (info.countDown (toInt32 elapsed) (server.waited + elapsed)).judge := by
  have watched := timed.watched info member
  have records := round_records elapsed timed.unique member
  have time := countDown_time watched fits (server.waited + elapsed)
  have judged := judge_keeps (info.countDown (toInt32 elapsed) (server.waited + elapsed))
  have kept := countDown_keeps (toInt32 elapsed) (server.waited + elapsed) info
  have flag := countDown_triggerFlag (toInt32 elapsed) (server.waited + elapsed) info
  have upper := watched.upper
  have begun := watched.begun
  constructor
  · rw [judged.2.2.2, kept.2]
    show (if info.triggerFlag then server.waited + elapsed else info.begunAt) ≤
      server.waited + elapsed
    split <;> omega
  · rw [judged.1, time]
    split <;> omega
  · intro heard
    rw [judged.2.1, flag] at heard
    cases heard
  · rw [judged.2.2.1, kept.1]
    exact watched.heard
  · intro entry known isHeard
    rw [judge_pid, countDown_pid, records] at known
    rw [judged.2.2.1, kept.1]
    simp only [roundRecords] at known
    split at known
    · rcases List.mem_cons.mp known with rfl | known
      · cases isHeard
      · exact watched.heardLast entry known isHeard
    · split at known
      · rcases List.mem_cons.mp known with rfl | known
        · cases isHeard
        · exact watched.heardLast entry known isHeard
      · exact watched.heardLast entry known isHeard
  · intro _
    rw [judged.1, time]
    show _ ≤ (server.now : Int)
    have heard := watched.heard
    cases counting : info.triggerFlag with
    | true =>
      rw [if_pos rfl]
      omega
    | false =>
      have silent := watched.silent counting
      omega
  · intro alarmed
    have parts := judge_alarmed alarmed
    rw [judge_pid, countDown_pid, records, judged.1]
    simp only [roundRecords, parts.1, Bool.false_eq_true, if_false]
    rcases parts.2.2 with expires | ⟨stays, before⟩
    · rw [if_pos expires]
      exact ⟨rfl, Or.inl parts.2.1⟩
    · rw [if_neg (by simp [stays])]
      rw [countDown_alarmed] at before
      exact ⟨(watched.alarmed before).1, Or.inl parts.2.1⟩

theorem round_timed (timed : server.Timed)
    (fits : ∀ info ∈ server.timesMap, info.overflows elapsed = false)
    (whole : server.countedUntil + elapsed = server.now) : (server.round elapsed).Timed := by
  constructor
  · simp only [round]
    rw [judged_pids, counted_pids]
    exact timed.unique
  · intro info member
    simp only [round, List.mem_map] at member
    rcases member with ⟨counted, ⟨before, member, rfl⟩, rfl⟩
    exact checked_watched timed member (fits before member) whole
  · intro pid entry known
    by_cases present : ∃ info ∈ server.timesMap, info.pid = pid
    · rcases present with ⟨info, member, rfl⟩
      rw [round_records elapsed timed.unique member] at known
      simp only [roundRecords] at known
      split at known
      · rcases List.mem_cons.mp known with rfl | known
        · exact Nat.le_refl _
        · exact timed.past info.pid entry known
      · split at known
        · rcases List.mem_cons.mp known with rfl | known
          · exact Nat.le_refl _
          · exact timed.past info.pid entry known
        · exact timed.past info.pid entry known
    · have absent : ∀ info ∈ server.timesMap, info.pid ≠ pid := by
        intro info member same
        exact present ⟨info, member, same⟩
      rw [round_records_absent absent] at known
      exact timed.past pid entry known
  · exact Nat.le_refl _

theorem round_exact_iff (timed : server.Timed) (exactly : server.Exact)
    (whole : server.countedUntil + elapsed = server.now) :
    (server.round elapsed).Exact ↔ ∀ info ∈ server.timesMap, info.overflows elapsed = false ∧
      ((info.countDown (toInt32 elapsed) (server.waited + elapsed)).expires = true →
        Record.lastSwitch (server.records info.pid) ≠ some true) := by
  constructor
  · intro after info member
    have overflowed : (server.overflowed || server.timesMap.any (TimeInfo.overflows elapsed)) =
        false := after.kept
    rw [Bool.or_eq_false_iff, List.any_eq_false] at overflowed
    have fits : info.overflows elapsed = false := by simpa using overflowed.2 info member
    refine ⟨fits, ?_⟩
    intro expires
    have sound := after.sound info.pid
    have stays : (info.countDown (toInt32 elapsed) (server.waited + elapsed)).recovers = false := by
      simp only [TimeInfo.expires, Bool.and_eq_true, decide_eq_true_iff] at expires
      simp only [TimeInfo.recovers, Bool.and_eq_false_iff, decide_eq_false_iff_not]
      exact Or.inr (by omega)
    rw [round_records elapsed timed.unique member, roundRecords, if_neg (by simp [stays]),
      if_pos expires] at sound
    exact sound.1.2
  · intro guard
    constructor
    · intro pid
      by_cases present : ∃ info ∈ server.timesMap, info.pid = pid
      · rcases present with ⟨info, member, rfl⟩
        have watched := timed.watched info member
        have sound := exactly.sound info.pid
        have fits := (guard info member).1
        rw [round_records elapsed timed.unique member, roundRecords]
        split
        · rename_i recovers
          exact ⟨recovers_justified watched fits recovers, sound⟩
        split
        · rename_i expires
          have silent := (expires_silent watched fits whole expires).2
          exact ⟨⟨silent, (guard info member).2 expires⟩, sound⟩
        · exact sound
      · have absent : ∀ info ∈ server.timesMap, info.pid ≠ pid := by
          intro info member same
          exact present ⟨info, member, same⟩
        rw [round_records_absent absent]
        exact exactly.sound pid
    · intro info member _
      simp only [round, List.mem_map] at member
      rcases member with ⟨counted, ⟨before, member, rfl⟩, rfl⟩
      have watched := timed.watched before member
      have judged := judge_keeps
        (before.countDown (toInt32 elapsed) (server.waited + elapsed))
      have kept := countDown_keeps (toInt32 elapsed) (server.waited + elapsed) before
      rw [judged.1, judged.2.2.2, kept.2,
        countDown_time watched (guard before member).1 (server.waited + elapsed)]
      show _ = monitorTimeMs - (((server.waited + elapsed : Nat) : Int) - _)
      cases counting : before.triggerFlag with
      | true =>
        rw [if_pos rfl, if_pos rfl]
        omega
      | false =>
        have counted := exactly.counted before member counting
        rw [if_neg (by simp), if_neg (by simp)]
        omega
    · show (server.overflowed || server.timesMap.any (TimeInfo.overflows elapsed)) = false
      rw [Bool.or_eq_false_iff, List.any_eq_false]
      refine ⟨exactly.kept, ?_⟩
      intro info member
      simpa using (guard info member).1

/-- The clauses of `Counted` say when a round overflows, and whose silence is a second alarm. -/
theorem counted_iff (timed : server.Timed) (switched : server.Switched) (exactly : server.Exact) :
    (∀ info ∈ server.timesMap, info.overflows elapsed = false ∧
      ((info.countDown (toInt32 elapsed) (server.waited + elapsed)).expires = true →
        Record.lastSwitch (server.records info.pid) ≠ some true)) ↔
      ∀ info ∈ server.timesMap, info.triggerFlag = false →
        (elapsed < 2 ^ 31 ∧
          (server.waited + elapsed : Int) ≤ info.begunAt + monitorTimeMs + 2 ^ 31) ∧
        (info.alarmed = false → info.begunAt + monitorTimeMs ≤ server.waited + elapsed →
          info.pid ∉ server.leftAlarmed) := by
  refine forall₂_congr fun info member => ?_
  have watched := timed.watched info member
  have alarm : server.alarmedIn info.pid = info.alarmed := by
    simp [alarmedIn, find, find_of_mem timed.unique member]
  cases counting : info.triggerFlag with
  | true =>
    have full := watched.fresh counting
    simp [TimeInfo.overflows, TimeInfo.expires, TimeInfo.countDown, counting, full, monitorTimeMs]
  | false =>
    have counted := exactly.counted info member counting
    have fits : info.overflows elapsed = false ↔ elapsed < 2 ^ 31 ∧
        (server.waited + elapsed : Int) ≤ info.begunAt + monitorTimeMs + 2 ^ 31 := by
      simp only [TimeInfo.overflows, counting, Bool.not_false, Bool.true_and,
        decide_eq_false_iff_not]
      omega
    simp only [forall_const]
    rw [fits]
    refine and_congr_right fun within => ?_
    have time := countDown_time watched (fits.mpr within) (server.waited + elapsed)
    rw [TimeInfo.expires, countDown_alarmed, time, counting]
    have last := switched.last info.pid
    rw [alarm] at last
    cases alarmed : info.alarmed with
    | true => simp
    | false =>
      have outside : Record.lastSwitch (server.records info.pid) ≠ some true ↔
          info.pid ∉ server.leftAlarmed := by
        simp [last, alarmed]
      rw [outside]
      have due : info.time - elapsed ≤ 0 ↔
          (info.begunAt : Int) + monitorTimeMs ≤ server.waited + elapsed := by
        omega
      simp [due]

theorem round_switched (timed : server.Timed) (switched : server.Switched)
    (guard : ∀ info ∈ server.timesMap,
      (info.countDown (toInt32 elapsed) (server.waited + elapsed)).expires = true →
        Record.lastSwitch (server.records info.pid) ≠ some true) :
    (server.round elapsed).Switched := by
  have step : ∀ pid, (Record.lastSwitch ((server.round elapsed).records pid) = some true ↔
      pid ∈ server.leftAlarmed ∨ (server.round elapsed).alarmedIn pid = true) ∧
        (pid ∈ server.leftAlarmed → (server.round elapsed).alarmedIn pid = false) := by
    intro pid
    have last := switched.last pid
    have apart := switched.apart pid
    rw [alarmedIn_round]
    cases found : server.find pid with
    | none =>
      have absent : (server.round elapsed).records pid = server.records pid :=
        round_records_absent (find_none found)
      rw [absent, last]
      simp [alarmedIn, found]
    | some info =>
      obtain ⟨rfl, member⟩ := find_pid found
      have expiring := guard info member
      simp only [alarmedIn, found] at last apart
      rw [round_records elapsed timed.unique member]
      simp only [roundRecords, TimeInfo.judge]
      rw [← countDown_alarmed (toInt32 elapsed) (server.waited + elapsed)] at last apart
      generalize info.countDown (toInt32 elapsed) (server.waited + elapsed) = counted at *
      split
      · rename_i recovers
        rw [TimeInfo.recovers, Bool.and_eq_true] at recovers
        simp_all [Record.lastSwitch]
      · split
        · rename_i expires
          have outside : info.pid ∉ server.leftAlarmed :=
            fun inside => expiring expires (last.mpr (.inl inside))
          simp [Record.lastSwitch, outside]
        · exact ⟨last, apart⟩
  exact ⟨fun pid => (step pid).1, fun pid => (step pid).2⟩

end Round

theorem wake_cases (server : MonitorServer) :
    (∃ elapsed, server.dueRound = some elapsed ∧ server.wake = server.round elapsed) ∨
      server.dueRound = none ∧ (server.wake = server ∨ server.timesMap = [] ∧
        (∃ timeStart deadline, server.thread = .waiting timeStart deadline) ∧
          server.wake = { server with threadRunning := false, thread := .absent }) := by
  rw [dueRound, wake]
  cases thread : server.thread with
  | waiting timeStart deadline =>
    simp only
    split
    · exact Or.inr ⟨rfl, Or.inl rfl⟩
    · split
      · rename_i empty
        exact Or.inr ⟨rfl, Or.inr ⟨empty, ⟨timeStart, deadline, rfl⟩, rfl⟩⟩
      · exact Or.inl ⟨_, rfl, rfl⟩
  | _ => exact Or.inr ⟨rfl, Or.inl rfl⟩

theorem dueRound_whole (timed : server.Timed) {elapsed : Nat}
    (due : server.dueRound = some elapsed) : server.countedUntil + elapsed = server.now := by
  have started := timed.started
  rw [dueRound] at due
  rw [countedUntil] at started ⊢
  cases thread : server.thread with
  | waiting timeStart deadline =>
    simp only [thread] at due started ⊢
    split at due
    · cases due
    · split at due
      · cases due
      · have length : server.now - timeStart = elapsed := by simpa using due
        omega
  | _ =>
    simp only [thread] at due
    cases due

theorem untouched_refl (server : MonitorServer) : Untouched server server :=
  ⟨fun _ member => member, id, rfl, rfl, rfl, Nat.le_refl _, fun _ => Nat.le_refl _, id⟩

theorem untouched_filter (kept : TimeInfo → Bool) (server : MonitorServer)
    (objListMap : Int → List Nat) (leftAlarmed : List Int) :
    Untouched server
      { server with timesMap := server.timesMap.filter kept, objListMap, leftAlarmed } := by
  refine ⟨?_, ?_, rfl, rfl, rfl, Nat.le_refl _, fun _ => Nat.le_refl _, id⟩
  · intro info member
    exact (List.mem_filter.mp member).1
  · intro unique
    exact unique.sublist (List.filter_sublist.map TimeInfo.pid)

theorem untouched_objCtrl (server : MonitorServer) : Untouched server server.objCtrl := by
  rw [objCtrl]
  split
  · rename_i obj recoveryList abnormalList thread
    exact ⟨fun _ member => member, id, rfl, rfl, rfl, Nat.le_refl _,
      fun _ => by simp [countedUntil, thread], fun _ => Nat.le_refl _⟩
  · rename_i obj abnormalList thread
    exact ⟨fun _ member => member, id, rfl, rfl, rfl, Nat.le_refl _,
      fun _ => by simp [countedUntil, thread], fun _ => Nat.le_refl _⟩
  · rename_i thread
    exact ⟨fun _ member => member, id, rfl, rfl, rfl, Nat.le_refl _,
      fun _ => by simp [countedUntil, thread], fun _ => Nat.le_refl _⟩
  · exact untouched_refl server

theorem untouched_next (server : MonitorServer) (event : MonitorEvent)
    (enable : ∀ pid, event ≠ .enableMonitor pid) (click : ∀ pid, event ≠ .click pid)
    (round : event ≠ .wake ∨ server.dueRound = none) :
    Untouched server (server.next event) := by
  cases event with
  | tick passed =>
    refine ⟨fun _ member => member, id, rfl, rfl, rfl, Nat.le_add_right _ _, ?_, ?_⟩
    · intro _
      simp only [next, countedUntil]
      split <;> omega
    · intro started
      simp only [next, countedUntil] at started ⊢
      split at started
      · simp_all
        omega
      · simp_all
  | enableMonitor pid => exact absurd rfl (enable pid)
  | click pid => exact absurd rfl (click pid)
  | disableMonitor pid => exact untouched_filter _ server server.objListMap _
  | onClientDie pid => exact untouched_filter _ server _ _
  | registerObj pid obj =>
    simp only [next, registerObj]
    split
    · exact untouched_refl server
    · exact ⟨fun _ member => member, id, rfl, rfl, rfl, Nat.le_refl _,
        fun _ => Nat.le_refl _, id⟩
  | cancellationObj pid obj =>
    exact ⟨fun _ member => member, id, rfl, rfl, rfl, Nat.le_refl _, fun _ => Nat.le_refl _, id⟩
  | createThread =>
    simp only [next, createThread]
    split
    · rename_i absent
      exact ⟨fun _ member => member, id, rfl, rfl, rfl, Nat.le_refl _,
        fun _ => by simp [countedUntil, absent.2], fun _ => Nat.le_refl _⟩
    · exact untouched_refl server
  | startWait =>
    simp only [next, startWait]
    split
    · rename_i running
      exact ⟨fun _ member => member, id, rfl, rfl, rfl, Nat.le_refl _,
        fun _ => by simp [countedUntil, running], fun _ => Nat.le_refl _⟩
    · exact untouched_refl server
  | wake =>
    rcases wake_cases server with ⟨elapsed, due, -⟩ | ⟨-, same | ⟨empty, -, gone⟩⟩
    · rcases round with other | none
      · exact absurd rfl other
      · exact absurd (none.symm.trans due) (by simp)
    · simp only [next, same]
      exact untouched_refl server
    · simp only [next, gone]
      exact ⟨fun _ member => member, id, rfl, rfl, rfl, Nat.le_refl _,
        fun filled => absurd empty filled, fun _ => Nat.le_refl _⟩
  | objCtrl => exact untouched_objCtrl server

theorem Switched.same (switched : server.Switched)
    (records : ∀ pid, Record.lastSwitch (after.records pid) =
      Record.lastSwitch (server.records pid))
    (leftAlarmed : after.leftAlarmed = server.leftAlarmed)
    (alarmedIn : ∀ pid, after.alarmedIn pid = server.alarmedIn pid) : after.Switched := by
  constructor
  · intro pid
    rw [records, leftAlarmed, alarmedIn]
    exact switched.last pid
  · intro pid member
    rw [alarmedIn]
    exact switched.apart pid (leftAlarmed ▸ member)

/-- A process that is removed leaves its alarm behind. -/
theorem Switched.remove (switched : server.Switched) (pid : Int)
    (objListMap : Int → List Nat) :
    ({ server.disableMonitor pid with objListMap } : MonitorServer).Switched := by
  have alarmed : ∀ other, ({ server.disableMonitor pid with objListMap } :
      MonitorServer).alarmedIn other = if other = pid then false else server.alarmedIn other :=
    alarmedIn_filter pid
  have left : ∀ other, other ∈ (server.disableMonitor pid).leftAlarmed ↔
      other = pid ∧ server.alarmedIn pid = true ∨ other ∈ server.leftAlarmed := by
    intro other
    rw [disableMonitor]
    cases server.alarmedIn pid with
    | true | false => simp
  constructor
  · intro other
    rw [alarmed]
    show Record.lastSwitch (server.records other) = some true ↔
      other ∈ (server.disableMonitor pid).leftAlarmed ∨ _
    rw [left, switched.last other]
    by_cases same : other = pid
    · subst same
      simp [or_comm]
    · simp [same]
  · intro other member
    rw [alarmed]
    split
    · rfl
    · rename_i apart
      rcases (left other).mp member with ⟨same, -⟩ | before
      · exact absurd same apart
      · exact switched.apart other before

theorem next_switched (timed : server.Timed) (switched : server.Switched) {event : MonitorEvent}
    (guard : ∀ elapsed, event = .wake → server.dueRound = some elapsed →
      ∀ info ∈ server.timesMap,
        (info.countDown (toInt32 elapsed) (server.waited + elapsed)).expires = true →
          Record.lastSwitch (server.records info.pid) ≠ some true) :
    (server.next event).Switched := by
  cases event with
  | enableMonitor pid =>
    refine switched.same ?_ ?_ (alarmedIn_enableMonitor pid)
    · intro other
      simp only [next, enableMonitor]
      split
      · rfl
      · simp only [record]
        split <;> rfl
    · simp only [next, enableMonitor]
      split <;> rfl
  | click pid =>
    refine switched.same ?_ ?_ (alarmedIn_click pid)
    · intro other
      simp only [next, click]
      split
      · rfl
      · simp only [record]
        split <;> rfl
    · simp only [next, click]
      split <;> rfl
  | disableMonitor pid => exact switched.remove pid server.objListMap
  | onClientDie pid => exact switched.remove pid _
  | wake =>
    rcases wake_cases server with ⟨elapsed, due, rounds⟩ | ⟨-, same | ⟨-, -, gone⟩⟩
    · simp only [next, rounds]
      exact round_switched timed switched (guard elapsed rfl due)
    · simpa only [next, same] using switched
    · simp only [next, gone]
      exact switched.same (fun _ => rfl) rfl fun _ => rfl
  | tick passed => exact switched.same (fun _ => rfl) rfl fun _ => rfl
  | cancellationObj pid obj => exact switched.same (fun _ => rfl) rfl fun _ => rfl
  | registerObj _ _ | createThread | startWait | objCtrl =>
    simp only [next, registerObj, createThread, startWait, objCtrl]
    split
    all_goals exact switched.same (fun _ => rfl) rfl fun _ => rfl

theorem next_timed (timed : server.Timed) (switched : server.Switched) (exactly : server.Exact)
    {event : MonitorEvent} (guard : server.Counted event) :
    (server.next event).Timed ∧ (server.next event).Switched := by
  have counted : ∀ elapsed, event = .wake → server.dueRound = some elapsed →
      ∀ info ∈ server.timesMap, info.overflows elapsed = false ∧
        ((info.countDown (toInt32 elapsed) (server.waited + elapsed)).expires = true →
          Record.lastSwitch (server.records info.pid) ≠ some true) := by
    intro elapsed waking due
    subst waking
    exact (counted_iff timed switched exactly).mpr (guard elapsed due)
  refine ⟨?_, next_switched timed switched fun elapsed waking due info member =>
    (counted elapsed waking due info member).2⟩
  cases event with
  | enableMonitor pid => exact enableMonitor_timed timed pid
  | click pid => exact click_timed timed pid
  | wake =>
    rcases wake_cases server with ⟨elapsed, due, rounds⟩ | ⟨none, -⟩
    · simp only [next, rounds]
      exact round_timed timed (fun info member => (counted elapsed rfl due info member).1)
        (dueRound_whole timed due)
    · exact timed.untouched (untouched_next server .wake (by simp) (by simp) (Or.inr none))
  | tick _ | disableMonitor _ | onClientDie _ | registerObj _ _ | cancellationObj _ _
  | createThread | startWait | objCtrl =>
    exact timed.untouched (untouched_next server _ (by simp) (by simp) (Or.inl (by simp)))

theorem next_exact_iff (timed : server.Timed) (switched : server.Switched)
    (exactly : server.Exact) (event : MonitorEvent) :
    (server.next event).Exact ↔ server.Counted event := by
  cases event with
  | enableMonitor pid => exact iff_of_true (enableMonitor_exact exactly pid) trivial
  | click pid => exact iff_of_true (click_exact exactly pid) trivial
  | wake =>
    rcases wake_cases server with ⟨elapsed, due, rounds⟩ | ⟨none, -⟩
    · simp only [next, rounds, Counted, due, Option.some.injEq, forall_eq']
      exact (round_exact_iff timed exactly (dueRound_whole timed due)).trans
        (counted_iff timed switched exactly)
    · refine iff_of_true ?_ (by simp [Counted, none])
      exact exactly.untouched (untouched_next server .wake (by simp) (by simp) (Or.inr none))
  | tick _ | disableMonitor _ | onClientDie _ | registerObj _ _ | cancellationObj _ _
  | createThread | startWait | objCtrl =>
    refine iff_of_true ?_ trivial
    exact exactly.untouched (untouched_next server _ (by simp) (by simp) (Or.inl (by simp)))

/-- Alarms and recoveries are exact in a run exactly where no process is silent for too long, and
none that was removed during an alarm is silent again. -/
theorem alarms_exact_iff (events : List MonitorEvent) :
    (∀ count, (run next {} (events.take count)).Exact) ↔ Along next Counted {} events := by
  have exactly : ({} : MonitorServer).Exact :=
    { sound := fun _ => trivial, counted := by simp, kept := rfl }
  have timed : ({} : MonitorServer).Timed :=
    { unique := by simp, watched := by simp, past := by simp, started := Nat.le_refl _ }
  have switched : ({} : MonitorServer).Switched :=
    { last := by simp [Record.lastSwitch, alarmedIn, find], apart := by simp }
  exact always_iff_along_within Exact (fun server => server.Timed ∧ server.Switched)
    (fun server event exactly invariant => next_exact_iff invariant.1 invariant.2 exactly event)
    (fun server event exactly invariant guard =>
      next_timed invariant.1 invariant.2 exactly guard) exactly ⟨timed, switched⟩ events

/-- A process that is silent for more than 2^31 ms is recovered by the overflow, without a
`Click`. -/
theorem overflow_recovers :
    let silence : List MonitorEvent := [.enableMonitor 1, .createThread, .startWait, .wake,
      .objCtrl, .startWait, .tick 15000, .wake, .objCtrl, .startWait, .tick 2147483647, .wake,
      .objCtrl, .startWait, .tick 15000, .wake]
    let server := run next {} silence
    server.records 1 = [.recovery 2147513647, .abnormality 15000, .enabled 0] ∧
      ¬ server.Exact := by
  intro silence server
  have records : server.records 1 = [.recovery 2147513647, .abnormality 15000, .enabled 0] := by
    decide +kernel
  refine ⟨records, ?_⟩
  intro exactly
  have sound := exactly.sound 1
  exact absurd sound.1.2 (by decide)

end MonitorServer

end PlayerFramework.Monitor
