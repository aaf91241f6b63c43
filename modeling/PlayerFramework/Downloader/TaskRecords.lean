import PlayerFramework.Downloader.PendingQueue

/-!
What one step does to the tasks that the `AVDownloaderManager` records: one relation with a case
for each way in which `taskMap_` changes.
-/

namespace PlayerFramework.Downloader

/-- The states in which a task downloads or is to download. -/
def AVDownloadTaskState.live : AVDownloadTaskState → Bool
  | .init => true
  | .queued => true
  | .running => true
  | .paused => true
  | _ => false

namespace AVDownloaderManager

open Transition Function

variable {manager : AVDownloaderManager}

def addedInfo (url filePath : List Char) : AVDownloadTaskInfo :=
  { url := url, currentFilePath := filePath, state := .queued,
    fileList := [⟨url, filePath, false, false⟩], notified := some .queued }

def completedInfo (id : Nat) (sniff : Sniff) (results : ParseResults)
    (manager : AVDownloaderManager) (info : AVDownloadTaskInfo) : AVDownloadTaskInfo :=
  let sniffed := sniffProtocol sniff info
  let files := sniffed.fileList.map fun file => { file with downloaded := true }
  if ¬ manager.downloaderMap id then { sniffed with fileList := files }
  else if ¬ files.any (·.needParse) then setState .completed { sniffed with fileList := files }
  else { sniffed with fileList := (parseFiles results files).1 ++ (parseFiles results files).2 }

def Adds (url : List Char) (manager : AVDownloaderManager) : Prop :=
  manager.holder = none ∧ url ≠ [] ∧ manager.findExistingTask url = none

/-- The task that the event records a new state of, whatever it was, and that state: after a
message of its downloader, a call of it that was answered, or the end of a pause. -/
def tells? (manager : AVDownloaderManager) : ManagerEvent → Option (Nat × AVDownloadTaskState)
  | .deliver id network _ _ =>
    match manager.arriving id with
    | some (.stateChanged state) => some (id, convertToAVDownloadTaskState state)
    | some (.failed _ _) =>
      some (id, if manager.isNetworkAllowDownload network then .error else .paused)
    | _ => none
  | .proceed _ =>
    match manager.holder with
    | some (.processCalling id) =>
      ((manager.downloaders id).answer holderCaller).map fun ret =>
        (id, if ret = downloadRetOk then .running else .error)
    | some (.pauseCalling id _) =>
      ((manager.downloaders id).answer holderCaller).map fun _ => (id, .paused)
    | _ => none
  | .pauseGoesOn call _ =>
    if call ∈ manager.pauses ∧ call.stage = .paused ∧ manager.holder = none then
      some (call.id, .paused)
    else none
  | _ => none

/-- How `taskMap_` changes, and the number of the tasks made. -/
inductive Records (manager : AVDownloaderManager) (event : ManagerEvent) :
    (Nat → Option AVDownloadTaskInfo) → Nat → Prop
  | kept : Records manager event manager.taskMap manager.nextId
  | removed (id : Nat) (removes : event = .removeDownloadTask id) :
      Records manager event (update manager.taskMap id none) manager.nextId
  | added (url filePath : List Char) (adds : event = .addDownloadTask url filePath)
      (new : manager.Adds url) :
      Records manager event (update manager.taskMap manager.nextId (some (addedInfo url filePath)))
        (manager.nextId + 1)
  | switched (after : Nat → Option AVDownloadTaskInfo)
      (each : ∀ id, after id = manager.taskMap id ∨ ∃ info state,
        manager.taskMap id = some info ∧ after id = some (setState state info) ∧
          info.state.live = true ∧ state.live = true) :
      Records manager event after manager.nextId
  | told (id : Nat) (state : AVDownloadTaskState) (tells : manager.tells? event =
    some (id, state)) :
      Records manager event (update manager.taskMap id ((manager.taskMap id).map (setState state)))
        manager.nextId
  | completed (id : Nat) (network : NetConnType) (sniff : Sniff) (results : ParseResults)
      (delivers : event = .deliver id network sniff results)
      (arrives : manager.arriving id = some .completed) :
      Records manager event (update manager.taskMap id
        ((manager.taskMap id).map (manager.completedInfo id sniff results))) manager.nextId

def Made (manager : AVDownloaderManager) : Prop :=
  ∀ id, manager.nextId ≤ id → manager.taskMap id = none

section Changes

variable {event : ManagerEvent}

theorem taskMap_notify (id : Nat) (state : AVDownloadTaskState) :
    (manager.notifyStatusChange id state).taskMap =
      update manager.taskMap id ((manager.taskMap id).map (setState state)) := rfl

theorem taskMap_enqueue (id : Nat) : (manager.enqueue id).taskMap =
      update manager.taskMap id ((manager.taskMap id).map (setState .queued)) := by
  unfold enqueue
  split
  · rename_i none
    rw [none, Option.map_none, ← none, update_eq_self]
  · rfl

theorem nextId_enqueue (id : Nat) : (manager.enqueue id).nextId = manager.nextId := by
  unfold enqueue
  split <;> rfl

variable {id : Nat}

theorem records_switch {before state : AVDownloadTaskState}
    (recorded : manager.recorded id = some before) (was : before.live = true)
    (becomes : state.live = true) :
    Records manager event (update manager.taskMap id ((manager.taskMap id).map (setState state)))
      manager.nextId := by
  obtain ⟨info, found, same⟩ := Option.map_eq_some_iff.mp recorded
  apply Records.switched
  intro other
  by_cases mine : other = id
  · subst mine
    refine .inr ⟨info, state, found, ?_, same ▸ was, becomes⟩
    rw [update_self, found, Option.map_some]
  · exact .inl (update_of_ne mine _ _)

theorem records_addDownloadTask (url filePath : List Char) (free : manager.holder = none) :
    Records manager (.addDownloadTask url filePath) (manager.addDownloadTask url filePath).taskMap
      (manager.addDownloadTask url filePath).nextId := by
  unfold addDownloadTask
  split
  · exact .kept
  rename_i named
  split
  · split
    · rename_i id _ paused
      change Records manager _ (manager.enqueue id).taskMap (manager.enqueue id).nextId
      rw [taskMap_enqueue, nextId_enqueue]
      exact records_switch paused rfl rfl
    · exact .kept
  · rename_i none
    have made := @Records.added manager (.addDownloadTask url filePath) url filePath rfl
      ⟨free, named, none⟩
    simpa [post, enqueue, notifyStatusChange, addedInfo, setState] using made

theorem records_removeDownloadTask (id : Nat) :
    Records manager (.removeDownloadTask id) (manager.removeDownloadTask id).taskMap
      (manager.removeDownloadTask id).nextId := by
  unfold removeDownloadTask
  have removed := @Records.removed manager (.removeDownloadTask id) id rfl
  simp only
  split
  · exact removed
  · split
    · exact removed
    · exact removed

theorem records_pauseDownloadTask (id : Nat) :
    Records manager event (manager.pauseDownloadTask id).taskMap
      (manager.pauseDownloadTask id).nextId := by
  unfold pauseDownloadTask
  split
  · exact .kept
  · rename_i queued
    exact records_switch queued rfl rfl
  · split
    · exact .kept
    · exact .kept
  · exact .kept

theorem records_resumeDownloadTask (id : Nat) :
    Records manager event (manager.resumeDownloadTask id).taskMap
      (manager.resumeDownloadTask id).nextId := by
  unfold resumeDownloadTask
  split
  · exact .kept
  rename_i paused
  rw [not_not] at paused
  change Records manager event (manager.enqueue id).taskMap (manager.enqueue id).nextId
  rw [taskMap_enqueue, nextId_enqueue]
  exact records_switch paused rfl rfl

/-- Every task keeps its record or goes from one live state to another. -/
def Switches (manager after : AVDownloaderManager) : Prop :=
  ∀ id, after.taskMap id = manager.taskMap id ∨ ∃ info state,
    manager.taskMap id = some info ∧ after.taskMap id = some (setState state info) ∧
      info.state.live = true ∧ state.live = true

theorem switches_restore (ids : List Nat) {before : AVDownloaderManager}
    (switches : Switches before manager) :
    Switches before (ids.foldl
      (fun manager id =>
        if manager.recorded id = some .paused then manager.enqueue id else manager) manager) := by
  induction ids generalizing manager with
  | nil => exact switches
  | cons id rest ih =>
    rw [List.foldl_cons]
    apply ih
    by_cases paused : manager.recorded id = some .paused
    · rw [if_pos paused]
      intro other
      rw [taskMap_enqueue]
      by_cases mine : other = id
      · subst mine
        obtain ⟨info, found, same⟩ := Option.map_eq_some_iff.mp paused
        rw [update_self, found]
        rcases switches other with kept | ⟨old, state, first, now, was, is⟩
        · exact .inr ⟨info, .queued, kept ▸ found, rfl, by rw [same]; rfl, rfl⟩
        · rw [found] at now
          exact .inr ⟨old, .queued, first, by rw [now]; rfl, was, rfl⟩
      · rw [update_of_ne mine]
        exact switches other
    · rw [if_neg paused]
      exact switches

theorem nextId_restore (ids : List Nat) :
    (ids.foldl (fun manager id =>
      if manager.recorded id = some .paused then manager.enqueue id else manager) manager).nextId =
      manager.nextId := by
  induction ids generalizing manager with
  | nil => rfl
  | cons id rest ih =>
    rw [List.foldl_cons, ih]
    split
    · exact nextId_enqueue id
    · rfl

theorem records_onNetworkChanged (network : NetConnType) :
    Records manager event (manager.onNetworkChanged network).taskMap
      (manager.onNetworkChanged network).nextId := by
  unfold onNetworkChanged
  split
  · change Records manager event _ (AVDownloaderManager.nextId (List.foldl _ _ _))
    rw [nextId_restore]
    exact .switched _ (switches_restore (List.range manager.nextId) fun _ => .inl rfl)
  · exact .kept

theorem records_handleMessage :
    Records manager event manager.handleMessage.taskMap manager.handleMessage.nextId := by
  unfold handleMessage
  split
  · exact .kept
  · split <;> exact .kept
  · exact .kept

theorem taskMap_onCompleted (id : Nat) (sniff : Sniff) (results : ParseResults) :
    (manager.onCompleted id sniff results).taskMap = update manager.taskMap id
        ((manager.taskMap id).map (manager.completedInfo id sniff results)) := by
  unfold onCompleted
  split
  · rename_i none
    rw [none, Option.map_none, ← none, update_eq_self]
  rename_i info found
  rw [found, Option.map_some, completedInfo]
  simp only
  split
  · rfl
  split
  · change (AVDownloaderManager.notifyStatusChange id .completed _).taskMap = _
    rw [taskMap_notify]
    simp [setState]
  · rfl

theorem nextId_onCompleted (id : Nat) (sniff : Sniff) (results : ParseResults) :
    (manager.onCompleted id sniff results).nextId = manager.nextId := by
  unfold onCompleted
  split
  · rfl
  · simp only
    split
    · rfl
    · split <;> rfl

theorem nextId_onFailed (id : Nat) (network : NetConnType) :
    (manager.onFailed id network).nextId = manager.nextId := by
  unfold onFailed
  split
  · rfl
  · split <;> rfl

theorem taskMap_onFailed (id : Nat) (network : NetConnType) :
    (manager.onFailed id network).taskMap = update manager.taskMap id ((manager.taskMap id).map
        (setState (if manager.isNetworkAllowDownload network then .error else .paused))) := by
  unfold onFailed
  by_cases allowed : manager.isNetworkAllowDownload network = true
  · rw [if_neg (not_not.mpr allowed), if_pos allowed]
    split <;> rfl
  · rw [if_pos allowed, if_neg allowed]
    rfl

theorem arriving_iff {message : Message} :
    manager.arriving id = some message ↔ manager.holder = none ∧
      (manager.downloaders id).client = none ∧
        (manager.downloaders id).messageQueue.head? = some message := by
  unfold arriving
  cases held : manager.holder with
  | some holder => simp
  | none =>
    cases calls : (manager.downloaders id).client with
    | some call | none => simp

theorem next_deliver {message : Message} (network : NetConnType) (sniff : Sniff)
    (results : ParseResults) (arrives : manager.arriving id = some message) :
    manager.next (.deliver id network sniff results) =
      (manager.onDownloader id (·.next .deliver)).report id message network sniff results := by
  obtain ⟨free, idle, messages⟩ := arriving_iff.mp arrives
  obtain ⟨rest, messages⟩ := List.head?_eq_some_iff.mp messages
  rw [next, if_neg (by simp [free]), deliver, if_neg (by simp [idle]), messages]

theorem next_deliver_none {network : NetConnType} {sniff : Sniff} {results : ParseResults}
    (none : manager.arriving id = none) :
    manager.next (.deliver id network sniff results) = manager := by
  rw [next]
  split
  · rfl
  rename_i free
  rw [deliver]
  split
  · rfl
  · rename_i idle
    rw [arriving, if_neg (not_or.mpr ⟨free, idle⟩), List.head?_eq_none_iff] at none
    rw [none]

theorem records_deliver (id : Nat) (network : NetConnType) (sniff : Sniff)
    (results : ParseResults) :
    Records manager (.deliver id network sniff results)
      (manager.next (.deliver id network sniff results)).taskMap
      (manager.next (.deliver id network sniff results)).nextId := by
  cases arrives : manager.arriving id with
  | none =>
    rw [next_deliver_none arrives]
    exact .kept
  | some message =>
    rw [next_deliver network sniff results arrives]
    cases message with
    | stateChanged state =>
      exact .told id (convertToAVDownloadTaskState state) (by simp [tells?, arrives])
    | completed =>
      rw [report, taskMap_onCompleted, nextId_onCompleted]
      exact .completed id network sniff results rfl arrives
    | failed errorType errorCode =>
      rw [report, taskMap_onFailed, nextId_onFailed]
      exact .told id _ (by simp only [tells?, arrives]; rfl)
    | fileCompleted => exact .kept

theorem records_processNextPendingTask :
    Records manager event manager.processNextPendingTask.taskMap
      manager.processNextPendingTask.nextId := by
  unfold processNextPendingTask
  split
  · exact .kept
  split
  · exact .kept
  · split
    · exact .kept
    · split <;> exact .kept

theorem records_proceed (network : NetConnType) :
    Records manager (.proceed network) (manager.proceed network).taskMap
      (manager.proceed network).nextId := by
  unfold proceed
  split
  · exact .kept
  · exact records_processNextPendingTask
  · split <;> exact .kept
  · split <;> exact .kept
  · rename_i id held
    split
    · exact .kept
    · rename_i ret answered
      exact .told id _ (by simp [tells?, held, answered])
  · exact .kept
  · split
    · rename_i queued
      exact records_switch queued rfl rfl
    · split <;> exact .kept
  · split <;> exact .kept
  · rename_i id rest held
    split
    · exact .kept
    · rename_i ret answered
      exact .told id _ (by simp [tells?, held, answered])
  · split <;> exact .kept
  · split <;> exact .kept

theorem records_pauseGoesOn {call : PauseCall} (pending : call ∈ manager.pauses) (late : Bool) :
    Records manager (.pauseGoesOn call late) (manager.pauseGoesOn call late).taskMap
      (manager.pauseGoesOn call late).nextId := by
  unfold pauseGoesOn
  split
  · split <;> exact .kept
  · split
    · exact .kept
    · split
      · exact .kept
      · split <;> exact .kept
  · rename_i paused
    split
    · exact .kept
    · rename_i free
      exact .told call.id .paused (by simpa [tells?, pending, paused] using free)

theorem records_next (event : ManagerEvent) :
    Records manager event (manager.next event).taskMap (manager.next event).nextId := by
  cases event with
  | addDownloadTask url filePath =>
    rw [next]
    split
    · exact .kept
    · rename_i free
      exact records_addDownloadTask url filePath (by simpa using free)
  | removeDownloadTask id =>
    rw [next]
    split
    · exact .kept
    · exact records_removeDownloadTask id
  | pauseDownloadTask id =>
    rw [next]
    split
    · exact .kept
    · exact records_pauseDownloadTask id
  | resumeDownloadTask id =>
    rw [next]
    split
    · exact .kept
    · exact records_resumeDownloadTask id
  | setAllowCellularAccess allow => exact .kept
  | onNetworkChanged network =>
    rw [next]
    split
    · exact .kept
    · exact records_onNetworkChanged network
  | handleMessage =>
    rw [next]
    split
    · exact .kept
    · exact records_handleMessage
  | releaseEnds =>
    rw [next, releaseEnds]
    split
    · exact .kept
    · split <;> exact .kept
  | removalEnds id asks =>
    rw [next, removalEnds]
    split
    · exact .kept
    · split <;> exact .kept
  | proceed network => exact records_proceed network
  | pauseGoesOn call late =>
    rw [next]
    split
    · exact .kept
    · rename_i pending
      exact records_pauseGoesOn (not_not.mp pending) late
  | deliver id network sniff results => exact records_deliver id network sniff results
  | downloader id event => exact .kept

theorem each_next {holds : AVDownloadTaskInfo → Prop} {event : ManagerEvent}
    (each : ∀ id info, manager.taskMap id = some info → holds info)
    (made : ∀ url filePath, event = .addDownloadTask url filePath → holds (addedInfo url filePath))
    (stated : ∀ state info, holds info → holds (setState state info))
    (completes : ∀ id network sniff results info, event = .deliver id network sniff results →
      manager.arriving id = some .completed → manager.taskMap id = some info →
        holds (manager.completedInfo id sniff results info)) :
    ∀ id info, (manager.next event).taskMap id = some info → holds info := by
  have updated : ∀ {id : Nat} {change : AVDownloadTaskInfo → AVDownloadTaskInfo},
      (∀ info, manager.taskMap id = some info → holds (change info)) → ∀ other info,
        update manager.taskMap id ((manager.taskMap id).map change) other = some info →
          holds info := by
    intro id change changed other info found
    by_cases mine : other = id
    · rw [mine, update_self] at found
      obtain ⟨old, was, now⟩ := Option.map_eq_some_iff.mp found
      exact now ▸ changed old was
    · rw [update_of_ne mine] at found
      exact each other info found
  have records : Records manager event _ _ := records_next event
  generalize (manager.next event).taskMap = taskMap at records ⊢
  generalize (manager.next event).nextId = nextId at records
  cases records with
  | kept => exact each
  | removed id removes =>
    intro other info found
    by_cases mine : other = id
    · rw [mine, update_self] at found
      cases found
    · rw [update_of_ne mine] at found
      exact each other info found
  | added url filePath adds new =>
    intro other info found
    by_cases mine : other = manager.nextId
    · rw [mine, update_self, Option.some.injEq] at found
      exact found ▸ made url filePath adds
    · rw [update_of_ne mine] at found
      exact each other info found
  | switched after changes =>
    intro id info found
    rcases changes id with kept | ⟨old, state, was, now, _⟩
    · exact each id info (kept ▸ found)
    · rw [now, Option.some.injEq] at found
      exact found ▸ stated state old (each id old was)
  | told id state tells => exact updated fun info found => stated state info (each id info found)
  | completed id network sniff results delivers arrives =>
    exact updated fun info found =>
      completes id network sniff results info delivers arrives found

theorem made_below {info : AVDownloadTaskInfo} (made : manager.Made)
    (found : manager.taskMap id = some info) : id < manager.nextId := by
  by_contra above
  rw [made id (Nat.le_of_not_lt above)] at found
  cases found

theorem made_update {info : AVDownloadTaskInfo → AVDownloadTaskInfo} (made : manager.Made) :
    ∀ other, manager.nextId ≤ other →
      update manager.taskMap id ((manager.taskMap id).map info) other = none := by
  intro other unmade
  by_cases mine : other = id
  · subst mine
    rw [update_self, made other unmade, Option.map_none]
  · rw [update_of_ne mine]
    exact made other unmade

theorem made_next (event : ManagerEvent) (made : manager.Made) : (manager.next event).Made := by
  have records : Records manager event _ _ := records_next event
  rw [Made]
  generalize (manager.next event).taskMap = taskMap at records ⊢
  generalize (manager.next event).nextId = nextId at records ⊢
  cases records with
  | kept => exact made
  | removed id removes =>
    intro other unmade
    by_cases mine : other = id
    · rw [mine, update_self]
    · rw [update_of_ne mine]
      exact made other unmade
  | added url filePath adds new =>
    intro other unmade
    rw [update_of_ne (by omega)]
    exact made other (by omega)
  | switched after each =>
    intro other unmade
    rcases each other with same | ⟨info, state, found, rest⟩
    · rw [same]
      exact made other unmade
    · rw [made other unmade] at found
      cases found
  | told id state tells | completed id network sniff results delivers arrives =>
    exact made_update made

theorem made_run (events : List ManagerEvent) : (run next {} events).Made :=
  invariant_of_run Made (fun _ event made => made_next event made) events fun _ _ => rfl

theorem nextId_next (event : ManagerEvent) : manager.nextId ≤ (manager.next event).nextId := by
  have records : Records manager event _ _ := records_next event
  generalize (manager.next event).taskMap = taskMap at records
  generalize (manager.next event).nextId = nextId at records ⊢
  cases records with
  | added url filePath adds new => exact Nat.le_succ manager.nextId
  | _ => exact Nat.le_refl manager.nextId

theorem gone_next (event : ManagerEvent) (old : id < manager.nextId)
    (gone : manager.taskMap id = none) : (manager.next event).taskMap id = none := by
  have records : Records manager event _ _ := records_next event
  generalize (manager.next event).taskMap = taskMap at records ⊢
  generalize (manager.next event).nextId = nextId at records
  have updated : ∀ (other : Nat) (change : AVDownloadTaskInfo → AVDownloadTaskInfo),
      update manager.taskMap other ((manager.taskMap other).map change) id = none := by
    intro other change
    by_cases mine : id = other
    · rw [← mine, update_self, gone, Option.map_none]
    · rw [update_of_ne mine, gone]
  cases records with
  | kept => exact gone
  | removed other removes =>
    by_cases mine : id = other
    · rw [mine, update_self]
    · rw [update_of_ne mine, gone]
  | added url filePath adds new => rw [update_of_ne (Nat.ne_of_lt old), gone]
  | switched after each =>
    rcases each id with same | ⟨info, state, found, _⟩
    · rw [same, gone]
    · rw [gone] at found
      cases found
  | told other state tells | completed other network sniff results delivers arrives =>
    exact updated other _

theorem gone_run (events : List ManagerEvent) (old : id < manager.nextId)
    (gone : manager.taskMap id = none) : (run next manager events).taskMap id = none := by
  have both := @invariant_of_run _ _ next
    (fun manager => id < manager.nextId ∧ manager.taskMap id = none)
    (fun manager event both =>
      ⟨Nat.lt_of_lt_of_le both.1 (nextId_next event), gone_next event both.1 both.2⟩)
    manager events ⟨old, gone⟩
  exact both.2

theorem record_next {info now : AVDownloadTaskInfo} (made : manager.Made)
    (found : manager.taskMap id = some info) (kept : (manager.next event).taskMap id = some now) :
    now = info ∨ (∃ state, now = setState state info) ∨ ∃ network sniff results,
      event = .deliver id network sniff results ∧ manager.arriving id = some .completed ∧
        now = manager.completedInfo id sniff results info := by
  have records : Records manager event _ _ := records_next event
  generalize (manager.next event).taskMap = taskMap at records kept
  generalize (manager.next event).nextId = nextId at records
  have same : manager.taskMap id = some now → now = info := by
    intro was
    rw [found, Option.some.injEq] at was
    exact was.symm
  cases records with
  | kept => exact .inl (same kept)
  | removed other removes =>
    by_cases mine : id = other
    · rw [mine, update_self] at kept
      cases kept
    · rw [update_of_ne mine] at kept
      exact .inl (same kept)
  | added url filePath adds new =>
    rw [update_of_ne (Nat.ne_of_lt (made_below made found))] at kept
    exact .inl (same kept)
  | switched after each =>
    rcases each id with unchanged | ⟨old, state, was, is, _⟩
    · exact .inl (same (unchanged ▸ kept))
    · rw [found, Option.some.injEq] at was
      rw [kept, Option.some.injEq] at is
      exact .inr (.inl ⟨state, was ▸ is⟩)
  | told other state tells =>
    by_cases mine : id = other
    · rw [← mine, update_self, found, Option.map_some, Option.some.injEq] at kept
      exact .inr (.inl ⟨state, kept.symm⟩)
    · rw [update_of_ne mine] at kept
      exact .inl (same kept)
  | completed other network sniff results delivers arrives =>
    by_cases mine : id = other
    · subst mine
      rw [update_self, found, Option.map_some, Option.some.injEq] at kept
      exact .inr (.inr ⟨network, sniff, results, delivers, arrives, kept.symm⟩)
    · rw [update_of_ne mine] at kept
      exact .inl (same kept)

end Changes

end AVDownloaderManager

end PlayerFramework.Downloader
