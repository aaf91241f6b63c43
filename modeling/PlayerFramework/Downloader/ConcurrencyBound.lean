import Mathlib.Data.List.Count
import PlayerFramework.Downloader.FileOrder
import PlayerFramework.Downloader.PendingQueue

/-!
How many downloaders of the `AVDownloaderManager` run at a time.
-/

namespace PlayerFramework.Downloader

open Transition Function

def DownloadState.active : DownloadState → Bool
  | .preparing => true
  | .running => true
  | _ => false

namespace DownloaderImpl

variable {downloader : DownloaderImpl}

/-- The step stores that the downloader prepares or runs. -/
def Activates (downloader : DownloaderImpl) (event : InnerEvent) : Prop :=
  match event with
  | .work task _ =>
    match (downloader.tasks task).callback with
    | some (.onStateChanged state) => state.active = true
    | _ => False
  | .handle network =>
    match downloader.handler with
    | some (.scheduling .processing) => downloader.takesFile network
    | some (.scheduling .started) => True
    | _ => False
  | .proceed network _ =>
    match downloader.client with
    | some (_, .starting .processing) => downloader.takesFile network
    | some (_, .resumeScheduling .processing) => downloader.takesFile network
    | some (_, .starting .started) => True
    | some (_, .resumeScheduling .started) => True
    | some (_, .resumed _) => True
    | _ => False
  | .cancelWaited _ _ => False

instance (downloader : DownloaderImpl) (event : InnerEvent) :
    Decidable (downloader.Activates event) := by
  unfold Activates takesFile
  exact match event with
  | .work _ _ => by
    dsimp only
    split <;> infer_instance
  | .handle _ => by
    dsimp only
    split <;> infer_instance
  | .proceed _ _ => by
    dsimp only
    exact match downloader.client with
    | none => .isFalse id
    | some (_, .starting .processing) | some (_, .resumeScheduling .processing) =>
      inferInstanceAs (Decidable (_ ∧ _ ∧ _))
    | some (_, .starting .started) | some (_, .resumeScheduling .started)
    | some (_, .resumed _) => .isTrue trivial
    | some (_, .starting .creating) | some (_, .starting (.replacing _ _))
    | some (_, .starting (.starting _)) | some (_, .resumeScheduling .creating)
    | some (_, .resumeScheduling (.replacing _ _)) | some (_, .resumeScheduling (.starting _))
    | some (_, .pausing _) | some (_, .resuming _) | some (_, .resumeChecking _)
    | some (_, .resumeNotifying) | some (_, .releasing _ _) => .isFalse id
  | .cancelWaited _ _ => .isFalse id

theorem active_work {task : Nat} {execution : Execution}
    (now : (downloader.work task execution).state.active = true) :
    downloader.state.active = true ∨ downloader.Activates (.work task execution) := by
  unfold work at now
  split at now
  · exact .inl now
  rename_i callback reported
  split at now
  · exact .inl now
  cases callback with
  | onStateChanged state =>
    right
    simp only [Activates, reported]
    simp only [report, onStateChanged] at now
    split at now <;> exact now
  | onCompleted =>
    left
    simp only [report, onCompleted] at now
    split at now <;> exact now
  | onFailed errorType errorCode =>
    simp only [report, onFailed] at now
    split at now
    · cases now
    · left
      split at now <;> exact now

variable {network : NetConnType} {caller : Nat}

/-- `ProcessNextTaskInQueue` stores the state when it takes a file and when it has started
the task. -/
theorem active_scheduled {stage : SchedulingStage} {stepped : DownloaderImpl}
    {outcome : SchedulingResult} (scheduled : Scheduled network downloader stage stepped outcome)
    (now : stepped.state.active = true) :
    downloader.state.active = true ∨
      (stage = .processing ∧ downloader.takesFile network) ∨ stage = .started := by
  cases scheduled with
  | takes takes _ => exact .inr (.inl ⟨rfl, takes⟩)
  | started => exact .inr (.inr rfl)
  | _ => exact .inl now

theorem active_handle (now : (downloader.handle network).state.active = true) :
    downloader.state.active = true ∨ downloader.Activates (.handle network) := by
  have handled := @handled downloader network
  generalize downloader.handle network = after at handled now
  cases handled with
  | goes handler scheduled | begins handler scheduled _ =>
    rcases active_scheduled scheduled now with before | ⟨rfl, takes⟩ | rfl
    · exact .inl before
    · right
      simpa only [Activates, handler] using takes
    · right
      simp [Activates, handler]
  | pauses | drained | fails => cases now
  | _ => exact .inl now

theorem state_letGo (caller task : Nat) (ret : Int) :
    (downloader.letGo caller task ret).state = downloader.state := by
  unfold letGo
  split <;> rfl

theorem active_pauseEnds (caller task : Nat) :
    (downloader.pauseEnds caller task).state.active = false := by
  unfold pauseEnds
  split
  · rw [state_letGo]
    rfl
  · rw [state_letGo]
    rfl

theorem active_proceed {expired : Bool}
    (now : (downloader.proceed network expired).state.active = true) :
    downloader.state.active = true ∨ downloader.Activates (.proceed network expired) := by
  have proceeded := @proceeded downloader network expired
  generalize downloader.proceed network expired = after at proceeded now
  cases proceeded with
  | starting client scheduled | started client scheduled | scheduling client scheduled
  | fails client scheduled _ | begins client scheduled _ =>
    rcases active_scheduled scheduled now with before | ⟨rfl, takes⟩ | rfl
    · exact .inl before
    · right
      simpa only [Activates, client] using takes
    · right
      simp [Activates, client]
  | pauseEnds =>
    rw [active_pauseEnds] at now
    cases now
  | resumes client =>
    right
    simp [Activates, client]
  | drained => cases now
  | _ => exact .inl now

theorem active_next {event : InnerEvent}
    (now : (downloader.next event.event).state.active = true) :
    downloader.state.active = true ∨ downloader.Activates event := by
  cases event with
  | proceed network expired => exact active_proceed now
  | handle network => exact active_handle now
  | work task execution => exact active_work now
  | cancelWaited task expired =>
    left
    simp only [InnerEvent.event, next, cancelWaited] at now
    split at now
    · exact now
    · split at now <;> exact now

theorem active_called {after : DownloaderImpl} (called : Called downloader caller after)
    (now : after.state.active = true) : downloader.state.active = true := by
  cases called with
  | stores failed => rcases failed with rfl | rfl <;> cases now
  | _ => exact now

theorem state_addFileTask (url outputPath : List Char) (config : DownloadConfig) :
    (downloader.addFileTask url outputPath config).1.state = downloader.state := by
  unfold addFileTask
  split
  · rfl
  · split
    · rfl
    · split <;> rfl

theorem state_setConfig (config : DownloadConfig) :
    (downloader.setConfig config).state = downloader.state := by
  unfold setConfig
  split <;> rfl

theorem state_addFiles (files : List DownloadFileInfo) (config : DownloadConfig) :
    (downloader.addFiles files config).state = downloader.state := by
  unfold addFiles
  induction files generalizing downloader with
  | nil => rfl
  | cons file rest ih =>
    rw [List.foldl_cons, ih, state_addFileTask, state_setConfig]

end DownloaderImpl

namespace AVDownloaderManager

variable {manager : AVDownloaderManager}

/-- This downloader prepares or runs; a `RemoveDownloadTask` still holds one that it has not
cancelled yet. -/
def runs (id : Nat) (manager : AVDownloaderManager) : Bool :=
  (manager.downloaders id).state.active

def runningCount (manager : AVDownloaderManager) : Nat :=
  (List.range manager.nextId).countP fun id => manager.runs id

/-- The records count this downloader, or would have to: its task has been removed and it still
prepares or runs. -/
def occupies (id : Nat) (manager : AVDownloaderManager) : Bool :=
  manager.recorded id = some .running || ((manager.recorded id).isNone && manager.runs id)

def occupiedCount (manager : AVDownloaderManager) : Nat :=
  (List.range manager.nextId).countP fun id => manager.occupies id

/-- A change of the record of this task is not one of a downloader that prepares or runs. -/
def idles (id : Nat) (manager : AVDownloaderManager) : Bool :=
  !manager.runs id || (manager.recorded id).isNone

/-- The record of a running downloader is not taken back, a message records only so many
tasks as running, a task is served only when those of removed tasks leave room too, and a
downloader runs only while it is recorded so or is being served. -/
def Mirrored (manager : AVDownloaderManager) (event : ManagerEvent) : Prop :=
  match event with
  | .deliver id _ sniff _ =>
    match manager.arriving id with
    | some (.stateChanged state) =>
      if convertToAVDownloadTaskState state = .running then
        manager.recorded id = none ∨ manager.recorded id = some .running ∨
          manager.occupiedCount < maxDownloaderCount
      else manager.idles id = true
    | some .completed => manager.finishes id sniff = true → manager.idles id = true
    | some (.failed _ _) => manager.idles id = true
    | _ => True
  | .proceed _ =>
    match manager.holder with
    | some .processing =>
      ∀ pending ∈ manager.pendingTaskQueue.head?, (manager.recorded pending.2).isSome = true →
        manager.downloaderMap pending.2 = true → manager.getActiveCount < maxDownloaderCount →
          manager.occupiedCount < maxDownloaderCount
    | some (.processCalling id) =>
      ∀ ret ∈ (manager.downloaders id).answer holderCaller,
        ret ≠ downloadRetOk → manager.idles id = true
    | some (.pauseCalling id _) =>
      ((manager.downloaders id).answer holderCaller).isSome = true → manager.idles id = true
    | _ => True
  | .pauseGoesOn call _ =>
    call ∈ manager.pauses → call.stage = .paused → manager.holder = none →
      manager.idles call.id = true
  | .downloader id event =>
    (manager.downloaders id).state.active = false → (manager.downloaders id).Activates event →
      manager.recorded id = some .running ∨ manager.served = some id
  | _ => True

instance (manager : AVDownloaderManager) (event : ManagerEvent) :
    Decidable (manager.Mirrored event) := by
  unfold Mirrored
  exact match event with
  | .deliver id _ _ _ => by
    dsimp only
    exact match manager.arriving id with
    | none | some (.stateChanged _) | some .completed | some (.failed _ _)
    | some .fileCompleted => by
      dsimp only
      infer_instance
  | .proceed _ => by
    dsimp only
    split <;> infer_instance
  | .pauseGoesOn _ _ => inferInstanceAs (Decidable (_ → _ → _ → _))
  | .downloader _ _ => inferInstanceAs (Decidable (_ → _ → _))
  | .addDownloadTask _ _ | .removeDownloadTask _ | .pauseDownloadTask _ | .resumeDownloadTask _
  | .setAllowCellularAccess _ | .onNetworkChanged _ | .handleMessage | .releaseEnds
  | .removalEnds _ _ => .isTrue trivial

/-- The records mirror the downloaders, and leave room for the task that is served. -/
structure Mirrors (manager : AVDownloaderManager) : Prop where
  mirror : ∀ id, manager.runs id = true → manager.occupies id = true ∨ manager.served = some id
  bound : manager.occupiedCount ≤ maxDownloaderCount
  room : ∀ id, manager.served = some id → manager.recorded id ≠ some .running →
    manager.occupiedCount < maxDownloaderCount
  known : ∀ id, manager.served = some id → (manager.recorded id).isSome = true
  made : ∀ id, manager.nextId ≤ id → manager.taskMap id = none

theorem countP_le_succ {α : Type} {list : List α} {first second : α → Bool} (extra : α)
    (nodup : list.Nodup) (others : ∀ x, x ≠ extra → second x = true → first x = true) :
    list.countP second ≤ list.countP first + 1 := by
  induction list with
  | nil => simp
  | cons head tail ih =>
    obtain ⟨fresh, nodup⟩ := List.nodup_cons.mp nodup
    by_cases same : head = extra
    · subst same
      have rest : tail.countP second ≤ tail.countP first := by
        apply List.countP_mono_left
        intro x member
        apply others
        rintro rfl
        exact fresh member
      have more : (head :: tail).countP second ≤ tail.countP second + 1 := by
        rw [List.countP_cons]
        split <;> omega
      have fewer : tail.countP first ≤ (head :: tail).countP first := by
        rw [List.countP_cons]
        omega
      omega
    · have rest := ih nodup
      have kept := others head same
      rw [List.countP_cons, List.countP_cons]
      split
      · rename_i counted
        rw [if_pos (kept counted)]
        omega
      · omega

variable {after : AVDownloaderManager} {id : Nat} {network : NetConnType}

theorem occupies_iff : manager.occupies id = true ↔
    manager.recorded id = some .running ∨
      (manager.recorded id = none ∧ manager.runs id = true) := by
  simp [occupies]

theorem occupiedCount_le (nextId : after.nextId = manager.nextId)
    (fewer : ∀ id, after.occupies id = true → manager.occupies id = true) :
    after.occupiedCount ≤ manager.occupiedCount := by
  unfold occupiedCount
  rw [nextId]
  exact List.countP_mono_left fun id _ occupied => fewer id occupied

theorem occupiedCount_le_succ (id : Nat) (nextId : after.nextId = manager.nextId)
    (others : ∀ other, other ≠ id → after.occupies other = true →
      manager.occupies other = true) :
    after.occupiedCount ≤ manager.occupiedCount + 1 := by
  unfold occupiedCount
  rw [nextId]
  exact countP_le_succ id List.nodup_range others

theorem runningCount_le (mirrors : Mirrors manager) :
    manager.runningCount ≤ maxDownloaderCount := by
  cases serving : manager.served with
  | none =>
    have counted : manager.runningCount ≤ manager.occupiedCount := by
      apply List.countP_mono_left
      intro id _ running
      rcases mirrors.mirror id running with occupied | served
      · exact occupied
      · rw [serving] at served
        cases served
    exact Nat.le_trans counted mirrors.bound
  | some task =>
    by_cases recorded : manager.recorded task = some .running
    · have counted : manager.runningCount ≤ manager.occupiedCount := by
        apply List.countP_mono_left
        intro id _ running
        rcases mirrors.mirror id running with known | served
        · exact known
        · rw [serving] at served
          cases served
          exact occupies_iff.mpr (.inl recorded)
      exact Nat.le_trans counted mirrors.bound
    · have counted : manager.runningCount ≤ manager.occupiedCount + 1 := by
        apply countP_le_succ task List.nodup_range
        intro id different running
        rcases mirrors.mirror id running with known | served
        · exact known
        · rw [serving] at served
          cases served
          exact absurd rfl different
      have room := mirrors.room task serving recorded
      omega

theorem mirrors_quiet (mirrors : Mirrors manager) (served : after.served = manager.served)
    (nextId : after.nextId = manager.nextId)
    (runs : ∀ id, after.runs id = true → manager.runs id = true)
    (fewer : ∀ id, after.occupies id = true → manager.occupies id = true)
    (kept : ∀ id, after.runs id = true → manager.occupies id = true → after.occupies id = true)
    (same : ∀ id, manager.served = some id → after.recorded id = manager.recorded id)
    (made : ∀ id, manager.nextId ≤ id → after.taskMap id = none) : Mirrors after := by
  have count := occupiedCount_le nextId fewer
  constructor
  · intro id running
    rcases mirrors.mirror id (runs id running) with occupied | serving
    · exact .inl (kept id running occupied)
    · right
      rw [served]
      exact serving
  · exact Nat.le_trans count mirrors.bound
  · intro id serving other
    rw [served] at serving
    rw [same id serving] at other
    exact Nat.lt_of_le_of_lt count (mirrors.room id serving other)
  · intro id serving
    rw [served] at serving
    rw [same id serving]
    exact mirrors.known id serving
  · rw [nextId]
    exact made

theorem Mirrors.still (mirrors : Mirrors manager)
    (records : ∀ id, after.recorded id = manager.recorded id)
    (made : ∀ id, manager.nextId ≤ id → after.taskMap id = none)
    (served : after.served = manager.served) (nextId : after.nextId = manager.nextId)
    (runs : ∀ id, after.runs id = true → manager.runs id = true) : Mirrors after := by
  apply mirrors_quiet mirrors served nextId runs
  · intro id occupied
    rw [occupies_iff, records] at occupied
    rw [occupies_iff]
    exact occupied.imp_right fun removed => ⟨removed.1, runs id removed.2⟩
  · intro id running occupied
    rw [occupies_iff] at occupied
    rw [occupies_iff, records]
    exact occupied.imp_right fun removed => ⟨removed.1, running⟩
  · intro id _
    exact records id
  · exact made

theorem Mirrors.same (mirrors : Mirrors manager) (taskMap : after.taskMap = manager.taskMap)
    (served : after.served = manager.served) (nextId : after.nextId = manager.nextId)
    (runs : ∀ id, after.runs id = true → manager.runs id = true) : Mirrors after := by
  refine mirrors.still ?_ ?_ served nextId runs
  · intro id
    simp [recorded, taskMap]
  · rw [taskMap]
    exact mirrors.made

theorem Mirrors.congr (mirrors : Mirrors manager) (served : after.served = manager.served)
    (nextId : after.nextId = manager.nextId) (taskMap : after.taskMap = manager.taskMap)
    (downloaders : after.downloaders = manager.downloaders) : Mirrors after := by
  apply mirrors.same taskMap served nextId
  intro id running
  simpa only [runs, downloaders] using running

theorem runs_onDownloader {change : DownloaderImpl → DownloaderImpl}
    (downloaders : after.downloaders = (manager.onDownloader id change).downloaders)
    (inactive : (change (manager.downloaders id)).state.active = true →
      (manager.downloaders id).state.active = true) (other : Nat)
    (running : after.runs other = true) : manager.runs other = true := by
  simp only [runs, downloaders, onDownloader] at running ⊢
  by_cases mine : other = id
  · subst mine
    rw [update_self] at running
    exact inactive running
  · rw [update_of_ne mine] at running
    exact running

theorem mirrors_onDownloader (id : Nat) (change : DownloaderImpl → DownloaderImpl)
    (mirrors : Mirrors manager) (served : after.served = manager.served)
    (nextId : after.nextId = manager.nextId) (taskMap : after.taskMap = manager.taskMap)
    (downloaders : after.downloaders = (manager.onDownloader id change).downloaders)
    (inactive : (change (manager.downloaders id)).state.active = true →
      (manager.downloaders id).state.active = true) : Mirrors after :=
  mirrors.same taskMap served nextId (runs_onDownloader downloaders inactive)

/-- A manager that serves no task. -/
theorem mirrors_unserved (served : after.served = none)
    (mirror : ∀ id, after.runs id = true → after.occupies id = true)
    (bound : after.occupiedCount ≤ maxDownloaderCount)
    (made : ∀ id, after.nextId ≤ id → after.taskMap id = none) : Mirrors after where
  mirror id running := .inl (mirror id running)
  bound := bound
  room id serving := by simp [served] at serving
  known id serving := by simp [served] at serving
  made := made

theorem Mirrors.mirrored (mirrors : Mirrors manager) (unserved : manager.served = none) (id : Nat)
    (running : manager.runs id = true) : manager.occupies id = true := by
  rcases mirrors.mirror id running with occupied | serving
  · exact occupied
  · rw [unserved] at serving
    cases serving

theorem unrecorded (idle : manager.idles id = true) (running : manager.runs id = true) :
    manager.recorded id = none := by
  simpa [idles, running] using idle

theorem mirrors_unrun (id : Nat) (state : AVDownloadTaskState) (mirrors : Mirrors manager)
    (other : state ≠ .running) (idle : manager.runs id = true → manager.recorded id ≠ some .running)
    (unserved : manager.served = none) (served : after.served = none)
    (nextId : after.nextId = manager.nextId)
    (taskMap : after.taskMap = (manager.notifyStatusChange id state).taskMap)
    (runs : ∀ id, after.runs id = true → manager.runs id = true) : Mirrors after := by
  have records : ∀ task, after.recorded task =
      if task = id then (manager.recorded id).map fun _ => state else manager.recorded task := by
    intro task
    rw [← recorded_notify]
    simp [recorded, taskMap]
  apply mirrors_quiet mirrors (served.trans unserved.symm) nextId runs
  · intro task occupied
    rw [occupies_iff, records] at occupied
    rw [occupies_iff]
    split at occupied
    · rename_i mine
      subst mine
      cases record : manager.recorded task with
      | none =>
        rw [record] at occupied
        exact .inr ⟨rfl, runs task (by simpa using occupied)⟩
      | some before => simp [record, other] at occupied
    · exact occupied.imp_right fun removed => ⟨removed.1, runs task removed.2⟩
  · intro task running occupied
    rw [occupies_iff] at occupied
    rw [occupies_iff, records]
    split
    · rename_i mine
      subst mine
      rcases occupied with recorded | removed
      · exact absurd recorded (idle (runs _ running))
      · exact .inr ⟨by simp [removed.1], running⟩
    · exact occupied.imp_right fun removed => ⟨removed.1, running⟩
  · intro task serving
    rw [unserved] at serving
    cases serving
  · intro task beyond
    rw [taskMap]
    exact unmade_notify id state mirrors.made task beyond

/-- A step that may take back the record of a task whose downloader idles. -/
theorem mirrors_taken (id : Nat) (state : AVDownloadTaskState) (mirrors : Mirrors manager)
    (other : state ≠ .running) (idle : manager.idles id = true)
    (unserved : manager.served = none) (served : after.served = none)
    (nextId : after.nextId = manager.nextId)
    (taskMap : after.taskMap = (manager.notifyStatusChange id state).taskMap)
    (runs : ∀ id, after.runs id = true → manager.runs id = true) : Mirrors after := by
  refine mirrors_unrun id state mirrors other
    (fun running => ?_) unserved served nextId taskMap runs
  simp [unrecorded idle running]

theorem mirrors_enqueue (mirrors : Mirrors manager) (free : manager.holder = none)
    (other : manager.recorded id ≠ some .running) : Mirrors (manager.enqueue id) := by
  unfold enqueue
  split
  · exact mirrors
  · exact mirrors_unrun id .queued mirrors (by simp) (fun _ => other) (served_free free)
      (served_free free) rfl rfl fun _ running => running

theorem mirrors_post {message : ManagerMessage} (mirrors : Mirrors manager) :
    Mirrors (manager.post message) :=
  mirrors.congr rfl rfl rfl rfl

theorem mirrors_insert {info : AVDownloadTaskInfo} (mirrors : Mirrors manager)
    (unserved : manager.served = none) (other : info.state ≠ .running)
    (served : after.served = none)
    (taskMap : after.taskMap = update manager.taskMap manager.nextId (some info))
    (downloaders : after.downloaders = update manager.downloaders manager.nextId {})
    (nextId : after.nextId = manager.nextId + 1) : Mirrors after := by
  have same : ∀ id, id ≠ manager.nextId → after.occupies id = manager.occupies id := by
    intro id different
    simp [occupies, recorded, runs, taskMap, downloaders, different]
  apply mirrors_unserved served
  · intro id running
    by_cases new : id = manager.nextId
    · subst new
      simp [runs, downloaders, DownloadState.active] at running
    · have before : manager.runs id = true := by
        simpa [runs, downloaders, new] using running
      rw [same id new]
      exact mirrors.mirrored unserved id before
  · have last : ¬ after.occupies manager.nextId = true := by
      simp [occupies, recorded, taskMap, other]
    have count : after.occupiedCount ≤ manager.occupiedCount := by
      simp only [occupiedCount, nextId, List.range_succ, List.countP_append, List.countP_singleton]
      rw [if_neg last, Nat.add_zero]
      apply List.countP_mono_left
      intro id member occupied
      rwa [same id (Nat.ne_of_lt (List.mem_range.mp member))] at occupied
    exact Nat.le_trans count mirrors.bound
  · intro id beyond
    rw [nextId] at beyond
    have different : id ≠ manager.nextId := Nat.ne_of_gt beyond
    simpa [taskMap, different] using mirrors.made id (Nat.le_of_succ_le beyond)

theorem mirrors_addDownloadTask {url filePath : List Char} (mirrors : Mirrors manager)
    (free : manager.holder = none) : Mirrors (manager.addDownloadTask url filePath) := by
  unfold addDownloadTask
  split
  · exact mirrors
  split
  · split
    · rename_i paused
      exact mirrors_post (mirrors_enqueue mirrors free (by simp [paused]))
    · exact mirrors
  · apply mirrors_post
    apply mirrors_enqueue
    · exact mirrors_insert mirrors (served_free free) (by simp) (served_free free) rfl rfl rfl
    · exact free
    · simp [recorded]

theorem mirrors_removeDownloadTask (mirrors : Mirrors manager) (free : manager.holder = none) :
    Mirrors (manager.removeDownloadTask id) := by
  have removed : ∀ {after : AVDownloaderManager}, after.holder = none →
      after.nextId = manager.nextId → after.taskMap = update manager.taskMap id none →
      after.downloaders = manager.downloaders → Mirrors after := by
    intro after stays nextId taskMap downloaders
    have runs : ∀ task, after.runs task = manager.runs task := by
      intro task
      simp [AVDownloaderManager.runs, downloaders]
    have records : ∀ task, after.recorded task =
        if task = id then none else manager.recorded task := by
      intro task
      by_cases mine : task = id
      · simp [recorded, taskMap, mine]
      · simp [recorded, taskMap, mine]
    have unserved := served_free free
    apply mirrors_quiet mirrors ((served_free stays).trans unserved.symm) nextId
    · intro task running
      rwa [runs] at running
    · intro task occupied
      by_cases mine : task = id
      · apply mirrors.mirrored unserved
        simpa [occupies, records, mine, runs] using occupied
      · simpa [occupies, records, mine, runs] using occupied
    · intro task running occupied
      rw [runs] at running
      by_cases mine : task = id
      · subst mine
        simp [occupies, records, runs, running]
      · simpa [occupies, records, mine, runs] using occupied
    · intro task serving
      rw [unserved] at serving
      cases serving
    · intro task beyond
      have before := mirrors.made task beyond
      by_cases mine : task = id
      · simp [taskMap, mine]
      · simpa [taskMap, mine] using before
  unfold removeDownloadTask
  simp only
  split
  · exact removed free rfl rfl rfl
  · split
    · exact removed free rfl rfl rfl
    · exact removed free rfl rfl rfl

theorem mirrors_pauseDownloadTask (mirrors : Mirrors manager) (free : manager.holder = none) :
    Mirrors (manager.pauseDownloadTask id) := by
  unfold pauseDownloadTask
  split
  · exact mirrors
  · rename_i queued
    exact mirrors_unrun id .paused mirrors (by simp) (by simp [queued]) (served_free free)
      (served_free free) rfl rfl fun _ running => running
  · split
    · exact mirrors.congr rfl rfl rfl rfl
    · exact mirrors
  · exact mirrors

theorem mirrors_resumeDownloadTask (mirrors : Mirrors manager) (free : manager.holder = none) :
    Mirrors (manager.resumeDownloadTask id) := by
  unfold resumeDownloadTask
  split
  · exact mirrors
  · rename_i paused
    rw [not_not] at paused
    exact mirrors_post (mirrors_enqueue mirrors free (by simp [paused]))

theorem mirrors_restore (ids : List Nat) (mirrors : Mirrors manager)
    (free : manager.holder = none) :
    Mirrors (ids.foldl (fun manager id =>
      if manager.recorded id = some .paused then manager.enqueue id else manager) manager) := by
  induction ids generalizing manager with
  | nil => exact mirrors
  | cons id rest ih =>
    rw [List.foldl_cons]
    split
    · rename_i paused
      apply ih
      · exact mirrors_enqueue mirrors free (by simp [paused])
      · rw [holder_enqueue]
        exact free
    · exact ih mirrors free

theorem mirrors_onNetworkChanged (mirrors : Mirrors manager) (free : manager.holder = none) :
    Mirrors (manager.onNetworkChanged network) := by
  unfold onNetworkChanged
  split
  · exact mirrors_post (mirrors_restore _ mirrors free)
  · exact mirrors.congr (served_free free).symm rfl rfl rfl

theorem mirrors_handleMessage (mirrors : Mirrors manager) (free : manager.holder = none) :
    Mirrors manager.handleMessage := by
  unfold handleMessage
  split
  · exact mirrors
  · rename_i id rest _
    split
    · exact mirrors.congr rfl rfl rfl rfl
    · exact mirrors.congr rfl rfl rfl rfl
  · exact mirrors.congr (served_free free).symm rfl rfl rfl

theorem mirrors_run (mirrors : Mirrors manager) (free : manager.holder = none)
    (room : manager.recorded id = none ∨ manager.recorded id = some .running ∨
      manager.occupiedCount < maxDownloaderCount) :
    Mirrors (manager.notifyStatusChange id .running) := by
  have records := fun task => @recorded_notify manager id task .running
  have runs : ∀ task, (manager.notifyStatusChange id .running).runs task = manager.runs task :=
    fun _ => rfl
  refine mirrors_unserved (served_free free) ?_ ?_ ?_
  · intro task running
    have occupied := mirrors.mirrored (served_free free) task running
    rw [occupies_iff] at occupied
    rw [occupies_iff, records]
    split
    · rename_i mine
      subst mine
      rcases occupied with recorded | removed
      · simp [recorded]
      · exact .inr ⟨by simp [removed.1], running⟩
    · exact occupied.imp_right fun removed => ⟨removed.1, running⟩
  · by_cases more : manager.occupiedCount < maxDownloaderCount
    · have count : (manager.notifyStatusChange id .running).occupiedCount ≤
          manager.occupiedCount + 1 := by
        apply occupiedCount_le_succ id (by rfl)
        intro other different occupied
        rwa [occupies, records, if_neg different, runs] at occupied
      omega
    · have count : (manager.notifyStatusChange id .running).occupiedCount ≤
          manager.occupiedCount := by
        apply occupiedCount_le (by rfl)
        intro task occupied
        rw [occupies, records, runs] at occupied
        split at occupied
        · rename_i mine
          subst mine
          rcases room with unknown | known | less
          · simpa [occupies, unknown] using occupied
          · simp [occupies, known]
          · exact absurd less more
        · exact occupied
      exact Nat.le_trans count mirrors.bound
  · exact unmade_notify id .running mirrors.made

theorem mirrors_finish (mirrors : Mirrors manager) (free : manager.holder = none)
    (idle : manager.idles id = true) : Mirrors (manager.processDownloadFinish id) := by
  apply mirrors_post
  apply mirrors_post
  exact mirrors_taken id .completed mirrors (by simp) idle (served_free free)
    (served_free free) rfl rfl fun _ running => running

theorem mirrors_onCompleted {sniff : Sniff} {results : ParseResults} (mirrors : Mirrors manager)
    (free : manager.holder = none)
    (kept : manager.finishes id sniff = true → manager.idles id = true) :
    Mirrors (manager.onCompleted id sniff results) := by
  unfold onCompleted
  split
  · exact mirrors
  rename_i info known
  have files : ∀ {after : AVDownloaderManager} (files : List DownloadFileInfo),
      after.taskMap = update manager.taskMap id
        (some { sniffProtocol sniff info with fileList := files }) →
      after.served = manager.served → after.nextId = manager.nextId →
      (∀ task, after.runs task = true → manager.runs task = true) → Mirrors after := by
    intro after files taskMap
    exact mirrors.still (recorded_files known taskMap (state_sniff sniff info))
      (unmade_files known taskMap mirrors.made)
  have marked : Mirrors { manager with
      taskMap := update manager.taskMap id (some { sniffProtocol sniff info with
        fileList := (sniffProtocol sniff info).fileList.map fun file =>
          { file with downloaded := true } }) } :=
    files _ rfl rfl rfl fun _ running => running
  simp only
  split
  · exact marked
  rename_i owned
  rw [not_not] at owned
  split
  · rename_i parsed
    have idle := kept (by simpa [finishes, known, owned] using parsed)
    apply mirrors_finish marked free
    simpa [idles, recorded, runs, known, state_sniff] using idle
  · exact files _ rfl (served_free free).symm rfl fun _ running => running

theorem mirrors_onFailed (mirrors : Mirrors manager) (free : manager.holder = none)
    (idle : manager.idles id = true) :
    Mirrors (manager.onFailed id network) := by
  have unrun : ∀ state, state ≠ .running → Mirrors (manager.notifyStatusChange id state) := by
    intro state other
    exact mirrors_taken id state mirrors other idle (served_free free)
      (served_free free) rfl rfl fun _ running => running
  unfold onFailed
  split
  · exact unrun _ (by simp)
  · split
    · exact mirrors_post (mirrors_post (unrun _ (by simp)))
    · exact mirrors_post (unrun _ (by simp))

theorem mirrors_deliver {sniff : Sniff} {results : ParseResults} (mirrors : Mirrors manager)
    (free : manager.holder = none)
    (mirrored : Mirrored manager (.deliver id network sniff results)) :
    Mirrors (manager.deliver id network sniff results) := by
  unfold deliver
  split
  · exact mirrors
  rename_i idle
  split
  · exact mirrors
  rename_i message rest messages
  have arrives : manager.arriving id = some message := by
    simp only [arriving, free]
    rw [if_neg (by simpa using idle), messages]
    rfl
  have delivered : ((manager.downloaders id).next .deliver).state =
      (manager.downloaders id).state := by
    simp only [DownloaderImpl.next]
    split <;> rfl
  have taken : Mirrors (manager.onDownloader id (·.next .deliver)) := by
    refine mirrors_onDownloader id (·.next .deliver) mirrors rfl rfl rfl rfl ?_
    rw [delivered]
    exact fun running => running
  have still : ∀ task, (manager.onDownloader id (·.next .deliver)).runs task =
      manager.runs task := by
    intro task
    by_cases mine : task = id
    · subst mine
      simp [runs, onDownloader, delivered]
    · simp [runs, onDownloader, mine]
  have idles : (manager.onDownloader id (·.next .deliver)).idles id = manager.idles id := by
    rw [AVDownloaderManager.idles, still]
    rfl
  have count : (manager.onDownloader id (·.next .deliver)).occupiedCount =
      manager.occupiedCount := by
    simp only [occupiedCount, occupies, still]
    rfl
  simp only [Mirrored, arrives] at mirrored
  cases message with
  | stateChanged state =>
    simp only [report]
    simp only at mirrored
    split at mirrored
    · rename_i running
      rw [running]
      refine mirrors_run taken free ?_
      rw [count]
      exact mirrored
    · rename_i other
      exact mirrors_taken id _ taken other (idles.trans mirrored) (served_free free)
        (served_free free) rfl rfl fun _ running => running
  | completed =>
    apply mirrors_onCompleted taken free
    intro finishes
    rw [idles]
    exact mirrored finishes
  | failed errorType errorCode =>
    apply mirrors_onFailed taken free
    rw [idles]
    exact mirrored
  | fileCompleted => exact taken

theorem mirrors_processNextPendingTask (mirrors : Mirrors manager)
    (processing : manager.holder = some .processing)
    (leaves : ∀ pending ∈ manager.pendingTaskQueue.head?,
      (manager.recorded pending.2).isSome = true → manager.downloaderMap pending.2 = true →
        manager.getActiveCount < maxDownloaderCount →
          manager.occupiedCount < maxDownloaderCount) :
    Mirrors manager.processNextPendingTask := by
  have unserved : manager.served = none := by
    simp [served, processing]
  have ends : Mirrors { manager with holder := none } :=
    mirrors.congr unserved.symm rfl rfl rfl
  unfold processNextPendingTask
  split
  · exact ends
  rename_i active
  split
  · exact ends
  rename_i url id rest queued
  have popped : Mirrors { manager with pendingTaskQueue := rest } :=
    mirrors.congr rfl rfl rfl rfl
  split
  · exact popped
  rename_i found
  have known : (manager.recorded id).isSome = true := by
    cases task : manager.taskMap id with
    | none => simp [task] at found
    | some info => simp [recorded, task]
  have owned : manager.downloaderMap id = true := by
    by_contra missing
    exact found (.inr missing)
  have room := leaves (url, id) (by rw [queued]; rfl) known owned (Nat.lt_of_not_le active)
  have serves : ∀ {after : AVDownloaderManager}, after.served = some id →
      after.taskMap = manager.taskMap → after.nextId = manager.nextId →
      after.downloaders = manager.downloaders → Mirrors after := by
    intro after served taskMap nextId downloaders
    have records : ∀ task, after.recorded task = manager.recorded task := by
      intro task
      simp [recorded, taskMap]
    have same : ∀ task, after.occupies task = manager.occupies task := by
      intro task
      simp [occupies, records, runs, downloaders]
    have count : after.occupiedCount ≤ manager.occupiedCount := by
      apply occupiedCount_le nextId
      intro task occupied
      rwa [same] at occupied
    constructor
    · intro task running
      simp only [runs, downloaders] at running
      rw [same]
      exact .inl (mirrors.mirrored unserved task running)
    · exact Nat.le_trans count mirrors.bound
    · intro _ _ _
      exact Nat.lt_of_le_of_lt count room
    · intro task serving
      rw [served] at serving
      cases serving
      rw [records]
      exact known
    · rw [nextId, taskMap]
      exact mirrors.made
  split
  · exact serves rfl rfl rfl rfl
  · exact serves rfl rfl rfl rfl
  · exact popped

theorem mirrors_served (ret : Int) (mirrors : Mirrors manager) (serving : manager.served = some id)
    (served : after.served = none) (nextId : after.nextId = manager.nextId)
    (taskMap : after.taskMap = (manager.notifyStatusChange id
      (if ret = downloadRetOk then .running else .error)).taskMap)
    (runs : ∀ id, after.runs id = true → manager.runs id = true)
    (idle : ret ≠ downloadRetOk → manager.idles id = true) : Mirrors after := by
  have records : ∀ task, after.recorded task =
      if task = id then
        (manager.recorded id).map fun _ => if ret = downloadRetOk then .running else .error
      else manager.recorded task := by
    intro task
    rw [← recorded_notify]
    simp [recorded, taskMap]
  have known := mirrors.known id serving
  have others : ∀ task, task ≠ id → after.occupies task = true → manager.occupies task = true := by
    intro task mine occupied
    rw [occupies_iff, records, if_neg mine] at occupied
    rw [occupies_iff]
    exact occupied.imp_right fun removed => ⟨removed.1, runs task removed.2⟩
  constructor
  · intro task running
    left
    rw [occupies_iff, records]
    by_cases mine : task = id
    · subst mine
      rw [if_pos rfl]
      by_cases succeeded : ret = downloadRetOk
      · rw [if_pos succeeded]
        cases record : manager.recorded task with
        | none => simp [record] at known
        | some state => exact .inl rfl
      · simp [unrecorded (idle succeeded) (runs task running)] at known
    · rw [if_neg mine]
      rcases mirrors.mirror task (runs task running) with occupied | now
      · exact (occupies_iff.mp occupied).imp_right fun removed => ⟨removed.1, running⟩
      · rw [serving] at now
        cases now
        exact absurd rfl mine
  · by_cases recorded : manager.recorded id = some .running
    · have count : after.occupiedCount ≤ manager.occupiedCount := by
        apply occupiedCount_le nextId
        intro task occupied
        by_cases mine : task = id
        · subst mine
          exact occupies_iff.mpr (.inl recorded)
        · exact others task mine occupied
      exact Nat.le_trans count mirrors.bound
    · have count : after.occupiedCount ≤ manager.occupiedCount + 1 :=
        occupiedCount_le_succ id nextId others
      have room := mirrors.room id serving recorded
      omega
  · intro task now
    rw [served] at now
    cases now
  · intro task now
    rw [served] at now
    cases now
  · intro task beyond
    rw [nextId] at beyond
    rw [taskMap]
    exact unmade_notify id _ mirrors.made task beyond

theorem runs_forget {task caller : Nat}
    (running : (manager.onDownloader id (·.forget caller)).runs task = true) :
    manager.runs task = true :=
  @runs_onDownloader manager (manager.onDownloader id (·.forget caller)) id (·.forget caller) rfl
    (fun running => running) task running

theorem mirrors_proceed (mirrors : Mirrors manager)
    (mirrored : Mirrored manager (.proceed network)) :
    Mirrors (manager.proceed network) := by
  cases holder : manager.holder with
  | none =>
    simp only [proceed, holder]
    exact mirrors
  | some stage =>
    simp only [Mirrored, holder] at mirrored
    cases stage with
    | processing =>
      simp only [proceed, holder]
      exact mirrors_processNextPendingTask mirrors holder mirrored
    | starting id url =>
      simp only [proceed, holder]
      split
      · exact mirrors
      refine mirrors_onDownloader id (fun downloader =>
        (((downloader.addFileTask url (manager.filePath id) manager.config).1).setConfig
          manager.config).start holderCaller network) mirrors (by simp [served, holder]) rfl
          rfl rfl ?_
      intro running
      have before := DownloaderImpl.active_called (DownloaderImpl.called_start _ _) running
      rwa [DownloaderImpl.state_setConfig, DownloaderImpl.state_addFileTask] at before
    | resuming id =>
      simp only [proceed, holder]
      split
      · exact mirrors
      · exact mirrors_onDownloader id (·.resume holderCaller network) mirrors
          (by simp [served, holder]) rfl rfl rfl
          (DownloaderImpl.active_called (DownloaderImpl.called_resume _ _))
    | processCalling id =>
      have serving : manager.served = some id := by
        simp [served, holder]
      simp only [proceed, holder]
      split
      · exact mirrors
      · rename_i ret answered
        exact mirrors_served ret mirrors serving rfl rfl rfl (fun _ running => runs_forget running)
          (mirrored ret answered)
    | losing ids =>
      have unserved : manager.served = none := by
        simp [served, holder]
      cases ids with
      | nil =>
        simp only [proceed, holder]
        exact mirrors.congr unserved.symm rfl rfl rfl
      | cons id rest =>
        simp only [proceed, holder]
        split
        · rename_i queued
          exact mirrors_unrun id .paused mirrors (by simp) (by simp [queued]) unserved rfl rfl rfl
            fun _ running => running
        · split
          · exact mirrors.congr unserved.symm rfl rfl rfl
          · exact mirrors.congr unserved.symm rfl rfl rfl
    | pausing id rest =>
      simp only [proceed, holder]
      split
      · exact mirrors
      · exact mirrors_onDownloader id (·.pause holderCaller) mirrors (by simp [served, holder])
          rfl rfl rfl (DownloaderImpl.active_called (DownloaderImpl.called_pause _))
    | pauseCalling id rest =>
      have unserved : manager.served = none := by
        simp [served, holder]
      simp only [proceed, holder]
      split
      · exact mirrors
      · rename_i ret answered
        have idle := mirrored (by rw [answered]; rfl)
        exact mirrors_taken id .paused mirrors (by simp) idle unserved rfl rfl rfl
          fun _ running => runs_forget running
    | submitting id =>
      simp only [proceed, holder]
      split
      · exact mirrors
      refine mirrors_onDownloader id (fun downloader =>
        (downloader.addFiles (manager.remaining id) manager.config).start holderCaller
          network) mirrors (by simp [served, holder]) rfl rfl rfl ?_
      intro running
      have before := DownloaderImpl.active_called (DownloaderImpl.called_start _ _) running
      rwa [DownloaderImpl.state_addFiles] at before
    | submitCalling id =>
      simp only [proceed, holder]
      split
      · exact mirrors
      · exact mirrors.same rfl (by simp [served, holder]) rfl fun _ running => runs_forget running

theorem mirrors_pauseGoesOn {call : PauseCall} {late : Bool} (mirrors : Mirrors manager)
    (kept : call.stage = .paused → manager.holder = none → manager.idles call.id = true) :
    Mirrors (manager.pauseGoesOn call late) := by
  cases stage : call.stage with
  | trying =>
    simp only [pauseGoesOn, stage]
    split
    · exact mirrors
    · exact mirrors_onDownloader call.id (·.pause call.caller) mirrors rfl rfl rfl rfl
        (DownloaderImpl.active_called (DownloaderImpl.called_pause _))
  | calling =>
    have answered : ∀ {after : AVDownloaderManager}, after.served = manager.served →
        after.nextId = manager.nextId → after.taskMap = manager.taskMap →
        after.downloaders = (manager.onDownloader call.id (·.forget call.caller)).downloaders →
        Mirrors after := by
      intro after served nextId taskMap downloaders
      exact mirrors_onDownloader call.id (·.forget call.caller) mirrors served nextId taskMap
        downloaders fun running => running
    simp only [pauseGoesOn, stage]
    split
    · exact mirrors
    split
    · exact answered rfl rfl rfl rfl
    · split
      · exact answered rfl rfl rfl rfl
      · exact answered rfl rfl rfl rfl
  | paused =>
    simp only [pauseGoesOn, stage]
    split
    · exact mirrors
    rename_i holder
    have free : manager.holder = none := by simpa using holder
    have idle := kept stage free
    exact mirrors_taken call.id .paused mirrors (by simp) idle (served_free free)
      (served_free free) rfl rfl fun _ running => running

theorem mirrors_downloader {event : InnerEvent} (mirrors : Mirrors manager)
    (mirrored : Mirrored manager (.downloader id event)) :
    Mirrors (manager.onDownloader id (·.next event.event)) := by
  have runs : ∀ task, (manager.onDownloader id (·.next event.event)).runs task = true →
      manager.runs task = true ∨
        manager.recorded task = some .running ∨ manager.served = some task := by
    intro task running
    by_cases mine : task = id
    · subst mine
      simp only [AVDownloaderManager.runs, onDownloader, update_self] at running
      cases before : (manager.downloaders task).state.active with
      | true => exact .inl before
      | false =>
        rcases DownloaderImpl.active_next running with now | activates
        · rw [before] at now
          cases now
        · exact .inr (mirrored before activates)
    · left
      simpa [AVDownloaderManager.runs, onDownloader, mine] using running
  have fewer : ∀ task, (manager.onDownloader id (·.next event.event)).occupies task = true →
      manager.occupies task = true := by
    intro task occupied
    rw [occupies_iff] at occupied ⊢
    rcases occupied with recorded | ⟨unrecorded, running⟩
    · exact .inl recorded
    have none : manager.recorded task = none := unrecorded
    rcases runs task running with before | recorded | serving
    · exact .inr ⟨none, before⟩
    · exact .inl recorded
    · have known := mirrors.known task serving
      simp [none] at known
  have count : (manager.onDownloader id (·.next event.event)).occupiedCount ≤
      manager.occupiedCount := occupiedCount_le rfl fewer
  constructor
  · intro task running
    rw [occupies_iff]
    rcases runs task running with before | recorded | serving
    · rcases mirrors.mirror task before with occupied | serving
      · exact .inl ((occupies_iff.mp occupied).imp_right fun removed => ⟨removed.1, running⟩)
      · exact .inr serving
    · exact .inl (.inl recorded)
    · exact .inr serving
  · exact Nat.le_trans count mirrors.bound
  · intro task serving other
    exact Nat.lt_of_le_of_lt count (mirrors.room task serving other)
  · exact mirrors.known
  · exact mirrors.made

theorem mirrors_released (mirrors : Mirrors manager) (served : after.served = manager.served)
    (nextId : after.nextId = manager.nextId) (taskMap : after.taskMap = manager.taskMap)
    (downloaders : after.downloaders = (manager.onDownloader id (·.released)).downloaders) :
    Mirrors after := by
  apply mirrors_onDownloader id (·.released) mirrors served nextId taskMap downloaders
  intro running
  cases running

theorem mirrors_next (event : ManagerEvent) (mirrors : Mirrors manager)
    (mirrored : Mirrored manager event) : Mirrors (manager.next event) := by
  have locked : ∀ {after : AVDownloaderManager}, (manager.holder = none → Mirrors after) →
      Mirrors (if manager.holder.isSome then manager else after) := by
    intro after kept
    cases holder : manager.holder with
    | none => exact kept holder
    | some stage => exact mirrors
  cases event with
  | addDownloadTask url filePath => exact locked (mirrors_addDownloadTask mirrors)
  | removeDownloadTask id => exact locked (mirrors_removeDownloadTask mirrors)
  | pauseDownloadTask id => exact locked (mirrors_pauseDownloadTask mirrors)
  | resumeDownloadTask id => exact locked (mirrors_resumeDownloadTask mirrors)
  | setAllowCellularAccess allow => exact mirrors.congr rfl rfl rfl rfl
  | onNetworkChanged network => exact locked (mirrors_onNetworkChanged mirrors)
  | handleMessage =>
    simp only [next]
    split
    · exact mirrors
    rename_i held
    have free : manager.holder = none := by
      cases holder : manager.holder with
      | none => rfl
      | some stage => simp [holder] at held
    exact mirrors_handleMessage mirrors free
  | releaseEnds =>
    simp only [next, releaseEnds]
    split
    · exact mirrors
    · split
      · exact mirrors
      · exact mirrors_released mirrors rfl rfl rfl rfl
  | removalEnds id asks =>
    simp only [next, removalEnds]
    split
    · exact mirrors
    · split
      · exact mirrors_released mirrors rfl rfl rfl rfl
      · exact mirrors_released mirrors rfl rfl rfl rfl
  | proceed network => exact mirrors_proceed mirrors mirrored
  | pauseGoesOn call late =>
    simp only [next]
    split
    · exact mirrors
    · rename_i waiting
      rw [not_not] at waiting
      exact mirrors_pauseGoesOn mirrors (mirrored waiting)
  | deliver id network sniff results =>
    exact locked (fun free => mirrors_deliver mirrors free mirrored)
  | downloader id event => exact mirrors_downloader mirrors mirrored

theorem mirrors_initial : Mirrors {} := by
  constructor
  · intro id running
    cases running
  · decide
  · intro id serving
    cases serving
  · intro id serving
    cases serving
  · intro id _
    rfl

/-- In a run that keeps the records abreast of the downloaders, no more than
`MAX_DOWNLOADER_COUNT` of them prepare or run. -/
theorem running_bounded (events : List ManagerEvent)
    (mirrored : Along next Mirrored {} events) :
    (run next {} events).runningCount ≤ maxDownloaderCount := by
  apply runningCount_le
  apply invariant_of_along Mirrors ?_ mirrored mirrors_initial
  intro manager event mirrors mirrored
  exact mirrors_next event mirrors mirrored

section Runs

def addTask (id : Nat) : ManagerEvent :=
  .addDownloadTask (taskUrl ++ List.replicate id 'c') ['/', 'f']

def threeTasks : List ManagerEvent :=
  [addTask 0] ++ startsNext 0 ++ [addTask 1] ++ startsNext 1 ++ [addTask 2] ++ startsNext 2

theorem three_tasks_bounded : (run next {} threeTasks).runningCount ≤ maxDownloaderCount :=
  running_bounded threeTasks (by decide +kernel)

/-- The first task is paused and resumed, and the messages of its pause arrive afterwards, or it
is removed and not yet cancelled: a fourth downloader is started beside the three. -/
theorem bound_breaks : maxDownloaderCount < (run next {} (threeTasks ++ workerSteps 0 2 .noClient ++
      [ManagerEvent.pauseDownloadTask 0, .pauseGoesOn ⟨1, 0, .trying⟩ false] ++
      workerSteps 0 3 (.download [] 1 false) ++ innerSteps 0 1 ++
      [ManagerEvent.pauseGoesOn ⟨1, 0, .calling⟩ false, .pauseGoesOn ⟨1, 0, .paused⟩ false] ++
      workerSteps 0 1 .noClient ++
      [ManagerEvent.resumeDownloadTask 0, .handleMessage, .proceed .wifi, .proceed .wifi] ++
      innerSteps 0 2 ++ [ManagerEvent.proceed .wifi, .proceed .wifi] ++
      [ManagerEvent.deliver 0 .wifi none [], .deliver 0 .wifi none [], addTask 3] ++
      startsNext 3)).runningCount ∧
    maxDownloaderCount < (run next {} (threeTasks ++
      [ManagerEvent.removeDownloadTask 0, addTask 3] ++ startsNext 3)).runningCount := by
  decide +kernel

end Runs

end AVDownloaderManager

end PlayerFramework.Downloader
