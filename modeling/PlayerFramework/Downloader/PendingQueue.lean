import PlayerFramework.Downloader.Manager

/-!
The pending queue of the `AVDownloaderManager` against the states that it records.
-/

namespace PlayerFramework.Downloader.AVDownloaderManager

open Transition

variable {manager : AVDownloaderManager}

def queuedCount (id : Nat) (manager : AVDownloaderManager) : Nat :=
  manager.pendingTaskQueue.countP fun pending => pending.2 = id

/-- The task that `ProcessNextPendingTask` has taken and not yet decided on. -/
def served (manager : AVDownloaderManager) : Option Nat :=
  match manager.holder with
  | some (.starting id _) => some id
  | some (.resuming id) => some id
  | some (.processCalling id) => some id
  | _ => none

/-- The message of this downloader that the manager takes now. -/
def arriving (id : Nat) (manager : AVDownloaderManager) : Option Message :=
  if manager.holder.isSome ∨ (manager.downloaders id).client.isSome then none
  else (manager.downloaders id).messageQueue.head?

/-- With this message the task is finished: there is nothing left to parse. -/
def finishes (id : Nat) (sniff : Sniff) (manager : AVDownloaderManager) : Bool :=
  match manager.taskMap id with
  | none => false
  | some info => manager.downloaderMap id && !(sniffProtocol sniff info).fileList.any (·.needParse)

/-- A message or the end of a pause does not write over the record of a queued task, and
`ProcessNextPendingTask` finds the downloaders of its tasks paused or idle. -/
def Remembers (manager : AVDownloaderManager) (event : ManagerEvent) : Prop :=
  match event with
  | .deliver id _ sniff _ =>
    match manager.arriving id with
    | some (.stateChanged state) =>
      manager.recorded id = some .queued ↔
        (manager.recorded id).isSome = true ∧ convertToAVDownloadTaskState state = .queued
    | some .completed =>
      manager.finishes id sniff = true → manager.recorded id ≠ some .queued
    | some (.failed _ _) => manager.recorded id ≠ some .queued
    | _ => True
  | .proceed _ =>
    manager.holder = some .processing → manager.getActiveCount < maxDownloaderCount →
      ∀ pending ∈ manager.pendingTaskQueue.head?, manager.downloaderMap pending.2 = true ∧
          ((manager.downloaders pending.2).state = .paused ∨
            (manager.downloaders pending.2).state = .idle)
  | .pauseGoesOn call _ =>
    call ∈ manager.pauses → call.stage = .paused → manager.holder = none →
      manager.recorded call.id ≠ some .queued
  | _ => True

instance (manager : AVDownloaderManager) (event : ManagerEvent) :
    Decidable (manager.Remembers event) := by
  unfold Remembers
  split
  · split <;> infer_instance
  · infer_instance
  · infer_instance
  · infer_instance

/-- The queue and the records agree on every task but the one that is served. -/
structure Agrees (manager : AVDownloaderManager) : Prop where
  counts : ∀ id, manager.served ≠ some id →
    manager.queuedCount id = if manager.recorded id = some .queued then 1 else 0
  serving : ∀ id, manager.served = some id → manager.queuedCount id = 0
  unmade : ∀ id, manager.nextId ≤ id → manager.taskMap id = none
  losing : ∀ id rest, manager.holder = some (.pausing id rest) ∨
    manager.holder = some (.pauseCalling id rest) → manager.recorded id = some .running

variable {after : AVDownloaderManager} {id : Nat} {network : NetConnType}

theorem agrees_same (agrees : Agrees manager) (served : after.served = manager.served)
    (records : ∀ id, after.recorded id = manager.recorded id)
    (queue : after.pendingTaskQueue = manager.pendingTaskQueue)
    (unmade : ∀ id, after.nextId ≤ id → after.taskMap id = none)
    (losing : ∀ id rest, after.holder = some (.pausing id rest) ∨
      after.holder = some (.pauseCalling id rest) → manager.recorded id = some .running) :
    Agrees after where
  counts id other := by
    rw [served] at other
    rw [records, queuedCount, queue]
    exact agrees.counts id other
  serving id serving := by
    rw [served] at serving
    rw [queuedCount, queue]
    exact agrees.serving id serving
  unmade := unmade
  losing id rest holds := by
    rw [records]
    exact losing id rest holds

theorem agrees_stage (agrees : Agrees manager) (served : after.served = manager.served)
    (taskMap : after.taskMap = manager.taskMap)
    (queue : after.pendingTaskQueue = manager.pendingTaskQueue)
    (nextId : after.nextId = manager.nextId)
    (losing : ∀ id rest, after.holder = some (.pausing id rest) ∨
      after.holder = some (.pauseCalling id rest) → manager.recorded id = some .running) :
    Agrees after := by
  refine agrees_same agrees served (fun id => ?_) queue ?_ losing
  · simp [recorded, taskMap]
  · rw [taskMap, nextId]
    exact agrees.unmade

theorem Agrees.congr (agrees : Agrees manager) (taskMap : after.taskMap = manager.taskMap)
    (queue : after.pendingTaskQueue = manager.pendingTaskQueue)
    (nextId : after.nextId = manager.nextId) (holder : after.holder = manager.holder) :
    Agrees after := by
  apply agrees_stage agrees (by simp [served, holder]) taskMap queue nextId
  rw [holder]
  exact agrees.losing

/-- No task is served, and none is being paused because the network is lost. -/
structure Unoccupied (manager : AVDownloaderManager) : Prop where
  unserved : manager.served = none
  losing : ∀ id rest, ¬ (manager.holder = some (.pausing id rest) ∨
    manager.holder = some (.pauseCalling id rest))

theorem served_free (free : manager.holder = none) : manager.served = none := by
  simp [served, free]

theorem unoccupied_free (free : manager.holder = none) : Unoccupied manager :=
  ⟨served_free free, by simp [free]⟩

/-- Where no task is served, the queue and the records agree on all of them. -/
theorem Unoccupied.agrees (unoccupied : Unoccupied manager)
    (counts : ∀ id, manager.queuedCount id = if manager.recorded id = some .queued then 1 else 0)
    (unmade : ∀ id, manager.nextId ≤ id → manager.taskMap id = none) : Agrees manager where
  counts id _ := counts id
  serving id serving := by
    rw [unoccupied.unserved] at serving
    cases serving
  unmade := unmade
  losing id rest holds := absurd holds (unoccupied.losing id rest)

theorem Agrees.all (agrees : Agrees manager) (unserved : manager.served = none) (id : Nat) :
    manager.queuedCount id = if manager.recorded id = some .queued then 1 else 0 :=
  agrees.counts id (by simp [unserved])

theorem agrees_hold (agrees : Agrees manager) (unserved : manager.served = none)
    (unoccupied : Unoccupied after) (taskMap : after.taskMap = manager.taskMap)
    (queue : after.pendingTaskQueue = manager.pendingTaskQueue)
    (nextId : after.nextId = manager.nextId) : Agrees after :=
  agrees_stage agrees (unoccupied.unserved.trans unserved.symm) taskMap queue nextId
    fun id rest holds => absurd holds (unoccupied.losing id rest)

theorem recorded_notify (id other : Nat) (state : AVDownloadTaskState) :
    (manager.notifyStatusChange id state).recorded other =
      if other = id then (manager.recorded id).map fun _ => state else manager.recorded other := by
  by_cases same : other = id
  · subst same
    simp [recorded, notifyStatusChange, setState, Option.map_map, Function.comp_def]
  · simp [recorded, notifyStatusChange, same]

theorem unmade_notify (id : Nat) (state : AVDownloadTaskState)
    (unmade : ∀ other, manager.nextId ≤ other → manager.taskMap other = none) :
    ∀ other, manager.nextId ≤ other →
      (manager.notifyStatusChange id state).taskMap other = none := by
  intro other beyond
  have before := unmade other beyond
  by_cases same : other = id
  · subst same
    simp [notifyStatusChange, before]
  · simpa [notifyStatusChange, same] using before

theorem agrees_notify {state : AVDownloadTaskState} (agrees : Agrees manager)
    (free : manager.holder = none) (kept : manager.recorded id = some .queued ↔
      (manager.recorded id).isSome = true ∧ state = .queued) :
    Agrees (manager.notifyStatusChange id state) := by
  have unoccupied : Unoccupied (manager.notifyStatusChange id state) := unoccupied_free free
  refine unoccupied.agrees (fun other => ?_) (unmade_notify id state agrees.unmade)
  have before := agrees.all (served_free free) other
  rw [recorded_notify]
  by_cases same : other = id
  · subst same
    rw [if_pos rfl]
    have counts : (manager.notifyStatusChange other state).queuedCount other =
        manager.queuedCount other := rfl
    rw [counts, before]
    cases record : manager.recorded other with
    | none => rfl
    | some was =>
      have queued : some was = some AVDownloadTaskState.queued ↔ state = .queued := by
        rw [← record, kept, record]
        simp
      by_cases now : state = .queued
      · rw [if_pos (queued.mpr now), now]
        rfl
      · rw [if_neg (fun before => now (queued.mp before)), if_neg (by simpa using now)]
  · rw [if_neg same]
    exact before

theorem count_dequeue (id other : Nat) : (manager.dequeue id).queuedCount other =
      if other = id then 0 else manager.queuedCount other := by
  simp only [queuedCount, dequeue, List.countP_filter]
  by_cases same : other = id
  · subst same
    rw [if_pos rfl, List.countP_eq_zero]
    intro pending _
    simp
  · rw [if_neg same]
    apply List.countP_congr
    intro pending _
    by_cases mine : pending.2 = other
    · simp [mine, same]
    · simp [mine]

/-- A task leaves the queue, or has left it, and is recorded otherwise. -/
theorem agrees_decide (id : Nat) (state : AVDownloadTaskState) (agrees : Agrees manager)
    (queue : ∀ task, after.queuedCount task = if task = id then 0 else manager.queuedCount task)
    (serving : ∀ task, manager.served = some task → task = id) (other : state ≠ .queued)
    (taskMap : after.taskMap = (manager.notifyStatusChange id state).taskMap)
    (nextId : after.nextId = manager.nextId) (unoccupied : Unoccupied after) : Agrees after := by
  refine unoccupied.agrees (fun task => ?_) ?_
  · have records : after.recorded task = (manager.notifyStatusChange id state).recorded task := by
      simp [recorded, taskMap]
    rw [records, queue, recorded_notify]
    by_cases same : task = id
    · subst same
      cases manager.recorded task <;> simp [other]
    · rw [if_neg same, if_neg same]
      exact agrees.counts task fun served => same (serving task served)
  · rw [taskMap, nextId]
    exact unmade_notify id state agrees.unmade

theorem agrees_dequeue (id : Nat) (state : AVDownloadTaskState) (agrees : Agrees manager)
    (other : state ≠ .queued)
    (taskMap : after.taskMap = ((manager.dequeue id).notifyStatusChange id state).taskMap)
    (queue : after.pendingTaskQueue = (manager.dequeue id).pendingTaskQueue)
    (nextId : after.nextId = manager.nextId) (unserved : manager.served = none)
    (unoccupied : Unoccupied after) : Agrees after := by
  refine agrees_decide id state agrees (fun task => ?_) ?_ other taskMap nextId unoccupied
  · rw [← count_dequeue, queuedCount, queuedCount, queue]
  · simp [unserved]

theorem agrees_enqueue (agrees : Agrees manager) (free : manager.holder = none)
    (other : manager.recorded id ≠ some .queued) : Agrees (manager.enqueue id) := by
  unfold enqueue
  split
  · exact agrees
  rename_i info known
  refine Unoccupied.agrees (unoccupied_free free) (fun task => ?_)
    (unmade_notify id .queued agrees.unmade)
  have before := agrees.all (served_free free) task
  rw [recorded_notify]
  by_cases same : task = id
  · subst same
    rw [if_neg other] at before
    have record : manager.recorded task = some info.state := by
      simp [recorded, known]
    have stays : ({ manager with
        pendingTaskQueue := manager.pendingTaskQueue ++ [(info.url, task)] } :
          AVDownloaderManager).recorded task = some info.state := record
    simp only [queuedCount] at before
    simp [queuedCount, notifyStatusChange, before, stays]
  · rw [if_neg same]
    have appended : ({ manager with
        pendingTaskQueue := manager.pendingTaskQueue ++ [(info.url, id)] } :
          AVDownloaderManager).queuedCount task = manager.queuedCount task := by
      simp [queuedCount, Ne.symm same]
    exact appended.trans before

theorem agrees_post {message : ManagerMessage} (agrees : Agrees manager) :
    Agrees (manager.post message) :=
  agrees.congr rfl rfl rfl rfl

theorem agrees_onDownloader {change : DownloaderImpl → DownloaderImpl} (agrees : Agrees manager) :
    Agrees (manager.onDownloader id change) :=
  agrees.congr rfl rfl rfl rfl

theorem agrees_insert {info : AVDownloadTaskInfo} {downloaderMap : Nat → Bool}
    {downloaders : Nat → DownloaderImpl}
    (agrees : Agrees manager) (free : manager.holder = none) (other : info.state ≠ .queued) :
    Agrees { manager with
      taskMap := Function.update manager.taskMap manager.nextId (some info)
      downloaderMap := downloaderMap
      downloaders := downloaders
      nextId := manager.nextId + 1 } := by
  refine Unoccupied.agrees (unoccupied_free free) (fun task => ?_) fun task beyond => ?_
  · have before := agrees.all (served_free free) task
    by_cases same : task = manager.nextId
    · subst same
      have unknown : manager.recorded manager.nextId = none := by
        simp [recorded, agrees.unmade _ (Nat.le_refl _)]
      rw [unknown] at before
      simp only [queuedCount] at before
      simp [queuedCount, recorded, other, before]
    · simpa [queuedCount, recorded, same] using before
  · have different : task ≠ manager.nextId := Nat.ne_of_gt beyond
    simpa [different] using agrees.unmade task (Nat.le_of_succ_le beyond)

theorem agrees_addDownloadTask {url filePath : List Char} (agrees : Agrees manager)
    (free : manager.holder = none) : Agrees (manager.addDownloadTask url filePath) := by
  unfold addDownloadTask
  split
  · exact agrees
  split
  · split
    · rename_i paused
      exact agrees_post (agrees_enqueue agrees free (by simp [paused]))
    · exact agrees
  · apply agrees_post
    apply agrees_enqueue
    · exact agrees_insert agrees free (by simp)
    · exact free
    · simp [recorded]

theorem agrees_removeDownloadTask (agrees : Agrees manager) (free : manager.holder = none) :
    Agrees (manager.removeDownloadTask id) := by
  have removed : ∀ {after : AVDownloaderManager}, after.holder = none →
      after.taskMap = Function.update manager.taskMap id none →
      after.pendingTaskQueue = (manager.dequeue id).pendingTaskQueue →
      after.nextId = manager.nextId → Agrees after := by
    intro after stays taskMap queue nextId
    refine (unoccupied_free stays).agrees (fun task => ?_) fun task beyond => ?_
    · have before := agrees.all (served_free free) task
      rw [queuedCount, queue, ← queuedCount, count_dequeue]
      by_cases same : task = id
      · simp [same, recorded, taskMap]
      · rw [before]
        simp [same, recorded, taskMap]
    · rw [nextId] at beyond
      have before := agrees.unmade task beyond
      by_cases same : task = id
      · simp [same, taskMap]
      · simpa [same, taskMap] using before
  unfold removeDownloadTask
  simp only
  split
  · exact removed free rfl rfl rfl
  · split
    · exact removed free rfl rfl rfl
    · exact removed free rfl rfl rfl

theorem agrees_pauseDownloadTask (agrees : Agrees manager) (free : manager.holder = none) :
    Agrees (manager.pauseDownloadTask id) := by
  unfold pauseDownloadTask
  split
  · exact agrees
  · exact agrees_dequeue id .paused agrees (by simp) rfl rfl rfl (served_free free)
      (unoccupied_free free)
  · split
    · exact agrees.congr rfl rfl rfl rfl
    · exact agrees
  · exact agrees

theorem agrees_resumeDownloadTask (agrees : Agrees manager) (free : manager.holder = none) :
    Agrees (manager.resumeDownloadTask id) := by
  unfold resumeDownloadTask
  split
  · exact agrees
  · rename_i paused
    rw [not_not] at paused
    exact agrees_post (agrees_enqueue agrees free (by simp [paused]))

theorem holder_enqueue (id : Nat) : (manager.enqueue id).holder = manager.holder := by
  unfold enqueue
  split <;> rfl

theorem agrees_restore (ids : List Nat) (agrees : Agrees manager)
    (free : manager.holder = none) :
    Agrees (ids.foldl (fun manager id =>
      if manager.recorded id = some .paused then manager.enqueue id else manager) manager) := by
  induction ids generalizing manager with
  | nil => exact agrees
  | cons id rest ih =>
    rw [List.foldl_cons]
    split
    · rename_i paused
      apply ih
      · exact agrees_enqueue agrees free (by simp [paused])
      · rw [holder_enqueue]
        exact free
    · exact ih agrees free

theorem agrees_onNetworkChanged (agrees : Agrees manager) (free : manager.holder = none) :
    Agrees (manager.onNetworkChanged network) := by
  unfold onNetworkChanged
  split
  · exact agrees_post (agrees_restore _ agrees free)
  · exact agrees_hold agrees (served_free free) ⟨rfl, by simp⟩ rfl rfl rfl

theorem agrees_handleMessage (agrees : Agrees manager) (free : manager.holder = none) :
    Agrees manager.handleMessage := by
  unfold handleMessage
  split
  · exact agrees
  · split
    · exact agrees.congr rfl rfl rfl rfl
    · exact agrees.congr rfl rfl rfl rfl
  · exact agrees_hold agrees (served_free free) ⟨rfl, by simp⟩ rfl rfl rfl

theorem agrees_finish (agrees : Agrees manager) (free : manager.holder = none)
    (other : manager.recorded id ≠ some .queued) : Agrees (manager.processDownloadFinish id) := by
  apply agrees_post
  apply agrees_post
  apply agrees_notify agrees free
  simp [other]

theorem recorded_files {info changed : AVDownloadTaskInfo} (known : manager.taskMap id = some info)
    (taskMap : after.taskMap = Function.update manager.taskMap id (some changed))
    (same : changed.state = info.state) (task : Nat) :
    after.recorded task = manager.recorded task := by
  by_cases mine : task = id
  · subst mine
    simp [recorded, known, same, taskMap]
  · simp [recorded, mine, taskMap]

theorem unmade_files {info changed : AVDownloadTaskInfo} (known : manager.taskMap id = some info)
    (taskMap : after.taskMap = Function.update manager.taskMap id (some changed))
    (unmade : ∀ task, manager.nextId ≤ task → manager.taskMap task = none) (task : Nat)
    (beyond : manager.nextId ≤ task) : after.taskMap task = none := by
  have before := unmade task beyond
  by_cases mine : task = id
  · rw [mine, known] at before
    cases before
  · simpa [mine, taskMap] using before

theorem state_sniff (sniff : Sniff) (info : AVDownloadTaskInfo) :
    (sniffProtocol sniff info).state = info.state := by
  unfold sniffProtocol
  split <;> rfl

theorem agrees_onCompleted {sniff : Sniff} {results : ParseResults} (agrees : Agrees manager)
    (free : manager.holder = none)
    (kept : manager.finishes id sniff = true → manager.recorded id ≠ some .queued) :
    Agrees (manager.onCompleted id sniff results) := by
  unfold onCompleted
  split
  · exact agrees
  rename_i info known
  have files : ∀ {after : AVDownloaderManager} (files : List DownloadFileInfo),
      after.taskMap = Function.update manager.taskMap id
        (some { sniffProtocol sniff info with fileList := files }) →
      after.pendingTaskQueue = manager.pendingTaskQueue → after.nextId = manager.nextId →
      Unoccupied after → Agrees after := by
    intro after files taskMap queue nextId unoccupied
    refine agrees_same agrees (unoccupied.unserved.trans (served_free free).symm)
      (recorded_files known taskMap (state_sniff sniff info)) queue ?_
      fun id rest holds => absurd holds (unoccupied.losing id rest)
    rw [nextId]
    exact unmade_files known taskMap agrees.unmade
  have marked : Agrees { manager with
      taskMap := Function.update manager.taskMap id (some { sniffProtocol sniff info with
        fileList := (sniffProtocol sniff info).fileList.map fun file =>
          { file with downloaded := true } }) } :=
    files _ rfl rfl rfl (unoccupied_free free)
  simp only
  split
  · exact marked
  rename_i owned
  rw [not_not] at owned
  split
  · rename_i parsed
    apply agrees_finish marked free
    have finishes : manager.finishes id sniff = true := by
      simpa [finishes, known, owned] using parsed
    have other := kept finishes
    simpa [recorded, known, state_sniff] using other
  · exact files _ rfl rfl rfl ⟨rfl, by simp⟩

theorem agrees_onFailed (agrees : Agrees manager) (free : manager.holder = none)
    (other : manager.recorded id ≠ some .queued) :
    Agrees (manager.onFailed id network) := by
  have noted : ∀ state, state ≠ .queued → Agrees (manager.notifyStatusChange id state) := by
    intro state decided
    apply agrees_notify agrees free
    simp [other, decided]
  unfold onFailed
  split
  · exact noted _ (by simp)
  · split
    · exact agrees_post (agrees_post (noted _ (by simp)))
    · exact agrees_post (noted _ (by simp))

theorem agrees_deliver {sniff : Sniff} {results : ParseResults} (agrees : Agrees manager)
    (free : manager.holder = none)
    (remembers : Remembers manager (.deliver id network sniff results)) :
    Agrees (manager.deliver id network sniff results) := by
  unfold deliver
  split
  · exact agrees
  rename_i idle
  split
  · exact agrees
  rename_i message rest messages
  have arrives : manager.arriving id = some message := by
    simp only [arriving, free]
    rw [if_neg (by simpa using idle), messages]
    rfl
  simp only [Remembers, arrives] at remembers
  have taken : Agrees (manager.onDownloader id (·.next .deliver)) := agrees_onDownloader agrees
  cases message with
  | stateChanged state => exact agrees_notify taken free remembers
  | completed => exact agrees_onCompleted taken free remembers
  | failed errorType errorCode => exact agrees_onFailed taken free remembers
  | fileCompleted => exact taken

theorem agrees_serve {url : List Char} {rest : List (List Char × Nat)} (agrees : Agrees manager)
    (unserved : manager.served = none) (queued : manager.pendingTaskQueue = (url, id) :: rest)
    (queue : after.pendingTaskQueue = rest) (taskMap : after.taskMap = manager.taskMap)
    (nextId : after.nextId = manager.nextId) (serves : after.served = some id)
    (losing : ∀ id rest, ¬ (after.holder = some (.pausing id rest) ∨
      after.holder = some (.pauseCalling id rest))) : Agrees after := by
  have counted : ∀ task, manager.queuedCount task =
      after.queuedCount task + if id = task then 1 else 0 := by
    intro task
    simp [queuedCount, queued, queue, List.countP_cons]
  constructor
  · intro task other
    rw [serves] at other
    have different : id ≠ task := by
      rintro rfl
      exact other rfl
    have before := agrees.all unserved task
    rw [counted task, if_neg different] at before
    have records : after.recorded task = manager.recorded task := by
      simp [recorded, taskMap]
    rw [records]
    exact before
  · intro task serving
    rw [serves] at serving
    cases serving
    have before := agrees.all unserved id
    rw [counted id, if_pos rfl] at before
    split at before
    · omega
    · omega
  · rw [taskMap, nextId]
    exact agrees.unmade
  · intro task others holds
    exact absurd holds (losing task others)

theorem agrees_processNextPendingTask (network : NetConnType) (agrees : Agrees manager)
    (processing : manager.holder = some .processing)
    (remembers : Remembers manager (.proceed network)) :
    Agrees manager.processNextPendingTask := by
  have unserved : manager.served = none := by
    simp [served, processing]
  have ends : Agrees { manager with holder := none } :=
    agrees_hold agrees unserved (unoccupied_free rfl) rfl rfl rfl
  unfold processNextPendingTask
  split
  · exact ends
  rename_i active
  split
  · exact ends
  rename_i url id rest queued
  obtain ⟨owned, states⟩ := remembers processing (Nat.lt_of_not_le active) (url, id)
    (by rw [queued]; rfl)
  have before := agrees.all unserved id
  have known : manager.taskMap id ≠ none := by
    intro unknown
    simp [queuedCount, queued, recorded, unknown] at before
  rw [if_neg (by simp [known, owned])]
  rcases states with paused | idle
  · simp only [paused]
    exact agrees_serve agrees unserved queued rfl rfl rfl rfl (by simp)
  · simp only [idle]
    exact agrees_serve agrees unserved queued rfl rfl rfl rfl (by simp)

theorem agrees_proceed (network : NetConnType) (agrees : Agrees manager)
    (remembers : Remembers manager (.proceed network)) : Agrees (manager.proceed network) := by
  cases holder : manager.holder with
  | none =>
    simp only [proceed, holder]
    exact agrees
  | some stage =>
    cases stage with
    | processing =>
      simp only [proceed, holder]
      exact agrees_processNextPendingTask network agrees holder remembers
    | starting id | resuming id | submitting id | submitCalling id =>
      simp only [proceed, holder]
      split
      · exact agrees
      · exact agrees_stage agrees (by simp [served, holder]) rfl rfl rfl (by simp)
    | processCalling id =>
      have serving : manager.served = some id := by
        simp [served, holder]
      simp only [proceed, holder]
      split
      · exact agrees
      rename_i ret _
      refine agrees_decide id (if ret = downloadRetOk then .running else .error) agrees
        (fun task => ?_) ?_ ?_ rfl rfl ⟨rfl, by simp⟩
      · by_cases same : task = id
        · rw [if_pos same, same]
          exact agrees.serving id serving
        · rw [if_neg same]
          rfl
      · intro task same
        rw [serving] at same
        cases same
        rfl
      · split <;> simp
    | losing ids =>
      have unserved : manager.served = none := by
        simp [served, holder]
      cases ids with
      | nil =>
        simp only [proceed, holder]
        exact agrees_hold agrees unserved (unoccupied_free rfl) rfl rfl rfl
      | cons id rest =>
        simp only [proceed, holder]
        split
        · exact agrees_dequeue id .paused agrees (by simp) rfl rfl rfl unserved ⟨rfl, by simp⟩
        split
        · rename_i running
          refine agrees_stage agrees (by simp [served, holder]) rfl rfl rfl ?_
          rintro task others (⟨⟨⟩⟩ | ⟨⟨⟩⟩)
          exact running.1
        · exact agrees_hold agrees unserved ⟨rfl, by simp⟩ rfl rfl rfl
    | pausing id rest =>
      simp only [proceed, holder]
      split
      · exact agrees
      · refine agrees_stage agrees (by simp [served, holder]) rfl rfl rfl ?_
        rintro task others (⟨⟨⟩⟩ | ⟨⟨⟩⟩)
        exact agrees.losing id rest (.inl holder)
    | pauseCalling id rest =>
      have unserved : manager.served = none := by
        simp [served, holder]
      have running := agrees.losing id rest (.inr holder)
      simp only [proceed, holder]
      split
      · exact agrees
      refine agrees_decide id .paused agrees (fun task => ?_) (by simp [unserved]) (by simp) rfl
        rfl ⟨rfl, by simp⟩
      split
      · rename_i same
        rw [same]
        exact (agrees.all unserved id).trans (by simp [running])
      · rfl

theorem agrees_pauseGoesOn {call : PauseCall} {late : Bool} (agrees : Agrees manager)
    (kept : call.stage = .paused → manager.holder = none →
      manager.recorded call.id ≠ some .queued) : Agrees (manager.pauseGoesOn call late) := by
  have advanced : ∀ stage change, Agrees ((manager.onDownloader call.id change).advancePause
      call stage) := by
    intro stage change
    exact agrees.congr rfl rfl rfl rfl
  cases stage : call.stage with
  | trying =>
    simp only [pauseGoesOn, stage]
    split
    · exact agrees
    · exact advanced _ _
  | calling =>
    simp only [pauseGoesOn, stage]
    split
    · exact agrees
    split
    · exact advanced _ _
    · split
      · exact agrees.congr rfl rfl rfl rfl
      · exact advanced _ _
  | paused =>
    simp only [pauseGoesOn, stage]
    split
    · exact agrees
    rename_i holder
    have free : manager.holder = none := by simpa using holder
    have other := kept stage free
    have noted : Agrees (manager.notifyStatusChange call.id .paused) := by
      apply agrees_notify agrees free
      simp [other]
    exact noted.congr rfl rfl rfl rfl

theorem agrees_next (event : ManagerEvent) (agrees : Agrees manager)
    (remembers : Remembers manager event) : Agrees (manager.next event) := by
  have locked : ∀ {after : AVDownloaderManager}, (manager.holder = none → Agrees after) →
      Agrees (if manager.holder.isSome then manager else after) := by
    intro after kept
    cases holder : manager.holder with
    | none => exact kept holder
    | some stage => exact agrees
  cases event with
  | addDownloadTask url filePath => exact locked (agrees_addDownloadTask agrees)
  | removeDownloadTask id => exact locked (agrees_removeDownloadTask agrees)
  | pauseDownloadTask id => exact locked (agrees_pauseDownloadTask agrees)
  | resumeDownloadTask id => exact locked (agrees_resumeDownloadTask agrees)
  | setAllowCellularAccess allow => exact agrees.congr rfl rfl rfl rfl
  | onNetworkChanged network => exact locked (agrees_onNetworkChanged agrees)
  | handleMessage =>
    simp only [next]
    split
    · exact agrees
    rename_i held
    have free : manager.holder = none := by
      cases holder : manager.holder with
      | none => rfl
      | some stage => simp [holder] at held
    exact agrees_handleMessage agrees free
  | releaseEnds =>
    simp only [next, releaseEnds]
    split
    · exact agrees
    · split
      · exact agrees
      · exact agrees.congr rfl rfl rfl rfl
  | removalEnds id asks =>
    simp only [next, removalEnds]
    split
    · exact agrees
    · split
      · exact agrees.congr rfl rfl rfl rfl
      · exact agrees.congr rfl rfl rfl rfl
  | proceed network => exact agrees_proceed network agrees remembers
  | pauseGoesOn call late =>
    simp only [next]
    split
    · exact agrees
    · rename_i waiting
      rw [not_not] at waiting
      exact agrees_pauseGoesOn agrees (remembers waiting)
  | deliver id network sniff results =>
    exact locked (fun free => agrees_deliver agrees free remembers)
  | downloader id event => exact agrees.congr rfl rfl rfl rfl

theorem agrees_initial : Agrees {} := by
  constructor
  · intro id _
    rfl
  · intro id _
    rfl
  · intro id _
    rfl
  · rintro id rest (holds | holds) <;> cases holds

/-- In a run that does not write over the record of a queued task, a task stands in the queue
once if it is recorded as queued, and else not at all. -/
theorem queue_agrees (events : List ManagerEvent)
    (remembers : Along next Remembers {} events) (id : Nat)
    (observed : (run next {} events).holder = none) :
    (run next {} events).queuedCount id =
      if (run next {} events).recorded id = some .queued then 1 else 0 := by
  have agrees : Agrees (run next {} events) := by
    apply invariant_of_along Agrees ?_ remembers agrees_initial
    intro manager event agrees remembers
    exact agrees_next event agrees remembers
  exact agrees.counts id (by simp [served_free observed])

section Runs

def taskUrl : List Char := ['h', 't', 't', 'p', ':', '/', '/', 'a', '/', 'b']

/-- The downloader's own call goes on for these many steps. -/
def innerSteps (id steps : Nat) : List ManagerEvent :=
  List.replicate steps (.downloader id (.proceed .wifi false))

def workerSteps (id steps : Nat) (execution : Execution) : List ManagerEvent :=
  List.replicate steps (.downloader id (.work 0 execution))

/-- The manager takes a message and starts the downloader of the next task. -/
def startsNext (id : Nat) : List ManagerEvent :=
  [ManagerEvent.handleMessage, .proceed .wifi, .proceed .wifi] ++ innerSteps id 4 ++
    [ManagerEvent.proceed .wifi, .proceed .wifi]

def startedTask : List ManagerEvent :=
  [ManagerEvent.addDownloadTask taskUrl ['/', 'f']] ++ startsNext 0

/-- The first task is started and is paused by a client. -/
def pausedTask : List ManagerEvent :=
  startedTask ++ workerSteps 0 2 .noClient ++
    [ManagerEvent.pauseDownloadTask 0, .pauseGoesOn ⟨1, 0, .trying⟩ false] ++
    workerSteps 0 3 (.download [] 1 false) ++ innerSteps 0 1 ++
    [ManagerEvent.pauseGoesOn ⟨1, 0, .calling⟩ false, .pauseGoesOn ⟨1, 0, .paused⟩ false]

theorem paused_task_agrees : (run next {} pausedTask).queuedCount 0 =
      if (run next {} pausedTask).recorded 0 = some .queued then 1 else 0 :=
  queue_agrees pausedTask (by decide +kernel) 0 (by decide +kernel)

/-- A message from before the pause reaches a task that was queued again; and a task that has
failed while there was no network is queued when there is one, and then forgotten. -/
theorem queue_breaks : (let late := run next {} (pausedTask ++
        [ManagerEvent.resumeDownloadTask 0, .deliver 0 .wifi none []])
     late.holder = none ∧ late.queuedCount 0 = 1 ∧ late.recorded 0 = some .running) ∧
    (let forgotten := run next {} (startedTask ++
        workerSteps 0 6 (.download [(.network, 22)] 1 false) ++
        List.replicate 3 (ManagerEvent.downloader 0 (.handle .wifi)) ++
        [ManagerEvent.deliver 0 .wifi none [], .deliver 0 .none none [], .onNetworkChanged .wifi,
          .handleMessage, .proceed .wifi, .proceed .wifi])
     forgotten.holder = none ∧ forgotten.queuedCount 0 = 0 ∧
      forgotten.recorded 0 = some .queued) := by
  decide +kernel

end Runs

end PlayerFramework.Downloader.AVDownloaderManager
