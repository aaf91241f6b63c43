import PlayerFramework.Downloader.TaskRecords

/-!
The downloaders that the `AVDownloaderManager` has, and those that it releases.
-/

namespace PlayerFramework.Downloader.AVDownloaderManager

open Transition

variable {manager : AVDownloaderManager}

def Leaving (id : Nat) (manager : AVDownloaderManager) : Prop :=
  manager.releasing = some id ∨ ∃ asks, (id, asks) ∈ manager.removals

/-- The downloaders that the manager has were made and are not on their way out. -/
structure Owned (manager : AVDownloaderManager) : Prop where
  made : ∀ id, manager.downloaderMap id = true → id < manager.nextId
  stays : ∀ id, manager.downloaderMap id = true → ¬ manager.Leaving id
  left : ∀ id, manager.Leaving id → id < manager.nextId

variable {after : AVDownloaderManager}

theorem Owned.congr (owned : manager.Owned)
    (downloaderMap : after.downloaderMap = manager.downloaderMap)
    (releasing : after.releasing = manager.releasing) (removals : after.removals = manager.removals)
    (nextId : after.nextId = manager.nextId) : after.Owned := by
  have same : ∀ id, after.Leaving id ↔ manager.Leaving id := by
    intro id
    rw [Leaving, releasing, removals, Leaving]
  constructor
  · intro id has
    rw [nextId]
    exact owned.made id (downloaderMap ▸ has)
  · intro id has leaving
    exact owned.stays id (downloaderMap ▸ has) ((same id).mp leaving)
  · intro id leaving
    rw [nextId]
    exact owned.left id ((same id).mp leaving)

theorem Owned.leaves {id : Nat} (owned : manager.Owned)
    (downloaderMap : after.downloaderMap = Function.update manager.downloaderMap id false)
    (nextId : after.nextId = manager.nextId)
    (leaving : ∀ other, after.Leaving other → manager.Leaving other ∨ other = id ∧
      manager.downloaderMap id = true) :
    after.Owned := by
  have others : ∀ other, after.downloaderMap other = true →
      other ≠ id ∧ manager.downloaderMap other = true := by
    intro other has
    rw [downloaderMap] at has
    by_cases mine : other = id
    · rw [mine, Function.update_self] at has
      cases has
    · rw [Function.update_of_ne mine] at has
      exact ⟨mine, has⟩
  constructor
  · intro other has
    rw [nextId]
    exact owned.made other (others other has).2
  · intro other has away
    rcases leaving other away with before | ⟨mine, _⟩
    · exact owned.stays other (others other has).2 before
    · exact (others other has).1 mine
  · intro other away
    rw [nextId]
    rcases leaving other away with before | ⟨rfl, had⟩
    · exact owned.left other before
    · exact owned.made other had

theorem Owned.fewer (owned : manager.Owned)
    (downloaderMap : after.downloaderMap = manager.downloaderMap)
    (nextId : after.nextId = manager.nextId)
    (leaving : ∀ id, after.Leaving id → manager.Leaving id) :
    after.Owned := by
  constructor
  · intro id has
    rw [nextId]
    exact owned.made id (downloaderMap ▸ has)
  · intro id has away
    exact owned.stays id (downloaderMap ▸ has) (leaving id away)
  · intro id away
    rw [nextId]
    exact owned.left id (leaving id away)

variable (id : Nat)

theorem owned_enqueue (owned : manager.Owned) : (manager.enqueue id).Owned := by
  unfold enqueue
  split
  · exact owned
  · exact owned.congr rfl rfl rfl rfl

theorem owned_insert (info : AVDownloadTaskInfo) (owned : manager.Owned) :
    Owned { manager with
      taskMap := Function.update manager.taskMap manager.nextId (some info)
      downloaderMap := Function.update manager.downloaderMap manager.nextId true
      downloaders := Function.update manager.downloaders manager.nextId {}
      nextId := manager.nextId + 1 } := by
  constructor
  · intro id has
    by_cases new : id = manager.nextId
    · exact new ▸ Nat.lt_succ_self _
    · dsimp only at has
      rw [Function.update_of_ne new] at has
      exact Nat.lt_succ_of_lt (owned.made id has)
  · intro id has leaving
    by_cases new : id = manager.nextId
    · exact absurd (owned.left id leaving) (new ▸ Nat.lt_irrefl _)
    · dsimp only at has
      rw [Function.update_of_ne new] at has
      exact owned.stays id has leaving
  · intro id leaving
    exact Nat.lt_succ_of_lt (owned.left id leaving)

theorem owned_addDownloadTask (url filePath : List Char) (owned : manager.Owned) :
    (manager.addDownloadTask url filePath).Owned := by
  unfold addDownloadTask
  split
  · exact owned
  split
  · split
    · exact (owned_enqueue _ owned).congr rfl rfl rfl rfl
    · exact owned
  · have made := owned_insert { addedInfo url filePath with state := .init, notified := none } owned
    exact (owned_enqueue manager.nextId made).congr rfl rfl rfl rfl

theorem owned_removeDownloadTask (owned : manager.Owned) :
    (manager.removeDownloadTask id).Owned := by
  unfold removeDownloadTask
  simp only
  split
  · rename_i had
    refine owned.leaves rfl rfl ?_
    intro other leaving
    rcases leaving with releasing | ⟨asks, listed⟩
    · exact .inl (.inl releasing)
    · rcases List.mem_append.mp listed with before | new
      · exact .inl (.inr ⟨asks, before⟩)
      · simp only [List.mem_singleton, Prod.mk.injEq] at new
        exact .inr ⟨new.1, had⟩
  · split
    · exact owned.leaves rfl rfl fun other leaving => .inl leaving
    · exact owned.leaves rfl rfl fun other leaving => .inl leaving

theorem owned_pauseDownloadTask (owned : manager.Owned) : (manager.pauseDownloadTask id).Owned := by
  unfold pauseDownloadTask
  split
  · exact owned
  · exact owned.congr rfl rfl rfl rfl
  · split
    · exact owned.congr rfl rfl rfl rfl
    · exact owned
  · exact owned

theorem owned_resumeDownloadTask (owned : manager.Owned) :
    (manager.resumeDownloadTask id).Owned := by
  unfold resumeDownloadTask
  split
  · exact owned
  · exact (owned_enqueue id owned).congr rfl rfl rfl rfl

theorem owned_restore (ids : List Nat) (owned : manager.Owned) :
    (ids.foldl (fun manager id =>
      if manager.recorded id = some .paused then manager.enqueue id else manager)
        manager).Owned := by
  induction ids generalizing manager with
  | nil => exact owned
  | cons id rest ih =>
    rw [List.foldl_cons]
    apply ih
    split
    · exact owned_enqueue id owned
    · exact owned

variable (network : NetConnType)

theorem owned_onNetworkChanged (owned : manager.Owned) :
    (manager.onNetworkChanged network).Owned := by
  unfold onNetworkChanged
  split
  · exact (owned_restore (List.range manager.nextId) owned).congr rfl rfl rfl rfl
  · exact owned.congr rfl rfl rfl rfl

theorem owned_handleMessage (owned : manager.Owned) : manager.handleMessage.Owned := by
  unfold handleMessage
  split
  · exact owned
  · split
    · rename_i had
      refine owned.leaves rfl rfl ?_
      intro other leaving
      rcases leaving with releasing | listed
      · exact .inr ⟨(Option.some.inj releasing).symm, had⟩
      · exact .inl (.inr listed)
    · exact owned.congr rfl rfl rfl rfl
  · exact owned.congr rfl rfl rfl rfl

theorem owned_releaseEnds (owned : manager.Owned) : manager.releaseEnds.Owned := by
  unfold releaseEnds
  split
  · exact owned
  split
  · exact owned
  refine owned.fewer rfl rfl ?_
  intro id leaving
  rcases leaving with releasing | listed
  · cases releasing
  · exact .inr listed

theorem owned_removalEnds (asks : Bool) (owned : manager.Owned) :
    (manager.removalEnds id asks).Owned := by
  unfold removalEnds
  split
  · exact owned
  have erased : Owned { manager.onDownloader id (·.released) with
      removals := manager.removals.erase (id, asks) } := by
    refine owned.fewer rfl rfl ?_
    intro other leaving
    rcases leaving with releasing | ⟨asked, listed⟩
    · exact .inl releasing
    · exact .inr ⟨asked, List.mem_of_mem_erase listed⟩
  split
  · exact erased.congr rfl rfl rfl rfl
  · exact erased

theorem owned_onCompleted (sniff : Sniff) (results : ParseResults) (owned : manager.Owned) :
    (manager.onCompleted id sniff results).Owned := by
  unfold onCompleted
  split
  · exact owned
  simp only
  split
  · exact owned.congr rfl rfl rfl rfl
  · split
    · exact owned.congr rfl rfl rfl rfl
    · exact owned.congr rfl rfl rfl rfl

theorem owned_onFailed (owned : manager.Owned) : (manager.onFailed id network).Owned := by
  unfold onFailed
  split
  · exact owned.congr rfl rfl rfl rfl
  · split <;> exact owned.congr rfl rfl rfl rfl

theorem owned_deliver (sniff : Sniff) (results : ParseResults) (owned : manager.Owned) :
    (manager.next (.deliver id network sniff results)).Owned := by
  cases arrives : manager.arriving id with
  | none =>
    rw [next_deliver_none arrives]
    exact owned
  | some message =>
    have taken : (manager.onDownloader id (·.next .deliver)).Owned :=
      owned.congr rfl rfl rfl rfl
    rw [next_deliver network sniff results arrives]
    cases message with
    | stateChanged state => exact taken.congr rfl rfl rfl rfl
    | completed => exact owned_onCompleted id sniff results taken
    | failed errorType errorCode => exact owned_onFailed id network taken
    | fileCompleted => exact taken

theorem owned_proceed (owned : manager.Owned) : (manager.proceed network).Owned := by
  unfold proceed
  split
  · exact owned
  · unfold processNextPendingTask
    split
    · exact owned.congr rfl rfl rfl rfl
    split
    · exact owned.congr rfl rfl rfl rfl
    · split
      · exact owned.congr rfl rfl rfl rfl
      · split <;> exact owned.congr rfl rfl rfl rfl
  · split
    · exact owned
    · exact owned.congr rfl rfl rfl rfl
  · split
    · exact owned
    · exact owned.congr rfl rfl rfl rfl
  · split
    · exact owned
    · exact owned.congr rfl rfl rfl rfl
  · exact owned.congr rfl rfl rfl rfl
  · split
    · exact owned.congr rfl rfl rfl rfl
    · split <;> exact owned.congr rfl rfl rfl rfl
  · split
    · exact owned
    · exact owned.congr rfl rfl rfl rfl
  · split
    · exact owned
    · exact owned.congr rfl rfl rfl rfl
  · split
    · exact owned
    · exact owned.congr rfl rfl rfl rfl
  · split
    · exact owned
    · exact owned.congr rfl rfl rfl rfl

theorem owned_pauseGoesOn (call : PauseCall) (late : Bool) (owned : manager.Owned) :
    (manager.pauseGoesOn call late).Owned := by
  unfold pauseGoesOn
  split
  · split
    · exact owned
    · exact owned.congr rfl rfl rfl rfl
  · split
    · exact owned
    · split
      · exact owned.congr rfl rfl rfl rfl
      · split <;> exact owned.congr rfl rfl rfl rfl
  · split
    · exact owned
    · exact owned.congr rfl rfl rfl rfl

theorem owned_next (event : ManagerEvent) (owned : manager.Owned) : (manager.next event).Owned := by
  cases event with
  | addDownloadTask url filePath =>
    rw [next]
    split
    · exact owned
    · exact owned_addDownloadTask url filePath owned
  | removeDownloadTask id =>
    rw [next]
    split
    · exact owned
    · exact owned_removeDownloadTask id owned
  | pauseDownloadTask id =>
    rw [next]
    split
    · exact owned
    · exact owned_pauseDownloadTask id owned
  | resumeDownloadTask id =>
    rw [next]
    split
    · exact owned
    · exact owned_resumeDownloadTask id owned
  | setAllowCellularAccess allow => exact owned.congr rfl rfl rfl rfl
  | onNetworkChanged network =>
    rw [next]
    split
    · exact owned
    · exact owned_onNetworkChanged network owned
  | handleMessage =>
    rw [next]
    split
    · exact owned
    · exact owned_handleMessage owned
  | releaseEnds => exact owned_releaseEnds owned
  | removalEnds id asks => exact owned_removalEnds id asks owned
  | proceed network => exact owned_proceed network owned
  | pauseGoesOn call late =>
    rw [next]
    split
    · exact owned
    · exact owned_pauseGoesOn call late owned
  | deliver id network sniff results => exact owned_deliver id network sniff results owned
  | downloader id event => exact owned.congr rfl rfl rfl rfl

theorem owned_initial : Owned {} := by
  constructor
  · intro id has
    cases has
  · intro id has
    cases has
  · rintro id (releasing | ⟨asks, listed⟩)
    · cases releasing
    · cases listed

theorem owned_run (events : List ManagerEvent) : (run next {} events).Owned :=
  invariant_of_run Owned (fun _ event owned => owned_next event owned) events owned_initial

end PlayerFramework.Downloader.AVDownloaderManager
