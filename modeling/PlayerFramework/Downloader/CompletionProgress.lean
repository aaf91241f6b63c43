import PlayerFramework.Downloader.FileTasks
import PlayerFramework.Downloader.Owners
import PlayerFramework.Downloader.PlaylistRounds

/-!
What `OnCompleted` of the manager leaves behind when it returns: a task that is over, or a
downloader that has a file.
-/

namespace PlayerFramework.Downloader

open Transition

namespace AVDownloaderManager

/-- The task is over, and that is the last that the client was told of it. -/
def Settled (info : AVDownloadTaskInfo) : Prop :=
  (info.state = .completed ∨ info.state = .error) ∧ info.notified = some info.state

instance (info : AVDownloadTaskInfo) : Decidable (Settled info) :=
  inferInstanceAs (Decidable (_ ∧ _))

/-- The task is gone, is over with its client notified, or has a downloader with a file. -/
def Progressed (id made : Nat) (manager : AVDownloaderManager) : Prop :=
  ∀ info ∈ manager.taskMap id, Settled info ∨
    manager.downloaderMap id = true ∧ (manager.downloaders id).HasFile made

instance (id made : Nat) (manager : AVDownloaderManager) :
    Decidable (manager.Progressed id made) := by
  unfold Progressed
  infer_instance

/-- A task that is not over has its downloader, and has nothing to parse, or the parser names a
resource that `AddFileTask` takes. -/
def GoesOn (id : Nat) (sniff : Sniff) (results : ParseResults) (manager : AVDownloaderManager) :
    Prop :=
  ∀ info ∈ manager.taskMap id, info.state = .completed ∨ info.state = .error ∨
    manager.downloaderMap id = true ∧
      ((∀ file ∈ (sniffProtocol sniff info).fileList, file.needParse = false) ∨
        ∃ resource ∈ named (responses sniff results info),
          DownloaderImpl.accepts resource.1 resource.2.1 = true)

instance (id : Nat) (sniff : Sniff) (results : ParseResults) (manager : AVDownloaderManager) :
    Decidable (manager.GoesOn id sniff results) := by
  unfold GoesOn
  infer_instance

/-- `OnCompleted` has not returned, and the downloader does not clear its queue. -/
def Meanwhile (id : Nat) (manager : AVDownloaderManager) (event : ManagerEvent) : Prop :=
  manager.holder ≠ none ∧
    match event with
    | .downloader other inner => other = id → (manager.downloaders id).clears inner = false
    | _ => True

instance (id : Nat) (manager : AVDownloaderManager) :
    ∀ event, Decidable (Meanwhile id manager event)
  | .downloader _ _ => inferInstanceAs (Decidable (_ ∧ (_ → _)))
  | .addDownloadTask _ _ | .removeDownloadTask _ | .pauseDownloadTask _ | .resumeDownloadTask _
  | .setAllowCellularAccess _ | .onNetworkChanged _ | .handleMessage | .releaseEnds
  | .removalEnds _ _ | .proceed _ | .pauseGoesOn _ _ | .deliver _ _ _ _ =>
    inferInstanceAs (Decidable (_ ∧ True))

variable {manager : AVDownloaderManager}

/-- The client has been told of every task that is over. -/
def Told (manager : AVDownloaderManager) : Prop :=
  ∀ id info, manager.taskMap id = some info →
    info.state = .completed ∨ info.state = .error → info.notified = some info.state

theorem told_setState (state : AVDownloadTaskState) (info : AVDownloadTaskInfo)
    (ended : (setState state info).state = .completed ∨ (setState state info).state = .error) :
    (setState state info).notified = some (setState state info).state := by
  have other : state ≠ .running := by
    rintro rfl
    rcases ended with ended | ended <;> cases ended
  exact if_neg other

theorem sniffed_notified (sniff : Sniff) (info : AVDownloadTaskInfo) :
    (sniffProtocol sniff info).notified = info.notified := by
  unfold sniffProtocol
  split <;> rfl

theorem told_next (event : ManagerEvent) (told : manager.Told) : (manager.next event).Told := by
  apply each_next told
  · intro url filePath _ ended
    rcases ended with ended | ended <;> cases ended
  · exact fun state info _ => told_setState state info
  intro id network sniff results info _ _ found
  have kept : (sniffProtocol sniff info).state = .completed ∨
      (sniffProtocol sniff info).state = .error →
        (sniffProtocol sniff info).notified = some (sniffProtocol sniff info).state := by
    rw [sniffed_notified, state_sniff]
    exact told id info found
  unfold completedInfo
  simp only
  split
  · exact kept
  · split
    · exact told_setState _ _
    · exact kept

theorem told_run (events : List ManagerEvent) : (run next {} events).Told :=
  invariant_of_run Told (fun _ event told => told_next event told) events
    fun _ _ found => by cases found

section Submitting

/-- `OnCompleted` of this task goes on since `entered`: the records stay, and the files of the
task are added once. -/
structure Submits (id : Nat) (entered manager : AVDownloaderManager) : Prop where
  taskMap : manager.taskMap = entered.taskMap
  downloaderMap : manager.downloaderMap = entered.downloaderMap
  stays : ¬ manager.Leaving id
  place : (manager.holder = some (.submitting id) ∧
      DownloaderImpl.Carries (entered.downloaders id) (manager.downloaders id)) ∨
    ((manager.holder = some (.submitCalling id) ∨ manager.holder = none) ∧
      ∃ before config, DownloaderImpl.Carries (entered.downloaders id) before ∧
        DownloaderImpl.Carries (before.addFiles (entered.remaining id) config)
          (manager.downloaders id))

variable {entered : AVDownloaderManager} {id : Nat}

theorem Submits.goesOn {after : AVDownloaderManager} (submits : Submits id entered manager)
    (taskMap : after.taskMap = manager.taskMap)
    (downloaderMap : after.downloaderMap = manager.downloaderMap)
    (holder : after.holder = manager.holder) (stays : after.Leaving id → manager.Leaving id)
    (carries : DownloaderImpl.Carries (manager.downloaders id) (after.downloaders id)) :
    Submits id entered after := by
  constructor
  · exact taskMap.trans submits.taskMap
  · exact downloaderMap.trans submits.downloaderMap
  · intro leaving
    exact submits.stays (stays leaving)
  · rw [holder]
    rcases submits.place with ⟨held, carried⟩ | ⟨held, before, config, first, second⟩
    · exact .inl ⟨held, carried.trans carries⟩
    · exact .inr ⟨held, before, config, first, second.trans carries⟩

theorem Submits.onDownloader {other : Nat} {change : DownloaderImpl → DownloaderImpl}
    (submits : Submits id entered manager)
    (carries : other = id →
      DownloaderImpl.Carries (manager.downloaders id) (change (manager.downloaders id))) :
    Submits id entered (manager.onDownloader other change) := by
  refine submits.goesOn rfl rfl rfl (fun leaving => leaving) ?_
  by_cases mine : other = id
  · have changed := carries mine
    subst mine
    simpa [AVDownloaderManager.onDownloader] using changed
  · rw [AVDownloaderManager.onDownloader]
    dsimp only
    rw [Function.update_of_ne (Ne.symm mine)]
    exact .refl _

theorem Submits.held (submits : Submits id entered manager) (holds : manager.holder ≠ none) :
    manager.holder = some (.submitting id) ∨ manager.holder = some (.submitCalling id) := by
  rcases submits.place with ⟨held, _⟩ | ⟨held | held, _⟩
  · exact .inl held
  · exact .inr held
  · exact absurd held holds

theorem submits_proceed (network : NetConnType) (submits : Submits id entered manager)
    (holds : manager.holder ≠ none) : Submits id entered (manager.proceed network) := by
  rcases submits.held holds with held | held
  · rw [proceed.eq_def, held]
    dsimp only
    split
    · exact submits
    rename_i free
    rcases submits.place with ⟨_, carried⟩ | ⟨other | other, _⟩
    · have idle : (manager.downloaders id).client = none := by
        have isFree := not_not.mp (not_or.mp free).1
        simp only [DownloaderImpl.isFree, Bool.and_eq_true, Option.isNone_iff_eq_none] at isFree
        exact isFree.1
      refine ⟨submits.taskMap, submits.downloaderMap, submits.stays, .inr ⟨.inl rfl,
        manager.downloaders id, manager.config, carried, ?_⟩⟩
      have same : manager.remaining id = entered.remaining id := by
        rw [remaining, submits.taskMap, remaining]
      rw [AVDownloaderManager.onDownloader]
      dsimp only
      rw [Function.update_self, same]
      exact DownloaderImpl.carries_called (DownloaderImpl.addFiles_same.2.2.2.trans idle)
        (DownloaderImpl.called_start holderCaller network)
    · rw [held] at other
      cases other
    · exact absurd other holds
  · rw [proceed.eq_def, held]
    dsimp only
    split
    · exact submits
    rcases submits.place with ⟨other, _⟩ | ⟨_, before, config, first, second⟩
    · rw [held] at other
      cases other
    refine ⟨submits.taskMap, submits.downloaderMap, submits.stays, .inr ⟨.inr rfl,
      before, config, first, second.trans ?_⟩⟩
    rw [AVDownloaderManager.onDownloader]
    dsimp only
    rw [Function.update_self]
    exact DownloaderImpl.carries_forget holderCaller

theorem submits_pauseGoesOn (call : PauseCall) (late : Bool)
    (submits : Submits id entered manager) (holds : manager.holder ≠ none) :
    Submits id entered (manager.pauseGoesOn call late) := by
  unfold pauseGoesOn
  split
  · split
    · exact submits
    rename_i free
    have idle : (manager.downloaders call.id).client = none := by
      have isFree := not_not.mp free
      simp only [DownloaderImpl.isFree, Bool.and_eq_true, Option.isNone_iff_eq_none] at isFree
      exact isFree.1
    have paused : Submits id entered (manager.onDownloader call.id (·.pause call.caller)) := by
      apply submits.onDownloader
      intro mine
      exact DownloaderImpl.carries_called (mine ▸ idle) (DownloaderImpl.called_pause call.caller)
    exact paused.goesOn rfl rfl rfl (fun leaving => leaving) (.refl _)
  · split
    · exact submits
    have forgot : Submits id entered (manager.onDownloader call.id (·.forget call.caller)) := by
      apply submits.onDownloader
      intro _
      exact DownloaderImpl.carries_forget call.caller
    split
    · exact forgot.goesOn rfl rfl rfl (fun leaving => leaving) (.refl _)
    · split
      · exact forgot.goesOn rfl rfl rfl (fun leaving => leaving) (.refl _)
      · exact forgot.goesOn rfl rfl rfl (fun leaving => leaving) (.refl _)
  · rw [if_pos (Option.isSome_iff_ne_none.mpr holds)]
    exact submits

theorem submits_ends {other : Nat} (submits : Submits id entered manager)
    (leaves : manager.Leaving other) :
    Submits id entered (manager.onDownloader other (·.released)) := by
  apply submits.onDownloader
  intro mine
  exact absurd (mine ▸ leaves) submits.stays

theorem submits_next {event : ManagerEvent} (submits : Submits id entered manager)
    (meanwhile : manager.Meanwhile id event) : Submits id entered (manager.next event) := by
  obtain ⟨holds, clears⟩ := meanwhile
  have taken : manager.holder.isSome = true := Option.isSome_iff_ne_none.mpr holds
  cases event with
  | setAllowCellularAccess allow =>
    exact submits.goesOn rfl rfl rfl (fun leaving => leaving) (.refl _)
  | handleMessage =>
    rw [next, if_pos (.inl taken)]
    exact submits
  | releaseEnds =>
    rw [next, releaseEnds]
    split
    · exact submits
    rename_i other releasing
    split
    · exact submits
    · refine (submits_ends submits (.inl releasing)).goesOn rfl rfl rfl ?_ (.refl _)
      rintro (released | listed)
      · cases released
      · exact .inr listed
  | removalEnds other asks =>
    rw [next, removalEnds]
    split
    · exact submits
    rename_i listed
    have removed : Submits id entered { manager.onDownloader other (·.released) with
        removals := manager.removals.erase (other, asks) } := by
      refine (submits_ends submits (.inr ⟨asks, not_not.mp (not_or.mp listed).1⟩)).goesOn
        rfl rfl rfl ?_ (.refl _)
      rintro (releasing | ⟨asked, rest⟩)
      · exact .inl releasing
      · exact .inr ⟨asked, List.mem_of_mem_erase rest⟩
    split
    · exact removed.goesOn rfl rfl rfl (fun leaving => leaving) (.refl _)
    · exact removed
  | proceed network => exact submits_proceed network submits holds
  | pauseGoesOn call late =>
    rw [next]
    split
    · exact submits
    · exact submits_pauseGoesOn call late submits holds
  | downloader other inner =>
    rw [next]
    apply submits.onDownloader
    intro mine
    exact DownloaderImpl.carries_next (clears mine)
  | _ =>
    rw [next, if_pos taken]
    exact submits

theorem submits_along {during : List ManagerEvent} (submits : Submits id entered entered)
    (along : Along next (Meanwhile id) entered during) :
    Submits id entered (run next entered during) :=
  invariant_of_along (Submits id entered) (fun _ _ submits meanwhile =>
    submits_next submits meanwhile) along submits

end Submitting

section Completing

variable {id : Nat} {sniff : Sniff} {results : ParseResults} {info : AVDownloadTaskInfo}

theorem completedInfo_state (id : Nat) (sniff : Sniff) (results : ParseResults)
    (info : AVDownloadTaskInfo) :
    (manager.completedInfo id sniff results info).state =
      if manager.downloaderMap id ∧ ¬ (downloadedFiles sniff info).any (·.needParse) then
        .completed
      else info.state := by
  unfold completedInfo
  by_cases known : manager.downloaderMap id = true
  · rw [if_neg (not_not.mpr known)]
    split
    · rename_i none
      rw [if_pos ⟨known, none⟩]
      rfl
    · rename_i some
      rw [if_neg fun both => some both.2]
      exact state_sniff sniff info
  · rw [if_pos known, if_neg fun both => known both.1]
    exact state_sniff sniff info

variable (network : NetConnType)

/-- `OnCompleted` goes on with the files of the task where there are some to parse. -/
theorem holder_completed (arrives : manager.arriving id = some .completed)
    (found : manager.taskMap id = some info) :
    (manager.next (.deliver id network sniff results)).holder =
      if manager.downloaderMap id ∧ (downloadedFiles sniff info).any (·.needParse) then
        some (.submitting id)
      else none := by
  have free := (arriving_iff.mp arrives).1
  rw [next_deliver network sniff results arrives, report]
  have same : (manager.onDownloader id (·.next .deliver)).taskMap id = some info := found
  rw [onCompleted.eq_def, same]
  change AVDownloaderManager.holder (if ¬ manager.downloaderMap id = true then _ else _) = _
  by_cases known : manager.downloaderMap id = true
  · rw [if_neg (not_not.mpr known)]
    split
    · rename_i none
      rw [if_neg fun both => none both.2]
      exact free
    · rename_i some
      rw [if_pos ⟨known, not_not.mp some⟩]
  · rw [if_pos known, if_neg fun both => known both.1]
    exact free

theorem downloaders_completed (arrives : manager.arriving id = some .completed) :
    (manager.next (.deliver id network sniff results)).downloaderMap = manager.downloaderMap ∧
      (manager.next (.deliver id network sniff results)).downloaders id =
        (manager.downloaders id).next .deliver ∧
      ((manager.next (.deliver id network sniff results)).Leaving id → manager.Leaving id) := by
  have taken : (manager.onDownloader id (·.next .deliver)).downloaders id =
      (manager.downloaders id).next .deliver := Function.update_self _ _ _
  rw [next_deliver network sniff results arrives, report, onCompleted.eq_def]
  split
  · exact ⟨rfl, taken, fun leaving => leaving⟩
  simp only
  split
  · exact ⟨rfl, taken, fun leaving => leaving⟩
  · split
    · exact ⟨rfl, taken, fun leaving => leaving⟩
    · exact ⟨rfl, taken, fun leaving => leaving⟩

theorem remaining_completed (arrives : manager.arriving id = some .completed)
    (found : manager.taskMap id = some info) (known : manager.downloaderMap id = true)
    (needed : (downloadedFiles sniff info).any (·.needParse) = true) :
    (manager.next (.deliver id network sniff results)).remaining id =
      (named (responses sniff results info)).map fileOf := by
  have kept := @parseFiles_kept _ (·.downloaded) (fun _ _ => rfl) results
    (downloadedFiles sniff info)
  have old : (parseFiles results (downloadedFiles sniff info)).1.filter
      (fun file => !file.downloaded) = [] := by
    rw [List.filter_eq_nil_iff]
    intro file member
    have downloaded : file.downloaded ∈ (downloadedFiles sniff info).map (·.downloaded) :=
      kept ▸ List.mem_map_of_mem member
    rw [downloadedFiles, List.map_map, List.mem_map] at downloaded
    obtain ⟨_, _, same⟩ := downloaded
    rw [← same]
    simp
  rw [remaining, taskMap_completed network arrives, Function.update_self, found, Option.map_some]
  dsimp only
  rw [completedInfo_fileList, if_pos ⟨known, needed⟩, List.filter_append, old, List.nil_append,
    parseFiles_added, downloadedFiles_countP sniff info fun need => need, List.filter_eq_self.mpr]
  · rfl
  · intro file member
    obtain ⟨resource, _, rfl⟩ := List.mem_map.mp member
    rfl

theorem downloadedFiles_any : ¬ (downloadedFiles sniff info).any (·.needParse) = true ↔
      ∀ file ∈ (sniffProtocol sniff info).fileList, file.needParse = false := by
  rw [downloadedFiles]
  simp

/-- Once `OnCompleted` has returned there is nothing to wait for. -/
theorem returned_at_once {entered : AVDownloaderManager} {during : List ManagerEvent}
    (free : entered.holder = none) (along : Along next (Meanwhile id) entered during) :
    during = [] := by
  cases during with
  | nil => rfl
  | cons event rest => exact absurd free along.1.1

theorem holder_gone (arrives : manager.arriving id = some .completed)
    (gone : manager.taskMap id = none) :
    (manager.next (.deliver id network sniff results)).holder = none := by
  have same : (manager.onDownloader id (·.next .deliver)).taskMap id = none := gone
  rw [next_deliver network sniff results arrives, report, onCompleted.eq_def, same]
  exact (arriving_iff.mp arrives).1

theorem progressed_iff {made : Nat} (told : manager.Told)
    (found : manager.taskMap id = some info) :
    manager.Progressed id made ↔ info.state = .completed ∨ info.state = .error ∨
      manager.downloaderMap id = true ∧ (manager.downloaders id).HasFile made := by
  rw [Progressed, found]
  simp only [Option.mem_some, forall_eq', Settled]
  rw [and_iff_left_of_imp (told id info found), or_assoc]

theorem goesOn_iff (found : manager.taskMap id = some info) :
    manager.GoesOn id sniff results ↔ info.state = .completed ∨ info.state = .error ∨
      manager.downloaderMap id = true ∧
        ((∀ file ∈ (sniffProtocol sniff info).fileList, file.needParse = false) ∨
          ∃ resource ∈ named (responses sniff results info),
            DownloaderImpl.accepts resource.1 resource.2.1 = true) := by
  rw [GoesOn, found]
  simp

/-- `OnCompleted` that returns without files to add has finished its task, or leaves a task
without a downloader as it was. -/
theorem progress_at_once (told : manager.Told) (arrives : manager.arriving id = some .completed)
    (found : manager.taskMap id = some info) (made : Nat)
    (unneeded : ¬ (manager.downloaderMap id ∧ (downloadedFiles sniff info).any (·.needParse) =
      true)) :
    manager.GoesOn id sniff results ↔
      (manager.next (.deliver id network sniff results)).Progressed id made := by
  have records := @taskMap_completed manager sniff results id network arrives
  have downloaderMap := (@downloaders_completed manager id sniff results network arrives).1
  have now : (manager.next (.deliver id network sniff results)).taskMap id =
      some (manager.completedInfo id sniff results info) := by
    rw [records, Function.update_self, found, Option.map_some]
  rw [goesOn_iff found, progressed_iff (told_next _ told) now, completedInfo_state, downloaderMap]
  by_cases known : manager.downloaderMap id = true
  · have none := fun some => unneeded ⟨known, some⟩
    rw [if_pos ⟨known, none⟩]
    exact iff_of_true (.inr (.inr ⟨known, .inl (downloadedFiles_any.mp none)⟩)) (.inl rfl)
  · simp [known]

/-- `OnCompleted` that adds files gives its downloader one exactly where it takes one. -/
theorem progress_submitted {during : List ManagerEvent} (owned : manager.Owned)
    (told : (run next (manager.next (.deliver id network sniff results)) during).Told)
    (arrives : manager.arriving id = some .completed) (found : manager.taskMap id = some info)
    (known : manager.downloaderMap id = true)
    (needed : (downloadedFiles sniff info).any (·.needParse) = true)
    (along : Along next (Meanwhile id) (manager.next (.deliver id network sniff results)) during)
    (returned : (run next (manager.next (.deliver id network sniff results)) during).holder =
      none) :
    (manager.GoesOn id sniff results →
      (run next (manager.next (.deliver id network sniff results)) during).Progressed id
        (manager.downloaders id).taskCount) ∧
      (¬ (manager.downloaders id).HasFile (manager.downloaders id).taskCount →
        (run next (manager.next (.deliver id network sniff results)) during).Progressed id
          (manager.downloaders id).taskCount → manager.GoesOn id sniff results) := by
  obtain ⟨downloaderMap, downloader, leaves⟩ :=
    @downloaders_completed manager id sniff results network arrives
  have files := @remaining_completed manager id sniff results info network arrives found known
    needed
  have holder := @holder_completed manager id sniff results info network arrives found
  rw [if_pos ⟨known, needed⟩] at holder
  have idle : (manager.downloaders id).client = none := (arriving_iff.mp arrives).2.1
  have entered : DownloaderImpl.Carries (manager.downloaders id)
      ((manager.next (.deliver id network sniff results)).downloaders id) := by
    rw [downloader, DownloaderImpl.next, if_neg (by simp [idle])]
    exact DownloaderImpl.carries_same rfl rfl rfl rfl (.inl rfl)
  have submits := submits_along ⟨rfl, rfl, fun leaving => owned.stays id known (leaves leaving),
    .inl ⟨holder, .refl _⟩⟩ along
  obtain ⟨held, _⟩ | ⟨_, before, config, first, second⟩ := submits.place
  · rw [returned] at held
    cases held
  rw [files] at second
  have now : (run next (manager.next (.deliver id network sniff results)) during).taskMap id =
      some (manager.completedInfo id sniff results info) := by
    rw [submits.taskMap, taskMap_completed network arrives, Function.update_self, found,
      Option.map_some]
  rw [goesOn_iff found, progressed_iff told now, completedInfo_state,
    if_neg fun both => both.2 needed, submits.downloaderMap, downloaderMap]
  constructor
  · rintro (completed | error | ⟨_, unneeded | ⟨resource, listed, taken⟩⟩)
    · exact .inl completed
    · exact .inr (.inl error)
    · exact absurd needed (downloadedFiles_any.mpr unneeded)
    · exact .inr (.inr ⟨known, DownloaderImpl.hasFile_of_taken (entered.trans first) second
        (Nat.le_refl _) (List.mem_map_of_mem listed) taken⟩)
  · rintro without (completed | error | ⟨_, has⟩)
    · exact .inl completed
    · exact .inr (.inl error)
    refine .inr (.inr ⟨known, .inr ?_⟩)
    by_contra refused
    apply DownloaderImpl.no_file_of_refused (entered.trans first) second without _ has
    intro file member
    obtain ⟨resource, listed, rfl⟩ := List.mem_map.mp member
    rw [← Bool.not_eq_true]
    intro taken
    exact refused ⟨resource, listed, taken⟩

end Completing

/-- `OnCompleted` leaves a task that is over, with its client notified, or a downloader with a
file where `GoesOn` holds; and only there, where the downloader had no file before. -/
theorem completion_progress (before during : List ManagerEvent) (id : Nat)
    (network : NetConnType) (sniff : Sniff) (results : ParseResults)
    (arrives : (run next {} before).arriving id = some .completed)
    (along : Along next (Meanwhile id)
      ((run next {} before).next (.deliver id network sniff results)) during)
    (returned : (run next ((run next {} before).next (.deliver id network sniff results))
      during).holder = none) :
    ((run next {} before).GoesOn id sniff results →
      (run next ((run next {} before).next (.deliver id network sniff results)) during).Progressed
        id ((run next {} before).downloaders id).taskCount) ∧
      (¬ ((run next {} before).downloaders id).HasFile
          ((run next {} before).downloaders id).taskCount →
        (run next ((run next {} before).next (.deliver id network sniff results))
          during).Progressed id ((run next {} before).downloaders id).taskCount →
            (run next {} before).GoesOn id sniff results) := by
  cases found : (run next {} before).taskMap id with
  | none =>
    have nothing := returned_at_once (holder_gone network arrives found) along
    constructor
    · intro _ info member
      rw [nothing, run_nil, taskMap_completed network arrives, Function.update_self, found,
        Option.map_none] at member
      cases member
    · intro _ _ info member
      rw [found] at member
      cases member
  | some info =>
    by_cases needed : (run next {} before).downloaderMap id ∧
        (downloadedFiles sniff info).any (·.needParse) = true
    · have told := told_run (before ++ .deliver id network sniff results :: during)
      rw [run_append, run_cons] at told
      exact progress_submitted network (owned_run before) told arrives found needed.1 needed.2
        along returned
    · have holder := @holder_completed _ id sniff results info network arrives found
      have nothing := returned_at_once (by rw [holder, if_neg needed]) along
      subst nothing
      have once := @progress_at_once _ id sniff results info network (told_run before) arrives
        found ((run next {} before).downloaders id).taskCount needed
      exact ⟨once.mp, fun _ => once.mpr⟩

/-- The file of a task is downloaded, and its completion is the next message. -/
def downloadedTask : List ManagerEvent :=
  startedTask ++ workerSteps 0 7 (.download [] 0 true) ++
    List.replicate 5 (ManagerEvent.downloader 0 (.handle .wifi)) ++
    List.replicate 2 (ManagerEvent.deliver 0 .wifi none [])

/-- The rest of an `OnCompleted` that adds files. -/
def submitting : List ManagerEvent :=
  [ManagerEvent.proceed .wifi] ++ innerSteps 0 4 ++ [ManagerEvent.proceed .wifi]

/-- A playlist that names a resource leads to its download. -/
theorem resource_downloaded : (run next ((run next {} downloadedTask).next
      (.deliver 0 .wifi (some true) [some [(taskUrl ++ ['c'], ['/', 'g'], false)]]))
        submitting).Progressed 0 ((run next {} downloadedTask).downloaders 0).taskCount :=
  (completion_progress downloadedTask submitting 0 .wifi (some true)
    [some [(taskUrl ++ ['c'], ['/', 'g'], false)]] (by decide +kernel) (by decide +kernel)
    (by decide +kernel)).1 (by decide +kernel)

/-- A playlist that cannot be parsed leaves its task running, with nothing to do. -/
theorem unparsed_stalls :
    let left := run next ((run next {} downloadedTask).next
      (.deliver 0 .wifi (some true) [none])) submitting
    left.holder = none ∧ left.recorded 0 = some .running ∧
      ¬ left.Progressed 0 ((run next {} downloadedTask).downloaders 0).taskCount := by
  refine ⟨?_, ?_, ?_⟩
  · decide +kernel
  · decide +kernel
  · decide +kernel

end AVDownloaderManager

end PlayerFramework.Downloader
