import PlayerFramework.Downloader.TaskRecords

/-!
How many tasks of one URL are to be downloaded at a time: the search of `AddDownloadTask` for a
task of its URL, and the states that are recorded later.
-/

namespace PlayerFramework.Downloader.AVDownloaderManager

open Transition Function

/-- Two recorded tasks of one URL are not both live. -/
def OneLive (taskMap : Nat → Option AVDownloadTaskInfo) : Prop :=
  ∀ first second info other, taskMap first = some info → taskMap second = some other →
    info.url = other.url → info.state.live = true → other.state.live = true → first = second

/-- `AddDownloadTask` makes a task for the URL of a task that is paused. -/
def AddsBesidePaused (manager : AVDownloaderManager) (event : ManagerEvent) : Prop :=
  ∃ url filePath, event = .addDownloadTask url filePath ∧ manager.Adds url ∧
    ∃ id info, manager.taskMap id = some info ∧ info.url = url ∧ info.state = .paused

/-- The messages and answers after which a task is live whatever it was: its downloader reports
that it goes on, or fails without a network that may be used, or a call of it returns. -/
inductive Revives (manager : AVDownloaderManager) : ManagerEvent → Nat → Prop
  | goesOn {id : Nat} (network : NetConnType) (sniff : Sniff) (results : ParseResults)
      {state : DownloadState} (arrives : manager.arriving id = some (.stateChanged state))
      (unended : state = .idle ∨ state = .preparing ∨ state = .running ∨ state = .paused) :
      Revives manager (.deliver id network sniff results) id
  | offline {id : Nat} {network : NetConnType} (sniff : Sniff) (results : ParseResults)
      {errorType : DownloadErrorType} {errorCode : Int}
      (arrives : manager.arriving id = some (.failed errorType errorCode))
      (refused : manager.isNetworkAllowDownload network = false) :
      Revives manager (.deliver id network sniff results) id
  | accepted {id : Nat} (network : NetConnType)
      (held : manager.holder = some (.processCalling id))
      (answered : (manager.downloaders id).answer holderCaller = some downloadRetOk) :
      Revives manager (.proceed network) id
  | pauseAnswered {id : Nat} {rest : List Nat} {ret : Int} (network : NetConnType)
      (held : manager.holder = some (.pauseCalling id rest))
      (answered : (manager.downloaders id).answer holderCaller = some ret) :
      Revives manager (.proceed network) id
  | pauseEnds {call : PauseCall} (late : Bool) (pending : call ∈ manager.pauses)
      (paused : call.stage = .paused) (free : manager.holder = none) :
      Revives manager (.pauseGoesOn call late) call.id

/-- A task that was over gets such a message or answer beside a live task of its URL. -/
def RevivesBesideLive (manager : AVDownloaderManager) (event : ManagerEvent) : Prop :=
  ∃ id info, manager.Revives event id ∧ manager.taskMap id = some info ∧ info.state.live = false ∧
      ∃ rival other, manager.taskMap rival = some other ∧ other.url = info.url ∧
        other.state.live = true

def KeepsOneLive (manager : AVDownloaderManager) (event : ManagerEvent) : Prop :=
  ¬ manager.AddsBesidePaused event ∧ ¬ manager.RevivesBesideLive event

variable {manager : AVDownloaderManager} {event : ManagerEvent}

variable {url : List Char} {id told : Nat} {state : AVDownloadTaskState}

/-- Such a message records a live state. -/
theorem tells_of_revives (revives : manager.Revives event id) :
    ∃ state, manager.tells? event = some (id, state) ∧ state.live = true := by
  cases revives with
  | @goesOn id network sniff results reported arrives unended =>
    refine ⟨convertToAVDownloadTaskState reported, by simp [tells?, arrives], ?_⟩
    rcases unended with rfl | rfl | rfl | rfl <;> rfl
  | offline sniff results arrives refused =>
    exact ⟨.paused, by simp [tells?, arrives, refused], rfl⟩
  | accepted network held answered => exact ⟨.running, by simp [tells?, held, answered], rfl⟩
  | pauseAnswered network held answered => exact ⟨.paused, by simp [tells?, held, answered], rfl⟩
  | pauseEnds late pending paused free =>
    exact ⟨.paused, by simp [tells?, pending, paused, free], rfl⟩

/-- No other message does. -/
theorem revives_of_tells (tells : manager.tells? event = some (id, state))
    (becomes : state.live = true) : manager.Revives event id := by
  cases event with
  | deliver of network sniff results =>
    cases arrives : manager.arriving of with
    | none => simp [tells?, arrives] at tells
    | some message =>
      cases message with
      | stateChanged reported =>
        simp only [tells?, arrives, Option.some.injEq, Prod.mk.injEq] at tells
        obtain ⟨rfl, rfl⟩ := tells
        apply Revives.goesOn network sniff results arrives
        cases reported <;> first | simp; done | cases becomes
      | failed errorType errorCode =>
        simp only [tells?, arrives, Option.some.injEq, Prod.mk.injEq] at tells
        obtain ⟨rfl, rfl⟩ := tells
        apply Revives.offline sniff results arrives
        cases allowed : manager.isNetworkAllowDownload network with
        | false => rfl
        | true =>
          rw [allowed] at becomes
          cases becomes
      | completed | fileCompleted => simp [tells?, arrives] at tells
  | proceed network =>
    simp only [tells?] at tells
    split at tells
    · rename_i held
      obtain ⟨ret, answered, same⟩ := Option.map_eq_some_iff.mp tells
      rw [Prod.mk.injEq] at same
      obtain ⟨rfl, rfl⟩ := same
      split at becomes
      · rename_i accepted
        subst accepted
        exact .accepted network held answered
      · cases becomes
    · rename_i held
      obtain ⟨ret, answered, same⟩ := Option.map_eq_some_iff.mp tells
      rw [Prod.mk.injEq] at same
      obtain ⟨rfl, -⟩ := same
      exact .pauseAnswered network held answered
    · cases tells
  | pauseGoesOn call late =>
    simp only [tells?] at tells
    split at tells
    · rename_i ends
      rw [Option.some.injEq, Prod.mk.injEq] at tells
      obtain ⟨rfl, -⟩ := tells
      exact .pauseEnds late ends.1 ends.2.1 ends.2.2
    · cases tells
  | _ => cases tells

theorem adds_unlive {info : AVDownloadTaskInfo} (made : manager.Made) (new : manager.Adds url)
    (found : manager.taskMap id = some info) (same : info.url = url)
    (unpaused : info.state ≠ .paused) : info.state.live = false := by
  have unmatched := List.find?_eq_none.mp new.2.2 id (List.mem_range.mpr (made_below made found))
  rw [found] at unmatched
  cases state : info.state with
  | init | queued | running => simp [same, state] at unmatched
  | paused => exact absurd state unpaused
  | completed | removing | error => rfl

theorem oneLive_of_live {after : Nat → Option AVDownloadTaskInfo} (one : OneLive manager.taskMap)
    (before : ∀ id info, after id = some info → info.state.live = true → ∃ old,
      manager.taskMap id = some old ∧ old.url = info.url ∧ old.state.live = true) :
    OneLive after := by
  intro first second info other found foundOther same live liveOther
  obtain ⟨old, was, url, wasLive⟩ := before first info found live
  obtain ⟨oldOther, wasOther, urlOther, wasLiveOther⟩ :=
    before second other foundOther liveOther
  exact one first second old oldOther was wasOther (by rw [url, urlOther, same]) wasLive
    wasLiveOther

theorem completedInfo_url (id : Nat) (sniff : Sniff) (results : ParseResults)
    (info : AVDownloadTaskInfo) : (manager.completedInfo id sniff results info).url = info.url := by
  have sniffed : (sniffProtocol sniff info).url = info.url := by
    unfold sniffProtocol
    split <;> rfl
  unfold completedInfo
  simp only
  split
  · exact sniffed
  · split <;> exact sniffed

theorem completedInfo_live {sniff : Sniff} {results : ParseResults} {info : AVDownloadTaskInfo}
    (live : (manager.completedInfo id sniff results info).state.live = true) :
    info.state.live = true := by
  unfold completedInfo at live
  simp only at live
  split at live
  · rwa [state_sniff] at live
  · split at live
    · cases live
    · rwa [state_sniff] at live

theorem oneLive_added {filePath : List Char} (made : manager.Made) (one : OneLive manager.taskMap)
    (new : manager.Adds url)
    (unpaused : ∀ id info, manager.taskMap id = some info → info.url = url →
      info.state ≠ .paused) :
    OneLive (update manager.taskMap manager.nextId (some (addedInfo url filePath))) := by
  -- a task of this URL that was there before is not live
  have unlive : ∀ id info, id ≠ manager.nextId →
      update manager.taskMap manager.nextId (some (addedInfo url filePath)) id =
        some info → info.url = url → info.state.live = false := by
    intro id info old found same
    rw [update_of_ne old] at found
    exact adds_unlive made new found same (unpaused id info found same)
  intro first second info other found foundOther same live liveOther
  by_cases newFirst : first = manager.nextId
  · by_cases newSecond : second = manager.nextId
    · rw [newFirst, newSecond]
    · rw [newFirst, update_self, Option.some.injEq] at found
      rw [unlive second other newSecond foundOther (by rw [← same, ← found]; rfl)] at liveOther
      cases liveOther
  · by_cases newSecond : second = manager.nextId
    · rw [newSecond, update_self, Option.some.injEq] at foundOther
      rw [unlive first info newFirst found (by rw [same, ← foundOther]; rfl)] at live
      cases live
    · rw [update_of_ne newFirst] at found
      rw [update_of_ne newSecond] at foundOther
      exact one first second info other found foundOther same live liveOther

theorem oneLive_told (one : OneLive manager.taskMap)
    (safe : ∀ info, manager.taskMap id = some info → info.state.live = false →
      state.live = true → ∀ rival other, manager.taskMap rival = some other →
        other.url = info.url → other.state.live = false) :
    OneLive (update manager.taskMap id ((manager.taskMap id).map (setState state))) := by
  cases recorded : manager.taskMap id with
  | none =>
    rw [Option.map_none, ← recorded, update_eq_self]
    exact one
  | some old =>
    rw [Option.map_some]
    -- what is live afterwards beside the task was live before, and so is not of its URL
    have rivals : ∀ rival other, rival ≠ id → state.live = true →
        manager.taskMap rival = some other → other.url = old.url → other.state.live = false := by
      intro rival other different becomes found same
      cases was : old.state.live with
      | true =>
        cases now : other.state.live with
        | true => exact absurd (one rival id other old found recorded same now was) different
        | false => rfl
      | false => exact safe old recorded was becomes rival other found same
    intro first second info other found foundOther same live liveOther
    by_cases mine : first = id
    · by_cases mineOther : second = id
      · rw [mine, mineOther]
      rw [mine, update_self, Option.some.injEq] at found
      rw [update_of_ne mineOther] at foundOther
      subst found
      rw [rivals second other mineOther live foundOther same.symm] at liveOther
      cases liveOther
    · by_cases mineOther : second = id
      · rw [mineOther, update_self, Option.some.injEq] at foundOther
        rw [update_of_ne mine] at found
        subst foundOther
        rw [rivals first info mine liveOther found same] at live
        cases live
      · rw [update_of_ne mine] at found
        rw [update_of_ne mineOther] at foundOther
        exact one first second info other found foundOther same live liveOther

theorem oneLive_next (made : manager.Made) (one : OneLive manager.taskMap)
    (keeps : manager.KeepsOneLive event) : OneLive (manager.next event).taskMap := by
  have records : Records manager event _ _ := records_next event
  generalize (manager.next event).taskMap = taskMap at records ⊢
  generalize (manager.next event).nextId = nextId at records
  cases records with
  | kept => exact one
  | removed id removes =>
    apply oneLive_of_live one
    intro other info found live
    by_cases mine : other = id
    · rw [mine, update_self] at found
      cases found
    · rw [update_of_ne mine] at found
      exact ⟨info, found, rfl, live⟩
  | added url filePath adds new =>
    apply oneLive_added made one new
    intro id info found same paused
    exact keeps.1 ⟨url, filePath, adds, new, id, info, found, same, paused⟩
  | switched after each =>
    apply oneLive_of_live one
    intro id info found live
    rcases each id with kept | ⟨old, state, was, now, wasLive, _⟩
    · exact ⟨info, kept ▸ found, rfl, live⟩
    · rw [now, Option.some.injEq] at found
      subst found
      exact ⟨old, was, rfl, wasLive⟩
  | told id state tells =>
    apply oneLive_told one
    intro info recorded was becomes rival other found same
    cases now : other.state.live with
    | true =>
      exact absurd ⟨id, info, revives_of_tells tells becomes, recorded, was, rival, other, found,
        same, now⟩ keeps.2
    | false => rfl
  | completed id network sniff results delivers arrives =>
    apply oneLive_of_live one
    intro other info found live
    by_cases mine : other = id
    · subst mine
      rw [update_self] at found
      obtain ⟨old, was, now⟩ := Option.map_eq_some_iff.mp found
      subst now
      exact ⟨old, was, (completedInfo_url other sniff results old).symm, completedInfo_live live⟩
    · rw [update_of_ne mine] at found
      exact ⟨info, found, rfl, live⟩

theorem taskMap_added (filePath : List Char) (new : manager.Adds url) :
    (manager.next (.addDownloadTask url filePath)).taskMap =
      update manager.taskMap manager.nextId (some (addedInfo url filePath)) := by
  rw [next, if_neg (by simp [new.1]), addDownloadTask, if_neg new.2.1, new.2.2]
  simp [post, enqueue, notifyStatusChange, addedInfo, setState]

theorem taskMap_deliver_told {network : NetConnType} {sniff : Sniff} {results : ParseResults}
    (tells : manager.tells? (.deliver id network sniff results) = some (told, state)) :
    (manager.next (.deliver id network sniff results)).taskMap =
      update manager.taskMap told ((manager.taskMap told).map (setState state)) := by
  cases arrives : manager.arriving id with
  | none => simp [tells?, arrives] at tells
  | some message =>
    rw [next_deliver network sniff results arrives]
    cases message with
    | stateChanged reported =>
      simp only [tells?, arrives, Option.some.injEq, Prod.mk.injEq] at tells
      rw [← tells.1, ← tells.2]
      rfl
    | failed errorType errorCode =>
      simp only [tells?, arrives, Option.some.injEq, Prod.mk.injEq] at tells
      rw [← tells.1, ← tells.2]
      exact taskMap_onFailed id network
    | completed | fileCompleted => simp [tells?, arrives] at tells

theorem taskMap_proceed_told {network : NetConnType}
    (tells : manager.tells? (.proceed network) = some (told, state)) :
    (manager.next (.proceed network)).taskMap =
      update manager.taskMap told ((manager.taskMap told).map (setState state)) := by
  rw [next, proceed.eq_def]
  simp only [tells?] at tells
  split at tells
  · rename_i id held
    obtain ⟨ret, answered, same⟩ := Option.map_eq_some_iff.mp tells
    rw [Prod.mk.injEq] at same
    simp only [held, answered]
    rw [← same.1, ← same.2]
    rfl
  · rename_i id rest held
    obtain ⟨ret, answered, same⟩ := Option.map_eq_some_iff.mp tells
    rw [Prod.mk.injEq] at same
    simp only [held, answered]
    rw [← same.1, ← same.2]
    rfl
  · cases tells

theorem taskMap_told (tells : manager.tells? event = some (told, state)) :
    (manager.next event).taskMap =
      update manager.taskMap told ((manager.taskMap told).map (setState state)) := by
  cases event with
  | deliver id network sniff results => exact taskMap_deliver_told tells
  | proceed network => exact taskMap_proceed_told tells
  | pauseGoesOn call late =>
    simp only [tells?] at tells
    split at tells
    · rename_i ends
      obtain ⟨pending, paused, free⟩ := ends
      rw [Option.some.injEq, Prod.mk.injEq] at tells
      rw [next, if_neg (not_not.mpr pending), pauseGoesOn]
      simp only [paused]
      rw [if_neg (by simp [free]), ← tells.1, ← tells.2]
      rfl
    · cases tells
  | _ => cases tells

theorem adds_two_live (made : manager.Made) (beside : manager.AddsBesidePaused event) :
    ¬ OneLive (manager.next event).taskMap := by
  intro one
  obtain ⟨url, filePath, adds, new, id, info, found, same, paused⟩ := beside
  have old : id ≠ manager.nextId := Nat.ne_of_lt (made_below made found)
  subst adds
  rw [taskMap_added filePath new] at one
  apply old
  apply one id manager.nextId info (addedInfo url filePath)
  · rw [update_of_ne old]
    exact found
  · rw [update_self]
  · exact same
  · rw [paused]
    rfl
  · rfl

theorem revives_two_live (beside : manager.RevivesBesideLive event) :
    ¬ OneLive (manager.next event).taskMap := by
  intro one
  obtain ⟨id, info, revives, recorded, was, rival, other, found, same, live⟩ := beside
  obtain ⟨state, tells, becomes⟩ := tells_of_revives revives
  have different : rival ≠ id := by
    intro equal
    rw [equal, recorded, Option.some.injEq] at found
    rw [← found, was] at live
    cases live
  rw [taskMap_told tells] at one
  apply different
  apply one rival id other (setState state info)
  · rw [update_of_ne different]
    exact found
  · rw [update_self, recorded, Option.map_some]
  · exact same
  · exact live
  · exact becomes

/-- The steps that keep one live task a URL are exactly those that `KeepsOneLive` names. -/
theorem oneLive_next_iff (made : manager.Made) (one : OneLive manager.taskMap) :
    OneLive (manager.next event).taskMap ↔ manager.KeepsOneLive event := by
  constructor
  · intro kept
    exact ⟨fun beside => adds_two_live made beside kept, fun beside => revives_two_live beside kept⟩
  · intro keeps
    exact oneLive_next made one keeps

/-- There is always one live task a URL exactly in the runs in which no task is added beside a
paused one of its URL, and none that was over is revived beside a live one. -/
theorem one_live_per_url (events : List ManagerEvent) :
    (∀ count, OneLive (run next {} (events.take count)).taskMap) ↔
      Along next KeepsOneLive {} events := by
  have initially : Made {} ∧ OneLive (taskMap {}) :=
    ⟨fun _ _ => rfl, fun _ _ _ _ found => by cases found⟩
  rw [← always_iff_along (fun manager => manager.Made ∧ OneLive manager.taskMap)
    (fun manager event both => by
      rw [and_iff_right (made_next event both.1)]
      exact oneLive_next_iff both.1 both.2) initially]
  constructor
  · intro always count
    exact ⟨made_run _, always count⟩
  · intro always count
    exact (always count).2

/-- A queued task is paused, and its URL is added again. -/
def addedAgain : List ManagerEvent :=
  [.addDownloadTask taskUrl ['/', 'f'], .pauseDownloadTask 0,
    .addDownloadTask taskUrl ['/', 'f'], .resumeDownloadTask 0]

theorem two_live : ¬ OneLive (run next {} addedAgain).taskMap := by
  intro one
  have same := one 0 1 (setState .queued (addedInfo taskUrl ['/', 'f']))
    (addedInfo taskUrl ['/', 'f']) (by decide +kernel) (by decide +kernel) rfl rfl rfl
  cases same

end PlayerFramework.Downloader.AVDownloaderManager
