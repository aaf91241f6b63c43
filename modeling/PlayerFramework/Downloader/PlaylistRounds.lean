import Mathlib.Data.Finset.Card
import PlayerFramework.Downloader.LiveTasks

/-!
The rounds in which `OnCompleted` parses the playlists that were downloaded and adds the files
that they name, and the URLs of the files of a task.
-/

namespace PlayerFramework.Downloader.AVDownloaderManager

open Transition

/-- The URLs of the file list, in its order. -/
def urls (info : AVDownloadTaskInfo) : List (List Char) := info.fileList.map (·.url)

/-- The responses of the parser to the files that it is given. -/
def responses (sniff : Sniff) (results : ParseResults) (info : AVDownloadTaskInfo) : ParseResults :=
  results.take ((sniffProtocol sniff info).fileList.countP (·.needParse))

def named (results : ParseResults) : List (List Char × List Char × Bool) :=
  (results.filterMap id).flatten

def offered (results : ParseResults) : List (List Char) := (named results).map (·.1)

def UrlsOnce (taskMap : Nat → Option AVDownloadTaskInfo) : Prop :=
  ∀ id info, taskMap id = some info → (urls info).Nodup

/-- When a task completes, the parser names no URL twice, and none that the task has. -/
def OffersNewUrls (manager : AVDownloaderManager) (event : ManagerEvent) : Prop :=
  ∀ id network sniff results info, event = .deliver id network sniff results →
    manager.arriving id = some .completed → manager.taskMap id = some info →
      manager.downloaderMap id = true → (offered (responses sniff results info)).Nodup ∧
          ∀ url ∈ offered (responses sniff results info), url ∉ urls info

/-- In this step `OnCompleted` parses a playlist of the task. -/
def parses (id : Nat) (manager : AVDownloaderManager) (event : ManagerEvent) : Bool :=
  match event with
  | .deliver other _ sniff results =>
    other == id && manager.arriving id == some .completed && manager.downloaderMap id &&
      (manager.taskMap id).any fun info => (responses sniff results info).any (·.isSome)
  | _ => false

def rounds (id : Nat) : AVDownloaderManager → List ManagerEvent → Nat
  | _, [] => 0
  | manager, event :: rest =>
    (if manager.parses id event then 1 else 0) + rounds id (manager.next event) rest

/-- The files of a task that was sniffed which are not, or no longer, to be parsed. -/
def settled (info : AVDownloadTaskInfo) : Nat :=
  if info.protocolSniffed then info.fileList.countP fun file => !file.needParse else 0

/-- Before a task is sniffed it has nothing to parse. -/
def SniffsFirst (taskMap : Nat → Option AVDownloadTaskInfo) : Prop :=
  ∀ id info, taskMap id = some info → info.protocolSniffed = false →
    ∀ file ∈ info.fileList, file.needParse = false

variable {manager : AVDownloaderManager} {event : ManagerEvent} {sniff : Sniff}
  {results : ParseResults} {info : AVDownloadTaskInfo} {id : Nat}

section Parsing

def fileOf (resource : List Char × List Char × Bool) : DownloadFileInfo :=
  { url := resource.1, filePath := resource.2.1, needParse := resource.2.2 }

theorem parseFiles_added (results : ParseResults) (files : List DownloadFileInfo) :
    (parseFiles results files).2 =
      (named (results.take (files.countP (·.needParse)))).map fileOf := by
  induction files generalizing results with
  | nil => simp [parseFiles, named]
  | cons file files ih =>
    cases parse : file.needParse with
    | false => simpa [parseFiles, parse] using ih results
    | true =>
      cases results with
      | nil => simpa [parseFiles, parse] using ih []
      | cons result results =>
        have rest := ih results
        cases result with
        | none => simpa [parseFiles, parse, named] using rest
        | some resources =>
          simp [parseFiles, parse, rest, named, fileOf]

theorem parseFiles_kept {α : Type} {read : DownloadFileInfo → α}
    (same : ∀ file need, read { file with needParse := need } = read file)
    (results : ParseResults) (files : List DownloadFileInfo) :
    (parseFiles results files).1.map read = files.map read := by
  induction files generalizing results with
  | nil => rfl
  | cons file files ih =>
    cases parse : file.needParse with
    | false => simpa [parseFiles, parse] using ih results
    | true =>
      cases results with
      | nil => simpa [parseFiles, parse] using ih []
      | cons result results =>
        have rest := ih results
        cases result with
        | none => simpa [parseFiles, parse] using rest
        | some resources => simpa [parseFiles, parse, same] using rest

theorem parseFiles_settled (results : ParseResults) (files : List DownloadFileInfo) :
    (parseFiles results files).1.countP (fun file => !file.needParse) =
      files.countP (fun file => !file.needParse) +
        (results.take (files.countP (·.needParse))).countP (·.isSome) := by
  induction files generalizing results with
  | nil => simp [parseFiles]
  | cons file files ih =>
    cases parse : file.needParse with
    | false =>
      have rest := ih results
      simp only [parseFiles, parse, Bool.false_eq_true, not_false_eq_true, if_true]
      rw [List.countP_cons_of_pos (by simp [parse]), List.countP_cons_of_pos (by simp [parse]),
        List.countP_cons_of_neg (by simp [parse]), rest]
      omega
    | true =>
      rw [List.countP_cons_of_neg (by simp [parse]), List.countP_cons_of_pos (by simp [parse])]
      cases results with
      | nil => simpa [parseFiles, parse] using ih []
      | cons result results =>
        have rest := ih results
        cases result with
        | none => simpa [parseFiles, parse] using rest
        | some resources =>
          simp only [parseFiles, parse, not_true_eq_false, if_false, List.take_succ_cons,
            List.countP_cons, Option.isSome_some, Bool.not_false, if_true, rest]
          omega

theorem sniffProtocol_kept {α : Type} {read : DownloadFileInfo → α}
    (same : ∀ file need, read { file with needParse := need } = read file) (sniff : Sniff)
    (info : AVDownloadTaskInfo) :
    (sniffProtocol sniff info).fileList.map read = info.fileList.map read := by
  unfold sniffProtocol
  split
  · rename_i first rest playlist unsniffed list
    cases playlist <;> simp [list, same]
  · rfl

theorem sniffProtocol_sniffed (sniffed : info.protocolSniffed = true) :
    sniffProtocol sniff info = info := by
  unfold sniffProtocol
  split
  · rename_i unsniffed list
    rw [sniffed] at unsniffed
    cases unsniffed
  · rfl

theorem sniffProtocol_unsniffed (unsniffed : (sniffProtocol sniff info).protocolSniffed = false) :
    sniffProtocol sniff info = info := by
  unfold sniffProtocol at unsniffed ⊢
  split
  · rename_i first rest playlist was list
    simp [was, list] at unsniffed
  · rfl

end Parsing

section Completed

/-- The files of a task that completes, before any is parsed. -/
def downloadedFiles (sniff : Sniff) (info : AVDownloadTaskInfo) : List DownloadFileInfo :=
  (sniffProtocol sniff info).fileList.map fun file => { file with downloaded := true }

theorem downloadedFiles_countP (sniff : Sniff) (info : AVDownloadTaskInfo)
    (counted : Bool → Bool) :
    (downloadedFiles sniff info).countP (fun file => counted file.needParse) =
      (sniffProtocol sniff info).fileList.countP (fun file => counted file.needParse) := by
  rw [downloadedFiles, List.countP_map]
  rfl

theorem responses_nil (none : ¬ (downloadedFiles sniff info).any (·.needParse) = true) :
    responses sniff results info = [] := by
  have unneeded : (sniffProtocol sniff info).fileList.countP (·.needParse) = 0 := by
    rw [← downloadedFiles_countP sniff info fun need => need, List.countP_eq_zero]
    intro file member need
    exact none (List.any_eq_true.mpr ⟨file, member, need⟩)
  rw [responses, unneeded, List.take_zero]

theorem completedInfo_fileList (id : Nat) (sniff : Sniff) (results : ParseResults)
    (info : AVDownloadTaskInfo) :
    (manager.completedInfo id sniff results info).fileList =
      if manager.downloaderMap id ∧ (downloadedFiles sniff info).any (·.needParse) then
        (parseFiles results (downloadedFiles sniff info)).1 ++
          (parseFiles results (downloadedFiles sniff info)).2
      else downloadedFiles sniff info := by
  rw [downloadedFiles]
  unfold completedInfo
  by_cases known : manager.downloaderMap id = true
  · rw [if_neg (not_not.mpr known)]
    split
    · rename_i none
      rw [if_neg fun both => none both.2]
      rfl
    · rename_i some
      rw [if_pos ⟨known, not_not.mp some⟩]
  · rw [if_pos known, if_neg fun both => known both.1]

theorem completedInfo_added {α : Type} {read : DownloadFileInfo → α}
    (parsed : ∀ file need, read { file with needParse := need } = read file)
    (downloaded : ∀ file done, read { file with downloaded := done } = read file)
    (id : Nat) (sniff : Sniff) (results : ParseResults) (info : AVDownloadTaskInfo) :
    (manager.completedInfo id sniff results info).fileList.map read =
      info.fileList.map read ++ if manager.downloaderMap id then
        (named (responses sniff results info)).map (fun resource => read (fileOf resource))
      else [] := by
  have files : (downloadedFiles sniff info).map read = info.fileList.map read := by
    rw [downloadedFiles, List.map_map, ← sniffProtocol_kept parsed sniff info]
    exact List.map_congr_left fun file _ => downloaded file true
  rw [completedInfo_fileList]
  by_cases known : manager.downloaderMap id = true
  · simp only [known, if_true, true_and]
    split
    · rw [List.map_append, parseFiles_kept parsed, files, parseFiles_added, List.map_map,
        downloadedFiles_countP sniff info fun need => need]
      rfl
    · rename_i none
      rw [responses_nil none, files]
      simp [named]
  · rw [if_neg known, if_neg fun both => known both.1, List.append_nil]
    exact files

theorem completedInfo_urls (id : Nat) (sniff : Sniff) (results : ParseResults)
    (info : AVDownloadTaskInfo) :
    urls (manager.completedInfo id sniff results info) = urls info ++
      if manager.downloaderMap id then offered (responses sniff results info) else [] :=
  completedInfo_added (fun _ _ => rfl) (fun _ _ => rfl) id sniff results info

theorem completedInfo_sniffed (id : Nat) (sniff : Sniff) (results : ParseResults)
    (info : AVDownloadTaskInfo) :
    (manager.completedInfo id sniff results info).protocolSniffed =
      (sniffProtocol sniff info).protocolSniffed := by
  unfold completedInfo
  simp only
  split
  · rfl
  · split <;> rfl

theorem completedInfo_countP (id : Nat) (sniff : Sniff) (results : ParseResults)
    (info : AVDownloadTaskInfo) :
    (sniffProtocol sniff info).fileList.countP (fun file => !file.needParse) +
        (if manager.downloaderMap id && (responses sniff results info).any (·.isSome)
          then 1 else 0) ≤
      (manager.completedInfo id sniff results info).fileList.countP
        (fun file => !file.needParse) := by
  have files := downloadedFiles_countP sniff info fun need => !need
  rw [completedInfo_fileList, ← files]
  by_cases known : manager.downloaderMap id = true
  · simp only [known, true_and, Bool.true_and]
    by_cases needed : (downloadedFiles sniff info).any (·.needParse) = true
    · have parsed := parseFiles_settled results (downloadedFiles sniff info)
      rw [downloadedFiles_countP sniff info fun need => need] at parsed
      rw [if_pos needed, List.countP_append]
      have one : (if (responses sniff results info).any (·.isSome) then 1 else 0) ≤
          (responses sniff results info).countP (·.isSome) := by
        by_cases some : (responses sniff results info).any (·.isSome) = true
        · rw [if_pos some]
          exact List.countP_pos_iff.mpr (List.any_eq_true.mp some)
        · rw [if_neg some]
          exact Nat.zero_le _
      unfold responses at one ⊢
      omega
    · rw [if_neg needed, responses_nil needed]
      exact Nat.le_refl _
  · simp [known]

end Completed

section Urls

theorem taskMap_completed (network : NetConnType)
    (arrives : manager.arriving id = some .completed) :
    (manager.next (.deliver id network sniff results)).taskMap = Function.update manager.taskMap id
        ((manager.taskMap id).map (manager.completedInfo id sniff results)) := by
  rw [next_deliver network sniff results arrives, report, taskMap_onCompleted]
  rfl

theorem completedInfo_nodup (once : (urls info).Nodup) (known : manager.downloaderMap id = true) :
    (urls (manager.completedInfo id sniff results info)).Nodup ↔
      (offered (responses sniff results info)).Nodup ∧
        ∀ url ∈ offered (responses sniff results info), url ∉ urls info := by
  rw [completedInfo_urls, if_pos known, List.nodup_append', and_iff_right once]
  apply and_congr_right
  intro _
  constructor
  · intro disjoint url named listed
    exact disjoint listed named
  · intro new url listed named
    exact new url named listed

theorem urlsOnce_next (once : UrlsOnce manager.taskMap) (offers : manager.OffersNewUrls event) :
    UrlsOnce (manager.next event).taskMap := by
  apply each_next once
  · intro url filePath _
    exact List.nodup_singleton url
  · intro state info kept
    exact kept
  intro id network sniff results info delivers arrives found
  by_cases known : manager.downloaderMap id = true
  · rw [completedInfo_nodup (once id info found) known]
    exact offers id network sniff results info delivers arrives found known
  · rw [completedInfo_urls, if_neg known, List.append_nil]
    exact once id info found

/-- The steps that keep every URL once are exactly those in which the parser names new ones. -/
theorem urlsOnce_next_iff (once : UrlsOnce manager.taskMap) :
    UrlsOnce (manager.next event).taskMap ↔ manager.OffersNewUrls event := by
  constructor
  · intro kept id network sniff results info delivers arrives found known
    subst delivers
    rw [taskMap_completed network arrives, found] at kept
    rw [← completedInfo_nodup (once id info found) known]
    exact kept id _ (Function.update_self _ _ _)
  · intro offers
    exact urlsOnce_next once offers

end Urls

section Rounds

theorem settled_sniffed (sniffed : info.protocolSniffed = true) :
    settled info = info.fileList.countP fun file => !file.needParse := if_pos sniffed

theorem settled_le (info : AVDownloadTaskInfo) : settled info ≤ info.fileList.length := by
  unfold settled
  split
  · exact List.countP_le_length
  · exact Nat.zero_le _

theorem completedInfo_settled (first : info.protocolSniffed = false →
      ∀ file ∈ info.fileList, file.needParse = false) :
    settled info + (if manager.downloaderMap id && (responses sniff results info).any (·.isSome)
          then 1 else 0) ≤
      settled (manager.completedInfo id sniff results info) := by
  have parsed := @completedInfo_countP manager id sniff results info
  have sniffed := @completedInfo_sniffed manager id sniff results info
  cases was : info.protocolSniffed with
  | true =>
    rw [sniffProtocol_sniffed was] at parsed sniffed
    rw [settled_sniffed was, settled_sniffed (sniffed.trans was)]
    exact parsed
  | false =>
    have none : settled info = 0 := by
      rw [settled, was]
      rfl
    rw [none]
    cases now : (sniffProtocol sniff info).protocolSniffed with
    | true =>
      rw [settled_sniffed (sniffed.trans now)]
      omega
    | false =>
      have unparsed : responses sniff results info = [] := by
        rw [responses, sniffProtocol_unsniffed now,
          List.countP_eq_zero.mpr fun file member => by simp [first was file member],
          List.take_zero]
      rw [unparsed]
      simp

theorem completedInfo_first (first : info.protocolSniffed = false →
      ∀ file ∈ info.fileList, file.needParse = false)
    (unsniffed : (manager.completedInfo id sniff results info).protocolSniffed = false) :
    ∀ file ∈ (manager.completedInfo id sniff results info).fileList, file.needParse = false := by
  rw [completedInfo_sniffed] at unsniffed
  have same := sniffProtocol_unsniffed unsniffed
  rw [same] at unsniffed
  have none : ∀ file ∈ downloadedFiles sniff info, file.needParse = false := by
    intro file member
    rw [downloadedFiles, same] at member
    obtain ⟨old, listed, now⟩ := List.mem_map.mp member
    rw [← now]
    exact first unsniffed old listed
  rw [completedInfo_fileList, if_neg]
  · exact none
  · intro both
    obtain ⟨file, member, need⟩ := List.any_eq_true.mp both.2
    rw [none file member] at need
    cases need

theorem sniffsFirst_next (event : ManagerEvent) (firsts : SniffsFirst manager.taskMap) :
    SniffsFirst (manager.next event).taskMap := by
  apply each_next firsts
  · intro url filePath _ unsniffed file member
    rw [List.mem_singleton.mp member]
  · intro state info kept
    exact kept
  · intro id network sniff results info delivers arrives found
    exact completedInfo_first (firsts id info found)

theorem parses_iff : manager.parses id event = true ↔ ∃ network sniff results info,
    event = .deliver id network sniff results ∧ manager.arriving id = some .completed ∧
      manager.downloaderMap id = true ∧ manager.taskMap id = some info ∧
        (responses sniff results info).any (·.isSome) = true := by
  constructor
  · intro parsed
    cases event with
    | deliver other network sniff results =>
      simp only [parses, Bool.and_eq_true, beq_iff_eq] at parsed
      obtain ⟨⟨⟨rfl, arrives⟩, known⟩, some⟩ := parsed
      obtain ⟨info, found, some⟩ := (Option.any_eq_true _ _).mp some
      exact ⟨network, sniff, results, info, rfl, arrives, known, found, some⟩
    | _ => cases parsed
  · rintro ⟨network, sniff, results, info, rfl, arrives, known, found, some⟩
    simp [parses, arrives, known, found, some]

theorem settled_next (made : manager.Made) (firsts : SniffsFirst manager.taskMap)
    {now : AVDownloadTaskInfo} (found : manager.taskMap id = some info)
    (kept : (manager.next event).taskMap id = some now) :
    (if manager.parses id event then 1 else 0) + settled info ≤ settled now := by
  by_cases parsed : manager.parses id event = true
  · obtain ⟨network, sniff, results, same, delivers, arrives, known, listed, some⟩ :=
      parses_iff.mp parsed
    rw [found, Option.some.injEq] at listed
    subst listed delivers
    have grown := @completedInfo_settled manager sniff results info id (firsts id info found)
    rw [known, some] at grown
    rw [taskMap_completed network arrives, Function.update_self, found, Option.map_some,
      Option.some.injEq] at kept
    rw [parsed, ← kept, Nat.add_comm]
    exact grown
  · rw [if_neg parsed, Nat.zero_add]
    rcases record_next made found kept with rfl | ⟨state, rfl⟩ |
      ⟨network, sniff, results, delivers, arrives, rfl⟩
    · exact Nat.le_refl _
    · exact Nat.le_refl _
    · have grown := @completedInfo_settled manager sniff results info id (firsts id info found)
      omega

def settledOf (id : Nat) (manager : AVDownloaderManager) : Nat :=
  (manager.taskMap id).elim 0 settled

theorem rounds_settled {now : AVDownloadTaskInfo} (events : List ManagerEvent)
    (made : manager.Made) (firsts : SniffsFirst manager.taskMap)
    (found : (run next manager events).taskMap id = some now) :
    rounds id manager events + manager.settledOf id ≤ settled now := by
  induction events generalizing manager with
  | nil =>
    rw [run_nil] at found
    simp [rounds, settledOf, found]
  | cons event rest ih =>
    have later := ih (made_next event made) (sniffsFirst_next event firsts) found
    rw [rounds, settledOf]
    cases was : manager.taskMap id with
    | none =>
      have unparsed : ¬ manager.parses id event = true := by
        intro parsed
        obtain ⟨_, _, _, info, _, _, _, listed, _⟩ := parses_iff.mp parsed
        rw [was] at listed
        cases listed
      rw [if_neg unparsed, Option.elim_none]
      omega
    | some info =>
      cases is : (manager.next event).taskMap id with
      | none =>
        have old := Nat.lt_of_lt_of_le (made_below made was) (nextId_next event)
        rw [run_cons, gone_run rest old is] at found
        cases found
      | some mid =>
        have grown := settled_next made firsts was is
        rw [settledOf, is, Option.elim_some] at later
        rw [Option.elim_some]
        omega

end Rounds

/-- Every URL stands once in the file list of its task, and the rounds of the task are not more
than its URLs, exactly in the runs in which the parser names only new URLs. -/
theorem playlist_rounds (events : List ManagerEvent) :
    (∀ count, UrlsOnce (run next {} (events.take count)).taskMap ∧
      ∀ id info, (run next {} (events.take count)).taskMap id = some info →
        rounds id {} (events.take count) ≤ (urls info).toFinset.card) ↔
      Along next OffersNewUrls {} events := by
  have initially : UrlsOnce (taskMap {}) := fun _ _ found => by cases found
  rw [← always_iff_along (fun manager => UrlsOnce manager.taskMap)
    (fun manager event once => urlsOnce_next_iff once) initially]
  constructor
  · intro both count
    exact (both count).1
  intro once count
  refine ⟨once count, ?_⟩
  intro id info found
  have settles := rounds_settled (events.take count) (fun _ _ => rfl)
    (fun _ _ unrecorded => by cases unrecorded) found
  rw [List.toFinset_card_of_nodup (once count id info found), urls, List.length_map]
  exact Nat.le_trans (Nat.le_of_add_right_le settles) (settled_le info)

/-- The playlist of a task is downloaded, and names itself. -/
def selfReferenceRound (task : Nat) : List ManagerEvent :=
  List.replicate 7 (ManagerEvent.downloader 0 (.work task (.download [] 0 true))) ++
    List.replicate 5 (ManagerEvent.downloader 0 (.handle .wifi)) ++
    List.replicate 3
      (ManagerEvent.deliver 0 .wifi (some true) [some [(taskUrl, ['/', 'f'], true)]]) ++
    [ManagerEvent.proceed .wifi] ++ innerSteps 0 4 ++ [ManagerEvent.proceed .wifi]

/-- After two rounds the one URL stands in the list three times. -/
theorem self_reference_repeats :
    ∃ info ∈ (run next {} (startedTask ++ selfReferenceRound 0 ++ selfReferenceRound 1)).taskMap 0,
      ¬ (urls info).Nodup ∧ (urls info).toFinset.card <
        rounds 0 {} (startedTask ++ selfReferenceRound 0 ++ selfReferenceRound 1) := by
  decide +kernel

end PlayerFramework.Downloader.AVDownloaderManager
