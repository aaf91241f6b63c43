import PlayerFramework.Downloader.FileOrder

/-!
When a `DownloaderImpl` is completed, and when it says so.
-/

namespace PlayerFramework.Downloader.DownloaderImpl

open Transition

variable {downloader : DownloaderImpl}

variable {after : DownloaderImpl} {stage : SchedulingStage}

theorem orderly_client (orderly : Orderly downloader)
    (before : downloader.clientScheduling ≠ some .creating)
    (now : after.clientScheduling ≠ some .creating) (task : after.task = downloader.task)
    (taskCount : after.taskCount = downloader.taskCount)
    (schedulerQueue : after.schedulerQueue = downloader.schedulerQueue)
    (handler : after.handler = downloader.handler)
    (taskQueue : after.taskQueue = downloader.taskQueue)
    (unannounced : after.unannounced = downloader.unannounced)
    (clientFits : ∀ stage, after.clientScheduling = some stage → stage.Fits downloader.taskCount)
    (resumption : ∀ caller stage, after.client = some (caller, stage) →
      stage ≠ .resumeChecking false ∧ stage ≠ .resumeNotifying) : Orderly after := by
  have charges : after.charge = downloader.charge := by
    simp [charge, task, schedulerQueue, handler, if_neg before, if_neg now]
  constructor
  · rw [charges]
    exact orderly.single
  · rw [charges, unannounced, taskQueue]
    exact orderly.owing
  · rw [schedulerQueue, unannounced]
    exact orderly.message
  · rw [handler, unannounced]
    exact orderly.concluding
  · rw [handler, taskQueue]
    exact orderly.empty
  · rw [handler, taskCount]
    exact orderly.handlerFits
  · rw [taskCount]
    exact clientFits
  · exact resumption

theorem orderly_away (orderly : Orderly downloader)
    (before : downloader.clientScheduling ≠ some .creating) (away : after.clientScheduling = none)
    (task : after.task = downloader.task) (taskCount : after.taskCount = downloader.taskCount)
    (schedulerQueue : after.schedulerQueue = downloader.schedulerQueue)
    (handler : after.handler = downloader.handler)
    (taskQueue : after.taskQueue = downloader.taskQueue)
    (unannounced : after.unannounced = downloader.unannounced)
    (resumption : ∀ caller stage, after.client = some (caller, stage) →
      stage ≠ .resumeChecking false ∧ stage ≠ .resumeNotifying) : Orderly after := by
  apply orderly_client orderly before _ task taskCount schedulerQueue handler taskQueue
    unannounced _ resumption
  · rw [away]
    exact Option.some_ne_none _ |>.symm
  · intro stage scheduling
    rw [away] at scheduling
    cases scheduling

/-- What the thread that schedules stands at after its step. -/
def SchedulingResult.stage? : SchedulingResult → Option SchedulingStage
  | .goes stage => some stage
  | .returns _ _ => none

theorem keeps_client {network : NetConnType} {stepped : DownloaderImpl}
    {outcome : SchedulingResult} {client : Option (Nat × ClientStage)}
    {returned : List (Nat × Int)} (fits : TasksFit downloader) (orderly : Orderly downloader)
    (scheduling : downloader.clientScheduling = some stage)
    (settled : stage = .processing → downloader.takesFile network → downloader.Settled)
    (scheduled : Scheduled network downloader stage stepped outcome)
    (stands : (client.bind fun call => call.2.scheduling?) = SchedulingResult.stage? outcome)
    (resumption : ∀ caller stage, client = some (caller, stage) →
      stage ≠ .resumeChecking false ∧ stage ≠ .resumeNotifying) :
    Keeps downloader { stepped with client := client, returned := returned } := by
  have stageFits := orderly.clientFits stage scheduling
  have now : ∀ next, (client.bind fun call => call.2.scheduling?) = some next →
      SchedulingResult.stage? outcome = some next := fun _ => stands.symm.trans
  cases scheduled with
  | waits =>
    refine keeps_quiet (fits.congr rfl rfl rfl) (orderly_client orderly (by simp [scheduling]) ?_
      rfl rfl rfl rfl rfl rfl ?_ resumption) (.inl rfl) rfl
    · intro makes
      cases now _ makes
    · intro next running
      cases now _ running
      trivial
  | empty | refused =>
    exact keeps_quiet (fits.congr rfl rfl rfl) (orderly_away orderly (by simp [scheduling]) stands
      rfl rfl rfl rfl rfl rfl resumption) (.inl rfl) rfl
  | started =>
    exact keeps_quiet (fits.congr rfl rfl rfl) (orderly_away orderly (by simp [scheduling]) stands
      rfl rfl rfl rfl rfl rfl resumption) (.inr (by simp)) rfl
  | @takes _ rest takes _ =>
    obtain ⟨task, messages, handler⟩ := settled rfl takes
    refine keeps_quiet (fits.congr rfl rfl rfl) ?_ (.inr (by simp)) rfl
    constructor
    · simp [charge, clientScheduling, stands, SchedulingResult.stage?, task, messages, handler]
    · intro _
      exact .inl (charge_pos_client stands)
    · intro member
      simp [messages] at member
    · intro stage running
      simp [handler] at running
    · intro running
      simp [handler] at running
    · intro stage running
      simp [handler] at running
    · intro next running
      cases now _ running
      trivial
    · exact resumption
  | creates =>
    obtain ⟨task, messages, deciding⟩ := alone_client orderly scheduling
    refine keeps_quiet ((tasksFit_created fits task).congr rfl rfl rfl) ?_ (.inl rfl) rfl
    constructor
    · simp [created, charge, messages, deciding, clientScheduling, stands, SchedulingResult.stage?]
    · intro _
      exact .inl (charge_pos_task rfl)
    · intro member
      simp [created, messages] at member
    · exact orderly.concluding
    · exact orderly.empty
    · intro stage running
      exact fits_mono (Nat.le_succ _) (orderly.handlerFits stage running)
    · intro next running
      cases now _ running
      exact Nat.lt_succ_self _
    · exact resumption
  | replaces current _ =>
    obtain ⟨task, -, -⟩ := alone_client orderly scheduling
    rw [task] at current
    cases current
  | destroyed | destroys => exact stageFits.elim
  | @starts task =>
    have started := tasksFit_onTask task .start fits (fun _ => stageFits)
    refine keeps_quiet (started.congr rfl rfl rfl) (orderly_client orderly (by simp [scheduling])
      ?_ rfl rfl rfl rfl rfl rfl ?_ resumption) (.inl rfl) rfl
    · intro makes
      cases now _ makes
    · intro next running
      cases now _ running
      trivial

theorem keeps_finish (caller : Nat) (ret : Int) (kept : Keeps downloader after)
    (before : after.clientScheduling ≠ some .creating)
    (same : after.completions = downloader.completions)
    (state : after.state = downloader.state ∨ after.state ≠ .completed) :
    Keeps downloader (after.finish caller ret) := by
  exact keeps_quiet (kept.fits.congr rfl rfl rfl)
    (orderly_away kept.orderly before rfl rfl rfl rfl rfl rfl rfl nofun) state same

theorem keeps_letGo (caller task : Nat) (ret : Int) (kept : Keeps downloader after)
    (before : after.clientScheduling ≠ some .creating)
    (same : after.completions = downloader.completions)
    (state : after.state = downloader.state ∨ after.state ≠ .completed) :
    Keeps downloader (after.letGo caller task ret) := by
  unfold letGo
  split
  · exact keeps_finish caller ret kept before same state
  have canceled := tasksFit_onTask task .cancel kept.fits (by simp)
  refine keeps_quiet (canceled.congr rfl rfl rfl)
    (orderly_away kept.orderly before rfl rfl rfl rfl rfl rfl rfl ?_) state same
  rintro caller stage ⟨⟩
  simp

theorem keeps_state (fits : TasksFit downloader) (orderly : Orderly downloader)
    (other : after.state ≠ .completed) (tasks : after.tasks = downloader.tasks)
    (taskCount : after.taskCount = downloader.taskCount) (task : after.task = downloader.task)
    (schedulerQueue : after.schedulerQueue = downloader.schedulerQueue)
    (handler : after.handler = downloader.handler) (client : after.client = downloader.client)
    (taskQueue : after.taskQueue = downloader.taskQueue)
    (unannounced : after.unannounced = downloader.unannounced)
    (completions : after.completions = downloader.completions) : Keeps downloader after :=
  keeps_quiet (fits.congr tasks taskCount task)
    (orderly.congr task taskCount schedulerQueue handler client taskQueue unannounced)
    (.inr other) completions

theorem keeps_await (call : Nat × ClientStage) (task : Nat) (event : TaskEvent)
    (fits : TasksFit downloader) (orderly : Orderly downloader)
    (before : downloader.clientScheduling ≠ some .creating)
    (others : event ≠ .start) (away : call.2.scheduling? = none)
    (resumption : call.2 ≠ .resumeChecking false ∧ call.2 ≠ .resumeNotifying) :
    Keeps downloader { downloader.onTask task event with client := some call } := by
  have told := tasksFit_onTask task event fits (absurd · others)
  refine keeps_quiet (told.congr rfl rfl rfl)
    (orderly_away orderly before ?_ rfl rfl rfl rfl rfl rfl ?_) (.inl rfl) rfl
  · simpa [clientScheduling] using away
  · rintro caller stage ⟨⟩
    exact resumption

theorem keeps_called {caller : Nat} (called : Called downloader caller after)
    (fits : TasksFit downloader) (orderly : Orderly downloader)
    (free : downloader.client = none) : Keeps downloader after := by
  have before : downloader.clientScheduling ≠ some .creating := by
    simp [clientScheduling, free]
  cases called with
  | refused => exact keeps_finish caller _ (Keeps.refl fits orderly) before rfl (.inl rfl)
  | stores stored =>
    refine keeps_finish caller _ (keeps_state fits orderly ?_ rfl rfl rfl rfl rfl rfl rfl rfl rfl)
      before rfl (.inr ?_)
    · rcases stored with rfl | rfl <;> simp [notify]
    · rcases stored with rfl | rfl <;> simp [notify]
  | schedules stage =>
    refine keeps_quiet (fits.congr rfl rfl rfl)
      (orderly_client orderly before ?_ rfl rfl rfl rfl rfl rfl ?_ ?_) (.inl rfl) rfl
    · rcases stage with rfl | rfl <;> simp [clientScheduling, ClientStage.scheduling?]
    · rcases stage with rfl | rfl
      · rintro stage ⟨⟩
        trivial
      · rintro stage ⟨⟩
        trivial
    · rintro caller called ⟨⟩
      rcases stage with rfl | rfl <;> simp
  | pauses | resumes => exact keeps_await _ _ _ fits orderly before (by simp) rfl (by simp)

theorem keeps_pauseEnds (caller task : Nat) (kept : Keeps downloader after)
    (before : after.clientScheduling ≠ some .creating)
    (same : after.completions = downloader.completions) :
    Keeps downloader (after.pauseEnds caller task) := by
  have stores : ∀ (state : DownloadState) message, state ≠ .completed →
      Keeps downloader (({ after with state := state }).notify message) := by
    intro state message other
    apply keeps_quiet
    · exact kept.fits.congr rfl rfl rfl
    · exact kept.orderly.congr rfl rfl rfl rfl rfl rfl rfl
    · exact .inr other
    · exact same
  unfold pauseEnds
  split
  · exact keeps_letGo caller task _ (stores _ _ (by simp)) before same (.inr (by simp [notify]))
  · exact keeps_letGo caller task _ (stores _ _ (by simp)) before same (.inr (by simp [notify]))

theorem keeps_onTask (task : Nat) (event : TaskEvent) (fits : TasksFit downloader)
    (orderly : Orderly downloader) (others : event ≠ .start) :
    Keeps downloader (downloader.onTask task event) :=
  keeps_quiet (tasksFit_onTask task event fits (absurd · others))
    (orderly_onTask task event orderly) (.inl rfl) rfl

theorem keeps_proceed (network : NetConnType) (expired : Bool) (fits : TasksFit downloader)
    (orderly : Orderly downloader)
    (undisturbed : Undisturbed downloader (.proceed network expired)) :
    Keeps downloader (downloader.proceed network expired) := by
  have refl := Keeps.refl fits orderly
  have away : ∀ {caller : Nat} {stage : ClientStage}, downloader.client = some (caller, stage) →
      stage.scheduling? = none → downloader.clientScheduling ≠ some .creating := by
    intro caller stage client none
    simp [clientScheduling, client, none]
  have proceeded := @proceeded downloader network expired
  generalize downloader.proceed network expired = after at proceeded ⊢
  cases proceeded with
  | waits => exact refl
  | starting client scheduled =>
    simp only [Undisturbed, client] at undisturbed
    refine keeps_client fits orderly (stands_client client rfl) ?_ scheduled rfl ?_
    · rintro rfl
      exact undisturbed
    · rintro caller stage ⟨⟩
      simp
  | started client scheduled =>
    simp only [Undisturbed, client] at undisturbed
    refine keeps_client fits orderly (stands_client client rfl) ?_ scheduled rfl (by rintro _ _ ⟨⟩)
    rintro rfl
    exact undisturbed
  | scheduling client scheduled =>
    simp only [Undisturbed, client] at undisturbed
    refine keeps_client fits orderly (stands_client client rfl) ?_ scheduled rfl ?_
    · rintro rfl
      exact undisturbed.2
    · rintro caller stage ⟨⟩
      simp
  | fails client scheduled _ =>
    simp only [Undisturbed, client] at undisturbed
    refine keeps_client fits orderly (stands_client client rfl) ?_ scheduled rfl (by rintro _ _ ⟨⟩)
    rintro rfl
    exact undisturbed.2
  | begins client scheduled succeeded =>
    simp only [Undisturbed, client] at undisturbed
    have scheduling := stands_client client rfl
    cases scheduled with
    | empty free empty => exact absurd empty (undisturbed.1 free)
    | refused => exact absurd succeeded (by decide)
    | started =>
      have running := @Scheduled.started network downloader
      refine keeps_client fits orderly scheduling (by rintro ⟨⟩) running rfl ?_
      rintro caller stage ⟨⟩
      simp
  | @pauseEnds caller task event client ended =>
    have others : event ≠ .start := by
      rintro rfl
      rcases ended with ended | ⟨ended, -⟩ <;> cases ended
    exact keeps_pauseEnds caller task (keeps_onTask task event fits orderly others)
      (away client rfl) rfl
  | joins client _ =>
    exact keeps_await _ _ _ fits orderly (away client rfl) (by simp) rfl (by simp)
  | @resumes caller task client =>
    exact keeps_letGo caller task _
      (keeps_state fits orderly (by simp [notify]) rfl rfl rfl rfl rfl rfl rfl rfl rfl)
      (away client rfl) rfl (.inr (by simp [notify]))
  | @drained _ begun client gone =>
    cases begun with
    | false => exact absurd rfl (orderly.resumption _ _ client).1
    | true =>
      simp only [Undisturbed, client] at undisturbed
      exact absurd gone undisturbed
  | checked client _ | released client _ =>
    exact keeps_finish _ _ refl (away client rfl) rfl (.inl rfl)
  | notifies client => exact absurd rfl (orderly.resumption _ _ client).2

theorem keeps_addFileTask (url outputPath : List Char) (config : DownloadConfig)
    (fits : TasksFit downloader) (orderly : Orderly downloader)
    (undisturbed : Undisturbed downloader (.addFileTask url outputPath config)) :
    Keeps downloader (downloader.addFileTask url outputPath config).1 := by
  have refl := Keeps.refl fits orderly
  unfold addFileTask
  split
  · exact refl
  split
  · exact refl
  split
  · exact refl
  apply keeps_quiet
  · exact fits.congr rfl rfl rfl
  · constructor
    · exact orderly.single
    · intro _
      exact .inr (by simp)
    · exact orderly.message
    · exact orderly.concluding
    · rintro (handler | handler)
      · exact absurd handler undisturbed.1
      · exact absurd handler undisturbed.2
    · exact orderly.handlerFits
    · exact orderly.clientFits
    · exact orderly.resumption
  · exact .inl rfl
  · rfl

theorem keeps_next (event : DownloaderEvent) (fits : TasksFit downloader)
    (orderly : Orderly downloader) (undisturbed : Undisturbed downloader event) :
    Keeps downloader (downloader.next event) := by
  have refl := Keeps.refl fits orderly
  have free : ¬ downloader.client.isSome = true → downloader.client = none := by
    simp
  cases event with
  | addFileTask url outputPath config =>
    simp only [next]
    split
    · exact refl
    · exact keeps_addFileTask url outputPath config fits orderly undisturbed
  | start caller network =>
    simp only [next]
    split
    · exact refl
    · rename_i idle
      exact keeps_called (called_start caller network) fits orderly (free idle)
  | pause caller =>
    simp only [next]
    split
    · exact refl
    · rename_i idle
      exact keeps_called (called_pause caller) fits orderly (free fun held => idle (.inl held))
  | resume caller network =>
    simp only [next]
    split
    · exact refl
    · rename_i idle
      exact keeps_called (called_resume caller network) fits orderly
        (free fun held => idle (.inl held))
  | proceed network expired => exact keeps_proceed network expired fits orderly undisturbed
  | handle network => exact keeps_handle network fits orderly undisturbed
  | work task execution => exact keeps_work task execution fits orderly undisturbed
  | cancelWaited task expired =>
    simp only [next, cancelWaited]
    split
    · exact keeps_onTask task (.wake .cancel) fits orderly (by simp)
    · split
      · exact keeps_onTask task (.expire .cancel) fits orderly (by simp)
      · exact refl
  | deliver =>
    simp only [next]
    split
    · exact refl
    apply keeps_quiet
    · exact fits.congr rfl rfl rfl
    · exact orderly.congr rfl rfl rfl rfl rfl rfl rfl
    · exact .inl rfl
    · rfl

theorem fits_initial : TasksFit {} := by
  constructor
  · intro task
    exact DownloadTask.reports_initial
  · intro task _
    rfl
  · intro task within
    cases within

theorem orderly_initial : Orderly {} := by
  constructor
  · decide
  · intro owing
    cases owing
  · intro member
    cases member
  · rintro stage ⟨⟩
  · rintro (running | running) <;> cases running
  · rintro stage ⟨⟩
  · rintro stage ⟨⟩
  · rintro caller stage ⟨⟩

theorem orderly_run (events : List DownloaderEvent)
    (undisturbed : Along next Undisturbed {} events) :
    TasksFit (run next {} events) ∧ Orderly (run next {} events) := by
  apply invariant_of_along (fun downloader => TasksFit downloader ∧ Orderly downloader) ?_
    undisturbed
  · exact ⟨fits_initial, orderly_initial⟩
  · intro downloader event both undisturbed
    have kept := keeps_next event both.1 both.2 undisturbed
    exact ⟨kept.fits, kept.orderly⟩

/-- In an undisturbed run the downloader is completed, and says so, only when it is drained,
and says so once for each time that it drains. -/
theorem completion_sound (events : List DownloaderEvent) (event : DownloaderEvent)
    (undisturbed : Along next Undisturbed {} (events ++ [event])) :
    Sound (run next {} events) (next (run next {} events) event) := by
  obtain ⟨first, second, -⟩ := (along_append events [event] _).mp undisturbed
  obtain ⟨fits, orderly⟩ := orderly_run events first
  have kept := keeps_next event fits orderly second
  exact ⟨kept.state, kept.messages, announced kept.orderly⟩

section Runs

def fileUrl : List Char := ['h', 't', 't', 'p', ':', '/', '/', 'a', '/', 'b']

def addFile : DownloaderEvent := .addFileTask fileUrl ['/', 'f'] {}

/-- A call that goes on for these many steps. -/
def goesOn (steps : Nat) : List DownloaderEvent := List.replicate steps (.proceed .wifi false)

def handles (steps : Nat) : List DownloaderEvent := List.replicate steps (.handle .wifi)

/-- A worker that downloads its file and has reported this many times. -/
def succeeds (task reports : Nat) : List DownloaderEvent :=
  List.replicate (4 + reports) (.work task (.download [] 0 true))

def oneFile : List DownloaderEvent :=
  [addFile, .start 0 .wifi] ++ goesOn 4 ++ succeeds 0 2 ++ handles 3

theorem one_file_announced :
    Sound (run next {} oneFile) (next (run next {} oneFile) (.handle .wifi)) :=
  completion_sound oneFile (.handle .wifi) (by decide)

/-- The first of two files is reported as the completion of the downloader; and a second file
that ends before the check after its start makes two completion messages for one drain. -/
theorem completion_breaks :
    (let before := run next {} ([addFile, addFile, .start 0 .wifi] ++ goesOn 4 ++ succeeds 0 0)
     let after := next before (.work 0 .noClient)
     before.state ≠ .completed ∧ after.state = .completed ∧ after.taskQueue ≠ []) ∧
    (let fast := [addFile, addFile, .start 0 .wifi] ++ goesOn 4 ++ succeeds 0 2 ++ handles 5 ++
        succeeds 1 2
     let first := run next {} (fast ++ handles 2)
     let second := run next {} (fast ++ handles 6)
     first.completions = 1 ∧ first.unannounced = false ∧ second.completions = 2) := by
  decide

end Runs

end PlayerFramework.Downloader.DownloaderImpl
