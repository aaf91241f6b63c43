import PlayerFramework.Downloader.Manager
import PlayerFramework.Downloader.StepCases

/-!
The files that a `DownloaderImpl` has been given: each waits in the queue, was taken to get a
task, or has got one, until a failure clears the queue.
-/

namespace PlayerFramework.Downloader.DownloaderImpl

/-- A thread that stands here has taken a file and not yet made its task. -/
def making (stage : Option SchedulingStage) : Nat :=
  if stage = some .creating then 1 else 0

/-- The files in the queue, in the hands of a thread, and with a task. -/
def filed (downloader : DownloaderImpl) : Nat :=
  downloader.taskCount + downloader.taskQueue.length + making downloader.handlerScheduling +
    making downloader.clientScheduling

/-- The scheduler clears the queue after a failure. -/
def clears (event : InnerEvent) (downloader : DownloaderImpl) : Bool :=
  match event, downloader.handler with
  | .handle _, some (.clearing _ _) => !downloader.queueHeld
  | _, _ => false

/-- No file is lost, and there is a current task only where there was one or one was made. -/
structure Carries (downloader after : DownloaderImpl) : Prop where
  filed : after.filed = downloader.filed
  count : downloader.taskCount ≤ after.taskCount
  task : downloader.task = none → after.task = none ∨ downloader.taskCount < after.taskCount

variable {downloader after : DownloaderImpl}

theorem Carries.refl (downloader : DownloaderImpl) : Carries downloader downloader :=
  ⟨rfl, Nat.le_refl _, fun none => .inl none⟩

theorem Carries.trans {last : DownloaderImpl} (first : Carries downloader after)
    (second : Carries after last) : Carries downloader last := by
  constructor
  · exact second.filed.trans first.filed
  · exact Nat.le_trans first.count second.count
  intro none
  rcases first.task none with still | made
  · rcases second.task still with still | made
    · exact .inl still
    · exact .inr (Nat.lt_of_le_of_lt first.count made)
  · exact .inr (Nat.lt_of_lt_of_le made second.count)

theorem carries_same (taskCount : after.taskCount = downloader.taskCount)
    (taskQueue : after.taskQueue = downloader.taskQueue)
    (handler : making after.handlerScheduling = making downloader.handlerScheduling)
    (client : making after.clientScheduling = making downloader.clientScheduling)
    (task : after.task = downloader.task ∨ after.task = none) : Carries downloader after := by
  constructor
  · rw [DownloaderImpl.filed, taskCount, taskQueue, handler, client]
    rfl
  · exact Nat.le_of_eq taskCount.symm
  · intro none
    rcases task with same | gone
    · exact .inl (same.trans none)
    · exact .inl gone

/-- What is in the hands of the thread that schedules after its step. -/
def SchedulingResult.making : SchedulingResult → Nat
  | .goes stage => DownloaderImpl.making (some stage)
  | .returns _ _ => 0

section Scheduling

variable {network : NetConnType} {stage : SchedulingStage} {stepped result : DownloaderImpl}
  {outcome : SchedulingResult}

theorem Scheduled.threads (scheduled : Scheduled network downloader stage stepped outcome) :
    stepped.handler = downloader.handler ∧ stepped.client = downloader.client := by
  cases scheduled <;> exact ⟨rfl, rfl⟩

theorem Scheduled.files (scheduled : Scheduled network downloader stage stepped outcome) :
    stepped.taskCount + stepped.taskQueue.length + SchedulingResult.making outcome =
      downloader.taskCount + downloader.taskQueue.length + making (some stage) := by
  cases scheduled with
  | takes _ queued =>
    simp [SchedulingResult.making, making, queued]
    omega
  | creates | replaces =>
    simp [SchedulingResult.making, making, created, onTask]
    omega
  | _ => rfl

theorem Scheduled.tasks (scheduled : Scheduled network downloader stage stepped outcome) :
    downloader.taskCount ≤ stepped.taskCount ∧ (downloader.task = none →
      stepped.task = none ∨ downloader.taskCount < stepped.taskCount) := by
  cases scheduled with
  | creates | replaces => exact ⟨Nat.le_succ _, fun _ => .inr (Nat.lt_succ_self _)⟩
  | _ => exact ⟨Nat.le_refl _, .inl⟩

theorem Scheduled.carries (scheduled : Scheduled network downloader stage stepped outcome)
    (count : result.taskCount = stepped.taskCount)
    (queue : result.taskQueue = stepped.taskQueue) (task : result.task = stepped.task)
    (threads : making downloader.handlerScheduling = making (some stage) ∧
        making result.handlerScheduling = SchedulingResult.making outcome ∧
        making result.clientScheduling = making downloader.clientScheduling ∨
      making downloader.clientScheduling = making (some stage) ∧
        making result.clientScheduling = SchedulingResult.making outcome ∧
        making result.handlerScheduling = making downloader.handlerScheduling) :
    Carries downloader result := by
  have files := scheduled.files
  constructor
  · rw [filed, filed, queue]
    omega
  · rw [count]
    exact scheduled.tasks.1
  · rw [count, task]
    exact scheduled.tasks.2

end Scheduling

theorem making_handler {stage : Option HandlerStage} (handler : downloader.handler = stage) :
    making downloader.handlerScheduling = making (stage.bind HandlerStage.scheduling?) := by
  rw [handlerScheduling, handler]

theorem making_client {call : Option (Nat × ClientStage)} (client : downloader.client = call) :
    making downloader.clientScheduling = making (call.bind fun call => call.2.scheduling?) := by
  rw [clientScheduling, client]

theorem carries_work (task : Nat) (execution : Execution) :
    Carries downloader (downloader.work task execution) := by
  unfold work
  split
  · exact carries_same rfl rfl rfl rfl (.inl rfl)
  rename_i callback _
  split
  · exact .refl downloader
  · obtain ⟨taskCount, taskQueue, handler, client, task⟩ :=
      @report_same (downloader.onTask task (.work execution)) callback
    exact carries_same taskCount taskQueue (making_handler handler) (making_client client) task

theorem carries_handle {network : NetConnType}
    (keeps : downloader.clears (.handle network) = false) :
    Carries downloader (downloader.handle network) := by
  have handled := @handled downloader network
  generalize downloader.handle network = after at handled ⊢
  cases handled with
  | waits => exact .refl downloader
  | goes handler scheduled | pauses handler scheduled _ | begins handler scheduled _ =>
    exact scheduled.carries rfl rfl rfl
      (.inl ⟨making_handler handler, rfl, making_client scheduled.threads.2⟩)
  | clears handler free => simp [DownloaderImpl.clears, handler, free] at keeps
  | completed handler _ | failed handler _ | drained handler _ | checked handler _
  | notifies handler | fails handler =>
    exact carries_same rfl rfl (making_handler handler).symm rfl (.inl rfl)

theorem carries_call {after : DownloaderImpl} (taskCount : after.taskCount = downloader.taskCount)
    (taskQueue : after.taskQueue = downloader.taskQueue) (task : after.task = downloader.task)
    (handler : after.handler = downloader.handler)
    (before : making downloader.clientScheduling = 0)
    (now : making after.clientScheduling = 0) : Carries downloader after :=
  carries_same taskCount taskQueue (making_handler handler) (now.trans before.symm) (.inl task)

theorem carries_called {caller : Nat} (idle : downloader.client = none)
    (called : Called downloader caller after) : Carries downloader after := by
  have before := making_client idle
  cases called with
  | schedules stage => rcases stage with rfl | rfl <;> exact carries_call rfl rfl rfl rfl before rfl
  | _ => exact carries_call rfl rfl rfl rfl before rfl

theorem Rests.carries (rests : Rests downloader after)
    (before : making downloader.clientScheduling = 0) : Carries downloader after :=
  carries_call rests.taskCount rests.taskQueue rests.task rests.handler before
    (congrArg making rests.client)

theorem carries_proceed (network : NetConnType) (expired : Bool) :
    Carries downloader (downloader.proceed network expired) := by
  have proceeded := @proceeded downloader network expired
  generalize downloader.proceed network expired = after at proceeded ⊢
  cases proceeded with
  | waits => exact .refl downloader
  | starting client scheduled | started client scheduled | scheduling client scheduled
  | fails client scheduled _ | begins client scheduled _ =>
    exact scheduled.carries rfl rfl rfl
      (.inr ⟨making_client client, rfl, making_handler scheduled.threads.1⟩)
  | pauseEnds client _ => exact (rests_pauseEnds _ _ _).carries (making_client client)
  | resumes client => exact (rests_letGo _ _ _).carries (making_client client)
  | joins client _ | drained client _ | checked client _ | notifies client | released client _ =>
    exact carries_call rfl rfl rfl rfl (making_client client) rfl

theorem carries_next {event : InnerEvent} (keeps : downloader.clears event = false) :
    Carries downloader (downloader.next event.event) := by
  cases event with
  | proceed network expired => exact carries_proceed network expired
  | handle network => exact carries_handle keeps
  | work task execution => exact carries_work task execution
  | cancelWaited task expired =>
    simp only [InnerEvent.event, next, cancelWaited]
    split
    · exact carries_same rfl rfl rfl rfl (.inl rfl)
    · split
      · exact carries_same rfl rfl rfl rfl (.inl rfl)
      · exact .refl downloader

theorem carries_forget (caller : Nat) : Carries downloader (downloader.forget caller) :=
  carries_same rfl rfl rfl rfl (.inl rfl)

/-- `AddFileTask` takes this file. -/
def accepts (url outputPath : List Char) : Bool :=
  validateUrl url == downloadRetOk && validateOutputPath outputPath == downloadRetOk

section AddFiles

variable {files : List DownloadFileInfo} {config : DownloadConfig}

theorem addFiles_cons (file : DownloadFileInfo) (rest : List DownloadFileInfo) :
    downloader.addFiles (file :: rest) config =
      (((downloader.setConfig config).addFileTask file.url file.filePath config).1).addFiles rest
        config := rfl

theorem addFileTask_queue (url outputPath : List Char) :
    (downloader.addFileTask url outputPath config).1.taskQueue = downloader.taskQueue ∨
      (downloader.addFileTask url outputPath config).1.taskQueue =
        downloader.taskQueue ++ [⟨url, outputPath, config⟩] := by
  unfold addFileTask
  split
  · exact .inl rfl
  split
  · exact .inl rfl
  · split
    · exact .inl rfl
    · exact .inr rfl

theorem addFileTask_nonempty {url outputPath : List Char}
    (taken : accepts url outputPath = true) :
    (downloader.addFileTask url outputPath config).1.taskQueue ≠ [] := by
  simp only [accepts, Bool.and_eq_true, beq_iff_eq] at taken
  unfold addFileTask
  rw [if_neg (not_not.mpr taken.1), if_neg (not_not.mpr taken.2)]
  split
  · rename_i full
    intro empty
    rw [empty] at full
    exact absurd full (by decide)
  · simp

theorem addFileTask_refused {url outputPath : List Char}
    (refused : accepts url outputPath = false) :
    (downloader.addFileTask url outputPath config).1 = downloader := by
  unfold addFileTask
  split
  · rfl
  rename_i valid
  split
  · rfl
  · rename_i safe
    simp [accepts, valid, safe] at refused

theorem setConfig_queue : (downloader.setConfig config).taskQueue = downloader.taskQueue := by
  unfold setConfig
  split <;> rfl

theorem addFiles_keeps (queued : downloader.taskQueue ≠ []) :
    (downloader.addFiles files config).taskQueue ≠ [] := by
  induction files generalizing downloader with
  | nil => exact queued
  | cons file rest ih =>
    apply ih
    rcases @addFileTask_queue (downloader.setConfig config) config file.url file.filePath with
      same | added
    · rw [same, setConfig_queue]
      exact queued
    · rw [added]
      simp

theorem addFiles_nonempty {file : DownloadFileInfo} (member : file ∈ files)
    (taken : accepts file.url file.filePath = true) :
    (downloader.addFiles files config).taskQueue ≠ [] := by
  induction files generalizing downloader with
  | nil => cases member
  | cons first rest ih =>
    rw [addFiles_cons]
    rcases List.mem_cons.mp member with rfl | later
    · exact addFiles_keeps (addFileTask_nonempty taken)
    · exact ih later

theorem addFiles_same : (downloader.addFiles files config).taskCount = downloader.taskCount ∧
      (downloader.addFiles files config).task = downloader.task ∧
      (downloader.addFiles files config).handler = downloader.handler ∧
      (downloader.addFiles files config).client = downloader.client := by
  induction files generalizing downloader with
  | nil => exact ⟨rfl, rfl, rfl, rfl⟩
  | cons file rest ih =>
    rw [addFiles_cons]
    obtain ⟨count, task, handler, client⟩ :=
      @ih ((downloader.setConfig config).addFileTask file.url file.filePath config).1
    rw [count, task, handler, client]
    unfold addFileTask setConfig
    split
    · split <;> exact ⟨rfl, rfl, rfl, rfl⟩
    split
    · split <;> exact ⟨rfl, rfl, rfl, rfl⟩
    · split
      · split <;> exact ⟨rfl, rfl, rfl, rfl⟩
      · split <;> exact ⟨rfl, rfl, rfl, rfl⟩

theorem addFiles_refused
    (refused : ∀ file ∈ files, accepts file.url file.filePath = false) :
    (downloader.addFiles files config).taskQueue = downloader.taskQueue := by
  induction files generalizing downloader with
  | nil => rfl
  | cons file rest ih =>
    rw [addFiles_cons, ih fun other member => refused other (List.mem_cons_of_mem file member),
      addFileTask_refused (refused file List.mem_cons_self), setConfig_queue]

end AddFiles

section Files

/-- A file is queued, is being given a task, or has one, which is current or was made after the
first `made` tasks. -/
def HasFile (made : Nat) (downloader : DownloaderImpl) : Prop :=
  downloader.taskQueue ≠ [] ∨ downloader.task ≠ none ∨
    downloader.handlerScheduling = some .creating ∨ downloader.clientScheduling = some .creating ∨
      made < downloader.taskCount

instance (made : Nat) (downloader : DownloaderImpl) : Decidable (downloader.HasFile made) := by
  unfold HasFile
  infer_instance

theorem hasFile_of_filed {made : Nat}
    (more : made < downloader.filed) : downloader.HasFile made := by
  by_cases queued : downloader.taskQueue = []
  · by_cases handler : downloader.handlerScheduling = some .creating
    · exact .inr (.inr (.inl handler))
    · by_cases client : downloader.clientScheduling = some .creating
      · exact .inr (.inr (.inr (.inl client)))
      · rw [filed, queued, making, making, if_neg handler, if_neg client] at more
        exact .inr (.inr (.inr (.inr more)))
  · exact .inl queued

theorem filed_of_none {made : Nat}
    (none : ¬ downloader.HasFile made) : downloader.filed = downloader.taskCount := by
  simp only [HasFile, not_or, not_not] at none
  obtain ⟨queued, _, handler, client, _⟩ := none
  rw [filed, queued, making, making, if_neg handler, if_neg client]
  rfl

variable {made : Nat} {files : List DownloadFileInfo} {config : DownloadConfig}
  {before after : DownloaderImpl}

theorem hasFile_of_taken {file : DownloadFileInfo} (first : Carries downloader before)
    (second : Carries (before.addFiles files config) after) (few : made ≤ downloader.taskCount)
    (member : file ∈ files) (taken : accepts file.url file.filePath = true) :
    after.HasFile made := by
  apply hasFile_of_filed
  have queued := List.length_pos_iff.mpr (@addFiles_nonempty before files config file member taken)
  have count := (@addFiles_same before files config).1
  calc made ≤ before.taskCount := Nat.le_trans few first.count
    _ < (before.addFiles files config).filed := by
      rw [filed]
      omega
    _ = after.filed := second.filed.symm

theorem no_file_of_refused (first : Carries downloader before)
    (second : Carries (before.addFiles files config) after)
    (none : ¬ downloader.HasFile downloader.taskCount)
    (refused : ∀ file ∈ files, accepts file.url file.filePath = false) :
    ¬ after.HasFile downloader.taskCount := by
  obtain ⟨count, task, handler, client⟩ := @addFiles_same before files config
  have queue := @addFiles_refused before files config refused
  have same : (before.addFiles files config).filed = before.filed := by
    rw [filed, count, queue, handlerScheduling, handler, clientScheduling, client]
    rfl
  have total : after.filed = downloader.taskCount := by
    rw [second.filed, same, first.filed, filed_of_none none]
  have grown : downloader.taskCount ≤ before.taskCount := first.count
  have still : before.taskCount ≤ after.taskCount := count ▸ second.count
  have unmade : before.task = Option.none := by
    rcases first.task (by simpa [HasFile] using (not_or.mp (not_or.mp none).2).1) with same | made
    · exact same
    have all : before.taskCount ≤ before.filed := by
      rw [filed]
      omega
    rw [first.filed, filed_of_none none] at all
    omega
  rw [filed] at total
  simp only [HasFile, not_or, not_not]
  refine ⟨List.length_eq_zero_iff.mp (by omega), ?_, ?_, ?_, by omega⟩
  · rcases second.task (task.trans unmade) with none | made
    · exact none
    · omega
  · intro makes
    rw [making, if_pos makes] at total
    omega
  · intro makes
    rw [making.eq_def after.clientScheduling, if_pos makes] at total
    omega

end Files

section Waits

open Transition

/-- Nothing of the downloader runs: no thread schedules, no call goes on, and no worker. -/
structure Quiet (downloader : DownloaderImpl) : Prop where
  handler : downloader.handler = none
  messages : downloader.schedulerQueue = []
  client : downloader.client = none
  workers : ∀ task, (downloader.tasks task).worker = none

theorem quiet_next (event : InnerEvent) (quiet : Quiet downloader) :
    Quiet (downloader.next event.event) ∧
      (downloader.next event.event).taskQueue = downloader.taskQueue := by
  have onTask : ∀ task event, ((downloader.tasks task).next event).worker = none →
      Quiet (downloader.onTask task event) ∧
        (downloader.onTask task event).taskQueue = downloader.taskQueue := by
    intro task event kept
    refine ⟨⟨quiet.handler, quiet.messages, quiet.client, fun other => ?_⟩, rfl⟩
    by_cases mine : other = task
    · simpa [DownloaderImpl.onTask, mine] using kept
    · simpa [DownloaderImpl.onTask, mine] using quiet.workers other
  cases event with
  | proceed network expired =>
    rw [InnerEvent.event, next, proceed, quiet.client]
    exact ⟨quiet, rfl⟩
  | handle network =>
    rw [InnerEvent.event, next, handle, quiet.handler, quiet.messages]
    exact ⟨quiet, rfl⟩
  | work task execution =>
    have none : (downloader.tasks task).callback = none := by
      rw [DownloadTask.callback, quiet.workers task]
    rw [InnerEvent.event, next, work, none]
    apply onTask
    simp [DownloadTask.next, DownloadTask.work, quiet.workers task]
  | cancelWaited task expired =>
    have rests := quiet.workers task
    rw [InnerEvent.event, next, cancelWaited]
    split_ifs
    · apply onTask
      simp only [DownloadTask.next, DownloadTask.wake]
      split_ifs <;> exact rests
    · apply onTask
      simp only [DownloadTask.next, DownloadTask.expire]
      split_ifs <;> exact rests
    · exact ⟨quiet, rfl⟩

/-- Where `Start` is refused, in the state of the downloader or for want of a network, a file
stays queued: nothing in the downloader starts it any more. -/
theorem refused_start_waits {network : NetConnType} (quiet : Quiet downloader) (caller : Nat)
    (refused : (downloader.state ≠ .idle ∧ downloader.state ≠ .completed) ∨
      ¬ isNetworkAllowDownload downloader.config network = true) (events : List InnerEvent) :
    (run (fun downloader event => downloader.next (InnerEvent.event event))
      (downloader.start caller network) events).taskQueue = downloader.taskQueue := by
  have returned : ∀ ret, Quiet (downloader.finish caller ret) :=
    fun ret => ⟨quiet.handler, quiet.messages, rfl, quiet.workers⟩
  have start : ∃ ret, downloader.start caller network = downloader.finish caller ret := by
    unfold DownloaderImpl.start
    split_ifs with state allowed
    · exact ⟨_, rfl⟩
    · exact absurd refused (not_or.mpr ⟨state, not_not.mpr allowed⟩)
    · exact ⟨_, rfl⟩
  obtain ⟨ret, start⟩ := start
  rw [start]
  exact (invariant_of_run (fun after : DownloaderImpl => Quiet after ∧
    after.taskQueue = downloader.taskQueue) (fun _ event kept =>
      ⟨(quiet_next event kept.1).1, (quiet_next event kept.1).2.trans kept.2⟩) events
      ⟨returned ret, rfl⟩).2

end Waits

end PlayerFramework.Downloader.DownloaderImpl
