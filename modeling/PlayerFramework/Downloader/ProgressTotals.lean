import Mathlib.Algebra.GroupWithZero.Nat
import Mathlib.Algebra.Ring.Int.Defs
import PlayerFramework.Downloader.Completion
import PlayerFramework.Downloader.FileTasks
import PlayerFramework.Downloader.StopCalls

/-!
The progress of a `DownloaderImpl` over all of its files (`progress_`, `totalTaskCount_` and
`completedTaskCount_` in `downloader_impl.cpp`), over every order of its steps.
-/

namespace PlayerFramework.Downloader

open Transition DownloaderImpl

structure DownloadProgress where
  downloadedSize : Int := 0
  totalSize : Int := -1
  progressPercent : Int := 0
  downloadSpeed : Int := 0
deriving DecidableEq

def fullProgressPercent : Int := 100

/-- `downloadedSize_` and `totalSize_` of a task. -/
structure TaskSizes where
  downloadedSize : Int := 0
  totalSize : Int := -1
deriving DecidableEq

namespace TaskSizes

/-- The progress callback that `ExecuteDownload` sets. -/
def received (downloadedSize totalSize : Int) (sizes : TaskSizes) : TaskSizes :=
  { downloadedSize, totalSize := if 0 < totalSize then totalSize else sizes.totalSize }

def getProgress (downloadSpeed : Int) (sizes : TaskSizes) : DownloadProgress where
  downloadedSize := sizes.downloadedSize
  totalSize := sizes.totalSize
  progressPercent :=
    if 0 < sizes.totalSize then
      min fullProgressPercent ((sizes.downloadedSize * 100).tdiv sizes.totalSize)
    else 0
  downloadSpeed := downloadSpeed

end TaskSizes

/-- A `DownloaderImpl` with its progress.  `notified` are the progress messages; `completed`, the
sizes of the completed files, is a history variable. -/
structure ProgressDownloader where
  stoppable : StoppableDownloader := {}
  sizes : Nat → TaskSizes := fun _ => {}
  progress : DownloadProgress := {}
  totalTaskCount : Nat := 0
  completedTaskCount : Nat := 0
  notified : List DownloadProgress := []
  completed : List Int := []

inductive ProgressEvent where
  | step (event : StoppableEvent)
  | received (task : Nat) (downloadedSize totalSize : Int)
  | onProgress (task : Nat) (downloadSpeed : Int)
deriving DecidableEq

namespace ProgressDownloader

/-- `AddFileTask` takes a file. -/
def adds (downloader : DownloaderImpl) : StoppableEvent → Bool
  | .other (.addFileTask url outputPath config) =>
    !downloader.queueHeld && (downloader.addFileTask url outputPath config).2 == downloadRetOk
  | _ => false

/-- The task whose worker has its `OnCompleted` accepted, and the task that is let go. -/
def completes? (downloader : DownloaderImpl) : StoppableEvent → Option (Nat × Nat)
  | .other (.work task _) =>
    if (downloader.tasks task).callback = some .onCompleted ∧
        downloader.reportWaits .onCompleted = false then
      downloader.task.map fun current => (task, current)
    else none
  | _ => none

/-- The scheduler thread comes to `HandleTaskCompleted`. -/
def handlesCompleted (downloader : DownloaderImpl) : StoppableEvent → Bool
  | .other (.handle _) =>
    downloader.handler.isNone && downloader.schedulerQueue.head? == some .taskCompleted &&
      !downloader.taskHeld
  | _ => false

def addCompleted (sizes current : TaskSizes) (progress : DownloadProgress) : DownloadProgress :=
  { progress with
    downloadedSize := progress.downloadedSize + sizes.downloadedSize
    totalSize := progress.totalSize + current.totalSize }

def onCompleted (downloader : DownloaderImpl) (event : StoppableEvent)
    (state : ProgressDownloader) : ProgressDownloader :=
  match completes? downloader event with
  | none => state
  | some (task, current) =>
    { state with
      progress := addCompleted (state.sizes task) (state.sizes current) state.progress
      completed := state.completed ++ [(state.sizes task).downloadedSize] }

def onProgress (progress : DownloadProgress) (state : ProgressDownloader) : ProgressDownloader :=
  let stored : DownloadProgress := { state.progress with downloadSpeed := progress.downloadSpeed }
  let stored : DownloadProgress :=
    if 0 < state.totalTaskCount then
      { stored with
        progressPercent := ((state.completedTaskCount : Int) * fullProgressPercent +
          progress.progressPercent).tdiv state.totalTaskCount }
    else progress
  { state with
    progress := stored
    notified := state.notified ++
      [{ stored with downloadedSize := stored.downloadedSize + progress.downloadedSize }] }

def next (state : ProgressDownloader) : ProgressEvent → ProgressDownloader
  | .step event =>
    let downloader := state.stoppable.downloader
    { state.onCompleted downloader event with
      stoppable := state.stoppable.next event
      totalTaskCount := state.totalTaskCount + if adds downloader event then 1 else 0
      completedTaskCount :=
        state.completedTaskCount + if handlesCompleted downloader event then 1 else 0 }
  | .received task downloadedSize totalSize =>
    if task < state.stoppable.downloader.taskCount then
      { state with
        sizes := Function.update state.sizes task
          ((state.sizes task).received downloadedSize totalSize) }
    else state
  | .onProgress task downloadSpeed =>
    if task < state.stoppable.downloader.taskCount then
      state.onProgress ((state.sizes task).getProgress downloadSpeed)
    else state

/-- A completed file has a known size, and all of it was downloaded. -/
def KnownSizes (state : ProgressDownloader) : ProgressEvent → Prop
  | .step event =>
    ∀ completion ∈ completes? state.stoppable.downloader event,
      (state.sizes completion.1).downloadedSize = (state.sizes completion.2).totalSize
  | _ => True

instance (state : ProgressDownloader) (event : ProgressEvent) :
    Decidable (state.KnownSizes event) := by
  unfold KnownSizes
  split <;> infer_instance

structure Accounts (state : ProgressDownloader) : Prop where
  totalSize : state.progress.totalSize = state.completed.sum
  downloadedSize : state.progress.downloadedSize = state.completed.sum
  percents : ∀ progress ∈ state.notified,
    0 ≤ progress.progressPercent ∧ progress.progressPercent ≤ 100
  full : state.progress.progressPercent = 100 ↔ state.completed.length = state.totalTaskCount

end ProgressDownloader

namespace DownloaderImpl

variable {downloader : DownloaderImpl}

theorem filed_handle (network : NetConnType) :
    (downloader.handle network).filed ≤ downloader.filed := by
  cases clears : downloader.clears (.handle network) with
  | false => exact Nat.le_of_eq (carries_handle clears).filed
  | true =>
    unfold DownloaderImpl.clears at clears
    split at clears
    · rename_i link errorType errorCode _ handler
      rw [Bool.not_eq_true'] at clears
      have idle := making_handler handler
      simp only [handle, handler, clears, Bool.false_eq_true, if_false, filed, idle]
      exact Nat.add_le_add_right (Nat.add_le_add_left (Nat.zero_le _) _) _
    · cases clears

theorem filed_addFileTask (url outputPath : List Char) (config : DownloadConfig) :
    (downloader.addFileTask url outputPath config).1.filed = downloader.filed +
      if (downloader.addFileTask url outputPath config).2 = downloadRetOk then 1 else 0 := by
  unfold addFileTask
  split
  · rfl
  split
  · rfl
  split
  · rfl
  simp only [filed, List.length_append, List.length_singleton, if_true]
  have threads : making (DownloaderImpl.handlerScheduling { downloader with
      taskQueue := downloader.taskQueue ++ [⟨url, outputPath, config⟩] }) =
      making downloader.handlerScheduling := rfl
  have calls : making (DownloaderImpl.clientScheduling { downloader with
      taskQueue := downloader.taskQueue ++ [⟨url, outputPath, config⟩] }) =
      making downloader.clientScheduling := rfl
  omega

theorem filed_next (event : DownloaderEvent) : (downloader.next event).filed ≤ downloader.filed +
      if ProgressDownloader.adds downloader (.other event) then 1 else 0 := by
  cases event with
  | addFileTask url outputPath config =>
    simp only [next, ProgressDownloader.adds]
    split
    · exact Nat.le_add_right _ _
    · rename_i free
      rw [filed_addFileTask]
      simp [free]
  | start caller network =>
    simp only [next]
    split
    · exact Nat.le_add_right _ _
    · rename_i idle
      exact Nat.le_of_eq (carries_called (by simpa using idle) (called_start caller network)).filed
  | pause caller =>
    simp only [next]
    split
    · exact Nat.le_add_right _ _
    · rename_i idle
      have free : downloader.client = none := by
        simpa using (not_or.mp idle).1
      exact Nat.le_of_eq (carries_called free (called_pause caller)).filed
  | resume caller network =>
    simp only [next]
    split
    · exact Nat.le_add_right _ _
    · rename_i idle
      have free : downloader.client = none := by
        simpa using (not_or.mp idle).1
      exact Nat.le_of_eq (carries_called free (called_resume caller network)).filed
  | handle network => exact filed_handle network
  | deliver =>
    simp only [next]
    split <;> exact Nat.le_add_right _ _
  | proceed network expired => exact Nat.le_of_eq (carries_proceed network expired).filed
  | work task execution => exact Nat.le_of_eq (carries_work task execution).filed
  | cancelWaited task expired =>
    exact Nat.le_of_eq (@carries_next downloader (.cancelWaited task expired) rfl).filed

/-- The files and the threads are as before, or some files less are queued. -/
theorem filed_fewer {after : DownloaderImpl} (taskCount : after.taskCount = downloader.taskCount)
    (queue : after.taskQueue.length ≤ downloader.taskQueue.length)
    (handler : after.handler = downloader.handler) (client : after.client = downloader.client) :
    after.filed ≤ downloader.filed := by
  unfold filed handlerScheduling clientScheduling
  rw [taskCount, handler, client]
  omega

end DownloaderImpl

namespace StoppableDownloader

variable {stoppable : StoppableDownloader}

theorem filed_goesOn (index : Nat) (expired : Bool) :
    (stoppable.goesOn index expired).downloader.filed ≤ stoppable.downloader.filed := by
  have same := Nat.le_refl stoppable.downloader.filed
  unfold goesOn
  dsimp only
  split
  · exact same
  rename_i call _
  split
  · split
    · exact same
    · exact filed_fewer rfl (Nat.le_refl _) rfl rfl
  · split
    · exact same
    unfold cancelTask
    dsimp only
    split
    · exact same
    · split <;> exact filed_fewer rfl (Nat.le_refl _) rfl rfl
  · split
    · exact same
    unfold awaitTask
    dsimp only
    split
    · exact same
    split
    · exact filed_fewer rfl (Nat.le_refl _) rfl rfl
    · split
      · exact filed_fewer rfl (Nat.le_refl _) rfl rfl
      · exact same
  · split
    · exact same
    · exact filed_fewer rfl (Nat.le_refl _) rfl rfl
  · exact filed_fewer rfl (Nat.le_refl _) rfl rfl
  · split <;> exact same
  · split
    · exact same
    · exact filed_fewer rfl (Nat.zero_le _) rfl rfl
  · exact same
  · have idled : (if call.releases then { stoppable.downloader with state := .idle }
        else stoppable.downloader).filed ≤ stoppable.downloader.filed := by
      split <;> exact filed_fewer rfl (Nat.le_refl _) rfl rfl
    unfold leave returns
    dsimp only
    split
    · exact idled
    split
    · exact idled
    generalize (if call.releases then { stoppable.downloader with state := .idle }
      else stoppable.downloader) = idle at idled ⊢
    split
    · exact same
    · exact Nat.le_trans (@filed_fewer idle _ rfl (Nat.le_refl _) rfl rfl) idled
  · split
    · exact same
    · split <;> exact same
  · exact same

theorem filed_proceed (network : NetConnType) (expired : Bool) :
    (stoppable.proceed network expired).filed ≤ stoppable.downloader.filed := by
  unfold proceed
  split
  · exact Nat.le_of_eq (carries_proceed network expired).filed
  split
  · rename_i task _ _
    exact Nat.le_trans (filed_fewer rfl (Nat.le_refl _) rfl rfl) (Nat.le_of_eq
      (@carries_proceed { stoppable.downloader with pendingTaskToRelease := some task }
        network expired).filed)
  · exact Nat.le_of_eq (carries_proceed network expired).filed

theorem filed_withDownloader (downloader : DownloaderImpl) :
    (stoppable.withDownloader downloader).downloader.filed ≤ downloader.filed := by
  unfold withDownloader discard
  split <;> exact filed_fewer rfl (Nat.le_refl _) rfl rfl

theorem filed_next (event : StoppableEvent) :
    (stoppable.next event).downloader.filed ≤ stoppable.downloader.filed +
      if ProgressDownloader.adds stoppable.downloader event then 1 else 0 := by
  cases event with
  | other event =>
    have stepped := @DownloaderImpl.filed_next stoppable.downloader event
    have dropped := Nat.le_trans (@filed_withDownloader stoppable _) stepped
    simp only [next, other]
    split
    · split
      · exact stepped
      · exact dropped
    · exact dropped
    · exact Nat.le_add_right_of_le (Nat.le_trans (filed_withDownloader _) (filed_proceed _ _))
    · exact dropped
    · split
      · exact Nat.le_add_right _ _
      · exact dropped
    · exact dropped
  | cancel =>
    simp only [next, cancel]
    split
    · exact Nat.le_add_right _ _
    · split
      · exact Nat.le_add_right _ _
      · exact filed_fewer rfl (Nat.le_refl _) rfl rfl
  | release => exact Nat.le_add_right _ _
  | goesOn index expired => exact filed_goesOn index expired
  | handleTaskCanceled =>
    simp only [next, handleTaskCanceled]
    split
    · exact Nat.le_add_right _ _
    · exact filed_fewer rfl (Nat.le_refl _) rfl rfl
  | destroy task =>
    simp only [next, destroy]
    split
    · exact Nat.le_add_right _ _
    · exact filed_fewer rfl (Nat.le_refl _) rfl rfl

end StoppableDownloader

namespace ProgressDownloader

variable {state : ProgressDownloader}

/-- The totals are those of the completed files but for the -1 they start from. -/
structure Totals (state : ProgressDownloader) : Prop where
  added : state.stoppable.downloader.filed ≤ state.totalTaskCount
  downloadedSize : state.progress.downloadedSize = state.completed.sum
  totalSize : state.progress.totalSize = state.completed.sum - 1

theorem totals_step (event : StoppableEvent) (totals : state.Totals)
    (known : state.KnownSizes (.step event)) : (state.next (.step event)).Totals := by
  have added := Nat.le_trans (@StoppableDownloader.filed_next state.stoppable event)
    (Nat.add_le_add_right totals.added _)
  cases completes : completes? state.stoppable.downloader event with
  | none =>
    have same : state.onCompleted state.stoppable.downloader event = state := by
      rw [onCompleted, completes]
    refine ⟨added, ?_, ?_⟩
    · simp only [next, same]
      exact totals.downloadedSize
    · simp only [next, same]
      exact totals.totalSize
  | some pair =>
    obtain ⟨task, current⟩ := pair
    have size := known (task, current) completes
    refine ⟨added, ?_, ?_⟩
    · simp [next, onCompleted, completes, addCompleted, totals.downloadedSize]
    · simp only [next, onCompleted, completes, addCompleted, List.sum_append, List.sum_singleton,
        totals.totalSize, size]
      omega

theorem totals_next (event : ProgressEvent) (totals : state.Totals)
    (known : state.KnownSizes event) : (state.next event).Totals := by
  cases event with
  | step event => exact totals_step event totals known
  | received task downloadedSize totalSize =>
    simp only [next]
    split
    · exact ⟨totals.added, totals.downloadedSize, totals.totalSize⟩
    · exact totals
  | onProgress task downloadSpeed =>
    simp only [next]
    split
    · have some_added : 0 < state.totalTaskCount := by
        have added := totals.added
        unfold filed at added
        omega
      simp only [onProgress, if_pos some_added]
      exact ⟨totals.added, totals.downloadedSize, totals.totalSize⟩
    · exact totals

/-- The totals are never those of the completed files: the total size is one byte short. -/
theorem total_one_short {events : List ProgressEvent}
    (known : Along next KnownSizes {} events) :
    (run next {} events).progress.downloadedSize = (run next {} events).completed.sum ∧
      (run next {} events).progress.totalSize = (run next {} events).completed.sum - 1 ∧
      ¬ (run next {} events).Accounts := by
  have totals : (run next {} events).Totals :=
    invariant_of_along Totals (fun _ event totals known => totals_next event totals known) known
      ⟨Nat.le_refl _, rfl, rfl⟩
  refine ⟨totals.downloadedSize, totals.totalSize, ?_⟩
  intro accounts
  have exact_total := accounts.totalSize
  rw [totals.totalSize] at exact_total
  omega

/-- A file of five bytes, downloaded to its end. -/
def fiveByteFile : List ProgressEvent :=
  (([addFile, .start 0 .wifi] ++ goesOn 4).map fun event => ProgressEvent.step (.other event)) ++
    [ProgressEvent.received 0 5 5, .onProgress 0 0] ++
    ((succeeds 0 2 ++ handles 3).map fun event => ProgressEvent.step (.other event))

theorem five_byte_total :
    (run next {} fiveByteFile).progress.downloadedSize = (run next {} fiveByteFile).completed.sum ∧
      (run next {} fiveByteFile).progress.totalSize =
        (run next {} fiveByteFile).completed.sum - 1 ∧ ¬ (run next {} fiveByteFile).Accounts :=
  total_one_short (by decide +kernel)

theorem five_byte_file_uncounted : (run next {} fiveByteFile).completed = [5] ∧
      (run next {} fiveByteFile).progress.totalSize = 4 ∧
      ¬ (run next {} fiveByteFile).Accounts := by
  have counted : (run next {} fiveByteFile).completed = [5] ∧
      (run next {} fiveByteFile).progress.totalSize = 4 := by
    decide +kernel
  refine ⟨counted.1, counted.2, ?_⟩
  intro accounts
  have exact_total := accounts.totalSize
  rw [counted.1, counted.2] at exact_total
  cases exact_total

end ProgressDownloader

end PlayerFramework.Downloader
