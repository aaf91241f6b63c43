import PlayerFramework.Downloader.DownloaderImpl

/-!
`AVDownloaderManagerImpl` and the downloaders that it runs (`av_downloader_manager.cpp`).
`mapMutex_` is held for one step, except by a thread that calls a downloader under it; the
calls of a downloader hold its own `mutex_`.
-/

namespace PlayerFramework.Downloader

open Transition

inductive AVDownloadTaskState where
  | init
  | queued
  | running
  | completed
  | paused
  | removing
  | error
deriving DecidableEq

def maxDownloaderCount : Nat := 3

structure DownloadFileInfo where
  url : List Char
  filePath : List Char
  downloaded : Bool := false
  needParse : Bool := false
deriving DecidableEq

/-- `notified` is a history variable: the last state but RUNNING that the client was told of. -/
structure AVDownloadTaskInfo where
  url : List Char
  currentFilePath : List Char
  state : AVDownloadTaskState := .init
  fileList : List DownloadFileInfo
  protocolSniffed : Bool := false
  notified : Option AVDownloadTaskState := none
deriving DecidableEq

inductive ManagerMessage where
  | releaseDownloader (id : Nat)
  | processNextTask
deriving DecidableEq

/-- Where the thread stands that holds `mapMutex_` between its steps. -/
inductive Holder where
  | processing
  | starting (id : Nat) (url : List Char)
  | resuming (id : Nat)
  | processCalling (id : Nat)
  | losing (ids : List Nat)
  | pausing (id : Nat) (rest : List Nat)
  | pauseCalling (id : Nat) (rest : List Nat)
  | submitting (id : Nat)
  | submitCalling (id : Nat)
deriving DecidableEq

/-- A `PauseDownloadTask` after its first section: `RetryWithDeadline`, which tries or waits
for the downloader, and then the second section. -/
inductive PauseStage where
  | trying
  | calling
  | paused
deriving DecidableEq

structure PauseCall where
  caller : Nat
  id : Nat
  stage : PauseStage := .trying
deriving DecidableEq

/-- The tasks and downloaders are those below `nextId`; `downloaderMap` tells which of the
downloaders the manager still has.  `removals` are calls of `RemoveDownloadTask` that have
still to cancel and release their downloader, and whether they then ask for the next task. -/
structure AVDownloaderManager where
  taskMap : Nat → Option AVDownloadTaskInfo := fun _ => none
  downloaderMap : Nat → Bool := fun _ => false
  downloaders : Nat → DownloaderImpl := fun _ => {}
  nextId : Nat := 0
  pendingTaskQueue : List (List Char × Nat) := []
  messageQueue : List ManagerMessage := []
  holder : Option Holder := none
  releasing : Option Nat := none
  removals : List (Nat × Bool) := []
  pauses : List PauseCall := []
  nextCaller : Nat := 1
  allowCellularAccess : Bool := false

/-- The caller of a downloader that holds `mapMutex_`; the others are `PauseDownloadTask`s. -/
def holderCaller : Nat := 0

namespace DownloaderImpl

def answer (caller : Nat) (downloader : DownloaderImpl) : Option Int :=
  (downloader.returned.find? fun call => call.1 == caller).map (·.2)

def forget (caller : Nat) (downloader : DownloaderImpl) : DownloaderImpl :=
  { downloader with returned := downloader.returned.filter fun call => call.1 != caller }

/-- `Pause` and `Resume` can begin: the locks that they take first are free. -/
def isFree (downloader : DownloaderImpl) : Bool :=
  downloader.client.isNone && !downloader.taskHeld

def released (downloader : DownloaderImpl) : DownloaderImpl :=
  { returned := downloader.returned }

/-- `AddFileTask` and `SetConfig` for each of the files. -/
def addFiles (files : List DownloadFileInfo) (config : DownloadConfig)
    (downloader : DownloaderImpl) : DownloaderImpl :=
  files.foldl
    (fun downloader file => ((downloader.setConfig config).addFileTask file.url file.filePath
      config).1) downloader

end DownloaderImpl

def convertToAVDownloadTaskState : DownloadState → AVDownloadTaskState
  | .idle => .init
  | .preparing => .queued
  | .running => .running
  | .paused => .paused
  | .completed => .completed
  | .failed => .error
  | .canceled => .removing
  | _ => .error

/-- What `SniffProtocolFromFile` finds: no file, or whether the file is a playlist. -/
abbrev Sniff := Option Bool

/-- What the parser finds in each file that it is given: nothing, or resources with their
paths and whether they are playlists. -/
abbrev ParseResults := List (Option (List (List Char × List Char × Bool)))

/-- `SniffProtocolFromFile`, where the protocol is not known yet. -/
def sniffProtocol (sniff : Sniff) (info : AVDownloadTaskInfo) : AVDownloadTaskInfo :=
  match info.protocolSniffed, info.fileList, sniff with
  | false, first :: rest, some playlist =>
    { info with
      protocolSniffed := true
      currentFilePath := first.filePath
      fileList := (if playlist then { first with needParse := true } else first) :: rest }
  | _, _, _ => info

/-- `ParseFiles`: the files, parsed where that succeeds, and the files to add. -/
def parseFiles : ParseResults → List DownloadFileInfo →
    List DownloadFileInfo × List DownloadFileInfo
  | _, [] => ([], [])
  | results, file :: files =>
    if ¬ file.needParse then
      let (parsed, added) := parseFiles results files
      (file :: parsed, added)
    else
      match results with
      | some resources :: results =>
        let (parsed, added) := parseFiles results files
        ({ file with needParse := false } :: parsed,
          (resources.map fun resource =>
            { url := resource.1, filePath := resource.2.1, needParse := resource.2.2 }) ++
          added)
      | _ :: results =>
        let (parsed, added) := parseFiles results files
        (file :: parsed, added)
      | [] =>
        let (parsed, added) := parseFiles [] files
        (file :: parsed, added)

namespace AVDownloaderManager

def post (message : ManagerMessage) (manager : AVDownloaderManager) : AVDownloaderManager :=
  { manager with messageQueue := postMessage manager.messageQueue message }

def onDownloader (id : Nat) (change : DownloaderImpl → DownloaderImpl)
    (manager : AVDownloaderManager) : AVDownloaderManager :=
  { manager with
    downloaders := Function.update manager.downloaders id (change (manager.downloaders id)) }

def recorded (id : Nat) (manager : AVDownloaderManager) : Option AVDownloadTaskState :=
  (manager.taskMap id).map (·.state)

/-- The state of a task and `OnStatusChange`, without which only RUNNING is stored. -/
def setState (state : AVDownloadTaskState) (info : AVDownloadTaskInfo) : AVDownloadTaskInfo :=
  { info with
    state := state
    notified := if state = .running then info.notified else some state }

/-- `NotifyStatusChangeLocked`. -/
def notifyStatusChange (id : Nat) (state : AVDownloadTaskState) (manager : AVDownloaderManager) :
    AVDownloaderManager :=
  { manager with
    taskMap := Function.update manager.taskMap id ((manager.taskMap id).map (setState state)) }

def getActiveCount (manager : AVDownloaderManager) : Nat :=
  (List.range manager.nextId).countP fun id => manager.recorded id = some .running

def isNetworkAllowDownload (network : NetConnType) (manager : AVDownloaderManager) : Bool :=
  match network with
  | .none => false
  | .unknown => false
  | .cellular => manager.allowCellularAccess
  | .wifi => true
  | _ => false

def config (manager : AVDownloaderManager) : DownloadConfig :=
  { allowWifi := true, allowMobileData := manager.allowCellularAccess }

def dequeue (id : Nat) (manager : AVDownloaderManager) : AVDownloaderManager :=
  { manager with
    pendingTaskQueue := manager.pendingTaskQueue.filter fun pending => pending.2 != id }

/-- A recorded task is queued, as `ResumeDownloadTask` and `OnNetworkRestored` do it. -/
def enqueue (id : Nat) (manager : AVDownloaderManager) : AVDownloaderManager :=
  match manager.taskMap id with
  | none => manager
  | some info =>
    ({ manager with
      pendingTaskQueue := manager.pendingTaskQueue ++ [(info.url, id)] }).notifyStatusChange
        id .queued

def findExistingTask (url : List Char) (manager : AVDownloaderManager) : Option Nat :=
  (List.range manager.nextId).find? fun id =>
    match manager.taskMap id with
    | none => false
    | some info =>
      info.url == url && (info.state == .running || info.state == .queued || info.state == .init)

def addDownloadTask (url filePath : List Char) (manager : AVDownloaderManager) :
    AVDownloaderManager :=
  if url = [] then manager
  else
    match manager.findExistingTask url with
    | some id =>
      if manager.recorded id = some .paused then (manager.enqueue id).post .processNextTask
      else manager
    | none =>
      let id := manager.nextId
      let info : AVDownloadTaskInfo :=
        { url := url, currentFilePath := filePath, fileList := [⟨url, filePath, false, false⟩] }
      (({ manager with
        taskMap := Function.update manager.taskMap id (some info)
        downloaderMap := Function.update manager.downloaderMap id true
        downloaders := Function.update manager.downloaders id {}
        nextId := id + 1 }).enqueue id).post .processNextTask

/-- `RemoveDownloadTask`, up to the end of its downloader. -/
def removeDownloadTask (id : Nat) (manager : AVDownloaderManager) : AVDownloaderManager :=
  let asks : Bool := manager.recorded id = some .running ∨ manager.recorded id = some .queued
  let removed := { manager.dequeue id with
    taskMap := Function.update manager.taskMap id none
    downloaderMap := Function.update manager.downloaderMap id false }
  if manager.downloaderMap id then { removed with removals := manager.removals ++ [(id, asks)] }
  else if asks then removed.post .processNextTask
  else removed

/-- The first section of `PauseDownloadTask`. -/
def pauseDownloadTask (id : Nat) (manager : AVDownloaderManager) : AVDownloaderManager :=
  match manager.recorded id with
  | none => manager
  | some .queued => (manager.dequeue id).notifyStatusChange id .paused
  | some .running =>
    if manager.downloaderMap id then
      { manager with
        pauses := manager.pauses ++ [{ caller := manager.nextCaller, id := id }]
        nextCaller := manager.nextCaller + 1 }
    else manager
  | some _ => manager

def resumeDownloadTask (id : Nat) (manager : AVDownloaderManager) : AVDownloaderManager :=
  if manager.recorded id ≠ some .paused then manager
  else (manager.enqueue id).post .processNextTask

def onNetworkRestored (manager : AVDownloaderManager) : AVDownloaderManager :=
  ((List.range manager.nextId).foldl
    (fun manager id =>
      if manager.recorded id = some .paused then manager.enqueue id else manager)
    manager).post .processNextTask

/-- `OnNetworkChanged`; `OnNetworkLost` goes through the tasks under the lock. -/
def onNetworkChanged (network : NetConnType) (manager : AVDownloaderManager) :
    AVDownloaderManager :=
  if manager.isNetworkAllowDownload network then manager.onNetworkRestored
  else { manager with holder := some (.losing (List.range manager.nextId)) }

/-- `HandleMessage` up to the end of a release or to the loop of `ProcessNextPendingTask`. -/
def handleMessage (manager : AVDownloaderManager) : AVDownloaderManager :=
  match manager.messageQueue with
  | [] => manager
  | .releaseDownloader id :: rest =>
    let taken := { manager with messageQueue := rest }
    if manager.downloaderMap id then
      { taken with
        downloaderMap := Function.update manager.downloaderMap id false
        releasing := some id }
    else taken
  | .processNextTask :: rest =>
    { manager with messageQueue := rest, holder := some .processing }

def processDownloadFinish (id : Nat) (manager : AVDownloaderManager) : AVDownloaderManager :=
  ((manager.notifyStatusChange id .completed).post (.releaseDownloader id)).post .processNextTask

def onCompleted (id : Nat) (sniff : Sniff) (results : ParseResults)
    (manager : AVDownloaderManager) : AVDownloaderManager :=
  match manager.taskMap id with
  | none => manager
  | some info =>
    let sniffed := sniffProtocol sniff info
    let files := sniffed.fileList.map fun file => { file with downloaded := true }
    let known := { manager with
      taskMap := Function.update manager.taskMap id (some { sniffed with fileList := files }) }
    if ¬ manager.downloaderMap id then known
    else if ¬ files.any (·.needParse) then known.processDownloadFinish id
    else
      let (parsed, added) := parseFiles results files
      { manager with
        taskMap := Function.update manager.taskMap id
          (some { sniffed with fileList := parsed ++ added })
        holder := some (.submitting id) }

def onFailed (id : Nat) (network : NetConnType) (manager : AVDownloaderManager) :
    AVDownloaderManager :=
  if ¬ manager.isNetworkAllowDownload network then manager.notifyStatusChange id .paused
  else
    let failed := manager.notifyStatusChange id .error
    (if manager.downloaderMap id then failed.post (.releaseDownloader id) else failed).post
      .processNextTask

/-- The callback of a downloader's message. -/
def report (id : Nat) (message : Message) (network : NetConnType) (sniff : Sniff)
    (results : ParseResults) (manager : AVDownloaderManager) : AVDownloaderManager :=
  match message with
  | .stateChanged state => manager.notifyStatusChange id (convertToAVDownloadTaskState state)
  | .completed => manager.onCompleted id sniff results
  | .failed _ _ => manager.onFailed id network
  | .fileCompleted => manager

/-- A downloader's message reaches the manager. -/
def deliver (id : Nat) (network : NetConnType) (sniff : Sniff) (results : ParseResults)
    (manager : AVDownloaderManager) : AVDownloaderManager :=
  if (manager.downloaders id).client.isSome then manager
  else
    match (manager.downloaders id).messageQueue with
    | [] => manager
    | message :: _ =>
      (manager.onDownloader id (·.next .deliver)).report id message network sniff results

/-- One round of the loop of `ProcessNextPendingTask`, up to its call. -/
def processNextPendingTask (manager : AVDownloaderManager) : AVDownloaderManager :=
  if maxDownloaderCount ≤ manager.getActiveCount then { manager with holder := none }
  else
    match manager.pendingTaskQueue with
    | [] => { manager with holder := none }
    | (url, id) :: rest =>
      let popped := { manager with pendingTaskQueue := rest }
      if (manager.taskMap id).isNone ∨ ¬ manager.downloaderMap id then popped
      else
        match (manager.downloaders id).state with
        | .paused => { popped with holder := some (.resuming id) }
        | .idle => { popped with holder := some (.starting id url) }
        | _ => popped

/-- The path of the file that `ProcessNextPendingTask` adds. -/
def filePath (id : Nat) (manager : AVDownloaderManager) : List Char :=
  match manager.taskMap id with
  | none => []
  | some info => info.currentFilePath

/-- The files that `SubmitRemainingTasks` adds. -/
def remaining (id : Nat) (manager : AVDownloaderManager) : List DownloadFileInfo :=
  match manager.taskMap id with
  | none => []
  | some info => info.fileList.filter fun file => !file.downloaded

/-- The next step of the thread that holds `mapMutex_`. -/
def proceed (network : NetConnType) (manager : AVDownloaderManager) : AVDownloaderManager :=
  match manager.holder with
  | none => manager
  | some .processing => manager.processNextPendingTask
  | some (.starting id url) =>
    if ¬ (manager.downloaders id).isFree ∨ (manager.downloaders id).queueHeld then manager
    else
      { manager.onDownloader id fun downloader =>
          (((downloader.addFileTask url (manager.filePath id) manager.config).1).setConfig
            manager.config).start holderCaller network with
        holder := some (.processCalling id) }
  | some (.resuming id) =>
    if ¬ (manager.downloaders id).isFree then manager
    else
      { manager.onDownloader id (·.resume holderCaller network) with
        holder := some (.processCalling id) }
  | some (.processCalling id) =>
    match (manager.downloaders id).answer holderCaller with
    | none => manager
    | some ret =>
      { (manager.onDownloader id (·.forget holderCaller)).notifyStatusChange id
          (if ret = downloadRetOk then .running else .error) with
        holder := some .processing }
  | some (.losing []) => { manager with holder := none }
  | some (.losing (id :: rest)) =>
    if manager.recorded id = some .queued then
      { (manager.dequeue id).notifyStatusChange id .paused with holder := some (.losing rest) }
    else if manager.recorded id = some .running ∧ manager.downloaderMap id then
      { manager with holder := some (.pausing id rest) }
    else { manager with holder := some (.losing rest) }
  | some (.pausing id rest) =>
    if ¬ (manager.downloaders id).isFree then manager
    else
      { manager.onDownloader id (·.pause holderCaller) with
        holder := some (.pauseCalling id rest) }
  | some (.pauseCalling id rest) =>
    match (manager.downloaders id).answer holderCaller with
    | none => manager
    | some _ =>
      { (manager.onDownloader id (·.forget holderCaller)).notifyStatusChange id .paused with
        holder := some (.losing rest) }
  | some (.submitting id) =>
    if ¬ (manager.downloaders id).isFree ∨ (manager.downloaders id).queueHeld then manager
    else
      { manager.onDownloader id fun downloader =>
          (downloader.addFiles (manager.remaining id) manager.config).start
            holderCaller network with
        holder := some (.submitCalling id) }
  | some (.submitCalling id) =>
    match (manager.downloaders id).answer holderCaller with
    | none => manager
    | some _ => { manager.onDownloader id (·.forget holderCaller) with holder := none }

/-- A `PauseDownloadTask` gets on to this stage. -/
def advancePause (call : PauseCall) (stage : PauseStage) (manager : AVDownloaderManager) :
    AVDownloaderManager :=
  { manager with
    pauses := manager.pauses.map fun other =>
      if other = call then { call with stage := stage } else other }

def dropPause (call : PauseCall) (manager : AVDownloaderManager) : AVDownloaderManager :=
  { manager with pauses := manager.pauses.erase call }

/-- `RetryWithDeadline` goes no further in these states. -/
def retryEnds : DownloadState → Bool
  | .completed => true
  | .failed => true
  | .canceled => true
  | _ => false

/-- The next step of a `PauseDownloadTask`; `late` tells whether its deadline has passed. -/
def pauseGoesOn (call : PauseCall) (late : Bool) (manager : AVDownloaderManager) :
    AVDownloaderManager :=
  match call.stage with
  | .trying =>
    if ¬ (manager.downloaders call.id).isFree then manager
    else (manager.onDownloader call.id (·.pause call.caller)).advancePause call .calling
  | .calling =>
    match (manager.downloaders call.id).answer call.caller with
    | none => manager
    | some ret =>
      let answered := manager.onDownloader call.id (·.forget call.caller)
      if ret = downloadRetOk then answered.advancePause call .paused
      else if retryEnds (manager.downloaders call.id).state ∨ late then
        answered.dropPause call
      else answered.advancePause call .trying
  | .paused =>
    if manager.holder.isSome then manager
    else
      ((manager.notifyStatusChange call.id .paused).post .processNextTask).dropPause call

/-- The end of a `Release` of a downloader, which stops its messages; a call that was still
running has returned. -/
def releaseEnds (manager : AVDownloaderManager) : AVDownloaderManager :=
  match manager.releasing with
  | none => manager
  | some id =>
    if (manager.downloaders id).client.isSome then manager
    else { manager.onDownloader id (·.released) with releasing := none }

def removalEnds (id : Nat) (asks : Bool) (manager : AVDownloaderManager) : AVDownloaderManager :=
  if (id, asks) ∉ manager.removals ∨ (manager.downloaders id).client.isSome then manager
  else
    let released := { manager.onDownloader id (·.released) with
      removals := manager.removals.erase (id, asks) }
    if asks then released.post .processNextTask else released

end AVDownloaderManager

/-- The steps of a downloader that are not calls of the manager. -/
inductive InnerEvent where
  | proceed (network : NetConnType) (expired : Bool)
  | handle (network : NetConnType)
  | work (task : Nat) (execution : Execution)
  | cancelWaited (task : Nat) (expired : Bool)
deriving DecidableEq

def InnerEvent.event : InnerEvent → DownloaderEvent
  | .proceed network expired => .proceed network expired
  | .handle network => .handle network
  | .work task execution => .work task execution
  | .cancelWaited task expired => .cancelWaited task expired

inductive ManagerEvent where
  | addDownloadTask (url filePath : List Char)
  | removeDownloadTask (id : Nat)
  | pauseDownloadTask (id : Nat)
  | resumeDownloadTask (id : Nat)
  | setAllowCellularAccess (allow : Bool)
  | onNetworkChanged (network : NetConnType)
  | handleMessage
  | releaseEnds
  | removalEnds (id : Nat) (asks : Bool)
  | proceed (network : NetConnType)
  | pauseGoesOn (call : PauseCall) (late : Bool)
  | deliver (id : Nat) (network : NetConnType) (sniff : Sniff) (results : ParseResults)
  | downloader (id : Nat) (event : InnerEvent)
deriving DecidableEq

namespace AVDownloaderManager

/-- The step function; a thread that finds `mapMutex_` held waits. -/
def next (manager : AVDownloaderManager) (event : ManagerEvent) : AVDownloaderManager :=
  match event with
  | .addDownloadTask url filePath =>
    if manager.holder.isSome then manager else manager.addDownloadTask url filePath
  | .removeDownloadTask id =>
    if manager.holder.isSome then manager else manager.removeDownloadTask id
  | .pauseDownloadTask id =>
    if manager.holder.isSome then manager else manager.pauseDownloadTask id
  | .resumeDownloadTask id =>
    if manager.holder.isSome then manager else manager.resumeDownloadTask id
  | .setAllowCellularAccess allow => { manager with allowCellularAccess := allow }
  | .onNetworkChanged network =>
    if manager.holder.isSome then manager else manager.onNetworkChanged network
  | .handleMessage =>
    if manager.holder.isSome ∨ manager.releasing.isSome then manager else manager.handleMessage
  | .releaseEnds => manager.releaseEnds
  | .removalEnds id asks => manager.removalEnds id asks
  | .proceed network => manager.proceed network
  | .pauseGoesOn call late =>
    if call ∉ manager.pauses then manager else manager.pauseGoesOn call late
  | .deliver id network sniff results =>
    if manager.holder.isSome then manager else manager.deliver id network sniff results
  | .downloader id event => manager.onDownloader id (·.next event.event)

end AVDownloaderManager

end PlayerFramework.Downloader
