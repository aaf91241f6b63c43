import PlayerFramework.Player.PendingTasks

/-!
Which seek is executed last.  `seekOf` labels a handler with the mode and the
target of the seek it performs; `requested` is a history variable, the last
`SeekTask` since the last `ClearAllTask`.
-/

namespace PlayerFramework.Player

open Transition PlayerServerTaskMgr

abbrev SeekRequest := Int32 × Int64

structure SeekTrace (Handler : Type) where
  mgr : PlayerServerTaskMgr Handler
  executed : List Handler := []
  requested : Option SeekRequest := none

inductive TaskEvent (Handler : Type) where
  | mgrCall (call : TaskMgrCall Handler)
  | takeTask

variable {Handler : Type}

namespace SeekTrace

def start : SeekTrace Handler :=
  { mgr := .initial }

/-- The thread takes the first entry of its list and executes it. -/
def takeTask (trace : SeekTrace Handler) : SeekTrace Handler :=
  match trace.mgr.taskThread.taskList with
  | [] => trace
  | .dummyTask :: rest => { trace with
      mgr := { trace.mgr with taskThread := { taskList := rest } } }
  | .handler task :: rest => { trace with
      mgr := { trace.mgr with taskThread := { taskList := rest } }
      executed := trace.executed ++ [task] }

def requestedAfter (trace : SeekTrace Handler) : TaskMgrCall Handler → Option SeekRequest
  | .seekTask _ _ _ seekMode seekTime => some (seekMode, seekTime)
  | .clearAllTask => none
  | _ => trace.requested

def step (trace : SeekTrace Handler) : TaskEvent Handler → SeekTrace Handler
  | .mgrCall call => { trace with
      mgr := trace.mgr.call call
      requested := trace.requestedAfter call }
  | .takeTask => trace.takeTask

/-- Nothing is in flight, and the thread has executed all it was given. -/
def Idle (trace : SeekTrace Handler) : Prop :=
  trace.mgr.currTwoPhaseTask = none ∧ trace.mgr.taskThread.handlers = []

end SeekTrace

section Labels

variable (seekOf : Handler → Option SeekRequest)

/-- A handler that is present and performs no `SeekTask` seek. -/
def Plain (task : Option Handler) : Prop :=
  ∃ handler, task = some handler ∧ seekOf handler = none

/-- `SeekTask` is given the handler of the seek it names; the other handlers
perform no such seek. -/
def TaskMgrCall.Labelled : TaskMgrCall Handler → Prop
  | .launchTask task _ _ _ => Plain seekOf task
  | .speedTask task cancelTask _ _ => Plain seekOf task ∧ Plain seekOf cancelTask
  | .seekTask task cancelTask _ seekMode seekTime =>
    (∃ handler, task = some handler ∧ seekOf handler = some (seekMode, seekTime)) ∧
      Plain seekOf cancelTask
  | .freezeTask task cancelTask _ => Plain seekOf task ∧ Plain seekOf cancelTask
  | .unFreezeTask task cancelTask _ => Plain seekOf task ∧ Plain seekOf cancelTask
  | .seekContinousTask task _ => Plain seekOf task
  | .setVideoSurfaeTask task _ => Plain seekOf task
  | .markTaskDone _ => True
  | .clearAllTask => True

/-- A busy `SeekTask` does not hit a record that stands for something else: the
narrowed target of another seek in flight, or what is left in the record while
no `SeekTask` seek is in flight. -/
def TaskMgrCall.MissesForeignRecord (mgr : PlayerServerTaskMgr Handler) :
    TaskMgrCall Handler → Prop
  | .seekTask _ _ _ seekMode seekTime => ∀ task, mgr.currTwoPhaseTask = some task →
      match seekOf task with
      | some (mode, time) => mode = seekMode → time.toInt32.toInt64 = seekTime → time = seekTime
      | none => mgr.sameAsCurrentSeek seekMode seekTime = false
  | _ => True

def TaskEvent.KeepsSeek (trace : SeekTrace Handler) : TaskEvent Handler → Prop
  | .mgrCall call => call.Labelled seekOf ∧ call.FindsSeeksCancellable trace.mgr ∧
      call.MissesForeignRecord seekOf trace.mgr
  | .takeTask => True

theorem Plain.ne_none {seekOf : Handler → Option SeekRequest} {task : Option Handler}
    (plain : Plain seekOf task) : task ≠ none := by
  obtain ⟨handler, rfl, _⟩ := plain
  simp

theorem Plain.bind {seekOf : Handler → Option SeekRequest} {task : Option Handler}
    (plain : Plain seekOf task) : task.bind seekOf = none := by
  obtain ⟨handler, rfl, label⟩ := plain
  exact label

theorem TaskMgrCall.Labelled.present {seekOf : Handler → Option SeekRequest}
    {call : TaskMgrCall Handler} (labelled : call.Labelled seekOf) : call.HandlersPresent := by
  cases call with
  | launchTask => exact Plain.ne_none labelled
  | speedTask => exact ⟨labelled.1.ne_none, labelled.2.ne_none⟩
  | seekTask =>
    obtain ⟨⟨handler, rfl, _⟩, plain⟩ := labelled
    exact ⟨by simp, plain.ne_none⟩
  | freezeTask | unFreezeTask => exact labelled.1.ne_none
  | seekContinousTask | setVideoSurfaeTask => exact Plain.ne_none labelled
  | markTaskDone | clearAllTask => trivial

end Labels

namespace TwoPhaseTaskItem

variable (seekOf : Handler → Option SeekRequest)

/-- The seek that the item's turn performs. -/
def seek (item : TwoPhaseTaskItem Handler) : Option SeekRequest :=
  item.handler.bind seekOf

structure Labelled (item : TwoPhaseTaskItem Handler) : Prop where
  cancel : item.cancelTask.bind seekOf = none
  task : ∀ request, item.task.bind seekOf = some request →
    (item.type = .seeking ∨ item.type = .cancelTask) ∧
      item.seekMode = request.1 ∧ item.seekTime = request.2

variable {seekOf}

variable {item : TwoPhaseTaskItem Handler}

theorem labelled_of_plain (task : item.task.bind seekOf = none)
    (cancel : item.cancelTask.bind seekOf = none) :
    item.Labelled seekOf :=
  ⟨cancel, fun request label => by simp [task] at label⟩

theorem seek_of_plain (task : item.task.bind seekOf = none)
    (cancel : item.cancelTask.bind seekOf = none) :
    item.seek seekOf = none := by
  unfold seek handler
  split
  · exact cancel
  · exact task

theorem Labelled.retag (labelled : item.Labelled seekOf) {old : PlayerServerTaskType}
    {replaced : TwoPhaseTaskItem Handler → Bool} :
    (item.retag old replaced).Labelled seekOf := by
  unfold TwoPhaseTaskItem.retag
  split
  · exact ⟨labelled.cancel, fun request label => ⟨.inr rfl, (labelled.task request label).2⟩⟩
  · exact labelled

theorem Labelled.seek_retag_rateChange (labelled : item.Labelled seekOf)
    (replaced : TwoPhaseTaskItem Handler → Bool) :
    (item.retag .rateChange replaced).seek seekOf = item.seek seekOf := by
  unfold TwoPhaseTaskItem.retag
  split
  · rename_i caught
    have plain : item.task.bind seekOf = none := by
      cases label : item.task.bind seekOf with
      | none => rfl
      | some request =>
        have kind := (labelled.task request label).1
        simp [caught.1] at kind
    rw [seek_of_plain plain labelled.cancel]
    exact seek_of_plain plain labelled.cancel
  · rfl

theorem Labelled.seek_retag_seeking (labelled : item.Labelled seekOf) :
    (item.retag .seeking fun _ => true).seek seekOf = none := by
  unfold TwoPhaseTaskItem.retag
  split
  · simpa only [seek, handler, if_true] using labelled.cancel
  rename_i kept
  unfold seek handler
  split
  · exact labelled.cancel
  rename_i notCancel
  cases label : item.task.bind seekOf with
  | none => rfl
  | some request =>
    have kind := (labelled.task request label).1
    simp [notCancel] at kind
    simp [kind] at kept

end TwoPhaseTaskItem

namespace SeekTrace

variable {seekOf : Handler → Option SeekRequest}

/-- Everything that was handed to the thread and not cancelled on it. -/
def started (trace : SeekTrace Handler) : List Handler :=
  trace.executed ++ trace.mgr.taskThread.handlers

/-- The seeks of a run in their order: those started, then those still pending. -/
def seeks (seekOf : Handler → Option SeekRequest) (trace : SeekTrace Handler) :
    List SeekRequest :=
  trace.started.filterMap seekOf ++
    trace.mgr.pendingTwoPhaseTasks.filterMap (TwoPhaseTaskItem.seek seekOf)

def lastExecutedSeek (seekOf : Handler → Option SeekRequest) (trace : SeekTrace Handler) :
    Option SeekRequest :=
  (trace.executed.filterMap seekOf).getLast?

/-- The record of the current seek describes the seek in flight, and the last
seek requested is the last one of `seeks`. -/
structure Ordered (seekOf : Handler → Option SeekRequest) (trace : SeekTrace Handler) :
    Prop where
  labelled : ∀ item ∈ trace.mgr.pendingTwoPhaseTasks, item.Labelled seekOf
  current : ∀ task, trace.mgr.currTwoPhaseTask = some task → trace.started.getLast? = some task
  recorded : ∀ task request, trace.mgr.currTwoPhaseTask = some task →
    seekOf task = some request →
      trace.mgr.currentSeekMode = request.1 ∧ trace.mgr.currentSeekTime = request.2.toInt32
  last : ∀ request, trace.requested = some request →
    (trace.seeks seekOf).getLast? = some request

theorem start_ordered : (start : SeekTrace Handler).Ordered seekOf := by
  refine ⟨?_, ?_, ?_, ?_⟩
  · intro item member
    cases member
  · intro task current
    cases current
  · intro task request current
    cases current
  · intro request requested
    cases requested

theorem takeTask_started (trace : SeekTrace Handler) : trace.takeTask.started = trace.started := by
  unfold takeTask
  split
  · rfl
  · rename_i rest list
    simp [started, TaskThread.handlers, list]
  · rename_i task rest list
    simp [started, TaskThread.handlers, list]

theorem takeTask_mgr (trace : SeekTrace Handler) :
    trace.takeTask.mgr.currTwoPhaseTask = trace.mgr.currTwoPhaseTask ∧
      trace.takeTask.mgr.pendingTwoPhaseTasks = trace.mgr.pendingTwoPhaseTasks ∧
      trace.takeTask.mgr.currentSeekMode = trace.mgr.currentSeekMode ∧
      trace.takeTask.mgr.currentSeekTime = trace.mgr.currentSeekTime ∧
      trace.takeTask.mgr.isInited = trace.mgr.isInited ∧
      trace.takeTask.requested = trace.requested := by
  unfold takeTask
  split <;> exact ⟨rfl, rfl, rfl, rfl, rfl, rfl⟩

variable {trace : SeekTrace Handler} {mgr : PlayerServerTaskMgr Handler}
  {task cancelTask : Option Handler} {taskName : String}

theorem takeTask_serving (serving : trace.mgr.Serving) :
    trace.takeTask.mgr.Serving := by
  obtain ⟨current, pending, _, _, inited, _⟩ := takeTask_mgr trace
  refine ⟨inited.trans serving.inited, ?_, ?_⟩
  · rw [pending]
    exact serving.startable
  · rw [PlayerServerTaskMgr.NeverStranded, pending, current]
    exact serving.inFlight

theorem takeTask_ordered (ordered : trace.Ordered seekOf) :
    trace.takeTask.Ordered seekOf := by
  obtain ⟨current, pending, mode, time, _, requested⟩ := takeTask_mgr trace
  refine ⟨?_, ?_, ?_, ?_⟩
  · rw [pending]
    exact ordered.labelled
  · rw [current, takeTask_started]
    exact ordered.current
  · rw [current, mode, time]
    exact ordered.recorded
  · rw [requested, seeks, takeTask_started, pending]
    exact ordered.last

/-- The trace after a call, once the manager's part has been computed. -/
def withMgr (trace : SeekTrace Handler) (mgr : PlayerServerTaskMgr Handler)
    (requested : Option SeekRequest) : SeekTrace Handler :=
  { trace with mgr, requested }

/-- An idle manager starts a task: it is the last one started.  A `SeekTask`
seek also becomes the record and the last request. -/
theorem Ordered.enqueued (ordered : trace.Ordered seekOf)
    (noPending : trace.mgr.pendingTwoPhaseTasks = []) {task : Handler}
    {requested : Option SeekRequest} (current : mgr.currTwoPhaseTask = some task)
    (thread : mgr.taskThread.handlers = trace.mgr.taskThread.handlers ++ [task])
    (pending : mgr.pendingTwoPhaseTasks = trace.mgr.pendingTwoPhaseTasks)
    (effect : (seekOf task = none ∧ requested = trace.requested) ∨
      ∃ request, seekOf task = some request ∧ requested = some request ∧
        mgr.currentSeekMode = request.1 ∧ mgr.currentSeekTime = request.2.toInt32) :
    (trace.withMgr mgr requested).Ordered seekOf := by
  have startedEq : (trace.withMgr mgr requested).started = trace.started ++ [task] := by
    simp [started, withMgr, thread]
  have seeksBefore : trace.seeks seekOf = trace.started.filterMap seekOf := by
    simp [seeks, noPending]
  have seeksAfter : (trace.withMgr mgr requested).seeks seekOf =
      (trace.started ++ [task]).filterMap seekOf := by
    rw [seeks, startedEq]
    simp [withMgr, pending, noPending]
  refine ⟨?_, ?_, ?_, ?_⟩
  · intro item member
    exact ordered.labelled item (pending ▸ member)
  · intro running inFlight
    have same : task = running := Option.some.inj (current.symm.trans inFlight)
    rw [startedEq, same]
    exact List.getLast?_concat
  · intro running request inFlight label
    have same : task = running := Option.some.inj (current.symm.trans inFlight)
    subst same
    rcases effect with ⟨plain, _⟩ | ⟨other, isSeek, _, mode, time⟩
    · simp [plain] at label
    · rw [isSeek, Option.some.injEq] at label
      subst label
      exact ⟨mode, time⟩
  · intro request isRequest
    rw [seeksAfter]
    rcases effect with ⟨plain, same⟩ | ⟨other, isSeek, same, _, _⟩
    · have before := ordered.last request (same.symm.trans isRequest)
      rw [seeksBefore] at before
      simpa [plain] using before
    · have chosen : other = request := Option.some.inj (same.symm.trans isRequest)
      simp [isSeek, chosen]

/-- A busy manager appends an item; the thread, the task in flight and the
record stay. -/
theorem Ordered.appended (ordered : trace.Ordered seekOf) {requested : Option SeekRequest}
    (change : TwoPhaseTaskItem Handler → TwoPhaseTaskItem Handler)
    (added : TwoPhaseTaskItem Handler) (current : mgr.currTwoPhaseTask = trace.mgr.currTwoPhaseTask)
    (thread : mgr.taskThread = trace.mgr.taskThread)
    (mode : mgr.currentSeekMode = trace.mgr.currentSeekMode)
    (time : mgr.currentSeekTime = trace.mgr.currentSeekTime)
    (pending : mgr.pendingTwoPhaseTasks = trace.mgr.pendingTwoPhaseTasks.map change ++ [added])
    (old : ∀ item ∈ trace.mgr.pendingTwoPhaseTasks, (change item).Labelled seekOf)
    (new : added.Labelled seekOf) (last : ∀ request, requested = some request →
      (trace.started.filterMap seekOf ++
        ((trace.mgr.pendingTwoPhaseTasks.map change).filterMap (TwoPhaseTaskItem.seek seekOf) ++
          (added.seek seekOf).toList)).getLast? = some request) :
    (trace.withMgr mgr requested).Ordered seekOf := by
  have startedEq : (trace.withMgr mgr requested).started = trace.started := by
    simp [started, withMgr, thread]
  refine ⟨?_, ?_, ?_, ?_⟩
  · intro item member
    simp only [withMgr, pending, List.mem_append, List.mem_map, List.mem_singleton] at member
    rcases member with ⟨before, present, rfl⟩ | rfl
    · exact old before present
    · exact new
  · intro task inFlight
    rw [startedEq]
    exact ordered.current task (current.symm.trans inFlight)
  · intro task request inFlight label
    have recorded := ordered.recorded task request (current.symm.trans inFlight) label
    exact ⟨mode.trans recorded.1, time.trans recorded.2⟩
  · intro request isRequest
    rw [seeks, startedEq]
    have same := last request isRequest
    have single : [added].filterMap (TwoPhaseTaskItem.seek seekOf) =
      (added.seek seekOf).toList := by
      cases label : added.seek seekOf <;> simp [label]
    simpa only [withMgr, pending, List.filterMap_append, single] using same

theorem noPending_of_idle (serving : mgr.Serving) (idle : mgr.currTwoPhaseTask = none) :
    mgr.pendingTwoPhaseTasks = [] := by
  by_contra nonempty
  exact serving.inFlight nonempty idle

theorem launch_ordered (serving : trace.mgr.Serving) (ordered : trace.Ordered seekOf)
    {type : PlayerServerTaskType} (plain : Plain seekOf task)
    (cancel : cancelTask.bind seekOf = none) :
    (trace.withMgr (trace.mgr.launch task cancelTask type taskName).2 trace.requested).Ordered
      seekOf := by
  obtain ⟨handler, rfl, label⟩ := plain
  rw [launch, if_neg (by simp [serving.inited])]
  by_cases idle : trace.mgr.currTwoPhaseTask = none
  · rw [if_pos idle]
    exact ordered.enqueued (noPending_of_idle serving idle) rfl
      (TaskThread.handlers_enqueueTask _ _) rfl (.inl ⟨label, rfl⟩)
  · rw [if_neg idle]
    let added : TwoPhaseTaskItem Handler :=
      { type, task := some handler, cancelTask, taskName }
    have seek : added.seek seekOf = none := TwoPhaseTaskItem.seek_of_plain label cancel
    refine ordered.appended id added rfl rfl rfl rfl
      (by simp [pushPending, added]) ordered.labelled
      (TwoPhaseTaskItem.labelled_of_plain label cancel) ?_
    intro request isRequest
    rw [seek]
    simpa [seeks] using ordered.last request isRequest

theorem launchTask_ordered (serving : trace.mgr.Serving) (ordered : trace.Ordered seekOf)
    {type : PlayerServerTaskType} (plain : Plain seekOf task) :
    (trace.withMgr (trace.mgr.launchTask task type taskName cancelTask).2
      trace.requested).Ordered seekOf := by
  rw [launchTask, if_neg (by simp [serving.inited])]
  split
  · exact ordered
  · exact launch_ordered serving ordered plain rfl

theorem speedTask_ordered (serving : trace.mgr.Serving) (ordered : trace.Ordered seekOf)
    {speedMode : Int32} (plain : Plain seekOf task) (cancel : Plain seekOf cancelTask) :
    (trace.withMgr (trace.mgr.speedTask task cancelTask taskName speedMode).2
      trace.requested).Ordered seekOf := by
  obtain ⟨handler, rfl, label⟩ := plain
  rw [speedTask, if_neg (by simp [serving.inited])]
  by_cases idle : trace.mgr.currTwoPhaseTask = none
  · rw [if_pos idle]
    exact ordered.enqueued (noPending_of_idle serving idle) rfl
      (TaskThread.handlers_enqueueTask _ _) rfl (.inl ⟨label, rfl⟩)
  · rw [if_neg idle]
    refine ordered.appended _ _ rfl rfl rfl rfl rfl ?_
      (TwoPhaseTaskItem.labelled_of_plain label cancel.bind) ?_
    · intro item member
      exact (ordered.labelled item member).retag
    intro request isRequest
    have addedSeek : TwoPhaseTaskItem.seek seekOf
        ⟨.rateChange, some handler, cancelTask, taskName, -1, -1, speedMode⟩ = none :=
      TwoPhaseTaskItem.seek_of_plain label cancel.bind
    rw [addedSeek, List.filterMap_map]
    have unchanged := List.filterMap_congr fun item member =>
      (ordered.labelled item member).seek_retag_rateChange fun item => item.speedMode != speedMode
    simp only [Function.comp_def, unchanged, Option.toList_none, List.append_nil]
    exact ordered.last request isRequest

/-- Where the record is not foreign, `SeekTask` finds its own mode and target in
it only when the task in flight is that very seek. -/
theorem Ordered.same_seek_inFlight (ordered : trace.Ordered seekOf) {running : Handler}
    (inFlight : trace.mgr.currTwoPhaseTask = some running) {seekMode : Int32} {seekTime : Int64}
    (misses : match seekOf running with
      | some (mode, time) => mode = seekMode → time.toInt32.toInt64 = seekTime → time = seekTime
      | none => trace.mgr.sameAsCurrentSeek seekMode seekTime = false)
    (same : trace.mgr.sameAsCurrentSeek seekMode seekTime = true) :
    seekOf running = some (seekMode, seekTime) := by
  cases label : seekOf running with
  | none =>
    rw [label] at misses
    rw [misses] at same
    cases same
  | some request =>
    rw [label] at misses
    obtain ⟨mode, time⟩ := ordered.recorded running request inFlight label
    simp only [sameAsCurrentSeek, mode, time, Bool.and_eq_true,
      beq_iff_eq] at same
    rw [← same.1, ← misses same.1 same.2]

theorem seekTask_ordered (serving : trace.mgr.Serving) (ordered : trace.Ordered seekOf)
    {seekMode : Int32} {seekTime : Int64}
    (labelled : ∃ handler, task = some handler ∧ seekOf handler = some (seekMode, seekTime))
    (cancel : Plain seekOf cancelTask)
    (misses : (TaskMgrCall.seekTask task cancelTask taskName seekMode seekTime).MissesForeignRecord
      seekOf trace.mgr) :
    (trace.withMgr (trace.mgr.seekTask task cancelTask taskName seekMode seekTime).2
      (some (seekMode, seekTime))).Ordered seekOf := by
  obtain ⟨handler, rfl, label⟩ := labelled
  rw [seekTask, if_neg (by simp [serving.inited])]
  by_cases idle : trace.mgr.currTwoPhaseTask = none
  · rw [if_pos idle]
    exact ordered.enqueued (noPending_of_idle serving idle) rfl
      (TaskThread.handlers_enqueueTask _ _) rfl (.inr ⟨_, label, rfl, rfl, rfl⟩)
  · rw [if_neg idle]
    obtain ⟨running, inFlight⟩ := Option.ne_none_iff_exists'.mp idle
    have cleared : (trace.mgr.pendingTwoPhaseTasks.map
        (TwoPhaseTaskItem.retag .seeking fun _ => true)).filterMap
          (TwoPhaseTaskItem.seek seekOf) = [] := by
      simp only [List.filterMap_map, List.filterMap_eq_nil_iff]
      intro item member
      exact (ordered.labelled item member).seek_retag_seeking
    refine ordered.appended _ _ rfl rfl rfl rfl rfl ?_ ⟨cancel.bind, ?_⟩ ?_
    · intro item member
      exact (ordered.labelled item member).retag
    · intro request isSeek
      rw [Option.bind_some, label, Option.some.injEq] at isSeek
      subst isSeek
      split <;> simp
    · intro request isRequest
      rw [cleared]
      by_cases same : trace.mgr.sameAsCurrentSeek seekMode seekTime = true
      · -- The dropped request repeats the seek in flight, which was started last.
        have running_seek := ordered.same_seek_inFlight inFlight (misses running inFlight) same
        obtain ⟨before, started⟩ :=
          List.getLast?_eq_some_iff.mp (ordered.current running inFlight)
        simp [same, TwoPhaseTaskItem.seek, TwoPhaseTaskItem.handler, cancel.bind, started,
          running_seek, isRequest]
      · simp [same, TwoPhaseTaskItem.seek, TwoPhaseTaskItem.handler, label, isRequest]

theorem markTaskDone_ordered (serving : trace.mgr.Serving) (ordered : trace.Ordered seekOf)
    (taskName : String) :
    (trace.withMgr (trace.mgr.markTaskDone taskName).2 trace.requested).Ordered seekOf := by
  rw [markTaskDone, if_neg (by simp [serving.inited])]
  cases pending : trace.mgr.pendingTwoPhaseTasks with
  | nil =>
    simp only [finishCurrent, pending]
    refine ⟨by simp [withMgr], by simp [withMgr], by simp [withMgr], ?_⟩
    intro request isRequest
    simpa [seeks, started, withMgr, pending] using ordered.last request isRequest
  | cons item rest =>
    have startable : item.handler ≠ none :=
      (serving.startable item (by simp [pending])).startable
    obtain ⟨task, present⟩ := Option.ne_none_iff_exists'.mp startable
    simp only [finishCurrent, pending, startItem, present]
    have itemLabelled := ordered.labelled item (by simp [pending])
    refine ⟨?_, ?_, ?_, ?_⟩
    · intro later member
      exact ordered.labelled later (by simp [pending, show later ∈ rest from member])
    · intro running inFlight
      have same : task = running := Option.some.inj inFlight
      simp [started, withMgr, same]
    · intro running request inFlight label
      have same : task = running := Option.some.inj inFlight
      subst same
      -- A seek runs only from an item still typed SEEKING, whose fields become the record.
      by_cases isCancel : item.type = .cancelTask
      · rw [TwoPhaseTaskItem.handler, if_pos isCancel] at present
        have plain := itemLabelled.cancel
        simp [present, label] at plain
      · rw [TwoPhaseTaskItem.handler, if_neg isCancel] at present
        obtain ⟨kind, mode, time⟩ := itemLabelled.task request (by simp [present, label])
        have seeking : item.type = .seeking := kind.resolve_right isCancel
        simp [withMgr, seeking, mode, time]
    · intro request isRequest
      have before := ordered.last request isRequest
      have seek : item.seek seekOf = seekOf task := by
        simp [TwoPhaseTaskItem.seek, present]
      have started_eq : (seeks seekOf trace) =
          (trace.started ++ [task]).filterMap seekOf ++
            rest.filterMap (TwoPhaseTaskItem.seek seekOf) := by
        cases label : seekOf task <;> simp [seeks, pending, seek, label]
      rw [started_eq] at before
      simpa [seeks, started, withMgr] using before

theorem clearAllTask_ordered (serving : trace.mgr.Serving) :
    (trace.withMgr trace.mgr.clearAllTask none).Ordered seekOf := by
  rw [clearAllTask, if_neg (by simp [serving.inited])]
  exact ⟨by simp [withMgr], by simp [withMgr], by simp [withMgr], by simp [withMgr]⟩

theorem step_ordered (trace : SeekTrace Handler) (event : TaskEvent Handler)
    (before : trace.mgr.Serving ∧ trace.Ordered seekOf) (keeps : event.KeepsSeek seekOf trace) :
    (trace.step event).mgr.Serving ∧ (trace.step event).Ordered seekOf := by
  obtain ⟨serving, ordered⟩ := before
  cases event with
  | takeTask => exact ⟨takeTask_serving serving, takeTask_ordered ordered⟩
  | mgrCall call =>
    obtain ⟨labelled, found, misses⟩ := keeps
    refine ⟨call_serving trace.mgr call serving
      ⟨labelled.present, found⟩, ?_⟩
    cases call with
    | launchTask => exact launchTask_ordered serving ordered labelled
    | speedTask => exact speedTask_ordered serving ordered labelled.1 labelled.2
    | seekTask => exact seekTask_ordered serving ordered labelled.1 labelled.2 misses
    | freezeTask | unFreezeTask => exact launch_ordered serving ordered labelled.1 labelled.2.bind
    | seekContinousTask | setVideoSurfaeTask => exact launch_ordered serving ordered labelled rfl
    | markTaskDone taskName => exact markTaskDone_ordered serving ordered taskName
    | clearAllTask => exact clearAllTask_ordered serving

/-- A busy manager queues the request as a `CANCEL_TASK`, to be dropped without
seeking. -/
def DropsSeek (mgr : PlayerServerTaskMgr Handler) (task cancelTask : Option Handler)
    (taskName : String) (seekMode : Int32) (seekTime : Int64) : Prop :=
  mgr.currTwoPhaseTask ≠ none ∧
    ((mgr.seekTask task cancelTask taskName seekMode seekTime).2.pendingTwoPhaseTasks.getLast?.map
      TwoPhaseTaskItem.type) = some .cancelTask

theorem dropsSeek_iff (serving : mgr.Serving) (task cancelTask : Option Handler) (taskName : String)
    (seekMode : Int32) (seekTime : Int64) :
    DropsSeek mgr task cancelTask taskName seekMode seekTime ↔
      mgr.currTwoPhaseTask ≠ none ∧ mgr.sameAsCurrentSeek seekMode seekTime = true := by
  refine and_congr_right fun busy => ?_
  rw [seekTask, if_neg (by simp [serving.inited]), if_neg busy]
  by_cases same : mgr.sameAsCurrentSeek seekMode seekTime = true <;> simp [same]

/-- In a run that keeps its seeks, a request is dropped only for the very seek
in flight if and only if it misses foreign records; and an idle manager has
executed the last seek that was requested. -/
theorem last_seek_wins (seekOf : Handler → Option SeekRequest) (events : List (TaskEvent Handler))
    (keeps : Along step (fun trace event => event.KeepsSeek seekOf trace) start events) :
    let trace := run step start events
    (∀ task cancelTask taskName seekMode seekTime,
      (DropsSeek trace.mgr task cancelTask taskName seekMode seekTime →
        ∃ running, trace.mgr.currTwoPhaseTask = some running ∧
          seekOf running = some (seekMode, seekTime)) ↔
      (TaskMgrCall.seekTask task cancelTask taskName seekMode seekTime).MissesForeignRecord
        seekOf trace.mgr) ∧
    (trace.Idle → ∀ request, trace.requested = some request →
      trace.lastExecutedSeek seekOf = some request) := by
  intro trace
  obtain ⟨serving, ordered⟩ : trace.mgr.Serving ∧ trace.Ordered seekOf :=
    invariant_of_along (fun trace => trace.mgr.Serving ∧ trace.Ordered seekOf) step_ordered keeps
      ⟨PlayerServerTaskMgr.initial_serving, start_ordered⟩
  refine ⟨?_, ?_⟩
  · intro task cancelTask taskName seekMode seekTime
    rw [dropsSeek_iff serving]
    constructor
    · intro dropped running inFlight
      have busy : trace.mgr.currTwoPhaseTask ≠ none := by simp [inFlight]
      have sameSeek (same : trace.mgr.sameAsCurrentSeek seekMode seekTime = true) :
          seekOf running = some (seekMode, seekTime) := by
        obtain ⟨other, otherInFlight, label⟩ := dropped ⟨busy, same⟩
        rwa [Option.some.inj (inFlight.symm.trans otherInFlight)]
      cases label : seekOf running with
      | none =>
        by_contra same
        simp [sameSeek (Bool.not_eq_false _ ▸ same)] at label
      | some request =>
        intro mode narrowed
        obtain ⟨recordedMode, recordedTime⟩ := ordered.recorded running request inFlight label
        have same := sameSeek (by
          simp [PlayerServerTaskMgr.sameAsCurrentSeek, recordedMode, recordedTime, mode, narrowed])
        rw [label, Option.some.injEq] at same
        rw [same]
    · rintro misses ⟨busy, same⟩
      obtain ⟨running, inFlight⟩ := Option.ne_none_iff_exists'.mp busy
      exact ⟨running, inFlight, ordered.same_seek_inFlight inFlight (misses running inFlight) same⟩
  · rintro ⟨idle, drained⟩ request isRequest
    have last := ordered.last request isRequest
    simpa [seeks, started, drained, noPending_of_idle serving idle, lastExecutedSeek] using last

/-- Three seeks while the first is in flight: the second is replaced, the third
is executed. -/
theorem third_seek_wins :
    let seek (time : Int64) : TaskEvent (Option SeekRequest) :=
      .mgrCall (.seekTask (some (some (0, time))) (some none) "seek" 0 time)
    let done : TaskEvent (Option SeekRequest) := .mgrCall (.markTaskDone "seek done")
    let trace := run step start
      [seek 5, seek 7, seek 9, .takeTask, done, .takeTask, done, .takeTask, done]
    trace.Idle ∧ trace.lastExecutedSeek id = some (0, 9) := by
  intro seek done trace
  have keeps : Along step (fun trace event => event.KeepsSeek id trace) start
      [seek 5, seek 7, seek 9, .takeTask, done, .takeTask, done, .takeTask, done] := by
    simp [seek, done, Along, TaskEvent.KeepsSeek, TaskMgrCall.Labelled, Plain,
      TaskMgrCall.FindsSeeksCancellable, TaskMgrCall.MissesForeignRecord, step, start,
      PlayerServerTaskMgr.call, PlayerServerTaskMgr.seekTask, PlayerServerTaskMgr.initial,
      PlayerServerTaskMgr.init, PlayerServerTaskMgr.enqueueSeekTask,
      PlayerServerTaskMgr.sameAsCurrentSeek]
  have idle : trace.Idle := ⟨rfl, rfl⟩
  exact ⟨idle, (last_seek_wins id _ keeps).2 idle (0, 9) rfl⟩

/-- A seek to `2^32 + 5` is recorded as 5, so a seek to 5 is dropped behind it
and the player stays at the first target. -/
theorem narrowed_record_drops_seek :
    let seek (time : Int64) : TaskEvent (Option SeekRequest) :=
      .mgrCall (.seekTask (some (some (0, time))) (some none) "seek" 0 time)
    let done : TaskEvent (Option SeekRequest) := .mgrCall (.markTaskDone "seek done")
    let trace := run step start [seek 4294967301, seek 5, .takeTask, done, .takeTask, done]
    DropsSeek (run step start [seek 4294967301]).mgr (some (some (0, 5))) (some none) "seek" 0 5 ∧
      trace.Idle ∧ trace.requested = some (0, 5) ∧
        trace.lastExecutedSeek id = some (0, 4294967301) := by
  intro seek done trace
  refine ⟨⟨by decide, by decide⟩, ⟨rfl, rfl⟩, rfl, rfl⟩

end SeekTrace

end PlayerFramework.Player
