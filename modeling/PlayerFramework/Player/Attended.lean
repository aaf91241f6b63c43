import PlayerFramework.Player.ServerPhases
import PlayerFramework.Player.TwoPhase

/-!
No orphaned two-phase task.  A handler that returns without `MarkTaskDone` must
leave behind an accepted request whose completion makes the current state call
it; `Attends` names the answers and the states in which every handler does.
-/

namespace PlayerFramework.Player

open Transition PlayerServerTaskMgr

namespace PlayerServerState

/-- In the state, every message that completes the request calls `MarkTaskDone`. -/
def Marks (state : PlayerServerState) (request : EngineRequest) : Prop :=
  ∀ looping message, request.completedBy message = true →
    (state.onMessageReceived looping message).mark ≠ none

/-- The state changes that complete a request, if it is completed by one. -/
def marksChange (state : PlayerServerState) : EngineRequest → Bool
  | .prepareAsync => (state.handleStateChange .prepared).mark.isSome &&
      (state.handleStateChange .stateError).mark.isSome
  | .play => (state.handleStateChange .started).mark.isSome
  | .pause => (state.handleStateChange .paused).mark.isSome
  | .stop => (state.handleStateChange .stopped).mark.isSome
  | _ => true

@[simp] theorem marks_iff (state : PlayerServerState) (request : EngineRequest) :
    state.Marks request ↔ state.marksChange request = true := by
  constructor
  · intro marks
    have seen (extra : PlayerStates) (status : extra ≠ .playbackComplete)
        (completes : request.completedBy (.stateChange extra) = true) :
        (state.handleStateChange extra).mark.isSome := by
      have marked := marks false (.stateChange extra) completes
      rw [Option.isSome_iff_ne_none]
      cases extra <;> first | exact absurd rfl status | exact marked
    cases request with
    | prepareAsync =>
      rw [marksChange, seen .prepared (by decide) rfl, seen .stateError (by decide) rfl]
      rfl
    | play => exact seen .started (by decide) rfl
    | pause => exact seen .paused (by decide) rfl
    | stop => exact seen .stopped (by decide) rfl
    | seek | setPlaybackSpeed | setPlaybackRate => rfl
  · intro marks looping message completes
    have seen (extra : PlayerStates) (completed : request.completedBy (.stateChange extra) = true) :
        (state.messageStateChange extra).mark ≠ none := by
      rw [← Option.isSome_iff_ne_none]
      cases request <;> cases extra <;>
        simp_all [EngineRequest.completedBy, marksChange, messageStateChange]
    cases message with
    | stateChange extra => exact seen extra completes
    | seekDone | speedDone | rateDone => simp [onMessageReceived]
    | _ => cases request <;> cases completes

end PlayerServerState

/-- A query whose refusal makes a handler return without `MarkTaskDone`. -/
def Query.Needed : Query → Bool
  | .engineExists => true
  | .innerSurfacePromoted => true
  | .setVideoSurface => true
  | .setVideoOutput => true
  | _ => false

/-- The states in which the operation ends its task. -/
def StateOp.Supported : StateOp → PlayerServerState → Bool
  | .freeze, state => state == .playingState
  | .unFreeze, state =>
    state == .playingState || state == .pausedState || state == .playbackCompletedState
  | .isEngineStarted, state => state.isEngineStarted
  | _, _ => true

/-- The next action of a handler finds what it needs. -/
def TaskProg.Attended (state : PlayerServerState) (data : ServerData) (reply : Bool) :
    TaskProg → Bool
  | .request _ _ => reply
  | .ask query _ => !query.Needed || reply
  | .getCurrState op _ => op.Supported state
  | .test .playerCbSet _ => data.playerCb
  | _ => true

/-- `SetSource` may leave the idle state while a handler runs. -/
def PlayerServerState.Reach (state later : PlayerServerState) : Prop :=
  later = state ∨ (state = .idleState ∧ later = .initializedState)

/-- The completion of the request will be marked, once the stop handler has left
the preparing state. -/
def Job.Keeps (job : Job) (state : PlayerServerState) (request : EngineRequest) : Prop :=
  state.Marks request ∨ (job = .stop ∧ request = .stop ∧ state = .preparingState)

/-- However the handler is answered, within `Attended`, it calls `MarkTaskDone` or
returns with a request among `awaited` and its own that will be marked. -/
def TaskProg.Settles (job : Job) : TaskProg → PlayerServerState → List EngineRequest → Prop
  | .done, state, awaited => ∃ request ∈ awaited, state.Marks request
  | .getCurrState op next, state, awaited => ∀ later, state.Reach later →
      op.Supported later = true → Settles job (next later) later awaited
  | .test check next, state, awaited => ∀ answer, (check = .playerCbSet → answer = true) →
      Settles job (next answer) state awaited
  | .setData _ next, state, awaited => Settles job next state awaited
  | .ask query next, state, awaited => ∀ reply, (query.Needed = true → reply = true) →
      Settles job (next reply) state awaited
  | .request asked next, state, awaited =>
    job.Keeps state asked ∧ Settles job (next true) state (asked :: awaited)
  | .changeState target entered same, state, awaited =>
    target ≠ .idleState ∧ target ≠ .initializedState ∧
      (state = target → Settles job same state awaited) ∧
      (state ≠ target → (∀ request ∈ awaited, job.Keeps target request) ∧
        Settles job entered target awaited)
  | .markTaskDone _ _, _, _ => True
  | .launch _ next, state, awaited => Settles job next state awaited
  | .systemPause next, state, awaited => Settles job next state awaited
  | .engineReset _, _, _ => False

variable {job : Job} {state later : PlayerServerState}

theorem Job.body_settles (ordinary : job ≠ .reset) (state : PlayerServerState) :
    job.body.Settles job state [] := by
  cases job with
  | reset => exact absurd rfl ordinary
  | _ =>
    simp [TaskProg.Settles, PlayerServerState.forall_iff, Query.Needed, StateOp.Supported,
      Job.Keeps, PlayerServerState.marksChange, PlayerServerState.handleStateChange,
      PlayerServerState.unchanged]

theorem PlayerServerState.Reach.marks (reach : state.Reach later) {request : EngineRequest}
    (marks : state.Marks request) : later.Marks request := by
  rcases reach with rfl | ⟨rfl, rfl⟩
  · exact marks
  · cases request <;> simp_all [marksChange, handleStateChange, unchanged]

theorem PlayerServerState.Reach.keeps (reach : state.Reach later) {request : EngineRequest}
    (keeps : job.Keeps state request) :
    job.Keeps later request := by
  rcases keeps with marks | ⟨isStop, asked, preparing⟩
  · exact .inl (reach.marks marks)
  · rcases reach with rfl | ⟨idle, _⟩
    · exact .inr ⟨isStop, asked, preparing⟩
    · rw [preparing] at idle
      cases idle

theorem PlayerServerState.Reach.trans {last : PlayerServerState} (first : state.Reach later)
    (second : later.Reach last) : state.Reach last := by
  rcases first with rfl | ⟨idle, rfl⟩
  · exact second
  · rcases second with rfl | ⟨wasIdle, _⟩
    · exact .inr ⟨idle, rfl⟩
    · cases wasIdle

theorem TaskProg.Settles.reach {rest : TaskProg} {awaited : List EngineRequest}
    (settles : rest.Settles job state awaited) (reach : state.Reach later) :
    rest.Settles job later awaited := by
  induction rest generalizing awaited with
  | done =>
    obtain ⟨request, member, marks⟩ := settles
    exact ⟨request, member, reach.marks marks⟩
  | getCurrState op next ih =>
    intro last further supported
    exact settles last (reach.trans further) supported
  | test check next ih =>
    intro answer needed
    exact ih answer (settles answer needed)
  | setData change next ih => exact ih settles
  | ask query next ih =>
    intro reply needed
    exact ih reply (settles reply needed)
  | request asked next ih => exact ⟨reach.keeps settles.1, ih true settles.2⟩
  | changeState target entered same enteredIh sameIh =>
    obtain ⟨notIdle, notInitialized, stays, enters⟩ := settles
    refine ⟨notIdle, notInitialized, ?_, ?_⟩
    · intro current
      rcases reach with rfl | ⟨rfl, rfl⟩
      · exact stays current
      · exact absurd current.symm notInitialized
    · intro changes
      rcases reach with rfl | ⟨rfl, rfl⟩
      · exact enters changes
      · exact enters fun current => notIdle current.symm
  | markTaskDone taskName next ih => trivial
  | launch task next ih | systemPause next ih => exact ih settles
  | engineReset next ih => exact settles.elim

theorem PlayerServerState.onMessageReceived_unmarked {looping : Bool} {message : PlayerMessage}
    (unmarked : (state.onMessageReceived looping message).mark = none) :
    (state.onMessageReceived looping message).state = state := by
  cases message with
  | eos => cases state <;> cases looping <;> first | rfl | cases unmarked
  | stateChange extra => cases state <;> cases extra <;> first | rfl | cases unmarked
  | seekDone | speedDone | rateDone | trackDone | addSubtitleDone | trackInfoUpdate =>
    cases unmarked
  | _ => rfl

namespace PlayerServer

/-- An accepted request is outstanding whose completion makes the current state
call `MarkTaskDone`. -/
def Awaited (server : PlayerServer) : Prop :=
  ∃ pending ∈ server.outstanding, server.currState.Marks pending.request

def HandlerReturned (server : PlayerServer) (task : Task) : Prop :=
  task ∉ server.taskMgr.taskThread.handlers ∧
    ∀ running, server.running = some running → running.task ≠ task

/-- Where a task in flight can be: the last on the thread's list, executing with
its end assured, or waiting for its message. -/
inductive Tended (server : PlayerServer) (task : Task) : Prop where
  | queued (last : server.taskMgr.taskThread.handlers.getLast? = some task)
  | executing (rest : TaskProg) (awaited : List EngineRequest)
      (alone : server.taskMgr.taskThread.handlers = [])
      (running : server.running = some ⟨task, rest⟩)
      (settles : rest.Settles task.job server.currState awaited)
      (outstanding : ∀ request ∈ awaited, task.job.Keeps server.currState request ∧
        ∃ pending ∈ server.outstanding, pending.request = request)
  | awaiting (alone : server.taskMgr.taskThread.handlers = []) (idle : server.running = none)
      (awaited : server.Awaited)

/-- `Reset` ends its own task by resetting the manager. -/
def AllTended (server : PlayerServer) : Prop :=
  ∀ task, server.taskMgr.currTwoPhaseTask = some task → task.job ≠ .reset → server.Tended task

/-- The environment leaves no handler stranded: it grants what the handler of the
task in flight asks for, that handler is executed in a state that supports it, and
no `STOPPED` overtakes a stop handler that has still to leave the preparing state. -/
def Attends (server : PlayerServer) : PlayerEvent → Prop
  | .stepThread reply => (server.running.all fun running =>
    decide (server.taskMgr.currTwoPhaseTask ≠ some running.task) ||
      running.rest.Attended server.currState server.data reply) = true
  | .deliver message _ => message = .stateChange .stopped → server.currState = .preparingState →
      (server.taskMgr.currTwoPhaseTask.all fun task => task.job != .stop) = true
  | _ => True

instance (server : PlayerServer) : ∀ event, Decidable (server.Attends event)
  | .stepThread _ => inferInstanceAs (Decidable (_ = true))
  | .deliver _ _ => inferInstanceAs (Decidable (_ → _ → _ = true))
  | .operate _ => .isTrue trivial
  | .stepClient => .isTrue trivial
  | .ioError => .isTrue trivial
  | .noMemoryError => .isTrue trivial
  | .userBackground => .isTrue trivial

variable {server next : PlayerServer} {task : Task}

theorem Tended.transfer (tended : server.Tended task)
    (thread : next.taskMgr.taskThread.handlers = server.taskMgr.taskThread.handlers)
    (running : next.running = server.running) (outstanding : next.outstanding = server.outstanding)
    (reach : server.currState.Reach next.currState) : next.Tended task := by
  cases tended with
  | queued last => exact .queued (by rw [thread]; exact last)
  | executing rest awaited alone isRunning settles kept =>
    refine .executing rest awaited (thread.trans alone) (running.trans isRunning)
      (settles.reach reach) ?_
    rw [outstanding]
    intro request member
    exact ⟨reach.keeps (kept request member).1, (kept request member).2⟩
  | awaiting alone idle isAwaited =>
    obtain ⟨pending, member, marks⟩ := isAwaited
    exact .awaiting (thread.trans alone) (running.trans idle)
      ⟨pending, by rw [outstanding]; exact member, reach.marks marks⟩

theorem AllTended.launched (tended : server.AllTended) {new : Task} {cancel : Option Task}
    (effect : LaunchEffect server.taskMgr next.taskMgr (some new) cancel)
    (running : next.running = server.running) (outstanding : next.outstanding = server.outstanding)
    (reach : server.currState.Reach next.currState) : next.AllTended := by
  intro task inFlight ordinary
  cases effect with
  | ignored same =>
    rw [same] at inFlight
    exact (tended task inFlight ordinary).transfer (by rw [same]) running outstanding reach
  | started idle inited wasInited current thread =>
    rw [current, Option.some.injEq] at inFlight
    subst inFlight
    exact .queued (by rw [thread, TaskThread.handlers_enqueueTask, List.getLast?_concat])
  | appended busy inited current thread =>
    rw [current] at inFlight
    exact (tended task inFlight ordinary).transfer (by rw [thread]) running outstanding reach

theorem AllTended.launch (tended : server.AllTended) (call : Launch) :
    (server.launch call).AllTended :=
  tended.launched (server.launch_effect call) rfl rfl (.inl rfl)

theorem AllTended.systemPause (tended : server.AllTended) : server.systemPause.AllTended := by
  unfold PlayerServer.systemPause
  split
  · exact tended.launched (server.launch_effect (.launchTask (.pause true) .stateChange "pause"))
      rfl rfl (.inl rfl)
  · exact tended

/-- A manager without a task in flight needs nothing. -/
theorem allTended_of_idle (idle : server.taskMgr.currTwoPhaseTask = none) : server.AllTended := by
  intro task inFlight
  rw [idle] at inFlight
  cases inFlight

theorem Phased.quiet (phased : server.Phased) (notInited : server.taskMgr.isInited = false) :
    server.taskMgr.currTwoPhaseTask = none := by
  have empty := (phased.uninited notInited).1
  simp only [PlayerServerTaskMgr.tasks, List.append_eq_nil_iff, Option.toList_eq_nil_iff] at empty
  exact empty.1

theorem Phased.allTended_marked (phased : server.Phased)
    (effect : MarkEffect server.taskMgr next.taskMgr) : next.AllTended := by
  cases effect with
  | ignored notInited same => exact allTended_of_idle (by rw [same]; exact phased.quiet notInited)
  | finished empty inited current => exact allTended_of_idle current
  | started item rest first inited current thread =>
    intro task inFlight _
    rw [current] at inFlight
    exact .queued (by rw [thread, inFlight]; exact List.getLast?_concat)

theorem AllTended.takeTask (tended : server.AllTended) (free : server.running = none) :
    server.takeTask.AllTended := by
  unfold PlayerServer.takeTask
  split
  · exact tended
  · rename_i rest list
    intro task inFlight ordinary
    exact (tended task inFlight ordinary).transfer (by simp [TaskThread.handlers, list]) rfl rfl
      (.inl rfl)
  · rename_i taken rest list
    have handlers : server.taskMgr.taskThread.handlers =
        taken :: (⟨rest⟩ : TaskThread Task).handlers := by
      simp [TaskThread.handlers, list]
    intro task inFlight ordinary
    cases tended task inFlight ordinary with
    | queued last =>
      rw [handlers] at last
      cases others : (⟨rest⟩ : TaskThread Task).handlers with
      | nil =>
        rw [others, List.getLast?_singleton, Option.some.injEq] at last
        subst last
        refine .executing taken.job.body [] others rfl (Job.body_settles ordinary _) ?_
        intro request member
        cases member
      | cons head tail =>
        rw [others, List.getLast?_cons_cons] at last
        exact .queued (by rw [← last]; exact congrArg List.getLast? others)
    | executing rest awaited alone isRunning =>
      rw [free] at isRunning
      cases isRunning
    | awaiting alone =>
      rw [handlers] at alone
      cases alone

/-- The handler of the task in flight is executing and its end is assured. -/
structure Settling (server : PlayerServer) (task : Task) (rest : TaskProg)
    (awaited : List EngineRequest) : Prop where
  alone : server.taskMgr.taskThread.handlers = []
  ordinary : task.job ≠ .reset
  inFlight : server.taskMgr.currTwoPhaseTask = some task
  settles : rest.Settles task.job server.currState awaited
  outstanding : ∀ request ∈ awaited, task.job.Keeps server.currState request ∧
    ∃ pending ∈ server.outstanding, pending.request = request

/-- An action that leaves the manager alone matters only to the task in flight, and
only if its handler is the one that acts. -/
theorem AllTended.continues (tended : server.AllTended) {rest : TaskProg}
    (isRunning : server.running = some ⟨task, rest⟩) (taskMgr : next.taskMgr = server.taskMgr)
    (going : ∀ awaited, server.Settling task rest awaited → next.Tended task) :
    next.AllTended := by
  intro current inFlight ordinary
  rw [taskMgr] at inFlight
  cases tended current inFlight ordinary with
  | queued last => exact .queued (by rw [taskMgr]; exact last)
  | executing own awaited alone running settles outstanding =>
    rw [isRunning] at running
    obtain ⟨rfl, rfl⟩ := running
    exact going awaited ⟨alone, ordinary, inFlight, settles, outstanding⟩
  | awaiting alone idle =>
    rw [isRunning] at idle
    cases idle

theorem AllTended.execute (tended : server.AllTended) (phased : server.Phased) {reply : Bool}
    {rest : TaskProg} (isRunning : server.running = some ⟨task, rest⟩)
    (attended : server.taskMgr.currTwoPhaseTask = some task →
      rest.Attended server.currState server.data reply = true) :
    (server.execute task reply rest).AllTended := by
  cases rest with
  | done =>
    refine tended.continues isRunning rfl fun awaited settling => ?_
    obtain ⟨request, member, marks⟩ := settling.settles
    obtain ⟨_, pending, isPending, rfl⟩ := settling.outstanding request member
    exact .awaiting settling.alone rfl ⟨pending, isPending, marks⟩
  | getCurrState op next =>
    refine tended.continues isRunning rfl fun awaited settling => ?_
    have supported := attended settling.inFlight
    exact .executing _ awaited settling.alone rfl
      (settling.settles server.currState (.inl rfl) supported) settling.outstanding
  | test check next =>
    refine tended.continues isRunning rfl fun awaited settling => ?_
    refine .executing _ awaited settling.alone rfl
      (settling.settles (check.eval server.data) ?_) settling.outstanding
    rintro rfl
    exact attended settling.inFlight
  | setData change next =>
    refine tended.continues isRunning rfl fun awaited settling => ?_
    exact .executing _ awaited settling.alone rfl settling.settles settling.outstanding
  | ask query next =>
    refine tended.continues isRunning rfl fun awaited settling => ?_
    have granted := attended settling.inFlight
    refine .executing _ awaited settling.alone rfl (settling.settles reply ?_) settling.outstanding
    intro needed
    simpa [TaskProg.Attended, needed] using granted
  | request asked next =>
    simp only [PlayerServer.execute]
    split
    · refine tended.continues isRunning rfl fun awaited settling => ?_
      obtain ⟨keeps, settles⟩ := settling.settles
      refine .executing _ (asked :: awaited) settling.alone rfl settles ?_
      intro request member
      rcases List.mem_cons.mp member with rfl | earlier
      · exact ⟨keeps, ⟨task, request⟩, by simp, rfl⟩
      · obtain ⟨kept, pending, isPending, same⟩ := settling.outstanding request earlier
        exact ⟨kept, pending, List.mem_append_left _ isPending, same⟩
    · rename_i refused
      refine tended.continues isRunning rfl fun awaited settling => ?_
      exact absurd (attended settling.inFlight) refused
  | changeState target entered same =>
    simp only [PlayerServer.execute]
    split
    · rename_i current
      refine tended.continues isRunning rfl fun awaited settling => ?_
      exact .executing _ awaited settling.alone rfl (settling.settles.2.2.1 current)
        settling.outstanding
    · rename_i changes
      refine tended.continues isRunning rfl fun awaited settling => ?_
      obtain ⟨keeps, settles⟩ := settling.settles.2.2.2 changes
      refine .executing _ awaited settling.alone rfl settles ?_
      intro request member
      exact ⟨keeps request member, (settling.outstanding request member).2⟩
  | markTaskDone taskName next =>
    exact phased.allTended_marked (markTaskDone_effect server.taskMgr taskName)
  | launch prepareTask next =>
    refine (tended.launch prepareTask.launch).continues isRunning rfl fun awaited settling => ?_
    exact .executing _ awaited settling.alone rfl settling.settles settling.outstanding
  | systemPause next =>
    simp only [PlayerServer.execute]
    split
    · have running : server.systemPause.running = some ⟨task, .systemPause next⟩ := by
        rw [← isRunning]
        unfold PlayerServer.systemPause
        split <;> rfl
      refine tended.systemPause.continues running rfl fun awaited settling => ?_
      exact .executing _ awaited settling.alone rfl settling.settles settling.outstanding
    · exact tended
  | engineReset next =>
    exact tended.continues isRunning rfl fun awaited settling => settling.settles.elim

/-- A message that marks nothing completes no request that is still counted on. -/
theorem AllTended.unmarked (tended : server.AllTended) {message : PlayerMessage}
    (unmarked : (server.messageEffect message).mark = none)
    (notStopped : message = .stateChange .stopped → server.currState = .preparingState →
      (server.taskMgr.currTwoPhaseTask.all fun task => task.job != .stop) = true) :
    ((server.complete message).enterState (server.messageEffect message)).AllTended := by
  have stays : (server.messageEffect message).state = server.currState :=
    PlayerServerState.onMessageReceived_unmarked unmarked
  unfold PlayerServer.complete at *
  split
  · intro task inFlight ordinary
    exact (tended task inFlight ordinary).transfer rfl rfl rfl (.inl stays)
  rename_i completed found
  have completes := List.find?_some found
  have kept {request : EngineRequest} (uncompleted : request.completedBy message = false)
      (open_ : ∃ pending ∈ server.outstanding, pending.request = request) :
      ∃ pending ∈ server.outstanding.erase completed, pending.request = request := by
    obtain ⟨pending, member, rfl⟩ := open_
    refine ⟨pending, (List.mem_erase_of_ne ?_).mpr member, rfl⟩
    rintro rfl
    rw [completes] at uncompleted
    cases uncompleted
  have marksNot {request : EngineRequest} (marks : server.currState.Marks request) :
      request.completedBy message = false := by
    rw [← Bool.not_eq_true]
    intro isCompleted
    exact marks _ _ isCompleted unmarked
  intro task inFlight ordinary
  cases tended task inFlight ordinary with
  | queued last => exact .queued last
  | executing rest awaited alone running settles outstanding =>
    refine .executing rest awaited alone running
      (by rw [PlayerServer.enterState, stays]; exact settles) ?_
    intro request member
    obtain ⟨keeps, isOpen⟩ := outstanding request member
    refine ⟨by rw [PlayerServer.enterState, stays]; exact keeps, kept ?_ isOpen⟩
    rcases keeps with marks | ⟨isStop, rfl, preparing⟩
    · exact marksNot marks
    rw [← Bool.not_eq_true]
    intro isCompleted
    have stopped : message = .stateChange .stopped := by
      cases message with
      | stateChange extra => cases extra <;> first | rfl | cases isCompleted
      | _ => cases isCompleted
    have other := notStopped stopped preparing
    change server.taskMgr.currTwoPhaseTask = some task at inFlight
    rw [inFlight] at other
    simp [isStop] at other
  | awaiting alone idle isAwaited =>
    obtain ⟨pending, member, marks⟩ := isAwaited
    obtain ⟨still, isOpen, same⟩ := kept (marksNot marks) ⟨pending, member, rfl⟩
    refine .awaiting alone idle ⟨still, isOpen, ?_⟩
    rw [PlayerServer.enterState, stays, same]
    exact marks

theorem AllTended.messageLaunch (tended : server.AllTended) (message : PlayerMessage) :
    (server.messageLaunch message).AllTended := by
  cases message with
  | eos =>
    simp only [PlayerServer.messageLaunch, loopSeek]
    split
    · exact tended.launch _
    · exact tended
  | bufferingStart | bufferingEnd | flvAutoSelectBitRate => exact tended.launch _
  | isLiveStream =>
    intro task inFlight ordinary
    exact (tended task inFlight ordinary).transfer rfl rfl rfl (.inl rfl)
  | _ => exact tended

theorem AllTended.deliver (tended : server.AllTended) (phased : server.Phased)
    (message : PlayerMessage) (inBackground : Bool)
    (attends : server.Attends (.deliver message inBackground)) :
    (server.deliver message inBackground).AllTended := by
  have entered := (phased.complete message).enterState message
  rw [complete_messageEffect] at entered
  unfold PlayerServer.deliver
  split
  · rename_i background
    split
    · have marks : (server.messageEffect message).mark ≠ none := by
        intro unmarked
        have stays := PlayerServerState.onMessageReceived_unmarked unmarked
        exact background.1.1 (stays.symm.trans background.1.2)
      obtain ⟨taskName, isMark⟩ := Option.ne_none_iff_exists'.mp marks
      rw [isMark]
      exact entered.systemPause.allTended_marked (markTaskDone_effect _ taskName)
    · exact tended
  · refine AllTended.messageLaunch ?_ message
    cases mark : (server.messageEffect message).mark with
    | none => exact tended.unmarked mark attends
    | some taskName => exact entered.allTended_marked (markTaskDone_effect _ taskName)

theorem Phased.allTended_cleared (phased : server.Phased)
    (cleared : next.taskMgr = server.taskMgr.clearAllTask) : next.AllTended := by
  apply allTended_of_idle
  rw [cleared]
  rcases server.taskMgr.clearAllTask_effect with ⟨notInited, same⟩ | ⟨_, current, _⟩
  · rw [same]
    exact phased.quiet notInited
  · exact current

theorem AllTended.operated (tended : server.AllTended) (phased : server.Phased)
    (free : server.phase = .free) (frame : OpFrame server next) (effect : TaskEffect server next) :
    next.AllTended := by
  have reach : server.currState.Reach next.currState := by
    rcases frame.moves with ⟨state, _⟩ | ⟨idle, _, initialized, _⟩
    · exact .inl state
    · exact .inr ⟨phased.reached (.inl ⟨free, idle⟩), initialized⟩
  cases effect with
  | kept taskMgr =>
    intro task inFlight ordinary
    rw [taskMgr] at inFlight
    exact (tended task inFlight ordinary).transfer (by rw [taskMgr]) frame.running
      frame.outstanding reach
  | launched call effect => exact tended.launched effect frame.running frame.outstanding reach
  | cleared taskMgr => exact phased.allTended_cleared taskMgr
  | inited taskMgr =>
    cases inited : server.taskMgr.isInited with
    | true =>
      have same : server.taskMgr.init.2 = server.taskMgr := by
        simp [PlayerServerTaskMgr.init, inited]
      intro task inFlight ordinary
      rw [taskMgr, same] at inFlight
      exact (tended task inFlight ordinary).transfer (by rw [taskMgr, same]) frame.running
        frame.outstanding reach
    | false =>
      apply allTended_of_idle
      rw [taskMgr]
      simpa [PlayerServerTaskMgr.init, inited] using phased.quiet inited

theorem AllTended.stepClient (tended : server.AllTended) (phased : server.Phased) :
    server.stepClient.AllTended := by
  unfold PlayerServer.stepClient
  split
  · exact tended
  · split
    · exact tended.launched (server.launch_effect (.launchTask .stop .stateChange "stop")) rfl rfl
        (.inl rfl)
    · exact tended.launched (server.launch_effect (.launchTask .stop .stateChange "stop")) rfl rfl
        (.inl rfl)
  · split
    · exact phased.allTended_cleared rfl
    · exact tended
  · exact tended.launched (server.launch_effect (.launchTask .reset .stateChange "reset")) rfl rfl
      (.inl rfl)
  · split
    · exact allTended_of_idle rfl
    · exact tended
  · split
    · intro task inFlight ordinary
      exact (tended task inFlight ordinary).transfer rfl rfl rfl (.inl rfl)
    · exact tended

theorem step_allTended (server : PlayerServer) (event : PlayerEvent)
    (invariant : server.Phased ∧ server.AllTended) (attends : server.Attends event) :
    (server.step event).Phased ∧ (server.step event).AllTended := by
  obtain ⟨phased, tended⟩ := invariant
  refine ⟨phased.takesStep event, ?_⟩
  cases event with
  | operate op =>
    simp only [PlayerServer.step]
    split
    · rename_i free
      exact tended.operated phased free (operate_frame server free op)
        (operate_taskEffect server op)
    · exact tended
  | stepClient => exact tended.stepClient phased
  | stepThread reply =>
    simp only [PlayerServer.step, PlayerServer.stepThread]
    cases isRunning : server.running with
    | none => exact tended.takeTask isRunning
    | some running =>
      refine tended.execute phased isRunning fun inFlight => ?_
      simpa [Attends, isRunning, inFlight] using attends
  | deliver message inBackground => exact tended.deliver phased message inBackground attends
  | ioError | noMemoryError | userBackground => exact tended.launch _

/-- In a run that strands no handler, a task in flight whose handler has returned
waits for a message that the engine owes and that the current state will answer
with `MarkTaskDone`; the task of a `Reset` is ended by its caller, which is
waiting for it. -/
theorem no_orphaned_task (events : List PlayerEvent)
    (attends : Along step Attends initial events) :
    let server := run step initial events
    ∀ task, server.taskMgr.currTwoPhaseTask = some task → server.HandlerReturned task →
      server.Awaited ∨ server.phase = .resetWait task := by
  intro server task inFlight returned
  obtain ⟨phased, tended⟩ : server.Phased ∧ server.AllTended :=
    invariant_of_along (fun server => server.Phased ∧ server.AllTended) step_allTended attends
      ⟨initial_phased, allTended_of_idle rfl⟩
  by_cases isReset : task.job = .reset
  · have member : task ∈ server.taskMgr.tasks := by
      simp [PlayerServerTaskMgr.tasks, inFlight]
    exact .inr (phased.resetWaits task member isReset)
  · cases tended task inFlight isReset with
    | queued last => exact absurd (List.mem_of_getLast? last) returned.1
    | executing rest awaited alone running => exact absurd rfl (returned.2 _ running)
    | awaiting alone idle awaited => exact .inl awaited

/-- A seek is executed in the playing state and waits for `SEEKDONE`. -/
def toSeeking : List PlayerEvent :=
  toPlaying ++ [PlayerEvent.operate (.seek 1000 .previousSync)] ++
    threadSteps [false, false, false, true, false]

theorem toSeeking_awaited : (run step initial toSeeking).Awaited := by
  have idle : (run step initial toSeeking).running.isNone = true := by decide
  have returned : (run step initial toSeeking).HandlerReturned ⟨4, .seek 1000 .previousSync⟩ := by
    refine ⟨by decide, ?_⟩
    intro running isRunning
    rw [isRunning] at idle
    cases idle
  have owed := no_orphaned_task toSeeking (by decide) ⟨4, .seek 1000 .previousSync⟩ (by decide)
    returned
  exact owed.resolve_right (by decide)

/-- An I/O error pauses a player whose `lastOpStatus_` stays `PLAYER_STARTED`, so
that `Freeze` is accepted; its handler runs in the paused state, whose `Freeze`
marks nothing. -/
def toFrozen : List PlayerEvent :=
  toPlaying ++ [PlayerEvent.ioError] ++ threadSteps [false, false, true, false, true, false] ++
    [PlayerEvent.deliver (.stateChange .paused) false, .operate .freeze] ++
    threadSteps [false, false, false, false, false]

theorem freeze_orphans_its_task :
    let server := run step initial toFrozen
    ∃ task, server.taskMgr.currTwoPhaseTask = some task ∧ server.HandlerReturned task ∧
      ¬ server.Awaited ∧ server.phase = .free := by
  refine ⟨⟨6, .freeze⟩, by decide, ⟨by decide, ?_⟩, ?_, by decide⟩
  · have idle : (run step initial toFrozen).running.isNone = true := by decide
    intro running isRunning
    rw [isRunning] at idle
    cases idle
  · rintro ⟨pending, member, _⟩
    cases member

end PlayerServer

end PlayerFramework.Player
