import PlayerFramework.Player.ServerSteps

/-!
The player is in the idle state exactly when it has never been given a source or
a `Reset` has got there: a stop handler never runs after the reset handler, and
nothing but `SetSource` leaves the idle state.
-/

namespace PlayerFramework.Player

open Transition PlayerServerTaskMgr

namespace TaskProg

/-- In the idle state the handler changes the state to no other. -/
def StaysIdle : TaskProg → Prop
  | .done => True
  | .getCurrState _ next => StaysIdle (next .idleState)
  | .test _ next => ∀ answer, StaysIdle (next answer)
  | .setData _ next => StaysIdle next
  | .ask _ next => ∀ reply, StaysIdle (next reply)
  | .request _ next => ∀ reply, StaysIdle (next reply)
  | .changeState state _ same => state = .idleState ∧ StaysIdle same
  | .markTaskDone _ next => StaysIdle next
  | .launch _ next => StaysIdle next
  | .systemPause next => StaysIdle next
  | .engineReset next => StaysIdle next

/-- The handler never changes the state to the idle one. -/
def NeverIdle : TaskProg → Prop
  | .done => True
  | .getCurrState _ next => ∀ state, NeverIdle (next state)
  | .test _ next => ∀ answer, NeverIdle (next answer)
  | .setData _ next => NeverIdle next
  | .ask _ next => ∀ reply, NeverIdle (next reply)
  | .request _ next => ∀ reply, NeverIdle (next reply)
  | .changeState state entered same => state ≠ .idleState ∧ NeverIdle entered ∧ NeverIdle same
  | .markTaskDone _ next => NeverIdle next
  | .launch _ next => NeverIdle next
  | .systemPause next => NeverIdle next
  | .engineReset next => NeverIdle next

end TaskProg

theorem Job.body_staysIdle {job : Job} (ordinary : job ≠ .stop) : job.body.StaysIdle := by
  cases job with
  | stop => exact absurd rfl ordinary
  | _ => simp [TaskProg.StaysIdle]

theorem PlayerServerState.forall_iff {p : PlayerServerState → Prop} :
    (∀ state, p state) ↔ p .idleState ∧ p .initializedState ∧ p .preparingState ∧
      p .preparedState ∧ p .playingState ∧ p .pausedState ∧ p .stoppedState ∧
      p .playbackCompletedState := by
  constructor
  · intro every
    exact ⟨every _, every _, every _, every _, every _, every _, every _, every _⟩
  · rintro ⟨idle, initialized, preparing, prepared, playing, paused, stopped, completed⟩ state
    cases state <;> assumption

theorem Job.body_neverIdle {job : Job} (ordinary : job ≠ .reset) : job.body.NeverIdle := by
  cases job with
  | reset => exact absurd rfl ordinary
  | _ => simp [TaskProg.NeverIdle, PlayerServerState.forall_iff]

namespace PlayerServer

/-- A `Reset` is past its stop, or has already reached the idle state. -/
def Resetting (server : PlayerServer) : Prop :=
  server.phase = .resetLaunch ∨ (∃ task, server.phase = .resetWait task) ∨
    server.phase = .resetJoin ∨ server.currState = .idleState

/-- What the handler on the thread may still do to the state. -/
structure RunningOk (state : PlayerServerState) (phase : ClientPhase) (running : Running) :
    Prop where
  waits : running.task.job = .reset → phase = .resetWait running.task
  resets : running.task.job = .reset → running.rest = Job.reset.body ∨ state = .idleState
  neverIdle : running.task.job ≠ .reset → running.rest.NeverIdle
  staysIdle : state = .idleState → running.rest.StaysIdle

structure Phased (server : PlayerServer) : Prop where
  uninited : server.taskMgr.isInited = false → server.taskMgr.tasks = [] ∧
    (server.phase = .resetJoin ∨ (server.phase = .free ∧ server.lastOpStatus = .idle))
  resetWaits : ∀ task ∈ server.taskMgr.tasks, task.job = .reset → server.phase = .resetWait task
  noStop : server.Resetting → ∀ task ∈ server.taskMgr.tasks, task.job ≠ .stop
  running : ∀ running, server.running = some running →
    RunningOk server.currState server.phase running
  idlePhase : server.currState = .idleState → (server.phase = .free ∧ server.lastOpStatus = .idle) ∨
      (∃ task, server.phase = .resetWait task) ∨ server.phase = .resetJoin
  reached : (server.phase = .free ∧ server.lastOpStatus = .idle) ∨ server.phase = .resetJoin →
    server.currState = .idleState
  waited : ∀ task, server.phase = .resetWait task → task.job = .reset ∧
    (server.currState = .idleState ∨ server.taskMgr.Waiting task ∨
      server.running = some ⟨task, Job.reset.body⟩)

theorem initial_phased : initial.Phased := by
  refine ⟨fun _ => ⟨rfl, .inr ⟨rfl, rfl⟩⟩, ?_, ?_, ?_, fun _ => .inl ⟨rfl, rfl⟩, fun _ => rfl, ?_⟩
  · intro task member
    cases member
  · intro _ task member
    cases member
  · intro running isRunning
    cases isRunning
  · intro task phase
    cases phase

variable {server : PlayerServer} {task : Task} {rest : TaskProg}

theorem Phased.tasksChanged {next : PlayerServer} (phased : server.Phased)
    (state : next.currState = server.currState)
    (status : next.lastOpStatus = .idle ↔ server.lastOpStatus = .idle)
    (phase : next.phase = server.phase) (running : next.running = server.running)
    (uninited : next.taskMgr.isInited = false →
      next.taskMgr.tasks = [] ∧ server.taskMgr.isInited = false)
    (mem : ∀ task ∈ next.taskMgr.tasks, task ∈ server.taskMgr.tasks ∨ task.job.Ordinary)
    (waiting : ∀ task, server.taskMgr.Waiting task → next.taskMgr.Waiting task) :
    next.Phased := by
  refine ⟨?_, ?_, ?_, ?_, ?_, ?_, ?_⟩
  · intro notInited
    obtain ⟨empty, before⟩ := uninited notInited
    refine ⟨empty, ?_⟩
    rw [phase, status]
    exact (phased.uninited before).2
  · intro task member isReset
    rw [phase]
    rcases mem task member with old | ordinary
    · exact phased.resetWaits task old isReset
    · exact absurd isReset ordinary.2
  · intro resetting task member
    rw [Resetting, phase, state] at resetting
    rcases mem task member with old | ordinary
    · exact phased.noStop resetting task old
    · exact ordinary.1
  · rw [running, state, phase]
    exact phased.running
  · rw [state, phase, status]
    exact phased.idlePhase
  · rw [state, phase, status]
    exact phased.reached
  · intro task waits
    rw [phase] at waits
    rw [state, running]
    obtain ⟨isReset, where_⟩ := phased.waited task waits
    exact ⟨isReset, where_.imp_right (Or.imp_left (waiting task))⟩

theorem Phased.launch {next : PlayerServer} (phased : server.Phased) (call : Launch)
    (ordinary : call.Ordinary)
    (effect : LaunchEffect server.taskMgr next.taskMgr (some ⟨server.nextTask, call.job⟩)
      (call.cancel.map fun cancel => ⟨server.nextTask + 1, cancel⟩))
    (state : next.currState = server.currState)
    (status : next.lastOpStatus = .idle ↔ server.lastOpStatus = .idle)
    (phase : next.phase = server.phase) (running : next.running = server.running) :
    next.Phased := by
  refine phased.tasksChanged state status phase running ?_ ?_ fun task => effect.waiting
  · intro notInited
    have before : server.taskMgr.isInited = false := effect.isInited.symm.trans notInited
    exact ⟨effect.uninited before (phased.uninited before).1, before⟩
  · intro task member
    rcases effect.mem_tasks member with old | new | new
    · exact .inl old
    · rw [Option.some.injEq] at new
      exact .inr (new ▸ ordinary.1)
    · obtain ⟨cancel, isCancel, same⟩ := Option.map_eq_some_iff.mp new
      exact .inr (same ▸ ordinary.2 cancel isCancel)

theorem Phased.marked {next : PlayerServer} (phased : server.Phased) (taskName : String)
    (taskMgr : next.taskMgr = (server.taskMgr.markTaskDone taskName).2)
    (state : next.currState = server.currState) (status : next.lastOpStatus = server.lastOpStatus)
    (phase : next.phase = server.phase) (running : next.running = server.running) :
    next.Phased := by
  have effect : MarkEffect server.taskMgr next.taskMgr :=
    taskMgr ▸ markTaskDone_effect server.taskMgr taskName
  refine phased.tasksChanged state (by rw [status]) phase running ?_
    (fun task member => .inl (effect.mem_tasks member)) fun task => effect.waiting
  intro notInited
  cases effect with
  | ignored before same => exact ⟨same ▸ (phased.uninited before).1, before⟩
  | finished empty inited current thread pending =>
    have before : server.taskMgr.isInited = false := inited ▸ notInited
    have none := (phased.uninited before).1
    simp only [PlayerServerTaskMgr.tasks, List.append_eq_nil_iff] at none
    exact ⟨by simp [PlayerServerTaskMgr.tasks, current, thread, none.2.1, pendingHandlers,
      pending], before⟩
  | started item rest first inited =>
    rw [inited] at notInited
    cases notInited

theorem Phased.runningChanged {next : PlayerServer} (phased : server.Phased)
    (taskMgr : next.taskMgr = server.taskMgr) (state : next.currState = server.currState)
    (status : next.lastOpStatus = server.lastOpStatus) (phase : next.phase = server.phase)
    (ok : ∀ running, next.running = some running → RunningOk server.currState server.phase running)
    (left : ∀ task, server.running = some ⟨task, Job.reset.body⟩ → task.job = .reset →
      server.currState = .idleState) : next.Phased := by
  refine ⟨?_, ?_, ?_, ?_, ?_, ?_, ?_⟩
  · rw [taskMgr, phase, status]
    exact phased.uninited
  · rw [taskMgr, phase]
    exact phased.resetWaits
  · rw [Resetting, taskMgr, phase, state]
    exact phased.noStop
  · rw [state, phase]
    exact ok
  · rw [state, phase, status]
    exact phased.idlePhase
  · rw [state, phase, status]
    exact phased.reached
  rw [taskMgr, phase, state]
  intro task waits
  obtain ⟨isReset, idle | waiting | isRunning⟩ := phased.waited task waits
  · exact ⟨isReset, .inl idle⟩
  · exact ⟨isReset, .inr (.inl waiting)⟩
  · exact ⟨isReset, .inl (left task isRunning isReset)⟩

/-- A handler that is past an action other than `ChangeState` has not the body of
`reset` before it. -/
theorem RunningOk.next {state : PlayerServerState} {phase : ClientPhase} {next : TaskProg}
    (ok : RunningOk state phase ⟨task, rest⟩) (notBody : rest ≠ Job.reset.body)
    (neverIdle : rest.NeverIdle → next.NeverIdle)
    (staysIdle : state = .idleState → rest.StaysIdle → next.StaysIdle) :
    RunningOk state phase ⟨task, next⟩ :=
  ⟨ok.waits, fun isReset => .inr ((ok.resets isReset).resolve_left notBody),
    fun ordinary => neverIdle (ok.neverIdle ordinary),
    fun idle => staysIdle idle (ok.staysIdle idle)⟩

theorem Phased.takeTask (phased : server.Phased) (free : server.running = none) :
    server.takeTask.Phased := by
  unfold PlayerServer.takeTask
  split
  · exact phased
  · rename_i rest list
    have handlers : (⟨rest⟩ : TaskThread Task).handlers = server.taskMgr.taskThread.handlers := by
      simp [TaskThread.handlers, list]
    refine phased.tasksChanged rfl .rfl rfl rfl ?_ ?_ ?_
    · intro notInited
      have empty := (phased.uninited notInited).1
      simp only [PlayerServerTaskMgr.tasks, ← handlers] at empty
      exact ⟨empty, notInited⟩
    · intro task member
      simp only [PlayerServerTaskMgr.tasks, handlers] at member
      exact .inl member
    · intro task waiting
      rw [Waiting, ← handlers] at waiting
      exact waiting
  · rename_i taken rest list
    have handlers : server.taskMgr.taskThread.handlers =
        taken :: (⟨rest⟩ : TaskThread Task).handlers := by
      simp [TaskThread.handlers, list]
    have taskMem : taken ∈ server.taskMgr.tasks := by
      simp [PlayerServerTaskMgr.tasks, handlers]
    have mem (task : Task) (member : task ∈ PlayerServerTaskMgr.tasks
        { server.taskMgr with taskThread.taskList := rest }) : task ∈ server.taskMgr.tasks := by
      simp only [PlayerServerTaskMgr.tasks, List.mem_append] at member
      simp only [PlayerServerTaskMgr.tasks, handlers, List.mem_append, List.mem_cons]
      exact member.imp_right (Or.imp_left .inr)
    refine ⟨?_, fun task member => phased.resetWaits task (mem task member),
      fun resetting task member => phased.noStop resetting task (mem task member), ?_,
      phased.idlePhase, phased.reached, ?_⟩
    · intro notInited
      have empty := (phased.uninited notInited).1
      simp [PlayerServerTaskMgr.tasks, handlers] at empty
    · intro running isRunning
      obtain rfl := Option.some.inj isRunning
      refine ⟨phased.resetWaits taken taskMem, ?_, fun ordinary => Job.body_neverIdle ordinary, ?_⟩
      · intro isReset
        change taken.job = .reset at isReset
        exact .inl (by simp [isReset])
      · intro idle
        exact Job.body_staysIdle (phased.noStop (.inr (.inr (.inr idle))) taken taskMem)
    · intro task waits
      obtain ⟨isReset, idle | (queued | pending) | isRunning⟩ := phased.waited task waits
      · exact ⟨isReset, .inl idle⟩
      · rw [handlers, List.mem_cons] at queued
        rcases queued with rfl | later
        · exact ⟨isReset, .inr (.inr (by rw [isReset]))⟩
        · exact ⟨isReset, .inr (.inl (.inl later))⟩
      · exact ⟨isReset, .inr (.inl (.inr pending))⟩
      · rw [free] at isRunning
        cases isRunning

theorem Phased.systemPause (phased : server.Phased) : server.systemPause.Phased := by
  unfold PlayerServer.systemPause
  split
  · rename_i started
    refine phased.launch (.launchTask (.pause true) .stateChange "pause")
      (by simp [Launch.Ordinary, Job.Ordinary])
      (server.launch_effect (.launchTask (.pause true) .stateChange "pause")) rfl ?_ rfl rfl
    constructor
    · intro idle
      cases idle
    · intro idle
      rw [started] at idle
      cases idle
  · exact phased

theorem Phased.continueWith (phased : server.Phased) {next : TaskProg}
    (isRunning : server.running = some ⟨task, rest⟩) (notBody : rest ≠ Job.reset.body)
    (neverIdle : rest.NeverIdle → next.NeverIdle)
    (staysIdle : server.currState = .idleState → rest.StaysIdle → next.StaysIdle) :
    (server.continueWith task next).Phased := by
  refine phased.runningChanged rfl rfl rfl rfl ?_ ?_
  · intro running same
    obtain rfl := Option.some.inj same
    exact (phased.running _ isRunning).next notBody neverIdle staysIdle
  · intro other isBody _
    rw [isRunning, Option.some.injEq, Running.mk.injEq] at isBody
    exact absurd isBody.2 notBody

theorem Phased.changeState (phased : server.Phased) {state : PlayerServerState}
    {entered same : TaskProg}
    (isRunning : server.running = some ⟨task, .changeState state entered same⟩)
    (changes : server.currState ≠ state) :
    Phased { server with currState := state, running := some ⟨task, entered⟩ } := by
  have ok := phased.running _ isRunning
  have notIdle : server.currState ≠ .idleState := fun idle =>
    changes (idle.trans (ok.staysIdle idle).1.symm)
  by_cases isReset : task.job = .reset
  · -- The reset handler enters the idle state, while its `Reset` waits for it.
    have body := (ok.resets isReset).resolve_right notIdle
    obtain ⟨rfl, rfl, rfl⟩ := body
    have waits : server.phase = .resetWait task := ok.waits isReset
    refine ⟨phased.uninited, phased.resetWaits,
      fun _ => phased.noStop (.inr (.inl ⟨task, waits⟩)), ?_, fun _ => .inr (.inl ⟨task, waits⟩),
      fun _ => rfl, fun other otherWaits => ⟨(phased.waited other otherWaits).1, .inl rfl⟩⟩
    intro running same
    obtain rfl := Option.some.inj same
    exact ⟨fun _ => waits, fun _ => .inr rfl, fun ordinary => absurd isReset ordinary,
      fun _ => trivial⟩
  · obtain ⟨leaves, enteredOk, _⟩ := ok.neverIdle isReset
    have never (idle : (server.phase = .free ∧ server.lastOpStatus = .idle) ∨
        server.phase = .resetJoin) : False := notIdle (phased.reached idle)
    refine ⟨phased.uninited, phased.resetWaits, ?_, ?_, fun idle => absurd idle leaves,
      fun idle => (never idle).elim, ?_⟩
    · rintro (launching | waiting | joining | idle)
      · exact phased.noStop (.inl launching)
      · exact phased.noStop (.inr (.inl waiting))
      · exact (never (.inr joining)).elim
      · exact absurd idle leaves
    · intro running same
      obtain rfl := Option.some.inj same
      exact ⟨fun reset => absurd reset isReset, fun reset => absurd reset isReset,
        fun _ => enteredOk, fun idle => absurd idle leaves⟩
    · intro other waits
      obtain ⟨otherReset, idle | waiting | isBody⟩ := phased.waited other waits
      · exact absurd idle notIdle
      · exact ⟨otherReset, .inr (.inl waiting)⟩
      · rw [isRunning, Option.some.injEq, Running.mk.injEq] at isBody
        exact absurd (isBody.1 ▸ otherReset) isReset

theorem Phased.execute (phased : server.Phased) (reply : Bool)
    (isRunning : server.running = some ⟨task, rest⟩) :
    (server.execute task reply rest).Phased := by
  cases rest with
  | done =>
    refine phased.runningChanged rfl rfl rfl rfl (fun running none => by cases none) ?_
    intro other isBody _
    rw [isRunning, Option.some.injEq, Running.mk.injEq] at isBody
    exact absurd isBody.2 (by simp)
  | getCurrState op next =>
    refine phased.continueWith isRunning (by simp) (fun never => never _) fun idle stays => ?_
    rw [idle]
    exact stays
  | test test next | ask query next =>
    exact phased.continueWith isRunning (by simp) (fun never => never _) fun _ stays => stays _
  | setData change next =>
    have changed : (server.changeData change).Phased :=
      phased.tasksChanged rfl .rfl rfl rfl
        (fun notInited => ⟨(phased.uninited notInited).1, notInited⟩)
        (fun task member => .inl member) fun task waiting => waiting
    exact changed.continueWith isRunning (by simp) (fun never => never) fun _ stays => stays
  | request request next =>
    have going (answer : Bool) : (server.continueWith task (next answer)).Phased :=
      phased.continueWith isRunning (by simp) (fun never => never _) fun _ stays => stays _
    simp only [PlayerServer.execute]
    split
    · exact (going true).tasksChanged rfl .rfl rfl rfl
        (fun notInited => ⟨(phased.uninited notInited).1, notInited⟩)
        (fun task member => .inl member) fun task waiting => waiting
    · exact going false
  | changeState state entered same =>
    simp only [PlayerServer.execute]
    split
    · rename_i current
      have ok := phased.running _ isRunning
      refine phased.runningChanged rfl rfl rfl rfl ?_ ?_
      · intro running isNext
        obtain rfl := Option.some.inj isNext
        refine ⟨ok.waits, fun isReset => ?_, fun ordinary => (ok.neverIdle ordinary).2.2,
          fun idle => (ok.staysIdle idle).2⟩
        rcases ok.resets isReset with body | idle
        · simp only [Job.body, TaskProg.changeState.injEq] at body
          exact .inr (current.trans body.1)
        · exact .inr idle
      · intro other isBody _
        rw [isRunning, Option.some.injEq, Running.mk.injEq] at isBody
        simp only [Job.body, TaskProg.changeState.injEq] at isBody
        exact current.trans isBody.2.1
    · rename_i changes
      exact phased.changeState isRunning changes
  | markTaskDone taskName next =>
    have marked : ((server.receive task).markTaskDone taskName).Phased :=
      phased.marked taskName rfl rfl rfl rfl rfl
    exact marked.continueWith isRunning (by simp) (fun never => never) fun _ stays => stays
  | launch prepareTask next =>
    have ordinary : prepareTask.launch.Ordinary := by
      cases prepareTask <;> simp [PrepareTask.launch, Launch.Ordinary, Job.Ordinary]
    have launched : (server.launch prepareTask.launch).Phased :=
      phased.launch _ ordinary (server.launch_effect _) rfl .rfl rfl rfl
    exact launched.continueWith isRunning (by simp) (fun never => never) fun _ stays => stays
  | systemPause next =>
    simp only [PlayerServer.execute]
    split
    · have running : server.systemPause.running = some ⟨task, .systemPause next⟩ := by
        rw [← isRunning]
        unfold PlayerServer.systemPause
        split <;> rfl
      exact phased.systemPause.continueWith running (by simp) (fun never => never)
        fun _ stays => stays
    · exact phased
  | engineReset next =>
    have going : (server.continueWith task next).Phased :=
      phased.continueWith isRunning (by simp) (fun never => never) fun _ stays => stays
    exact going.tasksChanged rfl .rfl rfl rfl
      (fun notInited => ⟨(phased.uninited notInited).1, notInited⟩)
      (fun task member => .inl member) fun task waiting => waiting

end PlayerServer

theorem PlayerServerState.onMessageReceived_idle (state : PlayerServerState) (looping : Bool)
    (message : PlayerMessage) :
    ((state.onMessageReceived looping message).state = .idleState ↔ state = .idleState) ∧
      (state.onMessageReceived looping message).lastOpStatus ≠ some .idle ∧
      (state = .idleState → (state.onMessageReceived looping message).lastOpStatus = none) := by
  cases message with
  | eos => cases state <;> cases looping <;> decide
  | stateChange extra => cases state <;> cases extra <;> decide +revert
  | _ => simp [PlayerServerState.onMessageReceived, PlayerServerState.unchanged]

namespace PlayerServer

variable {server : PlayerServer}

theorem Phased.statesChanged {next : PlayerServer} (phased : server.Phased)
    (state : next.currState = .idleState ↔ server.currState = .idleState)
    (status : server.phase = .free →
      (next.lastOpStatus = .idle ↔ server.lastOpStatus = .idle)) (phase : next.phase = server.phase)
    (running : next.running = server.running) (taskMgr : next.taskMgr = server.taskMgr) :
    next.Phased := by
  have quiet : (next.phase = .free ∧ next.lastOpStatus = .idle) ↔
      (server.phase = .free ∧ server.lastOpStatus = .idle) := by
    rw [phase]
    exact and_congr_right status
  refine ⟨?_, ?_, ?_, ?_, ?_, ?_, ?_⟩
  · rw [taskMgr, quiet, phase]
    exact phased.uninited
  · rw [taskMgr, phase]
    exact phased.resetWaits
  · rw [Resetting, taskMgr, phase, state]
    exact phased.noStop
  · rw [running, phase]
    intro current isRunning
    obtain ⟨waits, resets, neverIdle, staysIdle⟩ := phased.running current isRunning
    refine ⟨waits, fun isReset => (resets isReset).imp_right state.mpr, neverIdle, ?_⟩
    intro idle
    exact staysIdle (state.mp idle)
  · rw [quiet, state, phase]
    exact phased.idlePhase
  · rw [quiet, state, phase]
    exact phased.reached
  · rw [phase, state, taskMgr, running]
    exact phased.waited

theorem Phased.complete (phased : server.Phased) (message : PlayerMessage) :
    (server.complete message).Phased := by
  unfold PlayerServer.complete
  split
  · exact phased
  · exact phased.statesChanged .rfl (fun _ => .rfl) rfl rfl rfl

theorem Phased.enterState (phased : server.Phased) (message : PlayerMessage) :
    (server.enterState (server.messageEffect message)).Phased := by
  obtain ⟨state, written, none⟩ :=
    server.currState.onMessageReceived_idle server.data.looping message
  refine phased.statesChanged state ?_ rfl rfl rfl
  intro free
  by_cases idle : server.currState = .idleState
  · have kept : (server.messageEffect message).lastOpStatus = Option.none := none idle
    simp [PlayerServer.enterState, kept]
  have busy : server.lastOpStatus ≠ .idle := fun status =>
    idle (phased.reached (.inl ⟨free, status⟩))
  cases effect : (server.messageEffect message).lastOpStatus with
  | none => simp [PlayerServer.enterState, effect]
  | some status =>
    have notIdle : status ≠ .idle := fun same => written (effect.trans (congrArg some same))
    simp [PlayerServer.enterState, effect, notIdle, busy]

theorem Phased.markIfSome (phased : server.Phased) (mark : Option String) :
    (server.markIfSome mark).Phased := by
  cases mark with
  | none => exact phased
  | some taskName => exact phased.marked taskName rfl rfl rfl rfl rfl

theorem Phased.launchOrdinary (phased : server.Phased) (call : Launch) (ordinary : call.Ordinary) :
    (server.launch call).Phased :=
  phased.launch call ordinary (server.launch_effect call) rfl .rfl rfl rfl

theorem Phased.messageLaunch (phased : server.Phased) (message : PlayerMessage) :
    (server.messageLaunch message).Phased := by
  cases message with
  | eos =>
    simp only [PlayerServer.messageLaunch, loopSeek]
    split
    · exact phased.launchOrdinary _ (by simp [Launch.Ordinary, Job.Ordinary])
    · exact phased
  | bufferingStart | bufferingEnd | flvAutoSelectBitRate =>
    exact phased.launchOrdinary _ (by simp [Launch.Ordinary, Job.Ordinary])
  | isLiveStream => exact phased.statesChanged .rfl (fun _ => .rfl) rfl rfl rfl
  | _ => exact phased

@[simp] theorem complete_currState (server : PlayerServer) (message : PlayerMessage) :
    (server.complete message).currState = server.currState := by
  unfold PlayerServer.complete
  split <;> rfl

@[simp] theorem complete_data (server : PlayerServer) (message : PlayerMessage) :
    (server.complete message).data = server.data := by
  unfold PlayerServer.complete
  split <;> rfl

theorem complete_messageEffect (server : PlayerServer) (message : PlayerMessage) :
    (server.complete message).messageEffect message = server.messageEffect message := by
  simp [messageEffect]

theorem Phased.deliver (phased : server.Phased) (message : PlayerMessage) (inBackground : Bool) :
    (server.deliver message inBackground).Phased := by
  have entered := (phased.complete message).enterState message
  rw [complete_messageEffect] at entered
  unfold PlayerServer.deliver
  split
  · split
    · exact entered.systemPause.markIfSome _
    · exact phased
  · exact (entered.markIfSome _).messageLaunch message

theorem TaskEffect.mem_tasks {next : PlayerServer} (effect : TaskEffect server next) {task : Task}
    (member : task ∈ next.taskMgr.tasks) :
    task ∈ server.taskMgr.tasks ∨ task.job.Ordinary := by
  cases effect with
  | kept taskMgr => exact .inl (taskMgr ▸ member)
  | launched call effect ordinary =>
    rcases effect.mem_tasks member with old | new | new
    · exact .inl old
    · rw [Option.some.injEq] at new
      exact .inr (new ▸ ordinary.1)
    · obtain ⟨cancel, isCancel, same⟩ := Option.map_eq_some_iff.mp new
      exact .inr (same ▸ ordinary.2 cancel isCancel)
  | cleared taskMgr =>
    rw [taskMgr] at member
    rcases server.taskMgr.clearAllTask_effect with ⟨_, same⟩ | ⟨_, current, thread, pending⟩
    · exact .inl (same ▸ member)
    · simp [PlayerServerTaskMgr.tasks, current, thread, pendingHandlers, pending] at member
  | inited taskMgr => exact .inl (init_mem_tasks (taskMgr ▸ member))

theorem TaskEffect.uninited {next : PlayerServer} (effect : TaskEffect server next)
    (notInited : next.taskMgr.isInited = false)
    (empty : server.taskMgr.isInited = false → server.taskMgr.tasks = []) :
    server.taskMgr.isInited = false ∧ next.taskMgr.tasks = [] := by
  cases effect with
  | kept taskMgr =>
    rw [taskMgr] at notInited ⊢
    exact ⟨notInited, empty notInited⟩
  | launched call effect =>
    have before : server.taskMgr.isInited = false := effect.isInited.symm.trans notInited
    exact ⟨before, effect.uninited before (empty before)⟩
  | cleared taskMgr =>
    have before : server.taskMgr.isInited = false := by
      rw [← server.taskMgr.clearAllTask_isInited, ← taskMgr]
      exact notInited
    have same : server.taskMgr.clearAllTask = server.taskMgr := by
      simp [PlayerServerTaskMgr.clearAllTask, before]
    rw [taskMgr, same]
    exact ⟨before, empty before⟩
  | inited taskMgr =>
    rw [taskMgr, init_isInited] at notInited
    cases notInited

theorem Phased.operated {next : PlayerServer} (phased : server.Phased) (free : server.phase = .free)
    (frame : OpFrame server next) (effect : TaskEffect server next) : next.Phased := by
  have noReset (task : Task) : server.phase ≠ .resetWait task := by simp [free]
  have noWait (task : Task) : next.phase ≠ .resetWait task := by
    rcases frame.phase with isFree | ⟨_, ⟨resetting, isStop⟩ | isReset, _⟩
    · simp [isFree]
    · simp [isStop]
    · simp [isReset]
  have noJoin : next.phase ≠ .resetJoin := by
    rcases frame.phase with isFree | ⟨_, ⟨resetting, isStop⟩ | isReset, _⟩
    · simp [isFree]
    · simp [isStop]
    · simp [isReset]
  have wasIdle (idle : next.currState = .idleState) :
      server.currState = .idleState ∧ server.lastOpStatus = .idle ∧ next.lastOpStatus = .idle := by
    rcases frame.moves with ⟨state, status⟩ | ⟨_, _, initialized, _⟩
    · have before : server.currState = .idleState := state.symm.trans idle
      rcases phased.idlePhase before with ⟨_, quiet⟩ | ⟨task, waits⟩ | joins
      · exact ⟨before, quiet, status.mp quiet⟩
      · exact absurd waits (noReset task)
      · rw [free] at joins
        cases joins
    · rw [initialized] at idle
      cases idle
  have staysFree (idle : server.lastOpStatus = .idle) : next.phase = .free :=
    frame.phase.resolve_right fun left => left.1 idle
  refine ⟨?_, ?_, ?_, ?_, ?_, ?_, ?_⟩
  · intro notInited
    obtain ⟨before, empty⟩ := effect.uninited notInited fun before => (phased.uninited before).1
    have quiet : server.lastOpStatus = .idle := by
      rcases (phased.uninited before).2 with joins | ⟨_, quiet⟩
      · rw [free] at joins
        cases joins
      · exact quiet
    refine ⟨empty, .inr ⟨staysFree quiet, ?_⟩⟩
    rcases frame.moves with ⟨_, status⟩ | ⟨_, inited, _⟩
    · exact status.mp quiet
    · rw [inited] at notInited
      cases notInited
  · intro task member isReset
    rcases effect.mem_tasks member with old | ordinary
    · exact absurd (phased.resetWaits task old isReset) (noReset task)
    · exact absurd isReset ordinary.2
  · intro resetting task member
    rcases effect.mem_tasks member with old | ordinary
    · rcases resetting with launches | ⟨waiting, waits⟩ | joins | idle
      · -- `ClearAllTask` has just emptied the manager.
        have cleared : next.taskMgr = server.taskMgr.clearAllTask := by
          rcases frame.phase with isFree | ⟨_, _, cleared⟩
          · rw [isFree] at launches
            cases launches
          · exact cleared
        cases inited : server.taskMgr.isInited with
        | true =>
          rw [cleared, clearAllTask_tasks inited] at member
          cases member
        | false =>
          rw [(phased.uninited inited).1] at old
          cases old
      · exact absurd waits (noWait waiting)
      · exact absurd joins noJoin
      · exact phased.noStop (.inr (.inr (.inr (wasIdle idle).1))) task old
    · exact ordinary.1
  · rw [frame.running]
    intro running isRunning
    obtain ⟨waits, resets, neverIdle, staysIdle⟩ := phased.running running isRunning
    exact ⟨fun isReset => absurd (waits isReset) (noReset _),
      fun isReset => absurd (waits isReset) (noReset _), neverIdle,
      fun idle => staysIdle (wasIdle idle).1⟩
  · intro idle
    obtain ⟨_, quiet, stays⟩ := wasIdle idle
    exact .inl ⟨staysFree quiet, stays⟩
  · intro reached
    obtain ⟨_, quiet⟩ := reached.resolve_right noJoin
    rcases frame.moves with ⟨state, status⟩ | ⟨_, _, _, initialized⟩
    · exact state.trans (phased.reached (.inl ⟨free, status.mpr quiet⟩))
    · rw [initialized] at quiet
      cases quiet
  · intro task waits
    exact absurd waits (noWait task)

/-- `Stop` and `Reset` go on while the player is not idle and no reset handler is
about: the handler on the thread does not notice. -/
theorem Phased.clientMoves {next : PlayerServer} (phased : server.Phased)
    (busy : server.currState ≠ .idleState) (noReset : ∀ task, server.phase ≠ .resetWait task)
    (state : next.currState = server.currState) (running : next.running = server.running)
    (inited : next.taskMgr.isInited = true)
    (resetWaits : ∀ task ∈ next.taskMgr.tasks, task.job = .reset → next.phase = .resetWait task)
    (noStop : next.phase = .resetLaunch ∨ (∃ task, next.phase = .resetWait task) →
      ∀ task ∈ next.taskMgr.tasks, task.job ≠ .stop) (notJoin : next.phase ≠ .resetJoin)
    (status : next.phase = .free → next.lastOpStatus ≠ .idle)
    (waited : ∀ task, next.phase = .resetWait task →
      task.job = .reset ∧ next.taskMgr.Waiting task) : next.Phased := by
  refine ⟨?_, resetWaits, ?_, ?_, ?_, ?_, ?_⟩
  · intro notInited
    rw [inited] at notInited
    cases notInited
  · rintro (launches | waits | joins | idle)
    · exact noStop (.inl launches)
    · exact noStop (.inr waits)
    · exact absurd joins notJoin
    · exact absurd (state.symm.trans idle) busy
  · rw [running]
    intro current isRunning
    obtain ⟨waits, resets, neverIdle, staysIdle⟩ := phased.running current isRunning
    exact ⟨fun isReset => absurd (waits isReset) (noReset _),
      fun isReset => absurd (waits isReset) (noReset _), neverIdle,
      fun idle => absurd (state.symm.trans idle) busy⟩
  · intro idle
    exact absurd (state.symm.trans idle) busy
  · rintro (⟨isFree, idle⟩ | joins)
    · exact absurd idle (status isFree)
    · exact absurd joins notJoin
  · intro task waits
    obtain ⟨isReset, waiting⟩ := waited task waits
    exact ⟨isReset, .inr (.inl waiting)⟩

/-- In the phases between a status check and the reset handler the player has a
source. -/
theorem Phased.busy (phased : server.Phased) (notFree : server.phase ≠ .free)
    (noReset : ∀ task, server.phase ≠ .resetWait task) (notJoin : server.phase ≠ .resetJoin) :
    server.currState ≠ .idleState ∧ server.taskMgr.isInited = true := by
  constructor
  · intro idle
    rcases phased.idlePhase idle with ⟨isFree, _⟩ | ⟨task, waits⟩ | joins
    · exact notFree isFree
    · exact noReset task waits
    · exact notJoin joins
  · cases inited : server.taskMgr.isInited with
    | true => rfl
    | false =>
      rcases (phased.uninited inited).2 with joins | ⟨isFree, _⟩
      · exact absurd joins notJoin
      · exact absurd isFree notFree

theorem Phased.stepClient (phased : server.Phased) : server.stepClient.Phased := by
  unfold PlayerServer.stepClient
  cases phase : server.phase with
  | free => exact phased
  | stopLaunch resetting =>
    have noReset (task : Task) : server.phase ≠ .resetWait task := by simp [phase]
    obtain ⟨busy, inited⟩ := phased.busy (by simp [phase]) noReset (by simp [phase])
    have effect := server.launch_effect (.launchTask .stop .stateChange "stop")
    have noResetTask (task : Task)
        (member : task ∈ (server.launch (.launchTask .stop .stateChange "stop")).taskMgr.tasks) :
        task.job ≠ .reset := by
      intro isReset
      rcases effect.mem_tasks member with old | new | new
      · exact noReset task (phased.resetWaits task old isReset)
      · rw [← Option.some.inj new] at isReset
        cases isReset
      · cases new
    have stillInited := effect.isInited.trans inited
    simp only
    split
    · exact phased.clientMoves busy noReset rfl rfl stillInited
        (fun task member isReset => absurd isReset (noResetTask task member)) (by simp) (by simp)
        (by simp) (by simp)
    · exact phased.clientMoves busy noReset rfl rfl stillInited
        (fun task member isReset => absurd isReset (noResetTask task member)) (by simp) (by simp)
        (by simp) (by simp)
  | stopWait task =>
    have noReset (task : Task) : server.phase ≠ .resetWait task := by simp [phase]
    obtain ⟨busy, inited⟩ := phased.busy (by simp [phase]) noReset (by simp [phase])
    have empty : server.taskMgr.clearAllTask.tasks = [] := clearAllTask_tasks inited
    simp only
    split
    · refine phased.clientMoves busy noReset rfl rfl
        ((clearAllTask_isInited _).trans inited) ?_ ?_ (by simp) (by simp) (by simp)
      · intro other member
        change other ∈ server.taskMgr.clearAllTask.tasks at member
        rw [empty] at member
        cases member
      · intro _ other member
        change other ∈ server.taskMgr.clearAllTask.tasks at member
        rw [empty] at member
        cases member
    · exact phased
  | resetLaunch =>
    have noReset (task : Task) : server.phase ≠ .resetWait task := by simp [phase]
    obtain ⟨busy, inited⟩ := phased.busy (by simp [phase]) noReset (by simp [phase])
    have effect := server.launch_effect (.launchTask .reset .stateChange "reset")
    have known (task : Task)
        (member : task ∈ (server.launch (.launchTask .reset .stateChange "reset")).taskMgr.tasks) :
        task ∈ server.taskMgr.tasks ∨ task = server.fresh .reset := by
      rcases effect.mem_tasks member with old | new | new
      · exact .inl old
      · exact .inr (Option.some.inj new).symm
      · cases new
    refine phased.clientMoves busy noReset rfl rfl (effect.isInited.trans inited) ?_ ?_ (by simp)
      (by simp) ?_
    · intro task member isReset
      rcases known task member with old | rfl
      · exact absurd (phased.resetWaits task old isReset) (noReset task)
      · rfl
    · intro _ task member
      rcases known task member with old | rfl
      · exact phased.noStop (.inl phase) task old
      · simp [fresh]
    · intro task waits
      obtain rfl := ClientPhase.resetWait.inj waits
      exact ⟨rfl, launchTask_waiting inited _ _⟩
  | resetWait task =>
    simp only
    split
    · rename_i returned
      simp only [Returned, Bool.and_eq_true, decide_eq_true_eq, List.all_eq_true,
        Option.all_eq_true, bne_iff_ne, ne_eq] at returned
      obtain ⟨⟨notQueued, notPending⟩, notRunning⟩ := returned
      obtain ⟨isReset, idle | (queued | ⟨item, pending, _, found⟩) | isRunning⟩ :=
        phased.waited task phase
      · have empty : server.taskMgr.reset.2.tasks = [] := rfl
        refine ⟨fun _ => ⟨empty, .inl rfl⟩, ?_, ?_, ?_, fun _ => .inr (.inr rfl), fun _ => idle, ?_⟩
        · intro other member
          cases member
        · intro _ other member
          cases member
        · intro running isRunning
          obtain ⟨waits, _, neverIdle, staysIdle⟩ := phased.running running isRunning
          have ordinary : running.task.job ≠ .reset := by
            intro isReset
            have same := ClientPhase.resetWait.inj (phase.symm.trans (waits isReset))
            exact notRunning running isRunning same.symm
          exact ⟨fun isReset => absurd isReset ordinary, fun isReset => absurd isReset ordinary,
            neverIdle, staysIdle⟩
        · intro other waits
          cases waits
      · simp only [TaskThread.handlers, List.mem_filterMap] at queued
        obtain ⟨entry, member, isTask⟩ := queued
        cases entry with
        | handler other =>
          obtain rfl := Option.some.inj isTask
          exact absurd member notQueued
        | dummyTask => cases isTask
      · exact absurd found (notPending item pending)
      · exact absurd rfl (notRunning _ isRunning)
    · exact phased
  | resetJoin =>
    simp only
    split
    · rename_i returned
      have idle : server.currState = .idleState := phased.reached (.inr phase)
      refine ⟨?_, ?_, fun _ => phased.noStop (.inr (.inr (.inl phase))), ?_,
        fun _ => .inl ⟨rfl, rfl⟩, fun _ => idle, ?_⟩
      · intro notInited
        exact ⟨(phased.uninited notInited).1, .inr ⟨rfl, rfl⟩⟩
      · intro task member isReset
        have waits := phased.resetWaits task member isReset
        rw [phase] at waits
        cases waits
      · intro running isRunning
        rw [isRunning] at returned
        cases returned
      · intro task waits
        cases waits
    · exact phased

theorem Phased.takesStep (phased : server.Phased) (event : PlayerEvent) :
    (server.step event).Phased := by
  cases event with
  | operate op =>
    simp only [PlayerServer.step]
    split
    · rename_i free
      exact phased.operated free (operate_frame server free op) (operate_taskEffect server op)
    · exact phased
  | stepClient => exact phased.stepClient
  | stepThread reply =>
    simp only [PlayerServer.step, PlayerServer.stepThread]
    cases isRunning : server.running with
    | none => exact phased.takeTask isRunning
    | some running => exact phased.execute reply isRunning
  | deliver message inBackground => exact phased.deliver message inBackground
  | ioError | noMemoryError | userBackground =>
    exact phased.launchOrdinary _ (by simp [Launch.Ordinary, Job.Ordinary])

end PlayerServer

end PlayerFramework.Player
