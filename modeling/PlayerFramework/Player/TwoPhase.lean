import Mathlib.Data.List.Nodup
import PlayerFramework.Player.ServerSteps

/-!
Mutual exclusion of two-phase tasks.  A task has received its completion event
when its own handler has called `MarkTaskDone` or when the engine has delivered
the message that completes the request its handler made; `ClearAllTask` and
`Reset` of the manager end a task without one.
-/

namespace PlayerFramework.Player

open Transition PlayerServerTaskMgr

/-- Every handler that was handed to the thread or still waits for its turn. -/
def line (mgr : PlayerServerTaskMgr Task) (history : TaskHistory) : List Task :=
  history.begun ++ (mgr.taskThread.handlers ++ mgr.pendingHandlers)

/-- A task that left flight did so with its completion event, or was cleared. -/
def TaskHistory.Ended (history : TaskHistory) (task : Task) : Prop :=
  task ∈ history.received ∨ task ∈ history.cleared

structure Exclusive (mgr : PlayerServerTaskMgr Task) (history : TaskHistory) (nextTask : Nat) :
    Prop where
  distinct : (line mgr history).Nodup
  below : ∀ task ∈ line mgr history, task.id < nextTask
  last : ∀ task, mgr.currTwoPhaseTask = some task →
    (history.begun ++ mgr.taskThread.handlers).getLast? = some task
  ended : ∀ task ∈ history.begun ++ mgr.taskThread.handlers,
    mgr.currTwoPhaseTask = some task ∨ history.Ended task
  idle : mgr.isInited = false → mgr.currTwoPhaseTask = none

/-- No handler has begun before the tasks begun earlier were over. -/
def TaskHistory.OneAtATime (history : TaskHistory) : Prop :=
  ∀ earlier task, history.begun = earlier ++ [task] → ∀ other ∈ earlier, history.Ended other

namespace Exclusive

variable {mgr next : PlayerServerTaskMgr Task} {history : TaskHistory} {nextTask : Nat}

/-- The task in flight is the last one handed to the thread, so once another
handler has begun it is not among the earlier ones. -/
theorem oneAtATime (exclusive : Exclusive mgr history nextTask) : history.OneAtATime := by
  intro earlier task begun other member
  have present : other ∈ history.begun ++ mgr.taskThread.handlers := by
    simp [begun, member]
  rcases exclusive.ended other present with inFlight | ended
  · exfalso
    have last := exclusive.last other inFlight
    have distinct := exclusive.distinct
    rw [line, ← List.append_assoc, List.nodup_append] at distinct
    obtain ⟨initial, split⟩ := List.getLast?_eq_some_iff.mp last
    have whole := distinct.1
    rw [begun, List.append_assoc] at split whole
    -- `other` stands in `earlier` and again at the end of the same list.
    have twice : other ∈ initial := by
      have prefixed : earlier <+: initial ++ [other] := ⟨[task] ++ mgr.taskThread.handlers, split⟩
      have shorter : earlier.length ≤ initial.length := by
        have lengths := congrArg List.length split
        simp only [List.length_append, List.length_cons, List.length_nil] at lengths
        omega
      have contained : earlier <+: initial :=
        List.prefix_of_prefix_length_le prefixed (List.prefix_append initial [other]) shorter
      exact contained.subset member
    rw [split, List.nodup_append] at whole
    exact whole.2.2 other twice other (by simp) rfl
  · exact ended

theorem weaken (exclusive : Exclusive mgr history nextTask) {later : TaskHistory}
    (begun : later.begun = history.begun)
    (ended : ∀ task, history.Ended task → later.Ended task) : Exclusive mgr later nextTask := by
  refine ⟨?_, ?_, ?_, ?_, exclusive.idle⟩
  · rw [line, begun]
    exact exclusive.distinct
  · rw [line, begun]
    exact exclusive.below
  · rw [begun]
    exact exclusive.last
  · rw [begun]
    intro task member
    exact (exclusive.ended task member).imp_right (ended task)

theorem fresh_not_mem (exclusive : Exclusive mgr history nextTask) {task : Task}
    (fresh : nextTask ≤ task.id) : task ∉ line mgr history := by
  intro member
  have bound := exclusive.below task member
  omega

theorem launched (exclusive : Exclusive mgr history nextTask) {job : Job} {cancel : Option Job}
    (effect : LaunchEffect mgr next (some ⟨nextTask, job⟩)
      (cancel.map fun cancel => ⟨nextTask + 1, cancel⟩)) :
    Exclusive next history (nextTask + 2) := by
  have newTask : (⟨nextTask, job⟩ : Task) ∉ line mgr history :=
    exclusive.fresh_not_mem (Nat.le_refl _)
  cases effect with
  | ignored same =>
    subst same
    refine ⟨exclusive.distinct, ?_, exclusive.last, exclusive.ended, exclusive.idle⟩
    intro task member
    have bound := exclusive.below task member
    omega
  | started idle inited wasInited current thread pending =>
    have handlers : next.taskThread.handlers = mgr.taskThread.handlers ++ [⟨nextTask, job⟩] := by
      rw [thread, TaskThread.handlers_enqueueTask]
    have lineEq : line next history = (history.begun ++ mgr.taskThread.handlers) ++
        ⟨nextTask, job⟩ :: mgr.pendingHandlers := by
      simp [line, handlers, pendingHandlers, pending]
    refine ⟨?_, ?_, ?_, ?_, ?_⟩
    · rw [lineEq, List.nodup_middle, List.nodup_cons, List.append_assoc]
      exact ⟨newTask, exclusive.distinct⟩
    · intro task member
      rw [lineEq, List.mem_append, List.mem_cons] at member
      have known : task = ⟨nextTask, job⟩ ∨ task ∈ line mgr history := by
        simp only [line, List.mem_append] at member ⊢
        tauto
      rcases known with rfl | old
      · exact Nat.lt_add_of_pos_right (by decide)
      · have bound := exclusive.below task old
        omega
    · intro task inFlight
      have same : (⟨nextTask, job⟩ : Task) = task := Option.some.inj (current.symm.trans inFlight)
      rw [handlers, ← List.append_assoc, same]
      exact List.getLast?_concat
    · intro task member
      rw [handlers, ← List.append_assoc, List.mem_append, List.mem_singleton] at member
      rcases member with old | rfl
      · have before := exclusive.ended task old
        simp only [idle, reduceCtorEq, false_or] at before
        exact .inr before
      · exact .inl current
    · intro notInited
      rw [inited, wasInited] at notInited
      cases notInited
  | appended busy inited current thread change added pending changeTasks changeState addedTask
      addedCancel =>
      have lineEq : line next history = line mgr history ++ added.tasks := by
        simp [line, thread, pendingHandlers, pending, List.flatMap_append, List.flatMap_map,
          changeTasks]
      have addedMem (task : Task) (member : task ∈ added.tasks) :
          nextTask ≤ task.id ∧ task.id < nextTask + 2 := by
        simp only [TwoPhaseTaskItem.tasks, addedTask, addedCancel, Option.toList_some,
          List.cons_append, List.nil_append, List.mem_cons, Option.mem_toList,
          Option.map_eq_some_iff] at member
        rcases member with rfl | ⟨cancel, _, rfl⟩ <;> exact ⟨by simp, by simp⟩
      refine ⟨?_, ?_, ?_, ?_, ?_⟩
      · rw [lineEq, List.nodup_append]
        refine ⟨exclusive.distinct, ?_, ?_⟩
        · cases cancel <;> simp [TwoPhaseTaskItem.tasks, addedTask, addedCancel]
        · intro old oldMember new newMember same
          exact exclusive.fresh_not_mem (same ▸ (addedMem new newMember).1) oldMember
      · intro task member
        rw [lineEq, List.mem_append] at member
        rcases member with old | new
        · have bound := exclusive.below task old
          omega
        · exact (addedMem task new).2
      · rw [current, thread]
        exact exclusive.last
      · rw [current, thread]
        exact exclusive.ended
      · rw [current, inited]
        exact exclusive.idle

/-- `MarkTaskDone` is called once the task in flight has had its completion event. -/
theorem marked (exclusive : Exclusive mgr history nextTask) (effect : MarkEffect mgr next)
    (closed : ∀ task, mgr.currTwoPhaseTask = some task → history.Ended task) :
    Exclusive next history nextTask := by
  have allEnded (task : Task) (member : task ∈ history.begun ++ mgr.taskThread.handlers) :
      history.Ended task := by
    rcases exclusive.ended task member with inFlight | ended
    · exact closed task inFlight
    · exact ended
  cases effect with
  | ignored notInited same => exact same ▸ exclusive
  | finished empty inited current thread pending =>
    have lineEq : line next history = line mgr history := by
      simp [line, thread, pendingHandlers, pending, empty]
    refine ⟨lineEq ▸ exclusive.distinct, lineEq ▸ exclusive.below, ?_, ?_, fun _ => current⟩
    · intro task inFlight
      rw [current] at inFlight
      cases inFlight
    · rw [thread]
      exact fun task member => .inr (allEnded task member)
  | started item rest first inited current thread pending =>
    have smaller : (line next history).Sublist (line mgr history) := by
      simp only [line, thread, pendingHandlers, pending, first, List.flatMap_cons,
        List.append_assoc]
      exact List.Sublist.append_left (List.Sublist.append_left
        (List.Sublist.append_right item.handler_sublist _) _) _
    refine ⟨exclusive.distinct.sublist smaller,
      fun task member => exclusive.below task (smaller.subset member), ?_, ?_, ?_⟩
    · intro task inFlight
      have chosen : item.handler = some task := current.symm.trans inFlight
      rw [thread, chosen, ← List.append_assoc]
      exact List.getLast?_concat
    · intro task member
      rw [thread, ← List.append_assoc, List.mem_append] at member
      rcases member with old | new
      · exact .inr (allEnded task old)
      · exact .inl (current.trans (Option.mem_toList.mp new))
    · intro notInited
      rw [inited] at notInited
      cases notInited

theorem clearing (exclusive : Exclusive mgr history nextTask) {cleared : List Task}
    (grows : cleared = history.cleared ++ mgr.currTwoPhaseTask.toList) :
    Exclusive mgr { history with cleared } nextTask := by
  refine exclusive.weaken rfl fun task ended => ?_
  rcases ended with received | isCleared
  · exact .inl received
  · exact .inr (grows ▸ List.mem_append_left _ isCleared)

/-- `ClearAllTask` and `Reset` of the manager: nothing is left, and the task that
was in flight is recorded as cleared. -/
theorem emptied (exclusive : Exclusive mgr history nextTask) {cleared : List Task}
    (grows : cleared = history.cleared ++ mgr.currTwoPhaseTask.toList)
    (current : next.currTwoPhaseTask = none) (thread : next.taskThread.handlers = [])
    (pending : next.pendingTwoPhaseTasks = []) :
    Exclusive next { history with cleared } nextTask := by
  have lineEq : line next { history with cleared } = history.begun := by
    simp [line, thread, pendingHandlers, pending]
  have smaller : history.begun.Sublist (line mgr history) := List.sublist_append_left _ _
  refine ⟨?_, ?_, ?_, ?_, fun _ => current⟩
  · rw [lineEq]
    exact exclusive.distinct.sublist smaller
  · intro task member
    exact exclusive.below task (smaller.subset (lineEq ▸ member))
  · intro task inFlight
    rw [current] at inFlight
    cases inFlight
  · intro task member
    rw [thread, List.append_nil] at member
    rcases exclusive.ended task (List.mem_append_left _ member) with inFlight | received | done
    · exact .inr (.inr (by simp [grows, inFlight]))
    · exact .inr (.inl received)
    · exact .inr (.inr (by simp [grows, done]))

theorem cleared (exclusive : Exclusive mgr history nextTask) : Exclusive mgr.clearAllTask
      { history with cleared := history.cleared ++ mgr.currTwoPhaseTask.toList } nextTask := by
  rcases clearAllTask_effect mgr with ⟨_, same⟩ | ⟨_, current, thread, pending⟩
  · rw [same]
    exact exclusive.clearing rfl
  · exact exclusive.emptied rfl current thread pending

theorem inited (exclusive : Exclusive mgr history nextTask) :
    Exclusive mgr.init.2 history nextTask := by
  unfold PlayerServerTaskMgr.init
  split
  · exact exclusive
  rename_i notInited
  rw [Bool.not_eq_true] at notInited
  have current := exclusive.idle notInited
  have smaller : (line { mgr with taskThread := {}, isInited := true } history).Sublist
      (line mgr history) := by
    exact List.Sublist.append_left (List.sublist_append_right _ _) _
  refine ⟨exclusive.distinct.sublist smaller,
    fun task member => exclusive.below task (smaller.subset member), ?_, ?_, fun _ => current⟩
  · intro task inFlight
    simp [current] at inFlight
  · intro task member
    simp only [TaskThread.handlers, List.filterMap_nil, List.append_nil] at member
    exact exclusive.ended task (List.mem_append_left _ member)

/-- The thread takes a handler: it moves from the thread's list to those begun. -/
theorem taken (exclusive : Exclusive mgr history nextTask) {rest : List (ThreadTask Task)}
    {begun : List Task}
    (moved : begun ++ (⟨rest⟩ : TaskThread Task).handlers =
      history.begun ++ mgr.taskThread.handlers) :
    Exclusive { mgr with taskThread.taskList := rest } { history with begun } nextTask := by
  have lineEq : line { mgr with taskThread.taskList := rest } { history with begun } =
      line mgr history := by
    change begun ++ ((⟨rest⟩ : TaskThread Task).handlers ++ mgr.pendingHandlers) = _
    rw [← List.append_assoc, moved, List.append_assoc]
    rfl
  refine ⟨lineEq ▸ exclusive.distinct, lineEq ▸ exclusive.below, ?_, ?_, exclusive.idle⟩
  · rw [moved]
    exact exclusive.last
  · rw [moved]
    exact exclusive.ended

end Exclusive

namespace PlayerServer

def completedTask (server : PlayerServer) (message : PlayerMessage) : Option Task :=
  (server.outstanding.find? fun pending => pending.request.completedBy message).map
    Outstanding.owner

def aboutToMark : TaskProg → Bool
  | .markTaskDone _ _ => true
  | _ => false

/-- What mutual exclusion asks of a step: a message at which the current state
calls `MarkTaskDone` completes the request of the task in flight, or finds
nothing in flight and pauses nothing; a handler that calls `MarkTaskDone` is that
of the task in flight, or nothing is in flight. -/
def OwnCompletion (server : PlayerServer) : PlayerEvent → Prop
  | .deliver message inBackground => (server.messageEffect message).mark ≠ none →
      (server.taskMgr.currTwoPhaseTask ≠ none ∧
        server.completedTask message = server.taskMgr.currTwoPhaseTask) ∨
      (server.taskMgr.currTwoPhaseTask = none ∧
        ¬(server.EntersPlaying message ∧ inBackground = true))
  | .stepThread _ => (server.running.all fun running => !aboutToMark running.rest ||
      decide (server.taskMgr.currTwoPhaseTask = none ∨
        server.taskMgr.currTwoPhaseTask = some running.task)) = true
  | _ => True

instance (server : PlayerServer) : ∀ event, Decidable (server.OwnCompletion event)
  | .deliver _ _ => inferInstanceAs (Decidable (_ → _ ∨ _))
  | .stepThread _ => inferInstanceAs (Decidable (_ = true))
  | .operate _ => .isTrue trivial
  | .stepClient => .isTrue trivial
  | .ioError => .isTrue trivial
  | .noMemoryError => .isTrue trivial
  | .userBackground => .isTrue trivial

abbrev IsExclusive (server : PlayerServer) : Prop :=
  Exclusive server.taskMgr server.history server.nextTask

variable {server : PlayerServer}

theorem IsExclusive.taskEffect {next : PlayerServer} (exclusive : server.IsExclusive)
    (effect : TaskEffect server next) : next.IsExclusive := by
  unfold IsExclusive
  cases effect with
  | kept taskMgr nextTask history =>
    rw [taskMgr, nextTask, history]
    exact exclusive
  | launched call effect ordinary nextTask history =>
    rw [nextTask, history]
    exact Exclusive.launched exclusive effect
  | cleared taskMgr nextTask history status =>
    rw [taskMgr, nextTask, history]
    exact Exclusive.cleared exclusive
  | inited taskMgr nextTask history status =>
    rw [taskMgr, nextTask, history]
    exact Exclusive.inited exclusive

theorem IsExclusive.launch (exclusive : server.IsExclusive) (call : Launch) :
    (server.launch call).IsExclusive :=
  Exclusive.launched exclusive (server.launch_effect call)

theorem IsExclusive.receive (exclusive : server.IsExclusive) (task : Task) :
    (server.receive task).IsExclusive := by
  refine Exclusive.weaken exclusive rfl fun other ended => ?_
  rcases ended with received | isCleared
  · exact .inl (List.mem_append_left _ received)
  · exact .inr isCleared

theorem IsExclusive.systemPause (exclusive : server.IsExclusive) :
    server.systemPause.IsExclusive := by
  unfold PlayerServer.systemPause
  split
  · exact exclusive.launch (.launchTask (.pause true) .stateChange "pause")
  · exact exclusive

theorem IsExclusive.marked (exclusive : server.IsExclusive)
    (closed : ∀ task, server.taskMgr.currTwoPhaseTask = some task → server.history.Ended task)
    (taskName : String) : (server.markTaskDone taskName).IsExclusive :=
  Exclusive.marked exclusive (markTaskDone_effect server.taskMgr taskName) closed

theorem IsExclusive.takeTask (exclusive : server.IsExclusive) : server.takeTask.IsExclusive := by
  unfold PlayerServer.takeTask
  split
  · exact exclusive
  · rename_i rest list
    exact Exclusive.taken exclusive (by simp [TaskThread.handlers, list])
  · rename_i task rest list
    exact Exclusive.taken exclusive (by simp [TaskThread.handlers, list])

theorem IsExclusive.execute (exclusive : server.IsExclusive) (task : Task) (reply : Bool)
    (rest : TaskProg) (own : aboutToMark rest = true →
      ∀ current, server.taskMgr.currTwoPhaseTask = some current → current = task) :
    (server.execute task reply rest).IsExclusive := by
  cases rest with
  | done | getCurrState op next | test test next | setData change next | ask query next =>
    exact exclusive
  | request request next | changeState state entered same =>
    simp only [PlayerServer.execute]
    split <;> exact exclusive
  | markTaskDone taskName next =>
    refine (exclusive.receive task).marked ?_ taskName
    intro current inFlight
    have same := own rfl current inFlight
    exact .inl (by simp [PlayerServer.receive, same])
  | launch prepareTask next => exact exclusive.launch prepareTask.launch
  | systemPause next =>
    simp only [PlayerServer.execute]
    split
    · exact exclusive.systemPause
    · exact exclusive
  | engineReset next => exact exclusive

theorem IsExclusive.complete (exclusive : server.IsExclusive) (message : PlayerMessage) :
    (server.complete message).IsExclusive := by
  unfold PlayerServer.complete
  split
  · exact exclusive
  · exact exclusive.receive _

theorem complete_ended {message : PlayerMessage} {task : Task}
    (completes : server.completedTask message = some task) :
    (server.complete message).history.Ended task := by
  obtain ⟨pending, found, rfl⟩ := Option.map_eq_some_iff.mp completes
  simp [PlayerServer.complete, found, PlayerServer.receive, TaskHistory.Ended]

theorem complete_taskMgr (server : PlayerServer) (message : PlayerMessage) :
    (server.complete message).taskMgr = server.taskMgr := by
  unfold PlayerServer.complete
  split <;> rfl

theorem systemPause_history (server : PlayerServer) :
    server.systemPause.history = server.history := by
  unfold PlayerServer.systemPause
  split <;> rfl

theorem systemPause_current (server : PlayerServer) {task : Task}
    (inFlight : server.taskMgr.currTwoPhaseTask = some task) :
    server.systemPause.taskMgr.currTwoPhaseTask = some task := by
  unfold PlayerServer.systemPause
  split
  · have effect := server.launch_effect (.launchTask (.pause true) .stateChange "pause")
    cases effect with
    | ignored same => exact (congrArg PlayerServerTaskMgr.currTwoPhaseTask same).trans inFlight
    | started idle => simp [inFlight] at idle
    | appended busy inited current => exact current.trans inFlight
  · exact inFlight

theorem IsExclusive.messageLaunch (exclusive : server.IsExclusive) (message : PlayerMessage) :
    (server.messageLaunch message).IsExclusive := by
  cases message with
  | eos =>
    simp only [PlayerServer.messageLaunch, loopSeek]
    split
    · exact exclusive.launch _
    · exact exclusive
  | bufferingStart | bufferingEnd | flvAutoSelectBitRate => exact exclusive.launch _
  | _ => exact exclusive

theorem IsExclusive.markIfSome (exclusive : server.IsExclusive) {mark : Option String}
    (closed : mark ≠ none →
      ∀ task, server.taskMgr.currTwoPhaseTask = some task → server.history.Ended task) :
    (server.markIfSome mark).IsExclusive := by
  cases mark with
  | none => exact exclusive
  | some taskName => exact exclusive.marked (closed (by simp)) taskName

theorem IsExclusive.deliver (exclusive : server.IsExclusive) (message : PlayerMessage)
    (inBackground : Bool) (own : server.OwnCompletion (.deliver message inBackground)) :
    (server.deliver message inBackground).IsExclusive := by
  have entered : ((server.complete message).enterState
    (server.messageEffect message)).IsExclusive :=
    exclusive.complete message
  have closed (marks : (server.messageEffect message).mark ≠ none) (task : Task)
      (inFlight : server.taskMgr.currTwoPhaseTask = some task) :
      (server.complete message).history.Ended task := by
    rcases own marks with ⟨_, completes⟩ | ⟨none, _⟩
    · exact complete_ended (completes.trans inFlight)
    · simp [inFlight] at none
  unfold PlayerServer.deliver
  split
  · rename_i background
    split
    · refine entered.systemPause.markIfSome fun marks task inFlight => ?_
      rw [systemPause_history]
      cases before : server.taskMgr.currTwoPhaseTask with
      | none =>
        rcases own marks with ⟨busy, _⟩ | ⟨_, quiet⟩
        · exact absurd before busy
        · exact absurd background quiet
      | some running =>
        have kept := systemPause_current
          ((server.complete message).enterState (server.messageEffect message))
          (by rw [← before]; exact complete_taskMgr server message ▸ rfl)
        have same : running = task := Option.some.inj (kept.symm.trans inFlight)
        exact closed marks task (same ▸ before)
    · exact exclusive
  · refine IsExclusive.messageLaunch (entered.markIfSome fun marks task inFlight => ?_) message
    refine closed marks task ?_
    rw [← complete_taskMgr server message]
    exact inFlight

theorem IsExclusive.stepClient (exclusive : server.IsExclusive) :
    server.stepClient.IsExclusive := by
  unfold PlayerServer.stepClient
  split
  · exact exclusive
  · split <;> exact exclusive.launch (.launchTask .stop .stateChange "stop")
  · split
    · exact Exclusive.cleared exclusive
    · exact exclusive
  · exact exclusive.launch (.launchTask .reset .stateChange "reset")
  · split
    · exact Exclusive.emptied exclusive rfl rfl rfl rfl
    · exact exclusive
  · split <;> exact exclusive

theorem step_exclusive (server : PlayerServer) (event : PlayerEvent)
    (exclusive : server.IsExclusive) (own : server.OwnCompletion event) :
    (server.step event).IsExclusive := by
  cases event with
  | operate op =>
    simp only [PlayerServer.step]
    split
    · exact exclusive.taskEffect (operate_taskEffect server op)
    · exact exclusive
  | stepClient => exact exclusive.stepClient
  | stepThread reply =>
    simp only [PlayerServer.step, PlayerServer.stepThread]
    split
    · exact exclusive.takeTask
    rename_i running isRunning
    refine exclusive.execute running.task reply running.rest ?_
    intro marks task inFlight
    simp only [OwnCompletion, isRunning, Option.all_some, marks, Bool.not_true, Bool.false_or,
      decide_eq_true_eq, inFlight, reduceCtorEq, false_or, Option.some.injEq] at own
    exact own
  | deliver message inBackground => exact exclusive.deliver message inBackground own
  | ioError | noMemoryError | userBackground => exact exclusive.launch _

theorem initial_exclusive : initial.IsExclusive := by
  refine ⟨by decide, ?_, ?_, ?_, fun _ => rfl⟩
  · intro task member
    cases member
  · intro task inFlight
    cases inFlight
  · intro task member
    cases member

/-- In a run whose marks all belong to the task in flight, every handler begins
after the completion events of all handlers begun before it, `ClearAllTask`
apart; and every task that was handed to the thread is still in flight, has had
its completion event or was cleared. -/
theorem handlers_one_at_a_time (events : List PlayerEvent)
    (own : Along step OwnCompletion initial events) :
    let server := run step initial events
    server.history.OneAtATime ∧
      ∀ task ∈ server.history.begun ++ server.taskMgr.taskThread.handlers,
        server.taskMgr.currTwoPhaseTask = some task ∨ server.history.Ended task := by
  intro server
  have exclusive : server.IsExclusive :=
    invariant_of_along IsExclusive step_exclusive own initial_exclusive
  exact ⟨exclusive.oneAtATime, exclusive.ended⟩

def threadSteps (replies : List Bool) : List PlayerEvent :=
  replies.map .stepThread

/-- A player is prepared and started, each request being completed in its turn. -/
def toPlaying : List PlayerEvent :=
  [PlayerEvent.operate (.setSource true), .operate .prepare] ++
    threadSteps [false, false, false, false, false, true, false, false, false, false] ++
    [PlayerEvent.deliver (.stateChange .prepared) false, .operate (.play true)] ++
    threadSteps [false, false, false, true, false] ++
    [PlayerEvent.deliver (.stateChange .started) false]

theorem toPlaying_one_at_a_time : (run step initial toPlaying).currState = .playingState ∧
      (run step initial toPlaying).history.OneAtATime :=
  ⟨by decide, (handlers_one_at_a_time toPlaying (by decide)).1⟩

/-- While a seek is in flight and a pause waits, the track information of an
earlier track switch arrives: its `MarkTaskDone` ends the seek, and the pause
begins before `SEEKDONE`. -/
theorem track_info_ends_seek :
    let server := run step initial (toPlaying ++ [PlayerEvent.operate (.seek 1000 .previousSync)] ++
      threadSteps [false, false, false, true, false] ++
      [PlayerEvent.operate .pause, .deliver .trackInfoUpdate false] ++ threadSteps [false])
    ¬ server.history.OneAtATime := by
  intro server oneAtATime
  have ended : server.history.Ended ⟨4, .seek 1000 .previousSync⟩ :=
    oneAtATime [⟨0, .prepare⟩, ⟨2, .play⟩, ⟨4, .seek 1000 .previousSync⟩] ⟨6, .pause false⟩
      (by decide) _ (by decide)
  have received : server.history.received = [⟨0, .prepare⟩, ⟨2, .play⟩] := by decide
  have cleared : server.history.cleared = [] := by decide
  simp [TaskHistory.Ended, received, cleared] at ended

end PlayerServer

end PlayerFramework.Player
