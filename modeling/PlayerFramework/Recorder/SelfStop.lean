import PlayerFramework.Recorder.RecorderServer

/-!
A recorder that an event has stopped: when it stays stopped until a new configuration has been
prepared and started.
-/

namespace PlayerFramework.Recorder

open PlayerFramework.Transition RecorderServer

inductive Step where
  | enter (call : ClientCall)
  | askEngine (answer : Bool)
  | changeState
  | reply
  | event (event : EngineEvent)
deriving DecidableEq

/-- The recorder with what a run has seen of it: an event has stopped it (and no configuration
prepared since has been started), the `Prepare` under way began after that, one has succeeded
since, and the calls that the server has reported successful since. -/
structure Session where
  server : RecorderServer
  stoppedItself : Bool
  preparing : Bool
  prepared : Bool
  replied : List ClientCall
deriving DecidableEq

namespace Session

def initial : Session :=
  { server := .initial, stoppedItself := false, preparing := false, prepared := false,
    replied := [] }

def step (session : Session) : Step → Session
  | .enter call =>
    { session with
      server := session.server.enter call
      preparing := session.preparing || (session.server.underWay = none ∧ call = .prepare) }
  | .askEngine answer => { session with server := session.server.askEngine answer }
  | .changeState =>
    { session with
      server := session.server.changeState
      stoppedItself := session.stoppedItself &&
        !(session.server.underWay = some (.start, .answered) ∧ session.prepared) }
  | .reply =>
    match session.server.underWay with
    | some (call, .returned true) =>
      { session with
        server := session.server.reply
        prepared := if call = .prepare then session.preparing else session.prepared
        replied := call :: session.replied }
    | _ => { session with server := session.server.reply }
  | .event event =>
    if session.server.recorderEngine then
      if event.Stops session.server.curState then
        { server := { session.server with curState := onEvent session.server.curState event }
          stoppedItself := true
          preparing := false
          prepared := false
          replied := [] }
      else
        { session with
          server := { session.server with
            curState := onEvent session.server.curState event } }
    else session

/-- The call under way is finished, with no event in between. -/
def finished (session : Session) : Session := (session.step .changeState).step .reply

/-- A recorder that an event has stopped is neither recording nor paused, and no `Pause` or
`Resume` has been reported successful since. -/
def StaysStopped (session : Session) : Prop :=
  session.stoppedItself = true → session.server.curState.Resting ∧
      ClientCall.pause ∉ session.replied ∧ ClientCall.resume ∉ session.replied

instance (session : Session) : Decidable session.StaysStopped :=
  inferInstanceAs (Decidable (_ → _))

/-- The call under way has its answer, and would still set `RECORDING` or `PAUSE` or be
reported as a successful `Pause` or `Resume`. -/
def Underway (session : Session) : Prop :=
  session.server.underWay = some (.start, .answered) ∨
    ∃ call stage, session.server.underWay = some (call, stage) ∧
      (call = .pause ∨ call = .resume) ∧ (stage = .answered ∨ stage = .returned true)

/-- What keeps a stopped recorder stopped.  The pipeline of a recorder that an event has stopped
refuses `Pause` and `Resume`, and `Start` unless a `Prepare` begun since has succeeded; such a
recorder is not paused in `READY`, where the pipeline is not asked; and no event stops the
recorder between the answer to a `Start`, `Pause` or `Resume` and the end of that call. -/
def Heeds (session : Session) : Step → Prop
  | .askEngine answer =>
    session.stoppedItself = true →
      match session.server.underWay with
      | some (.pause, .entered) => answer = false ∧ session.server.curState ≠ .ready
      | some (.resume, .entered) => answer = false
      | some (.start, .entered) => answer = false ∨ session.prepared = true
      | _ => True
  | .event event =>
    session.server.recorderEngine = true → event.Stops session.server.curState → ¬ session.Underway
  | _ => True

/-- The call under way cannot end the rest of a recorder that an event has stopped. -/
def Harmless (session : Session) : Prop :=
  session.stoppedItself = true → session.Underway →
    session.server.underWay = some (.start, .answered) ∧ session.prepared = true

variable {session : Session}

theorem finished_of_idle (idle : session.server.underWay = none) : session.finished = session := by
  obtain ⟨⟨status, engine, curState, underWay⟩, stopped, preparing, prepared, replied⟩ := session
  cases idle
  simp [finished, step, changeState, reply]

theorem finished_staysStopped (stays : session.StaysStopped) :
    session.finished.StaysStopped ↔ session.Harmless := by
  obtain ⟨⟨status, engine, curState, underWay⟩, stopped, preparing, prepared, replied⟩ := session
  cases underWay with
  | none =>
    rw [finished_of_idle rfl]
    simp [stays, Harmless, Underway]
  | some underWay =>
    obtain ⟨call, stage⟩ := underWay
    cases stopped with
    | false =>
      rcases stage with _ | _ | _ | _ <;>
        simp [finished, step, StaysStopped, Harmless, changeState, reply]
    | true =>
      have quiet := stays rfl
      rcases stage with _ | _ | _ | _
      case entered => simp_all [finished, step, StaysStopped, Harmless, Underway,
          changeState, reply]
      case returned.false => simp_all [finished, step, StaysStopped, Harmless, Underway,
          changeState, reply]
      all_goals
        simp only [finished, step, StaysStopped, Harmless, Underway, changeState, reply]
        cases call <;> simp_all [ClientCall.target, StateId.Resting]

/-- At rest: the session and what the call under way may still do respect the stop. -/
def Rests (session : Session) : Prop := session.StaysStopped ∧ session.Harmless

theorem rests_enter (call : ClientCall) (rests : session.Rests) :
    (session.step (.enter call)).Rests := by
  refine ⟨fun stopped => ?_, fun stopped underway => ?_⟩
  · have quiet := rests.1 stopped
    simp only [step, enter]
    split <;> exact quiet
  · unfold step enter at underway ⊢
    by_cases taken : session.server.underWay = none ∧ call.Allowed session.server.status ∧
        (session.server.recorderEngine = true ∨ call = .release)
    · simp [Underway, if_pos taken] at underway
    · simp only [if_neg taken] at underway ⊢
      exact rests.2 stopped underway

theorem rests_askEngine (answer : Bool) (rests : session.Rests) :
    (session.step (.askEngine answer)).Rests ↔ session.Heeds (.askEngine answer) := by
  by_cases entered : ∃ call, session.server.underWay = some (call, .entered)
  · obtain ⟨call, entered⟩ := entered
    obtain ⟨⟨status, engine, curState, underWay⟩, stopped, preparing, prepared, replied⟩ := session
    cases entered
    cases stopped with
    | false => simp [Rests, step, StaysStopped, Harmless, Heeds]
    | true =>
      obtain ⟨resting, quiet⟩ := rests.1 rfl
      have stopping := stopState_resting resting answer
      cases call <;> cases answer <;>
        simp_all [Rests, step, StaysStopped, Harmless, Heeds, Underway, askEngine]
  · have begun : ∀ call, session.server.underWay ≠ some (call, .entered) :=
      fun call isEntered => entered ⟨call, isEntered⟩
    refine iff_of_true ?_ ?_
    · simpa only [step, askEngine_of_begun answer begun] using rests
    · intro _
      split <;> simp_all

theorem rests_changeState (rests : session.Rests) : (session.step .changeState).Rests := by
  by_cases answered : ∃ call, session.server.underWay = some (call, .answered)
  · obtain ⟨call, answered⟩ := answered
    obtain ⟨⟨status, engine, curState, underWay⟩, stopped, preparing, prepared, replied⟩ := session
    cases answered
    cases stopped with
    | false => simp [Rests, step, StaysStopped, Harmless]
    | true =>
      cases call <;> cases prepared <;>
        simp_all [Rests, step, StaysStopped, Harmless, Underway, changeState,
          ClientCall.target, StateId.Resting]
  · have unanswered : ∀ call, session.server.underWay ≠ some (call, .answered) :=
      fun call isAnswered => answered ⟨call, isAnswered⟩
    have same : session.step .changeState = session := by
      simp [step, changeState_of_not_answered unanswered, unanswered]
    rwa [same]

theorem rests_reply (rests : session.Rests) : (session.step .reply).Rests := by
  by_cases returned : ∃ call ok, session.server.underWay = some (call, .returned ok)
  · obtain ⟨call, ok, returned⟩ := returned
    obtain ⟨⟨status, engine, curState, underWay⟩, stopped, preparing, prepared, replied⟩ := session
    cases returned
    cases stopped with
    | false => cases ok <;> simp [Rests, step, StaysStopped, Harmless]
    | true =>
      cases ok <;> cases call <;>
        simp_all [Rests, step, StaysStopped, Harmless, Underway, reply]
  · have unfinished : ∀ call ok, session.server.underWay ≠ some (call, .returned ok) :=
      fun call ok isReturned => returned ⟨call, ok, isReturned⟩
    have same : session.step .reply = session := by
      simp [step, reply_of_not_returned unfinished, unfinished]
    rwa [same]

theorem rests_event (event : EngineEvent) (rests : session.Rests) :
    (session.step (.event event)).Rests ↔ session.Heeds (.event event) := by
  unfold step
  by_cases engine : session.server.recorderEngine = true
  · by_cases stops : event.Stops session.server.curState
    · simp only [if_pos engine, if_pos stops]
      constructor
      · -- nothing has been prepared since this stop
        intro after _ _ underway
        exact Bool.noConfusion (after.2 rfl underway).2
      · intro heeds
        refine ⟨fun _ => ⟨?_, List.not_mem_nil, List.not_mem_nil⟩,
          fun _ underway => absurd underway (heeds engine stops)⟩
        simp only [onEvent_of_stops stops]
        exact ⟨nofun, nofun⟩
    · simp only [if_pos engine, if_neg stops]
      refine iff_of_true ⟨fun stopped => ?_, rests.2⟩ fun _ stopped => absurd stopped stops
      exact ⟨onEvent_resting (rests.1 stopped).1 event, (rests.1 stopped).2⟩
  · simp only [if_neg engine]
    exact iff_of_true rests fun present => absurd present engine

theorem rests_step (step : Step) (rests : session.Rests) :
    (session.step step).Rests ↔ session.Heeds step := by
  cases step with
  | enter call => exact iff_of_true (rests_enter call rests) trivial
  | askEngine answer => exact rests_askEngine answer rests
  | changeState => exact iff_of_true (rests_changeState rests) trivial
  | reply => exact iff_of_true (rests_reply rests) trivial
  | event event => exact rests_event event rests

theorem rests_iff_finished :
    session.Rests ↔ session.StaysStopped ∧ session.finished.StaysStopped := by
  constructor
  · intro rests
    exact ⟨rests.1, (finished_staysStopped rests.1).mpr rests.2⟩
  · intro both
    exact ⟨both.1, (finished_staysStopped both.1).mp both.2⟩

theorem initial_rests : initial.Rests := ⟨nofun, nofun⟩

/-- The recorder stays stopped in every state that a run reaches, and where the call that is
under way there ends, exactly when every step of the run heeds the stop. -/
theorem stays_stopped_iff (steps : List Step) :
    (∀ count, (run step initial (steps.take count)).StaysStopped ∧
      (run step initial (steps.take count)).finished.StaysStopped) ↔
      Along step Heeds initial steps := by
  rw [← always_iff_along Rests (fun session taken => rests_step taken) initial_rests steps]
  exact forall_congr' fun count => rests_iff_finished.symm

/-- A client call that runs to its end without an event. -/
def call (client : ClientCall) (answer : Bool) : List Step :=
  [.enter client, .askEngine answer, .changeState, .reply]

def maxDurationReached : List Step :=
  call .setSource true ++ call .setOutputFormat true ++ call .configure true ++
    call .prepare true ++ call .start true ++ [Step.event (.complete true)]

/-- The pipeline answers the next `Pause` with `OK`, so that the recorder that has stopped
itself is paused, and the pause reported. -/
theorem pause_of_stopped_recorder : (run step initial maxDurationReached).StaysStopped ∧
      (run step initial maxDurationReached).server.curState = .init ∧
      ¬ (run step initial (maxDurationReached ++ call .pause true)).StaysStopped ∧
      (run step initial (maxDurationReached ++ call .pause true)).server.curState = .pause ∧
      (run step initial (maxDurationReached ++ call .pause true)).server.status = .recPaused := by
  decide +kernel

end Session

end PlayerFramework.Recorder
