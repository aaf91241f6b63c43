import PlayerFramework.Transition

/-!
The client calls of `RecorderServer` over the state of its `HiRecorderImpl`, and the events of
the recording pipeline (`recorder_server.cpp`, `hirecorder_impl.cpp`).

A call holds the server's `mutex_` from the check of `status_` to its reply and has the engine's
function run on the task queue, so there is one call under way at a time.  The engine's events
come on threads of the pipeline, between any two steps of that call.
-/

namespace PlayerFramework.Recorder

/-- `RecorderServer::RecStatus`. -/
inductive RecStatus where
  | recInitialized
  | recConfigured
  | recPrepared
  | recRecording
  | recPaused
  | recError
deriving DecidableEq

/-- `HiRecorderImpl`'s `StateId`. -/
inductive StateId where
  | init
  | recordingSetting
  | ready
  | pause
  | recording
  | error
deriving DecidableEq

/-- The calls of a client that reach the engine's state.  `setSource` is any of
`SetVideoSource`, `SetAudioSource`, `SetAudioDataSource` and `SetMetaSource`; `configure` is
any of the calls that give `Configure` a parameter. -/
inductive ClientCall where
  | setSource
  | setOutputFormat
  | configure
  | setOrientationHint
  | prepare
  | start
  | pause
  | resume
  | stop
  | reset
  | release
deriving DecidableEq

/-- What the call asks of `status_` before it goes to the engine. -/
def ClientCall.Allowed : ClientCall → RecStatus → Prop
  | .setSource, status | .setOutputFormat, status => status = .recInitialized
  | .configure, status | .prepare, status => status = .recConfigured
  | .start, status => status = .recPrepared
  | .pause, status => status = .recRecording
  | .resume, status => status ≠ .recRecording ∧ (status = .recRecording ∨ status = .recPaused)
  | .stop, status => status = .recRecording ∨ status = .recPaused
  | .setOrientationHint, _ | .reset, _ | .release, _ => True

instance (call : ClientCall) (status : RecStatus) : Decidable (call.Allowed status) := by
  cases call <;> unfold ClientCall.Allowed <;> infer_instance

def ClientCall.statusAfter : ClientCall → Bool → RecStatus → RecStatus
  | .setOutputFormat, ok, _ => if ok then .recConfigured else .recInitialized
  | .prepare, ok, _ => if ok then .recPrepared else .recError
  | .start, ok, _ | .resume, ok, _ => if ok then .recRecording else .recError
  | .pause, ok, _ => if ok then .recPaused else .recError
  | .stop, ok, _ | .reset, ok, _ => if ok then .recInitialized else .recError
  | .setSource, _, status | .configure, _, status | .setOrientationHint, _, status
  | .release, _, status => status

/-- The state that the engine's function sets with `OnStateChanged` at its end. -/
def ClientCall.target : ClientCall → Option StateId
  | .setSource | .setOutputFormat | .configure | .setOrientationHint => some .recordingSetting
  | .start | .resume => some .recording
  | .pause => some .pause
  | .prepare | .stop | .reset | .release => none

/-- How far the engine's function has come. -/
inductive Stage where
  | entered
  | answered
  | returned (ok : Bool)
deriving DecidableEq

structure RecorderServer where
  status : RecStatus
  recorderEngine : Bool
  curState : StateId
  underWay : Option (ClientCall × Stage)
deriving DecidableEq

/-- `RecorderServer::Init` over a new `HiRecorderImpl`. -/
def RecorderServer.initial : RecorderServer :=
  { status := .recInitialized, recorderEngine := true, curState := .init, underWay := none }

/-- `curState_` after `HiRecorderImpl::Stop`, where `stopped` is whether `pipeline_->Stop()`
returns `OK`.  The function holds `stateMutex_` throughout, and nothing else sets `INIT`. -/
def stopState (stopped : Bool) (curState : StateId) : StateId :=
  if curState = .init then .init else if stopped then .init else curState

def stopResult (stopped : Bool) (curState : StateId) : Bool :=
  if curState = .init then true else stopped

namespace RecorderServer

/-- The call takes `mutex_` and passes the server's checks, or is refused with an error. -/
def enter (server : RecorderServer) (call : ClientCall) : RecorderServer :=
  if server.underWay = none ∧ call.Allowed server.status ∧
      (server.recorderEngine = true ∨ call = .release) then
    { server with underWay := some (call, .entered) }
  else server

/-- The engine's function up to the answer of the pipeline or of its own checks, before it
changes `curState_`. -/
def askEngine (server : RecorderServer) (answer : Bool) : RecorderServer :=
  match server.underWay with
  | some (.stop, .entered) =>
    { server with
      curState := stopState answer server.curState
      underWay := some (.stop, .returned (stopResult answer server.curState)) }
  | some (.reset, .entered) =>
    { server with
      curState := stopState answer server.curState
      underWay := some (.reset, .returned (stopResult answer server.curState)) }
  | some (.release, .entered) =>
    { server with recorderEngine := false, underWay := some (.release, .returned true) }
  | some (.prepare, .entered) =>
    { server with underWay := some (.prepare, .returned answer) }
  | some (.pause, .entered) =>
    -- a `READY` recorder is paused without asking the pipeline
    { server with
      underWay := some (.pause,
        if server.curState = .ready ∨ answer then .answered else .returned false) }
  | some (call, .entered) =>
    { server with underWay := some (call, if answer then .answered else .returned false) }
  | _ => server

/-- `OnStateChanged` at the end of the engine's function. -/
def changeState (server : RecorderServer) : RecorderServer :=
  match server.underWay with
  | some (call, .answered) =>
    { server with
      curState := call.target.getD server.curState
      underWay := some (call, .returned true) }
  | _ => server

/-- The server takes the task's result, sets `status_` and returns. -/
def reply (server : RecorderServer) : RecorderServer :=
  match server.underWay with
  | some (call, .returned ok) =>
    { server with status := call.statusAfter ok server.status, underWay := none }
  | _ => server

end RecorderServer

namespace RecorderServer

variable {server : RecorderServer}

theorem askEngine_of_begun (answer : Bool)
    (begun : ∀ call, server.underWay ≠ some (call, .entered)) :
    server.askEngine answer = server := by
  unfold askEngine
  split <;> simp_all

theorem changeState_of_not_answered
    (unanswered : ∀ call, server.underWay ≠ some (call, .answered)) :
    server.changeState = server := by
  unfold changeState
  split <;> simp_all

theorem reply_of_not_returned
    (unfinished : ∀ call ok, server.underWay ≠ some (call, .returned ok)) :
    server.reply = server := by
  unfold reply
  split <;> simp_all

end RecorderServer

/-- The `Status` values of an error event that `TransformEventStatusCode` tells apart. -/
inductive EventStatus where
  | ok
  | errorAudioInterrupt
  | errorVidEncFailed
  | errorAudEncInitFailed
  | errorVidEncInitFailed
  | errorAudioBitrateLeZero
  | errorVideoBitrateLeZero
  | other
deriving DecidableEq

inductive EventErrorCode where
  | msErrOk
  | msErrAudInterrupt
  | msErrVidEncFailed
  | msErrAudEncInitFailed
  | msErrVidEncInitFailed
  | msErrAudioBitrateLeZero
  | msErrVideoBitrateLeZero
  | msErrFrameworkError
deriving DecidableEq

def transformEventStatusCode : EventStatus → EventErrorCode
  | .ok => .msErrOk
  | .errorAudioInterrupt => .msErrAudInterrupt
  | .errorVidEncFailed => .msErrVidEncFailed
  | .errorAudEncInitFailed => .msErrAudEncInitFailed
  | .errorVidEncInitFailed => .msErrVidEncInitFailed
  | .errorAudioBitrateLeZero => .msErrAudioBitrateLeZero
  | .errorVideoBitrateLeZero => .msErrVideoBitrateLeZero
  | .other => .msErrFrameworkError

/-- An event of the pipeline: `observed` is whether `obs_` is still alive, `stopped` whether
`pipeline_->Stop()` returns `OK` if the event has the recorder stop. -/
inductive EngineEvent where
  | error (status : EventStatus) (observed stopped : Bool)
  | ready
  | complete (stopped : Bool)
deriving DecidableEq

/-- `HiRecorderImpl::OnEvent` on `curState_`. -/
def onEvent (curState : StateId) : EngineEvent → StateId
  | .error status observed stopped =>
    if observed then
      if transformEventStatusCode status = .msErrAudInterrupt then stopState stopped curState
      else .error
    else curState
  | .ready => .ready
  | .complete stopped => if curState = .init then curState else stopState stopped curState

/-- The event has a recorder in `curState` stop, and its pipeline stops. -/
def EngineEvent.Stops (curState : StateId) : EngineEvent → Prop
  | .error status observed stopped =>
    observed = true ∧ transformEventStatusCode status = .msErrAudInterrupt ∧
      stopped = true ∧ curState ≠ .init
  | .ready => False
  | .complete stopped => stopped = true ∧ curState ≠ .init

instance (curState : StateId) (event : EngineEvent) : Decidable (event.Stops curState) := by
  cases event <;> unfold EngineEvent.Stops <;> infer_instance

theorem onEvent_of_stops {curState : StateId} {event : EngineEvent}
    (stops : event.Stops curState) : onEvent curState event = .init := by
  cases event with
  | error status observed stopped =>
    obtain ⟨observed, interrupt, stopped, _⟩ := stops
    simp [onEvent, observed, interrupt, stopped, stopState]
  | ready => exact stops.elim
  | complete stopped =>
    obtain ⟨stopped, started⟩ := stops
    simp [onEvent, started, stopped, stopState]

/-- The states of a recorder that neither records nor is paused. -/
def StateId.Resting (curState : StateId) : Prop := curState ≠ .recording ∧ curState ≠ .pause

instance (curState : StateId) : Decidable curState.Resting :=
  inferInstanceAs (Decidable (_ ∧ _))

theorem stopState_cases (stopped : Bool) (curState : StateId) :
    stopState stopped curState = curState ∨ stopState stopped curState = .init := by
  unfold stopState
  split_ifs <;> simp

/-- No event sets `RECORDING` or `PAUSE`: one that does not stop the recorder leaves the state,
or makes it `READY` or `ERROR`. -/
theorem onEvent_cases (curState : StateId) (event : EngineEvent) :
    onEvent curState event = curState ∨ onEvent curState event = .init ∨
      onEvent curState event = .ready ∨ onEvent curState event = .error := by
  cases event with
  | error status observed stopped =>
    cases observed with
    | false => exact .inl rfl
    | true =>
      by_cases interrupt : transformEventStatusCode status = .msErrAudInterrupt
      · rcases stopState_cases stopped curState with same | inits
        · exact .inl (by simp [onEvent, interrupt, same])
        · exact .inr (.inl (by simp [onEvent, interrupt, inits]))
      · exact .inr (.inr (.inr (by simp [onEvent, interrupt])))
  | ready => exact .inr (.inr (.inl rfl))
  | complete stopped =>
    by_cases started : curState = .init
    · exact .inl (by simp [onEvent, started])
    · rcases stopState_cases stopped curState with same | inits
      · exact .inl (by simp [onEvent, same])
      · exact .inr (.inl (by simp [onEvent, started, inits]))

theorem stopState_resting {curState : StateId} (resting : curState.Resting) (stopped : Bool) :
    (stopState stopped curState).Resting := by
  rcases stopState_cases stopped curState with same | inits
  · rwa [same]
  · rw [inits]
    exact ⟨nofun, nofun⟩

theorem onEvent_resting {curState : StateId} (resting : curState.Resting) (event : EngineEvent) :
    (onEvent curState event).Resting := by
  rcases onEvent_cases curState event with same | inits | readies | fails
  · rwa [same]
  · rw [inits]
    exact ⟨nofun, nofun⟩
  · rw [readies]
    exact ⟨nofun, nofun⟩
  · rw [fails]
    exact ⟨nofun, nofun⟩

end PlayerFramework.Recorder
