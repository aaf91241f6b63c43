import PlayerFramework.Transition

/-!
`MonitorClient` (`monitor_client.cpp`): the click thread with its proxy of the media server, the
objects it clicks for, and the death of the server. A step of the thread is what it does under
`mutex_` at a time, or a call between two locks.
-/

namespace PlayerFramework.Monitor

open Transition

/-- Where the click thread stands: in `IsVaildProxy`, which it calls before and after the loop, at
the call that follows it, in the loop, or in the wait of `ClickThreadCtrl`. -/
inductive ClickThread where
  | absent
  | checking (last : Bool)
  | fetching (last : Bool)
  | fetched (last : Bool)
  | enabling
  | waiting
  | clicking
  | disabling
  | resting
deriving DecidableEq

/-- A proxy is known by the generation of the server that it was obtained from; `alive` is the one
that runs. `creating` holds between `threadRunning_ = true` and the creation of the thread. -/
structure MonitorClient where
  alive : Nat := 0
  objSet : List Nat := []
  isVaildProxy : Bool := false
  monitorProxy : Option Nat := none
  threadRunning : Bool := false
  creating : Bool := false
  clickThread : ClickThread := .absent
deriving DecidableEq

/-- What the other side answers to the thread: whether there is a proxy, and whether a call to a
server that is alive succeeds. -/
structure ServerAnswers where
  proxy : Bool := true
  call : Bool := true
deriving DecidableEq

inductive ClientEvent where
  | startClick (obj : Nat)
  | createThread
  | stopClick (obj : Nat)
  | mediaServerDied
  | proceed (answers : ServerAnswers)
deriving DecidableEq

namespace MonitorClient

def startClick (obj : Nat) (client : MonitorClient) : MonitorClient :=
  if obj ∈ client.objSet then client
  else
    { client with
      objSet := obj :: client.objSet
      threadRunning := true
      creating := client.creating || !client.threadRunning }

def createThread (client : MonitorClient) : MonitorClient :=
  if client.creating then { client with creating := false, clickThread := .checking false }
  else client

def stopClick (obj : Nat) (client : MonitorClient) : MonitorClient :=
  { client with objSet := client.objSet.filter fun other => other ≠ obj }

/-- A new server runs from now on. -/
def mediaServerDied (client : MonitorClient) : MonitorClient :=
  { client with objSet := [], isVaildProxy := false, alive := client.alive + 1 }

/-- `IsVaildProxy` has returned true. -/
def validated (last : Bool) (client : MonitorClient) : MonitorClient :=
  { client with clickThread := if last then .disabling else .enabling }

def enabled (answers : ServerAnswers) (client : MonitorClient) : Bool :=
  answers.call && decide (client.monitorProxy = some client.alive)

/-- The next step of the click thread. A wait ends at its time or when it is called off. -/
def proceed (answers : ServerAnswers) (client : MonitorClient) : MonitorClient :=
  match client.clickThread with
  | .absent => client
  | .checking last =>
    { client with
      monitorProxy := if client.isVaildProxy then client.monitorProxy else none
      clickThread := .fetching last }
  | .fetching last =>
    if client.monitorProxy ≠ none then client.validated last
    else if answers.proxy then
      { client with monitorProxy := some client.alive, clickThread := .fetched last }
    else { client with clickThread := .resting }
  | .fetched last => { client with isVaildProxy := true }.validated last
  | .enabling =>
    { client with clickThread := if client.enabled answers then .waiting else .resting }
  | .waiting =>
    if client.objSet = [] then { client with clickThread := .checking true }
    else if client.isVaildProxy then { client with clickThread := .clicking }
    else { client with monitorProxy := none, clickThread := .resting }
  | .clicking => { client with clickThread := .waiting }
  | .disabling => { client with clickThread := .resting }
  | .resting =>
    if client.objSet = [] then { client with threadRunning := false, clickThread := .absent }
    else { client with clickThread := .checking false }

def next (client : MonitorClient) (event : ClientEvent) : MonitorClient :=
  match event with
  | .startClick obj => client.startClick obj
  | .createThread => client.createThread
  | .stopClick obj => client.stopClick obj
  | .mediaServerDied => client.mediaServerDied
  | .proceed answers => client.proceed answers

/-- A proxy that is held for valid is one of the server that runs, and where there are objects a
click thread runs or is about to be created. -/
structure Attentive (client : MonitorClient) : Prop where
  fresh : client.isVaildProxy = true → client.monitorProxy = some client.alive
  attended : client.objSet ≠ [] → client.clickThread ≠ .absent ∨ client.creating = true

/-- The server has not died since the thread got the proxy that it is about to declare valid. -/
def Undisturbed (client : MonitorClient) (event : ClientEvent) : Prop :=
  match event with
  | .proceed _ =>
    ∀ last, client.clickThread = .fetched last → client.monitorProxy = some client.alive
  | _ => True

/-- `threadRunning_` tells of a thread, or of one that is about to be created. -/
structure Threaded (client : MonitorClient) : Prop where
  running : client.threadRunning = true ↔ client.clickThread ≠ .absent ∨ client.creating = true
  single : client.creating = true → client.clickThread = .absent
  objects : client.objSet ≠ [] → client.threadRunning = true

variable {client : MonitorClient}

theorem startClick_threaded (threaded : client.Threaded) (obj : Nat) :
    (client.startClick obj).Threaded := by
  rw [startClick]
  split
  · exact threaded
  cases running : client.threadRunning with
  | true =>
    have there := threaded.running.mp running
    constructor
    · simpa using there
    · simpa using threaded.single
    · intro _
      rfl
  | false =>
    have absent : client.clickThread = .absent := by
      by_contra present
      have contradiction_ := threaded.running.mpr (Or.inl present)
      rw [running] at contradiction_
      cases contradiction_
    constructor
    · simp
    · intro _
      exact absent
    · intro _
      rfl

theorem createThread_threaded (threaded : client.Threaded) : client.createThread.Threaded := by
  rw [createThread]
  split
  · rename_i creating
    have running := threaded.running.mpr (Or.inr creating)
    constructor
    · simpa using running
    · intro still
      cases still
    · exact threaded.objects
  · exact threaded

theorem objSet_of_filter {kept : Nat → Bool} (filled : client.objSet.filter kept ≠ []) :
    client.objSet ≠ [] := by
  intro empty
  rw [empty] at filled
  exact filled rfl

theorem Threaded.goesOn (threaded : client.Threaded) {after : MonitorClient}
    (present : client.clickThread ≠ .absent) (stays : after.clickThread ≠ .absent)
    (running : after.threadRunning = client.threadRunning)
    (creating : after.creating = client.creating) : after.Threaded := by
  have runs := threaded.running.mpr (Or.inl present)
  constructor
  · rw [running]
    exact iff_of_true runs (Or.inl stays)
  · intro creates
    rw [creating] at creates
    exact absurd (threaded.single creates) present
  · rw [running]
    intro _
    exact runs

theorem validated_present (last : Bool) (client : MonitorClient) :
    (client.validated last).clickThread ≠ .absent := by
  cases last <;> simp [validated]

theorem proceed_threaded (threaded : client.Threaded) (answers : ServerAnswers) :
    (client.proceed answers).Threaded := by
  rw [proceed]
  cases thread : client.clickThread with
  | absent => exact threaded
  | checking last => exact threaded.goesOn (by simp [thread]) (by simp) rfl rfl
  | fetching last =>
    simp only
    split
    · exact threaded.goesOn (by simp [thread]) (validated_present last client) rfl rfl
    · split
      · exact threaded.goesOn (by simp [thread]) (by simp) rfl rfl
      · exact threaded.goesOn (by simp [thread]) (by simp) rfl rfl
  | fetched last =>
    exact threaded.goesOn (by simp [thread]) (validated_present last _) rfl rfl
  | enabling =>
    refine threaded.goesOn (by simp [thread]) ?_ rfl rfl
    simp only
    split <;> simp
  | waiting =>
    simp only
    split
    · exact threaded.goesOn (by simp [thread]) (by simp) rfl rfl
    · split
      · exact threaded.goesOn (by simp [thread]) (by simp) rfl rfl
      · exact threaded.goesOn (by simp [thread]) (by simp) rfl rfl
  | clicking | disabling => exact threaded.goesOn (by simp [thread]) (by simp) rfl rfl
  | resting =>
    simp only
    split
    · rename_i empty
      have alone : client.creating = false := by
        cases creating : client.creating with
        | false => rfl
        | true => exact absurd (threaded.single creating) (by simp [thread])
      constructor
      · simp [alone]
      · intro _
        rfl
      · intro filled
        exact absurd empty filled
    · exact threaded.goesOn (by simp [thread]) (by simp) rfl rfl

theorem next_threaded (threaded : client.Threaded) (event : ClientEvent) :
    (client.next event).Threaded := by
  cases event with
  | startClick obj => exact startClick_threaded threaded obj
  | createThread => exact createThread_threaded threaded
  | stopClick obj =>
    exact ⟨threaded.running, threaded.single,
      fun filled => threaded.objects (objSet_of_filter filled)⟩
  | mediaServerDied => exact ⟨threaded.running, threaded.single, fun filled => absurd rfl filled⟩
  | proceed answers => exact proceed_threaded threaded answers

theorem Threaded.attended (threaded : client.Threaded) (filled : client.objSet ≠ []) :
    client.clickThread ≠ .absent ∨ client.creating = true :=
  threaded.running.mp (threaded.objects filled)

theorem proceed_fresh_iff (fresh : client.isVaildProxy = true →
    client.monitorProxy = some client.alive) (answers : ServerAnswers) :
    ((client.proceed answers).isVaildProxy = true →
      (client.proceed answers).monitorProxy = some (client.proceed answers).alive) ↔
      client.Undisturbed (.proceed answers) := by
  rw [proceed, Undisturbed]
  cases thread : client.clickThread with
  | fetched last => simp [validated]
  | checking last =>
    refine iff_of_true ?_ (by simp)
    intro valid
    have stays : client.isVaildProxy = true := valid
    simpa [stays] using fresh stays
  | fetching last =>
    refine iff_of_true ?_ (by simp)
    simp only
    split
    · exact fresh
    · split
      · intro _
        rfl
      · exact fresh
  | waiting =>
    refine iff_of_true ?_ (by simp)
    simp only
    split
    · exact fresh
    split
    · exact fresh
    · rename_i invalid
      intro valid
      exact absurd valid invalid
  | resting =>
    refine iff_of_true ?_ (by simp)
    simp only
    split <;> exact fresh
  | absent | enabling | clicking | disabling => exact iff_of_true fresh (by simp)

theorem next_attentive_iff (attentive : client.Attentive) (threaded : client.Threaded)
    (event : ClientEvent) : (client.next event).Attentive ↔ client.Undisturbed event := by
  have attended := (next_threaded threaded event).attended
  cases event with
  | startClick obj =>
    refine iff_of_true ⟨?_, attended⟩ trivial
    simp only [next, startClick]
    split <;> exact attentive.fresh
  | createThread =>
    refine iff_of_true ⟨?_, attended⟩ trivial
    simp only [next, createThread]
    split <;> exact attentive.fresh
  | stopClick obj => exact iff_of_true ⟨attentive.fresh, attended⟩ trivial
  | mediaServerDied =>
    refine iff_of_true ⟨?_, attended⟩ trivial
    intro valid
    cases valid
  | proceed answers =>
    rw [← proceed_fresh_iff attentive.fresh answers]
    exact ⟨fun later => later.fresh, fun fresh => ⟨fresh, attended⟩⟩

/-- What the click thread does next, where the server gives good answers. -/
def serve (client : MonitorClient) : MonitorClient :=
  if client.creating then client.createThread else client.proceed {}

/-- Left to itself, the thread comes to click on the server that runs. -/
inductive Serves : MonitorClient → Prop where
  | click {client : MonitorClient} (clicks : client.clickThread = .clicking)
      (fresh : client.monitorProxy = some client.alive) : Serves client
  | step {client : MonitorClient} (serves : Serves client.serve) : Serves client

section Serves

variable (filled : client.objSet ≠ []) (created : client.creating = false)

include filled created

theorem serves_waiting (waits : client.clickThread = .waiting) (valid : client.isVaildProxy = true)
    (fresh : client.monitorProxy = some client.alive) : client.Serves := by
  apply Serves.step
  have next : client.serve = { client with clickThread := .clicking } := by
    simp [serve, created, proceed, waits, filled, valid]
  rw [next]
  exact .click rfl fresh

theorem serves_enabling (enables : client.clickThread = .enabling)
    (valid : client.isVaildProxy = true) (fresh : client.monitorProxy = some client.alive) :
    client.Serves := by
  apply Serves.step
  have next : client.serve = { client with clickThread := .waiting } := by
    simp [serve, created, proceed, enables, enabled, fresh]
  rw [next]
  exact serves_waiting filled created rfl valid fresh

/-- A proxy that is not valid is fetched anew. -/
theorem serves_checking (checks : client.clickThread = .checking false)
    (fresh : client.isVaildProxy = true → client.monitorProxy = some client.alive) :
    client.Serves := by
  apply Serves.step
  apply Serves.step
  cases valid : client.isVaildProxy with
  | true =>
    have next : client.serve.serve = { client with clickThread := .enabling } := by
      simp [serve, created, proceed, checks, valid, fresh valid, validated]
    rw [next]
    exact serves_enabling filled created rfl valid (fresh valid)
  | false =>
    apply Serves.step
    have next : client.serve.serve.serve = { client with
        monitorProxy := some client.alive, isVaildProxy := true, clickThread := .enabling } := by
      simp [serve, created, proceed, checks, valid, validated]
    rw [next]
    exact serves_enabling filled created rfl rfl rfl

theorem serves_resting (rests : client.clickThread = .resting)
    (fresh : client.isVaildProxy = true → client.monitorProxy = some client.alive) :
    client.Serves := by
  apply Serves.step
  have next : client.serve = { client with clickThread := .checking false } := by
    simp [serve, created, proceed, rests, filled]
  rw [next]
  exact serves_checking filled created rfl fresh

/-- A thread that finds its proxy invalid goes back to its checks. -/
theorem serves_inside (inside : client.clickThread = .waiting ∨ client.clickThread = .enabling)
    (fresh : client.isVaildProxy = true → client.monitorProxy = some client.alive) :
    client.Serves := by
  have waiting : ∀ waits : MonitorClient, waits.objSet ≠ [] → waits.creating = false →
      waits.clickThread = .waiting →
      (waits.isVaildProxy = true → waits.monitorProxy = some waits.alive) → waits.Serves := by
    intro waits filled created thread fresh
    cases valid : waits.isVaildProxy with
    | true => exact serves_waiting filled created thread valid (fresh valid)
    | false =>
      apply Serves.step
      have next : waits.serve = { waits with monitorProxy := none, clickThread := .resting } := by
        simp [serve, created, proceed, thread, filled, valid]
      rw [next]
      exact serves_resting filled created rfl fun still => absurd (valid.symm.trans still) (by simp)
  rcases inside with waits | enables
  · exact waiting client filled created waits fresh
  apply Serves.step
  by_cases known : client.monitorProxy = some client.alive
  · have next : client.serve = { client with clickThread := .waiting } := by
      simp [serve, created, proceed, enables, enabled, known]
    rw [next]
    exact waiting _ filled created rfl fresh
  · have next : client.serve = { client with clickThread := .resting } := by
      simp [serve, created, proceed, enables, enabled, known]
    rw [next]
    exact serves_resting filled created rfl fresh

theorem serves_validated (last : Bool)
    (fresh : client.isVaildProxy = true → client.monitorProxy = some client.alive) :
    (client.validated last).Serves := by
  cases last with
  | false => exact serves_inside filled created (.inr rfl) fresh
  | true =>
    apply Serves.step
    have next : (client.validated true).serve = { client with clickThread := .resting } := by
      simp [serve, created, proceed, validated]
    rw [next]
    exact serves_resting filled created rfl fresh

theorem serves_fetching {last : Bool} (fetches : client.clickThread = .fetching last)
    (fresh : client.isVaildProxy = true → client.monitorProxy = some client.alive) :
    client.Serves := by
  apply Serves.step
  cases known : client.monitorProxy with
  | some generation =>
    have next : client.serve = client.validated last := by
      simp [serve, created, proceed, fetches, known]
    rw [next]
    exact serves_validated filled created last fresh
  | none =>
    apply Serves.step
    have next : client.serve.serve =
        { client with monitorProxy := some client.alive, isVaildProxy := true }.validated last := by
      simp [serve, created, proceed, fetches, known, validated]
    rw [next]
    apply serves_validated
    · exact filled
    · exact created
    · exact fun _ => rfl

end Serves

/-- A client that holds no stale proxy for valid, and whose thread is not about to, comes to serve
its objects. -/
theorem objects_served (attentive : client.Attentive) (threaded : client.Threaded)
    (undisturbed : client.Undisturbed (.proceed {})) (filled : client.objSet ≠ []) :
    client.Serves := by
  have fresh := attentive.fresh
  cases created : client.creating with
  | true =>
    apply Serves.step
    rw [serve, if_pos created, createThread, if_pos created]
    exact serves_checking filled rfl rfl fresh
  | false =>
    cases thread : client.clickThread with
    | absent => exact absurd (threaded.attended filled) (by simp [thread, created])
    | resting => exact serves_resting filled created thread fresh
    | waiting => exact serves_inside filled created (.inl thread) fresh
    | enabling => exact serves_inside filled created (.inr thread) fresh
    | fetching last => exact serves_fetching filled created thread fresh
    | checking last =>
      apply Serves.step
      have next : client.serve = { client with
          monitorProxy := if client.isVaildProxy then client.monitorProxy else none
          clickThread := .fetching last } := by
        simp [serve, created, proceed, thread]
      rw [next]
      apply serves_fetching
      · exact filled
      · exact created
      · rfl
      · intro valid
        have valid : client.isVaildProxy = true := valid
        simpa [valid] using fresh valid
    | fetched last =>
      apply Serves.step
      have next : client.serve = { client with isVaildProxy := true }.validated last := by
        simp [serve, created, proceed, thread]
      rw [next]
      apply serves_validated
      · exact filled
      · exact created
      · exact fun _ => undisturbed last thread
    | disabling =>
      apply Serves.step
      have next : client.serve = { client with clickThread := .resting } := by
        simp [serve, created, proceed, thread]
      rw [next]
      exact serves_resting filled created rfl fresh
    | clicking =>
      apply Serves.step
      have next : client.serve = { client with clickThread := .waiting } := by
        simp [serve, created, proceed, thread]
      rw [next]
      exact serves_inside filled created (.inl rfl) fresh

/-- What follows for the heartbeat: with good answers from now on, no stale proxy keeps the objects
of a client from the server that runs. -/
theorem objects_served_along {events : List ClientEvent}
    (along : Along next Undisturbed {} (events ++ [.proceed {}]))
    (filled : (run next {} events).objSet ≠ []) : (run next {} events).Serves := by
  obtain ⟨undisturbed, proceeds, -⟩ := (along_append _ _ _).mp along
  obtain ⟨attentive, threaded⟩ := invariant_of_along
    (fun client => client.Attentive ∧ client.Threaded)
    (fun client event reached guard =>
      ⟨(next_attentive_iff reached.1 reached.2 event).mpr guard, next_threaded reached.2 event⟩)
    undisturbed ⟨⟨by simp, by simp⟩, ⟨by simp, by simp, by simp⟩⟩
  exact objects_served attentive threaded proceeds filled

/-- The client never holds a stale proxy for valid, and always has a thread for its objects,
exactly where the server never dies between the fetch of a proxy and its validation. -/
theorem attentive_iff_undisturbed (events : List ClientEvent) :
    (∀ count, (run next {} (events.take count)).Attentive) ↔ Along next Undisturbed {} events := by
  have attentive : ({} : MonitorClient).Attentive := ⟨by simp, by simp⟩
  have threaded : ({} : MonitorClient).Threaded := ⟨by simp, by simp, by simp⟩
  exact always_iff_along_within Attentive Threaded
    (fun client event attentive threaded => next_attentive_iff attentive threaded event)
    (fun client event _ threaded _ => next_threaded threaded event) attentive threaded events

/-- Where it dies there, the client keeps calling the dead server for its next object, although
every answer is a good one: ten more steps of the thread change nothing. -/
theorem death_leaves_stale_proxy :
    let calls : List ClientEvent := [ClientEvent.startClick 1, .createThread, .proceed {},
      .proceed {}, .mediaServerDied, .proceed {}, .startClick 2] ++
        List.replicate 10 (ClientEvent.proceed {})
    let client := run next {} calls
    client.objSet = [2] ∧ client.isVaildProxy = true ∧ client.monitorProxy = some 0 ∧
      client.alive = 1 ∧ ¬ client.Attentive := by
  intro calls client
  have stale : client.objSet = [2] ∧ client.isVaildProxy = true ∧ client.monitorProxy = some 0 ∧
      client.alive = 1 := by
    decide +kernel
  refine ⟨stale.1, stale.2.1, stale.2.2.1, stale.2.2.2, ?_⟩
  intro attentive
  have fresh := attentive.fresh stale.2.1
  cases fresh

end MonitorClient

end PlayerFramework.Monitor
