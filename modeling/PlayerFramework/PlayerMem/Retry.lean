import PlayerFramework.PlayerMem.Attempts

/-!
When a release or a recovery that failed can be tried again.
-/

namespace PlayerFramework.PlayerMem

open Player (PlayerStates PlayerSeekMode speedForward100X)
open PlayerServer (tryCall tryIf tryAll)
open Transition PlayerServer

namespace RecoverConfigInfo

def configCalls (config : RecoverConfigInfo) : List AttemptCall :=
  (if config.volumeSet then [AttemptCall.setVolume] else []) ++
    (if config.surface.isSome then [AttemptCall.setVideoSurface] else []) ++
    (if config.loop then [AttemptCall.setLooping] else []) ++
    (if config.videoScaleType ≠ -1 then [AttemptCall.setVideoScaleType] else []) ++
    (if config.rendererSet then [AttemptCall.setAudioRendererInfo] else []) ++
    (if config.interruptMode ≠ -1 then [AttemptCall.setAudioInterruptMode] else [])

end RecoverConfigInfo

namespace PlayerServerMem

/-- The calls after the `SetConfigInternal` of a recovery. -/
def behaviorCalls (mem : PlayerServerMem) : List AttemptCall :=
  let config := mem.recoverConfig
  match config.currState with
  | .initialized | .stopped => []
  | _ =>
    [.prepareInner] ++ (if config.bitRate ≠ 0 then [.selectBitRate] else []) ++
      (if config.speedMode ≠ speedForward100X then [.setPlaybackSpeed] else []) ++
      (if config.currentTime ≠ 0 ∧ config.currState ≠ .playbackComplete then [.seek] else []) ++
      (if mem.needSelectAudioTrack then [.selectTrack] else [])

/-- The calls of `GetInformationBeforeMemReset`. -/
def queries (mem : PlayerServerMem) : List AttemptCall :=
  match mem.base.lastOpStatus with
  | .initialized | .stopped => []
  | _ =>
    [.getCurrentTime, .getVideoTrackInfo, .getAudioTrackInfo, .getCurrentTrack .audio,
      .getCurrentTrack .video, .getCurrentTrack .subtitle, .getDuration]

/-- A release that fails finds a player without a `UriHelper`, and one that resets the player has
all that it asked for. -/
def SparedRelease (fails : AttemptCall → Bool) (mem : PlayerServerMem) : Prop :=
  mem.releasable = true →
    if fails .reset then mem.base.uriHelper = none else ∀ query ∈ mem.queries, fails query = false

/-- A recovery that fails does so with the source, and finds no `UriHelper`. -/
def SparedRecovery (fails : AttemptCall → Bool) (mem : PlayerServerMem) : Prop :=
  if fails .setSource = true ∨ mem.recoverConfig.recordedSource mem.uriHelper = none then
    mem.uriHelper = none
  else
    mem.recoverConfig.VolumeValid ∧
      ∀ call ∈ mem.recoverConfig.configCalls ++ mem.behaviorCalls, fails call = false

instance (fails : AttemptCall → Bool) (mem : PlayerServerMem) :
    Decidable (mem.SparedRelease fails) :=
  inferInstanceAs (Decidable (_ → ite _ _ _))

instance (config : RecoverConfigInfo) : Decidable config.VolumeValid :=
  inferInstanceAs (Decidable (_ → ¬ _))

instance (fails : AttemptCall → Bool) (mem : PlayerServerMem) :
    Decidable (mem.SparedRecovery fails) :=
  inferInstanceAs (Decidable (ite _ _ _))

end PlayerServerMem

namespace Attempts

variable (media : Media)

/-- An attempt that returned an error has left a flag that agrees with the engine, and all that a
later attempt needs to bring back what it would have brought back before, which for a player that
the copy is enough for is the player itself. -/
structure Retriable (attempts : Attempts) : Prop where
  agrees : attempts.failed = true → (attempts.mem.isReleaseMemByManage = true ↔
    attempts.mem.base.lastOpStatus = .idle ∧ attempts.mem.base.engine = none)
  kept : attempts.failed = true → attempts.mem.retried media = attempts.before.retried media
  restores : attempts.failed = true → Restorable media attempts.before →
    attempts.mem.retried media = (attempts.before.base, true)

/-- The attempts that fail do so where nothing has been moved or made. -/
def Spared (attempts : Attempts) : AttemptEvent → Prop
  | .release fails => attempts.isRecoverMemByUser = false → attempts.mem.SparedRelease fails
  | .recover fails | .client _ fails =>
    attempts.mem.isReleaseMemByManage = true → attempts.mem.SparedRecovery fails
  | _ => True

instance (attempts : Attempts) (event : AttemptEvent) : Decidable (attempts.Spared event) := by
  cases event <;> unfold Spared <;> infer_instance

end Attempts

namespace PlayerServer

theorem tryAll_append (first second : List (PlayerServer → PlayerServer × Bool))
    (server : PlayerServer) :
    tryAll (first ++ second) server =
      if (tryAll first server).2 then tryAll second (tryAll first server).1
      else tryAll first server := by
  induction first generalizing server with
  | nil => simp [tryAll]
  | cons step rest ih =>
    rw [List.cons_append, tryAll, tryAll]
    split
    · exact ih _
    · simp

theorem tryAll_append_eq {tried others : List (PlayerServer → PlayerServer × Bool)}
    {steps rest : List (PlayerServer → Option PlayerServer)}
    (first : ∀ server, tryAll tried server = attempt steps server)
    (second : ∀ server, tryAll others server = attempt rest server) (server : PlayerServer) :
    tryAll (tried ++ others) server = attempt (steps ++ rest) server := by
  rw [tryAll_append, attempt_append, first]
  simp [second]

theorem tryAll_cons_eq {tried : PlayerServer → PlayerServer × Bool}
    {step : PlayerServer → Option PlayerServer}
    {others : List (PlayerServer → PlayerServer × Bool)}
    {rest : List (PlayerServer → Option PlayerServer)}
    (first : ∀ server, tried server = tryCall false step server)
    (second : ∀ server, tryAll others server = attempt rest server) (server : PlayerServer) :
    tryAll (tried :: others) server = attempt (step :: rest) server := by
  rw [tryAll, attempt, first]
  unfold tryCall
  cases answer : step server with
  | none => simp
  | some next => simpa using second next

theorem tryAll_succeeds (kept : PlayerServer → Prop)
    {steps : List (PlayerServer → PlayerServer × Bool)}
    (each : ∀ step ∈ steps, ∀ server, kept server → (step server).2 = true ∧ kept (step server).1)
    {server : PlayerServer} (initially : kept server) :
    (tryAll steps server).2 = true ∧ kept (tryAll steps server).1 := by
  induction steps generalizing server with
  | nil => exact ⟨rfl, initially⟩
  | cons step rest ih =>
    have first := each step List.mem_cons_self server initially
    have later : ∀ step ∈ rest, ∀ server, kept server →
        (step server).2 = true ∧ kept (step server).1 := by
      intro step member
      exact each step (List.mem_cons_of_mem _ member)
    have answer : step server = ((step server).1, true) := Prod.ext rfl first.1
    rw [tryAll, answer]
    exact ih later first.2

theorem tryAll_refused {step : PlayerServer → PlayerServer × Bool} {server : PlayerServer}
    (answer : step server = (server, false)) (rest : List (PlayerServer → PlayerServer × Bool)) :
    tryAll (step :: rest) server = (server, false) := by
  rw [tryAll, answer]

theorem tryIf_nothing (needed : Bool) (step : PlayerServer → Option PlayerServer)
    (server : PlayerServer) :
    tryIf needed false step server = tryCall false (callIf needed step) server := by
  cases needed <;> rfl

theorem tryIf_succeeds {kept : PlayerServer → Prop} {needed fails : Bool}
    {step : PlayerServer → Option PlayerServer} (made : needed = true → fails = false)
    (answers : needed = true → ∀ server, kept server → ∃ next, step server = some next ∧ kept next)
    (server : PlayerServer) (initially : kept server) :
    (tryIf needed fails step server).2 = true ∧ kept (tryIf needed fails step server).1 := by
  unfold tryIf
  split
  · rename_i called
    obtain ⟨next, answer, keeps⟩ := answers called server initially
    simpa only [tryCall, made called, Bool.false_eq_true, if_false, answer, true_and] using keeps
  · exact ⟨rfl, initially⟩

end PlayerServer

namespace PlayerServerMem

variable {media : Media} {mem : PlayerServerMem}

theorem trySaveParameter_nothing (server : PlayerServer) :
    tryAll (mem.trySaveParameter nothing) server =
      server.attempt [mem.setSaveParameter] := by
  cases engine : server.engine with
  | none => simp [trySaveParameter, tryAll, tryCall, setSaveParameter, attempt, engine]
  | some engine =>
    by_cases scaled : mem.recoverConfig.videoScaleType = -1 <;>
      by_cases interrupted : mem.recoverConfig.interruptMode = -1 <;>
        cases rendered : mem.recoverConfig.rendererSet <;>
          simp [trySaveParameter, tryAll, tryCall, tryIf, nothing, setSaveParameter,
            attempt, onEngine, scaled, interrupted, rendered, engine]

theorem tryConfig_nothing (server : PlayerServer) :
    tryAll (mem.tryConfig nothing) server =
      server.attempt [mem.recoverVolume, mem.recoverSurface, mem.recoverLooping] := by
  refine tryAll_cons_eq (tryIf_nothing _ _) ?_ server
  refine tryAll_cons_eq ?_ ?_
  · intro server
    unfold tryIf recoverSurface
    cases mem.recoverConfig.surface <;> rfl
  · exact tryAll_cons_eq (tryIf_nothing _ _) fun _ => rfl

theorem tryInitialized_nothing (server : PlayerServer) :
    tryAll (mem.tryInitialized nothing) server = server.attempt mem.memRecoverToInitialized := by
  refine tryAll_cons_eq (fun _ => rfl) ?_ server
  exact tryAll_append_eq tryConfig_nothing trySaveParameter_nothing

theorem tryPrepare_nothing (server : PlayerServer) :
    tryAll (mem.tryPrepare nothing media) server =
      server.attempt [prepare media, mem.addSubSourceInternal] := by
  refine tryAll_cons_eq ?_ ?_ server
  · intro server
    simp [prepareInner, nothing]
  · exact tryAll_cons_eq (fun _ => rfl) fun _ => rfl

theorem localResourceRecover_nothing (released : mem.isReleaseMemByManage = true) :
    ((mem.localResourceRecover nothing media).1.base, (mem.localResourceRecover nothing media).2) =
      mem.recovered media := by
  have behaved : ∀ server, tryAll [mem.tryBitRate nothing, mem.trySpeed nothing,
      mem.trySeek nothing media, mem.tryAudioTrack nothing] server =
        server.attempt (mem.setBehaviorInternal media) := by
    refine tryAll_cons_eq (tryIf_nothing _ _) ?_
    refine tryAll_cons_eq (tryIf_nothing _ _) ?_
    refine tryAll_cons_eq (tryIf_nothing _ _) ?_
    exact tryAll_cons_eq (tryIf_nothing _ _) fun _ => rfl
  have sped : ∀ server, tryAll [mem.trySpeed nothing, mem.tryBitRate nothing,
      mem.tryAudioTrack nothing] server = server.attempt mem.setPlaybackSpeedInternal := by
    refine tryAll_cons_eq (tryIf_nothing _ _) ?_
    refine tryAll_cons_eq (tryIf_nothing _ _) ?_
    exact tryAll_cons_eq (tryIf_nothing _ _) fun _ => rfl
  have prepared := tryAll_append_eq (@tryInitialized_nothing mem)
    (@tryPrepare_nothing media mem)
  have toPrepared := tryAll_append_eq prepared behaved
  have toCompleted := tryAll_append_eq prepared sped
  simp only [localResourceRecover, recovered, released, memStateRecover, tryStateRecover,
    Bool.true_eq_false, if_false, if_true]
  cases mem.recoverConfig.currState with
  | initialized | stopped => simp [tryInitialized_nothing]
  | preparing | prepared | paused =>
    simp only [toPrepared]
    rfl
  | playbackComplete =>
    simp only [toCompleted]
    rfl
  | _ => rfl

def Initialized (server : PlayerServer) : Prop :=
  server.lastOpStatus = .initialized ∧ server.engine.isSome = true

def Prepared (server : PlayerServer) : Prop :=
  server.lastOpStatus = .prepared ∧ server.engine.isSome = true

section

variable {fails : AttemptCall → Bool}

theorem initialized_onEngine {server : PlayerServer} (initialized : Initialized server)
    (call : Engine → Engine) : Initialized (server.onEngine call) :=
  ⟨initialized.1, by simpa [onEngine] using initialized.2⟩

theorem prepared_onEngine {server : PlayerServer} (prepared : Prepared server)
    (call : Engine → Engine) : Prepared (server.onEngine call) :=
  ⟨prepared.1, by simpa [onEngine] using prepared.2⟩

theorem tryConfig_succeeds (valid : mem.recoverConfig.VolumeValid)
    (fine : ∀ call ∈ mem.recoverConfig.configCalls, fails call = false) :
    ∀ step ∈ mem.tryConfig fails ++ mem.trySaveParameter fails, ∀ server, Initialized server →
      (step server).2 = true ∧ Initialized (step server).1 := by
  intro step member
  simp only [tryConfig, trySaveParameter, List.cons_append, List.nil_append, List.mem_cons,
    List.not_mem_nil, or_false] at member
  rcases member with rfl | rfl | rfl | rfl | rfl | rfl | rfl | rfl
  · refine tryIf_succeeds (fun needed => ?_) fun needed server initialized => ?_
    · exact fine _ (by simp [RecoverConfigInfo.configCalls, needed])
    · have inactive : server.active = false := by simp [active, initialized.1]
      simp only [setVolume, if_neg (valid needed), inactive, Bool.false_eq_true,
        if_false]
      exact ⟨_, rfl, initialized⟩
  · refine tryIf_succeeds (fun needed => ?_) fun needed server initialized => ?_
    · exact fine _ (by simp [RecoverConfigInfo.configCalls, needed])
    · obtain ⟨surface, given⟩ := Option.isSome_iff_exists.mp needed
      simp only [recoverSurface, given, setVideoSurface, initialized.1]
      exact ⟨_, rfl, rfl, initialized.2⟩
  · refine tryIf_succeeds (fun needed => ?_) fun needed server initialized => ?_
    · exact fine _ (by simp [RecoverConfigInfo.configCalls, needed])
    · simp only [setLooping, initialized.1]
      exact ⟨_, rfl, rfl, initialized.2⟩
  · intro server initialized
    obtain ⟨engine, found⟩ := Option.isSome_iff_exists.mp initialized.2
    simp [tryCall, found, initialized]
  · refine tryIf_succeeds (fun needed => ?_) fun _ server initialized => ?_
    · exact fine _ (by simpa [RecoverConfigInfo.configCalls] using needed)
    · exact ⟨_, rfl, initialized_onEngine initialized _⟩
  · refine tryIf_succeeds (fun needed => ?_) fun _ server initialized => ?_
    · exact fine _ (by simp [RecoverConfigInfo.configCalls, needed])
    · exact ⟨_, rfl, initialized_onEngine initialized _⟩
  · refine tryIf_succeeds (fun needed => ?_) fun _ server initialized => ?_
    · exact fine _ (by simpa [RecoverConfigInfo.configCalls] using needed)
    · exact ⟨_, rfl, initialized_onEngine initialized _⟩
  · exact fun server initialized => ⟨rfl, initialized⟩

theorem tryBehavior_succeeds (fine : ∀ call ∈ mem.behaviorCalls, fails call = false)
    (listed : mem.recoverConfig.currState ≠ .initialized ∧ mem.recoverConfig.currState ≠ .stopped)
    {step : PlayerServer → PlayerServer × Bool}
    (member : step = mem.tryBitRate fails ∨ step = mem.trySpeed fails ∨
      step = mem.trySeek fails media ∧ mem.recoverConfig.currState ≠ .playbackComplete ∨
        step = mem.tryAudioTrack fails)
    (server : PlayerServer) (prepared : Prepared server) :
    (step server).2 = true ∧ Prepared (step server).1 := by
  have active : ∀ server : PlayerServer, Prepared server → server.active = true := by
    intro server prepared
    simp [active, prepared.1]
  have calls : mem.behaviorCalls = [AttemptCall.prepareInner] ++
      (if mem.recoverConfig.bitRate ≠ 0 then [AttemptCall.selectBitRate] else []) ++
      (if mem.recoverConfig.speedMode ≠ speedForward100X then [AttemptCall.setPlaybackSpeed]
        else []) ++
      (if mem.recoverConfig.currentTime ≠ 0 ∧ mem.recoverConfig.currState ≠ .playbackComplete
        then [AttemptCall.seek] else []) ++
      (if mem.needSelectAudioTrack then [AttemptCall.selectTrack] else []) := by
    unfold behaviorCalls
    split <;> simp_all
  rw [calls] at fine
  rcases member with rfl | rfl | ⟨rfl, uncompleted⟩ | rfl
  · refine tryIf_succeeds (fun needed => ?_) (fun _ server prepared => ?_) server
      prepared
    · exact fine _ (by simp_all)
    · exact ⟨_, rfl, prepared_onEngine prepared _⟩
  · refine tryIf_succeeds (fun needed => ?_) (fun _ server prepared => ?_) server
      prepared
    · exact fine _ (by simp_all)
    · simp only [setPlaybackSpeed, active server prepared, not_true_eq_false, if_false]
      split
      · exact ⟨_, rfl, prepared⟩
      · exact ⟨_, rfl, prepared_onEngine prepared _⟩
  · refine tryIf_succeeds (fun needed => ?_) (fun _ server prepared => ?_) server
      prepared
    · exact fine _ (by simp_all)
    · simp only [seek, active server prepared, if_true]
      exact ⟨_, rfl, prepared_onEngine prepared _⟩
  · refine tryIf_succeeds (fun needed => ?_) (fun _ server prepared => ?_) server
      prepared
    · exact fine _ (by simp_all)
    · simp only [selectTrack, active server prepared, if_true]
      exact ⟨_, rfl, prepared_onEngine prepared _⟩

theorem tryPrepare_succeeds (fine : fails .prepareInner = false) {server : PlayerServer}
    (initialized : Initialized server) :
    (tryAll (mem.tryPrepare fails media) server).2 = true ∧
      Prepared (tryAll (mem.tryPrepare fails media) server).1 := by
  obtain ⟨engine, found⟩ := Option.isSome_iff_exists.mp initialized.2
  have ready : server.prepare media =
      some { server.onEngine (server.prepareEngine media) with lastOpStatus := .prepared } := by
    simp [prepare, initialized.1]
  have engine_ : ({ server.onEngine (server.prepareEngine media) with
      lastOpStatus := .prepared } : PlayerServer).engine =
        some (server.prepareEngine media engine) := by
    simp [onEngine, found]
  simp only [tryPrepare, tryAll, prepareInner, fine, Bool.false_eq_true, false_and,
    if_false, tryCall, ready, addSubSourceInternal, foldl_addSubSource _ engine_]
  exact ⟨trivial, rfl, rfl⟩

theorem tryInitialized_succeeds {source : Source} {server : PlayerServer}
    (wasReset : WasReset server) (fine : fails .setSource = false)
    (known : mem.recoverConfig.recordedSource server.uriHelper = some source)
    (valid : mem.recoverConfig.VolumeValid)
    (configured : ∀ call ∈ mem.recoverConfig.configCalls, fails call = false) :
    (tryAll (mem.tryInitialized fails) server).2 = true ∧
      Initialized (tryAll (mem.tryInitialized fails) server).1 := by
  have sourced := setSourceInternal_some wasReset known
  simp only [tryInitialized, tryAll, tryCall, fine, Bool.false_eq_true, if_false, sourced]
  exact tryAll_succeeds Initialized (tryConfig_succeeds valid configured) ⟨rfl, rfl⟩

theorem tryStateRecover_succeeds {source : Source} {server : PlayerServer}
    (wasReset : WasReset server) (fine : fails .setSource = false)
    (known : mem.recoverConfig.recordedSource server.uriHelper = some source)
    (valid : mem.recoverConfig.VolumeValid)
    (rest : ∀ call ∈ mem.recoverConfig.configCalls ++ mem.behaviorCalls, fails call = false)
    {steps : List (PlayerServer → PlayerServer × Bool)}
    (given : mem.tryStateRecover fails media = some steps) : (tryAll steps server).2 = true := by
  have configured := fun call member => rest call (List.mem_append_left _ member)
  have behaved := fun call member => rest call (List.mem_append_right _ member)
  obtain ⟨initially, initialized⟩ :=
    tryInitialized_succeeds wasReset fine known valid configured
  have further : ∀ listed : mem.recoverConfig.currState ≠ .initialized ∧
      mem.recoverConfig.currState ≠ .stopped,
      ∀ later : List (PlayerServer → PlayerServer × Bool),
        (∀ step ∈ later, step = mem.tryBitRate fails ∨ step = mem.trySpeed fails ∨
          step = mem.trySeek fails media ∧ mem.recoverConfig.currState ≠ .playbackComplete ∨
            step = mem.tryAudioTrack fails) →
          (tryAll (mem.tryInitialized fails ++ mem.tryPrepare fails media ++ later)
            server).2 = true := by
    intro listed later members
    have launched : fails .prepareInner = false := by
      refine behaved _ ?_
      unfold behaviorCalls
      split <;> simp_all
    obtain ⟨ready, prepared⟩ := @tryPrepare_succeeds media mem _ launched _ initialized
    have ended := tryAll_succeeds Prepared
      (fun step member => tryBehavior_succeeds behaved listed (members step member)) prepared
    rw [List.append_assoc, tryAll_append, if_pos initially,
      tryAll_append, if_pos ready]
    exact ended.1
  unfold tryStateRecover at given
  split at given <;> cases given
  · exact initially
  · exact initially
  all_goals
    refine further (by simp_all) _ ?_
    intro step member
    grind

theorem localResourceRecover_spared (released : mem.isReleaseMemByManage = true)
    (wasReset : WasReset mem.base) (helper : mem.base.uriHelper = none)
    (spared : mem.SparedRecovery fails) :
    (mem.localResourceRecover fails media).2 = true ∨
      mem.localResourceRecover fails media = (mem, false) := by
  unfold localResourceRecover
  rw [if_neg (by simp [released])]
  cases given : mem.tryStateRecover fails media with
  | none => exact .inr rfl
  | some steps =>
    unfold SparedRecovery at spared
    split at spared
    · rename_i refused
      right
      have same : ({ mem.base with uriHelper := mem.uriHelper } : PlayerServer) = mem.base := by
        rw [spared, ← helper]
      have fails_ : tryCall (fails .setSource) mem.setSourceInternal mem.base =
          (mem.base, false) := by
        unfold tryCall
        rcases refused with fault | unknown
        · rw [if_pos fault]
        · rw [setSourceInternal_none (by rw [helper, ← spared]; exact unknown)]
          simp
      obtain ⟨rest, starts⟩ : ∃ rest, steps =
          tryCall (fails .setSource) mem.setSourceInternal :: rest := by
        unfold tryStateRecover at given
        split at given <;> cases given <;> exact ⟨_, rfl⟩
      simp only [same, starts, tryAll_refused fails_]
      rw [← spared]
      simp [← released]
    · rename_i sourced
      left
      obtain ⟨valid, rest⟩ := spared
      simp only [not_or, Bool.not_eq_true] at sourced
      obtain ⟨source, known⟩ := Option.ne_none_iff_exists'.mp sourced.2
      have back : WasReset { mem.base with uriHelper := mem.uriHelper } :=
        ⟨wasReset.idle, wasReset.engine, wasReset.looping, wasReset.volume, wasReset.speedMode⟩
      exact tryStateRecover_succeeds back sourced.1 known valid rest given

/-- The states that `MemStateRelease` answers for. -/
def listed (state : PlayerStates) : Bool :=
  match state with
  | .initialized | .preparing | .prepared | .paused | .stopped | .playbackComplete => true
  | _ => false

/-- The player that a release leaves where `Reset` fails. -/
def unreset (fails : AttemptCall → Bool) (mem : PlayerServerMem) : PlayerServerMem :=
  { mem with
    base := { mem.base.clearConfigInfo with uriHelper := none }
    recoverConfig := mem.informedUnless fails
    uriHelper := mem.base.uriHelper }

def wasReleased (fails : AttemptCall → Bool) (mem : PlayerServerMem) : PlayerServerMem :=
  { mem with
    base := { mem.resetServer with uriHelper := none }
    recoverConfig := mem.informedUnless fails
    uriHelper := mem.base.uriHelper
    isReleaseMemByManage := true }

theorem localResourceRelease_listed (known : listed mem.base.lastOpStatus = true) :
    mem.localResourceRelease fails =
      if fails .reset then (mem.unreset fails, false) else (mem.wasReleased fails, true) := by
  unfold localResourceRelease
  cases state : mem.base.lastOpStatus <;> simp only [state, listed, Bool.false_eq_true] at known
  all_goals
    cases fault : fails .reset <;>
      simp [unreset, wasReleased, resetServer, reset, clearConfigInfo,
        state]

theorem localResourceRelease_unlisted (unknown : listed mem.base.lastOpStatus = false) :
    mem.localResourceRelease fails =
      ({ mem with
        recoverConfig := { mem.recoverConfig with currState := mem.base.lastOpStatus } },
        true) := by
  unfold localResourceRelease
  cases state : mem.base.lastOpStatus <;>
    simp only [state, listed, Bool.true_eq_false] at unknown <;> rfl

theorem informedUnless_fields (fails : AttemptCall → Bool) (mem : PlayerServerMem) :
    ∃ currentTime audioIndex effectMode, mem.informedUnless fails =
      { mem.recoverConfig with
        currState := mem.base.lastOpStatus, currentTime, audioIndex, effectMode } := by
  unfold informedUnless
  split
  · exact ⟨_, _, _, rfl⟩
  · exact ⟨_, _, _, rfl⟩
  · exact ⟨_, _, _, rfl⟩
  split
  · exact ⟨_, _, _, rfl⟩
  · split
    · exact ⟨_, _, _, rfl⟩
    · split <;> exact ⟨_, _, _, rfl⟩

theorem informedUnless_nothing (mem : PlayerServerMem) :
    mem.informedUnless nothing = mem.informed := by
  cases mem.base.lastOpStatus <;> cases mem.base.engine <;> rfl

theorem informedUnless_unasked (fails : AttemptCall → Bool) {mem : PlayerServerMem}
    (unasked : mem.base.lastOpStatus = .initialized ∨ mem.base.lastOpStatus = .stopped ∨
      mem.base.engine = none) :
    mem.informedUnless fails =
      { mem.recoverConfig with currState := mem.base.lastOpStatus } := by
  unfold informedUnless
  rcases unasked with state | state | engine
  · rw [state]
  · rw [state]
  · rw [engine]
    cases mem.base.lastOpStatus <;> rfl

theorem informedUnless_unreset (fails : AttemptCall → Bool) (mem : PlayerServerMem) :
    (mem.unreset fails).informedUnless nothing = mem.informedUnless nothing := by
  by_cases unasked : mem.base.lastOpStatus = .initialized ∨ mem.base.lastOpStatus = .stopped ∨
      mem.base.engine = none
  · have again : (mem.unreset fails).recoverConfig = mem.informedUnless fails := rfl
    rw [@informedUnless_unasked nothing (mem.unreset fails) unasked, again,
      informedUnless_unasked fails unasked, informedUnless_unasked nothing unasked]
    rfl
  · simp only [not_or] at unasked
    obtain ⟨initialized, stopped, present⟩ := unasked
    obtain ⟨engine, found⟩ := Option.ne_none_iff_exists'.mp present
    obtain ⟨currentTime, audioIndex, effectMode, written⟩ := informedUnless_fields fails mem
    have again : (mem.unreset fails).recoverConfig = mem.informedUnless fails := rfl
    rw [informedUnless_nothing, informedUnless_nothing,
      informed_of_engine found initialized stopped,
      @informed_of_engine (mem.unreset fails) _ found initialized stopped, again, written]
    rfl

/-- A release that failed, of a player without a `UriHelper`, has changed nothing that the next
one looks at. -/
theorem localResourceRelease_unreset (fails : AttemptCall → Bool) {mem : PlayerServerMem}
    (known : listed mem.base.lastOpStatus = true) (helper : mem.base.uriHelper = none) :
    (mem.unreset fails).localResourceRelease nothing = mem.localResourceRelease nothing := by
  have same : (mem.unreset fails).wasReleased nothing = mem.wasReleased nothing := by
    unfold wasReleased
    rw [informedUnless_unreset]
    simp only [helper]
    rfl
  rw [localResourceRelease_listed known,
    @localResourceRelease_listed (mem.unreset fails) _ known]
  exact congrArg (·, true) same

theorem wasReleased_informed {fails : AttemptCall → Bool} {mem : PlayerServerMem}
    (fine : ∀ query ∈ mem.queries, fails query = false) :
    mem.wasReleased fails = mem.wasReleased nothing := by
  have same : mem.informedUnless fails = mem.informedUnless nothing := by
    by_cases unasked : mem.base.lastOpStatus = .initialized ∨ mem.base.lastOpStatus = .stopped ∨
        mem.base.engine = none
    · rw [informedUnless_unasked fails unasked, informedUnless_unasked nothing unasked]
    simp only [not_or] at unasked
    have asked : mem.queries = [.getCurrentTime, .getVideoTrackInfo, .getAudioTrackInfo,
        .getCurrentTrack .audio, .getCurrentTrack .video, .getCurrentTrack .subtitle,
        .getDuration] := by
      unfold queries
      split
      · rename_i state
        exact absurd state unasked.1
      · rename_i state
        exact absurd state unasked.2.1
      · rfl
    rw [asked] at fine
    simp only [List.forall_mem_cons, List.not_mem_nil] at fine
    obtain ⟨time, videoInfo, audioInfo, audio, video, subtitle, duration, -⟩ := fine
    unfold informedUnless
    simp only [time, videoInfo, audioInfo, audio, video, subtitle, duration, nothing,
      Bool.or_false, Bool.false_eq_true, if_false]
  unfold wasReleased
  rw [same]

theorem localResourceRelease_nothing {mem : PlayerServerMem} (releasable : mem.releasable = true) :
    mem.localResourceRelease nothing = (mem.release, true) := by
  have known : listed mem.base.lastOpStatus = true := by
    simp only [PlayerServerMem.releasable, Bool.and_eq_true] at releasable
    exact releasable.2
  rw [localResourceRelease_listed known, release_eq releasable]
  rfl

end

end PlayerServerMem

namespace Attempts

variable {media : Media} {attempts : Attempts}

/-- A player that is not released would be released to the same as the one before, and one that
is released is that. -/
structure Held (attempts : Attempts) : Prop where
  unreleased : attempts.mem.isReleaseMemByManage = false →
    attempts.mem.localResourceRelease nothing = attempts.before.localResourceRelease nothing
  released : attempts.mem.isReleaseMemByManage = true →
    attempts.mem = attempts.before.wasReleased nothing ∧
      PlayerServerMem.listed attempts.before.base.lastOpStatus = true ∧
        attempts.before.isAudioPlayer = false
  before : attempts.before.isReleaseMemByManage = false
  failed : attempts.failed = true → attempts.mem.isReleaseMemByManage = false →
    PlayerServerMem.listed attempts.mem.base.lastOpStatus = true ∧
      attempts.mem.isAudioPlayer = false ∧
        PlayerServerMem.listed attempts.before.base.lastOpStatus = true ∧
          attempts.before.isAudioPlayer = false
  apart : attempts.mem.isReleaseMemByManage = true → attempts.isRecoverMemByUser = false

theorem held_start {mem : PlayerServerMem} (unreleased : mem.isReleaseMemByManage = false) :
    Held { mem, before := mem } where
  unreleased := fun _ => rfl
  released := fun released => absurd (unreleased.symm.trans released) (by simp)
  before := unreleased
  failed := fun failed => nomatch failed
  apart := fun _ => rfl

theorem Held.calm (held : Held attempts) : Held { attempts with failed := false } :=
  { held with failed := fun failed => nomatch failed }

theorem held_settle {mem : PlayerServerMem}
    (unreleased : attempts.mem.isReleaseMemByManage = false)
    (still : mem.isReleaseMemByManage = false) : Held (attempts.settle mem) := by
  have before : (attempts.settle mem).before = mem := by simp [settle, unreleased]
  constructor
  case unreleased => exact fun _ => by rw [before]; rfl
  case released => exact fun released => absurd (still.symm.trans released) (by simp)
  case before => rw [before]; exact still
  case failed => exact fun failed => nomatch failed
  case apart => exact fun released => absurd (still.symm.trans released) (by simp)

theorem Held.settle (held : Held attempts) {mem : PlayerServerMem}
    (same : attempts.mem.isReleaseMemByManage = true → mem = attempts.mem)
    (still : mem.isReleaseMemByManage = attempts.mem.isReleaseMemByManage) :
    Held (attempts.settle mem) := by
  cases released : attempts.mem.isReleaseMemByManage with
  | false => exact held_settle released (still.trans released)
  | true =>
    have settled : attempts.settle mem = { attempts with failed := false } := by
      unfold Attempts.settle
      rw [same released, if_pos released]
    rw [settled]
    exact held.calm

theorem Held.alike (held : Held attempts)
    (unreleased : attempts.mem.isReleaseMemByManage = false)
    (known : PlayerServerMem.listed attempts.mem.base.lastOpStatus = true)
    (shown : attempts.mem.isAudioPlayer = false) :
    attempts.mem.wasReleased nothing = attempts.before.wasReleased nothing ∧
      PlayerServerMem.listed attempts.before.base.lastOpStatus = true ∧
        attempts.before.isAudioPlayer = false := by
  have same := held.unreleased unreleased
  rw [PlayerServerMem.localResourceRelease_listed known] at same
  cases before : PlayerServerMem.listed attempts.before.base.lastOpStatus with
  | false =>
    rw [PlayerServerMem.localResourceRelease_unlisted before] at same
    have flag := congrArg (fun answer => answer.1.isReleaseMemByManage) same
    exact absurd (flag.trans held.before) (by simp [nothing, PlayerServerMem.wasReleased])
  | true =>
    rw [PlayerServerMem.localResourceRelease_listed before] at same
    have whole : attempts.mem.wasReleased nothing = attempts.before.wasReleased nothing :=
      congrArg Prod.fst same
    have audio : attempts.mem.isAudioPlayer = attempts.before.isAudioPlayer :=
      congrArg (·.isAudioPlayer) whole
    exact ⟨whole, rfl, audio.symm.trans shown⟩

theorem Held.release (held : Held attempts) {fails : AttemptCall → Bool}
    (spared : attempts.isRecoverMemByUser = false → attempts.mem.SparedRelease fails) :
    Held (attempts.release fails) := by
  unfold Attempts.release
  split
  · exact held.calm
  rename_i carriedOut
  simp only [Bool.or_eq_true, not_or, Bool.not_eq_true] at carriedOut
  obtain ⟨⟨unreleased, alone⟩, shown⟩ := carriedOut
  cases known : PlayerServerMem.listed attempts.mem.base.lastOpStatus with
  | false =>
    rw [PlayerServerMem.localResourceRelease_unlisted known]
    constructor
    case unreleased =>
      intro _
      rw [← held.unreleased unreleased, PlayerServerMem.localResourceRelease_unlisted known]
      exact PlayerServerMem.localResourceRelease_unlisted known
    case released =>
      exact fun released => absurd (unreleased.symm.trans released) (by simp)
    case before => exact held.before
    case failed => rintro ⟨⟩
    case apart => exact fun _ => alone
  | true =>
    obtain ⟨whole, before, audio⟩ := held.alike unreleased known shown
    have releasable : attempts.mem.releasable = true := by
      simp only [PlayerServerMem.releasable, unreleased, shown, Bool.not_false, Bool.true_and]
      exact known
    have spared := spared alone releasable
    rw [PlayerServerMem.localResourceRelease_listed known]
    split
    · rename_i fault
      rw [if_pos fault] at spared
      constructor
      case unreleased =>
        intro _
        rw [← held.unreleased unreleased]
        exact PlayerServerMem.localResourceRelease_unreset fails known spared
      case released =>
        exact fun released => absurd (unreleased.symm.trans released) (by simp)
      case before => exact held.before
      case failed => exact fun _ _ => ⟨known, shown, before, audio⟩
      case apart => exact fun _ => alone
    · rename_i fine
      rw [if_neg fine] at spared
      have same := (PlayerServerMem.wasReleased_informed spared).trans whole
      constructor
      case unreleased => rintro ⟨⟩
      case released => exact fun _ => ⟨same, before, audio⟩
      case before => exact held.before
      case failed => rintro ⟨⟩
      case apart => exact fun _ => alone

theorem recover_flag {fails : AttemptCall → Bool} {mem : PlayerServerMem}
    (succeeded : (mem.localResourceRecover fails media).2 = true) :
    (mem.localResourceRecover fails media).1.isReleaseMemByManage = false := by
  unfold PlayerServerMem.localResourceRecover at succeeded ⊢
  split
  · assumption
  rename_i released
  rw [if_neg released] at succeeded
  split
  · rename_i none
    rw [none] at succeeded
    cases succeeded
  · rename_i steps some
    rw [some] at succeeded
    simpa using succeeded

/-- A recovery either succeeds, or leaves the player as it found it. -/
theorem Held.recover (held : Held attempts) {fails : AttemptCall → Bool}
    (spared : attempts.mem.isReleaseMemByManage = true → attempts.mem.SparedRecovery fails) :
    Held (attempts.recover media fails) ∧
      ((attempts.recover media fails).failed = false ∧
          (attempts.recover media fails).mem.isReleaseMemByManage = false ∨
        (attempts.recover media fails).failed = true ∧
          (attempts.recover media fails).mem = attempts.mem ∧
            attempts.mem.isReleaseMemByManage = true) := by
  unfold Attempts.recover
  cases released : attempts.mem.isReleaseMemByManage with
  | false => exact ⟨held.calm, .inl ⟨rfl, released⟩⟩
  | true =>
    obtain ⟨same, listed, audio⟩ := held.released released
    have alone := held.apart released
    have wasReset : PlayerServerMem.WasReset attempts.mem.base := by
      rw [same]
      exact ⟨rfl, rfl, rfl, rfl, rfl⟩
    have helper : attempts.mem.base.uriHelper = none := by
      rw [same]
      rfl
    simp only [Bool.true_eq_false, decide_false, alone, Bool.or_false, Bool.false_eq_true,
      if_false]
    rcases @PlayerServerMem.localResourceRecover_spared media _ _ released wasReset helper
      (spared released) with succeeded | failed
    · have flag := recover_flag succeeded
      simp only [succeeded, if_true, Bool.not_true]
      refine ⟨?_, .inl ⟨trivial, flag⟩⟩
      constructor
      case unreleased => exact fun _ => rfl
      case released => exact fun released => absurd (flag.symm.trans released) (by simp)
      case before => exact flag
      case failed => exact fun failed => nomatch failed
      case apart => exact fun released => absurd (flag.symm.trans released) (by simp)
    · simp only [failed, Bool.false_eq_true, if_false, Bool.not_false]
      refine ⟨?_, .inr ⟨trivial, trivial, trivial⟩⟩
      constructor
      case unreleased =>
        exact fun unreleased => absurd (released.symm.trans unreleased) (by simp)
      case released => exact fun _ => ⟨same, listed, audio⟩
      case before => exact held.before
      case failed =>
        exact fun _ unreleased => absurd (released.symm.trans unreleased) (by simp)
      case apart => exact fun _ => rfl

theorem client_flag {mem : PlayerServerMem} (unreleased : mem.isReleaseMemByManage = false)
    (op : ClientOp) : (mem.client media op).isReleaseMemByManage = false := by
  cases op <;> simp [PlayerServerMem.client, PlayerServerMem.recoverMemByUser, unreleased]

/-- What the client does with a player that holds, once it has asked for it. -/
theorem Held.asked (held : Held attempts) {op : ClientOp} {fails : AttemptCall → Bool}
    (spared : attempts.mem.isReleaseMemByManage = true → attempts.mem.SparedRecovery fails) :
    Held (if (attempts.recover media fails).failed then
        if op = .reset then
          { attempts.recover media fails with
            mem := { (attempts.recover media fails).mem with
              base := (attempts.recover media fails).mem.base.reset.getD
                (attempts.recover media fails).mem.base } }
        else attempts.recover media fails
      else (attempts.recover media fails).settle
        ((attempts.recover media fails).mem.client media op)) := by
  obtain ⟨recovered, ⟨fine, flag⟩ | ⟨failed, same, released⟩⟩ :=
    @Held.recover media attempts held fails spared
  · rw [fine, if_neg (by simp)]
    exact held_settle flag (client_flag flag op)
  rw [failed, if_pos rfl]
  split
  · have idle : attempts.mem.base.lastOpStatus = .idle := by
      rw [(held.released released).1]
      rfl
    have refused : (attempts.recover media fails).mem.base.reset = none := by
      rw [same]
      simp [reset, idle]
    rw [refused]
    exact recovered
  · exact recovered

theorem Held.client (held : Held attempts) {op : ClientOp} {fails : AttemptCall → Bool}
    (spared : attempts.mem.isReleaseMemByManage = true → attempts.mem.SparedRecovery fails) :
    Held (attempts.client media op fails) := by
  unfold Attempts.client
  cases op with
  | setVideoSurface surface =>
    cases released : attempts.mem.isReleaseMemByManage with
    | false =>
      have flag : ({ attempts with mem := { attempts.mem with isAudioPlayer := false } } :
          Attempts).recover media fails =
            { attempts with
              mem := { attempts.mem with isAudioPlayer := false }, failed := false } := by
        simp [Attempts.recover, released]
      simp only [flag, Bool.false_eq_true, if_false]
      have still : ({ attempts.mem with isAudioPlayer := false } :
          PlayerServerMem).isReleaseMemByManage = false := released
      exact held_settle released (client_flag still _)
    | true =>
      have shown : ({ attempts.mem with isAudioPlayer := false } : PlayerServerMem) =
          attempts.mem := by
        obtain ⟨same, -, audio⟩ := held.released released
        rw [same, ← audio]
        rfl
      simp only [shown]
      exact held.asked spared
  | _ => exact held.asked spared

theorem Held.next (held : Held attempts) {event : AttemptEvent}
    (spared : attempts.Spared event) : Held (attempts.next media event) := by
  cases event with
  | release fails => exact held.release spared
  | recover fails => exact (@Held.recover media attempts held fails spared).1
  | recovered =>
    exact { held with
      failed := fun failed => (nomatch failed)
      apart := fun _ => rfl }
  | client op fails => exact held.client spared
  | direct op =>
    refine held.settle (fun released => ?_) rfl
    have reset : attempts.mem.base.direct op = attempts.mem.base := by
      rw [(held.released released).1]
      cases op <;> rfl
    rw [reset]
  | report report =>
    refine held.settle (fun released => ?_) rfl
    have reset : attempts.mem.base.report report = attempts.mem.base := by
      rw [(held.released released).1]
      rfl
    simp [PlayerServerMem.report, reset]
  | defaultTrack index =>
    refine held.settle (fun released => ?_) ?_
    · rw [(held.released released).1]
      rfl
    · split <;> rfl

/-- The copy that holds is enough for a later attempt. -/
theorem Held.retriable (held : Held attempts) : Retriable media attempts := by
  have kept : attempts.failed = true → attempts.mem.retried media = attempts.before.retried media ∧
      PlayerServerMem.listed attempts.before.base.lastOpStatus = true ∧
        attempts.before.isAudioPlayer = false := by
    intro failed
    have before := held.before
    cases released : attempts.mem.isReleaseMemByManage with
    | false =>
      obtain ⟨-, -, listed, audio⟩ := held.failed failed released
      refine ⟨?_, listed, audio⟩
      simp [PlayerServerMem.retried, released, before, held.unreleased released]
    | true =>
      obtain ⟨same, listed, audio⟩ := held.released released
      refine ⟨?_, listed, audio⟩
      simp [PlayerServerMem.retried, released, before,
        PlayerServerMem.localResourceRelease_listed listed, nothing, ← same]
  constructor
  case agrees =>
    intro failed
    cases released : attempts.mem.isReleaseMemByManage with
    | false =>
      obtain ⟨listed, -⟩ := held.failed failed released
      refine iff_of_false (by simp) ?_
      rintro ⟨idle, -⟩
      rw [idle] at listed
      cases listed
    | true =>
      refine iff_of_true rfl ?_
      rw [(held.released released).1]
      exact ⟨rfl, rfl⟩
  case kept => exact fun failed => (kept failed).1
  case restores =>
    intro failed restorable
    obtain ⟨same, listed, audio⟩ := kept failed
    have releasable : attempts.before.releasable = true := by
      simp only [PlayerServerMem.releasable, held.before, audio, Bool.not_false, Bool.true_and]
      exact listed
    have released : attempts.before.release.isReleaseMemByManage = true := by
      rw [PlayerServerMem.release_eq releasable]
    rw [same, ← (PlayerServerMem.recovered_release_iff releasable).mpr restorable,
      ← PlayerServerMem.localResourceRecover_nothing released]
    simp [PlayerServerMem.retried, held.before,
      PlayerServerMem.localResourceRelease_nothing releasable]

/-- In every run whose failures are spared, every attempt that fails can be repeated. -/
theorem retriable_along (media : Media) {mem : PlayerServerMem}
    (unreleased : mem.isReleaseMemByManage = false) (events : List AttemptEvent)
    (along : Along (next media) Spared { mem, before := mem } events) (count : Nat) :
    Retriable media (run (next media) { mem, before := mem } (events.take count)) :=
  (invariant_of_along Held (fun _ _ held spared => held.next spared) (along.take count)
    (held_start unreleased)).retriable

def only (failing : AttemptCall) : AttemptCall → Bool := fun call => call == failing

/-- A release whose `Reset` fails, one that succeeds, and a recovery that fails with its source. -/
def failingTwice : List AttemptEvent :=
  [.release (only .reset), .release nothing, .recover (only .setSource)]

/-- A media whose first tracks are the default ones and whose seeks are exact. -/
def plainMedia : Media where
  defaultTrack := fun _ _ => 0
  seekTarget := fun _ _ position => position

/-- A client that has prepared a player with a surface. -/
def preparedOf (source : Source) : PlayerServerMem :=
  [ClientOp.setSource source, .setVideoSurface 7, .prepare].foldl
    (fun mem op => mem.client plainMedia op) {}

theorem retriable_failingTwice :
    (run (next plainMedia)
      { mem := preparedOf (.url "file"), before := preparedOf (.url "file") }
        failingTwice).failed = true ∧
    Retriable plainMedia (run (next plainMedia)
      { mem := preparedOf (.url "file"), before := preparedOf (.url "file") }
        (failingTwice.take 3)) :=
  ⟨by decide +kernel,
    retriable_along plainMedia (by decide +kernel) failingTwice (by decide +kernel) 3⟩

/-- What a run leaves of a player that was prepared. -/
def afterwards (source : Source) (events : List AttemptEvent) : Attempts :=
  run (next plainMedia) { mem := preparedOf source } events

/-- A recovery that fails with its source loses the file descriptor, and so does a release whose
`Reset` fails once; a recovery that fails later leaves an engine that is in the way of the next. -/
theorem lost_descriptor :
    ((afterwards (.fd ⟨3, 0, 9⟩) [.release nothing, .recover (only .setSource)]).failed = true ∧
      ((afterwards (.fd ⟨3, 0, 9⟩) [.release nothing,
        .recover (only .setSource)]).mem.retried plainMedia).2 = false ∧
      ((preparedOf (.fd ⟨3, 0, 9⟩)).retried plainMedia).2 = true ∧
      ¬ Retriable plainMedia (run (next plainMedia) { mem := preparedOf (.fd ⟨3, 0, 9⟩) }
        [.release nothing, .recover (only .setSource)])) ∧
    ((afterwards (.fd ⟨3, 0, 9⟩) [.release (only .reset)]).failed = true ∧
      ((afterwards (.fd ⟨3, 0, 9⟩) [.release (only .reset)]).mem.retried plainMedia).2 = false) ∧
    ((afterwards (.url "file") [.release nothing, .recover (only .setVideoSurface)]).failed = true ∧
      (afterwards (.url "file") [.release nothing,
        .recover (only .setVideoSurface)]).mem.isReleaseMemByManage = true ∧
      (afterwards (.url "file") [.release nothing,
        .recover (only .setVideoSurface)]).mem.base.lastOpStatus = .initialized ∧
      ((afterwards (.url "file") [.release nothing,
        .recover (only .setVideoSurface)]).mem.retried plainMedia).2 = false) := by
  refine ⟨⟨by decide +kernel, by decide +kernel, by decide +kernel, fun retriable => ?_⟩,
    by decide +kernel, by decide +kernel⟩
  have same := congrArg Prod.snd (retriable.kept (by decide +kernel))
  exact absurd same (by decide +kernel)

end Attempts

end PlayerFramework.PlayerMem
