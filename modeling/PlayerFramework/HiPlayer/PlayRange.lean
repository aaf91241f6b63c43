import PlayerFramework.HiPlayer.Engine

/-!
The play range of `HiPlayerImpl` (`hiplayer_impl.cpp`): the pair that `SetPlayRange` sets, the
pair that `SetPlayRangeWithMode` sets, and what prepares, plays, completes and stops with them.
-/

namespace PlayerFramework.HiPlayer

open Transition
open Player (PlayerSeekMode)

/-- What a pipeline that prepares finds: the duration of the media, and where `GetStartInfo` says
that it starts, or 0. -/
structure PreparedMedia where
  durationMs : Int
  startMs : Int := 0
  positive : 0 < durationMs

/-- The last four fields are outside the player: the range that its pipeline was last given, the
position, whether the pipeline has been started and not stopped since, and the range of the last
accepted call since the last `Stop`. -/
structure RangedPlayer where
  pipelineStates : PipelineState := .initialized
  durationMs : Int := -1
  startMs : Int := 0
  demuxer : Bool := false
  playRangeStartTime : Int := playRangeDefaultValue
  playRangeEndTime : Int := playRangeDefaultValue
  startTimeWithMode : Int := playRangeDefaultValue
  endTimeWithMode : Int := playRangeDefaultValue
  playRangeSeekMode : PlayerSeekMode := .previousSync
  isSetPlayRange : Bool := false
  isInitialPlay : Bool := true
  given : Int × Int := (playRangeDefaultValue, playRangeDefaultValue)
  position : Int := 0
  begun : Bool := false
  accepted : Int × Int := (playRangeDefaultValue, playRangeDefaultValue)
deriving DecidableEq

/-- The steps of `PrepareAsync` around `DoSetPlayRange`. -/
inductive PrepareStep where
  | init
  | setSource
  | preparePipeline
  | preroll
deriving DecidableEq

/-- `sought`, `prerolled` and `started` say whether a seek, the preroll behind it and a start of
the pipeline succeed; `failed` is the step that a preparation fails in. -/
inductive RangeCall where
  | setPlayRange (start finish : Int)
  | setPlayRangeWithMode (start finish : Int) (mode : PlayerSeekMode) (sought prerolled : Bool)
  | prepareAsync (media : PreparedMedia) (sought : Bool) (failed : Option PrepareStep)
  | play (sought started : Bool)
  | handleInitialPlayingStateChange
  | advance (positionMs : Int)
  | pause
  | handleCompleteEvent (singleLoop : Bool)
  | stop
  | reset

namespace RangedPlayer

def isValidPlayRange (start finish : Int) (player : RangedPlayer) : Bool :=
  if start < playRangeDefaultValue ∨ finish < playRangeDefaultValue ∨ finish = 0 then false
  else if player.pipelineStates = .initialized then true
  else if finish = playRangeDefaultValue ∧ start < player.durationMs then true
  else if start ≥ finish ∨ start ≥ player.durationMs ∨ finish > player.durationMs then false
  else true

def getPlayRangeStartTime (player : RangedPlayer) : Int :=
  if player.startTimeWithMode ≠ playRangeDefaultValue then player.startTimeWithMode
  else player.playRangeStartTime

def getPlayRangeEndTime (player : RangedPlayer) : Int :=
  if player.endTimeWithMode ≠ playRangeDefaultValue then player.endTimeWithMode
  else player.playRangeEndTime

def getPlayStartTime (player : RangedPlayer) : Int :=
  if player.playRangeStartTime > playRangeDefaultValue then player.playRangeStartTime
  else if player.startTimeWithMode ≠ playRangeDefaultValue ∧
      player.endTimeWithMode ≠ playRangeDefaultValue then
    player.startTimeWithMode
  else 0

def setPlayRange (start finish : Int) (player : RangedPlayer) : Bool × RangedPlayer :=
  if player.isValidPlayRange start finish then
    (true, { player with
      playRangeStartTime := start
      playRangeEndTime := finish
      given := (start, finish) })
  else (false, { player with pipelineStates := .stateError })

/-- A failed preroll is reported, but what was set stays. -/
def setPlayRangeWithMode (start finish : Int) (mode : PlayerSeekMode) (sought prerolled : Bool)
    (player : RangedPlayer) : Bool × RangedPlayer :=
  if !player.isValidPlayRange start finish then
    (false, { player with pipelineStates := .stateError })
  else
    let stored := { player with
      startTimeWithMode := start
      endTimeWithMode := finish
      playRangeSeekMode := mode
      isSetPlayRange := true }
    if player.pipelineStates = .initialized ∨ player.pipelineStates = .stopped then (true, stored)
    else if !player.demuxer then (true, stored)
    else if !sought then
      (false, { stored with given := (start, finish), pipelineStates := .stateError })
    else
      (prerolled, { stored with
        given := (start, finish)
        position := if start > playRangeDefaultValue then start else 0
        pipelineStates :=
          if player.pipelineStates = .playbackComplete then .paused else player.pipelineStates })

def doSetPlayRange (sought : Bool) (player : RangedPlayer) : Bool × RangedPlayer :=
  let rangeStartTime :=
    if player.getPlayRangeStartTime = -1 ∧ player.startMs > 0 then player.startMs
    else player.getPlayRangeStartTime
  let rangeEndTime := player.getPlayRangeEndTime
  if !player.isValidPlayRange rangeStartTime rangeEndTime then
    (false, { player with pipelineStates := .stateError })
  else
    let told :=
      if rangeEndTime > playRangeDefaultValue then
        { player with given := (rangeStartTime, rangeEndTime) }
      else player
    if rangeStartTime > playRangeDefaultValue then
      if sought then (true, { told with position := rangeStartTime })
      else (false, { told with pipelineStates := .stateError })
    else (true, told)

/-- A source that exists is reset first, and the pipeline with it. -/
def doSetSource (player : RangedPlayer) : RangedPlayer :=
  { player with
    demuxer := true
    given := if player.demuxer then (playRangeDefaultValue, playRangeDefaultValue)
      else player.given
    position := 0
    begun := false }

def prepareAsync (media : PreparedMedia) (sought : Bool) (failed : Option PrepareStep)
    (player : RangedPlayer) : RangedPlayer :=
  if ¬(player.pipelineStates = .initialized ∨ player.pipelineStates = .stopped) ∨
      failed = some .init then
    player
  else if failed = some .setSource then
    { player.doSetSource with pipelineStates := .stateError }
  else if failed = some .preparePipeline then
    { player.doSetSource with pipelineStates := .preparing }
  else
    let placed := { player.doSetSource with
      pipelineStates := .preparing
      durationMs := media.durationMs
      startMs := media.startMs }.doSetPlayRange sought
    if !placed.1 ∨ failed = some .preroll then placed.2
    else { placed.2 with pipelineStates := .prepared }

/-- `Seek` in a media whose duration is known. -/
def seek (mSeconds : Int) (sought : Bool) (player : RangedPlayer) : Bool × RangedPlayer :=
  if player.pipelineStates ≠ .stopped ∧ sought then
    (true, { player with position := max 0 (min mSeconds player.durationMs) })
  else (false, { player with pipelineStates := .stateError })

/-- `Play` of a completed or stopped player. -/
def playAgain (sought : Bool) (player : RangedPlayer) : Bool × RangedPlayer :=
  if player.getPlayRangeStartTime > playRangeDefaultValue then
    player.seek player.getPlayStartTime sought
  else player.seek 0 sought

/-- `DoPausedPlay`, and `Play` of a prepared player, which differ in the call that `started`
answers. -/
def playOn (sought started : Bool) (player : RangedPlayer) : Bool × RangedPlayer :=
  let placed :=
    if player.playRangeStartTime > playRangeDefaultValue then
      (player.seek player.playRangeStartTime sought).2
    else player
  -- What the seek has answered is overwritten.
  if started then (true, { placed with begun := true })
  else (false, { placed with pipelineStates := .stateError, begun := true })

/-- The first time, the change of the state waits for the first frames. -/
def play (sought started : Bool) (player : RangedPlayer) : Bool × RangedPlayer :=
  if !player.isValidPlayRange player.playRangeStartTime player.playRangeEndTime then
    (false, { player with pipelineStates := .stateError })
  else
    let answered :=
      if player.pipelineStates = .playbackComplete ∨ player.pipelineStates = .stopped then
        player.playAgain sought
      else player.playOn sought started
    if answered.1 ∧ !player.isInitialPlay then
      (true, { answered.2 with pipelineStates := .started })
    else answered

def handleCompleteEvent (singleLoop : Bool) (player : RangedPlayer) : RangedPlayer :=
  let completed :=
    if player.isSetPlayRange ∧ (player.startTimeWithMode = playRangeDefaultValue ∨
        player.endTimeWithMode = playRangeDefaultValue) then
      { player with
        startTimeWithMode := playRangeDefaultValue
        endTimeWithMode := playRangeDefaultValue
        given := (playRangeDefaultValue, playRangeDefaultValue) }
    else player
  if singleLoop then completed else { completed with pipelineStates := .playbackComplete }

def stop (player : RangedPlayer) : RangedPlayer :=
  { player with
    playRangeStartTime := playRangeDefaultValue
    playRangeEndTime := playRangeDefaultValue
    startTimeWithMode := playRangeDefaultValue
    endTimeWithMode := playRangeDefaultValue
    isSetPlayRange := false
    playRangeSeekMode := .previousSync
    pipelineStates := .stopped
    begun := false
    accepted := (playRangeDefaultValue, playRangeDefaultValue) }

/-- The history after a call of a setter. -/
def accepting (range : Int × Int) (answered : Bool × RangedPlayer) : RangedPlayer :=
  if answered.1 then { answered.2 with accepted := range } else answered.2

/-- The server lets `Play` through; it does not for a stopped player, which the interface allows. -/
def Playable (player : RangedPlayer) : Prop :=
  player.pipelineStates = .prepared ∧ player.begun = false ∨ player.pipelineStates = .paused ∨
    player.pipelineStates = .playbackComplete ∨ player.pipelineStates = .stopped

instance (player : RangedPlayer) : Decidable player.Playable :=
  inferInstanceAs (Decidable (_ ∨ _ ∨ _ ∨ _))

/-- A pipeline reports its first frames and its completion once it has been started, in whatever
state the player is then; after a stop, `curState_` refuses them. -/
def next (player : RangedPlayer) : RangeCall → RangedPlayer
  | .setPlayRange start finish => accepting (start, finish) (player.setPlayRange start finish)
  | .setPlayRangeWithMode start finish mode sought prerolled =>
    accepting (start, finish) (player.setPlayRangeWithMode start finish mode sought prerolled)
  | .prepareAsync media sought failed => player.prepareAsync media sought failed
  | .play sought started => if player.Playable then (player.play sought started).2 else player
  | .handleInitialPlayingStateChange =>
    if player.begun ∧ player.isInitialPlay then
      { player with isInitialPlay := false, pipelineStates := .started }
    else player
  | .advance positionMs => if player.begun then { player with position := positionMs } else player
  | .pause =>
    if player.pipelineStates = .started then { player with pipelineStates := .paused }
    else player
  | .handleCompleteEvent singleLoop =>
    if player.begun then player.handleCompleteEvent singleLoop else player
  | .stop => player.stop
  | .reset => if player.pipelineStates = .stopped then player else player.stop

def range (player : RangedPlayer) : Int × Int :=
  (player.getPlayRangeStartTime, player.getPlayRangeEndTime)

/-- The pipeline plays, or is ready to: one that is stopped is replaced before it plays again. -/
def InUse (player : RangedPlayer) : Prop :=
  player.begun ∨ player.pipelineStates = .prepared ∨ player.pipelineStates = .paused ∨
    player.pipelineStates = .playbackComplete ∨ player.pipelineStates = .started

/-- The getters and the pipeline have the range of the last accepted call; a start that is not
set is where the media starts. -/
def KeepsRange (player : RangedPlayer) : Prop :=
  player.range = player.accepted ∧ (player.InUse → player.given.2 = player.accepted.2 ∧
      (player.given.1 = player.accepted.1 ∨
        player.accepted.1 = playRangeDefaultValue ∧ player.given.1 = player.startMs))

/-- The position is the start of the last accepted range. -/
def AtStart (player : RangedPlayer) : Prop :=
  player.position = player.accepted.1 ∨ player.accepted.1 = playRangeDefaultValue ∧
      (player.position = 0 ∨ player.position = player.startMs)

def PlaysRange (player : RangedPlayer) : RangeCall → Prop
  | .play sought started =>
    player.Playable → (sought ∧ started → (player.play sought started).1) ∧
        ((player.play sought started).1 →
          if player.pipelineStates = .paused then
            (player.play sought started).2.position = player.position ∧
              (player.playRangeStartTime > playRangeDefaultValue → sought)
          else (player.play sought started).2.AtStart)
  | _ => True

def RangeHolds (player : RangedPlayer) (call : RangeCall) : Prop :=
  (next player call).KeepsRange ∧ PlaysRange player call

/-- The call leaves no pair of times that the calls after it would read against the last
accepted range, and no seek fails whose failure would be lost. -/
def Unmixed (player : RangedPlayer) : RangeCall → Prop
  | .setPlayRange start finish =>
    player.isValidPlayRange start finish →
      (player.startTimeWithMode = -1 ∨ player.startTimeWithMode = start) ∧
        (player.endTimeWithMode = -1 ∨ player.endTimeWithMode = finish) ∧
        (player.pipelineStates = .prepared → player.begun = false → start = -1 →
          player.position = 0 ∨ player.position = player.startMs)
  | .setPlayRangeWithMode start finish _ sought prerolled =>
    player.isValidPlayRange start finish → (start ≠ -1 ∨ player.playRangeStartTime = -1) ∧
        (finish ≠ -1 ∨ player.playRangeEndTime = -1) ∧
        (player.pipelineStates = .initialized ∨ player.pipelineStates = .stopped ∨
          !player.demuxer ∨ sought ∧ prerolled)
  | .prepareAsync media sought failed =>
    failed = none → player.pipelineStates = .initialized ∨ player.pipelineStates = .stopped →
      player.getPlayRangeEndTime = -1 → player.getPlayRangeStartTime < media.durationMs →
      (player.getPlayRangeStartTime = -1 ∨ sought) →
      player.range = if player.demuxer then (-1, -1) else player.given
  | .play sought started =>
    player.Playable → match player.pipelineStates with
    | .prepared =>
      player.isValidPlayRange player.playRangeStartTime player.playRangeEndTime ∧
        (player.playRangeStartTime = -1 ∨
          player.playRangeStartTime = player.getPlayRangeStartTime ∧ (sought ∨ !started))
    | .paused =>
      player.isValidPlayRange player.playRangeStartTime player.playRangeEndTime ∧
        (player.playRangeStartTime = -1 ∨
          player.playRangeStartTime = player.position ∧ (sought ∨ !started))
    | .playbackComplete =>
      player.isValidPlayRange player.playRangeStartTime player.playRangeEndTime ∧
        (player.getPlayRangeStartTime = -1 ∨ player.getPlayStartTime = player.getPlayRangeStartTime)
    | .stopped => False
    | _ => True
  | .handleCompleteEvent _ =>
    player.begun → player.isSetPlayRange →
      player.startTimeWithMode = -1 ∨ player.endTimeWithMode = -1 → player.range = (-1, -1)
  | _ => True

instance (player : RangedPlayer) (call : RangeCall) : Decidable (Unmixed player call) := by
  unfold Unmixed
  cases call
  case play => cases player.pipelineStates <;> infer_instance
  all_goals infer_instance

/-- With the range kept, a prepared player that `Play` will not move stands at the start, and a
start that was accepted is one that a seek reaches. -/
structure RangeKept (player : RangedPlayer) : Prop where
  keeps : player.KeepsRange
  placed : player.pipelineStates = .prepared → player.begun = false →
    player.playRangeStartTime = -1 → player.AtStart
  within : player.InUse →
    player.demuxer ∧ -1 ≤ player.accepted.1 ∧ player.accepted.1 < player.durationMs
  loaded : player.begun → player.pipelineStates ≠ .initialized ∧ player.pipelineStates ≠ .stopped

variable {player : RangedPlayer} {start finish : Int} {sought prerolled : Bool}

theorem bounds_of_valid (valid : player.isValidPlayRange start finish) : -1 ≤ start ∧ -1 ≤ finish ∧
      (player.pipelineStates = .initialized ∨ start < player.durationMs) := by
  unfold isValidPlayRange playRangeDefaultValue at valid
  split_ifs at valid with low unknown opened wrong
  · exact ⟨by omega, by omega, .inl unknown⟩
  · exact ⟨by omega, by omega, .inr opened.2⟩
  · exact ⟨by omega, by omega, .inr (by omega)⟩

theorem RangeKept.of_unused (known : player.range = player.accepted) (unused : ¬player.InUse) :
    RangeKept player where
  keeps := ⟨known, fun used => absurd used unused⟩
  placed := fun prepared => absurd (.inr (.inl prepared)) unused
  within := fun used => absurd used unused
  loaded := fun begun => absurd (.inl begun) unused

theorem RangeKept.not_early (kept : RangeKept player) (used : player.InUse) :
    player.pipelineStates ≠ .initialized ∧ player.pipelineStates ≠ .stopped := by
  rcases used with begun | prepared | paused | complete | started
  · exact kept.loaded begun
  all_goals simp_all

/-- A change of the state, and of the position where it has no start to keep. -/
theorem RangeKept.move (kept : RangeKept player) (used : player.InUse) {state : PipelineState}
    (position : Int) (begun isInitialPlay : Bool)
    (left : state = .prepared → begun) (live : state ≠ .initialized ∧ state ≠ .stopped) :
    RangeKept { player with
      pipelineStates := state
      position := position
      begun := begun
      isInitialPlay := isInitialPlay } where
  keeps := ⟨kept.keeps.1, fun _ => kept.keeps.2 used⟩
  placed := fun prepared waits => absurd (left prepared) (Bool.not_eq_true _ ▸ waits)
  within := fun _ => kept.within used
  loaded := fun _ => live

theorem RangeKept.fail (kept : RangeKept player) (position : Int) :
    RangeKept { player with pipelineStates := .stateError, position := position } := by
  by_cases begun : player.begun
  · exact kept.move (.inl begun) _ _ _ (fun prepared => nomatch prepared) (by decide)
  · apply RangeKept.of_unused
    · exact kept.keeps.1
    · simp [InUse, begun]

theorem RangeKept.setPlayRange (kept : RangeKept player)
    (unmixed : Unmixed player (.setPlayRange start finish)) :
    RangeKept (next player (.setPlayRange start finish)) := by
  by_cases valid : player.isValidPlayRange start finish
  · obtain ⟨starts, ends, placed⟩ := unmixed valid
    simp only [next, RangedPlayer.setPlayRange, valid, if_true, accepting]
    refine ⟨⟨?_, fun _ => ⟨rfl, .inl rfl⟩⟩, ?_, ?_, kept.loaded⟩
    · simp only [range, getPlayRangeStartTime, getPlayRangeEndTime, playRangeDefaultValue]
      split_ifs <;> simp only [Prod.mk.injEq] <;> omega
    · intro prepared waits unset
      exact .inr ⟨unset, placed prepared waits unset⟩
    · intro used
      have bounds := bounds_of_valid valid
      exact ⟨(kept.within used).1, bounds.1, bounds.2.2.resolve_left (kept.not_early used).1⟩
  · simp only [next, RangedPlayer.setPlayRange, valid, accepting]
    exact kept.fail player.position

theorem RangeKept.setPlayRangeWithMode (kept : RangeKept player) {mode : PlayerSeekMode}
    (unmixed : Unmixed player (.setPlayRangeWithMode start finish mode sought prerolled)) :
    RangeKept (next player (.setPlayRangeWithMode start finish mode sought prerolled)) := by
  by_cases valid : player.isValidPlayRange start finish
  · obtain ⟨starts, ends, succeeds⟩ := unmixed valid
    have bounds := bounds_of_valid valid
    have known : ({ player with
        startTimeWithMode := start
        endTimeWithMode := finish } : RangedPlayer).range = (start, finish) := by
      simp only [range, getPlayRangeStartTime, getPlayRangeEndTime, playRangeDefaultValue]
      split_ifs <;> simp only [Prod.mk.injEq] <;> omega
    simp only [next, RangedPlayer.setPlayRangeWithMode, valid, Bool.not_true, Bool.false_eq_true,
      if_false]
    by_cases early : player.pipelineStates = .initialized ∨ player.pipelineStates = .stopped
    · rw [if_pos early]
      apply RangeKept.of_unused
      · exact known
      · intro used
        have live := kept.not_early used
        exact early.elim live.1 live.2
    rw [if_neg early]
    have later := not_or.mp early
    by_cases bare : player.demuxer
    · obtain ⟨found, drawn⟩ : sought = true ∧ prerolled = true := by
        simpa [later, bare] using succeeds
      simp only [bare, found, drawn, Bool.not_true, Bool.false_eq_true, if_false, accepting,
        if_true]
      refine ⟨⟨known, fun _ => ⟨rfl, .inl rfl⟩⟩, ?_, ?_, ?_⟩
      · intro _ _ _
        unfold AtStart playRangeDefaultValue
        dsimp only
        split_ifs <;> omega
      · intro _
        exact ⟨rfl, bounds.1, bounds.2.2.resolve_left later.1⟩
      · intro _
        dsimp only
        split_ifs
        · exact ⟨by decide, by decide⟩
        · exact later
    · simp only [bare, Bool.not_false, if_true, accepting]
      apply RangeKept.of_unused
      · exact known
      · intro used
        exact bare (kept.within used).1
  · simp only [next, RangedPlayer.setPlayRangeWithMode, valid, accepting]
    exact kept.fail player.position

theorem doSetPlayRange_effect (sought : Bool) (player : RangedPlayer) :
    ∃ pair position state, (player.doSetPlayRange sought).2 = { player with
      given := pair, position := position, pipelineStates := state } ∧
        (state = player.pipelineStates ∨ state = .stateError) := by
  unfold RangedPlayer.doSetPlayRange
  extract_lets start finish told
  split_ifs with invalid
  · exact ⟨_, _, _, rfl, .inr rfl⟩
  all_goals simp only [told]; split_ifs
  all_goals first | exact ⟨_, _, _, rfl, .inl rfl⟩ | exact ⟨_, _, _, rfl, .inr rfl⟩

/-- `DoSetPlayRange` seeks to the start of the range, or of the media where it has none. -/
theorem RangeKept.doSetPlayRange (preparing : player.pipelineStates = .preparing)
    (source : player.demuxer) (known : player.range = player.accepted)
    (begins : player.position = 0)
    (told : player.getPlayRangeEndTime = -1 → player.getPlayRangeStartTime < player.durationMs →
      (player.getPlayRangeStartTime = -1 ∨ sought) → player.range = player.given)
    {placed : RangedPlayer} (places : player.doSetPlayRange sought = (true, placed)) :
    RangeKept { placed with pipelineStates := .prepared } := by
  have starts : player.accepted.1 = player.getPlayRangeStartTime := congrArg Prod.fst known.symm
  have ends : player.accepted.2 = player.getPlayRangeEndTime := congrArg Prod.snd known.symm
  revert places
  unfold RangedPlayer.doSetPlayRange
  extract_lets start finish given
  have chosen : start = player.accepted.1 ∨ player.accepted.1 = -1 ∧ start = player.startMs := by
    rw [starts]
    by_cases unset : player.getPlayRangeStartTime = -1 ∧ player.startMs > 0
    · exact .inr ⟨unset.1, if_pos unset⟩
    · exact .inl (if_neg unset)
  by_cases valid : player.isValidPlayRange start finish
  · have bounds := bounds_of_valid valid
    have reached : start < player.durationMs := bounds.2.2.resolve_left (by simp [preparing])
    obtain ⟨pair, rewritten, agrees⟩ : ∃ pair : Int × Int, given = { player with given := pair } ∧
        (start = -1 ∨ sought → pair.2 = player.accepted.2 ∧ (pair.1 = player.accepted.1 ∨
          player.accepted.1 = playRangeDefaultValue ∧ pair.1 = player.startMs)) := by
      by_cases bounded : finish > playRangeDefaultValue
      · exact ⟨(start, finish), if_pos bounded, fun _ => ⟨ends.symm, chosen⟩⟩
      · have opened : finish = -1 := Int.le_antisymm (Int.not_lt.mp bounded) bounds.2.1
        refine ⟨player.given, if_neg bounded, fun succeeds => ?_⟩
        rw [← told opened (by omega) (succeeds.imp_left (by omega)), known]
        exact ⟨rfl, .inl rfl⟩
    have prepared : start = -1 ∨ sought → ∀ position, position = start ∨ start = -1 ∧ position = 0 →
        RangeKept { player with
          given := pair
          position := position
          pipelineStates := .prepared } := by
      intro succeeds position placed
      refine ⟨⟨known, fun _ => agrees succeeds⟩, fun _ _ _ => ?_,
        fun _ => ⟨source, by dsimp only; omega, by dsimp only; omega⟩,
        fun _ => ⟨by simp, by simp⟩⟩
      simp only [AtStart, playRangeDefaultValue]
      omega
    simp only [valid, Bool.not_true, Bool.false_eq_true, if_false, rewritten]
    by_cases set : start > playRangeDefaultValue
    · rw [if_pos set]
      by_cases succeeds : sought
      · rw [if_pos succeeds]
        rintro ⟨⟩
        exact prepared (.inr succeeds) start (.inl rfl)
      · rw [if_neg succeeds]
        exact fun places => Bool.noConfusion (congrArg Prod.fst places)
    · have unset : start = -1 := Int.le_antisymm (Int.not_lt.mp set) bounds.1
      rw [if_neg set]
      rintro ⟨⟩
      exact prepared (.inl unset) player.position (.inr ⟨unset, begins⟩)
  · simp only [valid, Bool.not_false, if_true]
    exact fun places => Bool.noConfusion (congrArg Prod.fst places)

theorem RangeKept.prepareAsync (kept : RangeKept player) {media : PreparedMedia}
    {failed : Option PrepareStep} (unmixed : Unmixed player (.prepareAsync media sought failed)) :
    RangeKept (next player (.prepareAsync media sought failed)) := by
  simp only [next, RangedPlayer.prepareAsync]
  split_ifs with refused unsourced unpiped unplaced
  · exact kept
  · apply RangeKept.of_unused
    · exact kept.keeps.1
    · simp [InUse, doSetSource]
  · apply RangeKept.of_unused
    · exact kept.keeps.1
    · simp [InUse, doSetSource]
  · obtain ⟨pair, position, state, effect, moved⟩ := doSetPlayRange_effect sought _
    rw [effect]
    apply RangeKept.of_unused
    · exact kept.keeps.1
    · rcases moved with rfl | rfl <;> simp [InUse, doSetSource]
  · obtain ⟨early, -⟩ := not_or.mp refused
    simp only [not_or, Bool.not_eq_true, Bool.not_eq_false'] at unplaced
    have finished : failed = none := by
      rcases failed with _ | _ | _ | _ | _ <;> simp_all
    have places : RangedPlayer.doSetPlayRange sought _ = (true, _) := Prod.ext unplaced.1 rfl
    refine RangeKept.doSetPlayRange ?_ ?_ ?_ ?_ ?_ places
    · rfl
    · rfl
    · exact kept.keeps.1
    · rfl
    · exact unmixed finished (not_not.mp early)

theorem seek_effect (mSeconds : Int) (sought : Bool) (live : player.pipelineStates ≠ .stopped) :
    player.seek mSeconds sought = if sought then
        (true, { player with position := max 0 (min mSeconds player.durationMs) })
      else (false, { player with pipelineStates := .stateError }) := by
  simp [seek, live]

theorem playOn_effect (sought started : Bool) (live : player.pipelineStates ≠ .stopped) :
    ∃ state, player.playOn sought started = (started, { player with
      pipelineStates := state
      begun := true
      position := if player.playRangeStartTime > -1 ∧ sought then
          max 0 (min player.playRangeStartTime player.durationMs)
        else player.position }) ∧ (state = player.pipelineStates ∨ state = .stateError) := by
  unfold playOn playRangeDefaultValue
  rw [seek_effect _ _ live]
  by_cases set : player.playRangeStartTime > -1
  · cases sought <;> cases started <;> simp [set]
  · cases started <;> simp [set]

theorem playAgain_effect (sought : Bool) (complete : player.pipelineStates = .playbackComplete) :
    player.playAgain sought = if sought then
        (true, { player with
          position :=
            max 0 (min (if player.getPlayRangeStartTime > -1 then player.getPlayStartTime else 0)
              player.durationMs) })
      else (false, { player with pipelineStates := .stateError }) := by
  have live : player.pipelineStates ≠ .stopped := by simp [complete]
  unfold playAgain playRangeDefaultValue
  split_ifs <;> rw [seek_effect _ _ live] <;> simp_all

/-- `Play` answers and moves as its branch does. -/
theorem play_effect (sought started : Bool) {answered : Bool × RangedPlayer}
    (valid : player.isValidPlayRange player.playRangeStartTime player.playRangeEndTime)
    (branch : (if player.pipelineStates = .playbackComplete ∨ player.pipelineStates = .stopped then
      player.playAgain sought else player.playOn sought started) = answered) :
    (player.play sought started).1 = answered.1 ∧ (player.play sought started).2 =
      { answered.2 with pipelineStates :=
        if answered.1 ∧ !player.isInitialPlay then .started else answered.2.pipelineStates } := by
  simp only [RangedPlayer.play, valid, branch, Bool.not_true, Bool.false_eq_true, if_false]
  split_ifs with waits
  · exact ⟨waits.1.symm, rfl⟩
  · exact ⟨rfl, rfl⟩

theorem RangeKept.play (kept : RangeKept player) (sought started : Bool) :
    RangeKept (next player (.play sought started)) := by
  by_cases playable : player.Playable
  · simp only [next, if_pos playable]
    by_cases valid : player.isValidPlayRange player.playRangeStartTime player.playRangeEndTime
    · by_cases stopped : player.pipelineStates = .stopped
      · have refused : player.playAgain sought =
            (false, { player with pipelineStates := .stateError }) := by
          simp [playAgain, seek, stopped]
        rw [(play_effect sought started valid (by rw [if_pos (.inr stopped), refused])).2]
        exact kept.fail player.position
      · by_cases complete : player.pipelineStates = .playbackComplete
        · have again := playAgain_effect sought complete
          have effect := play_effect sought started valid (by rw [if_pos (.inl complete), again])
          cases sought with
          | false =>
            rw [effect.2]
            exact kept.fail player.position
          | true =>
            rw [effect.2]
            apply kept.move (.inr (.inr (.inr (.inl complete)))) _ _ player.isInitialPlay
            · split_ifs <;> simp [complete]
            · split_ifs <;> simp [complete]
        · obtain ⟨state, onward, moved⟩ := playOn_effect sought started stopped
          rw [(play_effect sought started valid
            (by rw [if_neg (not_or.mpr ⟨complete, stopped⟩), onward])).2]
          have used : player.InUse := by
            rcases playable with prepared | paused | other
            · exact .inr (.inl prepared.1)
            · exact .inr (.inr (.inl paused))
            · exact absurd other (not_or.mpr ⟨complete, stopped⟩)
          apply kept.move used _ true _ (fun _ => rfl)
          have live := kept.not_early used
          dsimp only
          rcases moved with rfl | rfl <;> split_ifs <;> simp [live]
    · simp only [RangedPlayer.play, valid, Bool.not_false, if_true]
      exact kept.fail player.position
  · simpa only [next, if_neg playable] using kept

theorem RangeKept.complete (kept : RangeKept player) {singleLoop : Bool}
    (unmixed : Unmixed player (.handleCompleteEvent singleLoop)) :
    RangeKept (next player (.handleCompleteEvent singleLoop)) := by
  by_cases begun : player.begun
  · have used : player.InUse := .inl begun
    simp only [next, if_pos begun]
    unfold handleCompleteEvent
    extract_lets completed
    have completes : RangeKept completed ∧ completed.begun := by
      by_cases half : player.isSetPlayRange ∧ (player.startTimeWithMode = playRangeDefaultValue ∨
          player.endTimeWithMode = playRangeDefaultValue)
      · have unset := unmixed begun half.1 half.2
        have bare : player.accepted = (-1, -1) := kept.keeps.1.symm.trans unset
        simp only [completed, if_pos half]
        refine ⟨⟨⟨?_, fun _ => ?_⟩, kept.placed, fun _ => kept.within used, kept.loaded⟩, begun⟩
        · simp only [range, getPlayRangeStartTime, getPlayRangeEndTime, playRangeDefaultValue,
            Prod.mk.injEq] at unset
          simp only [range, getPlayRangeStartTime, getPlayRangeEndTime, bare, Prod.mk.injEq]
          obtain ⟨starts, ends⟩ := unset
          split_ifs at starts <;> split_ifs at ends <;> simp_all
        · simp [bare, playRangeDefaultValue]
      · simp only [completed, if_neg half]
        exact ⟨kept, begun⟩
    split_ifs
    · exact completes.1
    · exact completes.1.move (.inl completes.2) _ _ _ (fun prepared => nomatch prepared) (by simp)
  · simpa only [next, if_neg begun] using kept

theorem rangeKept_stop (player : RangedPlayer) : RangeKept player.stop := by
  apply RangeKept.of_unused
  · rfl
  · simp [stop, InUse]

theorem next_rangeKept (player : RangedPlayer) (call : RangeCall) (kept : RangeKept player)
    (unmixed : Unmixed player call) : RangeKept (next player call) := by
  cases call with
  | setPlayRange start finish => exact kept.setPlayRange unmixed
  | setPlayRangeWithMode start finish mode sought prerolled =>
    exact kept.setPlayRangeWithMode unmixed
  | prepareAsync media sought failed => exact kept.prepareAsync unmixed
  | play sought started => exact kept.play sought started
  | handleInitialPlayingStateChange =>
    by_cases waits : player.begun ∧ player.isInitialPlay
    · simp only [next, if_pos waits]
      exact kept.move (.inl waits.1) _ _ _ (fun prepared => nomatch prepared) (by simp)
    · simpa only [next, if_neg waits] using kept
  | advance positionMs =>
    by_cases begun : player.begun
    · simp only [next, if_pos begun]
      exact kept.move (.inl begun) positionMs _ _ (fun _ => begun) (kept.loaded begun)
    · simpa only [next, if_neg begun] using kept
  | pause =>
    by_cases playing : player.pipelineStates = .started
    · simp only [next, if_pos playing]
      exact kept.move (.inr (.inr (.inr (.inr playing)))) player.position _ _
        (fun prepared => nomatch prepared) (by simp)
    · simpa only [next, if_neg playing] using kept
  | handleCompleteEvent singleLoop => exact kept.complete unmixed
  | stop => exact rangeKept_stop player
  | reset =>
    by_cases stopped : player.pipelineStates = .stopped
    · simpa only [next, if_pos stopped] using kept
    · simpa only [next, if_neg stopped] using rangeKept_stop player

theorem playsRange_of_unmixed (player : RangedPlayer) (call : RangeCall) (kept : RangeKept player)
    (unmixed : Unmixed player call) : PlaysRange player call := by
  cases call with
  | play sought started =>
    intro playable
    have starts : player.accepted.1 = player.getPlayRangeStartTime :=
      congrArg Prod.fst kept.keeps.1.symm
    replace unmixed := unmixed playable
    cases state : player.pipelineStates with
    | playbackComplete =>
      simp only [state] at unmixed
      obtain ⟨valid, unmixed⟩ := unmixed
      have within := kept.within (.inr (.inr (.inr (.inl state))))
      have effect := play_effect sought started valid
        (by rw [if_pos (.inl state), playAgain_effect sought state])
      rw [effect.1, effect.2]
      cases sought with
      | false => exact ⟨fun going => Bool.noConfusion going.1, fun going => Bool.noConfusion going⟩
      | true =>
        refine ⟨fun _ => rfl, fun _ => ?_⟩
        simp only [reduceCtorEq, if_false, if_true, AtStart, playRangeDefaultValue]
        rcases unmixed with unset | same <;> split_ifs <;> omega
    | stopped => simp [state] at unmixed
    | prepared =>
      simp only [state] at unmixed
      obtain ⟨valid, unmixed⟩ := unmixed
      have within := kept.within (.inr (.inl state))
      have placed := kept.placed state (by simpa [Playable, state] using playable)
      have live : player.pipelineStates ≠ .stopped := by simp [state]
      obtain ⟨left, onward, -⟩ := playOn_effect sought started live
      have effect := play_effect sought started valid (by rw [if_neg (by simp [state]), onward])
      rw [effect.1, effect.2]
      refine ⟨And.right, fun going => ?_⟩
      simp only [reduceCtorEq, if_false, AtStart, playRangeDefaultValue] at placed ⊢
      rcases unmixed with unset | ⟨same, succeeds⟩
      · simpa [unset] using placed unset
      have found : sought = true := by simpa [show started = true from going] using succeeds
      by_cases set : player.playRangeStartTime > -1
      · rw [if_pos ⟨set, found⟩]
        omega
      · rw [if_neg (set ·.1)]
        exact placed (by omega)
    | paused =>
      simp only [state] at unmixed
      obtain ⟨valid, unmixed⟩ := unmixed
      have live : player.pipelineStates ≠ .stopped := by simp [state]
      obtain ⟨left, onward, -⟩ := playOn_effect sought started live
      have effect := play_effect sought started valid (by rw [if_neg (by simp [state]), onward])
      rw [effect.1, effect.2]
      refine ⟨And.right, fun going => ?_⟩
      simp only [if_true, playRangeDefaultValue]
      have reached := (bounds_of_valid valid).2.2.resolve_left (by simp [state])
      rcases unmixed with unset | ⟨same, succeeds⟩
      · simp [unset]
      · have found : sought = true := by simpa [show started = true from going] using succeeds
        refine ⟨?_, fun _ => found⟩
        split_ifs <;> omega
    | _ => simp [Playable, state] at playable
  | _ => trivial

theorem rangeHolds_of_unmixed (calls : List RangeCall) (along : Along next Unmixed {} calls) :
    Along next RangeHolds {} calls := by
  apply along.implies RangeKept next_rangeKept
  · intro player call kept unmixed
    exact ⟨(next_rangeKept player call kept unmixed).keeps,
      playsRange_of_unmixed player call kept unmixed⟩
  · exact RangeKept.of_unused rfl (by simp [InUse])

theorem rangeHolds_of_unmixed_replayed :
    Along next RangeHolds {} [.setPlayRangeWithMode 2000 5000 .previousSync true true,
      .prepareAsync { durationMs := 10000, positive := by decide } true none, .play true true,
      .handleInitialPlayingStateChange, .handleCompleteEvent false, .play true true, .pause,
      .handleCompleteEvent false, .setPlayRangeWithMode 0 20000 .closest true true, .reset] :=
  rangeHolds_of_unmixed _ (by decide)

/-- A range with a mode, and behind it another, are set while the player is paused. -/
def mixedRanges : List RangeCall :=
  [.prepareAsync { durationMs := 10000, positive := by decide } true none, .play true true,
    .handleInitialPlayingStateChange, .pause,
    .setPlayRangeWithMode 2000 5000 .previousSync true true, .setPlayRange 1000 8000]

/-- The pipeline has the new range, the getters return the old one. -/
theorem getters_return_old_range : (run next {} mixedRanges).accepted = (1000, 8000) ∧
      (run next {} mixedRanges).given = (1000, 8000) ∧
      (run next {} mixedRanges).range = (2000, 5000) ∧ ¬Along next RangeHolds {} mixedRanges := by
  refine ⟨by decide, by decide, by decide, ?_⟩
  intro along
  exact absurd along.2.2.2.2.2.1.1.1 (by decide)

end RangedPlayer

end PlayerFramework.HiPlayer
