import PlayerFramework.HiPlayer.Completion
import PlayerFramework.HiPlayer.SeekAttempts

/-!
When completions are exact: reported once for each pass through the media, after all filters
have reported the end of their streams, and not withheld.
-/

namespace PlayerFramework.HiPlayer

open Transition
open Player (PlayerSeekMode)

namespace HiPlayerImpl

/-- The number of completions that have been reported. -/
def completions (player : HiPlayerImpl) : Nat :=
  player.reports.countP fun report =>
    match report with
    | .eos _ => true
    | _ => false

/-- All linked filters have reported the end of their streams since the last flush. -/
def AllArrived (player : HiPlayerImpl) : Prop :=
  ∀ item ∈ player.completeState, item.1 ∈ player.arrivedEos

instance (player : HiPlayerImpl) : Decidable player.AllArrived :=
  inferInstanceAs (Decidable (∀ item ∈ player.completeState, item.1 ∈ player.arrivedEos))

/-- A completion that is due has been reported. -/
def NoneOwed (player : HiPlayerImpl) : Prop :=
  player.completeState ≠ [] → player.AllArrived → player.curState ≠ .stopped →
    player.draggingPlayerAgent = false → player.passCompleted = true

instance (player : HiPlayerImpl) : Decidable player.NoneOwed :=
  inferInstanceAs (Decidable (_ → _ → _ → _ → _))

/-- The step reports no completion, or the first of its pass with all filters done; and none is
owed after it. -/
def ExactStep (time : TimeConversion) (player : HiPlayerImpl) (call : EngineCall) : Prop :=
  ((player.next time call).completions = player.completions ∨
    (player.next time call).completions = player.completions + 1 ∧
      (player.next time call).AllArrived ∧ player.passCompleted = false) ∧
  (player.next time call).NoneOwed

instance (time : TimeConversion) (player : HiPlayerImpl) (call : EngineCall) :
    Decidable (player.ExactStep time call) := inferInstanceAs (Decidable (_ ∧ _))

def Unflagged (player : HiPlayerImpl) : Prop := ∀ item ∈ player.completeState, item.2 = false

instance (player : HiPlayerImpl) : Decidable player.Unflagged :=
  inferInstanceAs (Decidable (∀ item ∈ player.completeState, item.2 = false))

def flushingStates : List PipelineState := [.started, .paused, .playbackComplete, .prepared]

def SeekFlushes (time : TimeConversion) (meets : SeekMeets) (mSeconds : Int)
    (player : HiPlayerImpl) : Prop :=
  player.pipelineStates ∈ flushingStates ∧ (player.durationMs > 0 ∨
      0 ≤ mSeconds ∧ ∃ item ∈ meets.ranges, contains time mSeconds item.1 = true)

instance (time : TimeConversion) (meets : SeekMeets) (mSeconds : Int) (player : HiPlayerImpl) :
    Decidable (player.SeekFlushes time meets mSeconds) := inferInstanceAs (Decidable (_ ∧ _))

/-- The end of a stream comes from a linked filter and does not complete a pass again; a flush of
a seek finds no filter flagged; a continuous seek that began near the end is left with
alignment, before all filters are done, and not by a stop. -/
def Clean (time : TimeConversion) (player : HiPlayerImpl) (call : EngineCall) : Prop :=
  match call with
  | .endOfStream srcFilter =>
    (∃ item ∈ player.completeState, item.1 = srcFilter) ∧
      (player.passCompleted = true → player.curState ≠ .stopped →
        (player.handleEosFlagState srcFilter).1 = false)
  | .seek meets mSeconds _ =>
    (player.isInValidSeekTime mSeconds).1 = false → player.SeekFlushes time meets mSeconds →
      player.Unflagged
  | .playSeek meets mSeconds _ => player.SeekFlushes time meets mSeconds → player.Unflagged
  | .unFreeze _ _ => player.isForzenSeekRecv = true → player.Unflagged
  | .exitSeekContinous align _ _ =>
    player.inEosPlayingSeekContinuous = true → player.videoDecoder = true →
      player.isNetWorkPlay = false →
      align = true ∧ (time.us2HstTime player.lastSeekContinousPos).isSome = true ∧
        ∃ item ∈ player.completeState, item.2 = false
  | .stop => player.inEosPlayingSeekContinuous = false
  | _ => True

instance (time : TimeConversion) (player : HiPlayerImpl) (call : EngineCall) :
    Decidable (player.Clean time call) := by
  unfold Clean
  cases call <;> infer_instance

/-- What the clean calls keep. -/
structure Counted (player : HiPlayerImpl) : Prop where
  flagged : ∀ item ∈ player.completeState, item.2 = true → item.1 ∈ player.arrivedEos
  arrived : player.passCompleted = false →
    ∀ item ∈ player.completeState, item.1 ∈ player.arrivedEos → item.2 = true
  waiting : player.inEosPlayingSeekContinuous = false → player.completeState ≠ [] →
    ∃ item ∈ player.completeState, item.2 = false
  dragging : player.inEosPlayingSeekContinuous = true → player.draggingPlayerAgent = true

variable {player : HiPlayerImpl}

theorem noneOwed_of_counted (counted : Counted player) : NoneOwed player := by
  intro linked all _ idle
  by_contra incomplete
  have outside : player.inEosPlayingSeekContinuous = false := by
    by_contra inside
    have dragging := counted.dragging (by simpa using inside)
    rw [idle] at dragging
    cases dragging
  rcases counted.waiting outside linked with ⟨item, member, unflagged⟩
  have flagged := counted.arrived (by simpa using incomplete) item member (all item member)
  rw [unflagged] at flagged
  cases flagged

/-- What completions are about is the same after the step, but for a flush. -/
structure FlushedOnly (flushes : Prop) (before after : HiPlayerImpl) : Prop where
  completeState : after.completeState = before.completeState
  inEos : after.inEosPlayingSeekContinuous = before.inEosPlayingSeekContinuous
  dragging : after.draggingPlayerAgent = before.draggingPlayerAgent
  completions : after.completions = before.completions
  pass : after.arrivedEos = before.arrivedEos ∧ after.passCompleted = before.passCompleted ∨
    flushes ∧ after.arrivedEos = [] ∧ after.passCompleted = false

theorem FlushedOnly.refl (player : HiPlayerImpl) : FlushedOnly False player player :=
  ⟨rfl, rfl, rfl, rfl, .inl ⟨rfl, rfl⟩⟩

variable {after : HiPlayerImpl} {flushes : Prop}

theorem FlushedOnly.mono {fewer more : Prop} {before : HiPlayerImpl}
    (flushed : FlushedOnly fewer before after) (implied : fewer → more) :
    FlushedOnly more before after :=
  { flushed with pass := flushed.pass.imp_right (And.imp_left implied) }

/-- Where nothing is flushed, a flush may be allowed. -/
theorem FlushedOnly.any {before : HiPlayerImpl} (same : FlushedOnly False before after)
    (flushes : Prop) : FlushedOnly flushes before after :=
  same.mono False.elim

theorem FlushedOnly.trans {first second third : HiPlayerImpl}
    (left : FlushedOnly flushes first second) (right : FlushedOnly flushes second third) :
    FlushedOnly flushes first third where
  completeState := right.completeState.trans left.completeState
  inEos := right.inEos.trans left.inEos
  dragging := right.dragging.trans left.dragging
  completions := right.completions.trans left.completions
  pass := by
    rcases right.pass with same | flushed
    · rw [same.1, same.2]
      exact left.pass
    · exact .inr flushed

theorem counted_of_flushed (flushed : FlushedOnly flushes player after)
    (unflagged : flushes → player.Unflagged) (counted : Counted player) : Counted after where
  flagged := by
    intro item member flag
    rw [flushed.completeState] at member
    rcases flushed.pass with same | ⟨flushes, _⟩
    · rw [same.1]
      exact counted.flagged item member flag
    · rw [unflagged flushes item member] at flag
      cases flag
  arrived := by
    intro incomplete item member arrived
    rw [flushed.completeState] at member
    rcases flushed.pass with same | ⟨_, none, _⟩
    · rw [same.1] at arrived
      rw [same.2] at incomplete
      exact counted.arrived incomplete item member arrived
    · rw [none] at arrived
      cases arrived
  waiting := by
    rw [flushed.inEos, flushed.completeState]
    exact counted.waiting
  dragging := by
    rw [flushed.inEos, flushed.dragging]
    exact counted.dragging

theorem completions_onInfo (report : EngineReport) (other : ∀ looping, report ≠ .eos looping)
    (player : HiPlayerImpl) : (player.onInfo report).completions = player.completions := by
  rw [completions, onInfo, List.countP_append]
  cases report with
  | eos looping => exact absurd rfl (other looping)
  | _ => rfl

theorem flushedOnly_onInfo (report : EngineReport) (other : ∀ looping, report ≠ .eos looping)
    (player : HiPlayerImpl) : FlushedOnly False player (player.onInfo report) :=
  ⟨rfl, rfl, rfl, completions_onInfo report other player, .inl ⟨rfl, rfl⟩⟩

theorem flushedOnly_updateStateNoLock (newState : PipelineState) (notifyUpward : Bool)
    (player : HiPlayerImpl) :
    FlushedOnly False player (player.updateStateNoLock newState notifyUpward) := by
  rw [updateStateNoLock]
  split
  · exact .refl player
  split
  · exact ⟨rfl, rfl, rfl, rfl, .inl ⟨rfl, rfl⟩⟩
  · have informed := flushedOnly_onInfo (.stateChange newState)
      (fun looping => EngineReport.noConfusion) { player with pipelineStates := newState }
    exact ⟨rfl, rfl, rfl, informed.completions, .inl ⟨rfl, rfl⟩⟩

theorem flushedOnly_onStateChanged (state : PlayerStateId) (player : HiPlayerImpl) :
    FlushedOnly False player (player.onStateChanged state) := by
  rw [onStateChanged]
  split
  · have changed := flushedOnly_updateStateNoLock (transStateId2PlayerState state) true
      { player with
        isDoCompletedSeek := false
        curState := state }
    exact ⟨changed.completeState, changed.inEos, changed.dragging, changed.completions,
      changed.pass⟩
  · split
    · exact .refl player
    · have changed := flushedOnly_updateStateNoLock (transStateId2PlayerState state) true
        { player with curState := state }
      exact ⟨changed.completeState, changed.inEos, changed.dragging, changed.completions,
        changed.pass⟩

theorem flushedOnly_flush (player : HiPlayerImpl) : FlushedOnly True player player.flush :=
  ⟨rfl, rfl, rfl, rfl, .inr ⟨trivial, rfl, rfl⟩⟩

theorem flushedOnly_cacheBuffer (answers : SeekAnswers) (player : HiPlayerImpl) :
    FlushedOnly False player (player.cacheBuffer answers) := by
  rw [cacheBuffer]
  split
  · exact flushedOnly_updateStateNoLock _ _ player
  · exact .refl player

variable (time : TimeConversion) (answers : SeekAnswers) (seekPos : Int) (mode : PlayerSeekMode)

theorem flushedOnly_doSeek (player : HiPlayerImpl) :
    FlushedOnly False player (player.doSeek time answers seekPos mode).2 := by
  have told : ∀ rtv : Status, FlushedOnly False player
      (if rtv = .ok then (rtv, player.syncSeek seekPos) else (rtv, player)).2 := by
    intro rtv
    split <;> exact ⟨rfl, rfl, rfl, rfl, .inl ⟨rfl, rfl⟩⟩
  rw [doSeek]
  cases time.us2HstTime seekPos with
  | none => exact .refl player
  | some seekTimeUs =>
    dsimp only
    split
    · rw [handleSeekClosest]
      dsimp only
      split
      · exact ⟨rfl, rfl, rfl, rfl, .inl ⟨rfl, rfl⟩⟩
      · split <;> exact ⟨rfl, rfl, rfl, rfl, .inl ⟨rfl, rfl⟩⟩
    · exact told _

theorem flushedOnly_sought (player : HiPlayerImpl) :
    FlushedOnly True player (player.flush.doSeek time answers seekPos mode).2 :=
  (flushedOnly_flush player).trans
    ((flushedOnly_doSeek time answers seekPos mode player.flush).any _)

theorem flushedOnly_handleSeek (isUnFreezeSeek : Bool) (player : HiPlayerImpl) :
    FlushedOnly True player (player.handleSeek time answers seekPos mode isUnFreezeSeek).2 := by
  have sought := flushedOnly_sought time answers seekPos mode
  rw [handleSeek]
  cases player.pipelineStates with
  | started =>
    have cached := (flushedOnly_cacheBuffer answers player).any True
    have all := cached.trans (sought (player.cacheBuffer answers))
    exact ⟨all.completeState, all.inEos, all.dragging, all.completions, all.pass⟩
  | paused =>
    have all := sought player
    exact ⟨all.completeState, all.inEos, all.dragging, all.completions, all.pass⟩
  | prepared => exact sought player
  | playbackComplete =>
    have all := sought player
    simp only [doCompletedSeek]
    split
    · exact ⟨all.completeState, all.inEos, all.dragging, all.completions, all.pass⟩
    have changed := (flushedOnly_onStateChanged .pause
      { (player.flush.doSeek time answers seekPos mode).2.stopReports with
        isDoCompletedSeek := true }).any True
    exact all.trans
      ⟨changed.completeState, changed.inEos, changed.dragging, changed.completions, changed.pass⟩
  | frozen =>
    simp only [doFrozenSeek]
    split
    · have all := sought player
      exact ⟨all.completeState, all.inEos, all.dragging, all.completions, all.pass⟩
    · exact ⟨rfl, rfl, rfl, rfl, .inl ⟨rfl, rfl⟩⟩
  | _ => exact (FlushedOnly.refl player).any True

theorem handleSeek_still (still : player.pipelineStates ∉ flushingStates) :
    FlushedOnly False player (player.handleSeek time answers seekPos mode false).2 ∧
      (player.handleSeek time answers seekPos mode false).2.pipelineStates ∉ flushingStates := by
  rw [handleSeek]
  cases state : player.pipelineStates with
  | started | paused | prepared | playbackComplete => simp [state, flushingStates] at still
  | frozen => exact ⟨⟨rfl, rfl, rfl, rfl, .inl ⟨rfl, rfl⟩⟩, still⟩
  | _ => exact ⟨.refl player, still⟩

theorem flushedOnly_seekRanges (mSeconds : Int) (mode : PlayerSeekMode) (isUnFreezeSeek : Bool)
    (ranges : List (SeekRange × SeekAnswers)) (reached : Status × HiPlayerImpl) :
    FlushedOnly (∃ item ∈ ranges, contains time mSeconds item.1 = true ∧ reached.1 = .ok)
      reached.2 (seekRanges time mSeconds mode isUnFreezeSeek ranges reached).2 := by
  induction ranges generalizing reached with
  | nil => exact (FlushedOnly.refl reached.2).any _
  | cons item rest ih =>
    rcases item with ⟨item, answers⟩
    rcases reached with ⟨rtv, player⟩
    rw [seekRanges]
    split
    · rename_i tried
      have here : ∃ each ∈ (item, answers) :: rest,
          contains time mSeconds each.1 = true ∧ rtv = .ok :=
        ⟨_, List.mem_cons_self .., tried.2, tried.1⟩
      have first := (flushedOnly_handleSeek time answers
        (mSeconds - time.hstTime2Ms item.start) mode isUnFreezeSeek player).mono fun _ => here
      exact first.trans ((ih _).mono fun _ => here)
    · refine (ih (rtv, player)).mono ?_
      rintro ⟨each, member, holds⟩
      exact ⟨each, List.mem_cons_of_mem _ member, holds⟩

theorem seekRanges_still (mSeconds : Int) (mode : PlayerSeekMode)
    (ranges : List (SeekRange × SeekAnswers)) (reached : Status × HiPlayerImpl)
    (still : reached.2.pipelineStates ∉ flushingStates) :
    FlushedOnly False reached.2 (seekRanges time mSeconds mode false ranges reached).2 := by
  induction ranges generalizing reached with
  | nil => exact .refl reached.2
  | cons item rest ih =>
    rcases item with ⟨item, answers⟩
    rcases reached with ⟨rtv, player⟩
    rw [seekRanges]
    split
    · have first := handleSeek_still time answers (mSeconds - time.hstTime2Ms item.start) mode still
      exact first.1.trans (ih _ first.2)
    · exact ih (rtv, player) still

theorem flushedOnly_notifyBufferEnd (isBuffering : Bool) (player : HiPlayerImpl) :
    FlushedOnly False player (player.notifyBufferEnd isBuffering) := by
  rw [notifyBufferEnd]
  split
  · exact .refl player
  split
  · exact ⟨rfl, rfl, rfl, rfl, .inl ⟨rfl, rfl⟩⟩
  have informed := flushedOnly_onInfo (.bufferingUpdate notifyBufferingEndParam)
    (fun looping => EngineReport.noConfusion)
    { player with
      isSeekClosest := false
      isBufferingStartNotified := false }
  exact ⟨rfl, rfl, rfl, informed.completions, .inl ⟨rfl, rfl⟩⟩

theorem flushedOnly_notifySeek (isBuffering : Bool) (rtv : Status) (flag : Bool) (seekPos : Int)
    (player : HiPlayerImpl) :
    FlushedOnly False player (player.notifySeek isBuffering rtv flag seekPos) := by
  rw [notifySeek]
  split
  · split
    · exact .refl player
    · exact ((flushedOnly_updateStateNoLock _ _ player).trans
        (flushedOnly_onInfo _ (fun looping => EngineReport.noConfusion) _)).trans
        (flushedOnly_onInfo _ (fun looping => EngineReport.noConfusion) _)
  · have ended := flushedOnly_notifyBufferEnd isBuffering player
    split
    · rw [notifySeekDone]
      split
      · exact (ended.trans (flushedOnly_onInfo _ (fun looping => EngineReport.noConfusion) _)).trans
          (flushedOnly_onInfo _ (fun looping => EngineReport.noConfusion) _)
      · exact ended.trans (flushedOnly_onInfo _ (fun looping => EngineReport.noConfusion) _)
    · exact ended

theorem flushedOnly_around {sought : HiPlayerImpl}
    (middle : FlushedOnly flushes player.seeking sought) (isBuffering : Bool) (rtv : Status)
    (flag : Bool) (seekPos : Int) :
    FlushedOnly flushes player (sought.notifySeek isBuffering rtv flag seekPos).seekEnded := by
  have answered := middle.trans
    ((flushedOnly_notifySeek isBuffering rtv flag seekPos sought).any flushes)
  exact ⟨answered.completeState, answered.inEos, answered.dragging, answered.completions,
    answered.pass⟩

variable (meets : SeekMeets) (mSeconds : Int)

theorem flushedOnly_seekWith (mode : PlayerSeekMode) (notifySeekDone isUnFreezeSeek : Bool)
    (known : player.durationMs > 0 →
      ∀ seekPos, FlushedOnly flushes player.seeking
        (player.seeking.handleSeek time meets.answers seekPos mode isUnFreezeSeek).2)
    (live : ∀ rtv, (rtv = .ok → 0 ≤ mSeconds) →
      FlushedOnly flushes player.seeking (seekRanges time mSeconds mode isUnFreezeSeek meets.ranges
        (rtv, player.seeking)).2) :
    FlushedOnly flushes player
      (player.seekWith time meets mSeconds mode notifySeekDone isUnFreezeSeek).2 := by
  rw [seekWith]
  split
  · rename_i duration
    exact flushedOnly_around (known duration _) _ _ _ _
  rw [liveSeek]
  dsimp only
  split
  · exact ⟨rfl, rfl, rfl, rfl, .inl ⟨rfl, rfl⟩⟩
  have starts : (if mSeconds ≥ 0 then Status.ok else .errorInvalidParameter) = .ok →
      0 ≤ mSeconds := by
    intro starts
    by_contra negative
    rw [if_neg negative] at starts
    cases starts
  generalize (if mSeconds ≥ 0 then Status.ok else .errorInvalidParameter) = rtv at starts ⊢
  have ended := flushedOnly_around (live rtv starts) meets.isBuffering
    (seekRanges time mSeconds mode isUnFreezeSeek meets.ranges (rtv, player.seeking)).1
    notifySeekDone mSeconds
  split
  · exact ⟨ended.completeState, ended.inEos, ended.dragging, ended.completions, ended.pass⟩
  · exact ended

theorem flushedOnly_anySeek (mode : PlayerSeekMode) (notifySeekDone isUnFreezeSeek : Bool)
    (player : HiPlayerImpl) :
    FlushedOnly True player
      (player.seekWith time meets mSeconds mode notifySeekDone isUnFreezeSeek).2 := by
  apply flushedOnly_seekWith
  · intro _ seekPos
    exact flushedOnly_handleSeek time meets.answers seekPos mode isUnFreezeSeek player.seeking
  · intro rtv _
    exact (flushedOnly_seekRanges time mSeconds mode isUnFreezeSeek meets.ranges
      (rtv, player.seeking)).mono fun _ => trivial

theorem flushedOnly_playerSeek (mode : PlayerSeekMode) (notifySeekDone : Bool)
    (player : HiPlayerImpl) :
    FlushedOnly (player.SeekFlushes time meets mSeconds) player
      (player.seekWith time meets mSeconds mode notifySeekDone false).2 := by
  by_cases flushing : player.pipelineStates ∈ flushingStates
  · apply flushedOnly_seekWith
    · intro duration seekPos
      exact (flushedOnly_handleSeek time meets.answers seekPos mode false player.seeking).mono
        fun _ => ⟨flushing, .inl duration⟩
    · intro rtv starts
      refine (flushedOnly_seekRanges time mSeconds mode false meets.ranges
        (rtv, player.seeking)).mono ?_
      rintro ⟨item, member, holds, done⟩
      exact ⟨flushing, .inr ⟨starts done, item, member, holds⟩⟩
  · apply flushedOnly_seekWith
    · intro _ seekPos
      exact (@handleSeek_still player.seeking time meets.answers seekPos mode flushing).1.any _
    · intro rtv _
      exact (seekRanges_still time mSeconds mode meets.ranges (rtv, player.seeking) flushing).any _

/-- A pipeline of unflagged filters that has just been flushed. -/
theorem counted_of_unflagged (unflagged : player.Unflagged) (flushed : player.arrivedEos = [])
    (dragging : player.inEosPlayingSeekContinuous = true → player.draggingPlayerAgent = true) :
    Counted player where
  flagged := by
    intro item member flag
    rw [unflagged item member] at flag
    cases flag
  arrived := by
    intro _ item _ arrived
    rw [flushed] at arrived
    cases arrived
  waiting := by
    intro _ linked
    rcases List.exists_mem_of_ne_nil _ linked with ⟨item, member⟩
    exact ⟨item, member, unflagged item member⟩
  dragging := dragging

theorem mem_unflagged {completeState : List (String × Bool)} {item : String × Bool}
    (member : item ∈ unflagged completeState) :
    item.2 = false ∧ ∃ flag, (item.1, flag) ∈ completeState := by
  rcases List.mem_map.mp member with ⟨before, inside, rfl⟩
  exact ⟨rfl, before.2, inside⟩

theorem handleEosFlagState_all (srcFilter : String) (player : HiPlayerImpl) :
    (player.handleEosFlagState srcFilter).1 = true ↔
      ∀ item ∈ player.completeState, item.1 = srcFilter ∨ item.2 = true := by
  simp [handleEosFlagState]

theorem counted_flagged (counted : Counted player) (srcFilter : String)
    (unfinished : player.inEosPlayingSeekContinuous = false →
      (player.handleEosFlagState srcFilter).1 = false) :
    Counted (player.handleEosFlagState srcFilter).2 where
  flagged := by
    intro item member flag
    rcases List.mem_map.mp member with ⟨before, inside, rfl⟩
    by_cases own : before.1 = srcFilter
    · simp [handleEosFlagState, own]
    · rw [if_neg own] at flag ⊢
      exact List.mem_append_left _ (counted.flagged before inside flag)
  arrived := by
    intro incomplete item member arrived
    rcases List.mem_map.mp member with ⟨before, inside, rfl⟩
    by_cases own : before.1 = srcFilter
    · rw [if_pos own]
    · rw [if_neg own] at arrived ⊢
      have earlier : before.1 ∈ player.arrivedEos := by
        simpa [handleEosFlagState, own] using arrived
      exact counted.arrived incomplete before inside earlier
  waiting := by
    intro idle linked
    have missing : ¬∀ item ∈ player.completeState, item.1 = srcFilter ∨ item.2 = true := by
      rw [← handleEosFlagState_all, unfinished idle]
      exact Bool.false_ne_true
    rcases not_forall.mp missing with ⟨item, rest⟩
    rcases Classical.not_imp.mp rest with ⟨member, neither⟩
    rw [not_or] at neither
    refine ⟨item, List.mem_map.mpr ⟨item, member, if_neg neither.1⟩, ?_⟩
    simpa using neither.2
  dragging := counted.dragging

theorem flushedOnly_completing (player : HiPlayerImpl) :
    FlushedOnly False player player.completing := by
  have looped : ∀ player : HiPlayerImpl, FlushedOnly False player player.loopEnded := by
    intro player
    rw [loopEnded]
    split <;> exact ⟨rfl, rfl, rfl, rfl, .inl ⟨rfl, rfl⟩⟩
  have ranged : ∀ player : HiPlayerImpl, FlushedOnly False player player.rangeEnded := by
    intro player
    rw [rangeEnded]
    split
    · exact ⟨rfl, rfl, rfl, rfl, .inl ⟨rfl, rfl⟩⟩
    · exact .refl player
  have streamed : FlushedOnly False player { player with isStreaming := false } :=
    ⟨rfl, rfl, rfl, rfl, .inl ⟨rfl, rfl⟩⟩
  have ended := (streamed.trans (looped _)).trans (ranged _)
  rw [completing]
  split
  · exact ended.trans (flushedOnly_onStateChanged .eos _)
  · exact ended

theorem complete_spec (all : ∀ item ∈ player.completeState, item.1 ∈ player.arrivedEos)
    (dragging : player.inEosPlayingSeekContinuous = true → player.draggingPlayerAgent = true) :
    Counted player.complete ∧ player.complete.completions = player.completions + 1 ∧
      player.complete.AllArrived := by
  have same := flushedOnly_completing player
  have arrivedEos : player.completing.arrivedEos = player.arrivedEos := by
    rcases same.pass with kept | ⟨never, _⟩
    · exact kept.1
    · exact never.elim
  refine ⟨⟨?_, ?_, ?_, ?_⟩, ?_, ?_⟩
  · intro item member flag
    rw [(mem_unflagged member).1] at flag
    cases flag
  · intro incomplete
    cases incomplete
  · intro _ linked
    rcases List.exists_mem_of_ne_nil _ linked with ⟨item, member⟩
    exact ⟨item, member, (mem_unflagged member).1⟩
  · intro inside
    exact same.dragging.trans (dragging (same.inEos.symm.trans inside))
  · rw [← same.completions]
    exact List.countP_append
  · intro item member
    rcases (mem_unflagged member).2 with ⟨flag, inside⟩
    have arrived := all (item.1, flag) inside
    rw [← arrivedEos] at arrived
    exact arrived

theorem endOfStream_spec (counted : Counted player) (srcFilter : String)
    (once : player.passCompleted = true → player.curState ≠ .stopped →
      (player.handleEosFlagState srcFilter).1 = false) :
    Counted (player.handleCompleteEvent srcFilter) ∧
      ((player.handleCompleteEvent srcFilter).completions = player.completions ∨
        (player.handleCompleteEvent srcFilter).completions = player.completions + 1 ∧
          (player.handleCompleteEvent srcFilter).AllArrived ∧ player.passCompleted = false) := by
  rw [handleCompleteEvent]
  split
  · exact ⟨counted, .inl rfl⟩
  rename_i running
  dsimp only
  split
  · rename_i held
    refine ⟨counted_flagged counted srcFilter ?_, .inl rfl⟩
    intro idle
    rcases held with missing | dragging
    · simpa using missing
    · exact absurd (idle.symm.trans dragging) Bool.false_ne_true
  · rename_i due
    rw [not_or] at due
    have all : (player.handleEosFlagState srcFilter).1 = true := by simpa using due.1
    have complete := @complete_spec (player.handleEosFlagState srcFilter).2 (by
        intro item member
        rcases List.mem_map.mp member with ⟨before, inside, rfl⟩
        rcases (handleEosFlagState_all srcFilter player).mp all before inside with own | flag
        · simp [handleEosFlagState, own]
        have arrived := List.mem_append_left [srcFilter] (counted.flagged before inside flag)
        by_cases own : before.1 = srcFilter
        · rw [if_pos own]
          exact arrived
        · rw [if_neg own]
          exact arrived) (fun inside => absurd inside due.2)
    refine ⟨complete.1, .inr ⟨complete.2.1, complete.2.2, ?_⟩⟩
    by_contra again
    have unfinished := once (by simpa using again) running
    rw [all] at unfinished
    cases unfinished

theorem counted_same (counted : Counted player) (same : FlushedOnly False player after) :
    Counted after :=
  counted_of_flushed same False.elim counted

theorem counted_flushVideoEOS (counted : Counted player) (hasEosTrack : Bool)
    (dragging : player.draggingPlayerAgent = true) :
    Counted (player.flushVideoEOS hasEosTrack) ∧
      (player.flushVideoEOS hasEosTrack).completions = player.completions := by
  rw [flushVideoEOS]
  split
  · exact ⟨counted_of_unflagged (fun item member => (mem_unflagged member).1) rfl
      fun _ => dragging, rfl⟩
  · exact ⟨counted, rfl⟩

theorem counted_startSeekContinous (counted : Counted player) (answers : DraggingAnswers) :
    Counted (player.startSeekContinous answers).2 ∧
      (player.startSeekContinous answers).2.completions = player.completions := by
  have paused : FlushedOnly False player (player.pausedForDragging answers) := by
    rw [pausedForDragging]
    split
    · split
      · have failed := flushedOnly_updateStateNoLock .stateError true player
        exact ⟨failed.completeState, failed.inEos, failed.dragging, failed.completions, failed.pass⟩
      · exact ⟨rfl, rfl, rfl, rfl, .inl ⟨rfl, rfl⟩⟩
    · exact .refl player
  have kept := counted_same counted paused
  have dragging : Counted { player.pausedForDragging answers with draggingPlayerAgent := true } :=
    ⟨kept.flagged, kept.arrived, kept.waiting, fun _ => rfl⟩
  rw [startSeekContinous, ← paused.completions]
  split
  · exact ⟨kept, rfl⟩
  split
  · exact ⟨kept, rfl⟩
  split
  · exact ⟨kept, rfl⟩
  split
  · exact counted_flushVideoEOS dragging answers.hasEosTrack rfl
  · have informed := flushedOnly_onInfo (.error .seekContinuousUnsupported)
      (fun looping => EngineReport.noConfusion)
      { player.pausedForDragging answers with draggingPlayerAgent := true }
    exact ⟨counted_same dragging informed, informed.completions⟩

theorem counted_seekContinous (counted : Counted player) (mSeconds batchNo : Int)
    (answers : DraggingAnswers) :
    Counted (player.seekContinous mSeconds batchNo answers) ∧
      (player.seekContinous mSeconds batchNo answers).completions = player.completions := by
  have positioned : Counted { player with lastSeekContinousPos := mSeconds } :=
    ⟨counted.flagged, counted.arrived, counted.waiting, counted.dragging⟩
  rw [seekContinous]
  split
  · exact ⟨counted, rfl⟩
  dsimp only
  split
  · exact ⟨positioned, rfl⟩
  exact @counted_startSeekContinous
    { player with
      lastSeekContinousPos := mSeconds
      seekContinousBatchNo := batchNo }
    ⟨counted.flagged, counted.arrived, counted.waiting, counted.dragging⟩ answers

theorem counted_resumed (counted : Counted player) (pipelineResume : Status) :
    Counted (player.resumedFromDragging pipelineResume) ∧
      (player.resumedFromDragging pipelineResume).completions = player.completions := by
  have same : FlushedOnly False player (player.resumedFromDragging pipelineResume) := by
    rw [resumedFromDragging]
    split
    · split
      · have failed := flushedOnly_updateStateNoLock .stateError true
          { player.startReports with syncRunning := true }
        exact ⟨failed.completeState, failed.inEos, failed.dragging, failed.completions, failed.pass⟩
      · exact ⟨rfl, rfl, rfl, rfl, .inl ⟨rfl, rfl⟩⟩
    · exact .refl player
  exact ⟨counted_same counted same, same.completions⟩

theorem counted_playingAgain
    (flagged : ∀ item ∈ player.completeState, item.2 = true → item.1 ∈ player.arrivedEos)
    (arrived : player.passCompleted = false →
      ∀ item ∈ player.completeState, item.1 ∈ player.arrivedEos → item.2 = true)
    (waiting : player.completeState ≠ [] → ∃ item ∈ player.completeState, item.2 = false) :
    Counted player.playingAgain ∧ player.playingAgain.completions = player.completions := by
  rw [playingAgain]
  split
  · exact ⟨⟨flagged, arrived, fun _ => waiting, fun never => nomatch never⟩, rfl⟩
  · rename_i idle
    exact ⟨⟨flagged, arrived, fun _ => waiting, fun inside => absurd inside idle⟩, rfl⟩

theorem counted_exitSeekContinous (counted : Counted player) (time : TimeConversion)
    (align : Bool) (batchNo : Int) (pipelineResume : Status)
    (clean : player.Clean time (.exitSeekContinous align batchNo pipelineResume)) :
    Counted (player.exitSeekContinous time align batchNo pipelineResume) ∧
      (player.exitSeekContinous time align batchNo pipelineResume).completions =
        player.completions := by
  rw [exitSeekContinous]
  split
  · exact ⟨counted, rfl⟩
  rename_i possible
  rw [not_or] at possible
  have leaves : player.inEosPlayingSeekContinuous = true → align = true ∧
      (time.us2HstTime player.lastSeekContinousPos).isSome = true ∧
        ∃ item ∈ player.completeState, item.2 = false := fun inside =>
    clean inside (by simpa using possible.1) (by simpa using possible.2)
  have waiting : player.completeState ≠ [] → ∃ item ∈ player.completeState, item.2 = false := by
    intro linked
    by_cases inside : player.inEosPlayingSeekContinuous = true
    · exact (leaves inside).2.2
    · exact counted.waiting (by simpa using inside) linked
  dsimp only
  split
  · exact ⟨⟨counted.flagged, counted.arrived, counted.waiting, counted.dragging⟩, rfl⟩
  split
  · rename_i converts
    have idle : ¬player.inEosPlayingSeekContinuous = true := by
      intro inside
      have time := (leaves inside).2.1
      rw [converts] at time
      cases time
    exact ⟨⟨counted.flagged, counted.arrived, counted.waiting,
      fun inside => absurd inside idle⟩, rfl⟩
  · split
    · rename_i unaligned
      have idle : ¬player.inEosPlayingSeekContinuous = true := by
        intro inside
        rw [(leaves inside).1] at unaligned
        cases unaligned
      exact ⟨⟨counted.flagged, counted.arrived, counted.waiting,
        fun inside => absurd inside idle⟩, rfl⟩
    · have playing := @counted_playingAgain
        ({ player with
          seekContinousBatchNo := batchNo
          draggingPlayerAgent := false }.syncSeek player.lastSeekContinousPos)
        counted.flagged counted.arrived waiting
      have resumed := counted_resumed playing.1 pipelineResume
      exact ⟨resumed.1, resumed.2.trans playing.2⟩

theorem counted_stop (idle : player.inEosPlayingSeekContinuous = false) :
    Counted player.stop ∧ player.stop.completions = player.completions := by
  have released : Counted player.released := by
    apply counted_of_unflagged
    · intro item member
      exact (mem_unflagged member).1
    · rfl
    · intro inside
      exact absurd (idle.symm.trans inside) Bool.false_ne_true
  have changed := flushedOnly_onStateChanged .stopped player.released
  exact ⟨counted_same released changed, changed.completions⟩

theorem counted_prepareAsync (counted : Counted player) (preparation : Preparation) :
    Counted (player.prepareAsync preparation) ∧
      (player.prepareAsync preparation).completions = player.completions := by
  rw [prepareAsync]
  split
  · exact ⟨counted, rfl⟩
  have preparing := flushedOnly_onStateChanged .preparing
    { player.flush with completeState := [] }
  have emptied : ({ player.flush with
      completeState := [] }.onStateChanged .preparing).arrivedEos = [] := by
    rcases preparing.pass with same | flushed
    · exact same.1
    · exact flushed.2.1
  have linked : Counted
      { { player.flush with completeState := [] }.onStateChanged .preparing with
        completeState := preparation.linked.map fun name => (name, false)
        audioSink := if preparation.audioSink then some {} else none
        videoDecoder := preparation.videoDecoder
        durationMs := preparation.durationMs } := by
    refine counted_of_unflagged ?_ emptied ?_
    · intro item member
      rcases List.mem_map.mp member with ⟨name, _, rfl⟩
      rfl
    · intro inside
      exact preparing.dragging.trans (counted.dragging (preparing.inEos.symm.trans inside))
  have completions := preparing.completions
  dsimp only
  split
  · have ready := flushedOnly_onStateChanged .ready
      { { player.flush with completeState := [] }.onStateChanged .preparing with
        completeState := preparation.linked.map fun name => (name, false)
        audioSink := if preparation.audioSink then some {} else none
        videoDecoder := preparation.videoDecoder
        durationMs := preparation.durationMs }
    exact ⟨counted_same linked ready, ready.completions.trans completions⟩
  · exact ⟨linked, completions⟩

theorem flushedOnly_freeze (demuxerFreeze : Status) (player : HiPlayerImpl) :
    FlushedOnly False player (player.freeze answers demuxerFreeze).2.2 := by
  have cached := flushedOnly_cacheBuffer answers player.stopReports
  have frozen : FlushedOnly False player
      (({ player.stopReports.cacheBuffer answers with
        demuxerFrozen := decide (demuxerFreeze = Status.ok)
        syncRunning := false }.pauseSourceDownload).setSinkFrozen true) :=
    ⟨cached.completeState, cached.inEos, cached.dragging, cached.completions, cached.pass⟩
  rw [freeze]
  split
  · exact ⟨rfl, rfl, rfl, rfl, .inl ⟨rfl, rfl⟩⟩
  split
  · exact ⟨rfl, rfl, rfl, rfl, .inl ⟨rfl, rfl⟩⟩
  · split
    · exact frozen.trans (flushedOnly_updateStateNoLock _ _ _)
    · exact frozen.trans (flushedOnly_updateStateNoLock _ _ _)

theorem flushedOnly_unFreeze (demuxerUnFreeze : Status) (player : HiPlayerImpl) :
    FlushedOnly (player.isForzenSeekRecv = true) player
      (player.unFreeze time meets demuxerUnFreeze).2 := by
  rw [unFreeze]
  split
  · by_cases received : player.isForzenSeekRecv = true
    · simp only [setSinkFrozen, received, if_true]
      exact ⟨rfl, rfl, rfl, rfl, .inr ⟨trivial, rfl, rfl⟩⟩
    · simp only [setSinkFrozen, received]
      exact ⟨rfl, rfl, rfl, rfl, .inl ⟨rfl, rfl⟩⟩
  · have sought : FlushedOnly (player.isForzenSeekRecv = true) player
        (if player.isForzenSeekRecv then
          { (player.seekWith time meets player.frozenSeekTime player.frozenSeekMode true
              true).2 with isForzenSeekRecv := false }
        else player) := by
      split
      · rename_i received
        have sought := (flushedOnly_anySeek time meets player.frozenSeekTime
          player.frozenSeekMode true true player).mono fun _ => received
        exact ⟨sought.completeState, sought.inEos, sought.dragging, sought.completions, sought.pass⟩
      · exact (FlushedOnly.refl player).any _
    dsimp only
    generalize (if player.isForzenSeekRecv then
        { (player.seekWith time meets player.frozenSeekTime player.frozenSeekMode true
            true).2 with isForzenSeekRecv := false }
      else player) = reached at sought ⊢
    have thawed : FlushedOnly (player.isForzenSeekRecv = true) player
        { (reached.setSinkFrozen false).startReports with
          syncRunning := true
          demuxerFrozen := reached.demuxerFrozen && decide (demuxerUnFreeze ≠ Status.ok) } :=
      ⟨sought.completeState, sought.inEos, sought.dragging, sought.completions, sought.pass⟩
    split
    · exact thawed.trans ((flushedOnly_updateStateNoLock _ _ _).any _)
    · exact thawed.trans ((flushedOnly_updateStateNoLock _ _ _).any _)

theorem flushedOnly_seek (mode : PlayerSeekMode) (player : HiPlayerImpl) :
    FlushedOnly ((player.isInValidSeekTime mSeconds).1 = false ∧
      player.SeekFlushes time meets mSeconds) player (player.seek time meets mSeconds mode).2 := by
  have checked : FlushedOnly False player (player.isInValidSeekTime mSeconds).2 ∧
      ((player.isInValidSeekTime mSeconds).2.SeekFlushes time meets mSeconds ↔
        player.SeekFlushes time meets mSeconds) := by
    rw [isInValidSeekTime]
    split
    · exact ⟨.refl player, Iff.rfl⟩
    split
    · split
      · exact ⟨⟨rfl, rfl, rfl, rfl, .inl ⟨rfl, rfl⟩⟩, Iff.rfl⟩
      · exact ⟨.refl player, Iff.rfl⟩
    · exact ⟨.refl player, Iff.rfl⟩
  rw [seek]
  split
  · exact ((checked.1.trans (flushedOnly_onStateChanged .error _)).trans
      (flushedOnly_onInfo _ (fun looping => EngineReport.noConfusion) _)).any _
  rename_i accepted
  have sought := flushedOnly_playerSeek time meets mSeconds mode true
    (player.isInValidSeekTime mSeconds).2
  rw [checked.2] at sought
  exact (checked.1.any _).trans (sought.mono fun flushes => ⟨by simpa using accepted, flushes⟩)

theorem clean_next (counted : Counted player) (call : EngineCall) (clean : player.Clean time call) :
    Counted (player.next time call) ∧ player.ExactStep time call := by
  have both : Counted (player.next time call) ∧
      ((player.next time call).completions = player.completions ∨
        (player.next time call).completions = player.completions + 1 ∧
          (player.next time call).AllArrived ∧ player.passCompleted = false) := by
    cases call with
    | endOfStream srcFilter => exact endOfStream_spec counted srcFilter clean.2
    | seek meets mSeconds mode =>
      have sought : FlushedOnly ((player.isInValidSeekTime mSeconds).1 = false ∧
          player.SeekFlushes time meets mSeconds) player
          (player.seek time meets mSeconds mode).2 :=
        flushedOnly_seek time meets mSeconds mode player
      exact ⟨counted_of_flushed sought (fun flushes => clean flushes.1 flushes.2) counted,
        .inl sought.completions⟩
    | playSeek meets mSeconds mode =>
      have sought := flushedOnly_playerSeek time meets mSeconds mode false
        { player with isStreaming := true }
      have sought : FlushedOnly (player.SeekFlushes time meets mSeconds) player
          ({ player with isStreaming := true }.seekWith time meets mSeconds mode false false).2 :=
        ⟨sought.completeState, sought.inEos, sought.dragging, sought.completions, sought.pass⟩
      exact ⟨counted_of_flushed sought clean counted, .inl sought.completions⟩
    | seekContinous mSeconds batchNo answers =>
      have kept := counted_seekContinous counted mSeconds batchNo answers
      exact ⟨kept.1, .inl kept.2⟩
    | exitSeekContinous align batchNo pipelineResume =>
      have kept := counted_exitSeekContinous counted time align batchNo pipelineResume clean
      exact ⟨kept.1, .inl kept.2⟩
    | freeze answers demuxerFreeze =>
      have same := flushedOnly_freeze answers demuxerFreeze player
      exact ⟨counted_same counted same, .inl same.completions⟩
    | unFreeze meets demuxerUnFreeze =>
      have flushed := flushedOnly_unFreeze time meets demuxerUnFreeze player
      exact ⟨counted_of_flushed flushed clean counted, .inl flushed.completions⟩
    | setLooping loop =>
      exact ⟨⟨counted.flagged, counted.arrived, counted.waiting, counted.dragging⟩, .inl rfl⟩
    | stop =>
      have kept := counted_stop clean
      exact ⟨kept.1, .inl kept.2⟩
    | prepareAsync preparation =>
      have kept := counted_prepareAsync counted preparation
      exact ⟨kept.1, .inl kept.2⟩
    | changesState state =>
      have same := flushedOnly_onStateChanged state player
      exact ⟨counted_same counted same, .inl same.completions⟩
  exact ⟨both.1, both.2, noneOwed_of_counted both.1⟩

/-- Seconds are converted, whatever the number. -/
def freeTime : TimeConversion where
  us2HstTime us := some (us * 1000)
  hstTime2Ms hst := hst.tdiv 1000000

def sourceSet : HiPlayerImpl where
  pipelineStates := .initialized

def playMovie : List EngineCall :=
  [.prepareAsync { linked := ["AudioSink", "VideoSink"], durationMs := 60000 },
    .changesState .playing]

end HiPlayerImpl

end PlayerFramework.HiPlayer
