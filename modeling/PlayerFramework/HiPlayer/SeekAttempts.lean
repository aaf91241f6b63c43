import PlayerFramework.HiPlayer.Seek

/-!
What comes of the attempts of a seek: whether the engine grants them, what they do to the
flags, and how many of them there are.
-/

namespace PlayerFramework.HiPlayer

open Player (PlayerSeekMode)

namespace HiPlayerImpl

def seekDones (player : HiPlayerImpl) : List Int :=
  player.reports.filterMap fun report =>
    match report with
    | .seekDone extra => some extra
    | _ => none

/-- No start of the audio sink is cancelled. -/
def StartsFree (player : HiPlayerImpl) : Prop :=
  ∀ sink ∈ player.audioSink, sink.isCancelStart = false

def TakesClosest (time : TimeConversion) (answers : SeekAnswers) (seekPos : Int)
    (mode : PlayerSeekMode) (player : HiPlayerImpl) : Prop :=
  player.pipelineStates ∈
      [PipelineState.started, .paused, .playbackComplete, .prepared] ∧
    (time.us2HstTime seekPos).isSome ∧ mode = .closest ∧ player.needSeekClosest answers = true

def AgentGrants (answers : SeekAnswers) : Prop :=
  answers.closestSeekTo = .ok ∧ answers.producers = true ∧
    (answers.arrived = true ∨ answers.closestSeekAgain = .ok)

def DemuxerGrants (answers : SeekAnswers) (mode : PlayerSeekMode) : Prop :=
  answers.seekTo = .ok ∨
    (mode = .nextSync ∨ mode = .closest) ∧ answers.seekToPrevious = .ok

def PrerollGrants (answers : SeekAnswers) : Prop :=
  answers.isRenderNextVideoFrameSupported = true → answers.isVideoEos = false →
    answers.preroll = .ok

def SeekGranted (time : TimeConversion) (answers : SeekAnswers) (seekPos : Int)
    (mode : PlayerSeekMode) (player : HiPlayerImpl) : Prop :=
  (time.us2HstTime seekPos).isSome ∧
    if mode = .closest ∧ player.needSeekClosest answers = true then AgentGrants answers
    else DemuxerGrants answers mode

/-- The engine grants a seek in the state the player is in. -/
def Grants (time : TimeConversion) (answers : SeekAnswers) (seekPos : Int)
    (mode : PlayerSeekMode) (player : HiPlayerImpl) : Prop :=
  match player.pipelineStates with
  | .started => player.SeekGranted time answers seekPos mode
  | .paused | .prepared => player.SeekGranted time answers seekPos mode ∧ PrerollGrants answers
  | .playbackComplete =>
    player.SeekGranted time answers seekPos mode ∧
      (player.isStreaming = true ∨ PrerollGrants answers)
  | .frozen => True
  | _ => False

/-- One of the seeks into the ranges is refused, and none up to it goes through the seek
agent. -/
def Refused (time : TimeConversion) (mSeconds : Int) (mode : PlayerSeekMode) :
    HiPlayerImpl → List (SeekRange × SeekAnswers) → Prop
  | _, [] => False
  | player, (item, answers) :: rest =>
    let seekPos := mSeconds - time.hstTime2Ms item.start
    ¬player.TakesClosest time answers seekPos mode ∧
      (¬player.Grants time answers seekPos mode ∨
        Refused time mSeconds mode (player.handleSeek time answers seekPos mode false).2 rest)

/-- What a seek leaves alone until it is answered. -/
structure SeekKeeps (before after : HiPlayerImpl) : Prop where
  seekDones : after.seekDones = before.seekDones
  isInterruptNeeded : after.isInterruptNeeded = before.isInterruptNeeded
  isStreaming : after.isStreaming = before.isStreaming

theorem SeekKeeps.trans {first second third : HiPlayerImpl} (left : SeekKeeps first second)
    (right : SeekKeeps second third) : SeekKeeps first third where
  seekDones := right.seekDones.trans left.seekDones
  isInterruptNeeded := right.isInterruptNeeded.trans left.isInterruptNeeded
  isStreaming := right.isStreaming.trans left.isStreaming

structure Attempted (before : HiPlayerImpl) (granted closest : Prop) (effect : SeekEffect)
    (result : Status × HiPlayerImpl) : Prop where
  answered : result.1 = .ok ↔ granted
  effected : result.1 = .ok → result.2.seeks = before.seeks ++ [effect]
  marked : result.2.isSeekClosest = false ↔ before.isSeekClosest = false ∧ ¬closest
  freed : result.2.StartsFree ↔ before.StartsFree ∨ closest
  keeps : SeekKeeps before result.2

variable {player : HiPlayerImpl}

@[simp] theorem seekDones_onInfo (report : EngineReport) (player : HiPlayerImpl) :
    (player.onInfo report).seekDones =
      player.seekDones ++ [report].filterMap fun report =>
        match report with
        | .seekDone extra => some extra
        | _ => none := by
  rw [seekDones, seekDones, onInfo, List.filterMap_append]

theorem updateStateNoLock_same (newState : PipelineState) (notifyUpward : Bool)
    (player : HiPlayerImpl) :
    (player.updateStateNoLock newState notifyUpward).seekDones = player.seekDones ∧
      ∃ state reports, player.updateStateNoLock newState notifyUpward =
        { player with
          pipelineStates := state
          reports := reports } := by
  rw [updateStateNoLock]
  split
  · exact ⟨rfl, _, _, rfl⟩
  split
  · exact ⟨rfl, _, _, rfl⟩
  · constructor
    · rw [seekDones_onInfo]
      exact List.append_nil _
    · exact ⟨_, _, rfl⟩

theorem onStateChanged_same (state : PlayerStateId) (player : HiPlayerImpl) :
    (player.onStateChanged state).seekDones = player.seekDones ∧
      ∃ pipelineStates reports curState isDoCompletedSeek, player.onStateChanged state =
        { player with
          pipelineStates := pipelineStates
          reports := reports
          curState := curState
          isDoCompletedSeek := isDoCompletedSeek } := by
  rw [onStateChanged]
  split
  · rcases updateStateNoLock_same (transStateId2PlayerState state) true
      { player with
        isDoCompletedSeek := false
        curState := state } with ⟨dones, pipelineStates, reports, same⟩
    exact ⟨dones, _, _, _, _, same⟩
  · split
    · exact ⟨rfl, _, _, _, _, rfl⟩
    · rcases updateStateNoLock_same (transStateId2PlayerState state) true
        { player with curState := state } with ⟨dones, pipelineStates, reports, same⟩
      exact ⟨dones, _, _, _, _, same⟩

variable (answers : SeekAnswers)

theorem seekAgentSeek_ok_iff : seekAgentSeek answers false = .ok ↔ AgentGrants answers := by
  rw [seekAgentSeek, AgentGrants]
  by_cases sought : answers.closestSeekTo = .ok <;> cases answers.producers <;>
    cases answers.arrived <;> by_cases again : answers.closestSeekAgain = .ok <;>
      simp [sought, again]

theorem startsFree_setIsCancelStart (player : HiPlayerImpl) :
    (player.setIsCancelStart false).StartsFree := by
  rw [StartsFree, setIsCancelStart]
  cases player.audioSink <;> simp

/-- Two players that agree in what an attempt is about. -/
structure SeekSame (left right : HiPlayerImpl) : Prop where
  seeks : right.seeks = left.seeks
  isSeekClosest : right.isSeekClosest = left.isSeekClosest
  audioSink : right.audioSink = left.audioSink
  currentAudioTrackId : right.currentAudioTrackId = left.currentAudioTrackId
  keeps : SeekKeeps left right

theorem SeekSame.refl (player : HiPlayerImpl) : SeekSame player player :=
  ⟨rfl, rfl, rfl, rfl, rfl, rfl, rfl⟩

/-- The two players are asked for the same seek in the same way. -/
theorem SeekSame.asks {left right : HiPlayerImpl} (same : SeekSame left right)
    (time : TimeConversion) (answers : SeekAnswers) (seekPos : Int) (mode : PlayerSeekMode) :
    (right.SeekGranted time answers seekPos mode = left.SeekGranted time answers seekPos mode) ∧
      right.needSeekClosest answers = left.needSeekClosest answers := by
  have needs : right.needSeekClosest answers = left.needSeekClosest answers := by
    rw [needSeekClosest, needSeekClosest, same.currentAudioTrackId]
  constructor
  · rw [SeekGranted, SeekGranted, needs]
  · exact needs

/-- An attempt with something done before and after it. -/
theorem Attempted.within {before first : HiPlayerImpl} {granted more closest : Prop}
    {effect : SeekEffect} {sought result : Status × HiPlayerImpl}
    (attempt : Attempted first granted closest effect sought) (same : SeekSame before first)
    (later : SeekSame sought.2 result.2)
    (status : result.1 = .ok ↔ sought.1 = .ok ∧ more) :
    Attempted before (granted ∧ more) closest effect result where
  answered := by rw [status, attempt.answered]
  effected := by
    intro done
    rw [later.seeks, attempt.effected (status.mp done).1, same.seeks]
  marked := by rw [later.isSeekClosest, attempt.marked, same.isSeekClosest]
  freed := by
    have sinks := attempt.freed
    rw [StartsFree, StartsFree, same.audioSink] at sinks
    rw [StartsFree, later.audioSink]
    exact sinks
  keeps := (same.keeps.trans attempt.keeps).trans later.keeps

theorem handleSeekClosest_attempted (seekPos : Int) (free : player.isInterruptNeeded = false) :
    Attempted player (AgentGrants answers) True (.carriedOut seekPos)
      (player.handleSeekClosest answers seekPos) := by
  have interrupt : ({ player with isSeekClosest := true }.setIsCancelStart true).isInterruptNeeded
      = false := free
  rw [handleSeekClosest]
  simp only [interrupt, Bool.false_eq_true, if_false]
  by_cases granted : seekAgentSeek answers false = .ok
  · rw [if_pos granted]
    exact
      { answered := seekAgentSeek_ok_iff answers
        effected := fun _ => rfl
        marked := by simp [setIsCancelStart, syncSeek]
        freed := iff_of_true (startsFree_setIsCancelStart _) (.inr trivial)
        keeps := ⟨rfl, rfl, rfl⟩ }
  · rw [if_neg granted]
    exact
      { answered := seekAgentSeek_ok_iff answers
        effected := fun done => absurd done granted
        marked := by simp [setIsCancelStart]
        freed := iff_of_true (startsFree_setIsCancelStart _) (.inr trivial)
        keeps := ⟨rfl, rfl, rfl⟩ }

def AsksAgent (time : TimeConversion) (answers : SeekAnswers) (seekPos : Int)
    (mode : PlayerSeekMode) (player : HiPlayerImpl) : Prop :=
  (time.us2HstTime seekPos).isSome ∧ mode = .closest ∧ player.needSeekClosest answers = true

theorem demuxer_ok_iff (mode : PlayerSeekMode) :
    (if answers.seekTo ≠ .ok ∧ (if mode = .closest then PlayerSeekMode.nextSync else mode) =
        .nextSync then answers.seekToPrevious else answers.seekTo) = .ok ↔
      DemuxerGrants answers mode := by
  rw [DemuxerGrants]
  by_cases sought : answers.seekTo = .ok <;> cases mode <;> simp [sought]

variable (time : TimeConversion)

theorem doSeek_attempted (answers : SeekAnswers) (seekPos : Int) (mode : PlayerSeekMode)
    (free : player.isInterruptNeeded = false) :
    Attempted player (player.SeekGranted time answers seekPos mode)
      (player.AsksAgent time answers seekPos mode) (.carriedOut seekPos)
      (player.doSeek time answers seekPos mode) := by
  rw [doSeek, SeekGranted, AsksAgent]
  cases time.us2HstTime seekPos with
  | none =>
    exact
      { answered := by simp
        effected := fun done => nomatch done
        marked := by simp
        freed := by simp
        keeps := ⟨rfl, rfl, rfl⟩ }
  | some seekTimeUs =>
    by_cases agent : mode = .closest ∧ player.needSeekClosest answers = true
    · simpa only [agent, and_self, if_true, Option.isSome_some, true_and] using
        handleSeekClosest_attempted answers seekPos free
    simp only [if_neg agent, Option.isSome_some, true_and]
    by_cases granted : (if answers.seekTo ≠ .ok ∧
        (if mode = .closest then PlayerSeekMode.nextSync else mode) = .nextSync then
          answers.seekToPrevious else answers.seekTo) = .ok
    · rw [if_pos granted]
      exact
        { answered := demuxer_ok_iff answers mode
          effected := fun _ => rfl
          marked := by simp [agent, syncSeek]
          freed := by simp only [agent, or_false]; rfl
          keeps := ⟨rfl, rfl, rfl⟩ }
    · rw [if_neg granted]
      exact
        { answered := demuxer_ok_iff answers mode
          effected := fun done => absurd done granted
          marked := by simp [agent]
          freed := by simp [agent]
          keeps := ⟨rfl, rfl, rfl⟩ }

theorem prerolled_ok_iff (rtv : Status) :
    prerolled answers rtv = .ok ↔ rtv = .ok ∧ PrerollGrants answers := by
  rw [prerolled, PrerollGrants]
  by_cases done : rtv = .ok <;> cases answers.isRenderNextVideoFrameSupported <;>
    cases answers.isVideoEos <;> simp [done]

theorem seekSame_cacheBuffer (player : HiPlayerImpl) :
    SeekSame player (player.cacheBuffer answers) := by
  rw [cacheBuffer]
  split
  · rcases updateStateNoLock_same .stateError true player with ⟨dones, _, _, same⟩
    exact
      { seeks := by rw [same]
        isSeekClosest := by rw [same]
        audioSink := by rw [same]
        currentAudioTrackId := by rw [same]
        keeps := ⟨dones, by rw [same], by rw [same]⟩ }
  · exact .refl player

theorem seekSame_completed (player : HiPlayerImpl) :
    SeekSame player
      ({ player.stopReports with isDoCompletedSeek := true }.onStateChanged .pause) := by
  rcases onStateChanged_same .pause { player.stopReports with isDoCompletedSeek := true } with
    ⟨dones, _, _, _, _, same⟩
  exact
    { seeks := by rw [same]; rfl
      isSeekClosest := by rw [same]; rfl
      audioSink := by rw [same]; rfl
      currentAudioTrackId := by rw [same]; rfl
      keeps := ⟨dones, by rw [same]; rfl, by rw [same]; rfl⟩ }

/-- What a granted seek does in the state the player is in. -/
def effect (seekPos : Int) (player : HiPlayerImpl) : SeekEffect :=
  if player.pipelineStates = .frozen then .recorded seekPos else .carriedOut seekPos

theorem stateSeek_attempted (answers : SeekAnswers) (seekPos : Int) (mode : PlayerSeekMode)
    (free : player.isInterruptNeeded = false) {first : HiPlayerImpl} (more : Prop)
    (result : Status × HiPlayerImpl) (same : SeekSame player first)
    (later : SeekSame (first.doSeek time answers seekPos mode).2 result.2)
    (status : result.1 = .ok ↔ (first.doSeek time answers seekPos mode).1 = .ok ∧ more) :
    Attempted player (player.SeekGranted time answers seekPos mode ∧ more)
      (player.AsksAgent time answers seekPos mode) (.carriedOut seekPos) result := by
  have asks := same.asks time answers seekPos mode
  have attempt := doSeek_attempted time answers seekPos mode
    (same.keeps.isInterruptNeeded.trans free)
  rw [AsksAgent, asks.1, asks.2] at attempt
  exact attempt.within same later status

theorem handleSeek_attempted (answers : SeekAnswers) (seekPos : Int) (mode : PlayerSeekMode)
    (free : player.isInterruptNeeded = false) :
    Attempted player (player.Grants time answers seekPos mode)
      (player.TakesClosest time answers seekPos mode) (player.effect seekPos)
      (player.handleSeek time answers seekPos mode false) := by
  have flushed : SeekSame player player.flush := ⟨rfl, rfl, rfl, rfl, rfl, rfl, rfl⟩
  rw [handleSeek, Grants, TakesClosest, effect]
  cases state : player.pipelineStates with
  | started =>
    have cached : SeekSame player (player.cacheBuffer answers).flush := by
      have same := seekSame_cacheBuffer answers player
      exact ⟨same.seeks, same.isSeekClosest, same.audioSink, same.currentAudioTrackId,
        same.keeps.seekDones, same.keeps.isInterruptNeeded, same.keeps.isStreaming⟩
    have sought := stateSeek_attempted time answers seekPos mode free True
      (player.doStartedSeek time answers seekPos mode) cached
      ⟨rfl, rfl, rfl, rfl, rfl, rfl, rfl⟩ (and_iff_left trivial).symm
    simpa [AsksAgent] using sought
  | paused =>
    have sought := stateSeek_attempted time answers seekPos mode free _
      (player.doPausedSeek time answers seekPos mode) flushed
      ⟨rfl, rfl, rfl, rfl, rfl, rfl, rfl⟩ (prerolled_ok_iff answers _)
    simpa [AsksAgent] using sought
  | prepared =>
    have sought := stateSeek_attempted time answers seekPos mode free _
      (player.doPreparedSeek time answers seekPos mode) flushed (.refl _)
      (prerolled_ok_iff answers _)
    simpa [AsksAgent] using sought
  | playbackComplete =>
    have streaming : (player.flush.doSeek time answers seekPos mode).2.isStreaming =
        player.isStreaming :=
      (@doSeek_attempted player.flush time answers seekPos mode free).keeps.isStreaming
    have sought := stateSeek_attempted time answers seekPos mode free
      (player.isStreaming = true ∨ PrerollGrants answers)
      (player.doCompletedSeek time answers seekPos mode) flushed
    rw [doCompletedSeek, streaming] at sought
    rw [doCompletedSeek, streaming]
    by_cases streams : player.isStreaming = true
    · simp only [streams, if_true] at sought ⊢
      simpa [AsksAgent] using
        sought ⟨rfl, rfl, rfl, rfl, rfl, rfl, rfl⟩ (by simp)
    · simp only [if_neg streams] at sought ⊢
      simpa [AsksAgent] using
        sought (seekSame_completed _) (by simp [prerolled_ok_iff, streams])
  | frozen =>
    exact
      { answered := iff_of_true rfl trivial
        effected := fun _ => rfl
        marked := by simp [doFrozenSeek]
        freed := by simp [doFrozenSeek, StartsFree]
        keeps := ⟨rfl, rfl, rfl⟩ }
  | _ =>
    exact
      { answered := by simp
        effected := fun done => nomatch done
        marked := by simp
        freed := by simp
        keeps := ⟨rfl, rfl, rfl⟩ }

variable (mSeconds : Int) (mode : PlayerSeekMode)

theorem seekRanges_filter (ranges : List (SeekRange × SeekAnswers))
    (reached : Status × HiPlayerImpl) :
    seekRanges time mSeconds mode false ranges reached =
      seekRanges time mSeconds mode false
        (ranges.filter fun item => contains time mSeconds item.1) reached := by
  induction ranges generalizing reached with
  | nil => rfl
  | cons item rest ih =>
    rcases item with ⟨item, answers⟩
    by_cases holds : contains time mSeconds item = true
    · rw [List.filter_cons, if_pos holds, seekRanges, seekRanges]
      split <;> exact ih _
    · rw [List.filter_cons, if_neg holds, seekRanges, if_neg fun both => holds both.2]
      exact ih _

theorem seekRanges_failed (ranges : List (SeekRange × SeekAnswers))
    {reached : Status × HiPlayerImpl} (failed : reached.1 ≠ .ok) :
    seekRanges time mSeconds mode false ranges reached = reached := by
  induction ranges with
  | nil => rfl
  | cons item rest ih => rw [seekRanges, if_neg fun both => failed both.1, ih]

structure RangesSought (time : TimeConversion) (mSeconds : Int) (mode : PlayerSeekMode)
    (ranges : List (SeekRange × SeekAnswers)) (before : HiPlayerImpl)
    (result : Status × HiPlayerImpl) : Prop where
  counted : result.1 = .ok → result.2.seeks.length = before.seeks.length + ranges.length
  refused : result.1 ≠ .ok ∧ result.2.isSeekClosest = false ∧ result.2.StartsFree ↔
    Refused time mSeconds mode before ranges ∧ before.isSeekClosest = false ∧ before.StartsFree
  keeps : SeekKeeps before result.2

theorem seekRanges_sought {ranges : List (SeekRange × SeekAnswers)}
    (hold : ∀ item ∈ ranges, contains time mSeconds item.1 = true)
    (free : player.isInterruptNeeded = false) :
    RangesSought time mSeconds mode ranges player
      (seekRanges time mSeconds mode false ranges (.ok, player)) := by
  induction ranges generalizing player with
  | nil =>
    exact
      { counted := fun _ => rfl
        refused := by simp [seekRanges, Refused]
        keeps := ⟨rfl, rfl, rfl⟩ }
  | cons item rest ih =>
    rcases item with ⟨item, answers⟩
    have attempt := handleSeek_attempted time answers (mSeconds - time.hstTime2Ms item.start)
      mode free
    rw [seekRanges, if_pos ⟨rfl, hold (item, answers) (List.mem_cons_self ..)⟩]
    have refusal : ∀ first, player.handleSeek time answers
        (mSeconds - time.hstTime2Ms item.start) mode false = first →
        (Refused time mSeconds mode player ((item, answers) :: rest) ↔
          ¬player.TakesClosest time answers (mSeconds - time.hstTime2Ms item.start) mode ∧
            (¬player.Grants time answers (mSeconds - time.hstTime2Ms item.start) mode ∨
              Refused time mSeconds mode first.2 rest)) := by
      rintro _ rfl
      rfl
    generalize reached : player.handleSeek time answers
      (mSeconds - time.hstTime2Ms item.start) mode false = first at attempt ⊢
    by_cases granted : player.Grants time answers (mSeconds - time.hstTime2Ms item.start) mode
    · rcases first with ⟨status, after⟩
      cases attempt.answered.mpr granted
      have later := ih (fun item member => hold item (List.mem_cons_of_mem _ member))
        (attempt.keeps.isInterruptNeeded.trans free)
      exact
        { counted := by
            intro done
            have count := later.counted done
            rw [attempt.effected rfl, List.length_append] at count
            rw [count]
            simp only [List.length_cons, List.length_nil]
            omega
          refused := by
            rw [later.refused, refusal _ reached, attempt.marked, attempt.freed]
            constructor
            · rintro ⟨refused, ⟨unmarked, demuxer⟩, starts⟩
              exact ⟨⟨demuxer, .inr refused⟩, unmarked, starts.resolve_right demuxer⟩
            · rintro ⟨⟨demuxer, refused⟩, unmarked, starts⟩
              exact ⟨refused.resolve_left (not_not.mpr granted), ⟨unmarked, demuxer⟩,
                .inl starts⟩
          keeps := attempt.keeps.trans later.keeps }
    · have failed : first.1 ≠ .ok := fun done => granted (attempt.answered.mp done)
      rw [seekRanges_failed time mSeconds mode rest failed]
      exact
        { counted := fun done => absurd done failed
          refused := by
            rw [attempt.marked, attempt.freed]
            constructor
            · rintro ⟨_, ⟨unmarked, demuxer⟩, starts⟩
              exact ⟨⟨demuxer, .inl granted⟩, unmarked, starts.resolve_right demuxer⟩
            · rintro ⟨⟨demuxer, _⟩, unmarked, starts⟩
              exact ⟨failed, ⟨unmarked, demuxer⟩, .inl starts⟩
          keeps := attempt.keeps }

end HiPlayerImpl

end PlayerFramework.HiPlayer
