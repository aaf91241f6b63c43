import Mathlib.Algebra.Group.Int.Defs
import PlayerFramework.HiPlayer.SeekAttempts

/-!
When a seek is answered truthfully: once, with success only after exactly one seek to the
right position, and with the flags of the seek put back.
-/

namespace PlayerFramework.HiPlayer

open Player (PlayerSeekMode)

namespace HiPlayerImpl

def Quiet (player : HiPlayerImpl) : Prop :=
  player.isSeek = false ∧ player.isSeekClosest = false ∧
    ∀ sink ∈ player.audioSink, sink.isTransitent = false ∧ sink.isCancelStart = false

/-- Where the player asked to seek to `mSeconds` has to go. -/
def IsTarget (time : TimeConversion) (meets : SeekMeets) (mSeconds : Int) (player : HiPlayerImpl)
    (target : Int) : Prop :=
  if player.durationMs > 0 then target = max 0 (min mSeconds player.durationMs)
  else ∃ item ∈ meets.ranges, contains time mSeconds item.1 = true ∧
    target = mSeconds - time.hstTime2Ms item.1.start

/-- One seek has been carried out, or recorded in a frozen player. -/
def SoughtOnce (target : Int) (player after : HiPlayerImpl) : Prop :=
  after.seeks = player.seeks ++ [SeekEffect.carriedOut target] ∨
    player.pipelineStates = .frozen ∧ after.seeks = player.seeks ++ [SeekEffect.recorded target]

def Truthful (time : TimeConversion) (meets : SeekMeets) (mSeconds : Int)
    (player : HiPlayerImpl) (result : Status × HiPlayerImpl) : Prop :=
  (∃ extra, result.2.seekDones = player.seekDones ++ [extra] ∧ (result.1 = .ok ∨ extra ≠ -1 →
      ∃ target, player.IsTarget time meets mSeconds target ∧ player.SoughtOnce target result.2)) ∧
  result.2.Quiet

/-- Exactly one seek, granted, after which the sink may start; or a refusal without the seek
agent in a player where no earlier seek has left a flag. -/
def Answerable (time : TimeConversion) (meets : SeekMeets) (mSeconds : Int)
    (mode : PlayerSeekMode) (player : HiPlayerImpl) : Prop :=
  if player.durationMs > 0 then
    let seekPos := max 0 (min mSeconds player.durationMs)
    (player.Grants time meets.answers seekPos mode ∧
        (player.StartsFree ∨ player.TakesClosest time meets.answers seekPos mode)) ∨
      (¬player.Grants time meets.answers seekPos mode ∧
        ¬player.TakesClosest time meets.answers seekPos mode ∧
        player.isSeekClosest = false ∧ player.StartsFree)
  else
    meets.ranges ≠ [] ∧
      ((0 ≤ mSeconds ∧ ∃ item answers,
          meets.ranges.filter (fun item => contains time mSeconds item.1) = [(item, answers)] ∧
          player.Grants time answers (mSeconds - time.hstTime2Ms item.start) mode ∧
          (player.StartsFree ∨
            player.TakesClosest time answers (mSeconds - time.hstTime2Ms item.start) mode)) ∨
        ((mSeconds < 0 ∨ Refused time mSeconds mode player.seeking
            (meets.ranges.filter fun item => contains time mSeconds item.1)) ∧
          player.isSeekClosest = false ∧ player.StartsFree))

variable {player : HiPlayerImpl}

theorem startsFree_seeking (player : HiPlayerImpl) :
    player.seeking.StartsFree ↔ player.StartsFree := by
  rw [StartsFree, StartsFree, seeking, setIsTransitent]
  cases player.audioSink <;> simp

theorem quiet_seekEnded (player : HiPlayerImpl) :
    player.seekEnded.Quiet ↔ player.isSeekClosest = false ∧ player.StartsFree := by
  rw [Quiet, StartsFree, seekEnded, setIsTransitent]
  cases player.audioSink <;> simp

theorem notifyBufferEnd_same (isBuffering : Bool) (player : HiPlayerImpl) :
    (player.notifyBufferEnd isBuffering).seekDones = player.seekDones ∧
      (player.notifyBufferEnd isBuffering).seeks = player.seeks ∧
      (player.notifyBufferEnd isBuffering).audioSink = player.audioSink ∧
      (player.notifyBufferEnd isBuffering).isSeekClosest = false := by
  rw [notifyBufferEnd]
  by_cases marked : player.isSeekClosest = true
  · rw [if_neg (by simp [marked])]
    split
    · exact ⟨rfl, rfl, rfl, rfl⟩
    · exact ⟨(seekDones_onInfo _ _).trans (List.append_nil _), rfl, rfl, rfl⟩
  · rw [if_pos (by simpa using marked)]
    exact ⟨rfl, rfl, rfl, by simpa using marked⟩

theorem notifySeek_answers (isBuffering : Bool) (rtv : Status) (seekPos : Int)
    (free : player.isInterruptNeeded = false) :
    (player.notifySeek isBuffering rtv true seekPos).seekDones =
        player.seekDones ++ [if rtv = .ok then toInt32 seekPos else -1] ∧
      (player.notifySeek isBuffering rtv true seekPos).seeks = player.seeks ∧
      (player.notifySeek isBuffering rtv true seekPos).audioSink = player.audioSink ∧
      ((player.notifySeek isBuffering rtv true seekPos).isSeekClosest = false ↔
        rtv = .ok ∨ player.isSeekClosest = false) := by
  rw [notifySeek]
  by_cases done : rtv = .ok
  · have ended := notifyBufferEnd_same isBuffering player
    simp only [done, ne_eq, not_true_eq_false, if_false, if_true, notifySeekDone, true_or, iff_true]
    split
    · refine ⟨?_, ended.2⟩
      simp [ended.1]
    · refine ⟨?_, ended.2⟩
      simp [ended.1]
  · rcases updateStateNoLock_same .stateError true player with ⟨dones, _, _, same⟩
    have cleared : ¬player.isInterruptNeeded = true := by simp [free]
    simp only [done, ne_eq, not_false_eq_true, if_true, if_neg cleared, if_false, false_or]
    refine ⟨by simp [dones], ?_, ?_, ?_⟩
    · rw [same]
      rfl
    · rw [same]
      rfl
    · rw [same]
      rfl

/-- A seek with these attempts behind it is answered truthfully just when it has gone well
once and the sink may start, or has gone wrong and has left no flag. -/
theorem truthful_iff {time : TimeConversion} {meets : SeekMeets} {mSeconds : Int}
    {sought : Status × HiPlayerImpl} {result : HiPlayerImpl} (isBuffering : Bool) (seekPos : Int)
    (keeps : SeekKeeps player sought.2) (free : player.isInterruptNeeded = false)
    (finished : result = (sought.2.notifySeek isBuffering sought.1 true seekPos).seekEnded) :
    player.Truthful time meets mSeconds (sought.1, result) ↔ (sought.1 = .ok ∧ sought.2.StartsFree ∧
        ∃ target, player.IsTarget time meets mSeconds target ∧ player.SoughtOnce target sought.2) ∨
        (sought.1 ≠ .ok ∧ sought.2.isSeekClosest = false ∧ sought.2.StartsFree) := by
  subst finished
  rcases notifySeek_answers isBuffering sought.1 seekPos
    (keeps.isInterruptNeeded.trans free) with ⟨dones, seeks, sinks, marked⟩
  have quiet := quiet_seekEnded (sought.2.notifySeek isBuffering sought.1 true seekPos)
  rw [marked, StartsFree, sinks] at quiet
  have answered : (sought.2.notifySeek isBuffering sought.1 true seekPos).seekEnded.seekDones =
      player.seekDones ++ [if sought.1 = .ok then toInt32 seekPos else -1] := by
    rw [← keeps.seekDones]
    exact dones
  have soughtOnce : ∀ target, player.SoughtOnce target
      (sought.2.notifySeek isBuffering sought.1 true seekPos).seekEnded ↔
      player.SoughtOnce target sought.2 := by
    intro target
    rw [SoughtOnce, SoughtOnce, ← seeks]
    rfl
  rw [Truthful, answered, quiet]
  simp only [soughtOnce, StartsFree]
  by_cases done : sought.1 = .ok
  · simp [done, and_comm]
  · simp [done]

theorem SeekKeeps.of_seeking {after : HiPlayerImpl} (keeps : SeekKeeps player.seeking after) :
    SeekKeeps player after :=
  ⟨keeps.seekDones, keeps.isInterruptNeeded, keeps.isStreaming⟩

theorem soughtOnce_of_effected {seekPos : Int} {granted closest : Prop}
    {result : Status × HiPlayerImpl}
    (attempt : Attempted player.seeking granted closest (player.seeking.effect seekPos) result)
    (done : result.1 = .ok) : player.SoughtOnce seekPos result.2 := by
  have effected := attempt.effected done
  rw [effect] at effected
  by_cases frozen : player.pipelineStates = .frozen
  · exact .inr ⟨frozen, by simpa [seeking, setIsTransitent, frozen] using effected⟩
  · exact .inl (by simpa [seeking, setIsTransitent, frozen] using effected)

theorem soughtOnce_length {target : Int} {after : HiPlayerImpl}
    (once : player.SoughtOnce target after) : after.seeks.length = player.seeks.length + 1 := by
  rcases once with carried | ⟨_, recorded⟩
  · rw [carried, List.length_append]
    rfl
  · rw [recorded, List.length_append]
    rfl

theorem knownSeek_truthful_iff (time : TimeConversion) (meets : SeekMeets) (mSeconds : Int)
    (mode : PlayerSeekMode) (known : player.durationMs > 0)
    (free : player.isInterruptNeeded = false) :
    player.Truthful time meets mSeconds (player.seekWith time meets mSeconds mode true false) ↔
      player.Answerable time meets mSeconds mode := by
  have attempt := @handleSeek_attempted player.seeking time meets.answers
    (max 0 (min mSeconds player.durationMs)) mode free
  have keeps : SeekKeeps player (player.seeking.handleSeek time meets.answers
      (max 0 (min mSeconds player.durationMs)) mode false).2 := attempt.keeps.of_seeking
  have granted : ∀ seekPos, player.seeking.Grants time meets.answers seekPos mode ↔
      player.Grants time meets.answers seekPos mode := fun _ => Iff.rfl
  have closest : ∀ seekPos, player.seeking.TakesClosest time meets.answers seekPos mode ↔
      player.TakesClosest time meets.answers seekPos mode := fun _ => Iff.rfl
  have marked : player.seeking.isSeekClosest = player.isSeekClosest := rfl
  rw [seekWith, if_pos known, Answerable, if_pos known,
    truthful_iff meets.isBuffering _ keeps free rfl, ne_eq, attempt.freed, attempt.marked,
    startsFree_seeking, attempt.answered, granted, closest, marked]
  constructor
  · rintro (⟨grants, starts, _⟩ | ⟨refused, ⟨unmarked, demuxer⟩, starts⟩)
    · exact .inl ⟨grants, starts⟩
    · exact .inr ⟨refused, demuxer, unmarked, starts.resolve_right demuxer⟩
  · rintro (⟨grants, starts⟩ | ⟨refused, demuxer, unmarked, starts⟩)
    · refine .inl ⟨grants, starts, max 0 (min mSeconds player.durationMs), ?_, ?_⟩
      · rw [IsTarget, if_pos known]
      · exact soughtOnce_of_effected attempt (attempt.answered.mpr grants)
    · exact .inr ⟨refused, ⟨unmarked, demuxer⟩, .inl starts⟩

/-- The loop over the ranges ends with one seek just when a single range holds the target and
the engine grants the seek into it. -/
theorem rangesSoughtOnce_iff (time : TimeConversion) (meets : SeekMeets) (mSeconds : Int)
    (mode : PlayerSeekMode) (live : ¬player.durationMs > 0)
    (free : player.isInterruptNeeded = false)
    {ranges : List (SeekRange × SeekAnswers)}
    (holding : ranges = meets.ranges.filter fun item => contains time mSeconds item.1)
    {sought : Status × HiPlayerImpl}
    (reached : seekRanges time mSeconds mode false ranges (.ok, player.seeking) = sought) :
    (sought.1 = .ok ∧ sought.2.StartsFree ∧ ∃ target, player.IsTarget time meets mSeconds target ∧
        player.SoughtOnce target sought.2) ↔
      ∃ item answers, ranges = [(item, answers)] ∧
        player.Grants time answers (mSeconds - time.hstTime2Ms item.start) mode ∧
        (player.StartsFree ∨
          player.TakesClosest time answers (mSeconds - time.hstTime2Ms item.start) mode) := by
  have hold : ∀ item ∈ ranges, contains time mSeconds item.1 = true := by
    intro item member
    rw [holding] at member
    exact (List.mem_filter.mp member).2
  have all := @seekRanges_sought player.seeking time mSeconds mode _ hold free
  rw [reached] at all
  have single : ∀ item answers, ranges = [(item, answers)] → Attempted player.seeking
        (player.Grants time answers (mSeconds - time.hstTime2Ms item.start) mode)
        (player.TakesClosest time answers (mSeconds - time.hstTime2Ms item.start) mode)
        (player.seeking.effect (mSeconds - time.hstTime2Ms item.start)) sought := by
    intro item answers one
    have attempt := @handleSeek_attempted player.seeking time answers
      (mSeconds - time.hstTime2Ms item.start) mode free
    rw [one, seekRanges, if_pos ⟨rfl, hold (item, answers) (by simp [one])⟩, seekRanges] at reached
    rw [← reached]
    exact attempt
  constructor
  · rintro ⟨done, starts, target, _, once⟩
    have count := all.counted done
    rw [soughtOnce_length once] at count
    have one : ranges.length = 1 := Nat.add_left_cancel count.symm
    rcases List.length_eq_one_iff.mp one with ⟨⟨item, answers⟩, one⟩
    have attempt := single item answers one
    have starts := attempt.freed.mp starts
    rw [startsFree_seeking] at starts
    exact ⟨item, answers, one, attempt.answered.mp done, starts⟩
  · rintro ⟨item, answers, one, grants, starts⟩
    have attempt := single item answers one
    have done := attempt.answered.mpr grants
    rw [← startsFree_seeking] at starts
    refine ⟨done, attempt.freed.mpr starts, mSeconds - time.hstTime2Ms item.start, ?_,
      soughtOnce_of_effected attempt done⟩
    have member : (item, answers) ∈ ranges := by simp [one]
    rw [IsTarget, if_neg live]
    rw [holding] at member
    exact ⟨(item, answers), (List.mem_filter.mp member).1, (List.mem_filter.mp member).2, rfl⟩

theorem liveSeek_truthful_iff (time : TimeConversion) (meets : SeekMeets) (mSeconds : Int)
    (mode : PlayerSeekMode) (live : ¬player.durationMs > 0)
    (free : player.isInterruptNeeded = false) :
    player.Truthful time meets mSeconds (player.liveSeek time meets mSeconds mode true false) ↔
      player.Answerable time meets mSeconds mode := by
  rw [liveSeek, Answerable, if_neg live]
  by_cases none : meets.ranges = []
  · rw [if_pos (by simp [none])]
    refine iff_of_false ?_ fun answerable => answerable.1 none
    intro truthful
    exact Bool.noConfusion truthful.2.1
  · rw [if_neg (by simpa using none)]
    -- `isLiveSeek` does not matter here.
    have either : ∀ (later : Prop) [Decidable later] (status : Status) (ended : HiPlayerImpl),
        player.Truthful time meets mSeconds
            (if later then (status, { ended with isLiveSeek := true }) else (status, ended)) ↔
          player.Truthful time meets mSeconds (status, ended) := by
      intro later _ status ended
      split <;> exact Iff.rfl
    rw [either]
    by_cases negative : mSeconds < 0
    · have failed : (if mSeconds ≥ 0 then Status.ok else .errorInvalidParameter) =
          .errorInvalidParameter := if_neg (by omega)
      rw [failed, seekRanges_failed time mSeconds mode meets.ranges (by simp)]
      rw [@truthful_iff player time meets mSeconds (.errorInvalidParameter, player.seeking) _
        meets.isBuffering mSeconds ⟨rfl, rfl, rfl⟩ free rfl]
      have unmarked : player.seeking.isSeekClosest = player.isSeekClosest := rfl
      have outside : ¬0 ≤ mSeconds := by omega
      simp [startsFree_seeking, unmarked, none, negative, outside]
    · have begins : (if mSeconds ≥ 0 then Status.ok else .errorInvalidParameter) = .ok :=
        if_pos (by omega)
      rw [begins, seekRanges_filter]
      have hold : ∀ item ∈ meets.ranges.filter fun item => contains time mSeconds item.1,
          contains time mSeconds item.1 = true := fun item member => (List.mem_filter.mp member).2
      have all := @seekRanges_sought player.seeking time mSeconds mode _ hold free
      have unmarked : player.seeking.isSeekClosest = player.isSeekClosest := rfl
      rw [truthful_iff meets.isBuffering mSeconds all.keeps.of_seeking free rfl, all.refused,
        rangesSoughtOnce_iff time meets mSeconds mode live free rfl rfl, startsFree_seeking,
        unmarked]
      have inside : 0 ≤ mSeconds := by omega
      simp [none, inside, negative]

theorem seekWith_truthful_iff (time : TimeConversion) (meets : SeekMeets) (mSeconds : Int)
    (mode : PlayerSeekMode) (free : player.isInterruptNeeded = false) :
    player.Truthful time meets mSeconds (player.seekWith time meets mSeconds mode true false) ↔
      player.Answerable time meets mSeconds mode := by
  by_cases known : player.durationMs > 0
  · exact knownSeek_truthful_iff time meets mSeconds mode known free
  · rw [seekWith, if_neg known]
    exact liveSeek_truthful_iff time meets mSeconds mode known free

/-- A seek that the play range accepts and nothing interrupts is answered truthfully just when
the engine makes it answerable. -/
theorem seek_truthful_iff (time : TimeConversion) (meets : SeekMeets) (mSeconds : Int)
    (mode : PlayerSeekMode) (player : HiPlayerImpl)
    (accepted : (player.isInValidSeekTime mSeconds).1 = false)
    (free : player.isInterruptNeeded = false) :
    player.Truthful time meets mSeconds (player.seek time meets mSeconds mode) ↔
      (player.isInValidSeekTime mSeconds).2.Answerable time meets mSeconds mode := by
  rw [seek]
  simp only [accepted, Bool.false_eq_true, if_false]
  rw [isInValidSeekTime]
  split
  · exact seekWith_truthful_iff time meets mSeconds mode free
  split
  · split
    · exact @seekWith_truthful_iff
        { player with endTimeWithMode := playRangeDefaultValue } time meets mSeconds mode free
    · exact seekWith_truthful_iff time meets mSeconds mode free
  · exact seekWith_truthful_iff time meets mSeconds mode free

/-- Milliseconds to microseconds, and nanoseconds to milliseconds. -/
def plainTime : TimeConversion where
  us2HstTime us := if -2 ^ 63 ≤ us * 1000 ∧ us * 1000 < 2 ^ 63 then some (us * 1000) else none
  hstTime2Ms hst := hst.tdiv 1000000

def playingMovie : HiPlayerImpl where
  pipelineStates := .started
  curState := .playing
  durationMs := 60000
  audioSink := some {}

def playingLive : HiPlayerImpl where
  pipelineStates := .started
  curState := .playing
  durationMs := 0
  audioSink := some {}

theorem movie_seek_truthful : playingMovie.Truthful plainTime {} 70000
      (playingMovie.seek plainTime {} 70000 .previousSync) := by
  refine (seek_truthful_iff plainTime {} 70000 .previousSync playingMovie (by decide) rfl).mpr ?_
  refine .inl ⟨?_, .inl ?_⟩
  · exact ⟨by decide, .inl rfl⟩
  · rw [StartsFree]
    decide

/-- A live source without ranges is never answered, a target outside all ranges is answered with
success, and a refused seek through the agent leaves its mark. -/
theorem seeks_untruthful : ((playingLive.seek plainTime {} 5000 .closest).2.seekDones = [] ∧
        (playingLive.seek plainTime {} 5000 .closest).2.isSeek = true) ∧
      ((playingLive.seek plainTime { ranges := [(⟨9000000000, 20000000000⟩, {})] } 5000
            .closest).2.seekDones = [5000] ∧
        (playingLive.seek plainTime { ranges := [(⟨9000000000, 20000000000⟩, {})] } 5000
            .closest).2.seeks = []) ∧
      (playingMovie.seek plainTime { answers := { closestSeekTo := .error 1 } } 5000
          .closest).2.isSeekClosest = true ∧
      ¬∀ (time : TimeConversion) (meets : SeekMeets) (mSeconds : Int) (mode : PlayerSeekMode)
        (player : HiPlayerImpl), (player.isInValidSeekTime mSeconds).1 = false →
        player.isInterruptNeeded = false →
        player.Truthful time meets mSeconds (player.seek time meets mSeconds mode) := by
  refine ⟨by decide +kernel, by decide +kernel, by decide +kernel, ?_⟩
  intro always
  have quiet := (always plainTime {} 5000 .closest playingLive (by decide) rfl).2.1
  revert quiet
  decide +kernel

end HiPlayerImpl

end PlayerFramework.HiPlayer
