import PlayerFramework.DownloadedCache.PlayStrategyRoundTrip

/-!
A cut buffer is read to its end without an error: what is missing is read as zero.
-/

namespace PlayerFramework.DownloadedCache.PlayStrategySerializer

open Cursor Steady

theorem readUint32_steady : Steady readUint32 := clamped_steady 4 uint32OfBytes 0

theorem readInt32_steady : Steady readInt32 := clamped_steady 4 _ 0

theorem readDouble_steady : Steady readDouble := clamped_steady 8 uint64OfBytes 0

theorem readBool_steady : Steady readBool := clamped_steady 1 _ false

theorem checkOffset_steady : Steady checkOffset where
  tracks := by
    intro input cut offset next value within start read
    rw [checkOffset, if_pos start] at read
    obtain ⟨_, rfl⟩ := Prod.mk.inj (Option.some.inj read)
    have inside : min offset cut ≤ (input.take cut).length := by
      rw [List.length_take]
      omega
    refine ⟨Nat.le_refl _, start, (), ?_, fun _ => rfl⟩
    rw [checkOffset, if_pos inside]
  atEnd := by
    intro input
    refine ⟨(), ?_⟩
    rw [checkOffset, if_pos (Nat.le_refl _)]

theorem readString_steady : Steady readString := by
  refine bind readUint32_steady ?_
  intro len
  by_cases zero : len = 0
  · simp only [if_pos zero]
    exact steady_pure []
  · simp only [if_neg zero]
    exact clamped_steady len.toNat id []

theorem readStrings_steady (count : Nat) : Steady (readStrings count) := by
  induction count with
  | zero => exact steady_pure []
  | succ count ih =>
    refine bind readString_steady ?_
    intro item
    refine bind ih ?_
    intro rest
    exact steady_pure (item :: rest)

theorem readStringList_atEnd : AtEnd readStringList := by
  intro input
  have missing : readUint32 input input.length = some (0, input.length) := by
    rw [readUint32, clamped, if_pos (by omega)]
  refine ⟨[], ?_⟩
  change (readUint32 input input.length).bind _ = _
  rw [missing]
  rfl

theorem readUint32_cut {input : List UInt8} {cut offset next : Nat} {value : UInt32}
    (within : cut ≤ input.length) (read : readUint32 input offset = some (value, next))
    (beyond : cut < next) : readUint32 (input.take cut) (min offset cut) = some (0, cut) := by
  have length : (input.take cut).length = cut := by
    rw [List.length_take]
    omega
  have short : cut < min offset cut + 4 := by
    unfold readUint32 clamped at read
    split at read
    · omega
    · obtain ⟨_, rfl⟩ := Prod.mk.inj (Option.some.inj read)
      omega
  rw [readUint32, clamped, length, if_pos short]

theorem readStringList_tracks : Tracks readStringList := by
  intro input cut offset next value within start read
  obtain ⟨⟨count, middle⟩, first, second⟩ := Option.bind_eq_some_iff.mp read
  have few : ¬ maxMimeCount < count.toNat := by
    intro many
    simp only [if_pos many] at second
    cases second
  simp only [if_neg few] at second
  obtain ⟨forward, reached, short, cutFirst, same⟩ :=
    readUint32_steady.tracks input cut offset middle count within start first
  obtain ⟨onward, bounded, items, cutSecond, sameItems⟩ :=
    (readStrings_steady count.toNat).tracks input cut middle next value within reached second
  refine ⟨Nat.le_trans forward onward, bounded, ?_⟩
  change ∃ short, (readUint32 (input.take cut) (min offset cut)).bind (fun step =>
    (if maxMimeCount < step.1.toNat then failure
      else readStrings step.1.toNat (input.take cut)) step.2) = _ ∧ _
  by_cases inside : middle ≤ cut
  · rw [cutFirst, same inside]
    simp only [Option.bind_some, if_neg few]
    exact ⟨items, cutSecond, sameItems⟩
  · have there : min next cut = cut := by omega
    rw [readUint32_cut within first (Nat.not_le.mp inside), there]
    exact ⟨[], rfl, fun fits => by omega⟩

theorem readStringList_steady : Steady readStringList :=
  ⟨readStringList_tracks, readStringList_atEnd⟩

theorem deserializePlayStrategy_steady : Steady deserializePlayStrategy := by
  refine bind readUint32_steady (fun _ => ?_)
  refine bind readUint32_steady (fun _ => ?_)
  refine bind readUint32_steady (fun _ => ?_)
  refine bind readBool_steady (fun _ => ?_)
  refine bind readString_steady (fun _ => ?_)
  refine bind readString_steady (fun _ => ?_)
  refine bind readDouble_steady (fun _ => ?_)
  refine bind readDouble_steady (fun _ => ?_)
  refine bind checkOffset_steady (fun _ => ?_)
  exact steady_pure _

theorem deserializeTrackSelectionFilter_steady : Steady deserializeTrackSelectionFilter := by
  refine bind readInt32_steady (fun _ => ?_)
  refine bind readInt32_steady (fun _ => ?_)
  refine bind readInt32_steady (fun _ => ?_)
  refine bind readInt32_steady (fun _ => ?_)
  refine bind readInt32_steady (fun _ => ?_)
  refine bind readInt32_steady (fun _ => ?_)
  refine bind readInt32_steady (fun _ => ?_)
  refine bind readInt32_steady (fun _ => ?_)
  refine bind checkOffset_steady (fun _ => ?_)
  refine bind readStringList_steady (fun _ => ?_)
  refine bind readInt32_steady (fun _ => ?_)
  refine bind readInt32_steady (fun _ => ?_)
  refine bind readInt32_steady (fun _ => ?_)
  refine bind checkOffset_steady (fun _ => ?_)
  refine bind readStringList_steady (fun _ => ?_)
  refine bind readStringList_steady (fun _ => ?_)
  refine bind readStringList_steady (fun _ => ?_)
  refine bind checkOffset_steady (fun _ => ?_)
  exact steady_pure _

theorem readAll_steady : Steady readAll := by
  refine bind readString_steady (fun _ => ?_)
  refine bind checkOffset_steady (fun _ => ?_)
  refine bind deserializePlayStrategy_steady (fun _ => ?_)
  refine bind deserializeTrackSelectionFilter_steady (fun _ => ?_)
  exact steady_pure _

theorem listed_of_accepted {rootUrl : List UInt8} {strategy : PlayStrategy}
    {filter : TrackSelectionFilter} (accepted : (serialize rootUrl strategy filter).1 = true) :
    Listed filter := by
  intro list member
  by_contra long
  have fails := (serialize_fails_iff rootUrl strategy filter).mpr ⟨list, member, by omega⟩
  rw [accepted] at fails
  cases fails

/-- What is not empty and goes on to a serialized buffer is read as something. -/
theorem deserialize_prefix {rootUrl short : List UInt8} {strategy : PlayStrategy}
    {filter : TrackSelectionFilter} (listed : Listed filter)
    (cut : short <+: (serialize rootUrl strategy filter).2) (nonempty : short ≠ []) :
    ∃ result, deserialize short = some result := by
  have whole := readAll_serialize listed rootUrl strategy
  obtain ⟨_, _, result, read, _⟩ :=
    readAll_steady.tracks _ short.length 0 _ _ cut.length_le (Nat.zero_le _) whole
  rw [← List.prefix_iff_eq_take.mp cut, Nat.zero_min] at read
  refine ⟨result, ?_⟩
  rw [deserialize, if_neg nonempty, read]
  rfl

/-- Of the prefixes of a serialized buffer, only the empty one is rejected. -/
theorem truncation_rejected_iff {rootUrl short : List UInt8} {strategy : PlayStrategy}
    {filter : TrackSelectionFilter} (accepted : (serialize rootUrl strategy filter).1 = true)
    (cut : short <+: (serialize rootUrl strategy filter).2) :
    deserialize short = none ↔ short = [] := by
  constructor
  · intro rejected
    by_contra nonempty
    obtain ⟨result, read⟩ := deserialize_prefix (listed_of_accepted accepted) cut nonempty
    rw [read] at rejected
    cases rejected
  · intro empty
    rw [deserialize, if_pos empty]

theorem two_languages_cut : deserialize [2, 0, 0, 0] = none ↔ ([2, 0, 0, 0] : List UInt8) = [] :=
  @truncation_rejected_iff [104, 116] [2, 0, 0, 0] {} twoLanguages (by decide) (by decide)

/-- Cut behind the length of the root URL, the buffer is read as one without any value. -/
theorem length_alone_accepted : (serialize [104, 116] {} twoLanguages).1 = true ∧
      [2, 0, 0, 0] <+: (serialize [104, 116] {} twoLanguages).2 ∧
      [2, 0, 0, 0] ≠ (serialize [104, 116] {} twoLanguages).2 ∧
      deserialize [2, 0, 0, 0] = some ([], {}, {}) := by
  decide

section Partial

variable (rootUrl : List UInt8) (strategy : PlayStrategy)

/-- The filter without its lists that are too long. -/
def shortened (filter : TrackSelectionFilter) : TrackSelectionFilter :=
  let keep (list : List (List UInt8)) := if list.length ≤ maxMimeCount then list else []
  { filter with
    preferredVideoMimeTypes := keep filter.preferredVideoMimeTypes
    preferredAudioMimeTypes := keep filter.preferredAudioMimeTypes
    preferredAudioLanguages := keep filter.preferredAudioLanguages
    preferredSubtitleLanguages := keep filter.preferredSubtitleLanguages }

variable (filter : TrackSelectionFilter)

theorem shortened_listed : Listed (shortened filter) := by
  have short : ∀ list : List (List UInt8),
      (if list.length ≤ maxMimeCount then list else []).length ≤ maxMimeCount := by
    intro list
    split
    · assumption
    · exact Nat.zero_le _
  intro list member
  simp only [filterLists, shortened, List.mem_cons, List.not_mem_nil, or_false] at member
  rcases member with rfl | rfl | rfl | rfl
  · exact short _
  · exact short _
  · exact short _
  · exact short _

theorem serialize_shortened :
    (serialize rootUrl strategy filter).2 <+:
      (serialize rootUrl strategy (shortened filter)).2 := by
  rw [serialize_eq (shortened_listed filter)]
  simp only [serialize, serializeTrackSelectionFilter, writeString_eq, serializePlayStrategy_eq,
    writeInt32, filterBytes, videoBytes, audioBytes, List.nil_append]
  by_cases video : filter.preferredVideoMimeTypes.length ≤ maxMimeCount
  · simp only [writeStringList_eq video]
    by_cases audio : filter.preferredAudioMimeTypes.length ≤ maxMimeCount
    · simp only [writeStringList_eq audio]
      by_cases languages : filter.preferredAudioLanguages.length ≤ maxMimeCount
      · simp only [writeStringList_eq languages]
        by_cases subtitles : filter.preferredSubtitleLanguages.length ≤ maxMimeCount
        · simp only [writeStringList_eq subtitles, shortened, video, audio, languages, subtitles,
            if_true, List.append_assoc]
          exact List.prefix_refl _
        · simp only [writeStringList_long (Nat.not_le.mp subtitles), shortened, video, audio,
            languages, if_true, List.append_assoc, List.prefix_append_right_inj]
          exact List.prefix_append _ _
      · simp only [writeStringList_long (Nat.not_le.mp languages), shortened, video, audio,
          if_true, List.append_assoc, List.prefix_append_right_inj]
        exact List.prefix_append _ _
    · simp only [writeStringList_long (Nat.not_le.mp audio), shortened, video,
        if_true, List.append_assoc, List.prefix_append_right_inj]
      exact List.prefix_append _ _
  · simp only [writeStringList_long (Nat.not_le.mp video), shortened,
      List.append_assoc, List.prefix_append_right_inj]
    exact List.prefix_append _ _

theorem writeStringList_extends (output : List UInt8) (list : List (List UInt8)) :
    output <+: (writeStringList output list).2 := by
  rw [writeStringList]
  split
  · exact List.prefix_refl output
  · rw [foldl_writeString, writeUint32, List.append_assoc]
    exact List.prefix_append output _

theorem serializeTrackSelectionFilter_extends (output : List UInt8) :
    output <+: (serializeTrackSelectionFilter filter output).2 := by
  unfold serializeTrackSelectionFilter
  simp only
  generalize head : writeInt32 _ filter.minVideoResolution.2 = video
  have begins : output <+: video := by
    rw [← head]
    simp only [writeInt32, List.append_assoc]
    exact List.prefix_append output _
  have first := begins.trans (writeStringList_extends video filter.preferredVideoMimeTypes)
  split
  · rename_i short stops
    rwa [stops] at first
  rename_i long goes
  rw [goes] at first
  generalize middle : writeInt32 _ filter.maxAudioChannels = audio
  have on : long <+: audio := by
    rw [← middle]
    simp only [writeInt32, List.append_assoc]
    exact List.prefix_append long _
  have second := (first.trans on).trans
    (writeStringList_extends audio filter.preferredAudioMimeTypes)
  split
  · rename_i short stops
    rwa [stops] at second
  rename_i longer goes
  rw [goes] at second
  have third := second.trans (writeStringList_extends longer filter.preferredAudioLanguages)
  split
  · rename_i short stops
    rwa [stops] at third
  · rename_i longest goes
    rw [goes] at third
    exact third.trans (writeStringList_extends longest filter.preferredSubtitleLanguages)

theorem serialize_begins : stringBytes rootUrl <+: (serialize rootUrl strategy filter).2 := by
  have written := serializeTrackSelectionFilter_extends filter
    (serializePlayStrategy strategy (writeString [] rootUrl))
  rw [serializePlayStrategy_eq, writeString_eq] at written
  rw [serialize, serializePlayStrategy_eq, writeString_eq]
  exact (List.prefix_append _ _).trans written

theorem deserialize_serialize :
    (∃ result, deserialize (serialize rootUrl strategy filter).2 = some result) ∧
      ∃ offset, readString (serialize rootUrl strategy filter).2 0 =
        some (stored rootUrl, offset) := by
  obtain ⟨rest, begins⟩ := serialize_begins rootUrl strategy filter
  constructor
  · refine deserialize_prefix (shortened_listed filter)
      (serialize_shortened rootUrl strategy filter) ?_
    intro empty
    have length := congrArg List.length begins
    rw [empty] at length
    simp [stringBytes] at length
  · have read := readString_reads rootUrl [] rest
    rw [begins] at read
    exact ⟨_, read⟩

end Partial

end PlayerFramework.DownloadedCache.PlayStrategySerializer
