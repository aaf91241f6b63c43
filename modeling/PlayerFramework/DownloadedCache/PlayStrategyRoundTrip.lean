import PlayerFramework.DownloadedCache.PlayStrategySerializer

/-!
What the serializer writes, and that the deserializer reads it back.
-/

namespace PlayerFramework.DownloadedCache

open Cursor Reads

@[simp] theorem length_uint32Bytes (value : UInt32) : (uint32Bytes value).length = 4 :=
  length_littleEndian 4 value.toNat

@[simp] theorem length_uint64Bytes (value : UInt64) : (uint64Bytes value).length = 8 :=
  length_littleEndian 8 value.toNat

theorem uint32OfBytes_uint32Bytes (value : UInt32) : uint32OfBytes (uint32Bytes value) = value := by
  have fits : value.toNat < 256 ^ 4 := value.toNat_lt
  rw [uint32OfBytes, uint32Bytes, ofLittleEndian_littleEndian fits, UInt32.ofNat_toNat]

theorem uint64OfBytes_uint64Bytes (value : UInt64) : uint64OfBytes (uint64Bytes value) = value := by
  have fits : value.toNat < 256 ^ 8 := value.toNat_lt
  rw [uint64OfBytes, uint64Bytes, ofLittleEndian_littleEndian fits, UInt64.ofNat_toNat]

namespace PlayStrategySerializer

/-- What is left of a string whose length is cut to 32 bits. -/
def stored (str : List UInt8) : List UInt8 := str.take (UInt32.ofNat str.length).toNat

theorem stored_short {str : List UInt8} (short : str.length < 2 ^ 32) : stored str = str := by
  rw [stored, UInt32.toNat_ofNat_of_lt' short, List.take_length]

theorem length_stored (str : List UInt8) :
    (stored str).length = (UInt32.ofNat str.length).toNat := by
  have cut : (UInt32.ofNat str.length).toNat ≤ str.length := by
    exact Nat.mod_le _ _
  rw [stored, List.length_take, Nat.min_eq_left cut]

def stringBytes (str : List UInt8) : List UInt8 :=
  uint32Bytes (UInt32.ofNat str.length) ++ stored str

def stringListBytes (list : List (List UInt8)) : List UInt8 :=
  uint32Bytes (UInt32.ofNat list.length) ++ list.flatMap stringBytes

theorem writeString_eq (buffer str : List UInt8) :
    writeString buffer str = buffer ++ stringBytes str := by
  unfold writeString writeUint32 stringBytes stored
  by_cases positive : 0 < UInt32.ofNat str.length
  · simp [if_pos positive]
  · have zero : (UInt32.ofNat str.length).toNat = 0 := by
      have bound := UInt32.not_lt.mp positive
      simpa using UInt32.le_iff_toNat_le.mp bound
    simp [zero]

theorem foldl_writeString (list : List (List UInt8)) (buffer : List UInt8) :
    list.foldl writeString buffer = buffer ++ list.flatMap stringBytes := by
  induction list generalizing buffer with
  | nil => simp
  | cons str rest ih =>
    rw [List.foldl_cons, ih, writeString_eq, List.flatMap_cons, List.append_assoc]

variable {list : List (List UInt8)}

theorem writeStringList_eq (short : list.length ≤ maxMimeCount) (output : List UInt8) :
    writeStringList output list = (true, output ++ stringListBytes list) := by
  rw [writeStringList, if_neg (Nat.not_lt.mpr short), foldl_writeString, writeUint32,
    stringListBytes, List.append_assoc]

theorem writeStringList_long (long : maxMimeCount < list.length) (output : List UInt8) :
    writeStringList output list = (false, output) := by
  rw [writeStringList, if_pos long]

def strategyBytes (strategy : PlayStrategy) : List UInt8 :=
  uint32Bytes strategy.width ++ (uint32Bytes strategy.height ++
    (uint32Bytes strategy.duration ++ ([if strategy.preferHDR then 1 else 0] ++
      (stringBytes strategy.audioLanguage ++ (stringBytes strategy.subtitleLanguage ++
        (uint64Bytes strategy.bufferDurationForPlaying ++
          uint64Bytes strategy.thresholdForAutoQuickPlay))))))

def videoBytes (filter : TrackSelectionFilter) : List UInt8 :=
  uint32Bytes filter.maxVideoBitrate.toUInt32 ++ (uint32Bytes filter.minVideoBitrate.toUInt32 ++
    (uint32Bytes filter.maxVideoFrameRate.toUInt32 ++
      (uint32Bytes filter.minVideoFrameRate.toUInt32 ++
        (uint32Bytes filter.maxVideoResolution.1.toUInt32 ++
          (uint32Bytes filter.maxVideoResolution.2.toUInt32 ++
            (uint32Bytes filter.minVideoResolution.1.toUInt32 ++
              uint32Bytes filter.minVideoResolution.2.toUInt32))))))

def audioBytes (filter : TrackSelectionFilter) : List UInt8 :=
  uint32Bytes filter.maxAudioBitrate.toUInt32 ++ (uint32Bytes filter.minAudioBitrate.toUInt32 ++
    uint32Bytes filter.maxAudioChannels.toUInt32)

def filterBytes (filter : TrackSelectionFilter) : List UInt8 :=
  videoBytes filter ++ (stringListBytes filter.preferredVideoMimeTypes ++ (audioBytes filter ++
    (stringListBytes filter.preferredAudioMimeTypes ++
      (stringListBytes filter.preferredAudioLanguages ++
        stringListBytes filter.preferredSubtitleLanguages))))

def filterLists (filter : TrackSelectionFilter) : List (List (List UInt8)) :=
  [filter.preferredVideoMimeTypes, filter.preferredAudioMimeTypes, filter.preferredAudioLanguages,
    filter.preferredSubtitleLanguages]

/-- No list has more elements than the serializer takes. -/
def Listed (filter : TrackSelectionFilter) : Prop :=
  ∀ list ∈ filterLists filter, list.length ≤ maxMimeCount

instance (filter : TrackSelectionFilter) : Decidable (Listed filter) := by
  unfold Listed
  infer_instance

section Lists

variable {filter : TrackSelectionFilter} (listed : Listed filter)

include listed

theorem Listed.videoMimeTypes : filter.preferredVideoMimeTypes.length ≤ maxMimeCount :=
  listed _ (by simp [filterLists])

theorem Listed.audioMimeTypes : filter.preferredAudioMimeTypes.length ≤ maxMimeCount :=
  listed _ (by simp [filterLists])

theorem Listed.audioLanguages : filter.preferredAudioLanguages.length ≤ maxMimeCount :=
  listed _ (by simp [filterLists])

theorem Listed.subtitleLanguages : filter.preferredSubtitleLanguages.length ≤ maxMimeCount :=
  listed _ (by simp [filterLists])

end Lists

theorem serializePlayStrategy_eq (strategy : PlayStrategy) (output : List UInt8) :
    serializePlayStrategy strategy output = output ++ strategyBytes strategy := by
  simp [serializePlayStrategy, strategyBytes, writeUint32, writeBool, writeString_eq, writeDouble]

variable {filter : TrackSelectionFilter}

theorem serializeTrackSelectionFilter_eq (listed : Listed filter) (output : List UInt8) :
    serializeTrackSelectionFilter filter output = (true, output ++ filterBytes filter) := by
  simp [serializeTrackSelectionFilter, writeInt32, writeStringList_eq listed.videoMimeTypes,
    writeStringList_eq listed.audioMimeTypes, writeStringList_eq listed.audioLanguages,
    writeStringList_eq listed.subtitleLanguages, filterBytes, videoBytes, audioBytes]

theorem serialize_eq (listed : Listed filter) (rootUrl : List UInt8) (strategy : PlayStrategy) :
    serialize rootUrl strategy filter =
      (true, stringBytes rootUrl ++ (strategyBytes strategy ++ filterBytes filter)) := by
  simp [serialize, writeString_eq, serializePlayStrategy_eq,
    serializeTrackSelectionFilter_eq listed]

/-- `Serialize` fails exactly on a list that is too long. -/
theorem serialize_fails_iff (rootUrl : List UInt8) (strategy : PlayStrategy)
    (filter : TrackSelectionFilter) :
    (serialize rootUrl strategy filter).1 = false ↔
      ∃ list ∈ filterLists filter, maxMimeCount < list.length := by
  constructor
  · intro fails
    by_contra none
    have listed : Listed filter := by
      intro list member
      by_contra long
      exact none ⟨list, member, by omega⟩
    rw [serialize_eq listed] at fails
    cases fails
  · rintro ⟨list, member, long⟩
    by_contra succeeds
    have some : (serialize rootUrl strategy filter).1 = true := by simpa using succeeds
    unfold serialize serializeTrackSelectionFilter at some
    by_cases video : filter.preferredVideoMimeTypes.length ≤ maxMimeCount
    · simp only [writeStringList_eq video] at some
      by_cases audio : filter.preferredAudioMimeTypes.length ≤ maxMimeCount
      · simp only [writeStringList_eq audio] at some
        by_cases languages : filter.preferredAudioLanguages.length ≤ maxMimeCount
        · simp only [writeStringList_eq languages] at some
          by_cases subtitles : filter.preferredSubtitleLanguages.length ≤ maxMimeCount
          · simp only [filterLists, List.mem_cons, List.not_mem_nil, or_false] at member
            rcases member with rfl | rfl | rfl | rfl
            · omega
            · omega
            · omega
            · omega
          · simp [writeStringList_long (Nat.not_le.mp subtitles)] at some
        · simp [writeStringList_long (Nat.not_le.mp languages)] at some
      · simp [writeStringList_long (Nat.not_le.mp audio)] at some
    · simp [writeStringList_long (Nat.not_le.mp video)] at some

theorem readUint32_reads (value : UInt32) : Reads readUint32 (uint32Bytes value) value := by
  have reads : Reads readUint32 (uint32Bytes value) (uint32OfBytes (uint32Bytes value)) :=
    clamped_reads (length_uint32Bytes value)
  rwa [uint32OfBytes_uint32Bytes] at reads

theorem readInt32_reads (value : Int32) : Reads readInt32 (uint32Bytes value.toUInt32) value := by
  have reads : Reads readInt32 (uint32Bytes value.toUInt32)
      (.ofUInt32 (uint32OfBytes (uint32Bytes value.toUInt32))) :=
    clamped_reads (length_uint32Bytes value.toUInt32)
  rwa [uint32OfBytes_uint32Bytes] at reads

theorem readDouble_reads (value : UInt64) : Reads readDouble (uint64Bytes value) value := by
  have reads : Reads readDouble (uint64Bytes value) (uint64OfBytes (uint64Bytes value)) :=
    clamped_reads (length_uint64Bytes value)
  rwa [uint64OfBytes_uint64Bytes] at reads

theorem readBool_reads (value : Bool) : Reads readBool [if value then 1 else 0] value := by
  have reads : Reads readBool [if value then 1 else 0]
      ([if value then (1 : UInt8) else 0] != [0]) := clamped_reads rfl
  cases value with
  | false | true => exact reads

theorem readString_reads (str : List UInt8) : Reads readString (stringBytes str) (stored str) := by
  refine bind (readUint32_reads _) ?_
  by_cases zero : UInt32.ofNat str.length = 0
  · have nothing : stored str = [] := by rw [stored, zero]; rfl
    simp only [zero, if_true, nothing]
    exact reads_pure []
  · simp only [if_neg zero]
    exact clamped_reads (length_stored str)

theorem readStrings_reads (list : List (List UInt8)) :
    Reads (readStrings list.length) (list.flatMap stringBytes) (list.map stored) := by
  induction list with
  | nil => exact reads_pure []
  | cons str rest ih =>
    have reads : Reads (readStrings (rest.length + 1))
        (stringBytes str ++ (rest.flatMap stringBytes ++ [])) (stored str :: rest.map stored) :=
      (readString_reads str).bind (ih.bind (reads_pure _))
    rw [List.append_nil] at reads
    exact reads

theorem readStringList_reads (short : list.length ≤ maxMimeCount) :
    Reads readStringList (stringListBytes list) (list.map stored) := by
  refine bind (readUint32_reads _) ?_
  have fits : list.length < 2 ^ 32 := by
    unfold maxMimeCount at short
    omega
  have count : (UInt32.ofNat list.length).toNat = list.length := UInt32.toNat_ofNat_of_lt' fits
  simp only [count, if_neg (Nat.not_lt.mpr short)]
  exact readStrings_reads list

theorem checkOffset_reads : Reads checkOffset [] () := by
  intro before after
  have inside : before.length ≤ (before ++ ([] ++ after)).length := by simp
  rw [checkOffset, if_pos inside]
  rfl

def storedStrategy (strategy : PlayStrategy) : PlayStrategy :=
  { strategy with
    audioLanguage := stored strategy.audioLanguage
    subtitleLanguage := stored strategy.subtitleLanguage }

def storedFilter (filter : TrackSelectionFilter) : TrackSelectionFilter :=
  { filter with
    preferredVideoMimeTypes := filter.preferredVideoMimeTypes.map stored
    preferredAudioMimeTypes := filter.preferredAudioMimeTypes.map stored
    preferredAudioLanguages := filter.preferredAudioLanguages.map stored
    preferredSubtitleLanguages := filter.preferredSubtitleLanguages.map stored }

theorem deserializePlayStrategy_reads (strategy : PlayStrategy) :
    Reads deserializePlayStrategy (strategyBytes strategy) (storedStrategy strategy) := by
  have last : uint64Bytes strategy.thresholdForAutoQuickPlay =
      uint64Bytes strategy.thresholdForAutoQuickPlay ++ ([] ++ []) := by simp
  unfold strategyBytes
  rw [last]
  refine bind (readUint32_reads strategy.width) ?_
  refine bind (readUint32_reads strategy.height) ?_
  refine bind (readUint32_reads strategy.duration) ?_
  refine bind (readBool_reads strategy.preferHDR) ?_
  refine bind (readString_reads strategy.audioLanguage) ?_
  refine bind (readString_reads strategy.subtitleLanguage) ?_
  refine bind (readDouble_reads strategy.bufferDurationForPlaying) ?_
  refine bind (readDouble_reads strategy.thresholdForAutoQuickPlay) ?_
  refine bind checkOffset_reads ?_
  exact reads_pure (storedStrategy strategy)

theorem deserializeTrackSelectionFilter_reads (listed : Listed filter) :
    Reads deserializeTrackSelectionFilter (filterBytes filter) (storedFilter filter) := by
  have last : stringListBytes filter.preferredSubtitleLanguages =
      stringListBytes filter.preferredSubtitleLanguages ++ ([] ++ []) := by simp
  have video : stringListBytes filter.preferredVideoMimeTypes =
      [] ++ stringListBytes filter.preferredVideoMimeTypes := rfl
  have audio : stringListBytes filter.preferredAudioMimeTypes =
      [] ++ stringListBytes filter.preferredAudioMimeTypes := rfl
  unfold filterBytes videoBytes audioBytes
  rw [last, video, audio]
  simp only [List.append_assoc]
  refine bind (readInt32_reads filter.maxVideoBitrate) ?_
  refine bind (readInt32_reads filter.minVideoBitrate) ?_
  refine bind (readInt32_reads filter.maxVideoFrameRate) ?_
  refine bind (readInt32_reads filter.minVideoFrameRate) ?_
  refine bind (readInt32_reads filter.maxVideoResolution.1) ?_
  refine bind (readInt32_reads filter.maxVideoResolution.2) ?_
  refine bind (readInt32_reads filter.minVideoResolution.1) ?_
  refine bind (readInt32_reads filter.minVideoResolution.2) ?_
  refine bind checkOffset_reads ?_
  refine bind (readStringList_reads listed.videoMimeTypes) ?_
  refine bind (readInt32_reads filter.maxAudioBitrate) ?_
  refine bind (readInt32_reads filter.minAudioBitrate) ?_
  refine bind (readInt32_reads filter.maxAudioChannels) ?_
  refine bind checkOffset_reads ?_
  refine bind (readStringList_reads listed.audioMimeTypes) ?_
  refine bind (readStringList_reads listed.audioLanguages) ?_
  refine bind (readStringList_reads listed.subtitleLanguages) ?_
  refine bind checkOffset_reads ?_
  exact reads_pure (storedFilter filter)

theorem readAll_reads (listed : Listed filter) (rootUrl : List UInt8) (strategy : PlayStrategy) :
    Reads readAll (stringBytes rootUrl ++ (strategyBytes strategy ++ filterBytes filter))
      (stored rootUrl, storedStrategy strategy, storedFilter filter) := by
  have checked : strategyBytes strategy ++ filterBytes filter =
      [] ++ (strategyBytes strategy ++ (filterBytes filter ++ [])) := by simp
  rw [checked]
  refine bind (readString_reads rootUrl) ?_
  refine bind checkOffset_reads ?_
  refine bind (deserializePlayStrategy_reads strategy) ?_
  refine bind (deserializeTrackSelectionFilter_reads listed) ?_
  exact reads_pure _

theorem readAll_serialize (listed : Listed filter) (rootUrl : List UInt8)
    (strategy : PlayStrategy) :
    readAll (serialize rootUrl strategy filter).2 0 =
      some ((stored rootUrl, storedStrategy strategy, storedFilter filter),
        (serialize rootUrl strategy filter).2.length) := by
  have reads := readAll_reads listed rootUrl strategy [] []
  simpa [serialize_eq listed] using reads

theorem serialize_nonempty (listed : Listed filter) (rootUrl : List UInt8)
    (strategy : PlayStrategy) :
    (serialize rootUrl strategy filter).2 ≠ [] := by
  intro empty
  have length := congrArg List.length empty
  simp [serialize_eq listed, stringBytes] at length

def strings (rootUrl : List UInt8) (strategy : PlayStrategy) (filter : TrackSelectionFilter) :
    List (List UInt8) :=
  rootUrl :: strategy.audioLanguage :: strategy.subtitleLanguage :: (filterLists filter).flatten

theorem map_stored_short (short : ∀ str ∈ list, str.length < 2 ^ 32) : list.map stored = list := by
  calc list.map stored = list.map id :=
      List.map_congr_left fun str member => stored_short (short str member)
    _ = list := List.map_id list

theorem storedStrategy_short {strategy : PlayStrategy}
    (audio : strategy.audioLanguage.length < 2 ^ 32)
    (subtitle : strategy.subtitleLanguage.length < 2 ^ 32) :
    storedStrategy strategy = strategy := by
  rw [storedStrategy, stored_short audio, stored_short subtitle]

theorem storedFilter_short (short : ∀ list ∈ filterLists filter, ∀ str ∈ list,
    str.length < 2 ^ 32) :
    storedFilter filter = filter := by
  rw [storedFilter, map_stored_short (short _ (by simp [filterLists])),
    map_stored_short (short _ (by simp [filterLists])),
    map_stored_short (short _ (by simp [filterLists])),
    map_stored_short (short _ (by simp [filterLists]))]

/-- What is serialized is read back, and only a list that is too long is refused. -/
theorem serializer_round_trip (rootUrl : List UInt8) (strategy : PlayStrategy)
    (filter : TrackSelectionFilter) :
    ((serialize rootUrl strategy filter).1 = false ↔
      ∃ list ∈ filterLists filter, maxMimeCount < list.length) ∧
    (Listed filter → (∀ str ∈ strings rootUrl strategy filter, str.length < 2 ^ 32) →
      (serialize rootUrl strategy filter).1 = true ∧
        deserialize (serialize rootUrl strategy filter).2 = some (rootUrl, strategy, filter)) := by
  refine ⟨serialize_fails_iff rootUrl strategy filter, ?_⟩
  intro listed short
  have root : rootUrl.length < 2 ^ 32 := short _ (by simp [strings])
  have same : storedStrategy strategy = strategy :=
    storedStrategy_short (short _ (by simp [strings])) (short _ (by simp [strings]))
  have sameFilter : storedFilter filter = filter := by
    refine storedFilter_short ?_
    intro list member str inside
    have flat : str ∈ (filterLists filter).flatten := List.mem_flatten.mpr ⟨list, member, inside⟩
    exact short str (by simp [strings, flat])
  refine ⟨by rw [serialize_eq listed], ?_⟩
  rw [deserialize, if_neg (serialize_nonempty listed rootUrl strategy),
    readAll_serialize listed, stored_short root, same, sameFilter]
  rfl

/-- Two languages, one of them without a name. -/
def twoLanguages : TrackSelectionFilter :=
  { maxAudioBitrate := -1, preferredAudioLanguages := [[], [101, 110]] }

theorem two_languages_round_trip :
    (serialize [104, 116] { preferHDR := true } twoLanguages).1 = true ∧
      deserialize (serialize [104, 116] { preferHDR := true } twoLanguages).2 =
        some ([104, 116], { preferHDR := true }, twoLanguages) :=
  (serializer_round_trip [104, 116] { preferHDR := true } twoLanguages).2 (by decide) (by decide)

end PlayStrategySerializer

end PlayerFramework.DownloadedCache
