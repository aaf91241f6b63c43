import PlayerFramework.DoublePrecision

/-!
The mixing of frames whose source may be muted: `Combine` and `MixAudio` of
`audio_data_source_generic.cpp`, `MixAudio` of `audio_data_source.cpp`, and the frames that
`CreateCacheBuffer` of `audio_capturer_wrapper.cpp` makes.
-/

namespace PlayerFramework.ScreenCapture

open DoublePrecision (toDouble truncate toDouble_intCast truncate_intCast)

/-- A `CacheBuffer` as its samples; the last byte of an odd length is left out.  A muted frame
has its length, and no data. -/
structure SampledBuffer where
  length : Nat
  data : Option (List Int16)
  declared : ∀ samples ∈ data, samples.length = length / 2

namespace SampledBuffer

/-- `CreateCacheBuffer` behind the check of the length, and where the copy succeeds. -/
def create (isMute : Bool) (samples : List Int16) : SampledBuffer :=
  if isMute then ⟨2 * samples.length, none, by simp⟩
  else ⟨2 * samples.length, some samples, by simp⟩

def sample? (index : Nat) (buffer : SampledBuffer) : Option Int16 :=
  buffer.data.bind (·[index]?)

end SampledBuffer

/-- The samples that are there, added up. -/
def sumAt (sources : List SampledBuffer) (index : Nat) : Int :=
  ((sources.filterMap (·.sample? index)).map Int16.toInt).sum

/-- One sample is scaled, and clipped to 16 bits; a coefficient that clipping has lowered rises
again. -/
def levelSample (coefficient : ℚ) (temp : Int) : Int16 × ℚ :=
  let output := truncate (toDouble (temp * coefficient))
  let clipped : Int × ℚ :=
    if output > 32767 then (32767, toDouble (32767 / output))
    else if output < -32768 then (-32768, toDouble (-32768 / output))
    else (output, coefficient)
  (Int16.ofInt clipped.1,
    if clipped.2 < 1 then toDouble (clipped.2 + toDouble (toDouble (1 - clipped.2) / 32))
    else clipped.2)

/-- The loop over the samples, with the inner loop over the sources as `temp`, which has no value
where it reads data that is not there. -/
def mixLoop (temp : Nat → Option Int) : Nat → Nat → ℚ → Option (List Int16)
  | 0, _, _ => some []
  | remaining + 1, index, coefficient => do
      let sum ← temp index
      let output := levelSample coefficient sum
      let rest ← mixLoop temp remaining (index + 1) output.2
      return output.1 :: rest

/-- At most one frame for each type of source is mixed, so the sum is far from the bounds of its
type. -/
def addSample (index : Nat) (temp : Int) (source : SampledBuffer) : Option Int :=
  if source.length ≥ (index + 1) * 2 then
    (source.sample? index).map fun sample => temp + sample.toInt
  else some temp

/-- The inner loop of the generic data source. -/
def mixSources (sources : List SampledBuffer) (index : Nat) : Option Int :=
  sources.foldlM (addSample index) 0

/-- `AudioDataSourceGeneric::MixAudio`. -/
def mixAudio : List SampledBuffer → Option (List Int16)
  | [] => some []
  | front :: others => mixLoop (mixSources (front :: others)) (front.length / 2) 0 1

/-- What `Combine` makes of the current frames, `none` where it reads data that is not there. -/
def combine : List SampledBuffer → Option (Option (List Int16))
  | [] => some none
  | [single] => some single.data
  | sources => (mixAudio sources).map some

/-- The inner loop of `AudioDataSource::MixAudio`. -/
def mixChannels (inner mic : SampledBuffer) (channels index : Nat) : Option Int :=
  (List.range channels).foldlM (fun temp ch =>
    if ch ≠ 1 ∨ mic.length ≥ index * channels + 2 then
      ([inner, mic][ch]?.bind (·.sample? index)).map fun sample => temp + sample.toInt
    else some temp) 0

/-- `AudioDataSource::MixAudio`: the samples of the output, which is allocated as zeros. -/
def mixInnerAndMic (inner mic : SampledBuffer) (channels : Nat) : Option (List Int16) :=
  if channels = 0 ∨ inner.data = none ∨ mic.data = none then
    some (List.replicate (inner.length / 2) 0)
  else mixLoop (mixChannels inner mic channels) (inner.length / 2) 0 1

/-- The mix of sums: each is scaled by the coefficient that the sums before it leave, and
clipped. -/
def level : ℚ → List Int → List Int16
  | _, [] => []
  | coefficient, sum :: rest =>
    (levelSample coefficient sum).1 :: level (levelSample coefficient sum).2 rest

/-- The law of mixing: the output has data unless every source is muted, and each of its samples
is the mix of the sources that have it. -/
def Mixes (front : SampledBuffer) (others : List SampledBuffer) :
    Option (Option (List Int16)) → Prop
  | none => False
  | some none => ∀ source ∈ front :: others, source.data = none
  | some (some output) =>
    output = level 1 ((List.range (front.length / 2)).map (sumAt (front :: others)))

theorem levelSample_small {sum : Int} (low : -32768 ≤ sum) (high : sum ≤ 32767) :
    levelSample 1 sum = (Int16.ofInt sum, 1) := by
  have kept : truncate (toDouble (sum * 1)) = sum := by
    rw [mul_one, toDouble_intCast (by omega), truncate_intCast]
  unfold levelSample
  simp only [kept]
  rw [if_neg (by omega), if_neg (by omega)]
  simp

/-- Nothing is scaled before the first sum that must be clipped. -/
theorem level_small {sums : List Int} (small : ∀ sum ∈ sums, -32768 ≤ sum ∧ sum ≤ 32767) :
    level 1 sums = sums.map Int16.ofInt := by
  induction sums with
  | nil => rfl
  | cons sum rest ih =>
    have first := small sum List.mem_cons_self
    have later := ih fun other member => small other (List.mem_cons_of_mem _ member)
    simp [level, levelSample_small first.1 first.2, later]

theorem mixLoop_eq_level {temp : Nat → Option Int} {sum : Nat → Int} (count index : Nat)
    (coefficient : ℚ) (found : ∀ i, index ≤ i → i < index + count → temp i = some (sum i)) :
    mixLoop temp count index coefficient =
      some (level coefficient ((List.range' index count).map sum)) := by
  induction count generalizing index coefficient with
  | zero => rfl
  | succ count ih =>
    have first := found index (by omega) (by omega)
    have later := ih (index + 1) (levelSample coefficient (sum index)).2
      fun i low high => found i (by omega) (by omega)
    simp [mixLoop, first, later, List.range'_succ, level]

theorem mixLoop_eq_none {temp : Nat → Option Int} {count : Nat} (some : count ≠ 0) {index : Nat}
    (coefficient : ℚ) (missing : temp index = none) :
    mixLoop temp count index coefficient = none := by
  obtain ⟨count, rfl⟩ := Nat.exists_eq_succ_of_ne_zero some
  simp [mixLoop, missing]

theorem sumAt_cons (source : SampledBuffer) (others : List SampledBuffer) (index : Nat) :
    sumAt (source :: others) index =
      ((source.sample? index).map Int16.toInt).getD 0 + sumAt others index := by
  cases found : source.sample? index <;> simp [sumAt, found]

namespace SampledBuffer

variable {buffer : SampledBuffer} {index : Nat}

theorem sample?_eq_none_of_short (short : buffer.length < (index + 1) * 2) :
    buffer.sample? index = none := by
  cases data : buffer.data with
  | none => simp [sample?, data]
  | some samples =>
    have declared := buffer.declared samples data
    simp only [sample?, data, Option.bind_some, List.getElem?_eq_none_iff]
    omega

theorem sample?_eq_some (long : (index + 1) * 2 ≤ buffer.length) (present : buffer.data ≠ none) :
    ∃ sample, buffer.sample? index = some sample := by
  obtain ⟨samples, data⟩ := Option.ne_none_iff_exists'.mp present
  have declared := buffer.declared samples data
  have inside : index < samples.length := by omega
  exact ⟨samples[index], by simp [sample?, data, inside]⟩

end SampledBuffer

theorem mixSources_from {sources : List SampledBuffer} {index : Nat}
    (present : ∀ source ∈ sources, (index + 1) * 2 ≤ source.length → source.data ≠ none)
    (temp : Int) :
    sources.foldlM (addSample index) temp = some (temp + sumAt sources index) := by
  induction sources generalizing temp with
  | nil => simp [sumAt]
  | cons source others ih =>
    have later := ih fun other member => present other (List.mem_cons_of_mem _ member)
    rw [List.foldlM_cons, sumAt_cons, addSample]
    by_cases long : source.length ≥ (index + 1) * 2
    · obtain ⟨sample, found⟩ :=
        SampledBuffer.sample?_eq_some long (present source List.mem_cons_self long)
      rw [if_pos long, found]
      simpa [add_assoc] using later (temp + sample.toInt)
    · rw [if_neg long, SampledBuffer.sample?_eq_none_of_short (by omega)]
      simpa using later temp

theorem mixSources_eq_none {sources : List SampledBuffer} {index : Nat} {muted : SampledBuffer}
    (member : muted ∈ sources) (missing : muted.data = none)
    (long : (index + 1) * 2 ≤ muted.length) : mixSources sources index = none := by
  have fails : ∀ temp : Int, sources.foldlM (addSample index) temp = none := by
    induction member with
    | head others =>
      intro temp
      simp [List.foldlM_cons, addSample, long, SampledBuffer.sample?, missing]
    | tail source _ ih =>
      intro temp
      rw [List.foldlM_cons]
      cases addSample index temp source with
      | none => rfl
      | some added => exact ih added
  exact fails 0

/-- Only a muted frame whose length covers a sample of the output is read where it has no
data. -/
theorem mixAudio_eq {front : SampledBuffer} {others : List SampledBuffer}
    (present : ∀ source ∈ front :: others, source.data = none →
      source.length < 2 ∨ front.length < 2) :
    mixAudio (front :: others) =
      some (level 1 ((List.range (front.length / 2)).map (sumAt (front :: others)))) := by
  rw [List.range_eq_range']
  apply mixLoop_eq_level
  intro index _ inside
  rw [mixSources, mixSources_from, zero_add]
  intro source member long missing
  have := present source member missing
  omega

theorem mixAudio_eq_none {front : SampledBuffer} {others : List SampledBuffer}
    {muted : SampledBuffer} (member : muted ∈ front :: others) (missing : muted.data = none)
    (long : 2 ≤ muted.length) (output : 2 ≤ front.length) :
    mixAudio (front :: others) = none :=
  mixLoop_eq_none (by omega) 1 (mixSources_eq_none member missing (by omega))

/-- What is one sample of 16 bits already is not changed. -/
theorem level_samples (sample : Nat → Int16) (indices : List Nat) :
    level 1 (indices.map fun index => (sample index).toInt) = indices.map sample := by
  rw [level_small]
  · simp
  · intro sum member
    obtain ⟨index, _, rfl⟩ := List.mem_map.mp member
    exact ⟨Int16.le_toInt _, Int16.toInt_le _⟩

theorem sumAt_single (buffer : SampledBuffer) (index : Nat) :
    sumAt [buffer] index = ((buffer.sample? index).getD 0).toInt := by
  cases found : buffer.sample? index <;> simp [sumAt, found]

theorem level_data {buffer : SampledBuffer} {samples : List Int16}
    (data : buffer.data = some samples) :
    level 1 ((List.range (buffer.length / 2)).map (sumAt [buffer])) = samples := by
  have sums : sumAt [buffer] = fun index => ((buffer.sample? index).getD 0).toInt :=
    funext (sumAt_single buffer)
  rw [sums, level_samples, ← buffer.declared samples data]
  apply List.ext_getElem
  · simp
  · intro index _ inside
    simp [SampledBuffer.sample?, data, inside]

theorem combine_mixes_iff (front : SampledBuffer) (others : List SampledBuffer) :
    Mixes front others (combine (front :: others)) ↔
      others = [] ∨ ∀ source ∈ front :: others, source.data = none →
        source.length < 2 ∨ front.length < 2 := by
  cases others with
  | nil =>
    refine iff_of_true ?_ (.inl rfl)
    cases data : front.data with
    | none => simp [combine, data, Mixes]
    | some samples => simpa [combine, data, Mixes] using (level_data data).symm
  | cons second others =>
    constructor
    · intro mixes
      refine .inr fun source member missing => ?_
      by_contra long
      rw [not_or, not_lt, not_lt] at long
      simp [combine, mixAudio_eq_none member missing long.1 long.2, Mixes] at mixes
    · intro present
      have present := present.resolve_left (List.cons_ne_nil _ _)
      simp [combine, mixAudio_eq present, Mixes]

theorem mixChannels_eq {inner mic : SampledBuffer} (sounding : inner.data ≠ none)
    (present : mic.data ≠ none) {index : Nat} (inside : index < inner.length / 2) :
    mixChannels inner mic 2 index = some (sumAt [inner, mic] index) := by
  obtain ⟨first, found⟩ :=
    SampledBuffer.sample?_eq_some (show (index + 1) * 2 ≤ inner.length by omega) sounding
  by_cases long : mic.length ≥ index * 2 + 2
  · obtain ⟨second, heard⟩ :=
      SampledBuffer.sample?_eq_some (show (index + 1) * 2 ≤ mic.length by omega) present
    simp [mixChannels, List.range_succ, found, heard, long, sumAt]
  · have missing := SampledBuffer.sample?_eq_none_of_short
      (show mic.length < (index + 1) * 2 by omega)
    simp [mixChannels, List.range_succ, found, missing, long, sumAt]

/-- With a muted source the output stays silent, whatever the other one holds. -/
theorem mixInnerAndMic_mixes_iff (inner mic : SampledBuffer) :
    Mixes inner [mic] ((mixInnerAndMic inner mic 2).map some) ↔
      (inner.data ≠ none ∧ mic.data ≠ none) ∨ ∀ index < inner.length / 2,
        (inner.sample? index).getD 0 = 0 ∧ (mic.sample? index).getD 0 = 0 := by
  by_cases muted : inner.data = none ∨ mic.data = none
  · have sums : ∃ lone : Nat → Int16, (sumAt [inner, mic] = fun index => (lone index).toInt) ∧
        ∀ index, lone index = 0 ↔
          (inner.sample? index).getD 0 = 0 ∧ (mic.sample? index).getD 0 = 0 := by
      rcases muted with muted | muted
      · have missing : ∀ index, inner.sample? index = none := fun _ => by
          simp [SampledBuffer.sample?, muted]
        refine ⟨fun index => (mic.sample? index).getD 0, funext fun index => ?_, ?_⟩
        · rw [sumAt_cons, missing, sumAt_single]
          simp
        · simp [missing]
      · have missing : ∀ index, mic.sample? index = none := fun _ => by
          simp [SampledBuffer.sample?, muted]
        refine ⟨fun index => (inner.sample? index).getD 0, funext fun index => ?_, ?_⟩
        · rw [sumAt_cons, sumAt_single, missing]
          cases found : inner.sample? index <;> simp [found]
        · simp [missing]
    obtain ⟨lone, sums, silent⟩ := sums
    have unsounding : ¬(inner.data ≠ none ∧ mic.data ≠ none) := by tauto
    rw [mixInnerAndMic, if_pos (.inr muted), or_iff_right unsounding]
    simp only [Option.map_some, Mixes, sums, level_samples, ← silent]
    rw [eq_comm, List.eq_replicate_iff]
    simp
  · rw [not_or] at muted
    refine iff_of_true ?_ (.inl muted)
    simp only [mixInnerAndMic, muted, or_self, OfNat.ofNat_ne_zero, if_false]
    rw [mixLoop_eq_level _ _ _ fun index _ inside =>
      mixChannels_eq muted.1 muted.2 (by omega), ← List.range_eq_range']
    rfl

/-- Where the two mixers obey the law, and that the mix of a law without clipping is the sum. -/
theorem mixes_iff_unmuted (front inner mic : SampledBuffer) (others : List SampledBuffer) :
    (Mixes front others (combine (front :: others)) ↔
      others = [] ∨ ∀ source ∈ front :: others, source.data = none →
        source.length < 2 ∨ front.length < 2) ∧
    (Mixes inner [mic] ((mixInnerAndMic inner mic 2).map some) ↔
      (inner.data ≠ none ∧ mic.data ≠ none) ∨ ∀ index < inner.length / 2,
        (inner.sample? index).getD 0 = 0 ∧ (mic.sample? index).getD 0 = 0) ∧
    ∀ sums : List Int, (∀ sum ∈ sums, -32768 ≤ sum ∧ sum ≤ 32767) →
      level 1 sums = sums.map Int16.ofInt :=
  ⟨combine_mixes_iff front others, mixInnerAndMic_mixes_iff inner mic, fun _ => level_small⟩

/-- A frame with data and a muted one: one mixer reads data that is not there, the other one
loses the frame. -/
theorem muted_frame_breaks_the_mix :
    combine [.create false [1000, 2000], .create true [0, 0]] = none ∧
      mixInnerAndMic (.create false [1000, 2000]) (.create true [0, 0]) 2 = some [0, 0] ∧
      ¬Mixes (.create false [1000, 2000]) [.create true [0, 0]]
        (combine [.create false [1000, 2000], .create true [0, 0]]) ∧
      ¬Mixes (.create false [1000, 2000]) [.create true [0, 0]]
        ((mixInnerAndMic (.create false [1000, 2000]) (.create true [0, 0]) 2).map some) := by
  refine ⟨rfl, rfl, id, ?_⟩
  rw [mixInnerAndMic_mixes_iff]
  decide

end PlayerFramework.ScreenCapture
