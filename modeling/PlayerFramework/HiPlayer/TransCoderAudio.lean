import Mathlib.Data.List.Induction

/-!
What the transcoder does with the audio track (`hitranscoder_impl.cpp`): the parameters
`Configure` takes for it, and the decision of `Prepare` to leave out its decoder and encoder.
-/

namespace PlayerFramework.HiPlayer

/-- The mime types `Plugins::MimeType` names for the audio encoder, and any other. -/
inductive AudioMime where
  | aac
  | mpeg
  | raw
  | amrNb
  | amrWb
  | other (name : String)
deriving DecidableEq

inductive AudioCodecFormat where
  | audioDefault
  | aacLc
  | mpeg
  | g711mu
  | amrNb
  | amrWb
  | raw
  | butt
deriving DecidableEq

inductive TransCoderStatus where
  | ok
  | invalidVal
  | invalidAudioBitrate
  | invalidOutputResolution
deriving DecidableEq

/-- The audio parameters of `Configure`; those of `ConfigureVideoParam` are one. -/
inductive TransCoderParam where
  | audioEncFmt (encFmt : AudioCodecFormat)
  | audioBitrate (bitRate : Int)
  | video
deriving DecidableEq

/-- What the `Meta` of an audio format holds of `MIME_TYPE` and `MEDIA_BITRATE`. -/
structure AudioFormat where
  mimeType : AudioMime
  bitrate : Option Int := none
deriving DecidableEq

/-- The sizes `Prepare` reads where there is a video track. -/
structure VideoSizes where
  width : Option Int
  height : Option Int
  inputVideoWidth : Int
  inputVideoHeight : Int
deriving DecidableEq

structure SkipProcessFilterFlag where
  isSameAudioEncFmt : Bool := false
  isSameAudioBitrate : Bool := false
  isSameVideoResolution : Bool := false
deriving DecidableEq

def SkipProcessFilterFlag.canSkipAudioDecAndEncFilter (flag : SkipProcessFilterFlag) : Bool :=
  flag.isSameAudioEncFmt && flag.isSameAudioBitrate

/-- `skippingAudioDecAndEnc` is what the demuxer has been told. -/
structure HiTransCoderAudio where
  srcAudioFormat : AudioFormat
  audioEncFormat : AudioFormat
  inputAudioMimeType : AudioMime := .other ""
  skipProcessFilterFlag : SkipProcessFilterFlag := {}
  isAudioTrackLinked : Bool := false
  skippingAudioDecAndEnc : Bool := false
deriving DecidableEq

inductive AudioFilter where
  | demuxer
  | audioDecoder
  | audioEncoder
  | muxer
deriving DecidableEq

inductive AudioStream where
  | rawAudio
  | encodedAudio
deriving DecidableEq

def invalidAudioBitrate : Int := 2147483647
def defaultAudioBitrate : Int := 48000
def minimumWidthHeight : Int := 240

def getAudioEncFormat : AudioCodecFormat → AudioMime
  | .mpeg => .mpeg
  | .raw => .raw
  | .amrNb => .amrNb
  | .amrWb => .amrWb
  | _ => .aac

namespace HiTransCoderAudio

/-- `ConfigureMetaDataToTrackFormat` with the first audio track.  `ConfigureDefaultParameter`
sets up the video format only, so `inputAudioMimeType_` stays empty. -/
def configureMetaDataToTrackFormat (track : AudioFormat) : HiTransCoderAudio where
  srcAudioFormat := track
  audioEncFormat := track

def configureAudioEncFmt (encFmt : AudioCodecFormat) (impl : HiTransCoderAudio) :
    HiTransCoderAudio :=
  let flag := impl.skipProcessFilterFlag
  let known :=
    if impl.inputAudioMimeType = .aac then { flag with isSameAudioEncFmt := true } else flag
  let same :=
    if impl.srcAudioFormat.mimeType = .raw ∧ encFmt = .raw then
      { known with isSameAudioEncFmt := true, isSameAudioBitrate := true }
    else known
  { impl with
    skipProcessFilterFlag := same
    audioEncFormat := { impl.audioEncFormat with mimeType := getAudioEncFormat encFmt } }

def configureAudioBitrate (bitRate : Int) (impl : HiTransCoderAudio) :
    HiTransCoderAudio × TransCoderStatus :=
  if bitRate ≤ 0 then (impl, .invalidAudioBitrate)
  else
    let flag := impl.skipProcessFilterFlag
    let same :=
      if bitRate = invalidAudioBitrate ∨ bitRate = impl.audioEncFormat.bitrate.getD (-1) then
        { flag with isSameAudioBitrate := true }
      else flag
    let set := if bitRate = invalidAudioBitrate then defaultAudioBitrate else bitRate
    ({ impl with
       skipProcessFilterFlag := same
       audioEncFormat := { impl.audioEncFormat with bitrate := some set } }, .ok)

def configure (param : TransCoderParam) (impl : HiTransCoderAudio) :
    HiTransCoderAudio × TransCoderStatus :=
  match param with
  | .audioEncFmt encFmt => (impl.configureAudioEncFmt encFmt, .ok)
  | .audioBitrate bitRate => impl.configureAudioBitrate bitRate
  | .video => (impl, .ok)

def skipAudioDecAndEnc (impl : HiTransCoderAudio) : HiTransCoderAudio :=
  { impl with skippingAudioDecAndEnc := true }

def decideAudio (impl : HiTransCoderAudio) : HiTransCoderAudio :=
  if impl.skipProcessFilterFlag.canSkipAudioDecAndEncFilter then impl.skipAudioDecAndEnc else impl

/-- `Prepare` up to `pipeline_->Prepare()`, in which the filters ask to be linked. -/
def prepare (video : Option VideoSizes) (impl : HiTransCoderAudio) :
    Except TransCoderStatus HiTransCoderAudio :=
  match video with
  | none => .ok impl.decideAudio
  | some sizes =>
    match sizes.width, sizes.height with
    | some width, some height =>
      if width > sizes.inputVideoWidth ∨ height > sizes.inputVideoHeight ∨
          min width height < minimumWidthHeight then
        .error .invalidOutputResolution
      else
        let flag := { impl.skipProcessFilterFlag with
          isSameVideoResolution :=
            width = sizes.inputVideoWidth && height = sizes.inputVideoHeight }
        .ok { impl with skipProcessFilterFlag := flag }.decideAudio
    | _, _ => .error .invalidVal

/-- The audio branches of `OnCallback`: the filter that is linked next, if any. -/
def onCallback (filter : AudioFilter) (outType : AudioStream) (impl : HiTransCoderAudio) :
    HiTransCoderAudio × Option AudioFilter :=
  if filter = .demuxer ∧ impl.isAudioTrackLinked then (impl, none)
  else
    let linked := { impl with isAudioTrackLinked := impl.isAudioTrackLinked || filter = .demuxer }
    match outType with
    | .rawAudio =>
      if impl.audioEncFormat.mimeType = .raw then (linked, some .muxer)
      else (linked, some .audioEncoder)
    | .encodedAudio =>
      if filter = .demuxer ∧ !impl.skipProcessFilterFlag.canSkipAudioDecAndEncFilter then
        (linked, some .audioDecoder)
      else (linked, some .muxer)

/-- The transcoder after `Configure` has been called with the parameters in order. -/
def configured (track : AudioFormat) (params : List TransCoderParam) : HiTransCoderAudio :=
  params.foldl (fun impl param => (impl.configure param).1) (configureMetaDataToTrackFormat track)

/-- The demuxer has been told to leave out the decoder and the encoder, and its audio, which it
offers as a stream of either type, is linked to the muxer. -/
def goesToMuxer (outType : AudioStream) (impl : HiTransCoderAudio) : Bool :=
  impl.skippingAudioDecAndEnc && (impl.onCallback .demuxer outType).2 == some .muxer

/-- `Prepare` lets the demuxer's audio go by the decoder and the encoder. -/
def skipsAudio (outType : AudioStream) (video : Option VideoSizes) (impl : HiTransCoderAudio) :
    Bool :=
  match impl.prepare video with
  | .error _ => false
  | .ok prepared => prepared.goesToMuxer outType

end HiTransCoderAudio

def lastFormat (params : List TransCoderParam) : Option AudioCodecFormat :=
  (params.filterMap fun param =>
    match param with
    | .audioEncFmt encFmt => some encFmt
    | _ => none).getLast?

/-- The bit rate asked for last; one that `Configure` refuses asks for nothing. -/
def lastBitRate (params : List TransCoderParam) : Option Int :=
  (params.filterMap fun param =>
    match param with
    | .audioBitrate bitRate => if bitRate ≤ 0 then none else some bitRate
    | _ => none).getLast?

/-- One call for each parameter, with the value asked for last. -/
def lastValues (params : List TransCoderParam) : List TransCoderParam :=
  ((lastFormat params).map .audioEncFmt).toList ++ ((lastBitRate params).map .audioBitrate).toList

/-- The last format asked for is the track's, and the last bit rate, if any, is the track's or
the one that specifies none. -/
def AsksForSource (track : AudioFormat) (params : List TransCoderParam) : Prop :=
  (lastFormat params).map getAudioEncFormat = some track.mimeType ∧
    ∀ bitRate, lastBitRate params = some bitRate →
      bitRate = invalidAudioBitrate ∨ track.bitrate = some bitRate

open HiTransCoderAudio in
/-- The decision of `Prepare` is the one the last values call for. -/
structure DecidesByLast (outType : AudioStream) (track : AudioFormat)
    (params : List TransCoderParam) : Prop where
  sound : ∀ video, (configured track params).skipsAudio outType video = true →
    AsksForSource track params
  byLast : ∀ video, (configured track params).skipsAudio outType video =
    (configured track (lastValues params)).skipsAudio outType video
  onceIsEnough : ∀ video before param after, params = before ++ param :: after →
    (configured track (before ++ param :: param :: after)).skipsAudio outType video =
      (configured track params).skipsAudio outType video

/-- A raw stream is encoded where another format was asked for last. -/
def Unconverted (outType : AudioStream) (params : List TransCoderParam) : Prop :=
  outType = .rawAudio → lastFormat params = some .raw

/-- A PCM track that has been asked for as PCM, and is not encoded as a raw stream, is asked for
as it is in the end. -/
def RawStays (outType : AudioStream) (track : AudioFormat) (params : List TransCoderParam) : Prop :=
  track.mimeType = .raw → .audioEncFmt .raw ∈ params → Unconverted outType params →
    lastFormat params = some .raw ∧ ∀ bitRate, lastBitRate params = some bitRate →
        bitRate = invalidAudioBitrate ∨ track.bitrate = some bitRate

namespace HiTransCoderAudio

/-- `Prepare` gets past its check of the output resolution. -/
def acceptsResolution : Option VideoSizes → Bool
  | none => true
  | some sizes =>
    match sizes.width, sizes.height with
    | some width, some height =>
      !decide (width > sizes.inputVideoWidth ∨ height > sizes.inputVideoHeight ∨
        min width height < minimumWidthHeight)
    | _, _ => false

/-- Nothing has been linked and the demuxer has been told nothing; the formats are the same
only where a PCM track was asked for as PCM. -/
structure Configured (track : AudioFormat) (params : List TransCoderParam)
    (impl : HiTransCoderAudio) : Prop where
  source : impl.srcAudioFormat = track
  input : impl.inputAudioMimeType = .other ""
  format : impl.audioEncFormat.mimeType = (lastFormat params).elim track.mimeType getAudioEncFormat
  unlinked : impl.isAudioTrackLinked = false
  untold : impl.skippingAudioDecAndEnc = false
  sameFormat : impl.skipProcessFilterFlag.isSameAudioEncFmt = true ↔
    track.mimeType = .raw ∧ .audioEncFmt .raw ∈ params
  sameBitrate : impl.skipProcessFilterFlag.isSameAudioEncFmt = true →
    impl.skipProcessFilterFlag.isSameAudioBitrate = true

variable {track : AudioFormat} {params : List TransCoderParam} {impl : HiTransCoderAudio}

variable {outType : AudioStream}

theorem lastFormat_append (params : List TransCoderParam) (encFmt : AudioCodecFormat) :
    lastFormat (params ++ [.audioEncFmt encFmt]) = some encFmt := by
  simp [lastFormat, List.filterMap_append]

theorem configured_audioEncFmt (before : Configured track params impl)
    (encFmt : AudioCodecFormat) :
    Configured track (params ++ [.audioEncFmt encFmt]) (impl.configureAudioEncFmt encFmt) := by
  have input := before.input
  by_cases raw : track.mimeType = .raw ∧ encFmt = .raw
  · have same : (impl.configureAudioEncFmt encFmt).skipProcessFilterFlag =
        { impl.skipProcessFilterFlag with
          isSameAudioEncFmt := true, isSameAudioBitrate := true } := by
      simp [configureAudioEncFmt, before.source, raw, input]
    refine ⟨before.source, input, ?_, before.unlinked, before.untold, ?_, ?_⟩
    · rw [lastFormat_append]
      rfl
    · rw [same]
      simp [raw]
    · rw [same]
      exact fun _ => rfl
  · have same : (impl.configureAudioEncFmt encFmt).skipProcessFilterFlag =
        impl.skipProcessFilterFlag := by
      simp [configureAudioEncFmt, before.source, raw, input]
    refine ⟨before.source, input, ?_, before.unlinked, before.untold, ?_, ?_⟩
    · rw [lastFormat_append]
      rfl
    · rw [same, before.sameFormat, List.mem_append, List.mem_singleton,
        TransCoderParam.audioEncFmt.injEq]
      constructor
      · exact fun asked => ⟨asked.1, .inl asked.2⟩
      · intro asked
        exact ⟨asked.1, asked.2.resolve_right fun now => raw ⟨asked.1, now.symm⟩⟩
    · rw [same]
      exact before.sameBitrate

theorem configured_audioBitrate (before : Configured track params impl) (bitRate : Int) :
    Configured track (params ++ [.audioBitrate bitRate])
      (impl.configureAudioBitrate bitRate).1 := by
  have mem : .audioEncFmt .raw ∈ params ++ [.audioBitrate bitRate] ↔
      .audioEncFmt .raw ∈ params := by simp
  have format : lastFormat (params ++ [.audioBitrate bitRate]) = lastFormat params := by
    by_cases refused : bitRate ≤ 0 <;> simp [lastFormat]
  rw [configureAudioBitrate]
  split
  · exact { before with
      format := by rw [format]; exact before.format
      sameFormat := by rw [mem]; exact before.sameFormat }
  · refine ⟨before.source, before.input, ?_, before.unlinked, before.untold, ?_, ?_⟩
    · rw [format]
      exact before.format
    · rw [mem, ← before.sameFormat]
      split <;> rfl
    · split
      · exact fun _ => rfl
      · exact before.sameBitrate

theorem configured_tracked (track : AudioFormat) (params : List TransCoderParam) :
    Configured track params (configured track params) := by
  induction params using List.reverseRecOn with
  | nil => exact ⟨rfl, rfl, rfl, rfl, rfl, by simp [configured, configureMetaDataToTrackFormat],
      fun same => nomatch same⟩
  | append_singleton params param ih =>
    have step : configured track (params ++ [param]) =
        ((configured track params).configure param).1 := by
      rw [configured, List.foldl_append]
      rfl
    rw [step]
    cases param with
    | audioEncFmt encFmt => exact configured_audioEncFmt ih encFmt
    | audioBitrate bitRate => exact configured_audioBitrate ih bitRate
    | video => exact { ih with
        format := by simpa [configure, lastFormat] using ih.format
        sameFormat := by simpa [configure] using ih.sameFormat }

theorem decideAudio_goesToMuxer (outType : AudioStream)
    (unlinked : impl.isAudioTrackLinked = false) (untold : impl.skippingAudioDecAndEnc = false) :
    impl.decideAudio.goesToMuxer outType =
      (impl.skipProcessFilterFlag.canSkipAudioDecAndEncFilter &&
        (outType == .encodedAudio || impl.audioEncFormat.mimeType == .raw)) := by
  cases can : impl.skipProcessFilterFlag.canSkipAudioDecAndEncFilter with
  | false => simp [decideAudio, goesToMuxer, untold, can]
  | true =>
    cases outType with
    | encodedAudio =>
      simp [decideAudio, skipAudioDecAndEnc, goesToMuxer, onCallback, unlinked, can]
    | rawAudio =>
      by_cases raw : impl.audioEncFormat.mimeType = .raw
      · simp [decideAudio, skipAudioDecAndEnc, goesToMuxer, onCallback, unlinked, can, raw]
      · have encoded : (AudioStream.rawAudio == .encodedAudio) = false := rfl
        have unmuxed : (AudioFilter.audioEncoder == .muxer) = false := rfl
        simp [decideAudio, skipAudioDecAndEnc, goesToMuxer, onCallback, unlinked, can, raw,
          beq_eq_false_iff_ne.mpr raw, encoded, unmuxed]

theorem skipsAudio_eq (video : Option VideoSizes) (unlinked : impl.isAudioTrackLinked = false)
    (untold : impl.skippingAudioDecAndEnc = false) :
    impl.skipsAudio outType video =
      (acceptsResolution video && (impl.skipProcessFilterFlag.canSkipAudioDecAndEncFilter &&
        (outType == .encodedAudio || impl.audioEncFormat.mimeType == .raw))) := by
  unfold skipsAudio prepare
  cases video with
  | none =>
    exact decideAudio_goesToMuxer outType unlinked untold
  | some sizes =>
    rcases sizes with ⟨width, height, inputWidth, inputHeight⟩
    cases width with
    | none => rfl
    | some width =>
      cases height with
      | none => rfl
      | some height =>
        dsimp only [acceptsResolution]
        by_cases refused : width > inputWidth ∨ height > inputHeight ∨
            min width height < minimumWidthHeight
        · rw [if_pos refused, decide_eq_true refused]
          rfl
        · rw [if_neg refused, decide_eq_false refused]
          exact decideAudio_goesToMuxer outType unlinked untold

theorem getAudioEncFormat_raw_iff (encFmt : AudioCodecFormat) :
    getAudioEncFormat encFmt = .raw ↔ encFmt = .raw := by
  cases encFmt <;> simp [getAudioEncFormat]

theorem lastFormat_raw_iff (asked : .audioEncFmt .raw ∈ params) :
    (lastFormat params).elim track.mimeType getAudioEncFormat = .raw ↔
      lastFormat params = some .raw := by
  cases format : lastFormat params with
  | none =>
    rw [lastFormat, List.getLast?_eq_none_iff, List.filterMap_eq_nil_iff] at format
    cases format _ asked
  | some encFmt =>
    rw [Option.elim_some, getAudioEncFormat_raw_iff, Option.some.injEq]

theorem configured_skipsAudio_iff (track : AudioFormat) (params : List TransCoderParam)
    (outType : AudioStream) (video : Option VideoSizes) :
    (configured track params).skipsAudio outType video = true ↔
      acceptsResolution video = true ∧ track.mimeType = .raw ∧ .audioEncFmt .raw ∈ params ∧
        Unconverted outType params := by
  have tracked := configured_tracked track params
  rw [skipsAudio_eq video tracked.unlinked tracked.untold,
    SkipProcessFilterFlag.canSkipAudioDecAndEncFilter, Bool.and_eq_true, Bool.and_eq_true,
    Bool.and_eq_true]
  refine and_congr_right fun _ => ?_
  constructor
  · rintro ⟨⟨same, -⟩, offered⟩
    obtain ⟨raw, asked⟩ := tracked.sameFormat.mp same
    refine ⟨raw, asked, fun isRaw => ?_⟩
    have mime : (configured track params).audioEncFormat.mimeType = .raw := by
      simpa [isRaw] using offered
    rwa [tracked.format, lastFormat_raw_iff asked] at mime
  · rintro ⟨raw, asked, unconverted⟩
    have same := tracked.sameFormat.mpr ⟨raw, asked⟩
    refine ⟨⟨same, tracked.sameBitrate same⟩, ?_⟩
    cases outType with
    | encodedAudio => rfl
    | rawAudio =>
      rw [tracked.format, unconverted rfl]
      rfl

end HiTransCoderAudio

theorem mem_of_lastFormat {params : List TransCoderParam} {encFmt : AudioCodecFormat}
    (last : lastFormat params = some encFmt) : .audioEncFmt encFmt ∈ params := by
  have mem := List.mem_of_getLast? last
  obtain ⟨param, inside, asks⟩ := List.mem_filterMap.mp mem
  cases param with
  | audioEncFmt asked =>
    obtain rfl : asked = encFmt := by simpa using asks
    exact inside
  | audioBitrate bitRate | video => cases asks

theorem mem_lastValues_iff (params : List TransCoderParam) (encFmt : AudioCodecFormat) :
    .audioEncFmt encFmt ∈ lastValues params ↔ lastFormat params = some encFmt := by
  simp [lastValues, Option.mem_toList]

theorem lastFormat_lastValues (params : List TransCoderParam) :
    lastFormat (lastValues params) = lastFormat params := by
  unfold lastValues
  generalize lastFormat params = format
  generalize lastBitRate params = bitRate
  cases format <;> cases bitRate <;> simp [lastFormat]

theorem lastFormat_again (before : List TransCoderParam) (param : TransCoderParam)
    (after : List TransCoderParam) :
    lastFormat (before ++ param :: param :: after) = lastFormat (before ++ param :: after) := by
  cases param with
  | audioEncFmt encFmt =>
    simp only [lastFormat, List.filterMap_append, List.filterMap_cons, List.getLast?_append,
      List.getLast?_cons_cons]
  | audioBitrate bitRate | video => simp [lastFormat]

open HiTransCoderAudio

end PlayerFramework.HiPlayer
