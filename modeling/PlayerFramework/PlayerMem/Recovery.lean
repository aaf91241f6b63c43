import PlayerFramework.PlayerMem.ServerMem

/-!
What a recovery makes of a `PlayerServer` that was reset, in closed form, and when it is what the
player was before the release.
-/

namespace PlayerFramework.PlayerMem

open RecoverConfigInfo

open Player (PlayerStates PlayerSeekMode speedForward100X)

namespace PlayerServer

theorem attempt_append (first second : List (PlayerServer → Option PlayerServer))
    (server : PlayerServer) :
    server.attempt (first ++ second) =
      if (server.attempt first).2 then (server.attempt first).1.attempt second
      else server.attempt first := by
  induction first generalizing server with
  | nil => simp [attempt]
  | cons step rest ih =>
    rw [List.cons_append, attempt, attempt]
    split
    · simp
    · exact ih _

variable {server : PlayerServer}

theorem attempt_cons {step : PlayerServer → Option PlayerServer} {next : PlayerServer}
    (answer : step server = some next) (rest : List (PlayerServer → Option PlayerServer)) :
    server.attempt (step :: rest) = next.attempt rest := by
  rw [attempt, answer]

theorem attempt_refused {step : PlayerServer → Option PlayerServer} (answer : step server = none)
    (rest : List (PlayerServer → Option PlayerServer)) :
    server.attempt (step :: rest) = (server, false) := by
  rw [attempt, answer]

theorem attempt_keeps (kept : PlayerServer → Prop)
    {steps : List (PlayerServer → Option PlayerServer)}
    (each : ∀ step ∈ steps, ∀ server next, step server = some next → kept server → kept next)
    (initially : kept server) : kept (server.attempt steps).1 := by
  induction steps generalizing server with
  | nil => exact initially
  | cons step rest ih =>
    simp only [attempt]
    cases answer : step server with
    | none => exact initially
    | some next =>
      have first := each step List.mem_cons_self server next answer initially
      have later : ∀ step ∈ rest, ∀ server next, step server = some next → kept server →
          kept next := by
        intro step member
        exact each step (List.mem_cons_of_mem _ member)
      exact ih later first

theorem foldl_addSubSource (sources : List Source) {engine : Engine}
    (found : server.engine = some engine) :
    sources.foldl (fun server source => (server.addSubSource source).getD server) server =
      { server with
        engine := some { engine with
          subSources := engine.subSources ++
            sources.take (maxSubtitleTrackNum - engine.subSources.length) } } := by
  induction sources generalizing server engine with
  | nil =>
    cases server
    simpa using found
  | cons source rest ih =>
    rw [List.foldl_cons]
    by_cases full : maxSubtitleTrackNum ≤ engine.subSources.length
    · have refused : (server.addSubSource source).getD server = server := by
        simp [addSubSource, found, full]
      have none : maxSubtitleTrackNum - engine.subSources.length = 0 := by omega
      rw [refused, ih found, none]
      simp
    · have added : (server.addSubSource source).getD server =
          { server with
            engine := some { engine with subSources := engine.subSources ++ [source] } } := by
        simp [addSubSource, found, full]
      have room : maxSubtitleTrackNum - engine.subSources.length =
          maxSubtitleTrackNum - (engine.subSources.length + 1) + 1 := by omega
      rw [added, ih rfl, room]
      simp

end PlayerServer

namespace RecoverConfigInfo

/-- The source that `SetSourceInternal` sets. -/
def recordedSource (config : RecoverConfigInfo) (uriHelper : Option FdInfo) : Option Source :=
  match config.sourceType with
  | .url => if config.url = "" then none else some (.url config.url)
  | .fd => uriHelper.map Source.fd
  | .null => none

/-- `PlayerServer` accepts the volume, if it is to be set. -/
def VolumeValid (config : RecoverConfigInfo) : Prop :=
  config.volumeSet = true → ¬ (config.leftVolume < 0 ∨ 1 < config.leftVolume ∨
    config.rightVolume < 0 ∨ 1 < config.rightVolume)

theorem able_or_unable (config : RecoverConfigInfo) (uriHelper : Option FdInfo) :
    (∃ source, config.recordedSource uriHelper = some source ∧ config.VolumeValid) ∨
      config.recordedSource uriHelper = none ∨ ¬ config.VolumeValid := by
  cases known : config.recordedSource uriHelper with
  | none => exact Or.inr (Or.inl rfl)
  | some source =>
    by_cases valid : config.VolumeValid
    · exact Or.inl ⟨source, rfl, valid⟩
    · exact Or.inr (Or.inr valid)

/-- The volume that `HandlePrepare` gives the engine. -/
def preparedVolume (config : RecoverConfigInfo) : Option (ℚ × ℚ) :=
  if config.leftVolume < 1 then some (config.leftVolume, config.rightVolume) else none

def scaleParameter (config : RecoverConfigInfo) : Option Int :=
  if config.videoScaleType ≠ -1 then some config.videoScaleType else none

def rendererParameter (config : RecoverConfigInfo) : Option AudioRendererInfo :=
  if config.rendererSet then
    some ⟨config.contentType, config.streamUsage, config.rendererFlag, config.volumeMode⟩
  else none

def interruptParameter (config : RecoverConfigInfo) : Option Int :=
  if config.interruptMode ≠ -1 then some config.interruptMode else none

/-- A new engine of the source with the recorded renderer parameters. -/
def newEngine (config : RecoverConfigInfo) (source : Source) : Engine :=
  { source
    videoScaleType := config.scaleParameter
    audioRendererInfo := config.rendererParameter
    audioInterruptMode := config.interruptParameter }

/-- What `MemRecoverToInitialized` makes of a server that was reset. -/
def initializedServer (config : RecoverConfigInfo) (source : Source) (server : PlayerServer) :
    PlayerServer :=
  { server with
    lastOpStatus := .initialized
    engine := some (config.newEngine source)
    looping := config.loop
    volume := config.preparedVolume
    effectMode := config.effectMode
    surface := config.surface.or server.surface }

def preparedEngine (media : Media) (config : RecoverConfigInfo) (source : Source)
    (surface : Option Nat) : Engine :=
  { config.newEngine source with
    surface
    volume := config.preparedVolume
    looping := config.loop
    audioTrack := media.defaultTrack source .audio
    videoTrack := media.defaultTrack source .video
    subtitleTrack := media.defaultTrack source .subtitle
    audioEffectMode := config.effectMode }

/-- The engine after `SetBehaviorInternal`. -/
def behavedEngine (media : Media) (config : RecoverConfigInfo) (source : Source)
    (surface : Option Nat) (selectAudio : Bool) : Engine :=
  { config.preparedEngine media source surface with
    subSources := config.subSources.take PlayerServer.maxSubtitleTrackNum
    bitRate := config.bitRate
    speed := .mode config.speedMode
    position := config.currentTime
    audioTrack := if selectAudio then config.audioIndex else media.defaultTrack source .audio }

/-- What `MemRecoverToPrepared` makes of a server that was reset. -/
def preparedServer (media : Media) (config : RecoverConfigInfo) (source : Source)
    (selectAudio : Bool) (server : PlayerServer) : PlayerServer :=
  { config.initializedServer source server with
    lastOpStatus := .prepared
    engine := some (config.behavedEngine media source (config.surface.or server.surface)
      selectAudio)
    speedMode := config.speedMode }

end RecoverConfigInfo

namespace PlayerServerMem

/-- A `PlayerServer` after a release, with its `UriHelper` back. -/
structure WasReset (server : PlayerServer) : Prop where
  idle : server.lastOpStatus = .idle
  engine : server.engine = none
  looping : server.looping = false
  volume : server.volume = none
  speedMode : server.speedMode = speedForward100X

variable {mem : PlayerServerMem} {server : PlayerServer}

theorem setSourceInternal_none
    (unknown : mem.recoverConfig.recordedSource server.uriHelper = none) :
    mem.setSourceInternal server = none := by
  cases type : mem.recoverConfig.sourceType with
  | url =>
    simp only [recordedSource, type] at unknown
    by_cases empty : mem.recoverConfig.url = ""
    · simp [setSourceInternal, type, PlayerServer.setSource, empty]
    · simp [empty] at unknown
  | fd =>
    have absent : server.uriHelper = none := by simpa [recordedSource, type] using unknown
    simp [setSourceInternal, type, absent]
  | null => simp [setSourceInternal, type]

variable {source : Source}

theorem setSourceInternal_some (wasReset : WasReset server)
    (known : mem.recoverConfig.recordedSource server.uriHelper = some source) :
    mem.setSourceInternal server =
      some { server with engine := some { source := source }, lastOpStatus := .initialized } := by
  cases type : mem.recoverConfig.sourceType with
  | url =>
    simp only [recordedSource, type] at known
    by_cases empty : mem.recoverConfig.url = ""
    · simp [empty] at known
    · have same : Source.url mem.recoverConfig.url = source := by simpa [empty] using known
      simp [setSourceInternal, type, PlayerServer.setSource, empty, wasReset.idle, ← same]
  | fd =>
    simp only [recordedSource, type] at known
    rcases Option.map_eq_some_iff.mp known with ⟨info, helper, same⟩
    simp [setSourceInternal, type, PlayerServer.setSource, wasReset.idle, helper, ← same]
  | null => simp [recordedSource, type] at known

theorem recoverVolume_eq (valid : mem.recoverConfig.VolumeValid) (inactive : server.active = false)
    (fresh : server.volume = none) :
    mem.recoverVolume server = some { server with volume := mem.recoverConfig.preparedVolume } := by
  rw [recoverVolume]
  cases needed : mem.recoverConfig.volumeSet with
  | true =>
    rw [PlayerServer.callIf, if_pos rfl, PlayerServer.setVolume, if_neg (valid needed)]
    simp [preparedVolume, inactive]
  | false =>
    have full : mem.recoverConfig.leftVolume = 1 := by
      have both : mem.recoverConfig.leftVolume = 1 ∧ mem.recoverConfig.rightVolume = 1 := by
        simpa [volumeSet] using needed
      exact both.1
    have none : mem.recoverConfig.preparedVolume = server.volume := by
      simp [preparedVolume, full, fresh]
    simp [PlayerServer.callIf, none]

theorem recoverVolume_none (invalid : ¬ mem.recoverConfig.VolumeValid) :
    mem.recoverVolume server = none := by
  rw [RecoverConfigInfo.VolumeValid, Classical.not_imp, Classical.not_not] at invalid
  rw [recoverVolume, PlayerServer.callIf, if_pos invalid.1, PlayerServer.setVolume,
    if_pos invalid.2]

theorem recoverLooping_eq (fresh : server.looping = false)
    (initialized : server.lastOpStatus = .initialized) :
    mem.recoverLooping server = some { server with looping := mem.recoverConfig.loop } := by
  rw [recoverLooping]
  cases loop : mem.recoverConfig.loop with
  | true => simp [PlayerServer.callIf, PlayerServer.setLooping, initialized]
  | false => simp [PlayerServer.callIf, PlayerServer.ext_iff, fresh]

theorem setSaveParameter_eq (engine : server.engine = some { source := source }) :
    mem.setSaveParameter server =
      some { server with
        engine := some (mem.recoverConfig.newEngine source)
        effectMode := mem.recoverConfig.effectMode } := by
  simp only [setSaveParameter, engine, reduceCtorEq, if_false, PlayerServer.onEngine,
    Option.map_some, newEngine, scaleParameter,
    rendererParameter, interruptParameter,
    Engine.setAudioRendererInfo]
  by_cases scaled : mem.recoverConfig.videoScaleType ≠ -1 <;>
    by_cases interrupted : mem.recoverConfig.interruptMode ≠ -1 <;>
      cases mem.recoverConfig.rendererSet <;> simp [scaled, interrupted]

theorem recoverSurface_eq (initialized : server.lastOpStatus = .initialized) :
    mem.recoverSurface server =
      some { server with surface := mem.recoverConfig.surface.or server.surface } := by
  rw [recoverSurface]
  cases mem.recoverConfig.surface with
  | none => rfl
  | some surface => simp [PlayerServer.setVideoSurface, initialized]

theorem recoverToInitialized (wasReset : WasReset server)
    (known : mem.recoverConfig.recordedSource server.uriHelper = some source)
    (valid : mem.recoverConfig.VolumeValid) :
    server.attempt mem.memRecoverToInitialized =
      (mem.recoverConfig.initializedServer source server, true) := by
  let sourced : PlayerServer :=
    { server with engine := some { source := source }, lastOpStatus := .initialized }
  let voiced : PlayerServer := { sourced with volume := mem.recoverConfig.preparedVolume }
  let shown : PlayerServer :=
    { voiced with surface := mem.recoverConfig.surface.or server.surface }
  let looped : PlayerServer := { shown with looping := mem.recoverConfig.loop }
  have volume : mem.recoverVolume sourced = some voiced :=
    recoverVolume_eq valid rfl wasReset.volume
  have surface : mem.recoverSurface voiced = some shown := recoverSurface_eq rfl
  have looping : mem.recoverLooping shown = some looped :=
    recoverLooping_eq wasReset.looping rfl
  have parameter : mem.setSaveParameter looped =
      some (mem.recoverConfig.initializedServer source server) := setSaveParameter_eq rfl
  rw [memRecoverToInitialized, setConfigInternal,
    PlayerServer.attempt_cons (setSourceInternal_some wasReset known),
    PlayerServer.attempt_cons volume, PlayerServer.attempt_cons surface,
    PlayerServer.attempt_cons looping, PlayerServer.attempt_cons parameter, PlayerServer.attempt]

theorem recoverToInitialized_fails (wasReset : WasReset server)
    (unable : mem.recoverConfig.recordedSource server.uriHelper = none ∨
      ¬ mem.recoverConfig.VolumeValid) :
    (server.attempt mem.memRecoverToInitialized).2 = false := by
  rw [memRecoverToInitialized]
  cases known : mem.recoverConfig.recordedSource server.uriHelper with
  | none => rw [PlayerServer.attempt_refused (setSourceInternal_none known)]
  | some source =>
    have invalid : ¬ mem.recoverConfig.VolumeValid := by
      rcases unable with unknown | invalid
      · rw [known] at unknown
        cases unknown
      · exact invalid
    rw [PlayerServer.attempt_cons (setSourceInternal_some wasReset known), setConfigInternal,
      PlayerServer.attempt_refused (recoverVolume_none invalid)]

section Prepared

variable {engine : Engine}

theorem recoverBitRate_eq (found : server.engine = some engine) (fresh : engine.bitRate = 0) :
    mem.recoverBitRate server =
      some { server with
        engine := some { engine with bitRate := mem.recoverConfig.bitRate } } := by
  rw [recoverBitRate, PlayerServer.callIf]
  split
  · simp [PlayerServer.selectBitRate, PlayerServer.onEngine, found]
  · rename_i unset
    have zero : mem.recoverConfig.bitRate = 0 := by simpa using unset
    simp [PlayerServer.ext_iff, Engine.ext_iff, found, fresh, zero]

theorem recoverSpeed_eq (found : server.engine = some engine)
    (prepared : server.lastOpStatus = .prepared) (fresh : engine.speed = .mode speedForward100X)
    (normal : server.speedMode = speedForward100X) :
    mem.recoverSpeed server =
      some { server with
        engine := some { engine with speed := .mode mem.recoverConfig.speedMode }
        speedMode := mem.recoverConfig.speedMode } := by
  have active : server.active = true := by simp [PlayerServer.active, prepared]
  rw [recoverSpeed, PlayerServer.callIf]
  split
  · rename_i changed
    have other : server.speedMode ≠ mem.recoverConfig.speedMode := by
      intro same
      rw [normal] at same
      simp [← same] at changed
    simp [PlayerServer.setPlaybackSpeed, PlayerServer.onEngine, active, other, found]
  · rename_i unset
    have same : mem.recoverConfig.speedMode = speedForward100X := by simpa using unset
    simp [PlayerServer.ext_iff, Engine.ext_iff, found, fresh, normal, same]

theorem recoverPosition_eq (media : Media) (found : server.engine = some engine)
    (prepared : server.lastOpStatus = .prepared) (fresh : engine.position = 0) :
    mem.recoverPosition media server =
      some { server with
        engine := some { engine with position := mem.recoverConfig.currentTime } } := by
  have active : server.active = true := by simp [PlayerServer.active, prepared]
  rw [recoverPosition, PlayerServer.callIf]
  split
  · simp [PlayerServer.seek, PlayerServer.onEngine, Engine.seek, active, found]
  · rename_i start
    have zero : mem.recoverConfig.currentTime = 0 := by simpa using start
    simp [PlayerServer.ext_iff, Engine.ext_iff, found, fresh, zero]

theorem recoverAudioTrack_eq (found : server.engine = some engine)
    (prepared : server.lastOpStatus = .prepared) :
    mem.recoverAudioTrack server =
      some { server with
        engine := some { engine with
          audioTrack :=
            if mem.needSelectAudioTrack then mem.recoverConfig.audioIndex
            else engine.audioTrack } } := by
  have active : server.active = true := by simp [PlayerServer.active, prepared]
  rw [recoverAudioTrack, PlayerServer.callIf]
  split
  · simp [PlayerServer.selectTrack, PlayerServer.onEngine, Engine.selectTrack, active, found]
  · simp [PlayerServer.ext_iff, found]

end Prepared

theorem prepare_initializedServer (media : Media) (config : RecoverConfigInfo) (source : Source)
    (wasReset : WasReset server) :
    (config.initializedServer source server).prepare media =
      some { config.initializedServer source server with
        lastOpStatus := .prepared
        engine := some (config.preparedEngine media source
          (config.surface.or server.surface)) } := by
  have effect : (if config.effectMode = effectDefault then effectDefault else config.effectMode) =
      config.effectMode := by
    split
    · rename_i same
      exact same.symm
    · rfl
  simp [PlayerServer.prepare, PlayerServer.onEngine, PlayerServer.prepareEngine,
    initializedServer, preparedEngine,
    newEngine, Engine.initTracks, wasReset.speedMode, effect]

theorem recoverToPrepared (media : Media) {source : Source} (wasReset : WasReset server)
    (known : mem.recoverConfig.recordedSource server.uriHelper = some source)
    (valid : mem.recoverConfig.VolumeValid) :
    server.attempt (mem.memRecoverToPrepared media) =
      (mem.recoverConfig.preparedServer media source mem.needSelectAudioTrack server, true) := by
  have first := recoverToInitialized wasReset known valid
  have steps : mem.memRecoverToPrepared media = mem.memRecoverToInitialized ++
      (PlayerServer.prepare media :: mem.addSubSourceInternal ::
        mem.setBehaviorInternal media) := by
    simp [memRecoverToPrepared, memRecoverToInitialized]
  let prepared : PlayerServer := { mem.recoverConfig.initializedServer source server with
    lastOpStatus := .prepared
    engine := some (mem.recoverConfig.preparedEngine media source
      (mem.recoverConfig.surface.or server.surface)) }
  let titled : PlayerServer := { prepared with
    engine := some { mem.recoverConfig.preparedEngine media source
      (mem.recoverConfig.surface.or server.surface) with
        subSources := mem.recoverConfig.subSources.take PlayerServer.maxSubtitleTrackNum } }
  have subSources : mem.addSubSourceInternal prepared = some titled := by
    rw [addSubSourceInternal, PlayerServer.foldl_addSubSource _ (show prepared.engine = some _
      from rfl)]
    rfl
  let rated : PlayerServer := { titled with
    engine := titled.engine.map fun engine =>
      { engine with bitRate := mem.recoverConfig.bitRate } }
  have bitRate : mem.recoverBitRate titled = some rated := recoverBitRate_eq rfl rfl
  let sped : PlayerServer := { rated with
    engine := rated.engine.map fun engine =>
      { engine with speed := .mode mem.recoverConfig.speedMode }
    speedMode := mem.recoverConfig.speedMode }
  have speed : mem.recoverSpeed rated = some sped :=
    recoverSpeed_eq rfl rfl rfl wasReset.speedMode
  let sought : PlayerServer := { sped with
    engine := sped.engine.map fun engine =>
      { engine with position := mem.recoverConfig.currentTime } }
  have position : mem.recoverPosition media sped = some sought :=
    recoverPosition_eq media rfl rfl rfl
  let heard : PlayerServer := { sought with
    engine := sought.engine.map fun engine =>
      { engine with
        audioTrack :=
          if mem.needSelectAudioTrack then mem.recoverConfig.audioIndex else engine.audioTrack } }
  have audioTrack : mem.recoverAudioTrack sought = some heard := recoverAudioTrack_eq rfl rfl
  rw [steps, PlayerServer.attempt_append, first, if_pos rfl,
    PlayerServer.attempt_cons (prepare_initializedServer media mem.recoverConfig source wasReset),
    PlayerServer.attempt_cons subSources, setBehaviorInternal, PlayerServer.attempt_cons bitRate,
    PlayerServer.attempt_cons speed, PlayerServer.attempt_cons position,
    PlayerServer.attempt_cons audioTrack, PlayerServer.attempt]
  rfl

theorem recoverToPrepared_fails (media : Media) (wasReset : WasReset server)
    (unable : mem.recoverConfig.recordedSource server.uriHelper = none ∨
      ¬ mem.recoverConfig.VolumeValid) :
    (server.attempt (mem.memRecoverToPrepared media)).2 = false := by
  have first := recoverToInitialized_fails wasReset unable
  have steps : mem.memRecoverToPrepared media = mem.memRecoverToInitialized ++
      (PlayerServer.prepare media :: mem.addSubSourceInternal ::
        mem.setBehaviorInternal media) := by
    simp [memRecoverToPrepared, memRecoverToInitialized]
  rw [steps, PlayerServer.attempt_append, if_neg (by simp [first]), first]

theorem recoverToCompleted_ne (media : Media) (wasReset : WasReset server)
    {before : PlayerServer} (completed : before.lastOpStatus = .playbackComplete) :
    server.attempt (mem.memRecoverToCompleted media) ≠ (before, true) := by
  intro same
  have steps : mem.memRecoverToCompleted media = mem.memRecoverToInitialized ++
      (PlayerServer.prepare media :: mem.addSubSourceInternal :: mem.setPlaybackSpeedInternal) := by
    simp [memRecoverToCompleted, memRecoverToInitialized]
  rcases mem.recoverConfig.able_or_unable server.uriHelper with ⟨source, known, valid⟩ | unable
  · have keeps : ∀ step ∈ mem.addSubSourceInternal :: mem.setPlaybackSpeedInternal,
        ∀ server next : PlayerServer, step server = some next →
          server.lastOpStatus = .prepared ∧ server.engine.isSome →
            next.lastOpStatus = .prepared ∧ next.engine.isSome := by
      intro step member server next answer kept
      rcases Option.isSome_iff_exists.mp kept.2 with ⟨engine, found⟩
      have active : server.active = true := by simp [PlayerServer.active, kept.1]
      simp only [setPlaybackSpeedInternal, List.mem_cons, List.not_mem_nil, or_false] at member
      rcases member with rfl | rfl | rfl | rfl
      · rw [addSubSourceInternal, PlayerServer.foldl_addSubSource _ found, Option.some.injEq]
          at answer
        rw [← answer]
        exact ⟨kept.1, rfl⟩
      · simp only [recoverSpeed, PlayerServer.callIf, PlayerServer.setPlaybackSpeed, active,
          PlayerServer.onEngine, found] at answer
        grind
      · simp only [recoverBitRate, PlayerServer.callIf, PlayerServer.selectBitRate,
          PlayerServer.onEngine, found] at answer
        grind
      · simp only [recoverAudioTrack, PlayerServer.callIf, PlayerServer.selectTrack, active,
          PlayerServer.onEngine, found] at answer
        grind
    have first := recoverToInitialized wasReset known valid
    rw [steps, PlayerServer.attempt_append, first, if_pos rfl, PlayerServer.attempt_cons
      (prepare_initializedServer media mem.recoverConfig source wasReset)] at same
    let prepared : PlayerServer := { mem.recoverConfig.initializedServer source server with
      lastOpStatus := .prepared
      engine := some (mem.recoverConfig.preparedEngine media source
        (mem.recoverConfig.surface.or server.surface)) }
    have initially : prepared.lastOpStatus = .prepared ∧ prepared.engine.isSome = true :=
      ⟨rfl, rfl⟩
    have status := PlayerServer.attempt_keeps
      (fun server => server.lastOpStatus = .prepared ∧ server.engine.isSome = true) keeps initially
    rw [same, completed] at status
    cases status.1
  · have fails := recoverToInitialized_fails wasReset unable
    rw [steps, PlayerServer.attempt_append, if_neg (by simp [fails])] at same
    rw [same] at fails
    cases fails

end PlayerServerMem

end PlayerFramework.PlayerMem
