import PlayerFramework.SoundPool.CacheCorrespondence

/-!
Which steps keep the id lists and the idle cache in correspondence, and the order of steps that
leaves an id without a renderer behind.
-/

namespace PlayerFramework.SoundPool

open AudioRendererManager

theorem AudioRendererManager.nextGlobalId_pos (globalIdNext : Nat) :
    0 < nextGlobalId globalIdNext := by
  unfold nextGlobalId
  split <;> omega

namespace Renderers

variable (owners : StreamOwners)

/-- The condition on a step.  A `PreparePlay` that finds its renderer in the cache leaves the
entry that it found it by to some other thread; `GetGlobalId` gives an id that nothing has; what
`Stop` lists is still cached, or will be delisted, and is of a loaded sound, or of one that is
still being unloaded. -/
def keepsLists (state : Renderers) : Move → Prop
  | .advance thread _ =>
    match state.threads thread with
    | .getAudioRenderer _ globalId =>
      globalId ∈ state.cachedIds → ∀ manager soundId,
        (soundId, globalId) ∈ state.globalIdVector manager →
          state.DelistedBesides owners thread manager soundId globalId
    | .nextGlobalId _ _ =>
      state.Unused (nextGlobalId state.globalIdNext)
    | .setGlobalId stream globalId _ =>
      state.globalIdMutex (owners.manager stream) = none → (globalId ∈ state.cachedIds ∨
          state.Delisted owners (owners.manager stream) (owners.soundId stream) globalId) ∧
        (state.unloaded (owners.manager stream) (owners.soundId stream) = true →
          state.Unloading (owners.manager stream) (owners.soundId stream))
    | _ => True
  | _ => True

variable {owners} {state : Renderers} {stream thread : Nat}

variable {after : AfterStop} {globalId manager soundId : Nat} {next : Renderers}

theorem Carries.nextGlobalId {before : RendererStage}
    (carries : Carries owners before after.stage) :
    Carries owners before (.nextGlobalId stream after) where
  delists manager soundId globalId owed := by
      have later := carries.delists manager soundId globalId owed
      cases after with
      | nothing => simp [AfterStop.stage] at later
      | unloadStream manager soundId streams => simpa [AfterStop.stage] using later
  unloads manager soundId owed := by
      have later := carries.unloads manager soundId owed
      cases after with
      | nothing => simp [AfterStop.stage] at later
      | unloadStream manager soundId streams => simpa [AfterStop.stage] using later
  lists manager soundId globalId owed := by
      have later := carries.lists manager soundId globalId owed
      cases after <;> exact later

theorem Matched.enterStop (matched : state.Matched owners)
    (carries : Carries owners (state.threads thread) after.stage) :
    (state.enterStop thread stream after).Matched owners := by
  unfold Renderers.enterStop
  split
  · split
    · exact matched.move rfl rfl rfl rfl (by constructor <;> simp) carries.nextGlobalId
    · refine matched.move rfl rfl rfl rfl ?_ carries
      constructor <;> cases after <;> simp [AfterStop.stage]
  · exact matched

theorem Matched.getAudioRenderer (matched : state.Matched owners)
    (before : state.threads thread = .getAudioRenderer stream globalId)
    (guarded : globalId ∈ state.cachedIds → ∀ manager soundId,
      (soundId, globalId) ∈ state.globalIdVector manager →
        state.DelistedBesides owners thread manager soundId globalId) (answer : Bool) :
    (state.advance owners thread answer).Matched owners := by
  simp only [Renderers.advance, before]
  cases asked : getAudioRendererInstance state.audioRendererVector
      globalId with
  | mk found rest =>
    have shorter := getAudioRendererInstance_sublist state.audioRendererVector globalId
    rw [asked] at shorter
    cases found with
    | none =>
      have absent := (getAudioRendererInstance_missing asked).1
      have threads : ((state.assign stream none).setThread thread
          (.delGlobalId stream globalId)).threads =
            Function.update state.threads thread (.delGlobalId stream globalId) := by
        simp [setThread]
      have cache : ((state.assign stream none).setThread thread
          (.delGlobalId stream globalId)).audioRendererVector = state.audioRendererVector := by
        simp [setThread]
      refine matched.move threads cache (by simp [setThread]) (by simp [setThread]) ?_ ?_
      · rw [before]
        constructor
        · simp
        · simp
        · intro asked same
          refine .inr ⟨?_, .inr same⟩
          rw [cachedIds, cache]
          exact same ▸ absent
        · simp
      · rw [before]
        constructor <;> simp
    | some entry =>
      obtain ⟨under, perm⟩ := getAudioRendererInstance_found asked
      have cached : globalId ∈ state.cachedIds := by
        rw [← under]
        exact List.mem_map.mpr ⟨entry, perm.mem_iff.mpr (List.mem_cons_self ..), rfl⟩
      have threads : (((state.setCache rest).assign stream (some entry.renderer)).setThread
          thread (.start stream)).threads =
            Function.update state.threads thread (.start stream) := by
        simp [setThread, setCache]
      have cache : (((state.setCache rest).assign stream (some entry.renderer)).setThread
          thread (.start stream)).audioRendererVector = rest := by
        simp [setThread, setCache]
      have lists : (((state.setCache rest).assign stream (some entry.renderer)).setThread
          thread (.start stream)).globalIdVector = state.globalIdVector := by
        simp [setThread, setCache]
      refine matched.drop threads (by rw [cache]; exact perm) (by rw [cache]; exact shorter)
        (fun _ => lists ▸ .refl _) (by simp [setThread, setCache])
        (by constructor <;> simp) ?_ (by simp [before]) (by simp [before]) ?_ ?_
      · intro manager soundId other different owed
        rw [before] at owed
        rcases owed with ⟨-, same⟩ | unloads
        · exact absurd (same.symm.trans under.symm) different
        · exact unloads.elim
      · intro manager soundId inList
        rw [lists, under] at inList
        obtain ⟨other, different, will⟩ := guarded cached manager soundId inList
        exact ⟨other, by rwa [threads, Function.update_of_ne different, under]⟩
      · intro manager soundId other different inList
        rwa [lists]

theorem Matched.delGlobalId (matched : state.Matched owners)
    (before : state.threads thread = .delGlobalId stream globalId) (answer : Bool) :
    (state.advance owners thread answer).Matched owners := by
  simp only [Renderers.advance, before]
  split
  · refine matched.unlist rfl rfl rfl rfl (by rw [before]; rfl) (by constructor <;> simp) ?_
      (by simp [before]) (by simp [before])
    intro manager soundId other different owed
    rw [before] at owed
    rcases owed with ⟨same, asked⟩ | unloads
    · exact absurd ⟨same.symm, asked.symm⟩ different
    · exact unloads.elim
  · exact matched

theorem Matched.deleteRemoved {removed : Nat} {managers : List Nat} (matched : state.Matched owners)
    (before : state.threads thread = .deleteRemoved stream removed managers) (answer : Bool) :
    (state.advance owners thread answer).Matched owners := by
  cases managers with
  | nil =>
    simp only [Renderers.advance, before]
    exact matched.move rfl rfl rfl rfl (by constructor <;> simp)
      (by rw [before]; constructor <;> simp)
  | cons manager managers =>
    simp only [Renderers.advance, before]
    split
    · refine matched.unlist rfl rfl rfl rfl (by rw [before]; rfl)
        (by rw [before]; constructor <;> simp_all) ?_ (by simp [before]) (by simp [before])
      intro listOf soundId other different owed
      rw [before] at owed
      rcases owed with ⟨same, inManagers⟩ | unloads
      · refine .inl ⟨same, (List.mem_cons.mp inManagers).resolve_left ?_⟩
        intro first
        exact different ⟨first, same.symm⟩
      · exact unloads.elim
    · exact matched

theorem Matched.deleteEvicted {removed : Nat} {managers : List Nat} (matched : state.Matched owners)
    (before : state.threads thread = .deleteEvicted stream globalId removed managers after)
    (answer : Bool) : (state.advance owners thread answer).Matched owners := by
  cases managers with
  | nil =>
    simp only [Renderers.advance, before]
    exact matched.move rfl rfl rfl rfl (by rw [before]; constructor <;> simp)
      (by rw [before]; constructor <;> simp)
  | cons manager managers =>
    simp only [Renderers.advance, before]
    split
    · refine matched.unlist rfl rfl rfl rfl (by rw [before]; rfl)
        (by rw [before]; constructor <;> simp_all) ?_ (by simp [before]) (by simp [before])
      intro listOf soundId other different owed
      rw [before] at owed
      rcases owed with ⟨same, inManagers⟩ | unloads
      · refine .inl ⟨same, (List.mem_cons.mp inManagers).resolve_left ?_⟩
        intro first
        exact different ⟨first, same.symm⟩
      · exact .inr unloads
    · exact matched

theorem Matched.evict {oldest : CachedRenderer} (thread : Nat) (stage : RendererStage)
    (matched : state.Matched owners)
    (cached : state.audioRendererVector = oldest :: next.audioRendererVector)
    (threads : next.threads = Function.update state.threads thread stage)
    (lists : next.globalIdVector = state.globalIdVector) (unloaded : next.unloaded = state.unloaded)
    (issued : ∀ globalId, stage.issued globalId → (state.threads thread).issued globalId)
    (stores : ∀ globalId, ¬ stage.stores globalId)
    (discards : ∀ globalId, stage.discards globalId ↔ oldest.globalId = globalId)
    (asks : ∀ globalId, ¬ stage.asks globalId)
    (delists : ∀ manager ∈ owners.managers, stage.delists owners manager oldest.globalId)
    (undelisting : ∀ manager globalId, ¬ (state.threads thread).delists owners manager globalId)
    (unloads : ∀ manager soundId, (state.threads thread).unloads manager soundId →
      stage.unloads manager soundId) (stillLists : ∀ manager soundId globalId,
      (state.threads thread).lists owners manager soundId globalId →
        stage.lists owners manager soundId globalId) : next.Matched owners := by
  have perm : state.audioRendererVector.Perm (oldest :: next.audioRendererVector) :=
    .of_eq cached
  have ids : state.cachedIds = oldest.globalId :: next.cachedIds := by
    simp [cachedIds, cached]
  have once := matched.cachedOnce
  rw [ids, List.nodup_cons] at once
  refine matched.drop threads perm (cached ▸ List.sublist_cons_self ..)
    (fun _ => lists ▸ .refl _) unloaded ⟨issued, ?_, ?_, ?_⟩ ?_ unloads stillLists ?_ ?_
  · intro globalId storing
    exact absurd storing (stores globalId)
  · intro globalId discarding
    have own := (discards globalId).mp discarding
    subst own
    exact .inr ⟨once.1, .inl (by rw [ids]; exact List.mem_cons_self ..)⟩
  · intro globalId asking
    exact absurd asking (asks globalId)
  · intro manager soundId globalId different owed
    exact .inr (unloads manager soundId (owed.resolve_left (undelisting manager globalId)))
  · intro manager soundId inList
    rw [lists] at inList
    have known := matched.known manager _ inList
    exact ⟨thread, .inl (by rw [threads, Function.update_self]; exact delists manager known)⟩
  · intro manager soundId globalId different inList
    rwa [lists]

theorem Matched.removeOldAudioRenderer (matched : state.Matched owners)
    (before : state.threads thread = .removeOldAudioRenderer stream) (answer : Bool) :
    (state.advance owners thread answer).Matched owners := by
  simp only [Renderers.advance, before]
  split
  · exact matched.move rfl rfl rfl rfl (by constructor <;> simp)
      (by rw [before]; constructor <;> simp)
  rename_i oldest rest cached
  have positive : 0 < oldest.globalId :=
    matched.positive oldest.globalId (by simp [cachedIds, cached])
  rw [if_pos positive]
  exact matched.evict thread (.deleteRemoved stream oldest.globalId owners.managers) cached
    rfl rfl rfl (by simp) (by simp) (by simp) (by simp) (by simp) (by simp [before])
      (by simp [before])
    (by simp [before])

theorem Matched.exists_pushed (matched : state.Matched owners)
    (before : state.threads thread = .setAudioRenderer stream globalId after) (renderer : Nat) :
    ∃ pushed : Renderers, pushed.Matched owners ∧ pushed.threads =
        Function.update state.threads thread (.setGlobalId stream globalId after) ∧
      pushed.audioRendererVector = state.audioRendererVector ++
        [{ globalId := globalId, renderer := renderer, manager := owners.manager stream,
           soundId := owners.soundId stream }] ∧
      pushed.globalIdVector = state.globalIdVector ∧ pushed.unloaded = state.unloaded := by
  refine ⟨{ state with
    threads := Function.update state.threads thread (.setGlobalId stream globalId after)
    audioRendererVector := state.audioRendererVector ++
      [{ globalId := globalId, renderer := renderer, manager := owners.manager stream,
         soundId := owners.soundId stream }] }, ?_, rfl, rfl, rfl, rfl⟩
  exact matched.store before rfl rfl rfl rfl rfl rfl rfl

theorem Matched.setAudioRenderer (matched : state.Matched owners)
    (before : state.threads thread = .setAudioRenderer stream globalId after) (answer : Bool) :
    (state.advance owners thread answer).Matched owners := by
  simp only [Renderers.advance, before]
  split
  · exact matched
  rename_i renderer holds
  obtain ⟨pushed, stored, threads, cache, lists, unloaded⟩ := matched.exists_pushed before renderer
  split
  · rename_i vector set
    have kept := (setAudioRendererInstance_kept set).1
    exact stored.congr threads.symm (kept.trans cache.symm) lists.symm unloaded.symm
  · rename_i evicted vector set
    have whole := setAudioRendererInstance_evicted set
    have positive : 0 < evicted.globalId := by
      refine stored.positive evicted.globalId ?_
      rw [cachedIds, cache, whole]
      exact List.mem_cons_self ..
    have atThread : pushed.threads thread = .setGlobalId stream globalId after := by
      rw [threads, Function.update_self]
    rw [if_pos positive]
    refine stored.evict thread
      (.deleteEvicted stream globalId evicted.globalId owners.managers after) (cache.trans whole)
      ?_ lists.symm unloaded.symm (by simp [atThread]) (by simp) (by simp)
      (by simp) (by simp) (by simp [atThread]) (by simp [atThread]) (by simp [atThread])
    rw [threads, Function.update_idem]
    rfl

theorem Matched.finish (matched : state.Matched owners)
    (before : state.threads thread = .delSoundId manager soundId)
    (threads : next.threads = Function.update state.threads thread .idle)
    (cache : next.audioRendererVector = state.audioRendererVector)
    (lists : next.globalIdVector = state.globalIdVector) (unloaded : next.unloaded = state.unloaded)
    (none : ParallelStreamManager.getGlobalId (state.globalIdVector manager) soundId = none) :
    next.Matched owners := by
  have sameIds : next.cachedIds = state.cachedIds := congrArg (List.map _) cache
  have notOurs {listOf sound globalId : Nat}
      (inList : (sound, globalId) ∈ state.globalIdVector listOf) :
      ¬ (manager = listOf ∧ soundId = sound) := by
    rintro ⟨rfl, rfl⟩
    exact ParallelStreamManager.getGlobalId_none none globalId inList
  refine matched.shrink threads (cache ▸ .refl _) (fun _ => lists ▸ .refl _)
    (by constructor <;> simp) ?_ ?_ ?_
  · intro listOf sound globalId inList
    rw [lists] at inList
    rw [sameIds]
    rcases matched.found listOf sound globalId inList with cached | delisted
    · exact .inl cached
    refine .inr (delisted.after threads ?_)
    rw [before]
    rintro (never | ours)
    · exact never.elim
    · exact absurd ours (notOurs inList)
  · intro entry cached
    rw [cache] at cached
    rw [lists]
    rcases matched.listed entry cached with inList | listing
    · exact .inl inList
    · exact .inr (listing.after threads (by simp [before]))
  · intro listOf sound globalId inList gone
    rw [lists] at inList
    rw [unloaded] at gone
    refine (matched.loaded listOf sound globalId inList gone).after threads ?_
    rw [before]
    intro ours
    exact absurd ours (notOurs inList)

theorem Matched.delist (matched : state.Matched owners) (threads : next.threads = state.threads)
    (lists : next.globalIdVector = Function.update state.globalIdVector manager
      ((state.globalIdVector manager).eraseP fun entry => entry.1 == soundId))
    (unloaded : next.unloaded = state.unloaded)
    (got : ParallelStreamManager.getGlobalId (state.globalIdVector manager) soundId = some globalId)
    (cache : getAudioRendererInstance state.audioRendererVector globalId =
        (none, next.audioRendererVector) ∨
      ∃ entry, getAudioRendererInstance state.audioRendererVector globalId =
        (some entry, next.audioRendererVector)) : next.Matched owners := by
  have perm := ParallelStreamManager.perm_of_getGlobalId got
  have inOld := ParallelStreamManager.getGlobalId_some got
  have once := (perm.map Prod.snd).nodup_iff.mp (matched.listedOnce manager)
  rw [List.map_cons, List.nodup_cons] at once
  have shorter (listOf : Nat) :
      (next.globalIdVector listOf).Sublist (state.globalIdVector listOf) := by
    rw [lists]
    by_cases same : listOf = manager
    · subst listOf
      rw [Function.update_self]
      exact List.eraseP_sublist
    · rw [Function.update_of_ne same]
  have gone (listOf sound : Nat) : (sound, globalId) ∉ next.globalIdVector listOf := by
    intro inNext
    have same := matched.listedBy listOf manager sound soundId globalId
      ((shorter listOf).subset inNext) inOld
    rw [lists, same, Function.update_self] at inNext
    exact once.1 (List.mem_map.mpr ⟨_, inNext, rfl⟩)
  have kept (listOf sound other : Nat) (different : other ≠ globalId)
      (inList : (sound, other) ∈ state.globalIdVector listOf) :
      (sound, other) ∈ next.globalIdVector listOf := by
    rw [lists]
    by_cases same : listOf = manager
    · subst listOf
      rw [Function.update_self]
      rw [perm.mem_iff, List.mem_cons] at inList
      refine inList.resolve_left ?_
      intro equal
      exact different (Prod.mk.inj equal).2
    · rwa [Function.update_of_ne same]
  have stays : next.threads = Function.update state.threads 0 (state.threads 0) := by
    rw [threads, Function.update_eq_self]
  have follows : Follows state next (state.threads 0) (state.threads 0) :=
    ⟨fun _ => id, fun _ => id, fun _ => .inl, fun _ => .inl⟩
  rcases cache with missing | ⟨entry, taken⟩
  · obtain ⟨absent, same⟩ := getAudioRendererInstance_missing missing
    have sameIds : next.cachedIds = state.cachedIds := congrArg (List.map _) same
    refine matched.shrink stays (same ▸ .refl _) shorter follows ?_ ?_ ?_
    · intro listOf sound other inNext
      rw [sameIds, Delisted, threads]
      exact matched.found listOf sound other ((shorter listOf).subset inNext)
    · intro entry cached
      rw [same] at cached
      rw [Listing, threads]
      have different : entry.globalId ≠ globalId := by
        intro equal
        exact absent (List.mem_map.mpr ⟨entry, cached, equal⟩)
      exact (matched.listed entry cached).imp_left
        (kept entry.manager entry.soundId entry.globalId different)
    · intro listOf sound other inNext wasUnloaded
      rw [unloaded] at wasUnloaded
      rw [Unloading, threads]
      exact matched.loaded listOf sound other ((shorter listOf).subset inNext) wasUnloaded
  · obtain ⟨under, out⟩ := getAudioRendererInstance_found taken
    have fewer := getAudioRendererInstance_sublist state.audioRendererVector globalId
    rw [taken] at fewer
    subst globalId
    exact matched.drop stays out fewer shorter unloaded follows
      (fun _ _ _ _ => id) (fun _ _ => id) (fun _ _ _ => id)
      (fun listOf sound inNext => absurd inNext (gone listOf sound)) kept

theorem Matched.delSoundId (matched : state.Matched owners)
    (before : state.threads thread = .delSoundId manager soundId) (answer : Bool) :
    (state.advance owners thread answer).Matched owners := by
  simp only [Renderers.advance, before]
  split
  · rename_i finished
    exact matched.finish before rfl rfl rfl rfl finished
  rename_i globalId listed
  cases taken : getAudioRendererInstance state.audioRendererVector
      globalId with
  | mk found rest =>
    refine matched.delist (by simp [setList, setCache]) ?_ (by simp [setList, setCache]) listed ?_
    · simp [setList, setCache]
    · cases found with
      | none => exact .inl (by simp [taken, setList, setCache])
      | some entry => exact .inr ⟨entry, by simp [taken, setList, setCache]⟩

/-- The step lemma of the threads. -/
theorem Matched.advance (matched : state.Matched owners) (answer : Bool)
    (kept : state.keepsLists owners (.advance thread answer)) :
    (state.advance owners thread answer).Matched owners := by
  cases before : state.threads thread with
  | idle => simpa only [Renderers.advance, before] using matched
  | getGlobalId stream =>
    have plain (stage : RendererStage) : Carries owners (state.threads thread) stage := by
      rw [before]
      constructor <;> simp
    simp only [Renderers.advance, before]
    split
    · split
      · rename_i globalId listed
        have inList := ParallelStreamManager.getGlobalId_some listed
        split
        · refine matched.move rfl rfl rfl rfl ⟨by simp, by simp, by simp, ?_⟩ (plain _)
          intro asked same
          subst asked
          exact .inr ⟨_, _, inList⟩
        · exact matched.move rfl rfl rfl rfl (by constructor <;> simp) (plain _)
      · exact matched.move rfl rfl rfl rfl (by constructor <;> simp) (plain _)
    · exact matched
  | getAudioRenderer stream globalId =>
    simp only [keepsLists, before] at kept
    exact matched.getAudioRenderer before kept answer
  | delGlobalId stream globalId => exact matched.delGlobalId before answer
  | createAudioRenderer stream again =>
    have plain (stage : RendererStage) : Carries owners (state.threads thread) stage := by
      rw [before]
      constructor <;> simp
    simp only [Renderers.advance, before]
    split
    · exact matched.move rfl rfl rfl rfl (by constructor <;> simp) (plain _)
    split
    · exact matched.move rfl rfl rfl rfl (by constructor <;> simp) (plain _)
    · split
      · exact matched.move rfl rfl rfl rfl (by constructor <;> simp) (plain _)
      · exact matched.move rfl rfl rfl rfl (by constructor <;> simp) (plain _)
  | removeOldAudioRenderer stream => exact matched.removeOldAudioRenderer before answer
  | deleteRemoved stream removed managers => exact matched.deleteRemoved before answer
  | start stream =>
    simp only [Renderers.advance, before]
    exact matched.move rfl rfl rfl rfl (by constructor <;> simp)
      (by rw [before]; constructor <;> simp)
  | nextGlobalId stream after =>
    simp only [keepsLists, before] at kept
    simp only [Renderers.advance, before]
    exact matched.issue before rfl rfl rfl rfl kept (nextGlobalId_pos state.globalIdNext)
  | setAudioRenderer stream globalId after => exact matched.setAudioRenderer before answer
  | deleteEvicted stream globalId removed managers after =>
    exact matched.deleteEvicted before answer
  | setGlobalId stream globalId after =>
    simp only [keepsLists, before] at kept
    simp only [Renderers.advance, before]
    split
    · rename_i free
      obtain ⟨usable, loaded⟩ := kept free
      exact matched.list before rfl rfl rfl rfl usable loaded
    · exact matched
  | unloadStream manager soundId streams =>
    cases streams with
    | nil =>
      simp only [Renderers.advance, before]
      split
      · exact matched.move rfl rfl rfl rfl (by constructor <;> simp)
          (by rw [before]; constructor <;> simp)
      · exact matched
    | cons stream streams =>
      simp only [Renderers.advance, before]
      refine matched.enterStop ?_
      rw [before]
      constructor <;> simp [AfterStop.stage]
  | delSoundId manager soundId => exact matched.delSoundId before answer

theorem Matched.step (matched : state.Matched owners) (move : Move)
    (kept : state.keepsLists owners move) : (state.step owners move).Matched owners := by
  cases move with
  | doPlay thread stream =>
    simp only [Renderers.step]
    split
    · rename_i free
      exact matched.move rfl rfl rfl rfl (by constructor <;> simp)
        (by rw [free.1]; constructor <;> simp)
    · exact matched
  | stop thread stream =>
    simp only [Renderers.step]
    split
    · rename_i idle
      refine matched.enterStop ?_
      rw [idle]
      constructor <;> simp
    · exact matched
  | unloadStream thread manager soundId streams =>
    simp only [Renderers.step]
    split
    · rename_i idle
      exact matched.unload idle rfl rfl rfl rfl
    · exact matched
  | advance thread answer => exact matched.advance answer kept

theorem Matched.initial : Renderers.initial.Matched owners where
  cachedOnce := List.nodup_nil
  positive := by simp [Renderers.initial, cachedIds]
  listedOnce := by simp [Renderers.initial]
  listedBy := by simp [Renderers.initial]
  known := by simp [Renderers.initial]
  found := by simp [Renderers.initial]
  listed := by simp [Renderers.initial]
  loaded := by simp [Renderers.initial]
  unlisted := by simp [Renderers.initial]
  issuedOnce := by simp [Renderers.initial]
  stored := by simp [Renderers.initial]
  discarded := by simp [Renderers.initial]

/-- Between operations the invariant leaves the correspondence. -/
theorem Matched.corresponds (matched : state.Matched owners) (quiet : state.Quiet) :
    state.Corresponds := by
  have settled : ∀ entry ∈ state.audioRendererVector,
      (entry.soundId, entry.globalId) ∈ state.globalIdVector entry.manager := by
    intro entry cached
    rcases matched.listed entry cached with inList | ⟨other, listing⟩
    · exact inList
    · rw [quiet other] at listing
      exact listing.elim
  exact {
    cachedOnce := matched.cachedOnce
    listedOnce := matched.listedOnce
    same := by
      intro manager soundId globalId
      constructor
      · intro inList
        rcases matched.found manager soundId globalId inList with cached | ⟨other, delists⟩
        · obtain ⟨entry, inCache, under⟩ := List.mem_map.mp cached
          have entryListed := settled entry inCache
          rw [under] at entryListed
          have managerSame := matched.listedBy _ _ _ _ _ entryListed inList
          rw [managerSame] at entryListed
          have soundSame := List.inj_on_of_nodup_map (matched.listedOnce manager) entryListed
            inList rfl
          exact ⟨entry, inCache, managerSame, (Prod.mk.inj soundSame).1, under⟩
        · rw [quiet other] at delists
          simp at delists
      · rintro ⟨entry, inCache, rfl, rfl, rfl⟩
        exact settled entry inCache
    loaded := by
      intro entry inCache
      by_contra gone
      obtain ⟨other, unloads⟩ := matched.loaded _ _ _ (settled entry inCache) (by simpa using gone)
      rw [quiet other] at unloads
      exact unloads }

structure IdleCache (state : Renderers) : Prop where
  within : state.audioRendererVector.length ≤ audioRendererMaxNum
  owned : state.Owned
  corresponds : state.Quiet → state.Corresponds

/-- The cache and the owners are right on every run, and the lists match the cache on every run
whose steps keep them. -/
theorem idleCache_of_keepsLists {moves : List Move}
    (kept : Transition.Along (step owners) (keepsLists owners) initial moves) :
    (Transition.run (step owners) initial moves).IdleCache := by
  have bounded : (Transition.run (step owners) initial moves).Bounded :=
    Transition.invariant_of_run Bounded (fun _ move bounded => bounded.step owners move) moves
      Bounded.initial
  have matched : (Transition.run (step owners) initial moves).Matched owners :=
    Transition.invariant_of_along (Matched owners)
      (fun _ move matched guarded => matched.step move guarded) kept Matched.initial
  exact ⟨bounded.within, bounded.owned, matched.corresponds⟩

/-- One manager, whose streams are of one sound. -/
def soleManager : StreamOwners where
  managers := [0]
  manager _ := 0
  soundId _ := 7
  known _ := List.mem_singleton_self 0

def playedOnce : List Move :=
  [.doPlay 0 0, .advance 0 true, .advance 0 true, .advance 0 true,
   .stop 0 0, .advance 0 true, .advance 0 true, .advance 0 true]

theorem idleCache_of_playedOnce :
    (Transition.run (step soleManager) initial playedOnce).IdleCache := by
  refine idleCache_of_keepsLists
    ⟨trivial, trivial, trivial, trivial, trivial, ?_, trivial, ?_, trivial⟩
  · constructor
    · decide
    · intro manager soundId
      exact List.not_mem_nil
    · intro thread issued
      cases thread <;> exact issued
    · intro thread discards
      cases thread <;> exact discards
    · intro thread asks
      cases thread <;> exact asks
  · intro free
    exact ⟨.inl (by decide), fun gone => absurd gone (by decide)⟩

/-- Another stream of the sound takes the cached renderer over: its id stays listed. -/
theorem id_left_by_reuse : ¬ (Transition.run (step soleManager) initial (playedOnce ++
      [Move.doPlay 0 1, .advance 0 true, .advance 0 true, .advance 0 true])).IdleCache := by
  intro idleCache
  have quiet : (Transition.run (step soleManager) initial (playedOnce ++
      [Move.doPlay 0 1, .advance 0 true, .advance 0 true, .advance 0 true])).Quiet := by
    intro thread
    cases thread <;> rfl
  have listed : (7, 1) ∈ (Transition.run (step soleManager) initial (playedOnce ++
      [Move.doPlay 0 1, .advance 0 true, .advance 0 true, .advance 0 true])).globalIdVector 0 := by
    decide
  obtain ⟨entry, cached, -⟩ := ((idleCache.corresponds quiet).same 0 7 1).mp listed
  exact List.not_mem_nil cached

end Renderers

end PlayerFramework.SoundPool
