import PlayerFramework.SoundPool.RendererOwnership

/-!
When the id lists of the managers and the cached renderers match.

The invariant speaks of a list entry that some thread will still take off and of a cached
renderer that some thread will still list; between operations there is neither.
-/

namespace PlayerFramework.SoundPool

open Function

/-- The rest of `UnloadStream` is still to be done. -/
@[simp] def AfterStop.unloads (manager soundId : Nat) : AfterStop → Prop
  | .nothing => False
  | .unloadStream unloaded sound _ => unloaded = manager ∧ sound = soundId

namespace ParallelStreamManager

variable {globalIdVector : List (Nat × Nat)} {soundId globalId : Nat}

theorem getGlobalId_some (got : getGlobalId globalIdVector soundId = some globalId) :
    (soundId, globalId) ∈ globalIdVector := by
  obtain ⟨entry, found, same⟩ := Option.map_eq_some_iff.mp got
  have sound := List.find?_some found
  have inList := List.mem_of_find?_eq_some found
  simp only [beq_iff_eq] at sound
  rwa [← sound, ← same]

theorem getGlobalId_none (got : getGlobalId globalIdVector soundId = none) (globalId : Nat) :
    (soundId, globalId) ∉ globalIdVector := by
  intro inList
  have absent := List.find?_eq_none.mp (Option.map_eq_none_iff.mp got)
  exact absent (soundId, globalId) inList (by simp)

theorem perm_of_getGlobalId (got : getGlobalId globalIdVector soundId = some globalId) :
    globalIdVector.Perm ((soundId, globalId) ::
      globalIdVector.eraseP (fun entry => entry.1 == soundId)) := by
  induction globalIdVector with
  | nil => simp [getGlobalId] at got
  | cons entry rest ih =>
    by_cases same : entry.1 = soundId
    · have first : entry.2 = globalId := by simpa [getGlobalId, same] using got
      have whole : entry = (soundId, globalId) := Prod.ext same first
      rw [whole, List.eraseP_cons_of_pos (by simp)]
    · have later : getGlobalId rest soundId = some globalId := by
        simpa [getGlobalId, same] using got
      have kept := (ih later).cons entry
      simp only [List.eraseP_cons, beq_eq_false_iff_ne.mpr same, cond_false]
      exact kept.trans (List.Perm.swap ..)

theorem delGlobalId_sublist (globalIdVector : List (Nat × Nat)) (globalId : Nat) :
    (delGlobalId globalIdVector globalId).Sublist globalIdVector :=
  List.eraseP_sublist

theorem mem_delGlobalId (once : (globalIdVector.map Prod.snd).Nodup) (entry : Nat × Nat) :
    entry ∈ delGlobalId globalIdVector globalId ↔ entry ∈ globalIdVector ∧ entry.2 ≠ globalId := by
  induction globalIdVector with
  | nil => simp [delGlobalId]
  | cons first rest ih =>
    rw [List.map_cons, List.nodup_cons] at once
    by_cases same : first.2 = globalId
    · have erased : delGlobalId (first :: rest) globalId = rest := by
        simp [delGlobalId, same]
      rw [erased, List.mem_cons]
      constructor
      · intro inRest
        refine ⟨.inr inRest, ?_⟩
        intro equal
        exact once.1 (List.mem_map.mpr ⟨entry, inRest, equal.trans same.symm⟩)
      · rintro ⟨rfl | inRest, different⟩
        · exact absurd same different
        · exact inRest
    · have kept : delGlobalId (first :: rest) globalId = first :: delGlobalId rest globalId := by
        simp [delGlobalId, same]
      rw [kept, List.mem_cons, ih once.2, List.mem_cons]
      constructor
      · rintro (rfl | ⟨inRest, different⟩)
        · exact ⟨.inl rfl, same⟩
        · exact ⟨.inr inRest, different⟩
      · rintro ⟨rfl | inRest, different⟩
        · exact .inl rfl
        · exact .inr ⟨inRest, different⟩

end ParallelStreamManager

namespace RendererStage

variable (owners : StreamOwners)

/-- A thread at this stage will still do `DelSoundId`. -/
@[simp] def unloads (manager soundId : Nat) : RendererStage → Prop
  | .nextGlobalId _ after => after.unloads manager soundId
  | .setAudioRenderer _ _ after => after.unloads manager soundId
  | .deleteEvicted _ _ _ _ after => after.unloads manager soundId
  | .setGlobalId _ _ after => after.unloads manager soundId
  | .unloadStream unloaded sound _ => unloaded = manager ∧ sound = soundId
  | .delSoundId unloaded sound => unloaded = manager ∧ sound = soundId
  | _ => False

/-- A thread at this stage will still take the id off the manager's list.  One that asks the
cache for a renderer does so where the cache has none. -/
@[simp] def delists (manager globalId : Nat) : RendererStage → Prop
  | .getAudioRenderer stream asked => owners.manager stream = manager ∧ asked = globalId
  | .delGlobalId stream asked => owners.manager stream = manager ∧ asked = globalId
  | .deleteRemoved _ removed managers => removed = globalId ∧ manager ∈ managers
  | .deleteEvicted _ _ removed managers _ => removed = globalId ∧ manager ∈ managers
  | _ => False

/-- A thread at this stage will still list the id. -/
@[simp] def lists (manager soundId globalId : Nat) : RendererStage → Prop
  | .deleteEvicted stream own _ _ _ =>
    owners.manager stream = manager ∧ owners.soundId stream = soundId ∧ own = globalId
  | .setGlobalId stream own _ =>
    owners.manager stream = manager ∧ owners.soundId stream = soundId ∧ own = globalId
  | _ => False

/-- The id that `Stop` is about to cache a renderer under. -/
@[simp] def stores (globalId : Nat) : RendererStage → Prop
  | .setAudioRenderer _ own _ => own = globalId
  | _ => False

/-- The id that `Stop` was given, until it is listed. -/
@[simp] def issued (globalId : Nat) : RendererStage → Prop
  | .setAudioRenderer _ own _ => own = globalId
  | .deleteEvicted _ own _ _ _ => own = globalId
  | .setGlobalId _ own _ => own = globalId
  | _ => False

/-- The id is known to be out of the cache. -/
@[simp] def discards (globalId : Nat) : RendererStage → Prop
  | .delGlobalId _ asked => asked = globalId
  | .deleteRemoved _ removed _ => removed = globalId
  | .deleteEvicted _ _ removed _ _ => removed = globalId
  | _ => False

@[simp] def asks (globalId : Nat) : RendererStage → Prop
  | .getAudioRenderer _ asked => asked = globalId
  | _ => False

theorem issued_of_stores {stage : RendererStage} {globalId : Nat}
    (stores : stage.stores globalId) : stage.issued globalId := by
  cases stage <;> first | exact stores | exact stores.elim

end RendererStage

namespace Renderers

variable (owners : StreamOwners)

def cachedIds (state : Renderers) : List Nat :=
  state.audioRendererVector.map CachedRenderer.globalId

/-- Some thread that is not `thread` will still take the id off the manager's list. -/
def DelistedBesides (state : Renderers) (thread manager soundId globalId : Nat) : Prop :=
  ∃ other, other ≠ thread ∧ ((state.threads other).delists owners manager globalId ∨
    (state.threads other).unloads manager soundId)

def Delisted (state : Renderers) (manager soundId globalId : Nat) : Prop :=
  ∃ other, (state.threads other).delists owners manager globalId ∨
    (state.threads other).unloads manager soundId

def Unloading (state : Renderers) (manager soundId : Nat) : Prop :=
  ∃ other, (state.threads other).unloads manager soundId

def Listing (state : Renderers) (manager soundId globalId : Nat) : Prop :=
  ∃ other, (state.threads other).lists owners manager soundId globalId

/-- No list, no cached renderer and no thread has the id. -/
structure Unused (state : Renderers) (globalId : Nat) : Prop where
  uncached : globalId ∉ state.cachedIds
  unlisted : ∀ manager soundId, (soundId, globalId) ∉ state.globalIdVector manager
  unissued : ∀ thread, ¬ (state.threads thread).issued globalId
  undiscarded : ∀ thread, ¬ (state.threads thread).discards globalId
  unasked : ∀ thread, ¬ (state.threads thread).asks globalId

/-- What the lists and the cache have to do with each other while threads are at work. -/
structure Matched (state : Renderers) : Prop where
  cachedOnce : state.cachedIds.Nodup
  positive : ∀ globalId ∈ state.cachedIds, 0 < globalId
  listedOnce : ∀ manager, ((state.globalIdVector manager).map Prod.snd).Nodup
  listedBy : ∀ first second soundId sound globalId,
    (soundId, globalId) ∈ state.globalIdVector first →
      (sound, globalId) ∈ state.globalIdVector second → first = second
  known : ∀ manager entry, entry ∈ state.globalIdVector manager → manager ∈ owners.managers
  found : ∀ manager soundId globalId, (soundId, globalId) ∈ state.globalIdVector manager →
    globalId ∈ state.cachedIds ∨ state.Delisted owners manager soundId globalId
  listed : ∀ entry ∈ state.audioRendererVector,
    (entry.soundId, entry.globalId) ∈ state.globalIdVector entry.manager ∨
      state.Listing owners entry.manager entry.soundId entry.globalId
  loaded : ∀ manager soundId globalId, (soundId, globalId) ∈ state.globalIdVector manager →
    state.unloaded manager soundId = true → state.Unloading manager soundId
  unlisted : ∀ thread globalId, (state.threads thread).issued globalId →
    ∀ manager soundId, (soundId, globalId) ∉ state.globalIdVector manager
  issuedOnce : ∀ first second globalId, (state.threads first).issued globalId →
    (state.threads second).issued globalId → first = second
  stored : ∀ thread globalId, (state.threads thread).stores globalId →
    0 < globalId ∧ globalId ∉ state.cachedIds ∧
      ∀ other, ¬ (state.threads other).discards globalId ∧ ¬ (state.threads other).asks globalId
  discarded : ∀ thread globalId, (state.threads thread).discards globalId →
    globalId ∉ state.cachedIds

def Quiet (state : Renderers) : Prop :=
  ∀ thread, state.threads thread = .idle

/-- The list entries are the cached renderers, one each, and all of loaded sounds. -/
structure Corresponds (state : Renderers) : Prop where
  cachedOnce : state.cachedIds.Nodup
  listedOnce : ∀ manager, ((state.globalIdVector manager).map Prod.snd).Nodup
  same : ∀ manager soundId globalId, (soundId, globalId) ∈ state.globalIdVector manager ↔
      ∃ entry ∈ state.audioRendererVector,
        entry.manager = manager ∧ entry.soundId = soundId ∧ entry.globalId = globalId
  loaded : ∀ entry ∈ state.audioRendererVector, state.unloaded entry.manager entry.soundId = false

variable {owners} {state next : Renderers} {thread : Nat} {stage : RendererStage}

variable {manager soundId globalId stream : Nat}

theorem Delisted.after (delisted : state.Delisted owners manager soundId globalId)
    (threads : next.threads = update state.threads thread stage)
    (kept : (state.threads thread).delists owners manager globalId ∨
        (state.threads thread).unloads manager soundId →
      stage.delists owners manager globalId ∨ stage.unloads manager soundId) :
    next.Delisted owners manager soundId globalId := by
  obtain ⟨other, will⟩ := delisted
  by_cases same : other = thread
  · subst other
    exact ⟨thread, by rw [threads, update_self]; exact kept will⟩
  · exact ⟨other, by rw [threads, update_of_ne same]; exact will⟩

theorem Unloading.after (unloading : state.Unloading manager soundId)
    (threads : next.threads = update state.threads thread stage)
    (kept : (state.threads thread).unloads manager soundId → stage.unloads manager soundId) :
    next.Unloading manager soundId := by
  obtain ⟨other, will⟩ := unloading
  by_cases same : other = thread
  · subst other
    exact ⟨thread, by rw [threads, update_self]; exact kept will⟩
  · exact ⟨other, by rw [threads, update_of_ne same]; exact will⟩

theorem Listing.after (listing : state.Listing owners manager soundId globalId)
    (threads : next.threads = update state.threads thread stage)
    (kept : (state.threads thread).lists owners manager soundId globalId →
      stage.lists owners manager soundId globalId) :
    next.Listing owners manager soundId globalId := by
  obtain ⟨other, will⟩ := listing
  by_cases same : other = thread
  · subst other
    exact ⟨thread, by rw [threads, update_self]; exact kept will⟩
  · exact ⟨other, by rw [threads, update_of_ne same]; exact will⟩

theorem of_update {threads : Nat → RendererStage} {does : RendererStage → Prop} {other : Nat}
    (holds : does (update threads thread stage other))
    (before : does stage → does (threads thread)) : does (threads other) := by
  by_cases same : other = thread
  · subst other
    rw [update_self] at holds
    exact before holds
  · rwa [update_of_ne same] at holds

theorem Matched.congr (matched : state.Matched owners) (threads : next.threads = state.threads)
    (cache : next.audioRendererVector = state.audioRendererVector)
    (lists : next.globalIdVector = state.globalIdVector)
    (unloaded : next.unloaded = state.unloaded) : next.Matched owners := by
  cases state
  cases next
  subst threads cache lists unloaded
  exact { matched with }

/-- The stage after another: it has no id of its own that it did not have. -/
structure Follows (state next : Renderers) (before after : RendererStage) :
    Prop where
  issued : ∀ globalId, after.issued globalId → before.issued globalId
  stores : ∀ globalId, after.stores globalId → before.stores globalId
  discards : ∀ globalId, after.discards globalId → before.discards globalId ∨
    globalId ∉ next.cachedIds ∧ (globalId ∈ state.cachedIds ∨ before.asks globalId)
  asks : ∀ globalId, after.asks globalId → before.asks globalId ∨
    ∃ manager soundId, (soundId, globalId) ∈ state.globalIdVector manager

/-- Neither the cache nor a list grows: what is left of the invariant is what the entries that
remain owe to each other. -/
theorem Matched.shrink (matched : state.Matched owners)
    (threads : next.threads = update state.threads thread stage)
    (cache : next.audioRendererVector.Sublist state.audioRendererVector)
    (lists : ∀ manager, (next.globalIdVector manager).Sublist (state.globalIdVector manager))
    (follows : Follows state next (state.threads thread) stage)
    (found : ∀ manager soundId globalId, (soundId, globalId) ∈ next.globalIdVector manager →
      globalId ∈ next.cachedIds ∨ next.Delisted owners manager soundId globalId)
    (listed : ∀ entry ∈ next.audioRendererVector,
      (entry.soundId, entry.globalId) ∈ next.globalIdVector entry.manager ∨
        next.Listing owners entry.manager entry.soundId entry.globalId)
    (loaded : ∀ manager soundId globalId, (soundId, globalId) ∈ next.globalIdVector manager →
      next.unloaded manager soundId = true → next.Unloading manager soundId) :
    next.Matched owners where
  cachedOnce := (cache.map CachedRenderer.globalId).nodup matched.cachedOnce
  positive globalId cached :=
    matched.positive globalId ((cache.map CachedRenderer.globalId).subset cached)
  listedOnce manager := ((lists manager).map Prod.snd).nodup (matched.listedOnce manager)
  listedBy first second soundId sound globalId inFirst inSecond :=
    matched.listedBy first second soundId sound globalId ((lists first).subset inFirst)
      ((lists second).subset inSecond)
  known manager entry inList := matched.known manager entry ((lists manager).subset inList)
  found := found
  listed := listed
  loaded := loaded
  unlisted other globalId issued manager soundId inList := by
      rw [threads] at issued
      have before := of_update issued (follows.issued globalId)
      exact matched.unlisted other globalId before manager soundId ((lists manager).subset inList)
  issuedOnce first second globalId firstIssued secondIssued := by
      rw [threads] at firstIssued secondIssued
      exact matched.issuedOnce first second globalId
        (of_update firstIssued (follows.issued globalId))
        (of_update secondIssued (follows.issued globalId))
  stored other globalId stores := by
      rw [threads] at stores
      obtain ⟨positive, uncached, alone⟩ :=
        matched.stored other globalId (of_update stores (follows.stores globalId))
      have uncachedNext : globalId ∉ next.cachedIds := by
        intro cached
        exact uncached ((cache.map CachedRenderer.globalId).subset cached)
      refine ⟨positive, uncachedNext, ?_⟩
      intro user
      rw [threads]
      by_cases same : user = thread
      · rw [same, update_self]
        obtain ⟨undiscarded, unasked⟩ := alone thread
        constructor
        · intro discards
          rcases follows.discards globalId discards with before | ⟨-, cached | asked⟩
          · exact undiscarded before
          · exact uncached cached
          · exact unasked asked
        · intro asks
          rcases follows.asks globalId asks with before | ⟨manager, soundId, inList⟩
          · exact unasked before
          · have issued := RendererStage.issued_of_stores
              (of_update stores (follows.stores globalId))
            exact matched.unlisted other globalId issued manager soundId inList
      · rw [update_of_ne same]
        exact alone user
  discarded other globalId discards := by
      rw [threads] at discards
      by_cases same : other = thread
      · rw [same, update_self] at discards
        rcases follows.discards globalId discards with before | ⟨uncached, -⟩
        · intro cached
          exact matched.discarded thread globalId before
            ((cache.map CachedRenderer.globalId).subset cached)
        · exact uncached
      · rw [update_of_ne same] at discards
        intro cached
        exact matched.discarded other globalId discards
          ((cache.map CachedRenderer.globalId).subset cached)

/-- The stage after another, where the thread still owes what it owed. -/
structure Carries (owners : StreamOwners) (before after : RendererStage) : Prop where
  delists : ∀ manager soundId globalId,
    before.delists owners manager globalId ∨ before.unloads manager soundId →
      after.delists owners manager globalId ∨ after.unloads manager soundId
  unloads : ∀ manager soundId, before.unloads manager soundId → after.unloads manager soundId
  lists : ∀ manager soundId globalId, before.lists owners manager soundId globalId →
    after.lists owners manager soundId globalId

theorem Matched.move (matched : state.Matched owners)
    (threads : next.threads = update state.threads thread stage)
    (cache : next.audioRendererVector = state.audioRendererVector)
    (lists : next.globalIdVector = state.globalIdVector)
    (unloaded : next.unloaded = state.unloaded)
    (follows : Follows state next (state.threads thread) stage)
    (carries : Carries owners (state.threads thread) stage) : next.Matched owners := by
  have sameIds : next.cachedIds = state.cachedIds := congrArg (List.map _) cache
  refine matched.shrink threads (cache ▸ .refl _) (fun _ => lists ▸ .refl _) follows ?_ ?_ ?_
  · intro manager soundId globalId inList
    rw [lists] at inList
    rw [sameIds]
    rcases matched.found manager soundId globalId inList with cached | delisted
    · exact .inl cached
    · exact .inr (delisted.after threads (carries.delists manager soundId globalId))
  · intro entry cached
    rw [cache] at cached
    rw [lists]
    rcases matched.listed entry cached with inList | listing
    · exact .inl inList
    · exact .inr (listing.after threads (carries.lists entry.manager entry.soundId entry.globalId))
  · intro manager soundId globalId inList gone
    rw [lists] at inList
    rw [unloaded] at gone
    exact (matched.loaded manager soundId globalId inList gone).after threads
      (carries.unloads manager soundId)

theorem Matched.unlist {listOf removed : Nat} (matched : state.Matched owners)
    (threads : next.threads = update state.threads thread stage)
    (cache : next.audioRendererVector = state.audioRendererVector)
    (lists : next.globalIdVector = update state.globalIdVector listOf
      (ParallelStreamManager.delGlobalId (state.globalIdVector listOf) removed))
    (unloaded : next.unloaded = state.unloaded)
    (discarded : (state.threads thread).discards removed)
    (follows : Follows state next (state.threads thread) stage)
    (delists : ∀ manager soundId globalId, ¬ (manager = listOf ∧ globalId = removed) →
      (state.threads thread).delists owners manager globalId ∨
          (state.threads thread).unloads manager soundId →
        stage.delists owners manager globalId ∨ stage.unloads manager soundId)
    (unloads : ∀ manager soundId, (state.threads thread).unloads manager soundId →
      stage.unloads manager soundId)
    (stillLists : ∀ manager soundId globalId,
      (state.threads thread).lists owners manager soundId globalId →
        stage.lists owners manager soundId globalId) : next.Matched owners := by
  have sameIds : next.cachedIds = state.cachedIds := congrArg (List.map _) cache
  have inNext (manager : Nat) (entry : Nat × Nat) : entry ∈ next.globalIdVector manager ↔
        entry ∈ state.globalIdVector manager ∧ ¬ (manager = listOf ∧ entry.2 = removed) := by
    rw [lists]
    by_cases same : manager = listOf
    · subst manager
      rw [update_self, ParallelStreamManager.mem_delGlobalId (matched.listedOnce listOf)]
      simp
    · simp [same]
  have shorter (manager : Nat) :
      (next.globalIdVector manager).Sublist (state.globalIdVector manager) := by
    rw [lists]
    by_cases same : manager = listOf
    · subst manager
      rw [update_self]
      exact ParallelStreamManager.delGlobalId_sublist ..
    · rw [update_of_ne same]
  refine matched.shrink threads (cache ▸ .refl _) shorter follows ?_ ?_ ?_
  · intro manager soundId globalId inList
    obtain ⟨inList, others⟩ := (inNext manager (soundId, globalId)).mp inList
    rw [sameIds]
    rcases matched.found manager soundId globalId inList with cached | delisted
    · exact .inl cached
    · exact .inr (delisted.after threads (delists manager soundId globalId others))
  · intro entry cached
    rw [cache] at cached
    rw [inNext]
    have different : entry.globalId ≠ removed := by
      intro same
      exact matched.discarded thread removed discarded (List.mem_map.mpr ⟨entry, cached, same⟩)
    rcases matched.listed entry cached with inList | listing
    · exact .inl ⟨inList, fun gone => different gone.2⟩
    · exact .inr (listing.after threads (stillLists entry.manager entry.soundId entry.globalId))
  · intro manager soundId globalId inList gone
    obtain ⟨inList, -⟩ := (inNext manager (soundId, globalId)).mp inList
    rw [unloaded] at gone
    exact (matched.loaded manager soundId globalId inList gone).after threads
      (unloads manager soundId)

theorem Matched.drop {entry : CachedRenderer} (matched : state.Matched owners)
    (threads : next.threads = update state.threads thread stage)
    (perm : state.audioRendererVector.Perm (entry :: next.audioRendererVector))
    (cache : next.audioRendererVector.Sublist state.audioRendererVector)
    (lists : ∀ manager, (next.globalIdVector manager).Sublist (state.globalIdVector manager))
    (unloaded : next.unloaded = state.unloaded)
    (follows : Follows state next (state.threads thread) stage)
    (delists : ∀ manager soundId globalId, globalId ≠ entry.globalId →
      (state.threads thread).delists owners manager globalId ∨
          (state.threads thread).unloads manager soundId →
        stage.delists owners manager globalId ∨ stage.unloads manager soundId)
    (unloads : ∀ manager soundId, (state.threads thread).unloads manager soundId →
      stage.unloads manager soundId)
    (stillLists : ∀ manager soundId globalId,
      (state.threads thread).lists owners manager soundId globalId →
        stage.lists owners manager soundId globalId)
    (gone : ∀ manager soundId, (soundId, entry.globalId) ∈ next.globalIdVector manager →
      next.Delisted owners manager soundId entry.globalId)
    (kept : ∀ manager soundId globalId, globalId ≠ entry.globalId →
      (soundId, globalId) ∈ state.globalIdVector manager →
        (soundId, globalId) ∈ next.globalIdVector manager) : next.Matched owners := by
  have ids : state.cachedIds.Perm (entry.globalId :: next.cachedIds) := perm.map _
  have once := ids.nodup_iff.mp matched.cachedOnce
  refine matched.shrink threads cache lists follows ?_ ?_ ?_
  · intro manager soundId globalId inList
    by_cases same : globalId = entry.globalId
    · subst globalId
      exact .inr (gone manager soundId inList)
    rcases matched.found manager soundId globalId ((lists manager).subset inList) with
      cached | delisted
    · rw [ids.mem_iff, List.mem_cons] at cached
      exact .inl (cached.resolve_left same)
    · exact .inr (delisted.after threads (delists manager soundId globalId same))
  · intro other cached
    have different : other.globalId ≠ entry.globalId := by
      intro same
      exact (List.nodup_cons.mp once).1 (List.mem_map.mpr ⟨other, cached, same⟩)
    rcases matched.listed other (cache.subset cached) with inList | listing
    · exact .inl (kept other.manager other.soundId other.globalId different inList)
    · exact .inr (listing.after threads (stillLists other.manager other.soundId other.globalId))
  · intro manager soundId globalId inList wasUnloaded
    rw [unloaded] at wasUnloaded
    have unloading :=
      matched.loaded manager soundId globalId ((lists manager).subset inList) wasUnloaded
    exact unloading.after threads (unloads manager soundId)

theorem Matched.issue {after : AfterStop} (matched : state.Matched owners)
    (before : state.threads thread = .nextGlobalId stream after) (threads : next.threads =
      update state.threads thread (.setAudioRenderer stream globalId after))
    (cache : next.audioRendererVector = state.audioRendererVector)
    (lists : next.globalIdVector = state.globalIdVector) (unloaded : next.unloaded = state.unloaded)
    (unused : state.Unused globalId) (positive : 0 < globalId) : next.Matched owners := by
  have sameIds : next.cachedIds = state.cachedIds := congrArg (List.map _) cache
  have atThread : next.threads thread = .setAudioRenderer stream globalId after := by
    rw [threads, update_self]
  have elsewhere (other : Nat) (different : other ≠ thread) :
      next.threads other = state.threads other := by
    rw [threads, update_of_ne different]
  exact {
    cachedOnce := sameIds ▸ matched.cachedOnce
    positive := sameIds ▸ matched.positive
    listedOnce := lists ▸ matched.listedOnce
    listedBy := lists ▸ matched.listedBy
    known := lists ▸ matched.known
    found := by
      intro manager soundId listed inList
      rw [lists] at inList
      rw [sameIds]
      rcases matched.found manager soundId listed inList with cached | delisted
      · exact .inl cached
      · exact .inr (delisted.after threads (by simp [before]))
    listed := by
      intro entry cached
      rw [cache] at cached
      rw [lists]
      rcases matched.listed entry cached with inList | listing
      · exact .inl inList
      · exact .inr (listing.after threads (by simp [before]))
    loaded := by
      intro manager soundId listed inList gone
      rw [lists] at inList
      rw [unloaded] at gone
      exact (matched.loaded manager soundId listed inList gone).after threads (by simp [before])
    unlisted := by
      intro other own issued
      rw [lists]
      by_cases same : other = thread
      · rw [same, atThread] at issued
        exact issued ▸ unused.unlisted
      · rw [elsewhere other same] at issued
        exact matched.unlisted other own issued
    issuedOnce := by
      intro first second own firstIssued secondIssued
      by_cases atFirst : first = thread <;> by_cases atSecond : second = thread
      · rw [atFirst, atSecond]
      · rw [atFirst, atThread] at firstIssued
        rw [elsewhere second atSecond, ← firstIssued] at secondIssued
        exact absurd secondIssued (unused.unissued second)
      · rw [atSecond, atThread] at secondIssued
        rw [elsewhere first atFirst, ← secondIssued] at firstIssued
        exact absurd firstIssued (unused.unissued first)
      · rw [elsewhere first atFirst] at firstIssued
        rw [elsewhere second atSecond] at secondIssued
        exact matched.issuedOnce first second own firstIssued secondIssued
    stored := by
      intro other own stores
      have alone (user : Nat) : (next.threads user).discards own →
          (state.threads user).discards own := by
        by_cases same : user = thread
        · simp [same, atThread]
        · simp [elsewhere user same]
      have unasking (user : Nat) : (next.threads user).asks own →
          (state.threads user).asks own := by
        by_cases same : user = thread
        · simp [same, atThread]
        · simp [elsewhere user same]
      rw [sameIds]
      by_cases same : other = thread
      · rw [same, atThread] at stores
        subst own
        exact ⟨positive, unused.uncached, fun user =>
          ⟨fun discards => unused.undiscarded user (alone user discards),
            fun asks => unused.unasked user (unasking user asks)⟩⟩
      · rw [elsewhere other same] at stores
        obtain ⟨ownPositive, uncached, others⟩ := matched.stored other own stores
        exact ⟨ownPositive, uncached, fun user =>
          ⟨fun discards => (others user).1 (alone user discards),
            fun asks => (others user).2 (unasking user asks)⟩⟩
    discarded := by
      intro other own discards
      rw [sameIds]
      by_cases same : other = thread
      · simp [same, atThread] at discards
      · rw [elsewhere other same] at discards
        exact matched.discarded other own discards }

theorem Matched.store {after : AfterStop} {entry : CachedRenderer} (matched : state.Matched owners)
    (before : state.threads thread = .setAudioRenderer stream globalId after)
    (threads : next.threads = update state.threads thread (.setGlobalId stream globalId after))
    (cache : next.audioRendererVector = state.audioRendererVector ++ [entry])
    (lists : next.globalIdVector = state.globalIdVector) (unloaded : next.unloaded = state.unloaded)
    (under : entry.globalId = globalId) (manager : entry.manager = owners.manager stream)
    (soundId : entry.soundId = owners.soundId stream) : next.Matched owners := by
  have ids : next.cachedIds = state.cachedIds ++ [globalId] := by
    simp [cachedIds, cache, under]
  have inIds (other : Nat) :
      other ∈ next.cachedIds ↔ other ∈ state.cachedIds ∨ other = globalId := by
    simp [ids]
  have stores : (state.threads thread).stores globalId := by simp [before]
  have issued : (state.threads thread).issued globalId := by simp [before]
  obtain ⟨positive, uncached, alone⟩ := matched.stored thread globalId stores
  have atThread : next.threads thread = .setGlobalId stream globalId after := by
    rw [threads, update_self]
  have elsewhere (other : Nat) (different : other ≠ thread) :
      next.threads other = state.threads other := by
    rw [threads, update_of_ne different]
  have issuedBefore (other own : Nat) (later : (next.threads other).issued own) :
      (state.threads other).issued own := by
    by_cases same : other = thread
    · rw [same, atThread] at later
      rw [same, before]
      exact later
    · rwa [elsewhere other same] at later
  have discardsBefore (other own : Nat) (later : (next.threads other).discards own) :
      (state.threads other).discards own := by
    by_cases same : other = thread
    · simp [same, atThread] at later
    · rwa [elsewhere other same] at later
  have asksBefore (other own : Nat) (later : (next.threads other).asks own) :
      (state.threads other).asks own := by
    by_cases same : other = thread
    · simp [same, atThread] at later
    · rwa [elsewhere other same] at later
  exact {
    cachedOnce := by
      rw [ids]
      exact List.nodup_append.mpr ⟨matched.cachedOnce, List.nodup_singleton globalId, by
        intro first inCache second own same
        rw [List.mem_singleton] at own
        exact uncached (own ▸ same ▸ inCache)⟩
    positive := by
      intro other cached
      rcases (inIds other).mp cached with old | own
      · exact matched.positive other old
      · exact own ▸ positive
    listedOnce := lists ▸ matched.listedOnce
    listedBy := lists ▸ matched.listedBy
    known := lists ▸ matched.known
    found := by
      intro manager soundId listed inList
      rw [lists] at inList
      rw [inIds]
      rcases matched.found manager soundId listed inList with cached | delisted
      · exact .inl (.inl cached)
      · exact .inr (delisted.after threads (by simp [before]))
    listed := by
      intro other cached
      rw [cache, List.mem_append, List.mem_singleton] at cached
      rw [lists]
      rcases cached with old | own
      · rcases matched.listed other old with inList | listing
        · exact .inl inList
        · exact .inr (listing.after threads (by simp [before]))
      · refine .inr ⟨thread, ?_⟩
        rw [atThread, own]
        exact ⟨manager.symm, soundId.symm, under.symm⟩
    loaded := by
      intro manager soundId listed inList gone
      rw [lists] at inList
      rw [unloaded] at gone
      exact (matched.loaded manager soundId listed inList gone).after threads (by simp [before])
    unlisted := by
      intro other own later
      rw [lists]
      exact matched.unlisted other own (issuedBefore other own later)
    issuedOnce := by
      intro first second own firstIssued secondIssued
      exact matched.issuedOnce first second own (issuedBefore first own firstIssued)
        (issuedBefore second own secondIssued)
    stored := by
      intro other own later
      have different : other ≠ thread := by
        intro same
        simp [same, atThread] at later
      rw [elsewhere other different] at later
      obtain ⟨ownPositive, ownUncached, others⟩ := matched.stored other own later
      refine ⟨ownPositive, ?_, fun user =>
        ⟨fun discards => (others user).1 (discardsBefore user own discards),
          fun asks => (others user).2 (asksBefore user own asks)⟩⟩
      rw [inIds]
      rintro (cached | same)
      · exact ownUncached cached
      · subst own
        exact different (matched.issuedOnce other thread globalId
          (RendererStage.issued_of_stores later) issued)
    discarded := by
      intro other own later
      have discards := discardsBefore other own later
      rw [inIds]
      rintro (cached | same)
      · exact matched.discarded other own discards cached
      · exact (alone other).1 (same ▸ discards) }

theorem Matched.list {after : AfterStop} (matched : state.Matched owners)
    (before : state.threads thread = .setGlobalId stream globalId after)
    (threads : next.threads = update state.threads thread after.stage)
    (cache : next.audioRendererVector = state.audioRendererVector)
    (lists : next.globalIdVector = update state.globalIdVector (owners.manager stream)
      (state.globalIdVector (owners.manager stream) ++ [(owners.soundId stream, globalId)]))
    (unloaded : next.unloaded = state.unloaded) (usable : globalId ∈ state.cachedIds ∨
      state.Delisted owners (owners.manager stream) (owners.soundId stream) globalId)
    (loaded : state.unloaded (owners.manager stream) (owners.soundId stream) = true →
      state.Unloading (owners.manager stream) (owners.soundId stream)) : next.Matched owners := by
  have sameIds : next.cachedIds = state.cachedIds := congrArg (List.map _) cache
  have issued : (state.threads thread).issued globalId := by simp [before]
  have fresh := matched.unlisted thread globalId issued
  have inNext (manager soundId listed : Nat) : (soundId, listed) ∈ next.globalIdVector manager ↔
        (soundId, listed) ∈ state.globalIdVector manager ∨
          manager = owners.manager stream ∧ soundId = owners.soundId stream ∧
            listed = globalId := by
    rw [lists]
    by_cases same : manager = owners.manager stream
    · subst manager
      simp
    · simp [same]
  have unloadsAfter (manager soundId : Nat) :
      (state.threads thread).unloads manager soundId → after.stage.unloads manager soundId := by
    rw [before]
    cases after <;> simp [AfterStop.stage]
  have follows : Follows state next (state.threads thread) after.stage := by
    constructor <;> cases after <;> simp [AfterStop.stage]
  have delisted {manager soundId listed : Nat}
      (will : state.Delisted owners manager soundId listed) :
      next.Delisted owners manager soundId listed := by
    refine will.after threads ?_
    rintro (delists | unloads)
    · simp [before] at delists
    · exact .inr (unloadsAfter manager soundId unloads)
  have issuedBefore (other own : Nat) (later : (next.threads other).issued own) :
      (state.threads other).issued own ∧ own ≠ globalId := by
    rw [threads] at later
    have earlier := of_update later (follows.issued own)
    refine ⟨earlier, ?_⟩
    intro same
    have atThread := matched.issuedOnce other thread globalId (same ▸ earlier) issued
    rw [atThread, update_self] at later
    cases after <;> exact later
  exact {
    cachedOnce := sameIds ▸ matched.cachedOnce
    positive := sameIds ▸ matched.positive
    listedOnce := by
      intro manager
      rw [lists]
      by_cases same : manager = owners.manager stream
      · subst manager
        rw [update_self, List.map_append, List.nodup_append]
        refine ⟨matched.listedOnce _, List.nodup_singleton _, ?_⟩
        intro first inList second own equal
        obtain ⟨⟨soundId, listed⟩, inOld, rfl⟩ := List.mem_map.mp inList
        have isOwn : second = globalId := by simpa using own
        have isListed : listed = globalId := equal.trans isOwn
        exact fresh (owners.manager stream) soundId (isListed ▸ inOld)
      · rw [update_of_ne same]
        exact matched.listedOnce manager
    listedBy := by
      intro first second soundId sound listed inFirst inSecond
      rcases (inNext first soundId listed).mp inFirst with oldFirst | ⟨atFirst, -, ownFirst⟩
      · rcases (inNext second sound listed).mp inSecond with oldSecond | ⟨-, -, ownSecond⟩
        · exact matched.listedBy first second soundId sound listed oldFirst oldSecond
        · exact absurd (ownSecond ▸ oldFirst) (fresh first soundId)
      · rcases (inNext second sound listed).mp inSecond with oldSecond | ⟨atSecond, -, -⟩
        · exact absurd (ownFirst ▸ oldSecond) (fresh second sound)
        · rw [atFirst, atSecond]
    known := by
      intro manager entry inList
      rcases (inNext manager entry.1 entry.2).mp inList with old | ⟨same, -, -⟩
      · exact matched.known manager entry old
      · exact same ▸ owners.known stream
    found := by
      intro manager soundId listed inList
      rw [sameIds]
      rcases (inNext manager soundId listed).mp inList with old | ⟨rfl, rfl, rfl⟩
      · exact (matched.found manager soundId listed old).imp_right delisted
      · exact usable.imp_right delisted
    listed := by
      intro entry cached
      rw [cache] at cached
      rw [inNext]
      rcases matched.listed entry cached with inList | ⟨other, listing⟩
      · exact .inl (.inl inList)
      by_cases same : other = thread
      · rw [same, before] at listing
        obtain ⟨manager, soundId, own⟩ := listing
        exact .inl (.inr ⟨manager.symm, soundId.symm, own.symm⟩)
      · exact .inr ⟨other, by rwa [threads, update_of_ne same]⟩
    loaded := by
      intro manager soundId listed inList gone
      rw [unloaded] at gone
      rcases (inNext manager soundId listed).mp inList with old | ⟨rfl, rfl, -⟩
      · exact (matched.loaded manager soundId listed old gone).after threads
          (unloadsAfter manager soundId)
      · exact (loaded gone).after threads (unloadsAfter _ _)
    unlisted := by
      intro other own later manager soundId inList
      obtain ⟨earlier, different⟩ := issuedBefore other own later
      rcases (inNext manager soundId own).mp inList with old | ⟨-, -, same⟩
      · exact matched.unlisted other own earlier manager soundId old
      · exact different same
    issuedOnce := by
      intro first second own firstIssued secondIssued
      exact matched.issuedOnce first second own (issuedBefore first own firstIssued).1
        (issuedBefore second own secondIssued).1
    stored := by
      intro other own stores
      rw [threads] at stores
      have earlier := of_update stores (follows.stores own)
      obtain ⟨ownPositive, uncached, others⟩ := matched.stored other own earlier
      refine ⟨ownPositive, sameIds ▸ uncached, fun user => ⟨fun discards => ?_, fun asks => ?_⟩⟩
      · rw [threads] at discards
        refine (others user).1 (of_update discards fun later => ?_)
        cases after <;> exact later.elim
      · rw [threads] at asks
        refine (others user).2 (of_update asks fun later => ?_)
        cases after <;> exact later.elim
    discarded := by
      intro other own discards
      rw [threads] at discards
      rw [sameIds]
      refine matched.discarded other own (of_update discards fun later => ?_)
      cases after <;> exact later.elim }

theorem Matched.unload {streams : List Nat} (matched : state.Matched owners)
    (before : state.threads thread = .idle) (threads : next.threads =
      update state.threads thread (.unloadStream manager soundId streams))
    (cache : next.audioRendererVector = state.audioRendererVector)
    (lists : next.globalIdVector = state.globalIdVector)
    (unloaded : next.unloaded = update state.unloaded manager
      (update (state.unloaded manager) soundId true)) : next.Matched owners := by
  have sameIds : next.cachedIds = state.cachedIds := congrArg (List.map _) cache
  refine matched.shrink threads (cache ▸ .refl _) (fun _ => lists ▸ .refl _)
    (by rw [before]; constructor <;> simp) ?_ ?_ ?_
  · intro listOf sound globalId inList
    rw [lists] at inList
    rw [sameIds]
    rcases matched.found listOf sound globalId inList with cached | delisted
    · exact .inl cached
    · exact .inr (delisted.after threads (by simp [before]))
  · intro entry cached
    rw [cache] at cached
    rw [lists]
    rcases matched.listed entry cached with inList | listing
    · exact .inl inList
    · exact .inr (listing.after threads (by simp [before]))
  · intro listOf sound globalId inList gone
    rw [lists] at inList
    by_cases same : manager = listOf ∧ soundId = sound
    · exact ⟨thread, by rw [threads, update_self]; exact same⟩
    have earlier : state.unloaded listOf sound = true := by
      rw [unloaded] at gone
      by_cases atManager : listOf = manager
      · subst listOf
        rw [update_self, update_of_ne (by simpa [eq_comm] using same)] at gone
        exact gone
      · rwa [update_of_ne atManager] at gone
    exact (matched.loaded listOf sound globalId inList earlier).after threads (by simp [before])

end Renderers

end PlayerFramework.SoundPool
