import PlayerFramework.SoundPool.RendererCache
import Mathlib.Data.List.Perm.Basic

/-!
Who owns each audio renderer, and how many the cache holds, in whatever order the threads step.
-/

namespace PlayerFramework.SoundPool

open Function

/-- Every renderer that was created and not released has one owner, the cache or a stream; a
released one has none. -/
structure SoleOwners (cached : List Nat) (held : Nat → Option Nat) (created : Nat)
    (released : Nat → Bool) : Prop where
  cachedOnce : cached.Nodup
  heldOnce : ∀ first second renderer,
    held first = some renderer → held second = some renderer → first = second
  apart : ∀ stream renderer, held stream = some renderer → renderer ∉ cached
  owned : ∀ renderer, renderer < created ∧ released renderer = false ↔
    renderer ∈ cached ∨ ∃ stream, held stream = some renderer
  unreleased : ∀ renderer, created ≤ renderer → released renderer = false

namespace SoleOwners

variable {cached rest : List Nat} {held : Nat → Option Nat} {created : Nat}
  {released : Nat → Bool} {renderer stream : Nat}

theorem perm (owners : SoleOwners cached held created released) (same : cached.Perm rest) :
    SoleOwners rest held created released where
  cachedOnce := same.nodup_iff.mp owners.cachedOnce
  heldOnce := owners.heldOnce
  apart stream renderer holds := by
      have outside := owners.apart stream renderer holds
      rwa [same.mem_iff] at outside
  owned renderer := by
      rw [owners.owned renderer, same.mem_iff]
  unreleased := owners.unreleased

theorem created_of_owned (owners : SoleOwners cached held created released)
    (owned : renderer ∈ cached ∨ ∃ stream, held stream = some renderer) : renderer < created :=
  ((owners.owned renderer).mpr owned).1

theorem unreleased_update (owners : SoleOwners cached held created released)
    (past : renderer < created) (other : Nat) (later : created ≤ other) :
    update released renderer true other = false := by
  have different : other ≠ renderer := by omega
  rw [update_of_ne different]
  exact owners.unreleased other later

theorem release_cached (owners : SoleOwners (renderer :: rest) held created released) :
    SoleOwners rest held created (update released renderer true) where
  cachedOnce := owners.cachedOnce.of_cons
  heldOnce := owners.heldOnce
  apart stream other holds inRest :=
    owners.apart stream other holds (List.mem_cons_of_mem _ inRest)
  owned other := by
      have before := owners.owned other
      by_cases same : other = renderer
      · subst other
        have outside : renderer ∉ rest := (List.nodup_cons.mp owners.cachedOnce).1
        have unheld : ¬ ∃ stream, held stream = some renderer := by
          rintro ⟨stream, holds⟩
          exact owners.apart stream renderer holds (List.mem_cons_self ..)
        simp [outside, unheld]
      · simpa [update_of_ne same, same] using before
  unreleased := owners.unreleased_update (owners.created_of_owned (.inl (List.mem_cons_self ..)))

/-- A stream takes a renderer out of the cache. -/
theorem take (owners : SoleOwners (renderer :: rest) held created released)
    (empty : held stream = none) :
    SoleOwners rest (update held stream (some renderer)) created released where
  cachedOnce := owners.cachedOnce.of_cons
  heldOnce first second other firstHolds secondHolds := by
      have unheld (elsewhere : Nat) : held elsewhere ≠ some renderer := by
        intro holds
        exact owners.apart elsewhere renderer holds (List.mem_cons_self ..)
      by_cases atFirst : first = stream <;> by_cases atSecond : second = stream
      · rw [atFirst, atSecond]
      · subst first
        rw [update_self] at firstHolds
        rw [update_of_ne atSecond, ← firstHolds] at secondHolds
        exact absurd secondHolds (unheld second)
      · subst second
        rw [update_self] at secondHolds
        rw [update_of_ne atFirst, ← secondHolds] at firstHolds
        exact absurd firstHolds (unheld first)
      · rw [update_of_ne atFirst] at firstHolds
        rw [update_of_ne atSecond] at secondHolds
        exact owners.heldOnce first second other firstHolds secondHolds
  apart other kept otherHolds := by
      by_cases same : other = stream
      · rw [same, update_self] at otherHolds
        rw [← Option.some.inj otherHolds]
        exact (List.nodup_cons.mp owners.cachedOnce).1
      · rw [update_of_ne same] at otherHolds
        intro inRest
        exact owners.apart other kept otherHolds (List.mem_cons_of_mem _ inRest)
  owned other := by
      rw [owners.owned other, List.mem_cons]
      constructor
      · rintro ((same | inRest) | ⟨stream', otherHolds⟩)
        · exact .inr ⟨stream, by rw [update_self, same]⟩
        · exact .inl inRest
        · have elsewhere : stream' ≠ stream := by
            intro same
            simp [same, empty] at otherHolds
          exact .inr ⟨stream', by rw [update_of_ne elsewhere]; exact otherHolds⟩
      · rintro (inRest | ⟨stream', otherHolds⟩)
        · exact .inl (.inr inRest)
        by_cases same : stream' = stream
        · rw [same, update_self] at otherHolds
          exact .inl (.inl (Option.some.inj otherHolds).symm)
        · rw [update_of_ne same] at otherHolds
          exact .inr ⟨stream', otherHolds⟩
  unreleased := owners.unreleased

theorem put (owners : SoleOwners cached held created released)
    (holds : held stream = some renderer) :
    SoleOwners (renderer :: cached) (update held stream none) created released where
  cachedOnce := List.nodup_cons.mpr ⟨owners.apart stream renderer holds, owners.cachedOnce⟩
  heldOnce first second other firstHolds secondHolds := by
      by_cases atFirst : first = stream
      · simp [atFirst] at firstHolds
      by_cases atSecond : second = stream
      · simp [atSecond] at secondHolds
      · rw [update_of_ne atFirst] at firstHolds
        rw [update_of_ne atSecond] at secondHolds
        exact owners.heldOnce first second other firstHolds secondHolds
  apart other kept otherHolds := by
      by_cases same : other = stream
      · simp [same] at otherHolds
      rw [update_of_ne same] at otherHolds
      intro inCache
      rcases List.mem_cons.mp inCache with equal | inOld
      · subst kept
        exact same (owners.heldOnce other stream renderer otherHolds holds)
      · exact owners.apart other kept otherHolds inOld
  owned other := by
      rw [owners.owned other, List.mem_cons]
      constructor
      · rintro (inOld | ⟨stream', otherHolds⟩)
        · exact .inl (.inr inOld)
        · by_cases same : stream' = stream
          · rw [same, holds] at otherHolds
            exact .inl (.inl (Option.some.inj otherHolds).symm)
          · exact .inr ⟨stream', by rw [update_of_ne same]; exact otherHolds⟩
      · rintro ((same | inOld) | ⟨stream', otherHolds⟩)
        · exact .inr ⟨stream, by rw [same]; exact holds⟩
        · exact .inl inOld
        · by_cases same : stream' = stream
          · simp [same] at otherHolds
          · rw [update_of_ne same] at otherHolds
            exact .inr ⟨stream', otherHolds⟩
  unreleased := owners.unreleased

theorem release_held (owners : SoleOwners cached held created released)
    (holds : held stream = some renderer) :
    SoleOwners cached (update held stream none) created (update released renderer true) :=
  (owners.put holds).release_cached

/-- A new renderer, before a stream has taken it. -/
theorem create (owners : SoleOwners cached held created released) :
    SoleOwners (created :: cached) held (created + 1) released where
  cachedOnce := by
      refine List.nodup_cons.mpr ⟨?_, owners.cachedOnce⟩
      intro inCache
      exact absurd (owners.created_of_owned (.inl inCache)) (Nat.lt_irrefl created)
  heldOnce := owners.heldOnce
  apart other kept otherHolds := by
      have older := owners.created_of_owned (.inr ⟨other, otherHolds⟩)
      intro inCache
      rcases List.mem_cons.mp inCache with equal | inOld
      · omega
      · exact owners.apart other kept otherHolds inOld
  owned other := by
      have before := owners.owned other
      by_cases same : other = created
      · have fresh := owners.unreleased created (Nat.le_refl created)
        simp [same, fresh]
      · have bound : other < created + 1 ↔ other < created := by omega
        simpa [bound, same] using before
  unreleased other later := owners.unreleased other (by omega)

end SoleOwners

namespace AudioRendererManager

theorem getAudioRendererInstance_found {vector rest : List CachedRenderer} {globalId : Nat}
    {entry : CachedRenderer}
    (taken : getAudioRendererInstance vector globalId = (some entry, rest)) :
    entry.globalId = globalId ∧ vector.Perm (entry :: rest) := by
  have found : vector.find? (fun entry => entry.globalId == globalId) = some entry :=
    congrArg Prod.fst taken
  have remaining : vector.eraseP (fun entry => entry.globalId == globalId) = rest :=
    congrArg Prod.snd taken
  obtain ⟨holds, before, after, split, others⟩ := List.find?_eq_some_iff_append.mp found
  refine ⟨by simpa using holds, ?_⟩
  have erased : vector.eraseP (fun entry => entry.globalId == globalId) = before ++ after := by
    rw [split, List.eraseP_append_right]
    · rw [List.eraseP_cons, holds, cond_true]
    · intro other inBefore
      simpa using others other inBefore
  rw [← remaining, erased, split]
  exact List.perm_middle

theorem getAudioRendererInstance_missing {vector rest : List CachedRenderer} {globalId : Nat}
    (missing : getAudioRendererInstance vector globalId = (none, rest)) :
    globalId ∉ vector.map CachedRenderer.globalId ∧ rest = vector := by
  have none : vector.find? (fun entry => entry.globalId == globalId) = none :=
    congrArg Prod.fst missing
  have remaining : vector.eraseP (fun entry => entry.globalId == globalId) = rest :=
    congrArg Prod.snd missing
  have absent : ∀ entry ∈ vector, ¬ (entry.globalId == globalId) = true := by
    simpa using none
  constructor
  · intro inIds
    obtain ⟨entry, inVector, same⟩ := List.mem_map.mp inIds
    exact absent entry inVector (by simp [same])
  · rw [← remaining, List.eraseP_of_forall_not absent]

theorem getAudioRendererInstance_sublist (vector : List CachedRenderer) (globalId : Nat) :
    (getAudioRendererInstance vector globalId).2.Sublist vector :=
  List.eraseP_sublist

theorem setAudioRendererInstance_kept {vector pushed : List CachedRenderer}
    {entry : CachedRenderer} (set : setAudioRendererInstance vector entry = (none, pushed)) :
    pushed = vector ++ [entry] ∧ pushed.length ≤ audioRendererMaxNum := by
  simp only [setAudioRendererInstance] at set
  split at set
  · have nonempty : (vector ++ [entry]).head? ≠ none := by simp
    exact absurd (congrArg Prod.fst set) nonempty
  · have same : vector ++ [entry] = pushed := congrArg Prod.snd set
    rw [← same]
    exact ⟨rfl, by omega⟩

theorem setAudioRendererInstance_evicted {vector pushed : List CachedRenderer}
    {entry evicted : CachedRenderer}
    (set : setAudioRendererInstance vector entry = (some evicted, pushed)) :
    vector ++ [entry] = evicted :: pushed := by
  simp only [setAudioRendererInstance] at set
  split at set
  · have first : (vector ++ [entry]).head? = some evicted := congrArg Prod.fst set
    have others : (vector ++ [entry]).tail = pushed := congrArg Prod.snd set
    rw [← others]
    exact List.eq_cons_of_mem_head? first
  · exact absurd (congrArg Prod.fst set) (by simp)

end AudioRendererManager

namespace Renderers

def Owned (state : Renderers) : Prop :=
  SoleOwners (state.audioRendererVector.map CachedRenderer.renderer) state.audioRenderer
    state.created state.released

variable {state : Renderers} {stream thread : Nat} {entry : CachedRenderer}
  {rest : List CachedRenderer}

@[simp] theorem release_audioRendererVector (renderer : Option Nat) :
    (state.release renderer).audioRendererVector = state.audioRendererVector := by
  cases renderer <;> rfl

@[simp] theorem release_globalIdVector (renderer : Option Nat) :
    (state.release renderer).globalIdVector = state.globalIdVector := by
  cases renderer <;> rfl

@[simp] theorem release_threads (renderer : Option Nat) :
    (state.release renderer).threads = state.threads := by
  cases renderer <;> rfl

@[simp] theorem release_unloaded (renderer : Option Nat) :
    (state.release renderer).unloaded = state.unloaded := by
  cases renderer <;> rfl

@[simp] theorem release_created (renderer : Option Nat) :
    (state.release renderer).created = state.created := by
  cases renderer <;> rfl

@[simp] theorem assign_audioRendererVector (renderer : Option Nat) :
    (state.assign stream renderer).audioRendererVector = state.audioRendererVector :=
  release_audioRendererVector _

@[simp] theorem assign_globalIdVector (renderer : Option Nat) :
    (state.assign stream renderer).globalIdVector = state.globalIdVector :=
  release_globalIdVector _

@[simp] theorem assign_threads (renderer : Option Nat) :
    (state.assign stream renderer).threads = state.threads :=
  release_threads _

@[simp] theorem assign_unloaded (renderer : Option Nat) :
    (state.assign stream renderer).unloaded = state.unloaded :=
  release_unloaded _

theorem Owned.assign_none (owned : state.Owned) : (state.assign stream none).Owned := by
  cases holds : state.audioRenderer stream with
  | none =>
    have same : update state.audioRenderer stream none = state.audioRenderer := by
      rw [← holds, update_eq_self]
    simpa only [Owned, Renderers.assign, holds, Renderers.release, same] using owned
  | some renderer =>
    simpa only [Owned, Renderers.assign, holds, Renderers.release] using
      SoleOwners.release_held owned holds

/-- `GetAudioRendererInstance` hands an entry over. -/
theorem Owned.take (owned : state.Owned)
    (perm : state.audioRendererVector.Perm (entry :: rest)) :
    ((state.setCache rest).assign stream (some entry.renderer)).Owned := by
  have emptied : (state.assign stream none).Owned := owned.assign_none
  have counted : SoleOwners (entry.renderer :: rest.map CachedRenderer.renderer)
      (update state.audioRenderer stream none) state.created
      (state.release (state.audioRenderer stream)).released := by
    have same := SoleOwners.perm emptied
      (by simpa [Renderers.assign] using perm.map CachedRenderer.renderer)
    simpa [Renderers.assign] using same
  have empty : update state.audioRenderer stream none stream = none :=
    update_self ..
  have taken := counted.take empty
  rw [update_idem] at taken
  have released : ((state.setCache rest).release (state.audioRenderer stream)).released =
      (state.release (state.audioRenderer stream)).released := by
    cases state.audioRenderer stream <;> rfl
  simp only [Owned, Renderers.assign, release_audioRendererVector, release_created]
  rw [← released] at taken
  exact taken

theorem Owned.release_cached (owned : state.Owned)
    (perm : state.audioRendererVector.Perm (entry :: rest)) :
    ((state.setCache rest).release (some entry.renderer)).Owned :=
  SoleOwners.release_cached (SoleOwners.perm owned (perm.map CachedRenderer.renderer))

theorem Owned.create (owned : state.Owned) (empty : state.audioRenderer stream = none) :
    SoleOwners (state.audioRendererVector.map CachedRenderer.renderer)
      (update state.audioRenderer stream (some state.created)) (state.created + 1)
      state.released :=
  (SoleOwners.create owned).take empty

theorem Owned.put (owned : state.Owned) (perm : rest.Perm (entry :: state.audioRendererVector))
    (holds : state.audioRenderer stream = some entry.renderer) :
    SoleOwners (rest.map CachedRenderer.renderer)
      (update state.audioRenderer stream none) state.created state.released :=
  (SoleOwners.put owned holds).perm (perm.map CachedRenderer.renderer).symm

/-- What the cache may hold, and the owners. -/
structure Bounded (state : Renderers) : Prop where
  within : state.audioRendererVector.length ≤ audioRendererMaxNum
  owned : state.Owned

theorem Bounded.enterStop (bounded : state.Bounded) (after : AfterStop) :
    (state.enterStop thread stream after).Bounded := by
  unfold Renderers.enterStop
  split
  · split
    · exact ⟨bounded.within, bounded.owned⟩
    · exact ⟨bounded.within, bounded.owned⟩
  · exact bounded

theorem Bounded.advance (owners : StreamOwners) (bounded : state.Bounded) (answer : Bool) :
    (state.advance owners thread answer).Bounded := by
  have idle : ∀ next : Renderers, next.audioRendererVector = state.audioRendererVector →
      next.audioRenderer = state.audioRenderer → next.created = state.created →
      next.released = state.released → next.Bounded := by
    intro next cached held created released
    refine ⟨by rw [cached]; exact bounded.within, ?_⟩
    rw [Owned, cached, held, created, released]
    exact bounded.owned
  cases stage : state.threads thread with
  | idle =>
    simpa only [Renderers.advance, stage] using bounded
  | getGlobalId stream =>
    simp only [Renderers.advance, stage]
    split
    · split
      · split
        · exact idle _ rfl rfl rfl rfl
        · exact idle _ rfl rfl rfl rfl
      · exact idle _ rfl rfl rfl rfl
    · exact bounded
  | getAudioRenderer stream globalId =>
    simp only [Renderers.advance, stage]
    split
    · rename_i entry rest taken
      have perm := (AudioRendererManager.getAudioRendererInstance_found taken).2
      have shorter := perm.length_eq
      have within := bounded.within
      refine ⟨?_, bounded.owned.take perm⟩
      simp only [Renderers.setThread, Renderers.assign, release_audioRendererVector]
      simp only [Renderers.setCache, List.length_cons] at shorter ⊢
      omega
    · refine ⟨?_, bounded.owned.assign_none⟩
      simpa only [Renderers.setThread, Renderers.assign, release_audioRendererVector] using
        bounded.within
  | delGlobalId stream globalId | setGlobalId stream globalId after =>
    simp only [Renderers.advance, stage]
    split
    · exact idle _ rfl rfl rfl rfl
    · exact bounded
  | createAudioRenderer stream again =>
    simp only [Renderers.advance, stage]
    split
    · exact idle _ rfl rfl rfl rfl
    rename_i missing
    have empty : state.audioRenderer stream = none := by simpa using missing
    split
    · exact ⟨bounded.within, bounded.owned.create empty⟩
    · split
      · exact idle _ rfl rfl rfl rfl
      · exact idle _ rfl rfl rfl rfl
  | removeOldAudioRenderer stream =>
    simp only [Renderers.advance, stage]
    split
    · exact idle _ rfl rfl rfl rfl
    rename_i oldest rest cached
    have within := bounded.within
    rw [cached, List.length_cons] at within
    refine ⟨?_, bounded.owned.release_cached (List.Perm.of_eq cached)⟩
    simp only [Renderers.setThread, Renderers.setCache, release_audioRendererVector]
    omega
  | deleteRemoved stream removed managers | deleteEvicted stream globalId removed managers after =>
    cases managers with
    | nil =>
      simp only [Renderers.advance, stage]
      exact idle _ rfl rfl rfl rfl
    | cons manager managers =>
      simp only [Renderers.advance, stage]
      split
      · exact idle _ rfl rfl rfl rfl
      · exact bounded
  | start stream | nextGlobalId stream after =>
    simp only [Renderers.advance, stage]
    exact idle _ rfl rfl rfl rfl
  | setAudioRenderer stream globalId after =>
    simp only [Renderers.advance, stage]
    split
    · exact bounded
    rename_i renderer holds
    split
    · rename_i vector set
      obtain ⟨pushed, within⟩ := AudioRendererManager.setAudioRendererInstance_kept set
      exact ⟨within, bounded.owned.put
        (.trans (.of_eq pushed) (List.perm_append_singleton ..)) holds⟩
    · rename_i evicted vector set
      have whole := AudioRendererManager.setAudioRendererInstance_evicted set
      have shorter := congrArg List.length whole
      have within := bounded.within
      have stored : SoleOwners ((evicted :: vector).map CachedRenderer.renderer)
          (update state.audioRenderer stream none) state.created state.released :=
        bounded.owned.put (.trans (.of_eq whole.symm) (List.perm_append_singleton ..)) holds
      refine ⟨?_, stored.release_cached⟩
      simp only [Renderers.setThread, Renderers.setCache, release_audioRendererVector]
      simp only [List.length_append, List.length_cons, List.length_nil] at shorter
      omega
  | unloadStream manager soundId streams =>
    cases streams with
    | nil =>
      simp only [Renderers.advance, stage]
      split
      · exact idle _ rfl rfl rfl rfl
      · exact bounded
    | cons stream streams =>
      simp only [Renderers.advance, stage]
      exact bounded.enterStop _
  | delSoundId manager soundId =>
    simp only [Renderers.advance, stage]
    split
    · exact idle _ rfl rfl rfl rfl
    rename_i globalId listed
    cases taken : AudioRendererManager.getAudioRendererInstance state.audioRendererVector
        globalId with
    | mk found rest =>
      cases found with
      | none =>
        have same := (AudioRendererManager.getAudioRendererInstance_missing taken).2
        exact idle _ same rfl rfl rfl
      | some entry =>
        have perm := (AudioRendererManager.getAudioRendererInstance_found taken).2
        have shorter := perm.length_eq
        have within := bounded.within
        refine ⟨?_, bounded.owned.release_cached perm⟩
        simp only [List.length_cons] at shorter
        show rest.length ≤ audioRendererMaxNum
        omega

theorem Bounded.step (owners : StreamOwners) (bounded : state.Bounded) (move : Move) :
    (state.step owners move).Bounded := by
  cases move with
  | doPlay thread stream | unloadStream thread manager soundId streams =>
    simp only [Renderers.step]
    split
    · exact ⟨bounded.within, bounded.owned⟩
    · exact bounded
  | stop thread stream =>
    simp only [Renderers.step]
    split
    · exact bounded.enterStop _
    · exact bounded
  | advance thread answer => exact bounded.advance owners answer

theorem Bounded.initial : Renderers.initial.Bounded where
  within := by decide
  owned := {
    cachedOnce := List.nodup_nil
    heldOnce := by simp [Renderers.initial]
    apart := by simp [Renderers.initial]
    owned := by simp [Renderers.initial]
    unreleased := by simp [Renderers.initial] }

end Renderers

end PlayerFramework.SoundPool
