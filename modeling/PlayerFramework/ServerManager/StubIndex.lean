import PlayerFramework.ServerManager.StubMaps

/-!
The player index of `MediaServerManager` against the map of the players, and what the operations
leave in the maps.
-/

namespace PlayerFramework.ServerManager

/-- The player index holds the object under the process. -/
def InIndex (index : List (Int × List Nat)) (pid : Int) (object : Nat) : Prop :=
  ∃ objects, (pid, objects) ∈ index ∧ object ∈ objects

theorem inIndex_insert (index : List (Int × List Nat)) (object other : Nat) (pid owner : Int) :
    InIndex (insertPlayerStub object pid index) owner other ↔
      InIndex index owner other ∨ owner = pid ∧ other = object := by
  unfold insertPlayerStub
  split
  · rename_i present
    rw [List.any_eq_true] at present
    rcases present with ⟨⟨found, objects⟩, member, same⟩
    simp only [beq_iff_eq] at same
    subst same
    constructor
    · rintro ⟨held, inside, among⟩
      rw [List.mem_map] at inside
      rcases inside with ⟨⟨key, set⟩, old, image⟩
      split at image
      · rename_i same
        cases image
        rcases List.mem_cons.mp among with rfl | among
        · exact .inr ⟨rfl, rfl⟩
        · exact .inl ⟨set, by rwa [← same], among⟩
      · cases image
        exact .inl ⟨held, old, among⟩
    · rintro (⟨held, inside, among⟩ | ⟨rfl, rfl⟩)
      · by_cases same : owner = found
        · exact ⟨object :: held, List.mem_map.mpr ⟨_, inside, by simp [same]⟩,
            List.mem_cons_of_mem _ among⟩
        · exact ⟨held, List.mem_map.mpr ⟨_, inside, by simp [same]⟩, among⟩
      · exact ⟨other :: objects, List.mem_map.mpr ⟨_, member, by simp⟩, List.mem_cons_self⟩
  · constructor
    · rintro ⟨held, inside, among⟩
      rcases List.mem_cons.mp inside with same | inside
      · cases same
        exact .inr ⟨rfl, List.mem_singleton.mp among⟩
      · exact .inl ⟨held, inside, among⟩
    · rintro (⟨held, inside, among⟩ | ⟨rfl, rfl⟩)
      · exact ⟨held, List.mem_cons_of_mem _ inside, among⟩
      · exact ⟨[other], List.mem_cons_self, List.mem_singleton_self _⟩

theorem filled_insert {index : List (Int × List Nat)} (object : Nat) (pid : Int)
    (filled : ∀ entry ∈ index, entry.2 ≠ []) :
    ∀ entry ∈ insertPlayerStub object pid index, entry.2 ≠ [] := by
  intro entry member
  unfold insertPlayerStub at member
  split at member
  · rcases List.mem_map.mp member with ⟨old, inside, rfl⟩
    split
    · exact List.cons_ne_nil _ _
    · exact filled old inside
  · rcases List.mem_cons.mp member with rfl | member
    · exact List.cons_ne_nil _ _
    · exact filled entry member

theorem inIndex_remove (index : List (Int × List Nat)) (object other : Nat) (pid owner : Int) :
    InIndex (removePlayerStubFromMap object pid index) owner other ↔
      InIndex index owner other ∧ ¬ (owner = pid ∧ other = object) := by
  constructor
  · rintro ⟨held, inside, among⟩
    rcases List.mem_map.mp (List.mem_filter.mp inside).1 with ⟨⟨key, set⟩, old, image⟩
    split at image
    · rename_i same
      cases image
      rcases List.mem_filter.mp among with ⟨among, different⟩
      exact ⟨⟨set, by rwa [← same], among⟩, fun both => by simp [both.2] at different⟩
    · rename_i different
      cases image
      exact ⟨⟨held, old, among⟩, fun both => different both.1⟩
  · rintro ⟨⟨held, inside, among⟩, apart⟩
    by_cases same : owner = pid
    · have different : other ≠ object := fun equal => apart ⟨same, equal⟩
      have left : other ∈ held.filter (· ≠ object) := List.mem_filter.mpr ⟨among, by simpa⟩
      refine ⟨held.filter (· ≠ object), List.mem_filter.mpr ⟨?_, ?_⟩, left⟩
      · exact List.mem_map.mpr ⟨_, inside, by simp [same]⟩
      · have occupied : held.filter (· ≠ object) ≠ [] := List.ne_nil_of_mem left
        simpa [same] using occupied
    · exact ⟨held, List.mem_filter.mpr
        ⟨List.mem_map.mpr ⟨_, inside, by simp [same]⟩, by simp [same]⟩, among⟩

theorem filled_remove {index : List (Int × List Nat)} (object : Nat) (pid : Int)
    (filled : ∀ entry ∈ index, entry.2 ≠ []) :
    ∀ entry ∈ removePlayerStubFromMap object pid index, entry.2 ≠ [] := by
  intro entry member
  rcases List.mem_filter.mp member with ⟨member, occupied⟩
  rcases List.mem_map.mp member with ⟨old, inside, rfl⟩
  split
  · rename_i same
    simpa [same] using occupied
  · exact filled old inside

namespace MediaServerManager

/-- What no step disturbs: the player index agrees with the player map, so the two are empty
together, and no map has monitors. -/
structure Kept (manager : MediaServerManager) : Prop where
  unmapped : manager.stubMap .monitor = []
  indexed : ∀ pid object, InIndex manager.pidToPlayerStubMap pid object ↔
    (object, pid) ∈ manager.stubMap .player
  filled : ∀ entry ∈ manager.pidToPlayerStubMap, entry.2 ≠ []
  owner : ∀ object first second, (object, first) ∈ manager.stubMap .player →
    (object, second) ∈ manager.stubMap .player → first = second
  fresh : ∀ entry ∈ manager.stubMap .player, entry.1 < manager.nextObject

theorem kept_initial : Kept {} where
  unmapped := rfl
  indexed := by
      intro pid object
      simp [InIndex]
  filled := by
      intro entry member
      cases member
  owner := by
      intro object first second member
      cases member
  fresh := by
      intro entry member
      cases member

variable {manager : MediaServerManager}

theorem Kept.index_empty (kept : Kept manager) (empty : manager.stubMap .player = []) :
    manager.pidToPlayerStubMap = [] := by
  rw [List.eq_nil_iff_forall_not_mem]
  rintro ⟨pid, objects⟩ member
  rcases List.exists_mem_of_ne_nil objects (kept.filled _ member) with ⟨object, among⟩
  have listed := (kept.indexed pid object).mp ⟨objects, member, among⟩
  rw [empty] at listed
  cases listed

@[simp] theorem lowerIfEmpty_stubMap : manager.lowerIfEmpty.stubMap = manager.stubMap := by
  unfold lowerIfEmpty
  split <;> rfl

@[simp] theorem update_stubMap (now : Int) :
    (manager.updateAllInstancesReleasedTime now).stubMap = manager.stubMap := by
  unfold updateAllInstancesReleasedTime
  split <;> rfl

/-- The fields that `Kept` is about, and the outstanding tasks. -/
structure SameStubs (before after : MediaServerManager) : Prop where
  stubMap : after.stubMap = before.stubMap
  index : after.pidToPlayerStubMap = before.pidToPlayerStubMap
  nextObject : after.nextObject = before.nextObject

theorem Kept.of_same {after : MediaServerManager} (kept : Kept manager)
    (same : SameStubs manager after) : Kept after where
  unmapped := by
      rw [same.stubMap]
      exact kept.unmapped
  indexed := by
      rw [same.stubMap, same.index]
      exact kept.indexed
  filled := by
      rw [same.index]
      exact kept.filled
  owner := by
      rw [same.stubMap]
      exact kept.owner
  fresh := by
      rw [same.stubMap, same.nextObject]
      exact kept.fresh

theorem sameStubs_lower (manager : MediaServerManager) :
    SameStubs manager manager.lowerIfEmpty := by
  unfold lowerIfEmpty
  split <;> exact ⟨rfl, rfl, rfl⟩

theorem sameStubs_update (now : Int) (manager : MediaServerManager) :
    SameStubs manager (manager.updateAllInstancesReleasedTime now) := by
  unfold updateAllInstancesReleasedTime
  split <;> exact ⟨rfl, rfl, rfl⟩

theorem kept_add_stub (kept : Kept manager) {type : StubType} (pid : Int)
    (mapped : type ≠ .monitor) (other : type ≠ .player) : Kept (manager.addStub type pid) := by
  have monitors : (manager.addStub type pid).stubMap .monitor = manager.stubMap .monitor :=
    if_neg mapped.symm
  have players : (manager.addStub type pid).stubMap .player = manager.stubMap .player :=
    if_neg other.symm
  constructor
  · rw [monitors]
    exact kept.unmapped
  · rw [players]
    exact kept.indexed
  · exact kept.filled
  · rw [players]
    exact kept.owner
  · rw [players]
    intro entry member
    exact Nat.lt_succ_of_lt (kept.fresh entry member)

theorem kept_create_player (kept : Kept manager) (pid : Int) :
    Kept (manager.createPlayerStubObject pid) := by
  have players : (manager.createPlayerStubObject pid).stubMap .player =
      (manager.nextObject, pid) :: manager.stubMap .player := rfl
  have unused : ∀ owner, (manager.nextObject, owner) ∉ manager.stubMap .player :=
    fun owner member => Nat.lt_irrefl _ (kept.fresh _ member)
  constructor
  · exact kept.unmapped
  · intro owner object
    rw [players, List.mem_cons]
    refine (inIndex_insert _ _ _ _ _).trans ?_
    rw [kept.indexed, Prod.mk.injEq, or_comm, and_comm]
  · exact filled_insert _ _ kept.filled
  · intro object first second firstMember secondMember
    rcases List.mem_cons.mp firstMember with same | firstMember <;>
      rcases List.mem_cons.mp secondMember with equal | secondMember
    · rw [(Prod.mk.inj same).2, (Prod.mk.inj equal).2]
    · rw [(Prod.mk.inj same).1] at secondMember
      exact absurd secondMember (unused second)
    · rw [(Prod.mk.inj equal).1] at firstMember
      exact absurd firstMember (unused first)
    · exact kept.owner object first second firstMember secondMember
  · intro entry member
    rcases List.mem_cons.mp member with rfl | member
    · exact Nat.lt_succ_self _
    · exact Nat.lt_succ_of_lt (kept.fresh entry member)

/-- Whether the create makes a stub that a map takes in. -/
def comesThrough (manager : MediaServerManager) (type : StubType) (created : Bool) : Bool :=
  created && match type with
    | .monitor | .avCodec | .avCodecList => false
    | .recorderProfiles => decide ((manager.stubMap .recorderProfiles).length < serverMaxNumber)
    | _ => true

theorem create_through {type : StubType} {created : Bool}
    (through : manager.comesThrough type created = true) (pid : Int) :
    (manager.createStubObjectByType type pid created).stubMap type =
      (manager.nextObject, pid) :: manager.stubMap type ∧
    (∀ kind, kind ≠ type →
      (manager.createStubObjectByType type pid created).stubMap kind = manager.stubMap kind) ∧
    (Kept manager → Kept (manager.createStubObjectByType type pid created)) := by
  unfold comesThrough at through
  rw [Bool.and_eq_true] at through
  rcases through with ⟨rfl, mapped⟩
  cases type
  case monitor | avCodec | avCodecList => exact absurd mapped Bool.false_ne_true
  case player =>
      exact ⟨rfl, fun kind other => if_neg other, fun kept => kept_create_player kept pid⟩
  case recorderProfiles =>
      have room : ¬ serverMaxNumber ≤ (manager.stubMap .recorderProfiles).length :=
        Nat.not_le.mpr (of_decide_eq_true mapped)
      simp only [createStubObjectByType, if_neg room, if_true]
      exact ⟨rfl, fun kind other => if_neg other,
        fun kept => kept_add_stub kept pid (by decide) (by decide)⟩
  all_goals
      exact ⟨rfl, fun kind other => if_neg other,
        fun kept => kept_add_stub kept pid (by decide) (by decide)⟩

theorem create_nothing {type : StubType} {created : Bool}
    (nothing : manager.comesThrough type created = false) (pid : Int) :
    manager.createStubObjectByType type pid created = manager := by
  cases created with
  | false =>
    cases type <;> simp [createStubObjectByType]
  | true =>
    cases type
    case monitor | avCodec | avCodecList => rfl
    case recorderProfiles =>
      have full : serverMaxNumber ≤ (manager.stubMap .recorderProfiles).length := by
        simpa [comesThrough] using nothing
      exact if_pos full
    all_goals exact absurd nothing (Bool.noConfusion : true ≠ false)

theorem kept_create_by_type (kept : Kept manager) (type : StubType) (pid : Int)
    (created : Bool) : Kept (manager.createStubObjectByType type pid created) := by
  cases through : manager.comesThrough type created with
  | false =>
    rw [create_nothing through]
    exact kept
  | true => exact (create_through through pid).2.2 kept

def stubsWithout (type : StubType) (object : Nat) (manager : MediaServerManager) :
    StubType → List StubEntry :=
  fun kind => (manager.stubMap kind).filter fun entry => !(kind = type ∧ entry.1 = object)

def stubsOfOthers (pid : Int) (manager : MediaServerManager) : StubType → List StubEntry :=
  fun kind => (manager.stubMap kind).filter fun entry => entry.2 ≠ pid

theorem set_filtered (type : StubType) (object : Nat) (manager : MediaServerManager) :
    (manager.setStubMap type ((manager.stubMap type).filter fun entry => entry.1 ≠ object)).stubMap
      = manager.stubsWithout type object := by
  funext kind
  simp only [setStubMap, stubsWithout]
  by_cases same : kind = type
  · subst same
    simp
  · simp [same]

theorem stubs_without_other {type kind : StubType} (other : kind ≠ type) (object : Nat) :
    manager.stubsWithout type object kind = manager.stubMap kind := by
  simp [stubsWithout, other]

theorem stubs_without_unknown {type : StubType} {object : Nat}
    (unknown : ∀ entry ∈ manager.stubMap type, entry.1 ≠ object) :
    manager.stubsWithout type object = manager.stubMap := by
  funext kind
  refine List.filter_eq_self.mpr ?_
  intro entry member
  have stays : ¬ (kind = type ∧ entry.1 = object) := by
    rintro ⟨rfl, same⟩
    exact unknown entry member same
  rw [decide_eq_false stays]
  rfl

theorem destroy_player_found {object : Nat} {entry : StubEntry}
    (found : (manager.stubMap .player).find? (fun entry => entry.1 == object) = some entry) :
    entry = (object, entry.2) ∧ (object, entry.2) ∈ manager.stubMap .player := by
  have same : entry.1 = object := by simpa using List.find?_some found
  have whole : entry = (object, entry.2) := by rw [← same]
  rw [← whole]
  exact ⟨rfl, List.mem_of_find?_eq_some found⟩

theorem destroy_stubMap (kept : Kept manager) (type : StubType) (object : Nat) :
    (manager.destroyStubByType type object).stubMap = manager.stubsWithout type object := by
  cases type
  case monitor =>
      have unknown : ∀ entry ∈ manager.stubMap .monitor, entry.1 ≠ object := by
        rw [kept.unmapped]
        intro entry member
        cases member
      exact (stubs_without_unknown unknown).symm
  case player =>
      simp only [destroyStubByType, destroyAVPlayerStub]
      split
      · rename_i absent
        refine (stubs_without_unknown ?_).symm
        simpa using absent
      · exact set_filtered .player object manager
  all_goals exact set_filtered _ object manager

theorem kept_destroy_player (kept : Kept manager) (object : Nat) :
    Kept (manager.destroyAVPlayerStub object) := by
  unfold destroyAVPlayerStub
  split
  · exact kept
  rename_i entry found
  rcases destroy_player_found found with ⟨-, listed⟩
  let players := (manager.stubMap .player).filter fun entry => entry.1 ≠ object
  have inside : ∀ other pid, (other, pid) ∈ players ↔
      (other, pid) ∈ manager.stubMap .player ∧ other ≠ object := by
    intro other pid
    simp [players]
  constructor
  · exact kept.unmapped
  · intro pid other
    refine (inIndex_remove _ _ _ _ _).trans (Iff.trans ?_ (inside other pid).symm)
    rw [kept.indexed]
    refine and_congr_right fun member => not_congr ?_
    constructor
    · exact And.right
    · rintro rfl
      exact ⟨kept.owner _ _ _ member listed, rfl⟩
  · exact filled_remove _ _ kept.filled
  · intro other first second firstMember secondMember
    exact kept.owner other first second ((inside other first).mp firstMember).1
      ((inside other second).mp secondMember).1
  · intro other member
    exact kept.fresh other ((inside other.1 other.2).mp member).1

theorem kept_destroy_by_type (kept : Kept manager) (type : StubType) (object : Nat) :
    Kept (manager.destroyStubByType type object) := by
  have others (other : type ≠ .player)
      (left : (manager.destroyStubByType type object).pidToPlayerStubMap =
        manager.pidToPlayerStubMap)
      (next : (manager.destroyStubByType type object).nextObject = manager.nextObject) :
      Kept (manager.destroyStubByType type object) := by
    have stubs := destroy_stubMap kept type object
    have players : (manager.destroyStubByType type object).stubMap .player =
        manager.stubMap .player := by
      rw [stubs]
      exact stubs_without_other other.symm object
    constructor
    · rw [stubs, stubsWithout, kept.unmapped]
      rfl
    · rw [players, left]
      exact kept.indexed
    · rw [left]
      exact kept.filled
    · rw [players]
      exact kept.owner
    · rw [players, next]
      exact kept.fresh
  cases type
  case player => exact kept_destroy_player kept object
  all_goals exact others (by decide) rfl rfl

theorem kept_destroy_pid (kept : Kept manager) (pid : Int) :
    Kept (manager.destroyStubsOfPid pid) := by
  have inside : ∀ object owner, (object, owner) ∈ manager.stubsOfOthers pid .player ↔
      (object, owner) ∈ manager.stubMap .player ∧ owner ≠ pid := by
    intro object owner
    simp [stubsOfOthers]
  constructor
  · simp [destroyStubsOfPid, kept.unmapped]
  · intro owner object
    refine Iff.trans ?_ (inside object owner).symm
    rw [← kept.indexed]
    constructor
    · rintro ⟨objects, member, among⟩
      rcases List.mem_filter.mp member with ⟨member, different⟩
      exact ⟨⟨objects, member, among⟩, by simpa using different⟩
    · rintro ⟨⟨objects, member, among⟩, different⟩
      exact ⟨objects, List.mem_filter.mpr ⟨member, by simpa using different⟩, among⟩
  · intro entry member
    exact kept.filled entry (List.mem_filter.mp member).1
  · intro object first second firstMember secondMember
    exact kept.owner object first second ((inside object first).mp firstMember).1
      ((inside object second).mp secondMember).1
  · intro entry member
    exact kept.fresh entry ((inside entry.1 entry.2).mp member).1

theorem kept_step (kept : Kept manager) (event : ManagerEvent) : Kept (manager.step event) := by
  cases event with
  | createStubObject type pid created =>
    have made := kept_create_by_type kept type pid created
    have same : SameStubs (manager.createStubObjectByType type pid created)
      (manager.createStubObject type pid created) := ⟨rfl, rfl, rfl⟩
    exact made.of_same same
  | destroyStubObject type object now =>
    have left := kept_destroy_by_type kept type object
    exact (left.of_same (sameStubs_update now _)).of_same (sameStubs_lower _)
  | destroyStubObjectForPid pid now =>
    have left := kept_destroy_pid kept pid
    have counted : Kept { manager.destroyStubsOfPid pid with
      cleaners := (manager.destroyStubsOfPid pid).cleaners + 1 } :=
      left.of_same ⟨rfl, rfl, rfl⟩
    exact counted.of_same (sameStubs_update now _)
  | resetAllInstancesReleasedTime => exact kept.of_same ⟨rfl, rfl, rfl⟩
  | raise =>
    simp only [step, raise]
    split
    · exact kept.of_same ⟨rfl, rfl, rfl⟩
    · exact kept
  | handleAsyncExecution =>
    simp only [step, handleAsyncExecution]
    split
    · exact kept
    · have waited : Kept { manager with cleaners := manager.cleaners - 1 } :=
        kept.of_same ⟨rfl, rfl, rfl⟩
      exact waited.of_same (sameStubs_lower _)

end MediaServerManager

end PlayerFramework.ServerManager
