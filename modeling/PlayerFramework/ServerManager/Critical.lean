import PlayerFramework.ServerManager.StubIndex

/-!
When the media service is marked critical exactly while it serves, and when the time of the last
release is set only while it does not. The lists of `GetStubMapCountIsEmpty` and `GetInstanceCount`
each leave out a type of stub that the other one has.
-/

namespace PlayerFramework.ServerManager

open Transition

/-- The task of a create, or a cleaner. -/
def ManagerEvent.isTask : ManagerEvent → Bool
  | .raise | .handleAsyncExecution => true
  | _ => false

/-- A stub that `GetStubMapCountIsEmpty` looks for. -/
def Counted (stubs : StubType → List StubEntry) : Prop :=
  ∃ type, type ≠ .screenCaptureMonitor ∧ stubs type ≠ []

def Watched (stubs : StubType → List StubEntry) : Prop := stubs .screenCaptureMonitor ≠ []

namespace MediaServerManager

def Serves (manager : MediaServerManager) : Prop := ∃ type, manager.stubMap type ≠ []

def Quiescent (manager : MediaServerManager) : Prop :=
  manager.future = false ∧ manager.cleaners = 0

/-- However the outstanding tasks run, the process is marked in a quiescent state if and only if
it serves. -/
def Settled (manager : MediaServerManager) : Prop :=
  ∀ tasks, (∀ task ∈ tasks, task.isTask = true) → Quiescent (run step manager tasks) →
      ((run step manager tasks).critical = true ↔ (run step manager tasks).Serves)

/-- A step that sets the time of the last release leaves no stub. -/
def ReleasedOnlyIdle (manager : MediaServerManager) (event : ManagerEvent) : Prop :=
  manager.allInstancesReleasedTime = 0 → (manager.step event).allInstancesReleasedTime ≠ 0 →
    ¬ (manager.step event).Serves

variable {manager : MediaServerManager}

theorem getStubMapCountIsEmpty_iff (kept : Kept manager) :
    manager.getStubMapCountIsEmpty = true ↔ ¬ Counted manager.stubMap := by
  unfold getStubMapCountIsEmpty Counted
  simp only [Bool.and_eq_true, List.isEmpty_iff, not_exists, not_and, not_not]
  constructor
  · rintro ⟨⟨⟨⟨⟨⟨⟨⟨⟨⟨⟨first, second⟩, third⟩, -⟩, fourth⟩, fifth⟩, sixth⟩, seventh⟩, eighth⟩,
      ninth⟩, tenth⟩, last⟩ type different
    cases type <;> first | assumption | exact kept.unmapped | exact absurd rfl different
  · intro empty
    have players := empty .player (by decide)
    refine ⟨⟨⟨⟨⟨⟨⟨⟨⟨⟨⟨?_, ?_⟩, players⟩, kept.index_empty players⟩, ?_⟩, ?_⟩, ?_⟩, ?_⟩, ?_⟩, ?_⟩,
      ?_⟩, ?_⟩ <;> exact empty _ (by decide)

theorem serves_congr {after : MediaServerManager} (same : after.stubMap = manager.stubMap) :
    after.Serves ↔ manager.Serves := by
  simp [Serves, same]

theorem serves_iff (manager : MediaServerManager) :
    manager.Serves ↔ Counted manager.stubMap ∨ Watched manager.stubMap := by
  constructor
  · rintro ⟨type, occupied⟩
    by_cases watched : type = .screenCaptureMonitor
    · subst watched
      exact .inr occupied
    · exact .inl ⟨type, watched, occupied⟩
  · rintro (⟨type, -, occupied⟩ | watched)
    · exact ⟨type, occupied⟩
    · exact ⟨_, watched⟩

@[simp] theorem raise_stubMap : (manager.step .raise).stubMap = manager.stubMap := by
  simp only [step, raise]
  split <;> rfl

@[simp] theorem raise_cleaners : (manager.step .raise).cleaners = manager.cleaners := by
  simp only [step, raise]
  split <;> rfl

@[simp] theorem raise_future : (manager.step .raise).future = false := by
  simp only [step, raise]
  split
  · rfl
  · rename_i none
    simpa using none

@[simp] theorem raise_critical :
    (manager.step .raise).critical = (manager.critical || manager.future) := by
  simp only [step, raise]
  split
  · rename_i pending
    simp [pending]
  · rename_i none
    simp [none]

@[simp] theorem clean_stubMap : (manager.step .handleAsyncExecution).stubMap = manager.stubMap := by
  simp only [step, handleAsyncExecution]
  split
  · rfl
  · exact lowerIfEmpty_stubMap

@[simp] theorem lowerIfEmpty_future : manager.lowerIfEmpty.future = manager.future := by
  unfold lowerIfEmpty
  split <;> rfl

@[simp] theorem lowerIfEmpty_cleaners : manager.lowerIfEmpty.cleaners = manager.cleaners := by
  unfold lowerIfEmpty
  split <;> rfl

theorem lowerIfEmpty_critical (kept : Kept manager) : manager.lowerIfEmpty.critical = true ↔
      manager.critical = true ∧ Counted manager.stubMap := by
  have empty := getStubMapCountIsEmpty_iff kept
  unfold lowerIfEmpty
  split
  · rename_i none
    simp [setCritical, empty.mp none]
  rename_i some
  have counted : Counted manager.stubMap := by
    by_contra none
    exact some (empty.mpr none)
  simp [counted]

@[simp] theorem clean_future : (manager.step .handleAsyncExecution).future = manager.future := by
  simp only [step, handleAsyncExecution]
  split
  · rfl
  · exact lowerIfEmpty_future

@[simp] theorem clean_cleaners :
    (manager.step .handleAsyncExecution).cleaners = manager.cleaners - 1 := by
  simp only [step, handleAsyncExecution]
  split
  · rename_i none
    rw [none]
  · exact lowerIfEmpty_cleaners

theorem clean_critical (kept : Kept manager) :
    (manager.step .handleAsyncExecution).critical = true ↔
      manager.critical = true ∧ (manager.cleaners = 0 ∨ Counted manager.stubMap) := by
  simp only [step, handleAsyncExecution]
  split
  · rename_i none
    simp [none]
  rename_i some
  have waited : Kept { manager with cleaners := manager.cleaners - 1 } :=
    kept.of_same ⟨rfl, rfl, rfl⟩
  rw [lowerIfEmpty_critical waited]
  simp [some]

theorem clean_all (kept : Kept manager) {count : Nat} (all : manager.cleaners = count) :
    let after := run step manager (List.replicate count .handleAsyncExecution)
    Kept after ∧ after.stubMap = manager.stubMap ∧ after.future = manager.future ∧
      after.cleaners = 0 ∧
      (after.critical = true ↔
        manager.critical = true ∧ (count = 0 ∨ Counted manager.stubMap)) := by
  induction count generalizing manager with
  | zero => exact ⟨kept, rfl, rfl, all, by simp⟩
  | succ count ih =>
    have fewer : (manager.step .handleAsyncExecution).cleaners = count := by
      rw [clean_cleaners, all]
      rfl
    rcases ih (kept_step kept .handleAsyncExecution) fewer with
      ⟨keptAfter, stubs, future, cleaners, critical⟩
    refine ⟨keptAfter, stubs.trans clean_stubMap, future.trans clean_future, cleaners, ?_⟩
    refine critical.trans ?_
    rw [clean_critical kept, clean_stubMap]
    constructor
    · rintro ⟨⟨marked, none | counted⟩, -⟩
      · omega
      · exact ⟨marked, .inr counted⟩
    · rintro ⟨marked, none | counted⟩
      · omega
      · exact ⟨⟨marked, .inr counted⟩, .inr counted⟩

/-- The states from which every order of the outstanding tasks leaves the mark right: a raise and
the cleaners must not both be outstanding where the cleaners would lower the mark. -/
structure InOrder (manager : MediaServerManager) : Prop where
  counted : Counted manager.stubMap → manager.critical = true ∨ manager.future = true
  watched : ¬ Counted manager.stubMap → Watched manager.stubMap →
    manager.cleaners = 0 ∧ (manager.critical = true ∨ manager.future = true)
  idle : ¬ Counted manager.stubMap → ¬ Watched manager.stubMap →
    manager.future = false ∧ (manager.critical = false ∨ 0 < manager.cleaners)

theorem inOrder_raise (order : InOrder manager) : InOrder (manager.step .raise) := by
  constructor
  · rw [raise_stubMap, raise_critical, Bool.or_eq_true]
    exact fun counted => .inl (order.counted counted)
  · rw [raise_stubMap, raise_critical, raise_cleaners, Bool.or_eq_true]
    intro uncounted watched
    have marked := order.watched uncounted watched
    exact ⟨marked.1, .inl marked.2⟩
  · rw [raise_stubMap, raise_critical, raise_cleaners, raise_future]
    intro uncounted unwatched
    have unmarked := order.idle uncounted unwatched
    rw [unmarked.1, Bool.or_false]
    exact ⟨rfl, unmarked.2⟩

theorem inOrder_clean (kept : Kept manager) (order : InOrder manager) :
    InOrder (manager.step .handleAsyncExecution) := by
  constructor
  · rw [clean_stubMap, clean_critical kept, clean_future]
    intro counted
    exact (order.counted counted).imp_left fun marked => ⟨marked, .inr counted⟩
  · rw [clean_stubMap, clean_critical kept, clean_future, clean_cleaners]
    intro uncounted watched
    have marked := order.watched uncounted watched
    refine ⟨by rw [marked.1], marked.2.imp_left fun critical => ⟨critical, .inl marked.1⟩⟩
  · rw [clean_stubMap, clean_future]
    intro uncounted unwatched
    have unmarked := order.idle uncounted unwatched
    refine ⟨unmarked.1, .inl ?_⟩
    rw [← Bool.not_eq_true, clean_critical kept]
    rintro ⟨marked, none | counted⟩
    · rcases unmarked.2 with unmarked | some
      · rw [unmarked] at marked
        cases marked
      · omega
    · exact uncounted counted

theorem inOrder_tasks {tasks : List ManagerEvent} (kept : Kept manager)
    (only : ∀ task ∈ tasks, task.isTask = true) (order : InOrder manager) :
    InOrder (run step manager tasks) := by
  induction tasks generalizing manager with
  | nil => exact order
  | cons task rest ih =>
    have isTask := only task List.mem_cons_self
    have next : InOrder (manager.step task) := by
      cases task with
      | raise => exact inOrder_raise order
      | handleAsyncExecution => exact inOrder_clean kept order
      | _ => cases isTask
    exact ih (kept_step kept task) (fun later member => only later (.tail _ member)) next

theorem InOrder.marked (order : InOrder manager) (quiescent : Quiescent manager) :
    manager.critical = true ↔ manager.Serves := by
  rw [serves_iff]
  constructor
  · intro marked
    by_contra none
    rw [not_or] at none
    rcases (order.idle none.1 none.2).2 with unmarked | some
    · rw [unmarked] at marked
      cases marked
    · exact absurd quiescent.2 (Nat.pos_iff_ne_zero.mp some)
  · have settles (marked : manager.critical = true ∨ manager.future = true) :
        manager.critical = true := by
      refine marked.resolve_right ?_
      rw [quiescent.1]
      decide
    rintro (counted | watched)
    · exact settles (order.counted counted)
    · by_cases counted : Counted manager.stubMap
      · exact settles (order.counted counted)
      · exact settles (order.watched counted watched).2

theorem settled_iff_inOrder (kept : Kept manager) : manager.Settled ↔ InOrder manager := by
  constructor
  · intro settled
    let clean := List.replicate manager.cleaners ManagerEvent.handleAsyncExecution
    have cleaning : ∀ task ∈ clean, task.isTask = true := by
      intro task member
      rw [List.eq_of_mem_replicate member]
      rfl
    -- The raise first, then the cleaners.
    have lowered : (manager.critical = true ∨ manager.future = true) ∧
        (manager.cleaners = 0 ∨ Counted manager.stubMap) ↔ manager.Serves := by
      have only : ∀ task ∈ ManagerEvent.raise :: clean, task.isTask = true := by
        intro task member
        rcases List.mem_cons.mp member with rfl | member
        · rfl
        · exact cleaning task member
      have outstanding : (manager.step .raise).cleaners = manager.cleaners := raise_cleaners
      have after := clean_all (kept_step kept .raise) outstanding
      have marked := settled _ only
      simp only [run_cons] at marked
      rcases after with ⟨-, stubs, future, cleaners, critical⟩
      have quiet := marked ⟨future.trans raise_future, cleaners⟩
      rw [critical, raise_critical, raise_stubMap, Bool.or_eq_true] at quiet
      exact quiet.trans (serves_congr (stubs.trans raise_stubMap))
    -- The cleaners first.
    have raised : manager.future = true ∨ manager.critical = true ∧
        (manager.cleaners = 0 ∨ Counted manager.stubMap) ↔ manager.Serves := by
      have only : ∀ task ∈ clean ++ [ManagerEvent.raise], task.isTask = true := by
        intro task member
        rcases List.mem_append.mp member with member | member
        · exact cleaning task member
        · rw [List.mem_singleton.mp member]
          rfl
      have after := clean_all kept (rfl : manager.cleaners = manager.cleaners)
      have marked := settled _ only
      simp only [run_append, run_cons, run_nil] at marked
      rcases after with ⟨-, stubs, future, cleaners, critical⟩
      have quiet := marked ⟨raise_future, raise_cleaners.trans cleaners⟩
      rw [raise_critical, Bool.or_eq_true, critical, future, or_comm] at quiet
      exact quiet.trans (serves_congr (raise_stubMap.trans stubs))
    rw [serves_iff] at lowered raised
    constructor
    · intro counted
      exact (lowered.mpr (.inl counted)).1
    · intro uncounted watched
      have marked := lowered.mpr (.inr watched)
      exact ⟨marked.2.resolve_right uncounted, marked.1⟩
    · intro uncounted unwatched
      have unserved : ¬ (Counted manager.stubMap ∨ Watched manager.stubMap) :=
        not_or.mpr ⟨uncounted, unwatched⟩
      have quiet := not_or.mp (mt raised.mp unserved)
      refine ⟨by simpa using quiet.1, ?_⟩
      by_cases marked : manager.critical = true
      · right
        refine Nat.pos_of_ne_zero fun none => quiet.2 ⟨marked, .inl none⟩
      · left
        simpa using marked
  · intro order tasks only quiescent
    exact (inOrder_tasks kept only order).marked quiescent

/-- What keeps the mark right. A create leaves a stub that is looked for, or one of the other type
while no cleaner is outstanding. A destroy that leaves no stub that is looked for leaves none of the
other type either, while no raise is outstanding; a raise that is outstanding marks the process
again if no cleaner is. -/
def MarkGuard (manager : MediaServerManager) : ManagerEvent → Prop
  | .createStubObject type _ created =>
    (Counted manager.stubMap ∨
      manager.comesThrough type created = true ∧ type ≠ .screenCaptureMonitor) ∨
    (Watched manager.stubMap ∨ manager.comesThrough type created = true) ∧ manager.cleaners = 0
  | .destroyStubObject type object _ =>
    Counted (manager.stubsWithout type object) ∨
    if manager.stubsWithout type object .screenCaptureMonitor = [] then manager.future = false
    else manager.future = true ∧ manager.cleaners = 0
  | .destroyStubObjectForPid pid _ =>
    Counted (manager.stubsOfOthers pid) ∨
    manager.stubsOfOthers pid .screenCaptureMonitor = [] ∧ manager.future = false
  | _ => True

/-- Where the time would be set, no low latency stub is left. -/
def TimeGuard (manager : MediaServerManager) (left : StubType → List StubEntry) (now : Int) :
    Prop :=
  manager.allInstancesReleasedTime = 0 → now ≠ 0 →
    (∀ type, type ≠ .lppAudioPlayer → type ≠ .lppVideoPlayer → left type = []) →
      left .lppAudioPlayer = [] ∧ left .lppVideoPlayer = []

def ReleaseGuard (manager : MediaServerManager) : ManagerEvent → Prop
  | .destroyStubObject type object now => manager.TimeGuard (manager.stubsWithout type object) now
  | .destroyStubObjectForPid pid now => manager.TimeGuard (manager.stubsOfOthers pid) now
  | _ => True

variable (type : StubType) (pid : Int) (created : Bool)

theorem counted_create : Counted (manager.createStubObjectByType type pid created).stubMap ↔
      Counted manager.stubMap ∨
        manager.comesThrough type created = true ∧ type ≠ .screenCaptureMonitor := by
  cases through : manager.comesThrough type created with
  | false => simp [create_nothing through]
  | true =>
    rcases create_through through pid with ⟨added, others, -⟩
    constructor
    · rintro ⟨kind, unwatched, occupied⟩
      by_cases same : kind = type
      · exact .inr ⟨rfl, same ▸ unwatched⟩
      · rw [others kind same] at occupied
        exact .inl ⟨kind, unwatched, occupied⟩
    · rintro (⟨kind, unwatched, occupied⟩ | ⟨-, unwatched⟩)
      · refine ⟨kind, unwatched, ?_⟩
        by_cases same : kind = type
        · subst same
          simp [added]
        · rwa [others kind same]
      · exact ⟨type, unwatched, by simp [added]⟩

theorem watched_create : Watched (manager.createStubObjectByType type pid created).stubMap ↔
      Watched manager.stubMap ∨
        manager.comesThrough type created = true ∧ type = .screenCaptureMonitor := by
  cases through : manager.comesThrough type created with
  | false => simp [create_nothing through]
  | true =>
    rcases create_through through pid with ⟨added, others, -⟩
    by_cases same : type = .screenCaptureMonitor
    · subst same
      simp [Watched, added]
    · simp [Watched, same, others _ (Ne.symm same)]

theorem create_outstanding :
    (manager.createStubObjectByType type pid created).cleaners = manager.cleaners := by
  cases type <;>
    simp only [createStubObjectByType, createPlayerStubObject, addStub, setStubMap] <;>
    repeat (split <;> try rfl)

theorem order_create : InOrder (manager.createStubObject type pid created) ↔
      manager.MarkGuard (.createStubObject type pid created) := by
  have counted := @counted_create manager type pid created
  have watched := @watched_create manager type pid created
  have cleaners := @create_outstanding manager type pid created
  have raised : (manager.createStubObject type pid created).future = true := rfl
  have stubs : (manager.createStubObject type pid created).stubMap =
      (manager.createStubObjectByType type pid created).stubMap := rfl
  have waiting : (manager.createStubObject type pid created).cleaners = manager.cleaners :=
    cleaners
  constructor
  · intro order
    by_cases looked : Counted (manager.createStubObjectByType type pid created).stubMap
    · exact .inl (counted.mp looked)
    right
    by_cases other : Watched (manager.createStubObjectByType type pid created).stubMap
    · have none := (order.watched looked other).1
      rw [waiting] at none
      exact ⟨(watched.mp other).imp_right And.left, none⟩
    · have none := (order.idle looked other).1
      cases none
  · intro guarded
    refine ⟨fun _ => .inr raised, ?_, ?_⟩
    · intro looked _
      rw [stubs, counted] at looked
      exact ⟨waiting.trans (guarded.resolve_left looked).2, .inr raised⟩
    · intro looked other
      rw [stubs, counted] at looked
      rw [stubs, watched] at other
      rcases (guarded.resolve_left looked).1 with old | through
      · exact absurd (.inl old) other
      · by_cases same : type = .screenCaptureMonitor
        · exact absurd (.inr ⟨through, same⟩) other
        · exact absurd (.inr ⟨through, same⟩) looked

structure SameMarks (before after : MediaServerManager) : Prop where
  future : after.future = before.future
  cleaners : after.cleaners = before.cleaners
  critical : after.critical = before.critical

theorem SameMarks.trans {first second third : MediaServerManager}
    (before : SameMarks first second) (after : SameMarks second third) :
    SameMarks first third where
  future := after.future.trans before.future
  cleaners := after.cleaners.trans before.cleaners
  critical := after.critical.trans before.critical

theorem sameMarks_update (now : Int) (manager : MediaServerManager) :
    SameMarks manager (manager.updateAllInstancesReleasedTime now) := by
  unfold updateAllInstancesReleasedTime
  split <;> exact ⟨rfl, rfl, rfl⟩

theorem sameMarks_destroy (object : Nat) (manager : MediaServerManager) :
    SameMarks manager (manager.destroyStubByType type object) ∧
      (manager.destroyStubByType type object).allInstancesReleasedTime =
        manager.allInstancesReleasedTime := by
  cases type
  case player =>
      simp only [destroyStubByType, destroyAVPlayerStub]
      split <;> exact ⟨⟨rfl, rfl, rfl⟩, rfl⟩
  all_goals exact ⟨⟨rfl, rfl, rfl⟩, rfl⟩

theorem order_destroy (kept : Kept manager) (order : InOrder manager) (type : StubType)
    (object : Nat) (now : Int) :
    InOrder (manager.destroyStubObject type object now) ↔
      manager.MarkGuard (.destroyStubObject type object now) := by
  let left := (manager.destroyStubByType type object).updateAllInstancesReleasedTime now
  have same : SameMarks manager left :=
    (sameMarks_destroy type object manager).1.trans (sameMarks_update now _)
  have stubs : left.stubMap = manager.stubsWithout type object :=
    (update_stubMap now).trans (destroy_stubMap kept type object)
  have keptLeft : Kept left :=
    (kept_destroy_by_type kept type object).of_same (sameStubs_update now _)
  have fewer : Counted (manager.stubsWithout type object) → Counted manager.stubMap := by
    rintro ⟨kind, unwatched, occupied⟩
    exact ⟨kind, unwatched, fun none => occupied (by simp [stubsWithout, none])⟩
  have critical := lowerIfEmpty_critical keptLeft
  rw [stubs, same.critical] at critical
  have stubMap : (manager.destroyStubObject type object now).stubMap =
      manager.stubsWithout type object := lowerIfEmpty_stubMap.trans stubs
  have future : (manager.destroyStubObject type object now).future = manager.future :=
    lowerIfEmpty_future.trans same.future
  have cleaners : (manager.destroyStubObject type object now).cleaners = manager.cleaners :=
    lowerIfEmpty_cleaners.trans same.cleaners
  have marked : (manager.destroyStubObject type object now).critical = true ↔
      manager.critical = true ∧ Counted (manager.stubsWithout type object) := critical
  by_cases counted : Counted (manager.stubsWithout type object)
  · refine iff_of_true ?_ (.inl counted)
    constructor
    · intro _
      rw [marked, future]
      exact (order.counted (fewer counted)).imp_left fun mark => ⟨mark, counted⟩
    · rw [stubMap]
      exact fun uncounted => absurd counted uncounted
    · rw [stubMap]
      exact fun uncounted => absurd counted uncounted
  · have unmarked : (manager.destroyStubObject type object now).critical = false := by
      rw [← Bool.not_eq_true, marked]
      exact fun both => counted both.2
    constructor
    · intro after
      refine .inr ?_
      split
      · rename_i none
        have idle := after.idle (stubMap ▸ counted) (by rw [stubMap]; exact fun some => some none)
        exact future.symm.trans idle.1
      · rename_i some
        have watched := after.watched (stubMap ▸ counted) (by rw [stubMap]; exact some)
        rw [unmarked, future, cleaners] at watched
        exact ⟨watched.2.resolve_left (by decide), watched.1⟩
    · intro guarded
      have rest := guarded.resolve_left counted
      constructor
      · rw [stubMap]
        exact fun looked => absurd looked counted
      · rw [stubMap, future, cleaners]
        intro _ watched
        rw [if_neg watched] at rest
        exact ⟨rest.2, .inr rest.1⟩
      · rw [stubMap, future]
        intro _ unwatched
        rw [if_pos (not_not.mp unwatched)] at rest
        exact ⟨rest, .inl unmarked⟩

theorem order_destroy_pid (order : InOrder manager) (pid now : Int) :
    InOrder (manager.destroyStubObjectForPid pid now) ↔
      manager.MarkGuard (.destroyStubObjectForPid pid now) := by
  have stubMap : (manager.destroyStubObjectForPid pid now).stubMap =
      manager.stubsOfOthers pid := update_stubMap now
  have same := sameMarks_update now
    { manager.destroyStubsOfPid pid with cleaners := manager.cleaners + 1 }
  have future : (manager.destroyStubObjectForPid pid now).future = manager.future := same.future
  have cleaners : (manager.destroyStubObjectForPid pid now).cleaners = manager.cleaners + 1 :=
    same.cleaners
  have critical : (manager.destroyStubObjectForPid pid now).critical = manager.critical :=
    same.critical
  have fewer : Counted (manager.stubsOfOthers pid) → Counted manager.stubMap := by
    rintro ⟨kind, unwatched, occupied⟩
    exact ⟨kind, unwatched, fun none => occupied (by simp [stubsOfOthers, none])⟩
  by_cases counted : Counted (manager.stubsOfOthers pid)
  · refine iff_of_true ?_ (.inl counted)
    constructor
    · intro _
      rw [future, critical]
      exact order.counted (fewer counted)
    · rw [stubMap]
      exact fun uncounted => absurd counted uncounted
    · rw [stubMap]
      exact fun uncounted => absurd counted uncounted
  · constructor
    · intro after
      refine .inr ?_
      by_cases watched : manager.stubsOfOthers pid .screenCaptureMonitor = []
      · have idle := after.idle (stubMap ▸ counted)
          (by rw [stubMap]; exact fun some => some watched)
        exact ⟨watched, future.symm.trans idle.1⟩
      · have none := (after.watched (stubMap ▸ counted) (by rw [stubMap]; exact watched)).1
        omega
    · intro guarded
      have rest := guarded.resolve_left counted
      constructor
      · rw [stubMap]
        exact fun looked => absurd looked counted
      · rw [stubMap]
        exact fun _ watched => absurd rest.1 watched
      · rw [future, cleaners]
        exact fun _ _ => ⟨rest.2, .inr (Nat.succ_pos _)⟩

theorem order_step (kept : Kept manager) (order : InOrder manager) (event : ManagerEvent) :
    InOrder (manager.step event) ↔ manager.MarkGuard event := by
  cases event with
  | createStubObject type pid created => exact order_create type pid created
  | destroyStubObject type object now => exact order_destroy kept order type object now
  | destroyStubObjectForPid pid now => exact order_destroy_pid order pid now
  | resetAllInstancesReleasedTime =>
    exact iff_of_true ⟨order.counted, order.watched, order.idle⟩ trivial
  | raise => exact iff_of_true (inOrder_raise order) trivial
  | handleAsyncExecution => exact iff_of_true (inOrder_clean kept order) trivial

theorem getInstanceCount_iff (kept : Kept manager) : manager.getInstanceCount = 0 ↔
      ∀ type, type ≠ .lppAudioPlayer → type ≠ .lppVideoPlayer → manager.stubMap type = [] := by
  unfold getInstanceCount
  simp only [Nat.add_eq_zero_iff, List.length_eq_zero_iff]
  constructor
  · rintro ⟨⟨⟨⟨⟨⟨⟨⟨⟨first, second⟩, third⟩, fourth⟩, fifth⟩, sixth⟩, seventh⟩, eighth⟩, ninth⟩,
      last⟩ type audio video
    cases type <;> first
      | assumption | exact kept.unmapped | exact absurd rfl audio | exact absurd rfl video
  · intro empty
    refine ⟨⟨⟨⟨⟨⟨⟨⟨⟨?_, ?_⟩, ?_⟩, ?_⟩, ?_⟩, ?_⟩, ?_⟩, ?_⟩, ?_⟩, ?_⟩ <;>
      exact empty _ (by decide) (by decide)

theorem release_update (kept : Kept manager) (now : Int) : (manager.allInstancesReleasedTime = 0 →
      (manager.updateAllInstancesReleasedTime now).allInstancesReleasedTime ≠ 0 →
        ¬ manager.Serves) ↔ manager.TimeGuard manager.stubMap now := by
  have count := getInstanceCount_iff kept
  unfold TimeGuard updateAllInstancesReleasedTime
  refine imp_congr_right fun unset => ?_
  split
  · rename_i both
    have others := count.mp both.2
    refine imp_congr_right fun _ => ?_
    constructor
    · intro unserved _
      constructor
      · by_contra some
        exact unserved ⟨_, some⟩
      · by_contra some
        exact unserved ⟨_, some⟩
    · rintro none ⟨type, occupied⟩
      rcases none others with ⟨audio, video⟩
      by_cases isAudio : type = .lppAudioPlayer
      · exact occupied (isAudio ▸ audio)
      · by_cases isVideo : type = .lppVideoPlayer
        · exact occupied (isVideo ▸ video)
        · exact occupied (others type isAudio isVideo)
  · rename_i neither
    refine iff_of_true (fun set => absurd unset set) ?_
    intro _ others
    exact absurd ⟨unset, count.mpr others⟩ neither

theorem create_time : (manager.createStubObjectByType type pid created).allInstancesReleasedTime =
      manager.allInstancesReleasedTime := by
  cases type <;>
    simp only [createStubObjectByType, createPlayerStubObject, addStub, setStubMap] <;>
    repeat (split <;> try rfl)

@[simp] theorem lowerIfEmpty_time :
    manager.lowerIfEmpty.allInstancesReleasedTime = manager.allInstancesReleasedTime := by
  unfold lowerIfEmpty
  split <;> rfl

theorem released_of_same {event : ManagerEvent}
    (same : (manager.step event).allInstancesReleasedTime = manager.allInstancesReleasedTime) :
    manager.ReleasedOnlyIdle event := by
  intro unset set
  rw [same] at set
  exact absurd unset set

theorem release_step (kept : Kept manager) (event : ManagerEvent) :
    manager.ReleasedOnlyIdle event ↔ manager.ReleaseGuard event := by
  cases event with
  | createStubObject type pid created =>
    exact iff_of_true (released_of_same (create_time type pid created)) trivial
  | destroyStubObject type object now =>
    have update := release_update (kept_destroy_by_type kept type object) now
    have unset := (sameMarks_destroy type object manager).2
    have stubs := destroy_stubMap kept type object
    rw [TimeGuard, unset, stubs] at update
    have serves : (manager.step (.destroyStubObject type object now)).Serves ↔
        (manager.destroyStubByType type object).Serves :=
      serves_congr (lowerIfEmpty_stubMap.trans (update_stubMap now))
    have time : (manager.step (.destroyStubObject type object now)).allInstancesReleasedTime =
        ((manager.destroyStubByType type object).updateAllInstancesReleasedTime
          now).allInstancesReleasedTime := lowerIfEmpty_time
    unfold ReleasedOnlyIdle
    rw [time, serves]
    exact update
  | destroyStubObjectForPid pid now =>
    have left := kept_destroy_pid kept pid
    have counted : Kept { manager.destroyStubsOfPid pid with
      cleaners := (manager.destroyStubsOfPid pid).cleaners + 1 } :=
      left.of_same ⟨rfl, rfl, rfl⟩
    have update := release_update counted now
    have serves : (manager.step (.destroyStubObjectForPid pid now)).Serves ↔
        (manager.destroyStubsOfPid pid).Serves := serves_congr (update_stubMap now)
    unfold ReleasedOnlyIdle
    rw [serves]
    exact update
  | resetAllInstancesReleasedTime =>
    refine iff_of_true ?_ trivial
    intro _ set
    exact absurd rfl set
  | raise =>
    refine iff_of_true (released_of_same ?_) trivial
    simp only [step, raise]
    split <;> rfl
  | handleAsyncExecution =>
    refine iff_of_true (released_of_same ?_) trivial
    simp only [step, handleAsyncExecution]
    split
    · rfl
    · exact lowerIfEmpty_time

theorem settled_always_iff (events : List ManagerEvent) :
    (∀ count, (run step {} (events.take count)).Settled) ↔ Along step MarkGuard {} events := by
  have idle : InOrder {} := by
    constructor
    · rintro ⟨type, -, occupied⟩
      exact absurd rfl occupied
    · intro _ watched
      exact absurd rfl watched
    · intro _ _
      exact ⟨rfl, .inl rfl⟩
  have settled : Settled {} := (settled_iff_inOrder kept_initial).mpr idle
  refine always_iff_along_within Settled Kept ?_ ?_ settled kept_initial events
  · intro manager event settled kept
    have order := (settled_iff_inOrder kept).mp settled
    rw [settled_iff_inOrder (kept_step kept event)]
    exact order_step kept order event
  · intro manager event _ kept _
    exact kept_step kept event

/-- In a run from the start, the process is marked exactly while it serves, however the outstanding
tasks run, and the time of the last release is set only while it does not, if and only if every step
meets the two guards. -/
theorem marked_while_serving_iff (events : List ManagerEvent) :
    ((∀ count, (run step {} (events.take count)).Settled) ∧ Along step ReleasedOnlyIdle {} events) ↔
    Along step (fun manager event => manager.MarkGuard event ∧ manager.ReleaseGuard event) {}
      events := by
  rw [settled_always_iff, along_and]
  have releases := along_congr Kept (fun _ event kept => kept_step kept event)
    (fun _ event kept => release_step kept event) kept_initial events
  exact and_congr_right fun _ => releases

/-- A monitor of the screen capture is left when the only player is destroyed: the process is no
longer marked. A low latency player is left when the only recorder is destroyed: the time of the
last release is set. -/
theorem omitted_stubs :
    (let left := run step {} [.createStubObject .screenCaptureMonitor 7 true, .raise,
      .createStubObject .player 7 true, .raise, .destroyStubObject .player 1 500]
    left.Quiescent ∧ left.Serves ∧ left.critical = false) ∧
    (let serving := run step {} [.createStubObject .lppVideoPlayer 7 true, .raise,
      .createStubObject .recorder 8 true, .raise]
    ¬ serving.ReleasedOnlyIdle (.destroyStubObject .recorder 1 500)) := by
  refine ⟨⟨⟨by decide, by decide⟩, ⟨.screenCaptureMonitor, by decide⟩, by decide⟩, ?_⟩
  intro serving released
  exact released (by decide) (by decide) ⟨.lppVideoPlayer, by decide⟩

end MediaServerManager

end PlayerFramework.ServerManager
