import PlayerFramework.Transition
import PlayerFramework.Utils.UriHelper
import Mathlib.Logic.Function.Basic

/-!
Who owns the descriptors of a process in which `UriHelper`s are constructed and destroyed: which
of them a constructor duplicates, adopts or merely stores, and which the destructor closes.
-/

namespace PlayerFramework.Utils

open Transition Function

/-- What a URI has its helper take as a descriptor, if anything. -/
def uriParam (uri : List Char) : Option FdParam :=
  let parts := splitUriHeadAndBody uri
  if uri ≠ [] ∧ parts.1 = ['f', 'd'] then (parseNumbers parts.2).toOption else none

inductive Owner where
  | caller
  | helper (id : Nat)
deriving DecidableEq

/-- An open descriptor; numbers are used again, serials are not. -/
structure Descriptor where
  serial : Nat
  owner : Owner
deriving DecidableEq

/-- A `close` of a helper, and what was open under the number. -/
structure Closing where
  helper : Nat
  found : Option Descriptor
deriving DecidableEq

structure Process where
  descriptors : Int → Option Descriptor := fun _ => none
  /-- The `fd_` of each helper that exists. -/
  helpers : Nat → Option Int := fun _ => none
  nextHelper : Nat := 0
  nextSerial : Nat := 0
  /-- The serials of what each helper duplicated or was told to adopt. -/
  received : List (Nat × Nat) := []
  closings : List Closing := []

namespace Process

/-- What `dup` returns where `given` is the number that the kernel chooses. -/
def dupGiven (process : Process) (fd given : Int) : Option Int :=
  if process.descriptors fd ≠ none ∧ 0 ≤ given ∧ process.descriptors given = none then some given
  else none

/-- `dup` in a member function of a helper. -/
def dup (process : Process) (id : Nat) (fd given : Int) : Process × Int :=
  match process.dupGiven fd given with
  | none => (process, -1)
  | some new =>
    ({ process with
        descriptors := update process.descriptors new
          (some { serial := process.nextSerial, owner := .helper id })
        nextSerial := process.nextSerial + 1
        received := (id, process.nextSerial) :: process.received }, new)

/-- `close` in a member function of a helper. -/
def close (process : Process) (id : Nat) (fd : Int) : Process :=
  { process with
    descriptors := update process.descriptors fd none
    closings := { helper := id, found := process.descriptors fd } :: process.closings }

/-- The caller hands a descriptor over. -/
def adopt (process : Process) (id : Nat) (fd : Int) : Process :=
  match process.descriptors fd with
  | none => process
  | some handed =>
    { process with
      descriptors := update process.descriptors fd (some { handed with owner := .helper id })
      received := (id, handed.serial) :: process.received }

/-- `ParseFdUri` where it stores the descriptor; `fd_` is the number stored so far. -/
def parseFd (process : Process) (id : Nat) (fd_ given : Int) : Option FdParam → Process × Int
  | none => (process, fd_)
  | some param =>
    if param.duplicated then
      (if 0 ≤ fd_ then process.close id fd_ else process).dup id param.fd given
    else (process, param.fd)

/-- A helper exists from now on. -/
def construct (process : Process) (fd_ : Int) : Process :=
  { process with
    helpers := update process.helpers process.nextHelper (some fd_)
    nextHelper := process.nextHelper + 1 }

def fromUri (process : Process) (uri : List Char) (given : Int) : Process :=
  let parsed := process.parseFd process.nextHelper (-1) given (uriParam uri)
  parsed.1.construct parsed.2

/-- `UriHelper(fd, offset, size, needAdoptFd)` -/
def fromFd (process : Process) (fd : Int) (needAdoptFd : Bool) (given : Int) : Process :=
  let taken := if needAdoptFd then (process.adopt process.nextHelper fd, fd)
    else process.dup process.nextHelper fd given
  taken.1.construct taken.2

def forget (process : Process) (id : Nat) : Process :=
  { process with helpers := update process.helpers id none }

def destroy (process : Process) (id : Nat) : Process :=
  match process.helpers id with
  | none => process
  | some fd_ => (if 0 ≤ fd_ then process.close id fd_ else process).forget id

/-- The caller opens a file; the kernel gives a number that is not in use. -/
def callerOpens (process : Process) (given : Int) : Process :=
  if 0 ≤ given ∧ process.descriptors given = none then
    { process with
      descriptors := update process.descriptors given
        (some { serial := process.nextSerial, owner := .caller })
      nextSerial := process.nextSerial + 1 }
  else process

def callerCloses (process : Process) (fd : Int) : Process :=
  match process.descriptors fd with
  | some { owner := .caller, .. } =>
    { process with descriptors := update process.descriptors fd none }
  | _ => process

inductive Move where
  | callerOpens (given : Int)
  | callerCloses (fd : Int)
  | fromUri (uri : List Char) (given : Int)
  | fromFd (fd : Int) (needAdoptFd : Bool) (given : Int)
  | destroy (id : Nat)
deriving DecidableEq

def next (process : Process) : Move → Process
  | .callerOpens given => process.callerOpens given
  | .callerCloses fd => process.callerCloses fd
  | .fromUri uri given => process.fromUri uri given
  | .fromFd fd needAdoptFd given => process.fromFd fd needAdoptFd given
  | .destroy id => process.destroy id

/-- How often helpers closed the descriptor of this serial. -/
def closedCount (process : Process) (serial : Nat) : Nat :=
  process.closings.countP fun closing => closing.found.map (·.serial) == some serial

/-- Each descriptor that a helper closed is one that it duplicated or was told to adopt; while the
helper exists such a descriptor is open under the number it stores, and once it is destroyed it
has been closed exactly once. -/
structure Owns (process : Process) : Prop where
  closed : ∀ closing ∈ process.closings, ∃ descriptor, closing.found = some descriptor ∧
    (closing.helper, descriptor.serial) ∈ process.received
  open_ : ∀ id serial fd_, (id, serial) ∈ process.received → process.helpers id = some fd_ →
    process.descriptors fd_ = some { serial, owner := .helper id } ∧ process.closedCount serial = 0
  once : ∀ id serial, (id, serial) ∈ process.received → process.helpers id = none →
    process.closedCount serial = 1

/-- A descriptor of the caller stays open through the move, but for its own `close` and for
handing it over. -/
def KeepsCallers (process : Process) (move : Move) : Prop :=
  ∀ fd descriptor, process.descriptors fd = some descriptor → descriptor.owner = .caller →
    move ≠ .callerCloses fd → (∀ given, move ≠ .fromFd fd true given) →
      (process.next move).descriptors fd = some descriptor

/-- No helper is constructed from a URI that is a number alone, unless it is negative, and only
an open descriptor of the caller is handed over. -/
def Obtains (process : Process) : Move → Prop
  | .fromUri uri _ =>
    match uriParam uri with
    | some { duplicated := false, fd, .. } => fd < 0
    | _ => True
  | .fromFd fd true _ => fd < 0 ∨ (process.descriptors fd).map (·.owner) = some .caller
  | _ => True

instance (process : Process) (move : Move) : Decidable (process.Obtains move) := by
  unfold Obtains
  repeat' split
  all_goals infer_instance

/-- `Owns`, and what tells descriptors apart. -/
structure Tracks (process : Process) : Prop extends Owns process where
  held : ∀ id fd_, process.helpers id = some fd_ → 0 ≤ fd_ → ∃ serial,
    process.descriptors fd_ = some { serial, owner := .helper id }
  named : ∀ id serial, (id, serial) ∈ process.received → id < process.nextHelper
  fresh : ∀ id, process.nextHelper ≤ id → process.helpers id = none
  owners : ∀ fd serial id, process.descriptors fd = some { serial, owner := .helper id } →
    (id, serial) ∈ process.received ∧ process.helpers id = some fd
  numbers : ∀ fd descriptor, process.descriptors fd = some descriptor → 0 ≤ fd
  serials : ∀ fd descriptor, process.descriptors fd = some descriptor →
    descriptor.serial < process.nextSerial
  distinct : ∀ fd other first second, process.descriptors fd = some first →
    process.descriptors other = some second → first.serial = second.serial → fd = other
  uncounted : ∀ fd descriptor, process.descriptors fd = some descriptor →
    process.closedCount descriptor.serial = 0
  unborn : ∀ serial, process.nextSerial ≤ serial → process.closedCount serial = 0

section

variable {process : Process}

theorem tracks_initially : Tracks {} where
  closed := by simp
  open_ := by simp
  once := by simp
  held := by simp
  named := by simp
  fresh := fun _ _ => rfl
  owners := by simp
  numbers := by simp
  serials := by simp
  distinct := by simp
  uncounted := by simp
  unborn := fun _ _ => rfl

variable {fd_ : Int} {id other : Nat}

theorem Tracks.construct (tracks : Tracks process) (negative : fd_ < 0) :
    Tracks (process.construct fd_) := by
  have others : ∀ id, id ≠ process.nextHelper →
      (process.construct fd_).helpers id = process.helpers id :=
    fun id other => update_of_ne other _ _
  have mine : (process.construct fd_).helpers process.nextHelper = some fd_ :=
    update_self _ _ _
  have older : ∀ id serial, (id, serial) ∈ process.received →
      (process.construct fd_).helpers id = process.helpers id := by
    intro id serial received
    exact others id (Nat.ne_of_lt (tracks.named id serial received))
  exact { tracks with
    open_ := by
      intro id serial stored received lives
      rw [older id serial received] at lives
      exact tracks.open_ id serial stored received lives
    once := by
      intro id serial received gone
      rw [older id serial received] at gone
      exact tracks.once id serial received gone
    held := by
      intro id stored lives positive
      by_cases new : id = process.nextHelper
      · subst new
        rw [mine] at lives
        cases lives
        omega
      · rw [others id new] at lives
        exact tracks.held id stored lives positive
    named := fun id serial received => Nat.lt_succ_of_lt (tracks.named id serial received)
    fresh := by
      intro id later
      have later : process.nextHelper + 1 ≤ id := later
      rw [others id (by omega)]
      exact tracks.fresh id (by omega)
    owners := by
      intro fd serial id known
      obtain ⟨received, lives⟩ := tracks.owners fd serial id known
      exact ⟨received, (older id serial received).trans lives⟩ }

/-- A helper that stores a descriptor which is its own from now on. -/
def constructHolding (process : Process) (fd_ : Int) (serial nextSerial : Nat) : Process :=
  { process with
    descriptors := update process.descriptors fd_
      (some { serial, owner := .helper process.nextHelper })
    received := (process.nextHelper, serial) :: process.received
    nextSerial := nextSerial
    helpers := update process.helpers process.nextHelper (some fd_)
    nextHelper := process.nextHelper + 1 }

theorem Tracks.constructHolding (tracks : Tracks process) {serial nextSerial : Nat}
    (number : 0 ≤ fd_)
    (free : ∀ descriptor, process.descriptors fd_ = some descriptor → descriptor.owner = .caller)
    (only : ∀ fd descriptor, process.descriptors fd = some descriptor →
      descriptor.serial = serial → fd = fd_) (unclosed : process.closedCount serial = 0)
    (later : process.nextSerial ≤ nextSerial) (born : serial < nextSerial) :
    Tracks (process.constructHolding fd_ serial nextSerial) := by
  let after := process.constructHolding fd_ serial nextSerial
  have elsewhere : ∀ fd, fd ≠ fd_ → after.descriptors fd = process.descriptors fd :=
    fun fd other => update_of_ne other _ _
  have here : after.descriptors fd_ = some { serial, owner := .helper process.nextHelper } :=
    update_self _ _ _
  have others : ∀ id, id ≠ process.nextHelper → after.helpers id = process.helpers id :=
    fun id other => update_of_ne other _ _
  have mine : after.helpers process.nextHelper = some fd_ := update_self _ _ _
  have older : ∀ id serial, (id, serial) ∈ process.received → id ≠ process.nextHelper :=
    fun id serial received => Nat.ne_of_lt (tracks.named id serial received)
  have counts : ∀ serial, after.closedCount serial = process.closedCount serial := fun _ => rfl
  -- What another helper holds is not the descriptor that is taken.
  have apart : ∀ fd serial id, process.descriptors fd = some { serial, owner := .helper id } →
      fd ≠ fd_ := by
    rintro fd serial id known rfl
    cases free _ known
  exact {
    closed := by
      intro closing member
      obtain ⟨descriptor, found, received⟩ := tracks.closed closing member
      exact ⟨descriptor, found, List.mem_cons_of_mem _ received⟩
    open_ := by
      intro id other stored received lives
      rcases List.mem_cons.mp received with new | old
      · cases new
        rw [mine] at lives
        cases lives
        exact ⟨here, (counts serial).trans unclosed⟩
      · rw [others id (older id other old)] at lives
        obtain ⟨known, uncounted⟩ := tracks.open_ id other stored old lives
        exact ⟨(elsewhere stored (apart _ _ _ known)).trans known, uncounted⟩
    once := by
      intro id other received gone
      rcases List.mem_cons.mp received with new | old
      · cases new
        rw [mine] at gone
        cases gone
      · rw [others id (older id other old)] at gone
        exact tracks.once id other old gone
    held := by
      intro id stored lives positive
      by_cases new : id = process.nextHelper
      · subst new
        rw [mine] at lives
        cases lives
        exact ⟨serial, here⟩
      · rw [others id new] at lives
        obtain ⟨other, known⟩ := tracks.held id stored lives positive
        exact ⟨other, (elsewhere stored (apart _ _ _ known)).trans known⟩
    named := by
      intro id other received
      rcases List.mem_cons.mp received with new | old
      · cases new
        exact Nat.lt_succ_self _
      · exact Nat.lt_succ_of_lt (tracks.named id other old)
    fresh := by
      intro id later
      have later : process.nextHelper + 1 ≤ id := later
      exact (others id (by omega)).trans (tracks.fresh id (by omega))
    owners := by
      intro fd other id known
      by_cases same : fd = fd_
      · subst same
        rw [here] at known
        cases known
        exact ⟨List.mem_cons_self, mine⟩
      · rw [elsewhere fd same] at known
        obtain ⟨received, lives⟩ := tracks.owners fd other id known
        exact ⟨List.mem_cons_of_mem _ received, (others id (older id other received)).trans lives⟩
    numbers := by
      intro fd descriptor known
      by_cases same : fd = fd_
      · exact same ▸ number
      · exact tracks.numbers fd descriptor ((elsewhere fd same).symm.trans known)
    serials := by
      intro fd descriptor known
      by_cases same : fd = fd_
      · subst same
        rw [here] at known
        cases known
        exact born
      · exact Nat.lt_of_lt_of_le
          (tracks.serials fd descriptor ((elsewhere fd same).symm.trans known)) later
    distinct := by
      intro fd other first second firstKnown secondKnown same
      by_cases firstHere : fd = fd_
      · by_cases secondHere : other = fd_
        · exact firstHere.trans secondHere.symm
        · rw [elsewhere other secondHere] at secondKnown
          rw [firstHere, here] at firstKnown
          cases firstKnown
          exact absurd (only other second secondKnown same.symm) secondHere
      · rw [elsewhere fd firstHere] at firstKnown
        by_cases secondHere : other = fd_
        · rw [secondHere, here] at secondKnown
          cases secondKnown
          exact absurd (only fd first firstKnown same) firstHere
        · rw [elsewhere other secondHere] at secondKnown
          exact tracks.distinct fd other first second firstKnown secondKnown same
    uncounted := by
      intro fd descriptor known
      by_cases same : fd = fd_
      · subst same
        rw [here] at known
        cases known
        exact unclosed
      · exact tracks.uncounted fd descriptor ((elsewhere fd same).symm.trans known)
    unborn := fun other unborn => tracks.unborn other (Nat.le_trans later unborn) }

theorem Tracks.callerOpens (tracks : Tracks process) (given : Int) :
    Tracks (process.callerOpens given) := by
  rw [Process.callerOpens]
  split
  · rename_i usable
    have elsewhere : ∀ fd descriptor, process.descriptors fd = some descriptor →
        update process.descriptors given
          (some { serial := process.nextSerial, owner := .caller }) fd = some descriptor := by
      intro fd descriptor known
      have other : fd ≠ given := by
        rintro rfl
        rw [usable.2] at known
        cases known
      rw [update_of_ne other, known]
    have origin : ∀ fd descriptor, update process.descriptors given
        (some { serial := process.nextSerial, owner := .caller }) fd = some descriptor →
          process.descriptors fd = some descriptor ∨
            (fd = given ∧ descriptor = { serial := process.nextSerial, owner := .caller }) := by
      intro fd descriptor known
      by_cases same : fd = given
      · subst same
        rw [update_self] at known
        exact .inr ⟨rfl, (Option.some.inj known).symm⟩
      · rw [update_of_ne same] at known
        exact .inl known
    exact { tracks with
      open_ := by
        intro id serial stored received lives
        obtain ⟨known, uncounted⟩ := tracks.open_ id serial stored received lives
        exact ⟨elsewhere _ _ known, uncounted⟩
      held := by
        intro id stored lives positive
        obtain ⟨serial, known⟩ := tracks.held id stored lives positive
        exact ⟨serial, elsewhere _ _ known⟩
      owners := by
        intro fd serial id known
        rcases origin fd _ known with old | ⟨-, new⟩
        · exact tracks.owners fd serial id old
        · cases new
      numbers := by
        intro fd descriptor known
        rcases origin fd _ known with old | ⟨rfl, -⟩
        · exact tracks.numbers fd descriptor old
        · exact usable.1
      serials := by
        intro fd descriptor known
        rcases origin fd _ known with old | ⟨-, rfl⟩
        · exact Nat.lt_succ_of_lt (tracks.serials fd descriptor old)
        · exact Nat.lt_succ_self _
      distinct := by
        intro fd other first second firstKnown secondKnown same
        rcases origin fd _ firstKnown with firstOld | ⟨rfl, rfl⟩ <;>
          rcases origin other _ secondKnown with secondOld | ⟨rfl, rfl⟩
        · exact tracks.distinct fd other first second firstOld secondOld same
        · exact absurd same (Nat.ne_of_lt (tracks.serials fd first firstOld))
        · exact absurd same.symm (Nat.ne_of_lt (tracks.serials other second secondOld))
        · rfl
      uncounted := by
        intro fd descriptor known
        rcases origin fd _ known with old | ⟨-, rfl⟩
        · exact tracks.uncounted fd descriptor old
        · exact tracks.unborn _ (Nat.le_refl _)
      unborn := fun serial later => tracks.unborn serial (Nat.le_of_succ_le later) }
  · exact tracks

theorem Tracks.callerCloses (tracks : Tracks process) (fd : Int) :
    Tracks (process.callerCloses fd) := by
  unfold Process.callerCloses
  split
  · rename_i serial mine
    have origin : ∀ other descriptor, update process.descriptors fd none other = some descriptor →
          process.descriptors other = some descriptor := by
      intro other descriptor known
      have elsewhere : other ≠ fd := by
        rintro rfl
        rw [update_self] at known
        cases known
      rwa [update_of_ne elsewhere] at known
    have kept : ∀ other serial id,
        process.descriptors other = some { serial, owner := .helper id } →
          update process.descriptors fd none other = some { serial, owner := .helper id } := by
      intro other serial id known
      have elsewhere : other ≠ fd := by
        rintro rfl
        rw [mine] at known
        cases known
      rw [update_of_ne elsewhere, known]
    exact { tracks with
      open_ := by
        intro id serial stored received lives
        obtain ⟨known, uncounted⟩ := tracks.open_ id serial stored received lives
        exact ⟨kept _ _ _ known, uncounted⟩
      held := by
        intro id stored lives positive
        obtain ⟨serial, known⟩ := tracks.held id stored lives positive
        exact ⟨serial, kept _ _ _ known⟩
      owners := fun other serial id known => tracks.owners other serial id (origin _ _ known)
      numbers := fun other descriptor known => tracks.numbers other descriptor (origin _ _ known)
      serials := fun other descriptor known => tracks.serials other descriptor (origin _ _ known)
      distinct := fun first second _ _ firstKnown secondKnown =>
        tracks.distinct first second _ _ (origin _ _ firstKnown) (origin _ _ secondKnown)
      uncounted := fun other descriptor known =>
        tracks.uncounted other descriptor (origin _ _ known) }
  · exact tracks

theorem closedCount_close (id : Nat) {fd : Int} {descriptor : Descriptor}
    (found : process.descriptors fd = some descriptor) (serial : Nat) :
    (process.close id fd).closedCount serial =
      process.closedCount serial + if descriptor.serial = serial then 1 else 0 := by
  simp [closedCount, close, List.countP_cons, found]

theorem forget_self (process : Process) (id : Nat) : (process.forget id).helpers id = none :=
  update_self _ _ _

theorem forget_lives (lives : (process.forget id).helpers other = some fd_) :
    other ≠ id ∧ process.helpers other = some fd_ := by
  have different : other ≠ id := by
    rintro rfl
    rw [forget_self] at lives
    cases lives
  exact ⟨different, (update_of_ne different _ _).symm.trans lives⟩

theorem forget_gone (different : other ≠ id) (gone : (process.forget id).helpers other = none) :
    process.helpers other = none :=
  (update_of_ne different _ _).symm.trans gone

theorem forget_fresh (tracks : Tracks process) (id : Nat) (later : process.nextHelper ≤ other) :
    (process.forget id).helpers other = none := by
  by_cases same : other = id
  · rw [same, forget_self]
  · exact (update_of_ne same _ _).trans (tracks.fresh other later)

theorem Tracks.forget (tracks : Tracks process) (lives : process.helpers id = some fd_)
    (negative : fd_ < 0) :
    Tracks (process.forget id) := by
  have nothing : ∀ serial, (id, serial) ∉ process.received := by
    intro serial received
    have known := (tracks.open_ id serial fd_ received lives).1
    have positive := tracks.numbers fd_ _ known
    omega
  exact { tracks with
    open_ := fun other serial stored received there =>
      tracks.open_ other serial stored received (forget_lives there).2
    once := by
      intro other serial received gone
      have different : other ≠ id := by
        rintro rfl
        exact nothing serial received
      exact tracks.once other serial received (forget_gone different gone)
    held := fun other stored there => tracks.held other stored (forget_lives there).2
    fresh := fun other later => forget_fresh tracks id later
    owners := by
      intro fd serial other known
      obtain ⟨received, stored⟩ := tracks.owners fd serial other known
      refine ⟨received, (update_of_ne ?_ _ _).trans stored⟩
      rintro rfl
      exact nothing serial received }

theorem Tracks.closeForget (tracks : Tracks process) (lives : process.helpers id = some fd_)
    (positive : 0 ≤ fd_) :
    Tracks ((process.close id fd_).forget id) := by
  obtain ⟨serial, known⟩ := tracks.held id fd_ lives positive
  have received := (tracks.owners fd_ serial id known).1
  have counts : ∀ earlier, ((process.close id fd_).forget id).closedCount earlier =
      process.closedCount earlier + if serial = earlier then 1 else 0 :=
    closedCount_close id known
  have uncounted : process.closedCount serial = 0 := tracks.uncounted fd_ _ known
  have elsewhere : ∀ fd, fd ≠ fd_ →
      ((process.close id fd_).forget id).descriptors fd = process.descriptors fd :=
    fun fd other => update_of_ne other _ _
  have origin : ∀ fd descriptor,
      ((process.close id fd_).forget id).descriptors fd = some descriptor →
        process.descriptors fd = some descriptor ∧ serial ≠ descriptor.serial := by
    intro fd descriptor there
    have other : fd ≠ fd_ := by
      rintro rfl
      have shut : ((process.close id fd).forget id).descriptors fd = none :=
        update_self _ _ _
      rw [shut] at there
      cases there
    have there := (elsewhere fd other).symm.trans there
    exact ⟨there, fun same => other (tracks.distinct fd fd_ _ _ there known same.symm)⟩
  -- A number that another helper stores is another number.
  have apart : ∀ other stored earlier, other ≠ id →
      process.descriptors stored = some { serial := earlier, owner := .helper other } →
        stored ≠ fd_ := by
    rintro other stored earlier different held rfl
    rw [known] at held
    cases held
    exact different rfl
  exact {
    closed := by
      intro closing member
      rcases List.mem_cons.mp member with new | old
      · subst new
        exact ⟨_, known, received⟩
      · exact tracks.closed closing old
    open_ := by
      intro other earlier stored also there
      obtain ⟨different, there⟩ := forget_lives there
      obtain ⟨held, zero⟩ := tracks.open_ other earlier stored also there
      have far := apart other stored earlier different held
      refine ⟨(elsewhere stored far).trans held, ?_⟩
      have unequal : serial ≠ earlier :=
        fun same => far (tracks.distinct stored fd_ _ _ held known same.symm)
      rw [counts, if_neg unequal, zero]
    once := by
      intro other earlier also gone
      by_cases same : serial = earlier
      · rw [counts, if_pos same, ← same, uncounted]
      have different : other ≠ id := by
        rintro rfl
        have held := (tracks.open_ other earlier fd_ also lives).1
        rw [known] at held
        cases held
        exact same rfl
      rw [counts, if_neg same]
      exact tracks.once other earlier also (forget_gone different gone)
    held := by
      intro other stored there nonneg
      obtain ⟨different, there⟩ := forget_lives there
      obtain ⟨earlier, held⟩ := tracks.held other stored there nonneg
      exact ⟨earlier, (elsewhere stored (apart _ _ _ different held)).trans held⟩
    named := tracks.named
    fresh := fun other later => forget_fresh tracks id later
    owners := by
      intro fd earlier other there
      obtain ⟨before, unequal⟩ := origin fd _ there
      obtain ⟨also, stored⟩ := tracks.owners fd earlier other before
      refine ⟨also, (update_of_ne ?_ _ _).trans stored⟩
      rintro rfl
      rw [lives] at stored
      cases stored
      rw [known] at before
      cases before
      exact unequal rfl
    numbers := fun fd descriptor there => tracks.numbers fd _ (origin fd _ there).1
    serials := fun fd descriptor there => tracks.serials fd _ (origin fd _ there).1
    distinct := fun fd other _ _ first second =>
      tracks.distinct fd other _ _ (origin fd _ first).1 (origin other _ second).1
    uncounted := by
      intro fd descriptor there
      obtain ⟨there, unequal⟩ := origin fd _ there
      rw [counts, if_neg unequal]
      exact tracks.uncounted fd descriptor there
    unborn := by
      intro earlier later
      have born : serial < process.nextSerial := tracks.serials fd_ _ known
      have later : process.nextSerial ≤ earlier := later
      rw [counts, if_neg (by omega)]
      exact tracks.unborn earlier later }

theorem Tracks.destroy (tracks : Tracks process) (id : Nat) : Tracks (process.destroy id) := by
  unfold Process.destroy
  split
  · exact tracks
  rename_i fd_ lives
  by_cases positive : 0 ≤ fd_
  · rw [if_pos positive]
    exact tracks.closeForget lives positive
  · rw [if_neg positive]
    exact tracks.forget lives (by omega)

theorem Tracks.constructDup (tracks : Tracks process) (fd given : Int) :
    let taken := process.dup process.nextHelper fd given
    Tracks (taken.1.construct taken.2) := by
  intro taken
  cases duplicate : process.dupGiven fd given with
  | none =>
    have nothing : taken = (process, -1) := by simp [taken, dup, duplicate]
    rw [nothing]
    exact tracks.construct (by decide : (-1 : Int) < 0)
  | some new =>
    have usable : 0 ≤ new ∧ process.descriptors new = none := by
      unfold dupGiven at duplicate
      split at duplicate
      · rename_i free
        cases duplicate
        exact free.2
      · cases duplicate
    have holding : taken.1.construct taken.2 =
        process.constructHolding new process.nextSerial (process.nextSerial + 1) := by
      simp only [taken, dup, duplicate]
      rfl
    rw [holding]
    refine tracks.constructHolding usable.1 ?_ ?_ (tracks.unborn _ (Nat.le_refl _))
      (Nat.le_succ _) (Nat.lt_succ_self _)
    · intro descriptor known
      rw [usable.2] at known
      cases known
    · intro fd descriptor known same
      exact absurd same (Nat.ne_of_lt (tracks.serials fd descriptor known))

theorem Tracks.fromUri (tracks : Tracks process) {uri : List Char} {given : Int}
    (obtains : process.Obtains (.fromUri uri given)) : Tracks (process.fromUri uri given) := by
  unfold Obtains at obtains
  cases read : uriParam uri with
  | none =>
    simp only [Process.fromUri, read, parseFd]
    exact tracks.construct (by decide)
  | some param =>
    obtain ⟨fd, duplicated, offset, size⟩ := param
    cases duplicated with
    | true =>
      simp only [Process.fromUri, read, parseFd, if_true, if_neg (by decide : ¬(0 : Int) ≤ -1)]
      exact tracks.constructDup fd given
    | false =>
      simp only [read] at obtains
      simp only [Process.fromUri, read, parseFd, Bool.false_eq_true, if_false]
      exact tracks.construct obtains

theorem Tracks.fromFd (tracks : Tracks process) {fd : Int} {needAdoptFd : Bool} {given : Int}
    (obtains : process.Obtains (.fromFd fd needAdoptFd given)) :
    Tracks (process.fromFd fd needAdoptFd given) := by
  cases needAdoptFd with
  | false => exact tracks.constructDup fd given
  | true =>
    simp only [Process.fromFd, if_true]
    cases known : process.descriptors fd with
    | none =>
      have negative : fd < 0 := by
        rcases obtains with negative | mine
        · exact negative
        · rw [known] at mine
          cases mine
      simp only [adopt, known]
      exact tracks.construct negative
    | some handed =>
      have number := tracks.numbers fd handed known
      have caller : handed.owner = .caller := by
        rcases obtains with negative | mine
        · omega
        · rw [known] at mine
          exact Option.some.inj mine
      simp only [adopt, known]
      refine tracks.constructHolding number ?_ ?_ (tracks.uncounted fd handed known)
        (Nat.le_refl _) (tracks.serials fd handed known)
      · intro descriptor same
        rw [known] at same
        cases same
        exact caller
      · exact fun other descriptor there same =>
          tracks.distinct other fd _ _ there known same

theorem Tracks.next (tracks : Tracks process) {move : Move} (obtains : process.Obtains move) :
    Tracks (process.next move) := by
  cases move with
  | callerOpens given => exact tracks.callerOpens given
  | callerCloses fd => exact tracks.callerCloses fd
  | fromUri uri given => exact tracks.fromUri obtains
  | fromFd fd needAdoptFd given => exact tracks.fromFd obtains
  | destroy id => exact tracks.destroy id

theorem dup_keeps (id : Nat) (fd given : Int) {other : Int} {descriptor : Descriptor}
    (known : process.descriptors other = some descriptor) :
    (process.dup id fd given).1.descriptors other = some descriptor := by
  unfold dup
  split
  · exact known
  rename_i new duplicate
  unfold dupGiven at duplicate
  split at duplicate
  · rename_i free
    cases duplicate
    have different : other ≠ given := by
      rintro rfl
      rw [free.2.2] at known
      cases known
    exact (update_of_ne different _ _).trans known
  · cases duplicate

theorem Tracks.keepsCallers (tracks : Tracks process) {move : Move}
    (obtains : process.Obtains move) : process.KeepsCallers move := by
  intro fd descriptor known caller notClosed notHanded
  cases move with
  | callerOpens given =>
    simp only [Process.next, Process.callerOpens]
    split
    · rename_i usable
      have different : fd ≠ given := by
        rintro rfl
        rw [usable.2] at known
        cases known
      exact (update_of_ne different _ _).trans known
    · exact known
  | callerCloses other =>
    have different : fd ≠ other := fun same => notClosed (by rw [same])
    simp only [Process.next, Process.callerCloses]
    split
    · exact (update_of_ne different _ _).trans known
    · exact known
  | fromUri uri given =>
    simp only [Process.next, Process.fromUri]
    cases uriParam uri with
    | none => exact known
    | some param =>
      simp only [parseFd]
      split
      · exact dup_keeps _ _ _ known
      · exact known
  | fromFd other needAdoptFd given =>
    cases needAdoptFd with
    | false => exact dup_keeps _ _ _ known
    | true =>
      have different : fd ≠ other := fun same => notHanded given (by rw [same])
      simp only [Process.next, Process.fromFd, if_true, adopt]
      cases process.descriptors other with
      | none => exact known
      | some handed => exact (update_of_ne different _ _).trans known
  | destroy id =>
    simp only [Process.next, Process.destroy]
    cases lives : process.helpers id with
    | none => exact known
    | some fd_ =>
      simp only
      split
      · rename_i positive
        have different : fd ≠ fd_ := by
          rintro rfl
          obtain ⟨serial, held⟩ := tracks.held id fd lives positive
          rw [known] at held
          cases held
          cases caller
        exact (update_of_ne different _ _).trans known
      · exact known

/-- In every run whose helpers obtain their descriptors so, helpers close what is theirs, exactly
once, and a descriptor of the caller stays open. -/
theorem owns_along (moves : List Move) (along : Along next Obtains {} moves) :
    (∀ count, Owns (run next {} (moves.take count))) ∧ Along next KeepsCallers {} moves := by
  have kept : ∀ process move, Tracks process → Obtains process move → Tracks (process.next move) :=
    fun process move tracks obtains => tracks.next obtains
  refine ⟨fun count => ?_, ?_⟩
  · exact (invariant_of_along Tracks kept (along.take count) tracks_initially).toOwns
  · exact along.implies Tracks kept (fun process move tracks obtains => tracks.keepsCallers obtains)
      tracks_initially

/-- A descriptor handed over, one duplicated for a URI with an offset, and one duplicated from
what is stored. -/
def obtained : List Move :=
  [.callerOpens 5, .fromFd 5 true 0, .callerOpens 6,
    .fromUri (fdScheme ++ (['6'] ++ delim1Key ++ ['0'] ++ delim2Key ++ ['0'])) 7,
    .fromFd 6 false 8, .destroy 1, .destroy 0, .destroy 2, .callerCloses 6]

theorem owns_obtained :
    (∀ count, Owns (run next {} (obtained.take count))) ∧ Along next KeepsCallers {} obtained :=
  owns_along obtained (by decide +kernel)

/-- `fd://5` -/
def shortUri : List Char := fdScheme ++ ['5']

/-- The helper of a short URI closes the number that the caller opened; and a later one closes
what has been opened under the number since. -/
theorem short_uri_closes_caller :
    (run next {} [.callerOpens 5, .fromUri shortUri 0]).descriptors 5 =
      some { serial := 0, owner := .caller } ∧
    (run next {} [.callerOpens 5, .fromUri shortUri 0, .destroy 0]).descriptors 5 = none ∧
    (run next {} [.callerOpens 5, .fromUri shortUri 0, .destroy 0]).closings =
      [{ helper := 0, found := some { serial := 0, owner := .caller } }] ∧
    ¬∀ moves, Owns (run next {} moves) := by
  refine ⟨by decide +kernel, by decide +kernel, by decide +kernel, fun always => ?_⟩
  have owns := always [.callerOpens 5, .fromUri shortUri 0, .destroy 0]
  obtain ⟨descriptor, -, mine⟩ := owns.closed _ (by rw [closings]; exact List.mem_cons_self)
  cases mine

end

end Process

end PlayerFramework.Utils
