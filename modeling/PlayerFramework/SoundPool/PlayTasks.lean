import PlayerFramework.SoundPool.Effects

/-!
The IDs in the playing queue of the mode that interrupts the same sound, counted against the
streams that play and the tasks that are to play or stop them.
-/

namespace PlayerFramework.SoundPool

open Transition

theorem queueAndSort_perm {priority : Int → Option Int} {fresh : Int} {queue : List Int}
    (known : ∀ streamID ∈ fresh :: queue, (priority streamID).isSome) :
    (queueAndSort priority fresh queue).Perm (fresh :: queue) := by
  obtain ⟨own, ofFresh⟩ := Option.isSome_iff_exists.mp (known fresh List.mem_cons_self)
  have alive : (queue.takeWhile (passes priority own)).filter (hasStream priority) =
      queue.takeWhile (passes priority own) := by
    rw [List.filter_eq_self]
    intro streamID taken
    exact known streamID (List.mem_cons_of_mem _ ((List.takeWhile_sublist _).subset taken))
  rw [queueAndSort_placed ofFresh, placed, alive]
  refine List.perm_middle.trans ?_
  rw [List.takeWhile_append_dropWhile]

/-- The stream that an action is on the way to play, until it plays or its play has failed. -/
def Action.plays? (ids : List Int) : Action → Option Int
  | .doPlay streamID => some streamID
  | .playStream stream => ids[stream]?
  | .startRenderer stream => ids[stream]?
  | .postProcessing streamID => some streamID
  | _ => none

/-- The stream that an action is on the way to stop, until the manager knows of it.  A completion
that comes too early stops nothing. -/
def Action.stops? (ids : List Int) : Action → Option Int
  | .stop stream false => ids[stream]?
  | .onPlayFinished streamID => some streamID
  | _ => none

/-- The action is on the way to play a stream that there is. -/
def Action.Placed (ids : List Int) : Action → Prop
  | .doPlay streamID => streamID ∈ ids
  | .playStream stream => stream < ids.length
  | .startRenderer stream => stream < ids.length
  | .postProcessing streamID => streamID ∈ ids
  | _ => True

theorem Action.mem_of_plays {ids : List Int} {action : Action} {streamID : Int}
    (placed : action.Placed ids) (target : action.plays? ids = some streamID) :
    streamID ∈ ids := by
  cases action with
  | doPlay played | postProcessing played => exact Option.some.inj target ▸ placed
  | playStream stream | startRenderer stream => exact List.mem_of_getElem? target
  | _ => cases target

def plays (ids : List Int) (tasks : List Action) (streamID : Int) : Nat :=
  (tasks.filterMap (Action.plays? ids)).count streamID

def stops (ids : List Int) (tasks : List Action) (streamID : Int) : Nat :=
  (tasks.filterMap (Action.stops? ids)).count streamID

/-- Whether the stream plays, as a number. -/
def AudioStream.sounding (audio : AudioStream) : Nat :=
  if audio.streamState = .playing then 1 else 0

namespace StreamIDManager

def ids (m : StreamIDManager) : List Int := m.streams.map AudioStream.streamID

/-- How often the ID is in the playing queue. -/
def listed (m : StreamIDManager) (streamID : Int) : Nat := m.playingStreamIDs.count streamID

end StreamIDManager

section Counts

variable {ids : List Int} {tasks later : List Action} {action : Action}

@[simp] theorem plays_append (first second : List Action) (streamID : Int) :
    plays ids (first ++ second) streamID =
      plays ids first streamID + plays ids second streamID := by
  simp [plays]

@[simp] theorem stops_append (first second : List Action) (streamID : Int) :
    stops ids (first ++ second) streamID =
      stops ids first streamID + stops ids second streamID := by
  simp [stops]

@[simp] theorem plays_cons (action : Action) (tasks : List Action) (streamID : Int) :
    plays ids (action :: tasks) streamID =
      (if action.plays? ids = some streamID then 1 else 0) + plays ids tasks streamID := by
  cases target : action.plays? ids with
  | none => simp [plays, target]
  | some played => simp [plays, target, List.count_cons, Nat.add_comm]

@[simp] theorem stops_cons (action : Action) (tasks : List Action) (streamID : Int) :
    stops ids (action :: tasks) streamID =
      (if action.stops? ids = some streamID then 1 else 0) + stops ids tasks streamID := by
  cases target : action.stops? ids with
  | none => simp [stops, target]
  | some stopped => simp [stops, target, List.count_cons, Nat.add_comm]

theorem plays_perm (same : tasks.Perm later) (streamID : Int) :
    plays ids tasks streamID = plays ids later streamID :=
  (same.filterMap _).count_eq streamID

theorem stops_perm (same : tasks.Perm later) (streamID : Int) :
    stops ids tasks streamID = stops ids later streamID :=
  (same.filterMap _).count_eq streamID

theorem plays_quiet (quiet : ∀ action ∈ tasks, action.plays? ids = none) (streamID : Int) :
    plays ids tasks streamID = 0 := by
  induction tasks with
  | nil => rfl
  | cons action tasks ih =>
    have first := quiet action List.mem_cons_self
    simp [first, ih fun later member => quiet later (List.mem_cons_of_mem _ member)]

end Counts

end PlayerFramework.SoundPool
