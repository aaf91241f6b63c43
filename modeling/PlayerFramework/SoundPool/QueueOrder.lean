import PlayerFramework.SoundPool.StreamIDManager

/-!
The order of the two queues of the sound pool: what is left there by a stream that comes to a
queue, and by `ReorderStream`.
-/

namespace PlayerFramework.SoundPool

section Queue

variable {priority : Int → Option Int} {fresh own : Int} {queue : List Int}

/-- The priorities fall along the queue; an ID without a stream has none. -/
def SortedByPriority (priority : Int → Option Int) (queue : List Int) : Prop :=
  queue.Pairwise fun before after =>
    ∀ high ∈ priority before, ∀ low ∈ priority after, low ≤ high

instance {priority : Int → Option Int} {queue : List Int} :
    Decidable (SortedByPriority priority queue) :=
  inferInstanceAs (Decidable (List.Pairwise _ _))

/-- The queue has the added stream and those that it had, sorted by descending priority; of
equal priority the added one comes first, and the others keep their order. -/
structure Arranged (priority : Int → Option Int) (added queue sorted : List Int) : Prop where
  live : ∀ streamID ∈ sorted, hasStream priority streamID = true
  descending : SortedByPriority priority sorted
  members : sorted.Perm (added ++ queue.filter (hasStream priority))
  equals : ∀ level, sorted.filter (fun streamID => priority streamID = some level) =
    (added ++ queue).filter fun streamID => priority streamID = some level

/-- The fresh ID has a stream, the others with a stream are sorted, and behind the first one
that is not above the fresh one there is none without a stream. -/
structure Insertable (priority : Int → Option Int) (fresh : Int) (queue : List Int) : Prop where
  known : hasStream priority fresh = true
  descending : SortedByPriority priority queue
  purged : queue.Pairwise fun before after =>
    (∃ own ∈ priority fresh, ∃ other ∈ priority before, other ≤ own) →
      hasStream priority after = true

/-- Behind its place the fresh ID is not below any, and no ID is dead. -/
theorem Insertable.behind (insertable : Insertable priority fresh queue)
    (ofFresh : priority fresh = some own) :
    ∀ streamID ∈ queue.dropWhile (passes priority own),
      ∃ other, priority streamID = some other ∧ other ≤ own := by
  have stops := List.head?_dropWhile_not (passes priority own) queue
  have descending := insertable.descending.sublist (List.dropWhile_sublist (passes priority own))
  have purged := insertable.purged.sublist (List.dropWhile_sublist (passes priority own))
  generalize queue.dropWhile (passes priority own) = back at stops descending purged ⊢
  cases back with
  | nil => simp
  | cons first rest =>
    obtain ⟨level, ofFirst, reached⟩ : ∃ level, priority first = some level ∧ level ≤ own := by
      cases ofFirst : priority first with
      | none => simp [passes, ofFirst] at stops
      | some level => exact ⟨level, rfl, by simpa [passes, ofFirst] using stops⟩
    intro streamID member
    rcases List.mem_cons.mp member with rfl | later
    · exact ⟨level, ofFirst, reached⟩
    have alive := (List.pairwise_cons.mp purged).1 streamID later
      ⟨own, ofFresh, level, ofFirst, reached⟩
    obtain ⟨other, there⟩ := Option.isSome_iff_exists.mp alive
    have lower := (List.pairwise_cons.mp descending).1 streamID later level ofFirst other there
    exact ⟨other, there, Int.le_trans lower reached⟩

theorem Insertable.arranged (insertable : Insertable priority fresh queue)
    (ofFresh : priority fresh = some own) :
    Arranged priority [fresh] queue (placed priority own fresh queue) := by
  have behind := insertable.behind ofFresh
  have before : ∀ streamID ∈ (queue.takeWhile (passes priority own)).filter (hasStream priority),
      ∃ other, priority streamID = some other ∧ own < other := by
    intro streamID member
    obtain ⟨taken, alive⟩ := List.mem_filter.mp member
    obtain ⟨other, there⟩ := Option.isSome_iff_exists.mp alive
    have through := List.mem_takeWhile_imp taken
    exact ⟨other, there, by simpa [passes, there] using through⟩
  have alive : (queue.dropWhile (passes priority own)).filter (hasStream priority) =
      queue.dropWhile (passes priority own) := by
    rw [List.filter_eq_self]
    intro streamID member
    obtain ⟨other, there, -⟩ := behind streamID member
    simp [hasStream, there]
  have whole : (queue.takeWhile (passes priority own)).filter (hasStream priority) ++
      queue.dropWhile (passes priority own) = queue.filter (hasStream priority) := by
    conv_rhs => rw [← @List.takeWhile_append_dropWhile _ (passes priority own) queue]
    rw [List.filter_append, alive]
  have sorted : SortedByPriority priority (queue.filter (hasStream priority)) :=
    insertable.descending.sublist List.filter_sublist
  rw [← whole] at sorted
  obtain ⟨front, back, across⟩ := List.pairwise_append.mp sorted
  constructor
  · intro streamID member
    rcases List.mem_append.mp member with first | rest
    · exact (List.mem_filter.mp first).2
    · rcases List.mem_cons.mp rest with rfl | last
      · exact insertable.known
      · rw [← alive] at last
        exact (List.mem_filter.mp last).2
  · refine List.pairwise_append.mpr ⟨front, List.pairwise_cons.mpr ⟨?_, back⟩, ?_⟩
    · intro streamID member high ofHigh low ofLow
      obtain ⟨other, there, below⟩ := behind streamID member
      grind
    · intro first member streamID rest high ofHigh low ofLow
      obtain ⟨other, there, above⟩ := before first member
      rcases List.mem_cons.mp rest with rfl | last
      · grind
      · exact across first member streamID last high ofHigh low ofLow
  · rw [← whole]
    exact List.perm_middle
  · intro level
    have equal : (queue.filter (hasStream priority)).filter (fun streamID => priority streamID =
      some level) =
        queue.filter fun streamID => priority streamID = some level := by
      rw [List.filter_filter]
      refine List.filter_congr ?_
      intro streamID _
      cases there : priority streamID <;> simp [hasStream, there]
    rw [List.filter_append, ← equal, ← whole, placed, List.filter_append, List.filter_append,
      List.filter_cons]
    by_cases same : own = level
    · have none : ((queue.takeWhile (passes priority own)).filter (hasStream priority)).filter
          (fun streamID => priority streamID = some level) = [] := by
        rw [List.filter_eq_nil_iff]
        intro streamID member
        obtain ⟨other, there, above⟩ := before streamID member
        simp [there]
        omega
      rw [none]
      simp [ofFresh, same]
    · simp [ofFresh, same]

theorem Arranged.insertable (ofFresh : priority fresh = some own)
    (arranged : Arranged priority [fresh] queue (placed priority own fresh queue)) :
    Insertable priority fresh queue := by
  have whole := @List.takeWhile_append_dropWhile _ (passes priority own) queue
  constructor
  · simp [hasStream, ofFresh]
  · have kept : (queue.filter (hasStream priority)).Sublist (placed priority own fresh queue) := by
      conv_lhs => rw [← whole, List.filter_append]
      exact List.filter_sublist.trans (List.sublist_cons_self _ _) |>.append_left _
    have sorted := arranged.descending.sublist kept
    rw [List.pairwise_filter] at sorted
    refine sorted.imp ?_
    intro before after falls high ofHigh low ofLow
    exact falls (Option.isSome_of_mem ofHigh) (Option.isSome_of_mem ofLow) high ofHigh low ofLow
  · have higher : ∀ before ∈ queue.takeWhile (passes priority own),
        ¬ ∃ own ∈ priority fresh, ∃ other ∈ priority before, other ≤ own := by
      intro before taken
      have through := List.mem_takeWhile_imp taken
      rintro ⟨level, isOwn, other, there, reached⟩
      obtain rfl : own = level := Option.some.inj (ofFresh.symm.trans isOwn)
      rw [Option.mem_def] at there
      simp only [passes, there, Option.all_some, decide_eq_true_eq] at through
      omega
    rw [← whole]
    refine List.pairwise_append.mpr ⟨?_, ?_, ?_⟩
    · refine List.pairwise_of_forall_mem_list ?_
      intro before taken after _ reached
      exact absurd reached (higher before taken)
    · refine List.pairwise_of_forall_mem_list ?_
      intro before _ after left _
      exact arranged.live after (List.mem_append_right _ (List.mem_cons_of_mem _ left))
    · intro before taken after _ reached
      exact absurd reached (higher before taken)

theorem queueAndSort_arranged_iff (priority : Int → Option Int) (fresh : Int) (queue : List Int) :
    Arranged priority [fresh] queue (queueAndSort priority fresh queue) ↔
      Insertable priority fresh queue := by
  constructor
  · intro arranged
    have inside : fresh ∈ queueAndSort priority fresh queue :=
      arranged.members.mem_iff.mpr List.mem_cons_self
    obtain ⟨own, ofFresh⟩ := Option.isSome_iff_exists.mp (arranged.live fresh inside)
    rw [queueAndSort_placed ofFresh] at arranged
    exact arranged.insertable ofFresh
  · intro insertable
    obtain ⟨own, ofFresh⟩ := Option.isSome_iff_exists.mp insertable.known
    rw [queueAndSort_placed ofFresh]
    exact insertable.arranged ofFresh

end Queue

namespace StreamIDManager

theorem lower_eq (m : StreamIDManager) {left right : Int}
    (ofLeft : hasStream m.priorityOf left = true)
    (ofRight : hasStream m.priorityOf right = true) :
    m.lower left right =
      BubbleSort.lowerKey (fun streamID => (m.priorityOf streamID).getD 0) left right := by
  obtain ⟨leftPriority, atLeft⟩ := Option.isSome_iff_exists.mp ofLeft
  obtain ⟨rightPriority, atRight⟩ := Option.isSome_iff_exists.mp ofRight
  simp [lower, BubbleSort.lowerKey, atLeft, atRight]

theorem reorder_arranged (m : StreamIDManager) {queue : List Int}
    (alive : ∀ streamID ∈ queue, hasStream m.priorityOf streamID = true) :
    Arranged m.priorityOf [] queue (reorder m.lower queue) := by
  have perm := reorder_perm m.lower queue
  have sorted : reorder m.lower queue = BubbleSort.sort
      (BubbleSort.lowerKey fun streamID => (m.priorityOf streamID).getD 0) queue := by
    rw [reorder_eq_sort]
    refine BubbleSort.sort_congr m.lower ?_
    intro left atLeft right atRight
    exact m.lower_eq (alive left atLeft) (alive right atRight)
  constructor
  · intro streamID member
    exact alive streamID (perm.subset member)
  · have falls := BubbleSort.sort_descending (fun streamID => (m.priorityOf streamID).getD 0) queue
    rw [← sorted] at falls
    refine falls.imp ?_
    intro before after lower high ofHigh low ofLow
    rw [Option.mem_def] at ofHigh ofLow
    simpa [ofHigh, ofLow] using lower
  · rw [List.filter_eq_self.mpr alive]
    exact perm
  · intro level
    rw [reorder_eq_sort]
    refine BubbleSort.sort_filter m.lower ?_ queue
    intro left right ofLeft ofRight
    simp [lower, of_decide_eq_true ofLeft, of_decide_eq_true ofRight]

theorem reorder_arranged_iff (m : StreamIDManager) (queue : List Int) :
    Arranged m.priorityOf [] queue (reorder m.lower queue) ↔
      ∀ streamID ∈ queue, hasStream m.priorityOf streamID = true := by
  constructor
  · intro arranged streamID member
    exact arranged.live streamID ((reorder_perm m.lower queue).mem_iff.mpr member)
  · exact m.reorder_arranged

/-- The calls of itself end, whatever the queues hold; an insertion leaves its queue arranged
exactly where no dead ID stands behind the place, `ReorderStream` exactly where none is left. -/
theorem queues_arranged_iff (m : StreamIDManager) (streamID : Int) :
    (∀ queue calls, queue.length ≤ calls → queueAndSortWithin m.priorityOf streamID calls queue =
        queueAndSort m.priorityOf streamID queue) ∧
    (Arranged m.priorityOf [streamID] m.playingStreamIDs
        (m.queueAndSortPlayingStreamID streamID).playingStreamIDs ↔
      Insertable m.priorityOf streamID m.playingStreamIDs) ∧
    (Arranged m.priorityOf [streamID] m.willPlayStreamIDs
        (m.queueAndSortWillPlayStreamID streamID).willPlayStreamIDs ↔
      Insertable m.priorityOf streamID m.willPlayStreamIDs) ∧
    (Arranged m.priorityOf [] m.playingStreamIDs m.reorderStream.playingStreamIDs ∧
        Arranged m.priorityOf [] m.willPlayStreamIDs m.reorderStream.willPlayStreamIDs ↔
      ∀ queued ∈ m.playingStreamIDs ++ m.willPlayStreamIDs,
        hasStream m.priorityOf queued = true) := by
  refine ⟨?_, queueAndSort_arranged_iff _ _ _, queueAndSort_arranged_iff _ _ _, ?_⟩
  · intro queue calls enough
    exact queueAndSortWithin_enough m.priorityOf streamID enough (Nat.le_refl _)
  · rw [List.forall_mem_append]
    exact and_congr (m.reorder_arranged_iff _) (m.reorder_arranged_iff _)

end StreamIDManager

def eightAtOnce : Config := ⟨.sameSoundInterrupt, 8, by decide⟩

/-- A play up to its `AddPlayTask`, and with it. -/
def playUpTo (thread : Nat) (soundID priority : Int) : List Event :=
  [.play soundID priority [], .run thread {}, .run thread {}, .run thread {}]

def playQueued (thread : Nat) (soundID priority : Int) : List Event :=
  playUpTo thread soundID priority ++ [Event.run thread {}]

/-- Seven sounds are to be played and none plays yet; an eighth, of the highest priority, lets
the first one's stream go. -/
def playEighth : List Event :=
  playQueued 0 1 5 ++ playQueued 2 2 9 ++ playQueued 4 3 1 ++ playQueued 6 4 0 ++
    playQueued 8 5 0 ++ playQueued 10 6 0 ++ playQueued 12 7 0 ++ playUpTo 14 8 20

/-- Then the third is given the highest priority. -/
def prioritiseThird : List Event :=
  playEighth ++ [Event.run 14 {}, .setPriority 3 30, .run 17 {}, .run 17 {}]

/-- The first stream's ID stays behind the eighth, and the third does not get past it. -/
theorem dead_id_between :
    let manager := (reached eightAtOnce playEighth).manager
    let prioritised := (reached eightAtOnce prioritiseThird).manager
    (manager.queueAndSortPlayingStreamID 8).playingStreamIDs = [8, 2, 1, 3, 7, 6, 5, 4] ∧
      ¬ Arranged manager.priorityOf [8] manager.playingStreamIDs
        (manager.queueAndSortPlayingStreamID 8).playingStreamIDs ∧
      prioritised.reorderStream.playingStreamIDs = [8, 2, 1, 3, 7, 6, 5, 4] ∧
      ¬ Arranged prioritised.priorityOf [] prioritised.playingStreamIDs
        prioritised.reorderStream.playingStreamIDs := by
  refine ⟨by decide +kernel, ?_, by decide +kernel, ?_⟩
  · intro arranged
    exact absurd (arranged.live 1 (by decide +kernel)) (by decide +kernel)
  · intro arranged
    exact absurd arranged.descending (by decide +kernel)

end PlayerFramework.SoundPool
