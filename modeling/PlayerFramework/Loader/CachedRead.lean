import PlayerFramework.Loader.CacheRequest

/-!
Which requests to a fully cached resource are answered with exactly its bytes.
-/

namespace PlayerFramework.Loader

open Pieces

theorem toInt32_of_range {value : Int} (low : -2147483648 ≤ value) (high : value < 2147483648) :
    toInt32 value = value := by
  unfold toInt32
  omega

theorem toInt32_range (value : Int) :
    -2147483648 ≤ toInt32 value ∧ toInt32 value < 2147483648 := by
  unfold toInt32
  omega

theorem toInt32_add (left right : Int) :
    toInt32 (left + toInt32 right) = toInt32 (left + right) := by
  unfold toInt32
  omega

/-- The shard files of a resource that is fully cached. -/
def cached (resource : List UInt8) : FileCache := fun index =>
  if 0 ≤ index ∧ index * shardSize < resource.length then
    some ((resource.drop (index * shardSize).toNat).take shardSize.toNat)
  else none

variable {resource : List UInt8} {index : Int}

theorem getSize_cached (nonneg : 0 ≤ index) (inside : index * shardSize < resource.length) :
    (cached resource).getSize index = min shardSize (resource.length - index * shardSize) := by
  have found : cached resource index =
      some ((resource.drop (index * shardSize).toNat).take shardSize.toNat) :=
    if_pos ⟨nonneg, inside⟩
  simp only [FileCache.getSize, found, List.length_take, List.length_drop]
  unfold shardSize at *
  omega

theorem read_cached {offset size : Int} (nonneg : 0 ≤ index) (offsetNonneg : 0 ≤ offset)
    (positive : 0 < size) (withinShard : offset + size ≤ shardSize)
    (within : index * shardSize + offset + size ≤ resource.length) :
    (cached resource).read index offset size =
      some (slice resource (index * shardSize + offset).toNat
        (index * shardSize + offset + size).toNat) := by
  have inside : index * shardSize < resource.length := by omega
  have found : cached resource index =
      some ((resource.drop (index * shardSize).toNat).take shardSize.toNat) :=
    if_pos ⟨nonneg, inside⟩
  have start : (index * shardSize).toNat + offset.toNat = (index * shardSize + offset).toNat := by
    unfold shardSize at *
    omega
  have count : (index * shardSize + offset + size).toNat - (index * shardSize + offset).toNat =
      size.toNat := by
    unfold shardSize at *
    omega
  have taken : (((resource.drop (index * shardSize).toNat).take shardSize.toNat).drop
      offset.toNat).take size.toNat = slice resource (index * shardSize + offset).toNat
        (index * shardSize + offset + size).toNat := by
    rw [List.drop_take, List.drop_drop, start, List.take_take]
    congr 1
    omega
  have full : (slice resource (index * shardSize + offset).toNat
      (index * shardSize + offset + size).toNat).length = size.toNat := by
    rw [length_slice (by omega), count]
  simp only [FileCache.read, found]
  rw [if_neg (by omega), taken, full]
  simp

/-- The data among the replies, with the offsets. -/
def buffers (replies : List LoaderReply) : List (Int × List UInt8) :=
  replies.filterMap fun reply =>
    match reply with
    | .respondData offset buffer => some (offset, buffer)
    | .finishLoading _ => none

theorem buffers_append (first second : List LoaderReply) :
    buffers (first ++ second) = buffers first ++ buffers second := by
  simp [buffers]

namespace CustomLoaderCallback

variable {loader : CustomLoaderCallback} {env : Environment} {offset length : Int}

theorem processShard_valid (env : Environment) (startIndex endIndex : Int)
    (current : loader.curOffset = loader.requestedOffset) (opened : loader.isClosed = false)
    (present : 0 ≤ loader.files.getSize index)
    (valid : loader.files.getSize index = loader.shardLength index) :
    loader.processShard env index startIndex endIndex =
      ((loader.answerShard env index startIndex endIndex (loader.files.getSize index)).1, loader,
        (loader.answerShard env index startIndex endIndex (loader.files.getSize index)).2) := by
  have kept : loader.files.isValid index (loader.shardLength index) = (true, loader.files) := by
    rw [FileCache.isValid, if_neg (by simp [valid])]
  have present' : ¬ loader.files.getSize index < 0 := by omega
  simp only [processShard, kept, if_true]
  rw [if_neg (by simp [current]), if_neg (by simp [opened]), if_neg present']
  rfl

/-- The loop at work on a request that ends at `stop`. -/
structure Serving (resource : List UInt8) (offset stop : Int) (loader : CustomLoaderCallback) :
    Prop where
  size : loader.size = resource.length
  files : loader.files = cached resource
  current : loader.curOffset = loader.requestedOffset
  opened : loader.isClosed = false
  begins : loader.requestedOffset = offset
  ends : loader.requestedOffset + loader.requestedLength = stop
  nonneg : 0 ≤ offset
  nonempty : offset < stop
  small : stop < 2147483648

variable {stop : Int}

theorem shardLength_eq (serving : Serving resource offset stop loader) (nonneg : 0 ≤ index)
    (inside : index * shardSize < resource.length)
    (short : index = ((resource.length : Int) - 1) / shardSize →
      (resource.length : Int) % shardSize ≠ 0) :
    loader.shardLength index = min shardSize (resource.length - index * shardSize) := by
  have positive : (0 : Int) ≤ resource.length - 1 := by
    unfold shardSize at inside
    omega
  have lastIndex : (loader.size - 1).tdiv shardSize =
      ((resource.length : Int) - 1) / shardSize := by
    rw [serving.size, Int.tdiv_eq_ediv_of_nonneg positive]
  have remainder : loader.size.tmod shardSize = (resource.length : Int) % shardSize := by
    rw [serving.size, Int.tmod_eq_emod_of_nonneg (by omega)]
  rw [shardLength]
  by_cases last : index = ((resource.length : Int) - 1) / shardSize
  · rw [toInt32_of_range]
    all_goals
      unfold shardSize at *
      omega
  · rw [toInt32_of_range]
    all_goals
      unfold shardSize at *
      omega

theorem fileBeg_eq (serving : Serving resource offset stop loader)
    (first : offset / shardSize ≤ index) :
    loader.fileBeg index (offset / shardSize) =
      max offset (index * shardSize) - index * shardSize := by
  have nonneg := serving.nonneg
  rw [fileBeg, serving.begins, Int.tmod_eq_emod_of_nonneg nonneg]
  by_cases start : index = offset / shardSize
  · rw [toInt32_of_range]
    all_goals
      unfold shardSize at *
      omega
  · unfold shardSize at *
    omega

/-- What is read of a shard ends with the range or the shard, but for one byte past a shorter
file. -/
theorem fileEnd_eq (serving : Serving resource offset stop loader)
    (last : index ≤ (stop - 1) / shardSize)
    (inside : index * shardSize < resource.length) :
    loader.fileEnd index ((stop - 1) / shardSize)
        (min shardSize (resource.length - index * shardSize)) =
      min (min stop ((index + 1) * shardSize) - index * shardSize - 1)
        (min shardSize (resource.length - index * shardSize)) := by
  have nonneg := serving.nonneg
  have nonempty := serving.nonempty
  have small := serving.small
  have endOffset : toInt32 (stop - 1) = stop - 1 := by
    apply toInt32_of_range
    · omega
    · omega
  have remainder : toInt32 ((stop - 1) % shardSize) = (stop - 1) % shardSize := by
    apply toInt32_of_range
    all_goals
      unfold shardSize
      omega
  have narrow : toInt32 (min shardSize (resource.length - index * shardSize)) =
      min shardSize (resource.length - index * shardSize) := by
    apply toInt32_of_range
    all_goals
      unfold shardSize at *
      omega
  have reached : (if index = (stop - 1) / shardSize then (stop - 1) % shardSize
      else shardSize - 1) = min stop ((index + 1) * shardSize) - index * shardSize - 1 := by
    split
    all_goals
      unfold shardSize at *
      omega
  simp only [fileEnd]
  rw [serving.ends, endOffset, Int.tmod_eq_emod_of_nonneg (by omega), remainder, reached, narrow]
  split
  · omega
  · omega

theorem answerShard_eq (serving : Serving resource offset stop loader)
    (accepts : ∀ offset, 0 ≤ env.respondData offset)
    (first : offset / shardSize ≤ index) (last : index ≤ (stop - 1) / shardSize)
    (within : stop ≤ resource.length) :
    loader.answerShard env index (offset / shardSize) ((stop - 1) / shardSize)
        (min shardSize (resource.length - index * shardSize)) =
      (true, [.respondData (max offset (index * shardSize))
        (slice resource (max offset (index * shardSize)).toNat
          (min stop ((index + 1) * shardSize)).toNat)]) := by
  have nonneg := serving.nonneg
  have nonempty := serving.nonempty
  have begins := fileBeg_eq serving first
  have ends : loader.fileEnd index ((stop - 1) / shardSize)
      (min shardSize (resource.length - index * shardSize)) =
        min stop ((index + 1) * shardSize) - index * shardSize - 1 := by
    rw [fileEnd_eq serving last]
    all_goals
      unfold shardSize at *
      omega
  have ordered : max offset (index * shardSize) - index * shardSize ≤
      min stop ((index + 1) * shardSize) - index * shardSize - 1 := by
    unfold shardSize at *
    omega
  have length : min stop ((index + 1) * shardSize) - index * shardSize - 1 -
      (max offset (index * shardSize) - index * shardSize) + 1 =
        min stop ((index + 1) * shardSize) - max offset (index * shardSize) := by
    omega
  have positive : ¬ min stop ((index + 1) * shardSize) - max offset (index * shardSize) ≤ 0 := by
    omega
  have readBuffer : loader.files.read index (max offset (index * shardSize) - index * shardSize)
      (min stop ((index + 1) * shardSize) - max offset (index * shardSize)) =
        some (slice resource (max offset (index * shardSize)).toNat
          (min stop ((index + 1) * shardSize)).toNat) := by
    rw [serving.files, read_cached]
    · congr 2
      · omega
      · omega
    all_goals
      unfold shardSize at *
      omega
  have position : index * shardSize + (max offset (index * shardSize) - index * shardSize) =
      max offset (index * shardSize) := by
    omega
  simp only [answerShard, begins, ends, if_pos ordered, length, if_neg positive, readBuffer,
    position, accepts, decide_true]

theorem processShard_eq (serving : Serving resource offset stop loader)
    (accepts : ∀ offset, 0 ≤ env.respondData offset)
    (first : offset / shardSize ≤ index) (last : index ≤ (stop - 1) / shardSize)
    (within : stop ≤ resource.length)
    (short : index = ((resource.length : Int) - 1) / shardSize →
      (resource.length : Int) % shardSize ≠ 0) :
    loader.processShard env index (offset / shardSize) ((stop - 1) / shardSize) =
      (true, loader, [.respondData (max offset (index * shardSize))
        (slice resource (max offset (index * shardSize)).toNat
          (min stop ((index + 1) * shardSize)).toNat)]) := by
  have nonneg := serving.nonneg
  have indexNonneg : 0 ≤ index := by
    unfold shardSize at *
    omega
  have inside : index * shardSize < resource.length := by
    unfold shardSize at *
    omega
  have fileSize := getSize_cached indexNonneg inside
  have length := shardLength_eq serving indexNonneg inside short
  rw [← serving.files] at fileSize
  have present : 0 ≤ loader.files.getSize index := by
    unfold shardSize at *
    omega
  rw [processShard_valid env _ _ serving.current serving.opened present
    (fileSize.trans length.symm), fileSize, answerShard_eq serving accepts first last within]

theorem serveShards_delivers (serving : Serving resource offset stop loader)
    (accepts : ∀ offset, 0 ≤ env.respondData offset) (within : stop ≤ resource.length)
    (short : (stop - 1) / shardSize = ((resource.length : Int) - 1) / shardSize →
      (resource.length : Int) % shardSize ≠ 0)
    (count : Nat) (first : offset / shardSize ≤ index)
    (rounds : index + count = (stop - 1) / shardSize + 1) :
    Delivers resource (min stop (max offset (index * shardSize))).toNat stop.toNat
      (buffers (serveShards env (offset / shardSize) ((stop - 1) / shardSize) count index
        loader).2) := by
  have nonneg := serving.nonneg
  have nonempty := serving.nonempty
  induction count generalizing index with
  | zero =>
    have done : min stop (max offset (index * shardSize)) = stop := by
      unfold shardSize at *
      omega
    rw [done]
    exact delivers_nil resource stop.toNat
  | succ count ih =>
    have last : index ≤ (stop - 1) / shardSize := by omega
    have shortHere : index = ((resource.length : Int) - 1) / shardSize →
        (resource.length : Int) % shardSize ≠ 0 := by
      intro final
      apply short
      unfold shardSize at *
      omega
    have round := processShard_eq serving accepts first last within shortHere
    have later : offset / shardSize ≤ index + 1 := by omega
    have rest := ih later (by omega)
    have here : min stop (max offset (index * shardSize)) = max offset (index * shardSize) := by
      unfold shardSize at *
      omega
    have next : min stop (max offset ((index + 1) * shardSize)) =
        min stop ((index + 1) * shardSize) := by
      unfold shardSize at *
      omega
    have position : ((max offset (index * shardSize)).toNat : Int) =
        max offset (index * shardSize) := by
      omega
    rw [next] at rest
    simp only [serveShards, round, buffers_append]
    rw [here]
    have early : (max offset (index * shardSize)).toNat ≤
        (min stop ((index + 1) * shardSize)).toNat := by
      unfold shardSize at *
      omega
    have delivered := delivers_cons early (by omega) (by omega) rest
    rw [position] at delivered
    exact delivered

def requestEnd (size offset length : Int) : Int := if length = -1 then size else offset + length

/-- The requests that a cached resource of this size answers: the rest is asked for from the
start only, the range ends below 2 GiB, and it does not reach a last shard that is full. -/
def Readable (size offset length : Int) : Prop :=
  (length = -1 → offset = 0) ∧ requestEnd size offset length < 2147483648 ∧
    ¬ (size % shardSize = 0 ∧
      (requestEnd size offset length - 1) / shardSize = (size - 1) / shardSize)

instance (size offset length : Int) : Decidable (Readable size offset length) := by
  unfold Readable
  infer_instance

/-- A request that the service is to answer from a resource that is fully cached. -/
structure CachedRequest (resource : List UInt8) (loader : CustomLoaderCallback)
    (offset length : Int) : Prop where
  size : loader.size = resource.length
  files : loader.files = cached resource
  current : loader.curOffset = offset
  opened : loader.isClosed = false
  nonneg : 0 ≤ offset
  inside : offset < resource.length
  ranged : length = -1 ∨ 0 < length ∧ offset + length ≤ resource.length

/-- The answers are the bytes of the requested range, one buffer after the other. -/
def ReadsExactly (resource : List UInt8) (loader : CustomLoaderCallback) (env : Environment)
    (offset length : Int) : Prop :=
  ∃ after replies, loader.handleCacheRequest env offset length = some (after, replies) ∧
    Delivers resource offset.toNat (requestEnd loader.size offset length).toNat (buffers replies)

theorem buffers_finished (replies : List LoaderReply) (length : Int) :
    buffers (replies ++ if length = -1 then [.finishLoading 0] else []) = buffers replies := by
  rw [buffers_append]
  split
  · simp [buffers]
  · simp [buffers]

/-- The loader as `HandleCacheRequest` sets it up. -/
def requested (loader : CustomLoaderCallback) (offset length : Int) : CustomLoaderCallback :=
  { loader with
    requestedOffset := offset
    requestedLength := toInt32 (if length ≤ 0 then loader.size else length) }

theorem serving_requested (request : CachedRequest resource loader offset length)
    (ends : offset + (requested loader offset length).requestedLength = stop)
    (nonempty : offset < stop) (small : stop < 2147483648) :
    Serving resource offset stop (requested loader offset length) where
  size := request.size
  files := request.files
  current := request.current
  opened := request.opened
  begins := rfl
  ends := ends
  nonneg := request.nonneg
  nonempty := nonempty
  small := small

theorem handleCacheRequest_eq (env : Environment)
    (request : CachedRequest resource loader offset length)
    (ends : offset + (requested loader offset length).requestedLength = stop)
    (nonempty : offset < stop) (small : stop < 2147483648) :
    ∃ after, loader.handleCacheRequest env offset length =
      some (after, (serveShards env (offset / shardSize) ((stop - 1) / shardSize)
        ((stop - 1) / shardSize - offset / shardSize + 1).toNat (offset / shardSize)
        (requested loader offset length)).2 ++
          if length = -1 then [.finishLoading 0] else []) := by
  have nonneg := request.nonneg
  have startIndex : toInt32 (offset.tdiv shardSize) = offset / shardSize := by
    rw [Int.tdiv_eq_ediv_of_nonneg nonneg, toInt32_of_range]
    all_goals
      unfold shardSize
      omega
  have narrow : toInt32 stop = stop := by
    apply toInt32_of_range
    · omega
    · omega
  have endIndex : toInt32 ((stop - 1).tdiv shardSize) = (stop - 1) / shardSize := by
    rw [Int.tdiv_eq_ediv_of_nonneg (by omega), toInt32_of_range]
    all_goals
      unfold shardSize
      omega
  have proper : stop ≠ intMin := by
    unfold intMin
    omega
  have length' : (requested loader offset length).requestedLength =
      toInt32 (if length ≤ 0 then loader.size else length) := rfl
  rw [length'] at ends
  simp only [handleCacheRequest, startIndex, ends, narrow, if_neg proper, endIndex]
  exact ⟨_, rfl⟩

theorem reads_of_readable (request : CachedRequest resource loader offset length)
    (accepts : ∀ offset, 0 ≤ env.respondData offset)
    (readable : Readable loader.size offset length) :
    ReadsExactly resource loader env offset length := by
  obtain ⟨fromStart, small, partly⟩ := readable
  have nonneg := request.nonneg
  have inside := request.inside
  have within : requestEnd loader.size offset length ≤ resource.length := by
    have size := request.size
    unfold requestEnd
    rcases request.ranged with rest | range
    · omega
    · rw [if_neg (by omega)]
      exact range.2
  have nonempty : offset < requestEnd loader.size offset length := by
    have size := request.size
    unfold requestEnd
    rcases request.ranged with rest | range
    · omega
    · omega
  have ends : offset + (requested loader offset length).requestedLength =
      requestEnd loader.size offset length := by
    unfold requestEnd at small nonempty ⊢
    rcases request.ranged with rest | range
    · rw [if_pos rest] at small ⊢
      simp only [requested, rest]
      rw [if_pos (by omega), toInt32_of_range]
      all_goals omega
    · simp only [requested]
      rw [if_neg (by omega), toInt32_of_range]
      all_goals omega
  have serving := serving_requested request ends nonempty small
  obtain ⟨after, handled⟩ := handleCacheRequest_eq env request ends nonempty small
  refine ⟨after, _, handled, ?_⟩
  rw [buffers_finished]
  have delivers := serveShards_delivers serving accepts within
    (by
      intro final divisible
      rw [← request.size] at final divisible
      exact partly ⟨divisible, final⟩)
    ((requestEnd loader.size offset length - 1) / shardSize - offset / shardSize + 1).toNat
    (Int.le_refl (offset / shardSize))
    (by
      unfold shardSize
      omega)
  have start : min (requestEnd loader.size offset length)
      (max offset (offset / shardSize * shardSize)) = offset := by
    unfold shardSize
    omega
  rw [start] at delivers
  exact delivers

/-! Where the condition fails. -/

def silent : Environment where
  network _ _ := {}
  respondData _ := 0

theorem length_read {files : FileCache} {beg size : Int} {buffer : List UInt8}
    (found : files.read index beg size = some buffer) : buffer.length = size.toNat := by
  unfold FileCache.read at found
  split at found
  · cases found
  split at found
  · cases found
  · simp only [Option.some.injEq] at found
    rw [← found, List.length_append, List.length_replicate, List.length_take]
    omega

theorem fileEnd_lt (loader : CustomLoaderCallback) (index endIndex : Int) {fileSize : Int}
    (present : 0 ≤ fileSize) : loader.fileEnd index endIndex fileSize < shardSize := by
  have positive : (0 : Int) < shardSize := by decide
  have above := Int.tmod_lt_of_pos
    (toInt32 (loader.requestedOffset + loader.requestedLength - 1)) positive
  have below := Int.lt_tmod_of_pos
    (toInt32 (loader.requestedOffset + loader.requestedLength - 1)) positive
  have narrow : toInt32 ((toInt32 (loader.requestedOffset + loader.requestedLength - 1)).tmod
      shardSize) =
        (toInt32 (loader.requestedOffset + loader.requestedLength - 1)).tmod shardSize := by
    apply toInt32_of_range
    all_goals
      unfold shardSize at *
      omega
  have reached : (if index = endIndex then
      (toInt32 (loader.requestedOffset + loader.requestedLength - 1)).tmod shardSize
      else shardSize - 1) < shardSize := by
    split
    · exact above
    · omega
  simp only [fileEnd, narrow]
  by_cases shorter : fileSize ≤ if index = endIndex then
      (toInt32 (loader.requestedOffset + loader.requestedLength - 1)).tmod shardSize
      else shardSize - 1
  · rw [if_pos shorter, toInt32_of_range]
    all_goals
      unfold shardSize at *
      omega
  · rw [if_neg shorter]
    exact reached

variable {startIndex endIndex : Int}

theorem answerShard_bound {fileSize : Int} {piece : Int × List UInt8} (present : 0 ≤ fileSize)
    (answered : piece ∈
      buffers (loader.answerShard env index startIndex endIndex fileSize).2) :
    piece.1 + piece.2.length ≤ (index + 1) * shardSize := by
  have below := loader.fileEnd_lt index endIndex present
  by_cases ordered : loader.fileBeg index startIndex ≤ loader.fileEnd index endIndex fileSize
  · simp only [answerShard, if_pos ordered] at answered
    rw [if_neg (by omega)] at answered
    split at answered
    · simp [buffers] at answered
    rename_i buffer found
    have size := length_read found
    simp only [buffers, List.filterMap_cons, List.filterMap_nil, List.mem_singleton] at answered
    rw [answered]
    simp only
    unfold shardSize at *
    omega
  · simp [answerShard, if_neg ordered, buffers] at answered

theorem processShard_silent (loader : CustomLoaderCallback) (index startIndex endIndex : Int) :
    (loader.processShard silent index startIndex endIndex).2.2 = [] ∧
        (loader.processShard silent index startIndex endIndex).2.1 =
          { loader with files := loader.files.clear index } ∨
      (loader.processShard silent index startIndex endIndex).2.1 = loader ∧
        ∀ piece ∈ buffers (loader.processShard silent index startIndex endIndex).2.2,
          0 ≤ loader.files.getSize index ∧
            loader.files.getSize index = loader.shardLength index ∧
            piece.1 + piece.2.length ≤ (index + 1) * shardSize := by
  by_cases valid : loader.files.getSize index = loader.shardLength index
  · right
    have kept : loader.files.isValid index (loader.shardLength index) = (true, loader.files) := by
      rw [FileCache.isValid, if_neg (by simp [valid])]
    simp only [processShard, kept, if_true]
    split
    · exact ⟨rfl, by simp [buffers]⟩
    split
    · exact ⟨rfl, by simp [buffers]⟩
    split
    · exact ⟨rfl, by simp [buffers]⟩
    rename_i present
    have nonneg : 0 ≤ loader.files.getSize index := by
      simpa using present
    refine ⟨rfl, ?_⟩
    intro piece answered
    exact ⟨nonneg, valid, answerShard_bound nonneg answered⟩
  · left
    have cleared : loader.files.isValid index (loader.shardLength index) =
        (false, loader.files.clear index) := by
      rw [FileCache.isValid, if_pos valid]
    have absent : (loader.files.clear index).getSize index < 0 := by
      simp [FileCache.getSize, FileCache.clear]
    simp only [processShard, cleared, requestData, silent, FileCache.write, if_true,
      Bool.false_eq_true, if_false]
    split
    · exact ⟨rfl, rfl⟩
    · split
      · exact ⟨rfl, rfl⟩
      · exact ⟨rfl, rfl⟩

/-- Every file is still the shard of the resource, or was deleted. -/
structure Faded (resource : List UInt8) (loader : CustomLoaderCallback) : Prop where
  size : loader.size = resource.length
  files : ∀ index, loader.files index = none ∨ loader.files index = cached resource index

theorem Faded.processShard (faded : Faded resource loader) (index startIndex endIndex : Int) :
    Faded resource (loader.processShard silent index startIndex endIndex).2.1 := by
  rcases loader.processShard_silent index startIndex endIndex with cleared | kept
  · rw [cleared.2]
    refine ⟨faded.size, ?_⟩
    intro other
    by_cases same : other = index
    · left
      simp [FileCache.clear, same]
    · simp only [FileCache.clear, Function.update_of_ne same]
      exact faded.files other
  · rw [kept.1]
    exact faded

theorem serveShards_bound {limit : Int} (count : Nat) (faded : Faded resource loader)
    (each : ∀ loader' index', Faded resource loader' → index' < index + count →
      ∀ piece ∈ buffers (processShard loader' silent index' startIndex endIndex).2.2,
        piece.1 + piece.2.length ≤ limit) :
    ∀ piece ∈ buffers (serveShards silent startIndex endIndex count index loader).2,
      piece.1 + piece.2.length ≤ limit := by
  induction count generalizing index loader with
  | zero => simp [serveShards, buffers]
  | succ count ih =>
    have here := each loader index faded (by omega)
    have after := faded.processShard index startIndex endIndex
    simp only [serveShards]
    generalize loader.processShard silent index startIndex endIndex = result at here after
    obtain ⟨continues, loader', replies⟩ := result
    cases continues with
    | false => exact here
    | true =>
      have rest : ∀ piece ∈
          buffers (serveShards silent startIndex endIndex count (index + 1) loader').2,
            piece.1 + piece.2.length ≤ limit := by
        apply ih after
        intro loader'' index' faded' before
        exact each loader'' index' faded' (by omega)
      intro piece answered
      rw [buffers_append, List.mem_append] at answered
      rcases answered with first | later
      · exact here piece first
      · exact rest piece later

theorem serveShards_limit (count : Nat) (faded : Faded resource loader)
    (rounds : index + count ≤ endIndex + 1) :
    ∀ piece ∈ buffers (serveShards silent startIndex endIndex count index loader).2,
      piece.1 + piece.2.length ≤ (endIndex + 1) * shardSize := by
  apply serveShards_bound count faded
  intro loader' index' _ before piece answered
  rcases loader'.processShard_silent index' startIndex endIndex with cleared | kept
  · rw [cleared.1] at answered
    simp [buffers] at answered
  · have ends := (kept.2 piece answered).2.2
    unfold shardSize at *
    omega

theorem serveShards_full (count : Nat) (faded : Faded resource loader)
    (divisible : (resource.length : Int) % shardSize = 0) :
    ∀ piece ∈ buffers (serveShards silent startIndex endIndex count index loader).2,
      piece.1 + piece.2.length ≤ resource.length - shardSize := by
  apply serveShards_bound count faded
  intro loader' index' faded' _ piece answered
  rcases loader'.processShard_silent index' startIndex endIndex with cleared | kept
  · rw [cleared.1] at answered
    simp [buffers] at answered
  obtain ⟨present, valid, ends⟩ := kept.2 piece answered
  have found : loader'.files index' = cached resource index' := by
    rcases faded'.files index' with absent | same
    · simp [FileCache.getSize, absent] at present
    · exact same
  have size : loader'.files.getSize index' = (cached resource).getSize index' := by
    simp [FileCache.getSize, found]
  by_cases inside : 0 ≤ index' ∧ index' * shardSize < resource.length
  · have shard := getSize_cached inside.1 inside.2
    have notLast : index' ≠ ((resource.length : Int) - 1) / shardSize := by
      intro last
      have lastIndex : (loader'.size - 1).tdiv shardSize = index' := by
        rw [faded'.size, Int.tdiv_eq_ediv_of_nonneg, last]
        unfold shardSize at *
        omega
      have remainder : loader'.size.tmod shardSize = 0 := by
        rw [faded'.size, Int.tmod_eq_emod_of_nonneg (by omega), divisible]
      rw [size, shard, shardLength, lastIndex, if_pos rfl, remainder,
        toInt32_of_range (by omega) (by omega)] at valid
      unfold shardSize at *
      omega
    unfold shardSize at *
    omega
  · have absent : cached resource index' = none := if_neg inside
    simp [FileCache.getSize, found, absent] at present

theorem read_present (size : Int) {beg : Int} (serving : Serving resource offset stop loader)
    (nonneg : 0 ≤ index) (inside : index * shardSize < resource.length) (begins : 0 ≤ beg) :
    ∃ buffer, loader.files.read index beg size = some buffer := by
  have found : cached resource index =
      some ((resource.drop (index * shardSize).toNat).take shardSize.toNat) :=
    if_pos ⟨nonneg, inside⟩
  rw [serving.files]
  simp only [FileCache.read, found]
  rw [if_neg (by omega)]
  exact ⟨_, rfl⟩

theorem answerShard_reach (serving : Serving resource offset stop loader)
    (accepts : ∀ offset, 0 ≤ env.respondData offset)
    (first : offset / shardSize ≤ index) (last : index ≤ (stop - 1) / shardSize)
    (nonneg : 0 ≤ index) (inside : index * shardSize < resource.length)
    (starts : offset < resource.length) :
    ∃ buffer, loader.answerShard env index (offset / shardSize) ((stop - 1) / shardSize)
          (min shardSize (resource.length - index * shardSize)) =
        (true, [.respondData (max offset (index * shardSize)) buffer]) ∧
      max offset (index * shardSize) + buffer.length =
        min (min stop ((index + 1) * shardSize)) (resource.length + 1) := by
  have nonempty := serving.nonempty
  have begins := fileBeg_eq serving first
  have ends := fileEnd_eq serving last inside
  have ordered : max offset (index * shardSize) - index * shardSize ≤
      min (min stop ((index + 1) * shardSize) - index * shardSize - 1)
        (min shardSize (resource.length - index * shardSize)) := by
    unfold shardSize at *
    omega
  have size : min (min stop ((index + 1) * shardSize) - index * shardSize - 1)
        (min shardSize (resource.length - index * shardSize)) -
      (max offset (index * shardSize) - index * shardSize) + 1 =
        min (min stop ((index + 1) * shardSize)) (resource.length + 1) -
          max offset (index * shardSize) := by
    unfold shardSize at *
    omega
  have positive : ¬ min (min stop ((index + 1) * shardSize)) (resource.length + 1) -
      max offset (index * shardSize) ≤ 0 := by
    omega
  have begNonneg : 0 ≤ max offset (index * shardSize) - index * shardSize := by
    omega
  obtain ⟨buffer, found⟩ := read_present
    (min (min stop ((index + 1) * shardSize)) (resource.length + 1) -
      max offset (index * shardSize)) serving nonneg inside begNonneg
  have position : index * shardSize + (max offset (index * shardSize) - index * shardSize) =
      max offset (index * shardSize) := by
    omega
  have length := length_read found
  refine ⟨buffer, ?_, by omega⟩
  simp only [answerShard, begins, ends, if_pos ordered, size, if_neg positive, found, position,
    accepts, decide_true]

theorem serveShards_over (env : Environment) (serving : Serving resource offset stop loader)
    (accepts : ∀ offset, 0 ≤ env.respondData offset) (starts : offset < resource.length)
    (beyond : resource.length < stop)
    (partly : (resource.length : Int) % shardSize ≠ 0) (count : Nat)
    (first : offset / shardSize ≤ index)
    (before : index ≤ ((resource.length : Int) - 1) / shardSize)
    (reaches : ((resource.length : Int) - 1) / shardSize < index + count) :
    ∃ piece ∈ buffers (serveShards env (offset / shardSize) ((stop - 1) / shardSize) count index
      loader).2, piece.1 + piece.2.length = resource.length + 1 := by
  have offsetNonneg := serving.nonneg
  induction count generalizing index with
  | zero => omega
  | succ count ih =>
    have nonneg : 0 ≤ index := by
      unfold shardSize at *
      omega
    have inside : index * shardSize < resource.length := by
      unfold shardSize at *
      omega
    have last : index ≤ (stop - 1) / shardSize := by
      unfold shardSize at *
      omega
    have fileSize := getSize_cached nonneg inside
    have expected := shardLength_eq serving nonneg inside (fun _ => partly)
    rw [← serving.files] at fileSize
    have present : 0 ≤ loader.files.getSize index := by
      unfold shardSize at *
      omega
    obtain ⟨buffer, answered, reach⟩ :=
      answerShard_reach serving accepts first last nonneg inside starts
    have round := processShard_valid env (offset / shardSize) ((stop - 1) / shardSize)
      serving.current serving.opened present (fileSize.trans expected.symm)
    rw [fileSize, answered] at round
    simp only [serveShards, round, buffers_append]
    by_cases final : index = ((resource.length : Int) - 1) / shardSize
    · refine ⟨(max offset (index * shardSize), buffer), ?_, ?_⟩
      · simp [buffers]
      · simp only
        unfold shardSize at *
        omega
    · have later : offset / shardSize ≤ index + 1 := by omega
      obtain ⟨piece, later, ends⟩ := ih later (by omega) (by omega)
      exact ⟨piece, List.mem_append_right _ later, ends⟩

theorem faded_requested (request : CachedRequest resource loader offset length) :
    Faded resource (requested loader offset length) where
  size := request.size
  files := by
    intro index
    right
    exact congrFun request.files index

theorem handled_limit (request : CachedRequest resource loader offset length)
    {after : CustomLoaderCallback} {replies : List LoaderReply} {computed : Int}
    (narrowed : computed = toInt32 (offset + if length ≤ 0 then loader.size else length))
    (handled : loader.handleCacheRequest silent offset length = some (after, replies)) :
    computed ≠ intMin ∧
      (∀ piece ∈ buffers replies, piece.1 + piece.2.length ≤
        (toInt32 ((computed - 1).tdiv shardSize) + 1) * shardSize) ∧
      ((resource.length : Int) % shardSize = 0 →
        ∀ piece ∈ buffers replies, piece.1 + piece.2.length ≤ resource.length - shardSize) := by
  rw [← toInt32_add] at narrowed
  have faded := faded_requested request
  simp only [handleCacheRequest, ← narrowed] at handled
  by_cases overflow : computed = intMin
  · rw [if_pos overflow] at handled
    cases handled
  rw [if_neg overflow] at handled
  simp only [Option.some.injEq, Prod.mk.injEq] at handled
  rw [← handled.2, buffers_finished]
  refine ⟨overflow, ?_, ?_⟩
  · generalize toInt32 ((computed - 1).tdiv shardSize) = endIndex
    generalize toInt32 (offset.tdiv shardSize) = startIndex
    by_cases runs : startIndex ≤ endIndex + 1
    · apply serveShards_limit _ faded
      omega
    · have none : (endIndex - startIndex + 1).toNat = 0 := by omega
      rw [none]
      simp [serveShards, buffers]
  · intro divisible
    exact serveShards_full _ faded divisible

theorem endIndex_le {computed : Int} (low : -2147483648 ≤ computed)
    (high : computed < 2147483648) :
    toInt32 ((computed - 1).tdiv shardSize) ≤ max 0 ((computed - 1) / shardSize) := by
  by_cases nonneg : 0 ≤ computed - 1
  · rw [Int.tdiv_eq_ediv_of_nonneg nonneg, toInt32_of_range]
    all_goals
      unfold shardSize
      omega
  · have flipped : (computed - 1).tdiv shardSize = -((1 - computed) / shardSize) := by
      have same : computed - 1 = -(1 - computed) := by omega
      rw [same, Int.neg_tdiv, Int.tdiv_eq_ediv_of_nonneg (by omega)]
    rw [flipped, toInt32_of_range]
    all_goals
      unfold shardSize
      omega

theorem not_reads_of_unreadable (request : CachedRequest resource loader offset length)
    (unreadable : ¬ Readable loader.size offset length) :
    ¬ ReadsExactly resource loader silent offset length := by
  intro reads
  obtain ⟨after, replies, handled, delivers⟩ := reads
  have size := request.size
  have nonneg := request.nonneg
  have inside := request.inside
  have ranged := request.ranged
  obtain ⟨proper, limit, full⟩ := handled_limit request rfl handled
  have range := toInt32_range (offset + if length ≤ 0 then loader.size else length)
  have endIndex := endIndex_le range.1 range.2
  have stop : requestEnd loader.size offset length =
      if length = -1 then (resource.length : Int) else offset + length := by
    rw [requestEnd, size]
  obtain ⟨piece, answered, ends⟩ := spans_last delivers.1 (by omega)
  have below := limit piece answered
  by_cases small : requestEnd loader.size offset length < 2147483648
  · by_cases last : loader.size % shardSize = 0 ∧
        (requestEnd loader.size offset length - 1) / shardSize = (loader.size - 1) / shardSize
    · obtain ⟨divisible, final⟩ := last
      rw [size] at divisible
      have short := full divisible piece answered
      unfold shardSize at *
      omega
    · have rest : length = -1 ∧ offset ≠ 0 := by
        by_cases whole : length = -1
        · refine ⟨whole, ?_⟩
          intro start
          exact unreadable ⟨fun _ => start, small, last⟩
        · exact absurd ⟨fun other => absurd other whole, small, last⟩ unreadable
      obtain ⟨whole, later⟩ := rest
      rw [if_pos whole] at stop
      have partly : (resource.length : Int) % shardSize ≠ 0 := by
        intro divisible
        apply last
        rw [stop, size]
        exact ⟨divisible, rfl⟩
      by_cases wraps : offset + resource.length < 2147483648
      · have extended : offset + (requested loader offset length).requestedLength =
            offset + resource.length := by
          simp only [requested, whole]
          rw [if_pos (by omega), size, toInt32_of_range]
          all_goals omega
        have serving := serving_requested request extended (by omega) wraps
        obtain ⟨after', handled'⟩ :=
          handleCacheRequest_eq silent request extended (by omega) wraps
        have same := handled.symm.trans handled'
        simp only [Option.some.injEq, Prod.mk.injEq] at same
        rw [same.2, buffers_finished] at delivers
        obtain ⟨served, present, past⟩ := serveShards_over silent serving
          (fun _ => Int.le_refl 0) inside (by omega) partly
          ((offset + resource.length - 1) / shardSize - offset / shardSize + 1).toNat
          (Int.le_refl (offset / shardSize))
          (by
            unfold shardSize
            omega)
          (by
            unfold shardSize
            omega)
        have bounds := spans_bounds delivers.1 present
        omega
      · unfold toInt32 intMin shardSize at *
        omega
  · unfold toInt32 intMin shardSize at *
    rcases ranged with whole | part
    · omega
    · omega

/-- Whatever the network answers, a request to a fully cached resource is answered with
exactly its bytes if and only if it is one of the readable ones. -/
theorem cached_read_exact_iff (request : CachedRequest resource loader offset length) :
    (∀ env : Environment, (∀ offset, 0 ≤ env.respondData offset) →
      ReadsExactly resource loader env offset length) ↔ Readable loader.size offset length := by
  constructor
  · intro always
    by_contra unreadable
    have reads := always silent (fun _ => Int.le_refl 0)
    exact not_reads_of_unreadable request unreadable reads
  · intro readable env accepts
    exact reads_of_readable request accepts readable

/-- A cached resource of three bytes, and a request from its second byte on. -/
def threeBytes : CustomLoaderCallback where
  size := 3
  files := cached [1, 2, 3]
  curOffset := 1

theorem threeBytes_cached {length : Int} (ranged : length = -1 ∨ 0 < length ∧ 1 + length ≤ 3) :
    CachedRequest [1, 2, 3] threeBytes 1 length where
  size := rfl
  files := rfl
  current := rfl
  opened := rfl
  nonneg := by decide
  inside := by decide
  ranged := ranged

theorem two_bytes_read : ReadsExactly [1, 2, 3] threeBytes silent 1 2 :=
  (cached_read_exact_iff (threeBytes_cached (by decide))).mpr (by decide) silent
    fun _ => Int.le_refl 0

/-- The rest from the second byte on is answered with a byte that the resource does not
have. -/
theorem cached_rest_overreads :
    (threeBytes.handleCacheRequest silent 1 (-1)).map Prod.snd =
        some [.respondData 1 [2, 3, 0], .finishLoading 0] ∧
      ¬ ∀ (resource : List UInt8) (loader : CustomLoaderCallback) (env : Environment)
        (offset length : Int), CachedRequest resource loader offset length →
          (∀ offset, 0 ≤ env.respondData offset) →
            ReadsExactly resource loader env offset length := by
  have answered : (threeBytes.handleCacheRequest silent 1 (-1)).map Prod.snd =
      some [.respondData 1 [2, 3, 0], .finishLoading 0] := by decide +kernel
  refine ⟨answered, ?_⟩
  intro always
  obtain ⟨after, replies, handled, delivers⟩ := always [1, 2, 3] threeBytes silent 1 (-1)
    (threeBytes_cached (by decide)) (fun _ => Int.le_refl 0)
  rw [handled] at answered
  simp only [Option.map_some, Option.some.injEq] at answered
  rw [answered] at delivers
  exact absurd delivers.2 (by decide)

end CustomLoaderCallback

end PlayerFramework.Loader
