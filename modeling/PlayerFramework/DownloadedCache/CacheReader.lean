import Mathlib.Algebra.Group.Nat.Defs
import Mathlib.Data.List.Basic

/-!
`CacheReader` (`cache_reader.cpp`), which answers a request from a downloaded file through
`DownloadedFileCacheManager` (`file_cache_manager.cpp`).
-/

namespace PlayerFramework.DownloadedCache

def loadingErrorSuccess : Int := 0

def loadingErrorNotReady : Int := 1

def int32Max : Int := 2147483647

/-- The loop of `ReadFileData` over what the file has from the offset on.  An entry of the list
is a `read` that fails or transfers no more than so many bytes; further reads are whole. -/
def readFileData (wanted : Nat) : List UInt8 → List (Option Nat) → Option (List UInt8)
  | file, [] => if file.length < wanted then none else some (file.take wanted)
  | file, shortRead :: rest =>
    if wanted = 0 then some []
    else
      match shortRead with
      | none => none
      | some most =>
        let bytesRead := file.take (min most wanted)
        if bytesRead = [] then none
        else (readFileData (wanted - bytesRead.length) (file.drop bytesRead.length) rest).map
          (bytesRead ++ ·)

/-- `DownloadedFileCacheManager::Read`. -/
def read (file : List UInt8) (offset size : Int) (reads : List (Option Nat)) :
    Option (List UInt8) :=
  if offset < 0 ∨ size ≤ 0 then none
  else if offset > file.length - size then none
  else readFileData size.toNat (file.drop offset.toNat) reads

inductive LoaderReply where
  | respondHeader
  | respondData (offset : Int) (buffer : List UInt8)
  | finishLoading (errorCode : Int)
deriving DecidableEq

/-- What a request meets: the file, if its path is valid and it opens, whether there are
headers for it, whether the buffer can be made, the reads and the answer of `RespondData`. -/
structure CacheAnswers where
  file : Option (List UInt8)
  headers : Bool := true
  bufferInit : Bool := true
  reads : List (Option Nat) := []
  respondData : Int := 0

structure CacheReader where
  hasRequest : Bool := true
  isClosed : Bool := false
  isHeaderResponded : Bool := false
  headerFailed : Bool := false

namespace CacheReader

def respondHeader (answers : CacheAnswers) (reader : CacheReader) :
    CacheReader × List LoaderReply :=
  if reader.isHeaderResponded then (reader, [])
  else
    let marked := { reader with isHeaderResponded := true }
    if reader.isClosed then (marked, [])
    else if !reader.hasRequest || answers.file.isNone || !answers.headers then
      ({ marked with headerFailed := true }, [])
    else (marked, [.respondHeader])

/-- `ReadCacheFile`: the buffer and `actualReadLength`. -/
def readCacheFile (answers : CacheAnswers) (requestedOffset requestedLength : Int) :
    Option (List UInt8 × Int) :=
  match answers.file with
  | none => none
  | some file =>
    let fileSize : Int := file.length
    let actualRequestedLength := if requestedLength ≤ 0 then fileSize else requestedLength
    if requestedOffset ≥ fileSize then none
    else
      let actualReadLength :=
        min (min actualRequestedLength (fileSize - requestedOffset)) int32Max
      if !answers.bufferInit then none
      else (read file requestedOffset actualReadLength answers.reads).map (·, actualReadLength)

def respondCacheData (answers : CacheAnswers) (requestedOffset requestedLength : Int)
    (buffer : List UInt8) (actualReadLength : Int) (reader : CacheReader) : List LoaderReply :=
  if !reader.hasRequest then []
  else .respondData requestedOffset buffer ::
    if answers.respondData < 0 then [.finishLoading loadingErrorNotReady]
    else if requestedLength = -1 ∨ actualReadLength ≠ requestedLength then
      [.finishLoading loadingErrorSuccess]
    else []

def finish (errorCode : Int) (reader : CacheReader) : List LoaderReply :=
  if reader.hasRequest then [.finishLoading errorCode] else []

def handleCacheRequest (answers : CacheAnswers) (requestedOffset requestedLength : Int)
    (reader : CacheReader) : CacheReader × List LoaderReply :=
  if reader.isClosed then (reader, [])
  else
    let (reader, header) := reader.respondHeader answers
    (reader, header ++ if reader.headerFailed then reader.finish loadingErrorNotReady
      else if requestedLength = 0 then reader.finish loadingErrorSuccess
      else
        match readCacheFile answers requestedOffset requestedLength with
        | none => reader.finish loadingErrorNotReady
        | some (buffer, actualReadLength) =>
          reader.respondCacheData answers requestedOffset requestedLength buffer actualReadLength)

/-- The bytes that are asked for, up to the end of the file; a negative length has no end. -/
def requestedRange (answers : CacheAnswers) (requestedOffset requestedLength : Int) : List UInt8 :=
  let behind := (answers.file.getD []).drop requestedOffset.toNat
  if requestedLength < 0 then behind else behind.take requestedLength.toNat

/-- The buffers that were responded, with their offsets. -/
def responded (replies : List LoaderReply) : List (Int × List UInt8) :=
  replies.filterMap fun
    | .respondData offset buffer => some (offset, buffer)
    | _ => none

/-- The buffers follow one another from the offset on, and are these bytes together. -/
def Covers (offset : Int) (bytes : List UInt8) : List (Int × List UInt8) → Prop
  | [] => bytes = []
  | (first, buffer) :: rest =>
    first = offset ∧ ∃ more, bytes = buffer ++ more ∧ Covers (offset + buffer.length) more rest

/-- Success is reported behind everything that was asked for. -/
def FinishesComplete (requestedOffset : Int) (range : List UInt8) (replies : List LoaderReply) :
    Prop :=
  ∀ before after, replies = before ++ .finishLoading loadingErrorSuccess :: after →
    Covers requestedOffset range (responded before)

/-- The request ends without data that is taken. -/
def Fails (answers : CacheAnswers) (requestedOffset : Int) (reader : CacheReader) : Prop :=
  reader.isClosed = true ∨ reader.hasRequest = false ∨
    (reader.respondHeader answers).1.headerFailed = true ∨ answers.bufferInit = false ∨
      read (answers.file.getD []) requestedOffset int32Max answers.reads = none ∨
        answers.respondData < 0

theorem readFileData_eq {wanted : Nat} {file buffer : List UInt8} (reads : List (Option Nat))
    (found : readFileData wanted file reads = some buffer) : buffer = file.take wanted := by
  induction reads generalizing wanted file buffer with
  | nil =>
    unfold readFileData at found
    split at found
    · cases found
    · exact (Option.some.inj found).symm
  | cons shortRead rest ih =>
    unfold readFileData at found
    split at found
    · rename_i nothing
      rw [nothing, ← Option.some.inj found]
      rfl
    · cases shortRead with
      | none => cases found
      | some most =>
        dsimp only at found
        split at found
        · cases found
        obtain ⟨later, read, joined⟩ := Option.map_eq_some_iff.mp found
        have front : file.take (min most wanted) =
            file.take (file.take (min most wanted)).length := by
          rw [List.length_take, List.take_eq_take_iff]
          omega
        have rest : (file.take (min most wanted)).length +
            (wanted - (file.take (min most wanted)).length) = wanted := by
          rw [List.length_take]
          omega
        rw [← joined, ih read, ← rest, List.take_add, ← front, rest]

theorem read_eq {file buffer : List UInt8} {offset size : Int} {reads : List (Option Nat)}
    (found : read file offset size reads = some buffer) :
    0 ≤ offset ∧ 0 < size ∧ offset ≤ file.length - size ∧
      buffer = (file.drop offset.toNat).take size.toNat := by
  unfold read at found
  split at found
  · cases found
  · split at found
    · cases found
    · exact ⟨by omega, by omega, by omega, readFileData_eq reads found⟩

theorem covers_nil_iff {offset : Int} {bytes : List UInt8} :
    Covers offset bytes [] ↔ bytes = [] := Iff.rfl

theorem covers_one_iff {offset : Int} {bytes buffer : List UInt8} :
    Covers offset bytes [(offset, buffer)] ↔ bytes = buffer := by
  constructor
  · rintro ⟨-, more, joined, nothing⟩
    rw [joined, covers_nil_iff.mp nothing, List.append_nil]
  · intro same
    exact ⟨rfl, [], by rw [same, List.append_nil], rfl⟩

variable {answers : CacheAnswers} {requestedOffset requestedLength : Int} {reader : CacheReader}
  {range : List UInt8}

theorem finishesComplete_of_quiet {replies : List LoaderReply}
    (quiet : .finishLoading loadingErrorSuccess ∉ replies) :
    FinishesComplete requestedOffset range replies := by
  intro before after split
  exact absurd (split ▸ List.mem_append_right _ List.mem_cons_self) quiet

/-- Success at the end, and nowhere before. -/
theorem finishesComplete_append_iff {replies : List LoaderReply}
    (quiet : .finishLoading loadingErrorSuccess ∉ replies) :
    FinishesComplete requestedOffset range
        (replies ++ [LoaderReply.finishLoading loadingErrorSuccess]) ↔
      Covers requestedOffset range (responded replies) := by
  constructor
  · intro complete
    exact complete replies [] rfl
  intro covers before after split
  rcases List.append_eq_append_iff.mp split with ⟨more, rfl, rest⟩ | ⟨more, rfl, rest⟩
  · cases more with
    | nil => simpa using covers
    | cons reply more => cases more <;> cases rest
  · cases more with
    | nil => simpa using covers
    | cons reply more =>
      cases rest
      exact absurd (by simp) quiet

theorem header_replies (answers : CacheAnswers) (reader : CacheReader) :
    (reader.respondHeader answers).2 = [] ∨
      (reader.respondHeader answers).2 = [.respondHeader] := by
  unfold respondHeader
  split
  · exact .inl rfl
  split
  · exact .inl rfl
  · split
    · exact .inl rfl
    · exact .inr rfl

theorem header_request (answers : CacheAnswers) (reader : CacheReader) :
    (reader.respondHeader answers).1.hasRequest = reader.hasRequest := by
  unfold respondHeader
  split
  · rfl
  · split
    · rfl
    · split <;> rfl

theorem length_requestedRange {file : List UInt8} (opened : answers.file = some file)
    (asked : requestedLength ≠ 0) :
    ((requestedRange answers requestedOffset requestedLength).length : Int) ≤
        min (if requestedLength ≤ 0 then (file.length : Int) else requestedLength)
          (file.length - requestedOffset) ∨ file.length ≤ requestedOffset := by
  unfold requestedRange
  rw [opened, Option.getD_some]
  split
  · rw [if_pos (by omega), List.length_drop]
    omega
  · rw [if_neg (by omega), List.length_take, List.length_drop]
    omega

/-- A read that fails ends the request without data, unless less than the most is asked for. -/
theorem readCacheFile_none (nothing : readCacheFile answers requestedOffset requestedLength = none)
    (asked : requestedLength ≠ 0) :
    (requestedRange answers requestedOffset requestedLength).length ≤ int32Max ∨
      answers.bufferInit = false ∨
        read (answers.file.getD []) requestedOffset int32Max answers.reads = none := by
  cases opened : answers.file with
  | none =>
    left
    simp [requestedRange, opened, int32Max]
  | some file =>
    by_cases small : (requestedRange answers requestedOffset requestedLength).length ≤ int32Max
    · exact .inl small
    right
    have large := @length_requestedRange answers requestedOffset requestedLength file opened asked
    simp only [readCacheFile, opened] at nothing
    rw [int32Max] at small
    split at nothing
    · simp only [requestedRange, opened, Option.getD_some,
        List.drop_eq_nil_of_le (show file.length ≤ requestedOffset.toNat by omega)] at small
      simp at small
    · split at nothing
      · rename_i unmade
        exact .inl (by simpa using unmade)
      right
      have most : min (min (if requestedLength ≤ 0 then (file.length : Int)
          else requestedLength) (file.length - requestedOffset)) int32Max = int32Max := by
        rw [int32Max]
        omega
      rw [most] at nothing
      simpa using nothing

theorem readCacheFile_some {buffer : List UInt8} {actualReadLength : Int}
    (found : readCacheFile answers requestedOffset requestedLength =
      some (buffer, actualReadLength)) (asked : requestedLength ≠ 0) :
    answers.bufferInit = true ∧ actualReadLength ≤ int32Max ∧
      ((requestedRange answers requestedOffset requestedLength).length ≤ int32Max →
        requestedRange answers requestedOffset requestedLength = buffer) ∧
      (int32Max < (requestedRange answers requestedOffset requestedLength).length →
        actualReadLength = int32Max ∧ buffer.length ≤ int32Max ∧
          read (answers.file.getD []) requestedOffset int32Max answers.reads = some buffer) := by
  cases opened : answers.file with
  | none => simp [readCacheFile, opened] at found
  | some file =>
    have large := @length_requestedRange answers requestedOffset requestedLength file opened asked
    simp only [readCacheFile, opened] at found
    split at found
    · cases found
    rename_i before
    split at found
    · cases found
    rename_i made
    obtain ⟨bytes, taken, same⟩ := Option.map_eq_some_iff.mp found
    obtain ⟨rfl, rfl⟩ := Prod.mk.inj same
    obtain ⟨nonneg, positive, inside, rfl⟩ := read_eq taken
    refine ⟨by simpa using made, Int.min_le_right _ _, ?_, ?_⟩
    · intro small
      rw [int32Max] at small
      simp only [requestedRange, opened, Option.getD_some, int32Max] at small ⊢
      split at small
      · rename_i endless
        rw [if_pos endless, List.take_of_length_le]
        rw [if_pos (by omega)]
        rw [List.length_drop] at small ⊢
        omega
      · rename_i bounded
        rw [if_neg bounded, List.take_eq_take_iff, if_neg (by omega)]
        rw [List.length_take, List.length_drop] at small
        rw [List.length_drop]
        omega
    · intro exceeding
      have most : min (min (if requestedLength ≤ 0 then (file.length : Int)
          else requestedLength) (file.length - requestedOffset)) int32Max = int32Max := by
        omega
      rw [most] at taken ⊢
      refine ⟨rfl, ?_, taken⟩
      rw [List.length_take]
      omega

/-- Success stands for the whole range exactly where this is no longer than `INT32_MAX`, or the
request fails before. -/
theorem finishes_complete_iff (answers : CacheAnswers) (requestedOffset requestedLength : Int)
    (reader : CacheReader) :
    FinishesComplete requestedOffset (requestedRange answers requestedOffset requestedLength)
        (reader.handleCacheRequest answers requestedOffset requestedLength).2 ↔
      (requestedRange answers requestedOffset requestedLength).length ≤ int32Max ∨
        reader.Fails answers requestedOffset := by
  have request := header_request answers reader
  have header := header_replies answers reader
  have quiet : LoaderReply.finishLoading loadingErrorSuccess ∉
      (reader.respondHeader answers).2 := by
    rcases header with none | one
    · simp [none]
    · simp [one]
  have unanswered : responded (reader.respondHeader answers).2 = [] := by
    rcases header with none | one
    · simp [none, responded]
    · simp [one, responded]
  have fails (code : Int) (other : code ≠ loadingErrorSuccess) (after : CacheReader) :
      LoaderReply.finishLoading loadingErrorSuccess ∉ after.finish code := by
    unfold finish
    split
    · simpa using other.symm
    · simp
  unfold handleCacheRequest Fails
  split
  · rename_i closed
    exact iff_of_true (finishesComplete_of_quiet (by simp)) (.inr (.inl closed))
  rename_i opened
  dsimp only
  split
  · rename_i failed
    refine iff_of_true (finishesComplete_of_quiet ?_) (.inr (.inr (.inr (.inl failed))))
    rw [List.mem_append, not_or]
    exact ⟨quiet, fails _ (by decide) _⟩
  · rename_i served
    split
    · rename_i nothing
      have empty : requestedRange answers requestedOffset requestedLength = [] := by
        simp [requestedRange, nothing]
      refine iff_of_true ?_ (.inl (by simp [empty, int32Max]))
      unfold finish
      split
      · rw [finishesComplete_append_iff quiet, unanswered, covers_nil_iff, empty]
      · exact finishesComplete_of_quiet (by simpa using quiet)
    · rename_i asked
      cases found : readCacheFile answers requestedOffset requestedLength with
      | none =>
        refine iff_of_true (finishesComplete_of_quiet ?_) ?_
        · rw [List.mem_append, not_or]
          exact ⟨quiet, fails _ (by decide) _⟩
        · rcases readCacheFile_none found asked with small | unmade | unread
          · exact .inl small
          · exact .inr (.inr (.inr (.inr (.inl unmade))))
          · exact .inr (.inr (.inr (.inr (.inr (.inl unread)))))
      | some result =>
        obtain ⟨buffer, actualReadLength⟩ := result
        obtain ⟨made, bounded, whole, exceeding⟩ := readCacheFile_some found asked
        unfold respondCacheData
        dsimp only
        rw [request]
        split
        · rename_i gone
          refine iff_of_true (finishesComplete_of_quiet (by simpa using quiet)) ?_
          exact .inr (.inr (.inl (by simpa using gone)))
        · rename_i present
          split
          · rename_i refused
            refine iff_of_true (finishesComplete_of_quiet ?_) ?_
            · simpa [loadingErrorNotReady, loadingErrorSuccess] using quiet
            · exact .inr (.inr (.inr (.inr (.inr (.inr refused)))))
          · rename_i accepted
            split
            · have answered : LoaderReply.finishLoading loadingErrorSuccess ∉
                  (reader.respondHeader answers).2 ++
                    [LoaderReply.respondData requestedOffset buffer] := by
                simpa using quiet
              have data : responded ((reader.respondHeader answers).2 ++
                  [LoaderReply.respondData requestedOffset buffer]) =
                    [(requestedOffset, buffer)] := by
                rw [responded, List.filterMap_append, ← responded, unanswered]
                rfl
              rw [List.append_cons, finishesComplete_append_iff answered, data, covers_one_iff]
              constructor
              · intro same
                by_cases small : (requestedRange answers requestedOffset
                    requestedLength).length ≤ int32Max
                · exact .inl small
                · have short := (exceeding (Int.not_le.mp small)).2.1
                  rw [← same] at short
                  exact absurd short small
              · rintro (small | closed | gone | failed | unmade | unread | refused)
                · exact whole small
                · exact absurd closed opened
                · exact absurd gone (by simpa using present)
                · exact absurd failed served
                · rw [made] at unmade
                  cases unmade
                · by_cases small : (requestedRange answers requestedOffset
                      requestedLength).length ≤ int32Max
                  · exact whole small
                  · rw [(exceeding (Int.not_le.mp small)).2.2] at unread
                    cases unread
                · exact absurd refused accepted
            · refine iff_of_true (finishesComplete_of_quiet (by simpa using quiet)) ?_
              left
              by_contra large
              have exceeds := exceeding (Int.not_le.mp large)
              rw [requestedRange] at large
              split at large
              · omega
              · rw [List.length_take] at large
                omega

theorem cut_of_large {file : List UInt8} (large : int32Max < file.length) :
    ¬ FinishesComplete 0 (requestedRange { file := some file } 0 (-1))
      (({} : CacheReader).handleCacheRequest { file := some file } 0 (-1)).2 := by
  intro complete
  have most : min (min (file.length : Int) (file.length - 0)) int32Max = int32Max := by
    rw [Int.sub_zero, Int.min_self, Int.min_eq_right (Int.le_of_lt large)]
  have taken : readCacheFile { file := some file } 0 (-1) =
      some (file.take int32Max.toNat, int32Max) := by
    rw [int32Max] at large
    simp only [readCacheFile, Int.reduceNeg, Int.reduceLE, if_true, most]
    rw [if_neg (by omega), if_neg (by simp), read, if_neg (by simp [int32Max]),
      if_neg (by rw [int32Max]; omega), Int.toNat_zero, List.drop_zero, readFileData,
      if_neg (by rw [int32Max]; omega)]
    rfl
  have replies : (({} : CacheReader).handleCacheRequest { file := some file } 0 (-1)).2 =
      [LoaderReply.respondHeader, .respondData 0 (file.take int32Max.toNat)] ++
        LoaderReply.finishLoading loadingErrorSuccess :: [] := by
    simp only [handleCacheRequest, taken]
    rfl
  have covers : Covers 0 (requestedRange { file := some file } 0 (-1))
      [(0, file.take int32Max.toNat)] := complete _ _ replies
  have length := congrArg List.length (covers_one_iff.mp covers)
  have range : requestedRange { file := some file } 0 (-1) = file := rfl
  have shorter : int32Max.toNat < file.length := by
    rw [int32Max] at large ⊢
    omega
  rw [range, List.length_take, Nat.min_eq_left (Nat.le_of_lt shorter)] at length
  exact Nat.ne_of_gt shorter length

/-- Of a file of 2^31 bytes the last one is not sent. -/
theorem large_file_cut :
    let answers : CacheAnswers := { file := some (List.replicate (2 ^ 31) 0) }
    ¬ FinishesComplete 0 (requestedRange answers 0 (-1))
      (({} : CacheReader).handleCacheRequest answers 0 (-1)).2 := by
  apply cut_of_large
  rw [List.length_replicate]
  decide

end CacheReader

end PlayerFramework.DownloadedCache
