import Mathlib.Algebra.Group.Int.Defs
import Mathlib.Algebra.Group.Nat.Defs
import Mathlib.Data.List.Forall2
import PlayerFramework.HexText

/-!
The DRM information that the demuxer announces (`HandleDrmInfoUpdatedEvent` of
`hiplayer_impl.cpp`): the text of each ID and its data are copied into arrays of fixed size.
-/

namespace PlayerFramework.HiPlayer

open HexText

def drmMaxM3u8DrmUuidLen : Nat := 16
def drmMaxM3u8DrmPsshLen : Nat := 2048
def drmMaxDrmInfoCount : Nat := 8

/-- A `DrmInfoItem`; `none` for what nothing was written to. -/
structure DrmInfoItem where
  uuid : List (Option UInt8) := List.replicate drmMaxM3u8DrmUuidLen none
  pssh : List (Option UInt8) := List.replicate drmMaxM3u8DrmPsshLen none
  psshLen : Option Nat := none
deriving DecidableEq

/-- The array `drmInfoArray`, and whether something was written outside an array of it. -/
structure DrmInfoArray where
  items : List DrmInfoItem
  outside : Bool := false
deriving DecidableEq

/-- An entry of the map: its ID and its `pssh`. -/
abbrev DrmEntry := List Char × List UInt8

/-- Whether the array can be allocated, and whether the data of an empty vector is a null
pointer. -/
structure DrmAnswers where
  allocated : Bool := true
  emptyIsNull : Bool := false
deriving DecidableEq

namespace DrmInfoArray

def setItem (array : DrmInfoArray) (i : Nat) (item : DrmInfoItem → DrmInfoItem) : DrmInfoArray :=
  if i < array.items.length then { array with items := array.items.modify i item }
  else { array with outside := true }

def setUuid (array : DrmInfoArray) (i place : Nat) (byte : UInt8) : DrmInfoArray :=
  if place < drmMaxM3u8DrmUuidLen then
    array.setItem i fun item => { item with uuid := item.uuid.set place (some byte) }
  else { array with outside := true }

/-- The loop over an ID, two characters at a time. -/
def writeUuid (i : Nat) : Nat → List Char → DrmInfoArray → DrmInfoArray
  | _, [], array => array
  | place, [char], array => array.setUuid i place (toByte (strtol [char]))
  | place, first :: second :: rest, array =>
    writeUuid i (place + 1) rest (array.setUuid i place (toByte (strtol [first, second])))

/-- `memcpy_s` refuses more than the array takes, and a null pointer. -/
def psshRefused (answers : DrmAnswers) (pssh : List UInt8) : Bool :=
  drmMaxM3u8DrmPsshLen < pssh.length || (pssh.isEmpty && answers.emptyIsNull)

/-- The loop over the map.  Where `memcpy_s` refuses, it clears its destination. -/
def fill (answers : DrmAnswers) : Nat → List DrmEntry → DrmInfoArray → Bool × DrmInfoArray
  | _, [], array => (true, array)
  | i, (id, pssh) :: rest, array =>
    let written := writeUuid i 0 id array
    if psshRefused answers pssh then
      (false, written.setItem i fun item =>
        { item with pssh := List.replicate drmMaxM3u8DrmPsshLen (some 0) })
    else
      fill answers (i + 1) rest (written.setItem i fun item =>
        { item with
          pssh := pssh.map some ++ item.pssh.drop pssh.length, psshLen := some pssh.length })

end DrmInfoArray

/-- What an event does: the array, if one was made, and what it reports. -/
structure DrmOutcome where
  array : Option DrmInfoArray := none
  reported : Option (List DrmInfoItem) := none
deriving DecidableEq

/-- `HandleDrmInfoUpdatedEvent` for a map with these entries, in the order of their IDs. -/
def handleDrmInfoUpdatedEvent (answers : DrmAnswers) (drmInfo : List DrmEntry) : DrmOutcome :=
  let infoCount := drmInfo.length % 2 ^ 32
  if drmMaxDrmInfoCount < infoCount ∨ infoCount = 0 then {}
  else if ¬answers.allocated then {}
  else
    match DrmInfoArray.fill answers 0 drmInfo { items := List.replicate infoCount {} } with
    | (false, array) => { array := some array }
    | (true, array) => { array := some array, reported := some array.items }

/-- The item holds the bytes that the ID denotes, all of them, and the data with its length. -/
def DrmInfoItem.Holds (item : DrmInfoItem) (entry : DrmEntry) : Prop :=
  (∃ bytes, hexBytes entry.1 = some bytes ∧ item.uuid = bytes.map some) ∧
    item.psshLen = some entry.2.length ∧ item.pssh.take entry.2.length = entry.2.map some

/-- Nothing is written outside the arrays, and what is reported holds the entries in order. -/
structure DrmInfoDecoded (answers : DrmAnswers) (drmInfo : List DrmEntry) : Prop where
  inside : ∀ array ∈ (handleDrmInfoUpdatedEvent answers drmInfo).array, array.outside = false
  exact : ∀ items ∈ (handleDrmInfoUpdatedEvent answers drmInfo).reported,
    List.Forall₂ DrmInfoItem.Holds items drmInfo

def reached (answers : DrmAnswers) : List DrmEntry → List DrmEntry
  | [] => []
  | entry :: rest =>
    if DrmInfoArray.psshRefused answers entry.2 then [entry] else entry :: reached answers rest

/-- The map is refused as a whole, or the loop stays within the array, no ID it comes to is too
long, and if it comes to an end every ID has just as many characters as the array takes, all of
them hexadecimal digits. -/
def DrmInfoFits (answers : DrmAnswers) (drmInfo : List DrmEntry) : Prop :=
  drmMaxDrmInfoCount < drmInfo.length % 2 ^ 32 ∨ drmInfo.length % 2 ^ 32 = 0 ∨
    answers.allocated = false ∨
    ((reached answers drmInfo).length ≤ drmInfo.length % 2 ^ 32 ∧
      (∀ entry ∈ reached answers drmInfo, entry.1.length ≤ 2 * drmMaxM3u8DrmUuidLen) ∧
      ((∀ entry ∈ drmInfo, DrmInfoArray.psshRefused answers entry.2 = false) →
        ∀ entry ∈ drmInfo, entry.1.length = 2 * drmMaxM3u8DrmUuidLen ∧
          ∀ char ∈ entry.1, (hexDigit char).isSome))

namespace DrmInfoArray

/-- The bytes written for an ID, in order. -/
def uuidBytes : List Char → List UInt8
  | [] => []
  | [char] => [toByte (strtol [char])]
  | first :: second :: rest => toByte (strtol [first, second]) :: uuidBytes rest

theorem length_uuidBytes (id : List Char) : (uuidBytes id).length = (id.length + 1) / 2 := by
  induction id using uuidBytes.induct with
  | case1 => rfl
  | case2 => simp [uuidBytes]
  | case3 first second rest ih =>
    simp only [uuidBytes, List.length_cons, ih]
    omega

theorem uuidBytes_of_hexBytes {id : List Char} {bytes : List UInt8}
    (denoted : hexBytes id = some bytes) : uuidBytes id = bytes := by
  induction id using uuidBytes.induct generalizing bytes with
  | case1 =>
    cases denoted
    rfl
  | case2 => cases denoted
  | case3 first second rest ih =>
    rw [hexBytes, Option.bind_eq_some_iff] at denoted
    obtain ⟨high, foundFirst, denoted⟩ := denoted
    obtain ⟨low, foundSecond, denoted⟩ := Option.bind_eq_some_iff.mp denoted
    obtain ⟨others, found, rfl⟩ := Option.map_eq_some_iff.mp denoted
    have small : 16 * high + low < 256 := by
      have highest := hexDigit_lt foundFirst
      have lowest := hexDigit_lt foundSecond
      omega
    rw [uuidBytes, ih found, strtol_pair foundFirst foundSecond, toByte_natCast small]

theorem modify_append {α : Type*} (change : α → α) (before : List α) (element : α)
    (after : List α) :
    (before ++ element :: after).modify before.length change =
      before ++ change element :: after := by
  induction before with
  | nil => rfl
  | cons first before ih => simpa using ih

section

variable {array : DrmInfoArray} {done rest : List DrmInfoItem} {item : DrmInfoItem}

theorem setItem_at (items : array.items = done ++ item :: rest)
    (change : DrmInfoItem → DrmInfoItem) :
    array.setItem done.length change = { array with items := done ++ change item :: rest } := by
  have within : done.length < array.items.length := by
    rw [items]
    simp
  rw [setItem, if_pos within, items, modify_append]

theorem setItem_outside (i : Nat) (change : DrmInfoItem → DrmInfoItem) :
    (array.setItem i change).outside = (array.outside || decide (array.items.length ≤ i)) ∧
      (array.setItem i change).items.length = array.items.length := by
  unfold setItem
  split
  · have late : ¬array.items.length ≤ i := by omega
    simp [late]
  · have late : array.items.length ≤ i := by omega
    simp [late]

theorem setUuid_outside {i : Nat} (within : i < array.items.length) (place : Nat) (byte : UInt8) :
    (array.setUuid i place byte).outside =
        (array.outside || decide (drmMaxM3u8DrmUuidLen ≤ place)) ∧
      (array.setUuid i place byte).items.length = array.items.length := by
  unfold setUuid
  split
  · have early : ¬drmMaxM3u8DrmUuidLen ≤ place := by omega
    have kept : ¬array.items.length ≤ i := by omega
    simp [setItem_outside, early, kept]
  · have late : drmMaxM3u8DrmUuidLen ≤ place := by omega
    simp [late]

theorem writeUuid_outside {i : Nat} (within : i < array.items.length) (place : Nat)
    (id : List Char) :
    ((writeUuid i place id array).outside = true ↔ array.outside = true ∨
        (id ≠ [] ∧ drmMaxM3u8DrmUuidLen < place + (id.length + 1) / 2)) ∧
      (writeUuid i place id array).items.length = array.items.length := by
  induction id using uuidBytes.induct generalizing place array with
  | case1 => simp [writeUuid]
  | case2 char =>
    obtain ⟨outside, length⟩ := setUuid_outside within place (toByte (strtol [char]))
    refine ⟨?_, length⟩
    have same : drmMaxM3u8DrmUuidLen ≤ place ↔
        [char] ≠ [] ∧ drmMaxM3u8DrmUuidLen < place + ([char].length + 1) / 2 := by
      have single : place + ([char].length + 1) / 2 = place + 1 := by simp
      simp only [single, Nat.lt_succ_iff, ne_eq, List.cons_ne_nil, not_false_eq_true, true_and]
    rw [writeUuid, outside, ← same]
    simp
  | case3 first second rest ih =>
    obtain ⟨outside, length⟩ := setUuid_outside within place (toByte (strtol [first, second]))
    have next := ih (by rw [length]; exact within) (place + 1)
    refine ⟨?_, next.2.trans length⟩
    rw [writeUuid, next.1, outside]
    have size : (first :: second :: rest).length = rest.length + 2 := rfl
    have empty : rest = [] ↔ rest.length = 0 := List.length_eq_zero_iff.symm
    have same : (drmMaxM3u8DrmUuidLen ≤ place ∨ (¬rest.length = 0 ∧
        drmMaxM3u8DrmUuidLen < place + 1 + (rest.length + 1) / 2)) ↔
          drmMaxM3u8DrmUuidLen < place + (rest.length + 2 + 1) / 2 := by
      omega
    simp only [Bool.or_eq_true, decide_eq_true_eq, size, ne_eq, reduceCtorEq,
      not_false_eq_true, true_and, empty, or_assoc, same]

theorem writeUuid_length (i place : Nat) (id : List Char) :
    (writeUuid i place id array).items.length = array.items.length := by
  have one (array : DrmInfoArray) (place : Nat) (byte : UInt8) :
      (array.setUuid i place byte).items.length = array.items.length := by
    unfold setUuid
    split
    · exact (setItem_outside i _).2
    · rfl
  induction id using uuidBytes.induct generalizing place array with
  | case1 => rfl
  | case2 char => exact one array place _
  | case3 first second rest ih =>
    rw [writeUuid, ih]
    exact one array place _

theorem setUuid_escaped (i place : Nat) (byte : UInt8) (escaped : array.outside = true) :
    (array.setUuid i place byte).outside = true := by
  unfold setUuid
  split
  · rw [(setItem_outside i _).1, escaped]
    rfl
  · rfl

theorem writeUuid_escaped (i place : Nat) (id : List Char) (escaped : array.outside = true) :
    (writeUuid i place id array).outside = true := by
  induction id using uuidBytes.induct generalizing place array with
  | case1 => exact escaped
  | case2 char => exact setUuid_escaped i place _ escaped
  | case3 first second rest ih => exact ih (place + 1) (setUuid_escaped i place _ escaped)

theorem fill_escaped (answers : DrmAnswers) (i : Nat) (entries : List DrmEntry)
    (escaped : array.outside = true) : (fill answers i entries array).2.outside = true := by
  induction entries generalizing i array with
  | nil => exact escaped
  | cons entry rest ih =>
    have written := writeUuid_escaped i 0 entry.1 escaped
    rw [fill]
    split
    · rw [(setItem_outside i _).1, written]
      rfl
    · apply ih
      rw [(setItem_outside i _).1, written]
      rfl

/-- The loop writes outside exactly where it comes to an ID that is too long or beyond the last
item. -/
theorem fill_outside (answers : DrmAnswers) {i : Nat} (within : i ≤ array.items.length)
    (entries : List DrmEntry) :
    (fill answers i entries array).2.outside = true ↔ array.outside = true ∨
      (∃ entry ∈ reached answers entries, 2 * drmMaxM3u8DrmUuidLen < entry.1.length) ∨
        array.items.length < i + (reached answers entries).length := by
  induction entries generalizing i array with
  | nil =>
    have inside : ¬array.items.length < i := by omega
    simp [fill, reached, inside]
  | cons entry rest ih =>
    have length := @writeUuid_length array i 0 entry.1
    rw [fill, reached]
    by_cases last : i = array.items.length
    · have escapes (change : DrmInfoItem → DrmInfoItem) :
          ((writeUuid i 0 entry.1 array).setItem i change).outside = true := by
        rw [(setItem_outside i change).1, length]
        simp [last]
      refine iff_of_true ?_ (Or.inr (Or.inr ?_))
      · split
        · exact escapes _
        · exact fill_escaped answers (i + 1) rest (escapes _)
      · split
        · simp [last]
        · rw [List.length_cons]
          omega
    · have before : i < array.items.length := by omega
      have writes := (writeUuid_outside before 0 entry.1).1
      have long : (entry.1 ≠ [] ∧ drmMaxM3u8DrmUuidLen < 0 + (entry.1.length + 1) / 2) ↔
          2 * drmMaxM3u8DrmUuidLen < entry.1.length := by
        rw [← List.length_pos_iff]
        omega
      rw [long] at writes
      have sets (change : DrmInfoItem → DrmInfoItem) :
          ((writeUuid i 0 entry.1 array).setItem i change).outside = true ↔
            array.outside = true ∨ 2 * drmMaxM3u8DrmUuidLen < entry.1.length := by
        have kept : ¬array.items.length ≤ i := by omega
        rw [(setItem_outside i change).1, length, Bool.or_eq_true, writes]
        simp [kept]
      split
      · rw [sets]
        have only : ¬array.items.length < i + 1 := by omega
        simp [only]
      · have shift : i + 1 + (reached answers rest).length =
            i + (entry :: reached answers rest).length := by
          rw [List.length_cons]
          omega
        rw [ih (by rw [(setItem_outside i _).2, length]; omega), sets,
          (setItem_outside i _).2, length, shift]
        simp [or_assoc]

theorem setUuid_at {before old : List (Option UInt8)} {first : Option UInt8}
    (items : array.items = done ++ { item with uuid := before ++ first :: old } :: rest)
    (early : before.length < drmMaxM3u8DrmUuidLen) (byte : UInt8) :
    array.setUuid done.length before.length byte =
      { array with items := done ++ { item with uuid := before ++ some byte :: old } :: rest } := by
  rw [setUuid, if_pos early, setItem_at items]
  simp

theorem writeUuid_items {before old : List (Option UInt8)} {id : List Char}
    (items : array.items = done ++ { item with uuid := before ++ old } :: rest)
    (whole : before.length + old.length = drmMaxM3u8DrmUuidLen)
    (room : (uuidBytes id).length ≤ old.length) :
    writeUuid done.length before.length id array = { array with items := done ++
          { item with
            uuid := before ++ ((uuidBytes id).map some ++ old.drop (uuidBytes id).length) } ::
              rest } := by
  induction id using uuidBytes.induct generalizing before old array with
  | case1 =>
    cases array with
    | mk all outside =>
      subst items
      simp [writeUuid, uuidBytes]
  | case2 char =>
    cases old with
    | nil => simp [uuidBytes] at room
    | cons first old =>
      simp only [List.length_cons] at whole
      rw [writeUuid, setUuid_at items (by omega)]
      simp [uuidBytes]
  | case3 first second tail ih =>
    cases old with
    | nil => simp [uuidBytes] at room
    | cons old others =>
      simp only [List.length_cons, uuidBytes] at whole room
      have next := @ih { array with items := done ++
        { item with
          uuid := (before ++ [some (toByte (strtol [first, second]))]) ++ others } :: rest }
        (before ++ [some (toByte (strtol [first, second]))]) others rfl
        (by simp only [List.length_append, List.length_singleton]; omega) (by omega)
      rw [writeUuid, setUuid_at items (by omega)]
      simpa [uuidBytes] using next

/-- An item as the loop leaves it for an entry that fits. -/
def filled (entry : DrmEntry) : DrmInfoItem where
  uuid := (uuidBytes entry.1).map some ++
    (List.replicate drmMaxM3u8DrmUuidLen none).drop (uuidBytes entry.1).length
  pssh := entry.2.map some ++ (List.replicate drmMaxM3u8DrmPsshLen none).drop entry.2.length
  psshLen := some entry.2.length

theorem fill_items (answers : DrmAnswers) {entries : List DrmEntry}
    (items : array.items = done ++ List.replicate entries.length ({} : DrmInfoItem))
    (short : ∀ entry ∈ entries, entry.1.length ≤ 2 * drmMaxM3u8DrmUuidLen)
    (taken : ∀ entry ∈ entries, psshRefused answers entry.2 = false) :
    fill answers done.length entries array =
      (true, { array with items := done ++ entries.map filled }) := by
  induction entries generalizing array done with
  | nil =>
    cases array with
    | mk all outside =>
      subst items
      rfl
  | cons entry rest ih =>
    have room : (uuidBytes entry.1).length ≤ drmMaxM3u8DrmUuidLen := by
      have bound := short entry List.mem_cons_self
      rw [length_uuidBytes]
      omega
    have started : array.items = done ++
        { ({} : DrmInfoItem) with uuid := [] ++ List.replicate drmMaxM3u8DrmUuidLen none } ::
          List.replicate rest.length ({} : DrmInfoItem) := by
      rw [items]
      rfl
    have written := writeUuid_items started (by simp) (by simpa using room)
    rw [List.length_nil] at written
    have next := @ih
      { array with
        items := (done ++ [filled entry]) ++ List.replicate rest.length ({} : DrmInfoItem) }
      (done ++ [filled entry]) rfl
      (fun entry inside => short entry (List.mem_cons_of_mem _ inside))
      (fun entry inside => taken entry (List.mem_cons_of_mem _ inside))
    rw [fill, if_neg (by simp [taken entry List.mem_cons_self]), written, setItem_at rfl]
    simpa [filled] using next

theorem fill_taken (answers : DrmAnswers) (i : Nat) (entries : List DrmEntry) :
    (fill answers i entries array).1 = true ↔
      ∀ entry ∈ entries, psshRefused answers entry.2 = false := by
  induction entries generalizing i array with
  | nil => simp [fill]
  | cons entry rest ih =>
    rw [fill, List.forall_mem_cons]
    cases refused : psshRefused answers entry.2 with
    | true => simp
    | false => simp [ih]

end

theorem reached_taken {answers : DrmAnswers} {entries : List DrmEntry}
    (taken : ∀ entry ∈ entries, psshRefused answers entry.2 = false) :
    reached answers entries = entries := by
  induction entries with
  | nil => rfl
  | cons entry rest ih =>
    rw [List.forall_mem_cons] at taken
    rw [reached, taken.1, ih taken.2]
    rfl

/-- An item filled for an ID that fits holds its entry exactly if the ID fills the array with the
bytes it denotes. -/
theorem filled_holds_iff (entry : DrmEntry) :
    (filled entry).Holds entry ↔ entry.1.length ≥ 2 * drmMaxM3u8DrmUuidLen ∧
      entry.1.length % 2 = 0 ∧ ∀ char ∈ entry.1, (hexDigit char).isSome := by
  rw [← hexBytes_isSome_iff]
  constructor
  · rintro ⟨⟨bytes, denoted, uuid⟩, -⟩
    refine ⟨?_, by rw [denoted]; rfl⟩
    have length := length_hexBytes denoted
    have lengths := congrArg List.length uuid
    simp only [filled, uuidBytes_of_hexBytes denoted, List.length_append, List.length_map,
      List.length_drop, List.length_replicate] at lengths
    omega
  · rintro ⟨enough, denotes⟩
    obtain ⟨bytes, denoted⟩ := Option.isSome_iff_exists.mp denotes
    have length := length_hexBytes denoted
    have none : (List.replicate drmMaxM3u8DrmUuidLen (none : Option UInt8)).drop bytes.length =
        [] := by
      apply List.drop_eq_nil_of_le
      rw [List.length_replicate]
      omega
    refine ⟨⟨bytes, denoted, ?_⟩, rfl, ?_⟩
    · simp [filled, uuidBytes_of_hexBytes denoted, none]
    · rw [filled, List.take_left' (by simp)]

end DrmInfoArray

section

open DrmInfoArray

variable {answers : DrmAnswers} {drmInfo : List DrmEntry}

/-- The array of a map that is taken up, after the loop over it. -/
def filledArray (answers : DrmAnswers) (drmInfo : List DrmEntry) : Bool × DrmInfoArray :=
  fill answers 0 drmInfo { items := List.replicate (drmInfo.length % 2 ^ 32) {} }

theorem drmInfoDecoded_iff_filled (few : ¬drmMaxDrmInfoCount < drmInfo.length % 2 ^ 32)
    (nonempty : ¬drmInfo.length % 2 ^ 32 = 0) (allocated : answers.allocated = true) :
    DrmInfoDecoded answers drmInfo ↔ (filledArray answers drmInfo).2.outside = false ∧
      ((filledArray answers drmInfo).1 = true →
        List.Forall₂ DrmInfoItem.Holds (filledArray answers drmInfo).2.items drmInfo) := by
  have outcome : handleDrmInfoUpdatedEvent answers drmInfo =
      { array := some (filledArray answers drmInfo).2
        reported := if (filledArray answers drmInfo).1 then
          some (filledArray answers drmInfo).2.items else none } := by
    rw [handleDrmInfoUpdatedEvent, if_neg (not_or.mpr ⟨few, nonempty⟩),
      if_neg (by simp [allocated]), ← filledArray]
    cases filledArray answers drmInfo with
    | mk ok array => cases ok <;> rfl
  constructor
  · rintro ⟨inside, exact_⟩
    rw [outcome] at inside exact_
    refine ⟨inside _ rfl, fun ok => ?_⟩
    exact exact_ _ (by simp [ok])
  · rintro ⟨inside, exact_⟩
    constructor
    · intro array made
      rw [outcome] at made
      rw [← Option.some.inj made]
      exact inside
    · intro items reported
      rw [outcome] at reported
      cases ok : (filledArray answers drmInfo).1 with
      | false => simp [ok] at reported
      | true =>
        simp only [ok, if_true, Option.mem_some_iff] at reported
        rw [← reported]
        exact exact_ ok

theorem filledArray_taken (within : (reached answers drmInfo).length ≤ drmInfo.length % 2 ^ 32)
    (short : ∀ entry ∈ reached answers drmInfo, entry.1.length ≤ 2 * drmMaxM3u8DrmUuidLen)
    (taken : ∀ entry ∈ drmInfo, psshRefused answers entry.2 = false) :
    filledArray answers drmInfo = (true, { items := drmInfo.map filled }) := by
  rw [reached_taken taken] at within short
  have count : drmInfo.length % 2 ^ 32 = drmInfo.length := by omega
  rw [filledArray, count]
  exact @fill_items { items := List.replicate drmInfo.length {} } [] answers drmInfo rfl short taken

theorem forall₂_filled (entries : List DrmEntry) :
    List.Forall₂ DrmInfoItem.Holds (entries.map filled) entries ↔
      ∀ entry ∈ entries, (filled entry).Holds entry := by
  rw [List.forall₂_map_left_iff, List.forall₂_same]

theorem drmInfoDecoded_of_nothing
    (nothing : handleDrmInfoUpdatedEvent answers drmInfo = {}) :
    DrmInfoDecoded answers drmInfo := by
  constructor <;> intro _ made <;> rw [nothing] at made <;> cases made

/-- The information is decoded in bounds and exactly just where it fits. -/
theorem drm_info_decoded_iff (answers : DrmAnswers) (drmInfo : List DrmEntry) :
    DrmInfoDecoded answers drmInfo ↔ DrmInfoFits answers drmInfo := by
  unfold DrmInfoFits
  by_cases many : drmMaxDrmInfoCount < drmInfo.length % 2 ^ 32
  · exact iff_of_true (drmInfoDecoded_of_nothing
      (by rw [handleDrmInfoUpdatedEvent, if_pos (Or.inl many)])) (Or.inl many)
  by_cases empty : drmInfo.length % 2 ^ 32 = 0
  · exact iff_of_true (drmInfoDecoded_of_nothing
      (by rw [handleDrmInfoUpdatedEvent, if_pos (Or.inr empty)])) (Or.inr (Or.inl empty))
  cases allocated : answers.allocated with
  | false =>
    exact iff_of_true (drmInfoDecoded_of_nothing
      (by rw [handleDrmInfoUpdatedEvent, if_neg (not_or.mpr ⟨many, empty⟩),
        if_pos (by simp [allocated])])) (Or.inr (Or.inr (Or.inl rfl)))
  | true =>
    have escapes : (filledArray answers drmInfo).2.outside = true ↔
        (∃ entry ∈ reached answers drmInfo, 2 * drmMaxM3u8DrmUuidLen < entry.1.length) ∨
          drmInfo.length % 2 ^ 32 < (reached answers drmInfo).length := by
      have outside := @fill_outside { items := List.replicate (drmInfo.length % 2 ^ 32) {} }
        answers 0 (Nat.zero_le _) drmInfo
      simpa [filledArray] using outside
    rw [drmInfoDecoded_iff_filled many empty allocated]
    simp only [many, empty, Bool.true_eq_false, false_or]
    constructor
    · rintro ⟨inside, exact_⟩
      rw [← Bool.not_eq_true, escapes, not_or, not_exists] at inside
      obtain ⟨notLong, notBeyond⟩ := inside
      have within := Nat.le_of_not_lt notBeyond
      have short (entry : DrmEntry) (there : entry ∈ reached answers drmInfo) :
          entry.1.length ≤ 2 * drmMaxM3u8DrmUuidLen :=
        Nat.le_of_not_lt (fun long => notLong entry ⟨there, long⟩)
      refine ⟨within, short, fun taken entry there => ?_⟩
      have all := filledArray_taken within short taken
      rw [all] at exact_
      have holds := (forall₂_filled drmInfo).mp (exact_ rfl) entry there
      obtain ⟨enough, -, digits⟩ := (filled_holds_iff entry).mp holds
      rw [reached_taken taken] at short
      exact ⟨Nat.le_antisymm (short entry there) enough, digits⟩
    · rintro ⟨within, short, digits⟩
      constructor
      · rw [← Bool.not_eq_true, escapes]
        rintro (⟨entry, there, long⟩ | beyond)
        · have bound := short entry there
          omega
        · omega
      · intro ok
        have taken := (fill_taken answers 0 drmInfo).mp ok
        rw [filledArray_taken within short taken]
        apply (forall₂_filled drmInfo).mpr
        intro entry there
        obtain ⟨length, all⟩ := digits taken entry there
        exact (filled_holds_iff entry).mpr ⟨Nat.le_of_eq length.symm, by rw [length]; decide, all⟩

end

/-- An ID one pair of digits too long is written beyond its array, and still reported. -/
theorem long_id_written_outside : ¬DrmInfoDecoded {} [(List.replicate 34 'a', [1, 2])] ∧
      (handleDrmInfoUpdatedEvent {} [(List.replicate 34 'a', [1, 2])]).reported.isSome := by
  refine ⟨fun decoded => ?_, by decide +kernel⟩
  have inside := decoded.inside _ (Option.mem_def.mpr rfl)
  revert inside
  decide +kernel

end PlayerFramework.HiPlayer
