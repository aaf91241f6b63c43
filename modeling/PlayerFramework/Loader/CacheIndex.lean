import PlayerFramework.Loader.StreamCacheManager

/-!
What `LoadIndex` builds from a file of entries, and the names of the entries.
-/

namespace PlayerFramework.StreamCache

open Paths FileContent

/-- The bytes of the entries, one behind the other. -/
def encodeAll (entries : List Entry) : Text := entries.flatMap encode

/-- Each entry under its key, with its true place and size. -/
def layout : Nat → List Entry → List (Text × CacheEntryInfo)
  | _, [] => []
  | offset, entry :: rest =>
    (entry.get .key, ⟨offset, (encode entry).length⟩) ::
      layout (offset + (encode entry).length) rest

/-- The access times of the entries, over those known before. -/
def accessTimes (known : List (Text × Text)) (entries : List Entry) : List (Text × Text) :=
  entries.foldl (fun times entry => setEntry times (entry.get .entry) (entry.get .lastAccessTime))
    known

@[simp] theorem encodeAll_cons (entry : Entry) (rest : List Entry) :
    encodeAll (entry :: rest) = encode entry ++ encodeAll rest := rfl

theorem encodeAll_append (first second : List Entry) :
    encodeAll (first ++ second) = encodeAll first ++ encodeAll second :=
  List.flatMap_append

theorem layout_append (offset : Nat) (first second : List Entry) : layout offset (first ++ second) =
      layout offset first ++ layout (offset + (encodeAll first).length) second := by
  induction first generalizing offset with
  | nil => rfl
  | cons entry rest ih =>
    rw [List.cons_append, layout, layout, ih, encodeAll_cons, List.length_append, Nat.add_assoc,
      List.cons_append]

variable {entries : List Entry} {entry : Text}

theorem layout_nil_iff {offset : Nat} : layout offset entries = [] ↔ entries = [] := by
  cases entries with
  | nil | cons entry rest => simp [layout]

theorem mem_layout {offset : Nat} {key : Text} {info : CacheEntryInfo}
    (member : (key, info) ∈ layout offset entries) :
    ∃ (early : List Entry) (entry : Entry) (late : List Entry),
      entries = early ++ entry :: late ∧ key = entry.get .key ∧
        info = ⟨offset + (encodeAll early).length, (encode entry).length⟩ := by
  induction entries generalizing offset with
  | nil => cases member
  | cons entry rest ih =>
    rcases List.mem_cons.mp member with here | there
    · cases here
      exact ⟨[], entry, rest, rfl, rfl, rfl⟩
    · obtain ⟨early, found, late, split, same, place⟩ := ih there
      refine ⟨entry :: early, found, late, by rw [split]; rfl, same, ?_⟩
      rw [place, encodeAll_cons, List.length_append, Nat.add_assoc]

theorem length_le_encodeAll (entries : List Entry) :
    entries.length ≤ (encodeAll entries).length := by
  induction entries with
  | nil => exact Nat.le_refl _
  | cons entry rest ih =>
    have header : headerSize ≤ (encode entry).length := by
      rw [length_encode]
      omega
    rw [encodeAll_cons, List.length_append, List.length_cons]
    rw [headerSize] at header
    omega

theorem loadEntries_entry {entry : Entry} (sound : entry.Sound) (before after : Text)
    (steps : Nat) (index : List (Text × CacheEntryInfo)) (entryIndex : List (Text × Text)) :
    loadEntries (before ++ (encode entry ++ after)) (before ++ (encode entry ++ after)).length
        (steps + 1) before.length index entryIndex =
      loadEntries (before ++ (encode entry ++ after)) (before ++ (encode entry ++ after)).length
        steps (before.length + (encode entry).length)
        (index ++ [(entry.get .key, ⟨before.length, (encode entry).length⟩)])
        (setEntry entryIndex (entry.get .entry) (entry.get .lastAccessTime)) := by
  have some : 0 < (texts entry).length := List.length_pos_of_ne_nil sound.some
  have whole : (before ++ (encode entry ++ after)).length =
      before.length + (headerSize + entry.length * fieldSize + (texts entry).length) +
        after.length := by
    rw [List.length_append, List.length_append, length_encode]
    omega
  have count := stored_fieldCount before after sound.few
  have total : headerSize + entry.length * fieldSize +
      textsLength (before ++ (encode entry ++ after)) (before.length + headerSize) entry.length =
        (encode entry).length := by
    rw [stored_textsLength before after sound.short, length_encode]
  have few := sound.few
  rw [loadEntries, if_neg (by omega), if_neg (by omega)]
  simp only [fieldCountAt, count]
  rw [if_neg (by omega), if_neg (by omega), total,
    stored_extractField before after sound.short, stored_extractField before after sound.short,
    stored_extractField before after sound.short]

theorem loadEntries_encodeAll (sound : ∀ entry ∈ entries, entry.Sound) (before : Text) {steps : Nat}
    (enough : entries.length ≤ steps) (index : List (Text × CacheEntryInfo))
    (entryIndex : List (Text × Text)) :
    loadEntries (before ++ encodeAll entries) (before ++ encodeAll entries).length steps
        before.length index entryIndex =
      (index ++ layout before.length entries, accessTimes entryIndex entries, false) := by
  induction entries generalizing before steps index entryIndex with
  | nil =>
    cases steps with
    | zero => simp [loadEntries, layout, accessTimes]
    | succ steps =>
      rw [loadEntries, if_pos (by simp [encodeAll])]
      simp [layout, accessTimes]
  | cons entry rest ih =>
    obtain ⟨fewer, rfl⟩ : ∃ fewer, steps = fewer + 1 := by
      rw [List.length_cons] at enough
      exact ⟨steps - 1, by omega⟩
    have onward := ih (fun other member => sound other (List.mem_cons_of_mem entry member))
      (before ++ encode entry) (Nat.le_of_succ_le_succ enough)
      (index ++ [(entry.get .key, ⟨before.length, (encode entry).length⟩)])
      (setEntry entryIndex (entry.get .entry) (entry.get .lastAccessTime))
    have place : (before ++ encode entry).length = before.length + (encode entry).length :=
      List.length_append
    rw [List.append_assoc, place] at onward
    rw [encodeAll_cons, loadEntries_entry (sound entry List.mem_cons_self), onward, layout,
      List.append_assoc, List.singleton_append]
    rfl

theorem loadEntries_file (sound : ∀ entry ∈ entries, entry.Sound) :
    loadEntries (encodeAll entries) (encodeAll entries).length (encodeAll entries).length 0 [] [] =
      (layout 0 entries, accessTimes [] entries, false) :=
  loadEntries_encodeAll sound [] (length_le_encodeAll entries) [] []

theorem mem_setEntry {times : List (Text × Text)} {time : Text} {pair : Text × Text}
    (member : pair ∈ setEntry times entry time) : pair.1 = entry ∨ pair ∈ times := by
  rcases List.mem_cons.mp member with here | there
  · exact .inl (by rw [here])
  · exact .inr (List.mem_of_mem_filter there)

theorem mem_accessTimes {known : List (Text × Text)} {pair : Text × Text}
    (member : pair ∈ accessTimes known entries) :
    pair ∈ known ∨ ∃ entry ∈ entries, pair.1 = entry.get .entry := by
  induction entries generalizing known with
  | nil => exact .inl member
  | cons entry rest ih =>
    rcases ih member with before | ⟨other, there, same⟩
    · rcases mem_setEntry before with here | earlier
      · exact .inr ⟨entry, List.mem_cons_self, here⟩
      · exact .inl earlier
    · exact .inr ⟨other, List.mem_cons_of_mem entry there, same⟩

/-- What the code makes its entries' names of. -/
def NameByte (byte : UInt8) : Prop := 48 ≤ byte.toNat ∧ byte.toNat ≤ 57 ∨ byte = underscore

structure Named (entry : Text) : Prop where
  some : entry ≠ []
  bytes : ∀ byte ∈ entry, NameByte byte

theorem decimal_named (value : Nat) : Named (decimal value) := by
  constructor
  · intro empty
    exact Nat.toDigits_ne_nil (List.map_eq_nil_iff.mp empty)
  intro byte member
  obtain ⟨digit, inside, rfl⟩ := List.mem_map.mp member
  have isDigit := Nat.isDigit_of_mem_toDigits (by decide) (by decide) inside
  rw [Char.isDigit, Bool.and_eq_true, decide_eq_true_eq, decide_eq_true_eq, ge_iff_le,
    UInt32.le_iff_toNat_le, UInt32.le_iff_toNat_le] at isDigit
  have low : 48 ≤ digit.toNat := isDigit.1
  have high : digit.toNat ≤ 57 := isDigit.2
  have same : (UInt8.ofNat digit.toNat).toNat = digit.toNat := by
    rw [UInt8.toNat_ofNat']
    omega
  exact .inl (by rw [same]; exact ⟨low, high⟩)

theorem Named.append_time {key time : Text} (named : Named key) (timed : Named time) :
    Named (key ++ underscore :: time) := by
  constructor
  · simp
  intro byte member
  rcases List.mem_append.mp member with first | second
  · exact named.bytes byte first
  · rcases List.mem_cons.mp second with here | later
    · exact .inr here
    · exact timed.bytes byte later

theorem Named.avoids (named : Named entry) {byte : UInt8} (outside : ¬ NameByte byte) :
    byte ∉ entry := by
  intro member
  exact outside (named.bytes byte member)

/-- A name of the code's own is a directory of its own. -/
theorem Named.apart (named : Named entry) : namesMappingFile entry = false := by
  have noSlash : slash ∉ entry := named.avoids (by simp [NameByte, slash, underscore])
  have noDot : dot ∉ entry := named.avoids (by simp [NameByte, dot, underscore])
  have noLetter : (99 : UInt8) ∉ entry := named.avoids (by simp [NameByte, underscore])
  have entered (names : List (List UInt8)) : enter names entry = names ++ [entry] := by
    rw [enter, if_neg, if_neg]
    · intro dots
      exact noDot (by rw [dots]; exact List.mem_cons_self)
    · rintro (empty | single)
      · exact named.some empty
      · exact noDot (by rw [single]; exact List.mem_cons_self)
  have below : resolve (cacheDir ++ slash :: entry) = resolve cacheDir ++ [entry] := by
    rw [resolve_append, pieces_of_clean noSlash named.some, List.foldl_cons, List.foldl_nil,
      entered]
  have mapping : resolve (cacheDir ++ slash :: cacheMappingFile) =
      resolve cacheDir ++ [cacheMappingFile] := by
    decide +kernel
  rw [namesMappingFile, below, mapping, decide_eq_false_iff_not]
  intro first
  have same : entry = cacheMappingFile := by simpa using first
  exact noLetter (by rw [same]; decide +kernel)

end PlayerFramework.StreamCache
