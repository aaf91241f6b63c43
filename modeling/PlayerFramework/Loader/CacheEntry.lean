import PlayerFramework.FileContent

/-!
The entries of the mapping file of the loader's cache (`cache_manager.cpp`): a header, a table of
field headers, and the texts of the fields.
-/

namespace PlayerFramework.StreamCache

open Cursor FileContent

abbrev Text := List UInt8

inductive CacheFieldId
  | key
  | entry
  | type
  | randomAccess
  | size
  | lastAccessTime
  | requestUrl
deriving DecidableEq

def CacheFieldId.value : CacheFieldId → Nat
  | .key => 1
  | .entry => 2
  | .type => 3
  | .randomAccess => 4
  | .size => 5
  | .lastAccessTime => 6
  | .requestUrl => 7

def version : Nat := 1

def filedCount : Nat := 7

def maxFiledCount : Nat := 7

/-- The sizes of `CacheEntryHeader` and `CacheField`. -/
def headerSize : Nat := 8

def fieldSize : Nat := 8

structure CacheEntryInfo where
  offset : Nat
  cacheEntrySize : Nat
deriving DecidableEq

/-- The loop over the field headers that `ExtractField` and `UpdateLastAccessTime` share: the
place and the length of the first text under the id. -/
def findField (content : Text) (target : Nat) (fieldAt textAt : Nat) : Nat → Option (Nat × Nat)
  | 0 => none
  | fields + 1 =>
    let length := number content (fieldAt + 4)
    if number content fieldAt = target then some (textAt, length)
    else findField content target (fieldAt + fieldSize) (textAt + length) fields

def findFieldOf (content : Text) (start fieldCount : Nat) (id : CacheFieldId) :
    Option (Nat × Nat) :=
  findField content id.value (start + headerSize) (start + headerSize + fieldCount * fieldSize)
    fieldCount

def extractField (content : Text) (start fieldCount : Nat) (id : CacheFieldId) : Text :=
  match findFieldOf content start fieldCount id with
  | none => []
  | some (place, length) => piece content place length

/-- The lengths of the texts, added up. -/
def textsLength (content : Text) (fieldAt : Nat) : Nat → Nat
  | 0 => 0
  | fields + 1 =>
    number content (fieldAt + 4) + textsLength content (fieldAt + fieldSize) fields

/-- The loop of `InsertMapping`; `copies` tells for which lengths `memcpy_s` succeeds. -/
def insertFields (copies : Nat → Bool) :
    List (CacheFieldId × Text) → Nat → Nat → Text → Text
  | [], _, _, content => content
  | (id, text) :: rest, fieldAt, textAt, content =>
    let headed := overwrite content fieldAt (littleEndian 4 id.value ++
      littleEndian 4 text.length)
    if copies text.length then
      insertFields copies rest (fieldAt + fieldSize) (textAt + text.length)
        (overwrite headed textAt text)
    else headed

def insertMapping (copies : Nat → Bool) (fields : List (CacheFieldId × Text)) (start : Nat)
    (content : Text) : Text :=
  insertFields copies fields (start + headerSize) (start + headerSize + filedCount * fieldSize)
    (overwrite content start (littleEndian 4 version ++ littleEndian 4 filedCount))

/-- What a stored entry is: its fields in order. -/
abbrev Entry := List (CacheFieldId × Text)

def fieldHeader (field : CacheFieldId × Text) : Text :=
  littleEndian 4 field.1.value ++ littleEndian 4 field.2.length

def fieldHeaders (entry : Entry) : Text := entry.flatMap fieldHeader

def texts (entry : Entry) : Text := entry.flatMap Prod.snd

def encode (entry : Entry) : Text :=
  littleEndian 4 version ++ littleEndian 4 entry.length ++ fieldHeaders entry ++ texts entry

/-- The text of the first field under the id, none if there is no such field. -/
def Entry.get (entry : Entry) (id : CacheFieldId) : Text :=
  match entry.find? fun field => field.1 = id with
  | none => []
  | some field => field.2

/-- Entries that `LoadIndex` accepts: few enough fields, lengths of 32 bits, and some text. -/
structure Entry.Sound (entry : Entry) : Prop where
  few : entry.length ≤ maxFiledCount
  short : ∀ field ∈ entry, field.2.length < 2 ^ 32
  some : texts entry ≠ []

@[simp] theorem fieldHeaders_cons (field : CacheFieldId × Text) (rest : Entry) :
    fieldHeaders (field :: rest) = fieldHeader field ++ fieldHeaders rest := rfl

@[simp] theorem texts_cons (field : CacheFieldId × Text) (rest : Entry) :
    texts (field :: rest) = field.2 ++ texts rest := rfl

@[simp] theorem length_fieldHeader (field : CacheFieldId × Text) :
    (fieldHeader field).length = fieldSize := by
  rw [fieldHeader, List.length_append, length_littleEndian, length_littleEndian, fieldSize]

@[simp] theorem length_fieldHeaders (entry : Entry) :
    (fieldHeaders entry).length = entry.length * fieldSize := by
  induction entry with
  | nil => rw [fieldHeaders, List.flatMap_nil, List.length_nil, List.length_nil, Nat.zero_mul]
  | cons field rest ih =>
    rw [fieldHeaders_cons, List.length_append, length_fieldHeader, ih, List.length_cons,
      Nat.succ_mul, Nat.add_comm]

theorem length_encode (entry : Entry) :
    (encode entry).length = headerSize + entry.length * fieldSize + (texts entry).length := by
  rw [encode, List.length_append, List.length_append, List.length_append, length_littleEndian,
    length_littleEndian, length_fieldHeaders]
  rfl

theorem CacheFieldId.value_inj {first second : CacheFieldId} :
    first.value = second.value ↔ first = second := by
  cases first <;> cases second <;> decide

theorem CacheFieldId.value_fits (id : CacheFieldId) : id.value < 2 ^ 32 := by
  cases id <;> decide

theorem number_fieldHeader (before : Text) {field : CacheFieldId × Text}
    (short : field.2.length < 2 ^ 32) (after : Text) :
    number (before ++ (fieldHeader field ++ after)) before.length = field.1.value ∧
      number (before ++ (fieldHeader field ++ after)) (before.length + 4) = field.2.length := by
  constructor
  · exact number_append before field.1.value_fits _
  · have place : before.length + 4 = (before ++ littleEndian 4 field.1.value).length := by
      rw [List.length_append, length_littleEndian]
    rw [place, fieldHeader, List.append_assoc, ← List.append_assoc before]
    exact number_append _ short after

/-- Where the text under the id stands, when the texts start at `textAt`. -/
def locate (id : CacheFieldId) : Nat → Entry → Option (Nat × Nat)
  | _, [] => none
  | textAt, field :: rest =>
    if field.1 = id then some (textAt, field.2.length)
    else locate id (textAt + field.2.length) rest

variable {entry : Entry} {id : CacheFieldId}

theorem findField_headers (id : CacheFieldId) (before : Text)
    (short : ∀ field ∈ entry, field.2.length < 2 ^ 32) (after : Text) (textAt : Nat) :
    findField (before ++ (fieldHeaders entry ++ after)) id.value before.length textAt
      entry.length = locate id textAt entry := by
  induction entry generalizing before textAt with
  | nil => rfl
  | cons field rest ih =>
    have numbers := number_fieldHeader before (short field List.mem_cons_self)
      (fieldHeaders rest ++ after)
    have next := ih (before ++ fieldHeader field)
      (fun other member => short other (List.mem_cons_of_mem field member))
      (textAt + field.2.length)
    rw [List.length_append, length_fieldHeader, List.append_assoc] at next
    rw [List.length_cons, findField, fieldHeaders_cons, List.append_assoc, numbers.1, numbers.2,
      next, locate]
    simp [CacheFieldId.value_inj]

theorem textsLength_headers (before : Text) (short : ∀ field ∈ entry, field.2.length < 2 ^ 32)
    (after : Text) :
    textsLength (before ++ (fieldHeaders entry ++ after)) before.length entry.length =
      (texts entry).length := by
  induction entry generalizing before with
  | nil => rfl
  | cons field rest ih =>
    have numbers := number_fieldHeader before (short field List.mem_cons_self)
      (fieldHeaders rest ++ after)
    have next := ih (before ++ fieldHeader field)
      (fun other member => short other (List.mem_cons_of_mem field member))
    rw [List.length_append, length_fieldHeader, List.append_assoc] at next
    rw [List.length_cons, textsLength, fieldHeaders_cons, List.append_assoc, numbers.2, next,
      texts_cons, List.length_append]

theorem locate_split {textAt place length : Nat}
    (located : locate id textAt entry = some (place, length)) :
    ∃ (early : Entry) (text : Text) (late : Entry), entry = early ++ (id, text) :: late ∧
      (∀ field ∈ early, field.1 ≠ id) ∧ place = textAt + (texts early).length ∧
        length = text.length := by
  induction entry generalizing textAt with
  | nil => cases located
  | cons field rest ih =>
    rw [locate] at located
    by_cases here : field.1 = id
    · rw [if_pos here] at located
      cases located
      exact ⟨[], field.2, rest, by rw [← here]; rfl, by simp, by simp [texts], rfl⟩
    · rw [if_neg here] at located
      obtain ⟨early, text, late, split, others, placed, same⟩ := ih located
      refine ⟨field :: early, text, late, by rw [split]; rfl, ?_, ?_, same⟩
      · intro other member
        rcases List.mem_cons.mp member with rfl | inside
        · exact here
        · exact others other inside
      · rw [placed, texts_cons, List.length_append, Nat.add_assoc]

theorem locate_none {textAt : Nat} (absent : locate id textAt entry = none) :
    ∀ field ∈ entry, field.1 ≠ id := by
  induction entry generalizing textAt with
  | nil => simp
  | cons field rest ih =>
    rw [locate] at absent
    by_cases here : field.1 = id
    · rw [if_pos here] at absent
      cases absent
    rw [if_neg here] at absent
    intro other member
    rcases List.mem_cons.mp member with rfl | inside
    · exact here
    · exact ih absent other inside

theorem get_split {early : Entry} (others : ∀ field ∈ early, field.1 ≠ id) (text : Text)
    (late : Entry) : Entry.get (early ++ (id, text) :: late) id = text := by
  have first : (early ++ (id, text) :: late).find? (fun field => decide (field.1 = id)) =
      some (id, text) := by
    rw [List.find?_append, List.find?_eq_none.mpr (by simpa using others), Option.none_or,
      List.find?_cons_of_pos (by simp)]
  rw [Entry.get, first]

theorem get_absent (absent : ∀ field ∈ entry, field.1 ≠ id) :
    entry.get id = [] := by
  rw [Entry.get, List.find?_eq_none.mpr (by simpa using absent)]

theorem texts_split (early : Entry) (id : CacheFieldId) (text : Text) (late : Entry) :
    texts (early ++ (id, text) :: late) = texts early ++ (text ++ texts late) := by
  rw [texts, List.flatMap_append]
  rfl

section Stored

variable (before : Text) {entry : Entry} (after : Text)

theorem stored_parts : before ++ (encode entry ++ after) =
    before ++ littleEndian 4 version ++ littleEndian 4 entry.length ++
      (fieldHeaders entry ++ (texts entry ++ after)) := by
  simp [encode]

theorem stored_fieldCount (few : entry.length ≤ maxFiledCount) :
    number (before ++ (encode entry ++ after)) (before.length + 4) = entry.length := by
  have place : before.length + 4 = (before ++ littleEndian 4 version).length := by
    rw [List.length_append, length_littleEndian]
  have fits : entry.length < 2 ^ 32 := by
    rw [maxFiledCount] at few
    omega
  rw [place, stored_parts, List.append_assoc (before ++ littleEndian 4 version)]
  exact number_append _ fits _

theorem stored_headersPlace : before.length + headerSize =
    (before ++ littleEndian 4 version ++ littleEndian 4 entry.length).length := by
  rw [List.length_append, List.length_append]
  rfl

theorem stored_findField (short : ∀ field ∈ entry, field.2.length < 2 ^ 32)
    (id : CacheFieldId) :
    findFieldOf (before ++ (encode entry ++ after)) before.length entry.length id =
      locate id (before.length + headerSize + entry.length * fieldSize) entry := by
  rw [findFieldOf, stored_parts, @stored_headersPlace before entry]
  exact findField_headers id _ short _ _

theorem stored_textsLength (short : ∀ field ∈ entry, field.2.length < 2 ^ 32) :
    textsLength (before ++ (encode entry ++ after)) (before.length + headerSize) entry.length =
      (texts entry).length := by
  rw [stored_parts, @stored_headersPlace before entry]
  exact textsLength_headers _ short _

variable {id : CacheFieldId}

theorem stored_field {place length : Nat}
    (located : locate id (before.length + headerSize + entry.length * fieldSize) entry =
      some (place, length)) :
    ∃ (early : Entry) (text : Text) (late : Entry), entry = early ++ (id, text) :: late ∧
      (∀ field ∈ early, field.1 ≠ id) ∧ length = text.length ∧
        place = (before ++ littleEndian 4 version ++ littleEndian 4 entry.length ++
          fieldHeaders entry ++ texts early).length ∧
        before ++ (encode entry ++ after) =
          (before ++ littleEndian 4 version ++ littleEndian 4 entry.length ++
            fieldHeaders entry ++ texts early) ++ (text ++ (texts late ++ after)) := by
  obtain ⟨early, text, late, split, others, placed, same⟩ := locate_split located
  refine ⟨early, text, late, split, others, same, ?_, ?_⟩
  · rw [placed, @stored_headersPlace before entry]
    simp only [List.length_append, length_fieldHeaders]
  · have together : texts entry = texts early ++ (text ++ texts late) := by
      rw [split, texts_split]
    simp [encode, together]

theorem stored_extractField (short : ∀ field ∈ entry, field.2.length < 2 ^ 32)
    (id : CacheFieldId) :
    extractField (before ++ (encode entry ++ after)) before.length entry.length id =
      entry.get id := by
  rw [extractField, stored_findField before after short]
  cases located : locate id (before.length + headerSize + entry.length * fieldSize) entry with
  | none => exact (get_absent (locate_none located)).symm
  | some found =>
    obtain ⟨place, length⟩ := found
    obtain ⟨early, text, late, split, others, same, placed, parts⟩ :=
      stored_field before after located
    calc
      piece (before ++ (encode entry ++ after)) place length = text := by
        rw [parts, placed, same]
        exact piece_append _ _ _
      _ = entry.get id := by
        rw [split]
        exact (get_split others text late).symm

/-- The first text under the id exchanged. -/
def Entry.update (id : CacheFieldId) (text : Text) : Entry → Entry
  | [] => []
  | field :: rest =>
    if field.1 = id then (id, text) :: rest else field :: Entry.update id text rest

theorem update_split {early : Entry} (others : ∀ field ∈ early, field.1 ≠ id) (old text : Text)
    (late : Entry) :
    Entry.update id text (early ++ (id, old) :: late) = early ++ (id, text) :: late := by
  induction early with
  | nil => rw [List.nil_append, Entry.update, if_pos rfl, List.nil_append]
  | cons field rest ih =>
    have other : field.1 ≠ id := others field List.mem_cons_self
    rw [List.cons_append, Entry.update, if_neg other,
      ih fun field member => others field (List.mem_cons_of_mem _ member), List.cons_append]

theorem fieldHeaders_split (early : Entry) (id : CacheFieldId) {old text : Text}
    (same : text.length = old.length) (late : Entry) :
    fieldHeaders (early ++ (id, text) :: late) = fieldHeaders (early ++ (id, old) :: late) := by
  simp [fieldHeaders, fieldHeader, same]

theorem stored_overwrite {place length : Nat} {text : Text}
    (located : locate id (before.length + headerSize + entry.length * fieldSize) entry =
      some (place, length)) (same : text.length = length) :
    overwrite (before ++ (encode entry ++ after)) place text =
      before ++ (encode (entry.update id text) ++ after) := by
  obtain ⟨early, old, late, split, others, oldLength, placed, parts⟩ :=
    stored_field before after located
  have equal : text.length = old.length := same.trans oldLength
  have updated : entry.update id text = early ++ (id, text) :: late := by
    rw [split, update_split others]
  rw [parts, placed, overwrite_append _ equal, updated, split]
  simp [encode, fieldHeaders_split early id equal late, texts_split]

end Stored

/-- Every text is copied; the last one may be empty instead. -/
def Copied (copies : Nat → Bool) : Entry → Prop
  | [] => True
  | [field] => copies field.2.length = true ∨ field.2 = []
  | field :: rest => copies field.2.length = true ∧ Copied copies rest

variable {copies : Nat → Bool}

theorem copied_cons {field : CacheFieldId × Text} {rest : Entry}
    (copied : Copied copies (field :: rest)) :
    (copies field.2.length = true ∨ field.2 = [] ∧ rest = []) ∧ Copied copies rest := by
  cases rest with
  | nil =>
    rcases copied with done | empty
    · exact ⟨.inl done, trivial⟩
    · exact ⟨.inr ⟨empty, rfl⟩, trivial⟩
  | cons other others => exact ⟨.inl copied.1, copied.2⟩

/-- The loop writes the field headers into their place and the texts into theirs; `middle` are
the texts already written. -/
theorem insertFields_parts (before middle after : Text) {entry : Entry}
    (copied : Copied copies entry) {headers rest : Text}
    (headersLength : headers.length = entry.length * fieldSize)
    (restLength : rest.length = (texts entry).length) :
    insertFields copies entry before.length (before ++ (headers ++ middle)).length
      (before ++ (headers ++ (middle ++ (rest ++ after)))) =
        before ++ (fieldHeaders entry ++ (middle ++ (texts entry ++ after))) := by
  induction entry generalizing before middle headers rest with
  | nil =>
    have noHeaders : headers = [] := List.length_eq_zero_iff.mp (by simpa using headersLength)
    have noRest : rest = [] := List.length_eq_zero_iff.mp (by simpa [texts] using restLength)
    rw [noHeaders, noRest]
    rfl
  | cons field others ih =>
    obtain ⟨copiedField, copiedOthers⟩ := copied_cons copied
    rw [List.length_cons, Nat.succ_mul] at headersLength
    rw [texts_cons, List.length_append] at restLength
    obtain ⟨first, later, rfl, firstLength⟩ : ∃ first later, headers = first ++ later ∧
        first.length = fieldSize :=
      ⟨headers.take fieldSize, headers.drop fieldSize, (List.take_append_drop _ _).symm,
        by rw [List.length_take]; omega⟩
    obtain ⟨place, places, rfl, placeLength⟩ : ∃ place places, rest = place ++ places ∧
        place.length = field.2.length :=
      ⟨rest.take field.2.length, rest.drop field.2.length, (List.take_append_drop _ _).symm,
        by rw [List.length_take]; omega⟩
    rw [List.length_append] at headersLength restLength
    have headed : overwrite (before ++ (first ++ later ++ (middle ++ (place ++ places ++ after))))
        before.length (fieldHeader field) =
        before ++ (fieldHeader field ++ (later ++ (middle ++ (place ++ (places ++ after))))) := by
      have written := overwrite_append before
        ((length_fieldHeader field).trans firstLength.symm)
        (later ++ (middle ++ (place ++ (places ++ after))))
      simpa only [List.append_assoc] using written
    rw [insertFields, ← fieldHeader, headed]
    split
    · have copy : overwrite (before ++ (fieldHeader field ++ (later ++ (middle ++
          (place ++ (places ++ after)))))) (before ++ (first ++ later ++ middle)).length field.2 =
          (before ++ fieldHeader field) ++ (later ++ ((middle ++ field.2) ++
            (places ++ after))) := by
        have written := overwrite_append (before ++ (fieldHeader field ++ (later ++ middle)))
          placeLength.symm (places ++ after)
        have same : (before ++ (fieldHeader field ++ (later ++ middle))).length =
            (before ++ (first ++ later ++ middle)).length := by
          simp only [List.length_append, length_fieldHeader, firstLength]
          omega
        rw [same] at written
        simpa only [List.append_assoc] using written
      have onward := @ih (before ++ fieldHeader field) (middle ++ field.2) copiedOthers
        later places (by omega) (by omega)
      have fieldPlace : (before ++ fieldHeader field).length = before.length + fieldSize := by
        rw [List.length_append, length_fieldHeader]
      have textPlace : ((before ++ fieldHeader field) ++ (later ++ (middle ++ field.2))).length =
          (before ++ (first ++ later ++ middle)).length + field.2.length := by
        simp only [List.length_append, length_fieldHeader, firstLength]
        omega
      rw [fieldPlace, textPlace] at onward
      rw [copy, onward]
      simp
    · rename_i failed
      obtain ⟨empty, last⟩ := copiedField.resolve_left failed
      have noLater : later = [] := List.length_eq_zero_iff.mp (by
        rw [last, List.length_nil] at headersLength
        omega)
      have noPlace : place = [] := List.length_eq_zero_iff.mp (by rw [placeLength, empty]; rfl)
      have noPlaces : places = [] := List.length_eq_zero_iff.mp (by
        rw [last, texts, List.flatMap_nil, List.length_nil] at restLength
        omega)
      rw [noLater, noPlace, noPlaces, last, fieldHeaders_cons, texts_cons, empty]
      simp [fieldHeaders, texts]

theorem insertMapping_encode (before after : Text) {entry : Entry} (copied : Copied copies entry)
    (count : entry.length = filedCount) {old : Text} (room : old.length = (encode entry).length) :
    insertMapping copies entry before.length (before ++ (old ++ after)) =
      before ++ (encode entry ++ after) := by
  rw [length_encode] at room
  obtain ⟨header, headers, rest, rfl, headerLength, headersLength, restLength⟩ :
      ∃ header headers rest, old = header ++ (headers ++ rest) ∧ header.length = headerSize ∧
        headers.length = entry.length * fieldSize ∧ rest.length = (texts entry).length := by
    refine ⟨old.take headerSize, (old.drop headerSize).take (entry.length * fieldSize),
      (old.drop headerSize).drop (entry.length * fieldSize), ?_, ?_, ?_, ?_⟩
    · rw [List.take_append_drop, List.take_append_drop]
    · rw [List.length_take]
      omega
    · rw [List.length_take, List.length_drop]
      omega
    · rw [List.length_drop, List.length_drop]
      omega
  have headed := @overwrite_append before header
    (littleEndian 4 version ++ littleEndian 4 filedCount)
    (by rw [List.length_append, length_littleEndian, length_littleEndian, headerLength]; rfl)
    (headers ++ (rest ++ after))
  have inserted := insertFields_parts (before ++ (littleEndian 4 version ++
    littleEndian 4 filedCount)) [] after copied headersLength restLength
  have fieldPlace : (before ++ (littleEndian 4 version ++ littleEndian 4 filedCount)).length =
      before.length + headerSize := by
    rw [List.length_append]
    rfl
  have textPlace : (before ++ (littleEndian 4 version ++ littleEndian 4 filedCount) ++
      (headers ++ [])).length = before.length + headerSize + filedCount * fieldSize := by
    rw [List.append_nil, List.length_append, fieldPlace, headersLength, count]
  rw [fieldPlace, textPlace] at inserted
  have parts : before ++ (header ++ (headers ++ rest) ++ after) =
      before ++ (header ++ (headers ++ (rest ++ after))) := by
    simp
  rw [insertMapping, parts, headed]
  simp only [List.append_assoc, List.nil_append] at inserted ⊢
  rw [inserted]
  simp [encode, count]

end PlayerFramework.StreamCache
