import PlayerFramework.Utils.StrToInt

/-!
`UriHelper` (`uri_helper.cpp`): how the text of a URI becomes a descriptor with an offset and a
size, over what the descriptors of the process refer to.
-/

namespace PlayerFramework.Utils

/-- What the descriptors of the process answer: the size `fstat64` gives for a number that `fcntl`
knows, and the number that `dup` would give. -/
structure Descriptors where
  fileSize : Int → Option Int
  dup : Int → Option Int
  /-- A duplicate refers to the same file. -/
  dup_same : ∀ fd new, dup fd = some new → fileSize new = fileSize fd
  open_range : ∀ fd size, fileSize fd = some size → 0 ≤ fd ∧ fd ≤ intMax
  size_range : ∀ fd size, fileSize fd = some size → 0 ≤ size ∧ size ≤ llongMax

inductive UriType where
  | file
  | fd
  | http
  | unknown
deriving DecidableEq

structure UriHelper where
  formattedUri : List Char := []
  type : UriType := .file
  fd : Int := -1
  offset : Int := 0
  size : Int := 0
deriving DecidableEq

/-- What a URI of descriptors says; `duplicated` is the form with an offset and a size. -/
structure FdParam where
  fd : Int
  duplicated : Bool
  offset : Int := 0
  size : Int := 0
deriving DecidableEq

def delim1Key : List Char := ['?', 'o', 'f', 'f', 's', 'e', 't', '=']
def delim2Key : List Char := ['&', 's', 'i', 'z', 'e', '=']

/-- The difference of two lengths, which wraps around below zero. -/
def sizeSub (minuend subtrahend : Nat) : Nat :=
  if subtrahend ≤ minuend then minuend - subtrahend else 2 ^ 64 - (subtrahend - minuend)

/-- `ParseFdUri` up to where it duplicates the descriptor; where it fails, the offset it has set
by then. -/
def parseNumbers (uri : List Char) : Except Int FdParam :=
  match uri.findIdx? (· == '?'), uri.findIdx? (· == '&') with
  | none, none =>
    match strToInt intMin intMax uri with
    | none => .error 0
    | some fd => .ok { fd, duplicated := false }
  | some delim1, some delim2 =>
    let length := sizeSub (sizeSub delim2 delim1) delim1Key.length
    match strToInt intMin intMax (uri.take delim1) with
    | none => .error 0
    | some fd =>
      if ¬(delim1 + delim1Key.length < uri.length ∧ 0 < length) then .error 0
      else
        match strToInt llongMin llongMax ((uri.drop (delim1 + delim1Key.length)).take length) with
        | none => .error 0
        | some offset =>
          if ¬(delim2 + delim2Key.length < uri.length) then .error offset
          else
            match strToInt llongMin llongMax (uri.drop (delim2 + delim2Key.length)) with
            | none => .error offset
            | some size => .ok { fd, duplicated := true, offset, size }
  | _, _ => .error 0

def correctOffset (fdSize offset : Int) : Int := if offset < 0 ∨ fdSize < offset then 0 else offset

def correctSize (fdSize offset size : Int) : Int :=
  if size ≤ 0 ∨ fdSize - offset < size then fdSize - offset else size

def fdScheme : List Char := ['f', 'd', ':', '/', '/']

def formatFdUri (fd offset size : Int) : List Char :=
  fdScheme ++ (toText fd ++ delim1Key ++ toText offset ++ delim2Key ++ toText size)

def correctFdParam (files : Descriptors) (helper : UriHelper) : UriHelper × Bool :=
  match files.fileSize helper.fd with
  | none => (helper, false)
  | some fdSize =>
    let offset := correctOffset fdSize helper.offset
    let size := correctSize fdSize offset helper.size
    ({ helper with offset, size, formattedUri := formatFdUri helper.fd offset size }, true)

/-- The descriptor that a helper takes: a duplicate, or the number itself. -/
def takenFd (files : Descriptors) (param : FdParam) : Int :=
  if param.duplicated then (files.dup param.fd).getD (-1) else param.fd

def parseFdUri (files : Descriptors) (uri : List Char) : UriHelper × Bool :=
  match parseNumbers uri with
  | .error offset => ({ offset }, false)
  | .ok param =>
    correctFdParam files
      { fd := takenFd files param, offset := param.offset, size := param.size }

/-- The text without the blanks around it. -/
def trimBlanks (text : List Char) : List Char :=
  (text.dropWhile (· == ' ')).rdropWhile (· == ' ')

/-- What stands before and behind the first `://`. -/
def splitScheme : List Char → Option (List Char × List Char)
  | [] => none
  | first :: rest =>
    if [':', '/', '/'].isPrefixOf (first :: rest) then some ([], (first :: rest).drop 3)
    else (splitScheme rest).map fun parts => (first :: parts.1, parts.2)

def splitUriHeadAndBody (str : List Char) : List Char × List Char :=
  let noSpaceStr := trimBlanks str
  (splitScheme noSpaceStr).getD ([], noSpaceStr)

/-- The C string that `path.data()` points to: the part of the URI from where the body begins, the
blanks behind it included. -/
def pathData (uri body : List Char) : List Char :=
  ((uri.dropWhile (· == ' ')).drop ((trimBlanks uri).length - body.length)).takeWhile
    (· != '\x00')

def pathMax : Nat := 4096

/-- The checks are made on the body, `realpath` gets the untrimmed text. -/
def pathToRealFileUrl (realFileUrl : List Char → Option (List Char)) (uri body : List Char) :
    Option (List Char) :=
  if body = [] ∨ pathMax ≤ body.length then none else realFileUrl (pathData uri body)

/-- The constructor from a URI; `realFileUrl` answers for `realpath` and `access`. -/
def formatMeForUri (files : Descriptors) (realFileUrl : List Char → Option (List Char))
    (uri : List Char) : UriHelper :=
  if uri = [] then {}
  else
    let parts := splitUriHeadAndBody uri
    if parts.1 = [] ∨ parts.1 = ['f', 'i', 'l', 'e'] then
      match pathToRealFileUrl realFileUrl uri parts.2 with
      | some formattedUri => { formattedUri }
      | none => { formattedUri := parts.2, type := .unknown }
    else if parts.1 = ['f', 'd'] then
      let parsed := parseFdUri files parts.2
      if parsed.2 then { parsed.1 with type := .fd }
      else { parsed.1 with type := .unknown, formattedUri := [] }
    else if parts.1 = ['h', 't', 't', 'p'] then
      { formattedUri := parts.1 ++ parts.2, type := .http }
    else {}

inductive FdUri : List Char → FdParam → Prop
  | short {fdText : List Char} {fd : Int} (number : DecimalInt fdText fd)
      (range : intMin ≤ fd ∧ fd ≤ intMax) : FdUri fdText { fd, duplicated := false }
  | long {fdText offsetText sizeText : List Char} {fd offset size : Int}
      (number : DecimalInt fdText fd) (range : intMin ≤ fd ∧ fd ≤ intMax)
      (offsetNumber : DecimalInt offsetText offset)
      (offsetRange : llongMin ≤ offset ∧ offset ≤ llongMax)
      (sizeNumber : DecimalInt sizeText size) (sizeRange : llongMin ≤ size ∧ size ≤ llongMax) :
      FdUri (fdText ++ delim1Key ++ offsetText ++ delim2Key ++ sizeText)
        { fd, duplicated := true, offset, size }

/-- The size of the file behind the descriptor that a helper takes, if it can be queried. -/
def query (files : Descriptors) (param : FdParam) : Option Int :=
  files.fileSize (takenFd files param)

/-- Where there are both delimiters, the names of the keys stand behind the first of each; and
there is no NUL. -/
def WellKeyed (body : List Char) : Prop :=
  '\x00' ∉ body ∧
    ('?' ∈ body → '&' ∈ body →
      delim1Key <+: body.dropWhile (· != '?') ∧ delim2Key <+: body.dropWhile (· != '&'))

section

theorem sizeSub_of_le {minuend subtrahend : Nat} (below : subtrahend ≤ minuend) :
    sizeSub minuend subtrahend = minuend - subtrahend := by
  rw [sizeSub, if_pos below]

variable {separator : Char} {text body : List Char} {param : FdParam} {fdSize offset : Int}

theorem findIdx?_append (absent : separator ∉ text) (rest : List Char) :
    (text ++ separator :: rest).findIdx? (· == separator) = some text.length := by
  induction text with
  | nil => simp [List.findIdx?_cons]
  | cons char tail ih =>
    have differs : (char == separator) = false := by
      have other : char ≠ separator := by
        intro same
        simp [same] at absent
      simpa using other
    have later := ih fun inside => absent (List.mem_cons_of_mem char inside)
    simp [List.findIdx?_cons, differs, later]

theorem findIdx?_absent (absent : separator ∉ text) :
    text.findIdx? (· == separator) = none := by
  rw [List.findIdx?_eq_none_iff]
  intro char member
  have other : char ≠ separator := fun same => absent (same ▸ member)
  simpa using other

/-- `parseNumbers` on the three numbers that stand around the keys. -/
def keyedNumbers (fdText offsetText sizeText : List Char) : Except Int FdParam :=
  match strToInt intMin intMax fdText with
  | none => .error 0
  | some fd =>
    match strToInt llongMin llongMax offsetText with
    | none => .error 0
    | some offset =>
      match strToInt llongMin llongMax sizeText with
      | none => .error offset
      | some size => .ok { fd, duplicated := true, offset, size }

theorem parseNumbers_keyed {fdText offsetText : List Char} (sizeText : List Char)
    (question : '?' ∉ fdText) (ampersand : '&' ∉ fdText) (later : '&' ∉ offsetText) :
    parseNumbers (fdText ++ delim1Key ++ offsetText ++ delim2Key ++ sizeText) =
      keyedNumbers fdText offsetText sizeText := by
  have delim1 : (fdText ++ delim1Key ++ offsetText ++ delim2Key ++ sizeText).findIdx?
      (· == '?') = some fdText.length := by
    rw [List.append_assoc, List.append_assoc, List.append_assoc]
    exact findIdx?_append question _
  have absent : '&' ∉ fdText ++ delim1Key ++ offsetText := by
    simp only [List.mem_append, not_or]
    exact ⟨⟨ampersand, by decide⟩, later⟩
  have delim2 : (fdText ++ delim1Key ++ offsetText ++ delim2Key ++ sizeText).findIdx?
      (· == '&') = some (fdText ++ delim1Key ++ offsetText).length := by
    rw [List.append_assoc]
    exact findIdx?_append absent _
  have before : (fdText ++ delim1Key ++ offsetText).length =
      fdText.length + delim1Key.length + offsetText.length := by
    simp only [List.length_append]
  have whole : (fdText ++ delim1Key ++ offsetText ++ delim2Key ++ sizeText).length =
      fdText.length + delim1Key.length + offsetText.length + delim2Key.length +
        sizeText.length := by
    simp only [List.length_append]
  have between : sizeSub (sizeSub (fdText ++ delim1Key ++ offsetText).length fdText.length)
      delim1Key.length = offsetText.length := by
    rw [before, sizeSub_of_le (by omega : fdText.length ≤ _), sizeSub_of_le (by omega)]
    omega
  have takeFd : (fdText ++ delim1Key ++ offsetText ++ delim2Key ++ sizeText).take
      fdText.length = fdText := by
    rw [List.append_assoc, List.append_assoc, List.append_assoc, List.take_left']
    rfl
  have dropOffset : (fdText ++ delim1Key ++ offsetText ++ delim2Key ++ sizeText).drop
      (fdText.length + delim1Key.length) = offsetText ++ (delim2Key ++ sizeText) := by
    rw [← List.length_append, List.append_assoc, List.append_assoc (fdText ++ delim1Key),
      List.drop_left']
    rfl
  have dropSize : (fdText ++ delim1Key ++ offsetText ++ delim2Key ++ sizeText).drop
      ((fdText ++ delim1Key ++ offsetText).length + delim2Key.length) = sizeText := by
    rw [← List.length_append, List.drop_left']
    rfl
  simp only [parseNumbers, keyedNumbers, delim1, delim2, between, takeFd, dropOffset,
    List.take_left', dropSize]
  cases strToInt intMin intMax fdText with
  | none => rfl
  | some fd =>
    -- An empty number is refused by its length, with the same result as by its text.
    by_cases emptyOffset : offsetText = []
    · subst emptyOffset
      simp [strToInt]
    have someOffset : 0 < offsetText.length := List.length_pos_iff.mpr emptyOffset
    have offsetStands : fdText.length + delim1Key.length <
        (fdText ++ delim1Key ++ offsetText ++ delim2Key ++ sizeText).length := by
      omega
    simp only [offsetStands, someOffset, and_self, not_true_eq_false, if_false]
    cases strToInt llongMin llongMax offsetText with
    | none => rfl
    | some offset =>
      by_cases emptySize : sizeText = []
      · subst emptySize
        simp [strToInt]
      have someSize : 0 < sizeText.length := List.length_pos_iff.mpr emptySize
      have sizeStands : (fdText ++ delim1Key ++ offsetText).length + delim2Key.length <
          (fdText ++ delim1Key ++ offsetText ++ delim2Key ++ sizeText).length := by
        omega
      simp only [sizeStands, not_true_eq_false, if_false]

/-- What the grammar allows is read as it is written. -/
theorem parseNumbers_of_fdUri (grammar : FdUri body param) :
    parseNumbers body = .ok param := by
  cases grammar with
  | short number range =>
    have question := @DecimalInt.avoids _ _ number '?' (by decide) (by decide)
    have ampersand := @DecimalInt.avoids _ _ number '&' (by decide) (by decide)
    have fd := strToInt_decimalInt number (by decide) range
    simp [parseNumbers, findIdx?_absent question, findIdx?_absent ampersand, fd]
  | long number range offsetNumber offsetRange sizeNumber sizeRange =>
    have question := @DecimalInt.avoids _ _ number '?' (by decide) (by decide)
    have ampersand := @DecimalInt.avoids _ _ number '&' (by decide) (by decide)
    have later := @DecimalInt.avoids _ _ offsetNumber '&' (by decide) (by decide)
    rw [parseNumbers_keyed _ question ampersand later]
    simp [keyedNumbers, strToInt_decimalInt number (by decide) range,
      strToInt_decimalInt offsetNumber (by decide) offsetRange,
      strToInt_decimalInt sizeNumber (by decide) sizeRange]

theorem split_before (text : List Char) :
    text = text.takeWhile (· != separator) ++ text.dropWhile (· != separator) ∧
      separator ∉ text.takeWhile (· != separator) := by
  refine ⟨List.takeWhile_append_dropWhile.symm, fun inside => ?_⟩
  have other := List.mem_takeWhile_imp inside
  simp at other

/-- A well keyed text, whose number for the descriptor holds no `&`, is three texts around the
keys. -/
theorem WellKeyed.split (keyed : WellKeyed body) (question : '?' ∈ body) (ampersand : '&' ∈ body) :
    ∃ fdText tail, body = fdText ++ delim1Key ++ tail ∧ '?' ∉ fdText ∧
      ('&' ∉ fdText → ∃ offsetText sizeText,
        tail = offsetText ++ delim2Key ++ sizeText ∧ '&' ∉ offsetText) := by
  obtain ⟨⟨tail, firstKey⟩, ⟨sizeText, secondKey⟩⟩ := keyed.2 question ampersand
  obtain ⟨parts, absent⟩ := @split_before '?' body
  have whole : body = body.takeWhile (· != '?') ++ delim1Key ++ tail := by
    rw [List.append_assoc, firstKey]
    exact parts
  refine ⟨body.takeWhile (· != '?'), tail, whole, absent, fun earlier => ?_⟩
  have skipped : body.dropWhile (· != '&') = tail.dropWhile (· != '&') := by
    conv_lhs => rw [whole]
    refine List.dropWhile_append_of_pos fun char member => ?_
    have other : char ≠ '&' := by
      rintro rfl
      rcases List.mem_append.mp member with inFd | inKey
      · exact earlier inFd
      · exact absurd inKey (by decide)
    simpa using other
  obtain ⟨tailParts, tailAbsent⟩ := @split_before '&' tail
  refine ⟨tail.takeWhile (· != '&'), sizeText, ?_, tailAbsent⟩
  rw [List.append_assoc, secondKey, skipped]
  exact tailParts

theorem decimal_of_read {low high : Int} {value : Int} (clean : '\x00' ∉ body)
    (inside : ∀ char ∈ text, char ∈ body) (read : strToInt low high text = some value) :
    DecimalInt text value ∧ low ≤ value ∧ value ≤ high :=
  decimalInt_of_strToInt (fun member => clean (inside _ member)) read

theorem findIdx?_present (present : separator ∈ text) :
    ∃ index, text.findIdx? (· == separator) = some index := by
  obtain ⟨before, after, parts, absent⟩ := List.eq_append_cons_of_mem present
  exact ⟨before.length, by rw [parts, findIdx?_append absent]⟩

theorem number_before {fdText rest : List Char} (absent : '?' ∉ fdText)
    (ampersand : '&' ∈ fdText ++ '?' :: rest)
    (read : parseNumbers (fdText ++ '?' :: rest) = .ok param) :
    ∃ fd, strToInt intMin intMax fdText = some fd := by
  obtain ⟨delim2, found⟩ := findIdx?_present ampersand
  simp only [parseNumbers, findIdx?_append absent, found, List.take_left'] at read
  cases number : strToInt intMin intMax fdText with
  | none => simp [number] at read
  | some fd => exact ⟨fd, rfl⟩

/-- What is read of a well keyed text is what the grammar says. -/
theorem fdUri_of_parseNumbers (keyed : WellKeyed body) (read : parseNumbers body = .ok param) :
    FdUri body param := by
  by_cases question : '?' ∈ body
  · by_cases ampersand : '&' ∈ body
    · obtain ⟨fdText, tail, whole, absent, rest⟩ := keyed.split question ampersand
      have inFd : ∀ char ∈ fdText, char ∈ body := by
        intro char member
        rw [whole]
        exact List.mem_append_left _ (List.mem_append_left _ member)
      have early : '&' ∉ fdText := by
        have parts : body = fdText ++ '?' :: (delim1Key.tail ++ tail) := by
          rw [whole, List.append_assoc]
          rfl
        obtain ⟨fd, number⟩ := number_before absent (parts ▸ ampersand) (parts ▸ read)
        exact (decimal_of_read keyed.1 inFd number).1.avoids (by decide) (by decide)
      obtain ⟨offsetText, sizeText, tailParts, later⟩ := rest early
      have parts : body = fdText ++ delim1Key ++ offsetText ++ delim2Key ++ sizeText := by
        rw [whole, tailParts]
        simp
      have inOffset : ∀ char ∈ offsetText, char ∈ body := by
        intro char member
        rw [parts]
        simp [member]
      have inSize : ∀ char ∈ sizeText, char ∈ body := by
        intro char member
        rw [parts]
        simp [member]
      rw [parts, parseNumbers_keyed _ absent early later, keyedNumbers] at read
      split at read
      · cases read
      rename_i fd number
      split at read
      · cases read
      rename_i offset offsetNumber
      split at read
      · cases read
      rename_i size sizeNumber
      cases read
      obtain ⟨fdDecimal, fdRange⟩ := decimal_of_read keyed.1 inFd number
      obtain ⟨offsetDecimal, offsetRange⟩ := decimal_of_read keyed.1 inOffset offsetNumber
      obtain ⟨sizeDecimal, sizeRange⟩ := decimal_of_read keyed.1 inSize sizeNumber
      rw [parts]
      exact .long fdDecimal fdRange offsetDecimal offsetRange sizeDecimal sizeRange
    · obtain ⟨delim1, found⟩ := findIdx?_present question
      simp only [parseNumbers, found, findIdx?_absent ampersand] at read
      cases read
  · by_cases ampersand : '&' ∈ body
    · obtain ⟨delim2, found⟩ := findIdx?_present ampersand
      simp only [parseNumbers, found, findIdx?_absent question] at read
      cases read
    · simp only [parseNumbers, findIdx?_absent question, findIdx?_absent ampersand] at read
      split at read
      · cases read
      · rename_i fd number
        cases read
        obtain ⟨decimal, range⟩ := decimalInt_of_strToInt keyed.1 number
        exact .short decimal range

theorem splitUriHeadAndBody_fd (last : body.getLast? ≠ some ' ') (some_body : body ≠ []) :
    splitUriHeadAndBody (fdScheme ++ body) = (['f', 'd'], body) := by
  have trimmed : trimBlanks (fdScheme ++ body) = fdScheme ++ body := by
    have front : (fdScheme ++ body).dropWhile (· == ' ') = fdScheme ++ body := rfl
    rw [trimBlanks, front, List.rdropWhile_eq_self_iff]
    intro whole blank
    rw [List.getLast_append_of_ne_nil whole some_body] at blank
    exact last (by rw [List.getLast?_eq_some_getLast some_body, beq_iff_eq.mp blank])
  have scheme : splitScheme (fdScheme ++ body) = some (['f', 'd'], body) := by
    simp [fdScheme, splitScheme]
  rw [splitUriHeadAndBody, trimmed, scheme, Option.getD_some]

theorem correctOffset_range (size : 0 ≤ fdSize) (offset : Int) :
    0 ≤ correctOffset fdSize offset ∧ correctOffset fdSize offset ≤ fdSize := by
  rw [correctOffset]
  split_ifs <;> omega

theorem correctSize_range (inside : offset ≤ fdSize) (size : Int) :
    0 ≤ correctSize fdSize offset size ∧ correctSize fdSize offset size ≤ fdSize - offset := by
  rw [correctSize]
  split_ifs <;> omega

theorem correctOffset_id (inside : 0 ≤ offset ∧ offset ≤ fdSize) :
    correctOffset fdSize offset = offset := by
  rw [correctOffset, if_neg (by omega)]

theorem correctSize_id {size : Int} (inside : 0 ≤ size ∧ size ≤ fdSize - offset)
    (whole : size = 0 → offset = fdSize) : correctSize fdSize offset size = size := by
  rw [correctSize]
  split_ifs <;> omega

variable {files : Descriptors}

/-- What the helper holds when it accepts. -/
theorem parseFdUri_eq (read : parseNumbers body = .ok param)
    (queried : query files param = some fdSize) :
    parseFdUri files body =
      ({ fd := takenFd files param
         offset := correctOffset fdSize param.offset
         size := correctSize fdSize (correctOffset fdSize param.offset) param.size
         formattedUri := formatFdUri (takenFd files param) (correctOffset fdSize param.offset)
           (correctSize fdSize (correctOffset fdSize param.offset) param.size) }, true) := by
  rw [query] at queried
  simp [parseFdUri, read, correctFdParam, queried]

theorem parseFdUri_accepts :
    (parseFdUri files body).2 = true ↔
      ∃ param fdSize, parseNumbers body = .ok param ∧ query files param = some fdSize := by
  constructor
  · intro accepted
    unfold parseFdUri at accepted
    split at accepted
    · cases accepted
    rename_i param read
    simp only [correctFdParam] at accepted
    split at accepted
    · cases accepted
    · rename_i fdSize queried
      exact ⟨param, fdSize, read, queried⟩
  · rintro ⟨param, fdSize, read, queried⟩
    rw [parseFdUri_eq read queried]

/-- A URI that a helper has written is read by the next helper as what the helper holds. -/
theorem formatMeForUri_formatFdUri (realFileUrl : List Char → Option (List Char)) {fd size : Int}
    (known : files.fileSize fd = some fdSize) (offsetRange : 0 ≤ offset ∧ offset ≤ fdSize)
    (sizeRange : 0 ≤ size ∧ size ≤ fdSize - offset) (whole : size = 0 → offset = fdSize) :
    let again := formatMeForUri files realFileUrl (formatFdUri fd offset size)
    again.offset = offset ∧ again.size = size ∧
      (files.dup fd ≠ none → again.type = .fd) := by
  have fdRange := files.open_range fd fdSize known
  have sizeBound := files.size_range fd fdSize known
  have last : (toText fd ++ delim1Key ++ toText offset ++ delim2Key ++ toText size).getLast? ≠
      some ' ' := by
    intro blank
    have number := decimalInt_toText size
    rw [List.getLast?_append_of_ne_nil _ number.nonempty] at blank
    exact @DecimalInt.avoids _ _ number ' ' (by decide) (by decide) (List.mem_of_getLast? blank)
  have body : toText fd ++ delim1Key ++ toText offset ++ delim2Key ++ toText size ≠ [] := by
    simp [delim1Key]
  have grammar : FdUri (toText fd ++ delim1Key ++ toText offset ++ delim2Key ++ toText size)
      { fd, duplicated := true, offset, size } :=
    .long (decimalInt_toText fd) ⟨by simp only [intMin]; omega, fdRange.2⟩
      (decimalInt_toText offset) ⟨by simp only [llongMin]; omega, by omega⟩
      (decimalInt_toText size) ⟨by simp only [llongMin]; omega, by omega⟩
  have read := parseNumbers_of_fdUri grammar
  intro again
  have split := splitUriHeadAndBody_fd last body
  have uri : formatFdUri fd offset size ≠ [] := by simp [formatFdUri, fdScheme]
  have parts : splitUriHeadAndBody (formatFdUri fd offset size) = _ := split
  cases duplicate : files.dup fd with
  | none =>
    have refused : parseFdUri files
        (toText fd ++ delim1Key ++ toText offset ++ delim2Key ++ toText size) =
          ({ fd := -1, offset, size }, false) := by
      have closed : files.fileSize (-1) = none := by
        cases open_ : files.fileSize (-1) with
        | none => rfl
        | some size => exact absurd (files.open_range _ _ open_).1 (by decide)
      simp only [parseFdUri, read, takenFd, duplicate, if_true, Option.getD_none,
        correctFdParam, closed]
    have result : again = { fd := -1, offset, size, type := .unknown } := by
      simp only [again, formatMeForUri, if_neg uri, parts, refused]
      rfl
    rw [result]
    exact ⟨rfl, rfl, fun other => absurd rfl other⟩
  | some new =>
    have queried : query files { fd, duplicated := true, offset, size } = some fdSize := by
      simp only [query, takenFd, duplicate, if_true, Option.getD_some]
      rw [files.dup_same fd new duplicate]
      exact known
    have accepted := parseFdUri_eq read queried
    have offsetKept : correctOffset fdSize offset = offset := correctOffset_id offsetRange
    have sizeKept : correctSize fdSize offset size = size := correctSize_id sizeRange whole
    simp only [offsetKept, sizeKept] at accepted
    have type : again.type = .fd ∧ again.offset = offset ∧ again.size = size := by
      simp only [again, formatMeForUri, if_neg uri, parts, accepted]
      exact ⟨rfl, rfl, rfl⟩
    exact ⟨type.2.1, type.2.2, fun _ => type.1⟩

/-- What a well keyed text must be to be accepted, what the helper makes of the numbers, and that
the URI it writes says the same. -/
theorem parseFdUri_grammar (files : Descriptors) (body : List Char) :
    (WellKeyed body → ((parseFdUri files body).2 = true ↔
      ∃ param fdSize, FdUri body param ∧ query files param = some fdSize)) ∧
    (∀ param fdSize, FdUri body param → query files param = some fdSize →
      let parsed := parseFdUri files body
      parsed.2 = true ∧
      parsed.1.offset =
        (if 0 ≤ param.offset ∧ param.offset ≤ fdSize then param.offset else 0) ∧
      parsed.1.size =
        (if 0 < param.size ∧ param.size ≤ fdSize - parsed.1.offset then param.size
          else fdSize - parsed.1.offset) ∧
      0 ≤ parsed.1.offset ∧ parsed.1.offset ≤ fdSize ∧
      0 ≤ parsed.1.size ∧ parsed.1.size ≤ fdSize - parsed.1.offset) ∧
    ((parseFdUri files body).2 = true → ∀ realFileUrl,
      let parsed := (parseFdUri files body).1
      let again := formatMeForUri files realFileUrl parsed.formattedUri
      again.offset = parsed.offset ∧ again.size = parsed.size ∧
        (files.dup parsed.fd ≠ none → again.type = .fd)) := by
  refine ⟨fun keyed => ?_, fun param fdSize grammar queried => ?_, fun accepted realFileUrl => ?_⟩
  · rw [parseFdUri_accepts]
    constructor
    · rintro ⟨param, fdSize, read, queried⟩
      exact ⟨param, fdSize, fdUri_of_parseNumbers keyed read, queried⟩
    · rintro ⟨param, fdSize, grammar, queried⟩
      exact ⟨param, fdSize, parseNumbers_of_fdUri grammar, queried⟩
  · have known := files.size_range _ _ queried
    have offsetRange := correctOffset_range known.1 param.offset
    have sizeRange := correctSize_range offsetRange.2 param.size
    simp only [parseFdUri_eq (parseNumbers_of_fdUri grammar) queried]
    refine ⟨trivial, ?_, ?_, offsetRange.1, offsetRange.2, sizeRange.1, sizeRange.2⟩
    · rw [correctOffset]
      split_ifs <;> omega
    · rw [correctSize]
      split_ifs <;> omega
  · obtain ⟨param, fdSize, read, queried⟩ := parseFdUri_accepts.mp accepted
    have known := files.size_range _ _ queried
    have offsetRange := correctOffset_range known.1 param.offset
    have sizeRange := correctSize_range offsetRange.2 param.size
    simp only [parseFdUri_eq read queried]
    refine formatMeForUri_formatFdUri realFileUrl queried offsetRange sizeRange fun zero => ?_
    rw [correctSize] at zero
    split_ifs at zero <;> omega

/-- A file of a hundred bytes under number 5, and room for one duplicate. -/
def hundredBytes : Descriptors where
  fileSize fd := if fd = 5 ∨ fd = 6 then some 100 else none
  dup fd := if fd = 5 then some 6 else none
  dup_same := by
    intro fd new duplicate
    split at duplicate
    · rename_i five
      cases duplicate
      rw [five]
      decide
    · cases duplicate
  open_range := by
    intro fd size known
    simp only [intMax]
    split at known
    · omega
    · cases known
  size_range := by
    intro fd size known
    simp only [llongMax]
    split at known
    · cases known
      decide
    · cases known

/-- `5?offset=10&size=0` -/
def zeroSize : List Char := ['5'] ++ delim1Key ++ ['1', '0'] ++ delim2Key ++ ['0']

/-- `5?abcdefg1&wxyz=2` -/
def otherKeys : List Char :=
  ['5', '?', 'a', 'b', 'c', 'd', 'e', 'f', 'g', '1', '&', 'w', 'x', 'y', 'z', '=', '2']

def behindNul : List Char := ['5', '\x00', 'x']

theorem not_fdUri {char : Char} (member : char ∈ body) (other : char.isDigit = false)
    (unsigned : char ≠ '-') (unkeyed : ¬ delim1Key <:+: body) (param : FdParam) :
      ¬ FdUri body param := by
  intro grammar
  cases grammar with
  | short number range => exact number.avoids other unsigned member
  | long number range offsetNumber offsetRange sizeNumber sizeRange =>
    rename_i fdText offsetText sizeText _ _ _
    refine unkeyed ⟨fdText, offsetText ++ delim2Key ++ sizeText, ?_⟩
    simp

/-- A written size of zero becomes the rest of the file; keys are not compared, and what stands
behind a NUL is not read. -/
theorem zero_size_not_kept :
    FdUri zeroSize { fd := 5, duplicated := true, offset := 10, size := 0 } ∧
      (parseFdUri hundredBytes zeroSize).2 = true ∧
      (parseFdUri hundredBytes zeroSize).1.size = 90 ∧
      (parseFdUri hundredBytes otherKeys).2 = true ∧ (∀ param, ¬ FdUri otherKeys param) ∧
      (parseFdUri hundredBytes behindNul).2 = true ∧ ∀ param, ¬ FdUri behindNul param := by
  refine ⟨?_, by decide +kernel, by decide +kernel, by decide +kernel, ?_, by decide +kernel, ?_⟩
  · exact .long (.unsigned (by decide) (by simp) : DecimalInt ['5'] 5) (by decide)
      (.unsigned (by decide) (by simp) : DecimalInt ['1', '0'] 10) (by decide)
      (.unsigned (by decide) (by simp) : DecimalInt ['0'] 0) (by decide)
  · exact @not_fdUri _ '?' (by decide) (by decide) (by decide) (by decide)
  · exact @not_fdUri _ 'x' (by decide) (by decide) (by decide) (by decide)

end

end PlayerFramework.Utils
