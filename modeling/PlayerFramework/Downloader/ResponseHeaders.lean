import PlayerFramework.Downloader.DownloadAttempts

/-!
What the header callback makes of well-formed header lines: the status code of the first
status line is remembered, and `Content-Range` is found once a field of that name came by.
-/

namespace PlayerFramework.Downloader

open Chars HeaderLine

theorem digitChar_facts {digit : Nat} (small : digit < 10) :
    (Nat.digitChar digit).isDigit = true ∧ digitValue (Nat.digitChar digit) = digit := by
  have checked : ∀ digit : Fin 10,
      (Nat.digitChar digit).isDigit = true ∧ digitValue (Nat.digitChar digit) = digit := by
    decide
  exact checked ⟨digit, small⟩

theorem fromChars_statusText {code : Nat} (threeDigits : code < 1000) :
    fromChars 31 (statusText code) = some ((code : Int), []) := by
  have hundreds := digitChar_facts (show code / 100 < 10 by omega)
  have tens := digitChar_facts (show code / 10 % 10 < 10 by omega)
  have units := digitChar_facts (show code % 10 < 10 by omega)
  have numeric : ∀ char ∈ statusText code, char.isDigit = true := by
    intro char inside
    simp only [statusText, List.mem_cons, List.not_mem_nil, or_false] at inside
    rcases inside with rfl | rfl | rfl
    · exact hundreds.1
    · exact tens.1
    · exact units.1
  have value : decimalValue (statusText code) = code := by
    simp only [decimalValue, statusText, List.foldl_cons, List.foldl_nil, hundreds.2, tens.2,
      units.2]
    omega
  have fits : decimalValue (statusText code) < 2 ^ 31 := by
    omega
  have read := fromChars_digits numeric (by simp [statusText]) fits
  rw [read, value]

namespace HeaderLine

/-- The line without its carriage return and line feed. -/
def bare : HeaderLine → List Char
  | .status version code reason => version ++ ' ' :: (statusText code ++ ' ' :: reason)
  | .field name value => name ++ ':' :: value
  | .blank => []

theorem text_eq (line : HeaderLine) : line.text = line.bare ++ ['\r', '\n'] := by
  cases line <;> simp [text, bare]

theorem digitChar_ne_lineFeed {digit : Nat} (small : digit < 10) : '\n' ≠ Nat.digitChar digit := by
  intro same
  have digitFacts := (digitChar_facts small).1
  rw [← same] at digitFacts
  exact absurd digitFacts (by decide)

theorem unbroken {line : HeaderLine} (formed : line.WellFormed) : '\n' ∉ line.bare := by
  cases line with
  | status version code reason =>
    obtain ⟨_, _, versionUnbroken, _, small, reasonUnbroken⟩ := formed
    have hundreds := digitChar_ne_lineFeed (show code / 100 < 10 by omega)
    have tens := digitChar_ne_lineFeed (show code / 10 % 10 < 10 by omega)
    have units := digitChar_ne_lineFeed (show code % 10 < 10 by omega)
    simp [bare, statusText, versionUnbroken, reasonUnbroken, hundreds, tens, units]
  | field name value =>
    obtain ⟨_, nameUnbroken, valueUnbroken⟩ := formed
    simp [bare, nameUnbroken, valueUnbroken]
  | blank => simp [bare]

end HeaderLine

namespace NetworkClient

variable {client : NetworkClient}

/-- The parts of a client that a header line leaves alone. -/
structure SameRequest (before after : NetworkClient) : Prop where
  startPos : after.startPos = before.startPos
  downloadedSize : after.ctx.downloadedSize = before.ctx.downloadedSize
  outputFd : after.ctx.outputFd = before.ctx.outputFd
  requestSuccess : after.ctx.requestSuccess = before.ctx.requestSuccess

theorem SameRequest.refl (client : NetworkClient) : SameRequest client client :=
  ⟨rfl, rfl, rfl, rfl⟩

theorem SameRequest.trans {first second third : NetworkClient}
    (early : SameRequest first second) (late : SameRequest second third) :
    SameRequest first third where
  startPos := by rw [late.startPos, early.startPos]
  downloadedSize := by rw [late.downloadedSize, early.downloadedSize]
  outputFd := by rw [late.outputFd, early.outputFd]
  requestSuccess := by rw [late.requestSuccess, early.requestSuccess]

theorem storeHeader_cases (client : NetworkClient) (line : List Char) :
    ∃ headers size ctxSize, client.storeHeader line =
      { client with
        totalSize := size
        ctx := { client.ctx with responseHeaders := headers, totalSize := ctxSize } } := by
  simp only [storeHeader]
  generalize (if line.getLast? = some '\r' then line.dropLast else line) = trimmed
  split
  · split
    · split
      · exact ⟨_, _, _, rfl⟩
      · exact ⟨_, _, _, rfl⟩
    · exact ⟨_, _, _, rfl⟩
  · exact ⟨_, _, _, rfl⟩

theorem storeHeader_sameRequest (client : NetworkClient) (line : List Char) :
    SameRequest client (client.storeHeader line) := by
  obtain ⟨headers, size, ctxSize, stored⟩ := client.storeHeader_cases line
  rw [stored]
  exact ⟨rfl, rfl, rfl, rfl⟩

theorem storeHeader_httpStatusCode (client : NetworkClient) (line : List Char) :
    (client.storeHeader line).ctx.httpStatusCode = client.ctx.httpStatusCode := by
  obtain ⟨headers, size, ctxSize, stored⟩ := client.storeHeader_cases line
  rw [stored]

theorem parseHttpStatusCode_sameRequest (client : NetworkClient) (headerStr : List Char) :
    SameRequest client (client.parseHttpStatusCode headerStr) := by
  unfold parseHttpStatusCode
  split
  · exact .refl client
  split
  · exact .refl client
  · split
    · exact ⟨rfl, rfl, rfl, rfl⟩
    · exact .refl client

theorem foldl_storeHeader_sameRequest (client : NetworkClient) (lines : List (List Char)) :
    SameRequest client (lines.foldl storeHeader client) := by
  induction lines generalizing client with
  | nil => exact .refl client
  | cons line rest ih => exact (client.storeHeader_sameRequest line).trans (ih _)

theorem rxHeaderCallback_sameRequest (client : NetworkClient) (headerStr : List Char) :
    SameRequest client (client.rxHeaderCallback headerStr) :=
  (client.parseHttpStatusCode_sameRequest headerStr).trans (foldl_storeHeader_sameRequest _ _)

variable {line : HeaderLine} {version reason : List Char} {code : Nat}

theorem rxHeaderCallback_line (formed : line.WellFormed) : client.rxHeaderCallback line.text =
      (client.parseHttpStatusCode line.text).storeHeader (line.bare ++ ['\r']) := by
  have unbroken : '\n' ∉ line.bare ++ ['\r'] := by
    simp [unbroken formed]
  have single := completedLines_single unbroken []
  have text : line.text = (line.bare ++ ['\r']) ++ ['\n'] := by
    simp [line.text_eq]
  rw [rxHeaderCallback, text, single]
  rfl

theorem parseHttpStatusCode_first (formed : (status version code reason).WellFormed)
    (unknown : client.ctx.httpStatusCode = 0) :
    (client.parseHttpStatusCode (status version code reason).text).ctx.httpStatusCode = code := by
  obtain ⟨noSpace, _, _, _, small, _⟩ := formed
  have rest : after ' ' (status version code reason).text =
      statusText code ++ ' ' :: (reason ++ ['\r', '\n']) := after_append noSpace _
  have digits : (statusText code ++ ' ' :: (reason ++ ['\r', '\n'])).take 3 = statusText code := by
    simp [statusText]
  have more : statusText code ++ ' ' :: (reason ++ ['\r', '\n']) ≠ [] := by
    simp [statusText]
  rw [parseHttpStatusCode, rest, digits, fromChars_statusText small, if_neg (by simp [unknown]),
    if_neg more]

theorem parseHttpStatusCode_known (known : client.ctx.httpStatusCode ≠ 0)
    (headerStr : List Char) : client.parseHttpStatusCode headerStr = client := by
  rw [parseHttpStatusCode, if_pos known]

theorem rxHeaderCallback_first (formed : (status version code reason).WellFormed)
    (unknown : client.ctx.httpStatusCode = 0) :
    (client.rxHeaderCallback (status version code reason).text).ctx.httpStatusCode = code := by
  rw [rxHeaderCallback_line formed, storeHeader_httpStatusCode,
    parseHttpStatusCode_first formed unknown]

theorem rxHeaderCallback_known (formed : line.WellFormed) (known : client.ctx.httpStatusCode ≠ 0) :
    (client.rxHeaderCallback line.text).ctx.httpStatusCode = client.ctx.httpStatusCode := by
  rw [rxHeaderCallback_line formed, storeHeader_httpStatusCode, parseHttpStatusCode_known known]

theorem parseHttpStatusCode_responseHeaders (headerStr : List Char) :
    (client.parseHttpStatusCode headerStr).ctx.responseHeaders = client.ctx.responseHeaders := by
  unfold parseHttpStatusCode
  split
  · rfl
  · split
    · rfl
    · split <;> rfl

theorem storeHeader_responseHeaders (line : List Char) :
    (client.storeHeader (line ++ ['\r'])).ctx.responseHeaders =
      if ':' ∈ line then
        ((before ':' line).map Char.toLower, (after ':' line).dropWhile isBlank) ::
          client.ctx.responseHeaders
      else client.ctx.responseHeaders := by
  have last : (line ++ ['\r']).getLast? = some '\r' := by simp
  have dropped : (line ++ ['\r']).dropLast = line := by simp
  simp only [storeHeader, last, dropped, if_true]
  split
  · split
    · split <;> rfl
    · rfl
  · rfl

theorem status_name (formed : (status version code reason).WellFormed) :
    (before ':' (status version code reason).bare).map Char.toLower ≠
      httpHeaderContentRange := by
  intro same
  have noColon : ':' ∉ version ++ [' '] := by
    simp [formed.2.1]
  have kept : version ++ [' '] <+: before ':' (status version code reason).bare := by
    have split : (status version code reason).bare =
        (version ++ [' ']) ++ (statusText code ++ ' ' :: reason) := by
      simp [bare]
    rw [split]
    exact prefix_before noColon _
  have blank : ' ' ∈ before ':' (status version code reason).bare :=
    kept.subset (by simp)
  have lowered : Char.toLower ' ' ∈ httpHeaderContentRange := by
    rw [← same]
    exact List.mem_map_of_mem blank
  exact absurd lowered (by decide)

theorem findHeader_rxHeaderCallback (formed : line.WellFormed) :
    ((client.rxHeaderCallback line.text).findHeader httpHeaderContentRange).isSome =
      (line.isContentRange || (client.findHeader httpHeaderContentRange).isSome) := by
  rw [rxHeaderCallback_line formed]
  simp only [findHeader, storeHeader_responseHeaders, parseHttpStatusCode_responseHeaders]
  cases line with
  | status version code reason =>
    have other := status_name formed
    have differs : (httpHeaderContentRange ==
        (before ':' (status version code reason).bare).map Char.toLower) = false := by
      simpa using other.symm
    split <;> simp [isContentRange, List.lookup_cons, differs]
  | field name value =>
    have name_eq : before ':' (field name value).bare = name :=
      before_append formed.1 _
    have colon : ':' ∈ (field name value).bare := by
      simp [bare]
    rw [if_pos colon, name_eq, List.lookup_cons, isContentRange]
    by_cases same : name.map Char.toLower = httpHeaderContentRange
    · simp [same]
    · have differs : (httpHeaderContentRange == name.map Char.toLower) = false := by
        simpa using Ne.symm same
      simp [same, differs]
  | blank => simp [isContentRange, bare]

end NetworkClient

end PlayerFramework.Downloader
