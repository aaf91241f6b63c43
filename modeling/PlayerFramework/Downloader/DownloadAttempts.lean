import PlayerFramework.Downloader.NetworkClient

/-!
The download attempts of one task against a server that holds a fixed resource, with the
HTTP client library between them: it passes on the lines of the header blocks and then the
chunks of the body, breaks off where a callback takes less than a chunk, and may break off
at any point.
-/

namespace PlayerFramework.Downloader

open Chars

def statusText (code : Nat) : List Char :=
  [Nat.digitChar (code / 100), Nat.digitChar (code / 10 % 10), Nat.digitChar (code % 10)]

/-- A line as the library hands it to the header callback. -/
inductive HeaderLine where
  | status (version : List Char) (code : Nat) (reason : List Char)
  | field (name value : List Char)
  | blank
deriving DecidableEq

namespace HeaderLine

def text : HeaderLine → List Char
  | .status version code reason =>
    version ++ ' ' :: (statusText code ++ ' ' :: (reason ++ ['\r', '\n']))
  | .field name value => name ++ ':' :: (value ++ ['\r', '\n'])
  | .blank => ['\r', '\n']

def code : HeaderLine → Option Nat
  | .status _ code _ => some code
  | _ => none

def isContentRange : HeaderLine → Bool
  | .field name _ => name.map Char.toLower = httpHeaderContentRange
  | _ => false

/-- The grammar of header lines: a three-digit status, a separator ends the name, and no
line feed stands inside. -/
def WellFormed : HeaderLine → Prop
  | .status version code reason =>
    ' ' ∉ version ∧ ':' ∉ version ∧ '\n' ∉ version ∧ 100 ≤ code ∧ code < 1000 ∧ '\n' ∉ reason
  | .field name value => ':' ∉ name ∧ '\n' ∉ name ∧ '\n' ∉ value
  | .blank => True

instance : (line : HeaderLine) → Decidable line.WellFormed
  | .status _ _ _ | .field _ _ | .blank => by unfold WellFormed; infer_instance

end HeaderLine

/-- The status line of one response, and its header fields. -/
structure HeaderBlock where
  version : List Char
  status : Nat
  reason : List Char
  fields : List (List Char × List Char)
  statusFormed : (HeaderLine.status version status reason).WellFormed
  fieldsFormed : ∀ field ∈ fields, (HeaderLine.field field.1 field.2).WellFormed
deriving DecidableEq

namespace HeaderBlock

def lines (block : HeaderBlock) : List HeaderLine :=
  .status block.version block.status block.reason ::
    (block.fields.map fun field => HeaderLine.field field.1 field.2) ++ [.blank]

def hasContentRange (block : HeaderBlock) : Bool := block.lines.any HeaderLine.isContentRange

/-- A redirect or a 1xx response. -/
def Interim (block : HeaderBlock) : Prop :=
  block.status < 200 ∨ 300 ≤ block.status ∧ block.status < 400

instance (block : HeaderBlock) : Decidable block.Interim := by
  unfold Interim
  infer_instance

end HeaderBlock

/-- The chain of header blocks that answers a request, and the chunks of the body. -/
structure Answer where
  interim : List HeaderBlock
  final : HeaderBlock
  body : List (List UInt8)
deriving DecidableEq

namespace Answer

def blocks (answer : Answer) : List HeaderBlock := answer.interim ++ [answer.final]

def lines (answer : Answer) : List HeaderLine := answer.blocks.flatMap HeaderBlock.lines

/-- The answers to a request from `range` on that HTTP allows for the resource; only 206 and
416 carry `Content-Range`, and 416 says that nothing of the resource is left at `range`. -/
def Conformant (resource : List UInt8) (range : Option Nat) (answer : Answer) : Prop :=
  (∀ block ∈ answer.interim, block.Interim ∧ block.hasContentRange = false) ∧
    (answer.final.status = 200 ∧ answer.final.hasContentRange = false ∧
        answer.body.flatten = resource ∨
      answer.final.status = 206 ∧ answer.final.hasContentRange = true ∧
        answer.body.flatten = resource.drop (range.getD 0) ∨
      answer.final.status = 416 ∧ (range.isSome = true → resource.length ≤ range.getD 0) ∨
      400 ≤ answer.final.status ∧ answer.final.status ≠ 416)

instance (resource : List UInt8) (range : Option Nat) (answer : Answer) :
    Decidable (answer.Conformant resource range) := by
  unfold Conformant
  infer_instance

end Answer

/-- The library's side of a request; `received` are the status codes so far. -/
structure Exchange where
  range : Option Nat
  answer : Answer
  lines : List HeaderLine
  chunks : List (List UInt8)
  received : List Nat := []
  aborted : Bool := false
deriving DecidableEq

inductive AttemptStage where
  | idle
  | exchanging (exchange : Exchange)
  | answered
deriving DecidableEq

/-- `outcome` is how the last finished attempt went. -/
structure DownloadAttempts where
  url : List Char
  file : List UInt8
  client : NetworkClient
  stage : AttemptStage := .idle
  outcome : Option Execution := none
deriving DecidableEq

inductive AttemptEvent where
  | attempt (path : PathReply) (created : Bool) (answer : Answer)
  | header
  | body (disk : DiskReply)
  | pause
  | response (clientCode serverCode ret : Int)
  | finish (status : Int)
deriving DecidableEq

namespace Exchange

/-- A response is reported with one of the received status codes, and as in order only where
the whole answer was taken. -/
def Reports (exchange : Exchange) (serverCode ret : Int) : Prop :=
  (serverCode = 0 ∨ ∃ code ∈ exchange.received, serverCode = code) ∧
    (ret = statusOk → exchange.lines = [] ∧ exchange.chunks = [] ∧ exchange.aborted = false ∧
      serverCode = exchange.answer.final.status)

instance (exchange : Exchange) (serverCode ret : Int) :
    Decidable (exchange.Reports serverCode ret) := by
  unfold Reports
  infer_instance

end Exchange

namespace DownloadAttempts

/-- `Download` of the client, up to the request. -/
def download (attempts : DownloadAttempts) (resource : List UInt8) (client : NetworkClient)
    (startPos : Nat) (created : Bool) (answer : Answer) : DownloadAttempts :=
  if NetworkClient.isValidUrl client.url = false then
    { attempts with
      client := client
      outcome := some (.download client.errors downloadErrorInvalidUrl client.isRequestSuccess) }
  else if created = false then
    let client := (client.initDownloadContext startPos).closeOutputFd
    { attempts with
      client := client
      outcome := some (.download client.errors downloadErrorNetwork client.isRequestSuccess) }
  else
    let range := NetworkClient.buildRequestInfo startPos
    if answer.Conformant resource range then
      { attempts with
        client := { client.initDownloadContext startPos with connected := true }
        stage := .exchanging { range, answer, lines := answer.lines, chunks := answer.body }
        outcome := none }
    else attempts

/-- `InitClient` and `ExecuteDownload`, up to the request. -/
def executeDownload (attempts : DownloadAttempts) (resource : List UInt8) (path : PathReply)
    (created : Bool) (answer : Answer) : DownloadAttempts :=
  match ({ url := attempts.url } : NetworkClient).setOutputPath path attempts.file with
  | (client, ret, startPos) =>
    if ret ≠ downloadRetOk then
      { attempts with client := client, outcome := some (.badOutputPath ret) }
    else attempts.download resource client startPos created answer

def header (attempts : DownloadAttempts) (exchange : Exchange) : DownloadAttempts :=
  match exchange.lines with
  | [] => attempts
  | line :: rest =>
    { attempts with
      client := attempts.client.rxHeaderCallback line.text
      stage := .exchanging
        { exchange with lines := rest, received := line.code.toList ++ exchange.received } }

def body (attempts : DownloadAttempts) (exchange : Exchange) (disk : DiskReply) :
    DownloadAttempts :=
  match exchange.lines, exchange.aborted, exchange.chunks with
  | [], false, chunk :: rest =>
    match attempts.client.rxBodyCallback disk chunk attempts.file with
    | (taken, client, file) =>
      { attempts with
        client := client
        file := file
        stage := .exchanging
          { exchange with chunks := rest, aborted := decide (taken ≠ chunk.length) } }
  | _, _, _ => attempts

def finish (attempts : DownloadAttempts) (status : Int) : DownloadAttempts :=
  let client := { attempts.client.closeOutputFd with connected := false }
  { attempts with
    client := client
    stage := .idle
    outcome := some
      (.download client.errors (client.downloadResult status) client.isRequestSuccess) }

def next (resource : List UInt8) (attempts : DownloadAttempts) : AttemptEvent → DownloadAttempts
  | .attempt path created answer =>
    match attempts.stage with
    | .idle => attempts.executeDownload resource path created answer
    | _ => attempts
  | .header =>
    match attempts.stage with
    | .exchanging exchange => attempts.header exchange
    | _ => attempts
  | .body disk =>
    match attempts.stage with
    | .exchanging exchange => attempts.body exchange disk
    | _ => attempts
  | .pause => { attempts with client := attempts.client.pauseDownload }
  | .response clientCode serverCode ret =>
    match attempts.stage with
    | .exchanging exchange =>
      if exchange.Reports serverCode ret then
        { attempts with
          client := attempts.client.handleResponse clientCode serverCode ret
          stage := .answered }
      else attempts
    | _ => attempts
  | .finish status =>
    match attempts.stage with
    | .idle => attempts
    | _ => attempts.finish status

end DownloadAttempts

end PlayerFramework.Downloader
