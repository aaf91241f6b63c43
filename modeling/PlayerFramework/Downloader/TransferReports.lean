import Mathlib.Algebra.GroupWithZero.Nat
import Mathlib.Algebra.Ring.Int.Defs
import PlayerFramework.Downloader.OutputPrefix

/-!
The progress reports of one attempt of `NetworkClient`: what `WriteData` passes to
`progressCallback_` for every chunk, against what the server announces and sends.
-/

namespace PlayerFramework.Downloader

open Chars Transition

/-- The `Content-Length` of a header line, where it is one. -/
def announcement (line : List Char) : Option Int :=
  let line := if line.getLast? = some '\r' then line.dropLast else line
  if ':' ∈ line ∧ (before ':' line).map Char.toLower = httpHeaderContentLength then
    match fromChars 63 ((after ':' line).dropWhile isBlank) with
    | some (contentLength, []) => some contentLength
    | _ => none
  else none

/-- The length that is in force behind a line of the headers: a status line begins the next
response of a chain, and what the one before it announced does not hold for its body. -/
def inForce (announced : Option Int) (line : List Char) : Option Int :=
  if "HTTP/".toList <+: line then none else (announcement line).or announced

def announcedBy (announced : Option Int) (headerStr : List Char) : Option Int :=
  (completedLines [] headerStr).foldl inForce announced

/-- What the library calls back with, and the pause (or cancellation) of the task. -/
inductive TransferEvent where
  | header (headerStr : List Char)
  | body (disk : DiskReply) (buffer : List UInt8)
  | pause
deriving DecidableEq

namespace TransferEvent

def length : TransferEvent → Nat
  | .body _ buffer => buffer.length
  | _ => 0

end TransferEvent

/-- `announced` is history: the length that the response in transfer has announced. -/
structure Transfer where
  client : NetworkClient
  file : List UInt8
  announced : Option Int := none

namespace Transfer

def next (transfer : Transfer) : TransferEvent → Transfer
  | .header headerStr =>
    { transfer with
      client := transfer.client.rxHeaderCallback headerStr
      announced := announcedBy transfer.announced headerStr }
  | .body disk buffer =>
    match transfer.client.rxBodyCallback disk buffer transfer.file with
    | (_, client, file) => { transfer with client, file }
  | .pause => { transfer with client := transfer.client.pauseDownload }

/-- Both arguments of `progressCallback_`, after the chunk was counted. -/
def progress (client : NetworkClient) : Int × Int :=
  (client.ctx.downloadedSize + client.startPos, client.totalSize + client.startPos)

/-- The report of `WriteData`, where it comes to one. -/
def writeReport (client : NetworkClient) (disk : DiskReply) (buffer file : List UInt8) :
    Option (Int × Int) :=
  if client.ctx.outputFd = false then none
  else if NetworkClient.WriteReply.length disk.write buffer ≠ some buffer.length then none
  else some (progress (client.writeData disk buffer file).2.1)

def report (transfer : Transfer) : TransferEvent → Option (Int × Int)
  | .body disk buffer =>
    if transfer.client.connected = false then none
    else if transfer.client.paused then none
    else if 400 ≤ transfer.client.ctx.httpStatusCode then none
    else
      match transfer.client.handleRangeResume disk transfer.file with
      | (false, _, _) => none
      | (true, client, file) => writeReport client disk buffer file
  | _ => none

def reports (transfer : Transfer) : List TransferEvent → List (Int × Int)
  | [] => []
  | event :: rest => (transfer.report event).toList ++ (transfer.next event).reports rest

/-- An attempt of `DoDownload` from `startPos` on, once it is connected. -/
def attempt (client : NetworkClient) (file : List UInt8) (startPos : Nat) : Transfer where
  client := { client.initDownloadContext startPos with connected := true }
  file := file

end Transfer

/-- The response that a chunk of the body belongs to announces no length, or that of the body. -/
def SendsExactly (total : Nat) : Option Int → List TransferEvent → Prop
  | _, [] => True
  | announced, .body _ _ :: rest =>
    (announced = none ∨ announced = some (total : Int)) ∧ SendsExactly total announced rest
  | announced, .header headerStr :: rest =>
    SendsExactly total (announcedBy announced headerStr) rest
  | announced, .pause :: rest => SendsExactly total announced rest

/-- The server sends as many bytes as it announces, or announces nothing; the attempt may break
off before all of them came. -/
def ExactServer (events : List TransferEvent) : Prop :=
  ∃ total, (events.map TransferEvent.length).sum ≤ total ∧ SendsExactly total none events

/-- The total is unknown or not exceeded, and what is downloaded never becomes less. -/
structure ConsistentReports (reports : List (Int × Int)) : Prop where
  bounded : ∀ report ∈ reports, report.2 ≤ 0 ∨ 0 ≤ report.1 ∧ report.1 ≤ report.2
  ordered : reports.Pairwise fun earlier later => earlier.1 ≤ later.1

/-- The response is written from `startPos` on. -/
def NetworkClient.Resumes (client : NetworkClient) : Prop :=
  client.startPos = 0 ∨ (client.findHeader httpHeaderContentRange).isSome = true

/-- The chunk goes to the file, which is started anew first where the response does not resume
it. -/
def Written (client : NetworkClient) (disk : DiskReply) (buffer : List UInt8) : Prop :=
  (client.Resumes ∨ disk.truncated ∧ disk.sought) ∧ client.connected = true ∧
    client.paused = false ∧ client.ctx.httpStatusCode < 400 ∧ client.ctx.outputFd = true ∧
      NetworkClient.WriteReply.length disk.write buffer = some buffer.length

/-- What `totalSize_` holds is no length of the response that is written: it is -1, or an earlier
response of the chain left it.  Then the chunk keeps below it, or the total that is reported, which
adds `startPos_` to it for a resumed file, is not positive. -/
def LengthKnown (transfer : Transfer) : TransferEvent → Prop
  | .body disk buffer =>
    Written transfer.client disk buffer → transfer.announced = none →
      transfer.client.ctx.downloadedSize + buffer.length ≤ transfer.client.totalSize ∨
        transfer.client.totalSize +
          (if (transfer.client.findHeader httpHeaderContentRange).isSome then
            transfer.client.startPos else 0) ≤ 0
  | _ => True

namespace NetworkClient

variable {client : NetworkClient}

theorem parseHttpStatusCode_totalSize (client : NetworkClient) (headerStr : List Char) :
    (client.parseHttpStatusCode headerStr).totalSize = client.totalSize := by
  unfold parseHttpStatusCode
  split
  · rfl
  · split
    · rfl
    · split <;> rfl

theorem storeHeader_totalSize (client : NetworkClient) (line : List Char) :
    (client.storeHeader line).totalSize = (announcement line).getD client.totalSize := by
  unfold storeHeader announcement
  dsimp only
  generalize (if line.getLast? = some '\r' then line.dropLast else line) = trimmed
  by_cases colon : ':' ∈ trimmed
  · by_cases length : (before ':' trimmed).map Char.toLower = httpHeaderContentLength
    · rw [if_pos colon, if_pos length, if_pos ⟨colon, length⟩]
      rcases fromChars 63 _ with _ | ⟨contentLength, _ | ⟨char, rest⟩⟩ <;> rfl
    · rw [if_pos colon, if_neg length, if_neg (fun both => length both.2)]
      rfl
  · rw [if_neg colon, if_neg (fun both => colon both.1)]
    rfl

/-- A length that is in force is the one that the client keeps. -/
theorem rxHeaderCallback_totalSize {announced : Option Int}
    (known : ∀ length ∈ announced, client.totalSize = length) (headerStr : List Char) :
    ∀ length ∈ announcedBy announced headerStr,
      (client.rxHeaderCallback headerStr).totalSize = length := by
  have lines : ∀ (lines : List (List Char)) (client : NetworkClient) (announced : Option Int),
      (∀ length ∈ announced, client.totalSize = length) →
      ∀ length ∈ lines.foldl inForce announced,
        (lines.foldl storeHeader client).totalSize = length := by
    intro lines
    induction lines with
    | nil => exact fun _ _ known => known
    | cons line rest ih =>
      intro client announced known
      apply ih
      intro length member
      rw [storeHeader_totalSize]
      unfold inForce at member
      split at member
      · cases member
      cases announces : announcement line with
      | none =>
        rw [announces] at member
        exact known length member
      | some other =>
        rw [announces] at member
        exact Option.some.inj member
  apply lines
  rwa [parseHttpStatusCode_totalSize]

theorem findHeader_storeHeader (client : NetworkClient) (line key : List Char)
    (known : (client.findHeader key).isSome = true) :
    ((client.storeHeader line).findHeader key).isSome = true := by
  have more : ∀ entry : List Char × List Char,
      ((entry :: client.ctx.responseHeaders).lookup key).isSome = true := by
    intro entry
    rw [List.lookup_cons]
    split
    · rfl
    · exact known
  unfold storeHeader
  dsimp only
  generalize (if line.getLast? = some '\r' then line.dropLast else line) = trimmed
  split
  · split
    · split
      · exact more _
      · exact more _
    · exact more _
  · exact known

theorem findHeader_rxHeaderCallback_of_known (client : NetworkClient) (headerStr key : List Char)
    (known : (client.findHeader key).isSome = true) :
    ((client.rxHeaderCallback headerStr).findHeader key).isSome = true := by
  have lines : ∀ (lines : List (List Char)) (client : NetworkClient),
      (client.findHeader key).isSome = true →
      ((lines.foldl storeHeader client).findHeader key).isSome = true := by
    intro lines
    induction lines with
    | nil => exact fun _ known => known
    | cons line rest ih =>
      exact fun client known => ih _ (findHeader_storeHeader client line key known)
  apply lines
  rw [findHeader, parseHttpStatusCode_responseHeaders]
  exact known

theorem handleRangeResume_resumes (resumes : client.Resumes) (disk : DiskReply)
    (file : List UInt8) : client.handleRangeResume disk file = (true, client, file) := by
  unfold handleRangeResume
  split
  · rfl
  rename_i resumed
  rcases resumes with zero | found
  · exact absurd (.inl zero) resumed
  · obtain ⟨value, known⟩ := Option.isSome_iff_exists.mp found
    simp [known]

theorem handleRangeResume_restarts (restarts : ¬ client.Resumes)
    (fresh : client.ctx.downloadedSize = 0) (disk : DiskReply) (file : List UInt8) :
    (disk.truncated ∧ disk.sought →
        client.handleRangeResume disk file = (true, { client with startPos := 0 }, [])) ∧
      (¬ (disk.truncated ∧ disk.sought) → ∃ rest, client.handleRangeResume disk file =
        (false, client.reportError .fileIo disk.errno, rest)) := by
  rw [Resumes, not_or] at restarts
  have absent : client.findHeader httpHeaderContentRange = none :=
    Option.not_isSome_iff_eq_none.mp restarts.2
  rw [handleRangeResume, if_neg (not_or.mpr ⟨restarts.1, not_not_intro fresh⟩), if_pos absent]
  cases disk.truncated <;> cases disk.sought <;> simp

end NetworkClient

namespace Transfer

open NetworkClient

variable {transfer : Transfer} {client : NetworkClient} {disk : DiskReply}
  {buffer file : List UInt8}

/-- What a chunk leaves of the announcement, and what it counts. -/
structure Counts (before after : NetworkClient) (count : Nat) : Prop where
  totalSize : after.totalSize = before.totalSize
  responseHeaders : after.ctx.responseHeaders = before.ctx.responseHeaders
  downloadedSize : after.ctx.downloadedSize = before.ctx.downloadedSize + count

theorem write_whole (opened : client.ctx.outputFd = true)
    (whole : WriteReply.length disk.write buffer = some buffer.length) :
    writeReport client disk buffer file = some (progress (client.writeData disk buffer file).2.1) ∧
      Counts client (client.writeData disk buffer file).2.1 buffer.length ∧
      (client.writeData disk buffer file).2.1.startPos = client.startPos := by
  simp only [writeReport, writeData, opened, whole, Bool.true_eq_false, if_false, ne_eq,
    not_true_eq_false]
  exact ⟨trivial, ⟨rfl, rfl, rfl⟩, trivial⟩

theorem write_short (short : ¬ (client.ctx.outputFd = true ∧
      WriteReply.length disk.write buffer = some buffer.length)) :
    writeReport client disk buffer file = none ∧
      Counts client (client.writeData disk buffer file).2.1 0 ∧
      (client.writeData disk buffer file).2.1.startPos = client.startPos := by
  unfold writeReport writeData
  dsimp only
  split
  · exact ⟨rfl, ⟨rfl, rfl, rfl⟩, rfl⟩
  rename_i opened
  have partly : WriteReply.length disk.write buffer ≠ some buffer.length := by
    intro whole
    exact short ⟨by simpa using opened, whole⟩
  rw [if_pos partly, if_pos partly]
  exact ⟨rfl, ⟨rfl, rfl, rfl⟩, rfl⟩

/-- A chunk that is not written whole is not reported. -/
theorem body_unwritten (unwritten : ¬ Written transfer.client disk buffer)
    (fresh : transfer.client.Resumes ∨ transfer.client.ctx.downloadedSize = 0) :
    transfer.report (.body disk buffer) = none ∧
      Counts transfer.client (transfer.next (.body disk buffer)).client 0 ∧
      (transfer.client.Resumes →
        (transfer.next (.body disk buffer)).client.startPos = transfer.client.startPos) := by
  have kept : Counts transfer.client transfer.client 0 := ⟨rfl, rfl, rfl⟩
  unfold report next rxBodyCallback
  dsimp only
  split
  · exact ⟨rfl, kept, fun _ => rfl⟩
  split
  · exact ⟨rfl, kept, fun _ => rfl⟩
  split
  · exact ⟨rfl, kept, fun _ => rfl⟩
  rename_i connected running good
  have short (starts : transfer.client.Resumes ∨ disk.truncated ∧ disk.sought) :
      ¬ (transfer.client.ctx.outputFd = true ∧
        WriteReply.length disk.write buffer = some buffer.length) := by
    intro both
    exact unwritten ⟨starts, by simpa using connected, by simpa using running, by omega, both⟩
  by_cases resumes : transfer.client.Resumes
  · rw [handleRangeResume_resumes resumes]
    obtain ⟨silent, counts, start⟩ :=
      @write_short _ _ _ transfer.file (short (.inl resumes))
    exact ⟨silent, counts, fun _ => start⟩
  · obtain ⟨anew, fails⟩ := handleRangeResume_restarts resumes
      (fresh.resolve_left resumes) disk transfer.file
    by_cases starts : disk.truncated ∧ disk.sought
    · rw [anew starts]
      obtain ⟨silent, counts, _⟩ :=
        @write_short { transfer.client with startPos := 0 } _ _ [] (short (.inr starts))
      exact ⟨silent, ⟨counts.totalSize, counts.responseHeaders, counts.downloadedSize⟩,
        fun impossible => absurd impossible resumes⟩
    · obtain ⟨rest, failed⟩ := fails starts
      rw [failed]
      exact ⟨rfl, ⟨rfl, rfl, rfl⟩, fun _ => rfl⟩

/-- A chunk that is written whole is reported. -/
theorem body_written (written : Written transfer.client disk buffer)
    (fresh : transfer.client.Resumes ∨ transfer.client.ctx.downloadedSize = 0) :
    transfer.report (.body disk buffer) =
        some (progress (transfer.next (.body disk buffer)).client) ∧
      Counts transfer.client (transfer.next (.body disk buffer)).client buffer.length ∧
      (transfer.next (.body disk buffer)).client.startPos =
        if (transfer.client.findHeader httpHeaderContentRange).isSome then
          transfer.client.startPos
        else 0 := by
  obtain ⟨starts, connected, running, good, opened, whole⟩ := written
  have reached : transfer.client.rxBodyCallback disk buffer transfer.file =
      match transfer.client.handleRangeResume disk transfer.file with
      | (false, client, file) => (0, client, file)
      | (true, client, file) => client.writeData disk buffer file := by
    rewrite [rxBodyCallback, if_neg (by simp [connected]), if_neg (by simp [running]),
      if_neg (by omega)]
    rfl
  simp only [report, next, reached, connected, running, Bool.true_eq_false, Bool.false_eq_true,
    if_false, if_neg (show ¬ 400 ≤ transfer.client.ctx.httpStatusCode by omega)]
  by_cases resumes : transfer.client.Resumes
  · rw [handleRangeResume_resumes resumes]
    obtain ⟨reported, counts, start⟩ := @write_whole _ _ _ transfer.file opened whole
    refine ⟨reported, counts, start.trans ?_⟩
    split
    · rfl
    · rename_i absent
      exact resumes.resolve_right absent
  · have absent : ¬ (transfer.client.findHeader httpHeaderContentRange).isSome = true :=
      fun found => resumes (.inr found)
    have anew := (handleRangeResume_restarts resumes (fresh.resolve_left resumes) disk
      transfer.file).1 (starts.resolve_left resumes)
    rw [anew, if_neg absent]
    obtain ⟨reported, counts, start⟩ :=
      @write_whole { transfer.client with startPos := 0 } _ _ [] opened whole
    exact ⟨reported, ⟨counts.totalSize, counts.responseHeaders, counts.downloadedSize⟩, start⟩

/-- Where the server stands at `sent` bytes of its body. -/
structure InStep (sent : Nat) (transfer : Transfer) : Prop where
  totalSize : ∀ length ∈ transfer.announced, transfer.client.totalSize = length
  downloaded : transfer.client.ctx.downloadedSize ≤ sent
  fresh : transfer.client.Resumes ∨ transfer.client.ctx.downloadedSize = 0

def Bounded (report : Int × Int) : Prop :=
  report.2 ≤ 0 ∨ 0 ≤ report.1 ∧ report.1 ≤ report.2

variable {sent total : Nat}

variable {before after : NetworkClient} {count : Nat}

theorem Counts.findHeader (counts : Counts before after count) (key : List Char) :
    after.findHeader key = before.findHeader key := by
  rw [NetworkClient.findHeader, counts.responseHeaders]
  rfl

theorem Counts.resumes (counts : Counts before after count)
    (start : after.startPos = before.startPos) (resumes : before.Resumes) : after.Resumes := by
  rw [Resumes, counts.findHeader, start]
  exact resumes

theorem resumes_written (counts : Counts before after count) (start : after.startPos =
      if (before.findHeader httpHeaderContentRange).isSome then before.startPos else 0) :
    after.Resumes := by
  rw [Resumes, start, counts.findHeader]
  split
  · rename_i found
    exact .inr found
  · exact .inl rfl

theorem InStep.counted {later : Transfer} (inStep : InStep sent transfer)
    (announced : later.announced = transfer.announced)
    (counts : Counts transfer.client later.client count)
    (fresh : later.client.Resumes ∨ later.client.ctx.downloadedSize = 0) :
    InStep (sent + count) later where
  totalSize := by
    rw [announced, counts.totalSize]
    exact inStep.totalSize
  downloaded := by
    have before := inStep.downloaded
    rw [counts.downloadedSize]
    omega
  fresh := fresh

theorem InStep.header (inStep : InStep sent transfer) (headerStr : List Char) :
    InStep sent (transfer.next (.header headerStr)) := by
  have same := rxHeaderCallback_sameRequest transfer.client headerStr
  constructor
  · exact rxHeaderCallback_totalSize inStep.totalSize headerStr
  · change (transfer.client.rxHeaderCallback headerStr).ctx.downloadedSize ≤ sent
    rw [same.downloadedSize]
    exact inStep.downloaded
  · rcases inStep.fresh with (zero | found) | nothing
    · exact .inl (.inl (same.startPos.trans zero))
    · exact .inl (.inr (findHeader_rxHeaderCallback_of_known _ headerStr _ found))
    · exact .inr (same.downloadedSize.trans nothing)

/-- A chunk keeps step with the server, and its report is in order exactly where the length is
known, or what stands in its place allows the chunk. -/
theorem InStep.body (inStep : InStep sent transfer)
    (exact : transfer.announced = none ∨ transfer.announced = some (total : Int))
    (within : sent + buffer.length ≤ total) :
    InStep (sent + buffer.length) (transfer.next (.body disk buffer)) ∧
      ((∀ report ∈ transfer.report (.body disk buffer), Bounded report) ↔
        LengthKnown transfer (.body disk buffer)) := by
  by_cases written : Written transfer.client disk buffer
  · obtain ⟨reported, counts, start⟩ := body_written written inStep.fresh
    have later := @InStep.counted transfer _ _ (transfer.next (.body disk buffer)) inStep rfl counts
      (.inl (resumes_written counts start))
    refine ⟨later, ?_⟩
    have downloaded := later.downloaded
    have counted := counts.downloadedSize
    rw [reported]
    simp only [Option.mem_some_iff, forall_eq', Bounded, progress, LengthKnown, written,
      forall_const, counts.totalSize, start]
    rcases exact with unannounced | announced
    · simp only [unannounced, forall_const]
      split <;> omega
    · have known := inStep.totalSize total announced
      refine iff_of_true (.inr (by omega)) (fun unknown => ?_)
      rw [announced] at unknown
      cases unknown
  · obtain ⟨silent, counts, start⟩ := body_unwritten written inStep.fresh
    have fresh : (transfer.next (.body disk buffer)).client.Resumes ∨
        (transfer.next (.body disk buffer)).client.ctx.downloadedSize = 0 := by
      rcases inStep.fresh with resumes | nothing
      · exact .inl (counts.resumes (start resumes) resumes)
      · exact .inr (counts.downloadedSize.trans nothing)
    have later :=
      @InStep.counted transfer _ _ (transfer.next (.body disk buffer)) inStep rfl counts fresh
    refine ⟨⟨later.totalSize, ?_, later.fresh⟩, ?_⟩
    · have before := later.downloaded
      omega
    · rw [silent]
      exact iff_of_true (fun _ impossible => by cases impossible)
        (fun impossible => absurd impossible written)

theorem reports_bounded_iff {events : List TransferEvent} (inStep : InStep sent transfer)
    (exact : SendsExactly total transfer.announced events)
    (rest : sent + (events.map TransferEvent.length).sum ≤ total) :
    (∀ report ∈ transfer.reports events, Bounded report) ↔
      Along next LengthKnown transfer events := by
  induction events generalizing transfer sent with
  | nil => simp [reports, Along]
  | cons event events ih =>
    rw [List.map_cons, List.sum_cons, ← Nat.add_assoc] at rest
    rw [reports, Along]
    simp only [List.mem_append, or_imp, forall_and, Option.mem_toList]
    cases event with
    | header headerStr =>
      exact and_congr (iff_of_true (fun _ impossible => by cases impossible) trivial)
        (ih (inStep.header headerStr) exact rest)
    | pause =>
      have paused : InStep sent (transfer.next .pause) :=
        ⟨inStep.totalSize, inStep.downloaded, inStep.fresh⟩
      exact and_congr (iff_of_true (fun _ impossible => by cases impossible) trivial)
        (ih paused exact rest)
    | body disk buffer =>
      change sent + buffer.length + _ ≤ total at rest
      obtain ⟨later, first⟩ := @InStep.body transfer disk buffer _ total inStep exact.1 (by omega)
      exact and_congr first (ih later exact.2 rest)

/-- What an event leaves of the order: a report is at what is then downloaded, and once the
start is settled nothing is taken back. -/
structure Proceeds (transfer : Transfer) (event : TransferEvent) : Prop where
  fresh : (transfer.next event).client.Resumes ∨ (transfer.next event).client.ctx.downloadedSize = 0
  reported : ∀ report ∈ transfer.report event,
    report.1 = (progress (transfer.next event).client).1 ∧ (transfer.next event).client.Resumes
  onwards : transfer.client.Resumes → (transfer.next event).client.Resumes ∧
    (progress transfer.client).1 ≤ (progress (transfer.next event).client).1

theorem proceeds_of_same {event : TransferEvent} (silent : transfer.report event = none)
    (resumes : transfer.client.Resumes → (transfer.next event).client.Resumes)
    (same : transfer.client.Resumes →
      (transfer.next event).client.startPos = transfer.client.startPos)
    (downloaded : (transfer.next event).client.ctx.downloadedSize =
      transfer.client.ctx.downloadedSize)
    (fresh : transfer.client.Resumes ∨ transfer.client.ctx.downloadedSize = 0) :
    transfer.Proceeds event where
  fresh := fresh.imp resumes downloaded.trans
  reported := by
    intro report reported
    rw [silent] at reported
    cases reported
  onwards := by
    intro was
    refine ⟨resumes was, ?_⟩
    simp [progress, downloaded, same was]

theorem proceeds (fresh : transfer.client.Resumes ∨ transfer.client.ctx.downloadedSize = 0)
    (event : TransferEvent) : transfer.Proceeds event := by
  cases event with
  | header headerStr =>
    have same := rxHeaderCallback_sameRequest transfer.client headerStr
    refine @proceeds_of_same transfer (.header headerStr) rfl ?_ (fun _ => same.startPos)
      same.downloadedSize fresh
    intro resumes
    rcases resumes with zero | found
    · exact .inl (same.startPos.trans zero)
    · exact .inr (findHeader_rxHeaderCallback_of_known _ headerStr _ found)
  | pause => exact @proceeds_of_same transfer .pause rfl id (fun _ => rfl) rfl fresh
  | body disk buffer =>
    by_cases written : Written transfer.client disk buffer
    · obtain ⟨reported, counts, start⟩ := body_written written fresh
      have resumes := resumes_written counts start
      refine ⟨.inl resumes, ?_, fun was => ⟨resumes, ?_⟩⟩
      · intro report named
        rw [reported, Option.mem_some_iff] at named
        rw [← named]
        exact ⟨rfl, resumes⟩
      · have kept : (transfer.next (.body disk buffer)).client.startPos =
            transfer.client.startPos := by
          rw [start]
          split
          · rfl
          · rename_i absent
            exact (was.resolve_right absent).symm
        have counted := counts.downloadedSize
        simp only [progress, kept]
        omega
    · obtain ⟨silent, counts, start⟩ := body_unwritten written fresh
      exact proceeds_of_same silent (fun was => counts.resumes (start was) was) start
        counts.downloadedSize fresh

theorem reports_ordered {events : List TransferEvent}
    (fresh : transfer.client.Resumes ∨ transfer.client.ctx.downloadedSize = 0) :
    (transfer.reports events).Pairwise (fun earlier later => earlier.1 ≤ later.1) ∧
      (transfer.client.Resumes → ∀ report ∈ transfer.reports events,
        (progress transfer.client).1 ≤ report.1) := by
  induction events generalizing transfer with
  | nil => exact ⟨.nil, fun _ _ impossible => by cases impossible⟩
  | cons event events ih =>
    have step := proceeds fresh event
    obtain ⟨ordered, above⟩ := ih step.fresh
    have next : transfer.client.Resumes → ∀ report ∈ (transfer.next event).reports events,
        (progress transfer.client).1 ≤ report.1 := by
      intro resumes report member
      exact Int.le_trans (step.onwards resumes).2 (above (step.onwards resumes).1 report member)
    rw [reports]
    cases reported : transfer.report event with
    | none => exact ⟨ordered, next⟩
    | some report =>
      obtain ⟨at_next, resumes⟩ := step.reported report reported
      rw [Option.toList_some, List.singleton_append, List.pairwise_cons]
      refine ⟨⟨?_, ordered⟩, ?_⟩
      · intro later member
        rw [at_next]
        exact above resumes later member
      · intro was later member
        rcases List.mem_cons.mp member with rfl | member
        · rw [at_next]
          exact (step.onwards was).2
        · exact next was later member

def resumedClient : NetworkClient where
  url := "http://a/b".toList
  ctx := { outputFd := true }

def fiveBytes : TransferEvent := .body {} [1, 2, 3, 4, 5]

/-- A redirect of three bytes to a response that announces no length. -/
def redirected : List TransferEvent :=
  [.header "HTTP/1.1 302 Found\n".toList, .header "Content-Length: 3\n".toList,
    .header "HTTP/1.1 200 OK\n".toList, fiveBytes]

end Transfer

end PlayerFramework.Downloader
