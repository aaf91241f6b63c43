import PlayerFramework.Downloader.ResponseHeaders

/-!
What the download attempts of a task make of its output file.
-/

namespace PlayerFramework.Downloader

open Transition

namespace Answer

variable {answer : Answer} {resource : List UInt8} {range : Option Nat}

/-- The status code of the first header block, which is the one the client remembers. -/
def firstStatus (answer : Answer) : Nat := (answer.interim.head?.getD answer.final).status

theorem lines_head (answer : Answer) :
    ∃ version reason rest,
      answer.lines = .status version answer.firstStatus reason :: rest := by
  have first : ∃ rest, answer.blocks = answer.interim.head?.getD answer.final :: rest := by
    cases interim : answer.interim with
    | nil => exact ⟨[], by simp [blocks, interim]⟩
    | cons block rest => exact ⟨rest ++ [answer.final], by simp [blocks, interim]⟩
  obtain ⟨rest, blocks⟩ := first
  rw [lines, blocks]
  exact ⟨_, _, _, rfl⟩

variable {line : HeaderLine}

theorem mem_lines (inside : line ∈ answer.lines) :
    ∃ block ∈ answer.blocks, line ∈ block.lines := by
  simpa [lines] using inside

theorem formed_of_mem (inside : line ∈ answer.lines) : line.WellFormed := by
  obtain ⟨block, _, within⟩ := mem_lines inside
  simp only [HeaderBlock.lines, List.cons_append, List.mem_cons, List.mem_append, List.mem_map,
    List.not_mem_nil, or_false] at within
  rcases within with rfl | ⟨field, member, rfl⟩ | rfl
  · exact block.statusFormed
  · exact block.fieldsFormed field member
  · trivial

theorem code_of_mem {block : HeaderBlock} {code : Nat} (inside : line ∈ block.lines)
    (named : line.code = some code) : code = block.status := by
  simp only [HeaderBlock.lines, List.cons_append, List.mem_cons, List.mem_append, List.mem_map,
    List.not_mem_nil, or_false] at inside
  rcases inside with rfl | ⟨field, _, rfl⟩ | rfl
  · simpa [HeaderLine.code] using named.symm
  · simp [HeaderLine.code] at named
  · simp [HeaderLine.code] at named

theorem interim_below {block : HeaderBlock} (interim : block.Interim) : block.status < 400 := by
  rcases interim with low | redirect
  · omega
  · exact redirect.2

theorem code_cases (conformant : answer.Conformant resource range) {code : Nat}
    (inside : line ∈ answer.lines) (named : line.code = some code) :
    code = answer.final.status ∨ code < 400 := by
  obtain ⟨block, member, within⟩ := mem_lines inside
  have own := code_of_mem within named
  rcases List.mem_append.mp member with early | last
  · right
    rw [own]
    exact interim_below (conformant.1 block early).1
  · left
    rw [own, List.mem_singleton.mp last]

theorem any_contentRange (conformant : answer.Conformant resource range) :
    answer.lines.any HeaderLine.isContentRange = answer.final.hasContentRange := by
  have silent : answer.interim.any HeaderBlock.hasContentRange = false := by
    rw [List.any_eq_false]
    intro block member
    simp [(conformant.1 block member).2]
  calc
    answer.lines.any HeaderLine.isContentRange
        = answer.blocks.any HeaderBlock.hasContentRange := by
          simp only [lines, List.any_flatMap]
          rfl
    _ = (answer.interim.any HeaderBlock.hasContentRange || answer.final.hasContentRange) := by
          simp [blocks]
    _ = answer.final.hasContentRange := by rw [silent, Bool.false_or]

theorem firstStatus_below (conformant : answer.Conformant resource range)
    (good : answer.final.status < 400) : answer.firstStatus < 400 := by
  cases interim : answer.interim with
  | nil => simpa [firstStatus, interim] using good
  | cons block rest =>
    have first := (conformant.1 block (by simp [interim])).1
    simpa [firstStatus, interim] using interim_below first

theorem firstStatus_pos (answer : Answer) : 100 ≤ answer.firstStatus :=
  (answer.interim.head?.getD answer.final).statusFormed.2.2.2.1

theorem firstStatus_direct (direct : answer.interim = []) :
    answer.firstStatus = answer.final.status := by
  simp [firstStatus, direct]

end Answer

namespace NetworkClient

variable {client : NetworkClient} {disk : DiskReply} {buffer file : List UInt8}

/-- What is known of the response, and the open file, stay as they are. -/
structure SameResponse (before after : NetworkClient) : Prop where
  httpStatusCode : after.ctx.httpStatusCode = before.ctx.httpStatusCode
  responseHeaders : after.ctx.responseHeaders = before.ctx.responseHeaders
  outputFd : after.ctx.outputFd = before.ctx.outputFd
  requestSuccess : after.ctx.requestSuccess = before.ctx.requestSuccess

theorem SameResponse.findHeader {before after : NetworkClient}
    (same : SameResponse before after) (key : List Char) :
    after.findHeader key = before.findHeader key := by
  rw [NetworkClient.findHeader, same.responseHeaders]
  rfl

/-- Some first part of the buffer follows the file, and all of it where all was taken. -/
structure Appends (buffer file : List UInt8) (taken : Nat) (written : List UInt8) : Prop where
  part : ∃ count, written = file ++ buffer.take count
  whole : taken = buffer.length → written = file ++ buffer

theorem appends_nothing (buffer file : List UInt8) : Appends buffer file 0 file where
  part := ⟨0, by simp⟩
  whole := by
    intro all
    have empty : buffer = [] := List.eq_nil_of_length_eq_zero all.symm
    simp [empty]

theorem writeData_spec (disk : DiskReply) (buffer file : List UInt8)
    (opened : client.ctx.outputFd = true) :
    Appends buffer file (client.writeData disk buffer file).1
        (client.writeData disk buffer file).2.2 ∧
      SameResponse client (client.writeData disk buffer file).2.1 ∧
      (client.writeData disk buffer file).2.1.startPos = client.startPos := by
  simp only [writeData, opened, Bool.true_eq_false, if_false]
  split
  · refine ⟨⟨⟨_, rfl⟩, ?_⟩, ⟨rfl, rfl, rfl, rfl⟩, rfl⟩
    intro all
    have empty : buffer = [] := List.eq_nil_of_length_eq_zero all.symm
    simp [empty]
  · rename_i complete
    have whole : WriteReply.length disk.write buffer = some buffer.length := by
      simpa using complete
    refine ⟨⟨⟨_, rfl⟩, ?_⟩, ⟨rfl, rfl, opened.symm, rfl⟩, rfl⟩
    intro _
    simp [whole]

theorem rxBodyCallback_suppressed (disk : DiskReply) (buffer file : List UInt8)
    (passed : client.paused = true ∨ 400 ≤ client.ctx.httpStatusCode) :
    ∃ taken, client.rxBodyCallback disk buffer file = (taken, client, file) := by
  unfold rxBodyCallback
  split
  · exact ⟨0, rfl⟩
  split
  · exact ⟨0, rfl⟩
  rename_i running
  have error : 400 ≤ client.ctx.httpStatusCode := by
    rcases passed with paused | error
    · exact absurd paused running
    · exact error
  rw [if_pos error]
  exact ⟨buffer.length, rfl⟩

theorem rxBodyCallback_cases (disk : DiskReply) (buffer file : List UInt8)
    (good : client.ctx.httpStatusCode < 400) :
    client.rxBodyCallback disk buffer file = (0, client, file) ∨
      client.rxBodyCallback disk buffer file =
        match client.handleRangeResume disk file with
        | (false, client, file) => (0, client, file)
        | (true, client, file) => client.writeData disk buffer file := by
  unfold rxBodyCallback
  split
  · exact .inl rfl
  · split
    · exact .inl rfl
    · rw [if_neg (by omega)]
      exact .inr rfl

theorem rxBodyCallback_appends (disk : DiskReply) (buffer file : List UInt8)
    (opened : client.ctx.outputFd = true)
    (good : client.ctx.httpStatusCode < 400)
    (resumes : client.startPos = 0 ∨
      (client.findHeader httpHeaderContentRange).isSome = true) :
    Appends buffer file (client.rxBodyCallback disk buffer file).1
        (client.rxBodyCallback disk buffer file).2.2 ∧
      SameResponse client (client.rxBodyCallback disk buffer file).2.1 ∧
      (client.rxBodyCallback disk buffer file).2.1.startPos = client.startPos := by
  have kept : client.handleRangeResume disk file = (true, client, file) := by
    unfold handleRangeResume
    split
    · rfl
    rename_i resumed
    rcases resumes with zero | found
    · exact absurd (.inl zero) resumed
    · obtain ⟨value, known⟩ := Option.isSome_iff_exists.mp found
      simp [known]
  rcases rxBodyCallback_cases disk buffer file good with nothing | written
  · rw [nothing]
    exact ⟨appends_nothing buffer file, ⟨rfl, rfl, rfl, rfl⟩, rfl⟩
  · rw [written, kept]
    exact writeData_spec disk buffer file opened

theorem rxBodyCallback_restarts (disk : DiskReply) (buffer file : List UInt8)
    (opened : client.ctx.outputFd = true)
    (good : client.ctx.httpStatusCode < 400) (resumed : 0 < client.startPos)
    (fresh : client.ctx.downloadedSize = 0)
    (absent : client.findHeader httpHeaderContentRange = none) :
    SameResponse client (client.rxBodyCallback disk buffer file).2.1 ∧
      ((client.rxBodyCallback disk buffer file).1 = 0 ∧
          ((client.rxBodyCallback disk buffer file).2.2 = file ∨
            (client.rxBodyCallback disk buffer file).2.2 = []) ∧
          (client.rxBodyCallback disk buffer file).2.1.startPos = client.startPos ∧
          (client.rxBodyCallback disk buffer file).2.1.ctx.downloadedSize = 0 ∨
        (client.rxBodyCallback disk buffer file).2.1.startPos = 0 ∧
          Appends buffer [] (client.rxBodyCallback disk buffer file).1
            (client.rxBodyCallback disk buffer file).2.2) := by
  rcases rxBodyCallback_cases disk buffer file good with nothing | written
  · rw [nothing]
    exact ⟨⟨rfl, rfl, rfl, rfl⟩, .inl ⟨rfl, .inl rfl, rfl, fresh⟩⟩
  have resume : client.handleRangeResume disk file =
      if disk.truncated = false then (false, client.reportError .fileIo disk.errno, file)
      else if disk.sought = false then (false, client.reportError .fileIo disk.errno, [])
      else (true, { client with startPos := 0 }, []) := by
    rw [handleRangeResume, if_neg (by omega), if_pos absent]
  rw [written, resume]
  by_cases truncated : disk.truncated = false
  · rw [if_pos truncated]
    exact ⟨⟨rfl, rfl, rfl, rfl⟩, .inl ⟨rfl, .inl rfl, rfl, fresh⟩⟩
  rw [if_neg truncated]
  by_cases sought : disk.sought = false
  · rw [if_pos sought]
    exact ⟨⟨rfl, rfl, rfl, rfl⟩, .inl ⟨rfl, .inr rfl, rfl, fresh⟩⟩
  rw [if_neg sought]
  have stillOpened : { client with startPos := 0 }.ctx.outputFd = true := opened
  have anew := writeData_spec disk buffer [] stillOpened
  exact ⟨⟨anew.2.1.httpStatusCode, anew.2.1.responseHeaders, anew.2.1.outputFd,
    anew.2.1.requestSuccess⟩, .inr ⟨anew.2.2, anew.1⟩⟩

theorem handleResponse_success (client : NetworkClient) (clientCode serverCode ret : Int)
    (success : (client.handleResponse clientCode serverCode ret).ctx.requestSuccess = true) :
    serverCode = httpRangeNotSatisfiable ∧ 0 < client.startPos ∨
      ret = statusOk ∧
        (serverCode = 0 ∨ serverCode = httpOk ∨ serverCode = httpPartialContent) := by
  unfold handleResponse at success
  split at success
  · rename_i unsatisfiable
    exact .inl unsatisfiable
  split at success
  · rename_i orderly
    split at success
    · rename_i code
      exact .inr ⟨orderly, code⟩
    · simp [processHttpError, setRequestSuccess, reportError] at success
  · split at success
    · simp [processHttpError, setRequestSuccess, reportError] at success
    · simp [processStatusError, setRequestSuccess, reportError] at success

end NetworkClient

/-- What the client knows once it was given the lines `done` of the answer. -/
structure Heard (answer : Answer) (done : List HeaderLine) (client : NetworkClient) : Prop where
  status : client.ctx.httpStatusCode = if done = [] then 0 else (answer.firstStatus : Int)
  contentRange : (client.findHeader httpHeaderContentRange).isSome =
    done.any HeaderLine.isContentRange

variable {answer : Answer} {client : NetworkClient}

theorem Heard.line {done rest : List HeaderLine} {line : HeaderLine}
    (heard : Heard answer done client) (lines : answer.lines = done ++ line :: rest) :
    Heard answer (done ++ [line]) (client.rxHeaderCallback line.text) := by
  have formed : line.WellFormed := by
    apply answer.formed_of_mem
    simp [lines]
  constructor
  · have named := answer.firstStatus_pos
    rw [if_neg (by simp)]
    cases done with
    | nil =>
      obtain ⟨version, reason, tail, head⟩ := answer.lines_head
      rw [head, List.nil_append, List.cons.injEq] at lines
      have unknown : client.ctx.httpStatusCode = 0 := by
        simpa using heard.status
      rw [← lines.1] at formed ⊢
      exact NetworkClient.rxHeaderCallback_first formed unknown
    | cons early others =>
      have status : client.ctx.httpStatusCode = answer.firstStatus := by
        simpa using heard.status
      rw [NetworkClient.rxHeaderCallback_known formed (by omega), status]
  · rw [NetworkClient.findHeader_rxHeaderCallback formed, heard.contentRange]
    simp [Bool.or_comm]

theorem Heard.sameResponse {done : List HeaderLine} {before after : NetworkClient}
    (heard : Heard answer done before) (same : NetworkClient.SameResponse before after) :
    Heard answer done after where
  status := by rw [same.httpStatusCode, heard.status]
  contentRange := by rw [same.findHeader, heard.contentRange]

/-- How the file stands to the chunks that were taken, unless the library broke off. -/
structure Follows (resource : List UInt8) (exchange : Exchange) (client : NetworkClient)
    (file : List UInt8) (sent : List (List UInt8)) : Prop where
  anew : exchange.answer.final.status = 200 → 0 < client.startPos →
    sent.flatten = [] ∧ client.ctx.downloadedSize = 0
  restarted : exchange.answer.final.status = 200 → client.startPos = 0 → file = sent.flatten
  resumed : exchange.answer.final.status = 206 →
    file = resource.take (exchange.range.getD 0) ++ sent.flatten

theorem follows_of_error {resource file : List UInt8} {exchange : Exchange}
    {sent : List (List UInt8)} (error : 400 ≤ exchange.answer.final.status) :
    Follows resource exchange client file sent := by
  constructor
  · intro status
    omega
  · intro status
    omega
  · intro status
    omega

/-- What holds while the library answers a request. -/
structure Serves (resource : List UInt8) (attempts : DownloadAttempts) (exchange : Exchange) :
    Prop where
  conformant : exchange.answer.Conformant resource exchange.range
  heard : ∃ done, exchange.answer.lines = done ++ exchange.lines ∧
    Heard exchange.answer done attempts.client
  statuses : ∀ code ∈ exchange.received, code = exchange.answer.final.status ∨ code < 400
  opened : attempts.client.ctx.outputFd = true
  unreported : attempts.client.ctx.requestSuccess = false
  pending : attempts.outcome = none
  untouched : 400 ≤ exchange.answer.final.status →
    attempts.client.startPos = exchange.range.getD 0 ∧
      attempts.file.length = exchange.range.getD 0
  follows : ∃ sent, exchange.answer.body = sent ++ exchange.chunks ∧
    (exchange.aborted = false → Follows resource exchange attempts.client attempts.file sent)

namespace Exchange

/-- The next thing the library does is to hand over a chunk. -/
def Delivers (exchange : Exchange) : Prop :=
  exchange.lines = [] ∧ exchange.aborted = false ∧ exchange.chunks ≠ []

instance (exchange : Exchange) : Decidable exchange.Delivers := by
  unfold Delivers
  infer_instance

end Exchange

namespace DownloadAttempts

variable {resource : List UInt8} {attempts : DownloadAttempts} {exchange : Exchange}

/-- The body of an error comes to a client that is not paused only where no redirect and no
1xx response went before. -/
def ErrorsDirect (attempts : DownloadAttempts) : AttemptEvent → Prop
  | .body _ =>
    match attempts.stage with
    | .exchanging exchange =>
      exchange.Delivers → attempts.client.paused = false →
        400 ≤ exchange.answer.final.status → exchange.answer.interim = []
    | _ => True
  | _ => True

instance (attempts : DownloadAttempts) (event : AttemptEvent) :
    Decidable (attempts.ErrorsDirect event) := by
  unfold ErrorsDirect
  split
  · split <;> infer_instance
  · infer_instance

/-- The file is a first part of the resource, and all of it where the request is reported to
have succeeded. -/
def Exact (resource : List UInt8) (attempts : DownloadAttempts) : Prop :=
  attempts.file <+: resource ∧
    (attempts.client.isRequestSuccess = true ∨
        (∃ errors ret, attempts.outcome = some (.download errors ret true)) →
      attempts.file = resource)

structure Held (resource : List UInt8) (attempts : DownloadAttempts) : Prop where
  filePrefix : attempts.file <+: resource
  serves : ∀ exchange, attempts.stage = .exchanging exchange →
    Serves resource attempts exchange
  reported : attempts.client.ctx.requestSuccess = true → attempts.file = resource
  outcome : ∀ errors ret, attempts.outcome = some (.download errors ret true) →
    attempts.file = resource

theorem Held.exact (held : Held resource attempts) : Exact resource attempts := by
  refine ⟨held.filePrefix, ?_⟩
  intro success
  rcases success with reported | ⟨errors, ret, finished⟩
  · exact held.reported reported
  · exact held.outcome errors ret finished

theorem held_of_failed (filePrefix : attempts.file <+: resource)
    (idle : attempts.stage = .idle) (unreported : attempts.client.ctx.requestSuccess = false)
    (failed : ∀ errors ret, attempts.outcome ≠ some (.download errors ret true)) :
    Held resource attempts where
  filePrefix := filePrefix
  serves := by
    intro exchange exchanging
    simp [idle] at exchanging
  reported := by
    intro success
    simp [unreported] at success
  outcome := by
    intro errors ret success
    exact absurd success (failed errors ret)

theorem range_getD (startPos : Nat) :
    (NetworkClient.buildRequestInfo startPos).getD 0 = startPos := by
  unfold NetworkClient.buildRequestInfo
  split
  · rfl
  · simp
    omega

theorem serves_request (client : NetworkClient) (filePrefix : attempts.file <+: resource)
    (opened : client.ctx.outputFd = true) (unknown : client.ctx.httpStatusCode = 0)
    (conformant : answer.Conformant resource
      (NetworkClient.buildRequestInfo attempts.file.length)) :
    Serves resource
      { attempts with
        client := { client.initDownloadContext attempts.file.length with connected := true }
        outcome := none }
      { range := NetworkClient.buildRequestInfo attempts.file.length
        answer, lines := answer.lines, chunks := answer.body } where
  conformant := conformant
  heard := ⟨[], rfl, ⟨by simpa [NetworkClient.initDownloadContext] using unknown, rfl⟩⟩
  statuses := by simp
  opened := opened
  unreported := rfl
  pending := rfl
  untouched := by
    intro _
    simp [range_getD, NetworkClient.initDownloadContext]
  follows := by
    refine ⟨[], rfl, ?_⟩
    intro _
    constructor
    · intro _ _
      simp [NetworkClient.initDownloadContext]
    · intro _ empty
      exact List.eq_nil_of_length_eq_zero empty
    · intro _
      simpa [range_getD] using List.prefix_iff_eq_take.mp filePrefix

theorem download_held (held : Held resource attempts) (idle : attempts.stage = .idle)
    (opened : client.ctx.outputFd = true) (unknown : client.ctx.httpStatusCode = 0)
    (unreported : client.ctx.requestSuccess = false) (created : Bool) (answer : Answer) :
    Held resource (attempts.download resource client attempts.file.length created answer) := by
  unfold download
  split
  · refine held_of_failed held.filePrefix idle unreported ?_
    simp [NetworkClient.isRequestSuccess, unreported]
  split
  · refine held_of_failed held.filePrefix idle rfl ?_
    simp [NetworkClient.isRequestSuccess, NetworkClient.initDownloadContext,
      NetworkClient.closeOutputFd]
  · simp only
    split
    · rename_i conformant
      refine ⟨held.filePrefix, ?_, ?_, ?_⟩
      · intro exchange exchanging
        have same := AttemptStage.exchanging.inj exchanging
        rw [← same]
        have served := serves_request client held.filePrefix opened unknown conformant
        exact ⟨served.conformant, served.heard, served.statuses, served.opened,
          served.unreported, served.pending, served.untouched, served.follows⟩
      · intro success
        simp [NetworkClient.initDownloadContext] at success
      · intro errors ret finished
        simp at finished
    · exact held

theorem executeDownload_held (held : Held resource attempts) (idle : attempts.stage = .idle)
    (path : PathReply) (created : Bool) (answer : Answer) :
    Held resource (attempts.executeDownload resource path created answer) := by
  cases path with
  | rejected =>
    refine held_of_failed held.filePrefix idle rfl ?_
    simp [executeDownload, NetworkClient.setOutputPath, downloadErrorInvalidParam,
      downloadRetOk]
  | notOpened =>
    refine held_of_failed held.filePrefix idle rfl ?_
    simp [executeDownload, NetworkClient.setOutputPath, downloadErrorFileIo, downloadRetOk]
  | opened => exact download_held held idle rfl rfl rfl created answer

theorem header_held (held : Held resource attempts)
    (exchanging : attempts.stage = .exchanging exchange) :
    Held resource (attempts.header exchange) := by
  have served := held.serves exchange exchanging
  unfold header
  split
  · exact held
  rename_i line rest lines
  have same := attempts.client.rxHeaderCallback_sameRequest line.text
  obtain ⟨done, split, heard⟩ := served.heard
  rw [lines] at split
  refine ⟨held.filePrefix, ?_, ?_, ?_⟩
  · intro exchange' exchanging'
    have renewed := AttemptStage.exchanging.inj exchanging'
    rw [← renewed]
    refine ⟨served.conformant, ⟨done ++ [line], by simp [split], heard.line split⟩, ?_, ?_, ?_,
      served.pending, ?_, ?_⟩
    · intro code inside
      rcases List.mem_append.mp inside with new | old
      · have named : line.code = some code := by simpa using new
        exact exchange.answer.code_cases served.conformant (by simp [split]) named
      · exact served.statuses code old
    · rw [same.outputFd]
      exact served.opened
    · rw [same.requestSuccess]
      exact served.unreported
    · intro error
      rw [same.startPos]
      exact served.untouched error
    · obtain ⟨sent, body, follows⟩ := served.follows
      refine ⟨sent, body, ?_⟩
      intro unbroken
      have before := follows unbroken
      refine ⟨?_, ?_, before.resumed⟩
      · rw [same.startPos, same.downloadedSize]
        exact before.anew
      · rw [same.startPos]
        exact before.restarted
  · intro success
    rw [same.requestSuccess, served.unreported] at success
    exact absurd success (by decide)
  · exact held.outcome

variable {sent rest : List (List UInt8)} {chunk : List UInt8}

theorem sent_prefix {body : List (List UInt8)} (split : body = sent ++ chunk :: rest)
    (count : Nat) :
    sent.flatten ++ chunk.take count <+: body.flatten := by
  have part : chunk.take count <+: chunk ++ rest.flatten :=
    (List.take_prefix count chunk).trans (List.prefix_append chunk rest.flatten)
  rw [split, List.flatten_append]
  exact (List.prefix_append_right_inj sent.flatten).mpr part

/-- What one chunk of an answer makes of the file, where the answer is no error. -/
structure Taken (resource : List UInt8) (exchange : Exchange) (sent : List (List UInt8))
    (before : NetworkClient) (result : Nat × NetworkClient × List UInt8) (length : Nat) :
    Prop where
  filePrefix : result.2.2 <+: resource
  same : NetworkClient.SameResponse before result.2.1
  follows : result.1 = length → Follows resource exchange result.2.1 result.2.2 sent

variable {disk : DiskReply}

theorem taken_restarted {file : List UInt8} (status : exchange.answer.final.status = 200)
    (body : exchange.answer.body.flatten = resource)
    (split : exchange.answer.body = sent ++ chunk :: rest) (opened : client.ctx.outputFd = true)
    (good : client.ctx.httpStatusCode < 400)
    (absent : client.findHeader httpHeaderContentRange = none) (filePrefix : file <+: resource)
    (follows : Follows resource exchange client file sent) :
    Taken resource exchange (sent ++ [chunk]) client (client.rxBodyCallback disk chunk file)
      chunk.length := by
  have within := sent_prefix split
  rw [body] at within
  by_cases started : client.startPos = 0
  · obtain ⟨appends, same, startPos⟩ := NetworkClient.rxBodyCallback_appends
      disk chunk file opened good (.inl started)
    have soFar := follows.restarted status started
    refine ⟨?_, same, ?_⟩
    · obtain ⟨count, written⟩ := appends.part
      rw [written, soFar]
      exact within count
    · intro all
      refine ⟨?_, ?_, ?_⟩
      · intro _ resumed
        omega
      · intro _ _
        rw [appends.whole all, soFar]
        simp
      · intro other
        omega
  · obtain ⟨nothing, fresh⟩ := follows.anew status (by omega)
    obtain ⟨same, idle | anew⟩ := NetworkClient.rxBodyCallback_restarts
      disk chunk file opened good (by omega) fresh absent
    · obtain ⟨none, file', startPos, downloaded⟩ := idle
      refine ⟨?_, same, ?_⟩
      · rcases file' with kept | emptied
        · rw [kept]
          exact filePrefix
        · rw [emptied]
          exact List.nil_prefix
      · intro all
        have empty : chunk = [] := List.eq_nil_of_length_eq_zero (by omega)
        refine ⟨?_, ?_, ?_⟩
        · intro _ _
          exact ⟨by simp [nothing, empty], downloaded⟩
        · intro _ zero
          omega
        · intro other
          omega
    · obtain ⟨startPos, appends⟩ := anew
      refine ⟨?_, same, ?_⟩
      · obtain ⟨count, written⟩ := appends.part
        rw [written]
        have first := within count
        rwa [nothing] at first
      · intro all
        refine ⟨?_, ?_, ?_⟩
        · intro _ resumed
          omega
        · intro _ _
          rw [appends.whole all]
          simp [nothing]
        · intro other
          omega

theorem taken_resumed {file : List UInt8} (status : exchange.answer.final.status = 206)
    (body : exchange.answer.body.flatten = resource.drop (exchange.range.getD 0))
    (split : exchange.answer.body = sent ++ chunk :: rest) (opened : client.ctx.outputFd = true)
    (good : client.ctx.httpStatusCode < 400)
    (present : (client.findHeader httpHeaderContentRange).isSome = true)
    (follows : Follows resource exchange client file sent) :
    Taken resource exchange (sent ++ [chunk]) client (client.rxBodyCallback disk chunk file)
      chunk.length := by
  obtain ⟨appends, same, startPos⟩ := NetworkClient.rxBodyCallback_appends
    disk chunk file opened good (.inr present)
  have soFar := follows.resumed status
  refine ⟨?_, same, ?_⟩
  · obtain ⟨count, written⟩ := appends.part
    have within := sent_prefix split count
    rw [body] at within
    have whole : resource.take (exchange.range.getD 0) ++ resource.drop (exchange.range.getD 0) =
        resource := List.take_append_drop _ _
    calc
      (client.rxBodyCallback disk chunk file).2.2
          = resource.take (exchange.range.getD 0) ++ (sent.flatten ++ chunk.take count) := by
            rw [written, ← List.append_assoc, ← soFar]
      _ <+: resource.take (exchange.range.getD 0) ++ resource.drop (exchange.range.getD 0) :=
            (List.prefix_append_right_inj _).mpr within
      _ = resource := whole
  · intro all
    refine ⟨?_, ?_, ?_⟩
    · intro other
      omega
    · intro other
      omega
    intro _
    rw [appends.whole all]
    calc
      file ++ chunk = resource.take (exchange.range.getD 0) ++ sent.flatten ++ chunk := by
        rw [← soFar]
      _ = resource.take (exchange.range.getD 0) ++ (sent ++ [chunk]).flatten := by simp

theorem taken_answer (disk : DiskReply) (held : Held resource attempts)
    (served : Serves resource attempts exchange) (lines : exchange.lines = [])
    (good : exchange.answer.final.status < 400)
    (split : exchange.answer.body = sent ++ chunk :: rest)
    (follows : Follows resource exchange attempts.client attempts.file sent) :
    Taken resource exchange (sent ++ [chunk]) attempts.client
      (attempts.client.rxBodyCallback disk chunk attempts.file) chunk.length := by
  obtain ⟨done, allLines, heard⟩ := served.heard
  rw [lines, List.append_nil] at allLines
  have remembered : attempts.client.ctx.httpStatusCode < 400 := by
    have below := exchange.answer.firstStatus_below served.conformant good
    rw [heard.status]
    omega
  have known := heard.contentRange
  rw [← allLines, exchange.answer.any_contentRange served.conformant] at known
  rcases served.conformant.2 with whole | part | unsatisfiable | error
  · obtain ⟨status, silent, body⟩ := whole
    have absent : attempts.client.findHeader httpHeaderContentRange = none := by
      rw [silent] at known
      simpa using known
    exact taken_restarted status body split served.opened remembered absent held.filePrefix
      follows
  · obtain ⟨status, named, body⟩ := part
    exact taken_resumed status body split served.opened remembered (known.trans named) follows
  · omega
  · omega

theorem body_held (held : Held resource attempts)
    (exchanging : attempts.stage = .exchanging exchange)
    (direct : exchange.Delivers → attempts.client.paused = false →
      400 ≤ exchange.answer.final.status → exchange.answer.interim = []) :
    Held resource (attempts.body exchange disk) := by
  have served := held.serves exchange exchanging
  unfold body
  split
  · rename_i chunk rest lines unbroken chunks
    have delivers : exchange.Delivers := ⟨lines, unbroken, by simp [chunks]⟩
    obtain ⟨done, allLines, heard⟩ := served.heard
    obtain ⟨sent, sentBody, follows⟩ := served.follows
    rw [chunks] at sentBody
    have rejoined : exchange.answer.body = (sent ++ [chunk]) ++ rest := by
      simp [sentBody]
    by_cases error : 400 ≤ exchange.answer.final.status
    · have passed : attempts.client.paused = true ∨ 400 ≤ attempts.client.ctx.httpStatusCode := by
        by_cases paused : attempts.client.paused = true
        · exact .inl paused
        right
        have first := exchange.answer.firstStatus_direct
          (direct delivers (by simpa using paused) error)
        rw [lines, List.append_nil] at allLines
        obtain ⟨version, reason, tail, head⟩ := exchange.answer.lines_head
        rw [heard.status, ← allLines, head, if_neg (List.cons_ne_nil _ _), first]
        omega
      obtain ⟨taken, unchanged⟩ :=
        NetworkClient.rxBodyCallback_suppressed disk chunk attempts.file passed
      rw [unchanged]
      refine ⟨held.filePrefix, ?_, held.reported, held.outcome⟩
      intro exchange' exchanging'
      have renewed := AttemptStage.exchanging.inj exchanging'
      rw [← renewed]
      refine ⟨served.conformant, served.heard, served.statuses, served.opened,
        served.unreported, served.pending, served.untouched, sent ++ [chunk], rejoined, ?_⟩
      intro _
      exact follows_of_error error
    · have taken := taken_answer disk held served lines (by omega) sentBody
        (follows unbroken)
      generalize attempts.client.rxBodyCallback disk chunk attempts.file = result at taken
      obtain ⟨count, client, file⟩ := result
      refine ⟨taken.filePrefix, ?_, ?_, ?_⟩
      · intro exchange' exchanging'
        have renewed := AttemptStage.exchanging.inj exchanging'
        rw [← renewed]
        refine ⟨served.conformant, ⟨done, allLines, heard.sameResponse taken.same⟩,
          served.statuses, ?_, ?_, served.pending, ?_, sent ++ [chunk], rejoined, ?_⟩
        · exact taken.same.outputFd.trans served.opened
        · exact taken.same.requestSuccess.trans served.unreported
        · intro large
          exact absurd large error
        · intro whole
          have all : count = chunk.length := by simpa using whole
          have after := taken.follows all
          exact ⟨after.anew, after.restarted, after.resumed⟩
      · intro success
        have unreported := taken.same.requestSuccess.trans served.unreported
        exact absurd (success.symm.trans unreported) (by decide)
      · intro errors ret finished
        exact absurd (finished.symm.trans served.pending) (by simp)
  · exact held

theorem whole_of_unsatisfiable (held : Held resource attempts)
    (served : Serves resource attempts exchange)
    (status : exchange.answer.final.status = 416) (resumed : 0 < attempts.client.startPos) :
    attempts.file = resource := by
  obtain ⟨startPos, length⟩ := served.untouched (by omega)
  have asked : exchange.range.isSome = true := by
    cases range : exchange.range with
    | none =>
      rw [range] at startPos
      simp only [Option.getD_none] at startPos
      omega
    | some first => rfl
  have past : resource.length ≤ exchange.range.getD 0 := by
    rcases served.conformant.2 with whole | part | unsatisfiable | error
    · omega
    · omega
    · exact unsatisfiable.2 asked
    · exact absurd status error.2
  exact held.filePrefix.eq_of_length_le (by omega)

theorem whole_of_delivered (held : Held resource attempts)
    (served : Serves resource attempts exchange) (unbroken : exchange.aborted = false)
    (delivered : exchange.chunks = []) (good : exchange.answer.final.status < 400) :
    attempts.file = resource := by
  obtain ⟨sent, sentBody, follows⟩ := served.follows
  rw [delivered, List.append_nil] at sentBody
  have after := follows unbroken
  rcases served.conformant.2 with whole | part | unsatisfiable | error
  · obtain ⟨status, _, body⟩ := whole
    rw [sentBody] at body
    by_cases started : attempts.client.startPos = 0
    · rw [after.restarted status started, body]
    have nothing := (after.anew status (by omega)).1
    have empty : resource = [] := body.symm.trans nothing
    have filePrefix := held.filePrefix
    rw [empty] at filePrefix
    rw [empty]
    exact List.prefix_nil.mp filePrefix
  · obtain ⟨status, _, body⟩ := part
    rw [sentBody] at body
    rw [after.resumed status, body]
    exact List.take_append_drop _ _
  · omega
  · omega

theorem response_held (held : Held resource attempts) {clientCode serverCode ret : Int}
    (exchanging : attempts.stage = .exchanging exchange)
    (reports : exchange.Reports serverCode ret) :
    Held resource
      { attempts with
        client := attempts.client.handleResponse clientCode serverCode ret
        stage := .answered } := by
  have served := held.serves exchange exchanging
  refine ⟨held.filePrefix, ?_, ?_, held.outcome⟩
  · intro exchange' exchanging'
    simp at exchanging'
  intro success
  change attempts.file = resource
  rcases NetworkClient.handleResponse_success _ _ _ _ success with unsatisfiable | orderly
  · obtain ⟨code, resumed⟩ := unsatisfiable
    rcases reports.1 with zero | ⟨received, inside, named⟩
    · rw [zero] at code
      exact absurd code (by decide)
    have is416 : received = 416 := by
      unfold httpRangeNotSatisfiable at code
      omega
    have status : exchange.answer.final.status = 416 := by
      rcases served.statuses received inside with final | low
      · omega
      · omega
    exact whole_of_unsatisfiable held served status resumed
  · obtain ⟨good, code⟩ := orderly
    obtain ⟨_, delivered, unbroken, final⟩ := reports.2 good
    apply whole_of_delivered held served unbroken delivered
    unfold httpOk httpPartialContent at code
    omega

theorem finish_held (held : Held resource attempts) (status : Int) :
    Held resource (attempts.finish status) := by
  refine ⟨held.filePrefix, ?_, held.reported, ?_⟩
  · intro exchange exchanging
    simp [finish] at exchanging
  intro errors ret finished
  have success : attempts.client.ctx.requestSuccess = true := by
    simp only [finish, Option.some.injEq, Execution.download.injEq] at finished
    exact finished.2.2
  exact held.reported success

theorem pause_held (held : Held resource attempts) :
    Held resource { attempts with client := attempts.client.pauseDownload } := by
  refine ⟨held.filePrefix, ?_, held.reported, held.outcome⟩
  intro exchange exchanging
  have served := held.serves exchange exchanging
  obtain ⟨done, split, heard⟩ := served.heard
  obtain ⟨sent, body, follows⟩ := served.follows
  refine ⟨served.conformant, ⟨done, split, heard.status, heard.contentRange⟩, served.statuses,
    served.opened, served.unreported, served.pending, served.untouched, sent, body, ?_⟩
  intro unbroken
  have before := follows unbroken
  exact ⟨before.anew, before.restarted, before.resumed⟩

theorem next_held (held : Held resource attempts) (event : AttemptEvent)
    (direct : attempts.ErrorsDirect event) : Held resource (next resource attempts event) := by
  cases event with
  | attempt path created answer =>
    simp only [next]
    split
    · rename_i idle
      exact executeDownload_held held idle path created answer
    · exact held
  | header =>
    simp only [next]
    split
    · rename_i exchange exchanging
      exact header_held held exchanging
    · exact held
  | body disk =>
    simp only [next]
    split
    · rename_i exchange exchanging
      simp only [ErrorsDirect, exchanging] at direct
      exact body_held held exchanging direct
    · exact held
  | pause => exact pause_held held
  | response clientCode serverCode ret =>
    simp only [next]
    split
    · rename_i exchange exchanging
      split
      · rename_i reports
        exact response_held held exchanging reports
      · exact held
    · exact held
  | finish status =>
    simp only [next]
    split
    · exact held
    · exact finish_held held status

/-- A task that has not begun to download, with the output file as it is found. -/
def initially (url : List Char) (file : List UInt8) : DownloadAttempts :=
  { url, file, client := { url } }

/-- In every run of attempts in which the bodies of errors come directly, the output file is a
first part of the resource, and all of it where success is reported. -/
theorem output_exact {resource file : List UInt8} {url : List Char} {events : List AttemptEvent}
    (found : file <+: resource)
    (along : Along (next resource) ErrorsDirect (initially url file) events) :
    Exact resource (run (next resource) (initially url file) events) := by
  have start : Held resource (initially url file) := by
    refine held_of_failed found rfl rfl ?_
    simp [initially]
  have held := invariant_of_along (Held resource)
    (by
      intro attempts event held direct
      exact next_held held event direct)
    along start
  exact held.exact

def found302 : HeaderBlock where
  version := "HTTP/1.1".toList
  status := 302
  reason := "Found".toList
  fields := [("Location".toList, " /moved".toList)]
  statusFormed := by decide
  fieldsFormed := by decide

def content206 : HeaderBlock where
  version := "HTTP/1.1".toList
  status := 206
  reason := "Partial Content".toList
  fields := [("Content-Range".toList, " bytes 1-2/3".toList)]
  statusFormed := by decide
  fieldsFormed := by decide

def unsatisfiable416 : HeaderBlock where
  version := "HTTP/1.1".toList
  status := 416
  reason := "Range Not Satisfiable".toList
  fields := [("Content-Range".toList, " bytes */3".toList)]
  statusFormed := by decide
  fieldsFormed := by decide

/-- One attempt whose answer has two blocks with one field each, and one chunk. -/
def redirectedAttempt (final : HeaderBlock) (chunk : List UInt8) (serverCode : Int) :
    List AttemptEvent :=
  [.attempt .opened true { interim := [found302], final, body := [chunk] }, .header, .header,
    .header, .header, .header, .header, .body {}, .response 0 serverCode statusOk,
    .finish statusOk]

theorem resumed_download_exact :
    Along (next [1, 2, 3]) ErrorsDirect (initially "https://a".toList [1])
        (redirectedAttempt content206 [2, 3] 206) ∧
      (run (next [1, 2, 3]) (initially "https://a".toList [1])
        (redirectedAttempt content206 [2, 3] 206)).outcome = some (.download [] 0 true) ∧
      Exact [1, 2, 3] (run (next [1, 2, 3]) (initially "https://a".toList [1])
        (redirectedAttempt content206 [2, 3] 206)) :=
  ⟨by decide +kernel, by decide +kernel, output_exact (by decide) (by decide +kernel)⟩

/-- The page of a 416 that a redirect led to is appended to the whole file, and the request
still succeeds. -/
theorem redirected_error_breaks :
    (run (next [1, 2, 3]) (initially "https://a".toList [1, 2, 3])
        (redirectedAttempt unsatisfiable416 [9] 416)).outcome = some (.download [] 0 true) ∧
      ¬ ∀ (resource file : List UInt8) (url : List Char) (events : List AttemptEvent),
        file <+: resource → Exact resource (run (next resource) (initially url file) events) := by
  refine ⟨by decide +kernel, ?_⟩
  intro always
  have appended : (run (next [1, 2, 3]) (initially "https://a".toList [1, 2, 3])
      (redirectedAttempt unsatisfiable416 [9] 416)).file = [1, 2, 3, 9] := by decide +kernel
  have exact := always [1, 2, 3] [1, 2, 3] "https://a".toList
    (redirectedAttempt unsatisfiable416 [9] 416) (by decide)
  have filePrefix := exact.1
  rw [appended] at filePrefix
  exact absurd filePrefix (by decide)

end DownloadAttempts

end PlayerFramework.Downloader
