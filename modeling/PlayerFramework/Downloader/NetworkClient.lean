import PlayerFramework.Chars
import PlayerFramework.Downloader.DownloaderImpl

/-!
`NetworkClient`, one HTTP request of a download task (`download_network_client.cpp`), and
`DownloadTask::ExecuteDownload` around it.  The HTTP client library underneath calls the
header callback once for each line and the body callback once for each chunk.
-/

namespace PlayerFramework.Downloader

open Chars

def downloadErrorFileIo : Int := 2
def downloadErrorInvalidUrl : Int := 3

def httpOk : Int := 200
def httpPartialContent : Int := 206
def httpRangeNotSatisfiable : Int := 416
def httpHeaderContentLength : List Char := "content-length".toList
def httpHeaderContentRange : List Char := "content-range".toList

/-- `Status::OK` of the HTTP client library. -/
def statusOk : Int := 0

def enospc : Int := 28

/-- `outputFd` tells whether the output file is open. -/
structure DownloadContext where
  requestSuccess : Bool := false
  totalSize : Int := -1
  downloadedSize : Nat := 0
  httpStatusCode : Int := 0
  outputFd : Bool := false
  responseHeaders : List (List Char × List Char) := []
deriving DecidableEq

/-- `errors` is what `errorCallback_` was called with. -/
structure NetworkClient where
  url : List Char
  connected : Bool := false
  totalSize : Int := -1
  paused : Bool := false
  startPos : Nat := 0
  ctx : DownloadContext := {}
  errors : List (DownloadErrorType × Int) := []
deriving DecidableEq

/-- What path validation and `open` make of the output path. -/
inductive PathReply where
  | rejected
  | notOpened
  | opened
deriving DecidableEq

inductive WriteReply where
  | all
  | upTo (count : Nat)
  | failed
deriving DecidableEq

/-- What the system calls on the output file answer during one body callback. -/
structure DiskReply where
  truncated : Bool := true
  sought : Bool := true
  write : WriteReply := .all
  errno : Int := 0
deriving DecidableEq

namespace NetworkClient

/-- The file is opened for appending and the download resumes at its size. -/
def setOutputPath (client : NetworkClient) (path : PathReply) (file : List UInt8) :
    NetworkClient × Int × Nat :=
  match path with
  | .rejected => (client, downloadErrorInvalidParam, 0)
  | .notOpened =>
    ({ client with ctx := { client.ctx with outputFd := false } }, downloadErrorFileIo, 0)
  | .opened =>
    ({ client with ctx := { client.ctx with outputFd := true } }, downloadRetOk, file.length)

def isValidUrl (url : List Char) : Bool :=
  url ≠ [] && ("http://".toList.isPrefixOf url || "https://".toList.isPrefixOf url)

/-- Only the first status code of the response is remembered. -/
def parseHttpStatusCode (client : NetworkClient) (headerStr : List Char) : NetworkClient :=
  if client.ctx.httpStatusCode ≠ 0 then client
  else if after ' ' headerStr = [] then client
  else
    match fromChars 31 ((after ' ' headerStr).take 3) with
    | some (statusCode, _) =>
      { client with ctx := { client.ctx with httpStatusCode := statusCode } }
    | none => client

/-- One line of the loop of `RxHeaderCallback`, without its line feed. -/
def storeHeader (client : NetworkClient) (line : List Char) : NetworkClient :=
  let line := if line.getLast? = some '\r' then line.dropLast else line
  if ':' ∈ line then
    let key := (before ':' line).map Char.toLower
    let value := (after ':' line).dropWhile isBlank
    let client := { client with
      ctx := { client.ctx with responseHeaders := (key, value) :: client.ctx.responseHeaders } }
    if key = httpHeaderContentLength then
      match fromChars 63 value with
      | some (contentLength, []) =>
        { client with
          totalSize := contentLength
          ctx := { client.ctx with totalSize := contentLength } }
      | _ => client
    else client
  else client

def rxHeaderCallback (client : NetworkClient) (headerStr : List Char) : NetworkClient :=
  (completedLines [] headerStr).foldl storeHeader (client.parseHttpStatusCode headerStr)

def reportError (client : NetworkClient) (errorType : DownloadErrorType) (errorCode : Int) :
    NetworkClient :=
  { client with errors := client.errors ++ [(errorType, errorCode)] }

def findHeader (client : NetworkClient) (key : List Char) : Option (List Char) :=
  client.ctx.responseHeaders.lookup key

/-- A response to a resumed request without `Content-Range` starts the file anew. -/
def handleRangeResume (client : NetworkClient) (disk : DiskReply) (file : List UInt8) :
    Bool × NetworkClient × List UInt8 :=
  if client.startPos = 0 ∨ client.ctx.downloadedSize ≠ 0 then (true, client, file)
  else if client.findHeader httpHeaderContentRange = none then
    if disk.truncated = false then (false, client.reportError .fileIo disk.errno, file)
    else if disk.sought = false then (false, client.reportError .fileIo disk.errno, [])
    else (true, { client with startPos := 0 }, [])
  else (true, client, file)

/-- How many bytes of the buffer `write` takes, if it does not fail. -/
def WriteReply.length (write : WriteReply) (buffer : List UInt8) : Option Nat :=
  match write with
  | .all => some buffer.length
  | .upTo count => some (min count buffer.length)
  | .failed => none

def writeData (client : NetworkClient) (disk : DiskReply) (buffer file : List UInt8) :
    Nat × NetworkClient × List UInt8 :=
  if client.ctx.outputFd = false then (buffer.length, client, file)
  else
    let writeLen := WriteReply.length disk.write buffer
    let file := file ++ buffer.take (writeLen.getD 0)
    if writeLen ≠ some buffer.length then
      (0, client.reportError (if disk.errno = enospc then .diskSpace else .fileIo) disk.errno, file)
    else
      (buffer.length, { client with ctx := { client.ctx with
        downloadedSize := client.ctx.downloadedSize + buffer.length } }, file)

/-- The number of bytes taken (the library breaks off where it is not the chunk's length),
the client and the file. -/
def rxBodyCallback (client : NetworkClient) (disk : DiskReply) (buffer file : List UInt8) :
    Nat × NetworkClient × List UInt8 :=
  if client.connected = false then (0, client, file)
  else if client.paused then (0, client, file)
  else if 400 ≤ client.ctx.httpStatusCode then (buffer.length, client, file)
  else
    match client.handleRangeResume disk file with
    | (false, client, file) => (0, client, file)
    | (true, client, file) => client.writeData disk buffer file

def pauseDownload (client : NetworkClient) : NetworkClient := { client with paused := true }

def initDownloadContext (client : NetworkClient) (startPos : Nat) : NetworkClient :=
  { client with
    connected := false
    totalSize := -1
    paused := false
    startPos := startPos
    ctx := { client.ctx with
      requestSuccess := false
      totalSize := -1
      downloadedSize := 0
      responseHeaders := [] } }

/-- The first byte asked for by the `Range` header, if one is sent. -/
def buildRequestInfo (startPos : Nat) : Option Nat :=
  if 0 < startPos then some startPos else none

def closeOutputFd (client : NetworkClient) : NetworkClient :=
  { client with ctx := { client.ctx with outputFd := false } }

def setRequestSuccess (client : NetworkClient) (success : Bool) : NetworkClient :=
  { client with ctx := { client.ctx with requestSuccess := success } }

def setTotalSize (client : NetworkClient) (size : Int) : NetworkClient :=
  { client with ctx := { client.ctx with totalSize := size } }

def parseContentRangeTotalSize (rangeValue : List Char) : Option Int :=
  if '/' ∉ rangeValue then none
  else
    match fromChars 63 (after '/' rangeValue) with
    | some (serverTotalSize, _) => if 0 < serverTotalSize then some serverTotalSize else none
    | none => none

def compareAndSetDownloadResult (client : NetworkClient) (serverTotalSize : Int) : NetworkClient :=
  if serverTotalSize = client.startPos then
    (client.setRequestSuccess true).setTotalSize serverTotalSize
  else (client.setRequestSuccess false).reportError .network httpRangeNotSatisfiable

def handle416WithoutContentRange (client : NetworkClient) : NetworkClient :=
  if 0 < client.startPos then (client.setRequestSuccess true).setTotalSize client.startPos
  else (client.setRequestSuccess false).reportError .network httpRangeNotSatisfiable

def processHttp416RangeNotSatisfiable (client : NetworkClient) : NetworkClient :=
  match client.findHeader httpHeaderContentRange with
  | none => client.handle416WithoutContentRange
  | some rangeValue =>
    match parseContentRangeTotalSize rangeValue with
    | none => (client.setRequestSuccess false).reportError .network httpRangeNotSatisfiable
    | some serverTotalSize => client.compareAndSetDownloadResult serverTotalSize

def processHttpError (client : NetworkClient) (code : Int) : NetworkClient :=
  (client.setRequestSuccess false).reportError .network code

def processStatusError (client : NetworkClient) (ret : Int) : NetworkClient :=
  (client.setRequestSuccess false).reportError .network ret

def handleResponse (client : NetworkClient) (clientCode serverCode ret : Int) : NetworkClient :=
  if serverCode = httpRangeNotSatisfiable ∧ 0 < client.startPos then
    client.processHttp416RangeNotSatisfiable
  else if ret = statusOk then
    if serverCode = 0 ∨ serverCode = httpOk ∨ serverCode = httpPartialContent then
      client.setRequestSuccess true
    else client.processHttpError serverCode
  else if isNetworkConnectionError clientCode then client.processHttpError clientCode
  else client.processStatusError ret

/-- What `DoDownload` returns once the request is over. -/
def downloadResult (client : NetworkClient) (status : Int) : Int :=
  if client.ctx.requestSuccess then downloadRetOk
  else if status ≠ statusOk then downloadErrorNetwork
  else downloadRetOk

def isRequestSuccess (client : NetworkClient) : Bool := client.ctx.requestSuccess

end NetworkClient

end PlayerFramework.Downloader
