import Mathlib.Data.List.Basic
import PlayerFramework.Transition

/-!
`LppAudioRenderAdapter` (`lpp_audio_render_adapter.cpp`) for sound that is not vivid: the
decoded buffers that wait for the renderer, the oldest of them swapped for copies, and the write
callback of the renderer.
-/

namespace PlayerFramework.LowPower

/-- A decoded buffer. `memory` is the data up to `GetSize`, and an EOS buffer carries none. -/
structure AVBuffer where
  pts : Int
  eos : Bool := false
  memory : Option (List UInt8)
  eosEmpty : eos = true → memory.getD [] = []

namespace AVBuffer

def data (buffer : AVBuffer) : List UInt8 := buffer.memory.getD []

def getSize (buffer : AVBuffer) : Nat := buffer.data.length

/-- What `HandleBufferAvailable` does not release at once. -/
def valid (buffer : AVBuffer) : Bool := buffer.memory.isSome && decide (0 ≤ buffer.pts)

@[simp] theorem length_data (buffer : AVBuffer) : buffer.data.length = buffer.getSize := rfl

theorem data_of_eos {buffer : AVBuffer} (eos : buffer.eos = true) : buffer.data = [] :=
  buffer.eosEmpty eos

end AVBuffer

def bytes (buffers : List AVBuffer) : List UInt8 := buffers.flatMap AVBuffer.data

@[simp] theorem bytes_nil : bytes [] = [] := rfl

@[simp] theorem bytes_cons (buffer : AVBuffer) (rest : List AVBuffer) :
    bytes (buffer :: rest) = buffer.data ++ bytes rest := rfl

@[simp] theorem bytes_append (first second : List AVBuffer) :
    bytes (first ++ second) = bytes first ++ bytes second := by
  simp [bytes]

/-- `AudioStandard::BufferDesc`: whether there is a `buffer`, and `data`, its first `dataLength`
bytes. -/
structure BufferDesc where
  buffer : Bool
  bufLength : Nat
  data : List UInt8

/-- A write callback. The renderer offers no data of its own, or a buffer as long as what it
asks for. -/
structure WriteRequest where
  length : Nat
  bufferDesc : BufferDesc
  offered : bufferDesc.data = [] ∨
    (bufferDesc.bufLength = length ∧ bufferDesc.data.length ≤ bufferDesc.bufLength)

/-- A completion job that `DropEosBuffer` submitted: what was enqueued by then, and the place of
the EOS buffer among the valid ones. -/
structure CompletionJob where
  place : Nat
  enqueued : List UInt8

/-- `received`, `enqueued` and `completions` are history variables since the last flush. -/
structure LppAudioRenderAdapter where
  isEos : Bool := false
  availOutputBuffers : List AVBuffer := []
  swapOutputBuffers : List AVBuffer := []
  currentQueuedBufferOffset : Nat := 0
  availDataSize : Int := 0
  maxCbDataSize : Nat := 0
  received : List AVBuffer := []
  enqueued : List UInt8 := []
  completions : List CompletionJob := []

/-- The variables of `FillAudioBuffer` and what it changes of the adapter, less the queues. -/
structure Fill where
  size : Nat
  currentQueuedBufferOffset : Nat
  availDataSize : Int
  data : List UInt8

namespace Fill

/-- `memcpy_s` refuses to copy nothing, or more than `SECUREC_MEM_MAX_LEN`. -/
def memcpyFails (count : Nat) : Prop := count = 0 ∨ 0x7fffffff < count

instance (count : Nat) : Decidable (memcpyFails count) :=
  inferInstanceAs (Decidable (_ ∨ _))

def isBufferAvailable (buffer : AVBuffer) (fill : Fill) : Bool :=
  buffer.memory.isSome && decide (fill.currentQueuedBufferOffset ≤ buffer.getSize)

/-- `CopyBufferData`, with what it returns: whether the buffer is drained. -/
def copyBufferData (hasBuffer : Bool) (buffer : AVBuffer) (fill : Fill) : Fill × Bool :=
  let cacheBufferSize := buffer.getSize - fill.currentQueuedBufferOffset
  let availableSize := if cacheBufferSize > fill.size then fill.size else cacheBufferSize
  if ¬ hasBuffer then (fill, false)
  else if memcpyFails availableSize then (fill, false)
  else
    let copied := (buffer.data.drop fill.currentQueuedBufferOffset).take availableSize
    let filled := { fill with
      data := fill.data ++ copied, availDataSize := fill.availDataSize - availableSize }
    if cacheBufferSize > fill.size then
      ({ filled with
          currentQueuedBufferOffset := fill.currentQueuedBufferOffset + fill.size, size := 0 },
        false)
    else
      ({ filled with currentQueuedBufferOffset := 0, size := fill.size - cacheBufferSize }, true)

/-- Copies from the front buffer; false where the loop of `FillAudioBuffer` then breaks. -/
def drain (hasBuffer : Bool) (buffer : AVBuffer) (fill : Fill) : Fill × Bool :=
  if fill.isBufferAvailable buffer then fill.copyBufferData hasBuffer buffer else (fill, true)

/-- The loop of `FillAudioBuffer` as long as it takes from one queue: what is left of the queue,
and whether the loop goes on with the next queue. -/
def takeFrom (hasBuffer : Bool) : List AVBuffer → Fill → List AVBuffer × Fill × Bool
  | [], fill => ([], fill, true)
  | buffer :: rest, fill =>
    if buffer.eos then (buffer :: rest, fill, false)
    else
      let drained := fill.drain hasBuffer buffer
      if drained.2 then
        if drained.1.size > 0 then takeFrom hasBuffer rest drained.1
        else (rest, drained.1, false)
      else (buffer :: rest, drained.1, false)

end Fill

namespace LppAudioRenderAdapter

/-- What the queues hold, in the order in which it is taken. -/
def pending (adapter : LppAudioRenderAdapter) : List AVBuffer :=
  adapter.swapOutputBuffers ++ adapter.availOutputBuffers

/-- The buffers received since the last flush that are valid. -/
def accepted (adapter : LppAudioRenderAdapter) : List AVBuffer :=
  adapter.received.filter AVBuffer.valid

def queueSize : Nat := 20

/-- `created`: `CopyBuffer` could make and fill the copy. -/
def driveBufferCircle (created : Bool) (adapter : LppAudioRenderAdapter) : LppAudioRenderAdapter :=
  match adapter.availOutputBuffers with
  | [] => adapter
  | oldestBuffer :: rest =>
    if adapter.isEos then adapter
    else if rest.length + 1 < queueSize then adapter
    else if adapter.maxCbDataSize ≤ adapter.availDataSize then adapter
    else if oldestBuffer.getSize = 0 ∨ ¬ created then adapter
    else
      { adapter with
        availOutputBuffers := rest
        swapOutputBuffers := adapter.swapOutputBuffers ++ [oldestBuffer] }

/-- `HandleBufferAvailable` takes over a valid buffer. -/
def push (buffer : AVBuffer) (adapter : LppAudioRenderAdapter) : LppAudioRenderAdapter :=
  { adapter with
    isEos := adapter.isEos || buffer.eos
    availOutputBuffers := adapter.availOutputBuffers ++ [buffer]
    availDataSize := adapter.availDataSize + buffer.getSize }

def handleBufferAvailable (filledInputBuffer : Option AVBuffer) (created : Bool)
    (adapter : LppAudioRenderAdapter) : LppAudioRenderAdapter :=
  match filledInputBuffer with
  | none => adapter
  | some buffer =>
    let acquired := { adapter with received := adapter.received ++ [buffer] }
    if buffer.valid then (acquired.push buffer).driveBufferCircle created else acquired

/-- `CheckBufferSize` raises `maxCbDataSize_` and turns the buffer circle. -/
def noteLength (length : Nat) (created : Bool) (adapter : LppAudioRenderAdapter) :
    LppAudioRenderAdapter :=
  { adapter with maxCbDataSize := max adapter.maxCbDataSize length }.driveBufferCircle created

/-- What `CheckBufferSize` returns, with the size before the buffer circle turned. -/
def checkBufferSize (length : Nat) (adapter : LppAudioRenderAdapter) : Bool :=
  decide ((length : Int) ≤ adapter.availDataSize) || adapter.isEos

/-- The loop of `FillAudioBuffer`, with the data that it leaves in the buffer. -/
def fillLoop (hasBuffer : Bool) (size : Nat) (adapter : LppAudioRenderAdapter) :
    LppAudioRenderAdapter × List UInt8 :=
  let start : Fill := ⟨size, adapter.currentQueuedBufferOffset, adapter.availDataSize, []⟩
  let swap := start.takeFrom hasBuffer adapter.swapOutputBuffers
  let avail :=
    if swap.2.2 then swap.2.1.takeFrom hasBuffer adapter.availOutputBuffers
    else (adapter.availOutputBuffers, swap.2.1, false)
  ({ adapter with
      swapOutputBuffers := swap.1
      availOutputBuffers := avail.1
      currentQueuedBufferOffset := avail.2.1.currentQueuedBufferOffset
      availDataSize := avail.2.1.availDataSize }, avail.2.1.data)

def fillAudioBuffer (size : Nat) (bufferDesc : BufferDesc) (adapter : LppAudioRenderAdapter) :
    LppAudioRenderAdapter × List UInt8 :=
  if size = 0 ∨ size ≠ bufferDesc.bufLength then (adapter, bufferDesc.data)
  else adapter.fillLoop bufferDesc.buffer size

/-- `Enqueue`, whose result nobody looks at. -/
def enqueue (data : List UInt8) (adapter : LppAudioRenderAdapter) : LppAudioRenderAdapter :=
  { adapter with enqueued := adapter.enqueued ++ data }

def dropEosBuffer (adapter : LppAudioRenderAdapter) : LppAudioRenderAdapter :=
  match adapter.availOutputBuffers with
  | [] => adapter
  | cacheBuffer :: rest =>
    if adapter.isEos ∧ cacheBuffer.eos then
      { adapter with
        availOutputBuffers := rest
        completions := adapter.completions ++
          [⟨adapter.accepted.length - adapter.availOutputBuffers.length, adapter.enqueued⟩] }
    else adapter

def onWriteData (request : WriteRequest) (created : Bool) (adapter : LppAudioRenderAdapter) :
    LppAudioRenderAdapter :=
  let noted := adapter.noteLength request.length created
  if adapter.checkBufferSize request.length then
    let filled := noted.fillAudioBuffer request.length request.bufferDesc
    (filled.1.enqueue filled.2).dropEosBuffer
  else noted

def flush (flushed : Bool) (adapter : LppAudioRenderAdapter) : LppAudioRenderAdapter :=
  if flushed then { maxCbDataSize := adapter.maxCbDataSize } else adapter

end LppAudioRenderAdapter

/-- What happens to the adapter, one step at a time. -/
inductive AdapterEvent where
  | bufferAvailable (filledInputBuffer : Option AVBuffer) (created : Bool)
  | writeData (request : WriteRequest) (created : Bool)
  | flush (flushed : Bool)

namespace LppAudioRenderAdapter

def next (adapter : LppAudioRenderAdapter) : AdapterEvent → LppAudioRenderAdapter
  | .bufferAvailable filledInputBuffer created =>
    adapter.handleBufferAvailable filledInputBuffer created
  | .writeData request created => adapter.onWriteData request created
  | .flush flushed => adapter.flush flushed

def after (events : List AdapterEvent) : LppAudioRenderAdapter := Transition.run next {} events

end LppAudioRenderAdapter

end PlayerFramework.LowPower
