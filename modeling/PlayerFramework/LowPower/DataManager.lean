import Mathlib.Data.List.Basic
import PlayerFramework.Transition

/-!
`LppAudioDataManager` and `LppVideoDataManager` (`lpp_audio_data_manager.cpp`,
`lpp_video_data_manager.cpp`), which carry frames from the packets of the client to the input
buffers of a decoder. `dataPacketMutex_` is held for a whole step.
-/

namespace PlayerFramework.LowPower

structure Frame where
  eos : Bool := false
  size : Nat
deriving DecidableEq

/-- The frames of a packet that are not read yet. `answers` is the number of the data-needed
event that the client answers with it, a history variable. -/
structure LppDataPacket where
  frames : List Frame
  answers : Option Nat := none
deriving DecidableEq

def LppDataPacket.isEmpty (packet : LppDataPacket) : Bool := packet.frames.isEmpty

/-- `WriteOneFrameToAVBuffer`: the frames written and the frames left. -/
def writeOneFrameToAVBuffer (_capacity : Nat) : List Frame → List Frame × List Frame
  | [] => ([], [])
  | frame :: rest => ([frame], rest)

/-- The loop of `WriteToByteBuffer`. Before each frame stand its time and its size; `memcpy_s`
copies no empty frame, and an EOS frame ends the buffer. -/
def writeFrames (capacity : Nat) : Nat → List Frame → List Frame × List Frame
  | _, [] => ([], [])
  | offset, frame :: rest =>
    if frame.eos then ([frame], rest)
    else if capacity < offset + 12 + frame.size ∨ frame.size = 0 then ([], frame :: rest)
    else
      let later := writeFrames capacity (offset + 12 + frame.size) rest
      (frame :: later.1, later.2)

/-- The count of the frames comes first. -/
def writeToByteBuffer (capacity : Nat) (frames : List Frame) : List Frame × List Frame :=
  writeFrames capacity 4 frames

/-- Frames pushed to the decoder, the event their packet answered, and how many events were sent
before the last flush. -/
structure Push where
  frames : List Frame
  answers : Option Nat
  flushedAt : Nat
deriving DecidableEq

/-- The frames answer an event that was sent before the last flush. -/
def Push.stale (push : Push) : Bool :=
  !push.frames.isEmpty && push.answers.any (fun number => decide (number < push.flushedAt))

/-- `running` is the state of the task, `jobs` what is submitted to it and not begun, and `free`
counts the input buffers that the decoder does not hold. The last five are history variables:
the data-needed events sent, those sent before the last flush, those answered, what was pushed,
and the packets that had frames left when they were replaced. -/
structure DataManager where
  dataPacket : Option LppDataPacket := none
  isRequiringData : Bool := false
  running : Bool := false
  jobs : Nat := 0
  free : Nat := 0
  dataNeeded : Nat := 0
  flushedAt : Nat := 0
  answered : List Nat := []
  pushes : List Push := []
  overwritten : List LppDataPacket := []
deriving DecidableEq

/-- Where the two managers differ: whether `Resume` submits a job, and how frames are written to
a buffer of some capacity. -/
structure ManagerKind where
  resumeSubmits : Bool
  write : Nat → List Frame → List Frame × List Frame

def lppAudioDataManager : ManagerKind := ⟨false, writeOneFrameToAVBuffer⟩

def lppVideoDataManager (disablePacketInput : Bool) : ManagerKind :=
  ⟨true, if disablePacketInput then writeOneFrameToAVBuffer else writeToByteBuffer⟩

/-- `bufferFreed`: the decoder gives an input buffer back, and the producer notifies. `pushed` is
what `PushBuffer` answers. -/
inductive ManagerEvent where
  | start
  | pause
  | resume
  | flush
  | bufferFreed
  | processNewData (framePacket : LppDataPacket)
  | job (capacity : Nat) (pushed : Bool)
deriving DecidableEq

namespace DataManager

def onBufferAvailable (manager : DataManager) : DataManager :=
  { manager with jobs := manager.jobs + 1 }

def start (manager : DataManager) : DataManager :=
  { manager with running := true }.onBufferAvailable

def pause (manager : DataManager) : DataManager := { manager with running := false }

def resume (kind : ManagerKind) (manager : DataManager) : DataManager :=
  let resumed := { manager with running := true }
  if kind.resumeSubmits then resumed.onBufferAvailable else resumed

def flush (manager : DataManager) : DataManager :=
  { manager with
    dataPacket := none, isRequiringData := false, flushedAt := manager.dataNeeded }

def bufferFreed (manager : DataManager) : DataManager :=
  { manager with free := manager.free + 1 }.onBufferAvailable

/-- The packet in hand, if it has frames left. -/
def held (manager : DataManager) : Option LppDataPacket :=
  manager.dataPacket.filter (fun packet => !packet.isEmpty)

/-- Only an event that was sent can be answered. -/
def processNewData (framePacket : LppDataPacket) (manager : DataManager) : DataManager :=
  { manager with
    dataPacket := some framePacket
    isRequiringData := false
    answered := manager.answered ++
      framePacket.answers.toList.filter (fun number => decide (number < manager.dataNeeded))
    overwritten := manager.overwritten ++ manager.held.toList }.onBufferAvailable

def requireData (manager : DataManager) : DataManager :=
  { manager with
    isRequiringData := true, dataNeeded := manager.dataNeeded + 1, dataPacket := none }

/-- Frames of the packet go into a buffer that the decoder has free. -/
def pushFrames (kind : ManagerKind) (capacity : Nat) (pushed : Bool) (packet : LppDataPacket)
    (manager : DataManager) : DataManager :=
  let written := kind.write capacity packet.frames
  let taken := { manager with
    free := manager.free - 1, dataPacket := some { packet with frames := written.2 } }
  if pushed then
    let push : Push := ⟨written.1, packet.answers, manager.flushedAt⟩
    { taken with pushes := manager.pushes ++ [push] }.onBufferAvailable
  else taken

def handleBufferAvailable (kind : ManagerKind) (capacity : Nat) (pushed : Bool)
    (manager : DataManager) : DataManager :=
  if manager.isRequiringData then manager
  else
    match manager.dataPacket with
    | none => manager.requireData
    | some packet =>
      if packet.isEmpty then manager.requireData
      else if manager.free = 0 then manager
      else manager.pushFrames kind capacity pushed packet

def job (kind : ManagerKind) (capacity : Nat) (pushed : Bool) (manager : DataManager) :
    DataManager :=
  if manager.running ∧ 0 < manager.jobs then
    { manager with jobs := manager.jobs - 1 }.handleBufferAvailable kind capacity pushed
  else manager

def next (kind : ManagerKind) (manager : DataManager) : ManagerEvent → DataManager
  | .start => manager.start
  | .pause => manager.pause
  | .resume => manager.resume kind
  | .flush => manager.flush
  | .bufferFreed => manager.bufferFreed
  | .processNewData framePacket => manager.processNewData framePacket
  | .job capacity pushed => manager.job kind capacity pushed

/-- A prepared manager of a decoder with free input buffers. -/
def prepared (free : Nat) : DataManager := { free := free }

end DataManager

end PlayerFramework.LowPower
