/-
# Device-control requests

A request from user mode passes a dispatcher, the handler of its code, and inside most
handlers `ValidateIoctl`. Each of the three can complete it. What keeps them apart is a
convention on return values: whoever returns a status other than `STATUS_SUCCESS` has
completed the request.

A handler is written here as a computation that leaves a log of what others can see,
completions among it, and stops early with the status it returns. What the framework
answers, and which faults the probes of user memory raise, is collected in an `Env` for
the one request; what the adapter's functions return is a parameter of its own.
-/

import VirtDisplay.Adapter.Cursor
import VirtDisplay.Foundation.Logged
import VirtDisplay.Modes.OfferedModes

namespace VirtDisplay.Ioctl

open Logged

/-- An `NTSTATUS` as a number. -/
abbrev NtCode : Type := BitVec 32

namespace NtCode

def success : NtCode := 0x00000000#32
def unsuccessful : NtCode := 0xC0000001#32
def invalidParameter : NtCode := 0xC000000D#32
def invalidDeviceRequest : NtCode := 0xC0000010#32
def noMemory : NtCode := 0xC0000017#32
def bufferTooSmall : NtCode := 0xC0000023#32
def insufficientResources : NtCode := 0xC000009A#32
def deviceNotReady : NtCode := 0xC00000A3#32
def notSupported : NtCode := 0xC00000BB#32
def invalidUserBuffer : NtCode := 0xC00000E8#32

/-- `NT_SUCCESS`: the code is not negative. -/
def ntSuccess (code : NtCode) : Bool := !code.msb

end NtCode

/-- The number of a status of the adapter. -/
def statusCode : NtStatus → NtCode
  | .success => .success
  | .unsuccessful => .unsuccessful
  | .invalidParameter => .invalidParameter
  | .notSupported => .notSupported
  | .noMemory => .noMemory
  | .insufficientResources => .insufficientResources

/-- An exception in a guarded access to user memory. Its code is a failure status. -/
structure Fault where
  code : NtCode
  failure : code.ntSuccess = false

abbrev frameMetaDataSize : Nat := 40
abbrev cursorDataSize : Nat := 56
abbrev edidInfoSize : Nat := 776
abbrev screenInfoSize : Nat := 4
abbrev hpInfoSize : Nat := 16
abbrev responseSize : Nat := 2

/-- `MAXSIZE_T`. -/
abbrev maxSizeT : Nat := 2 ^ 64 - 1

/-- `CursorData`, as far as the kernel reads it. -/
structure CursorData where
  screenNum : Nat
  cursorX : Int
  cursorY : Int
  width : Nat
  height : Nat
  pitch : Nat
  colorFormat : D3DDDIFormat
  /-- The address of the pixels. -/
  data : Nat
  xHot : Nat
  yHot : Nat

/-- `IoControlCode`, with what the buffer holds that the code has it read from. -/
inductive ControlCode
  | frameData (frame : FrameMetaData)
  | cursorData (cursor : CursorData)
  | cursorPos (cursor : CursorData)
  | getEdidData (screenNum : Nat)
  | setMode (frame : FrameMetaData)
  | testImage (frame : FrameMetaData)
  | getTotalScreens (totalScreens : Nat)
  | hpEvent (event : Nat)
  | releaseFb (screenNum : Nat)
  | other (code : Nat)

/-- A request as the framework delivers it. Addresses are zero for `NULL`. -/
structure IoRequest where
  code : ControlCode
  inputBufferLength : Nat
  outputBufferLength : Nat
  /-- `Type3InputBuffer`, for the codes that pass user addresses on. -/
  inputBuffer : Nat
  /-- `UserBuffer` of the IRP. -/
  outBuffer : Nat

/-- What a retrieval of a request's buffer answers. -/
structure Retrieval where
  status : NtCode
  /-- The address is not `NULL`. -/
  mapped : Bool

/-- The environment's answers during one request. -/
structure Env where
  /-- `WdfRequestWdmGetIrp`. -/
  irp : Bool
  /-- `IoGetCurrentIrpStackLocation`. -/
  irpStack : Bool
  /-- The device context and its adapter are there. -/
  adapter : Bool
  /-- `KeGetCurrentIrql() == PASSIVE_LEVEL`. -/
  passiveLevel : Bool
  /-- `WdfRequestRetrieveInputBuffer`. -/
  input : Retrieval
  /-- `WdfRequestRetrieveOutputBuffer`. -/
  output : Retrieval
  /-- The fault while the input is captured. -/
  captureFault : Option Fault
  /-- The fault while the frame or the pixels are probed. -/
  probeFault : Option Fault
  /-- The fault while the response is written. -/
  writeFault : Option Fault
  /-- `GetFbVAddr` of the request's screen. -/
  fbVAddr : Nat
  /-- The mode lists `GET_EDID_DATA` reports. -/
  modes : ModeState
  /-- `GetNumScreens`. -/
  numScreens : Nat

/-- Why a request is completed. -/
inductive Cause
  /-- The request's buffers: their sizes, addresses, accessibility or overlap. -/
  | buffers
  /-- The values in the input. -/
  | contents
  /-- The device is not in a state to serve the request, or the adapter refused. -/
  | device
  /-- The request was served. -/
  | served
  deriving DecidableEq

/-- A call of one of the adapter's functions. -/
inductive AdapterCall
  | setCurrentModeExt (f : AcceptedFrame)
  | blackOutScreen (f : AcceptedFrame) (fbVAddr : Nat)
  | executePresentDisplayZeroCopy (f : AcceptedFrame)
  | setPointerShape (i : ScreenId) (shape : PointerShape) (format : D3DDDIFormat)
  | setPointerPosition (i : ScreenId) (x y : Nat)
  | releaseFrameBuffer (screenNum : Nat)
  /-- `SetEvent`, which keeps the user's event for hot-plug notifications. -/
  | setEvent (event : Nat)

/-- What a request writes to its output buffer. -/
inductive Reply
  | response
  | edid (info : EdidInfo)
  | totalScreens (screens : Nat)
  /-- `FillPresentStatus`. -/
  | presents (enabled : ScreenId → Bool)

/-- What others can see of a request. The cause of a completion is the model's note. -/
inductive IoEvent
  /-- `WdfRequestComplete`. -/
  | complete (status : NtCode) (cause : Cause)
  | adapter (call : AdapterCall)
  | write (reply : Reply)
  /-- `WdfRequestSetInformation`. -/
  | information (bytes : Nat)

/-- A handler, or a part of one. -/
abbrev Handler : Type → Type := Logged IoEvent NtCode

/-- What the adapter's functions return. -/
abbrev Returns : Type := AdapterCall → NtCode

/-- `WdfRequestComplete(Request, status); return status;` -/
def fail {α : Type} (status : NtCode) (cause : Cause) : Handler α :=
  stop (.complete status cause) status

/-- Go on if the condition holds. -/
def demand (condition : Prop) [Decidable condition] (status : NtCode) (cause : Cause) :
    Handler Unit :=
  if condition then pure () else fail status cause

/-- The `__except` branch behind a guarded access. -/
def guarded (fault : Option Fault) : Handler Unit :=
  match fault with
  | some fault => fail fault.code .buffers
  | none => pure ()

/-- A call of an adapter function that returns a status. -/
def call (returns : Returns) (adapterCall : AdapterCall) : Handler NtCode := do
  emit (.adapter adapterCall)
  pure (returns adapterCall)

/-- `BuffersOverlap`. -/
def buffersOverlap (inputBuffer inputBufferLength outputBuffer outputBufferLength : Nat) : Bool :=
  if inputBuffer = 0 ∨ outputBuffer = 0 ∨ inputBufferLength = 0 ∨ outputBufferLength = 0 then false
  else if maxSizeT - inputBuffer < inputBufferLength ∨
    maxSizeT - outputBuffer < outputBufferLength then
    false
  else
    inputBuffer < outputBuffer + outputBufferLength &&
      outputBuffer < inputBuffer + inputBufferLength

/-- A screen number in range. -/
def admitScreen (screenNum : Nat) : Except NtStatus ScreenId :=
  if h : screenNum < maxScanOut then .ok ⟨screenNum, h⟩ else .error .invalidParameter

/-- The checks of `ValidateIoctl` for `VALIDATE_CURSOR`. -/
def admitCursor (cursor : CursorData) : Except NtStatus ScreenId :=
  match admitScreen cursor.screenNum with
  | .error status => .error status
  | .ok i =>
      if cursor.width > pointerSize ∨ cursor.height > pointerSize then .error .invalidParameter
      else .ok i

/-- The checks of `ValidateIoctl` for `VALIDATE_CURSOR_POSITION`. -/
def admitCursorPosition (cursor : CursorData) : Except NtStatus ScreenId :=
  admitScreen cursor.screenNum

/-- The checks of `ValidateIoctl` for `VALIDATE_TOTAL_SCREENS`. -/
def admitTotalScreens (totalScreens : Nat) : Except NtStatus Unit :=
  if totalScreens > maxScanOut then .error .invalidParameter else .ok ()

/-- The checks of `ValidateIoctl` for `VALIDATE_HP_EVENT`. -/
def admitHpEvent (event : Nat) : Except NtStatus Unit :=
  if event = 0 then .error .invalidParameter else .ok ()

/-- `ValidateIoctl` with the checks of one type. The status it returns for a null
pointer is not the one it completes the request with. -/
def validateIoctl {δ α : Type} (checks : δ → Except NtStatus α) (mapped : Bool) (data : δ) :
    Handler α :=
  if ¬ mapped then stop (.complete .insufficientResources .buffers) .unsuccessful
  else
    match checks data with
    | .error status => fail (statusCode status) .contents
    | .ok value => pure value

section

variable (env : Env) (returns : Returns) (req : IoRequest)

/-- The start of the handlers that are passed user addresses: the input is captured into a
local copy. Only the status for a null input differs between them. -/
def captureInput (size : Nat) (nullStatus : NtCode) : Handler Unit := do
  demand (env.irp = true) .invalidParameter .device
  demand (env.irpStack = true) .invalidParameter .device
  demand (env.adapter = true) .insufficientResources .device
  demand (size ≤ req.inputBufferLength) .bufferTooSmall .buffers
  demand (req.inputBuffer ≠ 0) nullStatus .buffers
  demand (env.passiveLevel = true) .invalidDeviceRequest .device
  guarded env.captureFault

/-- The end of the same handlers: the response is written to the user's address. -/
def respondToUser : Handler Unit := do
  demand (responseSize ≤ req.outputBufferLength) .bufferTooSmall .buffers
  demand (req.outBuffer ≠ 0) .invalidParameter .buffers
  guarded env.writeFault
  emit (.write .response)
  demand (buffersOverlap req.inputBuffer req.inputBufferLength req.outBuffer
    req.outputBufferLength = false) .invalidParameter .buffers
  emit (.information responseSize)

/-- The input of a buffered request. -/
def retrieveInput (size : Nat) : Handler Unit := do
  demand (size ≤ req.inputBufferLength) .bufferTooSmall .buffers
  demand (env.input.status.ntSuccess = true) .invalidUserBuffer .buffers

/-- The output of a buffered request. -/
def retrieveOutput (size : Nat) : Handler Unit := do
  demand (size ≤ req.outputBufferLength) .bufferTooSmall .buffers
  demand (env.output.status.ntSuccess = true) .insufficientResources .buffers

/-- The dispatcher's response to the requests whose handler leaves it to it. -/
def respond : Handler Unit := do
  retrieveOutput env req responseSize
  emit (.write .response)
  emit (.information responseSize)

/-- The frame's size in bytes does not overflow. -/
def demandFrameSize (frame : FrameMetaData) : Handler Unit :=
  demand (frame.stride ≠ 0 ∧ frame.height ≤ maxSizeT / frame.stride) .invalidParameter .contents

/-- The checks of `IoctlRequestSetMode`. -/
def receiveMode (frame : FrameMetaData) : Handler AcceptedFrame := do
  demand (env.adapter = true) .insufficientResources .device
  retrieveInput env req frameMetaDataSize
  let f ← validateIoctl admitFrame env.input.mapped frame
  if frame.addr ≠ 0 then do
    demandFrameSize frame
    guarded env.probeFault
    pure f
  else pure f

/-- `IoctlRequestSetMode`. -/
def requestSetMode (frame : FrameMetaData) : Handler Unit := do
  let f ← receiveMode env req frame
  let status ← call returns (.setCurrentModeExt f)
  demand (status = .success) .unsuccessful .device
  emit (.adapter (.blackOutScreen f env.fbVAddr))

/-- The checks of `IoctlRequestPresentFb` before the present. -/
def receiveFrame (frame : FrameMetaData) : Handler AcceptedFrame := do
  captureInput env req frameMetaDataSize .insufficientResources
  let f ← validateIoctl admitFrame true frame
  demandFrameSize frame
  demand (buffersOverlap frame.addr (frame.height * frame.stride) req.outBuffer
    req.outputBufferLength = false) .invalidParameter .buffers
  guarded env.probeFault
  pure f

/-- `IoctlRequestPresentFb`. -/
def requestPresentFb (frame : FrameMetaData) : Handler Unit := do
  let f ← receiveFrame env req frame
  let status ← call returns (.executePresentDisplayZeroCopy f)
  demand (status = .success) .unsuccessful .device
  respondToUser env req

/-- `IoctlRequestEdid`. -/
def requestEdid (screenNum : Nat) : Handler Unit := do
  demand (env.adapter = true) .insufficientResources .device
  retrieveInput env req edidInfoSize
  let i ← validateIoctl admitScreen env.input.mapped screenNum
  retrieveOutput env req edidInfoSize
  emit (.write (.edid (ioctlRequestEdid env.modes i)))
  emit (.information edidInfoSize)

/-- `IoctlRequestTotalScreens`, which validates what it finds in its output buffer. -/
def requestTotalScreens (totalScreens : Nat) : Handler Unit := do
  demand (env.adapter = true) .insufficientResources .device
  retrieveOutput env req screenInfoSize
  validateIoctl admitTotalScreens env.output.mapped totalScreens
  emit (.write (.totalScreens env.numScreens))
  emit (.information screenInfoSize)

/-- `IoctlRequestHPEventInfo`. -/
def requestHPEventInfo (event : Nat) : Handler Unit := do
  retrieveInput env req hpInfoSize
  demand (env.adapter = true) .insufficientResources .device
  retrieveOutput env req hpInfoSize
  validateIoctl admitHpEvent env.output.mapped event
  emit (.adapter (.setEvent event))
  emit (.write (.presents fun i => (env.modes.tables i).enabled))
  emit (.information hpInfoSize)

/-- The image and the place `IoctlSetPointerShape` hands to the adapter; coordinates left
of or above the screen become zero. -/
def CursorData.shape (cursor : CursorData) : PointerShape where
  width := cursor.width
  height := cursor.height
  x := cursor.cursorX.toNat
  y := cursor.cursorY.toNat
  hotX := cursor.xHot
  hotY := cursor.yHot

/-- The checks of `IoctlSetPointerShape` before the pointer is set. -/
def receiveShape (cursor : CursorData) : Handler ScreenId := do
  captureInput env req cursorDataSize .invalidParameter
  let i ← validateIoctl admitCursor true cursor
  demand (cursor.width ≠ 0 ∧ cursor.height ≠ 0) .invalidParameter .contents
  demand (cursor.height ≤ maxSizeT / (cursor.width * 4)) .invalidParameter .contents
  guarded env.probeFault
  pure i

/-- `IoctlSetPointerShape`. -/
def setPointerShape (cursor : CursorData) : Handler Unit := do
  let i ← receiveShape env req cursor
  let status ← call returns (.setPointerShape i cursor.shape cursor.colorFormat)
  demand (status = .success) .unsuccessful .device
  respondToUser env req

/-- The checks of `IoctlSetPointerPosition`. -/
def receivePosition (cursor : CursorData) : Handler ScreenId := do
  demand (env.adapter = true) .insufficientResources .device
  retrieveInput env req cursorDataSize
  validateIoctl admitCursorPosition env.input.mapped cursor

/-- `IoctlSetPointerPosition`. -/
def setPointerPosition (cursor : CursorData) : Handler Unit := do
  let i ← receivePosition env req cursor
  let status ← call returns (.setPointerPosition i cursor.cursorX.toNat cursor.cursorY.toNat)
  demand (status = .success) .unsuccessful .device

/-- A handler's part in the dispatcher, which returns if the handler's status is not
`STATUS_SUCCESS`. -/
def handled (handler : Handler Unit) : Handler Unit :=
  match handler.result with
  | .ok () => handler
  | .error status => if status = .success then ⟨handler.log, .ok ()⟩ else handler

/-- The `RELEASE_FB` case of the dispatcher. -/
def releaseFb (screenNum : Nat) : Handler Unit := do
  retrieveInput env req 4
  demand (env.adapter = true) .deviceNotReady .device
  let status ← call returns (.releaseFrameBuffer screenNum)
  demand (status.ntSuccess = true) status .device

/-- The `switch` of `IntelVirtDisplayKMDEvtIoDeviceControl`. -/
def dispatch : Handler Unit :=
  match req.code with
  | .frameData frame | .testImage frame => handled (requestPresentFb env returns req frame)
  | .cursorData cursor => handled (setPointerShape env returns req cursor)
  | .cursorPos cursor => do
      handled (setPointerPosition env returns req cursor)
      respond env req
  | .getEdidData screenNum => handled (requestEdid env req screenNum)
  | .setMode frame => do
      handled (requestSetMode env returns req frame)
      respond env req
  | .getTotalScreens totalScreens => handled (requestTotalScreens env req totalScreens)
  | .hpEvent event => handled (requestHPEventInfo env req event)
  | .releaseFb screenNum => releaseFb env returns req screenNum
  | .other _ => pure ()

/-- `IntelVirtDisplayKMDEvtIoDeviceControl`: what is left of a request when it returns. -/
def evtIoDeviceControl : List IoEvent :=
  let served : Handler Unit := do
    demand (req.outputBufferLength ≠ 0 ∧ req.inputBufferLength ≠ 0) .invalidParameter .buffers
    dispatch env returns req
  match served.result with
  | .ok () => served.log ++ [.complete .success .served]
  | .error _ => served.log

end

end VirtDisplay.Ioctl
