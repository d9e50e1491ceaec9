/-
# The contract between the user-mode and the kernel-mode driver

Frame metadata reaches the kernel as a record of numbers the user chose. This
module gives that record, the checks `ValidateIoctl(VALIDATE_FRAME)` makes on it
in the order the code makes them, and the two translations of the pixel format.

A frame that passed the checks is a value of its own type, so everything after
validation speaks of `AcceptedFrame` and reads the bounds off the value instead
of assuming them again.
-/

import Mathlib.Tactic.NormNum
import Mathlib.Tactic.Ring
import VirtDisplay.Foundation.Pages

namespace VirtDisplay

/-- Number of scanouts the driver always serves. -/
abbrev maxScanOut : Nat := 4
instance : NeZero maxScanOut := ⟨by decide⟩
abbrev maxWidthSize : Nat := 3840
abbrev maxHeightSize : Nat := 2160
abbrev minWidthSize : Nat := 640
abbrev minHeightSize : Nat := 480
abbrev nomWidthSize : Nat := 1024
abbrev nomHeightSize : Nat := 768
/-- Width and height of the pointer resource. -/
abbrev pointerSize : Nat := 128
abbrev pageSize : Nat := 4096

/-- A screen number that has passed a range check. -/
abbrev ScreenId : Type := Fin maxScanOut

/-- The status codes the modelled functions return. -/
inductive NtStatus
  | success
  | unsuccessful
  | invalidParameter
  | notSupported
  | noMemory
  | insufficientResources
  deriving DecidableEq, Repr

abbrev frameTypeInvalid : Nat := 0
abbrev frameTypeBgra : Nat := 1
abbrev frameTypeRgba : Nat := 2
abbrev frameTypeRgba10 : Nat := 3
abbrev frameTypeMax : Nat := 5

/-- The `D3DDDIFORMAT` values the driver names; every other code is `other`. -/
inductive D3DDDIFormat
  | a8r8g8b8
  | x8r8g8b8
  | a2b10g10r10
  | a8b8g8r8
  | x8b8g8r8
  | other (code : Nat)
  deriving DecidableEq, Repr

/-- The virtio-gpu pixel formats the driver configures on the host. -/
inductive VirtioGpuFormat
  | b8g8r8a8Unorm
  | b8g8r8x8Unorm
  | r8g8b8a8Unorm
  | r8g8b8x8Unorm
  deriving DecidableEq, Repr

/-- `ColorFormatToD3DDDIFmt`: the neutral format of a request, as the display
pipeline names it. -/
def colorFormatToD3DDDIFmt (colorFormat : Nat) : D3DDDIFormat :=
  if colorFormat = frameTypeBgra then .a8r8g8b8
  else if colorFormat = frameTypeRgba then .a8b8g8r8
  else if colorFormat = frameTypeRgba10 then .a2b10g10r10
  else .a8r8g8b8

/-- `ColorFormat`: the virtio format of a pipeline format, with the fallback the
code logs and uses. -/
def colorFormat : D3DDDIFormat → VirtioGpuFormat
  | .a8r8g8b8 => .b8g8r8a8Unorm
  | .x8r8g8b8 => .b8g8r8x8Unorm
  | .a8b8g8r8 => .r8g8b8a8Unorm
  | .x8b8g8r8 => .r8g8b8x8Unorm
  | .a2b10g10r10 => .b8g8r8a8Unorm
  | .other _ => .b8g8r8a8Unorm

/-- `FrameMetaData`, as far as the kernel reads it. The fields are unsigned
machine numbers; `addr` is a user address with zero for `NULL`. -/
structure FrameMetaData where
  width : Nat
  height : Nat
  colorFormat : Nat
  pitch : Nat
  stride : Nat
  addr : Nat
  screenNum : Nat
  deriving DecidableEq, Repr

/-- `maxFrameSize`: four bytes for each pixel of the largest mode. -/
abbrev maxFrameSize : Nat := maxWidthSize * maxHeightSize * 4

/-- `ValidateIoctl` for `VALIDATE_FRAME`: the first check that fails decides the
status. -/
def validateFrame (frame : FrameMetaData) : NtStatus :=
  if frame.screenNum ≥ maxScanOut then .invalidParameter
  else if frame.width = 0 ∨ frame.height = 0 then .invalidParameter
  else if frame.width > maxWidthSize ∨ frame.height > maxHeightSize then .invalidParameter
  else if frame.stride = 0 then .invalidParameter
  else if frame.stride > maxFrameSize / frame.height then .invalidParameter
  else if frame.pitch < frame.width * 4 ∨ frame.pitch > maxWidthSize * 4 then .invalidParameter
  else if frame.colorFormat = frameTypeInvalid ∨ frame.colorFormat ≥ frameTypeMax then
    .invalidParameter
  else if frame.colorFormat = frameTypeRgba10 then .notSupported
  else .success

/-- What acceptance by `validateFrame` says, check by check. -/
theorem validateFrame_eq_success_iff (frame : FrameMetaData) :
    validateFrame frame = .success ↔
      frame.screenNum < maxScanOut ∧ 0 < frame.width ∧ 0 < frame.height ∧
      frame.width ≤ maxWidthSize ∧ frame.height ≤ maxHeightSize ∧ 0 < frame.stride ∧
      frame.stride ≤ maxFrameSize / frame.height ∧
      frame.width * 4 ≤ frame.pitch ∧ frame.pitch ≤ maxWidthSize * 4 ∧
      0 < frame.colorFormat ∧ frame.colorFormat < frameTypeMax ∧
      frame.colorFormat ≠ frameTypeRgba10 := by
  unfold validateFrame
  grind

/-- A frame `ValidateIoctl` accepted. -/
structure AcceptedFrame where
  /-- The metadata as the user sent it. -/
  frame : FrameMetaData
  /-- Every check passed. -/
  accepted : validateFrame frame = .success

namespace AcceptedFrame

variable (f : AcceptedFrame)

theorem screen_lt : f.frame.screenNum < maxScanOut :=
  ((validateFrame_eq_success_iff f.frame).mp f.accepted).1

/-- The screen the frame is for. -/
def screen : ScreenId := ⟨f.frame.screenNum, f.screen_lt⟩

theorem height_pos : 0 < f.frame.height :=
  ((validateFrame_eq_success_iff f.frame).mp f.accepted).2.2.1

theorem pitch_pos : 0 < f.frame.pitch := by
  obtain ⟨_, hwidth, _, _, _, _, _, hpitch, _⟩ :=
    (validateFrame_eq_success_iff f.frame).mp f.accepted
  omega

/-- The bytes of a frame, by its pitch, are at most those of the largest mode. -/
theorem pitch_mul_height_le : f.frame.pitch * f.frame.height ≤ maxFrameSize := by
  obtain ⟨_, _, _, _, hheight, _, _, _, hpitch, _⟩ :=
    (validateFrame_eq_success_iff f.frame).mp f.accepted
  calc f.frame.pitch * f.frame.height ≤ (maxWidthSize * 4) * maxHeightSize :=
        Nat.mul_le_mul hpitch hheight
    _ = maxFrameSize := by norm_num

theorem size_pos : 0 < f.frame.pitch * f.frame.height := Nat.mul_pos f.pitch_pos f.height_pos

/-- The byte count of a frame is computed in an `unsigned int` without loss. -/
theorem pitch_mul_height_mod : f.frame.pitch * f.frame.height % 2 ^ 32 =
    f.frame.pitch * f.frame.height :=
  Nat.mod_eq_of_lt (f.pitch_mul_height_le.trans_lt (by norm_num))

end AcceptedFrame

/-- Validate a request: either the status it is completed with, or the accepted
frame. -/
def admitFrame (frame : FrameMetaData) : Except NtStatus AcceptedFrame :=
  if h : validateFrame frame = .success then .ok ⟨frame, h⟩ else .error (validateFrame frame)

/-- `CURRENT_MODE`, as far as the adapter reads it. -/
structure CurrentMode where
  width : Nat
  height : Nat
  pitch : Nat
  targetId : ScreenId
  colorFormat : D3DDDIFormat
  stride : Nat
  /-- `Flags.FrameBufferIsActive`. -/
  frameBufferIsActive : Bool
  /-- Set by `SET_MODE`, clear for a frame present. -/
  setMode : Bool
  /-- `FrameBuffer.Ptr`, zero for `NULL`. -/
  ptr : Nat
  deriving DecidableEq, Repr

/-- The mode `IoctlRequestSetMode` builds for `SetCurrentModeExt`. -/
def AcceptedFrame.setModeRequest (f : AcceptedFrame) : CurrentMode where
  width := f.frame.width
  height := f.frame.height
  pitch := f.frame.pitch
  targetId := f.screen
  colorFormat := colorFormatToD3DDDIFmt f.frame.colorFormat
  stride := f.frame.stride
  frameBufferIsActive := false
  setMode := true
  ptr := f.frame.addr

/-- The mode `ExecutePresentDisplayZeroCopy` builds for `SetCurrentModeExt`. Its
pixel format is the constant `D3DDDIFMT_X8R8G8B8`, whatever the frame says. -/
def AcceptedFrame.presentRequest (f : AcceptedFrame) : CurrentMode where
  width := f.frame.width
  height := f.frame.height
  pitch := f.frame.pitch
  targetId := f.screen
  colorFormat := .x8r8g8b8
  stride := f.frame.stride
  frameBufferIsActive := false
  setMode := false
  ptr := f.frame.addr

/-- The mode `IoctlRequestSetMode` builds for `BlackOutScreen`, around the address
`GetFbVAddr` returned. -/
def AcceptedFrame.blackOutRequest (f : AcceptedFrame) (fbVAddr : Nat) : CurrentMode where
  width := f.frame.width
  height := f.frame.height
  pitch := f.frame.pitch
  targetId := f.screen
  colorFormat := .other 0
  stride := 0
  frameBufferIsActive := true
  setMode := false
  ptr := fbVAddr

end VirtDisplay
