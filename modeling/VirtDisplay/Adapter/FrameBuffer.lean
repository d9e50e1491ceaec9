/-
# Building, flushing and destroying a screen's frame buffer

The functions here run with the screen mutex held and touch one screen. They are
written over a `Ctx`: that screen, the id allocator, and the list of actions the
function has performed so far, in order. An action is anything another party can
see or race with, such as a command on the ring, a change of `m_FlushCount`, or a
page lock taken or released; everything else is private to the mutex holder.

A frame-buffer object carries a `Provenance`, the model's record of how the object
came about. No definition below reads it.
-/

import VirtDisplay.Adapter.Device
import VirtDisplay.Modes.ModeTable

namespace VirtDisplay

/-- How a frame-buffer object was built. -/
structure Provenance where
  /-- A number no other object has. -/
  serial : Nat
  /-- The request it was built for. -/
  request : CurrentMode
  /-- The host was told to create the resource over the segment's pages. -/
  hostBuilt : Bool
  /-- The format in the command that carried it, if that command was queued. -/
  hostFormat : Option VirtioGpuFormat
  deriving DecidableEq

/-- `VioGpuObj` over its screen's segment. -/
structure VioGpuObj where
  /-- `m_uiHwRes`, zero until the attach step sets it. -/
  hwRes : Nat
  size : Nat
  origin : Provenance
  deriving DecidableEq

/-- `ScreenInfo`, its flush counter apart: that one is shared with the DPC. The
`Back` slot of the frame buffer is never filled. -/
structure ScreenInfo where
  modes : ModeTable
  frameSegment : Segment
  /-- The `Front` slot of `m_pFrameBuf`. -/
  front : Option VioGpuObj
  fbSrcAddr : Nat
  fbWidth : Nat
  fbHeight : Nat
  fbStride : Nat
  flushStallCount : Nat
  cursorBuf : Option VioGpuObj
  cursorSegment : Segment

/-- What a call does that others can observe. -/
inductive Action
  /-- A command was placed on the control queue. -/
  | submit (submission : Submission)
  /-- `m_FlushCount` was incremented and `ResFlush` called for the object with this
  serial; the command is absent if its buffer could not be allocated or queued. -/
  | flush (screen : ScreenId) (serial : Nat) (cmd : Option GpuCmd)
  /-- `m_FlushCount` was set to zero. -/
  | clearFlush (screen : ScreenId)
  /-- A page lock was taken or released. -/
  | pages (event : PageEvent)
  /-- A command was placed on the cursor queue. -/
  | cursor (cmd : CursorCmd)
  /-- The device was reset and its queues deleted. -/
  | reset
  deriving DecidableEq

/-- What a function on one screen works on. -/
structure Ctx where
  screen : ScreenInfo
  idr : Idr
  /-- The next unused lock or object number. -/
  serial : Nat
  actions : List Action

namespace Ctx

variable (c : Ctx) (o : Outcomes)

/-- Queue a command, if the environment lets it. -/
def submit (cmd : GpuCmd) (backing : Option Nat) : Ctx :=
  if o.accepts cmd then { c with actions := c.actions ++ [.submit ⟨cmd, backing⟩] } else c

/-- Record what happened to page locks. -/
def pages (events : List PageEvent) : Ctx :=
  { c with actions := c.actions ++ events.map .pages }

/-- `m_FlushCount++` and `CtrlQueue::ResFlush`. -/
def resFlush (i : ScreenId) (serial resourceId width height : Nat) : Ctx :=
  let cmd := GpuCmd.resourceFlush i.val resourceId width height
  { c with actions :=
      c.actions ++ [.flush i serial (if o.accepts cmd then some cmd else none)] }

/-- `m_FlushCount = 0`. -/
def clearFlush (i : ScreenId) : Ctx := { c with actions := c.actions ++ [.clearFlush i] }

@[simp] theorem submit_screen (cmd : GpuCmd) (backing : Option Nat) :
    (c.submit o cmd backing).screen = c.screen := by unfold submit; split <;> rfl

@[simp] theorem submit_idr (cmd : GpuCmd) (backing : Option Nat) :
    (c.submit o cmd backing).idr = c.idr := by unfold submit; split <;> rfl

@[simp] theorem submit_serial (cmd : GpuCmd) (backing : Option Nat) :
    (c.submit o cmd backing).serial = c.serial := by unfold submit; split <;> rfl

/-- The action a submission performs, if it is accepted. -/
theorem submit_actions (cmd : GpuCmd) (backing : Option Nat) : (c.submit o cmd backing).actions =
    c.actions ++ if o.accepts cmd then [.submit ⟨cmd, backing⟩] else [] := by
  unfold submit
  split
  next => rfl
  next => rw [List.append_nil]

end Ctx

/-- `DestroyFrameBufferObj` on the front slot. -/
def destroyFrameBufferObj (o : Outcomes) (bReset : Bool) (c : Ctx) : Ctx :=
  match c.screen.front with
  | none => c
  | some fbuf =>
      let resid := fbuf.hwRes
      let c := { c with screen := { c.screen with front := none } }
      let c := c.submit o (.resourceDetachBacking resid) none
      let c := c.submit o (.resourceUnref resid) none
      let c := if bReset then c.submit o (.setScanout 0 0 0 0) none else c
      { c with idr := c.idr.putId resid }

/-- `DestroyCursor`. -/
def destroyCursor (o : Outcomes) (c : Ctx) : Ctx :=
  match c.screen.cursorBuf with
  | none => c
  | some cursor =>
      let id := cursor.hwRes
      let c := { c with screen := { c.screen with cursorBuf := none } }
      let c := c.submit o (.resourceDetachBacking id) none
      let c := c.submit o (.resourceUnref id) none
      { c with idr := c.idr.putId id }

/-- `GpuObjectAttach`: whether it returned `TRUE`, after which the object's id is
`resId`. The list of a segment that has none is read as empty; `VioGpuObj::Init`
has refused such a segment before. -/
def gpuObjectAttach (o : Outcomes) (blob : Bool) (resId : Nat) (segment : Segment)
    (height stride : Nat) (c : Ctx) : Ctx × Bool :=
  if o.newEnts then
    let ents := segment.sgList.getD []
    let cmd :=
      if blob then GpuCmd.resourceCreateBlob resId ents (roundToPages (stride * height * 4))
      else GpuCmd.resourceAttachBacking resId ents
    (c.submit o cmd segment.mdl, true)
  else (c, false)

/-- The segment update inside `CreateFrameBufferObj`: a user frame is locked anew,
and without one the segment grows if it is too small. The result of `Init` is
ignored, so only the first case can fail. -/
def updateFrameSegment (o : Outcomes) (mdl size ptr : Nat) (segment : Segment) : Segment.Result :=
  if ptr ≠ 0 then
    if segment.vAddr ≠ 0 then
      let again := Segment.initExt o mdl size ptr segment.close
      { again with events := segment.closeEvents ++ again.events }
    else Segment.initExt o mdl size ptr segment
  else if segment.vAddr ≠ 0 ∧ size > segment.size then
    let grown := Segment.init o mdl size segment.close
    { grown with ok := true, events := segment.closeEvents ++ grown.events }
  else ⟨segment, true, []⟩

/-- Whether the host was told to create the resource over its pages. -/
def hostBuilds (o : Outcomes) (blob : Bool) (resid : Nat) (segment : Segment)
    (info : VideoModeInfo) (mode : CurrentMode) : Bool :=
  let ents := segment.sgList.getD []
  o.newEnts &&
    if blob then
      o.accepts (.resourceCreateBlob resid ents
        (roundToPages (mode.stride * info.visScreenHeight * 4)))
    else
      o.accepts (.resourceCreate2D resid (colorFormat mode.colorFormat) info.visScreenWidth
          info.visScreenHeight) &&
        o.accepts (.resourceAttachBacking resid ents)

/-- The format the host was given, by the command that carries it. -/
def hostConfigures (o : Outcomes) (blob : Bool) (i : ScreenId) (resid : Nat)
    (info : VideoModeInfo) (mode : CurrentMode) : Option VirtioGpuFormat :=
  let format := colorFormat mode.colorFormat
  let cmd :=
    if blob then
      GpuCmd.setScanoutBlob i.val resid info.visScreenWidth info.visScreenHeight format
        (mode.stride * 4 % 2 ^ 32)
    else GpuCmd.resourceCreate2D resid format info.visScreenWidth info.visScreenHeight
  if o.accepts cmd then some format else none

/-- `CreateFrameBufferObj` from the point where the segment is ready and the object
initialised: attach, configure the scanout, flush, install. -/
def installFrameBuffer (o : Outcomes) (blob : Bool) (i : ScreenId) (info : VideoModeInfo)
    (mode : CurrentMode) (resid serial size : Nat) (c : Ctx) : Ctx :=
  let segment := c.screen.frameSegment
  let format := colorFormat mode.colorFormat
  let (c, attached) :=
    gpuObjectAttach o blob resid segment info.visScreenHeight mode.stride c
  let c :=
    if blob then
      c.submit o (.setScanoutBlob i.val resid info.visScreenWidth info.visScreenHeight format
        (mode.stride * 4 % 2 ^ 32)) none
    else
      let c := c.submit o (.setScanout i.val resid info.visScreenWidth info.visScreenHeight) none
      c.submit o (.transferToHost2D resid info.visScreenWidth info.visScreenHeight) none
  let c := c.resFlush o i serial resid info.visScreenWidth info.visScreenHeight
  let obj : VioGpuObj :=
    { hwRes := if attached then resid else 0
      size := pagedSize size
      origin :=
        { serial := serial
          request := mode
          hostBuilt := hostBuilds o blob resid segment info mode
          hostFormat := hostConfigures o blob i resid info mode } }
  { c with screen := { c.screen with front := some obj } }

/-- `CreateFrameBufferObj`. Its early exits return the id and install nothing. -/
def createFrameBufferObj (o : Outcomes) (blob : Bool) (i : ScreenId) (info : VideoModeInfo)
    (mode : CurrentMode) (c : Ctx) : Ctx :=
  let size := mode.pitch * info.visScreenHeight % 2 ^ 32
  let format := colorFormat mode.colorFormat
  let (resid, idr) := c.idr.getId
  let serial := c.serial
  let c := { c with idr := idr, serial := c.serial + 1 }
  let c :=
    if blob then c
    else c.submit o
      (.resourceCreate2D resid format info.visScreenWidth info.visScreenHeight) none
  let updated := updateFrameSegment o serial size mode.ptr c.screen.frameSegment
  let c := { c with screen := { c.screen with frameSegment := updated.segment } }
  let c := c.pages updated.events
  if ¬ updated.ok then { c with idr := c.idr.putId resid }
  else if ¬ o.newObj then { c with idr := c.idr.putId resid }
  else if pagedSize size > updated.segment.size then { c with idr := c.idr.putId resid }
  else installFrameBuffer o blob i info mode resid serial size c

/-- `FlushFrameBufferObj`. -/
def flushFrameBufferObj (o : Outcomes) (blob : Bool) (i : ScreenId) (info : VideoModeInfo)
    (c : Ctx) : Ctx :=
  match c.screen.front with
  | none => c
  | some obj =>
      let c :=
        if blob then c
        else c.submit o
          (.transferToHost2D obj.hwRes info.visScreenWidth info.visScreenHeight) none
      c.resFlush o i obj.origin.serial obj.hwRes info.visScreenWidth info.visScreenHeight

end VirtDisplay
