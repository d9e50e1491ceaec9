/-
# The pointer of a screen

A pointer shape lives in a second resource of the screen, created and destroyed
through the control queue but shown through the cursor queue.
-/

import VirtDisplay.Adapter.FrameBuffer

namespace VirtDisplay

/-- `POINTER_SHAPE`, as far as the adapter hands it to the host. -/
structure PointerShape where
  width : Nat
  height : Nat
  x : Nat
  y : Nat
  hotX : Nat
  hotY : Nat
  deriving DecidableEq, Repr

/-- `CreateCursor`: whether it returned `TRUE`. Its failing exits keep the id. -/
def createCursor (o : Outcomes) (blob : Bool) (i : ScreenId) (shape : PointerShape)
    (format : D3DDDIFormat) (c : Ctx) : Ctx × Bool :=
  let size := pointerSize * pointerSize * 4
  let format := colorFormat format
  let (resid, idr) := c.idr.getId
  let serial := c.serial
  let c := { c with idr := idr, serial := c.serial + 1 }
  let c := if blob then c else c.submit o
    (.resourceCreate2D resid format pointerSize pointerSize) none
  let updated :=
    if c.screen.cursorSegment.vAddr = 0 then Segment.init o serial size c.screen.cursorSegment
    else ⟨c.screen.cursorSegment, true, []⟩
  let c := { c with screen := { c.screen with cursorSegment := updated.segment } }
  let c := c.pages updated.events
  if ¬ o.newObj then (c, false)
  else if pagedSize size > updated.segment.size then (c, false)
  else
    let (c, attached) := gpuObjectAttach o blob resid updated.segment pointerSize pointerSize c
    if ¬ attached then (c, false)
    else
      let request : CurrentMode :=
        { width := pointerSize, height := pointerSize, pitch := pointerSize * 4, targetId := i
          colorFormat := .other 0, stride := pointerSize, frameBufferIsActive := false
          setMode := false, ptr := 0 }
      let obj : VioGpuObj :=
        { hwRes := resid
          size := pagedSize size
          origin :=
            { serial := serial, request := request, hostBuilt := true, hostFormat := some format } }
      let c := { c with screen := { c.screen with cursorBuf := some obj } }
      let c := if blob then c else c.submit o
        (.transferToHost2D resid shape.width shape.height) none
      (c, true)

/-- `SetPointerShape`. Once the command buffer is there the call succeeds, whether
or not the ring took the command. -/
def setPointerShape (o : Outcomes) (blob : Bool) (i : ScreenId) (shape : PointerShape)
    (format : D3DDDIFormat) (c : Ctx) : Ctx × NtStatus :=
  match createCursor o blob i shape format (destroyCursor o c) with
  | (c, false) => (c, .unsuccessful)
  | (c, true) =>
      match c.screen.cursorBuf with
      | none => (c, .unsuccessful)
      | some cursor =>
          if ¬ o.allocCursor then (c, .unsuccessful)
          else
            let cmd :=
              CursorCmd.updateCursor i.val cursor.hwRes shape.x shape.y shape.hotX shape.hotY
            (if o.addCursor then { c with actions := c.actions ++ [.cursor cmd] } else c, .success)

/-- `SetPointerPosition`. -/
def setPointerPosition (o : Outcomes) (i : ScreenId) (x y : Nat) (c : Ctx) : Ctx × NtStatus :=
  match c.screen.cursorBuf with
  | none => (c, .unsuccessful)
  | some cursor =>
      if ¬ o.allocCursor then (c, .unsuccessful)
      else
        let cmd := CursorCmd.moveCursor i.val cursor.hwRes x y
        (if o.addCursor then { c with actions := c.actions ++ [.cursor cmd] } else c, .success)

end VirtDisplay
