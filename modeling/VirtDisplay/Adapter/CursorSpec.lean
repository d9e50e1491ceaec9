/-
# What the pointer functions do

The pointer's resource is built like a frame buffer's, over a segment of its own. As
there, one predicate decides whether an object is installed, and the actions are
listed once.
-/

import VirtDisplay.Adapter.Cursor
import VirtDisplay.Adapter.FrameBufferSpec

namespace VirtDisplay

/-- Two screens agree on everything about their frame buffer. -/
structure ScreenInfo.FrameEq (x y : ScreenInfo) : Prop where
  frameSegment : y.frameSegment = x.frameSegment
  front : y.front = x.front
  fbSrcAddr : y.fbSrcAddr = x.fbSrcAddr
  fbWidth : y.fbWidth = x.fbWidth
  fbHeight : y.fbHeight = x.fbHeight
  fbStride : y.fbStride = x.fbStride
  flushStallCount : y.flushStallCount = x.flushStallCount

theorem ScreenInfo.FrameEq.refl (x : ScreenInfo) : x.FrameEq x :=
  ⟨rfl, rfl, rfl, rfl, rfl, rfl, rfl⟩

variable (o : Outcomes) (blob : Bool) (i : ScreenId) (shape : PointerShape) (format : D3DDDIFormat)
  (c : Ctx)

/-- The bytes of a pointer image. -/
abbrev cursorSize : Nat := pointerSize * pointerSize * 4

/-- The pointer's segment, initialised if it has no memory. -/
def cursorUpdated : Segment.Result :=
  if c.screen.cursorSegment.vAddr = 0 then Segment.init o c.serial cursorSize c.screen.cursorSegment
  else ⟨c.screen.cursorSegment, true, []⟩

/-- The creation installs a pointer object. -/
def CursorBuildable : Prop :=
  o.newObj = true ∧ pagedSize cursorSize ≤ (cursorUpdated o c).segment.size ∧ o.newEnts = true

instance : Decidable (CursorBuildable o c) := inferInstanceAs (Decidable (_ ∧ _))

/-- The command that ties the pointer's resource to its pages. -/
def cursorAttachCmd (resid : Nat) (segment : Segment) : GpuCmd :=
  if blob then
    .resourceCreateBlob resid (frameEntries segment) (roundToPages (pointerSize * pointerSize * 4))
  else .resourceAttachBacking resid (frameEntries segment)

/-- The actions of creating a pointer under this resource id. -/
def createCursorActions (resid : Nat) : List Action :=
  (if blob then []
    else submitted o (.resourceCreate2D resid (colorFormat format) pointerSize pointerSize) none) ++
    (cursorUpdated o c).events.map .pages ++
    if CursorBuildable o c then
      submitted o (cursorAttachCmd blob resid (cursorUpdated o c).segment)
          (cursorUpdated o c).segment.mdl ++
        if blob then [] else submitted o (.transferToHost2D resid shape.width shape.height) none
    else []

/-- The object a creation installs under this resource id. -/
def cursorObj (resid serial : Nat) : VioGpuObj where
  hwRes := resid
  size := pagedSize cursorSize
  origin :=
    { serial := serial
      request :=
        { width := pointerSize, height := pointerSize, pitch := pointerSize * 4, targetId := i
          colorFormat := .other 0, stride := pointerSize, frameBufferIsActive := false
          setMode := false, ptr := 0 }
      hostBuilt := true
      hostFormat := some (colorFormat format) }

/-- The screen after a creation. -/
def cursorScreen (resid : Nat) : ScreenInfo :=
  { c.screen with
    cursorSegment := (cursorUpdated o c).segment
    cursorBuf := if CursorBuildable o c then some (cursorObj i format resid c.serial)
      else c.screen.cursorBuf }

theorem createCursor_eq : createCursor o blob i shape format c =
    ({ screen := cursorScreen o i format c c.idr.getId.1
       idr := c.idr.getId.2
       serial := c.serial + 1
       actions := c.actions ++ createCursorActions o blob shape format c c.idr.getId.1 },
      decide (CursorBuildable o c)) := by
  have hscreen : ∀ c' : Ctx, c'.screen = c.screen →
      (if c'.screen.cursorSegment.vAddr = 0 then
        Segment.init o c.serial (pointerSize * pointerSize * 4) c'.screen.cursorSegment
      else ⟨c'.screen.cursorSegment, true, []⟩) = cursorUpdated o c := by
    intro c' hscreen
    rw [hscreen]
    rfl
  unfold createCursor
  dsimp only
  rw [hscreen _ (by cases blob <;> simp)]
  by_cases hobj : o.newObj = true
  · rw [if_neg (not_not.mpr hobj)]
    by_cases hfits : pagedSize cursorSize ≤ (cursorUpdated o c).segment.size
    · rw [if_neg (Nat.not_lt.mpr hfits)]
      cases hents : o.newEnts with
      | true =>
          have hbuild : CursorBuildable o c := ⟨hobj, hfits, hents⟩
          cases blob <;>
            simp [gpuObjectAttach, hents, Ctx.submit_eq, Ctx.pages, hbuild, cursorScreen, cursorObj,
              createCursorActions, cursorAttachCmd, frameEntries]
      | false =>
          have hbuild : ¬ CursorBuildable o c :=
            fun h => Bool.false_ne_true (hents.symm.trans h.2.2)
          cases blob <;>
            simp [gpuObjectAttach, hents, Ctx.submit_eq, Ctx.pages, hbuild, cursorScreen,
              createCursorActions]
    · rw [if_pos (Nat.not_le.mp hfits)]
      have hbuild : ¬ CursorBuildable o c := fun h => hfits h.2.1
      cases blob <;> simp [Ctx.submit_eq, Ctx.pages, hbuild, cursorScreen, createCursorActions]
  · rw [if_pos hobj]
    have hbuild : ¬ CursorBuildable o c := fun h => hobj h.1
    cases blob <;> simp [Ctx.submit_eq, Ctx.pages, hbuild, cursorScreen, createCursorActions]

/-- The actions of destroying the pointer object. -/
def destroyCursorActions : List Action :=
  match c.screen.cursorBuf with
  | none => []
  | some cursor => destroyActions o false cursor.hwRes

/-- What `SetPointerShape` does: the old pointer is destroyed, a new one created if it
can be, and shown if it was. -/
structure PointerStep (c' : Ctx) : Prop where
  frame : c.screen.FrameEq c'.screen
  idr : c'.idr = (destroyCursor o c).idr.getId.2
  serial : c'.serial = c.serial + 1
  cursorSegment : c'.screen.cursorSegment = (cursorUpdated o c).segment
  cursorBuf : c'.screen.cursorBuf =
    if CursorBuildable o c then
      some (cursorObj i format (destroyCursor o c).idr.getId.1 c.serial) else none
  actions : ∃ shown, (∀ action ∈ shown, ∃ cmd, action = .cursor cmd) ∧
    c'.actions = c.actions ++ destroyCursorActions o c ++
      createCursorActions o blob shape format c (destroyCursor o c).idr.getId.1 ++ shown

/-- Destroying the old pointer changes nothing about the creation of the next. -/
theorem cursorUpdated_destroyCursor : cursorUpdated o (destroyCursor o c) = cursorUpdated o c := by
  unfold cursorUpdated
  rw [destroyCursor_screen, destroyCursor_serial]

theorem cursorBuildable_destroyCursor :
    CursorBuildable o (destroyCursor o c) ↔ CursorBuildable o c := by
  unfold CursorBuildable
  rw [cursorUpdated_destroyCursor]

theorem setPointerShape_spec :
    PointerStep o blob i shape format c (setPointerShape o blob i shape format c).1 := by
  let c₀ := destroyCursor o c
  have hscreen : c₀.screen = { c.screen with cursorBuf := none } := destroyCursor_screen o c
  have hserial : c₀.serial = c.serial := destroyCursor_serial o c
  have hactions : c₀.actions = c.actions ++ destroyCursorActions o c := destroyCursor_actions o c
  have hupdated : cursorUpdated o c₀ = cursorUpdated o c := cursorUpdated_destroyCursor o c
  have hbuild : CursorBuildable o c₀ ↔ CursorBuildable o c := cursorBuildable_destroyCursor o c
  -- what is left after the creation, whatever is shown then
  have hcreated : ∀ shown : List Action, (∀ action ∈ shown, ∃ cmd, action = .cursor cmd) →
      PointerStep o blob i shape format c
        { screen := cursorScreen o i format c₀ c₀.idr.getId.1
          idr := c₀.idr.getId.2
          serial := c₀.serial + 1
          actions := c₀.actions ++ createCursorActions o blob shape format c₀ c₀.idr.getId.1 ++
            shown } := by
    intro shown hshown
    refine ⟨?_, rfl, congrArg (· + 1) hserial, congrArg Segment.Result.segment hupdated, ?_,
      shown, hshown, ?_⟩
    · simp only [cursorScreen, hscreen]
      exact ⟨rfl, rfl, rfl, rfl, rfl, rfl, rfl⟩
    · simp only [cursorScreen, hscreen, hbuild, hserial]
      rfl
    · simp only [createCursorActions, hactions, hupdated, hbuild]
      rfl
  have hnone : PointerStep o blob i shape format c
      { screen := cursorScreen o i format c₀ c₀.idr.getId.1
        idr := c₀.idr.getId.2
        serial := c₀.serial + 1
        actions := c₀.actions ++ createCursorActions o blob shape format c₀ c₀.idr.getId.1 } := by
    simpa only [List.append_nil] using hcreated [] (by simp)
  unfold setPointerShape
  rw [createCursor_eq]
  split
  next c₁ heq =>
    obtain rfl := (Prod.mk.inj heq).1
    exact hnone
  next c₁ heq =>
    obtain rfl := (Prod.mk.inj heq).1
    split
    next => exact hnone
    next cursor _ =>
      split
      next => exact hnone
      next =>
        split
        next => exact hcreated [.cursor _] (by simp)
        next => exact hnone

/-- `SetPointerShape` succeeds when there is an object to show and a buffer to show it
with. -/
theorem setPointerShape_success_iff : (setPointerShape o blob i shape format c).2 = .success ↔
    CursorBuildable o c ∧ o.allocCursor = true := by
  unfold setPointerShape
  rw [createCursor_eq]
  split
  next c₁ heq =>
    have hfails := of_decide_eq_false (Prod.mk.inj heq).2
    rw [cursorBuildable_destroyCursor] at hfails
    exact ⟨nofun, fun hbuild => absurd hbuild.1 hfails⟩
  next c₁ heq =>
    obtain ⟨rfl, hbuild⟩ := Prod.mk.inj heq
    have hbuild := of_decide_eq_true hbuild
    have hcursor : (cursorScreen o i format (destroyCursor o c)
        (destroyCursor o c).idr.getId.1).cursorBuf =
          some (cursorObj i format (destroyCursor o c).idr.getId.1 (destroyCursor o c).serial) :=
      if_pos hbuild
    rw [cursorBuildable_destroyCursor] at hbuild
    simp only [hcursor, hbuild, true_and]
    cases o.allocCursor <;> simp

/-- `SetPointerPosition` changes nothing but what the pointer's queue carries. -/
theorem setPointerPosition_spec (x y : Nat) :
    (setPointerPosition o i x y c).1.screen = c.screen ∧
      (setPointerPosition o i x y c).1.serial = c.serial ∧
      ∃ shown, (∀ action ∈ shown, ∃ cmd, action = Action.cursor cmd) ∧
        (setPointerPosition o i x y c).1.actions = c.actions ++ shown := by
  have hnone : ∃ shown, (∀ action ∈ shown, ∃ cmd, action = Action.cursor cmd) ∧
      c.actions = c.actions ++ shown := ⟨[], by simp, by simp⟩
  unfold setPointerPosition
  split
  next => exact ⟨rfl, rfl, hnone⟩
  next cursor _ =>
    split
    next => exact ⟨rfl, rfl, hnone⟩
    next =>
      split
      next => exact ⟨rfl, rfl, [.cursor _], by simp, rfl⟩
      next => exact ⟨rfl, rfl, hnone⟩

theorem setPointerPosition_idr (x y : Nat) :
    (setPointerPosition o i x y c).1.idr = c.idr := by
  unfold setPointerPosition
  split
  next => rfl
  next =>
    split
    next => rfl
    next => split <;> rfl

theorem setPointerPosition_success_iff (x y : Nat) :
    (setPointerPosition o i x y c).2 = .success ↔
      c.screen.cursorBuf ≠ none ∧ o.allocCursor = true := by
  unfold setPointerPosition
  cases c.screen.cursorBuf <;> cases o.allocCursor <;> simp

/-- A move of the pointer reaches its queue unless there is no pointer, no buffer or no
room on the ring. -/
theorem setPointerPosition_actions_eq_iff (x y : Nat) :
    (setPointerPosition o i x y c).1.actions = c.actions ↔
      c.screen.cursorBuf = none ∨ o.allocCursor = false ∨ o.addCursor = false := by
  unfold setPointerPosition
  cases c.screen.cursorBuf <;> cases o.allocCursor <;> cases o.addCursor <;> simp

end VirtDisplay
