/-
# What the frame-buffer functions do

One lemma for each function of the frame-buffer module: what it leaves of the
screen, and which actions it performs. Everything later argues from these and never
unfolds a function again.

The creation function is split at the one question that matters to its callers,
whether an object is installed. `Buildable` answers it from the environment's
outcomes and the screen's segment.
-/

import VirtDisplay.Adapter.SetMode

namespace VirtDisplay

variable (o : Outcomes) (blob : Bool) (i : ScreenId) (info : VideoModeInfo) (mode : CurrentMode)
  (c : Ctx)

namespace Ctx

@[simp] theorem pages_screen (events : List PageEvent) : (c.pages events).screen = c.screen := rfl
@[simp] theorem pages_idr (events : List PageEvent) : (c.pages events).idr = c.idr := rfl
@[simp] theorem pages_serial (events : List PageEvent) : (c.pages events).serial = c.serial := rfl
@[simp] theorem resFlush_screen (serial resid width height : Nat) :
    (c.resFlush o i serial resid width height).screen = c.screen := rfl
@[simp] theorem resFlush_serial (serial resid width height : Nat) :
    (c.resFlush o i serial resid width height).serial = c.serial := rfl
@[simp] theorem resFlush_idr (serial resid width height : Nat) :
    (c.resFlush o i serial resid width height).idr = c.idr := rfl
@[simp] theorem clearFlush_screen : (c.clearFlush i).screen = c.screen := rfl
@[simp] theorem clearFlush_serial : (c.clearFlush i).serial = c.serial := rfl

end Ctx

/-- The actions of a submission on its own. -/
def submitted (cmd : GpuCmd) (backing : Option Nat) : List Action :=
  if o.accepts cmd then [.submit ⟨cmd, backing⟩] else []

/-- A submission appends its action, if it has one, and changes nothing else. -/
theorem Ctx.submit_eq (cmd : GpuCmd) (backing : Option Nat) : c.submit o cmd backing =
    { c with actions := c.actions ++ submitted o cmd backing } := by
  unfold Ctx.submit submitted
  split
  next => rfl
  next => rw [List.append_nil]

theorem mem_submitted {o : Outcomes} {cmd : GpuCmd} {backing : Option Nat} {action : Action} :
    action ∈ submitted o cmd backing ↔ o.accepts cmd = true ∧ action = .submit ⟨cmd, backing⟩ := by
  unfold submitted
  split
  next h => simp [h]
  next h => simp [h]

/-- The actions of destroying the object behind a resource id. -/
def destroyActions (bReset : Bool) (resid : Nat) : List Action :=
  submitted o (.resourceDetachBacking resid) none ++ submitted o (.resourceUnref resid) none ++
    if bReset then submitted o (.setScanout 0 0 0 0) none else []

@[simp]
theorem destroyFrameBufferObj_screen (bReset : Bool) :
    (destroyFrameBufferObj o bReset c).screen = { c.screen with front := none } := by
  unfold destroyFrameBufferObj
  split
  next hfront => rw [← hfront]
  next => cases bReset <;> simp

@[simp]
theorem destroyFrameBufferObj_serial (bReset : Bool) :
    (destroyFrameBufferObj o bReset c).serial = c.serial := by
  unfold destroyFrameBufferObj
  split
  next => rfl
  next => cases bReset <;> simp

theorem destroyFrameBufferObj_actions (bReset : Bool) :
    (destroyFrameBufferObj o bReset c).actions = c.actions ++
      match c.screen.front with
      | none => []
      | some fbuf => destroyActions o bReset fbuf.hwRes := by
  unfold destroyFrameBufferObj
  cases c.screen.front with
  | none => exact (List.append_nil _).symm
  | some fbuf =>
      cases bReset <;>
        simp only [Ctx.submit_actions, destroyActions, submitted, if_true, if_false,
          Bool.false_eq_true, List.append_assoc, List.append_nil]

theorem destroyFrameBufferObj_idr (bReset : Bool) : (destroyFrameBufferObj o bReset c).idr =
    match c.screen.front with
    | none => c.idr
    | some fbuf => c.idr.putId fbuf.hwRes := by
  unfold destroyFrameBufferObj
  cases c.screen.front with
  | none => rfl
  | some fbuf => cases bReset <;> simp

@[simp]
theorem destroyCursor_screen :
    (destroyCursor o c).screen = { c.screen with cursorBuf := none } := by
  unfold destroyCursor
  split
  next hcursor => rw [← hcursor]
  next => simp

@[simp]
theorem destroyCursor_serial : (destroyCursor o c).serial = c.serial := by
  unfold destroyCursor
  split
  next => rfl
  next => simp

theorem destroyCursor_idr : (destroyCursor o c).idr =
    match c.screen.cursorBuf with
    | none => c.idr
    | some cursor => c.idr.putId cursor.hwRes := by
  unfold destroyCursor
  cases c.screen.cursorBuf with
  | none => rfl
  | some cursor => simp

theorem destroyCursor_actions :
    (destroyCursor o c).actions = c.actions ++
      match c.screen.cursorBuf with
      | none => []
      | some cursor => destroyActions o false cursor.hwRes := by
  unfold destroyCursor
  cases c.screen.cursorBuf with
  | none => exact (List.append_nil _).symm
  | some cursor =>
      simp only [Ctx.submit_actions, destroyActions, submitted, if_false, Bool.false_eq_true,
        List.append_assoc, List.append_nil]

/-- The byte count `CreateFrameBufferObj` works with. -/
def frameSize : Nat := mode.pitch * info.visScreenHeight % 2 ^ 32

/-- The segment update of a creation on this screen. -/
def updatedSegment : Segment.Result :=
  updateFrameSegment o c.serial (frameSize info mode) mode.ptr c.screen.frameSegment

/-- A successful update for a user frame leaves the segment locked over that frame. -/
theorem updateFrameSegment_of_addr {o : Outcomes} {mdl size ptr : Nat} {segment : Segment}
    (haddr : ptr ≠ 0) (hok : (updateFrameSegment o mdl size ptr segment).ok = true) :
    (updateFrameSegment o mdl size ptr segment).segment =
        ⟨false, true, some (Segment.scatterGather o.phys ptr (Pages.count pageSize size)), ptr,
          some mdl, pagedSize size⟩ ∧
      (updateFrameSegment o mdl size ptr segment).events = segment.closeEvents ++ [.lock mdl] := by
  unfold updateFrameSegment at hok ⊢
  rw [if_pos haddr] at hok ⊢
  by_cases hmapped : segment.vAddr ≠ 0
  · rw [if_pos hmapped] at hok ⊢
    obtain ⟨hsegment, hevents⟩ := Segment.initExt_of_ok hok
    exact ⟨hsegment, congrArg (segment.closeEvents ++ ·) hevents⟩
  · rw [if_neg hmapped] at hok ⊢
    exact Segment.initExt_of_ok hok

/-- The creation installs an object: the segment could be updated, the object
allocated, and the segment is large enough for it. -/
def Buildable : Prop :=
  (updatedSegment o info mode c).ok = true ∧ o.newObj = true ∧
    pagedSize (frameSize info mode) ≤ (updatedSegment o info mode c).segment.size

instance : Decidable (Buildable o info mode c) := inferInstanceAs (Decidable (_ ∧ _))

/-- The context of `CreateFrameBufferObj` once the segment has been updated. -/
def prepared : Ctx where
  screen := { c.screen with frameSegment := (updatedSegment o info mode c).segment }
  idr := c.idr.getId.2
  serial := c.serial + 1
  actions := c.actions ++
    (if blob then []
      else submitted o (.resourceCreate2D c.idr.getId.1 (colorFormat mode.colorFormat)
        info.visScreenWidth info.visScreenHeight) none) ++
    (updatedSegment o info mode c).events.map .pages

/-- The creation either installs an object into the prepared context or gives the
id back. -/
theorem createFrameBufferObj_eq : createFrameBufferObj o blob i info mode c =
    if Buildable o info mode c then
      installFrameBuffer o blob i info mode c.idr.getId.1 c.serial (frameSize info mode)
        (prepared o blob info mode c)
    else
      { prepared o blob info mode c with
        idr := (prepared o blob info mode c).idr.putId c.idr.getId.1 } := by
  have hctx : (let c' : Ctx := { c with idr := c.idr.getId.2, serial := c.serial + 1 }
      let c' := if blob then c'
        else c'.submit o (.resourceCreate2D c.idr.getId.1 (colorFormat mode.colorFormat)
          info.visScreenWidth info.visScreenHeight) none
      ({ c' with screen :=
        { c'.screen with frameSegment := (updatedSegment o info mode c).segment } } : Ctx).pages
          (updatedSegment o info mode c).events) = prepared o blob info mode c := by
    cases blob
    · simp only [Bool.false_eq_true, if_false, Ctx.submit, submitted, prepared]
      split <;> simp [Ctx.pages]
    · simp [prepared, Ctx.pages]
  have hsegment : ∀ c' : Ctx, c'.screen = c.screen →
      updateFrameSegment o c.serial (mode.pitch * info.visScreenHeight % 2 ^ 32) mode.ptr
        c'.screen.frameSegment = updatedSegment o info mode c := by
    intro c' hscreen
    rw [hscreen]
    rfl
  unfold createFrameBufferObj
  dsimp only
  rw [hsegment _ (by cases blob <;> simp)]
  dsimp only at hctx
  rw [hctx, show mode.pitch * info.visScreenHeight % 2 ^ 32 = frameSize info mode from rfl]
  by_cases hbuild : Buildable o info mode c
  · rw [if_pos hbuild, if_neg (not_not.mpr hbuild.1), if_neg (not_not.mpr hbuild.2.1),
      if_neg (Nat.not_lt.mpr hbuild.2.2)]
  · rw [if_neg hbuild]
    split
    next => rfl
    next hok =>
      split
      next => rfl
      next hobj =>
        split
        next => rfl
        next hfits =>
          exact absurd ⟨not_not.mp hok, not_not.mp hobj, Nat.not_lt.mp hfits⟩ hbuild

/-- The memory entries a creation hands to the host. -/
def frameEntries (segment : Segment) : List MemEntry := segment.sgList.getD []

/-- The command that ties a resource to its pages. -/
def attachCmd (resid : Nat) (segment : Segment) : GpuCmd :=
  if blob then
    .resourceCreateBlob resid (frameEntries segment)
      (roundToPages (mode.stride * info.visScreenHeight * 4))
  else .resourceAttachBacking resid (frameEntries segment)

/-- The commands that configure the scanout. -/
def scanoutActions (resid : Nat) : List Action :=
  if blob then
    submitted o (.setScanoutBlob i.val resid info.visScreenWidth info.visScreenHeight
      (colorFormat mode.colorFormat) (mode.stride * 4 % 2 ^ 32)) none
  else
    submitted o (.setScanout i.val resid info.visScreenWidth info.visScreenHeight) none ++
      submitted o (.transferToHost2D resid info.visScreenWidth info.visScreenHeight) none

/-- The flush action for an object of this serial and id. -/
def flushAction (serial resid width height : Nat) : Action :=
  .flush i serial (if o.accepts (.resourceFlush i.val resid width height) then
    some (.resourceFlush i.val resid width height) else none)

/-- The object an installation leaves in the front slot. -/
def installedObj (resid serial size : Nat) (segment : Segment) : VioGpuObj where
  hwRes := if o.newEnts then resid else 0
  size := pagedSize size
  origin :=
    { serial := serial
      request := mode
      hostBuilt := hostBuilds o blob resid segment info mode
      hostFormat := hostConfigures o blob i resid info mode }

/-- `installFrameBuffer` installs the object and performs, in this order, the attach
command, the scanout commands and the flush. -/
theorem installFrameBuffer_eq (resid serial size : Nat) :
    installFrameBuffer o blob i info mode resid serial size c =
      { c with
        screen := { c.screen with
          front := some (installedObj o blob i info mode resid serial size c.screen.frameSegment) }
        actions := c.actions ++
          (if o.newEnts then
            submitted o (attachCmd blob info mode resid c.screen.frameSegment)
              c.screen.frameSegment.mdl
          else []) ++
          scanoutActions o blob i info mode resid ++
          [flushAction o i serial resid info.visScreenWidth info.visScreenHeight] } := by
  unfold installFrameBuffer gpuObjectAttach
  cases hents : o.newEnts <;> cases hblob : blob <;>
    simp only [hents, Ctx.submit_eq, Ctx.resFlush, if_true, if_false, Bool.false_eq_true,
      installedObj, scanoutActions, attachCmd, frameEntries, flushAction, List.append_nil,
      List.append_assoc]

/-- A flush of the front object, on a screen that has one. -/
theorem flushFrameBufferObj_eq {obj : VioGpuObj} (hfront : c.screen.front = some obj) :
    flushFrameBufferObj o blob i info c =
      { c with
        actions := c.actions ++
          (if blob then []
          else submitted o (.transferToHost2D obj.hwRes info.visScreenWidth info.visScreenHeight)
            none) ++
          [flushAction o i obj.origin.serial obj.hwRes info.visScreenWidth
            info.visScreenHeight] } := by
  unfold flushFrameBufferObj
  split
  next hnone => cases hfront.symm.trans hnone
  next obj' hobj =>
    obtain rfl := Option.some.inj (hfront.symm.trans hobj)
    cases blob
    · simp only [Bool.false_eq_true, if_false, Ctx.resFlush, Ctx.submit, submitted, flushAction]
      split <;> simp
    · simp [Ctx.resFlush, flushAction]

/-- The object a creation installs under this resource id, if it installs one. -/
def createdObj (resid : Nat) : VioGpuObj :=
  installedObj o blob i info mode resid c.serial (frameSize info mode)
    (updatedSegment o info mode c).segment

/-- The actions of a creation before it is clear whether an object is installed. -/
def prepareActions (resid : Nat) : List Action :=
  (if blob then []
    else submitted o (.resourceCreate2D resid (colorFormat mode.colorFormat)
      info.visScreenWidth info.visScreenHeight) none) ++
    (updatedSegment o info mode c).events.map .pages

/-- The actions of installing an object over the updated segment. -/
def installActions (resid : Nat) : List Action :=
  (if o.newEnts then
    submitted o (attachCmd blob info mode resid (updatedSegment o info mode c).segment)
      (updatedSegment o info mode c).segment.mdl
  else []) ++
    scanoutActions o blob i info mode resid ++
    [flushAction o i c.serial resid info.visScreenWidth info.visScreenHeight]

theorem createFrameBufferObj_screen : (createFrameBufferObj o blob i info mode c).screen =
    { c.screen with
      frameSegment := (updatedSegment o info mode c).segment
      front := if Buildable o info mode c then some (createdObj o blob i info mode c c.idr.getId.1)
        else c.screen.front } := by
  rw [createFrameBufferObj_eq]
  split
  next => simp only [installFrameBuffer_eq, prepared, createdObj]
  next => simp only [prepared]

theorem createFrameBufferObj_serial :
    (createFrameBufferObj o blob i info mode c).serial = c.serial + 1 := by
  rw [createFrameBufferObj_eq]
  split
  next => simp only [installFrameBuffer_eq, prepared]
  next => simp only [prepared]

/-- The id stays taken if an object is installed under it. -/
theorem createFrameBufferObj_idr : (createFrameBufferObj o blob i info mode c).idr =
    if Buildable o info mode c then c.idr.getId.2 else c.idr.getId.2.putId c.idr.getId.1 := by
  rw [createFrameBufferObj_eq]
  split
  next => simp only [installFrameBuffer_eq, prepared]
  next => simp only [prepared]

theorem createFrameBufferObj_actions : (createFrameBufferObj o blob i info mode c).actions =
    c.actions ++ prepareActions o blob info mode c c.idr.getId.1 ++
      if Buildable o info mode c then installActions o blob i info mode c c.idr.getId.1
      else [] := by
  rw [createFrameBufferObj_eq]
  split
  next =>
    simp only [installFrameBuffer_eq, prepared, prepareActions, installActions, List.append_assoc]
  next => simp only [prepared, prepareActions, List.append_assoc, List.append_nil]

/-- The context in which a rebuild calls the creation: the front is gone and the
identity of the request cached. -/
def tornDown : Ctx where
  screen := { c.screen with
    front := none
    fbSrcAddr := mode.ptr
    fbWidth := mode.width
    fbHeight := mode.height
    fbStride := mode.stride }
  idr := (destroyFrameBufferObj o false c).idr
  serial := c.serial
  actions := (destroyFrameBufferObj o false c).actions

theorem rebuildFront_eq : rebuildFront o blob i info mode c =
    createFrameBufferObj o blob i info mode (tornDown o mode c) := by
  unfold rebuildFront tornDown
  simp only [destroyFrameBufferObj_screen, destroyFrameBufferObj_serial]

/-- Whether an object is installed depends on the screen's segment and on nothing
else of the context but the number of the lock. -/
theorem buildable_congr {o : Outcomes} {info : VideoModeInfo} {mode : CurrentMode} {c c' : Ctx}
    (hserial : c'.serial = c.serial) (hsegment : c'.screen.frameSegment = c.screen.frameSegment) :
    Buildable o info mode c' ↔ Buildable o info mode c := by
  unfold Buildable updatedSegment
  rw [hserial, hsegment]

@[simp]
theorem buildable_tornDown {o : Outcomes} {info : VideoModeInfo} {mode : CurrentMode} {c : Ctx} :
    Buildable o info mode (tornDown o mode c) ↔ Buildable o info mode c := buildable_congr rfl rfl

/-- The resource id a rebuild takes: the old front has given its own back by then. -/
def rebuildId : Nat := (destroyFrameBufferObj o false c).idr.getId.1

/-- The actions of destroying the front object. -/
def destroyFrontActions : List Action :=
  match c.screen.front with
  | none => []
  | some fbuf => destroyActions o false fbuf.hwRes

/-- The screen after a rebuild: the identity of the request, and the new object or
none. -/
theorem rebuildFront_screen : (rebuildFront o blob i info mode c).screen =
    { c.screen with
      frameSegment := (updatedSegment o info mode c).segment
      front := if Buildable o info mode c then
        some (createdObj o blob i info mode c (rebuildId o c)) else none
      fbSrcAddr := mode.ptr
      fbWidth := mode.width
      fbHeight := mode.height
      fbStride := mode.stride } := by
  rw [rebuildFront_eq, createFrameBufferObj_screen]
  simp only [buildable_tornDown]
  rfl

theorem rebuildFront_serial : (rebuildFront o blob i info mode c).serial = c.serial + 1 := by
  rw [rebuildFront_eq, createFrameBufferObj_serial]
  rfl

theorem rebuildFront_idr : (rebuildFront o blob i info mode c).idr =
    if Buildable o info mode c then (destroyFrameBufferObj o false c).idr.getId.2
    else (destroyFrameBufferObj o false c).idr.getId.2.putId (rebuildId o c) := by
  rw [rebuildFront_eq, createFrameBufferObj_idr]
  simp only [buildable_tornDown]
  rfl

/-- A rebuild destroys the front, prepares the new resource, and installs it if it
can. -/
theorem rebuildFront_actions : (rebuildFront o blob i info mode c).actions =
    c.actions ++ destroyFrontActions o c ++ prepareActions o blob info mode c (rebuildId o c) ++
      if Buildable o info mode c then installActions o blob i info mode c (rebuildId o c)
      else [] := by
  rw [rebuildFront_eq, createFrameBufferObj_actions]
  simp only [buildable_tornDown]
  rw [show (tornDown o mode c).actions = c.actions ++ destroyFrontActions o c from
    destroyFrameBufferObj_actions o c false]
  rfl

/-- The actions of a black-out: the front is uploaded and flushed. -/
def blackOutActions : List Action :=
  match c.screen.front with
  | none => []
  | some obj =>
      if mode.frameBufferIsActive then
        submitted o (.transferToHost2D obj.hwRes mode.width mode.height) none ++
          [flushAction o i obj.origin.serial obj.hwRes mode.width mode.height]
      else []

theorem blackOutScreen_actions :
    (blackOutScreen o i mode c).actions = c.actions ++ blackOutActions o i mode c := by
  unfold blackOutScreen blackOutActions
  cases mode.frameBufferIsActive <;> cases c.screen.front <;>
    simp [Ctx.resFlush, Ctx.submit_actions, submitted, flushAction]

theorem releaseFrameBuffer_actions : (releaseFrameBuffer o i c).actions =
    c.actions ++ submitted o (.setScanout i.val 0 0 0) none ++ destroyFrontActions o c ++
      c.screen.frameSegment.closeEvents.map .pages ++ [.clearFlush i] := by
  simp only [releaseFrameBuffer, Ctx.clearFlush, Ctx.pages, destroyFrameBufferObj_screen,
    destroyFrameBufferObj_actions, Ctx.submit_screen, Ctx.submit_actions, submitted,
    destroyFrontActions]

theorem blackOutScreen_serial : (blackOutScreen o i mode c).serial = c.serial := by
  unfold blackOutScreen
  split
  next => split <;> simp
  next => rfl

theorem blackOutScreen_idr : (blackOutScreen o i mode c).idr = c.idr := by
  unfold blackOutScreen
  split
  next => split <;> simp
  next => rfl

theorem releaseFrameBuffer_idr :
    (releaseFrameBuffer o i c).idr = (destroyFrameBufferObj o false c).idr := by
  simp [releaseFrameBuffer, Ctx.clearFlush, destroyFrameBufferObj_idr]

theorem releaseFrameBuffer_serial : (releaseFrameBuffer o i c).serial = c.serial := by
  simp [releaseFrameBuffer]

end VirtDisplay
