/-
# The adapter's mutexes

Each screen has an `m_segmentMutex`, the adapter has an `m_screen_mutex`, and the allocator
of resource ids has a mutex of its own. The first two are recursive: a rebuild of the mode
lists asks for EDIDs, which acquires again what the rebuild holds. All are released by hand,
on every way out of the functions, the early returns in the middle of a loop among them.

The functions are given again here with what they do to the mutexes, and each returns what
the function without mutexes does. The order that the comments of the source ask for, first
the segment and then the screen mutex, is a hierarchy, and each operation keeps to it.
-/

import VirtDisplay.Foundation.Mutexes
import VirtDisplay.Adapter.CursorSpec
import VirtDisplay.Adapter.Machine
import VirtDisplay.Modes.EdidQuery

namespace VirtDisplay.LockOrder

open Mutexes Transition

inductive Mutex
  /-- `m_segmentMutex` of a screen. -/
  | segment (i : ScreenId)
  /-- `m_screen_mutex` -/
  | screen
  /-- `m_IdBitMapMutex` -/
  | idBitMap
  deriving DecidableEq

/-- The order in which the adapter acquires its mutexes. The last is a fast mutex, which its
owner cannot acquire again. -/
def hierarchy : Hierarchy Mutex where
  rank
    | .segment _ => 0
    | .screen => 1
    | .idBitMap => 2
  recursive
    | .segment _ => true
    | .screen => true
    | .idBitMap => false

/-- A function with its mutexes. It does not come back from a fault. -/
abbrev Locking : Type → Type := Logged (Act Mutex) Unit

/-- An access that stops the machine. -/
def fault {α : Type} : Locking α := halt ()

/-- The screen of this number, if it is one of the `m_u32NumScanouts` that are served. -/
def servedScreen (numScanouts : Fin (maxScanOut + 1)) (screenNum : Nat) : Option ScreenId :=
  if h : screenNum < numScanouts then
    some ⟨screenNum, Nat.lt_of_lt_of_le h (Nat.le_of_lt_succ numScanouts.isLt)⟩
  else none

/-- `VioGpuIdr::GetId`. -/
def getId (idr : Idr) : Locking (Nat × Idr) := do
  acquire .idBitMap
  let found := idr.getId
  release .idBitMap
  pure found

/-- `VioGpuIdr::PutId`. -/
def putId (idr : Idr) (id : Nat) : Locking Idr := do
  acquire .idBitMap
  let idr := idr.putId id
  release .idBitMap
  pure idr

/-- `DestroyFrameBufferObj` on the front slot. -/
def destroyFrameBufferObj (o : Outcomes) (bReset : Bool) (c : Ctx) : Locking Ctx :=
  match c.screen.front with
  | none => pure c
  | some fbuf => do
      let idr ← putId c.idr fbuf.hwRes
      pure { VirtDisplay.destroyFrameBufferObj o bReset c with idr := idr }

/-- `DestroyCursor`. -/
def destroyCursor (o : Outcomes) (c : Ctx) : Locking Ctx :=
  match c.screen.cursorBuf with
  | none => pure c
  | some cursor => do
      let idr ← putId c.idr cursor.hwRes
      pure { VirtDisplay.destroyCursor o c with idr := idr }

/-- What becomes of the id behind the segment update of `CreateFrameBufferObj`: the early
exits give it back. -/
def settleId (o : Outcomes) (size : Nat) (updated : Segment.Result) (resid : Nat) (idr : Idr) :
    Locking Idr :=
  if ¬ updated.ok then putId idr resid
  else if ¬ o.newObj then putId idr resid
  else if pagedSize size > updated.segment.size then putId idr resid
  else pure idr

/-- `CreateFrameBufferObj`. -/
def createFrameBufferObj (o : Outcomes) (blob : Bool) (i : ScreenId) (info : VideoModeInfo)
    (mode : CurrentMode) (c : Ctx) : Locking Ctx := do
  let size := mode.pitch * info.visScreenHeight % 2 ^ 32
  let found ← getId c.idr
  let updated := updateFrameSegment o c.serial size mode.ptr c.screen.frameSegment
  let idr ← settleId o size updated found.1 found.2
  pure { VirtDisplay.createFrameBufferObj o blob i info mode c with idr := idr }

/-- `CreateCursor`, whose failing exits keep the id. -/
def createCursor (o : Outcomes) (blob : Bool) (i : ScreenId) (shape : PointerShape)
    (format : D3DDDIFormat) (c : Ctx) : Locking (Ctx × Bool) := do
  let found ← getId c.idr
  let created := VirtDisplay.createCursor o blob i shape format c
  pure ({ created.1 with idr := found.2 }, created.2)

/-- The rebuild branch of `SetCurrentModeExt`. -/
def rebuildFront (o : Outcomes) (blob : Bool) (i : ScreenId) (info : VideoModeInfo)
    (mode : CurrentMode) (c : Ctx) : Locking Ctx := do
  let c ← destroyFrameBufferObj o false c
  createFrameBufferObj o blob i info mode
    { c with screen :=
      { c.screen with
        fbSrcAddr := mode.ptr
        fbWidth := mode.width
        fbHeight := mode.height
        fbStride := mode.stride } }

/-- The part of `SetCurrentModeExt` behind a matching entry. -/
def presentMode (o : Outcomes) (blob : Bool) (i : ScreenId) (flushCount : Nat)
    (info : VideoModeInfo) (mode : CurrentMode) (c : Ctx) : Locking (Ctx × PresentPath) :=
  match backPressure i flushCount mode c with
  | (c, .drop) => pure (c, .dropped)
  | (c, .go forced) =>
      if backingChanged c.screen mode then do
        let c ← rebuildFront o blob i info mode c
        pure (c, .rebuild forced)
      else pure (flushFrameBufferObj o blob i info c, .reuse forced)

/-- The loop of `SetCurrentModeExt`. -/
def searchLoop (o : Outcomes) (blob : Bool) (i : ScreenId) (flushCount : Nat) (mode : CurrentMode)
    (c : Ctx) : Locking (Ctx × NtStatus × PresentPath) :=
  match searchModes c.screen.modes.modeInfo mode c.screen.modes.modeCount 0 with
  | none => fault
  | some none =>
      pure (c, if c.screen.modes.modeCount = 0 then .unsuccessful else .success, .noMode)
  | some (some info) => do
      let presented ← presentMode o blob i flushCount info mode c
      pure (presented.1, .success, presented.2)

/-- `SetCurrentModeExt`, with `none` for a null pointer. -/
def setCurrentModeExt (o : Outcomes) (blob : Bool) (i : ScreenId) (flushCount : Nat)
    (pCurrentMode : Option CurrentMode) (c : Ctx) : Locking (Ctx × NtStatus × PresentPath) :=
  match pCurrentMode with
  | none => pure (c, .unsuccessful, .noMode)
  | some mode => do
      acquire .screen
      let searched ← searchLoop o blob i flushCount mode c
      release .screen
      pure searched

/-- `ExecutePresentDisplayZeroCopy` with the mode it makes of its arguments. -/
def executePresentDisplayZeroCopy (o : Outcomes) (blob : Bool) (i : ScreenId) (flushCount : Nat)
    (tempCurrentMode : CurrentMode) (c : Ctx) : Locking (Ctx × NtStatus × PresentPath) := do
  acquire (.segment i)
  let presented ← setCurrentModeExt o blob i flushCount (some tempCurrentMode) c
  release (.segment i)
  pure presented

/-- `ReleaseFrameBuffer`. -/
def releaseFrameBuffer (o : Outcomes) (numScanouts : Fin (maxScanOut + 1)) (screenNum : Nat)
    (a : Adapter) : Locking (Adapter × NtStatus) :=
  match servedScreen numScanouts screenNum with
  | none => pure (a, .invalidParameter)
  | some i => do
      acquire (.segment i)
      acquire .screen
      let silenced := (a.ctx i).submit o (.setScanout i.val 0 0 0) none
      let destroyed ← destroyFrameBufferObj o false silenced
      let released := { VirtDisplay.releaseFrameBuffer o i (a.ctx i) with idr := destroyed.idr }
      release .screen
      release (.segment i)
      pure (a.withCtx i released, .success)

/-- `BlackOutScreen`. -/
def blackOutScreen (o : Outcomes) (i : ScreenId) (mode : CurrentMode) (c : Ctx) : Locking Ctx :=
  if mode.frameBufferIsActive then do
    acquire .screen
    match c.screen.front with
    | none => do
        release .screen
        pure c
    | some _ => do
        let c := VirtDisplay.blackOutScreen o i mode c
        release .screen
        pure c
  else pure c

/-- The part of `SetPointerShape` behind a created object. -/
def showCursor (o : Outcomes) (i : ScreenId) (shape : PointerShape) (c : Ctx) :
    Locking (Ctx × NtStatus) :=
  if ¬ o.allocCursor then do
    release .screen
    pure (c, .unsuccessful)
  else
    match c.screen.cursorBuf with
    | none => fault
    | some cursor => do
        let cmd := CursorCmd.updateCursor i.val cursor.hwRes shape.x shape.y shape.hotX shape.hotY
        let c := if o.addCursor then { c with actions := c.actions ++ [.cursor cmd] } else c
        release .screen
        pure (c, .success)

/-- `SetPointerShape`. -/
def setPointerShape (o : Outcomes) (blob : Bool) (i : ScreenId) (shape : PointerShape)
    (format : D3DDDIFormat) (c : Ctx) : Locking (Ctx × NtStatus) := do
  acquire .screen
  let c ← destroyCursor o c
  let created ← createCursor o blob i shape format c
  if created.2 then showCursor o i shape created.1
  else do
    release .screen
    pure (created.1, .unsuccessful)

/-- `SetPointerPosition`. -/
def setPointerPosition (o : Outcomes) (i : ScreenId) (x y : Nat) (c : Ctx) :
    Locking (Ctx × NtStatus) := do
  acquire .screen
  match c.screen.cursorBuf with
  | none => do
      release .screen
      pure (c, .unsuccessful)
  | some cursor =>
      if ¬ o.allocCursor then do
        release .screen
        pure (c, .unsuccessful)
      else do
        let cmd := CursorCmd.moveCursor i.val cursor.hwRes x y
        let c := if o.addCursor then { c with actions := c.actions ++ [.cursor cmd] } else c
        release .screen
        pure (c, .success)

/-- `GetEdidData`. -/
def getEdidData (numScanouts : Fin (maxScanOut + 1)) (id : Nat) (st : ModeState) : Locking Edid :=
  match servedScreen numScanouts id with
  | none => pure (gGpuEdid st.behindGpuEdid)
  | some i =>
      if st.bEdid then do
        acquire .screen
        let ret := (st.tables i).edids
        release .screen
        pure ret
      else pure (gGpuEdid st.behindGpuEdid)

/-- `AddEdidModes`. -/
def addEdidModes (numScanouts : Fin (maxScanOut + 1)) (i : ScreenId) (st : ModeState) :
    Locking ModeState := do
  let edid ← getEdidData numScanouts i st
  let table := st.tables i
  let filled :=
    { table with
      modeList := (parseEdidData edid table.modeList).2
      gpuDispModeExt := edidModes edid table.modeList }
  pure { st with tables := Function.update st.tables i filled }

/-- `GetEdids`, which releases the mutex and then a buffer it may not have. -/
def getEdids (q : EdidQuery) (i : ScreenId) (st : ModeState) : Locking ModeState := do
  acquire .screen
  let vbuf := askEdidInfo q i
  let st :=
    match vbuf.bind fun buf => getEdidInfo buf i with
    | none => st
    | some edid => storeEdid i edid st
  release .screen
  match vbuf with
  | none => fault
  | some _ => pure st

/-- `ProcessEdid`. -/
def processEdid (numScanouts : Fin (maxScanOut + 1)) (edidFeature : Bool) (q : EdidQuery)
    (i : ScreenId) (st : ModeState) : Locking ModeState :=
  if edidFeature then do
    let st ← getEdids q i st
    addEdidModes numScanouts i st
  else pure st

/-- The loop of `GetModeList` over the screens `todo`, and what follows it. -/
def rebuildScreens (numScanouts : Fin (maxScanOut + 1)) (edidFeature : Bool)
    (answers : ScreenId → RoundAnswers) :
    List ScreenId → NtStatus → ModeState → Locking (ModeState × NtStatus)
  | [], status, st => do
      release .screen
      pure (st, status)
  | i :: todo, status, st => do
      let st := { st with tables := Function.update st.tables i (st.tables i).reset }
      let st ← processEdid numScanouts edidFeature (answers i).query i st
      let finished := finishScreen (answers i).reply st i
      if ¬ (answers i).modeInfoAllocated then do
        release .screen
        pure finished
      else if ¬ (answers i).modeNumbersAllocated then do
        release .screen
        pure finished
      else if finished.2 = .success then
        rebuildScreens numScanouts edidFeature answers todo status finished.1
      else rebuildScreens numScanouts edidFeature answers todo finished.2 finished.1

/-- `GetModeList`. -/
def getModeList (numScanouts : Fin (maxScanOut + 1)) (edidFeature : Bool)
    (answers : ScreenId → RoundAnswers) (st : ModeState) : Locking (ModeState × NtStatus) := do
  acquire .screen
  rebuildScreens numScanouts edidFeature answers ((List.finRange maxScanOut).take numScanouts)
    .success st

/-! ## What they return -/

section

variable {o : Outcomes} {blob bReset : Bool} {i : ScreenId} {flushCount : Nat}
  {info : VideoModeInfo} {mode : CurrentMode} {shape : PointerShape} {format : D3DDDIFormat}
  {c : Ctx} {st : ModeState}

@[simp] theorem returned_fault {α : Type} : (fault : Locking α).returned = none := rfl
@[simp] theorem returned_getId (idr : Idr) : (getId idr).returned = some idr.getId := rfl
@[simp] theorem returned_putId (idr : Idr) (id : Nat) :
    (putId idr id).returned = some (idr.putId id) := rfl

/-- An id allocator written where it already is. -/
theorem withIdr_eq {idr : Idr} (hidr : c.idr = idr) : { c with idr := idr } = c := by
  subst hidr
  rfl

@[simp]
theorem returned_destroyFrameBufferObj : (destroyFrameBufferObj o bReset c).returned =
    some (VirtDisplay.destroyFrameBufferObj o bReset c) := by
  have hidr := destroyFrameBufferObj_idr o c bReset
  unfold destroyFrameBufferObj
  cases hfront : c.screen.front with
  | none =>
      rw [VirtDisplay.destroyFrameBufferObj, hfront]
      rfl
  | some fbuf =>
      rw [hfront] at hidr
      exact congrArg some (withIdr_eq hidr)

@[simp]
theorem returned_destroyCursor :
    (destroyCursor o c).returned = some (VirtDisplay.destroyCursor o c) := by
  have hidr := destroyCursor_idr o c
  unfold destroyCursor
  cases hcursor : c.screen.cursorBuf with
  | none =>
      rw [VirtDisplay.destroyCursor, hcursor]
      rfl
  | some cursor =>
      rw [hcursor] at hidr
      exact congrArg some (withIdr_eq hidr)

theorem returned_settleId : (settleId o (frameSize info mode) (updatedSegment o info mode c)
    c.idr.getId.1 c.idr.getId.2).returned =
      some (VirtDisplay.createFrameBufferObj o blob i info mode c).idr := by
  rw [createFrameBufferObj_idr]
  unfold settleId Buildable
  by_cases hok : (updatedSegment o info mode c).ok = true
  · by_cases hobj : o.newObj = true
    · by_cases hfits : pagedSize (frameSize info mode) ≤ (updatedSegment o info mode c).segment.size
      · simp [hok, hobj, hfits, Nat.not_lt.mpr hfits]
      · simp [hok, hobj, hfits, Nat.not_le.mp hfits]
    · simp [hok, hobj]
  · simp [hok]

@[simp]
theorem returned_createFrameBufferObj : (createFrameBufferObj o blob i info mode c).returned =
    some (VirtDisplay.createFrameBufferObj o blob i info mode c) := by
  have hsettled : (settleId o (mode.pitch * info.visScreenHeight % 2 ^ 32)
      (updateFrameSegment o c.serial (mode.pitch * info.visScreenHeight % 2 ^ 32) mode.ptr
        c.screen.frameSegment) c.idr.getId.1 c.idr.getId.2).returned =
      some (VirtDisplay.createFrameBufferObj o blob i info mode c).idr :=
    returned_settleId
  simp only [createFrameBufferObj, Logged.returned_bind, returned_getId, Option.bind_some, hsettled,
    Logged.returned_pure]

@[simp]
theorem returned_createCursor : (createCursor o blob i shape format c).returned =
    some (VirtDisplay.createCursor o blob i shape format c) := by
  have hidr : (VirtDisplay.createCursor o blob i shape format c).1.idr = c.idr.getId.2 := by
    rw [createCursor_eq]
  exact congrArg some (Prod.ext (withIdr_eq hidr) rfl)

@[simp]
theorem returned_rebuildFront : (rebuildFront o blob i info mode c).returned =
    some (VirtDisplay.rebuildFront o blob i info mode c) := by
  simp [rebuildFront, VirtDisplay.rebuildFront]

@[simp]
theorem returned_presentMode : (presentMode o blob i flushCount info mode c).returned =
    some (VirtDisplay.presentMode o blob i flushCount info mode c) := by
  unfold presentMode VirtDisplay.presentMode
  rcases backPressure i flushCount mode c with ⟨c', pressure⟩
  cases pressure with
  | drop => rfl
  | go forced =>
      by_cases hchanged : backingChanged c'.screen mode = true
      · simp [hchanged]
      · simp [hchanged]

/-- The locked program of `SetCurrentModeExt` returns what `setCurrentModeExt` does for a mode that
is there. -/
theorem returned_setCurrentModeExt :
    (setCurrentModeExt o blob i flushCount (some mode) c).returned =
      VirtDisplay.setCurrentModeExt o blob i flushCount mode c := by
  have hloop : (searchLoop o blob i flushCount mode c).returned =
      VirtDisplay.setCurrentModeExt o blob i flushCount mode c := by
    unfold searchLoop VirtDisplay.setCurrentModeExt
    cases searchModes c.screen.modes.modeInfo mode c.screen.modes.modeCount 0 with
    | none => rfl
    | some found =>
        cases found with
        | none => rfl
        | some info => simp
  simp [setCurrentModeExt, hloop]

theorem returned_executePresentDisplayZeroCopy :
    (executePresentDisplayZeroCopy o blob i flushCount mode c).returned =
      VirtDisplay.setCurrentModeExt o blob i flushCount mode c := by
  simp [executePresentDisplayZeroCopy, returned_setCurrentModeExt]

/-- A limit of all screens serves every screen. -/
theorem servedScreen_last (i : ScreenId) : servedScreen (Fin.last maxScanOut) i = some i :=
  dif_pos i.isLt

theorem returned_releaseFrameBuffer {a : Adapter} :
    (releaseFrameBuffer o (Fin.last maxScanOut) i a).returned =
      some (a.withCtx i (VirtDisplay.releaseFrameBuffer o i (a.ctx i)), .success) := by
  have hidr : (VirtDisplay.releaseFrameBuffer o i (a.ctx i)).idr =
      (VirtDisplay.destroyFrameBufferObj o false
        ((a.ctx i).submit o (.setScanout i.val 0 0 0) none)).idr := by
    rw [releaseFrameBuffer_idr, destroyFrameBufferObj_idr, destroyFrameBufferObj_idr]
    simp
  rw [releaseFrameBuffer, servedScreen_last]
  simp only [Logged.returned_bind, returned_acquire, returned_release,
    returned_destroyFrameBufferObj, Option.bind_some, Logged.returned_pure]
  rw [withIdr_eq hidr]

theorem returned_blackOutScreen :
    (blackOutScreen o i mode c).returned = some (VirtDisplay.blackOutScreen o i mode c) := by
  unfold blackOutScreen
  by_cases hactive : mode.frameBufferIsActive = true
  · cases hfront : c.screen.front with
    | none => simp [hactive, VirtDisplay.blackOutScreen, hfront]
    | some frontBuf => simp [hactive]
  · simp [hactive, VirtDisplay.blackOutScreen]

/-- What `CreateCursor` has created is there. -/
theorem cursorBuf_of_createCursor
    (hcreated : (VirtDisplay.createCursor o blob i shape format c).2 = true) : ∃ cursor,
      (VirtDisplay.createCursor o blob i shape format c).1.screen.cursorBuf = some cursor := by
  rw [createCursor_eq] at hcreated ⊢
  exact ⟨_, if_pos (of_decide_eq_true hcreated)⟩

theorem returned_setPointerShape : (setPointerShape o blob i shape format c).returned =
    some (VirtDisplay.setPointerShape o blob i shape format c) := by
  have hbuf := @cursorBuf_of_createCursor o blob i shape format (VirtDisplay.destroyCursor o c)
  simp only [setPointerShape, VirtDisplay.setPointerShape, Logged.returned_bind, returned_acquire,
    returned_destroyCursor, returned_createCursor, Option.bind_some]
  revert hbuf
  generalize VirtDisplay.createCursor o blob i shape format (VirtDisplay.destroyCursor o c) = result
  obtain ⟨created, ok⟩ := result
  intro hbuf
  cases ok with
  | false => rfl
  | true =>
      obtain ⟨cursor, hcursor⟩ := hbuf rfl
      dsimp only at hcursor ⊢
      by_cases halloc : o.allocCursor = true
      · simp [showCursor, hcursor, halloc]
      · simp [showCursor, hcursor, halloc]

theorem returned_setPointerPosition {x y : Nat} : (setPointerPosition o i x y c).returned =
    some (VirtDisplay.setPointerPosition o i x y c) := by
  unfold setPointerPosition VirtDisplay.setPointerPosition
  cases hcursor : c.screen.cursorBuf with
  | none => simp
  | some cursor =>
      by_cases halloc : o.allocCursor = true
      · simp [halloc]
      · simp [halloc]

theorem returned_getEdidData : (getEdidData (Fin.last maxScanOut) i st).returned =
    some (VirtDisplay.getEdidData st.bEdid st.behindGpuEdid (st.tables i)) := by
  rw [getEdidData, servedScreen_last, VirtDisplay.getEdidData]
  cases st.bEdid with
  | true => rfl
  | false => rfl

theorem returned_addEdidModes : (addEdidModes (Fin.last maxScanOut) i st).returned = some
    { st with
      tables := Function.update st.tables i
        (VirtDisplay.addEdidModes st.bEdid st.behindGpuEdid (st.tables i)) } := by
  simp [addEdidModes, VirtDisplay.addEdidModes, returned_getEdidData]

theorem returned_getEdids (q : EdidQuery) :
    (getEdids q i st).returned = VirtDisplay.getEdids q i st := by
  unfold getEdids VirtDisplay.getEdids
  cases askEdidInfo q i with
  | none => rfl
  | some buf =>
      cases hedid : getEdidInfo buf i with
      | none => simp [hedid]
      | some edid => simp [hedid]

variable {edidFeature : Bool}

theorem returned_processEdid (a : RoundAnswers) :
    (processEdid (Fin.last maxScanOut) edidFeature a.query i st).returned =
      VirtDisplay.processEdid edidFeature a.reply st i := by
  cases edidFeature with
  | false => rfl
  | true =>
      rw [processEdid_eq, processEdid, if_pos rfl, Logged.returned_bind, returned_getEdids]
      cases VirtDisplay.getEdids a.query i st with
      | none => rfl
      | some st => exact returned_addEdidModes

/-- The rounds that end the loop are those that find no memory. -/
theorem finishScreen_noMemory (a : RoundAnswers) : (finishScreen a.reply st i).2 = .noMemory ↔
    ¬ (a.modeInfoAllocated = true ∧ a.modeNumbersAllocated = true) := by
  unfold finishScreen RoundAnswers.reply
  by_cases hinfo : a.modeInfoAllocated = true
  · by_cases hnumbers : a.modeNumbersAllocated = true
    · simp only [hinfo, hnumbers, not_true_eq_false, if_false, and_self, iff_false]
      split
      next => exact NtStatus.noConfusion
      next => exact NtStatus.noConfusion
    · simp [hinfo, hnumbers]
  · simp [hinfo]

theorem returned_rebuildScreens (answers : ScreenId → RoundAnswers) (todo : List ScreenId)
    (status : NtStatus) :
    (rebuildScreens (Fin.last maxScanOut) edidFeature answers todo status st).returned =
      VirtDisplay.rebuildScreens edidFeature (fun i => (answers i).reply) todo status st := by
  induction todo generalizing status st with
  | nil => rfl
  | cons i todo ih =>
      simp only [rebuildScreens, VirtDisplay.rebuildScreens, rebuildScreen, Logged.returned_bind,
        returned_processEdid]
      cases VirtDisplay.processEdid edidFeature (answers i).reply
        { st with tables := Function.update st.tables i (st.tables i).reset } i with
      | none => rfl
      | some st =>
          have hmemory := @finishScreen_noMemory i st (answers i)
          simp only [Option.bind_some, Option.map_some]
          revert hmemory
          generalize finishScreen (answers i).reply st i = finished
          obtain ⟨after, outcome⟩ := finished
          intro hmemory
          by_cases hinfo : (answers i).modeInfoAllocated = true
          · by_cases hnumbers : (answers i).modeNumbersAllocated = true
            · have hgoes : outcome ≠ .noMemory := fun heq => hmemory.mp heq ⟨hinfo, hnumbers⟩
              rw [if_neg (not_not.mpr hinfo), if_neg (not_not.mpr hnumbers)]
              cases outcome with
              | success => exact ih _
              | noMemory => exact absurd rfl hgoes
              | _ => exact ih _
            · have hends : outcome = .noMemory := hmemory.mpr fun h => hnumbers h.2
              subst hends
              rw [if_neg (not_not.mpr hinfo), if_pos hnumbers]
              rfl
          · have hends : outcome = .noMemory := hmemory.mpr fun h => hinfo h.1
            subst hends
            rw [if_pos hinfo]
            rfl

theorem returned_getModeList (answers : ScreenId → RoundAnswers) :
    (getModeList (Fin.last maxScanOut) edidFeature answers st).returned =
      VirtDisplay.getModeList edidFeature (fun i => (answers i).reply) st := by
  have hall : (List.finRange maxScanOut).take (Fin.last maxScanOut) = List.finRange maxScanOut := by
    rw [List.take_of_length_le]
    simp
  simp only [getModeList, Logged.returned_bind, returned_acquire, Option.bind_some,
    returned_rebuildScreens, hall]
  rfl

end

/-! ## What they do to the mutexes -/

section

variable {held : Held Mutex}

theorem admits_screen (i : ScreenId) : hierarchy.Admits (Held.nothing.take (.segment i)) .screen :=
  Hierarchy.admits_nothing.above Nat.zero_lt_one

/-- Under the screen mutex ids can be taken and given back. -/
theorem admits_idBitMap (hscreen : hierarchy.Admits held .screen) :
    hierarchy.Admits (held.take .screen) .idBitMap :=
  hscreen.above (by decide)

theorem conforms_getId (hids : hierarchy.Admits held .idBitMap) (idr : Idr) :
    hierarchy.Conforms held (getId idr) held := by
  apply Hierarchy.Conforms.bind (.acquire hids)
  intro _
  exact .leave _

theorem conforms_putId (hids : hierarchy.Admits held .idBitMap) (idr : Idr) (id : Nat) :
    hierarchy.Conforms held (putId idr id) held := by
  apply Hierarchy.Conforms.bind (.acquire hids)
  intro _
  exact .leave _

theorem conforms_destroyFrameBufferObj (hids : hierarchy.Admits held .idBitMap) (o : Outcomes)
    (bReset : Bool) (c : Ctx) :
    hierarchy.Conforms held (destroyFrameBufferObj o bReset c) held := by
  unfold destroyFrameBufferObj
  cases c.screen.front with
  | none => exact .pure _
  | some fbuf =>
      apply Hierarchy.Conforms.bind (conforms_putId hids _ _)
      intro _
      exact .pure _

theorem conforms_destroyCursor (hids : hierarchy.Admits held .idBitMap) (o : Outcomes) (c : Ctx) :
    hierarchy.Conforms held (destroyCursor o c) held := by
  unfold destroyCursor
  cases c.screen.cursorBuf with
  | none => exact .pure _
  | some cursor =>
      apply Hierarchy.Conforms.bind (conforms_putId hids _ _)
      intro _
      exact .pure _

theorem conforms_settleId (hids : hierarchy.Admits held .idBitMap) (o : Outcomes) (size : Nat)
    (updated : Segment.Result) (resid : Nat) (idr : Idr) :
    hierarchy.Conforms held (settleId o size updated resid idr) held := by
  apply Hierarchy.Conforms.ite (conforms_putId hids _ _)
  apply Hierarchy.Conforms.ite (conforms_putId hids _ _)
  apply Hierarchy.Conforms.ite (conforms_putId hids _ _)
  exact .pure _

theorem conforms_createFrameBufferObj (hids : hierarchy.Admits held .idBitMap) (o : Outcomes)
    (blob : Bool) (i : ScreenId) (info : VideoModeInfo) (mode : CurrentMode) (c : Ctx) :
    hierarchy.Conforms held (createFrameBufferObj o blob i info mode c) held := by
  apply Hierarchy.Conforms.bind (conforms_getId hids _)
  intro _
  apply Hierarchy.Conforms.bind (conforms_settleId hids _ _ _ _ _)
  intro _
  exact .pure _

theorem conforms_createCursor (hids : hierarchy.Admits held .idBitMap) (o : Outcomes) (blob : Bool)
    (i : ScreenId) (shape : PointerShape) (format : D3DDDIFormat) (c : Ctx) :
    hierarchy.Conforms held (createCursor o blob i shape format c) held := by
  apply Hierarchy.Conforms.bind (conforms_getId hids _)
  intro _
  exact .pure _

theorem conforms_rebuildFront (hids : hierarchy.Admits held .idBitMap) (o : Outcomes) (blob : Bool)
    (i : ScreenId) (info : VideoModeInfo) (mode : CurrentMode) (c : Ctx) :
    hierarchy.Conforms held (rebuildFront o blob i info mode c) held := by
  apply Hierarchy.Conforms.bind (conforms_destroyFrameBufferObj hids _ _ _)
  intro _
  exact conforms_createFrameBufferObj hids _ _ _ _ _ _

theorem conforms_presentMode (hids : hierarchy.Admits held .idBitMap) (o : Outcomes) (blob : Bool)
    (i : ScreenId) (flushCount : Nat) (info : VideoModeInfo) (mode : CurrentMode) (c : Ctx) :
    hierarchy.Conforms held (presentMode o blob i flushCount info mode c) held := by
  unfold presentMode
  split
  next => exact .pure _
  next =>
    apply Hierarchy.Conforms.ite
    · apply Hierarchy.Conforms.bind (conforms_rebuildFront hids _ _ _ _ _ _)
      intro _
      exact .pure _
    · exact .pure _

/-- The loop leaves the mutexes as it finds them, whichever way it is left. -/
theorem conforms_searchLoop (hids : hierarchy.Admits held .idBitMap) (o : Outcomes) (blob : Bool)
    (i : ScreenId) (flushCount : Nat) (mode : CurrentMode) (c : Ctx) :
    hierarchy.Conforms held (searchLoop o blob i flushCount mode c) held := by
  unfold searchLoop
  split
  next => exact .halt _
  next => exact .pure _
  next =>
    apply Hierarchy.Conforms.bind (conforms_presentMode hids _ _ _ _ _ _ _)
    intro _
    exact .pure _

theorem conforms_setCurrentModeExt (hscreen : hierarchy.Admits held .screen) (o : Outcomes)
    (blob : Bool) (i : ScreenId) (flushCount : Nat) (pCurrentMode : Option CurrentMode) (c : Ctx) :
    hierarchy.Conforms held (setCurrentModeExt o blob i flushCount pCurrentMode c) held := by
  cases pCurrentMode with
  | none => exact .pure _
  | some mode =>
      apply Hierarchy.Conforms.bind (.acquire hscreen)
      intro _
      apply Hierarchy.Conforms.bind (conforms_searchLoop (admits_idBitMap hscreen) _ _ _ _ _ _)
      intro _
      exact .leave _

theorem conforms_executePresentDisplayZeroCopy (o : Outcomes) (blob : Bool) (i : ScreenId)
    (flushCount : Nat) (mode : CurrentMode) (c : Ctx) : hierarchy.Conforms Held.nothing
      (executePresentDisplayZeroCopy o blob i flushCount mode c) Held.nothing := by
  apply Hierarchy.Conforms.bind (.acquire Hierarchy.admits_nothing)
  intro _
  apply Hierarchy.Conforms.bind (conforms_setCurrentModeExt (admits_screen i) _ _ _ _ _ _)
  intro _
  exact .leave _

theorem conforms_releaseFrameBuffer (o : Outcomes) (numScanouts : Fin (maxScanOut + 1))
    (screenNum : Nat) (a : Adapter) : hierarchy.Conforms Held.nothing
      (releaseFrameBuffer o numScanouts screenNum a) Held.nothing := by
  unfold releaseFrameBuffer
  split
  next => exact .pure _
  next i _ =>
    apply Hierarchy.Conforms.bind (.acquire Hierarchy.admits_nothing)
    intro _
    apply Hierarchy.Conforms.bind (.acquire (admits_screen i))
    intro _
    apply Hierarchy.Conforms.bind
      (conforms_destroyFrameBufferObj (admits_idBitMap (admits_screen i)) _ _ _)
    intro _
    apply Hierarchy.Conforms.bind .release
    intro _
    exact .leave _

theorem conforms_blackOutScreen (hscreen : hierarchy.Admits held .screen) (o : Outcomes)
    (i : ScreenId) (mode : CurrentMode) (c : Ctx) :
    hierarchy.Conforms held (blackOutScreen o i mode c) held := by
  apply Hierarchy.Conforms.ite
  · apply Hierarchy.Conforms.bind (.acquire hscreen)
    intro _
    cases c.screen.front with
    | none =>
        exact .leave _
    | some frontBuf =>
        exact .leave _
  · exact .pure _

/-- Every way out behind a created pointer releases what `SetPointerShape` has acquired. -/
theorem conforms_showCursor (o : Outcomes) (i : ScreenId) (shape : PointerShape) (c : Ctx) :
    hierarchy.Conforms (held.take .screen) (showCursor o i shape c) held := by
  apply Hierarchy.Conforms.ite
  · exact .leave _
  · split
    next => exact .halt _
    next =>
      exact .leave _

theorem conforms_setPointerShape (hscreen : hierarchy.Admits held .screen) (o : Outcomes)
    (blob : Bool) (i : ScreenId) (shape : PointerShape) (format : D3DDDIFormat) (c : Ctx) :
    hierarchy.Conforms held (setPointerShape o blob i shape format c) held := by
  have hids := admits_idBitMap hscreen
  apply Hierarchy.Conforms.bind (.acquire hscreen)
  intro _
  apply Hierarchy.Conforms.bind (conforms_destroyCursor hids _ _)
  intro _
  apply Hierarchy.Conforms.bind (conforms_createCursor hids _ _ _ _ _ _)
  intro _
  apply Hierarchy.Conforms.ite (conforms_showCursor _ _ _ _)
  exact .leave _

theorem conforms_setPointerPosition (hscreen : hierarchy.Admits held .screen) (o : Outcomes)
    (i : ScreenId) (x y : Nat) (c : Ctx) :
    hierarchy.Conforms held (setPointerPosition o i x y c) held := by
  apply Hierarchy.Conforms.bind (.acquire hscreen)
  intro _
  cases c.screen.cursorBuf with
  | none =>
      exact .leave _
  | some cursor =>
      apply Hierarchy.Conforms.ite
      · exact .leave _
      · exact .leave _

theorem conforms_getEdidData (hscreen : hierarchy.Admits held .screen)
    (numScanouts : Fin (maxScanOut + 1)) (id : Nat) (st : ModeState) :
    hierarchy.Conforms held (getEdidData numScanouts id st) held := by
  unfold getEdidData
  split
  next => exact .pure _
  next =>
    apply Hierarchy.Conforms.ite
    · apply Hierarchy.Conforms.bind (.acquire hscreen)
      intro _
      exact .leave _
    · exact .pure _

theorem conforms_getEdids (hscreen : hierarchy.Admits held .screen) (q : EdidQuery) (i : ScreenId)
    (st : ModeState) : hierarchy.Conforms held (getEdids q i st) held := by
  apply Hierarchy.Conforms.bind (.acquire hscreen)
  intro _
  apply Hierarchy.Conforms.bind .release
  intro _
  split
  next => exact .halt _
  next => exact .pure _

theorem conforms_processEdid (hscreen : hierarchy.Admits held .screen)
    (numScanouts : Fin (maxScanOut + 1)) (edidFeature : Bool) (q : EdidQuery) (i : ScreenId)
    (st : ModeState) :
    hierarchy.Conforms held (processEdid numScanouts edidFeature q i st) held := by
  apply Hierarchy.Conforms.ite
  · apply Hierarchy.Conforms.bind (conforms_getEdids hscreen _ _ _)
    intro _
    apply Hierarchy.Conforms.bind (conforms_getEdidData hscreen _ _ _)
    intro _
    exact .pure _
  · exact .pure _

/-- The loop, entered under the screen mutex, is left without it: by induction on the screens
still to come, in each of which the mutex is acquired and released again. -/
theorem conforms_rebuildScreens (hscreen : hierarchy.Admits held .screen)
    (numScanouts : Fin (maxScanOut + 1)) (edidFeature : Bool) (answers : ScreenId → RoundAnswers)
    (todo : List ScreenId) (status : NtStatus) (st : ModeState) :
    hierarchy.Conforms (held.take .screen)
      (rebuildScreens numScanouts edidFeature answers todo status st) held := by
  induction todo generalizing status st with
  | nil =>
      exact .leave _
  | cons i todo ih =>
      apply Hierarchy.Conforms.bind (conforms_processEdid (hscreen.again rfl) _ _ _ _ _)
      intro _
      apply Hierarchy.Conforms.ite
      · exact .leave _
      · apply Hierarchy.Conforms.ite
        · exact .leave _
        · exact .ite (ih _ _) (ih _ _)

theorem conforms_getModeList (hscreen : hierarchy.Admits held .screen)
    (numScanouts : Fin (maxScanOut + 1)) (edidFeature : Bool) (answers : ScreenId → RoundAnswers)
    (st : ModeState) :
    hierarchy.Conforms held (getModeList numScanouts edidFeature answers st) held := by
  apply Hierarchy.Conforms.bind (.acquire hscreen)
  intro _
  exact conforms_rebuildScreens hscreen _ _ _ _ _ _

end

/-! ## The operations -/

/-- A public operation of the adapter, with what it finds under its mutexes and with the
outcomes of what it calls. -/
inductive Operation
  | setCurrentModeExt (o : Outcomes) (blob : Bool) (i : ScreenId) (flushCount : Nat)
      (pCurrentMode : Option CurrentMode) (c : Ctx)
  | executePresentDisplayZeroCopy (o : Outcomes) (blob : Bool) (i : ScreenId) (flushCount : Nat)
      (tempCurrentMode : CurrentMode) (c : Ctx)
  | releaseFrameBuffer (o : Outcomes) (numScanouts : Fin (maxScanOut + 1)) (screenNum : Nat)
      (a : Adapter)
  | blackOutScreen (o : Outcomes) (i : ScreenId) (mode : CurrentMode) (c : Ctx)
  | setPointerShape (o : Outcomes) (blob : Bool) (i : ScreenId) (shape : PointerShape)
      (format : D3DDDIFormat) (c : Ctx)
  | setPointerPosition (o : Outcomes) (i : ScreenId) (x y : Nat) (c : Ctx)
  | getModeList (numScanouts : Fin (maxScanOut + 1)) (edidFeature : Bool)
      (answers : ScreenId → RoundAnswers) (st : ModeState)
  | getEdids (q : EdidQuery) (i : ScreenId) (st : ModeState)
  | getEdidData (numScanouts : Fin (maxScanOut + 1)) (id : Nat) (st : ModeState)

namespace Operation

/-- The operation, whose value nobody looks at here. -/
def run : Operation → Locking Unit
  | .setCurrentModeExt o blob i flushCount pCurrentMode c => do
      let _ ← LockOrder.setCurrentModeExt o blob i flushCount pCurrentMode c
      pure ()
  | .executePresentDisplayZeroCopy o blob i flushCount tempCurrentMode c => do
      let _ ← LockOrder.executePresentDisplayZeroCopy o blob i flushCount tempCurrentMode c
      pure ()
  | .releaseFrameBuffer o numScanouts screenNum a => do
      let _ ← LockOrder.releaseFrameBuffer o numScanouts screenNum a
      pure ()
  | .blackOutScreen o i mode c => do
      let _ ← LockOrder.blackOutScreen o i mode c
      pure ()
  | .setPointerShape o blob i shape format c => do
      let _ ← LockOrder.setPointerShape o blob i shape format c
      pure ()
  | .setPointerPosition o i x y c => do
      let _ ← LockOrder.setPointerPosition o i x y c
      pure ()
  | .getModeList numScanouts edidFeature answers st => do
      let _ ← LockOrder.getModeList numScanouts edidFeature answers st
      pure ()
  | .getEdids q i st => do
      let _ ← LockOrder.getEdids q i st
      pure ()
  | .getEdidData numScanouts id st => do
      let _ ← LockOrder.getEdidData numScanouts id st
      pure ()

/-- What an operation does to the mutexes. -/
def acts (op : Operation) : List (Act Mutex) := op.run.log

/-- Each operation keeps to the hierarchy and ends as it began. -/
theorem conforms_run (op : Operation) :
    hierarchy.Conforms Held.nothing op.run Held.nothing := by
  have hscreen : hierarchy.Admits Held.nothing .screen := Hierarchy.admits_nothing
  have hdiscard : ∀ {α : Type} {p : Locking α}, hierarchy.Conforms Held.nothing p Held.nothing →
      hierarchy.Conforms Held.nothing (do let _ ← p; pure ()) Held.nothing :=
    fun hp => .bind hp fun _ => .pure ()
  cases op with
  | setCurrentModeExt o blob i flushCount pCurrentMode c =>
      exact hdiscard (conforms_setCurrentModeExt hscreen o blob i flushCount pCurrentMode c)
  | executePresentDisplayZeroCopy o blob i flushCount tempCurrentMode c =>
      exact hdiscard (conforms_executePresentDisplayZeroCopy o blob i flushCount tempCurrentMode c)
  | releaseFrameBuffer o numScanouts screenNum a =>
      exact hdiscard (conforms_releaseFrameBuffer o numScanouts screenNum a)
  | blackOutScreen o i mode c => exact hdiscard (conforms_blackOutScreen hscreen o i mode c)
  | setPointerShape o blob i shape format c =>
      exact hdiscard (conforms_setPointerShape hscreen o blob i shape format c)
  | setPointerPosition o i x y c => exact hdiscard (conforms_setPointerPosition hscreen o i x y c)
  | getModeList numScanouts edidFeature answers st =>
      exact hdiscard (conforms_getModeList hscreen numScanouts edidFeature answers st)
  | getEdids q i st => exact hdiscard (conforms_getEdids hscreen q i st)
  | getEdidData numScanouts id st => exact hdiscard (conforms_getEdidData hscreen numScanouts id st)

/-- Whoever acquires a segment mutex does not hold the screen mutex: it ranks higher. -/
theorem screen_free {op : Operation} {before rest : List (Act Mutex)} {i : ScreenId}
    (hacts : op.acts = before ++ .acquire (.segment i) :: rest) :
    heldAfter Held.nothing before .screen = 0 := by
  have hdisciplined : hierarchy.Disciplined Held.nothing op.acts := (conforms_run op).disciplined
  rw [hacts, Hierarchy.disciplined_append] at hdisciplined
  have hadmits : hierarchy.Admits (heldAfter Held.nothing before) (.segment i) :=
    hdisciplined.2.1
  by_contra hheld
  rcases hadmits .screen hheld with hlower | ⟨hsame, -⟩
  · exact absurd hlower (Nat.not_lt_zero _)
  · cases hsame

end Operation

universe u

/-- Every way out of an operation has released each mutex as often as it was acquired, no
operation acquires a segment mutex while it holds the screen mutex, and whatever operations
any threads run, no thread waits for itself over others. -/
theorem locks_balanced_and_acyclic :
    (∀ (op : Operation), op.run.result = .ok () →
      ∀ m, op.acts.count (.release m) = op.acts.count (.acquire m)) ∧
    (∀ (op : Operation) (before rest : List (Act Mutex)) (i : ScreenId),
      op.acts = before ++ .acquire (.segment i) :: rest →
        heldAfter Held.nothing before .screen = 0) ∧
    ∀ (Thread : Type u) [DecidableEq Thread] (s : Threads Thread Mutex),
      (Threads.system hierarchy Operation.acts).Reach Threads.idle s →
        ∀ t, ¬ Relation.TransGen (s.WaitsFor hierarchy) t t := by
  refine ⟨?_, ?_, ?_⟩
  · intro op hresult m
    exact (Operation.conforms_run op).count_eq hresult m
  · intro op before rest i hacts
    exact Operation.screen_free hacts
  · intro Thread _ s hreach t
    exact Threads.no_cycle_of_reach (fun op => (Operation.conforms_run op).settles) hreach t

/-- A present that finds no modes. -/
def modelessPresent (i : ScreenId) : Operation :=
  .executePresentDisplayZeroCopy .good false i 0
    { width := 800, height := 600, pitch := 3200, targetId := i, colorFormat := .x8r8g8b8
      stride := 800, frameBufferIsActive := false, setMode := false, ptr := 0 }
    { screen :=
        { modes := .initial
          frameSegment := .closed
          front := none
          fbSrcAddr := 0, fbWidth := 0, fbHeight := 0, fbStride := 0
          flushStallCount := 0
          cursorBuf := none
          cursorSegment := .closed }
      idr := .initial
      serial := 0
      actions := [] }

/-- Of two presents on different screens, one waits for the screen mutex of the other. -/
theorem locks_balanced_and_acyclic_presents :
    (modelessPresent 0).acts.count (.release .screen) =
        (modelessPresent 0).acts.count (.acquire .screen) ∧
      heldAfter Held.nothing ([] : List (Act Mutex)) .screen = 0 ∧
      ∃ s : Threads Bool Mutex, Threads.WaitsFor hierarchy s false true ∧
        ¬ Relation.TransGen (Threads.WaitsFor hierarchy s) false false := by
  obtain ⟨hbalanced, hordered, hacyclic⟩ := locks_balanced_and_acyclic
  have hacts : (modelessPresent 0).acts = [] ++ .acquire (.segment 0) ::
      [.acquire .screen, .release .screen, .release (.segment 0)] := rfl
  have hrun : ∃ s, (Threads.system hierarchy Operation.acts).run Threads.idle
      [.begin true (modelessPresent 0), .go true, .go true, .begin false (modelessPresent 1),
        .go false] = some s ∧ Threads.WaitsFor hierarchy s false true :=
    ⟨_, rfl, .screen, ⟨_, rfl⟩, ⟨_, rfl⟩, by decide⟩
  obtain ⟨s, hrun, hwaits⟩ := hrun
  have hreach := System.ReachUnder.run .refl (fun _ _ _ => trivial) hrun
  exact ⟨hbalanced _ rfl _, hordered _ _ _ _ hacts, s, hwaits, hacyclic Bool s hreach false⟩

end VirtDisplay.LockOrder
