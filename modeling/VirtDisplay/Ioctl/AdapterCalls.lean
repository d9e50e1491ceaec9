/-
# What a request asks of the adapter

A handler sees no more of an adapter function than its status. Here the functions are run:
`perform` runs the one an `AdapterCall` names, and `perform_exec` says that the machine
of the adapter takes the same call to the same screens with the same actions.

A `Meeting` is one such call with the adapter it met and what it left. About each function
two things are settled, when it succeeds and when it leaves no trace. The first decides
how a handler goes on, the second whether it had better not have called.
-/

import VirtDisplay.Adapter.Runs
import VirtDisplay.Ioctl.Handlers

namespace VirtDisplay.Ioctl

/-- `SetCurrentModeExt` for the mode of a request. -/
def performMode (o : Outcomes) (flushCount : ScreenId → Nat) (a : Adapter) (i : ScreenId)
    (mode : CurrentMode) : Option (Adapter × List Action × NtStatus) :=
  (setCurrentModeExt o a.blobSupported i (flushCount i) mode (a.ctx i)).map fun (c, status, _) =>
    (a.withCtx i c, c.actions, status)

/-- The adapter after a call, what the call did that others see, and its status. `none` is
a fault in the search of the mode list. -/
def perform (o : Outcomes) (flushCount : ScreenId → Nat) (a : Adapter) :
    AdapterCall → Option (Adapter × List Action × NtStatus)
  | .setCurrentModeExt f => performMode o flushCount a f.screen f.setModeRequest
  | .executePresentDisplayZeroCopy f => performMode o flushCount a f.screen f.presentRequest
  | .blackOutScreen f fbVAddr =>
      let c := blackOutScreen o f.screen (f.blackOutRequest fbVAddr) (a.ctx f.screen)
      some (a.withCtx f.screen c, c.actions, .success)
  | .setPointerShape i shape format =>
      let (c, status) := VirtDisplay.setPointerShape o a.blobSupported i shape format (a.ctx i)
      some (a.withCtx i c, c.actions, status)
  | .setPointerPosition i x y =>
      let (c, status) := VirtDisplay.setPointerPosition o i x y (a.ctx i)
      some (a.withCtx i c, c.actions, status)
  | .releaseFrameBuffer screenNum =>
      if h : screenNum < maxScanOut then
        let c := VirtDisplay.releaseFrameBuffer o ⟨screenNum, h⟩ (a.ctx ⟨screenNum, h⟩)
        some (a.withCtx ⟨screenNum, h⟩ c, c.actions, .success)
      else some (a, [], .invalidParameter)
  | .setEvent _ => some (a, [], .success)

/-- The machine's call for a call of an adapter function. A black-out is the one its
`SET_MODE` left to be done. -/
inductive Invokes (a : Adapter) (o : Outcomes) : AdapterCall → Call → Prop
  | setMode {frame : FrameMetaData} {f : AcceptedFrame} (haccept : admitFrame frame = .ok f) :
      Invokes a o (.setCurrentModeExt f) (.setMode frame true o)
  | present {frame : FrameMetaData} {f : AcceptedFrame} (haccept : admitFrame frame = .ok f) :
      Invokes a o (.executePresentDisplayZeroCopy f) (.present frame true o)
  | blackOut {k fbVAddr : Nat} {f : AcceptedFrame}
      (hpending : a.pendingBlackOuts[k]? = some (f.blackOutRequest fbVAddr)) :
      Invokes a o (.blackOutScreen f fbVAddr) (.blackOut k o)
  | cursorData (i : ScreenId) (shape : PointerShape) (format : D3DDDIFormat) :
      Invokes a o (.setPointerShape i shape format) (.cursorData i shape format o)
  | cursorPos (i : ScreenId) (x y : Nat) :
      Invokes a o (.setPointerPosition i x y) (.cursorPos i x y o)
  | releaseFb (screenNum : Nat) :
      Invokes a o (.releaseFrameBuffer screenNum) (.releaseFb screenNum o)

section

variable {o : Outcomes} {s : Shared} {a a' : Adapter} {actions : List Action} {status : NtStatus}
  {call : AdapterCall} {c : Call}

/-- An adapter function does what the machine does in the same call: the same actions, and
the same to the screens, the bitmap and the numbers. -/
theorem perform_exec (hready : a.hardwareInit = true) (hinvokes : Invokes a o call c)
    (hperform : perform o s.flushCount a call = some (a', actions, status)) :
    ∃ after record, exec a s c = some (after, actions, record) ∧
      after.screens = a'.screens ∧ after.idr = a'.idr ∧ after.serial = a'.serial := by
  have hon : ¬ ¬ a.hardwareInit = true := not_not.mpr hready
  cases hinvokes with
  | setMode haccept =>
      obtain ⟨⟨c', st, path⟩, hcall, heq⟩ := Option.map_eq_some_iff.mp hperform
      cases heq
      simp [exec, hready, haccept, ioctlRequestSetMode, hcall]
  | present haccept =>
      obtain ⟨⟨c', st, path⟩, hcall, heq⟩ := Option.map_eq_some_iff.mp hperform
      cases heq
      simp [exec, hready, haccept, executePresentDisplayZeroCopy, hcall]
  | blackOut hpending =>
      cases hperform
      simp only [exec, hpending]
      exact ⟨_, _, rfl, rfl, rfl, rfl⟩
  | cursorData i shape format =>
      cases hperform
      exact ⟨_, _, if_neg hon, rfl, rfl, rfl⟩
  | cursorPos i x y =>
      cases hperform
      exact ⟨_, _, if_neg hon, rfl, rfl, rfl⟩
  | releaseFb screenNum =>
      simp only [perform] at hperform
      simp only [exec, if_neg hon]
      split at hperform
      next hlt =>
        cases hperform
        exact ⟨_, _, dif_pos hlt, rfl, rfl, rfl⟩
      next hlt =>
        cases hperform
        exact ⟨_, _, dif_neg hlt, rfl, rfl, rfl⟩

theorem performMode_spec {i : ScreenId} {mode : CurrentMode} {flushCount : ScreenId → Nat}
    (hperform : performMode o flushCount a i mode = some (a', actions, status)) :
    ∃ c' path, ModeStep o a.blobSupported i (flushCount i) mode (a.ctx i) c' status path ∧
      a' = a.withCtx i c' ∧ actions = c'.actions := by
  obtain ⟨⟨c', status', path⟩, hcall, heq⟩ := Option.map_eq_some_iff.mp hperform
  cases heq
  exact ⟨c', path, setCurrentModeExt_spec hcall, rfl, rfl⟩

end

/-- A call of an adapter function: the adapter it meets, the environment's answers, and
what comes of it. -/
structure Meeting (call : AdapterCall) where
  outcomes : Outcomes
  flushCount : ScreenId → Nat
  before : Adapter
  after : Adapter
  actions : List Action
  status : NtStatus
  /-- No object has a number that is yet to be handed out. -/
  fronts : before.FrontsNumbered
  cursors : before.CursorsNumbered
  performed : perform outcomes flushCount before call = some (after, actions, status)

/-- The objects of a running device are numbered, so that any call it takes is a
meeting. -/
theorem objectsNumbered {m : Machine} (hreach : m.Reachable) :
    m.priv.FrontsNumbered ∧ m.priv.CursorsNumbered := by
  refine Machine.ReachableUnder.adapter_invariant hreach
    (I := fun a _ => a.FrontsNumbered ∧ a.CursorsNumbered) ?_ ?_
  · intro a hbooted
    refine ⟨fun j obj hobj => ?_, fun j obj hobj => ?_⟩
    · cases (hbooted.screens j).front.symm.trans hobj
    · cases (hbooted.screens j).cursorBuf.symm.trans hobj
  · rintro m call a' actions record ⟨hfronts, hcursors⟩ _ _ hcall
    exact ⟨hcall.frontsNumbered hfronts, hcall.cursorsNumbered hcursors⟩

namespace Meeting

variable {call : AdapterCall} (m : Meeting call)

/-- Nothing was queued, no lock was taken or released, no flush counted, and every screen
with its pointer is as it was. -/
structure Untouched : Prop where
  screens : m.after.screens = m.before.screens
  actions : m.actions = []

/-- A function on one screen leaves all screens as they are if it leaves that one. -/
theorem withCtx_screens_eq_iff {a : Adapter} {i : ScreenId} {c : Ctx} :
    (a.withCtx i c).screens = a.screens ↔ c.screen = a.screens i := Function.update_eq_self_iff

section

variable {m} {i : ScreenId} {mode : CurrentMode}

/-- A mode set succeeds if the screen's mode list has an entry, the right one or not. -/
theorem mode_success_iff
    (hmode : perform m.outcomes m.flushCount m.before call =
      performMode m.outcomes m.flushCount m.before i mode) :
    m.status = .success ↔ (m.before.screens i).modes.modeCount ≠ 0 := by
  obtain ⟨c', path, hstep, -, -⟩ := performMode_spec (hmode.symm.trans m.performed)
  exact hstep.success_iff

theorem mode_untouched_iff
    (hmode : perform m.outcomes m.flushCount m.before call =
      performMode m.outcomes m.flushCount m.before i mode) :
    m.Untouched ↔
      LeavesNoTrace m.outcomes m.before.blobSupported (m.flushCount i) mode (m.before.ctx i) := by
  obtain ⟨c', path, hstep, hafter, hactions⟩ := performMode_spec (hmode.symm.trans m.performed)
  rw [← hstep.untouched_iff rfl (m.fronts i), ← hactions]
  constructor
  · rintro ⟨hscreens, hnone⟩
    exact ⟨withCtx_screens_eq_iff.mp (hafter ▸ hscreens), hnone⟩
  · rintro ⟨hscreen, hnone⟩
    exact ⟨hafter ▸ withCtx_screens_eq_iff.mpr hscreen, hnone⟩

end

section

variable {f : AcceptedFrame}

theorem present_success_iff (m : Meeting (.executePresentDisplayZeroCopy f)) :
    m.status = .success ↔ (m.before.screens f.screen).modes.modeCount ≠ 0 := mode_success_iff rfl

theorem present_untouched_iff (m : Meeting (.executePresentDisplayZeroCopy f)) :
    m.Untouched ↔ LeavesNoTrace m.outcomes m.before.blobSupported (m.flushCount f.screen)
      f.presentRequest (m.before.ctx f.screen) := mode_untouched_iff rfl

theorem setMode_success_iff (m : Meeting (.setCurrentModeExt f)) :
    m.status = .success ↔ (m.before.screens f.screen).modes.modeCount ≠ 0 := mode_success_iff rfl

theorem setMode_untouched_iff (m : Meeting (.setCurrentModeExt f)) :
    m.Untouched ↔ LeavesNoTrace m.outcomes m.before.blobSupported (m.flushCount f.screen)
      f.setModeRequest (m.before.ctx f.screen) := mode_untouched_iff rfl

end

/-- A black-out leaves no trace on a screen without a front. -/
theorem blackOut_untouched_iff {f : AcceptedFrame} {fbVAddr : Nat}
    (m : Meeting (.blackOutScreen f fbVAddr)) :
    m.Untouched ↔ (m.before.screens f.screen).front = none := by
  have hperformed := m.performed
  simp only [perform, Option.some.injEq, Prod.mk.injEq] at hperformed
  obtain ⟨hafter, hactions, -⟩ := hperformed
  have hscreens : m.after.screens = m.before.screens := by
    rw [← hafter, withCtx_screens_eq_iff, blackOutScreen_screen]
    rfl
  rw [blackOutScreen_actions, Adapter.ctx_actions, List.nil_append] at hactions
  have hnone : m.actions = [] ↔ (m.before.screens f.screen).front = none := by
    rw [← hactions, blackOutActions]
    cases hfront : (m.before.screens f.screen).front <;>
      simp [hfront, AcceptedFrame.blackOutRequest]
  exact ⟨fun huntouched => hnone.mp huntouched.actions, fun hfront => ⟨hscreens, hnone.mpr hfront⟩⟩

section

variable {i : ScreenId} {shape : PointerShape} {format : D3DDDIFormat}

theorem pointerShape_success_iff (m : Meeting (.setPointerShape i shape format)) :
    m.status = .success ↔
      CursorBuildable m.outcomes (m.before.ctx i) ∧ m.outcomes.allocCursor = true := by
  have hperformed := m.performed
  simp only [perform, Option.some.injEq, Prod.mk.injEq] at hperformed
  rw [← hperformed.2.2]
  exact setPointerShape_success_iff _ _ _ _ _ _

/-- A new pointer always leaves a trace: an object with a new number. -/
theorem pointerShape_touched (m : Meeting (.setPointerShape i shape format))
    (hsuccess : m.status = .success) : ¬ m.Untouched := by
  intro huntouched
  have hbuild := (m.pointerShape_success_iff.mp hsuccess).1
  have hperformed := m.performed
  simp only [perform, Option.some.injEq, Prod.mk.injEq] at hperformed
  have hstep := setPointerShape_spec m.outcomes m.before.blobSupported i shape format
    (m.before.ctx i)
  have hcursor := hstep.cursorBuf
  have hscreens := huntouched.screens
  rw [← hperformed.1, withCtx_screens_eq_iff] at hscreens
  rw [hscreens, if_pos hbuild] at hcursor
  exact Nat.lt_irrefl _ (m.cursors i _ hcursor)

end

section

variable {i : ScreenId} {x y : Nat}

theorem pointerPosition_success_iff (m : Meeting (.setPointerPosition i x y)) :
    m.status = .success ↔
      (m.before.screens i).cursorBuf ≠ none ∧ m.outcomes.allocCursor = true := by
  have hperformed := m.performed
  simp only [perform, Option.some.injEq, Prod.mk.injEq] at hperformed
  rw [← hperformed.2.2]
  exact setPointerPosition_success_iff _ _ _ _ _

theorem pointerPosition_untouched_iff (m : Meeting (.setPointerPosition i x y)) :
    m.Untouched ↔ (m.before.screens i).cursorBuf = none ∨ m.outcomes.allocCursor = false ∨
      m.outcomes.addCursor = false := by
  have hperformed := m.performed
  simp only [perform, Option.some.injEq, Prod.mk.injEq] at hperformed
  obtain ⟨hafter, hactions, -⟩ := hperformed
  have hscreens : m.after.screens = m.before.screens := by
    rw [← hafter, withCtx_screens_eq_iff, (setPointerPosition_spec _ _ _ _ _).1]
    rfl
  have hnone := setPointerPosition_actions_eq_iff m.outcomes i (m.before.ctx i) x y
  rw [Adapter.ctx_actions, hactions] at hnone
  exact ⟨fun huntouched => hnone.mp huntouched.actions, fun hwhy => ⟨hscreens, hnone.mpr hwhy⟩⟩

end

end Meeting

/-- The adapter before `HWInit`. -/
def constructed : Adapter where
  screens := fun _ =>
    { modes := .initial
      frameSegment := .closed
      front := none
      fbSrcAddr := 0, fbWidth := 0, fbHeight := 0, fbStride := 0
      flushStallCount := 0
      cursorBuf := none
      cursorSegment := .closed }
  displayInfo := .initial
  bEdid := false
  behindGpuEdid := fun _ => 0
  edidFeature := false
  blobSupported := false
  hardwareInit := false
  idr := .initial
  serial := 0
  unreadBlackOuts := []
  pendingBlackOuts := []

/-- Every call can be met by some adapter. -/
instance (call : AdapterCall) : Nonempty (Meeting call) := by
  have hperformed : ∃ result, perform .good (fun _ => 0) constructed call = some result := by
    cases call with
    | releaseFrameBuffer screenNum =>
        simp only [perform]
        split
        · exact ⟨_, rfl⟩
        · exact ⟨_, rfl⟩
    | setCurrentModeExt f | executePresentDisplayZeroCopy f | blackOutScreen f fbVAddr
    | setPointerShape i shape format | setPointerPosition i x y | setEvent event => exact ⟨_, rfl⟩
  obtain ⟨⟨after, actions, status⟩, hperformed⟩ := hperformed
  exact ⟨⟨.good, fun _ => 0, constructed, after, actions, status, nofun, nofun, hperformed⟩⟩

end VirtDisplay.Ioctl
