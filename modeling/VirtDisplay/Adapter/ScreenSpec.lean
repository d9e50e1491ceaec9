/-
# What a call does to one screen

Most invariants speak of one screen's frame buffer. For these it does not matter
which of the nine calls ran, only what it did to that screen, and there are four
possibilities: nothing, a mode-set call, a release, a power-down. `ScreenStep`
lists them, and every call is shown to do one of them to each screen.

`SET_MODE` and a frame present enter the mode-set state machine in the same way.
`Request` is what they have in common.
-/

import VirtDisplay.Adapter.Machine
import VirtDisplay.Adapter.CursorSpec
import VirtDisplay.Adapter.SetModeSpec

namespace VirtDisplay

open Transition

/-- A frame that is on its way to `SetCurrentModeExt`. -/
structure Request where
  frame : AcceptedFrame
  /-- It came with `SET_MODE`. -/
  setMode : Bool
  outcomes : Outcomes

namespace Request

variable (r : Request)

def screen : ScreenId := r.frame.screen

/-- The mode `SetCurrentModeExt` is called with. -/
def mode : CurrentMode := if r.setMode then r.frame.setModeRequest else r.frame.presentRequest

@[simp] theorem mode_setMode : r.mode.setMode = r.setMode := by
  unfold mode
  split
  next h => exact h.symm
  next h => exact (Bool.eq_false_iff.mpr h).symm

@[simp] theorem mode_ptr : r.mode.ptr = r.frame.frame.addr := by unfold mode; split <;> rfl
@[simp] theorem mode_width : r.mode.width = r.frame.frame.width := by unfold mode; split <;> rfl
@[simp] theorem mode_height : r.mode.height = r.frame.frame.height := by unfold mode; split <;> rfl
@[simp] theorem mode_pitch : r.mode.pitch = r.frame.frame.pitch := by unfold mode; split <;> rfl
@[simp] theorem mode_stride : r.mode.stride = r.frame.frame.stride := by unfold mode; split <;> rfl

end Request

/-- The accepted frame a call carries. -/
def Call.request : Call → Option Request
  | .setMode frame _ o => (admitFrame frame).toOption.map fun f => ⟨f, true, o⟩
  | .present frame _ o => (admitFrame frame).toOption.map fun f => ⟨f, false, o⟩
  | _ => none

/-- `admitFrame` accepts exactly the metadata of the accepted frame. -/
theorem frame_of_admitFrame {frame : FrameMetaData} {f : AcceptedFrame}
    (haccept : admitFrame frame = .ok f) : f.frame = frame := by
  unfold admitFrame at haccept
  split at haccept
  next => cases haccept; rfl
  next => cases haccept

theorem frame_of_toOption {frame : FrameMetaData} {f : AcceptedFrame}
    (haccept : (admitFrame frame).toOption = some f) : f.frame = frame := by
  cases hadmitted : admitFrame frame with
  | error status =>
      rw [hadmitted] at haccept
      cases haccept
  | ok f' =>
      rw [hadmitted] at haccept
      obtain rfl := Option.some.inj haccept
      exact frame_of_admitFrame hadmitted

theorem Call.request_setMode {frame : FrameMetaData} {probed : Bool} {o : Outcomes} {r : Request}
    (hrequest : (Call.setMode frame probed o).request = some r) :
    r.frame.frame = frame ∧ r.setMode = true ∧ r.outcomes = o := by
  simp only [Call.request] at hrequest
  obtain ⟨f, hf, rfl⟩ := Option.map_eq_some_iff.mp hrequest
  exact ⟨frame_of_toOption hf, rfl, rfl⟩

theorem Call.request_present {frame : FrameMetaData} {probed : Bool} {o : Outcomes} {r : Request}
    (hrequest : (Call.present frame probed o).request = some r) :
    r.frame.frame = frame ∧ r.setMode = false ∧ r.outcomes = o := by
  simp only [Call.request] at hrequest
  obtain ⟨f, hf, rfl⟩ := Option.map_eq_some_iff.mp hrequest
  exact ⟨frame_of_toOption hf, rfl, rfl⟩

/-- The request meets a state in which its frame rebuilds the front resource. -/
abbrev RebuildsFront (a : Adapter) (s : Shared) (r : Request) : Prop :=
  Rebuilds r.screen (s.flushCount r.screen) r.mode (a.ctx r.screen)

/-- The request meets a state in which its frame reuses the front resource. -/
abbrev ReusesFront (a : Adapter) (s : Shared) (r : Request) : Prop :=
  Reuses r.screen (s.flushCount r.screen) r.mode (a.ctx r.screen)

/-- The request meets a state in which its frame rebuilds the front resource, and no
check of the creation fails. -/
abbrev InstallsFront (a : Adapter) (s : Shared) (r : Request) : Prop :=
  Installs r.outcomes r.screen (s.flushCount r.screen) r.mode (a.ctx r.screen)

/-- A powered-down screen: its objects are gone and its frame segment is closed,
unless it had no memory in the first place. -/
structure ScreenInfo.PoweredDown (x y : ScreenInfo) : Prop where
  front : y.front = none
  frameSegment : y.frameSegment = if x.frameSegment.vAddr ≠ 0 then .closed else x.frameSegment
  fbSrcAddr : y.fbSrcAddr = x.fbSrcAddr
  fbWidth : y.fbWidth = x.fbWidth
  fbHeight : y.fbHeight = x.fbHeight
  fbStride : y.fbStride = x.fbStride
  flushStallCount : y.flushStallCount = x.flushStallCount

/-- A released screen. -/
structure ScreenInfo.Released (y : ScreenInfo) : Prop where
  front : y.front = none
  frameSegment : y.frameSegment = .closed
  fbSrcAddr : y.fbSrcAddr = 0
  fbWidth : y.fbWidth = 0
  fbHeight : y.fbHeight = 0
  fbStride : y.fbStride = 0
  flushStallCount : y.flushStallCount = 0

/-- The record is of a mode-set call for screen `j`. -/
def Record.IsModeOf (record : Record) (j : ScreenId) : Prop :=
  ∃ f setMode status path, record = .mode f setMode status path ∧ f.screen = j

/-- What a call can do to the frame buffer of screen `j`; the last index is the
screen afterwards. -/
inductive ScreenStep (a : Adapter) (s : Shared) (call : Call) (j : ScreenId) :
    Record → ScreenInfo → Prop
  | unchanged {record : Record} {y : ScreenInfo} (hother : ¬ record.IsModeOf j)
      (heq : (a.screens j).FrameEq y) : ScreenStep a s call j record y
  | mode {c' : Ctx} {status : NtStatus} {path : PresentPath} (r : Request)
      (hrequest : call.request = some r) (hscreen : r.screen = j)
      (hmode : ModeStep r.outcomes a.blobSupported j (s.flushCount j) r.mode (a.ctx j) c' status
        path) :
      ScreenStep a s call j (.mode r.frame r.setMode status path) c'.screen
  | release {o : Outcomes} {y : ScreenInfo} (hcall : call = .releaseFb j.val o)
      (hreleased : y.Released) : ScreenStep a s call j .other y
  | powerDown {o : ScreenId → Outcomes} {y : ScreenInfo} (hcall : call = .d0Exit o)
      (hdown : (a.screens j).PoweredDown y) : ScreenStep a s call j .other y

@[simp]
theorem blackOutScreen_screen (o : Outcomes) (i : ScreenId) (mode : CurrentMode) (c : Ctx) :
    (blackOutScreen o i mode c).screen = c.screen := by
  unfold blackOutScreen
  split
  next => split <;> simp
  next => rfl

theorem releaseFrameBuffer_released (o : Outcomes) (i : ScreenId) (c : Ctx) :
    (releaseFrameBuffer o i c).screen.Released := by
  constructor <;> simp [releaseFrameBuffer, Segment.close]

/-- Running a function on each screen changes each listed screen by it, when the
function's effect on a screen depends on that screen alone. -/
theorem forScreens_screens {f : ScreenId → Ctx → Ctx} (g : ScreenId → ScreenInfo → ScreenInfo)
    (hscreen : ∀ i c, (f i c).screen = g i c.screen) {todo : List ScreenId} (hnodup : todo.Nodup)
    (a : Adapter) (j : ScreenId) :
    (forScreens f todo a).1.screens j = if j ∈ todo then g j (a.screens j) else a.screens j := by
  induction todo generalizing a with
  | nil => rfl
  | cons i todo ih =>
      obtain ⟨hnot, hnodup⟩ := List.nodup_cons.mp hnodup
      simp only [forScreens]
      rw [ih hnodup]
      by_cases hji : j = i
      · subst hji
        rw [if_neg hnot, if_pos List.mem_cons_self, Adapter.withCtx_screens_self, hscreen]
        rfl
      · simp only [List.mem_cons, hji, false_or, Adapter.withCtx_screens_of_ne hji]

/-- A screen without its objects. -/
def ScreenInfo.withoutObjs (x : ScreenInfo) : ScreenInfo :=
  { x with front := none, cursorBuf := none }

theorem destroyScreenObjs_screen (o : Outcomes) (c : Ctx) :
    (destroyScreenObjs o c).screen = c.screen.withoutObjs := by
  simp [destroyScreenObjs, ScreenInfo.withoutObjs]

/-- A segment after `HWClose`. -/
def Segment.hwClosed (segment : Segment) : Segment :=
  if segment.vAddr ≠ 0 then segment.close else segment

/-- A screen after `HWClose`. -/
def ScreenInfo.hwClosed (x : ScreenInfo) : ScreenInfo :=
  { x with frameSegment := x.frameSegment.hwClosed, cursorSegment := x.cursorSegment.hwClosed }

theorem closeSegments_screen (c : Ctx) : (closeSegments c).screen = c.screen.hwClosed := by
  unfold closeSegments ScreenInfo.hwClosed Segment.hwClosed
  dsimp only
  split_ifs <;> rfl

theorem d0Exit_screens (o : ScreenId → Outcomes) (a : Adapter) (j : ScreenId) :
    (d0Exit o a).1.screens j = (a.screens j).withoutObjs.hwClosed := by
  have hmem : j ∈ List.finRange maxScanOut := List.mem_finRange j
  have hnodup : (List.finRange maxScanOut).Nodup := List.nodup_finRange _
  have hdestroy := fun a => forScreens_screens (fun _ x => x.withoutObjs)
    (fun i c => destroyScreenObjs_screen (o i) c) hnodup a j
  have hclose := fun a => forScreens_screens (fun _ x => x.hwClosed)
    (fun _ c => closeSegments_screen c) hnodup a j
  simp only [d0Exit]
  rw [hclose, if_pos hmem, hdestroy, if_pos hmem]

theorem d0Exit_poweredDown (o : ScreenId → Outcomes) (a : Adapter) (j : ScreenId) :
    (a.screens j).PoweredDown ((d0Exit o a).1.screens j) := by
  rw [d0Exit_screens]
  exact ⟨rfl, rfl, rfl, rfl, rfl, rfl, rfl⟩

/-- An action performed while running over the screens is performed by the function
on one of them. -/
theorem mem_forScreens {f : ScreenId → Ctx → Ctx} {todo : List ScreenId} (hnodup : todo.Nodup)
    {a : Adapter} {action : Action} (hmem : action ∈ (forScreens f todo a).2) :
    ∃ i ∈ todo, ∃ c, c.screen = a.screens i ∧ c.actions = [] ∧ action ∈ (f i c).actions := by
  induction todo generalizing a with
  | nil => cases hmem
  | cons i todo ih =>
      obtain ⟨hnot, hnodup⟩ := List.nodup_cons.mp hnodup
      simp only [forScreens, List.mem_append] at hmem
      rcases hmem with hown | hrest
      · exact ⟨i, List.mem_cons_self, a.ctx i, rfl, rfl, hown⟩
      · obtain ⟨j, hj, c, hc, hempty, hmem⟩ := ih hnodup hrest
        have hji : j ≠ i := fun heq => hnot (heq ▸ hj)
        exact ⟨j, List.mem_cons_of_mem _ hj, c, hc.trans (Adapter.withCtx_screens_of_ne hji),
          hempty, hmem⟩

/-- Destroying the objects of a screen only queues commands, and none with memory
entries. -/
theorem mem_destroyScreenObjs {o : Outcomes} {c : Ctx} {action : Action} (hempty : c.actions = [])
    (hmem : action ∈ (destroyScreenObjs o c).actions) : ∃ cmd, action = .submit ⟨cmd, none⟩ := by
  have hsubmitted : ∀ cmd : GpuCmd, action ∈ submitted o cmd none →
      ∃ cmd, action = .submit ⟨cmd, none⟩ := fun cmd h => ⟨cmd, (mem_submitted.mp h).2⟩
  have hdestroy : ∀ bReset resid, action ∈ destroyActions o bReset resid →
      ∃ cmd, action = .submit ⟨cmd, none⟩ := by
    intro bReset resid h
    cases bReset with
    | true =>
        rcases List.mem_append.mp h with h | h
        · exact (List.mem_append.mp h).elim (hsubmitted _) (hsubmitted _)
        · exact hsubmitted _ h
    | false =>
        rcases List.mem_append.mp h with h | h
        · exact (List.mem_append.mp h).elim (hsubmitted _) (hsubmitted _)
        · cases h
  rw [destroyScreenObjs, destroyCursor_actions, destroyFrameBufferObj_actions, hempty,
    List.nil_append] at hmem
  rcases List.mem_append.mp hmem with hmem | hmem
  · split at hmem
    next => cases hmem
    next => exact hdestroy _ _ hmem
  · split at hmem
    next => cases hmem
    next => exact hdestroy _ _ hmem

/-- A segment only ever unlocks its own pages. -/
theorem Segment.mem_closeEvents {segment : Segment} {event : PageEvent} :
    event ∈ segment.closeEvents ↔ (segment.systemMemory || segment.userMemory) = true ∧
      ∃ mdl, segment.mdl = some mdl ∧ event = .unlock mdl := by
  unfold Segment.closeEvents
  split
  next h => simp [h]
  next mdl h =>
    split
    next hmem => simp [h, hmem]
    next hmem => simp [h, hmem]

theorem closeSegments_actions (c : Ctx) : (closeSegments c).actions = c.actions ++
    (if c.screen.frameSegment.vAddr ≠ 0 then c.screen.frameSegment.closeEvents.map .pages
      else []) ++
      if c.screen.cursorSegment.vAddr ≠ 0 then c.screen.cursorSegment.closeEvents.map .pages
      else [] := by
  unfold closeSegments
  by_cases hframe : c.screen.frameSegment.vAddr ≠ 0 <;>
    by_cases hcursor : c.screen.cursorSegment.vAddr ≠ 0 <;> simp [hframe, hcursor, Ctx.pages]

theorem mem_closeSegments {c : Ctx} {action : Action} (hempty : c.actions = [])
    (hmem : action ∈ (closeSegments c).actions) :
    ∃ mdl, action = .pages (.unlock mdl) ∧
      (c.screen.frameSegment.mdl = some mdl ∨ c.screen.cursorSegment.mdl = some mdl) := by
  have hclose : ∀ (p : Prop) [Decidable p] (segment : Segment),
      action ∈ (if p then segment.closeEvents.map Action.pages else []) →
        ∃ mdl, action = .pages (.unlock mdl) ∧ segment.mdl = some mdl := by
    intro p _ segment h
    split at h
    next =>
      obtain ⟨event, hevent, rfl⟩ := List.mem_map.mp h
      obtain ⟨-, mdl, hmdl, rfl⟩ := Segment.mem_closeEvents.mp hevent
      exact ⟨mdl, rfl, hmdl⟩
    next => cases h
  rw [closeSegments_actions, hempty, List.nil_append] at hmem
  rcases List.mem_append.mp hmem with h | h
  · obtain ⟨mdl, heq, hmdl⟩ := hclose _ _ h
    exact ⟨mdl, heq, .inl hmdl⟩
  · obtain ⟨mdl, heq, hmdl⟩ := hclose _ _ h
    exact ⟨mdl, heq, .inr hmdl⟩

/-- Leaving D0 queues commands without memory entries, resets the device, and then
only unlocks pages the screens had locked. -/
theorem d0Exit_actions (o : ScreenId → Outcomes) (a : Adapter) :
    ∃ destroyed closed, (d0Exit o a).2 = destroyed ++ .reset :: closed ∧
      (∀ action ∈ destroyed, ∃ cmd, action = .submit ⟨cmd, none⟩) ∧
      ∀ action ∈ closed, ∃ mdl, action = .pages (.unlock mdl) ∧
        ∃ i, (a.screens i).frameSegment.mdl = some mdl ∨
          (a.screens i).cursorSegment.mdl = some mdl := by
  have hnodup : (List.finRange maxScanOut).Nodup := List.nodup_finRange _
  let destroyed := forScreens (fun i => destroyScreenObjs (o i)) (List.finRange maxScanOut) a
  let closed := forScreens (fun _ => closeSegments) (List.finRange maxScanOut) destroyed.1
  refine ⟨destroyed.2, closed.2, rfl, ?_, ?_⟩
  · intro action hmem
    obtain ⟨i, -, c, -, hempty, hmem⟩ := mem_forScreens hnodup hmem
    exact mem_destroyScreenObjs hempty hmem
  · intro action hmem
    obtain ⟨i, -, c, hc, hempty, hmem⟩ := mem_forScreens hnodup hmem
    obtain ⟨mdl, heq, hmdl⟩ := mem_closeSegments hempty hmem
    refine ⟨mdl, heq, i, ?_⟩
    have hscreens := forScreens_screens (fun _ x => x.withoutObjs)
      (fun i c => destroyScreenObjs_screen (o i) c) hnodup a i
    rw [if_pos (List.mem_finRange i)] at hscreens
    rw [hc, hscreens] at hmdl
    exact hmdl

/-! ## Every call -/

/-- The black-outs a request leaves to be done. -/
def Request.owedBlackOuts (r : Request) (status : NtStatus) : List AcceptedFrame :=
  if r.setMode = true ∧ status = .success then [r.frame] else []

/-- What a call does, to the adapter, to the outside, and on the record. -/
inductive CallStep (a : Adapter) (s : Shared) (call : Call) :
    Adapter → List Action → Record → Prop
  | rejected (status : NtStatus) : CallStep a s call a [] (.rejected status)
  | mode {c' : Ctx} {status : NtStatus} {path : PresentPath} (r : Request)
      (hrequest : call.request = some r)
      (hmode : ModeStep r.outcomes a.blobSupported r.screen (s.flushCount r.screen) r.mode
        (a.ctx r.screen) c' status path) :
      CallStep a s call
        { a.withCtx r.screen c' with
          unreadBlackOuts := a.unreadBlackOuts ++ r.owedBlackOuts status }
        c'.actions (.mode r.frame r.setMode status path)
  | getFbVAddr (k : Nat) (f : AcceptedFrame) (hcall : call = .getFbVAddr k)
      (hunread : a.unreadBlackOuts[k]? = some f) :
      CallStep a s call
        { a with
          unreadBlackOuts := a.unreadBlackOuts.eraseIdx k
          pendingBlackOuts := a.pendingBlackOuts ++
            [f.blackOutRequest (a.screens f.screen).frameSegment.vAddr] }
        [] .other
  | blackOut (k : Nat) (o : Outcomes) (mode : CurrentMode) (hcall : call = .blackOut k o)
      (hpending : a.pendingBlackOuts[k]? = some mode) :
      CallStep a s call
        { a.withCtx mode.targetId (blackOutScreen o mode.targetId mode (a.ctx mode.targetId)) with
          pendingBlackOuts := a.pendingBlackOuts.eraseIdx k }
        (blackOutScreen o mode.targetId mode (a.ctx mode.targetId)).actions
        (.blackOut mode (blackOutBytes mode) (a.screens mode.targetId).frameSegment.size)
  | release (i : ScreenId) (o : Outcomes) (hcall : call = .releaseFb i.val o) :
      CallStep a s call (a.withCtx i (releaseFrameBuffer o i (a.ctx i)))
        (releaseFrameBuffer o i (a.ctx i)).actions .other
  | cursorData (i : ScreenId) (shape : PointerShape) (format : D3DDDIFormat) (o : Outcomes)
      (hcall : call = .cursorData i shape format o) :
      CallStep a s call (a.withCtx i (setPointerShape o a.blobSupported i shape format (a.ctx i)).1)
        (setPointerShape o a.blobSupported i shape format (a.ctx i)).1.actions .other
  | cursorPos (i : ScreenId) (x y : Nat) (o : Outcomes) (hcall : call = .cursorPos i x y o) :
      CallStep a s call (a.withCtx i (setPointerPosition o i x y (a.ctx i)).1)
        (setPointerPosition o i x y (a.ctx i)).1.actions .other
  | hotPlug (st : ModeState) : CallStep a s call (a.withModeState st) [] .other
  | d0Exit (o : ScreenId → Outcomes) (hcall : call = .d0Exit o)
      (hunread : a.unreadBlackOuts = []) (hpending : a.pendingBlackOuts = []) :
      CallStep a s call (d0Exit o a).1 (d0Exit o a).2 .other
  | d0Entry (edidFeature blobFeature : Bool) :
      CallStep a s call
        { a with
          hardwareInit := true, edidFeature := edidFeature, blobSupported := blobFeature }
        [] .other

variable {a a' : Adapter} {s : Shared} {call : Call} {actions : List Action} {record : Record}

theorem ioctlRequestSetMode_spec {frame : FrameMetaData} {probed : Bool} {o : Outcomes}
    {f : AcceptedFrame} (haccept : admitFrame frame = .ok f)
    (hcall : ioctlRequestSetMode o s.flushCount f a = some (a', actions, record)) :
    CallStep a s (.setMode frame probed o) a' actions record := by
  obtain ⟨⟨c', status, path⟩, hmode, heq⟩ := Option.map_eq_some_iff.mp hcall
  obtain ⟨rfl, rfl, rfl⟩ := Prod.mk.inj heq |>.imp_right Prod.mk.inj
  have hrequest : (Call.setMode frame probed o).request = some ⟨f, true, o⟩ := by
    rw [Call.request, haccept]
    rfl
  have howed : (if status = .success then [f] else []) =
      Request.owedBlackOuts ⟨f, true, o⟩ status := by
    simp only [Request.owedBlackOuts, true_and]
  rw [howed]
  exact .mode ⟨f, true, o⟩ hrequest (setCurrentModeExt_spec hmode)

theorem executePresentDisplayZeroCopy_spec {frame : FrameMetaData} {probed : Bool} {o : Outcomes}
    {f : AcceptedFrame} (haccept : admitFrame frame = .ok f)
    (hcall : executePresentDisplayZeroCopy o s.flushCount f a = some (a', actions, record)) :
    CallStep a s (.present frame probed o) a' actions record := by
  obtain ⟨⟨c', status, path⟩, hmode, heq⟩ := Option.map_eq_some_iff.mp hcall
  obtain ⟨rfl, rfl, rfl⟩ := Prod.mk.inj heq |>.imp_right Prod.mk.inj
  have hrequest : (Call.present frame probed o).request = some ⟨f, false, o⟩ := by
    rw [Call.request, haccept]
    rfl
  -- a present owes no black-out
  have howed : a.unreadBlackOuts ++ Request.owedBlackOuts ⟨f, false, o⟩ status =
      (a.withCtx f.screen c').unreadBlackOuts := by
    simp [Request.owedBlackOuts]
  have hstep := CallStep.mode (a := a) (s := s) ⟨f, false, o⟩ hrequest
    (setCurrentModeExt_spec hmode)
  rwa [howed] at hstep

/-- Every call does what `CallStep` lists. -/
theorem exec_callStep (hexec : exec a s call = some (a', actions, record)) :
    CallStep a s call a' actions record := by
  have hdone : ∀ {x : Adapter × List Action × Record}, some x = some (a', actions, record) →
      CallStep a s call x.1 x.2.1 x.2.2 → CallStep a s call a' actions record := by
    rintro x heq hx
    obtain rfl := Option.some.inj heq
    exact hx
  cases call with
  | setMode frame probed o =>
      simp only [exec] at hexec
      split at hexec
      next => cases hexec
      next =>
        split at hexec
        next => exact hdone hexec (.rejected _)
        next f haccept =>
          split at hexec
          next => exact hdone hexec (.rejected _)
          next => exact ioctlRequestSetMode_spec haccept hexec
  | getFbVAddr k =>
      simp only [exec] at hexec
      split at hexec
      next => cases hexec
      next f hunread => exact hdone hexec (.getFbVAddr k f rfl hunread)
  | blackOut k o =>
      simp only [exec] at hexec
      split at hexec
      next => cases hexec
      next mode hpending => exact hdone hexec (.blackOut k o mode rfl hpending)
  | present frame probed o =>
      simp only [exec] at hexec
      split at hexec
      next => cases hexec
      next =>
        split at hexec
        next => exact hdone hexec (.rejected _)
        next f haccept =>
          split at hexec
          next => exact hdone hexec (.rejected _)
          next => exact executePresentDisplayZeroCopy_spec haccept hexec
  | releaseFb n o =>
      simp only [exec] at hexec
      split at hexec
      next => cases hexec
      next =>
        split at hexec
        next hlt => exact hdone hexec (.release ⟨n, hlt⟩ o rfl)
        next => exact hdone hexec (.rejected _)
  | cursorData i shape format o =>
      simp only [exec] at hexec
      split at hexec
      next => cases hexec
      next => exact hdone hexec (.cursorData i shape format o rfl)
  | cursorPos i x y o =>
      simp only [exec] at hexec
      split at hexec
      next => cases hexec
      next => exact hdone hexec (.cursorPos i x y o rfl)
  | hotPlug replies =>
      simp only [exec] at hexec
      split at hexec
      next => cases hexec
      next =>
        obtain ⟨⟨st, status⟩, -, heq⟩ := Option.map_eq_some_iff.mp hexec
        exact hdone (congrArg some heq) (.hotPlug st)
  | d0Exit o =>
      simp only [exec] at hexec
      split at hexec
      next => cases hexec
      next hready =>
        simp only [not_or, not_not] at hready
        exact hdone hexec (.d0Exit o rfl hready.2.1 hready.2.2)
  | d0Entry edidFeature blobFeature =>
      simp only [exec] at hexec
      split at hexec
      next => cases hexec
      next => exact hdone hexec (.d0Entry edidFeature blobFeature)

/-- The record of a mode-set call is of the frame's screen and no other. -/
theorem Record.isModeOf_mode {f : AcceptedFrame} {setMode : Bool} {status : NtStatus}
    {path : PresentPath} {j : ScreenId} :
    (Record.mode f setMode status path).IsModeOf j ↔ f.screen = j := by
  constructor
  · rintro ⟨_, _, _, _, heq, hscreen⟩
    cases heq
    exact hscreen
  · intro hscreen
    exact ⟨f, setMode, status, path, rfl, hscreen⟩

/-- A call whose record is of a frame is a mode-set call for the frame it carries. -/
theorem CallStep.modeStep {r : Request} {f : AcceptedFrame} {setMode : Bool} {status : NtStatus}
    {path : PresentPath} (hrequest : call.request = some r)
    (hcall : CallStep a s call a' actions (.mode f setMode status path)) :
    ∃ c', ModeStep r.outcomes a.blobSupported r.screen (s.flushCount r.screen) r.mode
        (a.ctx r.screen) c' status path ∧
      a' = { a.withCtx r.screen c' with
        unreadBlackOuts := a.unreadBlackOuts ++ r.owedBlackOuts status } ∧
      actions = c'.actions := by
  cases hcall with
  | mode r' hrequest' hmode =>
      obtain rfl := Option.some.inj (hrequest.symm.trans hrequest')
      exact ⟨_, hmode, rfl, rfl⟩

/-- A function on one screen that leaves the frame buffer alone leaves every
screen's frame buffer alone. -/
theorem frameEq_withCtx {i : ScreenId} {c : Ctx} (heq : (a.screens i).FrameEq c.screen)
    (j : ScreenId) : (a.screens j).FrameEq ((a.withCtx i c).screens j) := by
  by_cases hji : j = i
  · subst hji
    rwa [Adapter.withCtx_screens_self]
  · rw [Adapter.withCtx_screens_of_ne hji]
    exact .refl _

/-- Every call does one of the listed things to each screen's frame buffer. -/
theorem CallStep.screenStep (hcall : CallStep a s call a' actions record) (j : ScreenId) :
    ScreenStep a s call j record (a'.screens j) := by
  have hnotmode : ∀ {record : Record}, (∀ f b st p, record ≠ .mode f b st p) →
      ¬ record.IsModeOf j := by
    rintro record hne ⟨f, b, st, p, heq, -⟩
    exact hne f b st p heq
  cases hcall with
  | rejected status => exact .unchanged (hnotmode (by simp)) (.refl _)
  | @mode c' status path r hrequest hmode =>
      show ScreenStep a s call j _ ((a.withCtx r.screen c').screens j)
      by_cases hj : r.screen = j
      · subst hj
        rw [Adapter.withCtx_screens_self]
        exact .mode r hrequest rfl hmode
      · rw [Adapter.withCtx_screens_of_ne (Ne.symm hj)]
        exact .unchanged (fun h => hj (Record.isModeOf_mode.mp h)) (.refl _)
  | getFbVAddr k f _ hunread => exact .unchanged (hnotmode (by simp)) (.refl _)
  | blackOut k o mode _ hpending =>
      refine .unchanged (hnotmode (by simp)) ?_
      refine frameEq_withCtx (i := mode.targetId) ?_ j
      rw [blackOutScreen_screen]
      exact .refl _
  | release i o hcall =>
      by_cases hj : j = i
      · subst hj
        rw [Adapter.withCtx_screens_self]
        exact .release hcall (releaseFrameBuffer_released o j _)
      · rw [Adapter.withCtx_screens_of_ne hj]
        exact .unchanged (hnotmode (by simp)) (.refl _)
  | cursorData i shape format o =>
      have hstep := setPointerShape_spec o a.blobSupported i shape format (a.ctx i)
      exact .unchanged (hnotmode (by simp)) (frameEq_withCtx hstep.frame j)
  | cursorPos i x y o =>
      refine .unchanged (hnotmode (by simp)) (frameEq_withCtx ?_ j)
      rw [(setPointerPosition_spec o i (a.ctx i) x y).1]
      exact .refl _
  | hotPlug st => exact .unchanged (hnotmode (by simp)) ⟨rfl, rfl, rfl, rfl, rfl, rfl, rfl⟩
  | d0Exit o hcall => exact .powerDown hcall (d0Exit_poweredDown o a j)
  | d0Entry => exact .unchanged (hnotmode (by simp)) (.refl _)

theorem flushFrameBufferObj_serial (o : Outcomes) (blob : Bool) (i : ScreenId)
    (info : VideoModeInfo) (c : Ctx) : (flushFrameBufferObj o blob i info c).serial = c.serial := by
  unfold flushFrameBufferObj
  split
  next => rfl
  next => cases blob <;> simp

theorem ModeStep.serial_le {o : Outcomes} {blob : Bool} {i : ScreenId} {flushCount : Nat}
    {mode : CurrentMode} {c c' : Ctx} {status : NtStatus} {path : PresentPath}
    (hmode : ModeStep o blob i flushCount mode c c' status path) : c.serial ≤ c'.serial := by
  cases hmode with
  | noMode => exact Nat.le_refl _
  | dropped => exact Nat.le_refl _
  | rebuild info hfound hpass hchanged =>
      rw [rebuildFront_serial, hpass.serial]
      exact Nat.le_succ _
  | reuse info obj hfound hpass hfront hsame =>
      rw [flushFrameBufferObj_serial, hpass.serial]

theorem forScreens_serial {f : ScreenId → Ctx → Ctx} (hserial : ∀ i c, (f i c).serial = c.serial)
    (todo : List ScreenId) (a : Adapter) : (forScreens f todo a).1.serial = a.serial := by
  induction todo generalizing a with
  | nil => rfl
  | cons i todo ih =>
      simp only [forScreens]
      rw [ih, Adapter.withCtx_serial, hserial, Adapter.ctx_serial]

theorem d0Exit_serial (o : ScreenId → Outcomes) (a : Adapter) :
    (d0Exit o a).1.serial = a.serial := by
  have hdestroy : ∀ i c, (destroyScreenObjs (o i) c).serial = c.serial := by
    intro i c
    simp [destroyScreenObjs]
  have hclose : ∀ (_ : ScreenId) c, (closeSegments c).serial = c.serial := by
    intro _ c
    unfold closeSegments
    dsimp only
    split_ifs <;> rfl
  simp only [d0Exit]
  rw [forScreens_serial hclose, forScreens_serial hdestroy]

/-- Numbers are never used twice: the next unused one only grows. -/
theorem CallStep.serial_le (hcall : CallStep a s call a' actions record) :
    a.serial ≤ a'.serial := by
  cases hcall with
  | rejected => exact Nat.le_refl _
  | mode r hrequest hmode => exact hmode.serial_le
  | getFbVAddr => exact Nat.le_refl _
  | blackOut k o mode _ _ =>
      show a.serial ≤ (blackOutScreen o mode.targetId mode (a.ctx mode.targetId)).serial
      rw [blackOutScreen_serial, Adapter.ctx_serial]
  | release i o _ =>
      rw [Adapter.withCtx_serial, releaseFrameBuffer_serial, Adapter.ctx_serial]
  | cursorData i shape format o _ =>
      rw [Adapter.withCtx_serial, (setPointerShape_spec o a.blobSupported i shape format _).serial]
      exact Nat.le_succ _
  | cursorPos i x y o _ =>
      rw [Adapter.withCtx_serial, (setPointerPosition_spec o i (a.ctx i) x y).2.1,
        Adapter.ctx_serial]
  | hotPlug => exact Nat.le_refl _
  | d0Exit o _ _ _ => rw [d0Exit_serial]
  | d0Entry => exact Nat.le_refl _

/-- What a mode-set call leaves in the front slot is the object it found there or one
with a fresh number. -/
theorem ModeStep.front {o : Outcomes} {blob : Bool} {i : ScreenId} {flushCount : Nat}
    {mode : CurrentMode} {c c' : Ctx} {status : NtStatus} {path : PresentPath}
    (hmode : ModeStep o blob i flushCount mode c c' status path) :
    c'.screen.front = c.screen.front ∨
      (c'.serial = c.serial + 1 ∧
        ∀ obj, c'.screen.front = some obj → obj.origin.serial = c.serial) := by
  cases hmode with
  | noMode => exact .inl rfl
  | dropped => exact .inl rfl
  | rebuild info hfound hpass hchanged =>
      right
      refine ⟨by rw [rebuildFront_serial, hpass.serial], fun obj hobj => ?_⟩
      rw [rebuildFront_screen] at hobj
      split at hobj
      next =>
        obtain rfl := Option.some.inj hobj
        exact hpass.serial
      next => cases hobj
  | reuse info obj hfound hpass hfront hsame =>
      left
      rw [flushFrameBufferObj_eq _ _ _ _ _ hfront]
      show _ = _
      rw [hpass.screen]

/-- Every front object has a number that was handed out. -/
def Adapter.FrontsNumbered (a : Adapter) : Prop :=
  ∀ j obj, (a.screens j).front = some obj → obj.origin.serial < a.serial

theorem CallStep.frontsNumbered (hcall : CallStep a s call a' actions record)
    (hnumbered : a.FrontsNumbered) : a'.FrontsNumbered := by
  have hle := hcall.serial_le
  have hkept : ∀ j, (a'.screens j).front = (a.screens j).front →
      ∀ obj, (a'.screens j).front = some obj → obj.origin.serial < a'.serial := by
    intro j hsame obj hobj
    exact Nat.lt_of_lt_of_le (hnumbered j obj (hsame ▸ hobj)) hle
  intro j
  have hstep := hcall.screenStep j
  generalize hy : a'.screens j = y at hstep
  cases hstep with
  | unchanged _ heq => exact hy ▸ hkept j (hy ▸ heq.front)
  | mode r hrequest hscreen _ =>
      subst hscreen
      obtain ⟨c', hmode, rfl, -⟩ := hcall.modeStep hrequest
      have hscreen : (a.withCtx r.screen c').screens r.screen = c'.screen :=
        Adapter.withCtx_screens_self a r.screen c'
      rcases hmode.front with hsame | ⟨hserial, hfresh⟩
      · refine hy ▸ hkept _ ?_
        show ((a.withCtx r.screen c').screens r.screen).front = _
        rw [hscreen, hsame]
        rfl
      · intro obj hobj
        rw [← hy] at hobj
        have hobj : c'.screen.front = some obj := hscreen ▸ hobj
        rw [hfresh obj hobj]
        show a.serial < c'.serial
        rw [hserial]
        exact Nat.lt_succ_self _
  | release _ hreleased =>
      intro obj hobj
      cases hreleased.front.symm.trans hobj
  | powerDown _ hdown =>
      intro obj hobj
      cases hdown.front.symm.trans hobj

/-- Every pointer object has a number that was handed out. -/
def Adapter.CursorsNumbered (a : Adapter) : Prop :=
  ∀ j obj, (a.screens j).cursorBuf = some obj → obj.origin.serial < a.serial

/-- A function on one screen numbers that screen's pointer, and the other pointers keep
their numbers. -/
theorem Adapter.CursorsNumbered.withCtx {i : ScreenId} {c : Ctx} (hnumbered : a.CursorsNumbered)
    (hle : a.serial ≤ c.serial)
    (hown : ∀ obj, c.screen.cursorBuf = some obj → obj.origin.serial < c.serial) :
    (a.withCtx i c).CursorsNumbered := by
  intro j obj hobj
  by_cases hji : j = i
  · subst hji
    rw [Adapter.withCtx_screens_self] at hobj
    exact hown obj hobj
  · rw [Adapter.withCtx_screens_of_ne hji] at hobj
    exact Nat.lt_of_lt_of_le (hnumbered j obj hobj) hle

/-- A function that leaves its screen's pointer alone keeps all numbers. -/
theorem Adapter.CursorsNumbered.withCtx_of_eq {i : ScreenId} {c : Ctx}
    (hnumbered : a.CursorsNumbered) (hle : a.serial ≤ c.serial)
    (hsame : c.screen.cursorBuf = (a.screens i).cursorBuf) : (a.withCtx i c).CursorsNumbered :=
  hnumbered.withCtx hle fun obj hobj =>
    Nat.lt_of_lt_of_le (hnumbered i obj (hsame.symm.trans hobj)) hle

theorem releaseFrameBuffer_cursorBuf (o : Outcomes) (i : ScreenId) (c : Ctx) :
    (releaseFrameBuffer o i c).screen.cursorBuf = c.screen.cursorBuf := by
  simp [releaseFrameBuffer]

theorem CallStep.cursorsNumbered (hcall : CallStep a s call a' actions record)
    (hnumbered : a.CursorsNumbered) : a'.CursorsNumbered := by
  cases hcall with
  | rejected => exact hnumbered
  | mode r hrequest hmode => exact hnumbered.withCtx_of_eq hmode.serial_le hmode.pointer.2
  | getFbVAddr => exact hnumbered
  | blackOut k o mode _ _ =>
      have hserial := blackOutScreen_serial o mode.targetId mode (a.ctx mode.targetId)
      have hscreen := blackOutScreen_screen o mode.targetId mode (a.ctx mode.targetId)
      exact hnumbered.withCtx_of_eq (Nat.le_of_eq hserial.symm) (congrArg (·.cursorBuf) hscreen)
  | release i o _ =>
      have hserial := releaseFrameBuffer_serial o i (a.ctx i)
      exact hnumbered.withCtx_of_eq (Nat.le_of_eq hserial.symm) (releaseFrameBuffer_cursorBuf ..)
  | cursorData i shape format o _ =>
      have hstep := setPointerShape_spec o a.blobSupported i shape format (a.ctx i)
      have hnext : (setPointerShape o a.blobSupported i shape format (a.ctx i)).1.serial =
        a.serial + 1 := hstep.serial
      apply hnumbered.withCtx (by omega)
      intro obj hobj
      rw [hstep.cursorBuf] at hobj
      split at hobj
      next =>
        obtain rfl := Option.some.inj hobj
        rw [hnext]
        exact Nat.lt_succ_self _
      next => cases hobj
  | cursorPos i x y o _ =>
      obtain ⟨hscreen, hserial, -⟩ := setPointerPosition_spec o i (a.ctx i) x y
      exact hnumbered.withCtx_of_eq (Nat.le_of_eq hserial.symm) (congrArg (·.cursorBuf) hscreen)
  | hotPlug => exact hnumbered
  | d0Exit o _ _ _ =>
      intro j obj hobj
      rw [d0Exit_screens] at hobj
      cases hobj
  | d0Entry => exact hnumbered

end VirtDisplay
