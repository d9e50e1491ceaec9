/-
# The adapter as a machine

The requests, the hot-plug worker and the power callbacks all change the adapter
under one mutex, and the host and the DPC move at any time. This is a component in
the sense of the foundation: a call computes the adapter's new private state and
its actions, the actions are played one by one, and between any two of them the
host may execute a queued command or the DPC may handle a completion.

`SET_MODE` appears as three calls: `SetCurrentModeExt`, the read of the segment's address,
and `BlackOutScreen`. The request holds no mutex between any two of them, nor during the
read, so other requests run in between; the queue dispatches them in parallel.
-/

import VirtDisplay.Foundation.CriticalSection
import VirtDisplay.Adapter.Cursor
import VirtDisplay.Adapter.SetMode

namespace VirtDisplay

open Transition

/-- `VioGpuAdapterLite`, as far as the mutex protects it. -/
structure Adapter where
  screens : ScreenId → ScreenInfo
  displayInfo : DisplayInformation
  bEdid : Bool
  /-- The bytes that are read behind `g_gpu_edid`. -/
  behindGpuEdid : Edid
  /-- The host offers `VIRTIO_GPU_F_EDID`. -/
  edidFeature : Bool
  blobSupported : Bool
  hardwareInit : Bool
  idr : Idr
  /-- The next unused lock or object number. -/
  serial : Nat
  /-- The frames of the `SET_MODE` requests that have yet to read where their black-out
  begins. -/
  unreadBlackOuts : List AcceptedFrame
  /-- The modes of those that have read it and have yet to black their screen out. -/
  pendingBlackOuts : List CurrentMode

/-- Where the adapter keeps an object and its segment: for the frame or for the pointer of
a screen. -/
inductive Slot
  | frame (i : ScreenId)
  | cursor (i : ScreenId)
  deriving DecidableEq

namespace Adapter

/-- What a function on screen `i` works on. -/
def ctx (a : Adapter) (i : ScreenId) : Ctx := ⟨a.screens i, a.idr, a.serial, []⟩

/-- The adapter after a function on screen `i`. -/
def withCtx (a : Adapter) (i : ScreenId) (c : Ctx) : Adapter :=
  { a with screens := Function.update a.screens i c.screen, idr := c.idr, serial := c.serial }

/-- The part `GetModeList` works on. -/
def modeState (a : Adapter) : ModeState where
  tables i := (a.screens i).modes
  displayInfo := a.displayInfo
  bEdid := a.bEdid
  behindGpuEdid := a.behindGpuEdid

/-- The adapter after `GetModeList`. -/
def withModeState (a : Adapter) (st : ModeState) : Adapter :=
  { a with
    screens := fun i => { a.screens i with modes := st.tables i }
    displayInfo := st.displayInfo
    bEdid := st.bEdid
    behindGpuEdid := st.behindGpuEdid }

variable (a : Adapter) (i j : ScreenId) (c : Ctx)

@[simp] theorem ctx_screen : (a.ctx i).screen = a.screens i := rfl
@[simp] theorem ctx_actions : (a.ctx i).actions = [] := rfl
@[simp] theorem ctx_serial : (a.ctx i).serial = a.serial := rfl
@[simp] theorem withCtx_screens_self : (a.withCtx i c).screens i = c.screen :=
  Function.update_self _ _ _
@[simp] theorem withCtx_serial : (a.withCtx i c).serial = c.serial := rfl
@[simp] theorem withCtx_pendingBlackOuts :
    (a.withCtx i c).pendingBlackOuts = a.pendingBlackOuts := rfl
@[simp] theorem withCtx_unreadBlackOuts :
    (a.withCtx i c).unreadBlackOuts = a.unreadBlackOuts := rfl

theorem withCtx_screens_of_ne {a : Adapter} {i j : ScreenId} {c : Ctx} (hne : j ≠ i) :
    (a.withCtx i c).screens j = a.screens j :=
  Function.update_of_ne hne _ _

end Adapter

/-- One screen's part of `DestroyFrameBufferCursorObjExt`. -/
def destroyScreenObjs (o : Outcomes) (c : Ctx) : Ctx :=
  destroyCursor o (destroyFrameBufferObj o true c)

/-- One screen's part of `HWClose`. -/
def closeSegments (c : Ctx) : Ctx :=
  let c :=
    if c.screen.frameSegment.vAddr ≠ 0 then
      { c.pages c.screen.frameSegment.closeEvents with
        screen := { c.screen with frameSegment := c.screen.frameSegment.close } }
    else c
  if c.screen.cursorSegment.vAddr ≠ 0 then
    { c.pages c.screen.cursorSegment.closeEvents with
      screen := { c.screen with cursorSegment := c.screen.cursorSegment.close } }
  else c

/-- Run a function on each of the listed screens in turn, collecting the actions. -/
def forScreens (f : ScreenId → Ctx → Ctx) : List ScreenId → Adapter → Adapter × List Action
  | [], a => (a, [])
  | i :: todo, a =>
      let c := f i (a.ctx i)
      let (a, actions) := forScreens f todo (a.withCtx i c)
      (a, c.actions ++ actions)

/-- Leaving D0: every object is destroyed, the device is reset, every segment is
closed. -/
def d0Exit (o : ScreenId → Outcomes) (a : Adapter) : Adapter × List Action :=
  let (a, destroyed) := forScreens (fun i => destroyScreenObjs (o i)) (List.finRange maxScanOut) a
  let (a, closed) := forScreens (fun _ => closeSegments) (List.finRange maxScanOut) a
  ({ a with hardwareInit := false }, destroyed ++ .reset :: closed)

/-- What can be asked of the adapter, with the environment's answers. `probed` says
that the user's buffers passed the handler's address checks. -/
inductive Call
  | setMode (frame : FrameMetaData) (probed : Bool) (o : Outcomes)
  /-- The `k`-th `SET_MODE` that has yet to do it reads `GetFbVAddr`. -/
  | getFbVAddr (k : Nat)
  /-- The `k`-th `SET_MODE` that has read it goes on to `BlackOutScreen`. -/
  | blackOut (k : Nat) (o : Outcomes)
  /-- `FRAME_DATA` and `TEST_IMAGE`. -/
  | present (frame : FrameMetaData) (probed : Bool) (o : Outcomes)
  | releaseFb (screenNum : Nat) (o : Outcomes)
  | cursorData (i : ScreenId) (shape : PointerShape) (format : D3DDDIFormat) (o : Outcomes)
  | cursorPos (i : ScreenId) (x y : Nat) (o : Outcomes)
  /-- The worker rebuilds the mode lists after a configuration change. -/
  | hotPlug (replies : ScreenId → ScreenReply)
  | d0Exit (o : ScreenId → Outcomes)
  /-- The device returns to D0 and is initialised with these host features. -/
  | d0Entry (edidFeature blobFeature : Bool)

/-- What a call was and decided. -/
inductive Record
  /-- A call of `SetCurrentModeExt` for an accepted frame. -/
  | mode (f : AcceptedFrame) (setMode : Bool) (status : NtStatus) (path : PresentPath)
  /-- A black-out zeroed `bytes` bytes while the segment had `size` bytes. -/
  | blackOut (mode : CurrentMode) (bytes size : Nat)
  /-- A request was completed with this status and changed nothing. -/
  | rejected (status : NtStatus)
  | other

/-- A flush the host has been asked for and whose completion has not been handled. -/
structure Flight where
  screen : ScreenId
  /-- The frame-buffer object it was queued for. -/
  serial : Nat
  /-- Its place on the control queue. -/
  position : Nat
  deriving DecidableEq

/-- What the host and the DPC share with the adapter. -/
structure Shared where
  /-- The commands queued since the device was last reset, oldest first. -/
  sent : List Submission
  /-- How many of them the host has executed. -/
  executed : Nat
  flights : List Flight
  /-- `m_FlushCount` of each screen. -/
  flushCount : ScreenId → Nat
  /-- The page locks held. -/
  locked : List Nat
  cursorSent : List CursorCmd
  cursorExecuted : Nat

/-- `IoctlRequestSetMode` up to its call of `GetFbVAddr`. -/
def ioctlRequestSetMode (o : Outcomes) (flushCount : ScreenId → Nat) (f : AcceptedFrame)
    (a : Adapter) : Option (Adapter × List Action × Record) :=
  (setCurrentModeExt o a.blobSupported f.screen (flushCount f.screen) f.setModeRequest
    (a.ctx f.screen)).map fun (c, status, path) =>
      let a := a.withCtx f.screen c
      let unread := if status = .success then [f] else []
      ({ a with unreadBlackOuts := a.unreadBlackOuts ++ unread }, c.actions,
        .mode f true status path)

/-- `ExecutePresentDisplayZeroCopy`. -/
def executePresentDisplayZeroCopy (o : Outcomes) (flushCount : ScreenId → Nat)
    (f : AcceptedFrame) (a : Adapter) : Option (Adapter × List Action × Record) :=
  (setCurrentModeExt o a.blobSupported f.screen (flushCount f.screen) f.presentRequest
    (a.ctx f.screen)).map fun (c, status, path) =>
      (a.withCtx f.screen c, c.actions, .mode f false status path)

/-- A function on screen `i` as a whole call. -/
def onScreen (a : Adapter) (i : ScreenId) (c : Ctx) : Adapter × List Action × Record :=
  (a.withCtx i c, c.actions, .other)

/-- The calls. Requests are only delivered while the device is in D0, and the device
only leaves D0 once no request is in flight. -/
def exec (a : Adapter) (s : Shared) : Call → Option (Adapter × List Action × Record)
  | .setMode frame probed o =>
      if ¬ a.hardwareInit then none
      else
        match admitFrame frame with
        | .error status => some (a, [], .rejected status)
        | .ok f =>
            if f.frame.addr ≠ 0 ∧ ¬ probed then some (a, [], .rejected .invalidParameter)
            else ioctlRequestSetMode o s.flushCount f a
  | .getFbVAddr k =>
      match a.unreadBlackOuts[k]? with
      | none => none
      | some f =>
          let mode := f.blackOutRequest (a.screens f.screen).frameSegment.vAddr
          some ({ a with
              unreadBlackOuts := a.unreadBlackOuts.eraseIdx k
              pendingBlackOuts := a.pendingBlackOuts ++ [mode] },
            [], .other)
  | .blackOut k o =>
      match a.pendingBlackOuts[k]? with
      | none => none
      | some mode =>
          let i := mode.targetId
          let size := (a.screens i).frameSegment.size
          let c := blackOutScreen o i mode (a.ctx i)
          some ({ a.withCtx i c with pendingBlackOuts := a.pendingBlackOuts.eraseIdx k }, c.actions,
            .blackOut mode (blackOutBytes mode) size)
  | .present frame probed o =>
      if ¬ a.hardwareInit then none
      else
        match admitFrame frame with
        | .error status => some (a, [], .rejected status)
        | .ok f =>
            if ¬ probed then some (a, [], .rejected .invalidParameter)
            else executePresentDisplayZeroCopy o s.flushCount f a
  | .releaseFb screenNum o =>
      if ¬ a.hardwareInit then none
      else if h : screenNum < maxScanOut then
        some
          (onScreen a ⟨screenNum, h⟩ (releaseFrameBuffer o ⟨screenNum, h⟩ (a.ctx ⟨screenNum, h⟩)))
      else some (a, [], .rejected .invalidParameter)
  | .cursorData i shape format o =>
      if ¬ a.hardwareInit then none
      else some (onScreen a i (setPointerShape o a.blobSupported i shape format (a.ctx i)).1)
  | .cursorPos i x y o =>
      if ¬ a.hardwareInit then none
      else some (onScreen a i (setPointerPosition o i x y (a.ctx i)).1)
  | .hotPlug replies =>
      if ¬ a.hardwareInit then none
      else (getModeList a.edidFeature replies a.modeState).map fun (st, _) =>
        (a.withModeState st, [], .other)
  | .d0Exit o =>
      if ¬ a.hardwareInit ∨ a.unreadBlackOuts ≠ [] ∨ a.pendingBlackOuts ≠ [] then none
      else some ((d0Exit o a).1, (d0Exit o a).2, .other)
  | .d0Entry edidFeature blobFeature =>
      if a.hardwareInit then none
      else
        some ({ a with
            hardwareInit := true, edidFeature := edidFeature, blobSupported := blobFeature },
          [], .other)

/-- The effect of one action. -/
def playAction (s : Shared) : Action → Shared
  | .submit submission => { s with sent := s.sent ++ [submission] }
  | .flush i serial cmd =>
      let s := { s with flushCount := Function.update s.flushCount i (s.flushCount i + 1) }
      match cmd with
      | none => s
      | some cmd =>
          { s with
            sent := s.sent ++ [⟨cmd, none⟩]
            flights := s.flights ++ [⟨i, serial, s.sent.length⟩] }
  | .clearFlush i => { s with flushCount := Function.update s.flushCount i 0 }
  | .pages (.lock mdl) => { s with locked := mdl :: s.locked }
  | .pages (.unlock mdl) => { s with locked := s.locked.filter (· ≠ mdl) }
  | .cursor cmd => { s with cursorSent := s.cursorSent ++ [cmd] }
  | .reset =>
      { s with sent := [], executed := 0, flights := [], cursorSent := [], cursorExecuted := 0 }

/-- The moves of the host and of the DPC. -/
inductive Outside
  /-- The host executes the next control command. -/
  | hostExecutes
  /-- The host executes the next cursor command. -/
  | hostExecutesCursor
  /-- The DPC handles the completion of the `k`-th outstanding flush. -/
  | complete (k : Nat)
  /-- The DPC dequeues the buffer of the `k`-th outstanding flush after the buffer was
  released and taken for another command, and acts on what it now reads there: the
  flush of some screen, or nothing. -/
  | misread (k : Nat) (reads : Option ScreenId)
  deriving DecidableEq

/-- The decrement of `m_FlushCount` in the DPC. -/
def decrementFlush (s : Shared) (i : ScreenId) : Shared :=
  { s with flushCount := Function.update s.flushCount i (s.flushCount i - 1) }

/-- The effect of a move of the host or the DPC. -/
def outsideMove (s : Shared) : Outside → Option Shared
  | .hostExecutes =>
      if s.executed < s.sent.length then some { s with executed := s.executed + 1 } else none
  | .hostExecutesCursor =>
      if s.cursorExecuted < s.cursorSent.length then
        some { s with cursorExecuted := s.cursorExecuted + 1 }
      else none
  | .complete k =>
      match s.flights[k]? with
      | none => none
      | some flight =>
          if flight.position < s.executed then
            some (decrementFlush { s with flights := s.flights.eraseIdx k } flight.screen)
          else none
  | .misread k reads =>
      match s.flights[k]? with
      | none => none
      | some flight =>
          if flight.position < s.executed then
            let s := { s with flights := s.flights.eraseIdx k }
            some (match reads with
              | none => s
              | some i => decrementFlush s i)
          else none

/-- The adapter, the host and the DPC. -/
def adapterComponent : Component Adapter Shared Call Action Outside Record :=
  ⟨exec, playAction, outsideMove⟩

/-- A state of the whole machine. -/
abbrev Machine : Type := Component.State Adapter Shared Action Record

/-- A move of the whole machine. -/
abbrev Move : Type := Component.Label Call Outside

/-- The whole machine. -/
abbrev machine : System Machine Move := adapterComponent.system

/-- What the environment answers while the device starts. -/
structure BootConfig where
  edidFeature : Bool
  blobFeature : Bool
  /-- The size of the frame-buffer BAR. -/
  fbSize : Nat
  replies : ScreenId → ScreenReply
  frame : ScreenId → Outcomes
  cursor : ScreenId → Outcomes
  /-- The bytes the driver's image has behind `g_gpu_edid`. -/
  behindGpuEdid : Edid

/-- The frame segment `HWInit` initialises; its lock has the screen's number. -/
def bootFrameSegment (cfg : BootConfig) (disp : DisplayInformation) (i : ScreenId) :
    Segment.Result :=
  let reqSize := max 0x800000 (max (disp.pitch * disp.height % 2 ^ 32) cfg.fbSize)
  Segment.init (cfg.frame i) i.val reqSize .closed

/-- The cursor segment `HWInit` initialises; its lock is numbered behind those of
the frame segments. -/
def bootCursorSegment (cfg : BootConfig) (i : ScreenId) : Segment.Result :=
  Segment.init (cfg.cursor i) (maxScanOut + i.val) (pointerSize * pointerSize * 4) .closed

/-- `HWInit`, which leaves an adapter only if the mode lists could be built and all
segments be initialised. -/
def hwInit (cfg : BootConfig) : Option Adapter :=
  match getModeList cfg.edidFeature cfg.replies (.initial cfg.behindGpuEdid) with
  | some (st, .success) =>
      if (∀ i, (bootFrameSegment cfg st.displayInfo i).ok) ∧ ∀ i, (bootCursorSegment cfg i).ok then
        some
          { screens := fun i =>
              { modes := st.tables i
                frameSegment := (bootFrameSegment cfg st.displayInfo i).segment
                front := none
                fbSrcAddr := 0, fbWidth := 0, fbHeight := 0, fbStride := 0
                flushStallCount := 0
                cursorBuf := none
                cursorSegment := (bootCursorSegment cfg i).segment }
            displayInfo := st.displayInfo
            bEdid := st.bEdid
            behindGpuEdid := st.behindGpuEdid
            edidFeature := cfg.edidFeature
            blobSupported := cfg.blobFeature
            hardwareInit := true
            idr := .initial
            serial := 2 * maxScanOut
            unreadBlackOuts := []
            pendingBlackOuts := [] }
      else none
  | _ => none

/-- The shared state once the device has started: nothing queued, the eight
segments locked. -/
def Shared.initial : Shared where
  sent := []
  executed := 0
  flights := []
  flushCount := fun _ => 0
  locked := List.range (2 * maxScanOut)
  cursorSent := []
  cursorExecuted := 0

/-- The machine around a freshly started adapter. -/
def Machine.start (a : Adapter) : Machine := ⟨a, [], .initial, []⟩

/-- The states the machine can reach from some successful start. -/
def Machine.Reachable (m : Machine) : Prop :=
  ∃ cfg a, hwInit cfg = some a ∧ machine.Reach (.start a) m

/-- The states reached from some successful start by moves that satisfy a guard. -/
def Machine.ReachableUnder (ok : Machine → Move → Prop) (m : Machine) : Prop :=
  ∃ cfg a, hwInit cfg = some a ∧ machine.ReachUnder ok (.start a) m

end VirtDisplay
