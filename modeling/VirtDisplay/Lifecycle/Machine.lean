/-
# The life of an adapter

The framework creates an adapter in `PrepareHardware`, takes it in and out of D0 any
number of times, and deletes it in `ReleaseHardware`. `HWInit` starts a worker thread
that waits for `m_ConfigUpdateEvent` and then rebuilds the mode list, which means asking
the host about every screen and waiting for each answer, at most a second. Leaving D0
and deleting both close the queues first and then stop the worker, waiting for it at
most a second.

Here the framework's callbacks and the worker's steps interleave in any way. A
configuration interrupt may come whenever no callback is under way: the interrupt is
enabled a little before the adapter learns of D0.

The log of the worker's steps is not in the source.
-/

import VirtDisplay.Foundation.Transition

namespace VirtDisplay

open Transition

/-- A part of the work of `GetModeList` on a screen that can fail. -/
inductive ModeListStep
  /-- `GetEdids` queues GET_EDID and waits. -/
  | edids (screen : Nat)
  /-- `m_ModeInfo` and `m_ModeNumbers` are allocated. -/
  | tables (screen : Nat)
  /-- `GetDisplayInfo` queues GET_DISPLAY_INFO and waits. -/
  | displayInfo (screen : Nat)
  deriving DecidableEq

/-- The work of `GetModeList`, for a host with or without the EDID feature. -/
def modeListSteps (edid : Bool) (numScanouts : Nat) : List ModeListStep :=
  (List.range numScanouts).flatMap fun i =>
    (if edid then [.edids i] else []) ++ [.tables i, .displayInfo i]

/-- Where the worker is in `ThreadWorkRoutine`. -/
inductive WorkerPhase
  /-- In the wait for `m_ConfigUpdateEvent`. -/
  | waiting
  /-- At the test of `m_bStopWorkThread`. -/
  | checking
  /-- At the beginning of `ConfigChanged`. -/
  | configChanged
  | modeList (todo : List ModeListStep)
  /-- In the wait for an answer of the host. -/
  | awaiting (todo : List ModeListStep)
  /-- Behind `GetModeList`. -/
  | publishing
  | terminated
  deriving DecidableEq

/-- A step of the worker: the command it queued, and whether the queues were closed and
`HWClose` had returned by then. -/
structure WorkerStep where
  command : Option ModeListStep
  queuesClosed : Bool
  hwClosed : Bool
  deriving DecidableEq

/-- How far the teardown has come. -/
inductive CloseStage
  /-- `VioGpuAdapterLiteClose` -/
  | queues
  /-- `HWClose`, up to its wait. -/
  | stop
  /-- The wait for the worker. -/
  | join
  deriving DecidableEq

/-- Where the framework is. -/
inductive PnpPhase
  | fresh
  | prepared
  | d0
  /-- On the way to D3, or in the destructor. -/
  | closing (stage : CloseStage) (deleting : Bool)
  | d3
  | gone
  deriving DecidableEq

/-- What decides the outcome of `HWInit`. -/
structure HWInitOutcome where
  pciResources : Bool
  adapterInit : Bool
  createThread : Bool
  /-- `ObReferenceObjectByHandle`, whose status is ignored. -/
  referenceThread : Bool
  modeList : Bool
  segments : Bool
  deriving DecidableEq

/-- The part of an adapter that its life depends on. -/
structure Lifecycle where
  pnp : PnpPhase
  /-- `VIRTIO_GPU_F_EDID` is among the host's features. -/
  edid : Bool
  hardwareInit : Bool
  /-- `VioGpuAdapterLiteClose` has closed the queues. -/
  queuesClosed : Bool
  /-- `HWClose` has returned. -/
  hwClosed : Bool
  /-- `m_pWorkThread` is not null. -/
  workThread : Bool
  stopWorkThread : Bool
  /-- `m_ConfigUpdateEvent`, which the end of a wait resets. -/
  configUpdate : Bool
  numScanouts : Nat
  worker : Option WorkerPhase
  log : List WorkerStep

namespace Lifecycle

variable (s : Lifecycle)

/-- What can happen. -/
inductive Label
  | prepareHardware (outcome : HWInitOutcome)
  /-- `SetPowerState` for D0, with the outcome of `VioGpuAdapterLiteInit`. -/
  | d0Entry (adapterInit : Bool)
  | d0Exit
  | releaseHardware
  /-- The teardown goes on. -/
  | close
  /-- The wait for the worker times out. -/
  | joinTimeout
  /-- The DPC sets `m_ConfigUpdateEvent`. -/
  | configInterrupt
  /-- The worker goes on. An allocation succeeds, or `events_read` has the display bit. -/
  | worker (ok : Bool)
  deriving DecidableEq

/-- `VioGpuAdapterLiteInit` -/
def adapterInit (succeeds : Bool) : Lifecycle :=
  if s.hardwareInit then s
  else if succeeds then { s with hardwareInit := true, queuesClosed := false, numScanouts := 4 }
  else s

/-- `HWInit`: whether it succeeds, and what it leaves. Without its PCI resources it goes
on to the thread all the same. -/
def hwInit (outcome : HWInitOutcome) : Bool × Lifecycle :=
  if outcome.pciResources && !outcome.adapterInit then (false, s)
  else
    let s := if outcome.pciResources then s.adapterInit true else s
    if !outcome.createThread then (false, s)
    else
      (s.numScanouts = 0 || (outcome.modeList && outcome.segments),
        { s with worker := some .waiting, workThread := outcome.referenceThread })

/-- `VioGpuAdapterLiteClose` -/
def adapterClose : Lifecycle :=
  if s.hardwareInit then { s with hardwareInit := false, queuesClosed := true } else s

/-- `HWClose` returns, and with it the teardown. -/
def closed (deleting : Bool) : Lifecycle :=
  { s with
    hardwareInit := false
    hwClosed := true
    workThread := false
    pnp := if deleting then .gone else .d3 }

/-- The teardown's next step. -/
def closeAct (deleting : Bool) : CloseStage → Option Lifecycle
  | .queues => some { s.adapterClose with pnp := .closing .stop deleting }
  | .stop =>
      if s.workThread then
        some { s with
          hardwareInit := false
          stopWorkThread := true
          configUpdate := true
          pnp := .closing .join deleting }
      else some (s.closed deleting)
  | .join => if s.worker = some .terminated then some (s.closed deleting) else none

/-- The worker's next step: where it goes, and the command it queues. -/
def workerAct (ok : Bool) : WorkerPhase → Option (WorkerPhase × Option ModeListStep)
  | .waiting => if s.configUpdate then some (.checking, none) else none
  | .checking => some (if s.stopWorkThread then .terminated else .configChanged, none)
  | .configChanged =>
      some (if ok then .modeList (modeListSteps s.edid s.numScanouts) else .waiting, none)
  | .modeList [] => some (.publishing, none)
  | .modeList (.tables _ :: todo) => some (if ok then .modeList todo else .publishing, none)
  | .modeList (ask :: todo) =>
      some (if ok then (.awaiting todo, some ask) else (.modeList todo, none))
  | .awaiting todo => some (.modeList todo, none)
  | .publishing => some (.waiting, none)
  | .terminated => none

/-- The worker has taken a step. -/
def afterWorker (phase next : WorkerPhase) (command : Option ModeListStep) : Lifecycle :=
  { s with
    worker := some next
    configUpdate := s.configUpdate && phase ≠ .waiting
    log := ⟨command, s.queuesClosed, s.hwClosed⟩ :: s.log }

/-- One step. -/
def step : Label → Option Lifecycle
  | .prepareHardware outcome =>
      if s.pnp = .fresh then
        let (ok, after) := s.hwInit outcome
        some { after with pnp := if ok then .prepared else .closing .queues true }
      else none
  | .d0Entry ok =>
      if s.pnp = .prepared ∨ s.pnp = .d3 then
        some { s.adapterInit ok with configUpdate := true, pnp := .d0 }
      else none
  | .d0Exit => if s.pnp = .d0 then some { s with pnp := .closing .queues false } else none
  | .releaseHardware =>
      if s.pnp = .prepared ∨ s.pnp = .d3 then some { s with pnp := .closing .queues true } else none
  | .close =>
      match s.pnp with
      | .closing stage deleting => s.closeAct deleting stage
      | _ => none
  | .joinTimeout =>
      match s.pnp with
      | .closing .join deleting => some (s.closed deleting)
      | _ => none
  | .configInterrupt =>
      if s.pnp = .prepared ∨ s.pnp = .d0 ∨ s.pnp = .d3 then some { s with configUpdate := true }
      else none
  | .worker ok =>
      s.worker.bind fun phase =>
        (s.workerAct ok phase).map fun (next, command) => s.afterWorker phase next command

/-- An adapter's life as a system. -/
def system : System Lifecycle Label := ⟨step⟩

/-- An adapter just created. -/
def start (edid : Bool) : Lifecycle where
  pnp := .fresh
  edid := edid
  hardwareInit := false
  queuesClosed := false
  hwClosed := false
  workThread := false
  stopWorkThread := false
  configUpdate := false
  numScanouts := 0
  worker := none
  log := []

/-- The worker runs no more, or never did. -/
def WorkerEnded : Prop := s.worker = none ∨ s.worker = some .terminated

instance : Decidable s.WorkerEnded := inferInstanceAs (Decidable (_ ∨ _))

end Lifecycle

end VirtDisplay
