/-
# The steps of an adapter's life

What each callback, each part of the teardown and each step of the worker can do, said
once.
-/

import VirtDisplay.Lifecycle.Machine

namespace VirtDisplay

open Transition

namespace Lifecycle

variable {s s' : Lifecycle} {label : Label}

/-- The worker's steps. -/
inductive WorkerMove (s : Lifecycle) : WorkerPhase → WorkerPhase → Option ModeListStep → Prop
  | wakes (hset : s.configUpdate = true) : WorkerMove s .waiting .checking none
  | stops (hstop : s.stopWorkThread = true) : WorkerMove s .checking .terminated none
  | proceeds (hstop : s.stopWorkThread = false) : WorkerMove s .checking .configChanged none
  | reads : WorkerMove s .configChanged (.modeList (modeListSteps s.edid s.numScanouts)) none
  | ignores : WorkerMove s .configChanged .waiting none
  | ends : WorkerMove s (.modeList []) .publishing none
  | skips {part : ModeListStep} {todo : List ModeListStep} :
      WorkerMove s (.modeList (part :: todo)) (.modeList todo) none
  | fails {part : ModeListStep} {todo : List ModeListStep} :
      WorkerMove s (.modeList (part :: todo)) .publishing none
  | asks {ask : ModeListStep} {todo : List ModeListStep} :
      WorkerMove s (.modeList (ask :: todo)) (.awaiting todo) (some ask)
  | answered {todo : List ModeListStep} : WorkerMove s (.awaiting todo) (.modeList todo) none
  | publishes : WorkerMove s .publishing .waiting none

theorem workerAct_spec {ok : Bool} {phase next : WorkerPhase} {command : Option ModeListStep}
    (hact : s.workerAct ok phase = some (next, command)) : WorkerMove s phase next command := by
  unfold workerAct at hact
  split at hact
  next =>
    split at hact
    next hset =>
      obtain ⟨rfl, rfl⟩ := Prod.mk.inj (Option.some.inj hact)
      exact .wakes hset
    next => cases hact
  next =>
    obtain ⟨rfl, rfl⟩ := Prod.mk.inj (Option.some.inj hact)
    split
    next hstop => exact .stops hstop
    next hstop => exact .proceeds (Bool.eq_false_iff.mpr hstop)
  next =>
    obtain ⟨rfl, rfl⟩ := Prod.mk.inj (Option.some.inj hact)
    split
    · exact .reads
    · exact .ignores
  next =>
    obtain ⟨rfl, rfl⟩ := Prod.mk.inj (Option.some.inj hact)
    exact .ends
  next =>
    obtain ⟨rfl, rfl⟩ := Prod.mk.inj (Option.some.inj hact)
    split
    · exact .skips
    · exact .fails
  next =>
    split at hact
    next =>
      obtain ⟨rfl, rfl⟩ := Prod.mk.inj (Option.some.inj hact)
      exact .asks
    next =>
      obtain ⟨rfl, rfl⟩ := Prod.mk.inj (Option.some.inj hact)
      exact .skips
  next =>
    obtain ⟨rfl, rfl⟩ := Prod.mk.inj (Option.some.inj hact)
    exact .answered
  next =>
    obtain ⟨rfl, rfl⟩ := Prod.mk.inj (Option.some.inj hact)
    exact .publishes
  next => cases hact

/-- What `VioGpuAdapterLiteInit` leaves alone. -/
structure InitFrame (s after : Lifecycle) : Prop where
  queuesClosed : after.queuesClosed = true → s.queuesClosed = true
  hwClosed : after.hwClosed = s.hwClosed
  stopWorkThread : after.stopWorkThread = s.stopWorkThread
  configUpdate : after.configUpdate = s.configUpdate
  log : after.log = s.log

theorem adapterInit_frame (s : Lifecycle) (succeeds : Bool) :
    InitFrame s (s.adapterInit succeeds) ∧ (s.adapterInit succeeds).worker = s.worker := by
  unfold adapterInit
  split
  · exact ⟨⟨id, rfl, rfl, rfl, rfl⟩, rfl⟩
  · split
    · exact ⟨⟨fun hclosed => absurd hclosed Bool.false_ne_true, rfl, rfl, rfl, rfl⟩, rfl⟩
    · exact ⟨⟨id, rfl, rfl, rfl, rfl⟩, rfl⟩

/-- `HWInit` starts the worker or leaves it alone, and succeeds only with a worker. -/
theorem hwInit_spec (s : Lifecycle) (outcome : HWInitOutcome) :
    InitFrame s (s.hwInit outcome).2 ∧
      ((s.hwInit outcome).2.worker = some .waiting ∨
        (s.hwInit outcome).1 = false ∧ (s.hwInit outcome).2.worker = s.worker) := by
  unfold hwInit
  split
  · exact ⟨⟨id, rfl, rfl, rfl, rfl⟩, .inr ⟨rfl, rfl⟩⟩
  · have hinit : InitFrame s (if outcome.pciResources then s.adapterInit true else s) ∧
        (if outcome.pciResources then s.adapterInit true else s).worker = s.worker := by
      split
      · exact adapterInit_frame s true
      · exact ⟨⟨id, rfl, rfl, rfl, rfl⟩, rfl⟩
    obtain ⟨hframe, hworker⟩ := hinit
    dsimp only
    split
    · exact ⟨hframe, .inr ⟨rfl, hworker⟩⟩
    · exact ⟨⟨hframe.queuesClosed, hframe.hwClosed, hframe.stopWorkThread, hframe.configUpdate,
        hframe.log⟩, .inl rfl⟩

/-- The steps. -/
inductive Step (s : Lifecycle) : Label → Lifecycle → Prop
  | prepared {outcome : HWInitOutcome} (hpnp : s.pnp = .fresh)
      (hok : (s.hwInit outcome).1 = true) :
      Step s (.prepareHardware outcome) { (s.hwInit outcome).2 with pnp := .prepared }
  | unprepared {outcome : HWInitOutcome} (hpnp : s.pnp = .fresh) :
      Step s (.prepareHardware outcome) { (s.hwInit outcome).2 with pnp := .closing .queues true }
  | entered {ok : Bool} (hpnp : s.pnp = .prepared ∨ s.pnp = .d3) :
      Step s (.d0Entry ok) { s.adapterInit ok with configUpdate := true, pnp := .d0 }
  | exited (hpnp : s.pnp = .d0) : Step s .d0Exit { s with pnp := .closing .queues false }
  | released (hpnp : s.pnp = .prepared ∨ s.pnp = .d3) :
      Step s .releaseHardware { s with pnp := .closing .queues true }
  | closesQueues {deleting : Bool} (hpnp : s.pnp = .closing .queues deleting) :
      Step s .close { s.adapterClose with pnp := .closing .stop deleting }
  | stopsWorker {deleting : Bool} (hpnp : s.pnp = .closing .stop deleting)
      (hthread : s.workThread = true) :
      Step s .close { s with
        hardwareInit := false
        stopWorkThread := true
        configUpdate := true
        pnp := .closing .join deleting }
  | threadless {deleting : Bool} (hpnp : s.pnp = .closing .stop deleting)
      (hthread : s.workThread = false) : Step s .close (s.closed deleting)
  | joins {deleting : Bool} (hpnp : s.pnp = .closing .join deleting)
      (hended : s.worker = some .terminated) : Step s .close (s.closed deleting)
  | timesOut {deleting : Bool} (hpnp : s.pnp = .closing .join deleting) :
      Step s .joinTimeout (s.closed deleting)
  | interrupted (hpnp : s.pnp = .prepared ∨ s.pnp = .d0 ∨ s.pnp = .d3) :
      Step s .configInterrupt { s with configUpdate := true }
  | worked {ok : Bool} {phase next : WorkerPhase} {command : Option ModeListStep}
      (hworker : s.worker = some phase) (hmove : WorkerMove s phase next command) :
      Step s (.worker ok) (s.afterWorker phase next command)

theorem step_spec (hstep : system.step s label = some s') : Step s label s' := by
  cases label with
  | prepareHardware outcome =>
      obtain ⟨hpnp, hsome⟩ := Option.ite_none_right_eq_some.mp hstep
      replace hsome : some { (s.hwInit outcome).2 with
          pnp := if (s.hwInit outcome).1 then .prepared else .closing .queues true } = some s' :=
        hsome
      obtain rfl := Option.some.inj hsome
      split
      next hok => exact .prepared hpnp hok
      next => exact .unprepared hpnp
  | d0Entry ok =>
      obtain ⟨hpnp, hsome⟩ := Option.ite_none_right_eq_some.mp hstep
      obtain rfl := Option.some.inj hsome
      exact .entered hpnp
  | d0Exit =>
      obtain ⟨hpnp, hsome⟩ := Option.ite_none_right_eq_some.mp hstep
      obtain rfl := Option.some.inj hsome
      exact .exited hpnp
  | releaseHardware =>
      obtain ⟨hpnp, hsome⟩ := Option.ite_none_right_eq_some.mp hstep
      obtain rfl := Option.some.inj hsome
      exact .released hpnp
  | close =>
      simp only [system, step] at hstep
      split at hstep
      next stage deleting hpnp =>
        cases stage with
        | queues =>
            obtain rfl := Option.some.inj hstep
            exact .closesQueues hpnp
        | stop =>
            simp only [closeAct] at hstep
            split at hstep
            next hthread =>
              obtain rfl := Option.some.inj hstep
              exact .stopsWorker hpnp hthread
            next hthread =>
              obtain rfl := Option.some.inj hstep
              exact .threadless hpnp (Bool.eq_false_iff.mpr hthread)
        | join =>
            obtain ⟨hended, hsome⟩ := Option.ite_none_right_eq_some.mp hstep
            obtain rfl := Option.some.inj hsome
            exact .joins hpnp hended
      next => cases hstep
  | joinTimeout =>
      simp only [system, step] at hstep
      split at hstep
      next hpnp =>
        obtain rfl := Option.some.inj hstep
        exact .timesOut hpnp
      next => cases hstep
  | configInterrupt =>
      obtain ⟨hpnp, hsome⟩ := Option.ite_none_right_eq_some.mp hstep
      obtain rfl := Option.some.inj hsome
      exact .interrupted hpnp
  | worker ok =>
      obtain ⟨phase, hworker, hmap⟩ := Option.bind_eq_some_iff.mp hstep
      obtain ⟨⟨next, command⟩, hact, rfl⟩ := Option.map_eq_some_iff.mp hmap
      exact .worked hworker (workerAct_spec hact)

end Lifecycle

end VirtDisplay
