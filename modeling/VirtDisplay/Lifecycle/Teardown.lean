/-
# Teardown and the worker

`VioGpuAdapterLiteClose` closes the queues before `HWClose` asks the worker to stop, and
nothing keeps the worker from using them: wherever it is with a request still to send,
or about to look for one, it goes on. `HWClose` waits for it a second, and then returns
whether or not the worker has ended, which the mode list of four screens can outlast.

The worker is out of the way if the queues are closed while it rests: it has nothing
left to ask, and no configuration change is waiting for it.
-/

import VirtDisplay.Lifecycle.Worker

namespace VirtDisplay

open Transition

/-- The worker sends nothing before it has waited for `m_ConfigUpdateEvent` again. -/
def WorkerPhase.Resting : WorkerPhase → Prop
  | .waiting | .modeList [] | .awaiting [] | .publishing => True
  | .checking | .configChanged | .modeList _ | .awaiting _ | .terminated => False

instance (phase : WorkerPhase) : Decidable phase.Resting := by
  unfold WorkerPhase.Resting
  split <;> infer_instance

namespace Lifecycle

/-- The worker has queued no command after the queues were closed, and has taken no step
after `HWClose` had returned. -/
def WorkerGone (s : Lifecycle) : Prop :=
  ∀ move ∈ s.log, (move.command.isSome = true → move.queuesClosed = false) ∧ move.hwClosed = false

/-- The worker has ended, rests with no configuration change to come, or will find that
it is to stop. -/
def Settled (s : Lifecycle) : Prop :=
  match s.worker with
  | none | some .terminated => True
  | some phase =>
      (phase.Resting ∨ phase = .checking ∧ s.stopWorkThread = true) ∧
        (s.configUpdate = true → s.stopWorkThread = true)

instance (s : Lifecycle) : Decidable s.Settled := by
  unfold Settled
  split <;> infer_instance

/-- The queues are closed while the worker is settled, and `HWClose` returns only once it
has ended. -/
def Orderly (s : Lifecycle) : Label → Prop
  | .close =>
      match s.pnp with
      | .closing .queues _ => s.hardwareInit = true → s.Settled
      | .closing .stop _ => s.workThread = false → s.WorkerEnded
      | _ => True
  | .joinTimeout => s.WorkerEnded
  | _ => True

instance (s : Lifecycle) (label : Label) : Decidable (s.Orderly label) := by
  unfold Orderly
  split
  · split <;> infer_instance
  · infer_instance
  · infer_instance

variable {s s' : Lifecycle} {label : Label}

theorem settled_of_ended (hended : s.WorkerEnded) : s.Settled := by
  rcases hended with hworker | hworker <;> rw [Settled, hworker] <;> trivial

theorem settled_some {phase : WorkerPhase} (hworker : s.worker = some phase)
    (hphase : phase.Resting ∨ phase = .checking ∧ s.stopWorkThread = true)
    (hset : s.configUpdate = true → s.stopWorkThread = true) : s.Settled := by
  rw [Settled, hworker]
  cases phase with
  | terminated => trivial
  | waiting | checking | configChanged | modeList | awaiting | publishing => exact ⟨hphase, hset⟩

/-- A settled worker that has not ended. -/
theorem Settled.running {phase : WorkerPhase} (hsettled : s.Settled)
    (hworker : s.worker = some phase) (halive : phase ≠ .terminated) :
    (phase.Resting ∨ phase = .checking ∧ s.stopWorkThread = true) ∧
      (s.configUpdate = true → s.stopWorkThread = true) := by
  rw [Settled, hworker] at hsettled
  cases phase with
  | terminated => exact absurd rfl halive
  | waiting | checking | configChanged | modeList | awaiting | publishing => exact hsettled

/-- A settled worker may be told to stop. -/
theorem Settled.told (hsettled : s.Settled) (hworker : s'.worker = s.worker)
    (hstop : s'.stopWorkThread = true) : s'.Settled := by
  cases hphase : s.worker with
  | none => exact settled_of_ended (.inl (hworker.trans hphase))
  | some phase =>
      by_cases halive : phase = .terminated
      · subst halive
        exact settled_of_ended (.inr (hworker.trans hphase))
      · obtain ⟨hwhere, -⟩ := hsettled.running hphase halive
        exact settled_some (hworker.trans hphase) (hwhere.imp_right fun h => ⟨h.1, hstop⟩)
          fun _ => hstop

/-- A settled worker stays settled, and queues nothing. -/
theorem WorkerMove.settled {phase next : WorkerPhase} {command : Option ModeListStep}
    (hmove : WorkerMove s phase next command) (hworker : s.worker = some phase)
    (hsettled : s.Settled) : (s.afterWorker phase next command).Settled ∧ command = none := by
  have halive : phase ≠ .terminated := by
    rintro rfl
    cases hmove
  obtain ⟨hphase, hset⟩ := hsettled.running hworker halive
  have hset' : (s.afterWorker phase next command).configUpdate = true → s.stopWorkThread = true :=
    fun h => hset (Bool.and_eq_true_iff.mp h).1
  cases hmove with
  | wakes hupdate => exact ⟨settled_some rfl (.inr ⟨rfl, hset hupdate⟩) hset', rfl⟩
  | stops => exact ⟨settled_of_ended (.inr rfl), rfl⟩
  | proceeds hstop =>
      rcases hphase with hrest | ⟨-, hstopped⟩
      · exact hrest.elim
      · exact absurd (hstopped.symm.trans hstop) Bool.noConfusion
  | reads | ignores =>
      rcases hphase with hrest | ⟨hchecking, -⟩
      · exact hrest.elim
      · cases hchecking
  | ends | publishes => exact ⟨settled_some rfl (.inl trivial) hset', rfl⟩
  | skips | fails | asks =>
      rcases hphase with hrest | ⟨hchecking, -⟩
      · exact hrest.elim
      · cases hchecking
  | @answered todo =>
      rcases hphase with hrest | ⟨hchecking, -⟩
      · cases todo with
        | nil => exact ⟨settled_some rfl (.inl trivial) hset', rfl⟩
        | cons => exact hrest.elim
      · cases hchecking

/-- Once the queues are closed the worker is settled, and once `HWClose` has returned it
has ended. -/
structure TornDown (s : Lifecycle) : Prop where
  fresh : s.pnp = .fresh → s.queuesClosed = false ∧ s.hwClosed = false
  settled : s.queuesClosed = true → s.Settled
  ended : s.hwClosed = true → s.WorkerEnded
  closing : s.queuesClosed = true →
    s.hwClosed = true ∨ ∃ stage deleting, s.pnp = .closing stage deleting
  gone : s.WorkerGone

theorem tornDown_start (edid : Bool) : (start edid).TornDown where
  fresh _ := ⟨rfl, rfl⟩
  settled hclosed := absurd hclosed Bool.false_ne_true
  ended hclosed := absurd hclosed Bool.false_ne_true
  closing hclosed := absurd hclosed Bool.false_ne_true
  gone _ hmem := nomatch hmem

/-- Outside a teardown, closed queues mean that the worker has ended. -/
theorem TornDown.off (h : s.TornDown) (hclosed : s.queuesClosed = true)
    (hpnp : s.pnp = .prepared ∨ s.pnp = .d0 ∨ s.pnp = .d3) : s.WorkerEnded := by
  rcases h.closing hclosed with hgone | ⟨stage, deleting, hclosing⟩
  · exact h.ended hgone
  · rw [hclosing] at hpnp
    rcases hpnp with hpnp | hpnp | hpnp <;> cases hpnp

/-- `HWClose` returns. -/
theorem TornDown.closed (h : s.TornDown) (hended : s.WorkerEnded) (deleting : Bool) :
    (s.closed deleting).TornDown where
  fresh hpnp := by cases deleting <;> cases hpnp
  settled _ := settled_of_ended hended
  ended _ := hended
  closing _ := .inl rfl
  gone := h.gone

/-- `PrepareHardware`, whatever it comes to. -/
theorem TornDown.prepares (h : s.TornDown) (hfresh : s.pnp = .fresh) (outcome : HWInitOutcome)
    {pnp : PnpPhase} (hpnp : pnp ≠ .fresh) :
    TornDown { (s.hwInit outcome).2 with pnp := pnp } := by
  obtain ⟨hframe, -⟩ := hwInit_spec s outcome
  obtain ⟨hqueues, hhw⟩ := h.fresh hfresh
  have hopen : (s.hwInit outcome).2.queuesClosed = true → False := fun hclosed =>
    Bool.false_ne_true (hqueues.symm.trans (hframe.queuesClosed hclosed))
  have hnot : (s.hwInit outcome).2.hwClosed = true → False := fun hclosed =>
    Bool.false_ne_true (hhw.symm.trans (hframe.hwClosed.symm.trans hclosed))
  refine ⟨fun h => absurd h hpnp, fun h => (hopen h).elim, fun h => (hnot h).elim,
    fun h => (hopen h).elim, ?_⟩
  intro move hmem
  exact h.gone move (hframe.log ▸ hmem)

theorem Step.tornDown (hstep : Step s label s') (horderly : s.Orderly label) (h : s.TornDown) :
    s'.TornDown := by
  cases hstep with
  | prepared hpnp => exact h.prepares hpnp _ PnpPhase.noConfusion
  | unprepared hpnp => exact h.prepares hpnp _ PnpPhase.noConfusion
  | @entered ok hpnp =>
      obtain ⟨hframe, hworker⟩ := adapterInit_frame s ok
      have hpnp' : s.pnp = .prepared ∨ s.pnp = .d0 ∨ s.pnp = .d3 := hpnp.imp_right .inr
      have hended : s.WorkerEnded → (s.adapterInit ok).WorkerEnded :=
        Or.imp hworker.trans hworker.trans
      refine ⟨nofun, fun hclosed => ?_, fun hclosed => ?_, fun hclosed => ?_, ?_⟩
      · exact settled_of_ended (hended (h.off (hframe.queuesClosed hclosed) hpnp'))
      · exact hended (h.ended (hframe.hwClosed.symm.trans hclosed))
      · refine .inl (hframe.hwClosed.trans ?_)
        apply (h.closing (hframe.queuesClosed hclosed)).resolve_right
        rintro ⟨stage, deleting, hclosing⟩
        rw [hclosing] at hpnp
        rcases hpnp with hpnp | hpnp <;> cases hpnp
      · intro move hmem
        exact h.gone move (hframe.log ▸ hmem)
  | exited | released => exact ⟨nofun, h.settled, h.ended, fun _ => .inr ⟨_, _, rfl⟩, h.gone⟩
  | @closesQueues deleting hpnp =>
      have hsettled : s.hardwareInit = true → s.Settled := by
        rw [Orderly, hpnp] at horderly
        exact horderly
      unfold adapterClose
      split
      next hinit =>
        exact ⟨nofun, fun _ => hsettled hinit, h.ended, fun _ => .inr ⟨_, _, rfl⟩, h.gone⟩
      next => exact ⟨nofun, h.settled, h.ended, fun _ => .inr ⟨_, _, rfl⟩, h.gone⟩
  | stopsWorker =>
      refine ⟨nofun, fun hclosed => ?_, h.ended, fun _ => .inr ⟨_, _, rfl⟩, h.gone⟩
      exact (h.settled hclosed).told rfl rfl
  | threadless hpnp hthread =>
      rw [Orderly, hpnp] at horderly
      exact h.closed (horderly hthread) _
  | joins _ hended => exact h.closed (.inr hended) _
  | timesOut => exact h.closed horderly _
  | interrupted hpnp =>
      exact ⟨h.fresh, fun hclosed => settled_of_ended (h.off hclosed hpnp), h.ended, h.closing,
        h.gone⟩
  | @worked _ phase next command hworker hmove =>
      have halive : s.WorkerEnded → False := by
        rintro (hnone | hended)
        · rw [hworker] at hnone
          cases hnone
        · obtain rfl := Option.some.inj (hworker.symm.trans hended)
          cases hmove
      refine ⟨h.fresh, fun hclosed => (hmove.settled hworker (h.settled hclosed)).1,
        fun hclosed => (halive (h.ended hclosed)).elim, h.closing, ?_⟩
      rintro move (- | ⟨-, hmem⟩)
      · refine ⟨fun hcommand => Bool.eq_false_iff.mpr fun hclosed => ?_,
          Bool.eq_false_iff.mpr fun hclosed => halive (h.ended hclosed)⟩
        obtain rfl := (hmove.settled hworker (h.settled hclosed)).2
        cases hcommand
      · exact h.gone move hmem

/-- In an orderly teardown the worker is out of the way in time. -/
theorem worker_gone {edid : Bool} (hreach : system.ReachUnder Orderly (start edid) s) :
    s.WorkerGone := by
  have htornDown : s.TornDown := by
    apply hreach.invariant
    · exact tornDown_start edid
    · intro before label after hbefore horderly htaken
      exact (step_spec htaken).tornDown horderly hbefore
  exact htornDown.gone

/-- A life with one configuration change and one power cycle, up to the deletion. -/
def orderlyLife : List Label :=
  [.prepareHardware goodInit, .d0Entry true, .worker true, .worker true, .worker true, .worker true,
    .worker false, .worker false, .worker true, .d0Exit, .close, .close, .worker true, .worker true,
    .close, .d0Entry true, .d0Exit, .close, .close, .releaseHardware, .close, .close]

theorem worker_gone_orderlyLife :
    ∃ s, system.ReachUnder Orderly (start true) s ∧
      (s.pnp = .gone ∧ s.log.any (fun move => move.command.isSome) = true) ∧ s.WorkerGone := by
  have hrun : (system.checkedRun (fun s label => decide (s.Orderly label)) (start true)
      orderlyLife).any (fun s => s.pnp = .gone ∧
        s.log.any (fun move => move.command.isSome) = true) = true := by
    decide +kernel
  obtain ⟨s, hreach, hend⟩ := System.exists_reachUnder (fun _ _ h => of_decide_eq_true h) hrun
  exact ⟨s, hreach, of_decide_eq_true hend, worker_gone hreach⟩

/-- A worker in the middle of the mode list asks on after the queues are closed. -/
theorem worker_asks_on : ∃ s, system.Reach (start true) s ∧ ¬ s.WorkerGone := by
  have hrun : (system.run (start true)
      [.prepareHardware goodInit, .d0Entry true, .worker true, .worker true, .worker true,
        .worker true, .d0Exit, .close, .worker true, .worker true, .worker true]).any (fun s =>
        (⟨some (.displayInfo 0), true, false⟩ : WorkerStep) ∈ s.log) = true := by
    decide +kernel
  obtain ⟨s, hreach, hasked⟩ := System.exists_reach hrun
  have hmem := of_decide_eq_true hasked
  refine ⟨s, hreach, fun hgone => ?_⟩
  exact absurd ((hgone _ hmem).1 rfl) Bool.noConfusion

end Lifecycle

end VirtDisplay
