/-
# The worker in D0

The worker is started by `HWInit`, which runs once in an adapter's life, and stopped by
every D0 exit. A D0 entry after that initialises the device anew and sets
`m_ConfigUpdateEvent`, but nobody is left to wait for it: no thread is started, and
`m_bStopWorkThread` stays set.
-/

import VirtDisplay.Lifecycle.Steps

namespace VirtDisplay

open Transition

namespace Lifecycle

/-- There is a worker, and nobody has told it to stop. -/
def Working (s : Lifecycle) : Prop :=
  (∃ phase, s.worker = some phase ∧ phase ≠ .terminated) ∧ s.stopWorkThread = false

/-- The worker's own steps come to `ConfigChanged`. -/
def Answered (s : Lifecycle) : Prop :=
  system.LeadsTo Label.worker (fun s => s.worker = some .configChanged) s

/-- In D0, with the hardware initialised, there is a worker that has not been told to
stop and that answers a configuration change. -/
def WorkerServes (s : Lifecycle) : Prop :=
  s.pnp = .d0 → s.hardwareInit = true →
    s.Working ∧ (s.configUpdate = true → s.Answered)

/-- The device is not initialised anew after a D0 exit. -/
def FirstEntry (s : Lifecycle) : Label → Prop
  | .d0Entry ok => s.pnp = .d3 → ok = false
  | _ => True

instance (s : Lifecycle) (label : Label) : Decidable (s.FirstEntry label) := by
  unfold FirstEntry
  split <;> infer_instance

variable {s s' : Lifecycle} {label : Label}

theorem worker_step {ok : Bool} {phase next : WorkerPhase} {command : Option ModeListStep}
    (hworker : s.worker = some phase) (hact : s.workerAct ok phase = some (next, command)) :
    system.step s (.worker ok) = some (s.afterWorker phase next command) := by
  show (s.worker.bind fun phase => (s.workerAct ok phase).map fun result =>
    s.afterWorker phase result.1 result.2) = _
  rw [hworker, Option.bind_some, hact, Option.map_some]

/-- Only the end of the wait resets the event. -/
theorem afterWorker_set {phase next : WorkerPhase} {command : Option ModeListStep}
    (hphase : phase ≠ .waiting) (hset : s.configUpdate = true) :
    (s.afterWorker phase next command).configUpdate = true := by
  show (s.configUpdate && decide (phase ≠ .waiting)) = true
  rw [hset, decide_eq_true hphase, Bool.and_self]

theorem answered_checking (hworker : s.worker = some .checking) (hstop : s.stopWorkThread = false) :
    s.Answered := by
  refine .step (fun _ => worker_step hworker rfl) (.now ?_)
  show some (if s.stopWorkThread then WorkerPhase.terminated else .configChanged) = _
  rw [hstop, if_neg Bool.false_ne_true]

theorem answered_waiting (hworker : s.worker = some .waiting) (hstop : s.stopWorkThread = false)
    (hset : s.configUpdate = true) : s.Answered :=
  .step (fun _ => worker_step hworker (if_pos hset)) (answered_checking rfl hstop)

theorem answered_publishing (hworker : s.worker = some .publishing)
    (hstop : s.stopWorkThread = false) (hset : s.configUpdate = true) : s.Answered :=
  .step (fun _ => worker_step hworker rfl)
    (answered_waiting rfl hstop (afterWorker_set WorkerPhase.noConfusion hset))

/-- However long the rest of the mode list takes, it ends. -/
theorem answered_modeList {todo : List ModeListStep} (hworker : s.worker = some (.modeList todo))
    (hstop : s.stopWorkThread = false) (hset : s.configUpdate = true) : s.Answered := by
  induction todo generalizing s with
  | nil =>
      exact .step (fun _ => worker_step hworker rfl)
        (answered_publishing rfl hstop (afterWorker_set WorkerPhase.noConfusion hset))
  | cons part todo ih =>
      have hskip : (s.afterWorker (.modeList (part :: todo)) (.modeList todo) none).Answered :=
        ih rfl hstop (afterWorker_set WorkerPhase.noConfusion hset)
      have hwait :
        (s.afterWorker (.modeList (part :: todo)) (.awaiting todo) (some part)).Answered := by
        have hstill : (s.afterWorker (.modeList (part :: todo)) (.awaiting todo)
            (some part)).configUpdate = true := afterWorker_set WorkerPhase.noConfusion hset
        exact .step (fun _ => worker_step rfl rfl)
          (ih rfl hstop (afterWorker_set WorkerPhase.noConfusion hstill))
      cases part with
      | tables screen =>
          exact .either (worker_step hworker rfl) (worker_step hworker rfl) hskip
            (answered_publishing rfl hstop (afterWorker_set WorkerPhase.noConfusion hset))
      | edids screen | displayInfo screen =>
          exact .either (worker_step hworker rfl) (worker_step hworker rfl) hwait hskip

/-- Wherever a working worker is, a configuration change brings it to `ConfigChanged`. -/
theorem Working.answered (hworking : s.Working) (hset : s.configUpdate = true) : s.Answered := by
  obtain ⟨⟨phase, hworker, halive⟩, hstop⟩ := hworking
  cases phase with
  | waiting => exact answered_waiting hworker hstop hset
  | checking => exact answered_checking hworker hstop
  | configChanged => exact .now hworker
  | modeList todo => exact answered_modeList hworker hstop hset
  | awaiting todo =>
      exact .step (fun _ => worker_step hworker rfl)
        (answered_modeList rfl hstop (afterWorker_set WorkerPhase.noConfusion hset))
  | publishing => exact answered_publishing hworker hstop hset
  | terminated => exact absurd rfl halive

/-- The worker works from `PrepareHardware` up to the first D0 exit. -/
structure Serving (s : Lifecycle) : Prop where
  fresh : s.pnp = .fresh → s.stopWorkThread = false
  prepared : s.pnp = .prepared → s.Working
  entered : s.pnp = .d0 → s.hardwareInit = true → s.Working
  off : s.pnp = .d3 → s.hardwareInit = false
  joining : ∀ deleting, s.pnp = .closing .join deleting → s.hardwareInit = false

theorem serving_start (edid : Bool) : (start edid).Serving where
  fresh _ := rfl
  prepared hpnp := nomatch hpnp
  entered hpnp := nomatch hpnp
  off hpnp := nomatch hpnp
  joining _ hpnp := nomatch hpnp

/-- A worker that is not told to stop goes on. -/
theorem WorkerMove.working {phase next : WorkerPhase} {command : Option ModeListStep}
    (hmove : WorkerMove s phase next command) (hstop : s.stopWorkThread = false) :
    next ≠ .terminated := by
  cases hmove with
  | stops hstopped => exact absurd (hstopped.symm.trans hstop) Bool.noConfusion
  | wakes | proceeds | reads | ignores | ends | skips | fails | asks | answered | publishes =>
      exact WorkerPhase.noConfusion

theorem serving_closing {stage : CloseStage} {deleting : Bool}
    (hpnp : s.pnp = .closing stage deleting) (hjoin : stage = .join → s.hardwareInit = false) :
    s.Serving := by
  refine ⟨fun h => ?_, fun h => ?_, fun h => ?_, fun h => ?_, fun _ h => hjoin ?_⟩
  all_goals rw [hpnp] at h
  all_goals cases h
  rfl

theorem serving_closed (deleting : Bool) : (s.closed deleting).Serving := by
  cases deleting with
  | true => exact ⟨nofun, nofun, nofun, nofun, nofun⟩
  | false => exact ⟨nofun, nofun, nofun, fun _ => rfl, nofun⟩

theorem Step.serving (hstep : Step s label s') (hfirst : s.FirstEntry label) (h : s.Serving) :
    s'.Serving := by
  cases hstep with
  | @prepared outcome hpnp hok =>
      obtain ⟨hframe, hworker⟩ := hwInit_spec s outcome
      have hwaiting := hworker.resolve_right fun hfailed =>
        Bool.false_ne_true (hfailed.1.symm.trans hok)
      refine ⟨nofun, fun _ => ?_, nofun, nofun, nofun⟩
      exact ⟨⟨.waiting, hwaiting, nofun⟩, hframe.stopWorkThread.trans (h.fresh hpnp)⟩
  | unprepared => exact serving_closing rfl nofun
  | @entered ok hpnp =>
      obtain ⟨hframe, hworker⟩ := adapterInit_frame s ok
      refine ⟨nofun, nofun, fun _ hinit => ?_, nofun, nofun⟩
      rcases hpnp with hpnp | hpnp
      · obtain ⟨⟨phase, hphase, halive⟩, hstop⟩ := h.prepared hpnp
        exact ⟨⟨phase, hworker.trans hphase, halive⟩, hframe.stopWorkThread.trans hstop⟩
      · have hok : ok = false := hfirst hpnp
        subst hok
        have hoff := h.off hpnp
        replace hinit : (s.adapterInit false).hardwareInit = true := hinit
        rw [adapterInit, hoff] at hinit
        exact absurd (hoff.symm.trans hinit) Bool.false_ne_true
  | exited | released | closesQueues => exact serving_closing rfl nofun
  | stopsWorker => exact serving_closing rfl fun _ => rfl
  | threadless | joins | timesOut => exact serving_closed _
  | interrupted => exact ⟨h.fresh, h.prepared, h.entered, h.off, h.joining⟩
  | @worked _ phase next command hworker hmove =>
      have hworking : s.Working → (s.afterWorker phase next command).Working := by
        rintro ⟨-, hstop⟩
        exact ⟨⟨next, rfl, hmove.working hstop⟩, hstop⟩
      exact ⟨h.fresh, fun hpnp => hworking (h.prepared hpnp),
        fun hpnp hinit => hworking (h.entered hpnp hinit), h.off, h.joining⟩

/-- Up to a D0 entry that initialises the device anew, the worker serves. -/
theorem worker_serves {edid : Bool} (hreach : system.ReachUnder FirstEntry (start edid) s) :
    s.WorkerServes := by
  have hserving : s.Serving := by
    apply hreach.invariant
    · exact serving_start edid
    · intro before label after hbefore hfirst htaken
      exact (step_spec htaken).serving hfirst hbefore
  intro hpnp hinit
  have hworking := hserving.entered hpnp hinit
  exact ⟨hworking, hworking.answered⟩

/-- Everything `HWInit` tries succeeds. -/
def goodInit : HWInitOutcome := ⟨true, true, true, true, true, true⟩

theorem worker_serves_firstEntry :
    ∃ s, system.ReachUnder FirstEntry (start true) s ∧
      (s.pnp = .d0 ∧ s.hardwareInit = true ∧ s.configUpdate = true) ∧ s.WorkerServes := by
  have hrun : (system.checkedRun (fun s label => decide (s.FirstEntry label)) (start true)
      [.prepareHardware goodInit, .d0Entry true]).any (fun s =>
        s.pnp = .d0 ∧ s.hardwareInit = true ∧ s.configUpdate = true) = true := by
    decide +kernel
  obtain ⟨s, hreach, hd0⟩ := System.exists_reachUnder (fun _ _ h => of_decide_eq_true h) hrun
  exact ⟨s, hreach, of_decide_eq_true hd0, worker_serves hreach⟩

/-- After one power cycle the device is back in D0, and its worker has ended. -/
theorem worker_missing : ∃ s, system.Reach (start true) s ∧ ¬ s.WorkerServes := by
  have hrun : (system.run (start true)
      [.prepareHardware goodInit, .d0Entry true, .worker true, .worker true, .worker false,
        .d0Exit, .close, .close, .worker true, .worker true, .close, .d0Entry true]).any (fun s =>
        s.pnp = .d0 ∧ s.hardwareInit = true ∧ s.stopWorkThread = true) = true := by
    decide +kernel
  obtain ⟨s, hreach, hback⟩ := System.exists_reach hrun
  obtain ⟨hpnp, hinit, hstop⟩ := of_decide_eq_true hback
  refine ⟨s, hreach, fun hserves => ?_⟩
  have hrunning : s.stopWorkThread = false := (hserves hpnp hinit).1.2
  exact Bool.false_ne_true (hrunning.symm.trans hstop)

end Lifecycle

end VirtDisplay
