/-
# Events latched in the status register

Without message-signalled interrupts the device latches its events in a register that
is cleared as it is read, so a value read is the last chance to act on what it holds.
`InterruptRoutine` acts on the value 1, where only the queues' bit is set. With the
configuration's bit set it either ignores the call or, if both are set, forgets about
the queues.
-/

import VirtDisplay.Interrupt.Handshake

namespace VirtDisplay

open Transition

namespace Interrupts

/-- Once all is quiet, every event in a status value that was read has had its
consequence since: for the queues both were found empty, for the configuration
`m_ConfigUpdateEvent` was set. -/
def EventsServed (s : Interrupts) : Prop :=
  s.Quiet → ∀ read ∈ s.reads,
    (read.1.queue = true → ∀ id : QueueId, read.2 < s.lastDone id.reason) ∧
      (read.1.config = true → read.2 < s.lastDone .change)

/-- The service routine does not find the configuration's bit set. -/
def QueuesOnly (s : Interrupts) : Label → Prop
  | .interrupt _ => s.status.config = false
  | _ => True

instance (s : Interrupts) (label : Label) : Decidable (s.QueuesOnly label) :=
  match label with
  | .interrupt _ => inferInstanceAs (Decidable (_ = _))
  | .post _ | .configure | .isr _ | .startDpc | .dpc _ => inferInstanceAs (Decidable True)

/-- Every value read showed no configuration change, and what it showed of the queues
has been done or is owed. -/
structure Latched (s : Interrupts) : Prop where
  msi : s.msi = false
  config : ∀ read ∈ s.reads, read.1.config = false
  queue : ∀ read ∈ s.reads, read.1.queue = true →
    ∀ id : QueueId, read.2 < s.lastDone id.reason ∨ s.Owed id.reason

variable {s s' : Interrupts} {label : Label}

theorem latched_start : (start false).Latched where
  msi := rfl
  config _ hmem := by cases hmem
  queue _ hmem := by cases hmem

/-- A step without a new reading. -/
theorem Latched.move (hlatched : s.Latched) (htracked : s.Tracked) (hmsi : s'.msi = s.msi)
    (hreads : s'.reads = s.reads) (hclock : s.clock ≤ s'.clock)
    (hdone : ∀ r, s'.lastDone r = s.lastDone r ∨ s'.lastDone r = s.clock)
    (howed : ∀ {r}, s.Owed r → s'.Owed r ∨ s'.Finished r) : s'.Latched := by
  refine ⟨hmsi.trans hlatched.msi, hreads ▸ hlatched.config, ?_⟩
  rw [hreads]
  intro read hmem hqueue id
  have hlt := htracked.reads_lt read hmem
  rcases hlatched.queue read hmem hqueue id with hbefore | hbefore
  · refine .inl ?_
    rcases hdone id.reason with heq | heq
    · exact heq ▸ hbefore
    · exact heq ▸ hlt
  · rcases howed hbefore with hafter | hfinished
    · exact .inr hafter
    · exact .inl (hfinished.1 ▸ Nat.lt_of_lt_of_le hlt hclock)

theorem Step.latched (hstep : Step s label s') (hqueues : s.QueuesOnly label)
    (htracked : s.Tracked) (hlatched : s.Latched) : s'.Latched := by
  have howed : ∀ {r}, s.Owed r → s'.Owed r ∨ s'.Finished r := hstep.owed
  have hlatch : ∀ (t : Interrupts) (f : IsrStatus → IsrStatus),
      (t.latch f).msi = t.msi ∧ (t.latch f).reads = t.reads ∧ (t.latch f).clock = t.clock ∧
        (t.latch f).lastDone = t.lastDone := by
    intro t f
    unfold latch
    split <;> exact ⟨rfl, rfl, rfl, rfl⟩
  cases hstep with
  | posted | configured =>
      obtain ⟨hmsi, hreads, hclock, hdone⟩ := hlatch _ _
      exact hlatched.move htracked hmsi hreads (Nat.le_of_eq hclock.symm)
        (fun r => .inl (congrFun hdone r)) howed
  | noted =>
      exact hlatched.move htracked rfl rfl (Nat.le_succ _) (fun _ => .inl rfl) howed
  | queued | began =>
      exact hlatched.move htracked rfl rfl (Nat.le_refl _) (fun _ => .inl rfl) howed
  | ran hget hdpc =>
      have hframe := hdpc.frame
      exact hlatched.move htracked hframe.msi hframe.reads (Nat.le_of_eq hframe.clock.symm)
        hdpc.times.1 howed
  | @ignored message hnone =>
      have hquiet : s.status.queue = false := by
        apply Bool.eq_false_iff.mpr
        intro hqueue
        have hstatus : s.status = ⟨true, false⟩ := congrArg₂ IsrStatus.mk hqueue hqueues
        rw [decode, hlatched.msi, hstatus] at hnone
        cases hnone
      refine ⟨hlatched.msi, ?_, ?_⟩
      · simp only [hlatched.msi, Bool.false_eq_true, if_false]
        rintro read (- | ⟨-, hmem⟩)
        · exact hqueues
        · exact hlatched.config read hmem
      · simp only [hlatched.msi, Bool.false_eq_true, if_false]
        rintro read (- | ⟨-, hmem⟩) hqueue id
        · exact absurd (hquiet.symm.trans hqueue) Bool.false_ne_true
        · exact hlatched.queue read hmem hqueue id
  | @answered message reasons hreasons =>
      have hboth : reasons = {.display, .cursor} := by
        have hstatus : s.status = ⟨s.status.queue, false⟩ :=
          congrArg (IsrStatus.mk s.status.queue) hqueues
        rw [decode, hlatched.msi, hstatus] at hreasons
        cases hqueue : s.status.queue with
        | false =>
            rw [hqueue] at hreasons
            cases hreasons
        | true =>
            rw [hqueue] at hreasons
            exact (Option.some.inj hreasons).symm
      refine ⟨hlatched.msi, ?_, ?_⟩
      · simp only [hlatched.msi, Bool.false_eq_true, if_false]
        rintro read (- | ⟨-, hmem⟩)
        · exact hqueues
        · exact hlatched.config read hmem
      · simp only [hlatched.msi, Bool.false_eq_true, if_false]
        rintro read (- | ⟨-, hmem⟩) hqueue id
        · refine .inr (.inl ⟨reasons, List.mem_cons_self, ?_⟩)
          subst hboth
          cases id <;> decide
        · refine (hlatched.queue read hmem hqueue id).imp_right (.imp_left ?_)
          exact fun ⟨reasons', hmem, hr⟩ => ⟨reasons', List.mem_cons_of_mem _ hmem, hr⟩

/-- As long as no value read has the configuration's bit set, every event read is served. -/
theorem events_served (hreach : system.ReachUnder QueuesOnly (start false) s) : s.EventsServed := by
  have hall : s.Tracked ∧ s.Latched := by
    apply hreach.invariant
    · exact ⟨tracked_start false, latched_start⟩
    · rintro before label after ⟨htracked, hlatched⟩ hqueues htaken
      have hstep := step_spec htaken
      exact ⟨hstep.tracked htracked, hstep.latched hqueues htracked hlatched⟩
  intro hquiet read hmem
  refine ⟨fun hqueue id => ?_, fun hconfig => ?_⟩
  · exact (hall.2.queue read hmem hqueue id).resolve_right (hquiet.not_owed hall.1 _)
  · exact absurd ((hall.2.config read hmem).symm.trans hconfig) Bool.false_ne_true

/-- A completion read off the status, up to the end of the DPC. -/
def queueBitRun : List Label :=
  [.post .ctrl, .interrupt 0, .isr 0, .isr 0, .startDpc, .dpc 0, .dpc 0, .dpc 0, .dpc 0, .dpc 0,
    .dpc 0, .dpc 0]

theorem events_served_queueBit :
    ∃ s, system.ReachUnder QueuesOnly (start false) s ∧
      (s.reads = [(⟨true, false⟩, 0)] ∧ s.dpcs = [] ∧ s.isrs = []) ∧ s.EventsServed := by
  have hrun : (system.checkedRun (fun s label => decide (s.QueuesOnly label)) (start false)
      queueBitRun).any (fun s => s.reads = [(⟨true, false⟩, 0)] ∧ s.dpcs = [] ∧ s.isrs = []) =
        true := by
    decide +kernel
  obtain ⟨s, hreach, hquiet⟩ := System.exists_reachUnder (fun _ _ h => of_decide_eq_true h) hrun
  exact ⟨s, hreach, of_decide_eq_true hquiet, events_served hreach⟩

/-- A configuration change alone is read and forgotten. -/
theorem event_unserved : ∃ s, system.Reach (start false) s ∧ ¬ s.EventsServed := by
  have hrun : (system.run (start false) [.configure, .interrupt 0]).any (fun s =>
      (s.isrs = [] ∧ s.dpcQueued = false ∧ s.dpcs = []) ∧ s.reads = [(⟨false, true⟩, 0)] ∧
        s.lastDone .change = 0) = true := by
    decide +kernel
  obtain ⟨s, hreach, hlost⟩ := System.exists_reach hrun
  obtain ⟨hquiet, hreads, hdone⟩ := of_decide_eq_true hlost
  refine ⟨s, hreach, fun hserved => ?_⟩
  have hlt := (hserved hquiet (⟨false, true⟩, 0) (hreads ▸ List.mem_singleton_self _)).2 rfl
  rw [hdone] at hlt
  exact Nat.lt_irrefl 0 hlt

end Interrupts

end VirtDisplay
