/-
# The hand-shake between the service routine and the DPC

A reason is owed from the moment the service routine has read it until the DPC has done
its work: it is with a call of the service routine, in `m_PendingWorks`, or with a run
of the DPC that has yet to come to the loop it is for. What a step may do to a reason
that is owed is either to pass it on or to do the work, and everything below follows
from that one fact.
-/

import VirtDisplay.Interrupt.Machine

namespace VirtDisplay

open Transition

/-- The run has yet to do the work for a reason. -/
def DpcPhase.Owes (r : IsrReason) : DpcPhase → Prop
  | .exchange => False
  | .drain id reasons => r ∈ reasons ∧ (r = .display → id = .ctrl)
  | .holding id reasons _ => r ∈ reasons ∧ (r = .display → id = .ctrl)
  | .change reasons => r ∈ reasons ∧ r = .change

/-- The buffer a run of the DPC holds. -/
def DpcPhase.held (id : QueueId) : DpcPhase → List Nat
  | .holding id' _ ticket => if id' = id then [ticket] else []
  | _ => []

namespace Interrupts

/-- The steps of a run of the DPC. -/
inductive DpcStep (s : Interrupts) : DpcPhase → List DpcPhase → Interrupts → Prop
  | done (hpending : s.pending = ∅) : DpcStep s .exchange [] s
  | takes (hpending : s.pending ≠ ∅) :
      DpcStep s .exchange [.drain .ctrl s.pending]
        { s with
          pending := ∅
          lastTaken := fun r => if r ∈ s.pending then s.clock else s.lastTaken r }
  | skips {id : QueueId} {reasons : Finset IsrReason} (habsent : id.reason ∉ reasons) :
      DpcStep s (.drain id reasons) [id.next reasons] s
  | drained {id : QueueId} {reasons : Finset IsrReason} (hempty : s.used id = []) :
      DpcStep s (.drain id reasons) [id.next reasons]
        { s with lastDone := Function.update s.lastDone id.reason s.clock }
  | dequeues {id : QueueId} {reasons : Finset IsrReason} {ticket : Nat} {rest : List Nat}
      (hused : s.used id = ticket :: rest) :
      DpcStep s (.drain id reasons) [.holding id reasons ticket]
        { s with used := Function.update s.used id rest }
  | handles {id : QueueId} {reasons : Finset IsrReason} {ticket : Nat} :
      DpcStep s (.holding id reasons ticket) [.drain id reasons]
        { s with handled := Function.update s.handled id (ticket :: s.handled id) }
  | sets {reasons : Finset IsrReason} :
      DpcStep s (.change reasons) [.exchange]
        { s with lastDone := Function.update s.lastDone .change s.clock }
  | passes {reasons : Finset IsrReason} (habsent : .change ∉ reasons) :
      DpcStep s (.change reasons) [.exchange] s

theorem dpcAct_spec (s : Interrupts) (phase : DpcPhase) :
    DpcStep s phase (s.dpcAct phase).1 (s.dpcAct phase).2 := by
  cases phase with
  | exchange =>
      unfold dpcAct
      dsimp only
      split
      next hpending => exact .done hpending
      next hpending => exact .takes hpending
  | drain id reasons =>
      unfold dpcAct
      dsimp only
      split
      next habsent => exact .skips habsent
      next =>
        split
        next hempty => exact .drained hempty
        next hused => exact .dequeues hused
  | holding id reasons ticket => exact .handles
  | change reasons =>
      unfold dpcAct
      dsimp only
      split
      next => exact .sets
      next habsent => exact .passes habsent

/-- The steps. -/
inductive Step (s : Interrupts) : Label → Interrupts → Prop
  | posted {id : QueueId} :
      Step s (.post id) ({ s with
        used := Function.update s.used id (s.used id ++ [s.posted])
        posted := s.posted + 1 }.latch fun status => { status with queue := true })
  | configured : Step s .configure (s.latch fun status => { status with config := true })
  | ignored {message : Nat} (hnone : (s.decode message).1 = none) :
      Step s (.interrupt message)
        { s with
          status := (s.decode message).2
          reads := if s.msi then s.reads else (s.status, s.clock) :: s.reads
          clock := s.clock + 1 }
  | answered {message : Nat} {reasons : Finset IsrReason}
      (hreasons : (s.decode message).1 = some reasons) :
      Step s (.interrupt message)
        { s with
          status := (s.decode message).2
          reads := if s.msi then s.reads else (s.status, s.clock) :: s.reads
          clock := s.clock + 1
          isrs := .decoded reasons :: s.isrs
          served := s.announced message ++ s.served }
  | noted {k : Nat} {reasons : Finset IsrReason} (hget : s.isrs[k]? = some (.decoded reasons)) :
      Step s (.isr k)
        { s with
          pending := s.pending ∪ reasons
          ors := (reasons, s.clock) :: s.ors
          clock := s.clock + 1
          isrs := .noted :: s.isrs.eraseIdx k }
  | queued {k : Nat} (hget : s.isrs[k]? = some .noted) :
      Step s (.isr k) { s with dpcQueued := true, isrs := s.isrs.eraseIdx k }
  | began : Step s .startDpc { s with dpcQueued := false, dpcs := .exchange :: s.dpcs }
  | ran {k : Nat} {phase : DpcPhase} {next : List DpcPhase} {after : Interrupts}
      (hget : s.dpcs[k]? = some phase)
      (hdpc : DpcStep { s with dpcs := s.dpcs.eraseIdx k } phase next after) :
      Step s (.dpc k) { after with dpcs := next ++ after.dpcs }

theorem step_spec {s s' : Interrupts} {label : Label} (hstep : system.step s label = some s') :
    Step s label s' := by
  cases label with
  | post id =>
      obtain rfl := Option.some.inj hstep
      exact .posted
  | configure =>
      obtain rfl := Option.some.inj hstep
      exact .configured
  | interrupt message =>
      simp only [system, step] at hstep
      split at hstep
      next hnone =>
        obtain rfl := Option.some.inj hstep
        exact .ignored hnone
      next hreasons =>
        obtain rfl := Option.some.inj hstep
        exact .answered hreasons
  | isr k =>
      obtain ⟨phase, hget, rfl⟩ := Option.map_eq_some_iff.mp hstep
      cases phase with
      | decoded reasons => exact .noted hget
      | noted => exact .queued hget
  | startDpc =>
      obtain rfl := Option.some.inj hstep
      exact .began
  | dpc k =>
      obtain ⟨phase, hget, rfl⟩ := Option.map_eq_some_iff.mp hstep
      exact .ran hget (dpcAct_spec _ phase)

/-- A reason was read and its work is still to be done. -/
def Owed (s : Interrupts) (r : IsrReason) : Prop :=
  (∃ reasons, .decoded reasons ∈ s.isrs ∧ r ∈ reasons) ∨ r ∈ s.pending ∨
    ∃ phase ∈ s.dpcs, phase.Owes r

/-- The work for a reason has just been done. -/
def Finished (s : Interrupts) (r : IsrReason) : Prop :=
  s.lastDone r = s.clock ∧ ∀ id : QueueId, id.reason = r → s.used id = []

variable {s s' after : Interrupts} {label : Label} {phase : DpcPhase} {next : List DpcPhase}
  {r : IsrReason}

/-- Past a queue, a run still owes what the queue was not for. -/
theorem next_owes {id : QueueId} {reasons : Finset IsrReason}
    (howes : (DpcPhase.drain id reasons).Owes r) (hne : r ≠ id.reason) :
    (id.next reasons).Owes r := by
  obtain ⟨hmem, hctrl⟩ := howes
  cases id with
  | ctrl => exact ⟨hmem, fun hdisplay => absurd hdisplay hne⟩
  | cursor =>
      refine ⟨hmem, ?_⟩
      cases r with
      | display => cases hctrl rfl
      | cursor => exact absurd rfl hne
      | change => rfl

/-- A run of the DPC passes on what it owes and what it takes, or does it. -/
theorem DpcStep.owed (hstep : DpcStep s phase next after) (howes : phase.Owes r ∨ r ∈ s.pending) :
    (r ∈ after.pending ∨ ∃ phase' ∈ next, phase'.Owes r) ∨ after.Finished r := by
  cases hstep with
  | done hpending =>
      rcases howes with howes | hmem
      · exact howes.elim
      · exact .inl (.inl hmem)
  | takes =>
      rcases howes with howes | hmem
      · exact howes.elim
      · exact .inl (.inr ⟨_, List.mem_singleton_self _, hmem, fun _ => rfl⟩)
  | @skips id reasons habsent =>
      rcases howes with howes | hmem
      · have hne : r ≠ id.reason := ne_of_mem_of_not_mem howes.1 habsent
        exact .inl (.inr ⟨_, List.mem_singleton_self _, next_owes howes hne⟩)
      · exact .inl (.inl hmem)
  | @drained id reasons hempty =>
      rcases howes with howes | hmem
      · by_cases hne : r = id.reason
        · subst hne
          refine .inr ⟨Function.update_self .., fun id' heq => ?_⟩
          have hsame : id' = id := by
            cases id' <;> cases id <;> first | rfl | cases heq
          exact hsame ▸ hempty
        · exact .inl (.inr ⟨_, List.mem_singleton_self _, next_owes howes hne⟩)
      · exact .inl (.inl hmem)
  | dequeues =>
      rcases howes with howes | hmem
      · exact .inl (.inr ⟨_, List.mem_singleton_self _, howes⟩)
      · exact .inl (.inl hmem)
  | handles =>
      rcases howes with howes | hmem
      · exact .inl (.inr ⟨_, List.mem_singleton_self _, howes⟩)
      · exact .inl (.inl hmem)
  | sets =>
      rcases howes with ⟨-, rfl⟩ | hmem
      · refine .inr ⟨Function.update_self IsrReason.change s.clock s.lastDone, fun id heq => ?_⟩
        cases id <;> cases heq
      · exact .inl (.inl hmem)
  | passes habsent =>
      rcases howes with ⟨hmem, rfl⟩ | hmem
      · exact absurd hmem habsent
      · exact .inl (.inl hmem)

/-- What a run of the DPC leaves alone. -/
structure DpcFrame (s after : Interrupts) : Prop where
  msi : after.msi = s.msi
  status : after.status = s.status
  posted : after.posted = s.posted
  isrs : after.isrs = s.isrs
  dpcQueued : after.dpcQueued = s.dpcQueued
  dpcs : after.dpcs = s.dpcs
  clock : after.clock = s.clock
  reads : after.reads = s.reads
  ors : after.ors = s.ors
  served : after.served = s.served

theorem DpcStep.frame (hstep : DpcStep s phase next after) : DpcFrame s after := by
  cases hstep <;> exact ⟨rfl, rfl, rfl, rfl, rfl, rfl, rfl, rfl, rfl, rfl⟩

/-- The times it records are the present. -/
theorem DpcStep.times (hstep : DpcStep s phase next after) :
    (∀ r, after.lastDone r = s.lastDone r ∨ after.lastDone r = s.clock) ∧
      ∀ r, after.lastTaken r = s.lastTaken r ∨ after.lastTaken r = s.clock := by
  have hupdate : ∀ (x r : IsrReason), Function.update s.lastDone x s.clock r = s.lastDone r ∨
      Function.update s.lastDone x s.clock r = s.clock := by
    intro x r
    by_cases heq : r = x
    · exact .inr (heq ▸ Function.update_self ..)
    · exact .inl (Function.update_of_ne heq ..)
  cases hstep with
  | done => exact ⟨fun _ => .inl rfl, fun _ => .inl rfl⟩
  | takes =>
      refine ⟨fun _ => .inl rfl, fun r => ?_⟩
      by_cases hmem : r ∈ s.pending
      · exact .inr (if_pos hmem)
      · exact .inl (if_neg hmem)
  | skips => exact ⟨fun _ => .inl rfl, fun _ => .inl rfl⟩
  | drained => exact ⟨hupdate _, fun _ => .inl rfl⟩
  | dequeues => exact ⟨fun _ => .inl rfl, fun _ => .inl rfl⟩
  | handles => exact ⟨fun _ => .inl rfl, fun _ => .inl rfl⟩
  | sets => exact ⟨hupdate _, fun _ => .inl rfl⟩
  | passes => exact ⟨fun _ => .inl rfl, fun _ => .inl rfl⟩

/-- A state that owes the same. -/
theorem Owed.congr (howed : s.Owed r) (hisrs : s'.isrs = s.isrs) (hpending : s'.pending = s.pending)
    (hdpcs : s'.dpcs = s.dpcs) : s'.Owed r := by
  unfold Owed
  rw [hisrs, hpending, hdpcs]
  exact howed

@[simp] theorem latch_isrs (s : Interrupts) (f : IsrStatus → IsrStatus) :
    (s.latch f).isrs = s.isrs := by unfold latch; split <;> rfl
@[simp] theorem latch_pending (s : Interrupts) (f : IsrStatus → IsrStatus) :
    (s.latch f).pending = s.pending := by unfold latch; split <;> rfl
@[simp] theorem latch_dpcs (s : Interrupts) (f : IsrStatus → IsrStatus) :
    (s.latch f).dpcs = s.dpcs := by unfold latch; split <;> rfl

@[simp] theorem latch_used (s : Interrupts) (f : IsrStatus → IsrStatus) :
    (s.latch f).used = s.used := by unfold latch; split <;> rfl
@[simp] theorem latch_served (s : Interrupts) (f : IsrStatus → IsrStatus) :
    (s.latch f).served = s.served := by unfold latch; split <;> rfl

/-- What is owed stays owed until it is done. -/
theorem Step.owed (hstep : Step s label s') (howed : s.Owed r) : s'.Owed r ∨ s'.Finished r := by
  cases hstep with
  | posted => exact .inl (howed.congr (latch_isrs ..) (latch_pending ..) (latch_dpcs ..))
  | configured => exact .inl (howed.congr (latch_isrs ..) (latch_pending ..) (latch_dpcs ..))
  | ignored => exact .inl howed
  | answered =>
      refine .inl (howed.imp_left ?_)
      exact fun ⟨reasons, hmem, hr⟩ => ⟨reasons, List.mem_cons_of_mem _ hmem, hr⟩
  | @noted k reasons hget =>
      left
      rcases howed with ⟨reasons', hmem, hr⟩ | hpending | hdpc
      · rcases List.mem_cons.mp ((perm_cons_eraseIdx hget).mem_iff.mp hmem) with heq | hmem
        · obtain rfl := IsrPhase.decoded.inj heq
          exact .inr (.inl (Finset.mem_union_right _ hr))
        · exact .inl ⟨reasons', List.mem_cons_of_mem _ hmem, hr⟩
      · exact .inr (.inl (Finset.mem_union_left _ hpending))
      · exact .inr (.inr hdpc)
  | queued hget =>
      left
      rcases howed with ⟨reasons, hmem, hr⟩ | howed
      · rcases List.mem_cons.mp ((perm_cons_eraseIdx hget).mem_iff.mp hmem) with heq | hmem
        · cases heq
        · exact .inl ⟨reasons, hmem, hr⟩
      · exact .inr howed
  | began =>
      refine .inl (howed.imp_right (.imp_right ?_))
      exact fun ⟨phase, hmem, howes⟩ => ⟨phase, List.mem_cons_of_mem _ hmem, howes⟩
  | @ran k phase next after hget hdpc =>
      have hframe := hdpc.frame
      have hothers : ∀ phase' ∈ s.dpcs.eraseIdx k, phase'.Owes r →
          ∃ phase'' ∈ next ++ after.dpcs, phase''.Owes r := by
        intro phase' hmem howes
        refine ⟨phase', List.mem_append_right _ ?_, howes⟩
        rw [hframe.dpcs]
        exact hmem
      have hpassed : phase.Owes r ∨ r ∈ s.pending →
          Owed { after with dpcs := next ++ after.dpcs } r ∨
            Finished { after with dpcs := next ++ after.dpcs } r := by
        intro howes
        rcases hdpc.owed howes with (hmem | ⟨phase', hmem, howes⟩) | hfinished
        · exact .inl (.inr (.inl hmem))
        · exact .inl (.inr (.inr ⟨phase', List.mem_append_left _ hmem, howes⟩))
        · exact .inr hfinished
      rcases howed with hisr | hpending | ⟨phase', hmem, howes⟩
      · exact .inl (.inl (hframe.isrs ▸ hisr))
      · exact hpassed (.inr hpending)
      · rcases List.mem_cons.mp ((perm_cons_eraseIdx hget).mem_iff.mp hmem) with rfl | hmem
        · exact hpassed (.inl howes)
        · exact .inl (.inr (.inr (hothers phase' hmem howes)))

/-- The bits of the word are never lost: a DPC comes for them, and what it has not taken
since they were set is still there. -/
structure Tracked (s : Interrupts) : Prop where
  coming : s.pending ≠ ∅ → s.DpcToCome
  done_le : ∀ r, s.lastDone r ≤ s.clock
  taken_le : ∀ r, s.lastTaken r ≤ s.clock
  reads_lt : ∀ read ∈ s.reads, read.2 < s.clock
  ors_lt : ∀ word ∈ s.ors, word.2 < s.clock
  kept : ∀ word ∈ s.ors, ∀ r ∈ word.1, word.2 < s.lastTaken r ∨ r ∈ s.pending

theorem tracked_start (msi : Bool) : (start msi).Tracked where
  coming hpending := absurd rfl hpending
  done_le _ := Nat.le_refl 0
  taken_le _ := Nat.le_refl 0
  reads_lt _ hmem := by cases hmem
  ors_lt _ hmem := by cases hmem
  kept _ hmem := by cases hmem

/-- A run of the DPC ends only when there is nothing left to take. -/
theorem DpcStep.coming (hstep : DpcStep s phase next after) (hpending : after.pending ≠ ∅) :
    next ≠ [] := by
  cases hstep with
  | done hempty => exact absurd hempty hpending
  | takes | skips | drained | dequeues | handles | sets | passes => exact List.cons_ne_nil _ _

/-- Taking the word, a run takes every bit of it. -/
theorem DpcStep.kept (hstep : DpcStep s phase next after) (hmem : r ∈ s.pending) :
    r ∈ after.pending ∨ after.lastTaken r = s.clock := by
  cases hstep with
  | takes => exact .inr (if_pos hmem)
  | done | skips | drained | dequeues | handles | sets | passes => exact .inl hmem

/-- Latching an event changes the status at most. -/
theorem Tracked.latch (htracked : s.Tracked) (f : IsrStatus → IsrStatus) : (s.latch f).Tracked := by
  unfold Interrupts.latch
  split
  next => exact htracked
  next =>
    exact ⟨htracked.coming, htracked.done_le, htracked.taken_le, htracked.reads_lt,
      htracked.ors_lt, htracked.kept⟩

/-- A step of the DPC. -/
theorem DpcStep.tracked {k : Nat}
    (hdpc : DpcStep { s with dpcs := s.dpcs.eraseIdx k } phase next after)
    (htracked : s.Tracked) : Tracked { after with dpcs := next ++ after.dpcs } := by
  have hframe := hdpc.frame
  have hclock : after.clock = s.clock := hframe.clock
  obtain ⟨hdone, htaken⟩ := hdpc.times
  refine ⟨fun hpending => .inr (.inr ?_), ?_, ?_, ?_, ?_, ?_⟩
  · exact List.append_ne_nil_of_left_ne_nil (hdpc.coming hpending) _
  · intro r
    show after.lastDone r ≤ after.clock
    rcases hdone r with heq | heq
    · rw [heq, hclock]
      exact htracked.done_le r
    · rw [heq, hclock]
  · intro r
    show after.lastTaken r ≤ after.clock
    rcases htaken r with heq | heq
    · rw [heq, hclock]
      exact htracked.taken_le r
    · rw [heq, hclock]
  · intro read hmem
    show read.2 < after.clock
    rw [hclock]
    exact htracked.reads_lt read (hframe.reads ▸ hmem)
  · intro word hmem
    show word.2 < after.clock
    rw [hclock]
    exact htracked.ors_lt word (hframe.ors ▸ hmem)
  · intro word hmem r hr
    have hword : word ∈ s.ors := hframe.ors ▸ hmem
    rcases htracked.kept word hword r hr with hlt | hpending
    · refine .inl ?_
      show word.2 < after.lastTaken r
      rcases htaken r with heq | heq
      · exact heq ▸ hlt
      · exact heq ▸ htracked.ors_lt word hword
    · rcases hdpc.kept hpending with hmem | heq
      · exact .inr hmem
      · exact .inl (heq ▸ htracked.ors_lt word hword)

theorem Step.tracked (hstep : Step s label s') (htracked : s.Tracked) : s'.Tracked := by
  have hreads : ∀ read ∈ (if s.msi then s.reads else (s.status, s.clock) :: s.reads),
      read.2 < s.clock + 1 := by
    intro read hmem
    split at hmem
    · exact Nat.lt_succ_of_lt (htracked.reads_lt read hmem)
    · rcases List.mem_cons.mp hmem with rfl | hmem
      · exact Nat.lt_succ_self _
      · exact Nat.lt_succ_of_lt (htracked.reads_lt read hmem)
  cases hstep with
  | @posted id =>
      have hposted : Tracked
          { s with
            used := Function.update s.used id (s.used id ++ [s.posted])
            posted := s.posted + 1 } :=
        ⟨htracked.coming, htracked.done_le, htracked.taken_le, htracked.reads_lt,
          htracked.ors_lt, htracked.kept⟩
      exact hposted.latch _
  | configured => exact htracked.latch _
  | ignored =>
      exact ⟨htracked.coming, fun r => Nat.le_succ_of_le (htracked.done_le r),
        fun r => Nat.le_succ_of_le (htracked.taken_le r), hreads,
        fun word hmem => Nat.lt_succ_of_lt (htracked.ors_lt word hmem), htracked.kept⟩
  | answered =>
      refine ⟨fun hpending => ?_, fun r => Nat.le_succ_of_le (htracked.done_le r),
        fun r => Nat.le_succ_of_le (htracked.taken_le r), hreads,
        fun word hmem => Nat.lt_succ_of_lt (htracked.ors_lt word hmem), htracked.kept⟩
      exact (htracked.coming hpending).imp_right (.imp_left (List.mem_cons_of_mem _))
  | @noted k reasons hget =>
      refine ⟨fun _ => .inr (.inl List.mem_cons_self),
        fun r => Nat.le_succ_of_le (htracked.done_le r),
        fun r => Nat.le_succ_of_le (htracked.taken_le r),
        fun read hmem => Nat.lt_succ_of_lt (htracked.reads_lt read hmem), ?_, ?_⟩
      · intro word hmem
        rcases List.mem_cons.mp hmem with rfl | hmem
        · exact Nat.lt_succ_self _
        · exact Nat.lt_succ_of_lt (htracked.ors_lt word hmem)
      · intro word hmem r hr
        rcases List.mem_cons.mp hmem with rfl | hmem
        · exact .inr (Finset.mem_union_right _ hr)
        · exact (htracked.kept word hmem r hr).imp_right (Finset.mem_union_left _)
  | queued hget =>
      exact ⟨fun _ => .inl rfl, htracked.done_le, htracked.taken_le, htracked.reads_lt,
        htracked.ors_lt, htracked.kept⟩
  | began =>
      exact ⟨fun _ => .inr (.inr (List.cons_ne_nil _ _)), htracked.done_le, htracked.taken_le,
        htracked.reads_lt, htracked.ors_lt, htracked.kept⟩
  | ran hget hdpc => exact hdpc.tracked htracked

/-- Where nothing is under way, nothing is owed. -/
theorem Quiet.not_owed (hquiet : s.Quiet) (htracked : s.Tracked) (r : IsrReason) : ¬ s.Owed r := by
  obtain ⟨hisrs, hqueued, hdpcs⟩ := hquiet
  have hpending : s.pending = ∅ := by
    by_contra hne
    rcases htracked.coming hne with h | h | h
    · exact Bool.false_ne_true (hqueued.symm.trans h)
    · rw [hisrs] at h
      cases h
    · exact h hdpcs
  rintro (⟨reasons, hmem, -⟩ | hmem | ⟨phase, hmem, -⟩)
  · rw [hisrs] at hmem
    cases hmem
  · rw [hpending] at hmem
    exact Finset.notMem_empty r hmem
  · rw [hdpcs] at hmem
    cases hmem

end Interrupts

end VirtDisplay
