/-
# Completions under interrupts

A completion that was in a used ring when its interrupt was served is handled by a DPC
before everything is quiet again, and only once. For the interrupt of a queue to lead to
a drain, the service routine has to read the reason of the queue from it, and there is
one value of the status register for which it does not: with both bits set it sees the
configuration change alone.
-/

import VirtDisplay.Interrupt.Handshake

namespace VirtDisplay

open Transition

namespace Interrupts

/-- Every bit ORed into `m_PendingWorks` was taken by a later run of the DPC, or is still
there with a run to come, and once all is quiet every completion announced by an
interrupt that was served has been dequeued and handled exactly once. -/
def NothingLost (s : Interrupts) : Prop :=
  (∀ word ∈ s.ors, ∀ r ∈ word.1,
    word.2 < s.lastTaken r ∨ r ∈ s.pending ∧ s.DpcToCome) ∧
  (s.Quiet → ∀ completion ∈ s.served,
    completion.2 ∉ s.used completion.1 ∧ (s.handled completion.1).count completion.2 = 1)

/-- The service routine does not find both bits of the status set. -/
def OneBit (s : Interrupts) : Label → Prop
  | .interrupt _ => s.msi = true ∨ s.status ≠ ⟨true, true⟩
  | _ => True

instance (s : Interrupts) (label : Label) : Decidable (s.OneBit label) :=
  match label with
  | .interrupt _ => inferInstanceAs (Decidable (_ ∨ _))
  | .post _ | .configure | .isr _ | .startDpc | .dpc _ => inferInstanceAs (Decidable True)

/-- The completions of a queue: in the used ring, handled, or with a run of the DPC. -/
def completions (s : Interrupts) (id : QueueId) : List Nat :=
  s.used id ++ s.handled id ++ s.dpcs.flatMap (DpcPhase.held id)

variable {s s' after : Interrupts} {label : Label} {phase : DpcPhase} {next : List DpcPhase}
  {r : IsrReason} {id : QueueId}

/-- A run of the DPC moves completions and makes none. -/
theorem DpcStep.completions (hstep : DpcStep s phase next after) (id : QueueId) :
    (after.used id ++ after.handled id ++ next.flatMap (DpcPhase.held id)).Perm
      (s.used id ++ s.handled id ++ phase.held id) := by
  have hnone : ∀ (id' : QueueId) (reasons : Finset IsrReason),
      [id'.next reasons].flatMap (DpcPhase.held id) = [] := by
    intro id' reasons
    cases id' <;> rfl
  cases hstep with
  | done | takes | sets | passes => exact .refl _
  | skips => exact (hnone ..).symm ▸ .refl _
  | drained => exact (hnone ..).symm ▸ .refl _
  | @dequeues id' reasons ticket rest hused =>
      by_cases heq : id' = id
      · subst heq
        simp only [List.flatMap_singleton, DpcPhase.held, if_true, Function.update_self, hused,
          List.append_nil]
        exact List.perm_append_singleton ticket _
      · simp only [List.flatMap_singleton, DpcPhase.held, if_neg heq,
          Function.update_of_ne (Ne.symm heq)]
        exact .refl _
  | @handles id' reasons ticket =>
      by_cases heq : id' = id
      · subst heq
        simp only [List.flatMap_singleton, DpcPhase.held, if_true, Function.update_self,
          List.append_nil]
        exact List.perm_middle.trans (List.perm_append_singleton ticket _).symm
      · simp only [List.flatMap_singleton, DpcPhase.held, if_neg heq,
          Function.update_of_ne (Ne.symm heq)]
        exact .refl _

/-- The completions are numbered, and there is one of each number. -/
structure Counted (s : Interrupts) : Prop where
  nodup : ∀ id, (s.completions id).Nodup
  below : ∀ id, ∀ ticket ∈ s.completions id, ticket < s.posted

theorem counted_start (msi : Bool) : (start msi).Counted where
  nodup _ := List.nodup_nil
  below _ _ hmem := by cases hmem

theorem Counted.congr (hcounted : s.Counted)
    (hsame : ∀ id, (s'.completions id).Perm (s.completions id))
    (hposted : s'.posted = s.posted) : s'.Counted where
  nodup id := (hsame id).nodup_iff.mpr (hcounted.nodup id)
  below id ticket hmem := hposted ▸ hcounted.below id ticket ((hsame id).mem_iff.mp hmem)

@[simp] theorem latch_completions (s : Interrupts) (f : IsrStatus → IsrStatus) (id : QueueId) :
    (s.latch f).completions id = s.completions id := by unfold latch; split <;> rfl
@[simp] theorem latch_posted (s : Interrupts) (f : IsrStatus → IsrStatus) :
    (s.latch f).posted = s.posted := by unfold latch; split <;> rfl

/-- A run of the DPC, seen on all of them. -/
theorem completions_ran {k : Nat} (hget : s.dpcs[k]? = some phase)
    (hdpc : DpcStep { s with dpcs := s.dpcs.eraseIdx k } phase next after) (id : QueueId) :
    (Interrupts.completions { after with dpcs := next ++ after.dpcs } id).Perm
      (s.completions id) := by
  have hdpcs : after.dpcs = s.dpcs.eraseIdx k := hdpc.frame.dpcs
  have hheld := (perm_cons_eraseIdx hget).flatMap_right (DpcPhase.held id)
  have hmoved := (hdpc.completions id).append_right ((s.dpcs.eraseIdx k).flatMap (DpcPhase.held id))
  unfold Interrupts.completions
  rw [List.flatMap_append, ← List.append_assoc, hdpcs]
  apply hmoved.trans
  rw [List.append_assoc]
  exact hheld.symm.append_left _

/-- A new completion. -/
theorem completions_post (s : Interrupts) (id : QueueId) :
    (Interrupts.completions { s with
      used := Function.update s.used id (s.used id ++ [s.posted])
      posted := s.posted + 1 } id).Perm (s.posted :: s.completions id) := by
  simp only [Interrupts.completions, Function.update_self]
  exact ((List.perm_append_singleton _ _).append_right _).append_right _

theorem completions_post_of_ne {id' : QueueId} (hne : id' ≠ id) :
    Interrupts.completions { s with
      used := Function.update s.used id (s.used id ++ [s.posted])
      posted := s.posted + 1 } id' = s.completions id' := by
  simp only [Interrupts.completions, Function.update_of_ne hne]

theorem Step.counted (hstep : Step s label s') (hcounted : s.Counted) : s'.Counted := by
  cases hstep with
  | @posted id =>
      have hfresh : s.posted ∉ s.completions id := fun hmem =>
        Nat.lt_irrefl _ (hcounted.below id _ hmem)
      have hadded : Interrupts.Counted { s with
          used := Function.update s.used id (s.used id ++ [s.posted])
          posted := s.posted + 1 } := by
        refine ⟨fun id' => ?_, fun id' ticket hmem => ?_⟩
        · by_cases heq : id' = id
          · subst heq
            exact (completions_post s id').nodup_iff.mpr
              (List.nodup_cons.mpr ⟨hfresh, hcounted.nodup id'⟩)
          · rw [completions_post_of_ne heq]
            exact hcounted.nodup id'
        · by_cases heq : id' = id
          · subst heq
            rcases List.mem_cons.mp ((completions_post s id').mem_iff.mp hmem) with rfl | hmem
            · exact Nat.lt_succ_self _
            · exact Nat.lt_succ_of_lt (hcounted.below id' ticket hmem)
          · rw [completions_post_of_ne heq] at hmem
            exact Nat.lt_succ_of_lt (hcounted.below id' ticket hmem)
      exact hadded.congr (fun id' => .of_eq (latch_completions ..)) (latch_posted ..)
  | configured => exact hcounted.congr (fun id => .of_eq (latch_completions ..)) (latch_posted ..)
  | ignored | answered | noted | queued => exact ⟨hcounted.nodup, hcounted.below⟩
  | began => exact ⟨hcounted.nodup, hcounted.below⟩
  | ran hget hdpc => exact hcounted.congr (completions_ran hget hdpc) hdpc.frame.posted

/-- A completion announced by a served interrupt has been handled, is with a run of the
DPC, or is still in its ring and owed a drain. -/
def ServedOwed (s : Interrupts) : Prop :=
  ∀ completion ∈ s.served, completion.2 ∈ s.completions completion.1 ∧
    (completion.2 ∈ s.used completion.1 → s.Owed completion.1.reason)

theorem servedOwed_start (msi : Bool) : (start msi).ServedOwed := by
  intro completion hmem
  cases hmem

/-- An interrupt that is for a queue gives the reason of the queue. -/
theorem reason_mem {message : Nat} {reasons : Finset IsrReason}
    (hreasons : (s.decode message).1 = some reasons) (hbit : s.OneBit (.interrupt message))
    (hfor : s.isFor message id = true) : id.reason ∈ reasons := by
  unfold decode at hreasons
  unfold isFor at hfor
  cases hmsi : s.msi with
  | true =>
      simp only [hmsi, if_true, decide_eq_true_eq] at hreasons hfor
      obtain rfl := Option.some.inj (hreasons.symm.trans hfor)
      exact Finset.mem_singleton_self _
  | false =>
      have hqueue : s.status.queue = true := by
        rwa [hmsi] at hfor
      have hconfig : s.status.config = false := by
        rcases hbit with hbit | hbit
        · cases hmsi.symm.trans hbit
        · exact Bool.eq_false_iff.mpr fun hconfig =>
            hbit (congrArg₂ IsrStatus.mk hqueue hconfig)
      have hstatus : s.status = ⟨true, false⟩ := congrArg₂ IsrStatus.mk hqueue hconfig
      rw [hmsi, hstatus] at hreasons
      obtain rfl := Option.some.inj hreasons
      cases id <;> decide

/-- What a call of the service routine announces is in the used rings. -/
theorem mem_announced {message : Nat} {completion : QueueId × Nat}
    (hmem : completion ∈ s.announced message) :
    s.isFor message completion.1 = true ∧ completion.2 ∈ s.used completion.1 := by
  obtain ⟨id, -, hmem⟩ := List.mem_flatMap.mp hmem
  split at hmem
  next hfor =>
    obtain ⟨ticket, hticket, rfl⟩ := List.mem_map.mp hmem
    exact ⟨hfor, hticket⟩
  next => cases hmem

/-- Completions that only move, to where no interrupt has announced others. -/
theorem ServedOwed.move (hserved : s.ServedOwed) (hsame : s'.served = s.served)
    (hcompletions : ∀ id, ∀ ticket ∈ s.completions id, ticket ∈ s'.completions id)
    (hused : ∀ id, ∀ ticket ∈ s'.used id, ticket ∈ s.completions id → ticket ∈ s.used id)
    (howed : ∀ {r}, s.Owed r → s'.Owed r ∨ s'.Finished r) : s'.ServedOwed := by
  intro completion hmem
  obtain ⟨hin, hdrain⟩ := hserved completion (hsame ▸ hmem)
  refine ⟨hcompletions _ _ hin, fun hring => ?_⟩
  rcases howed (hdrain (hused _ _ hring hin)) with howed | hfinished
  · exact howed
  · rw [hfinished.2 completion.1 rfl] at hring
    cases hring

theorem DpcStep.used_subset (hstep : DpcStep s phase next after) (id : QueueId) :
    ∀ ticket ∈ after.used id, ticket ∈ s.used id := by
  intro ticket hmem
  cases hstep with
  | @dequeues id' reasons ticket' rest hused =>
      by_cases heq : id = id'
      · subst heq
        simp only [Function.update_self] at hmem
        exact hused ▸ List.mem_cons_of_mem _ hmem
      · simpa only [Function.update_of_ne heq] using hmem
  | done | takes | skips | drained | handles | sets | passes => exact hmem

theorem Step.servedOwed (hstep : Step s label s') (hbit : s.OneBit label) (hcounted : s.Counted)
    (hserved : s.ServedOwed) : s'.ServedOwed := by
  have howed : ∀ {r}, s.Owed r → s'.Owed r ∨ s'.Finished r := hstep.owed
  cases hstep with
  | @posted id =>
      refine hserved.move (latch_served ..) ?_ ?_ howed
      · intro id' ticket hmem
        rw [latch_completions]
        by_cases heq : id' = id
        · subst heq
          exact (completions_post s id').mem_iff.mpr (List.mem_cons_of_mem _ hmem)
        · rwa [completions_post_of_ne heq]
      · intro id' ticket hring hmem
        rw [latch_used] at hring
        by_cases heq : id' = id
        · subst heq
          simp only [Function.update_self] at hring
          rcases List.mem_append.mp hring with hring | hnew
          · exact hring
          · -- the new completion has not been announced
            rw [List.mem_singleton] at hnew
            exact absurd (hcounted.below id' ticket hmem) (hnew ▸ Nat.lt_irrefl _)
        · simpa only [Function.update_of_ne heq] using hring
  | configured =>
      refine hserved.move (latch_served ..) ?_ ?_ howed
      · intro id ticket hmem
        rwa [latch_completions]
      · intro id ticket hring _
        rwa [latch_used] at hring
  | ignored | noted | queued | began =>
      exact hserved.move rfl (fun _ _ h => h) (fun _ _ h _ => h) howed
  | @answered message reasons hreasons =>
      intro completion hmem
      rcases List.mem_append.mp hmem with hnew | hold
      · obtain ⟨hfor, hring⟩ := mem_announced hnew
        refine ⟨List.mem_append_left _ (List.mem_append_left _ hring), fun _ => ?_⟩
        exact .inl ⟨reasons, List.mem_cons_self, reason_mem hreasons hbit hfor⟩
      · obtain ⟨hin, hdrain⟩ := hserved completion hold
        refine ⟨hin, fun hring => (hdrain hring).imp_left ?_⟩
        exact fun ⟨reasons', hmem, hr⟩ => ⟨reasons', List.mem_cons_of_mem _ hmem, hr⟩
  | @ran k phase next after hget hdpc =>
      refine hserved.move hdpc.frame.served ?_ ?_ howed
      · exact fun id ticket hmem => (completions_ran hget hdpc id).mem_iff.mpr hmem
      · exact fun id ticket hring _ => hdpc.used_subset id ticket hring

theorem Tracked.nothingLost (htracked : s.Tracked) (hcounted : s.Counted)
    (hserved : s.ServedOwed) : s.NothingLost := by
  constructor
  · intro word hmem r hr
    exact (htracked.kept word hmem r hr).imp_right fun hpending =>
      ⟨hpending, htracked.coming (Finset.ne_empty_of_mem hpending)⟩
  · intro hquiet completion hmem
    obtain ⟨hin, hdrain⟩ := hserved completion hmem
    have hring : completion.2 ∉ s.used completion.1 :=
      fun hring => hquiet.not_owed htracked _ (hdrain hring)
    refine ⟨hring, ?_⟩
    have hnodup := hcounted.nodup completion.1
    unfold Interrupts.completions at hin hnodup
    rw [hquiet.2.2, List.flatMap_nil, List.append_nil] at hin hnodup
    have hhandled := (List.mem_append.mp hin).resolve_left hring
    exact List.count_eq_one_of_mem (List.nodup_append.mp hnodup).2.1 hhandled

/-- As long as the service routine never finds both bits of the status set, no reason and
no completion is lost, and none is handled twice. -/
theorem nothing_lost {msi : Bool} (hreach : system.ReachUnder OneBit (start msi) s) :
    s.NothingLost := by
  have hall : s.Tracked ∧ s.Counted ∧ s.ServedOwed := by
    apply hreach.invariant
    · exact ⟨tracked_start msi, counted_start msi, servedOwed_start msi⟩
    · rintro before label after ⟨htracked, hcounted, hserved⟩ hbit htaken
      have hstep := step_spec htaken
      exact ⟨hstep.tracked htracked, hstep.counted hcounted,
        hstep.servedOwed hbit hcounted hserved⟩
  exact hall.1.nothingLost hall.2.1 hall.2.2

/-- A completion with its message, up to the end of the DPC. -/
def messageRun : List Label :=
  [.post .ctrl, .interrupt 1, .isr 0, .isr 0, .startDpc, .dpc 0, .dpc 0, .dpc 0, .dpc 0, .dpc 0,
    .dpc 0, .dpc 0]

/-- A completion and a configuration change whose bits are read together. -/
def bothBitsRun : List Label :=
  [.post .ctrl, .configure, .interrupt 0, .isr 0, .isr 0, .startDpc, .dpc 0, .dpc 0, .dpc 0, .dpc 0,
    .dpc 0]

theorem nothing_lost_message :
    ∃ s, system.ReachUnder OneBit (start true) s ∧
      (s.served = [(.ctrl, 0)] ∧ s.dpcs = [] ∧ s.isrs = []) ∧ s.NothingLost := by
  have hrun : (system.checkedRun (fun s label => decide (s.OneBit label)) (start true)
      messageRun).any (fun s => s.served = [(.ctrl, 0)] ∧ s.dpcs = [] ∧ s.isrs = []) = true := by
    decide +kernel
  obtain ⟨s, hreach, hquiet⟩ := System.exists_reachUnder (fun _ _ h => of_decide_eq_true h) hrun
  exact ⟨s, hreach, of_decide_eq_true hquiet, nothing_lost hreach⟩

/-- With both bits set, the completion is left in its ring. -/
theorem completion_lost : ∃ s, system.Reach (start false) s ∧ ¬ s.NothingLost := by
  have hrun : (system.run (start false) bothBitsRun).any (fun s =>
      (s.isrs = [] ∧ s.dpcQueued = false ∧ s.dpcs = []) ∧ s.served = [(.ctrl, 0)] ∧
        s.used .ctrl = [0]) = true := by
    decide +kernel
  obtain ⟨s, hreach, hlost⟩ := System.exists_reach hrun
  obtain ⟨hquiet, hserved, hused⟩ := of_decide_eq_true hlost
  refine ⟨s, hreach, fun hnothing => ?_⟩
  have hring := (hnothing.2 hquiet (.ctrl, 0) (hserved ▸ List.mem_singleton_self _)).1
  exact hring (hused ▸ List.mem_singleton_self _)

end Interrupts

end VirtDisplay
