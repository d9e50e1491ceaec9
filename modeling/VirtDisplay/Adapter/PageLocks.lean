/-
# The pages behind the host's resources

Unlocking pages takes effect at once, while the host destroys a resource only when it
reaches the command. This module says which pages the host may still use and when the
driver has all of them locked.

The driver keeps its own account straight: it unlocks nothing that it has not asked back.
What it does not do is wait until the host has seen the request. So the pages are safe
in exactly those runs in which the host is fast enough.
-/

import VirtDisplay.Adapter.PageAccount

namespace VirtDisplay

open Transition Lending

/-- The command creates this resource. -/
def GpuCmd.Creates (resid : Nat) : GpuCmd → Prop
  | .resourceCreate2D id _ _ _ => id = resid
  | .resourceCreateBlob id _ _ => id = resid
  | _ => False

/-- The host has a resource alive, or is going to, that is backed by the pages behind
this lock: it was created, then its backing listed, with no `RESOURCE_UNREF` up to there,
and none has been executed since. -/
def HostHolds (s : Shared) (mdl : Nat) : Prop :=
  ∃ resid created listed, created ≤ listed ∧
    (∃ u, s.sent[created]? = some u ∧ u.cmd.Creates resid) ∧
    (∃ u, s.sent[listed]? = some u ∧ u.Lists resid mdl) ∧
    ¬ UnrefBetween s.sent resid created (max (listed + 1) s.executed)

/-- The pages of every resource the host has alive are locked. -/
def PagesLocked (m : Machine) : Prop := ∀ mdl, HostHolds m.shared mdl → mdl ∈ m.shared.locked

/-- Where a `RESOURCE_UNREF` has been queued for a resource with this backing, the host
has executed one. -/
def UnrefExecuted (s : Shared) (mdl : Nat) : Prop :=
  ∀ resid listed u, s.sent[listed]? = some u → u.Lists resid mdl →
    UnrefBetween s.sent resid listed s.sent.length → UnrefBetween s.sent resid listed s.executed

/-- The moves that leave the host the pages it uses: the `RESOURCE_UNREF` of a front
resource that is rebuilt or released is queued, and by the time pages are unlocked the
host has executed it. -/
def PagesOutliveHost (m : Machine) : Move → Prop
  | .call call => QueuesUnref m.priv m.shared call
  | .act => ∀ mdl rest, m.agenda = .pages (.unlock mdl) :: rest → UnrefExecuted m.shared mdl
  | .outside _ => True

theorem UnrefBetween.mono {sent : List Submission} {resid after before before' : Nat}
    (hunref : UnrefBetween sent resid after before) (hle : before ≤ before') :
    UnrefBetween sent resid after before' := by
  obtain ⟨q, u, hafter, hbefore, hu, hcmd⟩ := hunref
  exact ⟨q, u, hafter, hbefore.trans_le hle, hu, hcmd⟩

theorem UnrefBetween.append {sent : List Submission} {resid after before : Nat}
    (hunref : UnrefBetween sent resid after before) (submission : Submission) :
    UnrefBetween (sent ++ [submission]) resid after before := by
  obtain ⟨q, u, hafter, hbefore, hu, hcmd⟩ := hunref
  have hlt : q < sent.length := (List.getElem?_eq_some_iff.mp hu).1
  exact ⟨q, u, hafter, hbefore, (List.getElem?_append_left hlt).trans hu, hcmd⟩

/-- A new command makes the host hold what it lists, and nothing else. -/
theorem hostHolds_submit {s : Shared} {submission : Submission} {mdl : Nat}
    (hholds : HostHolds { s with sent := s.sent ++ [submission] } mdl) :
    HostHolds s mdl ∨ ∃ resid, submission.Lists resid mdl := by
  obtain ⟨resid, created, listed, hle, ⟨u, hu, hcreates⟩, ⟨v, hv, hlists⟩, hkept⟩ := hholds
  dsimp only at hu hv hkept
  rcases Nat.lt_or_ge listed s.sent.length with hold | hnew
  · rw [List.getElem?_append_left hold] at hv
    rw [List.getElem?_append_left (hle.trans_lt hold)] at hu
    exact .inl ⟨resid, created, listed, hle, ⟨u, hu, hcreates⟩, ⟨v, hv, hlists⟩,
      fun hunref => hkept (hunref.append submission)⟩
  · rw [List.getElem?_append_right hnew, List.getElem?_singleton] at hv
    split at hv
    next =>
      obtain rfl := Option.some.inj hv
      exact .inr ⟨resid, hlists⟩
    next => cases hv

/-- The host holds nothing that the driver has asked back, once it has seen the request. -/
theorem not_hostHolds {s : Shared} {mdl : Nat} (hrecalled : ∀ resid, ¬ Lent s.sent resid mdl)
    (hexecuted : UnrefExecuted s mdl) : ¬ HostHolds s mdl := by
  rintro ⟨resid, created, listed, hle, -, ⟨u, hu, hlists⟩, hkept⟩
  have hqueued : UnrefBetween s.sent resid listed s.sent.length := by
    by_contra hnone
    exact hrecalled resid ⟨listed, u, hu, hlists, hnone⟩
  obtain ⟨q, v, hafter, hbefore, hv, hcmd⟩ := hexecuted resid listed u hu hlists hqueued
  exact hkept ⟨q, v, hle.trans_lt hafter, hbefore.trans_le (Nat.le_max_right _ _), hv, hcmd⟩

/-- A permitted action keeps the pages locked, if the host has seen the requests for the
pages it unlocks. -/
theorem pagesLocked_playAction {s : Shared} {action : Action}
    (hpermits : (ledger s).Obeys action.pageEvents)
    (hexecuted : ∀ mdl, action = .pages (.unlock mdl) → UnrefExecuted s mdl)
    (hlocked : ∀ mdl, HostHolds s mdl → mdl ∈ s.locked) :
    ∀ mdl, HostHolds (playAction s action) mdl → mdl ∈ (playAction s action).locked := by
  intro mdl hholds
  have hsubmitted : ∀ submission : Submission, (ledger s).Obeys submission.events →
      HostHolds { s with sent := s.sent ++ [submission] } mdl → mdl ∈ s.locked := by
    intro submission hobeys hholds
    rcases hostHolds_submit hholds with hold | ⟨resid, hlists⟩
    · exact hlocked mdl hold
    · rw [Submission.lists_iff.mp hlists] at hobeys
      exact hobeys.1
  cases action with
  | submit submission => exact hsubmitted submission hpermits hholds
  | flush i serial cmd =>
      cases cmd with
      | none => exact hlocked mdl hholds
      | some cmd => exact hsubmitted ⟨cmd, none⟩ hpermits hholds
  | clearFlush i => exact hlocked mdl hholds
  | pages event =>
      cases event with
      | lock other => exact List.mem_cons_of_mem _ (hlocked mdl hholds)
      | unlock other =>
          refine List.mem_filter.mpr ⟨hlocked mdl hholds, ?_⟩
          rw [decide_eq_true_eq]
          rintro rfl
          exact not_hostHolds hpermits.1 (hexecuted mdl rfl) hholds
  | cursor cmd => exact hlocked mdl hholds
  | reset =>
      obtain ⟨_, _, _, _, ⟨_, hu, _⟩, _⟩ := hholds
      cases hu

/-- The host executing more commands holds no more. -/
theorem HostHolds.of_executed_le {s s' : Shared} {mdl : Nat} (hholds : HostHolds s' mdl)
    (hsent : s'.sent = s.sent) (hle : s.executed ≤ s'.executed) : HostHolds s mdl := by
  obtain ⟨resid, created, listed, hcreated, hu, hv, hkept⟩ := hholds
  rw [hsent] at hu hv hkept
  exact ⟨resid, created, listed, hcreated, hu, hv,
    fun hunref => hkept (hunref.mono (max_le_max_left _ hle))⟩

/-- The account is in order now and when the current call is done, and the host's pages
are locked. -/
structure PagesSafe (m : Machine) : Prop where
  mapped : m.priv.SegmentsMapped
  obeys : (ledger m.shared).Obeys (pageEvents m.agenda)
  custody : m.priv.InCustody ((ledger m.shared).run (pageEvents m.agenda))
  locked : PagesLocked m

/-- The number of the lock a slot's segment has after the start. -/
def Slot.bootLock : Slot → Nat
  | .frame i => i.val
  | .cursor i => maxScanOut + i.val

theorem Adapter.Booted.pagesSafe {a : Adapter} (hbooted : a.Booted) : PagesSafe (.start a) := by
  have hlock : ∀ slot mdl, a.locks slot = some mdl → mdl < 2 * maxScanOut ∧
      mdl = slot.bootLock := by
    intro slot mdl hmdl
    cases slot with
    | frame i =>
        have hframe := (hbooted.screens i).frameLock.symm.trans hmdl
        have hi := i.isLt
        obtain rfl := Option.some.inj hframe
        exact ⟨by omega, rfl⟩
    | cursor i =>
        have hcursor := (hbooted.screens i).cursorLock.symm.trans hmdl
        have hi := i.isLt
        obtain rfl := Option.some.inj hcursor
        exact ⟨by omega, rfl⟩
  refine ⟨?_, trivial, ⟨?_, ?_, ?_, ?_⟩, ?_⟩
  · intro slot hnull
    cases slot with
    | frame i => exact absurd hnull (hbooted.screens i).frameMapped
    | cursor i => exact absurd hnull (hbooted.screens i).cursorMapped
  · rintro resid mdl ⟨listed, u, hu, -⟩
    cases hu
  · intro slot mdl hmdl
    exact List.mem_range.mpr (hlock slot mdl hmdl).1
  · intro slot mdl hmdl hunused
    have hle : a.serial ≤ mdl := hunused
    rw [hbooted.serial] at hle
    exact absurd hle (Nat.not_le.mpr (hlock slot mdl hmdl).1)
  · intro slot slot' mdl hmdl hmdl'
    have hnumber := (hlock slot mdl hmdl).2
    have hnumber' := (hlock slot' mdl hmdl').2
    cases slot with
    | frame i =>
        cases slot' with
        | frame j => exact congrArg Slot.frame (Fin.ext (hnumber.symm.trans hnumber'))
        | cursor j =>
            have hi := i.isLt
            simp only [Slot.bootLock] at hnumber hnumber'
            omega
    | cursor i =>
        cases slot' with
        | frame j =>
            have hj := j.isLt
            simp only [Slot.bootLock] at hnumber hnumber'
            omega
        | cursor j =>
            simp only [Slot.bootLock] at hnumber hnumber'
            exact congrArg Slot.cursor (Fin.ext (by omega))
  · rintro mdl ⟨_, _, _, _, ⟨_, hu, _⟩, _⟩
    cases hu

/-- In every run whose moves leave the host its pages, the pages of every resource it has
alive are locked. -/
theorem pages_locked {m : Machine} (hreach : Machine.ReachableUnder PagesOutliveHost m) :
    PagesLocked m := by
  have hsafe : PagesSafe m := by
    apply hreach.invariant (fun a hbooted => hbooted.pagesSafe)
    · intro m call a' actions record _ hinv hok hagenda hcall
      have hcustody := hinv.custody
      rw [hagenda] at hcustody
      obtain ⟨hobeys, hafter⟩ := hcall.triple hinv.mapped hok (ledger m.shared) hcustody
      exact ⟨hcall.segmentsMapped hinv.mapped, hobeys, hafter, hinv.locked⟩
    · intro m action rest _ hinv hok hagenda
      have hobeys := hinv.obeys
      have hcustody := hinv.custody
      have hevents : pageEvents m.agenda = action.pageEvents ++ pageEvents rest := by
        rw [hagenda]
        rfl
      rw [hevents, Ledger.obeys_append] at hobeys
      rw [hevents, Ledger.run_append] at hcustody
      refine ⟨hinv.mapped, ?_, ?_, ?_⟩
      · dsimp only
        rw [ledger_playAction]
        exact hobeys.2
      · dsimp only
        rw [ledger_playAction]
        exact hcustody
      · refine pagesLocked_playAction hobeys.1 (fun mdl hunlock => ?_) hinv.locked
        exact hok mdl rest (hunlock ▸ hagenda)
    · intro m x shared _ hinv _ hmove
      have hledger := ledger_outsideMove hmove
      obtain ⟨hsent, hlocked, hle⟩ := outsideMove_frame hmove
      refine ⟨hinv.mapped, ?_, ?_, fun mdl hholds => ?_⟩
      · dsimp only
        rw [hledger]
        exact hinv.obeys
      · dsimp only
        rw [hledger]
        exact hinv.custody
      · dsimp only at hholds ⊢
        rw [hlocked]
        exact hinv.locked mdl (hholds.of_executed_le hsent hle)
  exact hsafe.locked

/-- The resource and the lock of a command that creates a blob resource. -/
def Submission.blob (submission : Submission) : Option (Nat × Nat) :=
  match submission.cmd with
  | .resourceCreateBlob resid _ _ => submission.backing.map fun mdl => (resid, mdl)
  | _ => none

/-- A release unlocks the pages while the host has not even created the resource. -/
theorem pages_unlocked : ¬ ∀ m : Machine, m.Reachable → PagesLocked m := by
  let frame : FrameMetaData := .sized 1024 768 4096 1024 0x1000
  let moves : List Move := .call (.present frame true .good) :: List.replicate 5 .act ++
    .call (.releaseFb 0 .good) :: List.replicate 4 .act
  have hresult : (bootRun (.plain true) moves).map (fun m =>
      (m.shared.sent[0]?.bind Submission.blob, m.shared.executed, m.shared.locked)) =
        some (some (1, 8), 0, [1, 2, 3, 4, 5, 6, 7]) := by
    decide +kernel
  obtain ⟨m, hrun, hvalues⟩ := Option.map_eq_some_iff.mp hresult
  obtain ⟨hblob, hexecuted, hlocked⟩ := Prod.mk.inj hvalues |>.imp_right Prod.mk.inj
  obtain ⟨u, hu, hblob⟩ := Option.bind_eq_some_iff.mp hblob
  have hcreated : u.cmd.Creates 1 ∧ u.Lists 1 8 := by
    obtain ⟨cmd, backing⟩ := u
    cases cmd with
    | resourceCreateBlob resid entries size =>
        obtain ⟨mdl, hmdl, heq⟩ := Option.map_eq_some_iff.mp hblob
        obtain ⟨rfl, rfl⟩ := Prod.mk.inj heq
        exact ⟨rfl, hmdl, rfl⟩
    | _ => cases hblob
  have hholds : HostHolds m.shared 8 := by
    refine ⟨1, 0, 0, Nat.le_refl 0, ⟨u, hu, hcreated.1⟩, ⟨u, hu, hcreated.2⟩, ?_⟩
    rw [hexecuted]
    rintro ⟨q, _, hafter, hbefore, -⟩
    exact absurd hafter (Nat.not_lt.mpr (Nat.lt_succ_iff.mp hbefore))
  intro hclaim
  have hmem := hclaim m (reachable_of_bootRun hrun) 8 hholds
  rw [hlocked] at hmem
  exact absurd hmem (by decide)

/-- Pages are only unlocked once the host has executed every command. -/
def unlocksLate (m : Machine) : Move → Bool
  | .act =>
      match m.agenda with
      | .pages (.unlock _) :: _ => m.shared.executed == m.shared.sent.length
      | _ => true
  | .call _ | .outside _ => true

/-- A frame is presented and released by a driver that waits for the host. -/
theorem pages_locked_late : ∃ m : Machine, PagesLocked m ∧ m.agenda = [] ∧
    m.shared.locked = [1, 2, 3, 4, 5, 6, 7] := by
  let frame : FrameMetaData := .sized 1024 768 4096 1024 0x1000
  let moves : List Move := .call (.present frame true .good) :: List.replicate 5 .act ++
    .call (.releaseFb 0 .good) :: List.replicate 3 .act ++
    List.replicate 6 (.outside .hostExecutes) ++ List.replicate 2 .act
  have hresult : (hwInit (.plain true)).bind (fun a =>
      (machine.checkedRun unlocksLate (.start a) moves).map fun m =>
        (m.agenda.length, m.shared.locked)) = some (0, [1, 2, 3, 4, 5, 6, 7]) := by
    decide +kernel
  obtain ⟨a, hinit, hresult⟩ := Option.bind_eq_some_iff.mp hresult
  obtain ⟨m, hrun, hvalues⟩ := Option.map_eq_some_iff.mp hresult
  obtain ⟨hlength, hlocked⟩ := Prod.mk.inj hvalues
  have hok : ∀ m, ∀ move ∈ moves, unlocksLate m move = true → PagesOutliveHost m move := by
    intro m move hmem hcheck
    cases move with
    | call call =>
        simp only [moves, List.cons_append, List.append_assoc, List.mem_cons, List.mem_append,
          List.mem_replicate, Component.Label.call.injEq, reduceCtorEq, and_false, false_or,
          or_false] at hmem
        rcases hmem with rfl | rfl
        · refine ⟨fun r hrequest _ obj _ => ?_, fun j o hcall => ?_⟩
          · rw [(Call.request_present hrequest).2.2]
            rfl
          · cases hcall
        · refine ⟨fun r hrequest => ?_, fun j o hcall obj _ => ?_⟩
          · cases hrequest
          · obtain ⟨-, rfl⟩ := Call.releaseFb.inj hcall
            rfl
    | act =>
        intro mdl rest hagenda resid listed u _ _ hunref
        simp only [unlocksLate, hagenda, beq_iff_eq] at hcheck
        rwa [hcheck]
    | outside x => trivial
  have hreach : machine.ReachUnder PagesOutliveHost (.start a) m :=
    System.ReachUnder.checkedRun .refl hok hrun
  exact ⟨m, pages_locked ⟨_, a, hinit, hreach⟩, List.length_eq_zero_iff.mp hlength, hlocked⟩

end VirtDisplay
