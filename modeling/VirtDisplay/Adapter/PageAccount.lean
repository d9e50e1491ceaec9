/-
# The driver's account of the pages it has lent

Attaching a segment to a resource lends the segment's lock to the host, and the
resource's `RESOURCE_UNREF` recalls it. This module reads the adapter's actions as events
of that account, and shows of every function that it keeps the discipline of lending:
what is attached is locked, and what is unlocked has been recalled, provided only that
the `RESOURCE_UNREF` found a place on the queue. The code owes this to the order of its
steps, for it destroys a resource before it closes the segment under it.
-/

import VirtDisplay.Adapter.Runs
import VirtDisplay.Foundation.Lending

namespace VirtDisplay

open Transition Lending

/-- The submission lists the pages behind this lock as the resource's backing. -/
def Submission.Lists (submission : Submission) (resid mdl : Nat) : Prop :=
  submission.backing = some mdl ∧
    match submission.cmd with
    | .resourceCreateBlob id _ _ => id = resid
    | .resourceAttachBacking id _ => id = resid
    | _ => False

/-- A `RESOURCE_UNREF` of this resource stands on the queue behind one position and
before another. -/
def UnrefBetween (sent : List Submission) (resid after before : Nat) : Prop :=
  ∃ q u, after < q ∧ q < before ∧ sent[q]? = some u ∧ u.cmd = .resourceUnref resid

/-- Pages have been listed for this resource and no `RESOURCE_UNREF` queued since. -/
def Lent (sent : List Submission) (resid mdl : Nat) : Prop :=
  ∃ listed u, sent[listed]? = some u ∧ u.Lists resid mdl ∧
    ¬ UnrefBetween sent resid listed sent.length

/-- What the driver has lent and what it holds. -/
def ledger (s : Shared) : Ledger Nat Nat :=
  ⟨{loan | Lent s.sent loan.1 loan.2}, {mdl | mdl ∈ s.locked}⟩

/-- What a submission lends or recalls. -/
def Submission.events (submission : Submission) : List (Event Nat Nat) :=
  match submission.cmd, submission.backing with
  | .resourceCreateBlob id _ _, some mdl => [.lend id mdl]
  | .resourceAttachBacking id _, some mdl => [.lend id mdl]
  | .resourceUnref id, _ => [.recall id]
  | _, _ => []

/-- What happens to a lock, in the account. -/
def PageEvent.toEvent : PageEvent → Event Nat Nat
  | .lock mdl => .take mdl
  | .unlock mdl => .release mdl

/-- What an action does to the account. -/
def Action.pageEvents : Action → List (Event Nat Nat)
  | .submit submission => submission.events
  | .flush _ _ (some cmd) => Submission.events ⟨cmd, none⟩
  | .pages event => [event.toEvent]
  | .reset => [.reset]
  | .flush _ _ none | .clearFlush _ | .cursor _ => []

/-- What actions do to the account. -/
def pageEvents (actions : List Action) : List (Event Nat Nat) := actions.flatMap Action.pageEvents

section

variable {sent : List Submission} {submission : Submission} {resid mdl : Nat}

theorem unrefBetween_append {after : Nat} :
    UnrefBetween (sent ++ [submission]) resid after (sent ++ [submission]).length ↔
      UnrefBetween sent resid after sent.length ∨
        (after < sent.length ∧ submission.cmd = .resourceUnref resid) := by
  rw [List.length_append, List.length_singleton]
  constructor
  · rintro ⟨q, u, hafter, hbefore, hu, hcmd⟩
    rcases Nat.lt_succ_iff_lt_or_eq.mp hbefore with hold | rfl
    · rw [List.getElem?_append_left hold] at hu
      exact .inl ⟨q, u, hafter, hold, hu, hcmd⟩
    · rw [List.getElem?_concat_length] at hu
      obtain rfl := Option.some.inj hu
      exact .inr ⟨hafter, hcmd⟩
  · rintro (⟨q, u, hafter, hbefore, hu, hcmd⟩ | ⟨hafter, hcmd⟩)
    · exact ⟨q, u, hafter, Nat.lt_succ_of_lt hbefore,
        (List.getElem?_append_left hbefore).trans hu, hcmd⟩
    · exact ⟨sent.length, submission, hafter, Nat.lt_succ_self _, List.getElem?_concat_length,
        hcmd⟩

/-- A new submission lends what it lists, and keeps what it does not recall. -/
theorem lent_append : Lent (sent ++ [submission]) resid mdl ↔
    submission.Lists resid mdl ∨
      (Lent sent resid mdl ∧ submission.cmd ≠ .resourceUnref resid) := by
  constructor
  · rintro ⟨listed, u, hu, hlists, hkept⟩
    rw [unrefBetween_append, not_or, not_and] at hkept
    obtain ⟨hkept, hnew⟩ := hkept
    rcases Nat.lt_trichotomy listed sent.length with hold | rfl | hpast
    · rw [List.getElem?_append_left hold] at hu
      exact .inr ⟨⟨listed, u, hu, hlists, hkept⟩, hnew hold⟩
    · rw [List.getElem?_concat_length] at hu
      obtain rfl := Option.some.inj hu
      exact .inl hlists
    · rw [List.getElem?_eq_none (by rw [List.length_append]; exact hpast)] at hu
      cases hu
  · rintro (hlists | ⟨⟨listed, u, hu, hlists, hkept⟩, hcmd⟩)
    · refine ⟨sent.length, submission, List.getElem?_concat_length, hlists, ?_⟩
      rw [unrefBetween_append]
      rintro (⟨q, _, hafter, hbefore, -⟩ | ⟨hself, -⟩)
      · exact Nat.lt_asymm hafter hbefore
      · exact Nat.lt_irrefl _ hself
    · have hold : listed < sent.length := (List.getElem?_eq_some_iff.mp hu).1
      refine ⟨listed, u, (List.getElem?_append_left hold).trans hu, hlists, ?_⟩
      rw [unrefBetween_append]
      rintro (hunref | ⟨-, hunref⟩)
      · exact hkept hunref
      · exact hcmd hunref

/-- What a submission lists, as an event. -/
theorem Submission.lists_iff :
    submission.Lists resid mdl ↔ submission.events = [.lend resid mdl] := by
  obtain ⟨cmd, backing⟩ := submission
  cases cmd <;> cases backing <;> simp [Submission.Lists, Submission.events, and_comm]

theorem Submission.recalls_iff :
    submission.cmd = .resourceUnref resid ↔ submission.events = [.recall resid] := by
  obtain ⟨cmd, backing⟩ := submission
  cases cmd <;> cases backing <;> simp [Submission.events]

end

/-- A submission is at most one event. -/
theorem Submission.events_cases (submission : Submission) :
    submission.events = [] ∨ (∃ resid mdl, submission.events = [.lend resid mdl]) ∨
      ∃ resid, submission.events = [.recall resid] := by
  obtain ⟨cmd, backing⟩ := submission
  cases cmd <;> cases backing <;> simp [Submission.events]

/-- Queueing a submission changes the account by its events. -/
theorem ledger_submit (s : Shared) (submission : Submission) :
    ledger { s with sent := s.sent ++ [submission] } = (ledger s).run submission.events := by
  have hlent : ∀ loan : Nat × Nat, Lent (s.sent ++ [submission]) loan.1 loan.2 ↔
      submission.events = [.lend loan.1 loan.2] ∨
        (Lent s.sent loan.1 loan.2 ∧ submission.events ≠ [.recall loan.1]) := by
    intro loan
    rw [lent_append, Submission.lists_iff, Ne, Submission.recalls_iff]
  simp only [ledger, hlent]
  rcases submission.events_cases with hnone | ⟨resid, mdl, hlend⟩ | ⟨resid, hrecall⟩
  · rw [hnone]
    simp [Ledger.run]
  · rw [hlend]
    simp only [Ledger.run, List.foldl_cons, List.foldl_nil, Ledger.play]
    congr 1
    ext loan
    simp [Prod.ext_iff, eq_comm]
  · rw [hrecall]
    simp only [Ledger.run, List.foldl_cons, List.foldl_nil, Ledger.play]
    congr 1
    ext loan
    simp [eq_comm]

/-- Every action changes the account by its events. -/
theorem ledger_playAction (s : Shared) (action : Action) :
    ledger (playAction s action) = (ledger s).run action.pageEvents := by
  cases action with
  | submit submission => exact ledger_submit s submission
  | flush i serial cmd =>
      cases cmd with
      | none => rfl
      | some cmd => exact ledger_submit s ⟨cmd, none⟩
  | clearFlush i => rfl
  | pages event =>
      cases event with
      | lock mdl =>
          simp only [ledger, playAction, Action.pageEvents, PageEvent.toEvent, Ledger.run,
            List.foldl_cons, List.foldl_nil, Ledger.play]
          congr 1
          ext other
          simp
      | unlock mdl =>
          simp only [ledger, playAction, Action.pageEvents, PageEvent.toEvent, Ledger.run,
            List.foldl_cons, List.foldl_nil, Ledger.play]
          congr 1
          ext other
          simp
  | cursor cmd => rfl
  | reset =>
      simp only [ledger, playAction, Action.pageEvents, Ledger.run, List.foldl_cons,
        List.foldl_nil, Ledger.play]
      congr 1
      ext loan
      simp [Lent]

/-- No move of the host or the DPC changes the account. -/
theorem ledger_outsideMove {s s' : Shared} {x : Outside} (hmove : outsideMove s x = some s') :
    ledger s' = ledger s := by
  obtain ⟨hsent, hlocked, -⟩ := outsideMove_frame hmove
  rw [ledger, ledger, hsent, hlocked]

section

variable (o : Outcomes) (blob : Bool) (i : ScreenId) (info : VideoModeInfo) (mode : CurrentMode)
  (c : Ctx)

@[simp] theorem pageEvents_nil : pageEvents [] = [] := rfl

@[simp]
theorem pageEvents_append (xs ys : List Action) :
    pageEvents (xs ++ ys) = pageEvents xs ++ pageEvents ys := List.flatMap_append

@[simp]
theorem pageEvents_submitted (cmd : GpuCmd) (backing : Option Nat) :
    pageEvents (submitted o cmd backing) =
      if o.accepts cmd then Submission.events ⟨cmd, backing⟩ else [] := by
  unfold submitted
  split
  next => exact List.append_nil _
  next => rfl

@[simp]
theorem pageEvents_pages (events : List PageEvent) :
    pageEvents (events.map .pages) = events.map PageEvent.toEvent := by
  induction events with
  | nil => rfl
  | cons event events ih =>
      show event.toEvent :: pageEvents (events.map .pages) = _
      rw [ih]
      rfl

@[simp]
theorem pageEvents_resetActions (flushCount : Nat) :
    pageEvents (resetActions i flushCount) = [] := by
  unfold resetActions
  split <;> rfl

@[simp]
theorem pageEvents_flushAction (serial resid width height : Nat) :
    pageEvents [flushAction o i serial resid width height] = [] := by
  unfold flushAction
  split <;> rfl

@[simp]
theorem pageEvents_destroyActions (bReset : Bool) (resid : Nat) :
    pageEvents (destroyActions o bReset resid) =
      if o.accepts (.resourceUnref resid) then [.recall resid] else [] := by
  cases bReset <;> simp [destroyActions, Submission.events]

@[simp]
theorem pageEvents_scanoutActions (resid : Nat) :
    pageEvents (scanoutActions o blob i info mode resid) = [] := by
  cases blob <;> simp [scanoutActions, Submission.events]

@[simp]
theorem pageEvents_prepareActions (resid : Nat) :
    pageEvents (prepareActions o blob info mode c resid) =
      (updatedSegment o info mode c).events.map PageEvent.toEvent := by
  cases blob <;> simp [prepareActions, Submission.events]

/-- Attaching a segment lends its lock, if the segment has one. -/
theorem pageEvents_attachCmd (resid : Nat) (segment : Segment) :
    Submission.events ⟨attachCmd blob info mode resid segment, segment.mdl⟩ =
      segment.mdl.toList.map fun mdl => .lend resid mdl := by
  cases blob <;> cases h : segment.mdl <;> simp [attachCmd, Submission.events]

theorem pageEvents_blackOutActions : pageEvents (blackOutActions o i mode c) = [] := by
  unfold blackOutActions
  split
  next => rfl
  next =>
    split
    next => simp [Submission.events]
    next => rfl

theorem pageEvents_cursor {shown : List Action}
    (hshown : ∀ action ∈ shown, ∃ cmd, action = .cursor cmd) : pageEvents shown = [] := by
  apply List.flatMap_eq_nil_iff.mpr
  intro action hmem
  obtain ⟨cmd, rfl⟩ := hshown action hmem
  rfl

end

/-! ## Slots -/

/-- The resource ids a front slot stands for. -/
def shownBy (front : Option VioGpuObj) : Set Nat :=
  {resid | ∃ obj, front = some obj ∧ obj.hwRes = resid}

namespace Adapter

variable (a : Adapter)

/-- The segment of a slot. -/
def segment : Slot → Segment
  | .frame i => (a.screens i).frameSegment
  | .cursor i => (a.screens i).cursorSegment

/-- The lock of a slot. -/
def locks (slot : Slot) : Option Nat := (a.segment slot).mdl

/-- The resources a slot's pages may be lent to. A pointer segment is never closed while
the device runs, so it does not matter which. -/
def shows : Slot → Set Nat
  | .frame i => shownBy (a.screens i).front
  | .cursor _ => Set.univ

/-- The locks the adapter has not used yet. -/
def unused : Set Nat := {mdl | a.serial ≤ mdl}

/-- The adapter's segments own every lock it has lent. -/
abbrev InCustody : Ledger Nat Nat → Prop := Custody a.locks a.shows a.unused

/-- Only a segment with memory has a lock. -/
def SegmentsMapped : Prop := ∀ slot, (a.segment slot).vAddr = 0 → (a.segment slot).mdl = none

variable {a} {i : ScreenId} {c : Ctx}

/-- A function that leaves the pointer segment alone changes one slot's lock. -/
theorem locks_withCtx_frame (hcursor : c.screen.cursorSegment = (a.screens i).cursorSegment) :
    (a.withCtx i c).locks = Function.update a.locks (.frame i) c.screen.frameSegment.mdl := by
  funext slot
  cases slot with
  | frame j =>
      by_cases hj : j = i
      · subst hj
        simp [locks, segment]
      · have hne : Slot.frame j ≠ .frame i := fun h => hj (Slot.frame.inj h)
        simp [locks, segment, Function.update_of_ne hne, withCtx_screens_of_ne hj]
  | cursor j =>
      by_cases hj : j = i
      · subst hj
        simp [locks, segment, hcursor]
      · simp [locks, segment, withCtx_screens_of_ne hj]

/-- A function that leaves the frame segment alone changes one slot's lock. -/
theorem locks_withCtx_cursor (hframe : c.screen.frameSegment = (a.screens i).frameSegment) :
    (a.withCtx i c).locks = Function.update a.locks (.cursor i) c.screen.cursorSegment.mdl := by
  funext slot
  cases slot with
  | frame j =>
      by_cases hj : j = i
      · subst hj
        simp [locks, segment, hframe]
      · simp [locks, segment, withCtx_screens_of_ne hj]
  | cursor j =>
      by_cases hj : j = i
      · subst hj
        simp [locks, segment]
      · have hne : Slot.cursor j ≠ .cursor i := fun h => hj (Slot.cursor.inj h)
        simp [locks, segment, Function.update_of_ne hne, withCtx_screens_of_ne hj]

theorem shows_withCtx : (a.withCtx i c).shows =
    Function.update a.shows (.frame i) (shownBy c.screen.front) := by
  funext slot
  cases slot with
  | frame j =>
      by_cases hj : j = i
      · subst hj
        simp [shows]
      · have hne : Slot.frame j ≠ .frame i := fun h => hj (Slot.frame.inj h)
        simp [shows, Function.update_of_ne hne, withCtx_screens_of_ne hj]
  | cursor j => rfl

end Adapter

/-- What an update can leave of a segment, and the events it takes: nothing changed, or
the old lock was given up, and either no new one came of it or this one. -/
inductive Relocked (mdl : Nat) (segment : Segment) : Segment → List PageEvent → Prop
  | kept : Relocked mdl segment segment []
  | closed {after : Segment} (hnone : after.mdl = none) :
      Relocked mdl segment after segment.closeEvents
  | undone {after : Segment} (hnone : after.mdl = none) :
      Relocked mdl segment after (segment.closeEvents ++ [.lock mdl, .unlock mdl])
  | locked {after : Segment} (hlock : after.mdl = some mdl) (hmapped : after.vAddr ≠ 0) :
      Relocked mdl segment after (segment.closeEvents ++ [.lock mdl])

theorem Segment.closeEvents_of_mdl_eq_none {segment : Segment} (hnone : segment.mdl = none) :
    segment.closeEvents = [] := by
  unfold Segment.closeEvents
  rw [hnone]

theorem Segment.initExt_relocked (o : Outcomes) (mdl size userAddr : Nat) (segment : Segment) :
    Relocked mdl segment (Segment.initExt o mdl size userAddr segment).segment
      (Segment.initExt o mdl size userAddr segment).events := by
  unfold Segment.initExt
  dsimp only
  split
  next hcond =>
    split
    next => exact .closed rfl
    next =>
      split
      next => exact .closed rfl
      next =>
        split
        next => exact .undone rfl
        next => exact .locked rfl hcond.2
  next => exact .closed rfl

theorem Segment.init_relocked {o : Outcomes} {mdl size : Nat} {segment : Segment}
    (hnone : segment.mdl = none) :
    Relocked mdl segment (Segment.init o mdl size segment).segment
      (Segment.init o mdl size segment).events := by
  have hclose := Segment.closeEvents_of_mdl_eq_none hnone
  have hclosed : ∀ {after : Segment}, after.mdl = none → Relocked mdl segment after [] :=
    fun h => hclose ▸ .closed h
  have hundone : ∀ {after : Segment}, after.mdl = none →
      Relocked mdl segment after [.lock mdl, .unlock mdl] := by
    intro after h
    have hstep : Relocked mdl segment after (segment.closeEvents ++ [.lock mdl, .unlock mdl]) :=
      .undone h
    rwa [hclose] at hstep
  have hlocked : ∀ {after : Segment}, after.mdl = some mdl → after.vAddr ≠ 0 →
      Relocked mdl segment after [.lock mdl] := by
    intro after h hmapped
    have hstep : Relocked mdl segment after (segment.closeEvents ++ [.lock mdl]) :=
      .locked h hmapped
    rwa [hclose] at hstep
  unfold Segment.init
  dsimp only
  split
  next => exact hclosed hnone
  next hsys =>
    split
    next => exact hclosed rfl
    next =>
      split
      next => exact hclosed rfl
      next =>
        split
        next => exact hundone rfl
        next => exact hlocked rfl hsys

/-- An update behind a `Close` is an update. -/
theorem Relocked.after_close {mdl : Nat} {segment after : Segment} {events : List PageEvent}
    (hrelocked : Relocked mdl segment.close after events) :
    Relocked mdl segment after (segment.closeEvents ++ events) := by
  cases hrelocked with
  | kept =>
      rw [List.append_nil]
      exact .closed rfl
  | closed hnone =>
      have hclosed : segment.close.closeEvents = [] := rfl
      rw [hclosed, List.append_nil]
      exact .closed hnone
  | undone hnone => exact .undone hnone
  | locked hlock hmapped => exact .locked hlock hmapped

theorem updateFrameSegment_relocked (o : Outcomes) (mdl size ptr : Nat) (segment : Segment) :
    Relocked mdl segment (updateFrameSegment o mdl size ptr segment).segment
      (updateFrameSegment o mdl size ptr segment).events := by
  unfold updateFrameSegment
  split
  next =>
    split
    next => exact (Segment.initExt_relocked o mdl size ptr segment.close).after_close
    next => exact Segment.initExt_relocked o mdl size ptr segment
  next =>
    split
    next => exact (Segment.init_relocked (rfl : segment.close.mdl = none)).after_close
    next => exact .kept

/-- An update leaves a lock only on memory. -/
theorem Relocked.mapped {mdl : Nat} {segment after : Segment} {events : List PageEvent}
    (hrelocked : Relocked mdl segment after events)
    (hmapped : segment.vAddr = 0 → segment.mdl = none) : after.vAddr = 0 → after.mdl = none := by
  cases hrelocked with
  | kept => exact hmapped
  | closed hnone | undone hnone => exact fun _ => hnone
  | locked _ haddr => exact fun h => absurd h haddr

variable {locks : Slot → Option Nat} {shows : Slot → Set Nat} {fresh : Set Nat} {slot : Slot}

/-- Closing a segment without a lock, or one whose slot shows nothing. -/
theorem Segment.triple_close {segment : Segment} (hlock : locks slot = segment.mdl)
    (hidle : segment.mdl = none ∨ shows slot = ∅) :
    Triple (Custody locks shows fresh) (segment.closeEvents.map PageEvent.toEvent)
      (Custody (Function.update locks slot none) shows fresh) := by
  unfold Segment.closeEvents
  split
  next hmdl =>
    rw [← hmdl, ← hlock, Function.update_eq_self]
    exact .nil fun g hcustody => hcustody
  next mdl hmdl =>
    have hempty : shows slot = ∅ := hidle.resolve_left (by rw [hmdl]; exact Option.some_ne_none _)
    split
    next => exact triple_release (hlock.trans hmdl) hempty
    next => exact .nil fun g hcustody => hcustody.vacate hempty

theorem setOf_succ_le (mdl : Nat) : {n | mdl + 1 ≤ n} ⊆ {n | mdl ≤ n} \ {mdl} := by
  intro n hn
  refine ⟨Nat.le_of_succ_le hn, ?_⟩
  rintro rfl
  exact Nat.not_succ_le_self _ hn

/-- An update of a segment that is idle or not locked keeps custody, with a fresh number for the
lock. -/
theorem Relocked.triple {mdl : Nat} {segment after : Segment} {events : List PageEvent}
    (hrelocked : Relocked mdl segment after events) (hlock : locks slot = segment.mdl)
    (hidle : segment.mdl = none ∨ shows slot = ∅) :
    Triple (Custody locks shows {n | mdl ≤ n}) (events.map PageEvent.toEvent)
      (Custody (Function.update locks slot after.mdl) shows {n | mdl + 1 ≤ n}) := by
  have hfewer : {n | mdl + 1 ≤ n} ⊆ {n | mdl ≤ n} := fun n hn => Nat.le_of_succ_le hn
  have hclose : Triple (Custody locks shows {n | mdl ≤ n})
      (segment.closeEvents.map PageEvent.toEvent)
      (Custody (Function.update locks slot none) shows {n | mdl ≤ n}) :=
    Segment.triple_close hlock hidle
  have hless : ∀ {locks : Slot → Option Nat} g, Custody locks shows {n | mdl ≤ n} g →
      Custody locks shows {n | mdl + 1 ≤ n} g :=
    fun g hcustody => hcustody.mono (fun _ => subset_rfl) hfewer
  cases hrelocked with
  | kept =>
      rw [← hlock, Function.update_eq_self]
      exact .nil hless
  | closed hnone =>
      rw [hnone]
      exact hclose.weaken hless
  | undone hnone =>
      rw [hnone, List.map_append]
      exact (hclose.append (triple_take_release (Nat.le_refl mdl))).weaken hless
  | locked hafter _ =>
      rw [hafter, List.map_append]
      have htake : Triple (Custody (Function.update locks slot none) shows {n | mdl ≤ n})
          [.take mdl] (Custody (Function.update (Function.update locks slot none) slot (some mdl))
            shows ({n | mdl ≤ n} \ {mdl})) :=
        triple_take (Function.update_self ..) (Nat.le_refl mdl)
      rw [Function.update_idem] at htake
      exact (hclose.append htake).weaken fun g hcustody =>
        hcustody.mono (fun _ => subset_rfl) (setOf_succ_le mdl)

section

variable {o : Outcomes} {blob : Bool} {i : ScreenId} {flushCount : Nat} {info : VideoModeInfo}
  {mode : CurrentMode} {c c' : Ctx} {status : NtStatus} {path : PresentPath}

/-- Destroying the front resource leaves its slot showing nothing. -/
theorem triple_destroyFrontActions (hshows : shows slot = shownBy c.screen.front)
    (hqueued : ∀ obj, c.screen.front = some obj → o.accepts (.resourceUnref obj.hwRes) = true) :
    Triple (Custody locks shows fresh) (pageEvents (destroyFrontActions o c))
      (Custody locks (Function.update shows slot ∅) fresh) := by
  unfold destroyFrontActions
  cases hfront : c.screen.front with
  | none =>
      have hempty : shows slot = ∅ := by
        rw [hshows, hfront]
        ext resid
        simp [shownBy]
      refine .nil fun g hcustody => ?_
      rwa [← hempty, Function.update_eq_self]
  | some obj =>
      dsimp only
      rw [pageEvents_destroyActions, if_pos (hqueued obj hfront)]
      refine (triple_recall obj.hwRes).weaken fun g hcustody => hcustody.mono ?_ subset_rfl
      rintro slot' resid ⟨hmem, hne⟩
      by_cases heq : slot' = slot
      · subst heq
        rw [hshows, hfront] at hmem
        obtain ⟨obj', hobj, rfl⟩ := hmem
        exact absurd (congrArg VioGpuObj.hwRes (Option.some.inj hobj)).symm hne
      · rwa [Function.update_of_ne heq]

/-- Nothing needs to be lent under an id that may be shown. -/
theorem triple_shown (shown : Set Nat) : Triple (Custody locks (Function.update shows slot ∅) fresh)
    [] (Custody locks (Function.update shows slot shown) fresh) := by
  refine .nil fun g hcustody => hcustody.mono (fun slot' => ?_) subset_rfl
  by_cases heq : slot' = slot
  · subst heq
    rw [Function.update_self]
    exact Set.empty_subset _
  · rw [Function.update_of_ne heq, Function.update_of_ne heq]

/-- Installing an object lends the segment's lock under the object's id, at most. -/
theorem triple_installActions (resid : Nat)
    (hlock : locks slot = (updatedSegment o info mode c).segment.mdl) :
    Triple (Custody locks (Function.update shows slot ∅) fresh)
      (pageEvents (installActions o blob i info mode c resid))
      (Custody locks (Function.update shows slot
        (shownBy (some (createdObj o blob i info mode c resid)))) fresh) := by
  have hnothing : Triple (Custody locks (Function.update shows slot ∅) fresh) []
      (Custody locks (Function.update shows slot
        (shownBy (some (createdObj o blob i info mode c resid)))) fresh) := triple_shown _
  rw [installActions, pageEvents_append, pageEvents_append, pageEvents_scanoutActions,
    pageEvents_flushAction, List.append_nil, List.append_nil]
  split
  next hents =>
    rw [pageEvents_submitted]
    split
    next =>
      rw [pageEvents_attachCmd]
      cases hmdl : (updatedSegment o info mode c).segment.mdl with
      | none => exact hnothing
      | some mdl =>
          apply (triple_lend resid (hlock.trans hmdl)).weaken
          intro g hcustody
          rw [Function.update_idem, Function.update_self] at hcustody
          refine hcustody.mono (fun slot' => ?_) subset_rfl
          by_cases heq : slot' = slot
          · subst heq
            rw [Function.update_self, Function.update_self]
            rintro resid' (rfl | hmem)
            · exact ⟨_, rfl, if_pos hents⟩
            · cases hmem
          · rw [Function.update_of_ne heq, Function.update_of_ne heq]
    next => exact hnothing
  next => exact hnothing

/-- A rebuild: destroy, update, install. -/
theorem triple_rebuildFront (hquiet : pageEvents c.actions = [])
    (hlock : locks slot = c.screen.frameSegment.mdl)
    (hshows : shows slot = shownBy c.screen.front)
    (hqueued : ∀ obj, c.screen.front = some obj → o.accepts (.resourceUnref obj.hwRes) = true) :
    Triple (Custody locks shows {n | c.serial ≤ n})
      (pageEvents (rebuildFront o blob i info mode c).actions)
      (Custody (Function.update locks slot (updatedSegment o info mode c).segment.mdl)
        (Function.update shows slot (shownBy (rebuildFront o blob i info mode c).screen.front))
        {n | c.serial + 1 ≤ n}) := by
  have hdestroy : Triple (Custody locks shows {n | c.serial ≤ n})
      (pageEvents (destroyFrontActions o c))
      (Custody locks (Function.update shows slot ∅) {n | c.serial ≤ n}) :=
    triple_destroyFrontActions hshows hqueued
  have hprepare := (updateFrameSegment_relocked o c.serial (frameSize info mode) mode.ptr
    c.screen.frameSegment).triple hlock (.inr (Function.update_self slot ∅ shows))
  rw [rebuildFront_actions, rebuildFront_screen]
  simp only [pageEvents_append, hquiet, List.nil_append, pageEvents_prepareActions]
  apply (hdestroy.append hprepare).append
  split
  next => exact triple_installActions _ (Function.update_self ..)
  next => exact triple_shown _

/-- A mode-set call whose rebuild, if there is one, queues the `RESOURCE_UNREF`. -/
theorem ModeStep.triple (hmode : ModeStep o blob i flushCount mode c c' status path)
    (hempty : c.actions = []) (hlock : locks slot = c.screen.frameSegment.mdl)
    (hshows : shows slot = shownBy c.screen.front)
    (hqueued : Rebuilds i flushCount mode c →
      ∀ obj, c.screen.front = some obj → o.accepts (.resourceUnref obj.hwRes) = true) :
    Triple (Custody locks shows {n | c.serial ≤ n}) (pageEvents c'.actions)
      (Custody (Function.update locks slot c'.screen.frameSegment.mdl)
        (Function.update shows slot (shownBy c'.screen.front)) {n | c'.serial ≤ n}) := by
  have hkept : ∀ {actions : List Action}, pageEvents actions = [] →
      Triple (Custody locks shows {n | c.serial ≤ n}) (pageEvents actions)
        (Custody (Function.update locks slot c.screen.frameSegment.mdl)
          (Function.update shows slot (shownBy c.screen.front)) {n | c.serial ≤ n}) := by
    intro actions hquiet
    rw [hquiet, ← hlock, ← hshows, Function.update_eq_self, Function.update_eq_self]
    exact .nil fun g hcustody => hcustody
  cases hmode with
  | noMode => exact hkept (by rw [hempty]; rfl)
  | dropped => exact hkept (by rw [hempty]; rfl)
  | @rebuild c₁ forced info hfound hpass hchanged =>
      have hscreen := hpass.screen
      have hsegment : c₁.screen.frameSegment = c.screen.frameSegment := by rw [hscreen]
      have hfront : c₁.screen.front = c.screen.front := by rw [hscreen]
      have hstep : Triple (Custody locks shows {n | c₁.serial ≤ n})
          (pageEvents (rebuildFront o blob i info mode c₁).actions) _ :=
        triple_rebuildFront (by rw [hpass.actions, hempty]; simp) (hlock.trans (by rw [hsegment]))
          (hshows.trans (by rw [hfront]))
          (hfront ▸ hqueued ⟨info, c₁, forced, hfound, hpass.backPressure_eq, hchanged⟩)
      rw [hpass.serial] at hstep
      rw [rebuildFront_serial, hpass.serial]
      rw [rebuildFront_screen] at hstep ⊢
      exact hstep
  | @reuse c₁ _ info obj hfound hpass hfront hsame =>
      have hquiet : pageEvents (flushFrameBufferObj o blob i info c₁).actions = [] := by
        rw [flushFrameBufferObj_eq o blob i info c₁ hfront, hpass.actions, hempty]
        cases blob <;> simp [Submission.events]
      have hstep := hkept hquiet
      rw [flushFrameBufferObj_serial, hpass.serial]
      rw [flushFrameBufferObj_eq o blob i info c₁ hfront] at hstep ⊢
      dsimp only at hstep ⊢
      rw [hpass.screen]
      exact hstep

theorem ModeStep.mapped (hmode : ModeStep o blob i flushCount mode c c' status path)
    (hmapped : c.screen.frameSegment.vAddr = 0 → c.screen.frameSegment.mdl = none) :
    c'.screen.frameSegment.vAddr = 0 → c'.screen.frameSegment.mdl = none := by
  cases hmode with
  | noMode => exact hmapped
  | dropped => exact hmapped
  | @rebuild c₁ _ info hfound hpass hchanged =>
      rw [rebuildFront_screen]
      refine (updateFrameSegment_relocked o c₁.serial (frameSize info mode) mode.ptr
        c₁.screen.frameSegment).mapped ?_
      rw [hpass.screen]
      exact hmapped
  | reuse info obj hfound hpass hfront hsame =>
      rw [flushFrameBufferObj_eq _ _ _ _ _ hfront]
      dsimp only
      rw [hpass.screen]
      exact hmapped

/-- A release: destroy, close. -/
theorem triple_releaseFrameBuffer (hempty : c.actions = [])
    (hlock : locks slot = c.screen.frameSegment.mdl)
    (hshows : shows slot = shownBy c.screen.front)
    (hqueued : ∀ obj, c.screen.front = some obj → o.accepts (.resourceUnref obj.hwRes) = true) :
    Triple (Custody locks shows fresh) (pageEvents (releaseFrameBuffer o i c).actions)
      (Custody (Function.update locks slot none) (Function.update shows slot ∅) fresh) := by
  have hdestroy : Triple (Custody locks shows fresh) (pageEvents (destroyFrontActions o c))
      (Custody locks (Function.update shows slot ∅) fresh) :=
    triple_destroyFrontActions hshows hqueued
  have hevents : pageEvents (releaseFrameBuffer o i c).actions =
      pageEvents (destroyFrontActions o c) ++
        c.screen.frameSegment.closeEvents.map PageEvent.toEvent := by
    rw [releaseFrameBuffer_actions, hempty]
    simp only [pageEvents_append, pageEvents_nil, pageEvents_submitted, pageEvents_pages]
    simp [Submission.events, pageEvents, Action.pageEvents]
  rw [hevents]
  exact hdestroy.append (Segment.triple_close hlock (.inr (Function.update_self ..)))

/-- The old pointer is recalled, if its `RESOURCE_UNREF` is queued. -/
theorem triple_destroyCursorActions : Triple (Custody locks shows fresh)
    (pageEvents (destroyCursorActions o c)) (Custody locks shows fresh) := by
  unfold destroyCursorActions
  split
  next => exact .nil fun g hcustody => hcustody
  next cursor _ =>
    rw [pageEvents_destroyActions]
    split
    next =>
      exact (triple_recall cursor.hwRes).weaken fun g hcustody =>
        hcustody.mono (fun slot' => Set.sdiff_subset) subset_rfl
    next => exact .nil fun g hcustody => hcustody

/-- The pointer's segment is made if there is none. -/
theorem triple_cursorUpdated
    (hmapped : c.screen.cursorSegment.vAddr = 0 → c.screen.cursorSegment.mdl = none)
    (hlock : locks slot = c.screen.cursorSegment.mdl) :
    Triple (Custody locks shows {n | c.serial ≤ n})
      ((cursorUpdated o c).events.map PageEvent.toEvent)
      (Custody (Function.update locks slot (cursorUpdated o c).segment.mdl) shows
        {n | c.serial + 1 ≤ n}) := by
  unfold cursorUpdated
  split
  next haddr =>
    exact (Segment.init_relocked (hmapped haddr)).triple hlock (.inl (hmapped haddr))
  next =>
    rw [← hlock, Function.update_eq_self]
    exact .nil fun g hcustody => hcustody.mono (fun _ => subset_rfl)
      fun n hn => Nat.le_of_succ_le hn

/-- The lock of the pointer's segment is lent under the pointer's id. -/
theorem triple_cursorAttachCmd (resid : Nat)
    (hlock : locks slot = (cursorUpdated o c).segment.mdl) (hshows : shows slot = Set.univ) :
    Triple (Custody locks shows fresh)
      (pageEvents (submitted o (cursorAttachCmd blob resid (cursorUpdated o c).segment)
        (cursorUpdated o c).segment.mdl))
      (Custody locks shows fresh) := by
  have hevents : Submission.events ⟨cursorAttachCmd blob resid (cursorUpdated o c).segment,
      (cursorUpdated o c).segment.mdl⟩ =
      (cursorUpdated o c).segment.mdl.toList.map fun mdl => .lend resid mdl := by
    cases blob <;> cases hmdl : (cursorUpdated o c).segment.mdl <;>
      simp [cursorAttachCmd, Submission.events]
  rw [pageEvents_submitted, hevents]
  split
  next =>
    cases hmdl : (cursorUpdated o c).segment.mdl with
    | none => exact .nil fun g hcustody => hcustody
    | some mdl =>
        apply (triple_lend resid (hlock.trans hmdl)).weaken
        intro g hcustody
        rw [hshows, Set.insert_eq_of_mem (Set.mem_univ resid), ← hshows,
          Function.update_eq_self] at hcustody
        exact hcustody
  next => exact .nil fun g hcustody => hcustody

/-- A new pointer: the old one is recalled, its segment made if there is none, and lent. -/
theorem PointerStep.triple {shape : PointerShape} {format : D3DDDIFormat}
    (hstep : PointerStep o blob i shape format c c') (hempty : c.actions = [])
    (hmapped : c.screen.cursorSegment.vAddr = 0 → c.screen.cursorSegment.mdl = none)
    (hlock : locks slot = c.screen.cursorSegment.mdl) (hshows : shows slot = Set.univ) :
    Triple (Custody locks shows {n | c.serial ≤ n}) (pageEvents c'.actions)
      (Custody (Function.update locks slot c'.screen.cursorSegment.mdl) shows
        {n | c.serial + 1 ≤ n}) := by
  obtain ⟨shown, hshown, hactions⟩ := hstep.actions
  let resid := (destroyCursor o c).idr.getId.1
  have hevents : pageEvents c'.actions = pageEvents (destroyCursorActions o c) ++
      ((cursorUpdated o c).events.map PageEvent.toEvent ++
        if CursorBuildable o c then
          pageEvents (submitted o (cursorAttachCmd blob resid (cursorUpdated o c).segment)
            (cursorUpdated o c).segment.mdl)
        else []) := by
    rw [hactions, hempty, createCursorActions]
    by_cases hbuild : CursorBuildable o c <;> cases blob <;>
      simp [hbuild, pageEvents_cursor hshown, Submission.events, resid]
  rw [hevents, hstep.cursorSegment]
  refine triple_destroyCursorActions.append ((triple_cursorUpdated hmapped hlock).append ?_)
  split
  next => exact triple_cursorAttachCmd resid (Function.update_self ..) hshows
  next => exact .nil fun g hcustody => hcustody

end

/-- Destroying the front resource of the screen would queue its `RESOURCE_UNREF`. -/
def UnrefQueued (a : Adapter) (j : ScreenId) (o : Outcomes) : Prop :=
  ∀ obj, (a.screens j).front = some obj → o.accepts (.resourceUnref obj.hwRes) = true

/-- If the call rebuilds or releases a front resource, the `RESOURCE_UNREF` is queued. -/
def QueuesUnref (a : Adapter) (s : Shared) (call : Call) : Prop :=
  (∀ r, call.request = some r → RebuildsFront a s r → UnrefQueued a r.screen r.outcomes) ∧
    ∀ (j : ScreenId) o, call = .releaseFb j.val o → UnrefQueued a j o

/-- Leaving D0 recalls what it can, and after the reset releases what is left. -/
theorem triple_d0Exit {o : ScreenId → Outcomes} {a : Adapter} {pre : Ledger Nat Nat → Prop} :
    Triple pre (pageEvents (d0Exit o a).2) (fun g => g.lent = ∅) := by
  obtain ⟨destroyed, closed, hactions, hdestroyed, hclosed⟩ := d0Exit_actions o a
  rw [hactions, pageEvents_append]
  refine triple_reset (fun event hmem => ?_) fun event hmem => ?_
  · obtain ⟨action, haction, hevent⟩ := List.mem_flatMap.mp hmem
    obtain ⟨cmd, rfl⟩ := hdestroyed action haction
    cases cmd <;> simp [Action.pageEvents, Submission.events] at hevent
    exact ⟨_, hevent⟩
  · obtain ⟨action, haction, hevent⟩ := List.mem_flatMap.mp hmem
    obtain ⟨mdl, rfl, -⟩ := hclosed action haction
    exact ⟨mdl, List.mem_singleton.mp hevent⟩

/-- After leaving D0 no slot has a lock. -/
theorem Adapter.SegmentsMapped.d0Exit_locks {a : Adapter} (hmapped : a.SegmentsMapped)
    (o : ScreenId → Outcomes) (slot : Slot) : (d0Exit o a).1.locks slot = none := by
  have hclosed : ∀ segment : Segment, (segment.vAddr = 0 → segment.mdl = none) →
      segment.hwClosed.mdl = none := by
    intro segment hsegment
    unfold Segment.hwClosed
    split
    next => rfl
    next hnull => exact hsegment (not_not.mp hnull)
  cases slot with
  | frame j =>
      show ((d0Exit o a).1.screens j).frameSegment.mdl = none
      rw [d0Exit_screens]
      exact hclosed _ (hmapped (.frame j))
  | cursor j =>
      show ((d0Exit o a).1.screens j).cursorSegment.mdl = none
      rw [d0Exit_screens]
      exact hclosed _ (hmapped (.cursor j))

/-- What a call does to the account, and to the segments. -/
theorem CallStep.triple {a a' : Adapter} {s : Shared} {call : Call} {actions : List Action}
    {record : Record} (hcall : CallStep a s call a' actions record) (hmapped : a.SegmentsMapped)
    (hqueues : QueuesUnref a s call) :
    Triple a.InCustody (pageEvents actions) a'.InCustody := by
  have hidle : ∀ {a' : Adapter} {actions : List Action}, pageEvents actions = [] →
      a'.locks = a.locks → a'.shows = a.shows → a'.serial = a.serial →
      Triple a.InCustody (pageEvents actions) a'.InCustody := by
    intro a' actions hquiet hlocks hshows hserial
    rw [hquiet, Adapter.InCustody, Adapter.InCustody, hlocks, hshows, Adapter.unused,
      Adapter.unused, hserial]
    exact .nil fun g hcustody => hcustody
  cases hcall with
  | rejected => exact hidle rfl rfl rfl rfl
  | @mode c' status path r hrequest hmode =>
      have hstep := hmode.triple rfl (rfl : a.locks (.frame r.screen) = _)
        (rfl : a.shows (.frame r.screen) = _) (hqueues.1 r hrequest)
      rw [← Adapter.locks_withCtx_frame hmode.pointer.1, ← Adapter.shows_withCtx] at hstep
      exact hstep
  | getFbVAddr => exact hidle rfl rfl rfl rfl
  | blackOut k o mode _ _ =>
      refine hidle ?_ ?_ ?_ (blackOutScreen_serial ..)
      · rw [blackOutScreen_actions, pageEvents_append, pageEvents_blackOutActions]
        rfl
      · show (a.withCtx mode.targetId _).locks = a.locks
        rw [Adapter.locks_withCtx_frame (by simp), blackOutScreen_screen]
        exact Function.update_eq_self (Slot.frame mode.targetId) a.locks
      · show (a.withCtx mode.targetId _).shows = a.shows
        rw [Adapter.shows_withCtx, blackOutScreen_screen]
        exact Function.update_eq_self (Slot.frame mode.targetId) a.shows
  | release i o hcall =>
      have hstep : Triple a.InCustody (pageEvents (releaseFrameBuffer o i (a.ctx i)).actions) _ :=
        triple_releaseFrameBuffer rfl (rfl : a.locks (.frame i) = _)
          (rfl : a.shows (.frame i) = _) (hqueues.2 i o hcall)
      have hreleased := releaseFrameBuffer_released o i (a.ctx i)
      have hcursor : (releaseFrameBuffer o i (a.ctx i)).screen.cursorSegment =
          (a.screens i).cursorSegment := by simp [releaseFrameBuffer]
      have hlocks : (a.withCtx i (releaseFrameBuffer o i (a.ctx i))).locks =
          Function.update a.locks (.frame i) none := by
        rw [Adapter.locks_withCtx_frame hcursor, hreleased.frameSegment]
        rfl
      have hshows : (a.withCtx i (releaseFrameBuffer o i (a.ctx i))).shows =
          Function.update a.shows (.frame i) ∅ := by
        rw [Adapter.shows_withCtx, hreleased.front]
        congr 1
        ext resid
        simp [shownBy]
      rw [← hlocks, ← hshows] at hstep
      rw [Adapter.InCustody, Adapter.InCustody, Adapter.unused, Adapter.unused,
        Adapter.withCtx_serial, releaseFrameBuffer_serial]
      exact hstep
  | cursorData i shape format o _ =>
      have hpointer := setPointerShape_spec o a.blobSupported i shape format (a.ctx i)
      have hstep := hpointer.triple rfl (hmapped (.cursor i))
        (rfl : a.locks (.cursor i) = _) (rfl : a.shows (.cursor i) = _)
      have hshows : (a.withCtx i (setPointerShape o a.blobSupported i shape format
          (a.ctx i)).1).shows = a.shows := by
        rw [Adapter.shows_withCtx, hpointer.frame.front]
        exact Function.update_eq_self (Slot.frame i) a.shows
      rw [← Adapter.locks_withCtx_cursor hpointer.frame.frameSegment, ← hshows] at hstep
      rw [Adapter.InCustody, Adapter.InCustody, Adapter.unused, Adapter.unused,
        Adapter.withCtx_serial, hpointer.serial]
      rw [hshows] at hstep ⊢
      exact hstep
  | cursorPos i x y o _ =>
      obtain ⟨hsame, hserial, shown, hshown, hactions⟩ := setPointerPosition_spec o i (a.ctx i) x y
      refine hidle ?_ ?_ ?_ hserial
      · rw [hactions, pageEvents_append, pageEvents_cursor hshown]
        rfl
      · rw [Adapter.locks_withCtx_frame (by rw [hsame]; rfl), hsame]
        exact Function.update_eq_self (Slot.frame i) a.locks
      · rw [Adapter.shows_withCtx, hsame]
        exact Function.update_eq_self (Slot.frame i) a.shows
  | hotPlug st =>
      refine hidle rfl ?_ ?_ rfl
      · funext slot
        cases slot <;> rfl
      · funext slot
        cases slot <;> rfl
  | d0Exit o _ _ =>
      apply triple_d0Exit.weaken
      intro g hlent
      rw [Adapter.InCustody, funext (hmapped.d0Exit_locks o)]
      exact .of_reset hlent _ _
  | d0Entry => exact hidle rfl rfl rfl rfl

/-- A function that replaces one screen only has to speak of that screen. -/
theorem Adapter.SegmentsMapped.withCtx {a : Adapter} {i : ScreenId} {c : Ctx}
    (hmapped : a.SegmentsMapped)
    (hframe : c.screen.frameSegment.vAddr = 0 → c.screen.frameSegment.mdl = none)
    (hcursor : c.screen.cursorSegment.vAddr = 0 → c.screen.cursorSegment.mdl = none) :
    (a.withCtx i c).SegmentsMapped := by
  intro slot
  cases slot with
  | frame j =>
      show ((a.withCtx i c).screens j).frameSegment.vAddr = 0 →
        ((a.withCtx i c).screens j).frameSegment.mdl = none
      by_cases hj : j = i
      · subst hj
        rwa [Adapter.withCtx_screens_self]
      · rw [Adapter.withCtx_screens_of_ne hj]
        exact hmapped (.frame j)
  | cursor j =>
      show ((a.withCtx i c).screens j).cursorSegment.vAddr = 0 →
        ((a.withCtx i c).screens j).cursorSegment.mdl = none
      by_cases hj : j = i
      · subst hj
        rwa [Adapter.withCtx_screens_self]
      · rw [Adapter.withCtx_screens_of_ne hj]
        exact hmapped (.cursor j)

/-- Every call leaves locks only on memory. -/
theorem CallStep.segmentsMapped {a a' : Adapter} {s : Shared} {call : Call} {actions : List Action}
    {record : Record} (hcall : CallStep a s call a' actions record) (hmapped : a.SegmentsMapped) :
    a'.SegmentsMapped := by
  cases hcall with
  | rejected => exact hmapped
  | @mode c' status path r hrequest hmode =>
      apply hmapped.withCtx (hmode.mapped (hmapped (.frame r.screen)))
      rw [hmode.pointer.1]
      exact hmapped (.cursor r.screen)
  | getFbVAddr => exact hmapped
  | blackOut k o mode _ _ =>
      apply hmapped.withCtx
      · rw [blackOutScreen_screen]
        exact hmapped (.frame mode.targetId)
      · rw [blackOutScreen_screen]
        exact hmapped (.cursor mode.targetId)
  | release i o _ =>
      refine hmapped.withCtx (fun _ => ?_) ?_
      · rw [(releaseFrameBuffer_released o i _).frameSegment]
        rfl
      · rw [show (releaseFrameBuffer o i (a.ctx i)).screen.cursorSegment =
          (a.screens i).cursorSegment by simp [releaseFrameBuffer]]
        exact hmapped (.cursor i)
  | cursorData i shape format o _ =>
      have hpointer := setPointerShape_spec o a.blobSupported i shape format (a.ctx i)
      apply hmapped.withCtx
      · rw [hpointer.frame.frameSegment]
        exact hmapped (.frame i)
      · rw [hpointer.cursorSegment]
        unfold cursorUpdated
        split
        next haddr =>
          exact (Segment.init_relocked (hmapped (.cursor i) haddr)).mapped (hmapped (.cursor i))
        next => exact hmapped (.cursor i)
  | cursorPos i x y o _ =>
      apply hmapped.withCtx
      · rw [(setPointerPosition_spec o i (a.ctx i) x y).1]
        exact hmapped (.frame i)
      · rw [(setPointerPosition_spec o i (a.ctx i) x y).1]
        exact hmapped (.cursor i)
  | hotPlug st =>
      intro slot
      cases slot with
      | frame j => exact hmapped (.frame j)
      | cursor j => exact hmapped (.cursor j)
  | d0Exit o _ _ _ => exact fun slot _ => hmapped.d0Exit_locks o slot
  | d0Entry => exact hmapped

end VirtDisplay
