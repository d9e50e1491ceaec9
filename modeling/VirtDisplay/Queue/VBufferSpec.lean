/-
# What a step does to the buffers

A buffer that changes its place on a queue leaves the entries the same up to their
order, so the facts below are permutations and counts follow from them. The step
relation lists the steps with their guards; the invariants of the modules behind this
one are proved from it and never from the step function.
-/

import Mathlib.Data.List.Perm.Subperm
import VirtDisplay.Queue.VBuffers

namespace VirtDisplay

open Transition

namespace VirtQueue

variable {q q' : VirtQueue} {e : Entry} {k : Nat}

theorem entries_push (q : VirtQueue) (e : Entry) : (q.push e).entries.Perm (e :: q.entries) := by
  unfold push entries
  rw [List.append_assoc, List.append_assoc, List.append_assoc]
  exact List.perm_middle

theorem outstanding_push (q : VirtQueue) (e : Entry) :
    (q.push e).outstanding.Perm (e :: q.outstanding) := by
  unfold push outstanding
  rw [List.append_assoc]
  exact List.perm_middle

/-- A completion. -/
structure Completes (q : VirtQueue) (e : Entry) (q' : VirtQueue) : Prop where
  avail : q.avail.Perm (e :: q'.avail)
  used : q'.used = q.used ++ [e]
  taken : q'.taken = q.taken

/-- A buffer is dequeued. -/
structure Dequeues (q : VirtQueue) (e : Entry) (q' : VirtQueue) : Prop where
  avail : q'.avail = q.avail
  used : q.used = e :: q'.used
  taken : q'.taken = q.taken ++ [e]

/-- A DPC is done with a buffer. -/
structure Finishes (q : VirtQueue) (e : Entry) (q' : VirtQueue) : Prop where
  avail : q'.avail = q.avail
  used : q'.used = q.used
  taken : q.taken.Perm (e :: q'.taken)

theorem completes_of_complete (hcomplete : q.complete k = some (e, q')) :
    q.avail[k]? = some e ∧ Completes q e q' := by
  obtain ⟨e', hget, heq⟩ := Option.map_eq_some_iff.mp hcomplete
  obtain ⟨rfl, rfl⟩ := Prod.mk.inj heq
  exact ⟨hget, perm_cons_eraseIdx hget, rfl, rfl⟩

theorem dequeues_of_dequeue (hdequeue : q.dequeue = some (e, q')) : Dequeues q e q' := by
  unfold dequeue at hdequeue
  split at hdequeue
  next => cases hdequeue
  next first rest hused =>
    obtain ⟨rfl, rfl⟩ := Prod.mk.inj (Option.some.inj hdequeue)
    exact ⟨rfl, hused, rfl⟩

theorem finishes_of_finish (hfinish : q.finish k = some (e, q')) :
    q.taken[k]? = some e ∧ Finishes q e q' := by
  obtain ⟨e', hget, heq⟩ := Option.map_eq_some_iff.mp hfinish
  obtain ⟨rfl, rfl⟩ := Prod.mk.inj heq
  exact ⟨hget, rfl, rfl, perm_cons_eraseIdx hget⟩

theorem Completes.outstanding (h : Completes q e q') : q'.outstanding.Perm q.outstanding := by
  unfold VirtQueue.outstanding
  rw [h.used, ← List.append_assoc]
  exact (List.perm_append_singleton e _).trans (h.avail.symm.append_right q.used)

theorem Completes.entries (h : Completes q e q') : q'.entries.Perm q.entries := by
  have houtstanding := h.outstanding
  unfold VirtQueue.outstanding at houtstanding
  unfold VirtQueue.entries
  rw [h.taken]
  exact houtstanding.append_right _

theorem Dequeues.outstanding (h : Dequeues q e q') : q.outstanding.Perm (e :: q'.outstanding) := by
  unfold VirtQueue.outstanding
  rw [h.used, h.avail]
  exact List.perm_middle

theorem Dequeues.entries (h : Dequeues q e q') : q'.entries.Perm q.entries := by
  unfold VirtQueue.entries
  rw [h.used, h.avail, h.taken, ← List.append_assoc]
  exact (List.perm_append_singleton e _).trans (List.perm_middle.symm.append_right q.taken)

theorem Finishes.outstanding (h : Finishes q e q') : q'.outstanding = q.outstanding := by
  unfold VirtQueue.outstanding
  rw [h.used, h.avail]

theorem Finishes.entries (h : Finishes q e q') : q.entries.Perm (e :: q'.entries) := by
  unfold VirtQueue.entries
  rw [h.used, h.avail]
  exact (h.taken.append_left _).trans List.perm_middle

theorem Finishes.entries_subperm (h : Finishes q e q') : q'.entries.Subperm q.entries :=
  (List.sublist_cons_self e _).subperm.trans h.entries.symm.subperm

end VirtQueue

namespace VBuffers

section

variable (s : VBuffers) (id : QueueId) (q : VirtQueue) (e : Entry) (b : Option BufId)

@[simp] theorem setQueue_pool : (s.setQueue id q).pool = s.pool := by cases id <;> rfl
@[simp] theorem setQueue_signalled :
    (s.setQueue id q).signalled = s.signalled := by cases id <;> rfl
@[simp] theorem setQueue_drafts : (s.setQueue id q).drafts = s.drafts := by cases id <;> rfl
@[simp] theorem setQueue_asker : (s.setQueue id q).asker = s.asker := by cases id <;> rfl
@[simp] theorem setQueue_nextTicket : (s.setQueue id q).nextTicket = s.nextTicket := by
  cases id <;> rfl
@[simp] theorem setQueue_dequeued : (s.setQueue id q).dequeued = s.dequeued := by cases id <;> rfl
@[simp] theorem setQueue_frees : (s.setQueue id q).frees = s.frees := by cases id <;> rfl
@[simp] theorem setQueue_wakes : (s.setQueue id q).wakes = s.wakes := by cases id <;> rfl

@[simp] theorem setQueue_queue : s.setQueue id (s.queue id) = s := by cases id <;> rfl

/-- A release changes the pool and the log, and nothing on the queues. -/
theorem release_eq : ∃ pool frees hung,
    s.release b = { s with pool := pool, frees := frees, hung := hung } := by
  unfold release
  dsimp only
  split
  next => exact ⟨s.pool, _, true, rfl⟩
  next pool _ => exact ⟨pool, _, s.hung, rfl⟩

@[simp] theorem release_ctrl : (s.release b).ctrl = s.ctrl := by
  obtain ⟨_, _, _, heq⟩ := s.release_eq b; rw [heq]
@[simp] theorem release_cursor : (s.release b).cursor = s.cursor := by
  obtain ⟨_, _, _, heq⟩ := s.release_eq b; rw [heq]
@[simp] theorem release_entries : (s.release b).entries = s.entries := by simp [entries]
@[simp] theorem release_outstanding : (s.release b).outstanding = s.outstanding := by
  simp [outstanding]
@[simp] theorem release_signalled : (s.release b).signalled = s.signalled := by
  obtain ⟨_, _, _, heq⟩ := s.release_eq b; rw [heq]
@[simp] theorem release_drafts : (s.release b).drafts = s.drafts := by
  obtain ⟨_, _, _, heq⟩ := s.release_eq b; rw [heq]
@[simp] theorem release_asker : (s.release b).asker = s.asker := by
  obtain ⟨_, _, _, heq⟩ := s.release_eq b; rw [heq]
@[simp] theorem release_nextTicket : (s.release b).nextTicket = s.nextTicket := by
  obtain ⟨_, _, _, heq⟩ := s.release_eq b; rw [heq]
@[simp] theorem release_dequeued : (s.release b).dequeued = s.dequeued := by
  obtain ⟨_, _, _, heq⟩ := s.release_eq b; rw [heq]
@[simp] theorem release_wakes : (s.release b).wakes = s.wakes := by
  obtain ⟨_, _, _, heq⟩ := s.release_eq b; rw [heq]

/-- A release leaves what the buffers say. -/
theorem release_mem (b' : BufId) :
    ((s.release b).pool.mem b').event = (s.pool.mem b').event ∧
      ((s.release b).pool.mem b').response = (s.pool.mem b').response := by
  unfold release
  dsimp only
  split
  next => exact ⟨rfl, rfl⟩
  next pool hfree =>
    cases b with
    | none => cases hfree
    | some b =>
        have hfrees := VioGpuBuf.freeBuf_frees hfree
        exact ⟨hfrees.event b', hfrees.response b'⟩

end

section

variable {s : VBuffers} {id : QueueId} {q : VirtQueue} (f : VirtQueue → List Entry)
  (added : List Entry)

/-- A change of one queue, seen on both: entries come. -/
theorem perm_setQueue (hperm : (f q).Perm (added ++ f (s.queue id))) :
    (f (s.setQueue id q).ctrl ++ f (s.setQueue id q).cursor).Perm
      (added ++ (f s.ctrl ++ f s.cursor)) := by
  cases id with
  | ctrl => exact (hperm.append_right _).trans (List.append_assoc ..  ▸ .refl _)
  | cursor =>
      apply (hperm.append_left _).trans
      rw [← List.append_assoc, ← List.append_assoc]
      exact List.perm_append_comm.append_right _

/-- A change of one queue, seen on both: entries go. -/
theorem setQueue_perm (hperm : (f (s.queue id)).Perm (added ++ f q)) :
    (f s.ctrl ++ f s.cursor).Perm
      (added ++ (f (s.setQueue id q).ctrl ++ f (s.setQueue id q).cursor)) := by
  cases id with
  | ctrl => exact (hperm.append_right _).trans (List.append_assoc .. ▸ .refl _)
  | cursor =>
      apply (hperm.append_left _).trans
      rw [← List.append_assoc, ← List.append_assoc]
      exact List.perm_append_comm.append_right _

/-- Entries that one queue loses or moves. -/
theorem entries_setQueue_subperm (hentries : q.entries.Subperm (s.queue id).entries) :
    (s.setQueue id q).entries.Subperm s.entries := by
  cases id with
  | ctrl => exact hentries.append (List.Subperm.refl _)
  | cursor => exact (List.Subperm.refl _).append hentries

end

/-- The steps, with what each requires. -/
inductive Step (s : VBuffers) : Label → VBuffers → Prop
  | askFailed {event : EventId} {allocates : Bool} (hidle : s.asker = none)
      (hnone : allocates = false ∨ s.pool.freeBufs = []) :
      Step s (.ask event allocates) (s.askFailed event)
  | asked {event : EventId} {allocates : Bool} {b : BufId} {pool : VioGpuBuf}
      (hidle : s.asker = none) (hgets : VioGpuBuf.Gets event.respSize s.pool b pool) :
      Step s (.ask event allocates)
        { s with
          pool := pool
          asker := some ⟨.filling, b, event, s.nextTicket⟩
          nextTicket := s.nextTicket + 1 }
  | armed {b : BufId} {event : EventId} {ticket : Nat}
      (hasker : s.asker = some ⟨.filling, b, event, ticket⟩) :
      Step s .arm
        { s with
          pool := s.pool.write b fun v => { v with event := some event }
          signalled := Function.update s.signalled event false
          asker := some ⟨.armed, b, event, ticket⟩ }
  | queued {accepted : Bool} {b : BufId} {event : EventId} {ticket : Nat}
      (hasker : s.asker = some ⟨.armed, b, event, ticket⟩) :
      Step s (.queueAsk accepted)
        { s with
          ctrl := if accepted then s.ctrl.push ⟨b, ticket, some event⟩ else s.ctrl
          asker := some ⟨.waiting, b, event, ticket⟩ }
  | woken {b : BufId} {event : EventId} {ticket : Nat}
      (hasker : s.asker = some ⟨.waiting, b, event, ticket⟩) (hset : s.signalled event = true) :
      Step s .wake
        { s with
          asker := some ⟨.woken, b, event, ticket⟩
          wakes := ⟨ticket, ticket ∈ s.dequeued⟩ :: s.wakes }
  | expired {b : BufId} {event : EventId} {ticket : Nat}
      (hasker : s.asker = some ⟨.waiting, b, event, ticket⟩) :
      Step s .timeout { s with asker := some ⟨.woken, b, event, ticket⟩ }
  | released {b : BufId} {event : EventId} {ticket : Nat}
      (hasker : s.asker = some ⟨.woken, b, event, ticket⟩) :
      Step s .releaseAsk ({ s with asker := none }.release (some b))
  | dry {respSize dataSize : Nat} : Step s (.alloc respSize dataSize) s
  | drafted {respSize dataSize : Nat} {b : BufId} {pool : VioGpuBuf}
      (hgets : VioGpuBuf.Gets respSize s.pool b pool) :
      Step s (.alloc respSize dataSize)
        { s with
          pool := pool.write b fun v => { v with dataSize := dataSize }
          drafts := s.drafts ++ [b] }
  | sent {k : Nat} {id : QueueId} {accepted : Bool} {b : BufId}
      (hdraft : s.drafts.Perm (b :: s.drafts.eraseIdx k)) :
      Step s (.send k id accepted)
        { s.setQueue id
            (if accepted then (s.queue id).push ⟨b, s.nextTicket, none⟩ else s.queue id) with
          drafts := s.drafts.eraseIdx k
          nextTicket := s.nextTicket + 1 }
  | completed {id : QueueId} {k : Nat} {e : Entry} {q : VirtQueue}
      (hget : (s.queue id).avail[k]? = some e) (hcompletes : (s.queue id).Completes e q) :
      Step s (.complete id k) ((s.setQueue id q).respond id e)
  | dequeued {id : QueueId} {e : Entry} {q : VirtQueue} (hdequeues : (s.queue id).Dequeues e q) :
      Step s (.dequeue id) { s.setQueue id q with dequeued := e.ticket :: s.dequeued }
  | handled {id : QueueId} {k : Nat} {e : Entry} {q : VirtQueue}
      (hget : (s.queue id).taken[k]? = some e) (hfinishes : (s.queue id).Finishes e q) :
      Step s (.handle id k) ((s.setQueue id q).handleEntry id e)
  | powerCycled : Step s .powerCycle { s with ctrl := .empty, cursor := .empty }

/-- The step function takes no other step. -/
theorem step_spec {s s' : VBuffers} {label : Label} (hstep : s.step label = some s') :
    Step s label s' := by
  cases label with
  | ask event allocates =>
      simp only [step] at hstep
      split at hstep
      next => cases hstep
      next hidle =>
        split at hstep
        next hnone =>
          obtain rfl := Option.some.inj hstep
          refine .askFailed (not_not.mp hidle) ?_
          split at hnone
          next =>
            unfold VioGpuBuf.getBuf at hnone
            split at hnone
            next hempty => exact .inr hempty
            next => cases hnone
          next hcond =>
            simp only [Bool.or_eq_true, Bool.not_eq_true', not_or, Bool.not_eq_true] at hcond
            exact .inl hcond.1
        next b pool hget =>
          obtain rfl := Option.some.inj hstep
          split at hget
          next => exact .asked (not_not.mp hidle) (VioGpuBuf.getBuf_gets hget)
          next => cases hget
  | arm =>
      simp only [step] at hstep
      split at hstep
      next hasker =>
        obtain rfl := Option.some.inj hstep
        exact .armed hasker
      next => cases hstep
  | queueAsk accepted =>
      simp only [step] at hstep
      split at hstep
      next hasker =>
        obtain rfl := Option.some.inj hstep
        exact .queued hasker
      next => cases hstep
  | wake =>
      simp only [step] at hstep
      split at hstep
      next hasker =>
        split at hstep
        next hset =>
          obtain rfl := Option.some.inj hstep
          exact .woken hasker hset
        next => cases hstep
      next => cases hstep
  | timeout =>
      simp only [step] at hstep
      split at hstep
      next hasker =>
        split at hstep
        next => cases hstep
        next =>
          obtain rfl := Option.some.inj hstep
          exact .expired hasker
      next => cases hstep
  | releaseAsk =>
      simp only [step] at hstep
      split at hstep
      next hasker =>
        obtain rfl := Option.some.inj hstep
        exact .released hasker
      next => cases hstep
  | alloc respSize dataSize =>
      simp only [step] at hstep
      split at hstep
      next =>
        obtain rfl := Option.some.inj hstep
        exact .dry
      next hget =>
        obtain rfl := Option.some.inj hstep
        exact .drafted (VioGpuBuf.getBuf_gets hget)
  | send k id accepted =>
      obtain ⟨b, hget, rfl⟩ := Option.map_eq_some_iff.mp hstep
      exact .sent (perm_cons_eraseIdx hget)
  | complete id k =>
      obtain ⟨⟨e, q⟩, hcomplete, rfl⟩ := Option.map_eq_some_iff.mp hstep
      obtain ⟨hget, hcompletes⟩ := VirtQueue.completes_of_complete hcomplete
      exact .completed hget hcompletes
  | dequeue id =>
      obtain ⟨⟨e, q⟩, hdequeue, rfl⟩ := Option.map_eq_some_iff.mp hstep
      exact .dequeued (VirtQueue.dequeues_of_dequeue hdequeue)
  | handle id k =>
      obtain ⟨⟨e, q⟩, hfinish, rfl⟩ := Option.map_eq_some_iff.mp hstep
      obtain ⟨hget, hfinishes⟩ := VirtQueue.finishes_of_finish hfinish
      exact .handled hget hfinishes
  | powerCycle =>
      simp only [step] at hstep
      split at hstep
      next =>
        obtain rfl := Option.some.inj hstep
        exact .powerCycled
      next => cases hstep

/-- A step of the system is a step from a state in which no `FreeBuf` hangs. -/
theorem system_spec {s s' : VBuffers} {label : Label} (hstep : system.step s label = some s') :
    s.hung = false ∧ Step s label s' := by
  simp only [system] at hstep
  split at hstep
  next => cases hstep
  next hhung => exact ⟨Bool.not_eq_true _ ▸ hhung, step_spec hstep⟩

/-- Every entry has a number of its own, and the number of the call that waits is the
number of no entry but the one it queued. -/
structure Numbered (s : VBuffers) : Prop where
  nodup : (s.entries.map Entry.ticket).Nodup
  below : ∀ e ∈ s.entries, e.ticket < s.nextTicket
  asker_below : ∀ a, s.asker = some a → a.ticket < s.nextTicket
  unqueued : ∀ a, s.asker = some a → a.stage = .filling ∨ a.stage = .armed →
    ∀ e ∈ s.entries, e.ticket ≠ a.ticket
  own : ∀ a, s.asker = some a → ∀ e ∈ s.entries, e.ticket = a.ticket →
    e.buf = a.buf ∧ e.waitsOn = some a.event

variable {s s' : VBuffers} {label : Label}

theorem numbered_start (pool : VioGpuBuf) : (start pool).Numbered where
  nodup := List.nodup_nil
  below e hmem := by cases hmem
  asker_below a ha := by cases ha
  unqueued a ha := by cases ha
  own a ha := by cases ha

/-- Entries that go or change places take no number. -/
theorem Numbered.subperm (hnumbered : s.Numbered) (hentries : s'.entries.Subperm s.entries)
    (hasker : s'.asker = s.asker) (hnext : s'.nextTicket = s.nextTicket) : s'.Numbered := by
  have hsubset := hentries.subset
  obtain ⟨kept, hkept, hsublist⟩ := hentries
  refine ⟨?_, ?_, ?_, ?_, ?_⟩
  · exact (hkept.map _).nodup_iff.mp ((hsublist.map _).nodup hnumbered.nodup)
  · rw [hnext]
    exact fun e hmem => hnumbered.below e (hsubset hmem)
  · rw [hasker, hnext]
    exact hnumbered.asker_below
  · rw [hasker]
    exact fun a ha hstage e hmem => hnumbered.unqueued a ha hstage e (hsubset hmem)
  · rw [hasker]
    exact fun a ha e hmem => hnumbered.own a ha e (hsubset hmem)

/-- The call that waits moves on, with nothing newly queued. -/
theorem Numbered.move {a a' : Asker} (hnumbered : s.Numbered) (ha : s.asker = some a)
    (ha' : s'.asker = some a') (hsame : a'.buf = a.buf ∧ a'.event = a.event ∧ a'.ticket = a.ticket)
    (hstage : a'.stage = .filling ∨ a'.stage = .armed → a.stage = .filling ∨ a.stage = .armed)
    (hentries : s'.entries = s.entries) (hnext : s'.nextTicket = s.nextTicket) : s'.Numbered := by
  obtain ⟨hbuf, hevent, hticket⟩ := hsame
  refine ⟨?_, ?_, ?_, ?_, ?_⟩
  · rw [hentries]
    exact hnumbered.nodup
  · rw [hentries, hnext]
    exact hnumbered.below
  · intro x hx
    obtain rfl := Option.some.inj (ha'.symm.trans hx)
    rw [hticket, hnext]
    exact hnumbered.asker_below a ha
  · intro x hx hunqueued
    obtain rfl := Option.some.inj (ha'.symm.trans hx)
    rw [hticket, hentries]
    exact hnumbered.unqueued a ha (hstage hunqueued)
  · intro x hx
    obtain rfl := Option.some.inj (ha'.symm.trans hx)
    rw [hticket, hentries, hbuf, hevent]
    exact hnumbered.own a ha

/-- The numbers of the entries a command joins under a number of its own. -/
theorem nodup_ticket_cons {entries : List Entry} {e : Entry}
    (hnodup : (s.entries.map Entry.ticket).Nodup) (hentries : entries.Perm (e :: s.entries))
    (hfresh : ∀ e' ∈ s.entries, e'.ticket ≠ e.ticket) : (entries.map Entry.ticket).Nodup := by
  refine (hentries.map Entry.ticket).nodup_iff.mpr (List.nodup_cons.mpr ⟨fun hmem => ?_, hnodup⟩)
  obtain ⟨e', hmem', heq⟩ := List.mem_map.mp hmem
  exact hfresh e' hmem' heq

/-- A command of nobody in particular takes the next number, whether or not the queue
takes its buffer. -/
theorem Numbered.send (hnumbered : s.Numbered) (hasker : s'.asker = s.asker)
    (hnext : s'.nextTicket = s.nextTicket + 1)
    (hentries : s'.entries = s.entries ∨
      ∃ b, s'.entries.Perm (⟨b, s.nextTicket, none⟩ :: s.entries)) : s'.Numbered := by
  rcases hentries with hentries | ⟨b, hentries⟩
  · refine ⟨hentries ▸ hnumbered.nodup, ?_, ?_, ?_, ?_⟩
    · rw [hentries, hnext]
      exact fun e hmem => Nat.lt_succ_of_lt (hnumbered.below e hmem)
    · rw [hasker, hnext]
      exact fun a ha => Nat.lt_succ_of_lt (hnumbered.asker_below a ha)
    · rw [hasker, hentries]
      exact hnumbered.unqueued
    · rw [hasker, hentries]
      exact hnumbered.own
  · have hfresh : ∀ e ∈ s.entries, e.ticket ≠ s.nextTicket :=
      fun e hmem => Nat.ne_of_lt (hnumbered.below e hmem)
    have hcases : ∀ e ∈ s'.entries, e = ⟨b, s.nextTicket, none⟩ ∨ e ∈ s.entries :=
      fun e hmem => List.mem_cons.mp (hentries.mem_iff.mp hmem)
    refine ⟨nodup_ticket_cons hnumbered.nodup hentries hfresh, ?_, ?_, ?_, ?_⟩
    · rw [hnext]
      intro e hmem
      rcases hcases e hmem with rfl | hmem
      · exact Nat.lt_succ_self _
      · exact Nat.lt_succ_of_lt (hnumbered.below e hmem)
    · rw [hasker, hnext]
      exact fun a ha => Nat.lt_succ_of_lt (hnumbered.asker_below a ha)
    · rw [hasker]
      intro a ha hstage e hmem
      rcases hcases e hmem with rfl | hmem
      · exact (Nat.ne_of_lt (hnumbered.asker_below a ha)).symm
      · exact hnumbered.unqueued a ha hstage e hmem
    · rw [hasker]
      intro a ha e hmem heq
      rcases hcases e hmem with rfl | hmem
      · exact absurd heq (Nat.ne_of_lt (hnumbered.asker_below a ha)).symm
      · exact hnumbered.own a ha e hmem heq

/-- The call that waits queues its buffer under the number that it has. -/
theorem Numbered.queued {b : BufId} {event : EventId} {ticket : Nat} (hnumbered : s.Numbered)
    (hasker : s.asker = some ⟨.armed, b, event, ticket⟩) :
    Numbered
      { s with
        ctrl := s.ctrl.push ⟨b, ticket, some event⟩
        asker := some ⟨.waiting, b, event, ticket⟩ } := by
  have hbelow : ticket < s.nextTicket := hnumbered.asker_below _ hasker
  have hfresh : ∀ e ∈ s.entries, e.ticket ≠ ticket := hnumbered.unqueued _ hasker (.inr rfl)
  have hentries : ((s.ctrl.push ⟨b, ticket, some event⟩).entries ++ s.cursor.entries).Perm
      (⟨b, ticket, some event⟩ :: s.entries) :=
    (s.ctrl.entries_push _).append_right _
  refine ⟨nodup_ticket_cons hnumbered.nodup hentries hfresh, ?_, ?_, ?_, ?_⟩
  · intro e hmem
    rcases List.mem_cons.mp (hentries.mem_iff.mp hmem) with rfl | hmem
    · exact hbelow
    · exact hnumbered.below e hmem
  · rintro a ⟨⟩
    exact hbelow
  · rintro a ⟨⟩ (h | h) <;> cases h
  · rintro a ⟨⟩ e hmem heq
    rcases List.mem_cons.mp (hentries.mem_iff.mp hmem) with rfl | hmem
    · exact ⟨rfl, rfl⟩
    · exact absurd heq (hfresh e hmem)

theorem Numbered.release (hnumbered : s.Numbered) (b : Option BufId) : (s.release b).Numbered :=
  hnumbered.subperm (List.Perm.of_eq (release_entries ..)).subperm (release_asker ..)
    (release_nextTicket ..)

/-- A queue loses entries or moves them. -/
theorem Numbered.setQueue {id : QueueId} {q : VirtQueue} (hnumbered : s.Numbered)
    (hentries : q.entries.Subperm (s.queue id).entries) : (s.setQueue id q).Numbered :=
  hnumbered.subperm (entries_setQueue_subperm hentries) (setQueue_asker ..)
    (setQueue_nextTicket ..)

theorem Step.numbered (hstep : Step s label s') (hnumbered : s.Numbered) : s'.Numbered := by
  have hsame : ∀ {after : VBuffers}, after.entries = s.entries → after.asker = s.asker →
      after.nextTicket = s.nextTicket → after.Numbered :=
    fun hentries => hnumbered.subperm (hentries ▸ List.Subperm.refl _)
  cases hstep with
  | @askFailed event allocates hidle hnone =>
      cases event with
      | edid i => exact hnumbered.release none
      | displayInfo i => exact hnumbered
      | flush i => exact hnumbered
  | asked hidle hgets =>
      refine ⟨hnumbered.nodup, ?_, ?_, ?_, ?_⟩
      · exact fun e hmem => Nat.lt_succ_of_lt (hnumbered.below e hmem)
      · rintro a ⟨⟩
        exact Nat.lt_succ_self _
      · rintro a ⟨⟩ - e hmem
        exact Nat.ne_of_lt (hnumbered.below e hmem)
      · rintro a ⟨⟩ e hmem heq
        exact absurd heq (Nat.ne_of_lt (hnumbered.below e hmem))
  | armed hasker => exact hnumbered.move hasker rfl ⟨rfl, rfl, rfl⟩ (fun _ => .inl rfl) rfl rfl
  | @queued accepted b event ticket hasker =>
      cases accepted with
      | false =>
          refine hnumbered.move hasker rfl ⟨rfl, rfl, rfl⟩ ?_ rfl rfl
          rintro (h | h) <;> cases h
      | true => exact hnumbered.queued hasker
  | woken hasker hset =>
      refine hnumbered.move hasker rfl ⟨rfl, rfl, rfl⟩ ?_ rfl rfl
      rintro (h | h) <;> cases h
  | expired hasker =>
      refine hnumbered.move hasker rfl ⟨rfl, rfl, rfl⟩ ?_ rfl rfl
      rintro (h | h) <;> cases h
  | released hasker =>
      have hidle : { s with asker := none }.Numbered :=
        ⟨hnumbered.nodup, hnumbered.below, nofun, nofun, nofun⟩
      exact hidle.release _
  | dry => exact hnumbered
  | drafted hgets => exact hsame rfl rfl rfl
  | @sent k id accepted b hdraft =>
      refine hnumbered.send (setQueue_asker ..) rfl ?_
      cases accepted with
      | false => exact .inl (by cases id <;> rfl)
      | true =>
          exact .inr ⟨b, perm_setQueue VirtQueue.entries [_]
            ((s.queue id).entries_push _)⟩
  | @completed id k e q hget hcompletes =>
      have hmoved := hnumbered.setQueue hcompletes.entries.subperm
      cases id with
      | cursor => exact hmoved
      | ctrl => exact ⟨hmoved.nodup, hmoved.below, hmoved.asker_below, hmoved.unqueued, hmoved.own⟩
  | dequeued hdequeues =>
      have hmoved := hnumbered.setQueue hdequeues.entries.subperm
      exact ⟨hmoved.nodup, hmoved.below, hmoved.asker_below, hmoved.unqueued, hmoved.own⟩
  | handled hget hfinishes =>
      have hmoved := hnumbered.setQueue hfinishes.entries_subperm
      unfold handleEntry
      split
      · exact ⟨hmoved.nodup, hmoved.below, hmoved.asker_below, hmoved.unqueued, hmoved.own⟩
      · exact hmoved.release _
  | powerCycled => exact hnumbered.subperm List.nil_subperm rfl rfl

end VBuffers

end VirtDisplay
