/-
# Whose answer a wait ends with

The DPC finds the event to set through the pointer left in the buffer, so it sets the
right one only as long as that pointer is the one the command was queued with. A call
that gives up leaves a command behind whose completion is still handled later, through
a buffer that may name the event of a later call by then.

The guard below rules out just the steps that mix two commands up: a completion
handled while its buffer names the event of another command's call, and a write to the
buffer of a call by another command.
-/

import VirtDisplay.Queue.VBufferSpec

namespace VirtDisplay

open Transition

namespace Asker

/-- The call waits, or is about to. -/
def Awaits (a : Asker) : Prop := a.stage = .armed ∨ a.stage = .waiting

/-- The call has queued its buffer and still has it. -/
def Reads (a : Asker) : Prop := a.stage = .waiting ∨ a.stage = .woken

instance (a : Asker) : Decidable a.Awaits := inferInstanceAs (Decidable (_ ∨ _))
instance (a : Asker) : Decidable a.Reads := inferInstanceAs (Decidable (_ ∨ _))

end Asker

namespace VBuffers

/-- Every wait that ended with its event ended after the completion of its own buffer
was dequeued, and as long as the call keeps the buffer it finds its own response there. -/
def WakesOwn (s : VBuffers) : Prop :=
  (∀ w ∈ s.wakes, w.dequeued = true) ∧
    ∀ a, s.asker = some a → a.stage = .woken → (∃ w ∈ s.wakes, w.ticket = a.ticket) →
      (s.pool.mem a.buf).response = some a.ticket

/-- No command but its own sets the event of a call or writes to its buffer: none is
handled whose buffer names the event, none is answered in the buffer, and `GetBuf` does
not hand the buffer out. -/
def KeptApart (s : VBuffers) : Label → Prop
  | .handle .ctrl k => ∀ e ∈ s.ctrl.taken[k]?, ∀ a ∈ s.asker, a.Awaits →
      (s.pool.mem e.buf).event = some a.event → e.ticket = a.ticket
  | .complete .ctrl k => ∀ e ∈ s.ctrl.avail[k]?, ∀ a ∈ s.asker, a.Reads →
      e.buf = a.buf → e.ticket = a.ticket
  | .alloc _ _ => ∀ a ∈ s.asker, a.Reads → s.pool.freeBufs.head? ≠ some a.buf
  | _ => True

instance (s : VBuffers) (label : Label) : Decidable (s.KeptApart label) :=
  match label with
  | .handle .ctrl _ | .complete .ctrl _ | .alloc _ _ => inferInstanceAs (Decidable (∀ _ ∈ _, _))
  | .handle .cursor _ | .complete .cursor _ | .ask _ _ | .arm | .queueAsk _ | .wake | .timeout
  | .releaseAsk | .send _ _ _ | .dequeue _ | .powerCycle => inferInstanceAs (Decidable True)

/-- What holds while commands are kept apart: the event of a call is set only by its own
completion, and from its completion on the buffer of a call holds its own response. -/
structure Matched (s : VBuffers) : Prop where
  numbered : s.Numbered
  taken : ∀ e ∈ s.ctrl.taken, e.ticket ∈ s.dequeued
  silent : ∀ a, s.asker = some a → a.stage = .armed → s.signalled a.event = false
  answered : ∀ a, s.asker = some a → a.Reads → ∀ e ∈ s.ctrl.used ++ s.ctrl.taken,
    e.ticket = a.ticket → (s.pool.mem a.buf).response = some a.ticket
  heard : ∀ a, s.asker = some a → a.stage = .waiting → s.signalled a.event = true →
    a.ticket ∈ s.dequeued ∧ (s.pool.mem a.buf).response = some a.ticket
  fresh : ∀ w ∈ s.wakes, w.ticket < s.nextTicket ∧
    ∀ a, s.asker = some a → a.stage ≠ .woken → w.ticket ≠ a.ticket
  own : s.WakesOwn

theorem matched_start (pool : VioGpuBuf) : (start pool).Matched where
  numbered := numbered_start pool
  taken e hmem := by cases hmem
  silent a ha := by cases ha
  answered a ha := by cases ha
  heard a ha := by cases ha
  fresh w hmem := by cases hmem
  own := by
    refine ⟨fun w hmem => ?_, fun a ha => ?_⟩
    · cases hmem
    · cases ha

variable {s s' : VBuffers} {label : Label}

/-- Releasing a buffer leaves events, queues and responses alone. -/
theorem Matched.release (hmatched : s.Matched) (b : Option BufId) : (s.release b).Matched where
  numbered := hmatched.numbered.release b
  taken := by simpa using hmatched.taken
  silent := by simpa using hmatched.silent
  answered a ha hreads e hmem heq := by
    rw [(s.release_mem b a.buf).2]
    exact hmatched.answered a (by simpa using ha) hreads e (by simpa using hmem) heq
  heard a ha hstage hset := by
    rw [(s.release_mem b a.buf).2, release_dequeued]
    exact hmatched.heard a (by simpa using ha) hstage (by simpa using hset)
  fresh := by simpa using hmatched.fresh
  own := by
    refine ⟨by simpa using hmatched.own.1, fun a ha hstage hwake => ?_⟩
    rw [(s.release_mem b a.buf).2]
    exact hmatched.own.2 a (by simpa using ha) hstage (by simpa using hwake)

/-- Steps that leave the call alone, and change its buffer's response only to its own. -/
theorem Matched.of_kept (hmatched : s.Matched) (hnumbered : s'.Numbered)
    (hasker : s'.asker = s.asker) (hsignalled : s'.signalled = s.signalled)
    (hwakes : s'.wakes = s.wakes) (hnext : s.nextTicket ≤ s'.nextTicket)
    (hdequeued : ∀ ticket ∈ s.dequeued, ticket ∈ s'.dequeued)
    (htaken : ∀ e ∈ s'.ctrl.taken, e.ticket ∈ s'.dequeued)
    (hanswered : ∀ a, s.asker = some a → a.Reads → ∀ e ∈ s'.ctrl.used ++ s'.ctrl.taken,
      e.ticket = a.ticket → (s'.pool.mem a.buf).response = some a.ticket)
    (hresponse : ∀ a, s.asker = some a → a.Reads →
      (s.pool.mem a.buf).response = some a.ticket →
        (s'.pool.mem a.buf).response = some a.ticket) : s'.Matched := by
  refine ⟨hnumbered, htaken, ?_, ?_, ?_, ?_, ?_, ?_⟩
  · rw [hasker, hsignalled]
    exact hmatched.silent
  · rw [hasker]
    exact hanswered
  · rw [hasker, hsignalled]
    intro a ha hstage hset
    obtain ⟨hmem, hown⟩ := hmatched.heard a ha hstage hset
    exact ⟨hdequeued _ hmem, hresponse a ha (.inl hstage) hown⟩
  · rw [hwakes, hasker]
    exact fun w hmem => (hmatched.fresh w hmem).imp_left fun hlt => Nat.lt_of_lt_of_le hlt hnext
  · rw [hwakes]
    exact hmatched.own.1
  · rw [hasker, hwakes]
    exact fun a ha hstage hwake =>
      hresponse a ha (.inr hstage) (hmatched.own.2 a ha hstage hwake)

/-- A DPC sets the event of the call only for its own command. -/
theorem Matched.signal {e : Entry} {event : EventId} (hmatched : s.Matched)
    (hmem : e ∈ s.ctrl.taken)
    (hown : ∀ a, s.asker = some a → a.Awaits → event = a.event → e.ticket = a.ticket) :
    { s with signalled := Function.update s.signalled event true }.Matched := by
  refine ⟨⟨hmatched.numbered.nodup, hmatched.numbered.below, hmatched.numbered.asker_below,
    hmatched.numbered.unqueued, hmatched.numbered.own⟩, hmatched.taken, ?_, hmatched.answered, ?_,
    hmatched.fresh, hmatched.own⟩
  · intro a ha hstage
    by_cases heq : event = a.event
    · -- nothing of this call is queued yet
      have hentry : e ∈ s.entries := List.mem_append_left _ (List.mem_append_right _ hmem)
      exact absurd (hown a ha (.inl hstage) heq)
        (hmatched.numbered.unqueued a ha (.inr hstage) e hentry)
    · exact (Function.update_of_ne (Ne.symm heq) ..).trans (hmatched.silent a ha hstage)
  · intro a ha hstage hset
    by_cases heq : event = a.event
    · have hticket := hown a ha (.inr hstage) heq
      refine ⟨hticket ▸ hmatched.taken e hmem, ?_⟩
      exact hmatched.answered a ha (.inl hstage) e (List.mem_append_right _ hmem) hticket
    · have hkept : s.signalled a.event = true :=
        (Function.update_of_ne (Ne.symm heq) true s.signalled).symm.trans hset
      exact hmatched.heard a ha hstage hkept

/-- A DPC is done with a buffer. -/
theorem Matched.finish {id : QueueId} {e : Entry} {q : VirtQueue} (hmatched : s.Matched)
    (hfinishes : (s.queue id).Finishes e q) : (s.setQueue id q).Matched := by
  have hrings : (s.setQueue id q).ctrl.used = s.ctrl.used ∧
      ∀ e' ∈ (s.setQueue id q).ctrl.taken, e' ∈ s.ctrl.taken := by
    cases id with
    | cursor => exact ⟨rfl, fun _ h => h⟩
    | ctrl =>
        exact ⟨hfinishes.used, fun e' hmem =>
          hfinishes.taken.mem_iff.mpr (List.mem_cons_of_mem _ hmem)⟩
  refine hmatched.of_kept (hmatched.numbered.setQueue hfinishes.entries_subperm) (setQueue_asker ..)
    (setQueue_signalled ..) (setQueue_wakes ..) (Nat.le_of_eq (setQueue_nextTicket ..).symm)
    ?_ ?_ ?_ ?_
  · exact fun _ hmem => (setQueue_dequeued ..).symm ▸ hmem
  · exact fun e' hmem => (setQueue_dequeued ..).symm ▸ hmatched.taken e' (hrings.2 e' hmem)
  · intro a ha hreads e' hmem heq
    refine (setQueue_pool s ..).symm ▸ hmatched.answered a ha hreads e' ?_ heq
    rw [hrings.1] at hmem
    exact (List.mem_append.mp hmem).elim (List.mem_append_left _)
      fun hmem => List.mem_append_right _ (hrings.2 e' hmem)
  · exact fun a ha hreads hown => (setQueue_pool s ..).symm ▸ hown

/-! ## The call going on

Four steps take the one call to its next stage with its event still unheard. They complete
nothing and answer nothing, so all there is to show is what the new stage asks of it. -/

/-- A call that goes on, its event not yet heard: what has to hold of it where it stands. -/
theorem Matched.goesOn {a : Asker} (hmatched : s.Matched) (hnumbered : s'.Numbered)
    (hasker : s'.asker = some a) (hnext : s.nextTicket ≤ s'.nextTicket)
    (hwakes : s'.wakes = s.wakes) (htaken : ∀ e ∈ s'.ctrl.taken, e.ticket ∈ s'.dequeued)
    (hsilent : a.Awaits → s'.signalled a.event = false)
    (hanswered : a.Reads → ∀ e ∈ s'.ctrl.used ++ s'.ctrl.taken,
      e.ticket = a.ticket → (s'.pool.mem a.buf).response = some a.ticket)
    (hfresh : ∀ w ∈ s.wakes, w.ticket ≠ a.ticket) : s'.Matched := by
  refine ⟨hnumbered, htaken, ?_, ?_, ?_, ?_, ?_, ?_⟩
  · intro a' ha' hstage
    obtain rfl := Option.some.inj (hasker.symm.trans ha')
    exact hsilent (.inl hstage)
  · intro a' ha' hreads
    obtain rfl := Option.some.inj (hasker.symm.trans ha')
    exact hanswered hreads
  · intro a' ha' hstage hset
    obtain rfl := Option.some.inj (hasker.symm.trans ha')
    exact absurd ((hsilent (.inr hstage)).symm.trans hset) Bool.false_ne_true
  · rw [hwakes]
    intro w hmem
    refine ⟨Nat.lt_of_lt_of_le (hmatched.fresh w hmem).1 hnext, fun a' ha' _ => ?_⟩
    obtain rfl := Option.some.inj (hasker.symm.trans ha')
    exact hfresh w hmem
  · rw [hwakes]
    exact hmatched.own.1
  · rw [hwakes]
    rintro a' ha' - ⟨w, hmem, heq⟩
    obtain rfl := Option.some.inj (hasker.symm.trans ha')
    exact absurd heq (hfresh w hmem)

/-- No wait has ended for a call that still waits for its event. -/
theorem Matched.fresh_of_asker {a : Asker} (hmatched : s.Matched) (hasker : s.asker = some a)
    (hstage : a.stage ≠ .woken) : ∀ w ∈ s.wakes, w.ticket ≠ a.ticket :=
  fun w hmem => (hmatched.fresh w hmem).2 a hasker hstage

/-- A call takes a buffer, under a number of its own. -/
theorem Matched.ask {b : BufId} {event : EventId} {pool : VioGpuBuf} (hmatched : s.Matched)
    (hnumbered : { s with
      pool := pool
      asker := some ⟨.filling, b, event, s.nextTicket⟩
      nextTicket := s.nextTicket + 1 }.Numbered) :
    { s with
      pool := pool
      asker := some ⟨.filling, b, event, s.nextTicket⟩
      nextTicket := s.nextTicket + 1 }.Matched := by
  apply hmatched.goesOn hnumbered rfl (Nat.le_succ _) rfl hmatched.taken
  · rintro (hstage | hstage) <;> cases hstage
  · rintro (hstage | hstage) <;> cases hstage
  · exact fun w hmem => Nat.ne_of_lt (hmatched.fresh w hmem).1

/-- A call clears its event. -/
theorem Matched.arm {b : BufId} {event : EventId} {ticket : Nat} {pool : VioGpuBuf}
    (hmatched : s.Matched) (hasker : s.asker = some ⟨.filling, b, event, ticket⟩)
    (hnumbered : { s with
      pool := pool
      signalled := Function.update s.signalled event false
      asker := some ⟨.armed, b, event, ticket⟩ }.Numbered) :
    { s with
      pool := pool
      signalled := Function.update s.signalled event false
      asker := some ⟨.armed, b, event, ticket⟩ }.Matched := by
  have hfresh := hmatched.fresh_of_asker hasker Stage.noConfusion
  apply hmatched.goesOn hnumbered rfl (Nat.le_refl _) rfl hmatched.taken
  · intro _
    exact Function.update_self ..
  · rintro (hstage | hstage) <;> cases hstage
  · exact hfresh

/-- A call queues its buffer, or finds the ring full: nothing has answered it. -/
theorem Matched.queueAsk {b : BufId} {event : EventId} {ticket : Nat} {ctrl : VirtQueue}
    (hmatched : s.Matched) (hasker : s.asker = some ⟨.armed, b, event, ticket⟩)
    (hused : ctrl.used = s.ctrl.used) (htaken : ctrl.taken = s.ctrl.taken)
    (hnumbered : { s with ctrl := ctrl, asker := some ⟨.waiting, b, event, ticket⟩ }.Numbered) :
    { s with ctrl := ctrl, asker := some ⟨.waiting, b, event, ticket⟩ }.Matched := by
  have hsilent := hmatched.silent _ hasker rfl
  have hfresh := hmatched.fresh_of_asker hasker Stage.noConfusion
  apply hmatched.goesOn hnumbered rfl (Nat.le_refl _) rfl
  · exact htaken.symm ▸ hmatched.taken
  · exact fun _ => hsilent
  · intro _ e hmem hticket
    -- its own entry has not been completed yet
    have hentry : e ∈ s.entries := by
      apply List.mem_append_left
      rw [VirtQueue.entries, List.append_assoc, ← hused, ← htaken]
      exact List.mem_append_right _ hmem
    exact absurd hticket (hmatched.numbered.unqueued _ hasker (.inr rfl) e hentry)
  · exact hfresh

/-- A wait ends without its event. -/
theorem Matched.expire {b : BufId} {event : EventId} {ticket : Nat} (hmatched : s.Matched)
    (hasker : s.asker = some ⟨.waiting, b, event, ticket⟩)
    (hnumbered : { s with asker := some ⟨.woken, b, event, ticket⟩ }.Numbered) :
    { s with asker := some ⟨.woken, b, event, ticket⟩ }.Matched := by
  have hanswered := hmatched.answered _ hasker (.inl rfl)
  have hfresh := hmatched.fresh_of_asker hasker Stage.noConfusion
  apply hmatched.goesOn hnumbered rfl (Nat.le_refl _) rfl hmatched.taken
  · rintro (hstage | hstage) <;> cases hstage
  · exact fun _ => hanswered
  · exact hfresh

/-- A wait ends with its event, after the completion of its own buffer. -/
theorem Matched.wake {b : BufId} {event : EventId} {ticket : Nat} (hmatched : s.Matched)
    (hasker : s.asker = some ⟨.waiting, b, event, ticket⟩) (hset : s.signalled event = true)
    (hnumbered : { s with
      asker := some ⟨.woken, b, event, ticket⟩
      wakes := ⟨ticket, ticket ∈ s.dequeued⟩ :: s.wakes }.Numbered) :
    { s with
      asker := some ⟨.woken, b, event, ticket⟩
      wakes := ⟨ticket, ticket ∈ s.dequeued⟩ :: s.wakes }.Matched := by
  obtain ⟨hdequeued, hresponse⟩ := hmatched.heard _ hasker rfl hset
  have hanswered := hmatched.answered _ hasker (.inl rfl)
  refine ⟨hnumbered, hmatched.taken, ?_, ?_, ?_, ?_, ?_, ?_⟩
  · rintro a ⟨⟩ hstage
    cases hstage
  · rintro a ⟨⟩ -
    exact hanswered
  · rintro a ⟨⟩ hstage
    cases hstage
  · intro w hmem
    constructor
    · rcases List.mem_cons.mp hmem with rfl | hmem
      · exact hmatched.numbered.asker_below _ hasker
      · exact (hmatched.fresh w hmem).1
    · rintro a ⟨⟩ hstage
      exact absurd rfl hstage
  · intro w hmem
    rcases List.mem_cons.mp hmem with rfl | hmem
    · exact decide_eq_true hdequeued
    · exact hmatched.own.1 w hmem
  · rintro a ⟨⟩ - -
    exact hresponse

/-- A call gives its buffer back. -/
theorem Matched.releaseAsk (hmatched : s.Matched) (b : Option BufId) :
    ({ s with asker := none }.release b).Matched := by
  have hnumbered : { s with asker := none }.Numbered :=
    ⟨hmatched.numbered.nodup, hmatched.numbered.below, nofun, nofun, nofun⟩
  have hidle : { s with asker := none }.Matched :=
    ⟨hnumbered, hmatched.taken, nofun, nofun, nofun,
      fun w hmem => ⟨(hmatched.fresh w hmem).1, nofun⟩, hmatched.own.1, nofun⟩
  exact hidle.release b

/-- A thread takes a buffer that the call does not have, and writes to it. -/
theorem Matched.draft {b : BufId} {respSize dataSize : Nat} {pool : VioGpuBuf} {drafts : List BufId}
    (hmatched : s.Matched) (hgets : VioGpuBuf.Gets respSize s.pool b pool)
    (hother : ∀ a, s.asker = some a → a.Reads → a.buf ≠ b)
    (hnumbered : { s with
      pool := pool.write b fun v => { v with dataSize := dataSize }
      drafts := drafts }.Numbered) :
    { s with
      pool := pool.write b fun v => { v with dataSize := dataSize }
      drafts := drafts }.Matched := by
  have hresponse : ∀ a, s.asker = some a → a.Reads →
      (s.pool.mem a.buf).response = some a.ticket →
        ((pool.write b fun v => { v with dataSize := dataSize }).mem a.buf).response =
          some a.ticket := by
    intro a ha hreads hown
    have hne := hother a ha hreads
    rw [VioGpuBuf.write_mem_of_ne hne, hgets.mem_of_ne hne]
    exact hown
  apply hmatched.of_kept hnumbered rfl rfl rfl (Nat.le_refl _) (fun _ hmem => hmem) hmatched.taken
  · intro a ha hreads e hmem heq
    exact hresponse a ha hreads (hmatched.answered a ha hreads e hmem heq)
  · exact hresponse

/-- A command is queued, or refused: no completion yet. -/
theorem Matched.send {id : QueueId} {q : VirtQueue} {drafts : List BufId} (hmatched : s.Matched)
    (hused : (s.setQueue id q).ctrl.used = s.ctrl.used)
    (htaken : (s.setQueue id q).ctrl.taken = s.ctrl.taken)
    (hnumbered : { s.setQueue id q with
      drafts := drafts, nextTicket := s.nextTicket + 1 }.Numbered) :
    { s.setQueue id q with drafts := drafts, nextTicket := s.nextTicket + 1 }.Matched := by
  apply hmatched.of_kept hnumbered (setQueue_asker ..) (setQueue_signalled ..)
    (setQueue_wakes ..) (Nat.le_succ _)
  · exact fun _ hmem => (setQueue_dequeued ..).symm ▸ hmem
  · intro e hmem
    exact (setQueue_dequeued ..).symm ▸ hmatched.taken e (htaken ▸ hmem)
  · intro a ha hreads e hmem heq
    refine (setQueue_pool s ..).symm ▸ hmatched.answered a ha hreads e ?_ heq
    rw [← hused, ← htaken]
    exact hmem
  · exact fun a ha hreads hown => (setQueue_pool s ..).symm ▸ hown

/-- An answer goes to the buffer of its own entry: the call's, only if it is the call's
own answer. -/
theorem Matched.response {e : Entry} (hmatched : s.Matched) (havail : e ∈ s.ctrl.avail)
    (hkept : ∀ a, s.asker = some a → a.Reads → e.buf = a.buf → e.ticket = a.ticket) :
    ∀ a, s.asker = some a → a.Reads →
      (e.ticket = a.ticket ∨ (s.pool.mem a.buf).response = some a.ticket) →
        ((s.pool.write e.buf fun v => { v with response := some e.ticket }).mem a.buf).response =
          some a.ticket := by
  intro a ha hreads hown
  by_cases heq : a.buf = e.buf
  · rw [heq, VioGpuBuf.write_mem_self]
    exact congrArg some (hkept a ha hreads heq.symm)
  · rw [VioGpuBuf.write_mem_of_ne heq]
    rcases hown with hticket | hown
    · -- its own completion is in its own buffer
      have hentry : e ∈ s.entries :=
        List.mem_append_left _ (List.mem_append_left _ (List.mem_append_left _ havail))
      exact absurd (hmatched.numbered.own a ha e hentry hticket).1.symm heq
    · exact hown

/-- The device answers a command of the control queue. -/
theorem Matched.complete {e : Entry} {q : VirtQueue} (hmatched : s.Matched)
    (hcompletes : s.ctrl.Completes e q)
    (hkept : ∀ a, s.asker = some a → a.Reads → e.buf = a.buf → e.ticket = a.ticket)
    (hnumbered : ((s.setQueue .ctrl q).respond .ctrl e).Numbered) :
    ((s.setQueue .ctrl q).respond .ctrl e).Matched := by
  have havail : e ∈ s.ctrl.avail := hcompletes.avail.mem_iff.mpr List.mem_cons_self
  have hresponse := hmatched.response havail hkept
  apply hmatched.of_kept hnumbered rfl rfl rfl (Nat.le_refl _) (fun _ hmem => hmem)
  · exact hcompletes.taken.symm ▸ hmatched.taken
  · intro a ha hreads e' hmem heq
    apply hresponse a ha hreads
    have hcases : e' ∈ s.ctrl.used ++ [e] ++ s.ctrl.taken := by
      rw [← hcompletes.used, ← hcompletes.taken]
      exact hmem
    simp only [List.mem_append, List.mem_singleton] at hcases
    rcases hcases with (hmem | rfl) | hmem
    · exact .inr (hmatched.answered a ha hreads e' (List.mem_append_left _ hmem) heq)
    · exact .inl heq
    · exact .inr (hmatched.answered a ha hreads e' (List.mem_append_right _ hmem) heq)
  · intro a ha hreads hown
    exact hresponse a ha hreads (.inr hown)

/-- The DPC takes a completion of the control queue off. -/
theorem Matched.dequeue {e : Entry} {q : VirtQueue} (hmatched : s.Matched)
    (hdequeues : s.ctrl.Dequeues e q)
    (hnumbered : { s.setQueue .ctrl q with dequeued := e.ticket :: s.dequeued }.Numbered) :
    { s.setQueue .ctrl q with dequeued := e.ticket :: s.dequeued }.Matched := by
  have hused : s.ctrl.used = e :: q.used := hdequeues.used
  have htaken : q.taken = s.ctrl.taken ++ [e] := hdequeues.taken
  apply hmatched.of_kept hnumbered rfl rfl rfl (Nat.le_refl _)
  · exact fun _ hmem => List.mem_cons_of_mem _ hmem
  · intro e' hmem
    have hcases : e' ∈ s.ctrl.taken ++ [e] := htaken ▸ hmem
    rcases List.mem_append.mp hcases with hmem | hmem
    · exact List.mem_cons_of_mem _ (hmatched.taken e' hmem)
    · exact List.mem_singleton.mp hmem ▸ List.mem_cons_self
  · intro a ha hreads e' hmem heq
    refine hmatched.answered a ha hreads e' ?_ heq
    have hcases : e' ∈ q.used ++ q.taken := hmem
    rw [htaken] at hcases
    rw [hused]
    simp only [List.mem_append, List.mem_cons, List.not_mem_nil, or_false] at hcases ⊢
    tauto
  · exact fun _ _ _ hown => hown

/-- The DPC is done with a completion of the control queue: it sets the event the buffer
names, or releases the buffer. -/
theorem Matched.handle {e : Entry} {q : VirtQueue} (hmatched : s.Matched)
    (hfinishes : s.ctrl.Finishes e q)
    (hkept : ∀ a, s.asker = some a → a.Awaits →
      (s.pool.mem e.buf).event = some a.event → e.ticket = a.ticket) :
    ((s.setQueue .ctrl q).handleEntry .ctrl e).Matched := by
  unfold handleEntry
  split
  next event _ hevent =>
    have htaken : e ∈ s.ctrl.taken := hfinishes.taken.mem_iff.mpr List.mem_cons_self
    have hown : ∀ a, s.asker = some a → a.Awaits → event = a.event → e.ticket = a.ticket :=
      fun a ha hawaits heq => hkept a ha hawaits (heq ▸ hevent)
    have hsignalled := hmatched.signal htaken hown
    have hfinished : ({ s with
        signalled := Function.update s.signalled event true }.setQueue .ctrl q).Matched :=
      hsignalled.finish hfinishes
    exact hfinished
  next =>
    have hfinished : (s.setQueue .ctrl q).Matched := hmatched.finish hfinishes
    exact hfinished.release _

theorem Step.matched (hstep : Step s label s') (hkept : KeptApart s label) (hmatched : s.Matched) :
    s'.Matched := by
  have hnumbered := hstep.numbered hmatched.numbered
  cases hstep with
  | @askFailed event allocates hidle hnone =>
      cases event with
      | edid i => exact hmatched.release none
      | displayInfo i => exact hmatched
      | flush i => exact hmatched
  | asked hidle hgets => exact hmatched.ask hnumbered
  | armed hasker => exact hmatched.arm hasker hnumbered
  | @queued accepted b event ticket hasker =>
      have hrings : ∀ {ctrl : VirtQueue},
          (ctrl = s.ctrl.push ⟨b, ticket, some event⟩ ∨ ctrl = s.ctrl) →
            ctrl.used = s.ctrl.used ∧ ctrl.taken = s.ctrl.taken := by
        rintro ctrl (rfl | rfl) <;> exact ⟨rfl, rfl⟩
      obtain ⟨hused, htaken⟩ := hrings (ite_eq_or_eq (accepted = true) _ _)
      exact hmatched.queueAsk hasker hused htaken hnumbered
  | woken hasker hset => exact hmatched.wake hasker hset hnumbered
  | expired hasker => exact hmatched.expire hasker hnumbered
  | released hasker => exact hmatched.releaseAsk _
  | dry => exact hmatched
  | @drafted respSize dataSize b pool hgets =>
      apply hmatched.draft hgets _ hnumbered
      rintro a ha hreads rfl
      exact hkept a ha hreads (by rw [hgets.free]; rfl)
  | @sent k id accepted b hdraft =>
      have hctrl : ∀ {q : VirtQueue},
          (q = (s.queue id).push ⟨b, s.nextTicket, none⟩ ∨ q = s.queue id) →
            (s.setQueue id q).ctrl.used = s.ctrl.used ∧
              (s.setQueue id q).ctrl.taken = s.ctrl.taken := by
        rintro q (rfl | rfl) <;> cases id <;> exact ⟨rfl, rfl⟩
      obtain ⟨hused, htaken⟩ := hctrl (ite_eq_or_eq (accepted = true) _ _)
      exact hmatched.send hused htaken hnumbered
  | @completed id k e q hget hcompletes =>
      cases id with
      | cursor =>
          exact hmatched.of_kept hnumbered rfl rfl rfl (Nat.le_refl _) (fun _ h => h)
            hmatched.taken hmatched.answered fun _ _ _ h => h
      | ctrl =>
          apply hmatched.complete hcompletes _ hnumbered
          exact fun a ha hreads heq => hkept e hget a ha hreads heq
  | @dequeued id e q hdequeues =>
      cases id with
      | cursor =>
          exact hmatched.of_kept hnumbered rfl rfl rfl (Nat.le_refl _)
            (fun _ h => List.mem_cons_of_mem _ h)
            (fun e hmem => List.mem_cons_of_mem _ (hmatched.taken e hmem)) hmatched.answered
            fun _ _ _ h => h
      | ctrl => exact hmatched.dequeue hdequeues hnumbered
  | @handled id k e q hget hfinishes =>
      cases id with
      | cursor => exact (hmatched.finish hfinishes).release _
      | ctrl =>
          apply hmatched.handle hfinishes
          exact fun a ha hawaits hevent => hkept e hget a ha hawaits hevent
  | powerCycled =>
      apply hmatched.of_kept hnumbered rfl rfl rfl (Nat.le_refl _) (fun _ h => h)
      · exact fun _ h => absurd h List.not_mem_nil
      · exact fun a ha hreads e hmem => absurd hmem List.not_mem_nil
      · exact fun _ _ _ h => h

end VBuffers

end VirtDisplay
