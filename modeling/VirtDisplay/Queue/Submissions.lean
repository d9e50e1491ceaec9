/-
# Submissions that fail

A thread that has filled a buffer hands it to `QueueBuffer` or `QueueCursor`, and either
may refuse it. This module follows the buffers with the real queueing functions in place of
a bare answer, and records what each caller is told.

The helpers that queue control commands return nothing, so their callers are told nothing.
`AskDisplayInfo` and `AskEdidInfo` return `TRUE`, and a pointer request reports success for
the zero of `QueueCursor`. No helper gives a refused buffer back: only the calls that wait
release theirs, after the wait. So every refusal of another command costs a buffer.

Two more ways lead to a buffer that is in use for nobody. The queues are deleted while the
device leaves D0, with whatever is on them. And `FreeBuf` with no buffer in use puts its
argument on the free list a second time.
-/

import VirtDisplay.Queue.Ownership
import VirtDisplay.Queue.QueueBuffer

namespace VirtDisplay

open Transition

/-- What the caller of a helper learns about its command. -/
inductive Reply
  | nothing
  | success
  | failure
  deriving DecidableEq

/-- A command that was offered to a queue. -/
structure Submitted where
  queued : Bool
  reply : Reply
  deriving DecidableEq

/-- The buffers, with the commands offered so far, newest first. -/
structure Submissions where
  buffers : VBuffers
  submitted : List Submitted

/-- What a queueing function meets: the memory of the command beside what its buffer says,
and the ring. -/
structure Offer where
  space : AddressSpace
  buf : Nat
  size : Nat
  dataBuf : Nat
  respBuf : Nat
  numUnused : Nat

/-- A cursor command at valid addresses, on a ring with so many free descriptors. -/
def Offer.cursor (numUnused : Nat) : Offer :=
  ⟨⟨fun _ => true, fun addr => addr⟩, 0x1000, 56, 0, 0, numUnused⟩

namespace Submissions

/-- The memory of a command. -/
def memory (x : Offer) (v : GpuVBuffer) : CommandMemory :=
  ⟨x.buf, x.size, x.dataBuf, v.dataSize, x.respBuf, v.respSize⟩

/-- The queueing function of a queue. -/
def offer (id : QueueId) (x : Offer) (v : GpuVBuffer) : Option QueueResult :=
  match id with
  | .ctrl => queueBuffer x.space x.numUnused (memory x v)
  | .cursor => some (queueCursor x.space x.numUnused (memory x v))

/-- What the caller of a command that nobody waits for is told: nothing by the helpers of
the control queue, and by a pointer request what it makes of the returned value. -/
def sendReply (id : QueueId) (ret : Nat) : Reply :=
  match id with
  | .ctrl => .nothing
  | .cursor => if ret = 0 then .success else .failure

/-- What a call that waits tells its caller: `ResFlush` returns nothing, the others `TRUE`. -/
def askReply : EventId → Reply
  | .flush _ => .nothing
  | _ => .success

/-- What can happen. -/
inductive Label
  /-- The call that waits queues its buffer. -/
  | queueAsk (x : Offer)
  /-- The `k`-th of the other commands is queued. -/
  | send (k : Nat) (id : QueueId) (x : Offer)
  /-- Anything else that happens to the buffers. -/
  | other (label : VBuffers.Label)

/-- The label does not queue anything. -/
def Quiet : VBuffers.Label → Bool
  | .queueAsk _ | .send _ _ _ => false
  | _ => true

variable (s : Submissions)

/-- The buffers take a step, and a reply is recorded. -/
def record (label : VBuffers.Label) (submitted : List Submitted) : Option Submissions :=
  (VBuffers.system.step s.buffers label).map fun buffers => ⟨buffers, submitted⟩

/-- One move. A queueing function that does not come back is no move. -/
def step : Label → Option Submissions
  | .queueAsk x =>
      match s.buffers.asker with
      | none => none
      | some a =>
          match offer .ctrl x (s.buffers.pool.mem a.buf) with
          | none => none
          | some r =>
              s.record (.queueAsk r.queued.isSome)
                (⟨r.queued.isSome, askReply a.event⟩ :: s.submitted)
  | .send k id x =>
      match s.buffers.drafts[k]? with
      | none => none
      | some b =>
          match offer id x (s.buffers.pool.mem b) with
          | none => none
          | some r =>
              s.record (.send k id r.queued.isSome)
                (⟨r.queued.isSome, sendReply id r.ret⟩ :: s.submitted)
  | .other label => if Quiet label then s.record label s.submitted else none

/-- The buffers of the adapter, with what callers are told. -/
def system : System Submissions Label := ⟨step⟩

/-- Nothing queued yet. -/
def start (pool : VioGpuBuf) : Submissions := ⟨.start pool, []⟩

end Submissions

/-- A thread has the buffer and has not returned: it fills it, waits for it, or is the DPC
that took it from a queue. -/
def VBuffers.HeldByCaller (s : VBuffers) (b : BufId) : Prop :=
  b ∈ s.drafts ∨ (∃ a ∈ s.asker, a.buf = b) ∨ b ∈ (s.ctrl.taken ++ s.cursor.taken).map Entry.buf

/-- Every buffer in use is on a queue or held by a caller. -/
def VBuffers.Accounted (s : VBuffers) : Prop :=
  ∀ b ∈ s.pool.inUseBufs, b ∈ s.outstanding ∨ s.HeldByCaller b

namespace Submissions

/-- No buffer is lost, and the caller of every refused command is told. -/
structure NoneLost (s : Submissions) : Prop where
  accounted : s.buffers.Accounted
  told : ∀ x ∈ s.submitted, x.queued = false → x.reply = .failure

end Submissions

namespace VBuffers

variable {s s' : VBuffers} {label : Label} {b : BufId}

/-- A thread or a queue has the buffer. -/
def Located (s : VBuffers) (b : BufId) : Prop :=
  b ∈ s.drafts ∨ (∃ a ∈ s.asker, a.buf = b) ∨ b ∈ s.entries.map Entry.buf

theorem located_iff : s.Located b ↔ b ∈ s.outstanding ∨ s.HeldByCaller b := by
  unfold Located HeldByCaller outstanding entries VirtQueue.entries VirtQueue.outstanding
  simp only [List.map_append, List.mem_append]
  generalize (∃ a ∈ s.asker, a.buf = b) = called
  tauto

/-- Every buffer in use is somewhere, and one that names an event is with the call that
waits. -/
structure Tracked (s : VBuffers) : Prop where
  apart : s.pool.Apart
  located : ∀ b ∈ s.pool.inUseBufs, s.Located b
  named : ∀ b ∈ s.pool.inUseBufs, (s.pool.mem b).event ≠ none → ∃ a ∈ s.asker, a.buf = b

theorem tracked_start {pool : VioGpuBuf} (hapart : pool.Apart) (hunused : pool.inUseBufs = []) :
    (start pool).Tracked where
  apart := hapart
  located b hmem := by
    have hmem : b ∈ pool.inUseBufs := hmem
    rw [hunused] at hmem
    cases hmem
  named b hmem := by
    have hmem : b ∈ pool.inUseBufs := hmem
    rw [hunused] at hmem
    cases hmem

/-- The steps that lose no buffer: every submission is accepted, the queues are only deleted
when no buffer in use is on them, and buffers are only released while some are in use. -/
def Lossless (s : VBuffers) : Label → Prop
  | .queueAsk accepted | .send _ _ accepted => accepted = true
  | .powerCycle => ∀ b ∈ s.pool.inUseBufs, b ∈ s.drafts ∨ ∃ a ∈ s.asker, a.buf = b
  | .releaseAsk => s.pool.inUseBufs ≠ []
  | .handle id k => ∀ e ∈ (s.queue id).taken[k]?,
      id = .cursor ∨ (s.pool.mem e.buf).event = none → s.pool.inUseBufs ≠ []
  | _ => True

instance (s : VBuffers) (label : Label) : Decidable (s.Lossless label) :=
  match label with
  | .queueAsk _ | .send _ _ _ => inferInstanceAs (Decidable (_ = true))
  | .powerCycle => inferInstanceAs (Decidable (∀ b ∈ s.pool.inUseBufs, _ ∨ _))
  | .releaseAsk => inferInstanceAs (Decidable (_ ≠ _))
  | .handle _ _ => inferInstanceAs (Decidable (∀ _ ∈ _, _ ∨ _ → _))
  | .ask _ _ | .arm | .wake | .timeout | .alloc _ _ | .complete _ _ | .dequeue _ => .isTrue trivial

/-- With a buffer in use, `FreeBuf` frees its argument or does not come back. -/
theorem release_pool (hused : s.pool.inUseBufs ≠ []) :
    (s.release (some b)).pool = s.pool ∧ b ∉ s.pool.inUseBufs ∨
      b ∈ s.pool.inUseBufs ∧ VioGpuBuf.Frees s.pool b (s.release (some b)).pool := by
  unfold release
  dsimp only
  split
  next hhangs =>
    refine .inl ⟨rfl, fun hmem => ?_⟩
    obtain ⟨pool, hfree⟩ := VioGpuBuf.exists_freeBuf hmem
    cases hhangs.symm.trans hfree
  next pool hfree =>
    refine .inr ⟨?_, VioGpuBuf.freeBuf_frees hfree⟩
    by_contra hmem
    rw [VioGpuBuf.freeBuf, if_pos ⟨hused, hmem⟩] at hfree
    cases hfree

theorem release_located {b' : BufId} {b : Option BufId} :
    (s.release b).Located b' ↔ s.Located b' := by
  unfold Located
  rw [release_drafts, release_asker, release_entries]

/-- A release, where all the other buffers are tracked. -/
theorem tracked_release (hused : s.pool.inUseBufs ≠ []) (hapart : s.pool.Apart)
    (hothers : ∀ b' ∈ s.pool.inUseBufs, b' ≠ b → s.Located b' ∧
      ((s.pool.mem b').event ≠ none → ∃ a ∈ s.asker, a.buf = b')) :
    (s.release (some b)).Tracked := by
  have hkept : (s.release (some b)).pool.Apart ∧ ∀ b' ∈ (s.release (some b)).pool.inUseBufs,
      b' ∈ s.pool.inUseBufs ∧ b' ≠ b := by
    rcases release_pool (b := b) hused with ⟨hpool, hmem⟩ | ⟨hmem, hfrees⟩
    · rw [hpool]
      exact ⟨hapart, fun b' hmem' => ⟨hmem', fun heq => hmem (heq ▸ hmem')⟩⟩
    · refine ⟨hfrees.apart hapart hmem, fun b' hmem' => ?_⟩
      have hnodup : s.pool.inUseBufs.Nodup := (List.nodup_append.mp hapart).2.1
      rw [hfrees.inUse, hnodup.mem_erase_iff] at hmem'
      exact ⟨hmem'.2, hmem'.1⟩
  refine ⟨hkept.1, fun b' hmem => ?_, fun b' hmem hevent => ?_⟩
  · obtain ⟨hmem, hne⟩ := hkept.2 b' hmem
    exact release_located.mpr (hothers b' hmem hne).1
  · obtain ⟨hmem, hne⟩ := hkept.2 b' hmem
    rw [(release_mem s (some b) b').1] at hevent
    rw [release_asker]
    exact (hothers b' hmem hne).2 hevent

/-- A buffer that `GetBuf` hands out goes to a thread. -/
theorem Tracked.gets {respSize : Nat} {pool : VioGpuBuf} (htracked : s.Tracked)
    (hgets : VioGpuBuf.Gets respSize s.pool b pool) (hpool : s'.pool.inUseBufs = pool.inUseBufs)
    (hfree : s'.pool.freeBufs = pool.freeBufs)
    (hmem : ∀ b', (s'.pool.mem b').event = (pool.mem b').event) (hnew : s'.Located b)
    (hold : ∀ b', s.Located b' → s'.Located b')
    (hasker : ∀ b', (∃ a ∈ s.asker, a.buf = b') → ∃ a ∈ s'.asker, a.buf = b') : s'.Tracked := by
  have hapart := hgets.apart htracked.apart
  have hcases : ∀ b' ∈ s'.pool.inUseBufs, b' = b ∨ b' ∈ s.pool.inUseBufs ∧ b' ≠ b := by
    intro b' hmem'
    rw [hpool, hgets.inUse, List.mem_append, List.mem_singleton] at hmem'
    by_cases heq : b' = b
    · exact .inl heq
    · exact .inr ⟨hmem'.resolve_right heq, heq⟩
  refine ⟨?_, fun b' hmem' => ?_, fun b' hmem' hevent => ?_⟩
  · unfold VioGpuBuf.Apart at hapart ⊢
    rwa [hpool, hfree]
  · rcases hcases b' hmem' with rfl | ⟨hmem', -⟩
    · exact hnew
    · exact hold b' (htracked.located b' hmem')
  · rw [hmem] at hevent
    rcases hcases b' hmem' with rfl | ⟨hmem', hne⟩
    · rw [hgets.mem_self] at hevent
      exact absurd rfl hevent
    · rw [hgets.mem_of_ne hne] at hevent
      exact hasker b' (htracked.named b' hmem' hevent)

/-- The call that waits moves on. -/
theorem Located.moveAsk {a a' : Asker} (hlocated : s.Located b) (entries : List Entry)
    (ha : s.asker = some a) (ha' : s'.asker = some a') (hbuf : a'.buf = a.buf)
    (hdrafts : s'.drafts = s.drafts) (hentries : s'.entries.Perm (entries ++ s.entries)) :
    s'.Located b := by
  refine hlocated.imp (fun hdraft => hdrafts ▸ hdraft) (.imp ?_ fun hmem => ?_)
  · rintro ⟨x, hx, rfl⟩
    obtain rfl := Option.some.inj (ha.symm.trans hx)
    exact ⟨a', ha', hbuf⟩
  · apply (hentries.map Entry.buf).mem_iff.mpr
    rw [List.map_append]
    exact List.mem_append_right _ hmem

/-- A command that nobody waits for goes on a queue. -/
theorem Located.send {k ticket : Nat} {b' : BufId} (hlocated : s.Located b')
    (hdraft : s.drafts.Perm (b :: s.drafts.eraseIdx k))
    (hdrafts : s'.drafts = s.drafts.eraseIdx k) (hasker : s'.asker = s.asker)
    (hentries : s'.entries.Perm (⟨b, ticket, none⟩ :: s.entries)) : s'.Located b' := by
  rcases hlocated with hmem | hcall | hmem
  · rcases List.mem_cons.mp (hdraft.mem_iff.mp hmem) with rfl | hmem
    · exact .inr (.inr ((hentries.map Entry.buf).mem_iff.mpr List.mem_cons_self))
    · exact .inl (hdrafts ▸ hmem)
  · exact .inr (.inl (hasker ▸ hcall))
  · exact .inr (.inr ((hentries.map Entry.buf).mem_iff.mpr (List.mem_cons_of_mem _ hmem)))

/-- A step without the pool that moves buffers from one place to another. -/
theorem Tracked.of_kept (htracked : s.Tracked) (hlists : s'.pool.freeBufs = s.pool.freeBufs ∧
      s'.pool.inUseBufs = s.pool.inUseBufs)
    (hmem : ∀ b', (s'.pool.mem b').event = (s.pool.mem b').event)
    (hold : ∀ b' ∈ s.pool.inUseBufs, s.Located b' → s'.Located b')
    (hasker : s'.asker.map Asker.buf = s.asker.map Asker.buf) : s'.Tracked := by
  have hwith : ∀ b', (∃ a ∈ s.asker, a.buf = b') → ∃ a ∈ s'.asker, a.buf = b' := by
    intro b' hcall
    have hbuf : s.asker.map Asker.buf = some b' := Option.map_eq_some_iff.mpr hcall
    exact Option.map_eq_some_iff.mp (hasker.trans hbuf)
  refine ⟨?_, fun b' hmem' => ?_, fun b' hmem' hevent => ?_⟩
  · have hapart := htracked.apart
    unfold VioGpuBuf.Apart at hapart ⊢
    rwa [hlists.1, hlists.2]
  · rw [hlists.2] at hmem'
    exact hold b' hmem' (htracked.located b' hmem')
  · rw [hlists.2] at hmem'
    rw [hmem] at hevent
    exact hwith b' (htracked.named b' hmem' hevent)

/-- An entry changes its place on a queue. -/
theorem Tracked.moveEntries {id : QueueId} {q : VirtQueue} (htracked : s.Tracked)
    (hentries : q.entries.Perm (s.queue id).entries) : (s.setQueue id q).Tracked := by
  have hboth := (perm_setQueue (s := s) VirtQueue.entries [] hentries).map Entry.buf
  refine htracked.of_kept ⟨congrArg _ (setQueue_pool ..), congrArg _ (setQueue_pool ..)⟩
    (fun _ => by rw [setQueue_pool]) (fun b' _ hlocated => ?_) (congrArg _ (setQueue_asker ..))
  rcases hlocated with hdraft | hcall | hentry
  · exact .inl (by rwa [setQueue_drafts])
  · exact .inr (.inl (by rwa [setQueue_asker]))
  · exact .inr (.inr (hboth.mem_iff.mpr hentry))

/-- The call goes on with its buffer, and the queues gain entries or stay as they are. -/
theorem Tracked.moveAsk {a a' : Asker} (htracked : s.Tracked) (entries : List Entry)
    (ha : s.asker = some a) (ha' : s'.asker = some a') (hbuf : a'.buf = a.buf)
    (hpool : s'.pool = s.pool) (hdrafts : s'.drafts = s.drafts)
    (hentries : s'.entries.Perm (entries ++ s.entries)) : s'.Tracked := by
  apply htracked.of_kept
  · rw [hpool]
    exact ⟨rfl, rfl⟩
  · intro b'
    rw [hpool]
  · intro b' _ hlocated
    exact hlocated.moveAsk entries ha ha' hbuf hdrafts hentries
  · rw [ha, ha', Option.map_some, Option.map_some, hbuf]

/-- A call takes a buffer. -/
theorem Tracked.ask {event : EventId} {pool : VioGpuBuf} (htracked : s.Tracked)
    (hidle : s.asker = none) (hgets : VioGpuBuf.Gets event.respSize s.pool b pool) :
    { s with
      pool := pool
      asker := some ⟨.filling, b, event, s.nextTicket⟩
      nextTicket := s.nextTicket + 1 }.Tracked := by
  have hnobody : ∀ b', ¬ ∃ a ∈ s.asker, a.buf = b' := by
    rw [hidle]
    rintro b' ⟨a, ⟨⟩, -⟩
  apply htracked.gets hgets rfl rfl (fun _ => rfl)
  · exact .inr (.inl ⟨_, rfl, rfl⟩)
  · intro b' hlocated
    exact hlocated.imp_right fun h => .inr (h.resolve_left (hnobody b'))
  · intro b' hcall
    exact absurd hcall (hnobody b')

/-- A call leaves its event in its own buffer. -/
theorem Tracked.arm {event : EventId} {ticket : Nat} {signalled : EventId → Bool}
    (htracked : s.Tracked) (hasker : s.asker = some ⟨.filling, b, event, ticket⟩) :
    { s with
      pool := s.pool.write b fun v => { v with event := some event }
      signalled := signalled
      asker := some ⟨.armed, b, event, ticket⟩ }.Tracked := by
  refine ⟨htracked.apart, fun b' hmem => ?_, fun b' hmem hevent => ?_⟩
  · refine (htracked.located b' hmem).imp_right (.imp_left ?_)
    rw [hasker]
    rintro ⟨a, ⟨⟩, rfl⟩
    exact ⟨_, rfl, rfl⟩
  · by_cases heq : b' = b
    · exact ⟨_, rfl, heq.symm⟩
    · rw [VioGpuBuf.write_mem_of_ne heq] at hevent
      obtain ⟨a, ha, rfl⟩ := htracked.named b' hmem hevent
      rw [hasker] at ha
      cases ha
      exact absurd rfl heq

/-- A call gives its buffer back. -/
theorem Tracked.releaseAsk {stage : Stage} {event : EventId} {ticket : Nat} (htracked : s.Tracked)
    (hused : s.pool.inUseBufs ≠ []) (hasker : s.asker = some ⟨stage, b, event, ticket⟩) :
    ({ s with asker := none }.release (some b)).Tracked := by
  have hcall : ∀ b', b' ≠ b → ¬ ∃ a ∈ s.asker, a.buf = b' := by
    rw [hasker]
    rintro b' hne ⟨a, ⟨⟩, rfl⟩
    exact hne rfl
  refine tracked_release hused htracked.apart fun b' hmem hne => ?_
  constructor
  · exact (htracked.located b' hmem).imp_right fun h => .inr (h.resolve_left (hcall b' hne))
  · intro hevent
    exact absurd (htracked.named b' hmem hevent) (hcall b' hne)

/-- With one entry finished, every other buffer keeps its place, and so does the buffer of a
call. -/
theorem Tracked.finish {id : QueueId} {e : Entry} {q : VirtQueue} (htracked : s.Tracked)
    (hfinishes : (s.queue id).Finishes e q) :
    ∀ b' ∈ s.pool.inUseBufs, b' ≠ e.buf ∨ (∃ a ∈ s.asker, a.buf = b') →
      (s.setQueue id q).Located b' := by
  have hentries := (setQueue_perm VirtQueue.entries [e] hfinishes.entries).map Entry.buf
  intro b' hmem hkept
  rcases htracked.located b' hmem with hdraft | hcall | hentry
  · exact .inl (by rwa [setQueue_drafts])
  · exact .inr (.inl (by rwa [setQueue_asker]))
  · rcases List.mem_cons.mp (hentries.mem_iff.mp hentry) with rfl | hentry
    · exact .inr (.inl (by rw [setQueue_asker]; exact hkept.resolve_left (absurd rfl)))
    · exact .inr (.inr hentry)

/-- The DPC releases the buffer of a finished entry. -/
theorem Tracked.finish_release {id : QueueId} {e : Entry} {q : VirtQueue} (htracked : s.Tracked)
    (hfinishes : (s.queue id).Finishes e q) (hused : s.pool.inUseBufs ≠ []) :
    ((s.setQueue id q).release (some e.buf)).Tracked := by
  apply tracked_release
  · rwa [setQueue_pool]
  · rw [setQueue_pool]
    exact htracked.apart
  · rw [setQueue_pool, setQueue_asker]
    intro b' hmem hne
    exact ⟨htracked.finish hfinishes b' hmem (.inl hne), htracked.named b' hmem⟩

/-- The DPC handles a completion of the control queue: it signals the event the buffer names,
or releases the buffer. -/
theorem Tracked.handle {e : Entry} {q : VirtQueue} (htracked : s.Tracked)
    (hfinishes : (s.queue .ctrl).Finishes e q)
    (hused : (s.pool.mem e.buf).event = none → s.pool.inUseBufs ≠ []) :
    ((s.setQueue .ctrl q).handleEntry .ctrl e).Tracked := by
  have hothers := htracked.finish hfinishes
  unfold handleEntry
  split
  next event hevent =>
    -- the DPC only signals: the call that waits has the buffer
    refine ⟨htracked.apart, fun b' hmem => ?_, htracked.named⟩
    by_cases heq : b' = e.buf
    · refine hothers b' hmem (.inr (htracked.named b' hmem ?_))
      rw [heq]
      exact fun hnone => by cases hnone.symm.trans hevent
    · exact hothers b' hmem (.inl heq)
  next hsilent =>
    apply htracked.finish_release hfinishes
    apply hused
    exact Option.eq_none_iff_forall_ne_some.mpr fun event => hsilent event rfl

/-- A lossless step keeps track of every buffer. -/
theorem Step.tracked (hstep : Step s label s') (hlossless : s.Lossless label)
    (htracked : s.Tracked) : s'.Tracked := by
  cases hstep with
  | @askFailed event allocates hidle hnone =>
      cases event with
      | edid i => exact htracked.of_kept ⟨rfl, rfl⟩ (fun _ => rfl) (fun _ _ h => h) rfl
      | displayInfo i => exact htracked
      | flush i => exact htracked
  | asked hidle hgets => exact htracked.ask hidle hgets
  | armed hasker => exact htracked.arm hasker
  | @queued accepted b event ticket hasker =>
      obtain rfl : accepted = true := hlossless
      have hentries := (s.ctrl.entries_push ⟨b, ticket, some event⟩).append_right s.cursor.entries
      exact htracked.moveAsk [_] hasker rfl rfl rfl rfl hentries
  | woken hasker hset => exact htracked.moveAsk [] hasker rfl rfl rfl rfl (.refl _)
  | expired hasker => exact htracked.moveAsk [] hasker rfl rfl rfl rfl (.refl _)
  | released hasker => exact htracked.releaseAsk hlossless hasker
  | dry => exact htracked
  | @drafted respSize dataSize b pool hgets =>
      refine htracked.gets hgets rfl rfl ?_ (.inl ?_) ?_ fun _ h => h
      · dsimp only
        apply VioGpuBuf.write_event
        exact fun _ => rfl
      · exact List.mem_append_right _ (List.mem_singleton_self b)
      · exact fun b' hlocated => hlocated.imp_left (List.mem_append_left _)
  | @sent k id accepted b hdraft =>
      obtain rfl : accepted = true := hlossless
      refine htracked.of_kept ⟨congrArg _ (setQueue_pool ..), congrArg _ (setQueue_pool ..)⟩
        (fun _ => by rw [setQueue_pool]) (fun b' _ hlocated => ?_)
        (congrArg _ (setQueue_asker ..))
      exact hlocated.send hdraft rfl (setQueue_asker ..)
        (perm_setQueue VirtQueue.entries [_] ((s.queue id).entries_push _))
  | @completed id k e q hget hcompletes =>
      have hmoved := htracked.moveEntries hcompletes.entries
      cases id with
      | cursor => exact hmoved
      | ctrl =>
          refine hmoved.of_kept ⟨rfl, rfl⟩ ?_ (fun _ _ h => h) rfl
          dsimp only [respond]
          apply VioGpuBuf.write_event
          exact fun _ => rfl
  | dequeued hdequeues =>
      have hmoved := htracked.moveEntries hdequeues.entries
      exact ⟨hmoved.apart, hmoved.located, hmoved.named⟩
  | @handled id k e q hget hfinishes =>
      have hused := hlossless e hget
      cases id with
      | cursor => exact htracked.finish_release hfinishes (hused (.inl rfl))
      | ctrl => exact htracked.handle hfinishes fun hnone => hused (.inr hnone)
  | powerCycled =>
      refine ⟨htracked.apart, fun b hmem => ?_, htracked.named⟩
      exact (hlossless b hmem).imp_right .inl

/-- The label queues a buffer. -/
def Label.Queues : Label → Bool
  | .queueAsk accepted | .send _ _ accepted => accepted
  | _ => false

/-- A buffer that is queued stays accounted for. -/
theorem Step.accounted_queued (hstep : Step s label s') (hqueues : label.Queues = true)
    (haccounted : s.Accounted) : s'.Accounted := by
  cases hstep with
  | @queued accepted b event ticket hasker =>
      obtain rfl : accepted = true := hqueues
      have hentries := (s.ctrl.entries_push ⟨b, ticket, some event⟩).append_right s.cursor.entries
      intro b' hmem
      apply located_iff.mp
      exact (located_iff.mpr (haccounted b' hmem)).moveAsk [_] hasker rfl rfl rfl
        hentries
  | @sent k id accepted b hdraft =>
      obtain rfl : accepted = true := hqueues
      intro b' hmem
      rw [setQueue_pool] at hmem
      apply located_iff.mp
      exact (located_iff.mpr (haccounted b' hmem)).send hdraft rfl (setQueue_asker ..)
        (perm_setQueue VirtQueue.entries [_] ((s.queue id).entries_push _))
  | _ => cases hqueues

/-- The deletion of the queues leaves the buffers that a thread has. -/
theorem Step.accounted_powerCycle (hstep : Step s .powerCycle s') :
    s'.Accounted ↔ s.Lossless .powerCycle := by
  cases hstep with
  | powerCycled =>
      apply forall₂_congr
      intro b hmem
      rw [← located_iff]
      exact or_congr_right (or_iff_left nofun)

end VBuffers

/-! ## The condition -/

namespace Submissions

variable {s s' : Submissions} {id : QueueId} {x : Offer} {v : GpuVBuffer} {r : QueueResult}

/-- The memory of a command fits the queue. -/
def Fits (id : QueueId) (x : Offer) (v : GpuVBuffer) : Prop :=
  match id with
  | .ctrl => FitsControl x.space x.numUnused (memory x v)
  | .cursor => FitsCursor x.space x.numUnused (memory x v)

/-- The moves that lose no buffer: every command that is offered to a queue fits it, and the
buffers take a lossless step. -/
def Keeps (s : Submissions) : Label → Prop
  | .queueAsk x => ∀ a ∈ s.buffers.asker, Fits .ctrl x (s.buffers.pool.mem a.buf)
  | .send k id x => ∀ b ∈ s.buffers.drafts[k]?, Fits id x (s.buffers.pool.mem b)
  | .other label => s.buffers.Lossless label

instance (id : QueueId) (x : Offer) (v : GpuVBuffer) : Decidable (Fits id x v) :=
  match id with
  | .ctrl => inferInstanceAs (Decidable (FitsControl ..))
  | .cursor => inferInstanceAs (Decidable (FitsCursor ..))

instance (s : Submissions) (label : Label) : Decidable (s.Keeps label) :=
  match label with
  | .queueAsk _ | .send _ _ _ => inferInstanceAs (Decidable (∀ _ ∈ _, _))
  | .other label => inferInstanceAs (Decidable (s.buffers.Lossless label))

theorem offer_queued (hoffer : offer id x v = some r) :
    r.queued.isSome = true ↔ Fits id x v := by
  cases id with
  | ctrl => exact queueBuffer_queued hoffer
  | cursor =>
      obtain rfl := Option.some.inj hoffer
      exact queueCursor_queued

/-- Nobody is told that a command was not queued. -/
theorem sendReply_ne_failure (hoffer : offer id x v = some r) : sendReply id r.ret ≠ .failure := by
  cases id with
  | ctrl => exact nofun
  | cursor =>
      obtain rfl := Option.some.inj hoffer
      exact nofun

theorem askReply_ne_failure (event : EventId) : askReply event ≠ .failure := by
  cases event <;> exact nofun

/-- The moves, as steps of the buffers. -/
inductive Step (s : Submissions) : Label → Submissions → Prop
  | queueAsk {x : Offer} {r : QueueResult} {buffers : VBuffers} (a : Asker)
      (ha : s.buffers.asker = some a)
      (hoffer : offer .ctrl x (s.buffers.pool.mem a.buf) = some r)
      (hbuffers : VBuffers.system.step s.buffers (.queueAsk r.queued.isSome) = some buffers) :
      Step s (.queueAsk x) ⟨buffers, ⟨r.queued.isSome, askReply a.event⟩ :: s.submitted⟩
  | send {k : Nat} {id : QueueId} {x : Offer} {r : QueueResult} {buffers : VBuffers} (b : BufId)
      (hb : s.buffers.drafts[k]? = some b)
      (hoffer : offer id x (s.buffers.pool.mem b) = some r)
      (hbuffers : VBuffers.system.step s.buffers (.send k id r.queued.isSome) = some buffers) :
      Step s (.send k id x) ⟨buffers, ⟨r.queued.isSome, sendReply id r.ret⟩ :: s.submitted⟩
  | other {label : VBuffers.Label} {buffers : VBuffers} (hquiet : Quiet label = true)
      (hbuffers : VBuffers.system.step s.buffers label = some buffers) :
      Step s (.other label) ⟨buffers, s.submitted⟩

theorem record_spec {label : VBuffers.Label} {submitted : List Submitted}
    (hrecord : s.record label submitted = some s') :
    ∃ buffers, VBuffers.system.step s.buffers label = some buffers ∧ s' = ⟨buffers, submitted⟩ := by
  obtain ⟨buffers, hstep, rfl⟩ := Option.map_eq_some_iff.mp hrecord
  exact ⟨buffers, hstep, rfl⟩

theorem step_spec {label : Label} (hstep : system.step s label = some s') : Step s label s' := by
  cases label with
  | queueAsk x =>
      simp only [system, step] at hstep
      split at hstep
      next => cases hstep
      next a ha =>
        split at hstep
        next => cases hstep
        next r hoffer =>
          obtain ⟨buffers, hbuffers, rfl⟩ := record_spec hstep
          exact .queueAsk a ha hoffer hbuffers
  | send k id x =>
      simp only [system, step] at hstep
      split at hstep
      next => cases hstep
      next b hb =>
        split at hstep
        next => cases hstep
        next r hoffer =>
          obtain ⟨buffers, hbuffers, rfl⟩ := record_spec hstep
          exact .send b hb hoffer hbuffers
  | other label =>
      simp only [system, step, Option.ite_none_right_eq_some] at hstep
      obtain ⟨buffers, hbuffers, rfl⟩ := record_spec hstep.2
      exact .other hstep.1 hbuffers

/-- The move that the buffers make. -/
theorem Step.keeps {label : Label} (hstep : Step s label s') (hkeeps : s.Keeps label) :
    ∃ buffersLabel, VBuffers.system.step s.buffers buffersLabel = some s'.buffers ∧
      s.buffers.Lossless buffersLabel ∧
      ∀ x ∈ s'.submitted, x.queued = true ∨ x ∈ s.submitted := by
  have hnew : ∀ {submitted : Submitted}, submitted.queued = true →
      ∀ x ∈ submitted :: s.submitted, x.queued = true ∨ x ∈ s.submitted := by
    intro submitted hqueued x hmem
    rcases List.mem_cons.mp hmem with rfl | hmem
    · exact .inl hqueued
    · exact .inr hmem
  cases hstep with
  | queueAsk a ha hoffer hbuffers =>
      have hqueued := (offer_queued hoffer).mpr (hkeeps a ha)
      exact ⟨_, hbuffers, hqueued, hnew hqueued⟩
  | send b hb hoffer hbuffers =>
      have hqueued := (offer_queued hoffer).mpr (hkeeps b hb)
      exact ⟨_, hbuffers, hqueued, hnew hqueued⟩
  | other hquiet hbuffers => exact ⟨_, hbuffers, hkeeps, fun x hmem => .inr hmem⟩

/-- The buffers run as they do on their own. -/
theorem reach_buffers {pool : VioGpuBuf} (hreach : system.Reach (start pool) s) :
    VBuffers.system.Reach (.start pool) s.buffers := by
  apply hreach.invariant (I := fun s => VBuffers.system.Reach (.start pool) s.buffers)
  · exact .refl
  · intro before label after hbefore _ hstep
    cases step_spec hstep with
    | queueAsk a ha hoffer hbuffers => exact .next hbefore trivial hbuffers
    | send b hb hoffer hbuffers => exact .next hbefore trivial hbuffers
    | other hquiet hbuffers => exact .next hbefore trivial hbuffers

/-- The moves at which a buffer in use can be left to nobody at once: a submission, and the
deletion of the queues. -/
def Label.Submits : Label → Prop
  | .queueAsk _ | .send _ _ _ | .other .powerCycle => True
  | .other _ => False

/-- A submission that is queued, or a deletion of the queues, loses a buffer exactly if the
condition is not met. -/
theorem Step.noneLost_iff {label : Label} (hstep : Step s label s') (hsubmits : label.Submits)
    (hnone : s.NoneLost) : s'.NoneLost ↔ s.Keeps label := by
  have hrefused : ∀ {submitted : Submitted}, s'.submitted = submitted :: s.submitted →
      submitted.queued = false → submitted.reply ≠ .failure → ¬ s'.NoneLost := by
    intro submitted heq hqueued hreply hnone'
    exact hreply (hnone'.told submitted (heq ▸ List.mem_cons_self) hqueued)
  have htold : ∀ {submitted : Submitted}, submitted.queued = true →
      ∀ x ∈ submitted :: s.submitted, x.queued = false → x.reply = .failure := by
    intro submitted hqueued x hmem hx
    rcases List.mem_cons.mp hmem with rfl | hmem
    · cases hqueued.symm.trans hx
    · exact hnone.told x hmem hx
  cases hstep with
  | @queueAsk x r buffers a ha hoffer hbuffers =>
      have hkeeps : s.Keeps (.queueAsk x) ↔ r.queued.isSome = true := by
        rw [offer_queued hoffer]
        exact ⟨fun h => h a ha, fun h a' ha' => by cases ha.symm.trans ha'; exact h⟩
      rw [hkeeps]
      by_cases hqueued : r.queued.isSome = true
      · have haccounted :=
          (VBuffers.system_spec hbuffers).2.accounted_queued hqueued hnone.accounted
        exact iff_of_true ⟨haccounted, htold hqueued⟩ hqueued
      · exact iff_of_false
          (hrefused rfl (Bool.eq_false_iff.mpr hqueued) (askReply_ne_failure _)) hqueued
  | @send k id x r buffers b hb hoffer hbuffers =>
      have hkeeps : s.Keeps (.send k id x) ↔ r.queued.isSome = true := by
        rw [offer_queued hoffer]
        exact ⟨fun h => h b hb, fun h b' hb' => by cases hb.symm.trans hb'; exact h⟩
      rw [hkeeps]
      by_cases hqueued : r.queued.isSome = true
      · have haccounted :=
          (VBuffers.system_spec hbuffers).2.accounted_queued hqueued hnone.accounted
        exact iff_of_true ⟨haccounted, htold hqueued⟩ hqueued
      · exact iff_of_false
          (hrefused rfl (Bool.eq_false_iff.mpr hqueued) (sendReply_ne_failure hoffer)) hqueued
  | @other label buffers hquiet hbuffers =>
      cases label with
      | powerCycle =>
          have hiff := (VBuffers.system_spec hbuffers).2.accounted_powerCycle
          exact ⟨fun hnone' => hiff.mp hnone'.accounted,
            fun hkeeps => ⟨hiff.mpr hkeeps, hnone.told⟩⟩
      | _ => cases hsubmits

/-- In every run whose moves meet the condition no buffer is lost and nobody is left without
word of a refusal. And a submission or a deletion of the queues keeps it so exactly if it
meets the condition. -/
theorem none_lost (cnt : Nat) (allocates : Nat → Bool) (s : Submissions) :
    (system.ReachUnder Keeps (start (.init cnt allocates)) s → s.NoneLost) ∧
      ∀ label s', label.Submits → system.step s label = some s' → s.NoneLost →
        (s'.NoneLost ↔ s.Keeps label) := by
  refine ⟨fun hreach => ?_, fun label s' hsubmits hstep hnone =>
    (step_spec hstep).noneLost_iff hsubmits hnone⟩
  have hboth : s.buffers.Tracked ∧ ∀ x ∈ s.submitted, x.queued = true := by
    apply hreach.invariant (I := fun s => s.buffers.Tracked ∧ ∀ x ∈ s.submitted, x.queued = true)
    · exact ⟨VBuffers.tracked_start (VioGpuBuf.apart_init ..) rfl, nofun⟩
    · intro before label after hinv hkeeps hstep
      obtain ⟨htracked, hqueued⟩ := hinv
      obtain ⟨buffersLabel, hbuffers, hlossless, hsubmitted⟩ := (step_spec hstep).keeps hkeeps
      refine ⟨(VBuffers.system_spec hbuffers).2.tracked hlossless htracked, fun x hmem => ?_⟩
      exact (hsubmitted x hmem).elim id (hqueued x)
  refine ⟨fun b hmem => VBuffers.located_iff.mp (hboth.1.located b hmem), fun x hmem hrefused => ?_⟩
  cases (hboth.2 x hmem).symm.trans hrefused

/-- A cursor command that is queued, executed and released. -/
theorem none_lost_served : ∃ s, NoneLost s ∧ s.submitted = [⟨true, .success⟩] ∧
    s.buffers.pool.freeBufs = [1, 0] := by
  let labels : List Label := [.other (.alloc 0 0), .send 0 .cursor (.cursor 16),
    .other (.complete .cursor 0), .other (.dequeue .cursor), .other (.handle .cursor 0),
    .other .powerCycle]
  have hrun : (system.checkedRun (fun s label => decide (s.Keeps label))
      (start (.init 2 fun _ => true)) labels).any (fun s =>
        s.submitted = [⟨true, .success⟩] ∧ s.buffers.pool.freeBufs = [1, 0]) = true := by
    decide +kernel
  obtain ⟨s, hreach, hvalues⟩ := System.exists_reachUnder (fun _ _ h => of_decide_eq_true h) hrun
  exact ⟨s, (none_lost 2 (fun _ => true) s).1 hreach, of_decide_eq_true hvalues⟩

/-- A pointer request that meets a full ring costs a buffer and reports success. -/
theorem lost : ¬ ∀ cnt allocates s, system.Reach (start (.init cnt allocates)) s → s.NoneLost := by
  have hrun : (system.run (start (.init 2 fun _ => true))
      [.other (.alloc 0 0), .send 0 .cursor (.cursor 0)]).any (fun s =>
        s.submitted = [⟨false, .success⟩] ∧ s.buffers.pool.inUseBufs = [0] ∧
          s.buffers.drafts = [] ∧ s.buffers.asker = none ∧ s.buffers.entries = []) = true := by
    decide +kernel
  obtain ⟨s, hreach, hvalues⟩ := System.exists_reach hrun
  obtain ⟨-, hused, hdrafts, hasker, hentries⟩ := of_decide_eq_true hvalues
  intro hclaim
  have hlocated :=
    (hclaim 2 (fun _ => true) s hreach).accounted 0 (hused ▸ List.mem_singleton_self _)
  rw [← VBuffers.located_iff, VBuffers.Located, hdrafts, hasker, hentries] at hlocated
  rcases hlocated with hmem | ⟨a, ⟨⟩, -⟩ | hmem
  · cases hmem
  · cases hmem

end Submissions

end VirtDisplay
