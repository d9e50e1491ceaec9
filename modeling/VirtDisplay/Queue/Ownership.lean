/-
# Who owns a buffer

A buffer in use has one owner: the thread that fills it, the queue it is on, the DPC
that took it, or the call that waits for it. A call that waits owns its buffer even
while the buffer is on the queue, so it must not give the buffer up before the queue
has. The wait that expires does just that, and from then on one buffer serves two
commands.

A completion that comes after its call has given up does no harm as long as the buffer
still names the event of that call and no other call waits for it: the DPC then sets an
event nobody listens to. This is the case in the moment between the dequeueing of a
buffer and its handling, in which a wait may expire as well.
-/

import VirtDisplay.Queue.Matching

namespace VirtDisplay

open Transition

namespace VBuffers

/-- Every call of `FreeBuf` got a buffer that was in use and on no queue, and no buffer
that `GetBuf` may hand out is on a queue. -/
def FreesSound (s : VBuffers) : Prop :=
  (∀ call ∈ s.frees, call.inUse = true ∧ call.outstanding = false) ∧
    ∀ b ∈ s.pool.freeBufs, b ∉ s.outstanding

/-- The call that queued this entry waits for it no longer. -/
def Abandoned (s : VBuffers) (e : Entry) : Prop :=
  e.waitsOn ≠ none ∧ ¬ ∃ a ∈ s.asker, a.stage = .waiting ∧ a.ticket = e.ticket

instance (s : VBuffers) (e : Entry) : Decidable (s.Abandoned e) :=
  inferInstanceAs (Decidable (_ ∧ _))

/-- A request for an EDID gets its buffer, a wait expires only when its buffer is on no
queue, and the buffer of a call that gave up is handled while it still names an event
that no call waits for. -/
def Patient (s : VBuffers) : Label → Prop
  | .ask (.edid _) allocates => allocates = true ∧ s.pool.freeBufs ≠ []
  | .timeout => ∀ a ∈ s.asker, a.buf ∉ s.outstanding
  | .handle .ctrl k => ∀ e ∈ s.ctrl.taken[k]?, s.Abandoned e →
      (s.pool.mem e.buf).event ≠ none ∧
        ∀ a ∈ s.asker, a.Awaits → (s.pool.mem e.buf).event ≠ some a.event
  | _ => True

instance (s : VBuffers) (label : Label) : Decidable (s.Patient label) :=
  match label with
  | .ask (.edid _) _ => inferInstanceAs (Decidable (_ ∧ _))
  | .timeout | .handle .ctrl _ => inferInstanceAs (Decidable (∀ _ ∈ _, _))
  | .ask (.displayInfo _) _ | .ask (.flush _) _ | .handle .cursor _ | .complete _ _ | .arm
  | .queueAsk _ | .wake | .releaseAsk | .alloc _ _ | .send _ _ _ | .dequeue _ | .powerCycle =>
      inferInstanceAs (Decidable True)

/-- The buffers that have an owner: those being filled, that of the call, and those of
the commands nobody waits for. -/
def held (s : VBuffers) : List BufId :=
  s.drafts ++ (s.asker.map Asker.buf).toList ++
    (s.entries.filter fun e => e.waitsOn.isNone).map Entry.buf

/-- What holds while every call is patient. -/
structure Owned (s : VBuffers) : Prop where
  numbered : s.Numbered
  apart : s.pool.Apart
  single : s.held.Nodup
  inUse : ∀ b ∈ s.held, b ∈ s.pool.inUseBufs
  draft : ∀ b ∈ s.drafts, (s.pool.mem b).event = none
  unnamed : ∀ e ∈ s.entries, e.waitsOn = none → (s.pool.mem e.buf).event = none
  named : ∀ a, s.asker = some a → a.stage ≠ .filling → (s.pool.mem a.buf).event = some a.event
  waits : ∀ e ∈ s.ctrl.outstanding, e.waitsOn ≠ none →
    ∃ a, s.asker = some a ∧ a.stage = .waiting ∧ a.ticket = e.ticket
  cursor : ∀ e ∈ s.cursor.entries, e.waitsOn = none
  silent : ∀ a, s.asker = some a → a.stage = .armed → s.signalled a.event = false
  heard : ∀ a, s.asker = some a → a.stage = .waiting → s.signalled a.event = true →
    ∀ e ∈ s.entries, e.ticket ≠ a.ticket
  frees : ∀ call ∈ s.frees, call.inUse = true ∧ call.outstanding = false

variable {s s' : VBuffers} {label : Label} {b : BufId} {a : Asker} {e : Entry}

theorem mem_held_of_draft (hmem : b ∈ s.drafts) : b ∈ s.held :=
  List.mem_append_left _ (List.mem_append_left _ hmem)

theorem mem_held_of_asker (ha : s.asker = some a) : a.buf ∈ s.held := by
  refine List.mem_append_left _ (List.mem_append_right _ ?_)
  rw [ha]
  exact List.mem_singleton_self _

theorem mem_held_of_entry (hmem : e ∈ s.entries) (hplain : e.waitsOn = none) : e.buf ∈ s.held := by
  refine List.mem_append_right _ (List.mem_map_of_mem (List.mem_filter.mpr ⟨hmem, ?_⟩))
  rw [hplain]
  rfl

theorem mem_entries_of_ctrl (hmem : e ∈ s.ctrl.entries) : e ∈ s.entries :=
  List.mem_append_left _ hmem

theorem mem_entries_of_outstanding {q : VirtQueue} (hmem : e ∈ q.outstanding) : e ∈ q.entries :=
  List.mem_append_left _ hmem

/-- A buffer on a queue has an owner. -/
theorem Owned.mem_held (howned : s.Owned) (hmem : b ∈ s.outstanding) : b ∈ s.held := by
  obtain ⟨e, hqueued, rfl⟩ := List.mem_map.mp hmem
  rcases List.mem_append.mp hqueued with hctrl | hcursor
  · have hentry : e ∈ s.entries := mem_entries_of_ctrl (mem_entries_of_outstanding hctrl)
    by_cases hplain : e.waitsOn = none
    · exact mem_held_of_entry hentry hplain
    · obtain ⟨a, ha, -, hticket⟩ := howned.waits e hctrl hplain
      rw [(howned.numbered.own a ha e hentry hticket.symm).1]
      exact mem_held_of_asker ha
  · have hentry : e ∈ s.cursor.entries := mem_entries_of_outstanding hcursor
    exact mem_held_of_entry (List.mem_append_right _ hentry) (howned.cursor e hentry)

theorem Owned.freesSound (howned : s.Owned) : s.FreesSound :=
  ⟨howned.frees, fun b hfree hmem =>
    howned.apart.not_mem hfree (howned.inUse b (howned.mem_held hmem))⟩

theorem owned_start {pool : VioGpuBuf} (hapart : pool.Apart) : (start pool).Owned where
  numbered := numbered_start pool
  apart := hapart
  single := List.nodup_nil
  inUse b hmem := by cases hmem
  draft b hmem := by cases hmem
  unnamed e hmem := by cases hmem
  named a ha := by cases ha
  waits e hmem := by cases hmem
  cursor e hmem := by cases hmem
  silent a ha := by cases ha
  heard a ha := by cases ha
  frees call hmem := by cases hmem

/-- A step of the queues: owners change only among those there are. -/
theorem Owned.of_kept (howned : s.Owned) (hnumbered : s'.Numbered)
    (hpool : s'.pool.freeBufs = s.pool.freeBufs ∧ s'.pool.inUseBufs = s.pool.inUseBufs ∧
      ∀ b, (s'.pool.mem b).event = (s.pool.mem b).event)
    (hasker : s'.asker = s.asker) (hsignalled : s'.signalled = s.signalled)
    (hfrees : s'.frees = s.frees) (hheld : s'.held.Subperm s.held)
    (hdrafts : ∀ b ∈ s'.drafts, b ∈ s.drafts)
    (hentries : ∀ e ∈ s'.entries, e ∈ s.entries ∨
      e.buf ∈ s.drafts ∧ ∀ a, s.asker = some a → e.ticket ≠ a.ticket)
    (houtstanding : ∀ e ∈ s'.ctrl.outstanding, e.waitsOn ≠ none → e ∈ s.ctrl.outstanding)
    (hcursor : ∀ e ∈ s'.cursor.entries, e.waitsOn = none) : s'.Owned := by
  obtain ⟨hfree, hinUse, hevent⟩ := hpool
  have hsubset := hheld.subset
  obtain ⟨kept, hkept, hsublist⟩ := hheld
  refine ⟨hnumbered, ?_, ?_, ?_, ?_, ?_, ?_, ?_, hcursor, ?_, ?_, ?_⟩
  · unfold VioGpuBuf.Apart
    rw [hfree, hinUse]
    exact howned.apart
  · exact hkept.nodup_iff.mp (hsublist.nodup howned.single)
  · rw [hinUse]
    exact fun b hmem => howned.inUse b (hsubset hmem)
  · intro b hmem
    rw [hevent]
    exact howned.draft b (hdrafts b hmem)
  · intro e hmem hplain
    rw [hevent]
    rcases hentries e hmem with hmem | ⟨hmem, -⟩
    · exact howned.unnamed e hmem hplain
    · exact howned.draft e.buf hmem
  · rw [hasker]
    intro a ha hstage
    rw [hevent]
    exact howned.named a ha hstage
  · rw [hasker]
    exact fun e hmem hwaits => howned.waits e (houtstanding e hmem hwaits) hwaits
  · rw [hasker, hsignalled]
    exact howned.silent
  · rw [hasker, hsignalled]
    intro a ha hstage hset e hmem
    rcases hentries e hmem with hmem | ⟨-, hother⟩
    · exact howned.heard a ha hstage hset e hmem
    · exact hother a ha
  · rw [hfrees]
    exact howned.frees

/-- The buffers owned, when the entries only changed places or went. -/
theorem held_subperm (hdrafts : s'.drafts = s.drafts) (hasker : s'.asker = s.asker)
    (hentries : s'.entries.Subperm s.entries) : s'.held.Subperm s.held := by
  unfold held
  rw [hdrafts, hasker]
  obtain ⟨kept, hkept, hsublist⟩ := hentries
  refine List.Subperm.append (List.Subperm.refl _)
    ⟨(kept.filter fun e => e.waitsOn.isNone).map Entry.buf, ?_, ?_⟩
  · exact (hkept.filter _).map _
  · exact (hsublist.filter _).map _

/-- The event a DPC sets is not one that a call waits for in vain. -/
theorem Owned.signal {event : EventId} (howned : s.Owned)
    (hheard : ∀ a, s.asker = some a → a.Awaits → event = a.event →
      a.stage = .waiting ∧ ∀ e ∈ s.entries, e.ticket ≠ a.ticket) :
    { s with signalled := Function.update s.signalled event true }.Owned := by
  refine ⟨⟨howned.numbered.nodup, howned.numbered.below, howned.numbered.asker_below,
    howned.numbered.unqueued, howned.numbered.own⟩, howned.apart, howned.single, howned.inUse,
    howned.draft, howned.unnamed, howned.named, howned.waits, howned.cursor, ?_, ?_, howned.frees⟩
  · intro a ha hstage
    by_cases heq : event = a.event
    · have hwaiting := (hheard a ha (.inl hstage) heq).1
      rw [hstage] at hwaiting
      cases hwaiting
    · exact (Function.update_of_ne (Ne.symm heq) ..).trans (howned.silent a ha hstage)
  · intro a ha hstage hset
    by_cases heq : event = a.event
    · exact (hheard a ha (.inr hstage) heq).2
    · have hkept : s.signalled a.event = true :=
        (Function.update_of_ne (Ne.symm heq) true s.signalled).symm.trans hset
      exact howned.heard a ha hstage hkept

/-- A buffer in use without an owner can be released. -/
theorem Owned.release (howned : s.Owned) (hused : b ∈ s.pool.inUseBufs) (hheld : b ∉ s.held) :
    (s.release (some b)).Owned := by
  have hqueued : b ∉ s.outstanding := fun hmem => hheld (howned.mem_held hmem)
  obtain ⟨pool, hfree⟩ := VioGpuBuf.exists_freeBuf hused
  have hfrees := VioGpuBuf.freeBuf_frees hfree
  have hrelease : s.release (some b) =
      { s with pool := pool, frees := ⟨some b, true, false⟩ :: s.frees } := by
    simp [VBuffers.release, hfree, hused, hqueued]
  rw [hrelease]
  refine ⟨⟨howned.numbered.nodup, howned.numbered.below, howned.numbered.asker_below,
    howned.numbered.unqueued, howned.numbered.own⟩, hfrees.apart howned.apart hused, howned.single,
    ?_, ?_, ?_, ?_, howned.waits, howned.cursor, howned.silent, howned.heard, ?_⟩
  · exact fun b' hmem =>
      hfrees.inUse_of_ne (ne_of_mem_of_not_mem hmem hheld) (howned.inUse b' hmem)
  · exact fun b' hmem => (hfrees.event b').trans (howned.draft b' hmem)
  · exact fun e hmem hplain => (hfrees.event e.buf).trans (howned.unnamed e hmem hplain)
  · exact fun a ha hstage => (hfrees.event a.buf).trans (howned.named a ha hstage)
  · rintro call (- | ⟨-, hmem⟩)
    · exact ⟨rfl, rfl⟩
    · exact howned.frees call hmem

/-- A queue moves entries along or loses them. -/
theorem Owned.setQueue {id : QueueId} {q : VirtQueue} (howned : s.Owned)
    (hentries : q.entries.Subperm (s.queue id).entries)
    (houtstanding : ∀ e ∈ q.outstanding, e ∈ (s.queue id).outstanding) :
    (s.setQueue id q).Owned := by
  have hfewer := entries_setQueue_subperm hentries
  refine howned.of_kept (howned.numbered.setQueue hentries) ?_ (setQueue_asker ..)
    (setQueue_signalled ..) (setQueue_frees ..)
    (held_subperm (setQueue_drafts ..) (setQueue_asker ..) hfewer) ?_ ?_ ?_ ?_
  · simp
  · exact fun b hmem => (setQueue_drafts s ..) ▸ hmem
  · exact fun e hmem => .inl (hfewer.subset hmem)
  · intro e hmem _
    cases id with
    | ctrl => exact houtstanding e hmem
    | cursor => exact hmem
  · intro e hmem
    cases id with
    | ctrl => exact howned.cursor e hmem
    | cursor => exact howned.cursor e (hentries.subset hmem)

/-- A plain entry leaves the queues, and its buffer has no owner any more. -/
theorem Owned.not_mem_held {id : QueueId} {q : VirtQueue} (howned : s.Owned)
    (hfinishes : (s.queue id).Finishes e q) (hplain : e.waitsOn = none) :
    e.buf ∉ (s.setQueue id q).held := by
  have hentries := setQueue_perm VirtQueue.entries [e] hfinishes.entries
  have hheld : s.held.Perm (e.buf :: (s.setQueue id q).held) := by
    have hplainEntries := ((hentries.filter fun e => e.waitsOn.isNone).map Entry.buf)
    unfold held
    rw [setQueue_drafts, setQueue_asker]
    rw [List.singleton_append, List.filter_cons_of_pos (by rw [hplain]; rfl), List.map_cons]
      at hplainEntries
    exact (hplainEntries.append_left _).trans List.perm_middle
  exact (List.nodup_cons.mp (hheld.nodup_iff.mp howned.single)).1

/-! ## Steps that take a buffer -/

/-- What taking a buffer does to those that have owners: nothing. -/
theorem Owned.gets {respSize : Nat} {pool : VioGpuBuf} (howned : s.Owned)
    (hgets : VioGpuBuf.Gets respSize s.pool b pool) :
    b ∉ s.held ∧ ∀ b' ∈ s.held, b' ∈ pool.inUseBufs ∧
      (pool.mem b').event = (s.pool.mem b').event := by
  have hnew : b ∉ s.held := fun hmem => hgets.not_inUse howned.apart (howned.inUse b hmem)
  refine ⟨hnew, fun b' hmem => ⟨?_, ?_⟩⟩
  · rw [hgets.inUse]
    exact List.mem_append_left _ (howned.inUse b' hmem)
  · rw [hgets.mem_of_ne (ne_of_mem_of_not_mem hmem hnew)]

/-- The buffer taken is one more with an owner. -/
theorem Owned.gets_held {respSize : Nat} {pool : VioGpuBuf} {now : List BufId} (howned : s.Owned)
    (hgets : VioGpuBuf.Gets respSize s.pool b pool) (hnow : now.Perm (b :: s.held)) :
    now.Nodup ∧ ∀ b' ∈ now, b' ∈ pool.inUseBufs := by
  obtain ⟨hnew, hkept⟩ := howned.gets hgets
  constructor
  · exact hnow.nodup_iff.mpr (List.nodup_cons.mpr ⟨hnew, howned.single⟩)
  · intro b' hmem
    rcases List.mem_cons.mp (hnow.mem_iff.mp hmem) with rfl | hmem
    · rw [hgets.inUse]
      exact List.mem_append_right _ (List.mem_singleton_self _)
    · exact (hkept b' hmem).1

/-- A call takes a buffer. -/
theorem Owned.ask {event : EventId} {pool : VioGpuBuf} (howned : s.Owned) (hidle : s.asker = none)
    (hgets : VioGpuBuf.Gets event.respSize s.pool b pool) :
    { s with
      pool := pool
      asker := some ⟨.filling, b, event, s.nextTicket⟩
      nextTicket := s.nextTicket + 1 }.Owned := by
  have hnumbered := (@Step.asked s event true b pool hidle hgets).numbered howned.numbered
  have hheld : { s with
      pool := pool
      asker := some ⟨.filling, b, event, s.nextTicket⟩
      nextTicket := s.nextTicket + 1 }.held.Perm (b :: s.held) := by
    unfold held
    rw [hidle, Option.map_none, Option.toList_none, List.append_nil]
    exact (List.perm_append_singleton b s.drafts).append_right _
  obtain ⟨hsingle, hinUse⟩ := howned.gets_held hgets hheld
  have hold : ∀ b' ∈ s.held, (pool.mem b').event = (s.pool.mem b').event :=
    fun b' hmem => ((howned.gets hgets).2 b' hmem).2
  refine ⟨hnumbered, hgets.apart howned.apart, hsingle, hinUse, ?_, ?_, ?_, ?_, howned.cursor, ?_,
    ?_, howned.frees⟩
  · exact fun b' hmem => (hold b' (mem_held_of_draft hmem)).trans (howned.draft b' hmem)
  · exact fun e hmem hplain =>
      (hold _ (mem_held_of_entry hmem hplain)).trans (howned.unnamed e hmem hplain)
  · rintro a ⟨⟩ hstage
    exact absurd rfl hstage
  · intro e hmem hwaits
    obtain ⟨a, ha, -⟩ := howned.waits e hmem hwaits
    cases hidle.symm.trans ha
  · rintro a ⟨⟩ hstage
    cases hstage
  · rintro a ⟨⟩ hstage
    cases hstage

/-- A thread takes a buffer to fill it. -/
theorem Owned.alloc {respSize dataSize : Nat} {pool : VioGpuBuf} (howned : s.Owned)
    (hgets : VioGpuBuf.Gets respSize s.pool b pool) :
    { s with
      pool := pool.write b fun v => { v with dataSize := dataSize }
      drafts := s.drafts ++ [b] }.Owned := by
  have hnumbered := (@Step.drafted s respSize dataSize b pool hgets).numbered howned.numbered
  have hheld : { s with
      pool := pool.write b fun v => { v with dataSize := dataSize }
      drafts := s.drafts ++ [b] }.held.Perm (b :: s.held) := by
    unfold held
    rw [List.append_assoc, List.append_assoc, List.append_assoc]
    exact List.perm_middle
  obtain ⟨hsingle, hinUse⟩ := howned.gets_held hgets hheld
  obtain ⟨hnew, hkept⟩ := howned.gets hgets
  have hold : ∀ b' ∈ s.held,
      ((pool.write b fun v => { v with dataSize := dataSize }).mem b').event =
        (s.pool.mem b').event := by
    intro b' hmem
    rw [VioGpuBuf.write_mem_of_ne (ne_of_mem_of_not_mem hmem hnew), (hkept b' hmem).2]
  have hcleared : ((pool.write b fun v => { v with dataSize := dataSize }).mem b).event =
      none := by
    rw [VioGpuBuf.write_mem_self, hgets.mem_self]
    rfl
  refine ⟨hnumbered, hgets.apart howned.apart, hsingle, hinUse, ?_, ?_, ?_,
    howned.waits, howned.cursor, howned.silent, howned.heard, howned.frees⟩
  · intro b' hmem
    rcases List.mem_append.mp hmem with hmem | hmem
    · exact (hold b' (mem_held_of_draft hmem)).trans (howned.draft b' hmem)
    · exact List.mem_singleton.mp hmem ▸ hcleared
  · exact fun e hmem hplain =>
      (hold _ (mem_held_of_entry hmem hplain)).trans (howned.unnamed e hmem hplain)
  · exact fun a ha hstage => (hold _ (mem_held_of_asker ha)).trans (howned.named a ha hstage)

/-- While the call does not wait, nobody waits for what is on the queue. -/
theorem Owned.plain_of_not_waiting (howned : s.Owned) (ha : s.asker = some a)
    (hstage : a.stage ≠ .waiting) : ∀ e ∈ s.ctrl.outstanding, e.waitsOn = none := by
  intro e hmem
  by_contra hwaits
  obtain ⟨a', ha', hwaiting, -⟩ := howned.waits e hmem hwaits
  obtain rfl := Option.some.inj (ha.symm.trans ha')
  exact hstage hwaiting

/-- The buffer of the call is nobody else's. -/
theorem Owned.own_buf (howned : s.Owned) (ha : s.asker = some a) :
    a.buf ∉ s.drafts ∧ ∀ e ∈ s.entries, e.waitsOn = none → e.buf ≠ a.buf := by
  have hsingle := howned.single
  unfold held at hsingle
  rw [ha, Option.map_some, Option.toList_some] at hsingle
  obtain ⟨hbefore, -, hentries⟩ := List.nodup_append.mp hsingle
  constructor
  · intro hmem
    exact (List.nodup_append.mp hbefore).2.2 _ hmem _ (List.mem_singleton_self _) rfl
  · intro e hmem hplain heq
    have hown : a.buf ∈ s.drafts ++ [a.buf] := List.mem_append_right _ (List.mem_singleton_self _)
    apply hentries _ hown e.buf _ heq.symm
    exact List.mem_map_of_mem (List.mem_filter.mpr ⟨hmem, by rw [hplain]; rfl⟩)

/-- A call names its event in its buffer. -/
theorem Owned.arm {event : EventId} {ticket : Nat} (howned : s.Owned)
    (hasker : s.asker = some ⟨.filling, b, event, ticket⟩) :
    { s with
      pool := s.pool.write b fun v => { v with event := some event }
      signalled := Function.update s.signalled event false
      asker := some ⟨.armed, b, event, ticket⟩ }.Owned := by
  have hnumbered := (Step.armed hasker).numbered howned.numbered
  obtain ⟨hdraft, hentry⟩ := howned.own_buf hasker
  have hplain := howned.plain_of_not_waiting hasker Stage.noConfusion
  have hheld : { s with
      pool := s.pool.write b fun v => { v with event := some event }
      signalled := Function.update s.signalled event false
      asker := some ⟨.armed, b, event, ticket⟩ }.held = s.held := by
    unfold held
    rw [hasker]
    rfl
  have hother : ∀ {b'}, b' ≠ b →
      ((s.pool.write b fun v => { v with event := some event }).mem b').event =
        (s.pool.mem b').event :=
    fun hne => by rw [VioGpuBuf.write_mem_of_ne hne]
  have hself : ((s.pool.write b fun v => { v with event := some event }).mem b).event =
      some event := by
    rw [VioGpuBuf.write_mem_self]
  refine ⟨hnumbered, howned.apart, hheld ▸ howned.single, hheld ▸ howned.inUse, ?_, ?_, ?_, ?_,
    howned.cursor, ?_, ?_, howned.frees⟩
  · exact fun b' hmem => (hother (ne_of_mem_of_not_mem hmem hdraft)).trans (howned.draft b' hmem)
  · exact fun e hmem hplain =>
      (hother (hentry e hmem hplain)).trans (howned.unnamed e hmem hplain)
  · rintro a ⟨⟩ -
    exact hself
  · exact fun e hmem hwaits => absurd (hplain e hmem) hwaits
  · rintro a ⟨⟩ -
    exact Function.update_self ..
  · rintro a ⟨⟩ hstage
    cases hstage

/-- A call queues its buffer and waits, also if the queue has not taken the buffer. -/
theorem Owned.queueAsk {event : EventId} {ticket : Nat} {ctrl : VirtQueue} (howned : s.Owned)
    (hasker : s.asker = some ⟨.armed, b, event, ticket⟩)
    (hctrl : ctrl = s.ctrl.push ⟨b, ticket, some event⟩ ∨ ctrl = s.ctrl)
    (hnumbered : { s with ctrl := ctrl, asker := some ⟨.waiting, b, event, ticket⟩ }.Numbered) :
    { s with ctrl := ctrl, asker := some ⟨.waiting, b, event, ticket⟩ }.Owned := by
  have hnone := howned.plain_of_not_waiting hasker Stage.noConfusion
  have hnamed := howned.named _ hasker nofun
  have hsilent := howned.silent _ hasker rfl
  have hring : (∀ e ∈ ctrl.entries, e = ⟨b, ticket, some event⟩ ∨ e ∈ s.ctrl.entries) ∧
      (∀ e ∈ ctrl.outstanding, e = ⟨b, ticket, some event⟩ ∨ e ∈ s.ctrl.outstanding) ∧
      (ctrl.entries.filter fun e => e.waitsOn.isNone).Perm
        (s.ctrl.entries.filter fun e => e.waitsOn.isNone) := by
    rcases hctrl with rfl | rfl
    · have hentries := s.ctrl.entries_push ⟨b, ticket, some event⟩
      refine ⟨fun e hmem => List.mem_cons.mp (hentries.mem_iff.mp hmem), fun e hmem =>
        List.mem_cons.mp ((s.ctrl.outstanding_push _).mem_iff.mp hmem), ?_⟩
      exact (hentries.filter _).trans (List.Perm.of_eq (List.filter_cons_of_neg nofun))
    · exact ⟨fun e hmem => .inr hmem, fun e hmem => .inr hmem, List.Perm.refl _⟩
  obtain ⟨hentries, houtstanding, hplain⟩ := hring
  have hheld : { s with ctrl := ctrl, asker := some ⟨.waiting, b, event, ticket⟩ }.held.Perm
      s.held := by
    unfold held VBuffers.entries
    rw [hasker, List.filter_append, List.filter_append]
    exact ((hplain.append_right _).map _).append_left _
  refine ⟨hnumbered, howned.apart, hheld.nodup_iff.mpr howned.single,
    fun b' hmem => howned.inUse b' (hheld.mem_iff.mp hmem), howned.draft, ?_, ?_, ?_,
    howned.cursor, ?_, ?_, howned.frees⟩
  · intro e hmem hplain
    rcases List.mem_append.mp hmem with hctrl | hcursor
    · rcases hentries e hctrl with rfl | hctrl
      · cases hplain
      · exact howned.unnamed e (mem_entries_of_ctrl hctrl) hplain
    · exact howned.unnamed e (List.mem_append_right _ hcursor) hplain
  · rintro a ⟨⟩ -
    exact hnamed
  · intro e hmem hwaits
    rcases houtstanding e hmem with rfl | hmem
    · exact ⟨_, rfl, rfl, rfl⟩
    · exact absurd (hnone e hmem) hwaits
  · rintro a ⟨⟩ hstage
    cases hstage
  · rintro a ⟨⟩ - hset
    exact absurd (hsilent.symm.trans hset) Bool.false_ne_true

/-- A call ends its wait once the queue has given its buffer back. -/
theorem Owned.endWait {b : BufId} {event : EventId} {ticket : Nat} (howned : s.Owned)
    (hasker : s.asker = some ⟨.waiting, b, event, ticket⟩)
    (hgone : ∀ e ∈ s.ctrl.outstanding, e.ticket ≠ ticket) (wakes : List Wake) :
    { s with asker := some ⟨.woken, b, event, ticket⟩, wakes := wakes }.Owned := by
  have hplain : ∀ e ∈ s.ctrl.outstanding, e.waitsOn = none := by
    intro e hmem
    by_contra hwaits
    obtain ⟨a, ha, -, hticket⟩ := howned.waits e hmem hwaits
    obtain rfl := Option.some.inj (hasker.symm.trans ha)
    exact hgone e hmem hticket.symm
  have hheld :
    { s with asker := some ⟨.woken, b, event, ticket⟩, wakes := wakes }.held = s.held := by
    unfold held
    rw [hasker]
    rfl
  have hnamed := howned.named _ hasker nofun
  refine ⟨?_, howned.apart, hheld ▸ howned.single, hheld ▸ howned.inUse, howned.draft,
    howned.unnamed, ?_, ?_, howned.cursor, ?_, ?_, howned.frees⟩
  · refine howned.numbered.move hasker rfl ⟨rfl, rfl, rfl⟩ ?_ rfl rfl
    rintro (h | h) <;> cases h
  · rintro a ⟨⟩ -
    exact hnamed
  · exact fun e hmem hwaits => absurd (hplain e hmem) hwaits
  · rintro a ⟨⟩ hstage
    cases hstage
  · rintro a ⟨⟩ hstage
    cases hstage

/-- A call that has woken up releases its buffer. -/
theorem Owned.releaseAsk {event : EventId} {ticket : Nat} (howned : s.Owned)
    (hasker : s.asker = some ⟨.woken, b, event, ticket⟩) :
    ({ s with asker := none }.release (some b)).Owned := by
  have hplain := howned.plain_of_not_waiting hasker Stage.noConfusion
  have hheld : s.held.Perm (b :: { s with asker := none }.held) := by
    unfold held
    rw [hasker, Option.map_some, Option.toList_some, Option.map_none, Option.toList_none,
      List.append_nil]
    exact (List.perm_append_singleton b s.drafts).append_right _
  have hfewer : ∀ b' ∈ { s with asker := none }.held, b' ∈ s.held :=
    fun b' hmem => hheld.mem_iff.mpr (List.mem_cons_of_mem _ hmem)
  have hsingle := List.nodup_cons.mp (hheld.nodup_iff.mp howned.single)
  have hidle : { s with asker := none }.Owned := by
    refine ⟨⟨howned.numbered.nodup, howned.numbered.below, nofun, nofun, nofun⟩, howned.apart,
      hsingle.2, fun b' hmem => howned.inUse b' (hfewer b' hmem), howned.draft, howned.unnamed,
      nofun, ?_, howned.cursor, nofun, nofun, howned.frees⟩
    exact fun e hmem hwaits => absurd (hplain e hmem) hwaits
  exact hidle.release (howned.inUse b (mem_held_of_asker hasker)) hsingle.1

/-! ## The steps of the queues -/

/-- A buffer that has been filled is queued, or lost if the queue does not take it. -/
theorem Owned.send {k : Nat} {id : QueueId} {accepted : Bool} (howned : s.Owned)
    (hdraft : s.drafts.Perm (b :: s.drafts.eraseIdx k)) :
    { s.setQueue id
        (if accepted then (s.queue id).push ⟨b, s.nextTicket, none⟩ else s.queue id) with
      drafts := s.drafts.eraseIdx k
      nextTicket := s.nextTicket + 1 }.Owned := by
  have hnumbered := (@Step.sent s k id accepted b hdraft).numbered howned.numbered
  have hfilled : b ∈ s.drafts := hdraft.mem_iff.mpr List.mem_cons_self
  have hfewer : ∀ b' ∈ s.drafts.eraseIdx k, b' ∈ s.drafts :=
    fun b' hmem => hdraft.mem_iff.mpr (List.mem_cons_of_mem _ hmem)
  cases accepted with
  | false =>
      simp only [Bool.false_eq_true, if_false, setQueue_queue] at hnumbered ⊢
      refine howned.of_kept hnumbered ⟨rfl, rfl, fun _ => rfl⟩ rfl rfl rfl ?_ hfewer
        (fun _ h => .inl h) (fun _ h _ => h) howned.cursor
      have hdrafts : (s.drafts.eraseIdx k).Subperm s.drafts :=
        (List.sublist_cons_self b _).subperm.trans hdraft.symm.subperm
      exact (hdrafts.append (List.Subperm.refl _)).append (List.Subperm.refl _)
  | true =>
      have hpush := (s.queue id).entries_push ⟨b, s.nextTicket, none⟩
      have hentries := perm_setQueue VirtQueue.entries [_] hpush
      have hcases : ∀ {q : List Entry} {old : List Entry}, q.Perm (⟨b, s.nextTicket, none⟩ :: old) →
          ∀ e ∈ q, e = ⟨b, s.nextTicket, none⟩ ∨ e ∈ old :=
        fun hperm e hmem => List.mem_cons.mp (hperm.mem_iff.mp hmem)
      refine howned.of_kept hnumbered ?_ (setQueue_asker ..) (setQueue_signalled ..)
        (setQueue_frees ..) ?_ hfewer ?_ ?_ ?_
      · show (s.setQueue id _).pool.freeBufs = _ ∧ _
        simp
      · have hplain := (hentries.filter fun e => e.waitsOn.isNone).map Entry.buf
        have hheld : (s.drafts.eraseIdx k ++ (s.asker.map Asker.buf).toList ++
            b :: (s.entries.filter fun e => e.waitsOn.isNone).map Entry.buf).Perm s.held :=
          List.perm_middle.trans ((hdraft.symm.append_right _).append_right _)
        apply List.Perm.subperm
        refine List.Perm.trans ?_ hheld
        unfold held
        simp only [if_true, setQueue_asker]
        exact hplain.append_left _
      · intro e hmem
        rcases hcases hentries e hmem with rfl | hmem
        · exact .inr ⟨hfilled, fun a ha => (Nat.ne_of_lt (howned.numbered.asker_below a ha)).symm⟩
        · exact .inl hmem
      · intro e hmem hwaits
        cases id with
        | cursor => exact hmem
        | ctrl =>
            rcases hcases (s.ctrl.outstanding_push _) e hmem with rfl | hmem
            · exact absurd rfl hwaits
            · exact hmem
      · intro e hmem
        cases id with
        | ctrl => exact howned.cursor e hmem
        | cursor =>
            rcases hcases (s.cursor.entries_push _) e hmem with rfl | hmem
            · rfl
            · exact howned.cursor e hmem

/-- The DPC handles a buffer that a patient call has waited for, or that nobody has. -/
theorem Owned.handle {id : QueueId} {k : Nat} {q : VirtQueue} (howned : s.Owned)
    (hpatient : Patient s (.handle id k)) (hget : (s.queue id).taken[k]? = some e)
    (hfinishes : (s.queue id).Finishes e q) : ((s.setQueue id q).handleEntry id e).Owned := by
  have hfinished := howned.setQueue hfinishes.entries_subperm
    fun e' hmem => hfinishes.outstanding ▸ hmem
  have hentry : e ∈ s.entries :=
    (setQueue_perm VirtQueue.entries [e] hfinishes.entries).mem_iff.mpr List.mem_cons_self
  have hreleased : e.waitsOn = none → ((s.setQueue id q).release (some e.buf)).Owned := by
    intro hplain
    refine hfinished.release ?_ (howned.not_mem_held hfinishes hplain)
    rw [setQueue_pool]
    exact howned.inUse _ (mem_held_of_entry hentry hplain)
  cases id with
  | cursor =>
      have hcursor : e ∈ s.cursor.entries :=
        hfinishes.entries.mem_iff.mpr List.mem_cons_self
      exact hreleased (howned.cursor e hcursor)
  | ctrl =>
      unfold handleEntry
      split
      next event _ hevent =>
        rw [setQueue_pool] at hevent
        apply hfinished.signal
        intro a ha hawaits heq
        rw [setQueue_asker] at ha
        have hwaits : e.waitsOn ≠ none := by
          intro hplain
          cases (howned.unnamed e hentry hplain).symm.trans hevent
        have hcalls : ∃ a ∈ s.asker, a.stage = .waiting ∧ a.ticket = e.ticket := by
          by_contra hnone
          exact (hpatient e hget ⟨hwaits, hnone⟩).2 a ha hawaits (heq ▸ hevent)
        obtain ⟨a', ha', hstage, hticket⟩ := hcalls
        obtain rfl := Option.some.inj (ha.symm.trans ha')
        -- the entry just handled was the only one with this number
        have hothers := ((setQueue_perm VirtQueue.entries [e] hfinishes.entries).map
          Entry.ticket).nodup_iff.mp howned.numbered.nodup
        refine ⟨hstage, fun e' hmem heq' => (List.nodup_cons.mp hothers).1 ?_⟩
        rw [← hticket, ← heq']
        exact List.mem_map_of_mem hmem
      next hevent =>
        apply hreleased
        by_contra hwaits
        have hnone : (s.pool.mem e.buf).event = none := by
          by_contra hsome
          obtain ⟨event, hsome⟩ := Option.ne_none_iff_exists'.mp hsome
          exact hevent event rfl hsome
        by_cases hcalls : ∃ a ∈ s.asker, a.stage = .waiting ∧ a.ticket = e.ticket
        · obtain ⟨a, ha, hstage, hticket⟩ := hcalls
          have hnamed := howned.named a ha (by rw [hstage]; exact nofun)
          rw [← (howned.numbered.own a ha e hentry hticket.symm).1] at hnamed
          cases hnone.symm.trans hnamed
        · exact (hpatient e hget ⟨hwaits, hcalls⟩).1 hnone

theorem Step.owned (hstep : Step s label s') (hpatient : Patient s label) (howned : s.Owned) :
    s'.Owned := by
  have hnumbered := hstep.numbered howned.numbered
  cases hstep with
  | @askFailed event allocates hidle hnone =>
      cases event with
      | edid i =>
          obtain ⟨hallocates, hfree⟩ := hpatient
          rcases hnone with hnone | hnone
          · rw [hallocates] at hnone
            cases hnone
          · exact absurd hnone hfree
      | displayInfo i => exact howned
      | flush i => exact howned
  | asked hidle hgets => exact howned.ask hidle hgets
  | armed hasker => exact howned.arm hasker
  | queued hasker => exact howned.queueAsk hasker (ite_eq_or_eq ..) hnumbered
  | @woken b event ticket hasker hset =>
      exact howned.endWait hasker (fun e hmem => howned.heard _ hasker rfl hset e
        (mem_entries_of_ctrl (mem_entries_of_outstanding hmem))) _
  | @expired b event ticket hasker =>
      refine howned.endWait hasker (fun e hmem hticket => ?_) _
      have hentry : e ∈ s.entries := mem_entries_of_ctrl (mem_entries_of_outstanding hmem)
      have hbuf := (howned.numbered.own _ hasker e hentry hticket).1
      apply hpatient _ hasker
      rw [← hbuf]
      exact List.mem_map_of_mem (List.mem_append_left _ hmem)
  | released hasker => exact howned.releaseAsk hasker
  | dry => exact howned
  | drafted hgets => exact howned.alloc hgets
  | sent hdraft => exact howned.send hdraft
  | @completed id k e q hget hcompletes =>
      have hmoved := howned.setQueue hcompletes.entries.subperm
        fun e' hmem => hcompletes.outstanding.mem_iff.mp hmem
      cases id with
      | cursor => exact hmoved
      | ctrl =>
          have hevent : ∀ b, ((s.pool.write e.buf fun v => { v with response := some e.ticket }).mem
              b).event = (s.pool.mem b).event := by
            intro b
            by_cases heq : b = e.buf
            · rw [heq, VioGpuBuf.write_mem_self]
            · rw [VioGpuBuf.write_mem_of_ne heq]
          exact hmoved.of_kept hnumbered ⟨rfl, rfl, hevent⟩ rfl rfl rfl (List.Subperm.refl _)
            (fun _ h => h) (fun _ h => .inl h) (fun _ h _ => h) hmoved.cursor
  | @dequeued id e q hdequeues =>
      have hmoved := howned.setQueue hdequeues.entries.subperm
        fun e' hmem => hdequeues.outstanding.mem_iff.mpr (List.mem_cons_of_mem _ hmem)
      exact hmoved.of_kept hnumbered ⟨rfl, rfl, fun _ => rfl⟩ rfl rfl rfl (List.Subperm.refl _)
        (fun _ h => h) (fun _ h => .inl h) (fun _ h _ => h) hmoved.cursor
  | handled hget hfinishes => exact howned.handle hpatient hget hfinishes
  | powerCycled =>
      refine howned.of_kept hnumbered ⟨rfl, rfl, fun _ => rfl⟩ rfl rfl rfl
        (held_subperm rfl rfl List.nil_subperm) (fun b hmem => hmem) ?_ ?_ ?_
      · exact fun e hmem => by cases hmem
      · exact fun e hmem => by cases hmem
      · exact fun e hmem => by cases hmem

/-- While every call is patient, `FreeBuf` gets buffers that are in use and on no queue. -/
theorem frees_sound {cnt : Nat} {allocates : Nat → Bool}
    (hreach : system.ReachUnder Patient (start (.init cnt allocates)) s) : s.FreesSound := by
  refine Owned.freesSound (hreach.invariant (owned_start (VioGpuBuf.apart_init ..)) ?_)
  intro before label after howned hpatient hstep
  exact (system_spec hstep).2.owned hpatient howned

/-- A request for an EDID, a flush and a cursor command, each answered. -/
def servedRun : List Label :=
  [.ask (.edid 0) true, .arm, .queueAsk true, .complete .ctrl 0, .dequeue .ctrl, .handle .ctrl 0,
    .wake, .releaseAsk,
    .ask (.flush 0) true, .arm, .queueAsk true, .complete .ctrl 0, .dequeue .ctrl, .handle .ctrl 0,
    .wake, .releaseAsk,
    .alloc 0 0, .send 0 .cursor true, .complete .cursor 0, .dequeue .cursor, .handle .cursor 0]

theorem frees_sound_served :
    ∃ s, system.ReachUnder Patient (start (.init 2 fun _ => true)) s ∧
      s.frees.length = 3 ∧ s.FreesSound := by
  have hrun : (system.checkedRun (fun s label => decide (s.Patient label))
      (start (.init 2 fun _ => true)) servedRun).any (fun s => s.frees.length = 3) = true := by
    decide +kernel
  obtain ⟨s, hreach, hlength⟩ := System.exists_reachUnder (fun _ _ h => of_decide_eq_true h) hrun
  exact ⟨s, hreach, of_decide_eq_true hlength, frees_sound hreach⟩

/-- A flush whose wait expires while the host has its buffer. -/
def expiredRun : List Label :=
  [.ask (.flush 0) true, .arm, .queueAsk true, .timeout, .releaseAsk]

/-- Without patience a buffer is released that the host still owns. -/
theorem frees_unsound :
    ∃ s, system.Reach (start (.init 2 fun _ => true)) s ∧ ¬ s.FreesSound := by
  have hrun : (system.run (start (.init 2 fun _ => true)) expiredRun).any
      (fun s => s.frees = [⟨some 0, true, true⟩]) = true := by
    decide +kernel
  obtain ⟨s, hreach, hfrees⟩ := System.exists_reach hrun
  refine ⟨s, hreach, fun hsound => ?_⟩
  have hmem : ⟨some 0, true, true⟩ ∈ s.frees := by
    rw [of_decide_eq_true hfrees]
    exact List.mem_singleton_self _
  exact Bool.false_ne_true (hsound.1 _ hmem).2.symm

/-- Patience keeps commands apart. -/
theorem Owned.keptApart (howned : s.Owned) (hpatient : Patient s label) : KeptApart s label := by
  have hwaiting : ∀ {e a}, e ∈ s.entries → s.asker = some a → e.waitsOn ≠ none →
      ¬ s.Abandoned e → e.ticket = a.ticket := by
    intro e a hmem ha hwaits hkept
    by_contra hne
    refine hkept ⟨hwaits, ?_⟩
    rintro ⟨a', ha', -, hticket⟩
    obtain rfl := Option.some.inj (ha.symm.trans ha')
    exact hne hticket.symm
  unfold KeptApart
  split
  next k =>
    intro e hget a ha hawaits hevent
    have hentry : e ∈ s.entries :=
      mem_entries_of_ctrl (List.mem_append_right _ (List.mem_of_getElem? hget))
    refine hwaiting hentry ha (fun hplain => ?_) fun habandoned => ?_
    · cases (howned.unnamed e hentry hplain).symm.trans hevent
    · exact (hpatient e hget habandoned).2 a ha hawaits hevent
  next k =>
    intro e hget a ha hreads hbuf
    have hqueued : e ∈ s.ctrl.outstanding := List.mem_append_left _ (List.mem_of_getElem? hget)
    have hentry : e ∈ s.entries := mem_entries_of_ctrl (mem_entries_of_outstanding hqueued)
    by_cases hplain : e.waitsOn = none
    · -- the buffer would have two owners
      have hsingle := howned.single
      unfold held at hsingle
      rw [ha, Option.map_some, Option.toList_some] at hsingle
      refine absurd hbuf.symm ((List.nodup_append.mp hsingle).2.2 a.buf
        (List.mem_append_right _ (List.mem_singleton_self _)) e.buf ?_)
      exact List.mem_map_of_mem (List.mem_filter.mpr ⟨hentry, by rw [hplain]; rfl⟩)
    · obtain ⟨a', ha', -, hticket⟩ := howned.waits e hqueued hplain
      obtain rfl := Option.some.inj (Option.mem_def.mp ha ▸ ha')
      exact hticket.symm
  next =>
    intro a ha hreads hhead
    exact howned.apart.not_mem (List.mem_of_head? hhead)
      (howned.inUse a.buf (mem_held_of_asker ha))
  next => trivial

/-- While every call is patient, its wait ends with its own completion. -/
theorem patient_wakesOwn {cnt : Nat} {allocates : Nat → Bool}
    (hreach : system.ReachUnder Patient (start (.init cnt allocates)) s) : s.WakesOwn := by
  have hkept : system.ReachUnder KeptApart (start (.init cnt allocates)) s := by
    apply hreach.exchange (owned_start (VioGpuBuf.apart_init ..))
    intro before label after howned hpatient hstep
    exact ⟨(system_spec hstep).2.owned hpatient howned, howned.keptApart hpatient⟩
  refine Matched.own (hkept.invariant (matched_start _) ?_)
  intro before label after hmatched happly hstep
  exact (system_spec hstep).2.matched happly hmatched

end VBuffers

end VirtDisplay
