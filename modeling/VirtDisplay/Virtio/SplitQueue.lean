/-
# The queues of the driver

The adapter's model of its two queues has three lists: what is queued, what the host has
completed and what a DPC has taken. The host completes any queued buffer; descriptors, rings
and counters do not occur. Here such a queue is a system of its own, and the split ring
implements it, with a buffer's entry as the pointer that comes back.
-/

import VirtDisplay.Queue.VBuffers
import VirtDisplay.Virtio.SplitCalls

namespace VirtDisplay

open Transition

/-- What happens to a queue. -/
inductive QueueMove
  | push (e : Entry)
  | complete (k : Nat) (e : Entry)
  | dequeue (e : Entry)
  /-- There is nothing to dequeue. -/
  | nothing

namespace VirtQueue

/-- One move. -/
def move (q : VirtQueue) : QueueMove → Option VirtQueue
  | .push e => some (q.push e)
  | .complete k e => (q.complete k).bind fun (e', q) => if e' = e then some q else none
  | .dequeue e => q.dequeue.bind fun (e', q) => if e' = e then some q else none
  | .nothing => if q.used = [] then some q else none

/-- The queue as a system. -/
def system : System VirtQueue QueueMove := ⟨move⟩

variable {q : VirtQueue} {e : Entry}

theorem run_push : system.run q [.push e] = some (q.push e) := system.run_singleton ..

theorem run_complete {k : Nat} (hget : q.avail[k]? = some e) :
    system.run q [.complete k e] =
      some { q with avail := q.avail.eraseIdx k, used := q.used ++ [e] } := by
  rw [System.run_singleton]
  show (q.complete k).bind _ = _
  rw [complete, hget, Option.map_some, Option.bind_some]
  exact if_pos rfl

theorem run_dequeue {rest : List Entry} (hused : q.used = e :: rest) :
    system.run q [.dequeue e] = some { q with used := rest, taken := q.taken ++ [e] } := by
  rw [System.run_singleton]
  show q.dequeue.bind _ = _
  rw [dequeue, hused, Option.bind_some]
  exact if_pos rfl

theorem run_nothing (hused : q.used = []) : system.run q [.nothing] = some q := by
  rw [System.run_singleton]
  exact if_pos hused

end VirtQueue

namespace Virtio.SplitRing

/-- What an action of the exchange is to the queue. -/
inductive Moves : Exchange.Action (Request Entry) Nat → List QueueMove → Prop
  | submit (r : Request Entry) : Moves (.submit r) [.push r.token]
  | refuse (r : Request Entry) : Moves (.refuse r) []
  | take (r : Request Entry) : Moves (.take r) []
  | answer (k len j : Nat) (r : Request Entry) : Moves (.answer k r len) [.complete j r.token]
  | collect (r : Request Entry) (len : Nat) : Moves (.collect r len) [.dequeue r.token]
  | nothing : Moves .nothing [.nothing]

/-- The queue forgets which of its buffers the device has read. -/
structure Queued (e : Exchange (Request Entry) Nat) (q : VirtQueue) : Prop where
  avail : q.avail.Perm ((e.waiting ++ e.held).map Request.token)
  used : q.used = e.answered.map fun a => a.1.token

variable {page : Entry → Option Nat} {num : Nat} {cost : Request Entry → Nat} {capacity : Nat}
variable {e e' : Exchange (Request Entry) Nat} {q : VirtQueue}

theorem queued_answer (h : Queued e q) {k len : Nat} {r : Request Entry}
    (hget : e.held[k]? = some r) :
    ∃ j q', VirtQueue.system.run q [.complete j r.token] = some q' ∧
      Queued { e with held := e.held.eraseIdx k, answered := e.answered ++ [(r, len)] } q' := by
  have hmem : r.token ∈ q.avail := by
    rw [h.avail.mem_iff]
    exact List.mem_map_of_mem (List.mem_append_right _ (List.mem_of_getElem? hget))
  obtain ⟨j, hj⟩ := List.mem_iff_getElem?.mp hmem
  refine ⟨j, _, VirtQueue.run_complete hj, ?_, ?_⟩
  · have hall : (r.token :: q.avail.eraseIdx j).Perm
        (r.token :: (e.waiting ++ e.held.eraseIdx k).map Request.token) := by
      refine (perm_cons_eraseIdx hj).symm.trans (h.avail.trans ?_)
      rw [← List.map_cons]
      refine List.Perm.map _ ?_
      exact ((perm_cons_eraseIdx hget).append_left _).trans List.perm_middle
    exact hall.cons_inv
  · show q.used ++ [r.token] = _
    rw [h.used, List.map_append]
    rfl

/-- The queue can follow the exchange. -/
theorem exchange_simulates : (Exchange.system cost capacity).Simulates (fun _ _ => True)
    VirtQueue.system Moves Queued where
  step := by
    intro e action e' q hqueued _ hstep
    cases action with
    | submit r =>
        obtain ⟨-, ⟨⟩⟩ := Option.ite_none_right_eq_some.mp hstep
        refine ⟨_, _, .submit r, VirtQueue.run_push, ?_, hqueued.used⟩
        show (q.avail ++ [r.token]).Perm _
        refine (hqueued.avail.append_right _).trans ?_
        rw [List.append_assoc, List.map_append, List.append_assoc, List.map_append, List.map_append]
        exact List.perm_append_comm.append_left _
    | refuse r =>
        obtain ⟨-, ⟨⟩⟩ := Option.ite_none_right_eq_some.mp hstep
        exact ⟨_, q, .refuse r, rfl, hqueued⟩
    | take r =>
        obtain ⟨hhead, ⟨⟩⟩ := Option.ite_none_right_eq_some.mp hstep
        refine ⟨_, q, .take r, rfl, hqueued.avail.trans ?_, hqueued.used⟩
        rw [List.eq_cons_of_mem_head? hhead]
        refine List.Perm.map _ ?_
        rw [List.cons_append, ← List.append_assoc]
        exact (List.perm_append_singleton ..).symm
    | answer k r len =>
        obtain ⟨hget, ⟨⟩⟩ := Option.ite_none_right_eq_some.mp hstep
        obtain ⟨j, q', hrun, hqueued'⟩ := queued_answer hqueued hget
        exact ⟨_, q', .answer k len j r, hrun, hqueued'⟩
    | collect r len =>
        obtain ⟨hhead, ⟨⟩⟩ := Option.ite_none_right_eq_some.mp hstep
        have hused := hqueued.used
        rw [List.eq_cons_of_mem_head? hhead, List.map_cons] at hused
        exact ⟨_, _, .collect r len, VirtQueue.run_dequeue hused, hqueued.avail, rfl⟩
    | nothing =>
        obtain ⟨hnil, ⟨⟩⟩ := Option.ite_none_right_eq_some.mp hstep
        exact ⟨_, q, .nothing, VirtQueue.run_nothing (by rw [hqueued.used, hnil, List.map_nil]),
          hqueued⟩

/-- What a step of the ring is to the queue. -/
inductive ShowsMoves : Label Entry → List QueueMove → Prop
  | add (r : Request Entry) : ShowsMoves (.add r) [.push r.token]
  | full (r : Request Entry) : ShowsMoves (.full r) []
  | publish : ShowsMoves .publish []
  | take (pieces : List Piece) : ShowsMoves (.take pieces) []
  | write (k len : Nat) : ShowsMoves (.write k len) []
  | post (k len j : Nat) (e : Entry) : ShowsMoves (.post k len) [.complete j e]
  | poll : ShowsMoves .poll []
  | get (e : Entry) (len : Nat) : ShowsMoves (.get e len) [.dequeue e]
  | empty : ShowsMoves .empty [.nothing]

theorem showsMoves_of_shows {label : Label Entry}
    {actions : List (Exchange.Action (Request Entry) Nat)} {shown : List (List QueueMove)}
    (hshows : Shows label actions) (hmoves : List.Forall₂ Moves actions shown) :
    ShowsMoves label shown.flatten := by
  cases hshows with
  | add r =>
      obtain _ | ⟨⟨⟩, ⟨⟩⟩ := hmoves
      exact .add r
  | full r =>
      obtain _ | ⟨⟨⟩, ⟨⟩⟩ := hmoves
      exact .full r
  | publish =>
      cases hmoves
      exact .publish
  | take r =>
      obtain _ | ⟨⟨⟩, ⟨⟩⟩ := hmoves
      exact .take r.pieces
  | write k len =>
      cases hmoves
      exact .write k len
  | post k r len =>
      obtain _ | ⟨hanswer, ⟨⟩⟩ := hmoves
      cases hanswer with
      | answer _ _ j => exact .post k len j r.token
  | poll =>
      cases hmoves
      exact .poll
  | get r len =>
      obtain _ | ⟨⟨⟩, ⟨⟩⟩ := hmoves
      exact .get r.token len
  | empty =>
      obtain _ | ⟨⟨⟩, ⟨⟩⟩ := hmoves
      exact .empty

/-- Every run of a split ring is a run of the queue that the adapter's model has in its place,
and at its end the two agree on whether there is a buffer to dequeue. -/
theorem run_queue {tables : Nat → Nat → VringDesc} {suppress : Bool}
    {vq : VirtqueueSplit Entry} {labels : List (Label Entry)} {s : Ring Entry}
    (hnew : vringNewVirtqueueSplit (zeroPages num tables) suppress = some (some vq))
    (hsize : num < 2 ^ 16)
    (hrun : (Ring.system page).RunUnder (Ring.Allowed page) (Ring.start vq) labels s) :
    ∃ shown q, List.Forall₂ ShowsMoves labels shown ∧
      VirtQueue.system.run .empty shown.flatten = some q ∧
      (s.vq.virtqueueHasBufSplit = true ↔ q.used ≠ []) := by
  have hstart : ∃ e, Ring.Tracks page num (Ring.start vq) e ∧ Queued e .empty :=
    ⟨.idle, ⟨_, rfl, Ledger.keeps_start hnew hsize⟩, .refl _, rfl⟩
  obtain ⟨shown, q, hshown, hqueue, e, ⟨g, rfl, hkeeps⟩, hqueued⟩ :=
    (Ring.simulates.trans exchange_simulates).run hstart hrun
  refine ⟨shown, q, hshown.imp ?_, hqueue, ?_⟩
  · rintro label moves ⟨actions, parts, hshows, hmoves, rfl⟩
    exact showsMoves_of_shows hshows hmoves
  · rw [hkeeps.hasBuf_iff, hqueued.used, Ledger.exchange, Ne, Ne, List.map_eq_nil_iff,
      List.map_eq_nil_iff]

theorem run_queue_roundTrip : ∃ (shown : List (List QueueMove)) (q : VirtQueue),
    List.Forall₂ ShowsMoves (roundTrip (twoPieces ⟨0, 0, none⟩) 24) shown ∧
      VirtQueue.system.run .empty shown.flatten = some q := by
  obtain ⟨vq, s, hnew, hrun⟩ : ∃ vq s,
      vringNewVirtqueueSplit (zeroPages 4 zeroTables) false = some (some vq) ∧
      (Ring.system fun _ : Entry => none).RunUnder (Ring.Allowed fun _ => none) (.start vq)
        (roundTrip (twoPieces ⟨0, 0, none⟩) 24) s :=
    ⟨_, _, rfl, .cons ⟨by decide, nofun, nofun⟩ rfl <| .cons trivial rfl <| .cons trivial rfl <|
      .cons trivial rfl <| .cons trivial rfl <| .cons trivial rfl <| .cons trivial rfl <| .nil _⟩
  obtain ⟨shown, q, hshown, hqueue, -⟩ := run_queue hnew (by decide) hrun
  exact ⟨shown, q, hshown, hqueue⟩

/-- What `AddBuf` returns to the adapter, as an unsigned number. -/
theorem addBuf_eq {e : Exchange (Request Entry) Nat} {s : Ring Entry} {r : Request Entry}
    (hworks : Works (fun _ => none) e s) (hquiet : s.quiet = true)
    (hcareful : Careful (fun _ => none) s.vq r) :
    ∃ ret vq', s.vq.virtqueueAddBufSplit r none = some (ret, vq') ∧
      ret % 2 ^ 32 = addBuf s.vq.numUnused r.sg.length := by
  obtain ⟨vq', hadd⟩ := hworks.add r hquiet hcareful
  have hcost : SplitRing.cost (fun _ => none) r = r.sg.length := by
    simp [SplitRing.cost, tableOf]
  rw [hcost] at hadd
  rw [hadd, addBuf]
  rcases Nat.lt_or_ge s.vq.numUnused r.sg.length with hless | hroom
  · rw [if_neg (Nat.not_le_of_lt hless), if_pos hless]
    exact ⟨_, _, rfl, by decide⟩
  · rw [if_pos hroom, if_neg (Nat.not_lt_of_le hroom)]
    exact ⟨_, _, rfl, by decide⟩

end Virtio.SplitRing

end VirtDisplay
