/-
# What a virtqueue is for

A caller adds requests to a virtqueue: a list of memory pieces, of which the device may write
the last ones, and a pointer that comes back with the answer. The device takes a request by
reading its pieces from the ring, and answers it with the number of bytes it has written.

Split and packed rings lay this out differently in memory. What either side can tell from its
steps is the same for both, and so are the steps themselves: each of the two sides first
writes an entry and then, behind a memory barrier, the word that makes it visible.
-/

import VirtDisplay.Foundation.Exchange
import VirtDisplay.Queue.QueueBuffer

namespace VirtDisplay.Virtio

variable {Token : Type*}

/-- The arguments of `virtqueue_add_buf`: `sg` has `out + in` elements. -/
structure Request (Token : Type*) where
  sg : List SgElement
  out : Nat
  token : Token
  deriving DecidableEq

/-- A piece of memory as the device sees it. -/
structure Piece where
  element : SgElement
  writable : Bool
  deriving DecidableEq

/-- The pieces of elements that are numbered from `i`. -/
def piecesFrom (out : Nat) : Nat → List SgElement → List Piece
  | _, [] => []
  | i, e :: sg => ⟨e, out ≤ i⟩ :: piecesFrom out (i + 1) sg

/-- What the device is to see of a request. -/
def Request.pieces (r : Request Token) : List Piece := piecesFrom r.out 0 r.sg

@[simp]
theorem length_piecesFrom (out i : Nat) (sg : List SgElement) :
    (piecesFrom out i sg).length = sg.length := by
  induction sg generalizing i with
  | nil => rfl
  | cons e sg ih => rw [piecesFrom, List.length_cons, List.length_cons, ih]

/-- The steps of a caller and a device that share a ring. -/
inductive Label (Token : Type*)
  /-- `virtqueue_add_buf` describes the request in the ring. -/
  | add (r : Request Token)
  /-- It returns `-ENOSPC` instead. -/
  | full (r : Request Token)
  /-- It makes the request visible and returns. -/
  | publish
  /-- The device reads the next request. -/
  | take (pieces : List Piece)
  /-- The device writes a used entry for the `k`-th request it holds. -/
  | write (k len : Nat)
  /-- It makes that entry visible. -/
  | post (k len : Nat)
  /-- `virtqueue_get_buf` sees a used entry. -/
  | poll
  /-- It returns what it found there. -/
  | get (token : Token) (len : Nat)
  /-- It sees none and returns `NULL`. -/
  | empty

/-- What a step shows of the exchange of requests. -/
inductive Shows : Label Token → List (Exchange.Action (Request Token) Nat) → Prop
  | add (r : Request Token) : Shows (.add r) [.submit r]
  | full (r : Request Token) : Shows (.full r) [.refuse r]
  | publish : Shows .publish []
  | take (r : Request Token) : Shows (.take r.pieces) [.take r]
  | write (k len : Nat) : Shows (.write k len) []
  | post (k : Nat) (r : Request Token) (len : Nat) : Shows (.post k len) [.answer k r len]
  | poll : Shows .poll []
  | get (r : Request Token) (len : Nat) : Shows (.get r.token len) [.collect r len]
  | empty : Shows .empty [.nothing]

/-- The request that a step has accepted. -/
def Label.accepted? : Label Token → Option (Request Token)
  | .add r => some r
  | _ => none

/-- What the device reads in a step. -/
def Label.seen? : Label Token → Option (List Piece)
  | .take pieces => some pieces
  | _ => none

/-- The number of bytes that the device reports in a step. -/
def Label.posted? : Label Token → Option Nat
  | .post _ len => some len
  | _ => none

/-- The pointer and the number of bytes that a call returns in a step. -/
def Label.returned? : Label Token → Option (Token × Nat)
  | .get token len => some (token, len)
  | _ => none

/-- What both sides can rely on. -/
structure Delivers (labels : List (Label Token)) : Prop where
  /-- The device reads what was added: every piece of it, once, and in that order. -/
  seen : labels.filterMap Label.seen? <+:
    (labels.filterMap Label.accepted?).map Request.pieces
  /-- No pointer is returned that was not added, and none more often than it was. -/
  returned : ((labels.filterMap Label.returned?).map Prod.fst).Subperm
    ((labels.filterMap Label.accepted?).map Request.token)
  /-- Answers come in the order in which the device gives them. -/
  lengths : (labels.filterMap Label.returned?).map Prod.snd <+: labels.filterMap Label.posted?

/-- What is outstanding after a run: the requests of `back` have been returned with these
answers, and the others are those of `e`. -/
structure Leaves (labels : List (Label Token)) (back : List (Request Token × Nat))
    (e : Exchange (Request Token) Nat) : Prop where
  accepted : (labels.filterMap Label.accepted?).Perm (back.map Prod.fst ++ e.live)
  returned : labels.filterMap Label.returned? = back.map fun a => (a.1.token, a.2)
  /-- The device has read all but the last ones. -/
  waiting : e.waiting =
    (labels.filterMap Label.accepted?).drop (labels.filterMap Label.seen?).length
  posted : labels.filterMap Label.posted? = (back ++ e.answered).map Prod.snd

section

variable {labels : List (Label Token)} {shown : List (List (Exchange.Action (Request Token) Nat))}

/-- What the actions tell about the labels, one projection at a time. -/
theorem filterMap_shown {β : Type*} {f : Label Token → Option β}
    {g : Exchange.Action (Request Token) Nat → Option β}
    (hone : ∀ {label actions}, Shows label actions → actions.filterMap g = (f label).toList)
    (hshown : List.Forall₂ Shows labels shown) :
    shown.flatten.filterMap g = labels.filterMap f := by
  induction hshown with
  | nil => rfl
  | @cons label actions labels shown hfirst _ ih =>
      rw [List.flatten_cons, List.filterMap_append, hone hfirst, ih]
      cases hf : f label with
      | none => rw [List.filterMap_cons_none hf, Option.toList_none, List.nil_append]
      | some b => rw [List.filterMap_cons_some hf, Option.toList_some, List.singleton_append]

theorem accepted_shown (hshown : List.Forall₂ Shows labels shown) :
    shown.flatten.filterMap Exchange.Action.submitted? = labels.filterMap Label.accepted? :=
  filterMap_shown (fun h => by cases h <;> rfl) hshown

theorem seen_shown (hshown : List.Forall₂ Shows labels shown) :
    (shown.flatten.filterMap Exchange.Action.taken?).map Request.pieces =
      labels.filterMap Label.seen? := by
  rw [List.map_filterMap]
  exact filterMap_shown (fun h => by cases h <;> rfl) hshown

theorem posted_shown (hshown : List.Forall₂ Shows labels shown) :
    (shown.flatten.filterMap Exchange.Action.answered?).map Prod.snd =
      labels.filterMap Label.posted? := by
  rw [List.map_filterMap]
  exact filterMap_shown (fun h => by cases h <;> rfl) hshown

theorem returned_shown (hshown : List.Forall₂ Shows labels shown) :
    (shown.flatten.filterMap Exchange.Action.collected?).map (fun a => (a.1.token, a.2)) =
      labels.filterMap Label.returned? := by
  rw [List.map_filterMap]
  exact filterMap_shown (fun h => by cases h <;> rfl) hshown

/-- What a run leaves outstanding is what the exchange that it shows still has. -/
theorem leaves_of_shows {e : Exchange (Request Token) Nat}
    (hshown : List.Forall₂ Shows labels shown) (haccount : Exchange.Account .idle shown.flatten e) :
    Leaves labels (shown.flatten.filterMap Exchange.Action.collected?) e where
  accepted := accepted_shown hshown ▸ haccount.conserved
  returned := (returned_shown hshown).symm
  waiting := by
    rw [← seen_shown hshown, ← accepted_shown hshown, List.length_map, haccount.submitted_eq,
      List.drop_left]
  posted := by
    rw [← posted_shown hshown, haccount.answered_eq]

/-- Whatever shows an exchange delivers. -/
theorem delivers_of_shows {e : Exchange (Request Token) Nat}
    (hshown : List.Forall₂ Shows labels shown) (haccount : Exchange.Account .idle shown.flatten e) :
    Delivers labels where
  seen := by
    rw [← seen_shown hshown, ← accepted_shown hshown, haccount.submitted_eq, List.map_append]
    exact List.prefix_append ..
  returned := by
    rw [← returned_shown hshown, ← accepted_shown hshown, List.map_map]
    have hconserved := haccount.conserved.map Request.token
    rw [List.map_append, List.map_map] at hconserved
    exact (List.sublist_append_left ..).subperm.trans hconserved.symm.subperm
  lengths := by
    rw [← returned_shown hshown, ← posted_shown hshown, List.map_map, haccount.answered_eq,
      List.map_append]
    exact List.prefix_append ..

end

/-- One piece to be read and one to be written. -/
def twoPieces (token : Token) : Request Token := ⟨[⟨4096, 24⟩, ⟨8192, 24⟩], 1, token⟩

/-- A request goes to the device and comes back. -/
def roundTrip (r : Request Token) (len : Nat) : List (Label Token) :=
  [.add r, .publish, .take r.pieces, .write 0 len, .post 0 len, .poll, .get r.token len]

end VirtDisplay.Virtio
