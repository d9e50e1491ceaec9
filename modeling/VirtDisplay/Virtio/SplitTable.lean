/-
# The descriptor table of a split ring

Every descriptor of the table is unused or belongs to one request. The unused ones are
chained from `first_unused` and counted by `num_unused`; those of a request spell its pieces,
in the table itself or in the caller's indirect page. Adding a request moves descriptors from
the front of the unused chain to the request, and putting its chain back moves them again to
the front, so the chain is used like a stack.
-/

import Mathlib.Data.List.Range
import VirtDisplay.Foundation.Chains
import VirtDisplay.Virtio.SplitRing

namespace VirtDisplay.Virtio.SplitRing

open Chains

variable {Token : Type*} {desc desc' : Nat → VringDesc} {final : Bool} {start num fuel : Nat}
variable {cells rest : List Nat} {pieces : List Piece}

/-- The chain from `start` runs through these cells and describes these pieces; its last
descriptor has the `NEXT` flag if `final` says so. -/
def Spells (desc : Nat → VringDesc) (final : Bool) : Nat → List Nat → List Piece → Prop
  | _, [], [] => True
  | start, c :: cells, p :: pieces =>
      start = c ∧ (desc c).addr = p.element.physAddr ∧ (desc c).len = p.element.length ∧
        (desc c).flags = ⟨final || !cells.isEmpty, p.writable, false⟩ ∧
        Spells desc final (desc c).next cells pieces
  | _, _, _ => False

namespace Spells

theorem congr (h : Spells desc final start cells pieces) (heq : ∀ c ∈ cells, desc' c = desc c) :
    Spells desc' final start cells pieces := by
  induction cells generalizing start pieces with
  | nil =>
      cases pieces with
      | nil => trivial
      | cons p pieces => exact h
  | cons c cells ih =>
      cases pieces with
      | nil => exact h
      | cons p pieces =>
          rw [Spells, heq c List.mem_cons_self]
          obtain ⟨hstart, haddr, hlen, hflags, hrest⟩ := h
          exact ⟨hstart, haddr, hlen, hflags,
            ih hrest fun i hi => heq i (List.mem_cons_of_mem c hi)⟩

theorem length_eq (h : Spells desc final start cells pieces) : cells.length = pieces.length := by
  induction cells generalizing start pieces with
  | nil =>
      cases pieces with
      | nil => rfl
      | cons p pieces => exact h.elim
  | cons c cells ih =>
      cases pieces with
      | nil => exact h.elim
      | cons p pieces => rw [List.length_cons, List.length_cons, ih h.2.2.2.2]

theorem links (h : Spells desc final start cells pieces) :
    Links (fun c => (desc c).next) start cells := by
  induction cells generalizing start pieces with
  | nil => trivial
  | cons c cells ih =>
      cases pieces with
      | nil => exact h.elim
      | cons p pieces => exact ⟨h.1, ih h.2.2.2.2⟩

/-- The device takes a descriptor that spells a piece for a regular one. -/
theorem indirect_eq (h : Spells desc final start cells pieces) (hne : cells ≠ []) :
    (desc (cells.headD 0)).flags.indirect = false := by
  cases cells with
  | nil => exact absurd rfl hne
  | cons c cells =>
      cases pieces with
      | nil => exact h.elim
      | cons p pieces =>
          rw [List.headD_cons, h.2.2.2.1]

/-- The chain is finished by clearing the flag of its last descriptor. -/
theorem finish (h : Spells desc true start cells pieces) (hnodup : cells.Nodup) {last : Nat}
    (hlast : cells.getLast? = some last) :
    Spells (Function.update desc last (VirtqueueSplit.clearNext (desc last))) false start cells
      pieces := by
  induction cells generalizing start pieces with
  | nil => cases hlast
  | cons c cells ih =>
      cases pieces with
      | nil => exact h.elim
      | cons p pieces =>
          obtain ⟨hstart, haddr, hlen, hflags, hrest⟩ := h
          cases cells with
          | nil =>
              obtain rfl : c = last := Option.some.inj hlast
              cases pieces with
              | nil =>
                  refine ⟨hstart, ?_, ?_, ?_, trivial⟩
                  · simpa [VirtqueueSplit.clearNext] using haddr
                  · simpa [VirtqueueSplit.clearNext] using hlen
                  · simp [VirtqueueSplit.clearNext, hflags]
              | cons q pieces => exact hrest.elim
          | cons d cells =>
              have hlast' : (d :: cells).getLast? = some last := by
                rwa [List.getLast?_cons_cons] at hlast
              have hne : c ≠ last := by
                rintro rfl
                exact (List.nodup_cons.mp hnodup).1 (List.mem_of_getLast? hlast')
              rw [Spells, Function.update_of_ne hne]
              exact ⟨hstart, haddr, hlen, hflags, ih hrest (List.nodup_cons.mp hnodup).2 hlast'⟩

/-- The device reads what is spelled. -/
theorem readChain_eq (h : Spells desc false start cells pieces) (hne : cells ≠ [])
    (hlt : ∀ c ∈ cells, c < num) (hfuel : cells.length ≤ fuel) :
    readChain desc num fuel start = some pieces := by
  induction cells generalizing start pieces fuel with
  | nil => exact absurd rfl hne
  | cons c cells ih =>
      cases pieces with
      | nil => exact h.elim
      | cons p pieces =>
          obtain ⟨rfl, haddr, hlen, hflags, hrest⟩ := h
          obtain ⟨fuel, rfl⟩ := Nat.exists_eq_succ_of_ne_zero (Nat.ne_of_gt (Nat.lt_of_lt_of_le
            (Nat.zero_lt_succ _) hfuel))
          rw [readChain, if_neg (Nat.not_le_of_lt (hlt start List.mem_cons_self))]
          simp only [haddr, hlen, hflags, Bool.false_or]
          cases cells with
          | nil =>
              cases pieces with
              | nil => rfl
              | cons q pieces => exact hrest.elim
          | cons d cells =>
              rw [ih hrest (List.cons_ne_nil _ _) (fun c hc => hlt c (List.mem_cons_of_mem _ hc))
                (Nat.le_of_succ_le_succ hfuel)]
              rfl

/-- The walk to the end of a chain counts the descriptors on the way. -/
theorem chainEnd_eq {vr : Vring} {last : Nat} (unused : Nat)
    (h : Spells vr.desc false start cells pieces) (hlt : ∀ c ∈ cells, c < vr.num)
    (hfuel : cells.length ≤ fuel) (hlast : cells.getLast? = some last) :
    VirtqueueSplit.chainEnd vr fuel start unused = some (last, unused + (cells.length - 1)) := by
  induction cells generalizing start pieces fuel unused with
  | nil => cases hlast
  | cons c cells ih =>
      cases pieces with
      | nil => exact h.elim
      | cons p pieces =>
          obtain ⟨rfl, -, -, hflags, hrest⟩ := h
          obtain ⟨fuel, rfl⟩ := Nat.exists_eq_succ_of_ne_zero (Nat.ne_of_gt (Nat.lt_of_lt_of_le
            (Nat.zero_lt_succ _) hfuel))
          rw [VirtqueueSplit.chainEnd, if_neg (Nat.not_le_of_lt (hlt start List.mem_cons_self))]
          simp only [hflags, Bool.false_or]
          cases cells with
          | nil =>
              obtain rfl : start = last := Option.some.inj hlast
              rfl
          | cons d cells =>
              have hlast' : (d :: cells).getLast? = some last := by
                rwa [List.getLast?_cons_cons] at hlast
              have hwalk := ih (unused + 1) hrest
                (fun c hc => hlt c (List.mem_cons_of_mem _ hc)) (Nat.le_of_succ_le_succ hfuel)
                hlast'
              simp only [List.isEmpty_cons, Bool.not_false, if_true, hwalk, List.length_cons,
                Option.some.injEq, Prod.mk.injEq, true_and]
              omega

end Spells

/-- A request, with the descriptors of the table that it has. -/
structure Lot (Token : Type*) where
  request : Request Token
  cells : List Nat

/-- The index under which the rings know a lot. -/
def Lot.head (lot : Lot Token) : Nat := lot.cells.headD 0

section

variable (page : Token → Option Nat)

/-- The indirect page a request is described in, where it is: the caller keeps one for each
pointer, or none. -/
def tableOf (r : Request Token) : Option Nat := if 1 < r.sg.length then page r.token else none

/-- The number of descriptors a request takes. -/
def cost (r : Request Token) : Nat := if (tableOf page r).isSome then 1 else r.sg.length

theorem cost_pos {r : Request Token} (hne : r.sg ≠ []) : 0 < cost page r := by
  unfold cost
  split
  next => exact Nat.zero_lt_one
  next => exact List.length_pos_iff.mpr hne

/-- The descriptors of a request describe it. -/
def Laid (vr : Vring) (lot : Lot Token) : Prop :=
  match tableOf page lot.request with
  | none => lot.cells ≠ [] ∧ Spells vr.desc false lot.head lot.cells lot.request.pieces
  | some p =>
      lot.cells = [lot.head] ∧ (vr.desc lot.head).addr = p ∧
        (vr.desc lot.head).len = lot.request.sg.length * 16 ∧
        (vr.desc lot.head).flags = ⟨false, false, true⟩ ∧
        Spells (vr.tables p) false 0 (List.range' 0 lot.request.sg.length) lot.request.pieces

/-- The whole table: the unused descriptors in the order of their chain, and the requests. -/
structure Table (vq : VirtqueueSplit Token) (free : List Nat) (lots : List (Lot Token)) :
    Prop where
  cells : (free ++ lots.flatMap Lot.cells).Perm (List.range vq.vring.num)
  links : Links (fun c => (vq.vring.desc c).next) vq.firstUnused free
  unused : vq.numUnused = free.length
  laid : ∀ lot ∈ lots, Laid page vq.vring lot
  tokens : ∀ lot ∈ lots, vq.opaques lot.head = some lot.request.token
  others : ∀ c, (∀ lot ∈ lots, lot.head ≠ c) → vq.opaques c = none

end

variable {page : Token → Option Nat} {vq : VirtqueueSplit Token} {free : List Nat}
variable {lots lots' : List (Lot Token)} {lot : Lot Token} {r : Request Token} {vr : Vring}

namespace Laid

theorem cells_ne_nil (h : Laid page vr lot) : lot.cells ≠ [] := by
  unfold Laid at h
  split at h
  next => exact h.1
  next =>
    rw [h.1]
    exact List.cons_ne_nil _ _

theorem head_mem (h : Laid page vr lot) : lot.head ∈ lot.cells := by
  obtain ⟨c, cells, hcells⟩ := List.exists_cons_of_ne_nil h.cells_ne_nil
  rw [Lot.head, hcells]
  exact List.mem_cons_self

theorem length_cells (h : Laid page vr lot) : lot.cells.length = cost page lot.request := by
  unfold Laid at h
  unfold cost
  split at h
  next hnone => rw [hnone, h.2.length_eq, Request.pieces, length_piecesFrom]; rfl
  next p hsome => rw [hsome, h.1]; rfl

/-- What describes a request are its descriptors and its page. -/
theorem congr {vr' : Vring} (h : Laid page vr lot)
    (hdesc : ∀ c ∈ lot.cells, vr'.desc c = vr.desc c)
    (htables : ∀ p, tableOf page lot.request = some p → vr'.tables p = vr.tables p) :
    Laid page vr' lot := by
  have hhead := hdesc lot.head h.head_mem
  unfold Laid at h ⊢
  split at h
  next => exact ⟨h.1, h.2.congr hdesc⟩
  next p hsome => rwa [hhead, htables p hsome]

end Laid

namespace Table

/-- The order in which the requests are listed does not matter. -/
theorem perm (h : Table page vq free lots) (hperm : lots.Perm lots') :
    Table page vq free lots' where
  cells := ((hperm.flatMap_right Lot.cells).symm.append_left free).trans h.cells
  links := h.links
  unused := h.unused
  laid lot hlot := h.laid lot (hperm.mem_iff.mpr hlot)
  tokens lot hlot := h.tokens lot (hperm.mem_iff.mpr hlot)
  others c hc := h.others c fun lot hlot => hc lot (hperm.mem_iff.mp hlot)

/-- Nothing else of the queue matters. -/
theorem transfer {vq' : VirtqueueSplit Token} (h : Table page vq free lots)
    (hnum : vq'.vring.num = vq.vring.num) (hdesc : vq'.vring.desc = vq.vring.desc)
    (htables : vq'.vring.tables = vq.vring.tables) (hfirst : vq'.firstUnused = vq.firstUnused)
    (hunused : vq'.numUnused = vq.numUnused) (hopaques : vq'.opaques = vq.opaques) :
    Table page vq' free lots where
  cells := by rw [hnum]; exact h.cells
  links := by rw [hdesc, hfirst]; exact h.links
  unused := by rw [hunused]; exact h.unused
  laid lot hlot := (h.laid lot hlot).congr (fun c _ => by rw [hdesc]) fun p _ => by rw [htables]
  tokens lot hlot := by rw [hopaques]; exact h.tokens lot hlot
  others c hc := by rw [hopaques]; exact h.others c hc

theorem nodup (h : Table page vq free lots) : (free ++ lots.flatMap Lot.cells).Nodup :=
  h.cells.nodup_iff.mpr List.nodup_range

theorem free_lt (h : Table page vq free lots) : ∀ c ∈ free, c < vq.vring.num := fun _ hc =>
  List.mem_range.mp (h.cells.mem_iff.mp (List.mem_append_left _ hc))

theorem cells_lt (h : Table page vq free lots) (hlot : lot ∈ lots) :
    ∀ c ∈ lot.cells, c < vq.vring.num := fun _ hc =>
  List.mem_range.mp (h.cells.mem_iff.mp (List.mem_append_right _
    (List.mem_flatMap.mpr ⟨lot, hlot, hc⟩)))

/-- Unused descriptors belong to no request. -/
theorem not_free (h : Table page vq free lots) (hlot : lot ∈ lots) {c : Nat}
    (hc : c ∈ lot.cells) : c ∉ free := fun hfree =>
  (List.nodup_append.mp h.nodup).2.2 c hfree c (List.mem_flatMap.mpr ⟨lot, hlot, hc⟩) rfl

/-- Together, the requests and the unused descriptors make up the table. -/
theorem length_eq (h : Table page vq free lots) :
    free.length + (lots.map fun lot => cost page lot.request).sum = vq.vring.num := by
  have hlength := h.cells.length_eq
  rw [List.length_append, List.length_range, List.length_flatMap] at hlength
  rw [← hlength]
  congr 2
  exact List.map_congr_left fun lot hlot => (h.laid lot hlot).length_cells.symm

theorem cells_nodup (h : Table page vq free lots) (hlot : lot ∈ lots) : lot.cells.Nodup :=
  (List.nodup_flatMap.mp (List.nodup_append.mp h.nodup).2.1).1 lot hlot

theorem length_cells_le (h : Table page vq free lots) (hlot : lot ∈ lots) :
    lot.cells.length ≤ vq.vring.num := by
  have hsub := (h.cells_nodup hlot).subperm fun c hc => List.mem_range.mpr (h.cells_lt hlot c hc)
  simpa using hsub.length_le

/-- The device reads the pieces of every request. -/
theorem readRequest_eq (h : Table page vq free lots) (hlot : lot ∈ lots) :
    vq.vring.readRequest lot.head = some lot.request.pieces := by
  have hlaid := h.laid lot hlot
  have hlt := h.cells_lt hlot
  have hlength := h.length_cells_le hlot
  unfold Laid at hlaid
  rw [Vring.readRequest]
  split at hlaid
  next =>
    obtain ⟨hne, hspells⟩ := hlaid
    have hdirect : (vq.vring.desc lot.head).flags.indirect = false := hspells.indirect_eq hne
    rw [hdirect, if_neg Bool.false_ne_true]
    exact hspells.readChain_eq hne hlt hlength
  next p hsome =>
    obtain ⟨-, haddr, hlen, hflags, hspells⟩ := hlaid
    rw [hflags, if_pos rfl, haddr, hlen, Nat.mul_div_cancel _ (Nat.zero_lt_succ 15)]
    have hmany : 1 < lot.request.sg.length := by
      unfold tableOf at hsome
      split at hsome
      next hmany => exact hmany
      next => cases hsome
    refine hspells.readChain_eq ?_ ?_ ?_
    · intro hnil
      have hzero := congrArg List.length hnil
      rw [List.length_range', List.length_nil] at hzero
      omega
    · intro c hc
      have := List.mem_range'_1.mp hc
      omega
    · rw [List.length_range']

end Table

/-! ## Adding a request -/

/-- What adding a request or putting one back may change. -/
def Retabled (vq vq' : VirtqueueSplit Token) : Prop :=
  ∃ desc tables first unused opaques,
    vq' = { vq with
      vring.desc := desc
      vring.tables := tables
      firstUnused := first
      numUnused := unused
      opaques := opaques }

/-- The first cells of the unused chain have been made to spell these pieces. -/
structure Drawn (vq : VirtqueueSplit Token) (cells rest : List Nat) (pieces : List Piece)
    (desc : Nat → VringDesc) (first : Nat) : Prop where
  /-- Descriptors are chained as they were while they were unused. -/
  next : ∀ c, (desc c).next = (vq.vring.desc c).next
  kept : ∀ c ∉ cells, desc c = vq.vring.desc c
  spells : Spells desc true vq.firstUnused cells pieces
  links : Links (fun c => (vq.vring.desc c).next) first rest

theorem getUnusedDesc_eq {c : Nat} (hfirst : vq.firstUnused = c) (hlt : c < vq.vring.num)
    (hpos : vq.numUnused ≠ 0) :
    vq.getUnusedDesc = some (c, { vq with
      firstUnused := (vq.vring.desc c).next
      numUnused := vq.numUnused - 1 }) := by
  rw [VirtqueueSplit.getUnusedDesc, if_neg, hfirst]
  rw [hfirst]
  omega

/-- The loop draws one cell for each element. -/
theorem addRest_eq (vq : VirtqueueSplit Token) (out i last : Nat) {sg : List SgElement}
    (hlength : cells.length = sg.length)
    (hlinks : Links (fun c => (vq.vring.desc c).next) vq.firstUnused (cells ++ rest))
    (hlt : ∀ c ∈ cells, c < vq.vring.num) (hnodup : cells.Nodup)
    (hunused : vq.numUnused = cells.length + rest.length) :
    ∃ desc first final, VirtqueueSplit.addRest out vq i last sg = some (final, { vq with
          vring.desc := desc
          firstUnused := first
          numUnused := rest.length }) ∧
      (last :: cells).getLast? = some final ∧
      Drawn vq cells rest (piecesFrom out i sg) desc first := by
  induction sg generalizing vq i last cells with
  | nil =>
      obtain rfl := List.length_eq_zero_iff.mp hlength
      refine ⟨vq.vring.desc, vq.firstUnused, last, ?_, rfl, fun _ => rfl, fun _ _ => rfl, trivial,
        hlinks⟩
      rw [List.length_nil, Nat.zero_add] at hunused
      rw [VirtqueueSplit.addRest, ← hunused]
  | cons e sg ih =>
      obtain _ | ⟨c, cells⟩ := cells
      · cases hlength
      obtain ⟨hfirst, hlinks⟩ := hlinks
      obtain ⟨hnot, hnodup⟩ := List.nodup_cons.mp hnodup
      have hc := hlt c List.mem_cons_self
      rw [List.length_cons] at hunused
      have hget := getUnusedDesc_eq hfirst hc (by omega)
      have hkept : ∀ d : Nat, (Function.update vq.vring.desc c ⟨e.physAddr, e.length,
          ⟨true, out ≤ i, false⟩, (vq.vring.desc c).next⟩ d).next = (vq.vring.desc d).next := by
        intro d
        rcases eq_or_ne d c with rfl | hne
        · rw [Function.update_self]
        · rw [Function.update_of_ne hne]
      have hunused' : vq.numUnused - 1 = cells.length + rest.length := by omega
      obtain ⟨desc, first, final, hrest, hfinal, hdrawn⟩ := ih
        (VirtqueueSplit.describe { vq with
          firstUnused := (vq.vring.desc c).next
          numUnused := vq.numUnused - 1 } c e (out ≤ i)) (i + 1) c (Nat.succ.inj hlength)
        (hlinks.congr fun d _ => hkept d)
        (fun d hd => hlt d (List.mem_cons_of_mem c hd)) hnodup hunused'
      refine ⟨desc, first, final, ?_, ?_, ?_, ?_, ?_, ?_⟩
      · rw [VirtqueueSplit.addRest, hget]
        exact hrest
      · rwa [List.getLast?_cons_cons]
      · intro d
        rw [hdrawn.next]
        exact hkept d
      · intro d hd
        rw [List.mem_cons, not_or] at hd
        rw [hdrawn.kept d hd.2]
        exact Function.update_of_ne hd.1 ..
      · have hself : desc c = ⟨e.physAddr, e.length, ⟨true, out ≤ i, false⟩,
            (vq.vring.desc c).next⟩ := by
          rw [hdrawn.kept c hnot]
          exact Function.update_self ..
        rw [piecesFrom, Spells, hself]
        exact ⟨hfirst, rfl, rfl, rfl, hdrawn.spells⟩
      · exact hdrawn.links.congr fun d _ => (hkept d).symm

/-- The first element is described like the others. -/
theorem addDirect_eq_addRest (vq : VirtqueueSplit Token) (hne : r.sg ≠ []) :
    vq.addDirect r =
      (VirtqueueSplit.addRest r.out
        { vq with opaques := Function.update vq.opaques vq.firstUnused (some r.token) } 0
        vq.firstUnused r.sg).map fun (last, after) =>
          (vq.firstUnused,
            after.setDesc last (VirtqueueSplit.clearNext (after.vring.desc last))) := by
  obtain ⟨e, sg, hsg⟩ := List.exists_cons_of_ne_nil hne
  rw [VirtqueueSplit.addDirect, hsg, VirtqueueSplit.addRest]
  by_cases hnone : vq.numUnused = 0 ∨ vq.vring.num ≤ vq.firstUnused
  · simp [VirtqueueSplit.getUnusedDesc, hnone]
  · simp only [VirtqueueSplit.getUnusedDesc, if_neg hnone, Option.bind_eq_bind, Option.bind_some,
      VirtqueueSplit.describe, VirtqueueSplit.setDesc, Nat.le_zero, Nat.zero_add]
    rw [Option.map_eq_bind]
    rfl

/-- What a caller keeps to: a request has elements, an indirect page has room for them, and it
is not with the device already. -/
structure Careful (page : Token → Option Nat) (vq : VirtqueueSplit Token) (r : Request Token) :
    Prop where
  nonempty : r.sg ≠ []
  fits : ∀ p, page r.token = some p → r.sg.length ≤ 256
  fresh : ∀ c token p, vq.opaques c = some token → page token = some p → page r.token ≠ some p

namespace Table

/-- Drawn cells are no longer unused. -/
theorem perm_drawn (h : Table page vq free lots) (n : Nat) :
    (free.drop n ++ (Lot.mk r (free.take n) :: lots).flatMap Lot.cells).Perm
      (List.range vq.vring.num) := by
  rw [List.flatMap_cons, ← List.append_assoc]
  refine ((List.perm_append_comm.append_right _).trans ?_)
  rw [List.take_append_drop]
  exact h.cells

/-- The token of a request that is added. -/
theorem tokens_update (h : Table page vq free lots) {c : Nat} (hc : c ∈ free) (token : Token) :
    ∀ lot ∈ lots, Function.update vq.opaques c (some token) lot.head = some lot.request.token := by
  intro lot hlot
  rw [Function.update_of_ne, h.tokens lot hlot]
  rintro rfl
  exact h.not_free hlot (h.laid lot hlot).head_mem hc

/-- Regular descriptors. -/
theorem addDirect (h : Table page vq free lots) (hdirect : tableOf page r = none)
    (hne : r.sg ≠ []) (hroom : r.sg.length ≤ free.length) :
    ∃ vq', vq.addDirect r = some ((Lot.mk r (free.take r.sg.length)).head, vq') ∧
      Retabled vq vq' ∧
      Table page vq' (free.drop r.sg.length) (⟨r, free.take r.sg.length⟩ :: lots) := by
  have hlength : (free.take r.sg.length).length = r.sg.length := by
    rw [List.length_take, Nat.min_eq_left hroom]
  have hpos : 0 < r.sg.length := List.length_pos_iff.mpr hne
  obtain ⟨c, cells, hcells⟩ : ∃ c cells, free.take r.sg.length = c :: cells :=
    List.exists_cons_of_length_pos (by rw [hlength]; exact hpos)
  have hsplit : free.take r.sg.length ++ free.drop r.sg.length = free := List.take_append_drop ..
  have hmem : ∀ d ∈ free.take r.sg.length, d ∈ free := fun d hd => List.mem_of_mem_take hd
  have hnodup : free.Nodup := (List.nodup_append.mp h.nodup).1
  have hfirst : vq.firstUnused = c := by
    have hlinks := h.links
    rw [← hsplit, hcells] at hlinks
    exact hlinks.1
  obtain ⟨desc, first, last, hrun, hlast, hdrawn⟩ := addRest_eq
    { vq with opaques := Function.update vq.opaques vq.firstUnused (some r.token) }
    r.out 0 vq.firstUnused hlength (by rw [hsplit]; exact h.links)
    (fun d hd => h.free_lt d (hmem d hd)) (hnodup.sublist (List.take_sublist ..))
    (by rw [← List.length_append, hsplit]; exact h.unused)
  have hrun' : vq.addDirect r = some (c, { vq with
      vring.desc := Function.update desc last (VirtqueueSplit.clearNext (desc last))
      firstUnused := first
      numUnused := (free.drop r.sg.length).length
      opaques := Function.update vq.opaques c (some r.token) }) := by
    rw [addDirect_eq_addRest vq hne, hrun, Option.map_some, hfirst]
    rfl
  have hhead : (Lot.mk r (free.take r.sg.length)).head = c := by
    rw [Lot.head, hcells, List.headD_cons]
  have hlast' : (free.take r.sg.length).getLast? = some last := by
    rwa [hcells, List.getLast?_cons_cons, ← hcells] at hlast
  have hlastmem : last ∈ free := hmem last (List.mem_of_getLast? hlast')
  have hspells := hdrawn.spells.finish (hnodup.sublist (List.take_sublist ..)) hlast'
  rw [hhead]
  refine ⟨_, hrun', ⟨_, _, _, _, _, rfl⟩, ?_⟩
  have hcfree : c ∈ free := hmem c (hcells ▸ List.mem_cons_self)
  constructor
  · exact h.perm_drawn _
  · refine hdrawn.links.congr fun d _ => ?_
    show (Function.update desc last _ d).next = _
    rcases eq_or_ne d last with rfl | hd
    · rw [Function.update_self]
      exact hdrawn.next d
    · rw [Function.update_of_ne hd]
      exact hdrawn.next d
  · rfl
  · rintro lot (_ | ⟨_, hlot⟩)
    · unfold Laid
      rw [hdirect]
      refine ⟨?_, ?_⟩
      · show free.take r.sg.length ≠ []
        rw [hcells]
        exact List.cons_ne_nil _ _
      · rw [hhead, ← hfirst]
        exact hspells
    · refine (h.laid lot hlot).congr (fun d hd => ?_) fun _ _ => rfl
      have hnot := h.not_free hlot hd
      show Function.update desc last _ d = _
      rw [Function.update_of_ne (ne_of_mem_of_not_mem hlastmem hnot).symm]
      exact hdrawn.kept d fun hmem' => hnot (hmem d hmem')
  · rintro lot (_ | ⟨_, hlot⟩)
    · rw [hhead]
      exact Function.update_self ..
    · exact h.tokens_update hcfree r.token lot hlot
  · intro d hd
    have hne' : d ≠ c := fun heq => hd _ List.mem_cons_self (hhead.trans heq.symm)
    show Function.update vq.opaques c _ d = none
    rw [Function.update_of_ne hne']
    exact h.others d fun lot hlot => hd lot (List.mem_cons_of_mem _ hlot)

/-- The page is filled from the front. -/
theorem fillTable_of_lt {out i j : Nat} {sg : List SgElement} (hj : j < i) :
    VirtqueueSplit.fillTable out desc i sg j = desc j := by
  induction sg generalizing desc i with
  | nil => rfl
  | cons e sg ih =>
      rw [VirtqueueSplit.fillTable, ih (Nat.lt_succ_of_lt hj),
        Function.update_of_ne (Nat.ne_of_lt hj)]

/-- An indirect table spells the elements in the order of its entries. -/
theorem fillTable_spells {out i : Nat} {sg : List SgElement} (hfits : i + sg.length < 2 ^ 16) :
    Spells (VirtqueueSplit.fillTable out desc i sg) true i (List.range' i sg.length)
      (piecesFrom out i sg) := by
  induction sg generalizing desc i with
  | nil => trivial
  | cons e sg ih =>
      rw [List.length_cons] at hfits ⊢
      have hnext : u16 (i + 1) = i + 1 := Nat.mod_eq_of_lt (by omega)
      rw [List.range'_succ, piecesFrom, VirtqueueSplit.fillTable, Spells,
        fillTable_of_lt (Nat.lt_succ_self i), Function.update_self]
      refine ⟨rfl, rfl, rfl, rfl, ?_⟩
      rw [hnext]
      exact ih (by omega)

theorem indirectTable_spells (hone : r.sg ≠ []) (hfits : r.sg.length < 2 ^ 16) :
    Spells (VirtqueueSplit.indirectTable r desc) false 0 (List.range' 0 r.sg.length) r.pieces := by
  have hpos : r.sg.length ≠ 0 := fun hzero => hone (List.length_eq_zero_iff.mp hzero)
  refine (fillTable_spells (by omega)).finish List.nodup_range' ?_
  rw [List.getLast?_range', if_neg hpos]
  congr 1
  omega

/-- One descriptor, for a page of the caller's. -/
theorem addIndirect (h : Table page vq free lots) (hcareful : Careful page vq r) {p : Nat}
    (hpage : tableOf page r = some p) (hroom : 1 ≤ free.length) :
    ∃ vq', vq.addIndirect r p = some ((Lot.mk r (free.take 1)).head, vq') ∧ Retabled vq vq' ∧
      Table page vq' (free.drop 1) (⟨r, free.take 1⟩ :: lots) := by
  obtain ⟨c, rest, rfl⟩ := List.exists_cons_of_length_pos hroom
  have hcfree : c ∈ c :: rest := List.mem_cons_self
  have htoken : page r.token = some p := (Option.ite_none_right_eq_some.mp hpage).2
  have hfits := hcareful.fits p htoken
  have hrun : vq.addIndirect r p = some (c, { vq with
      vring.desc := Function.update vq.vring.desc c { vq.vring.desc c with
        addr := p, len := r.sg.length * 16, flags := ⟨false, false, true⟩ }
      vring.tables := Function.update vq.vring.tables p
        (VirtqueueSplit.indirectTable r (vq.vring.tables p))
      firstUnused := (vq.vring.desc c).next
      numUnused := vq.numUnused - 1
      opaques := Function.update vq.opaques c (some r.token) }) := by
    rw [VirtqueueSplit.addIndirect, getUnusedDesc_eq (c := c)]
    · rfl
    · exact h.links.1
    · exact h.free_lt c hcfree
    · rw [h.unused]
      exact Nat.succ_ne_zero _
  refine ⟨_, hrun, ⟨_, _, _, _, _, rfl⟩, ?_⟩
  constructor
  · exact h.perm_drawn 1
  · refine h.links.2.congr fun d hd => ?_
    show (Function.update vq.vring.desc c _ d).next = _
    rcases eq_or_ne d c with rfl | hne
    · rw [Function.update_self]
    · rw [Function.update_of_ne hne]
  · show vq.numUnused - 1 = rest.length
    rw [h.unused, List.length_cons, Nat.add_sub_cancel]
  · rintro lot (_ | ⟨_, hlot⟩)
    · unfold Laid
      rw [hpage]
      refine ⟨rfl, ?_, ?_, ?_, ?_⟩
      · show (Function.update vq.vring.desc c _ c).addr = p
        rw [Function.update_self]
      · show (Function.update vq.vring.desc c _ c).len = _
        rw [Function.update_self]
      · show (Function.update vq.vring.desc c _ c).flags = _
        rw [Function.update_self]
      · show Spells (Function.update vq.vring.tables p _ p) _ _ _ _
        rw [Function.update_self]
        exact indirectTable_spells hcareful.nonempty (by omega)
    · refine (h.laid lot hlot).congr (fun d hd => ?_) fun q hq => ?_
      · exact Function.update_of_ne (ne_of_mem_of_not_mem hd (h.not_free hlot · hcfree)) ..
      · refine Function.update_of_ne ?_ ..
        rintro rfl
        have hpage := (Option.ite_none_right_eq_some.mp hq).2
        exact hcareful.fresh _ _ _ (h.tokens lot hlot) hpage htoken
  · rintro lot (_ | ⟨_, hlot⟩)
    · exact Function.update_self ..
    · exact h.tokens_update hcfree r.token lot hlot
  · intro d hd
    show Function.update vq.opaques c _ d = none
    have hne : d ≠ c := fun heq => hd _ List.mem_cons_self heq.symm
    rw [Function.update_of_ne hne]
    exact h.others d fun lot hlot => hd lot (List.mem_cons_of_mem _ hlot)

/-- A request for which there are descriptors enough is described. -/
theorem describeRequest (h : Table page vq free lots) (hcareful : Careful page vq r)
    (hroom : cost page r ≤ free.length) :
    ∃ vq', vq.describeRequest r (page r.token) =
        some (some ((Lot.mk r (free.take (cost page r))).head, vq')) ∧ Retabled vq vq' ∧
      Table page vq' (free.drop (cost page r)) (⟨r, free.take (cost page r)⟩ :: lots) := by
  have hunused := h.unused
  cases htable : tableOf page r with
  | none =>
      have hcost : cost page r = r.sg.length := by rw [cost, htable]; rfl
      rw [hcost] at hroom ⊢
      obtain ⟨vq', hrun, hretabled, hafter⟩ := h.addDirect htable hcareful.nonempty hroom
      refine ⟨vq', ?_, hretabled, hafter⟩
      have hnot : ¬ vq.numUnused < r.sg.length := by omega
      unfold VirtqueueSplit.describeRequest
      split
      next p hp =>
        have hone : ¬ 1 < r.sg.length := fun hmany => by
          rw [tableOf, if_pos hmany, hp] at htable
          cases htable
        rw [if_neg (fun hboth => hone hboth.1), if_neg hnot, hrun, Option.map_some]
      next => rw [if_neg hnot, hrun, Option.map_some]
  | some p =>
      have hcost : cost page r = 1 := by rw [cost, htable]; rfl
      rw [hcost] at hroom ⊢
      obtain ⟨vq', hrun, hretabled, hafter⟩ := h.addIndirect hcareful htable hroom
      refine ⟨vq', ?_, hretabled, hafter⟩
      obtain ⟨hmany, htoken⟩ := Option.ite_none_right_eq_some.mp htable
      rw [htoken, VirtqueueSplit.describeRequest]
      show (if 1 < r.sg.length ∧ 0 < vq.numUnused then _ else _) = _
      rw [if_pos ⟨hmany, by omega⟩, hrun, Option.map_some]

/-- A request for which there are too few descriptors is refused. -/
theorem describeRequest_full (h : Table page vq free lots) (hfull : free.length < cost page r) :
    vq.describeRequest r (page r.token) = some none := by
  have hunused := h.unused
  cases htable : tableOf page r with
  | none =>
      have hcost : cost page r = r.sg.length := by rw [cost, htable]; rfl
      have hless : vq.numUnused < r.sg.length := by omega
      unfold VirtqueueSplit.describeRequest
      split
      next p hp =>
        have hone : ¬ 1 < r.sg.length := fun hmany => by
          rw [tableOf, if_pos hmany, hp] at htable
          cases htable
        rw [if_neg (fun hboth => hone hboth.1), if_pos hless]
      next => rw [if_pos hless]
  | some p =>
      have hcost : cost page r = 1 := by rw [cost, htable]; rfl
      obtain ⟨hmany, htoken⟩ := Option.ite_none_right_eq_some.mp htable
      rw [htoken, VirtqueueSplit.describeRequest]
      show (if 1 < r.sg.length ∧ 0 < vq.numUnused then _ else _) = _
      rw [if_neg (by omega), if_pos (by omega)]

/-- No descriptor belongs to two requests. -/
theorem not_shared (h : Table page vq free (lot :: lots)) {c : Nat} (hc : c ∈ lot.cells)
    {other : Lot Token} (hother : other ∈ lots) : c ∉ other.cells := fun hc' =>
  (List.nodup_append.mp (List.flatMap_cons ▸ (List.nodup_append.mp h.nodup).2.1)).2.2 c hc c
    (List.mem_flatMap.mpr ⟨other, hother, hc'⟩) rfl

/-- The descriptors of a request are chained from its head, and the walk ends at the last. -/
theorem walk_eq (h : Table page vq free lots) (hlot : lot ∈ lots) :
    ∃ front last, lot.cells = front ++ [last] ∧
      Links (fun c => (vq.vring.desc c).next) lot.head (front ++ [last]) ∧
      VirtqueueSplit.chainEnd vq.vring vq.vring.num lot.head vq.numUnused =
        some (last, vq.numUnused + front.length) := by
  have hlaid := h.laid lot hlot
  have hlt := h.cells_lt hlot
  have hlength := h.length_cells_le hlot
  have hlaid' := hlaid
  have hne := hlaid.cells_ne_nil
  obtain ⟨front, last, hcells⟩ := (List.eq_nil_or_concat' lot.cells).resolve_left hne
  refine ⟨front, last, hcells, ?_⟩
  unfold Laid at hlaid
  split at hlaid
  next =>
    have hlast : lot.cells.getLast? = some last := by rw [hcells, List.getLast?_concat]
    have hend := hlaid.2.chainEnd_eq vq.numUnused hlt hlength hlast
    have hcount : lot.cells.length - 1 = front.length := by
      rw [hcells, List.length_append, List.length_singleton, Nat.add_sub_cancel]
    rw [hcount] at hend
    exact ⟨hcells ▸ hlaid.2.links, hend⟩
  next =>
    obtain ⟨hone, -, -, hflags, -⟩ := hlaid
    obtain ⟨rfl, rfl⟩ : front = [] ∧ last = lot.head := by
      rw [hone] at hcells
      obtain _ | ⟨c, front⟩ := front
      · exact ⟨rfl, (List.singleton_inj.mp hcells).symm⟩
      · exact absurd (congrArg List.length hcells) (by simp)
    refine ⟨⟨rfl, trivial⟩, ?_⟩
    obtain ⟨fuel, hfuel⟩ := Nat.exists_eq_succ_of_ne_zero (Nat.ne_of_gt (Nat.lt_of_lt_of_le
      (List.length_pos_iff.mpr hne) hlength))
    rw [hfuel, VirtqueueSplit.chainEnd, if_neg (Nat.not_le_of_lt (hlt _ hlaid'.head_mem)), hflags]
    rfl

/-- The descriptors of a request join the unused ones. -/
theorem putUnusedDescChain (h : Table page vq free (lot :: lots)) :
    ∃ vq', vq.putUnusedDescChain lot.head = some vq' ∧ Retabled vq vq' ∧
      Table page vq' (lot.cells ++ free) lots := by
  have hmem : lot ∈ lot :: lots := List.mem_cons_self
  have hhead := (h.laid lot hmem).head_mem
  obtain ⟨front, last, hcells, hlinks, hend⟩ := h.walk_eq hmem
  have hlast : last ∈ lot.cells := hcells ▸ List.mem_append_right _ List.mem_cons_self
  have hrun : vq.putUnusedDescChain lot.head = some { vq with
      vring.desc := Function.update vq.vring.desc last { vq.vring.desc last with
        flags := ⟨true, false, false⟩, next := vq.firstUnused }
      opaques := Function.update vq.opaques lot.head none
      numUnused := vq.numUnused + front.length + 1
      firstUnused := lot.head } := by
    rw [VirtqueueSplit.putUnusedDescChain, hend]
    rfl
  have hnext : ∀ c, (Function.update vq.vring.desc last { vq.vring.desc last with
      flags := ⟨true, false, false⟩, next := vq.firstUnused } c).next =
      Function.update (fun c => (vq.vring.desc c).next) last vq.firstUnused c := by
    intro c
    rcases eq_or_ne c last with rfl | hne
    · rw [Function.update_self, Function.update_self]
    · rw [Function.update_of_ne hne, Function.update_of_ne hne]
  have hnodup : (front ++ last :: free).Nodup := by
    have hall := (h.nodup.sublist (List.Sublist.append_left
      (List.flatMap_cons ▸ List.sublist_append_left ..) free)).perm List.perm_append_comm
    rwa [hcells, List.append_assoc] at hall
  refine ⟨_, hrun, ⟨_, _, _, _, _, rfl⟩, ?_⟩
  constructor
  · refine List.Perm.trans ?_ h.cells
    rw [List.flatMap_cons, ← List.append_assoc]
    exact List.perm_append_comm.append_right _
  · rw [hcells, List.append_assoc]
    exact (hlinks.join h.links hnodup).congr fun c _ => hnext c
  · show vq.numUnused + front.length + 1 = _
    rw [h.unused, hcells]
    simp only [List.length_append, List.length_singleton]
    omega
  · intro other hother
    refine (h.laid other (List.mem_cons_of_mem _ hother)).congr (fun c hc => ?_) fun _ _ => rfl
    refine Function.update_of_ne ?_ ..
    rintro rfl
    exact h.not_shared hlast hother hc
  · intro other hother
    show Function.update vq.opaques lot.head none other.head = _
    rw [Function.update_of_ne, h.tokens other (List.mem_cons_of_mem _ hother)]
    intro heq
    exact h.not_shared hhead hother
      (heq ▸ (h.laid other (List.mem_cons_of_mem _ hother)).head_mem)
  · intro c hc
    show Function.update vq.opaques lot.head none c = none
    rcases eq_or_ne c lot.head with rfl | hne
    · exact Function.update_self ..
    · rw [Function.update_of_ne hne]
      refine h.others c ?_
      rintro other (_ | ⟨_, hother⟩)
      · exact hne.symm
      · exact hc other hother

end Table

end VirtDisplay.Virtio.SplitRing
