/-
# The identifiers of a packed ring

Every identifier is unused or belongs to one request, which has as many of them as it has
descriptors and is known by the first. The unused ones are chained from `free_head`. The
device never sees this table, and nothing that the device can write decides how it changes.
-/

import VirtDisplay.Foundation.Chains
import VirtDisplay.Virtio.PackedRing

namespace VirtDisplay.Virtio.PackedRing

open Chains

variable {Token : Type*}

/-- A request, with the identifiers that it has. -/
structure Lot (Token : Type*) where
  request : Request Token
  ids : List Nat

/-- The identifier under which the ring knows a lot. -/
def Lot.head (lot : Lot Token) : Nat := lot.ids.headD 0

section

variable (page : Token → Option Nat)

/-- The number of descriptors a request takes: one if the caller has an indirect page for it. -/
def cost (r : Request Token) : Nat := if (page r.token).isSome then 1 else r.sg.length

theorem cost_pos {r : Request Token} (hne : r.sg ≠ []) : 0 < cost page r := by
  unfold cost
  split
  next => exact Nat.zero_lt_one
  next => exact List.length_pos_iff.mpr hne

/-- What is kept of a request in the state of its identifiers. -/
structure Owned (vq : VirtqueuePacked Token) (lot : Lot Token) : Prop where
  length : lot.ids.length = cost page lot.request
  nonempty : lot.ids ≠ []
  links : Links (fun i => (vq.descState i).next) lot.head lot.ids
  data : (vq.descState lot.head).data = some lot.request.token
  num : (vq.descState lot.head).num = lot.ids.length
  last : lot.ids.getLast? = some (vq.descState lot.head).last

/-- All identifiers: the unused ones in the order of their chain, and those of the requests. -/
structure Idents (vq : VirtqueuePacked Token) (free : List Nat) (lots : List (Lot Token)) :
    Prop where
  ids : (free ++ lots.flatMap Lot.ids).Perm (List.range vq.vring.num)
  links : Links (fun i => (vq.descState i).next) vq.freeHead free
  numFree : vq.numFree = free.length
  owned : ∀ lot ∈ lots, Owned page vq lot
  others : ∀ i, (∀ lot ∈ lots, lot.head ≠ i) → (vq.descState i).data = none
  /-- `free_head` is an identifier even when none is unused. -/
  freeHead : vq.freeHead < vq.vring.num
  nexts : ∀ i, (vq.descState i).next < vq.vring.num

end

variable {page : Token → Option Nat} {vq vq' : VirtqueuePacked Token} {free rest ids : List Nat}
variable {lots lots' : List (Lot Token)} {lot : Lot Token} {r : Request Token}

theorem Owned.head_mem (h : Owned page vq lot) : lot.head ∈ lot.ids := by
  obtain ⟨i, ids, hids⟩ := List.exists_cons_of_ne_nil h.nonempty
  rw [Lot.head, hids]
  exact List.mem_cons_self

namespace Idents

/-- The order in which the requests are listed does not matter. -/
theorem perm (h : Idents page vq free lots) (hperm : lots.Perm lots') :
    Idents page vq free lots' :=
  { h with
    ids := ((hperm.flatMap_right Lot.ids).symm.append_left free).trans h.ids
    owned := fun lot hlot => h.owned lot (hperm.mem_iff.mpr hlot)
    others := fun i hi => h.others i fun lot hlot => hi lot (hperm.mem_iff.mp hlot) }

/-- Nothing else of the queue matters, and no descriptor does. -/
theorem transfer (h : Idents page vq free lots) (hsize : vq'.vring.num = vq.vring.num)
    (hstate : vq'.descState = vq.descState) (hhead : vq'.freeHead = vq.freeHead)
    (hfree : vq'.numFree = vq.numFree) : Idents page vq' free lots where
  ids := by rw [hsize]; exact h.ids
  links := by rw [hstate, hhead]; exact h.links
  numFree := by rw [hfree]; exact h.numFree
  owned lot hlot := by
    obtain ⟨hlength, hne, hlinks, hdata, hnum, hlast⟩ := h.owned lot hlot
    rw [← hstate] at hlinks hdata hnum hlast
    exact ⟨hlength, hne, hlinks, hdata, hnum, hlast⟩
  others i hi := by rw [hstate]; exact h.others i hi
  freeHead := by rw [hsize, hhead]; exact h.freeHead
  nexts i := by rw [hsize, hstate]; exact h.nexts i

theorem nodup (h : Idents page vq free lots) : (free ++ lots.flatMap Lot.ids).Nodup :=
  h.ids.nodup_iff.mpr List.nodup_range

theorem free_lt (h : Idents page vq free lots) : ∀ i ∈ free, i < vq.vring.num := fun _ hi =>
  List.mem_range.mp (h.ids.mem_iff.mp (List.mem_append_left _ hi))

theorem ids_lt (h : Idents page vq free lots) (hlot : lot ∈ lots) :
    ∀ i ∈ lot.ids, i < vq.vring.num := fun _ hi =>
  List.mem_range.mp (h.ids.mem_iff.mp (List.mem_append_right _
    (List.mem_flatMap.mpr ⟨lot, hlot, hi⟩)))

theorem head_lt (h : Idents page vq free lots) (hlot : lot ∈ lots) : lot.head < vq.vring.num :=
  h.ids_lt hlot _ (h.owned lot hlot).head_mem

/-- Unused identifiers belong to no request. -/
theorem not_free (h : Idents page vq free lots) (hlot : lot ∈ lots) {i : Nat}
    (hi : i ∈ lot.ids) : i ∉ free := fun hfree =>
  (List.nodup_append.mp h.nodup).2.2 i hfree i (List.mem_flatMap.mpr ⟨lot, hlot, hi⟩) rfl

/-- No identifier belongs to two requests. -/
theorem not_shared (h : Idents page vq free (lot :: lots)) {i : Nat} (hi : i ∈ lot.ids)
    {other : Lot Token} (hother : other ∈ lots) : i ∉ other.ids := fun hi' =>
  (List.nodup_append.mp (List.flatMap_cons ▸ (List.nodup_append.mp h.nodup).2.1)).2.2 i hi i
    (List.mem_flatMap.mpr ⟨other, hother, hi'⟩) rfl

/-- Together, the requests and the unused identifiers are as many as the ring has slots. -/
theorem length_eq (h : Idents page vq free lots) :
    free.length + (lots.map fun lot => cost page lot.request).sum = vq.vring.num := by
  have hlength := h.ids.length_eq
  rw [List.length_append, List.length_range, List.length_flatMap] at hlength
  rw [← hlength]
  congr 2
  exact List.map_congr_left fun lot hlot => (h.owned lot hlot).length.symm

/-- An identifier whose state has a pointer is that of a request. -/
theorem exists_of_data (h : Idents page vq free lots) {i : Nat} {token : Token}
    (hdata : (vq.descState i).data = some token) :
    ∃ lot ∈ lots, lot.head = i ∧ lot.request.token = token := by
  by_contra hnot
  by_cases hsome : ∃ lot ∈ lots, lot.head = i
  · obtain ⟨lot, hlot, rfl⟩ := hsome
    refine hnot ⟨lot, hlot, rfl, ?_⟩
    exact Option.some.inj ((h.owned lot hlot).data.symm.trans hdata)
  · rw [h.others i fun lot hlot heq => hsome ⟨lot, hlot, heq⟩] at hdata
    cases hdata

/-- A request takes identifiers from the front of the chain. -/
theorem draw (h : Idents page vq (ids ++ rest) lots) {first last : Nat}
    (hlength : ids.length = cost page r) (hlast : ids.getLast? = some last)
    (hfirst : Links (fun i => (vq.descState i).next) first rest) (hlt : first < vq.vring.num)
    (hsize : vq'.vring.num = vq.vring.num)
    (hstate : vq'.descState = Function.update vq.descState vq.freeHead
      ⟨some r.token, ids.length, (vq.descState vq.freeHead).next, last⟩)
    (hhead : vq'.freeHead = first) (hfree : vq'.numFree = rest.length) :
    Idents page vq' rest (⟨r, ids⟩ :: lots) := by
  have hne : ids ≠ [] := by
    rintro rfl
    cases hlast
  obtain ⟨i, tail, rfl⟩ := List.exists_cons_of_ne_nil hne
  have hi : vq.freeHead = i := h.links.1
  have hmem : i ∈ i :: tail ++ rest := List.mem_append_left _ List.mem_cons_self
  have hnext : (fun j => (vq'.descState j).next) = fun j => (vq.descState j).next := by
    funext j
    rw [hstate, hi]
    rcases eq_or_ne j i with rfl | hj
    · rw [Function.update_self]
    · rw [Function.update_of_ne hj]
  have hself : vq'.descState i = ⟨some r.token, tail.length + 1, (vq.descState i).next, last⟩ := by
    rw [hstate, hi, Function.update_self, List.length_cons]
  have hkept : ∀ lot ∈ lots, vq'.descState lot.head = vq.descState lot.head := by
    intro lot hlot
    rw [hstate, hi, Function.update_of_ne]
    rintro rfl
    exact h.not_free hlot (h.owned lot hlot).head_mem hmem
  constructor
  · rw [hsize, List.flatMap_cons, ← List.append_assoc]
    exact (List.perm_append_comm.append_right _).trans h.ids
  · rw [hnext, hhead]
    exact hfirst
  · exact hfree
  · rintro lot (_ | ⟨_, hlot⟩)
    · have hlinks : Links (fun j => (vq.descState j).next) i (i :: tail) := hi ▸ h.links.of_append
      refine ⟨hlength, hne, hnext ▸ hlinks, ?_, ?_, ?_⟩
      · exact congrArg DescState.data hself
      · exact congrArg DescState.num hself
      · exact hlast.trans (congrArg (fun s => some (DescState.last s)) hself).symm
    · obtain ⟨hlength', hne', hlinks, hdata, hnum, hlast'⟩ := h.owned lot hlot
      rw [← hkept lot hlot] at hdata hnum hlast'
      exact ⟨hlength', hne', hnext ▸ hlinks, hdata, hnum, hlast'⟩
  · intro j hj
    have hne' : j ≠ i := fun heq => hj _ List.mem_cons_self heq.symm
    rw [hstate, hi, Function.update_of_ne hne']
    exact h.others j fun lot hlot => hj lot (List.mem_cons_of_mem _ hlot)
  · rw [hsize, hhead]
    exact hlt
  · intro j
    rw [hsize]
    exact (congrFun hnext j).trans_lt (h.nexts j)

/-- A request gives its identifiers back, to the front of the chain. -/
theorem detachBufPacked (h : Idents page vq free (lot :: lots)) (hsize : vq.vring.num ≤ 2 ^ 16) :
    Idents page (vq.detachBufPacked lot.head) (lot.ids ++ free) lots := by
  have hmem : lot ∈ lot :: lots := List.mem_cons_self
  have howned := h.owned lot hmem
  obtain ⟨front, last, hids⟩ := (List.eq_nil_or_concat' lot.ids).resolve_left howned.nonempty
  have hlast : (vq.descState lot.head).last = last := by
    have hlast := howned.last
    rw [hids, List.getLast?_concat] at hlast
    exact (Option.some.inj hlast).symm
  have hlastmem : last ∈ lot.ids := hids ▸ List.mem_append_right _ List.mem_cons_self
  have hhead : u16 vq.freeHead = vq.freeHead :=
    Nat.mod_eq_of_lt (Nat.lt_of_lt_of_le h.freeHead hsize)
  have hnext : ∀ i, ((vq.detachBufPacked lot.head).descState i).next =
      Function.update (fun i => (vq.descState i).next) last vq.freeHead i := by
    intro i
    simp only [VirtqueuePacked.detachBufPacked, VirtqueuePacked.setState, hlast, hhead]
    rcases eq_or_ne i last with rfl | hi
    · rw [Function.update_self, Function.update_self]
    · rw [Function.update_of_ne hi, Function.update_of_ne hi]
      rcases eq_or_ne i lot.head with rfl | hi'
      · rw [Function.update_self]
      · rw [Function.update_of_ne hi']
  have hother : ∀ i, i ≠ lot.head → i ≠ last →
      (vq.detachBufPacked lot.head).descState i = vq.descState i := by
    intro i hi hi'
    simp only [VirtqueuePacked.detachBufPacked, VirtqueuePacked.setState, hlast]
    rw [Function.update_of_ne hi', Function.update_of_ne hi]
  have hdata : ∀ i, ((vq.detachBufPacked lot.head).descState i).data =
      if i = lot.head then none else (vq.descState i).data := by
    intro i
    simp only [VirtqueuePacked.detachBufPacked, VirtqueuePacked.setState, hlast]
    rcases eq_or_ne i last with rfl | hi
    · rw [Function.update_self]
      dsimp only
      split
      next heq => rw [heq, Function.update_self]
      next hne => rw [Function.update_of_ne hne]
    · rw [Function.update_of_ne hi]
      split
      next heq => rw [heq, Function.update_self]
      next hne => rw [Function.update_of_ne hne]
  have hnodup : (front ++ last :: free).Nodup := by
    have hall := (h.nodup.sublist (List.Sublist.append_left
      (List.flatMap_cons ▸ List.sublist_append_left ..) free)).perm List.perm_append_comm
    rwa [hids, List.append_assoc] at hall
  constructor
  · refine List.Perm.trans ?_ h.ids
    rw [List.flatMap_cons, ← List.append_assoc]
    exact List.perm_append_comm.append_right _
  · rw [hids, List.append_assoc]
    exact ((hids ▸ howned.links : Links _ lot.head (front ++ [last])).join h.links hnodup).congr
      fun i _ => hnext i
  · show vq.numFree + (vq.descState lot.head).num = _
    rw [h.numFree, howned.num, List.length_append, Nat.add_comm]
  · intro other hmem'
    have hother' := h.owned other (List.mem_cons_of_mem _ hmem')
    have hhead' : other.head ≠ lot.head := fun heq =>
      h.not_shared howned.head_mem hmem' (heq ▸ hother'.head_mem)
    have hlast' : other.head ≠ last := fun heq =>
      h.not_shared hlastmem hmem' (heq ▸ hother'.head_mem)
    have hkept := hother other.head hhead' hlast'
    refine ⟨hother'.length, hother'.nonempty, ?_, hkept ▸ hother'.data, hkept ▸ hother'.num,
      hkept ▸ hother'.last⟩
    refine hother'.links.congr fun i hi => ?_
    have hi' : i ≠ last := fun heq => h.not_shared hlastmem hmem' (heq ▸ hi)
    rw [hnext, Function.update_of_ne hi']
  · intro i hi
    rw [hdata]
    split
    next => rfl
    next hne =>
      refine h.others i ?_
      rintro other (_ | ⟨_, hother'⟩)
      · exact fun heq => hne heq.symm
      · exact hi other hother'
  · exact h.head_lt hmem
  · intro i
    rw [hnext]
    rcases eq_or_ne i last with rfl | hi
    · rw [Function.update_self]
      exact h.freeHead
    · rw [Function.update_of_ne hi]
      exact h.nexts i

end Idents

end VirtDisplay.Virtio.PackedRing
