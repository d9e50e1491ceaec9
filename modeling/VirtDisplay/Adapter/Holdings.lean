/-
# Who holds which resource id

The objects of the adapter and the bitmap of ids change separately: an id is taken before
its object exists, is put into the object late and on one path only, and is given back
after the object is gone. `Holdings` is what remains when everything else is forgotten:
the id of the object in each slot, and the bitmap.

A call destroys some objects, then makes at most one, and last uses what is there.
`Course` says so of every call, together with what the host sees of it.
-/

import VirtDisplay.Adapter.HostView

namespace VirtDisplay

open Transition

namespace Idr

/-- Some id is free. -/
def HasRoom (idr : Idr) : Prop := ∃ id < bitmapSize, id ∉ idr.used

theorem findClear_of_some {used : List Nat} {bits i id : Nat}
    (hfound : findClear used bits i = some id) : id ∉ used ∧ id < i + bits := by
  induction bits generalizing i with
  | zero => cases hfound
  | succ bits ih =>
      rw [findClear] at hfound
      split at hfound
      next =>
        obtain ⟨hclear, hlt⟩ := ih hfound
        exact ⟨hclear, by omega⟩
      next hclear =>
        obtain rfl := Option.some.inj hfound
        exact ⟨hclear, by omega⟩

theorem findClear_of_none {used : List Nat} {bits i id : Nat}
    (hnone : findClear used bits i = none) (hle : i ≤ id) (hlt : id < i + bits) : id ∈ used := by
  induction bits generalizing i with
  | zero => omega
  | succ bits ih =>
      rw [findClear] at hnone
      split at hnone
      next hset =>
        rcases Nat.eq_or_lt_of_le hle with rfl | hlt'
        · exact hset
        · exact ih hnone hlt' (by omega)
      next => cases hnone

/-- With an id free, `GetId` takes one that is. -/
theorem HasRoom.getId {idr : Idr} (hroom : idr.HasRoom) :
    idr.getId.1 ∉ idr.used ∧ idr.getId.1 < bitmapSize ∧
      idr.getId.2 = { idr with used := idr.getId.1 :: idr.used } := by
  unfold Idr.getId
  split
  next id hfound =>
    obtain ⟨hclear, hlt⟩ := findClear_of_some hfound
    exact ⟨hclear, by omega, rfl⟩
  next hnone =>
    obtain ⟨id, hlt, hclear⟩ := hroom
    exact absurd (findClear_of_none hnone (Nat.zero_le _) (by omega)) hclear

theorem mem_used_putId {idr : Idr} {id other : Nat} :
    other ∈ (idr.putId id).used ↔ other ∈ idr.used ∧ other ≠ id := by
  simp [putId]

end Idr

/-- The object in a slot. -/
def Adapter.object (a : Adapter) : Slot → Option VioGpuObj
  | .frame i => (a.screens i).front
  | .cursor i => (a.screens i).cursorBuf

/-- The resource id of the object in each slot, and the bitmap. -/
structure Holdings where
  held : Slot → Option Nat
  idr : Idr

/-- The adapter's holdings. -/
def Adapter.holdings (a : Adapter) : Holdings :=
  ⟨fun slot => (a.object slot).map VioGpuObj.hwRes, a.idr⟩

namespace Holdings

variable (h : Holdings)

/-- The object in a slot is destroyed. -/
def drop (slot : Slot) (id : Nat) : Holdings := ⟨Function.update h.held slot none, h.idr.putId id⟩

/-- The id the next object will get. -/
def nextId : Nat := h.idr.getId.1

/-- An object is put into a slot, under this id. -/
def take (slot : Slot) (id : Nat) : Holdings :=
  ⟨Function.update h.held slot (some id), h.idr.getId.2⟩

/-- An id is taken and kept for no object. -/
def lose : Holdings := { h with idr := h.idr.getId.2 }

/-- An id is taken and given back. -/
def abandon : Holdings := { h with idr := h.idr.getId.2.putId h.nextId }

/-- Objects have ids of their own, taken from the bitmap. An object whose attach step
failed has the id zero, and is nobody's. -/
structure Owned : Prop where
  used : ∀ {slot id}, h.held slot = some id → id ≠ 0 → id ∈ h.idr.used
  lt : ∀ {slot id}, h.held slot = some id → id < Idr.bitmapSize
  apart : ∀ {slot slot' id}, h.held slot = some id → h.held slot' = some id → id ≠ 0 → slot = slot'

variable {h} {slot : Slot} {id : Nat}

@[simp] theorem drop_held_self : (h.drop slot id).held slot = none := Function.update_self _ _ _
@[simp] theorem take_held_self : (h.take slot id).held slot = some id := Function.update_self _ _ _

theorem drop_held_of_ne {slot' : Slot} (hne : slot' ≠ slot) :
    (h.drop slot id).held slot' = h.held slot' := Function.update_of_ne hne _ _

theorem take_held_of_ne {slot' : Slot} (hne : slot' ≠ slot) :
    (h.take slot id).held slot' = h.held slot' := Function.update_of_ne hne _ _

theorem held_drop {slot' : Slot} {id' : Nat} (hheld : (h.drop slot id).held slot' = some id') :
    slot' ≠ slot ∧ h.held slot' = some id' := by
  have hne : slot' ≠ slot := by
    rintro rfl
    cases drop_held_self.symm.trans hheld
  exact ⟨hne, (drop_held_of_ne hne).symm.trans hheld⟩

theorem held_take {slot' : Slot} {id' : Nat} (hheld : (h.take slot id).held slot' = some id') :
    slot' = slot ∧ id' = id ∨ slot' ≠ slot ∧ h.held slot' = some id' := by
  by_cases hslot : slot' = slot
  · subst hslot
    exact .inl ⟨rfl, Option.some.inj (hheld.symm.trans take_held_self)⟩
  · exact .inr ⟨hslot, (take_held_of_ne hslot).symm.trans hheld⟩

theorem Owned.drop (howned : h.Owned) (hheld : h.held slot = some id) : (h.drop slot id).Owned := by
  refine ⟨fun hother hne => ?_, fun hother => howned.lt (held_drop hother).2,
    fun hone hother hne => howned.apart (held_drop hone).2 (held_drop hother).2 hne⟩
  obtain ⟨hslot, hbefore⟩ := held_drop hother
  refine Idr.mem_used_putId.mpr ⟨howned.used hbefore hne, fun heq => ?_⟩
  exact hslot (howned.apart hbefore (heq ▸ hheld) hne)

/-- A new object gets an id that is free, or none. -/
theorem Owned.take (howned : h.Owned) (hroom : h.idr.HasRoom) (hid : id = h.nextId ∨ id = 0) :
    (h.take slot id).Owned := by
  obtain ⟨hclear, hlt, hused⟩ := hroom.getId
  have hnext : id ≠ 0 → id = h.idr.getId.1 := hid.resolve_right
  have hother : ∀ {slot' id'}, h.held slot' = some id' → id' ≠ 0 → id' ≠ h.idr.getId.1 := by
    rintro slot' id' hheld hne rfl
    exact hclear (howned.used hheld hne)
  refine ⟨fun hheld hne => ?_, fun hheld => ?_, fun hone htwo hne => ?_⟩
  · show _ ∈ h.idr.getId.2.used
    rw [hused]
    rcases held_take hheld with ⟨-, rfl⟩ | ⟨-, hheld⟩
    · exact List.mem_cons.mpr (.inl (hnext hne))
    · exact List.mem_cons_of_mem _ (howned.used hheld hne)
  · rcases held_take hheld with ⟨-, rfl⟩ | ⟨-, hheld⟩
    · rcases hid with rfl | rfl
      · exact hlt
      · exact by norm_num
    · exact howned.lt hheld
  · rcases held_take hone with ⟨hslot, heq⟩ | ⟨-, hfirst⟩
    · rcases held_take htwo with ⟨hslot', -⟩ | ⟨-, hsecond⟩
      · rw [hslot, hslot']
      · exact absurd (heq ▸ hnext (heq ▸ hne)) (hother hsecond hne)
    · rcases held_take htwo with ⟨-, heq⟩ | ⟨-, hsecond⟩
      · exact absurd (heq ▸ hnext (heq ▸ hne)) (hother hfirst hne)
      · exact howned.apart hfirst hsecond hne

theorem Owned.lose (howned : h.Owned) (hroom : h.idr.HasRoom) : h.lose.Owned := by
  refine ⟨fun hheld hne => ?_, howned.lt, howned.apart⟩
  show _ ∈ h.idr.getId.2.used
  rw [hroom.getId.2.2]
  exact List.mem_cons_of_mem _ (howned.used hheld hne)

theorem Owned.abandon (howned : h.Owned) (hroom : h.idr.HasRoom) : h.abandon.Owned := by
  refine ⟨fun hheld hne => ?_, howned.lt, howned.apart⟩
  refine Idr.mem_used_putId.mpr ⟨(howned.lose hroom).used hheld hne, ?_⟩
  rintro rfl
  exact hroom.getId.1 (howned.used hheld hne)

end Holdings

end VirtDisplay
