/-
# Objects registered in slots

A program creates objects one after the other, keeps a reference to each in a slot, and
ends an object by handing the slot's reference to whoever owns it. What can go wrong is
that a slot is overwritten while it still holds an object, or that the reference handed
over is null or stale.

Objects are numbered in the order of their creation. The numbers are the model's: a
program only sees whether a slot is empty.
-/

import Mathlib.Data.List.Nodup
import Mathlib.Logic.Function.Basic

universe u

namespace Registry

/-- A call that ends an object: its argument, and whether that was an object created and
not ended before. -/
structure Ending where
  object : Option Nat
  live : Bool
  deriving DecidableEq

end Registry

open Registry

/-- The slots, and what was created and ended so far, newest first. -/
structure Registry (Slot : Type u) where
  slots : Slot → Option Nat
  created : Nat
  ended : List Ending

namespace Registry

variable {Slot : Type u}

/-- Nothing created yet. -/
def empty : Registry Slot := ⟨fun _ => none, 0, []⟩

/-- The reference is to an object created and not ended. -/
def isLive (r : Registry Slot) (object : Option Nat) : Bool :=
  object.any fun k => k < r.created ∧ some k ∉ r.ended.map Ending.object

/-- Every object was ended once, or is in one slot. -/
structure Owned (r : Registry Slot) : Prop where
  apart : ∀ {i j k}, r.slots i = some k → r.slots j = some k → i = j
  below : ∀ {i k}, r.slots i = some k → k < r.created
  held : ∀ {i k}, r.slots i = some k → some k ∉ r.ended.map Ending.object
  kept : ∀ k < r.created, (∃ i, r.slots i = some k) ∨ some k ∈ r.ended.map Ending.object
  endedBelow : ∀ {k}, some k ∈ r.ended.map Ending.object → k < r.created
  once : (r.ended.map Ending.object).Nodup
  live : ∀ ending ∈ r.ended, ending.live = true

theorem owned_empty : (empty : Registry Slot).Owned where
  apart := nofun
  below := nofun
  held := nofun
  kept _ hlt := absurd hlt (Nat.not_lt_zero _)
  endedBelow := nofun
  once := List.nodup_nil
  live := nofun

/-- With all slots empty, every object was ended exactly once. -/
theorem Owned.ended_once {r : Registry Slot} {k : Nat} (howned : r.Owned)
    (hempty : ∀ i, r.slots i = none) (hlt : k < r.created) :
    (r.ended.map Ending.object).count (some k) = 1 := by
  apply List.count_eq_one_of_mem howned.once
  rcases howned.kept k hlt with ⟨i, hi⟩ | hmem
  · rw [hempty] at hi
    cases hi
  · exact hmem

/-- The object was created, is in no slot and was not ended. -/
structure Lost (r : Registry Slot) (k : Nat) : Prop where
  below : k < r.created
  nowhere : ∀ i, r.slots i ≠ some k
  notEnded : some k ∉ r.ended.map Ending.object

theorem Lost.not_owned {r : Registry Slot} {k : Nat} (hlost : r.Lost k) : ¬ r.Owned := by
  intro howned
  rcases howned.kept k hlost.below with ⟨i, hi⟩ | hmem
  · exact hlost.nowhere i hi
  · exact hlost.notEnded hmem

variable [DecidableEq Slot]

/-- Create an object and keep it in a slot. -/
def put (slot : Slot) (r : Registry Slot) : Registry Slot :=
  { r with slots := Function.update r.slots slot (some r.created), created := r.created + 1 }

/-- Hand a slot's reference over, whatever it is, and empty the slot. -/
def drop (slot : Slot) (r : Registry Slot) : Registry Slot :=
  { r with
    slots := Function.update r.slots slot none
    ended := ⟨r.slots slot, r.isLive (r.slots slot)⟩ :: r.ended }

/-- Forget a slot's reference without ending the object. -/
def clear (slot : Slot) (r : Registry Slot) : Registry Slot :=
  { r with slots := Function.update r.slots slot none }

section

variable (r : Registry Slot) (slot : Slot)

@[simp] theorem put_slots_self : (r.put slot).slots slot = some r.created := Function.update_self ..
@[simp] theorem put_created : (r.put slot).created = r.created + 1 := rfl
@[simp] theorem put_ended : (r.put slot).ended = r.ended := rfl
@[simp] theorem drop_slots_self : (r.drop slot).slots slot = none := Function.update_self ..
@[simp] theorem drop_created : (r.drop slot).created = r.created := rfl
@[simp] theorem clear_slots_self : (r.clear slot).slots slot = none := Function.update_self ..
@[simp] theorem clear_created : (r.clear slot).created = r.created := rfl
@[simp] theorem clear_ended : (r.clear slot).ended = r.ended := rfl

end

variable {r : Registry Slot} {slot other : Slot} {k : Nat}

@[simp] theorem put_slots_of_ne (hne : other ≠ slot) :
    (r.put slot).slots other = r.slots other := Function.update_of_ne hne ..

@[simp] theorem drop_slots_of_ne (hne : other ≠ slot) :
    (r.drop slot).slots other = r.slots other := Function.update_of_ne hne ..

@[simp] theorem clear_slots_of_ne (hne : other ≠ slot) :
    (r.clear slot).slots other = r.slots other := Function.update_of_ne hne ..

/-- There is nothing to forget in an empty slot. -/
theorem clear_of_empty (hempty : r.slots slot = none) : r.clear slot = r := by
  rw [clear, ← hempty, Function.update_eq_self]

/-- Creating an object in an empty slot. -/
theorem Owned.put (howned : r.Owned) (hempty : r.slots slot = none) : (r.put slot).Owned := by
  have hfresh : ∀ {i}, (r.put slot).slots i = some r.created → i = slot := by
    intro i hi
    by_contra hne
    rw [put_slots_of_ne hne] at hi
    exact Nat.lt_irrefl _ (howned.below hi)
  have hold : ∀ {i k}, (r.put slot).slots i = some k →
      i = slot ∧ k = r.created ∨ r.slots i = some k := by
    intro i k hi
    by_cases heq : i = slot
    · subst heq
      rw [put_slots_self, Option.some.injEq] at hi
      exact .inl ⟨rfl, hi.symm⟩
    · exact .inr (put_slots_of_ne heq ▸ hi)
  refine ⟨?_, ?_, ?_, ?_, ?_, howned.once, howned.live⟩
  · intro i j k hi hj
    rcases hold hi with ⟨rfl, rfl⟩ | hi'
    · exact (hfresh hj).symm
    · rcases hold hj with ⟨rfl, rfl⟩ | hj'
      · exact absurd (howned.below hi') (Nat.lt_irrefl _)
      · exact howned.apart hi' hj'
  · intro i k hi
    rcases hold hi with ⟨-, rfl⟩ | hi
    · exact Nat.lt_succ_self _
    · exact Nat.lt_succ_of_lt (howned.below hi)
  · intro i k hi
    rcases hold hi with ⟨-, rfl⟩ | hi
    · exact fun hmem => Nat.lt_irrefl _ (howned.endedBelow hmem)
    · exact howned.held hi
  · intro k hlt
    rcases Nat.lt_succ_iff_lt_or_eq.mp hlt with hlt | rfl
    · apply (howned.kept k hlt).imp_left
      rintro ⟨i, hi⟩
      have hne : i ≠ slot := by
        rintro rfl
        rw [hempty] at hi
        cases hi
      exact ⟨i, (put_slots_of_ne hne).trans hi⟩
    · exact .inl ⟨slot, put_slots_self ..⟩
  · intro k hmem
    exact Nat.lt_succ_of_lt (howned.endedBelow hmem)

/-- Ending the object of a slot that holds one. -/
theorem Owned.drop (howned : r.Owned) (hfull : (r.slots slot).isSome = true) :
    (r.drop slot).Owned := by
  obtain ⟨object, hobject⟩ := Option.isSome_iff_exists.mp hfull
  have hlive : r.isLive (some object) = true := by
    simp only [isLive, Option.any_some, decide_eq_true_eq]
    exact ⟨howned.below hobject, howned.held hobject⟩
  have hended : (r.drop slot).ended = ⟨some object, true⟩ :: r.ended := by
    simp only [Registry.drop, hobject, hlive]
  have hold : ∀ {i k}, (r.drop slot).slots i = some k → i ≠ slot ∧ r.slots i = some k := by
    intro i k hi
    have hne : i ≠ slot := by
      rintro rfl
      rw [drop_slots_self] at hi
      cases hi
    exact ⟨hne, drop_slots_of_ne hne ▸ hi⟩
  refine ⟨?_, ?_, ?_, ?_, ?_, ?_, ?_⟩
  · intro i j k hi hj
    exact howned.apart (hold hi).2 (hold hj).2
  · intro i k hi
    exact howned.below (hold hi).2
  · intro i k hi hmem
    obtain ⟨hne, hi⟩ := hold hi
    rw [hended, List.map_cons, List.mem_cons] at hmem
    rcases hmem with heq | hmem
    · obtain rfl := Option.some.inj heq
      exact hne (howned.apart hi hobject)
    · exact howned.held hi hmem
  · intro k hlt
    rw [hended, List.map_cons, List.mem_cons]
    rcases howned.kept k hlt with ⟨i, hi⟩ | hmem
    · by_cases heq : i = slot
      · subst heq
        exact .inr (.inl (hi.symm.trans hobject))
      · exact .inl ⟨i, (drop_slots_of_ne heq).trans hi⟩
    · exact .inr (.inr hmem)
  · intro k hmem
    rw [hended, List.map_cons, List.mem_cons] at hmem
    rcases hmem with heq | hmem
    · obtain rfl := Option.some.inj heq
      exact howned.below hobject
    · exact howned.endedBelow hmem
  · rw [hended, List.map_cons, List.nodup_cons]
    exact ⟨howned.held hobject, howned.once⟩
  · rw [hended]
    intro ending hmem
    rcases List.mem_cons.mp hmem with rfl | hmem
    · rfl
    · exact howned.live ending hmem

/-- An object that is forgotten is lost. -/
theorem Owned.lost_clear (howned : r.Owned) (hheld : r.slots slot = some k) :
    (r.clear slot).Lost k := by
  refine ⟨howned.below hheld, fun i hi => ?_, howned.held hheld⟩
  by_cases heq : i = slot
  · subst heq
    rw [clear_slots_self] at hi
    cases hi
  · rw [clear_slots_of_ne heq] at hi
    exact heq (howned.apart hi hheld)

/-- Creating an object forgets what was in its slot. -/
theorem put_clear : (r.clear slot).put slot = r.put slot := by
  rw [put, put, clear, Function.update_idem]

/-- What is lost stays lost. -/
theorem Lost.clear (hlost : r.Lost k) : (r.clear slot).Lost k := by
  refine ⟨hlost.below, fun i hi => ?_, hlost.notEnded⟩
  by_cases heq : i = slot
  · subst heq
    rw [clear_slots_self] at hi
    cases hi
  · exact hlost.nowhere i (clear_slots_of_ne heq ▸ hi)

theorem Lost.put (hlost : r.Lost k) : (r.put slot).Lost k := by
  refine ⟨Nat.lt_succ_of_lt hlost.below, fun i hi => ?_, hlost.notEnded⟩
  by_cases heq : i = slot
  · subst heq
    rw [put_slots_self, Option.some.injEq] at hi
    exact Nat.ne_of_gt hlost.below hi
  · exact hlost.nowhere i (put_slots_of_ne heq ▸ hi)

theorem Lost.drop (hlost : r.Lost k) : (r.drop slot).Lost k := by
  refine ⟨hlost.below, fun i hi => ?_, fun hmem => ?_⟩
  · by_cases heq : i = slot
    · subst heq
      rw [drop_slots_self] at hi
      cases hi
    · exact hlost.nowhere i (drop_slots_of_ne heq ▸ hi)
  · rcases List.mem_cons.mp hmem with heq | hmem
    · exact hlost.nowhere slot heq.symm
    · exact hlost.notEnded hmem

end Registry
