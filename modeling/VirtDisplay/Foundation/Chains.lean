/-
# Chains through an array of links

Cells of an array may be chained by storing with each the index of the one that follows. A
chain says nothing about what the link of its last cell is: where it ends is known from its
length, or from a mark elsewhere. So a chain that leads on into another one is cut by
forgetting where it leads, and two chains are joined by setting one link.
-/

import Mathlib.Data.List.Basic
import Mathlib.Logic.Function.Basic

namespace Chains

variable {next next' : Nat → Nat} {start a first : Nat} {cells these those : List Nat}

/-- The links lead from `start` through these cells, one after the other. -/
def Links (next : Nat → Nat) : Nat → List Nat → Prop
  | _, [] => True
  | start, a :: cells => start = a ∧ Links next (next a) cells

@[simp]
theorem links_nil : Links next start [] := trivial

@[simp]
theorem links_cons : Links next start (a :: cells) ↔ start = a ∧ Links next (next a) cells :=
  Iff.rfl

/-- A chain depends on the links of its own cells only. -/
theorem Links.congr (h : Links next start cells) (heq : ∀ i ∈ cells, next' i = next i) :
    Links next' start cells := by
  induction cells generalizing start with
  | nil => trivial
  | cons a cells ih =>
      refine ⟨h.1, ?_⟩
      rw [heq a List.mem_cons_self]
      exact ih h.2 fun i hi => heq i (List.mem_cons_of_mem a hi)

/-- A link outside the chain may be changed. -/
theorem Links.update {i v : Nat} (h : Links next start cells) (hi : i ∉ cells) :
    Links (Function.update next i v) start cells :=
  h.congr fun _ hj => Function.update_of_ne (ne_of_mem_of_not_mem hj hi) ..

/-- The front of a chain is a chain. -/
theorem Links.of_append (h : Links next start (these ++ those)) : Links next start these := by
  induction these generalizing start with
  | nil => trivial
  | cons a these ih => exact ⟨h.1, ih h.2⟩

/-- Joining two chains: the last link of the first is set to the start of the second. -/
theorem Links.join (hthese : Links next start (these ++ [a])) (hthose : Links next first those)
    (hnodup : (these ++ a :: those).Nodup) :
    Links (Function.update next a first) start (these ++ a :: those) := by
  induction these generalizing start with
  | nil =>
      refine ⟨hthese.1, ?_⟩
      rw [Function.update_self]
      exact hthose.update (List.nodup_cons.mp hnodup).1
  | cons b these ih =>
      obtain ⟨hnot, htail⟩ := List.nodup_cons.mp hnodup
      refine ⟨hthese.1, ?_⟩
      rw [Function.update_of_ne]
      · exact ih hthese.2 htail
      · rintro rfl
        exact hnot (List.mem_append_right _ List.mem_cons_self)

/-- The cells `0, 1, …` in their natural order. -/
theorem links_range' {n : Nat} (h : ∀ i, i + 1 < start + n → next i = i + 1) :
    Links next start (List.range' start n) := by
  induction n generalizing start with
  | zero => trivial
  | succ n ih =>
      refine ⟨rfl, ?_⟩
      cases n with
      | zero => trivial
      | succ n =>
          rw [h start (by omega)]
          exact ih fun i hi => h i (by omega)

end Chains
