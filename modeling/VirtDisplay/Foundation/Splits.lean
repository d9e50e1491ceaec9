/-
# Entries and what stands before them

A loop that keeps what it has seen treats an entry by those before it. So what is asked of its
input is asked of every way to split the list at an entry, and it can be taken apart like the
list.
-/

import Mathlib.Data.List.Basic

namespace Splits

universe u

variable {α : Type u} {P : List α → α → Prop}

theorem forall_nil (before : List α) (a : α) (after : List α)
    (hsplit : [] = before ++ a :: after) : P before a :=
  absurd hsplit.symm (List.append_ne_nil_of_right_ne_nil before (List.cons_ne_nil a after))

/-- The head has nothing before it, and the head is before all the others. -/
theorem forall_cons_iff {a : α} {l : List α} :
    (∀ before b after, a :: l = before ++ b :: after → P before b) ↔
      P [] a ∧ ∀ before b after, l = before ++ b :: after → P (a :: before) b := by
  constructor
  · intro hall
    exact ⟨hall [] a l rfl, fun before b after hsplit =>
      hall (a :: before) b after (congrArg (a :: ·) hsplit)⟩
  · rintro ⟨hhead, hrest⟩ before b after hsplit
    cases before with
    | nil =>
        obtain ⟨rfl, -⟩ := List.cons.inj hsplit
        exact hhead
    | cons c before =>
        obtain ⟨rfl, htail⟩ := List.cons.inj hsplit
        exact hrest before b after htail

end Splits
