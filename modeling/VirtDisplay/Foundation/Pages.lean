/-
# Rounding byte counts to pages

The two roundings a memory manager needs, for an arbitrary page size: how many
pages a byte count touches, and the byte count rounded up to a whole page. The
one fact everything rests on is that rounding up is a closure operator, so a
byte count fits a rounded size exactly when its own rounding does.
-/

import Mathlib.Algebra.Order.Floor.Div
import Mathlib.Tactic.Ring

namespace Pages

variable {page bytes other : Nat}

/-- The number of pages that hold `bytes` bytes. -/
def count (page bytes : Nat) : Nat := bytes / page + if bytes % page = 0 then 0 else 1

/-- `bytes` rounded up to a multiple of the page size. -/
def roundUp (page bytes : Nat) : Nat := count page bytes * page

theorem le_roundUp (hpage : 0 < page) : bytes ≤ roundUp page bytes := by
  have hdiv := Nat.div_add_mod' bytes page
  have hmod := Nat.mod_lt bytes hpage
  unfold roundUp count
  split
  next h => rw [Nat.add_zero]; omega
  next h => rw [Nat.add_mul, Nat.one_mul]; omega

theorem roundUp_lt (hpage : 0 < page) : roundUp page bytes < bytes + page := by
  have hdiv := Nat.div_add_mod' bytes page
  unfold roundUp count
  split
  next h => rw [Nat.add_zero]; omega
  next h => rw [Nat.add_mul, Nat.one_mul]; omega

/-- Rounding up is least: it is below every multiple of the page size above. -/
theorem roundUp_le_mul {pages : Nat} (hpage : 0 < page) (hle : bytes ≤ pages * page) :
    roundUp page bytes ≤ pages * page := by
  have hlt : count page bytes * page < (pages + 1) * page :=
    calc count page bytes * page < bytes + page := roundUp_lt hpage
      _ ≤ pages * page + page := Nat.add_le_add_right hle page
      _ = (pages + 1) * page := by ring
  have hcount : count page bytes < pages + 1 := Nat.lt_of_mul_lt_mul_right hlt
  exact Nat.mul_le_mul_right page (Nat.lt_succ_iff.mp hcount)

/-- Rounding up is a closure operator: comparing with a rounded size is the same
before and after rounding. -/
theorem roundUp_le_roundUp_iff (hpage : 0 < page) :
    roundUp page bytes ≤ roundUp page other ↔ bytes ≤ roundUp page other :=
  ⟨fun h => (le_roundUp hpage).trans h, fun h => roundUp_le_mul hpage h⟩

@[simp]
theorem count_zero : count page 0 = 0 := by
  simp [count]

theorem count_add_page (hpage : 0 < page) : count page (bytes + page) = count page bytes + 1 := by
  unfold count
  rw [Nat.add_div_right _ hpage, Nat.add_mod_right]
  split <;> rfl

/-- Whatever fits a page needs one. -/
theorem count_eq_one (hbytes : 0 < bytes) (hle : bytes ≤ page) : count page bytes = 1 := by
  unfold count
  rcases hle.eq_or_lt with rfl | hlt
  · rw [Nat.div_self hbytes, Nat.mod_self, if_pos rfl]
  · rw [Nat.div_eq_of_lt hlt, Nat.mod_eq_of_lt hlt, if_neg hbytes.ne']

/-- Taking one page off leaves one page less. -/
theorem count_sub_page (hpage : 0 < page) (hbytes : 0 < bytes) :
    count page bytes = count page (bytes - min bytes page) + 1 := by
  rcases Nat.le_total bytes page with hle | hge
  · rw [Nat.min_eq_left hle, Nat.sub_self, count_eq_one hbytes hle, count_zero]
  · rw [Nat.min_eq_right hge, ← count_add_page hpage, Nat.sub_add_cancel hge]

end Pages
