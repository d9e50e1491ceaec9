/-
# Places that come round

A place in a ring may be counted from its very first use, through all the rounds since. Its
slot is the remainder by the size of the ring, and whether its round is an even or an odd one
is its sense. Two sides that agree on the place of each item need to keep only slot and sense:
within two rounds these tell the places apart, and a slot whose mark has the sense of the round
before has not been reached yet.

Items that take several slots each lie along the ring one after the other.
-/

import Mathlib.Algebra.BigOperators.Group.List.Basic
import VirtDisplay.Foundation.Circular

namespace Rounds

variable {num a p q n : Nat}

/-- Whether the round of a place is an even one. -/
def sense (num q : Nat) : Bool := q / num % 2 = 0

/-- Places of one turn, wherever it begins, have slots of their own. -/
theorem slot_ne (ha : a ≤ p) (hpq : p < q) (hq : q < a + num) : p % num ≠ q % num := by
  intro heq
  have hmod : (a + (p - a)) % num = (a + (q - a)) % num := by
    rwa [Nat.add_sub_cancel' ha, Nat.add_sub_cancel' (by omega)]
  have hoffset : p - a = q - a := Circular.offset_inj (by omega) (by omega) hmod
  omega

/-- Two places of one turn, whichever comes first, have slots of their own. -/
theorem slot_ne' (hap : a ≤ p) (hp : p < a + num) (haq : a ≤ q) (hq : q < a + num)
    (hne : p ≠ q) : p % num ≠ q % num := by
  rcases Nat.lt_or_gt_of_ne hne with hlt | hgt
  · exact slot_ne hap hlt hq
  · exact (slot_ne haq hgt hp).symm

@[simp]
theorem sense_zero : sense num 0 = true := by rw [sense, Nat.zero_div]; rfl

/-- One round on, the sense is the other one. -/
theorem sense_add_num (hnum : 0 < num) (q : Nat) : sense num (q + num) = !sense num q := by
  rw [sense, sense, Nat.add_div_right q hnum, ← decide_not, decide_eq_decide]
  omega

/-- Going on within the round. -/
theorem on_of_lt (h : q % num + n < num) :
    (q + n) % num = q % num + n ∧ sense num (q + n) = sense num q := by
  have hmod : n % num = n := Nat.mod_eq_of_lt (Nat.lt_of_le_of_lt (Nat.le_add_left ..) h)
  have hslot : (q + n) % num = q % num + n := by
    rw [Nat.add_mod, hmod, Nat.mod_eq_of_lt h]
  refine ⟨hslot, ?_⟩
  have hdiv : (q + n) / num = q / num := by
    rw [Nat.add_div (Nat.zero_lt_of_lt h), hmod, if_neg (Nat.not_le_of_lt h),
      Nat.div_eq_of_lt (Nat.lt_of_le_of_lt (Nat.le_add_left ..) h), Nat.add_zero]
  rw [sense, hdiv, sense]

/-- Going on into the next round. -/
theorem on_of_le (hnum : 0 < num) (hn : n ≤ num) (h : num ≤ q % num + n) :
    (q + n) % num = q % num + n - num ∧ sense num (q + n) = !sense num q := by
  have hlt := Nat.mod_lt q hnum
  have hsplit : q + n = q - q % num + (q % num + n - num) + num := by
    have := Nat.mod_le q num
    omega
  have hbase : (q - q % num) % num = 0 := Nat.sub_mod_eq_zero_of_mod_eq (Nat.mod_mod ..).symm
  have hback := on_of_lt (show (q - q % num) % num + (q % num + n - num) < num by
    rw [hbase]; omega)
  have hself := on_of_lt (show (q - q % num) % num + q % num < num by rw [hbase]; omega)
  rw [Nat.sub_add_cancel (Nat.mod_le ..)] at hself
  rw [hbase, Nat.zero_add] at hback
  rw [hsplit, Nat.add_mod_right, sense_add_num hnum, hback.1, hback.2, hself.2]
  exact ⟨rfl, rfl⟩

/-- Slot and sense of a place stay the same when it is counted modulo two rounds. -/
theorem mod_two_rounds (num q : Nat) :
    q % (2 * num) % num = q % num ∧ sense num (q % (2 * num)) = sense num q := by
  refine ⟨Nat.mod_mul_left_mod .., ?_⟩
  rw [sense, sense, Nat.mul_comm, Nat.mod_mul_right_div_self, Nat.mod_mod]

/-- The place within two rounds that a slot and a sense stand for. -/
def place (num slot : Nat) (wrap : Bool) : Nat := if wrap then slot else slot + num

theorem place_eq (num q : Nat) : place num (q % num) (sense num q) = q % (2 * num) := by
  have hsplit : q % (2 * num) = q % num + num * (q / num % 2) := by
    rw [Nat.mul_comm 2 num, Nat.mod_mul]
  rw [place, sense, hsplit]
  rcases Nat.mod_two_eq_zero_or_one (q / num) with hzero | hone
  · rw [hzero, Nat.mul_zero]
    exact if_pos (decide_eq_true rfl)
  · rw [hone, Nat.mul_one]
    rfl

/-- How far one place is behind another, if not by two rounds. -/
theorem behind_eq (h : n < 2 * num) (q : Nat) :
    (q + n + 2 * num - place num (q % num) (sense num q)) % (2 * num) = n := by
  have hdiv := Nat.div_add_mod q (2 * num)
  have hlt := Nat.mod_lt q (Nat.zero_lt_of_lt h)
  have hback : q + n + 2 * num - q % (2 * num) = n + 2 * num * (q / (2 * num) + 1) := by
    rw [Nat.mul_add, Nat.mul_one]
    omega
  rw [place_eq, hback, Nat.add_mul_mod_self_left, Nat.mod_eq_of_lt h]

variable {α : Type*} {size size' : α → Nat} {P P' : Nat → α → Prop} {xs ys : List α} {x : α}

/-- What holds of each item at the place where it begins. -/
def Along (size : α → Nat) (P : Nat → α → Prop) : Nat → List α → Prop
  | _, [] => True
  | q, x :: xs => P q x ∧ Along size P (q + size x) xs

@[simp]
theorem along_nil : Along size P q [] := trivial

@[simp]
theorem along_cons : Along size P q (x :: xs) ↔ P q x ∧ Along size P (q + size x) xs := Iff.rfl

theorem along_append :
    Along size P q (xs ++ ys) ↔
      Along size P q xs ∧ Along size P (q + (xs.map size).sum) ys := by
  induction xs generalizing q with
  | nil => simp
  | cons x xs ih =>
      rw [List.cons_append, along_cons, along_cons, ih, List.map_cons, List.sum_cons, and_assoc,
        Nat.add_assoc]

/-- What an item depends on lies where the item does. -/
theorem Along.imp (h : Along size P q xs)
    (himp : ∀ p, ∀ x ∈ xs, q ≤ p → p + size x ≤ q + (xs.map size).sum → P p x → P' p x) :
    Along size P' q xs := by
  induction xs generalizing q with
  | nil => trivial
  | cons x xs ih =>
      rw [List.map_cons, List.sum_cons] at himp
      refine ⟨himp q x List.mem_cons_self (Nat.le_refl q) (by omega) h.1, ih h.2 ?_⟩
      intro p y hy hqp hp
      exact himp p y (List.mem_cons_of_mem x hy) (by omega) (by omega)

end Rounds
