/-
# Rings with free-running counters

A ring of `num` slots is filled at one counter and emptied at another. Neither counter is
ever reset: both run modulo a word size that `num` divides, and a counter names the slot
that is its remainder. How far the counters are apart is the number of items, and since
`num` is below the word size, equal counters mean an empty ring and never a full one.
-/

import Mathlib.Data.Nat.ModEq
import Mathlib.Logic.Function.Basic

namespace Circular

variable {α : Type*} {num word start stop : Nat} {slots : Nat → α} {items : List α} {x : α}

/-- The items that lie between two counters, in order. -/
structure Window (num word : Nat) (slots : Nat → α) (start stop : Nat) (items : List α) :
    Prop where
  /-- Two items never share a slot. -/
  fits : items.length ≤ num
  start_lt : start < word
  counted : stop = (start + items.length) % word
  slot : ∀ i (h : i < items.length), slots ((start + i) % num) = items[i]

/-- The sizes of ring and word. -/
structure Sizes (num word : Nat) : Prop where
  divides : num ∣ word
  lt : num < word

/-- Within one turn of the ring, an offset is determined by its slot. -/
theorem offset_inj {a i j : Nat} (hi : i < num) (hj : j < num)
    (h : (a + i) % num = (a + j) % num) : i = j :=
  (Nat.ModEq.add_left_cancel' a h).eq_of_lt_of_lt hi hj

/-- Two distances below the word size that lead to the same counter are equal. -/
theorem distance_inj {a i j : Nat} (hi : i < word) (hj : j < word)
    (h : (a + i) % word = (a + j) % word) : i = j := offset_inj hi hj h

namespace Sizes

variable (hs : Sizes num word)
include hs

theorem word_pos : 0 < word := Nat.zero_lt_of_lt hs.lt

/-- A counter that wraps keeps naming the same slot. -/
theorem mod_word (n : Nat) : n % word % num = n % num := Nat.mod_mod_of_dvd n hs.divides

end Sizes

namespace Window

/-- An empty ring, wherever the counters stand. -/
theorem nil (h : start < word) : Window num word slots start start [] where
  fits := Nat.zero_le _
  start_lt := h
  counted := (Nat.mod_eq_of_lt h).symm
  slot _ hi := absurd hi (Nat.not_lt_zero _)

section

variable (hs : Sizes num word)
include hs

/-- The slot that the next item gets. -/
theorem stop_slot (hw : Window num word slots start stop items) :
    stop % num = (start + items.length) % num := by
  rw [hw.counted, hs.mod_word]

/-- The counters are equal exactly where nothing lies between them. -/
theorem eq_iff (hw : Window num word slots start stop items) : start = stop ↔ items = [] := by
  constructor
  · intro heq
    have hmod : (start + items.length) % word = (start + 0) % word := by
      rw [← hw.counted, ← heq, Nat.add_zero, Nat.mod_eq_of_lt hw.start_lt]
    have hlen : items.length < word := Nat.lt_of_le_of_lt hw.fits hs.lt
    exact List.length_eq_zero_iff.mp (distance_inj hlen hs.word_pos hmod)
  · rintro rfl
    rw [hw.counted, List.length_nil, Nat.add_zero, Nat.mod_eq_of_lt hw.start_lt]

/-- Writing the next slot of a ring that is not full leaves the items alone. -/
theorem store (hw : Window num word slots start stop items) (hroom : items.length < num) :
    Window num word (Function.update slots (stop % num) x) start stop items where
  fits := hw.fits
  start_lt := hw.start_lt
  counted := hw.counted
  slot i hi := by
    rw [Function.update_of_ne, hw.slot i hi]
    intro heq
    rw [hw.stop_slot hs] at heq
    exact Nat.ne_of_lt hi (offset_inj (Nat.lt_trans hi hroom) hroom heq)

/-- An item whose slot is written comes in when the counter is advanced. -/
theorem advance (hw : Window num word slots start stop items) (hroom : items.length < num)
    (hx : slots (stop % num) = x) :
    Window num word slots start ((stop + 1) % word) (items ++ [x]) where
  fits := by rw [List.length_append]; exact hroom
  start_lt := hw.start_lt
  counted := by
    rw [hw.counted, Nat.mod_add_mod, List.length_append, List.length_singleton, Nat.add_assoc]
  slot i hi := by
    rcases Nat.lt_or_ge i items.length with hlt | hge
    · rw [List.getElem_append_left hlt, hw.slot i hlt]
    · have hi' : i = items.length := by
        rw [List.length_append, List.length_singleton] at hi
        omega
      subst hi'
      rw [← hw.stop_slot hs, hx, List.getElem_append_right (Nat.le_refl _)]
      simp

/-- Writing the next slot and advancing the counter. -/
theorem push (hw : Window num word slots start stop items) (hroom : items.length < num) :
    Window num word (Function.update slots (stop % num) x) start ((stop + 1) % word)
      (items ++ [x]) :=
  (hw.store hs hroom).advance hs hroom (Function.update_self ..)

/-- The oldest item goes when the other counter is advanced. -/
theorem pop (hw : Window num word slots start stop (x :: items)) :
    Window num word slots ((start + 1) % word) stop items where
  fits := Nat.le_trans (Nat.le_succ _) hw.fits
  start_lt := Nat.mod_lt _ hs.word_pos
  counted := by
    rw [hw.counted, List.length_cons, Nat.mod_add_mod, Nat.add_assoc, Nat.add_comm 1]
  slot i hi := by
    have hslot := hw.slot (i + 1) (Nat.succ_lt_succ hi)
    rw [List.getElem_cons_succ] at hslot
    rw [← hslot, ← hs.mod_word ((start + 1) % word + i), Nat.mod_add_mod, hs.mod_word,
      Nat.add_assoc, Nat.add_comm 1]

end

/-- The oldest item. -/
theorem head (hw : Window num word slots start stop (x :: items)) : slots (start % num) = x :=
  hw.slot 0 (Nat.zero_lt_succ _)

/-- What lies between the counters does not depend on the other slots. -/
theorem congr {slots' : Nat → α} (hw : Window num word slots start stop items)
    (h : ∀ i < items.length, slots' ((start + i) % num) = slots ((start + i) % num)) :
    Window num word slots' start stop items where
  fits := hw.fits
  start_lt := hw.start_lt
  counted := hw.counted
  slot i hi := (h i hi).trans (hw.slot i hi)

end Window

end Circular
