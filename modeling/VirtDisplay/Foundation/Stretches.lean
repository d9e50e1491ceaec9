/-
# Stretches of memory, cut at a page size

A stretch is a run of consecutive addresses. Cutting it into pieces of a page's length, the
last one shorter, loses nothing and repeats nothing: the pieces name the same addresses in
the same order.

An address space that maps pages to pages maps a stretch within a page to a stretch. So where
each piece stays within a page, the images of the pieces are runs again.
-/

import Mathlib.Data.List.Basic
import Mathlib.Data.List.Flatten
import VirtDisplay.Foundation.Pages

/-- Consecutive addresses. -/
structure Stretch where
  start : Nat
  length : Nat
  deriving DecidableEq

namespace Stretch

variable {page start length : Nat} {s : Stretch}

/-- The addresses, in order. -/
def addresses (s : Stretch) : List Nat := List.range' s.start s.length

/-- The stretch does not cross into another page. -/
def Within (page : Nat) (s : Stretch) : Prop := s.start % page + s.length ≤ page

/-- The pieces of a stretch, each a page long but the last. -/
def cut (page start length : Nat) : List Stretch :=
  (List.range (Pages.count page length)).map fun k =>
    ⟨start + k * page, min (length - k * page) page⟩

@[simp]
theorem length_cut : (cut page start length).length = Pages.count page length := by
  simp [cut]

@[simp]
theorem cut_zero : cut page start 0 = [] := by simp [cut]

/-- The first piece, and the pieces of the rest. -/
theorem cut_of_pos (hpage : 0 < page) (hlength : 0 < length) :
    cut page start length =
      ⟨start, min length page⟩ :: cut page (start + page) (length - min length page) := by
  unfold cut
  rw [Pages.count_sub_page hpage hlength, List.range_succ_eq_map, List.map_cons, List.map_map]
  rw [Nat.zero_mul, Nat.add_zero, Nat.sub_zero]
  congr 1
  apply List.map_congr_left
  intro k _
  have hsplit : (k + 1) * page = k * page + page := Nat.succ_mul k page
  rw [Function.comp_apply, Nat.succ_eq_add_one, hsplit, Stretch.mk.injEq]
  refine ⟨by omega, ?_⟩
  rcases Nat.le_total length page with hle | hge
  · rw [Nat.min_eq_left hle]
    omega
  · rw [Nat.min_eq_right hge]
    congr 1
    omega

/-- A stretch no longer than a page is its only piece. -/
theorem cut_of_le (hlength : 0 < length) (hle : length ≤ page) :
    cut page start length = [⟨start, length⟩] := by
  rw [cut_of_pos (hlength.trans_le hle) hlength, Nat.min_eq_left hle, Nat.sub_self, cut_zero]

/-- The pieces name the addresses of the stretch, in order. -/
theorem flatMap_addresses_cut (hpage : 0 < page) :
    (cut page start length).flatMap addresses = List.range' start length := by
  induction length using Nat.strong_induction_on generalizing start with
  | _ length ih =>
      rcases Nat.eq_zero_or_pos length with rfl | hpos
      · simp
      · have hrest : length - min length page < length := by
          have hmin : 0 < min length page := Nat.lt_min.mpr ⟨hpos, hpage⟩
          omega
        rw [cut_of_pos hpage hpos, List.flatMap_cons, ih _ hrest, addresses]
        rcases Nat.le_total length page with hle | hge
        · rw [Nat.min_eq_left hle, Nat.sub_self, List.range'_zero, List.append_nil]
        · rw [Nat.min_eq_right hge, List.range'_append_1, Nat.add_sub_cancel' hge]

theorem length_pos_of_mem_cut (hpage : 0 < page) (hmem : s ∈ cut page start length) :
    0 < s.length := by
  obtain ⟨k, hk, rfl⟩ := List.mem_map.mp hmem
  rw [List.mem_range] at hk
  refine Nat.lt_min.mpr ⟨?_, hpage⟩
  -- otherwise the pieces before this one would have been enough
  by_contra hnone
  have hle : length ≤ k * page := by omega
  have hcount : Pages.count page length * page ≤ k * page := Pages.roundUp_le_mul hpage hle
  exact absurd (Nat.le_of_mul_le_mul_right hcount hpage) (Nat.not_le.mpr hk)

theorem length_le_of_mem_cut (hmem : s ∈ cut page start length) : s.length ≤ page := by
  obtain ⟨k, -, rfl⟩ := List.mem_map.mp hmem
  exact Nat.min_le_right _ _

/-- The pieces of a stretch that starts a page stay within their pages. -/
theorem within_of_mem_cut (hstart : start % page = 0) (hmem : s ∈ cut page start length) :
    s.Within page := by
  have hle := length_le_of_mem_cut hmem
  obtain ⟨k, -, rfl⟩ := List.mem_map.mp hmem
  rw [Within, Nat.add_mul_mod_self_right, hstart, Nat.zero_add]
  exact hle

/-- Within a page, the distance of two addresses is kept. -/
def PageLinear (page : Nat) (f : Nat → Nat) : Prop :=
  ∀ a k, a % page + k < page → f (a + k) = f a + k

/-- The image of a stretch within a page. -/
theorem Within.map_addresses {f : Nat → Nat} (hlinear : PageLinear page f)
    (hwithin : s.Within page) : s.addresses.map f = List.range' (f s.start) s.length := by
  have himage : ∀ n ≤ s.length, (List.range' s.start n).map f = List.range' (f s.start) n := by
    intro n hn
    induction n with
    | zero => rfl
    | succ n ih =>
        have hlast : f (s.start + n) = f s.start + n := by
          refine hlinear s.start n ?_
          unfold Within at hwithin
          omega
        rw [List.range'_1_concat, List.map_append, ih (Nat.le_of_succ_le hn), List.map_singleton,
          hlast, List.range'_1_concat]
  exact himage s.length (Nat.le_refl _)

end Stretch
