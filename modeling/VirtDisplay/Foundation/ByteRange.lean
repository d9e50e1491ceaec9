/-
# Ranges of bytes

A machine with 64-bit addresses reads and writes ranges of bytes, each given by the address
it starts at and the number of bytes in it. Addresses wrap around, so a range is not an
interval of numbers: a byte is in it if its distance from the start is below the length.

A range that ends at or before the end of the address space is an interval, and two such
ranges share a byte exactly if each starts before the other ends.
-/

import Mathlib.Data.BitVec
import Mathlib.Tactic.Linarith
import Mathlib.Tactic.NormNum

/-- An address of a byte. -/
abbrev Address : Type := BitVec 64

/-- The bytes of a range. -/
structure ByteRange where
  start : Address
  length : Nat

namespace ByteRange

variable {r s : ByteRange} {a b : Address}

/-- The byte is in the range. -/
def Holds (r : ByteRange) (a : Address) : Prop := (a - r.start).toNat < r.length

instance (r : ByteRange) (a : Address) : Decidable (r.Holds a) :=
  inferInstanceAs (Decidable (_ < _))

/-- The ranges share a byte. -/
def Meets (r s : ByteRange) : Prop := ∃ a, r.Holds a ∧ s.Holds a

/-- The range ends before the addresses wrap around. -/
def Straight (r : ByteRange) : Prop := r.start.toNat + r.length ≤ 2 ^ 64

theorem Meets.symm (hmeets : r.Meets s) : s.Meets r := by
  obtain ⟨a, hr, hs⟩ := hmeets
  exact ⟨a, hs, hr⟩

theorem toNat_add_ofNat_sub (a : Address) (k : Nat) :
    (a + BitVec.ofNat 64 k - a).toNat = k % 2 ^ 64 := by
  rw [BitVec.add_comm, BitVec.add_sub_cancel, BitVec.toNat_ofNat]

/-- The bytes of a range are counted from its start. -/
theorem holds_add_ofNat {k : Nat} (hk : k < r.length) :
    r.Holds (r.start + BitVec.ofNat 64 k) := by
  rw [Holds, toNat_add_ofNat_sub]
  exact (Nat.mod_le _ _).trans_lt hk

theorem add_ofNat_toNat_sub (a b : Address) : b + BitVec.ofNat 64 (a - b).toNat = a := by
  rw [BitVec.ofNat_toNat, BitVec.setWidth_eq, BitVec.add_comm, BitVec.sub_add_cancel]

/-- A byte of a range is at a distance from its start. -/
theorem Holds.exists_eq (hholds : r.Holds a) :
    ∃ k < r.length, a = r.start + BitVec.ofNat 64 k :=
  ⟨(a - r.start).toNat, hholds, (add_ofNat_toNat_sub a r.start).symm⟩

/-- A range of one byte. -/
theorem holds_one_iff : (⟨b, 1⟩ : ByteRange).Holds a ↔ a = b := by
  show (a - b).toNat < 1 ↔ a = b
  bv_omega

/-- Different distances below the size of the address space give different bytes. -/
theorem add_ofNat_inj {k l : Nat} (hk : k < 2 ^ 64) (hl : l < 2 ^ 64) :
    a + BitVec.ofNat 64 k = a + BitVec.ofNat 64 l ↔ k = l := by
  constructor
  · intro heq
    have hdistance := congrArg (fun b => (b - a).toNat) heq
    simp only [toNat_add_ofNat_sub] at hdistance
    rwa [Nat.mod_eq_of_lt hk, Nat.mod_eq_of_lt hl] at hdistance
  · rintro rfl
    rfl

/-- The bytes of a part of a range, counted from the start of the range. -/
theorem holds_advanced_iff {k w : Nat} (hsize : k + w ≤ 2 ^ 64) :
    (⟨b + BitVec.ofNat 64 k, w⟩ : ByteRange).Holds a ↔
      k ≤ (a - b).toNat ∧ (a - b).toNat < k + w := by
  have hlt := (a - b).isLt
  rw [Holds, ← sub_sub]
  generalize a - b = d at *
  show (d - BitVec.ofNat 64 k).toNat < w ↔ _
  rw [BitVec.toNat_sub, BitVec.toNat_ofNat]
  omega

theorem ofInt_sub {w : Nat} (x y : Int) :
    BitVec.ofInt w (x - y) = BitVec.ofInt w x - BitVec.ofInt w y := by
  rw [sub_eq_add_neg, BitVec.ofInt_add, BitVec.ofInt_neg, ← sub_eq_add_neg]

theorem ofInt_toNat {w : Nat} (x : BitVec w) : BitVec.ofInt w x.toNat = x := by
  rw [BitVec.ofInt_natCast, BitVec.ofNat_toNat, BitVec.setWidth_eq]

/-- An unsigned offset, extended with zeros. -/
theorem setWidth_ofInt {z : Int} (hle : 0 ≤ z) (hlt : z < 2 ^ 32) :
    (BitVec.ofInt 32 z).setWidth 64 = BitVec.ofInt 64 z := by
  obtain ⟨n, rfl⟩ := Int.eq_ofNat_of_zero_le hle
  refine BitVec.eq_of_toNat_eq ?_
  rw [BitVec.toNat_setWidth, BitVec.ofInt_natCast, BitVec.ofInt_natCast, BitVec.toNat_ofNat,
    BitVec.toNat_ofNat]
  omega

/-- A signed offset, extended by its sign. -/
theorem signExtend_ofInt {z : Int} (hle : -2 ^ 31 ≤ z) (hlt : z < 2 ^ 31) :
    (BitVec.ofInt 32 z).signExtend 64 = BitVec.ofInt 64 z := by
  have hbmod : z.bmod (2 ^ 32) = z := Int.bmod_eq_of_le (by omega) (by omega)
  rw [BitVec.signExtend, BitVec.toInt_ofInt, hbmod]

/-- A product of a count and a signed step that fits 32 bits, computed in 64 bits. -/
theorem ofNat_mul_signExtend {z : Int} {i : Nat} (hle : -2 ^ 31 ≤ i * z) (hlt : i * z < 2 ^ 31) :
    BitVec.ofNat 64 i * (BitVec.ofInt 32 z).signExtend 64 = BitVec.ofInt 64 (i * z) := by
  cases i with
  | zero =>
      rw [BitVec.zero_mul, Nat.cast_zero, Int.zero_mul]
      rfl
  | succ i =>
      have hone : (1 : Int) ≤ (i + 1 : Nat) := by omega
      have hupper : z < 2 ^ 31 := by nlinarith
      have hlower : -2 ^ 31 ≤ z := by nlinarith
      rw [signExtend_ofInt hlower hupper, BitVec.ofInt_mul, BitVec.ofInt_natCast]

theorem Straight.holds_iff (hstraight : r.Straight) :
    r.Holds a ↔ r.start.toNat ≤ a.toNat ∧ a.toNat < r.start.toNat + r.length := by
  unfold Straight at hstraight
  rw [Holds, BitVec.toNat_sub]
  have ha := a.isLt
  have hs := r.start.isLt
  by_cases hle : r.start.toNat ≤ a.toNat
  · rw [show 2 ^ 64 - r.start.toNat + a.toNat = 2 ^ 64 + (a.toNat - r.start.toNat) by omega,
      Nat.add_mod_left, Nat.mod_eq_of_lt (by omega)]
    omega
  · rw [Nat.mod_eq_of_lt (by omega)]
    omega

/-- Two intervals share a byte exactly if each starts before the other ends. -/
theorem Straight.meets_iff (hr : r.Straight) (hs : s.Straight) :
    r.Meets s ↔ 0 < r.length ∧ 0 < s.length ∧
      r.start.toNat < s.start.toNat + s.length ∧ s.start.toNat < r.start.toNat + r.length := by
  constructor
  · rintro ⟨a, hra, hsa⟩
    rw [hr.holds_iff] at hra
    rw [hs.holds_iff] at hsa
    omega
  · rintro ⟨hrpos, hspos, hlt, hgt⟩
    -- the later of the two starts is a common byte
    by_cases hle : r.start.toNat ≤ s.start.toNat
    · exact ⟨s.start, hr.holds_iff.mpr ⟨hle, hgt⟩, hs.holds_iff.mpr (by omega)⟩
    · exact ⟨r.start, hr.holds_iff.mpr (by omega), hs.holds_iff.mpr (by omega)⟩

end ByteRange
