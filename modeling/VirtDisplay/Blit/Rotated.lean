/-
# What the general copy copies

A pixel of a rectangle has a row and a column on each surface, which depend on the offset and
the rotation, and so a position in its memory. `CopyBitsGeneric` computes that position for one
corner of a rectangle and reaches the others by steps. In a surface of less than 2^31 bytes
the steps do not leave the range of a `LONG`, and every pointer that is followed is at the
position of its pixel.
-/

import VirtDisplay.Blit.BitOps

namespace VirtDisplay

open ByteRange CopiedMemory

/-- One of the four rotations. -/
def Rotation.Valid : Rotation → Prop
  | .identity | .rotate90 | .rotate180 | .rotate270 => True
  | .other _ => False

namespace BltInfo

section

variable (b : BltInfo) (x y : Int)

/-- The row and the column of the pixel at a point. -/
def place : Int × Int :=
  let x := x + b.offset.x.toInt
  let y := y + b.offset.y.toInt
  match b.rotation with
  | .identity => (y, x)
  | .rotate90 => (b.height.toNat - 1 - x, y)
  | .rotate180 => (b.height.toNat - 1 - y, b.width.toNat - 1 - x)
  | .rotate270 => (x, b.width.toNat - 1 - y)
  | .other _ => (0, 0)

/-- The position of a pixel in the memory of the surface. -/
def position : Int := (b.place x y).1 * b.pitch.toNat + (b.place x y).2 * 4

/-- The address of a pixel of the surface. -/
def pixelAt : Address := b.bits + BitVec.ofInt 64 (b.position x y)

/-- The pixel is on the surface. -/
def Contains : Prop :=
  0 ≤ (b.place x y).1 ∧ (b.place x y).1 < b.height.toNat ∧
    0 ≤ (b.place x y).2 ∧ (b.place x y).2 < b.width.toNat

/-- The bytes from the start of the first row to the end of the last. -/
def extent : Nat := (b.height.toNat - 1) * b.pitch.toNat + 4 * b.width.toNat

/-- The memory of the surface. -/
def memory : ByteRange := ⟨b.bits, b.extent⟩

/-- A surface of 32 bits for each pixel and less than 2^31 bytes. -/
structure Surface32 : Prop where
  valid : b.rotation.Valid
  bitsPerPel : b.bitsPerPel = 32
  small : b.extent < 2 ^ 31

/-- What a step to the right adds to the position. -/
def pixelStep : Int :=
  match b.rotation with
  | .identity => 4
  | .rotate90 => -b.pitch.toNat
  | .rotate180 => -4
  | .rotate270 => b.pitch.toNat
  | .other _ => 0

/-- What a step down adds to the position. -/
def rowStep : Int :=
  match b.rotation with
  | .identity => b.pitch.toNat
  | .rotate90 => 4
  | .rotate180 => -b.pitch.toNat
  | .rotate270 => -4
  | .other _ => 0

end

section

variable {b : BltInfo} {r : Rect} {x y : Int} {i j : Nat}

/-- The position is linear in the point. -/
theorem position_add (b : BltInfo) (x y : Int) (i j : Nat) :
    b.position (x + i) (y + j) = b.position x y + i * b.pixelStep + j * b.rowStep := by
  unfold position place pixelStep rowStep
  cases b.rotation <;> ring

theorem pixelAt_eq : b.pixelAt x y = b.bits +
    BitVec.ofInt 64 ((b.place x y).1 * b.pitch.toNat) + BitVec.ofInt 64 ((b.place x y).2 * 4) := by
  rw [pixelAt, position, BitVec.ofInt_add, BitVec.add_assoc]

/-- The bytes of a pixel on the surface are in its memory. -/
theorem Contains.position_bounds (hcontains : b.Contains x y) :
    0 ≤ b.position x y ∧ 0 ≤ (b.place x y).1 * (b.pitch.toNat : Int) ∧
      b.position x y + 4 ≤ b.extent := by
  obtain ⟨hrow, hheight, hcolumn, hwidth⟩ := hcontains
  have hextent : (b.extent : Int) = (b.height.toNat - 1) * b.pitch.toNat + 4 * b.width.toNat := by
    have hpos : 1 ≤ b.height.toNat := by omega
    rw [extent, Nat.cast_add, Nat.cast_mul, Nat.cast_mul, Nat.cast_sub hpos]
    rfl
  have hrows : (b.place x y).1 * (b.pitch.toNat : Int) ≤ (b.height.toNat - 1) * b.pitch.toNat :=
    Int.mul_le_mul_of_nonneg_right (by omega) (Int.natCast_nonneg _)
  have hnonneg : 0 ≤ (b.place x y).1 * (b.pitch.toNat : Int) :=
    Int.mul_nonneg hrow (Int.natCast_nonneg _)
  rw [position, hextent]
  exact ⟨by omega, hnonneg, by omega⟩

theorem getPitches_pixel (hbits : b.bitsPerPel = 32) :
    b.getPitches.pixel = BitVec.ofInt 32 b.pixelStep := by
  unfold getPitches pixelStep
  rw [hbits]
  cases b.rotation with
  | identity => rfl
  | rotate90 => rw [BitVec.ofInt_neg, ofInt_toNat]
  | rotate180 => rfl
  | rotate270 => rw [ofInt_toNat]
  | other code => rfl

theorem getPitches_row (hbits : b.bitsPerPel = 32) :
    b.getPitches.row = BitVec.ofInt 32 b.rowStep := by
  unfold getPitches rowStep
  rw [hbits]
  cases b.rotation with
  | identity => rw [ofInt_toNat]
  | rotate90 => rfl
  | rotate180 => rw [BitVec.ofInt_neg, ofInt_toNat]
  | rotate270 => rfl
  | other code => rfl

theorem offLeft_eq : b.offLeft r = BitVec.ofInt 32 (r.left.toInt + b.offset.x.toInt) := by
  rw [BitVec.ofInt_add, BitVec.ofInt_toInt, BitVec.ofInt_toInt]
  rfl

theorem offTop_eq : b.offTop r = BitVec.ofInt 32 (r.top.toInt + b.offset.y.toInt) := by
  rw [BitVec.ofInt_add, BitVec.ofInt_toInt, BitVec.ofInt_toInt]
  rfl

/-- A number of pixels or rows counted from the other end. -/
theorem sub_one_sub_ofInt (n : BitVec 32) (z : Int) :
    n - 1 - BitVec.ofInt 32 z = BitVec.ofInt 32 (n.toNat - 1 - z) := by
  rw [ofInt_sub, ofInt_sub, ofInt_toNat]
  rfl

/-- The offset of a row, which is unsigned. -/
theorem row_offset {z : Int} (hle : 0 ≤ z * b.pitch.toNat) (hlt : z * b.pitch.toNat < 2 ^ 31) :
    (BitVec.ofInt 32 z * b.pitch).setWidth 64 = BitVec.ofInt 64 (z * b.pitch.toNat) := by
  rw [← setWidth_ofInt hle (by omega), BitVec.ofInt_mul, ofInt_toNat]

/-- The offset of a column, where it is signed. -/
theorem column_offset {z : Int} (hle : 0 ≤ z) (hlt : z * 4 < 2 ^ 31) :
    (BitVec.ofInt 32 z * 4).signExtend 64 = BitVec.ofInt 64 (z * 4) := by
  rw [← signExtend_ofInt (by omega) hlt, BitVec.ofInt_mul]
  rfl

/-- The offset of a column, where it is unsigned. -/
theorem column_offset' {z : Int} (hle : 0 ≤ z) (hlt : z * 4 < 2 ^ 31) :
    (BitVec.ofInt 32 z * 4).setWidth 64 = BitVec.ofInt 64 (z * 4) := by
  rw [← setWidth_ofInt (by omega) (by omega), BitVec.ofInt_mul]
  rfl

/-- The pointer of the first row is at the pixel of the corner. -/
theorem getRowStart_eq (hb : b.Surface32) (hcontains : b.Contains r.left.toInt r.top.toInt) :
    b.getRowStart r = b.pixelAt r.left.toInt r.top.toInt := by
  have hfour : b.bitsPerPel / 8 = 4 := by
    rw [hb.bitsPerPel]
    rfl
  obtain ⟨-, hrows, hend⟩ := hcontains.position_bounds
  obtain ⟨-, -, hcolumn, -⟩ := hcontains
  have hvalid := hb.valid
  have hsmall := hb.small
  rw [position] at hend
  rw [pixelAt_eq]
  unfold getRowStart
  dsimp only
  rw [hfour, offLeft_eq, offTop_eq, sub_one_sub_ofInt, sub_one_sub_ofInt, sub_one_sub_ofInt,
    sub_one_sub_ofInt]
  unfold place at *
  cases hrotation : b.rotation with
  | identity =>
      simp only [hrotation] at *
      rw [row_offset hrows (by omega), column_offset hcolumn (by omega)]
  | rotate90 =>
      simp only [hrotation] at *
      rw [row_offset hrows (by omega), column_offset hcolumn (by omega)]
  | rotate180 =>
      simp only [hrotation] at *
      rw [row_offset hrows (by omega), column_offset' hcolumn (by omega)]
  | rotate270 =>
      simp only [hrotation] at *
      rw [row_offset hrows (by omega), column_offset' hcolumn (by omega)]
  | other code =>
      rw [hrotation] at hvalid
      exact hvalid.elim

/-- After steps that stay on the surface the pointer is at the pixel they lead to. -/
theorem pixelAt_add (hb : b.Surface32) (hstart : b.Contains x y)
    (hright : b.Contains (x + i) y) (hdown : b.Contains x (y + j)) :
    b.pixelAt x y + BitVec.ofNat 64 j * b.getPitches.row.signExtend 64 +
        BitVec.ofNat 64 i * b.getPitches.pixel.signExtend 64 = b.pixelAt (x + i) (y + j) := by
  have hsmall := hb.small
  obtain ⟨hpos, -, hend⟩ := hstart.position_bounds
  obtain ⟨hposRight, -, hendRight⟩ := hright.position_bounds
  obtain ⟨hposDown, -, hendDown⟩ := hdown.position_bounds
  have hpixels := position_add b x y i 0
  have hrows := position_add b x y 0 j
  simp only [Nat.cast_zero, Int.add_zero, Int.zero_mul] at hpixels hrows
  rw [getPitches_pixel hb.bitsPerPel, getPitches_row hb.bitsPerPel,
    ofNat_mul_signExtend (by omega) (by omega), ofNat_mul_signExtend (by omega) (by omega),
    pixelAt, pixelAt, position_add, BitVec.ofInt_add, BitVec.ofInt_add]
  ring

theorem pixelAt_eq_ofNat (hpos : 0 ≤ b.position x y) :
    b.pixelAt x y = b.bits + BitVec.ofNat 64 (b.position x y).toNat := by
  rw [pixelAt, ← BitVec.ofInt_natCast, Int.toNat_of_nonneg hpos]

/-- The bytes of a pixel are in the memory of the surface. -/
theorem Contains.memory_holds (hcontains : b.Contains x y) {a : Address}
    (hholds : (⟨b.pixelAt x y, 4⟩ : ByteRange).Holds a) : b.memory.Holds a := by
  obtain ⟨hpos, -, hend⟩ := hcontains.position_bounds
  obtain ⟨k, hk, rfl⟩ := hholds.exists_eq
  have hk4 : k < 4 := hk
  rw [pixelAt_eq_ofNat hpos, BitVec.add_assoc, ← BitVec.ofNat_add]
  exact holds_add_ofNat (r := b.memory) (show _ < b.extent by omega)

theorem place_injective (hvalid : b.rotation.Valid) {x' y' : Int}
    (heq : b.place x y = b.place x' y') : x = x' ∧ y = y' := by
  unfold place at heq
  cases hrotation : b.rotation with
  | other code =>
      rw [hrotation] at hvalid
      exact hvalid.elim
  | identity | rotate90 | rotate180 | rotate270 =>
      simp only [hrotation, Prod.mk.injEq] at heq
      omega

/-- A position that is less than a pitch behind the start of its row is not in a later row. -/
theorem row_le_of_position {row row' column column' k k' pitch : Int}
    (hpitch : 0 ≤ pitch) (hcolumn : 0 ≤ column * 4 + k) (hcolumn' : column' * 4 + k' < pitch)
    (hle : row * pitch + column * 4 + k ≤ row' * pitch + column' * 4 + k') : row ≤ row' := by
  by_contra hlt
  rw [Int.not_le] at hlt
  have hrows : (row' + 1) * pitch ≤ row * pitch := Int.mul_le_mul_of_nonneg_right hlt hpitch
  rw [Int.add_mul, Int.one_mul] at hrows
  omega

/-- Where rows do not overlap, no byte belongs to two pixels. -/
theorem pixelAt_injective (hb : b.Surface32) (hrows : 4 * b.width.toNat ≤ b.pitch.toNat)
    {x' y' : Int} {k k' : Nat} (hcontains : b.Contains x y) (hcontains' : b.Contains x' y')
    (hk : k < 4) (hk' : k' < 4)
    (heq : b.pixelAt x y + BitVec.ofNat 64 k = b.pixelAt x' y' + BitVec.ofNat 64 k') :
    x = x' ∧ y = y' := by
  have hsmall := hb.small
  obtain ⟨hpos, -, hend⟩ := hcontains.position_bounds
  obtain ⟨hpos', -, hend'⟩ := hcontains'.position_bounds
  rw [pixelAt_eq_ofNat hpos, pixelAt_eq_ofNat hpos', BitVec.add_assoc, BitVec.add_assoc,
    ← BitVec.ofNat_add, ← BitVec.ofNat_add, add_ofNat_inj (by omega) (by omega)] at heq
  refine place_injective hb.valid ?_
  obtain ⟨-, -, hcolumn, hwidth⟩ := hcontains
  obtain ⟨-, -, hcolumn', hwidth'⟩ := hcontains'
  have hposition : b.position x y + k = b.position x' y' + k' := by omega
  rw [position, position] at hposition
  have hpitch : (4 * b.width.toNat : Int) ≤ b.pitch.toNat := by exact_mod_cast hrows
  -- the columns are less than a pitch apart, so the rows are the same
  have hrow : (b.place x y).1 = (b.place x' y').1 :=
    Int.le_antisymm
      (row_le_of_position (Int.natCast_nonneg _) (by omega) (by omega) hposition.le)
      (row_le_of_position (Int.natCast_nonneg _) (by omega) (by omega) hposition.ge)
  rw [hrow] at hposition
  exact Prod.ext hrow (by omega)

end

end BltInfo

namespace Rect

variable {r : Rect} {x y : Int}

/-- What the code asserts of a rectangle. -/
structure Ordered (r : Rect) : Prop where
  columns : r.left.toInt ≤ r.right.toInt
  rows : r.top.toInt ≤ r.bottom.toInt

/-- The point is in the rectangle. -/
def Holds (r : Rect) (x y : Int) : Prop :=
  r.left.toInt ≤ x ∧ x < r.right.toInt ∧ r.top.toInt ≤ y ∧ y < r.bottom.toInt

/-- The points of the rectangle, row by row. -/
def points (r : Rect) : List (Int × Int) :=
  (List.range r.numRows.toNat).flatMap fun (j : Nat) =>
    (List.range r.numPixels.toNat).map fun (i : Nat) => (r.left.toInt + i, r.top.toInt + j)

/-- The difference of two `LONG`s, the first of them not the smaller one. -/
theorem toNat_sub_of_le {m n : BitVec 32} (hle : m.toInt ≤ n.toInt) :
    ((n - m).toNat : Int) = n.toInt - m.toInt := by
  have hlower := BitVec.le_toInt m
  have hupper := BitVec.toInt_lt (x := n)
  have hsub : n - m = BitVec.ofInt 32 (n.toInt - m.toInt) := by
    rw [ofInt_sub, BitVec.ofInt_toInt, BitVec.ofInt_toInt]
  rw [hsub, BitVec.toNat_ofInt]
  omega

namespace Ordered

theorem numPixels_eq (hordered : r.Ordered) :
    (r.numPixels.toNat : Int) = r.right.toInt - r.left.toInt := toNat_sub_of_le hordered.columns

theorem numRows_eq (hordered : r.Ordered) :
    (r.numRows.toNat : Int) = r.bottom.toInt - r.top.toInt := toNat_sub_of_le hordered.rows

/-- The point that so many steps lead to. -/
theorem holds_add (hordered : r.Ordered) {i j : Nat} (hi : i < r.numPixels.toNat)
    (hj : j < r.numRows.toNat) : r.Holds (r.left.toInt + i) (r.top.toInt + j) := by
  have hpixels := hordered.numPixels_eq
  have hrows := hordered.numRows_eq
  refine ⟨?_, ?_, ?_, ?_⟩ <;> omega

/-- A rectangle holds the pixels to the right in its first row. -/
theorem holds_right (hordered : r.Ordered) {i : Nat} (hi : i < r.numPixels.toNat)
    (hpos : 0 < r.numRows.toNat) : r.Holds (r.left.toInt + i) r.top.toInt := by
  have hpoint := hordered.holds_add hi hpos
  rwa [Nat.cast_zero, Int.add_zero] at hpoint

/-- A rectangle holds the pixels further down in its first column. -/
theorem holds_down (hordered : r.Ordered) {j : Nat} (hpos : 0 < r.numPixels.toNat)
    (hj : j < r.numRows.toNat) : r.Holds r.left.toInt (r.top.toInt + j) := by
  have hpoint := hordered.holds_add hpos hj
  rwa [Nat.cast_zero, Int.add_zero] at hpoint

theorem holds_corner (hordered : r.Ordered) (hpixels : 0 < r.numPixels.toNat)
    (hrows : 0 < r.numRows.toNat) : r.Holds r.left.toInt r.top.toInt := by
  have hpoint := hordered.holds_right hpixels hrows
  rwa [Nat.cast_zero, Int.add_zero] at hpoint

end Ordered

theorem mem_points_iff (hordered : r.Ordered) : (x, y) ∈ r.points ↔ r.Holds x y := by
  have hpixels := hordered.numPixels_eq
  have hrows := hordered.numRows_eq
  simp only [points, List.mem_flatMap, List.mem_map, List.mem_range, Prod.mk.injEq]
  constructor
  · rintro ⟨j, hj, i, hi, rfl, rfl⟩
    exact hordered.holds_add hi hj
  · rintro ⟨hleft, hright, htop, hbottom⟩
    exact ⟨(y - r.top.toInt).toNat, by omega, (x - r.left.toInt).toNat, by omega, by omega,
      by omega⟩

end Rect

/-- The rectangle lies on the surface. -/
def BltInfo.ContainsRect (b : BltInfo) (r : Rect) : Prop :=
  r.Ordered ∧ ∀ x y, r.Holds x y → b.Contains x y

section

variable (dst src : BltInfo)

/-- The copy of the pixel at a point. -/
def pixelCopy (x y : Int) : ByteCopy := ⟨dst.pixelAt x y, src.pixelAt x y, 4⟩

/-- The copies of the pixels of a rectangle, row by row. -/
def pixelCopies (r : Rect) : List ByteCopy := r.points.map fun p => pixelCopy dst src p.1 p.2

/-- What the general copy does. -/
structure CopiesRotated (rects : List Rect) (m m' : CopiedMemory) : Prop where
  /-- It copies the pixels of each rectangle, from their place on the one surface to their place
  on the other. -/
  made : m' = m.copyAll (rects.flatMap (pixelCopies dst src))
  /-- It reads and writes on the surfaces only. -/
  inside : ∀ c ∈ rects.flatMap (pixelCopies dst src),
    (∀ a, c.source.Holds a → src.memory.Holds a) ∧ ∀ a, c.target.Holds a → dst.memory.Holds a
  /-- Where rows do not overlap, every pixel ends as it was on the source. -/
  shown : 4 * dst.width.toNat ≤ dst.pitch.toNat → ∀ r ∈ rects, ∀ x y, r.Holds x y → ∀ k < 4,
    m'.bytes (dst.pixelAt x y + BitVec.ofNat 64 k) = m.bytes (src.pixelAt x y + BitVec.ofNat 64 k)
  /-- No other byte is changed. -/
  kept : ∀ a, (∀ r ∈ rects, ∀ x y, r.Holds x y →
    ¬ (⟨dst.pixelAt x y, 4⟩ : ByteRange).Holds a) → m'.bytes a = m.bytes a

end

section

variable {dst src : BltInfo} {rects : List Rect} {r : Rect} {c : ByteCopy}

/-- The loops over a rectangle reach every pixel at its place. -/
theorem genericCopies_eq (hdst : dst.Surface32) (hsrc : src.Surface32)
    (hdstRect : dst.ContainsRect r) (hsrcRect : src.ContainsRect r) :
    genericCopies dst src r = pixelCopies dst src r := by
  obtain ⟨hordered, hdstHolds⟩ := hdstRect
  obtain ⟨-, hsrcHolds⟩ := hsrcRect
  rw [genericCopies, pixelCopies, Rect.points, marched, List.map_flatMap]
  refine List.flatMap_congr fun j hj => ?_
  rw [marched, List.map_map, ← List.flatMap_singleton' (List.map _ _), List.flatMap_map]
  refine List.flatMap_congr fun i hi => ?_
  rw [List.mem_range] at hi hj
  have hpixels : 0 < r.numPixels.toNat := Nat.zero_lt_of_lt hi
  have hrows : 0 < r.numRows.toNat := Nat.zero_lt_of_lt hj
  have hcorner := hordered.holds_corner hpixels hrows
  have hright := hordered.holds_right hi hrows
  have hdown := hordered.holds_down hpixels hj
  rw [BltInfo.getRowStart_eq hdst (hdstHolds _ _ hcorner),
    BltInfo.getRowStart_eq hsrc (hsrcHolds _ _ hcorner),
    BltInfo.pixelAt_add hdst (hdstHolds _ _ hcorner) (hdstHolds _ _ hright) (hdstHolds _ _ hdown),
    BltInfo.pixelAt_add hsrc (hsrcHolds _ _ hcorner) (hsrcHolds _ _ hright) (hsrcHolds _ _ hdown)]
  rfl

/-- A copy that is made is that of a point of a rectangle. -/
theorem mem_pixelCopies (hrects : ∀ r ∈ rects, r.Ordered)
    (hmem : c ∈ rects.flatMap (pixelCopies dst src)) :
    ∃ r ∈ rects, ∃ x y, r.Holds x y ∧ c = pixelCopy dst src x y := by
  obtain ⟨r, hr, hc⟩ := List.mem_flatMap.mp hmem
  obtain ⟨⟨x, y⟩, hp, rfl⟩ := List.mem_map.mp hc
  exact ⟨r, hr, x, y, (Rect.mem_points_iff (hrects r hr)).mp hp, rfl⟩

/-- `CopyBitsGeneric` copies every pixel of every rectangle from its place on the source to its
place on the destination, and does nothing else. -/
theorem copyBitsGeneric_copiesRotated (hdst : dst.Surface32) (hsrc : src.Surface32)
    (hapart : ¬ src.memory.Meets dst.memory)
    (hrects : ∀ r ∈ rects, dst.ContainsRect r ∧ src.ContainsRect r) (m : CopiedMemory) :
    CopiesRotated dst src rects m (copyBitsGeneric dst src rects m) := by
  have hordered : ∀ r ∈ rects, r.Ordered := fun r hr => (hrects r hr).1.1
  have hmade : copyBitsGeneric dst src rects m =
      m.copyAll (rects.flatMap (pixelCopies dst src)) := by
    rw [copyBitsGeneric_eq hdst.bitsPerPel hsrc.bitsPerPel]
    exact congrArg m.copyAll (List.flatMap_congr fun r hr =>
      genericCopies_eq hdst hsrc (hrects r hr).1 (hrects r hr).2)
  have hinside : ∀ c ∈ rects.flatMap (pixelCopies dst src),
      (∀ a, c.source.Holds a → src.memory.Holds a) ∧
        ∀ a, c.target.Holds a → dst.memory.Holds a := by
    intro c hmem
    obtain ⟨r, hr, x, y, hholds, rfl⟩ := mem_pixelCopies hordered hmem
    exact ⟨fun a => ((hrects r hr).2.2 x y hholds).memory_holds,
      fun a => ((hrects r hr).1.2 x y hholds).memory_holds⟩
  have hcopiesApart : Apart (rects.flatMap (pixelCopies dst src)) :=
    apart_of_within hapart (fun c hmem => (hinside c hmem).1) fun c hmem => (hinside c hmem).2
  refine ⟨hmade, hinside, fun hwide r hr x y hholds k hk => ?_, fun a hnone => ?_⟩
  · have hmem : pixelCopy dst src x y ∈ rects.flatMap (pixelCopies dst src) :=
      List.mem_flatMap.mpr ⟨r, hr, List.mem_map.mpr
        ⟨(x, y), (Rect.mem_points_iff (hordered r hr)).mpr hholds, rfl⟩⟩
    have hbyte : (pixelCopy dst src x y).target.Holds (dst.pixelAt x y + BitVec.ofNat 64 k) :=
      holds_add_ofNat (r := (pixelCopy dst src x y).target) hk
    have hloaded : (pixelCopy dst src x y).loaded (dst.pixelAt x y + BitVec.ofNat 64 k) =
        src.pixelAt x y + BitVec.ofNat 64 k := by
      rw [ByteCopy.loaded, pixelCopy]
      ring
    have horigin := origin_of_agree hmem hbyte fun d hd hstored => by
      obtain ⟨r', hr', x', y', hholds', rfl⟩ := mem_pixelCopies hordered hd
      obtain ⟨k', hk', heq⟩ := ByteRange.Holds.exists_eq hstored
      obtain ⟨rfl, rfl⟩ := BltInfo.pixelAt_injective hdst hwide ((hrects r hr).1.2 x y hholds)
        ((hrects r' hr').1.2 x' y' hholds') hk hk' heq
      rfl
    rw [hmade, bytes_copyAll hcopiesApart, horigin, hloaded]
  · rw [hmade]
    refine bytes_copyAll_of_not_holds fun c hmem => ?_
    obtain ⟨r, hr, x, y, hholds, rfl⟩ := mem_pixelCopies hordered hmem
    exact hnone r hr x y hholds

end

/-- A surface of two by two pixels. -/
def squareSurface (bits : Address) (rotation : Rotation) (format : D3DDDIFormat) : BltInfo :=
  ⟨bits, 8, 32, ⟨0, 0⟩, rotation, 2, 2, format⟩

/-- The whole of a square surface. -/
def square : Rect := ⟨0, 0, 2, 2⟩

theorem square_holds_iff {x y : Int} : square.Holds x y ↔ 0 ≤ x ∧ x < 2 ∧ 0 ≤ y ∧ y < 2 := Iff.rfl

theorem containsRect_square {bits : Address} {rotation : Rotation} {format : D3DDDIFormat}
    (hvalid : rotation.Valid) : (squareSurface bits rotation format).ContainsRect square := by
  refine ⟨⟨by decide, by decide⟩, fun x y hholds => ?_⟩
  rw [square_holds_iff] at hholds
  have hoffset : (0 : BitVec 32).toInt = 0 := rfl
  have htwo : (2 : BitVec 32).toNat = 2 := rfl
  unfold BltInfo.Contains BltInfo.place squareSurface
  cases rotation with
  | other code => exact hvalid.elim
  | identity | rotate90 | rotate180 | rotate270 =>
      simp only [hoffset, htwo]
      omega

theorem surface32_square {bits : Address} {rotation : Rotation} {format : D3DDDIFormat}
    (hvalid : rotation.Valid) : (squareSurface bits rotation format).Surface32 :=
  ⟨hvalid, rfl, show (2 - 1) * 8 + 4 * 2 < 2 ^ 31 by decide⟩

/-- Two square surfaces at these addresses have no byte in common. -/
theorem square_apart {rotation rotation' : Rotation} {format format' : D3DDDIFormat} :
    ¬ (squareSurface 0x2000 rotation format).memory.Meets
      (squareSurface 0x1000 rotation' format').memory := by
  have hsrc : (squareSurface 0x2000 rotation format).memory = ⟨0x2000, 16⟩ := rfl
  have hdst : (squareSurface 0x1000 rotation' format').memory = ⟨0x1000, 16⟩ := rfl
  have hstraight : ByteRange.Straight ⟨0x2000, 16⟩ :=
    show (0x2000 : Address).toNat + 16 ≤ 2 ^ 64 by decide
  have hstraight' : ByteRange.Straight ⟨0x1000, 16⟩ :=
    show (0x1000 : Address).toNat + 16 ≤ 2 ^ 64 by decide
  rw [hsrc, hdst, hstraight.meets_iff hstraight']
  decide

/-- A square surface is copied to one that is turned by 90 degrees. -/
theorem copiesRotated_square : CopiesRotated (squareSurface 0x1000 .rotate90 .a8r8g8b8)
    (squareSurface 0x2000 .identity .a8r8g8b8) [square] ⟨fun a => a.setWidth 8, []⟩
    (copyBitsGeneric (squareSurface 0x1000 .rotate90 .a8r8g8b8)
      (squareSurface 0x2000 .identity .a8r8g8b8) [square] ⟨fun a => a.setWidth 8, []⟩) := by
  have hturned : Rotation.rotate90.Valid := trivial
  have hstraight : Rotation.identity.Valid := trivial
  refine copyBitsGeneric_copiesRotated (surface32_square hturned) (surface32_square hstraight)
    square_apart (fun r hr => ?_) _
  rw [List.mem_singleton.mp hr]
  exact ⟨containsRect_square hturned, containsRect_square hstraight⟩

end VirtDisplay
