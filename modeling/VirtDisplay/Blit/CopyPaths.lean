/-
# The two ways to copy

Between two surfaces that are not rotated `BltBits` takes the copy of whole rows, and otherwise
the general one. Both start at the same byte of a rectangle. They go on to the same bytes as
long as a pitch is the same number as a `LONG` and as a `UINT`, or is never added, and then
they read the same pixels and write to the same places in the same order.

The general copy does not look at the formats. Where they ask for a swap, the two ways differ
at every pixel whose red and blue are not the same, unless later pixels cover it.
-/

import VirtDisplay.Blit.Rotated

namespace VirtDisplay

open ByteRange CopiedMemory

/-- The byte of a pixel that is stored as the `k`-th one. -/
def swapRedBlue (k : Nat) : Nat := if k = 0 then 2 else if k = 2 then 0 else k

/-- Where a byte comes from if a pixel is copied with its red and its blue byte swapped. -/
def loadedSwapped (c : ByteCopy) (a : Address) : Address :=
  c.src + BitVec.ofNat 64 (swapRedBlue (a - c.dst).toNat)

/-- The place that a byte comes from behind such a copy, if it came from `o` before. -/
def traceSwapped (a o : Address) (c : ByteCopy) : Address :=
  if c.target.Holds a then loadedSwapped c a else o

/-- The pixels of a row, copied each on its own. -/
def rowCells (n : Nat) (dst src : Address) : List ByteCopy :=
  (List.range n).map fun i => ⟨dst + BitVec.ofNat 64 (4 * i), src + BitVec.ofNat 64 (4 * i), 4⟩

section

variable (dst src : BltInfo)

/-- The pixels of a rectangle, as both ways go through them. -/
def cellCopies (r : Rect) : List ByteCopy :=
  marched (rowCells r.numPixels.toNat) (dst.pitch.setWidth 64) (src.pitch.setWidth 64)
    r.numRows.toNat (dst.start32 r) (src.start32 r)

end

namespace BltInfo

/-- If there is a pixel to copy, the place of the first one in its row fits a `LONG`, and the
length of a row a `UINT`. -/
def Narrow (b : BltInfo) (r : Rect) : Prop :=
  0 < r.numPixels.toNat → 0 < r.numRows.toNat →
    (r.left.toInt + b.offset.x.toInt) * 4 < 2 ^ 31 ∧ 4 * r.numPixels.toNat < 2 ^ 32

/-- There are no two rows of pixels, or the pitch is the same number as a `LONG`. -/
def Stepped (b : BltInfo) (r : Rect) : Prop :=
  r.numPixels.toNat = 0 ∨ r.numRows.toNat ≤ 1 ∨ b.pitch.toNat < 2 ^ 31

/-- A surface of 32 bits for each pixel that is not rotated. -/
structure Straight32 (b : BltInfo) : Prop where
  rotation : b.rotation = .identity
  bitsPerPel : b.bitsPerPel = 32

end BltInfo

section

variable {b dst src : BltInfo} {r : Rect} {a : Address} {i j : Nat}

theorem BltInfo.getRowStart_straight (hb : b.Straight32) (r : Rect) :
    b.getRowStart r = b.start32 r := by
  unfold BltInfo.getRowStart BltInfo.start32
  rw [hb.rotation, hb.bitsPerPel]
  rfl

theorem BltInfo.getPitches_straight (hb : b.Straight32) : b.getPitches = ⟨4, b.pitch⟩ := by
  unfold BltInfo.getPitches
  rw [hb.rotation, hb.bitsPerPel]
  rfl

/-- Both paths make the same steps down. -/
theorem BltInfo.row_step (hstepped : b.Stepped r) (hi : i < r.numPixels.toNat)
    (hj : j < r.numRows.toNat) :
    BitVec.ofNat 64 j * b.pitch.signExtend 64 = BitVec.ofNat 64 j * b.pitch.setWidth 64 := by
  rcases hstepped.resolve_left (Nat.ne_of_gt (Nat.zero_lt_of_lt hi)) with hone | hsmall
  · obtain rfl : j = 0 := by omega
    rw [BitVec.zero_mul, BitVec.zero_mul]
  · rw [← ofInt_toNat b.pitch, signExtend_ofInt (by omega) (by omega),
      setWidth_ofInt (by omega) (by omega)]

/-- The steps to the right are four bytes each. -/
theorem marched_pixels (n : Nat) (d s : Address) :
    marched (fun d s => [(⟨d, s, 4⟩ : ByteCopy)]) ((4 : BitVec 32).signExtend 64)
      ((4 : BitVec 32).signExtend 64) n d s = rowCells n d s := by
  have hfour (i : Nat) : BitVec.ofNat 64 i * (4 : BitVec 32).signExtend 64 =
      BitVec.ofNat 64 (4 * i) := by
    rw [BitVec.ofNat_mul, BitVec.mul_comm]
    rfl
  rw [marched, rowCells, ← List.flatMap_singleton' (List.map _ _), List.flatMap_map]
  exact List.flatMap_congr fun i _ => by rw [hfour]

/-- The general copy goes through the pixels. -/
theorem genericCopies_straight (hdst : dst.Straight32) (hsrc : src.Straight32)
    (hdstStepped : dst.Stepped r) (hsrcStepped : src.Stepped r) :
    genericCopies dst src r = cellCopies dst src r := by
  rw [genericCopies, cellCopies, BltInfo.getRowStart_straight hdst,
    BltInfo.getRowStart_straight hsrc, BltInfo.getPitches_straight hdst,
    BltInfo.getPitches_straight hsrc]
  refine List.flatMap_congr fun j hj => ?_
  rw [List.mem_range] at hj
  rw [marched_pixels]
  rcases Nat.eq_zero_or_pos r.numPixels.toNat with hnone | hpos
  · rw [hnone]
    rfl
  · rw [BltInfo.row_step hdstStepped hpos hj, BltInfo.row_step hsrcStepped hpos hj]

/-- Two loops whose rows leave the same leave the same. -/
theorem foldl_marched_congr {cs ds : Address → Address → List ByteCopy}
    {f g : Address → ByteCopy → Address} {dstStep srcStep : Address} {left : Nat} {d s : Address}
    (hrow : 0 < left → ∀ d s o, (cs d s).foldl f o = (ds d s).foldl g o) (o : Address) :
    (marched cs dstStep srcStep left d s).foldl f o =
      (marched ds dstStep srcStep left d s).foldl g o := by
  rcases Nat.eq_zero_or_pos left with rfl | hpos
  · rfl
  · rw [marched, marched, List.foldl_flatMap, List.foldl_flatMap]
    exact congrArg (fun h => List.foldl h o (List.range left))
      (funext₂ fun o i => hrow hpos _ _ o)

/-- `BytesToCopy`, where it does not wrap. -/
theorem toNat_mul_four {n : BitVec 32} (hn : 4 * n.toNat < 2 ^ 32) :
    (n * 4).toNat = 4 * n.toNat := by
  rw [BitVec.toNat_mul]
  show n.toNat * 4 % 2 ^ 32 = 4 * n.toNat
  omega

/-- A row that is copied at once. -/
theorem foldl_trace_row {n : BitVec 32} (hn : 4 * n.toNat < 2 ^ 32) (d s o : Address) :
    [(⟨d, s, (n * 4).toNat⟩ : ByteCopy)].foldl (trace a) o =
      (rowCells n.toNat d s).foldl (trace a) o := by
  rw [rowCells, foldl_trace_pieces (by omega), toNat_mul_four hn]
  rfl

/-- The index of a byte, as a number of 64 bits. -/
theorem swizzle_index {j k : Nat} (hj : 4 * j + 4 ≤ 2 ^ 32) (hk : k < 4) :
    (BitVec.ofNat 32 j * 4 + BitVec.ofNat 32 k).setWidth 64 =
      BitVec.ofNat 64 (4 * j) + BitVec.ofNat 64 k := by
  have hsum : BitVec.ofNat 32 j * 4 + BitVec.ofNat 32 k = BitVec.ofInt 32 (4 * j + k : Nat) := by
    rw [BitVec.ofInt_natCast, BitVec.ofNat_add, BitVec.ofNat_mul, BitVec.mul_comm]
    rfl
  rw [hsum, setWidth_ofInt (by omega) (by omega), BitVec.ofInt_natCast, BitVec.ofNat_add]

/-- A byte that is copied on its own. -/
theorem trace_byte {k l : Nat} (hk : k < 4) (d s o : Address) :
    trace a o ⟨d + BitVec.ofNat 64 k, s + BitVec.ofNat 64 l, 1⟩ =
      if (a - d).toNat = k then s + BitVec.ofNat 64 l else o := by
  have hbyte : (ByteCopy.target ⟨d + BitVec.ofNat 64 k, s + BitVec.ofNat 64 l, 1⟩).Holds a ↔
      (a - d).toNat = k := by
    show (⟨d + BitVec.ofNat 64 k, 1⟩ : ByteRange).Holds a ↔ _
    rw [holds_advanced_iff (by omega)]
    omega
  rw [trace]
  by_cases heq : (a - d).toNat = k
  · have hself : a = d + BitVec.ofNat 64 k := by
      rw [← heq, add_ofNat_toNat_sub]
    rw [if_pos (hbyte.mpr heq), if_pos heq, ByteCopy.loaded]
    show s + BitVec.ofNat 64 l + (a - (d + BitVec.ofNat 64 k)) = _
    rw [← hself, BitVec.sub_self, BitVec.add_zero]
  · rw [if_neg (fun h => heq (hbyte.mp h)), if_neg heq]

/-- The bytes of a swapped pixel: which is stored, and which was loaded. -/
theorem swizzleCopies_eq {j : Nat} (hj : 4 * j + 4 ≤ 2 ^ 32) (d s : Address) :
    swizzleCopies d s j = [(0, 2), (1, 1), (2, 0), (3, 3)].map fun (k, l) =>
      ⟨d + BitVec.ofNat 64 (4 * j) + BitVec.ofNat 64 k,
        s + BitVec.ofNat 64 (4 * j) + BitVec.ofNat 64 l, 1⟩ := by
  have hindex : ∀ k < 4, ∀ b : Address,
      b + (BitVec.ofNat 32 j * 4 + BitVec.ofNat 32 k).setWidth 64 =
        b + BitVec.ofNat 64 (4 * j) + BitVec.ofNat 64 k := fun k hk b => by
    rw [swizzle_index hj hk, BitVec.add_assoc]
  simp only [List.map_cons, List.map_nil, ← hindex 0 (by decide), ← hindex 1 (by decide),
    ← hindex 2 (by decide), ← hindex 3 (by decide)]
  rfl

/-- The four bytes of a swapped pixel. -/
theorem foldl_trace_swizzle {j : Nat} (hj : 4 * j + 4 ≤ 2 ^ 32) (d s o : Address) :
    (swizzleCopies d s j).foldl (trace a) o =
      traceSwapped a o ⟨d + BitVec.ofNat 64 (4 * j), s + BitVec.ofNat 64 (4 * j), 4⟩ := by
  rw [swizzleCopies_eq hj]
  generalize d + BitVec.ofNat 64 (4 * j) = d
  generalize s + BitVec.ofNat 64 (4 * j) = s
  simp only [List.map_cons, List.map_nil, List.foldl_cons, List.foldl_nil]
  rw [trace_byte (by decide), trace_byte (by decide), trace_byte (by decide),
    trace_byte (by decide)]
  show _ = if (a - d).toNat < 4 then s + BitVec.ofNat 64 (swapRedBlue (a - d).toNat) else o
  generalize (a - d).toNat = k
  unfold swapRedBlue
  split <;> split <;> grind

/-- The copy of whole rows goes through the pixels too, swapped or not. -/
theorem foldl_trace_copies32 (hcolumns : 0 < r.numRows.toNat → 4 * r.numPixels.toNat < 2 ^ 32)
    (o : Address) :
    (copies32 dst src r).foldl (trace a) o = (cellCopies dst src r).foldl
      (if needsSwizzle dst src then traceSwapped a else trace a) o := by
  refine foldl_marched_congr (fun hpos d s o => ?_) o
  have hn := hcolumns hpos
  rw [rowCopies32]
  split
  next =>
    rw [List.foldl_flatMap, rowCells, List.foldl_map]
    refine List.foldl_ext _ _ _ fun o j hj => ?_
    rw [List.mem_range] at hj
    exact foldl_trace_swizzle (by omega) d s o
  next => exact foldl_trace_row hn d s o

/-- A pixel that the loops reach is on the surface. -/
theorem cell_holds (hb : b.Straight32) (hcontains : b.ContainsRect r) (hnarrow : b.Narrow r)
    (hi : i < r.numPixels.toNat) (hj : j < r.numRows.toNat)
    (hholds : (⟨b.start32 r + BitVec.ofNat 64 j * b.pitch.setWidth 64 + BitVec.ofNat 64 (4 * i),
      4⟩ : ByteRange).Holds a) : b.memory.Holds a := by
  have hcorner := hcontains.1.holds_corner (Nat.zero_lt_of_lt hi) (Nat.zero_lt_of_lt hj)
  have hpoint := hcontains.1.holds_add hi hj
  have hfirst := hcontains.2 _ _ hcorner
  have hlast := hcontains.2 _ _ hpoint
  have hcolumn := (hnarrow (Nat.zero_lt_of_lt hi) (Nat.zero_lt_of_lt hj)).1
  unfold BltInfo.Contains BltInfo.place at hfirst hlast
  simp only [hb.rotation] at hfirst hlast
  obtain ⟨top, htop⟩ := Int.eq_ofNat_of_zero_le hfirst.1
  obtain ⟨left, hleft⟩ := Int.eq_ofNat_of_zero_le hfirst.2.2.1
  obtain ⟨k, hk, rfl⟩ := hholds.exists_eq
  have hk4 : k < 4 := hk
  have hoffset : (b.offTop r * b.pitch).toNat ≤ top * b.pitch.toNat := by
    rw [BltInfo.offTop_eq, htop, BitVec.ofInt_natCast, BitVec.toNat_mul, BitVec.toNat_ofNat]
    exact (Nat.mod_le _ _).trans (Nat.mul_le_mul_right _ (Nat.mod_le _ _))
  have hposition : b.start32 r + BitVec.ofNat 64 j * b.pitch.setWidth 64 + BitVec.ofNat 64 (4 * i) +
      BitVec.ofNat 64 k = b.bits + BitVec.ofNat 64
        ((b.offTop r * b.pitch).toNat + 4 * left + j * b.pitch.toNat + 4 * i + k) := by
    have hcolumns : (b.offLeft r * 4).signExtend 64 = BitVec.ofNat 64 (4 * left) := by
      rw [BltInfo.offLeft_eq, BltInfo.column_offset hfirst.2.2.1 hcolumn, hleft, Int.mul_comm]
      exact BitVec.ofInt_natCast 64 (4 * left)
    simp only [BltInfo.start32, hcolumns, ← BitVec.ofNat_toNat, BitVec.ofNat_add, BitVec.ofNat_mul]
    ring
  have hrowsFit :
      top * b.pitch.toNat + j * b.pitch.toNat ≤ (b.height.toNat - 1) * b.pitch.toNat := by
    rw [← Nat.add_mul]
    exact Nat.mul_le_mul_right _ (by omega)
  rw [hposition]
  refine holds_add_ofNat (r := b.memory) (show _ < b.extent from ?_)
  rw [BltInfo.extent]
  omega

/-- A byte of a row of pixels is in one of them. -/
theorem exists_piece_holds {n : Nat} {b : Address} (hn : 4 * n < 2 ^ 32)
    (hholds : (⟨b, 4 * n⟩ : ByteRange).Holds a) :
    ∃ i < n, (⟨b + BitVec.ofNat 64 (4 * i), 4⟩ : ByteRange).Holds a := by
  have hlt : (a - b).toNat < 4 * n := hholds
  refine ⟨(a - b).toNat / 4, by omega, ?_⟩
  rw [holds_advanced_iff (by omega)]
  omega

/-- A byte of a pixel is in the pixel. -/
theorem holds_of_byte {k : Nat} {b : Address} (hk : k < 4)
    (hholds : (⟨b + BitVec.ofNat 64 k, 1⟩ : ByteRange).Holds a) : (⟨b, 4⟩ : ByteRange).Holds a := by
  rw [holds_advanced_iff (by omega)] at hholds
  show (a - b).toNat < 4
  omega

/-- Every byte of a row that `CopyBits32_32` copies is in one of its pixels. -/
theorem mem_rowCopies32 {c : ByteCopy} {d s : Address} (hn : 4 * r.numPixels.toNat < 2 ^ 32)
    (hmem : c ∈ rowCopies32 dst src r d s) :
    (∀ a, c.source.Holds a → ∃ i < r.numPixels.toNat,
      (⟨s + BitVec.ofNat 64 (4 * i), 4⟩ : ByteRange).Holds a) ∧
    ∀ a, c.target.Holds a → ∃ i < r.numPixels.toNat,
      (⟨d + BitVec.ofNat 64 (4 * i), 4⟩ : ByteRange).Holds a := by
  rw [rowCopies32] at hmem
  split at hmem
  next =>
    obtain ⟨j, hj, hmem⟩ := List.mem_flatMap.mp hmem
    rw [List.mem_range] at hj
    rw [swizzleCopies_eq (by omega)] at hmem
    obtain ⟨⟨k, l⟩, hkl, rfl⟩ := List.mem_map.mp hmem
    have hbytes : k < 4 ∧ l < 4 := by
      simp only [List.mem_cons, Prod.mk.injEq, List.not_mem_nil, or_false] at hkl
      omega
    exact ⟨fun a hholds => ⟨j, hj, holds_of_byte hbytes.2 hholds⟩,
      fun a hholds => ⟨j, hj, holds_of_byte hbytes.1 hholds⟩⟩
  next =>
    obtain rfl := List.mem_singleton.mp hmem
    have hlength := toNat_mul_four hn
    refine ⟨fun a hholds => exists_piece_holds hn ?_, fun a hholds => exists_piece_holds hn ?_⟩
    · rwa [ByteCopy.source, hlength] at hholds
    · rwa [ByteCopy.target, hlength] at hholds

/-- Two surfaces that are not rotated, and rectangles on both of them. -/
structure Copyable (dst src : BltInfo) (rects : List Rect) : Prop where
  dstStraight : dst.Straight32
  srcStraight : src.Straight32
  apart : ¬ src.memory.Meets dst.memory
  contained : ∀ r ∈ rects, dst.ContainsRect r ∧ src.ContainsRect r

/-- Every rectangle is narrow on both surfaces. -/
def Narrow (dst src : BltInfo) (rects : List Rect) : Prop :=
  ∀ r ∈ rects, dst.Narrow r ∧ src.Narrow r

/-- The rows of a narrow rectangle are shorter than 2^32 bytes. -/
theorem BltInfo.Narrow.columns (hnarrow : b.Narrow r) (hpos : 0 < r.numRows.toNat) :
    4 * r.numPixels.toNat < 2 ^ 32 := by
  rcases Nat.eq_zero_or_pos r.numPixels.toNat with hnone | hpixels
  · omega
  · exact (hnarrow hpixels hpos).2

section

variable {rects : List Rect}

/-- The copies of both ways stay on the surfaces. -/
theorem Copyable.within (hcopyable : Copyable dst src rects) (hnarrow : Narrow dst src rects)
    {cs : Rect → List ByteCopy}
    (hcells : ∀ r ∈ rects, ∀ c ∈ cs r, ∃ j < r.numRows.toNat,
      (∀ a, c.source.Holds a → ∃ i < r.numPixels.toNat,
        (⟨src.start32 r + BitVec.ofNat 64 j * src.pitch.setWidth 64 + BitVec.ofNat 64 (4 * i),
          4⟩ : ByteRange).Holds a) ∧
      ∀ a, c.target.Holds a → ∃ i < r.numPixels.toNat,
        (⟨dst.start32 r + BitVec.ofNat 64 j * dst.pitch.setWidth 64 + BitVec.ofNat 64 (4 * i),
          4⟩ : ByteRange).Holds a) :
    Apart (rects.flatMap cs) := by
  refine apart_of_within hcopyable.apart (fun c hmem a hholds => ?_) fun c hmem a hholds => ?_
  all_goals
    obtain ⟨r, hr, hc⟩ := List.mem_flatMap.mp hmem
    obtain ⟨j, hj, hsource, htarget⟩ := hcells r hr c hc
  · obtain ⟨i, hi, hcell⟩ := hsource a hholds
    exact cell_holds hcopyable.srcStraight (hcopyable.contained r hr).2 (hnarrow r hr).2 hi hj hcell
  · obtain ⟨i, hi, hcell⟩ := htarget a hholds
    exact cell_holds hcopyable.dstStraight (hcopyable.contained r hr).1 (hnarrow r hr).1 hi hj hcell

/-- The pixels of all rectangles, in the order in which they are copied. -/
def allCells (dst src : BltInfo) (rects : List Rect) : List ByteCopy :=
  rects.flatMap (cellCopies dst src)

theorem bytes_copyBitsGeneric (hcopyable : Copyable dst src rects)
    (hnarrow : Narrow dst src rects)
    (hstepped : ∀ r ∈ rects, dst.Stepped r ∧ src.Stepped r) (m : CopiedMemory) (a : Address) :
    (copyBitsGeneric dst src rects m).bytes a =
      m.bytes ((allCells dst src rects).foldl (trace a) a) := by
  have hcopies : rects.flatMap (genericCopies dst src) = allCells dst src rects :=
    List.flatMap_congr fun r hr => genericCopies_straight hcopyable.dstStraight
      hcopyable.srcStraight (hstepped r hr).1 (hstepped r hr).2
  rw [copyBitsGeneric_eq hcopyable.dstStraight.bitsPerPel hcopyable.srcStraight.bitsPerPel,
    hcopies]
  refine bytes_copyAll (hcopyable.within hnarrow fun r hr c hc => ?_) m a
  obtain ⟨j, hj, hrow⟩ := List.mem_flatMap.mp hc
  obtain ⟨i, hi, rfl⟩ := List.mem_map.mp hrow
  rw [List.mem_range] at hi hj
  exact ⟨j, hj, fun a hholds => ⟨i, hi, hholds⟩, fun a hholds => ⟨i, hi, hholds⟩⟩

theorem bytes_copyBits32_32 (hcopyable : Copyable dst src rects)
    (hnarrow : Narrow dst src rects) (m : CopiedMemory) (a : Address) :
    (copyBits32_32 dst src rects m).bytes a = m.bytes ((allCells dst src rects).foldl
      (if needsSwizzle dst src then traceSwapped a else trace a) a) := by
  have hcolumns : ∀ r ∈ rects, 0 < r.numRows.toNat → 4 * r.numPixels.toNat < 2 ^ 32 :=
    fun r hr => (hnarrow r hr).1.columns
  have hwithin : Apart (rects.flatMap (copies32 dst src)) :=
    hcopyable.within hnarrow fun r hr c hc => by
      obtain ⟨j, hj, hrow⟩ := List.mem_flatMap.mp hc
      rw [List.mem_range] at hj
      exact ⟨j, hj, mem_rowCopies32 (hcolumns r hr (Nat.zero_lt_of_lt hj)) hrow⟩
  rw [copyBits32_32_eq, bytes_copyAll hwithin, origin, allCells, List.foldl_flatMap,
    List.foldl_flatMap]
  refine congrArg m.bytes (List.foldl_ext _ _ _ fun o r hr => ?_)
  exact foldl_trace_copies32 (hcolumns r hr) o

/-- The red or the blue byte of a pixel is not covered by later pixels. -/
def Shown (cells : List ByteCopy) (c : ByteCopy) : Prop :=
  ∃ before after, cells = before ++ c :: after ∧
    ∃ k, (k = 0 ∨ k = 2) ∧ ∀ d ∈ after, ¬ d.target.Holds (c.dst + BitVec.ofNat 64 k)

/-- A byte of a pixel is the same in both copies if it is not the red or the blue one, or these
are the same. -/
theorem swapped_agree_iff {c : ByteCopy} {bytes : ByteMemory} {k : Nat} (hk : k < 4)
    (heq : (a - c.dst).toNat = k) :
    bytes (loadedSwapped c a) = bytes (c.loaded a) ↔
      (k = 0 ∨ k = 2 → bytes c.src = bytes (c.src + 2)) := by
  have hloaded : c.loaded a = c.src + BitVec.ofNat 64 k := by
    rw [ByteCopy.loaded, ← heq, BitVec.ofNat_toNat, BitVec.setWidth_eq]
  rw [loadedSwapped, heq, hloaded, swapRedBlue]
  have hzero : c.src + BitVec.ofNat 64 0 = c.src := BitVec.add_zero _
  have htwo : c.src + BitVec.ofNat 64 2 = c.src + 2 := rfl
  by_cases hred : k = 0
  · subst hred
    rw [if_pos rfl, hzero, htwo]
    exact ⟨fun h _ => h.symm, fun h => (h (.inl rfl)).symm⟩
  · by_cases hblue : k = 2
    · subst hblue
      rw [if_neg hred, if_pos rfl, hzero, htwo]
      exact ⟨fun h _ => h, fun h => h (.inr rfl)⟩
    · rw [if_neg hred, if_neg hblue]
      exact iff_of_true rfl fun h => (h.elim hred hblue).elim

/-- Two folds over pixels leave the same exactly if the pixels shown agree. -/
theorem folds_agree_iff {cells : List ByteCopy} (hcells : ∀ c ∈ cells, c.length = 4)
    (bytes : ByteMemory) :
    (∀ a, bytes (cells.foldl (traceSwapped a) a) = bytes (cells.foldl (trace a) a)) ↔
      ∀ c, Shown cells c → bytes c.src = bytes (c.src + 2) := by
  have hswapped : ∀ a, cells.foldl (traceSwapped a) a =
      ((cells.reverse.find? fun c => c.target.Holds a).map (loadedSwapped · a)).getD a :=
    fun a => foldl_ite_eq (fun c : ByteCopy => c.target.Holds a) (loadedSwapped · a) cells a
  have hplain : ∀ a, cells.foldl (trace a) a =
      ((cells.reverse.find? fun c => c.target.Holds a).map (ByteCopy.loaded · a)).getD a :=
    fun a => foldl_ite_eq (fun c : ByteCopy => c.target.Holds a) (ByteCopy.loaded · a) cells a
  simp only [hswapped, hplain]
  constructor
  · rintro hagree c ⟨before, after, heq, k, hk, hnone⟩
    have hlength := hcells c (heq ▸ List.mem_append_right _ List.mem_cons_self)
    have hdistance : (c.dst + BitVec.ofNat 64 k - c.dst).toNat = k := by
      rw [toNat_add_ofNat_sub]
      omega
    have hholds : c.target.Holds (c.dst + BitVec.ofNat 64 k) := by
      show (c.dst + BitVec.ofNat 64 k - c.dst).toNat < c.length
      rw [hdistance, hlength]
      omega
    have hfind : (cells.reverse.find? fun d =>
        d.target.Holds (c.dst + BitVec.ofNat 64 k)) = some c :=
      find?_reverse_eq_some_iff.mpr ⟨hholds, before, after, heq, hnone⟩
    have hbyte := hagree (c.dst + BitVec.ofNat 64 k)
    rw [hfind] at hbyte
    exact (swapped_agree_iff (by omega) hdistance).mp hbyte hk
  · intro hshown a
    cases hfind : cells.reverse.find? fun c => c.target.Holds a with
    | none => rfl
    | some c =>
        obtain ⟨hholds, before, after, heq, hnone⟩ := find?_reverse_eq_some_iff.mp hfind
        have hlength := hcells c (heq ▸ List.mem_append_right _ List.mem_cons_self)
        have hlt : (a - c.dst).toNat < 4 := hlength ▸ hholds
        refine (swapped_agree_iff hlt rfl).mpr fun hk => hshown c ⟨before, after, heq, _, hk, ?_⟩
        rwa [add_ofNat_toNat_sub]

/-- Where the steps of both ways are the same, they leave the same memory exactly if the formats
ask for no swap, or the pixels that are shown have the same red as blue. -/
theorem copyPaths_agree_iff (hcopyable : Copyable dst src rects) (hnarrow : Narrow dst src rects)
    (hstepped : ∀ r ∈ rects, dst.Stepped r ∧ src.Stepped r) (m : CopiedMemory) :
    (copyBits32_32 dst src rects m).bytes = (copyBitsGeneric dst src rects m).bytes ↔
      needsSwizzle dst src = false ∨
        ∀ c, Shown (allCells dst src rects) c → m.bytes c.src = m.bytes (c.src + 2) := by
  have hcells : ∀ c ∈ allCells dst src rects, c.length = 4 := by
    intro c hmem
    obtain ⟨r, -, hc⟩ := List.mem_flatMap.mp hmem
    obtain ⟨j, -, hrow⟩ := List.mem_flatMap.mp hc
    obtain ⟨i, -, rfl⟩ := List.mem_map.mp hrow
    rfl
  rw [funext_iff]
  simp only [bytes_copyBits32_32 hcopyable hnarrow,
    bytes_copyBitsGeneric hcopyable hnarrow hstepped]
  cases hswizzle : needsSwizzle dst src with
  | false => exact iff_of_true (fun a => rfl) (.inl rfl)
  | true =>
      refine (folds_agree_iff hcells m.bytes).trans ?_
      exact ⟨.inr, fun h => h.resolve_left nofun⟩

end

end

theorem copyable_square (format format' : D3DDDIFormat) :
    Copyable (squareSurface 0x1000 .identity format) (squareSurface 0x2000 .identity format')
      [square] := by
  have hvalid : Rotation.identity.Valid := trivial
  refine ⟨⟨rfl, rfl⟩, ⟨rfl, rfl⟩, square_apart, fun r hr => ?_⟩
  rw [List.mem_singleton.mp hr]
  exact ⟨containsRect_square hvalid, containsRect_square hvalid⟩

theorem narrow_square {bits : Address} {format : D3DDDIFormat} :
    (squareSurface bits .identity format).Narrow square := fun _ _ =>
  ⟨show ((0 : BitVec 32).toInt + (0 : BitVec 32).toInt) * 4 < 2 ^ 31 by decide, by decide⟩

theorem stepped_square {bits : Address} {format : D3DDDIFormat} :
    (squareSurface bits .identity format).Stepped square :=
  .inr (.inr (show (8 : BitVec 32).toNat < 2 ^ 31 by decide))

/-- A memory in which every pixel has its own bytes, but the same red as blue. -/
def greyMemory (a : Address) : BitVec 8 :=
  if a.toNat % 2 = 0 then BitVec.ofNat 8 (a.toNat / 4) else BitVec.ofNat 8 a.toNat

theorem greyMemory_add_two {a : Address} (haligned : a.toNat % 4 = 0) :
    greyMemory a = greyMemory (a + 2) := by
  have hsum : (a + 2).toNat = a.toNat + 2 := by
    rw [BitVec.toNat_add]
    show (a.toNat + 2) % 2 ^ 64 = a.toNat + 2
    omega
  unfold greyMemory
  rw [hsum, if_pos (by omega), if_pos (by omega), show (a.toNat + 2) / 4 = a.toNat / 4 by omega]

/-- With a swap, both ways leave the same of an image in the grey memory. -/
theorem copyPaths_agree_grey :
    (copyBits32_32 (squareSurface 0x1000 .identity .a8b8g8r8)
      (squareSurface 0x2000 .identity .a8r8g8b8) [square] ⟨greyMemory, []⟩).bytes =
    (copyBitsGeneric (squareSurface 0x1000 .identity .a8b8g8r8)
      (squareSurface 0x2000 .identity .a8r8g8b8) [square] ⟨greyMemory, []⟩).bytes := by
  refine (copyPaths_agree_iff (copyable_square _ _) (fun r hr => ?_) (fun r hr => ?_) _).mpr
    (.inr fun c hshown => ?_)
  · rw [List.mem_singleton.mp hr]
    exact ⟨narrow_square, narrow_square⟩
  · rw [List.mem_singleton.mp hr]
    exact ⟨stepped_square, stepped_square⟩
  · obtain ⟨before, after, hcells, -⟩ := hshown
    have hmem : c ∈ allCells (squareSurface 0x1000 .identity .a8b8g8r8)
        (squareSurface 0x2000 .identity .a8r8g8b8) [square] :=
      hcells ▸ List.mem_append_right _ List.mem_cons_self
    have haligned : ∀ c ∈ allCells (squareSurface 0x1000 .identity .a8b8g8r8)
        (squareSurface 0x2000 .identity .a8r8g8b8) [square], c.src.toNat % 4 = 0 := by
      decide +kernel
    exact greyMemory_add_two (haligned c hmem)

/-- The paths do not agree where every byte is the last part of its address: the first byte of the
copy is a two in the one and a zero in the other. -/
theorem not_copyPaths_agree : ¬ ∀ dst src rects m, Copyable dst src rects →
    (copyBits32_32 dst src rects m).bytes = (copyBitsGeneric dst src rects m).bytes := by
  intro hclaim
  have heq := congrFun (hclaim _ _ _ ⟨fun a => a.setWidth 8, []⟩
    (copyable_square .a8b8g8r8 .a8r8g8b8)) 0x1000
  revert heq
  decide +kernel

end VirtDisplay
