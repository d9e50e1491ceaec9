/-
# The image of the pointer

`IoctlSetPointerShape` probes as many bytes as the width and the height of an image make, and
hands on its pitch as it is. `CreateCursor` clears a surface of 128 by 128 pixels and copies the
image to its corner, row by row, with the pitch of the user. So the image is read where it was
probed only if its rows are not further apart than they are long, or there is only one.

The surface is blitted as `A8B8G8R8`, which swaps the red and the blue byte of every pixel. The
resource over it is declared in the format of the request, and for `A8R8G8B8` that puts the
bytes in the order they had before the swap.
-/

import VirtDisplay.Adapter.CursorSpec
import VirtDisplay.Blit.CopyPaths
import VirtDisplay.Ioctl.Handlers

namespace VirtDisplay

open ByteRange CopiedMemory Ioctl

/-- `DstBltInfo` in `CreateCursor`. -/
def cursorDst (bits : Address) : BltInfo where
  bits := bits
  pitch := BitVec.ofNat 32 (pointerSize * 4)
  bitsPerPel := bppFromPixelFormat .a8b8g8r8
  offset := ⟨0, 0⟩
  rotation := .identity
  width := BitVec.ofNat 32 pointerSize
  height := BitVec.ofNat 32 pointerSize
  pixelFmt := .a8b8g8r8

/-- `SrcBltInfo`. -/
def cursorSrc (cursor : CursorData) : BltInfo where
  bits := BitVec.ofNat 64 cursor.data
  pitch := BitVec.ofNat 32 cursor.pitch
  bitsPerPel := bppFromPixelFormat .a8r8g8b8
  offset := ⟨0, 0⟩
  rotation := .identity
  width := BitVec.ofNat 32 cursor.width
  height := BitVec.ofNat 32 cursor.height
  pixelFmt := .a8r8g8b8

/-- `Rect`. -/
def cursorRect (cursor : CursorData) : Rect where
  left := 0
  top := 0
  right := 0 + BitVec.ofNat 32 cursor.width
  bottom := 0 + BitVec.ofNat 32 cursor.height

/-- What `CreateCursor` does to the memory of the object, which is at `bits`. -/
def drawCursor (bits : Address) (cursor : CursorData) (m : CopiedMemory) : CopiedMemory :=
  let dst := cursorDst bits
  bltBits dst (cursorSrc cursor) [cursorRect cursor]
    (m.fill ⟨dst.bits, (dst.pitch * dst.height).toNat⟩ 0)

/-- The bytes that `IoctlSetPointerShape` probes. -/
def probedImage (cursor : CursorData) : ByteRange :=
  ⟨BitVec.ofNat 64 cursor.data, cursor.height * (cursor.width * 4)⟩

/-- Every byte that is read for the image was probed. -/
def ReadsProbed (bits : Address) (cursor : CursorData) : Prop :=
  ∀ m : ByteMemory, ∀ c ∈ (drawCursor bits cursor ⟨m, []⟩).copies,
    ∀ a, c.source.Holds a → (probedImage cursor).Holds a

/-- A size that `ValidateIoctl` lets through, and a pitch as it comes. -/
structure CursorSized (cursor : CursorData) : Prop where
  width : cursor.width ≤ pointerSize
  height : cursor.height ≤ pointerSize
  pitch : cursor.pitch < 2 ^ 32

section

variable {bits : Address} {cursor : CursorData} {i : ScreenId}

theorem cursorSized_of_admitCursor (haccepted : admitCursor cursor = .ok i)
    (hpitch : cursor.pitch < 2 ^ 32) : CursorSized cursor := by
  unfold admitCursor at haccepted
  split at haccepted
  next => cases haccepted
  next =>
    split at haccepted
    next => cases haccepted
    next hsize =>
      rw [not_or, Nat.not_lt, Nat.not_lt] at hsize
      exact ⟨hsize.1, hsize.2, hpitch⟩

theorem numPixels_cursorRect (hsized : CursorSized cursor) :
    (cursorRect cursor).numPixels.toNat = cursor.width := by
  have hwidth : cursor.width ≤ 128 := hsized.width
  have hpixels : (cursorRect cursor).numPixels = BitVec.ofNat 32 cursor.width := by
    rw [Rect.numPixels, cursorRect]
    bv_omega
  rw [hpixels, BitVec.toNat_ofNat]
  omega

theorem numRows_cursorRect (hsized : CursorSized cursor) :
    (cursorRect cursor).numRows.toNat = cursor.height := by
  have hheight : cursor.height ≤ 128 := hsized.height
  have hrows : (cursorRect cursor).numRows = BitVec.ofNat 32 cursor.height := by
    rw [Rect.numRows, cursorRect]
    bv_omega
  rw [hrows, BitVec.toNat_ofNat]
  omega

/-- In the corner of a surface without offset a rectangle starts at the first byte. -/
theorem start32_corner {b : BltInfo} (hoffset : b.offset = ⟨0, 0⟩) (cursor : CursorData) :
    b.start32 (cursorRect cursor) = b.bits := by
  rw [BltInfo.start32, BltInfo.offTop, BltInfo.offLeft, hoffset]
  have hzero : (0 : BitVec 32) + 0 = 0 := rfl
  show b.bits + ((0 + 0) * b.pitch).setWidth 64 + ((0 + 0 : BitVec 32) * 4).signExtend 64 = b.bits
  rw [hzero, zero_mul, zero_mul]
  exact (BitVec.add_zero _).trans (BitVec.add_zero _)

/-- The pitch of the image, on a pointer. -/
theorem pitch_cursorSrc (hsized : CursorSized cursor) :
    (cursorSrc cursor).pitch.setWidth 64 = BitVec.ofNat 64 cursor.pitch := by
  rw [← BitVec.ofNat_toNat, cursorSrc, BitVec.toNat_ofNat, Nat.mod_eq_of_lt hsized.pitch]

/-- The position that is some rows down and some pixels to the right. -/
theorem pixel_position (b : Address) (j p i : Nat) :
    b + BitVec.ofNat 64 j * BitVec.ofNat 64 p + BitVec.ofNat 64 (4 * i) =
      b + BitVec.ofNat 64 (j * p + 4 * i) := by
  rw [BitVec.add_assoc, BitVec.ofNat_add (j * p), BitVec.ofNat_mul j p]

theorem extent_cursorDst : (cursorDst bits).extent = 2 ^ 16 := by
  have hpitch : (cursorDst bits).pitch.toNat = 512 := rfl
  have hheight : (cursorDst bits).height.toNat = 128 := rfl
  have hwidth : (cursorDst bits).width.toNat = 128 := rfl
  rw [BltInfo.extent, hpitch, hheight, hwidth]
  norm_num

/-- All of the surface is cleared. -/
theorem cleared_cursorDst :
    (⟨(cursorDst bits).bits, ((cursorDst bits).pitch * (cursorDst bits).height).toNat⟩ :
      ByteRange) = (cursorDst bits).memory := by
  have hlength : ((cursorDst bits).pitch * (cursorDst bits).height).toNat = 2 ^ 16 := by
    show (BitVec.ofNat 32 (128 * 4) * BitVec.ofNat 32 128).toNat = 2 ^ 16
    decide
  rw [hlength, ← extent_cursorDst]
  rfl

/-- Neither the image nor the surface is rotated, so the copy is that of whole rows. -/
theorem drawCursor_eq (m : CopiedMemory) :
    drawCursor bits cursor m = copyBits32_32 (cursorDst bits) (cursorSrc cursor)
      [cursorRect cursor] (m.fill (cursorDst bits).memory 0) := by
  have hidentity : (cursorDst bits).rotation = .identity ∧
      (cursorSrc cursor).rotation = .identity := ⟨rfl, rfl⟩
  rw [drawCursor, bltBits, if_pos hidentity, cleared_cursorDst]

/-- The copies are those of the pixels of the image. -/
theorem copies_drawCursor (m : ByteMemory) :
    (drawCursor bits cursor ⟨m, []⟩).copies =
      copies32 (cursorDst bits) (cursorSrc cursor) (cursorRect cursor) := by
  rw [drawCursor_eq, copyBits32_32_eq, copies_copyAll, List.flatMap_singleton]
  rfl

/-- The bytes that are read for a swapped pixel. -/
theorem exists_read_swizzle_iff {a d s : Address} {j : Nat} (hj : 4 * j + 4 ≤ 2 ^ 32) :
    (∃ c ∈ swizzleCopies d s j, c.source.Holds a) ↔
      ∃ l < 4, a = s + BitVec.ofNat 64 (4 * j) + BitVec.ofNat 64 l := by
  rw [swizzleCopies_eq hj]
  constructor
  · rintro ⟨c, hc, hholds⟩
    obtain ⟨⟨k, l⟩, hkl, rfl⟩ := List.mem_map.mp hc
    have hl : ∀ p ∈ [(0, 2), (1, 1), (2, 0), (3, 3)], p.2 < 4 := by decide
    exact ⟨l, hl _ hkl, holds_one_iff.mp hholds⟩
  · rintro ⟨l, hl, heq⟩
    have hkl : ∀ l < 4, (swapRedBlue l, l) ∈ [(0, 2), (1, 1), (2, 0), (3, 3)] := by decide
    exact ⟨_, List.mem_map.mpr ⟨_, hkl l hl, rfl⟩, holds_one_iff.mpr heq⟩

/-- The bytes that are read: all four of each pixel of the image, at the pitch of the user. -/
theorem exists_read_iff (bits : Address) (hsized : CursorSized cursor) {a : Address}
    (m : ByteMemory) :
    (∃ c ∈ (drawCursor bits cursor ⟨m, []⟩).copies, c.source.Holds a) ↔
      ∃ j < cursor.height, ∃ i < cursor.width, ∃ l < 4, a = BitVec.ofNat 64 cursor.data +
        BitVec.ofNat 64 (j * cursor.pitch + 4 * i + l) := by
  have hwidth : cursor.width ≤ 128 := hsized.width
  have hswizzle : needsSwizzle (cursorDst bits) (cursorSrc cursor) = true := rfl
  have hposition : ∀ j i l, (cursorSrc cursor).bits + BitVec.ofNat 64 j *
      BitVec.ofNat 64 cursor.pitch + BitVec.ofNat 64 (4 * i) + BitVec.ofNat 64 l =
        BitVec.ofNat 64 cursor.data + BitVec.ofNat 64 (j * cursor.pitch + 4 * i + l) := by
    intro j i l
    rw [pixel_position, BitVec.add_assoc, ← BitVec.ofNat_add]
    rfl
  have hmem : ∀ c, c ∈ (drawCursor bits cursor ⟨m, []⟩).copies ↔
      ∃ j < cursor.height, ∃ i < cursor.width, c ∈ swizzleCopies
        (bits + BitVec.ofNat 64 j * (cursorDst bits).pitch.setWidth 64)
        ((cursorSrc cursor).bits + BitVec.ofNat 64 j * BitVec.ofNat 64 cursor.pitch) i := by
    intro c
    rw [copies_drawCursor, copies32, marched, numRows_cursorRect hsized, pitch_cursorSrc hsized,
      start32_corner rfl, start32_corner rfl]
    simp only [List.mem_flatMap, List.mem_range, rowCopies32, hswizzle, if_true,
      numPixels_cursorRect hsized]
    rfl
  constructor
  · rintro ⟨c, hc, hholds⟩
    obtain ⟨j, hj, i, hi, hc⟩ := (hmem c).mp hc
    obtain ⟨l, hl, rfl⟩ := (exists_read_swizzle_iff (by omega)).mp ⟨c, hc, hholds⟩
    exact ⟨j, hj, i, hi, l, hl, hposition j i l⟩
  · rintro ⟨j, hj, i, hi, l, hl, rfl⟩
    obtain ⟨c, hc, hholds⟩ := (exists_read_swizzle_iff (by omega)).mpr
      ⟨l, hl, (hposition j i l).symm⟩
    exact ⟨c, (hmem c).mpr ⟨j, hj, i, hi, hc⟩, hholds⟩

/-- A pixel of the image is read within as many bytes as width and height make. -/
theorem position_lt_iff {j i l : Nat} (hsized : CursorSized cursor)
    (hj : j < cursor.height) (hi : i < cursor.width) (hl : l < 4) :
    (probedImage cursor).Holds (BitVec.ofNat 64 cursor.data +
        BitVec.ofNat 64 (j * cursor.pitch + 4 * i + l)) ↔
      j * cursor.pitch + 4 * i + l < cursor.height * (cursor.width * 4) := by
  have hwidth : cursor.width ≤ 128 := hsized.width
  have hheight : cursor.height ≤ 128 := hsized.height
  have hpitch := hsized.pitch
  have hrows : j * cursor.pitch ≤ 127 * 2 ^ 32 := Nat.mul_le_mul (by omega) (by omega)
  rw [Holds, probedImage, toNat_add_ofNat_sub, Nat.mod_eq_of_lt (by omega)]

/-- The image is read where it was probed exactly if it has one row, or its rows are not further
apart than they are long. -/
theorem readsProbed_iff (haccepted : admitCursor cursor = .ok i)
    (hsome : cursor.width ≠ 0 ∧ cursor.height ≠ 0) (hpitch : cursor.pitch < 2 ^ 32) :
    ReadsProbed bits cursor ↔ cursor.height ≤ 1 ∨ cursor.pitch ≤ 4 * cursor.width := by
  have hsized := cursorSized_of_admitCursor haccepted hpitch
  constructor
  · intro hprobed
    -- the last byte of the last row
    have hrow : cursor.height - 1 < cursor.height := by omega
    have hcolumn : cursor.width - 1 < cursor.width := by omega
    obtain ⟨c, hc, hholds⟩ := (exists_read_iff bits hsized fun _ => 0).mpr
      ⟨_, hrow, _, hcolumn, 3, by omega, rfl⟩
    have hlast := (position_lt_iff hsized hrow hcolumn (by omega)).mp (hprobed _ c hc _ hholds)
    by_contra hnot
    rw [not_or, Nat.not_le, Nat.not_le] at hnot
    have hrows : (cursor.height - 1) * (4 * cursor.width + 1) ≤
        (cursor.height - 1) * cursor.pitch :=
      Nat.mul_le_mul_left _ hnot.2
    have hall : cursor.height * (cursor.width * 4) =
        (cursor.height - 1) * (4 * cursor.width) + 4 * cursor.width := by
      rw [← Nat.succ_mul, Nat.succ_eq_add_one, Nat.sub_add_cancel (by omega), Nat.mul_comm 4]
    rw [Nat.mul_succ] at hrows
    omega
  · intro hfits m c hc a hholds
    obtain ⟨j, hj, i, hi, l, hl, rfl⟩ := (exists_read_iff bits hsized m).mp ⟨c, hc, hholds⟩
    rw [position_lt_iff hsized hj hi hl]
    have hrows : j * cursor.pitch ≤ j * (4 * cursor.width) := by
      rcases hfits with hone | hshort
      · rw [show j = 0 by omega, Nat.zero_mul]
        exact Nat.zero_le _
      · exact Nat.mul_le_mul_left _ hshort
    have hall : (j + 1) * (4 * cursor.width) ≤ cursor.height * (cursor.width * 4) := by
      rw [Nat.mul_comm 4]
      exact Nat.mul_le_mul_right _ hj
    rw [Nat.succ_mul] at hall
    omega

end

/-- An image of this size and pitch. -/
def plainCursor (width height pitch : Nat) : CursorData where
  screenNum := 0
  cursorX := 0
  cursorY := 0
  width := width
  height := height
  pitch := pitch
  colorFormat := .a8r8g8b8
  data := 0x10000
  xHot := 0
  yHot := 0

/-- The largest image, with its rows one behind the other. -/
theorem readsProbed_full : ReadsProbed 0x800000 (plainCursor 128 128 512) :=
  (readsProbed_iff (i := 0) rfl ⟨by decide, by decide⟩ (by decide)).mpr (.inr (by decide))

/-- Two rows of a pixel each, a mebibyte apart. -/
theorem not_readsProbed : ¬ ∀ (bits : Address) (cursor : CursorData) (i : ScreenId),
    admitCursor cursor = .ok i → cursor.width ≠ 0 ∧ cursor.height ≠ 0 →
      cursor.pitch < 2 ^ 32 → ReadsProbed bits cursor := by
  intro hclaim
  have hsized : CursorSized (plainCursor 1 2 (2 ^ 20)) := ⟨by decide, by decide, by decide⟩
  obtain ⟨c, hc, hholds⟩ := (exists_read_iff 0x800000 hsized fun _ => 0).mpr
    ⟨1, by decide, 0, by decide, 0, by decide, rfl⟩
  have hprobed := hclaim _ (plainCursor 1 2 (2 ^ 20)) 0 rfl ⟨by decide, by decide⟩ (by decide)
    (fun _ => 0) c hc _ hholds
  rw [position_lt_iff hsized (by decide) (by decide) (by decide)] at hprobed
  revert hprobed
  decide

/-- A pixel, as it is read. -/
structure Argb where
  alpha : BitVec 8
  red : BitVec 8
  green : BitVec 8
  blue : BitVec 8
  deriving DecidableEq

/-- The pixel in four bytes of a resource. -/
def VirtioGpuFormat.read (bytes : Nat → BitVec 8) : VirtioGpuFormat → Argb
  | .b8g8r8a8Unorm => ⟨bytes 3, bytes 2, bytes 1, bytes 0⟩
  | .b8g8r8x8Unorm => ⟨255, bytes 2, bytes 1, bytes 0⟩
  | .r8g8b8a8Unorm => ⟨bytes 3, bytes 0, bytes 1, bytes 2⟩
  | .r8g8b8x8Unorm => ⟨255, bytes 0, bytes 1, bytes 2⟩

/-- The pixel in four bytes of an image in `D3DDDIFMT_A8R8G8B8`, a number with the blue in its
lowest byte. -/
def readA8R8G8B8 (bytes : Nat → BitVec 8) : Argb := ⟨bytes 3, bytes 2, bytes 1, bytes 0⟩

/-- The pixels of the surface. -/
def backingPixel (bits : Address) (x y : Nat) : Address :=
  bits + BitVec.ofNat 64 (y * (pointerSize * 4) + 4 * x)

/-- The pixels of the image. -/
def imagePixel (cursor : CursorData) (x y : Nat) : Address :=
  BitVec.ofNat 64 cursor.data + BitVec.ofNat 64 (y * cursor.pitch + 4 * x)

/-- The pixel of the image, as its sender means it. -/
def sentPixel (cursor : CursorData) (m : ByteMemory) (x y : Nat) : Argb :=
  readA8R8G8B8 fun k => m (imagePixel cursor x y + BitVec.ofNat 64 k)

/-- Read in the format that is declared for it, the surface shows the image in its corner, and
all of its other bytes are zero. -/
def CursorShown (bits : Address) (cursor : CursorData) (m : ByteMemory) : Prop :=
  ∀ x < pointerSize, ∀ y < pointerSize,
    if x < cursor.width ∧ y < cursor.height then
      (colorFormat cursor.colorFormat).read (fun k =>
        (drawCursor bits cursor ⟨m, []⟩).bytes (backingPixel bits x y + BitVec.ofNat 64 k)) =
        sentPixel cursor m x y
    else ∀ k < 4,
      (drawCursor bits cursor ⟨m, []⟩).bytes (backingPixel bits x y + BitVec.ofNat 64 k) = 0

/-- The format that `CreateCursor` declares. -/
theorem createCursor_declares {o : Outcomes} {shape : PointerShape} {format : D3DDDIFormat}
    {c : Ctx} {resid id width height : Nat} {declared : VirtioGpuFormat} {backing : Option Nat}
    (hmem : .submit ⟨.resourceCreate2D id declared width height, backing⟩ ∈
      createCursorActions o false shape format c resid) :
    declared = colorFormat format ∧ width = pointerSize ∧ height = pointerSize := by
  unfold createCursorActions at hmem
  simp only [Bool.false_eq_true, if_false, List.mem_append, mem_submitted, List.mem_map,
    cursorAttachCmd] at hmem
  rcases hmem with (⟨-, heq⟩ | ⟨event, -, heq⟩) | hbuilt
  · cases heq
    exact ⟨rfl, rfl, rfl⟩
  · cases heq
  · split at hbuilt
    next =>
      rcases List.mem_append.mp hbuilt with hattach | htransfer
      · cases (mem_submitted.mp hattach).2
      · cases (mem_submitted.mp htransfer).2
    next => cases hbuilt

section

variable {bits : Address} {cursor : CursorData} {m : ByteMemory} {x y k : Nat}

/-- A side of an image, as a `LONG`. -/
theorem toInt_size {n : Nat} (hn : n ≤ pointerSize) : (0 + BitVec.ofNat 32 n).toInt = n := by
  have hsize : n ≤ 128 := hn
  have hzero : 0 + BitVec.ofNat 32 n = BitVec.ofNat 32 n := BitVec.zero_add _
  have hnat : (BitVec.ofNat 32 n).toNat = n := Nat.mod_eq_of_lt (by omega)
  rw [hzero, BitVec.toInt_eq_toNat_of_lt (by omega), hnat]

theorem cursorRect_holds_iff (hsized : CursorSized cursor) {x y : Int} :
    (cursorRect cursor).Holds x y ↔
      0 ≤ x ∧ x < cursor.width ∧ 0 ≤ y ∧ y < cursor.height := by
  have hzero : (0 : BitVec 32).toInt = 0 := rfl
  rw [Rect.Holds, cursorRect, toInt_size hsized.width, toInt_size hsized.height, hzero]

/-- The image and the surface, as the copy takes them. -/
theorem copyable_cursor (hsized : CursorSized cursor)
    (hapart : ¬ (cursorSrc cursor).memory.Meets (cursorDst bits).memory) :
    Copyable (cursorDst bits) (cursorSrc cursor) [cursorRect cursor] := by
  have hwidth : cursor.width ≤ 128 := hsized.width
  have hheight : cursor.height ≤ 128 := hsized.height
  have hright : (0 + BitVec.ofNat 32 cursor.width).toInt = cursor.width := toInt_size hwidth
  have hbottom : (0 + BitVec.ofNat 32 cursor.height).toInt = cursor.height := toInt_size hheight
  have hordered : (cursorRect cursor).Ordered :=
    ⟨hright ▸ Int.natCast_nonneg _, hbottom ▸ Int.natCast_nonneg _⟩
  have hzero : (0 : BitVec 32).toInt = 0 := rfl
  have hside : (BitVec.ofNat 32 pointerSize).toNat = 128 := rfl
  have hcolumns : (BitVec.ofNat 32 cursor.width).toNat = cursor.width :=
    Nat.mod_eq_of_lt (by omega)
  have hrows : (BitVec.ofNat 32 cursor.height).toNat = cursor.height :=
    Nat.mod_eq_of_lt (by omega)
  refine ⟨⟨rfl, rfl⟩, ⟨rfl, rfl⟩, hapart, fun r hr => ?_⟩
  rw [List.mem_singleton.mp hr]
  refine ⟨⟨hordered, fun x y hholds => ?_⟩, hordered, fun x y hholds => ?_⟩
  · rw [cursorRect_holds_iff hsized] at hholds
    simp only [BltInfo.Contains, BltInfo.place, cursorDst, hzero, hside]
    omega
  · rw [cursorRect_holds_iff hsized] at hholds
    simp only [BltInfo.Contains, BltInfo.place, cursorSrc, hzero, hcolumns, hrows]
    omega

theorem narrow_cursor (hsized : CursorSized cursor) :
    Narrow (cursorDst bits) (cursorSrc cursor) [cursorRect cursor] := by
  have hwidth : cursor.width ≤ 128 := hsized.width
  have hcolumns : 4 * (cursorRect cursor).numPixels.toNat < 2 ^ 32 := by
    rw [numPixels_cursorRect hsized]
    omega
  intro r hr
  rw [List.mem_singleton.mp hr]
  have hleft : ((0 : BitVec 32).toInt + (0 : BitVec 32).toInt) * 4 < 2 ^ 31 := by decide
  exact ⟨fun _ _ => ⟨hleft, hcolumns⟩, fun _ _ => ⟨hleft, hcolumns⟩⟩

/-- The pixels that are copied. -/
theorem mem_allCells_cursor (hsized : CursorSized cursor) {c : ByteCopy} :
    c ∈ allCells (cursorDst bits) (cursorSrc cursor) [cursorRect cursor] ↔
      ∃ j < cursor.height, ∃ i < cursor.width,
        c = ⟨backingPixel bits i j, imagePixel cursor i j, 4⟩ := by
  have hstep : (cursorDst bits).pitch.setWidth 64 = BitVec.ofNat 64 (pointerSize * 4) := rfl
  rw [allCells, List.flatMap_singleton, cellCopies, marched, numRows_cursorRect hsized,
    numPixels_cursorRect hsized, hstep, pitch_cursorSrc hsized, start32_corner rfl,
    start32_corner rfl]
  simp only [List.mem_flatMap, List.mem_range, rowCells, List.mem_map, pixel_position]
  refine exists_congr fun j => and_congr_right fun _ => exists_congr fun i =>
    and_congr_right fun _ => eq_comm

/-- No two pixels of the surface share a byte. -/
theorem backingPixel_holds_iff {i j : Nat} (hi : i < pointerSize) (hx : x < pointerSize)
    (hj : j < pointerSize) (hy : y < pointerSize) (hk : k < 4) :
    (⟨backingPixel bits i j, 4⟩ : ByteRange).Holds (backingPixel bits x y + BitVec.ofNat 64 k) ↔
      i = x ∧ j = y := by
  unfold backingPixel
  have hsize : pointerSize = 128 := rfl
  rw [hsize] at hi hx hj hy ⊢
  rw [holds_advanced_iff (by omega), BitVec.add_assoc, ← BitVec.ofNat_add, toNat_add_ofNat_sub,
    Nat.mod_eq_of_lt (by omega)]
  omega

/-- The bytes of the surface. -/
theorem backingPixel_mem (hx : x < pointerSize) (hy : y < pointerSize) (hk : k < 4) :
    (cursorDst bits).memory.Holds (backingPixel bits x y + BitVec.ofNat 64 k) := by
  have hlt : y * (pointerSize * 4) + 4 * x + k < (cursorDst bits).extent := by
    have hsize : pointerSize = 128 := rfl
    rw [hsize] at hx hy
    rw [hsize, extent_cursorDst]
    omega
  rw [backingPixel, BitVec.add_assoc, ← BitVec.ofNat_add]
  exact holds_add_ofNat (r := (cursorDst bits).memory) hlt

/-- The bytes of the image. -/
theorem imagePixel_mem (hsized : CursorSized cursor) (hx : x < cursor.width)
    (hy : y < cursor.height) (hk : k < 4) :
    (cursorSrc cursor).memory.Holds (imagePixel cursor x y + BitVec.ofNat 64 k) := by
  have hwidth : cursor.width ≤ 128 := hsized.width
  have hheight : cursor.height ≤ 128 := hsized.height
  have hextent : (cursorSrc cursor).extent =
      (cursor.height - 1) * cursor.pitch + 4 * cursor.width := by
    show ((BitVec.ofNat 32 cursor.height).toNat - 1) * (BitVec.ofNat 32 cursor.pitch).toNat +
      4 * (BitVec.ofNat 32 cursor.width).toNat = _
    rw [BitVec.toNat_ofNat, BitVec.toNat_ofNat, BitVec.toNat_ofNat, Nat.mod_eq_of_lt hsized.pitch,
      Nat.mod_eq_of_lt (by omega), Nat.mod_eq_of_lt (by omega)]
  have hrow : y * cursor.pitch ≤ (cursor.height - 1) * cursor.pitch :=
    Nat.mul_le_mul_right _ (by omega)
  have hlt : y * cursor.pitch + 4 * x + k < (cursorSrc cursor).extent := by omega
  rw [imagePixel, BitVec.add_assoc, ← BitVec.ofNat_add]
  exact holds_add_ofNat (r := (cursorSrc cursor).memory) hlt

/-- A pixel of the surface, byte by byte: one of the image with its red and its blue byte
swapped, or zero. -/
theorem bytes_drawCursor (hsized : CursorSized cursor)
    (hapart : ¬ (cursorSrc cursor).memory.Meets (cursorDst bits).memory)
    (hx : x < pointerSize) (hy : y < pointerSize) (hk : k < 4) :
    (drawCursor bits cursor ⟨m, []⟩).bytes (backingPixel bits x y + BitVec.ofNat 64 k) =
      if x < cursor.width ∧ y < cursor.height then
        m (imagePixel cursor x y + BitVec.ofNat 64 (swapRedBlue k)) else 0 := by
  have hswizzle : needsSwizzle (cursorDst bits) (cursorSrc cursor) = true := rfl
  have hcell : ∀ j < cursor.height, ∀ i < cursor.width, (⟨backingPixel bits i j, 4⟩ :
      ByteRange).Holds (backingPixel bits x y + BitVec.ofNat 64 k) ↔ i = x ∧ j = y :=
    fun j hj i hi => backingPixel_holds_iff (hi.trans_le hsized.width) hx
      (hj.trans_le hsized.height) hy hk
  rw [drawCursor_eq,
    bytes_copyBits32_32 (copyable_cursor hsized hapart) (narrow_cursor hsized), hswizzle,
    if_pos rfl]
  show (if (cursorDst bits).memory.Holds _ then 0 else m _) = _
  by_cases hin : x < cursor.width ∧ y < cursor.height
  · have hloaded : (allCells (cursorDst bits) (cursorSrc cursor) [cursorRect cursor]).foldl
        (traceSwapped (backingPixel bits x y + BitVec.ofNat 64 k))
        (backingPixel bits x y + BitVec.ofNat 64 k) =
          imagePixel cursor x y + BitVec.ofNat 64 (swapRedBlue k) := by
      refine foldl_ite_of_agree ((mem_allCells_cursor hsized).mpr ⟨y, hin.2, x, hin.1, rfl⟩)
        ((hcell y hin.2 x hin.1).mpr ⟨rfl, rfl⟩) (fun c hmem hholds => ?_) _
      obtain ⟨j, hj, i, hi, rfl⟩ := (mem_allCells_cursor hsized).mp hmem
      obtain ⟨rfl, rfl⟩ := (hcell j hj i hi).mp hholds
      rw [loadedSwapped, toNat_add_ofNat_sub, Nat.mod_eq_of_lt (by omega)]
    have hbyte : swapRedBlue k < 4 := by
      unfold swapRedBlue
      split
      next => decide
      next =>
        split
        next => decide
        next => exact hk
    rw [if_pos hin, hloaded, if_neg]
    exact fun hholds => hapart ⟨_, imagePixel_mem hsized hin.1 hin.2 hbyte, hholds⟩
  · have hkept : (allCells (cursorDst bits) (cursorSrc cursor) [cursorRect cursor]).foldl
        (traceSwapped (backingPixel bits x y + BitVec.ofNat 64 k))
        (backingPixel bits x y + BitVec.ofNat 64 k) =
          backingPixel bits x y + BitVec.ofNat 64 k := by
      refine foldl_ite_of_none (fun c hmem hholds => hin ?_) _
      obtain ⟨j, hj, i, hi, rfl⟩ := (mem_allCells_cursor hsized).mp hmem
      obtain ⟨rfl, rfl⟩ := (hcell j hj i hi).mp hholds
      exact ⟨hi, hj⟩
    rw [if_neg hin, hkept, if_pos (backingPixel_mem hx hy hk)]

/-- The surface shows the image exactly if no pixel of the image changes when its red and its blue
are swapped. -/
theorem cursorShown_iff (hsized : CursorSized cursor) (hformat : cursor.colorFormat = .a8r8g8b8)
    (hapart : ¬ (cursorSrc cursor).memory.Meets (cursorDst bits).memory) :
    CursorShown bits cursor m ↔ ∀ x < cursor.width, ∀ y < cursor.height,
      (sentPixel cursor m x y).red = (sentPixel cursor m x y).blue := by
  have hread : ∀ x < pointerSize, ∀ y < pointerSize, x < cursor.width ∧ y < cursor.height →
      (colorFormat cursor.colorFormat).read (fun k =>
        (drawCursor bits cursor ⟨m, []⟩).bytes (backingPixel bits x y + BitVec.ofNat 64 k)) =
      ⟨(sentPixel cursor m x y).alpha, (sentPixel cursor m x y).blue,
        (sentPixel cursor m x y).green, (sentPixel cursor m x y).red⟩ := by
    intro x hx y hy hin
    have hbyte : ∀ k < 4,
        (drawCursor bits cursor ⟨m, []⟩).bytes (backingPixel bits x y + BitVec.ofNat 64 k) =
          m (imagePixel cursor x y + BitVec.ofNat 64 (swapRedBlue k)) := fun k hk =>
      (bytes_drawCursor hsized hapart hx hy hk).trans (if_pos hin)
    have hdeclared : ∀ bytes, (colorFormat cursor.colorFormat).read bytes =
        ⟨bytes 3, bytes 2, bytes 1, bytes 0⟩ := fun bytes => by
      rw [hformat]
      rfl
    rw [hdeclared, hbyte 0 (by decide), hbyte 1 (by decide), hbyte 2 (by decide),
      hbyte 3 (by decide)]
    rfl
  constructor
  · intro hshown x hx y hy
    have hx' : x < pointerSize := hx.trans_le hsized.width
    have hy' : y < pointerSize := hy.trans_le hsized.height
    have hpixel := hshown x hx' y hy'
    rw [if_pos ⟨hx, hy⟩, hread x hx' y hy' ⟨hx, hy⟩] at hpixel
    exact congrArg Argb.blue hpixel
  · intro hgrey x hx y hy
    by_cases hin : x < cursor.width ∧ y < cursor.height
    · have hsame := hgrey x hin.1 y hin.2
      rw [if_pos hin, hread x hx y hy hin, ← hsame]
      exact congrArg (fun blue => (⟨_, _, _, blue⟩ : Argb)) hsame
    · rw [if_neg hin]
      intro k hk
      exact (bytes_drawCursor hsized hapart hx hy hk).trans (if_neg hin)

end

/-- At these addresses the image and the surface have no byte in common. -/
theorem plainCursor_apart {width height pitch : Nat}
    (hextent : (cursorSrc (plainCursor width height pitch)).extent ≤ 2 ^ 16) :
    ¬ (cursorSrc (plainCursor width height pitch)).memory.Meets (cursorDst 0x800000).memory := by
  have hdst : (cursorDst 0x800000).memory = ⟨0x800000, 2 ^ 16⟩ := rfl
  have hsrc : (cursorSrc (plainCursor width height pitch)).memory = ⟨0x10000, _⟩ := rfl
  have hstraight : ByteRange.Straight ⟨0x800000, 2 ^ 16⟩ :=
    show (0x800000 : Address).toNat + 2 ^ 16 ≤ 2 ^ 64 by decide
  have hstart : (0x10000 : Address).toNat = 2 ^ 16 := rfl
  have hstart' : (0x800000 : Address).toNat = 2 ^ 23 := rfl
  have hstraight' : ByteRange.Straight
      ⟨0x10000, (cursorSrc (plainCursor width height pitch)).extent⟩ := by
    show (0x10000 : Address).toNat + (cursorSrc (plainCursor width height pitch)).extent ≤ 2 ^ 64
    rw [hstart]
    omega
  rw [hdst, hsrc, hstraight'.meets_iff hstraight, hstart, hstart']
  dsimp only
  omega

/-- The largest image, every pixel of which has the same red as blue. -/
theorem cursorShown_grey : CursorShown 0x800000 (plainCursor 128 128 512) greyMemory := by
  refine (cursorShown_iff ⟨by decide, by decide, by decide⟩ rfl
    (plainCursor_apart (by decide))).mpr fun x hx y hy => ?_
  have hwidth : x < 128 := hx
  have hheight : y < 128 := hy
  have haligned : (imagePixel (plainCursor 128 128 512) x y).toNat % 4 = 0 := by
    show (BitVec.ofNat 64 0x10000 + BitVec.ofNat 64 (y * 512 + 4 * x)).toNat % 4 = 0
    rw [BitVec.toNat_add, BitVec.toNat_ofNat, BitVec.toNat_ofNat]
    omega
  have hblue : imagePixel (plainCursor 128 128 512) x y + BitVec.ofNat 64 0 =
      imagePixel (plainCursor 128 128 512) x y := BitVec.add_zero _
  show greyMemory (_ + 2) = greyMemory (_ + BitVec.ofNat 64 0)
  rw [hblue]
  exact (greyMemory_add_two haligned).symm

/-- One pixel, in a memory where every byte is the last part of its address: its blue is a zero
and its red a two. -/
theorem not_cursorShown : ¬ ∀ (bits : Address) (cursor : CursorData) (m : ByteMemory),
    CursorSized cursor → cursor.colorFormat = .a8r8g8b8 → 4 * cursor.width ≤ cursor.pitch →
      ¬ (cursorSrc cursor).memory.Meets (cursorDst bits).memory → CursorShown bits cursor m := by
  intro hclaim
  have hsized : CursorSized (plainCursor 1 1 4) := ⟨by decide, by decide, by decide⟩
  have hapart := @plainCursor_apart 1 1 4 (by decide)
  have hpixel := hclaim _ (plainCursor 1 1 4) (fun a => a.setWidth 8) hsized rfl (by decide) hapart
    0 (by decide) 0 (by decide)
  rw [if_pos ⟨by decide, by decide⟩] at hpixel
  have hblue := congrArg Argb.blue hpixel
  revert hblue
  decide +kernel

end VirtDisplay
