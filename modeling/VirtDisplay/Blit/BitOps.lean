/-
# Copying rectangles between surfaces

A surface is a place in memory with a pitch, a size, an offset and a rotation. The general copy
goes through each rectangle row by row and pixel by pixel, with two pointers whose steps depend
on the rotations. Two surfaces that are not rotated have a copy of their own, which takes whole
rows, or swaps the red and the blue byte of every pixel if the formats ask for it.

The arithmetic is that of the code. A number of 32 bits that is added to a pointer is extended
with zeros if its type is unsigned, and by its sign otherwise; where a `LONG` meets a `UINT`,
the result is unsigned.
-/

import VirtDisplay.Contract
import VirtDisplay.Foundation.ByteCopies

namespace VirtDisplay

open CopiedMemory

/-- `D3DKMDT_VIDPN_PRESENT_PATH_ROTATION`. -/
inductive Rotation
  | identity
  | rotate90
  | rotate180
  | rotate270
  /-- Any other value, which the code reports. -/
  | other (code : Nat)
  deriving DecidableEq

/-- `POINT`, two `LONG`s. -/
structure Point where
  x : BitVec 32
  y : BitVec 32

/-- `RECT`, four `LONG`s. -/
structure Rect where
  left : BitVec 32
  top : BitVec 32
  right : BitVec 32
  bottom : BitVec 32

/-- `BLT_INFO`. -/
structure BltInfo where
  bits : Address
  pitch : BitVec 32
  bitsPerPel : BitVec 32
  offset : Point
  rotation : Rotation
  width : BitVec 32
  height : BitVec 32
  pixelFmt : D3DDDIFormat

/-- The two steps of a pointer, both `LONG`. -/
structure Pitches where
  pixel : BitVec 32
  row : BitVec 32

namespace Rect

variable (r : Rect)

/-- `NumPixels`. -/
def numPixels : BitVec 32 := r.right - r.left
/-- `NumRows`. -/
def numRows : BitVec 32 := r.bottom - r.top

end Rect

namespace BltInfo

variable (b : BltInfo) (r : Rect)

/-- `GetPitches`. -/
def getPitches : Pitches :=
  match b.rotation with
  | .identity => ⟨b.bitsPerPel / 8, b.pitch⟩
  | .rotate90 => ⟨-b.pitch, b.bitsPerPel / 8⟩
  | .rotate180 => ⟨(-b.bitsPerPel).sdiv 8, -b.pitch⟩
  | .rotate270 => ⟨b.pitch, (-b.bitsPerPel).sdiv 8⟩
  | .other _ => ⟨0, 0⟩

/-- `OffLeft`. -/
def offLeft : BitVec 32 := r.left + b.offset.x
/-- `OffTop`. -/
def offTop : BitVec 32 := r.top + b.offset.y

/-- `GetRowStart`, which is null for a rotation that is not valid. -/
def getRowStart : Address :=
  let bytesPerPixel := b.bitsPerPel / 8
  match b.rotation with
  | .identity =>
      b.bits + (b.offTop r * b.pitch).setWidth 64 + (b.offLeft r * bytesPerPixel).signExtend 64
  | .rotate90 =>
      b.bits + ((b.height - 1 - b.offLeft r) * b.pitch).setWidth 64 +
        (b.offTop r * bytesPerPixel).signExtend 64
  | .rotate180 =>
      b.bits + ((b.height - 1 - b.offTop r) * b.pitch).setWidth 64 +
        ((b.width - 1 - b.offLeft r) * bytesPerPixel).setWidth 64
  | .rotate270 =>
      b.bits + (b.offLeft r * b.pitch).setWidth 64 +
        ((b.width - 1 - b.offTop r) * bytesPerPixel).setWidth 64
  | .other _ => 0

/-- Where `CopyBits32_32` starts in a rectangle. -/
def start32 : Address :=
  b.bits + (b.offTop r * b.pitch).setWidth 64 + (b.offLeft r * 4).signExtend 64

end BltInfo

section

variable (dst src : BltInfo)

/-- The pixel that `CopyBitsGeneric` copies, if both surfaces have 32 bits for each. -/
def copyPixel (dstPixel srcPixel : Address) (m : CopiedMemory) : CopiedMemory :=
  if dst.bitsPerPel = 32 ∧ src.bitsPerPel = 32 then m.copy dstPixel srcPixel 4 else m

/-- A row of `CopyBitsGeneric`. -/
def copyRow (r : Rect) (dstRow srcRow : Address) : CopiedMemory → CopiedMemory :=
  march (copyPixel dst src) (dst.getPitches.pixel.signExtend 64)
    (src.getPitches.pixel.signExtend 64) r.numPixels.toNat dstRow srcRow

/-- `CopyBitsGeneric`. -/
def copyBitsGeneric (rects : List Rect) (m : CopiedMemory) : CopiedMemory :=
  rects.foldl (fun m r =>
    march (copyRow dst src r) (dst.getPitches.row.signExtend 64)
      (src.getPitches.row.signExtend 64) r.numRows.toNat
      (dst.getRowStart r) (src.getRowStart r) m) m

/-- `needsSwizzle`. -/
def needsSwizzle : Bool := dst.pixelFmt = .a8b8g8r8 ∧ src.pixelFmt = .a8r8g8b8

/-- A pixel with its red and its blue byte swapped; the index is a `UINT`. -/
def swizzlePixel (startDst startSrc : Address) (m : CopiedMemory) (j : Nat) : CopiedMemory :=
  let i := BitVec.ofNat 32 j * 4
  let m := m.copy (startDst + (i + 0).setWidth 64) (startSrc + (i + 2).setWidth 64) 1
  let m := m.copy (startDst + (i + 1).setWidth 64) (startSrc + (i + 1).setWidth 64) 1
  let m := m.copy (startDst + (i + 2).setWidth 64) (startSrc + (i + 0).setWidth 64) 1
  m.copy (startDst + (i + 3).setWidth 64) (startSrc + (i + 3).setWidth 64) 1

/-- A row of `CopyBits32_32`. -/
def copyRow32 (r : Rect) (startDst startSrc : Address) (m : CopiedMemory) : CopiedMemory :=
  let bytesToCopy := r.numPixels * 4
  if needsSwizzle dst src then
    (List.range r.numPixels.toNat).foldl (swizzlePixel startDst startSrc) m
  else m.copy startDst startSrc bytesToCopy.toNat

/-- `CopyBits32_32`. -/
def copyBits32_32 (rects : List Rect) (m : CopiedMemory) : CopiedMemory :=
  rects.foldl (fun m r =>
    march (copyRow32 dst src r) (dst.pitch.setWidth 64) (src.pitch.setWidth 64) r.numRows.toNat
      (dst.start32 r) (src.start32 r) m) m

/-- `BltBits`, where no access faults. -/
def bltBits (rects : List Rect) (m : CopiedMemory) : CopiedMemory :=
  if dst.rotation = .identity ∧ src.rotation = .identity then copyBits32_32 dst src rects m
  else copyBitsGeneric dst src rects m

end

/-- `BPPFromPixelFormat`. -/
def bppFromPixelFormat : D3DDDIFormat → BitVec 32
  | .x8r8g8b8 | .a8b8g8r8 | .a8r8g8b8 | .a2b10g10r10 => 32
  | .x8b8g8r8 => 0
  | .other code =>
      if code = 118 then 1
      else if code = 41 then 8
      else if code = 23 then 16
      else if code = 20 then 24
      else 0

section

variable (dst src : BltInfo) (r : Rect)

/-- The copies of a rectangle in the general copy, a pixel each. -/
def genericCopies : List ByteCopy :=
  marched
    (marched (fun dstPixel srcPixel => [⟨dstPixel, srcPixel, 4⟩])
      (dst.getPitches.pixel.signExtend 64) (src.getPitches.pixel.signExtend 64) r.numPixels.toNat)
    (dst.getPitches.row.signExtend 64) (src.getPitches.row.signExtend 64) r.numRows.toNat
    (dst.getRowStart r) (src.getRowStart r)

/-- The four copies of a swapped pixel. -/
def swizzleCopies (startDst startSrc : Address) (j : Nat) : List ByteCopy :=
  let i := BitVec.ofNat 32 j * 4
  [⟨startDst + (i + 0).setWidth 64, startSrc + (i + 2).setWidth 64, 1⟩,
    ⟨startDst + (i + 1).setWidth 64, startSrc + (i + 1).setWidth 64, 1⟩,
    ⟨startDst + (i + 2).setWidth 64, startSrc + (i + 0).setWidth 64, 1⟩,
    ⟨startDst + (i + 3).setWidth 64, startSrc + (i + 3).setWidth 64, 1⟩]

/-- The copies that `CopyBits32_32` makes of a row. -/
def rowCopies32 (startDst startSrc : Address) : List ByteCopy :=
  if needsSwizzle dst src then
    (List.range r.numPixels.toNat).flatMap (swizzleCopies startDst startSrc)
  else [⟨startDst, startSrc, (r.numPixels * 4).toNat⟩]

/-- The copies that `CopyBits32_32` makes of a rectangle. -/
def copies32 : List ByteCopy :=
  marched (rowCopies32 dst src r) (dst.pitch.setWidth 64) (src.pitch.setWidth 64) r.numRows.toNat
    (dst.start32 r) (src.start32 r)

end

section

variable {dst src : BltInfo}

theorem copyBitsGeneric_eq (hdst : dst.bitsPerPel = 32) (hsrc : src.bitsPerPel = 32)
    (rects : List Rect) (m : CopiedMemory) :
    copyBitsGeneric dst src rects m = m.copyAll (rects.flatMap (genericCopies dst src)) := by
  have hpixel : ∀ d s m, copyPixel dst src d s m = m.copyAll [⟨d, s, 4⟩] :=
    fun d s m => if_pos ⟨hdst, hsrc⟩
  rw [← foldl_copyAll, copyBitsGeneric]
  refine congrArg (fun f => rects.foldl f m) (funext₂ fun m r => ?_)
  exact march_copyAll (fun d s m => march_copyAll hpixel _ _ _ d s m) _ _ _ _ _ m

theorem copyBits32_32_eq (rects : List Rect) (m : CopiedMemory) :
    copyBits32_32 dst src rects m = m.copyAll (rects.flatMap (copies32 dst src)) := by
  have hrow : ∀ r d s m, copyRow32 dst src r d s m = m.copyAll (rowCopies32 dst src r d s) := by
    intro r d s m
    rw [copyRow32, rowCopies32]
    split
    next => exact foldl_copyAll (swizzleCopies d s) _ m
    next => rfl
  rw [← foldl_copyAll, copyBits32_32]
  exact congrArg (fun f => rects.foldl f m)
    (funext₂ fun m r => march_copyAll (hrow r) _ _ _ _ _ m)

end

end VirtDisplay
