/-
# The EDID parser as a checked program

`Edid.Parser` says which modes a pass appends. Here the same passes are written statement
by statement, with the arrays they index, the integer types they compute in and the loops
they run, so that a slip of any of these would show as a fault: a byte read at 256 or
later, a table row or an output entry that does not exist, a result that does not fit its
type, a division by zero, a loop that does not end.

The walk through the CEA extension marks which bytes it takes for block headers and which
for video codes.
-/

import VirtDisplay.Edid.Parser
import VirtDisplay.Foundation.Checked

namespace VirtDisplay

namespace EdidParser

open Checked

/-- What a byte of the CEA extension is taken for. -/
inductive Use
  /-- The header of a data block. -/
  | header (i : Nat)
  /-- A short video descriptor. -/
  | code (i : Nat)
  deriving DecidableEq

/-- `output_modelist`. -/
structure OutputModelist where
  modelist : Vector EdidMode outputModelistSize
  modelistSize : Nat

/-- The entries in use. -/
def OutputModelist.modes (out : OutputModelist) : List EdidMode :=
  out.modelist.toList.take out.modelistSize

/-- `add_mode`: its result is −1 if the list is full. -/
def addMode (out : OutputModelist) (mode : EdidMode) : Checked Use (Int × OutputModelist) :=
  if out.modelistSize ≥ outputModelistSize then pure (-1, out)
  else do
    let modelist ← store out.modelist out.modelistSize mode
    let modelistSize ← uint (out.modelistSize + 1)
    return (0, ⟨modelist, modelistSize⟩)

/-- A call of `add_mode`, whose result no pass looks at. -/
def append (out : OutputModelist) (mode : EdidMode) : Checked Use OutputModelist := do
  return (← addMode out mode).2

/-- `edid_data[i]`. -/
def readByte (edid : Edid) (i : Nat) : Checked Use Nat :=
  if h : i < edidSize then pure (edid ⟨i, h⟩).toNat else fault .outOfBounds

/-- The `count` bytes from `i` on. -/
def readBytes (edid : Edid) (i : Nat) : (count : Nat) → Checked Use (List Nat)
  | 0 => pure []
  | count + 1 => do
      let byte ← readByte edid i
      return byte :: (← readBytes edid (i + 1) count)

/-- `memcmp`: the sign of the first difference. -/
def memcmp : (bytes header : List Nat) → Int
  | [], _ => 0
  | _ :: _, [] => 0
  | b :: bytes, h :: header => if b = h then memcmp bytes header else if b < h then -1 else 1

/-- `validate_edid_header`. -/
def validateEdidHeader (edid : Edid) : Checked Use Int := do
  return memcmp (← readBytes edid 0 8) [0x00, 0xFF, 0xFF, 0xFF, 0xFF, 0xFF, 0xFF, 0x00]

/-- `chksum += edid_data[index]`. -/
def checksumRound (edid : Edid) (index chksum : Nat) : Checked Use (Turn Nat) := do
  let byte ← readByte edid index
  return .next (← int (chksum + byte))

/-- `validate_edid_checksum`: the second sum goes on from the first. -/
def validateEdidChecksum (edid : Edid) : Checked Use Int := do
  let chksum ← forLoop (fun index => decide (index ≤ 127)) 1 (checksumRound edid) edidSize 0 0
  if chksum % edidSize ≠ 0 then
    return -1
  else
    let chksum ← forLoop (fun index => decide (index < edidSize)) 1 (checksumRound edid)
      edidSize 128 (chksum % edidSize)
    if chksum % edidSize ≠ 0 then return -1 else return 0

/-- The state of a walk along the bits of a byte. -/
structure BitWalk where
  byte : Nat
  lookup : Nat
  out : OutputModelist

/-- Row `lookup` of the table, if the lowest bit of `byte` is set. -/
def appendRow (table : List EdidMode) (byte lookup : Nat) (out : OutputModelist) :
    Checked Use OutputModelist :=
  if byte &&& 1 = 1 then do append out (← fetch table lookup) else pure out

/-- Step along the table, to its end at most. -/
def nextRow (size lookup : Nat) : Checked Use Nat :=
  if lookup ≤ size - 1 then int (lookup + 1) else pure lookup

/-- A bit of a byte that is walked whole. The end of the table is tested last. -/
def bitRound (table : List EdidMode) (size : Nat) (_ : Nat) (s : BitWalk) :
    Checked Use (Turn BitWalk) := do
  let out ← appendRow table s.byte s.lookup s.out
  let lookup ← nextRow size s.lookup
  if lookup > size - 1 then return .leave ⟨s.byte, lookup, out⟩
  else return .next ⟨s.byte >>> 1, lookup, out⟩

/-- A bit of an upper half. The end of the table is tested first. -/
def upperBitRound (table : List EdidMode) (size : Nat) (_ : Nat) (s : BitWalk) :
    Checked Use (Turn BitWalk) :=
  if s.lookup > size - 1 then pure (.leave s)
  else do
    let out ← appendRow table s.byte s.lookup s.out
    let lookup ← nextRow size s.lookup
    return .next ⟨s.byte >>> 1, lookup, out⟩

/-- A byte of the established timings. -/
def timingRound (edid : Edid) (i : Nat) (s : Nat × OutputModelist) :
    Checked Use (Turn (Nat × OutputModelist)) :=
  if s.1 > timingBitmapModelistSize - 1 then pure (.leave s)
  else do
    let byte ← readByte edid i
    if i < 37 then
      let walk ← forLoop (fun bit => decide (bit ≤ 7)) 1
        (bitRound timingBitmapModelist timingBitmapModelistSize) edidSize 0 ⟨byte, s.1, s.2⟩
      return .next (walk.lookup, walk.out)
    else
      let out ← appendRow timingBitmapModelist (byte >>> 7) s.1 s.2
      return .next (s.1, out)

/-- `get_timing_bitmaps_modes`. -/
def getTimingBitmapsModes (edid : Edid) (out : OutputModelist) : Checked Use OutputModelist := do
  let s ← forLoop (fun i => decide (i ≤ 37)) 1 (timingRound edid) edidSize 35 (0, out)
  return s.2

/-- A byte of an additional-timing descriptor whose data starts at `start_index`. -/
def additionalRound (edid : Edid) (startIndex index : Nat) (s : Nat × OutputModelist) :
    Checked Use (Turn (Nat × OutputModelist)) :=
  if s.1 > additionalStandardTimingModelistSize - 1 then pure (.leave s)
  else do
    let byte ← readByte edid index
    let lastWhole ← int (startIndex + 4)
    if index ≤ lastWhole then
      let walk ← forLoop (fun bit => decide (bit ≤ 7)) 1
        (bitRound additionalStandardTimingModelist additionalStandardTimingModelistSize)
        edidSize 0 ⟨byte, s.1, s.2⟩
      return .next (walk.lookup, walk.out)
    else
      let walk ← forLoop (fun bit => decide (bit ≤ 7)) 1
        (upperBitRound additionalStandardTimingModelist additionalStandardTimingModelistSize)
        edidSize 4 ⟨byte >>> 4, s.1, s.2⟩
      return .next (walk.lookup, walk.out)

/-- A position at which the header of an additional-timing descriptor may stand. -/
def descriptorRound (edid : Edid) (i : Nat) (out : OutputModelist) :
    Checked Use (Turn OutputModelist) := do
  let bytes ← readBytes edid i 5
  if memcmp bytes [0x00, 0x00, 0x00, 0xf7, 0x00] = 0 then
    let startIndex ← int (i + 6)
    let endIndex ← int (startIndex + 5)
    let s ← forLoop (fun index => decide (index ≤ endIndex)) 1 (additionalRound edid startIndex)
      edidSize startIndex (0, out)
    return .leave s.2
  else return .next out

/-- `get_additional_standard_display_modes`. -/
def getAdditionalStandardDisplayModes (edid : Edid) (out : OutputModelist) :
    Checked Use OutputModelist :=
  forLoop (fun i => decide (i < 126)) 1 (descriptorRound edid) edidSize 54 out

/-- The two-byte code at `index`. -/
def standardRound (edid : Edid) (index : Nat) (out : OutputModelist) :
    Checked Use (Turn OutputModelist) := do
  let first ← readByte edid index
  let second ← readByte edid (← int (index + 1))
  if first = 1 ∧ second = 1 then
    return .next out
  else
    let width ← int ((← int (first + 31)) * 8)
    let refreshRate : ℚ := ((second &&& 0x3F : Nat) : ℚ) + 60
    match second >>> 6 with
    | 0 => return .next (← append out ⟨width, ← quotient (← int (width * 10)) 16, refreshRate⟩)
    | 1 => return .next (← append out ⟨width, ← quotient (← int (width * 3)) 4, refreshRate⟩)
    | 2 => return .next (← append out ⟨width, ← quotient (← int (width * 4)) 5, refreshRate⟩)
    | 3 => return .next (← append out ⟨width, ← quotient (← int (width * 9)) 16, refreshRate⟩)
    | _ => return .next out

/-- `get_standard_modes`. -/
def getStandardModes (edid : Edid) (out : OutputModelist) : Checked Use OutputModelist :=
  forLoop (fun index => decide (index ≤ 53)) 2 (standardRound edid) edidSize 38 out

/-- The row `idx` of `cea_modelist`, if there is one. -/
def appendCeaRow (out : OutputModelist) (idx : Nat) : Checked Use OutputModelist :=
  if idx < ceaModelistSize then do append out (← fetch ceaModelist idx) else pure out

/-- `vic_number` of byte `i`: for codes up to 64 the top bit is a flag. -/
def readVic (edid : Edid) (i : Nat) : Checked Use Nat := do
  let vicNumber ← readByte edid i
  if vicNumber &&& 0x7F > 64 then readByte edid i else return vicNumber &&& 0x7F

/-- A byte of a video block. -/
def codeRound (edid : Edid) (i : Nat) (out : OutputModelist) :
    Checked Use (Turn OutputModelist) := do
  Logged.emit (.code i)
  let vicNumber ← readVic edid i
  if vicNumber = 0 then return .next out
  else if vicNumber ≥ 1 ∧ vicNumber ≤ 127 then
    let idx ← minus vicNumber 1
    return .next (← appendCeaRow out idx)
  else if vicNumber ≥ 193 then
    let idx ← minus vicNumber 65
    return .next (← appendCeaRow out idx)
  else return .next out

/-- The block at `s.1`. A video block ends the walk. -/
def ceaRound (edid : Edid) (s : Nat × OutputModelist) :
    Checked Use (Turn (Nat × OutputModelist)) := do
  Logged.emit (.header s.1)
  let header ← readByte edid s.1
  if (header &&& 0xE0) >>> 5 = 2 then
    let videoBlockEnd ← int (s.1 + (header &&& 0x1F))
    let videoBlockEnd := if videoBlockEnd ≥ edidSize then edidSize - 1 else videoBlockEnd
    let first ← int (s.1 + 1)
    let out ← forLoop (fun i => decide (i ≤ videoBlockEnd)) 1 (codeRound edid) edidSize first s.2
    return .leave (s.1, out)
  else
    let next ← int ((← int (s.1 + (header &&& 0x1F))) + 1)
    return .next (next, s.2)

/-- `get_cea_modes`. The length it reads first is not used. -/
def getCeaModes (edid : Edid) (out : OutputModelist) : Checked Use OutputModelist := do
  let _ ← readByte edid 132
  let ceaBlockEndIndex ← readByte edid 130
  let ceaEnd ← int (132 + ceaBlockEndIndex)
  let ceaEnd := if ceaEnd > edidSize - 1 then edidSize - 1 else ceaEnd
  let s ← loop (fun s => decide (s.1 < ceaEnd)) (ceaRound edid) edidSize (132, out)
  return s.2

/-- `(high << 8) + low`. -/
def shiftedSum (high low : Nat) : Checked Use Nat := do int ((← int (high <<< 8)) + low)

/-- The 18-byte descriptor at `i`. -/
def detailedRound (edid : Edid) (i : Nat) (out : OutputModelist) :
    Checked Use (Turn OutputModelist) := do
  let bytes ← readBytes edid i 2
  if memcmp bytes [0x00, 0x00] ≠ 0 then
    let dtdPixelClk ← int ((← shiftedSum (← readByte edid (i + 1)) (← readByte edid i)) * 10000)
    let dtdHActive ← shiftedSum ((← readByte edid (i + 4)) >>> 4) (← readByte edid (i + 2))
    let dtdVActive ← shiftedSum ((← readByte edid (i + 7)) >>> 4) (← readByte edid (i + 5))
    let dtdHBlank ← shiftedSum ((← readByte edid (i + 4)) &&& 15) (← readByte edid (i + 3))
    let dtdVBlank ← shiftedSum ((← readByte edid (i + 7)) &&& 15) (← readByte edid (i + 6))
    let dtdHTotal ← uint (dtdHActive + dtdHBlank)
    let dtdVTotal ← uint (dtdVActive + dtdVBlank)
    if dtdHTotal ≠ 0 ∧ dtdVTotal ≠ 0 then
      let dtdRefreshRate ← quotient dtdPixelClk (← uint (dtdHTotal * dtdVTotal))
      return .next (← append out ⟨dtdHActive, dtdVActive, ((dtdRefreshRate : Nat) : ℚ)⟩)
    else return .next out
  else return .next out

/-- `get_detailed_timing_descriptor_modes`. -/
def getDetailedTimingDescriptorModes (edid : Edid) (out : OutputModelist) :
    Checked Use OutputModelist :=
  forLoop (fun i => decide (i < 126 - 2)) 18 (detailedRound edid) edidSize 54 out

/-- `parse_edid_data`. -/
def parseEdidData (edid : Edid) (out : OutputModelist) : Checked Use (Int × OutputModelist) := do
  let funcResult ← validateEdidHeader edid
  if funcResult ≠ 0 then
    return (funcResult, out)
  else
    let funcResult ← validateEdidChecksum edid
    if funcResult ≠ 0 then
      return (funcResult, out)
    else
      let out ← getTimingBitmapsModes edid out
      let out ← getStandardModes edid out
      let out ← getCeaModes edid out
      let out ← getDetailedTimingDescriptorModes edid out
      let out ← getAdditionalStandardDisplayModes edid out
      return (0, out)

end EdidParser

end VirtDisplay
