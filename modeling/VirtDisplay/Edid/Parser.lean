/-
# The EDID parser

`parse_edid_data` reads 256 bytes and appends the modes they describe to a list of
at most 32 entries. It is written here pass by pass, in the order of the source:
established timings, standard timings, the video block of the CEA extension,
detailed timings, additional standard timings. Each pass is a function of the
bytes and the list so far, because the list's capacity is shared by all of them.

Bytes are read with a total function; that no pass reads past the array is a
matter of the index arithmetic, which is kept exactly as the source has it.
-/

import Mathlib.Algebra.Ring.Nat
import VirtDisplay.Edid.Tables

namespace VirtDisplay

/-- Size of the EDID array, two blocks of 128 bytes. -/
abbrev edidSize : Nat := 256
abbrev outputModelistSize : Nat := 32
abbrev timingBitmapModelistSize : Nat := 17
abbrev additionalStandardTimingModelistSize : Nat := 44
abbrev ceaModelistSize : Nat := 154

/-- The bytes of an EDID. -/
abbrev Edid : Type := Fin edidSize → UInt8

/-- Byte `i` as a number. -/
def Edid.byte (edid : Edid) (i : Nat) : Nat :=
  if h : i < edidSize then (edid ⟨i, h⟩).toNat else 0

theorem Edid.byte_lt (edid : Edid) (i : Nat) : edid.byte i < 256 := by
  unfold Edid.byte
  split
  next h => exact (edid ⟨i, h⟩).toNat_lt
  next => decide

/-- `add_mode`: append unless the list is full. -/
def addMode (modes : List EdidMode) (mode : EdidMode) : List EdidMode :=
  if modes.length ≥ outputModelistSize then modes else modes ++ [mode]

theorem length_addMode_le {modes : List EdidMode} (mode : EdidMode)
    (hlen : modes.length ≤ outputModelistSize) :
    (addMode modes mode).length ≤ outputModelistSize := by
  unfold addMode
  split
  next => exact hlen
  next hroom => simp only [List.length_append, List.length_singleton]; omega

/-- `validate_edid_header`: zero exactly when the eight header bytes match. -/
def validateEdidHeader (edid : Edid) : Int :=
  if (List.range 8).map edid.byte = [0x00, 0xFF, 0xFF, 0xFF, 0xFF, 0xFF, 0xFF, 0x00] then 0 else 1

/-- `validate_edid_checksum`: both blocks sum to zero modulo 256. -/
def validateEdidChecksum (edid : Edid) : Int :=
  let first := ((List.range 128).map edid.byte).sum % edidSize
  if first ≠ 0 then -1
  else
    let second := (first + ((List.range' 128 128).map edid.byte).sum) % edidSize
    if second ≠ 0 then -1 else 0

/-! ## Timing bitmaps

Both bitmap passes walk a byte from its least significant bit, one table row for
each bit, and stop at the end of the table. -/

/-- Walk `bits` bits of `byte`. Returns the list and the running table index. -/
def scanBits (table : List EdidMode) (size : Nat) :
    (bits byte lookup : Nat) → List EdidMode → List EdidMode × Nat
  | 0, _, lookup, modes => (modes, lookup)
  | bits + 1, byte, lookup, modes =>
      let modes := if byte &&& 1 = 1 then addMode modes (table.getD lookup default) else modes
      let lookup := if lookup ≤ size - 1 then lookup + 1 else lookup
      if lookup > size - 1 then (modes, lookup)
      else scanBits table size bits (byte >>> 1) lookup modes

/-- `get_timing_bitmaps_modes`: bytes 35 and 36 bit by bit, then the top bit of
byte 37. -/
def getTimingBitmapsModes (edid : Edid) (modes : List EdidMode) : List EdidMode :=
  let size := timingBitmapModelistSize
  let (modes, lookup) := scanBits timingBitmapModelist size 8 (edid.byte 35) 0 modes
  if lookup > size - 1 then modes
  else
    let (modes, lookup) := scanBits timingBitmapModelist size 8 (edid.byte 36) lookup modes
    if lookup > size - 1 then modes
    else if (edid.byte 37 >>> 7) &&& 1 = 1 then
      addMode modes (timingBitmapModelist.getD lookup default)
    else modes

/-- The upper half of the last byte of an additional-timing descriptor: here the
table end is tested before a bit is looked at. -/
def scanUpperBits (table : List EdidMode) (size : Nat) :
    (bits byte lookup : Nat) → List EdidMode → List EdidMode
  | 0, _, _, modes => modes
  | bits + 1, byte, lookup, modes =>
      if lookup > size - 1 then modes
      else
        let modes := if byte &&& 1 = 1 then addMode modes (table.getD lookup default) else modes
        let lookup := if lookup ≤ size - 1 then lookup + 1 else lookup
        scanUpperBits table size bits (byte >>> 1) lookup modes

/-- The bytes `index` onwards of an additional-timing descriptor whose data starts
at `start_index`; the first five are walked whole. -/
def additionalBytes (edid : Edid) (startIndex : Nat) :
    (remaining index lookup : Nat) → List EdidMode → List EdidMode
  | 0, _, _, modes => modes
  | remaining + 1, index, lookup, modes =>
      let size := additionalStandardTimingModelistSize
      if lookup > size - 1 then modes
      else if index ≤ startIndex + 4 then
        let (modes, lookup) :=
          scanBits additionalStandardTimingModelist size 8 (edid.byte index) lookup modes
        additionalBytes edid startIndex remaining (index + 1) lookup modes
      else
        scanUpperBits additionalStandardTimingModelist size 4 (edid.byte index >>> 4) lookup modes

/-- Whether the header of an additional-timing descriptor stands at byte `i`. -/
def isAdditionalStandardHeader (edid : Edid) (i : Nat) : Bool :=
  (List.range' i 5).map edid.byte == [0x00, 0x00, 0x00, 0xf7, 0x00]

/-- `get_additional_standard_display_modes`: the first byte position from 54 to
125 at which the descriptor header matches. -/
def getAdditionalStandardDisplayModes (edid : Edid) (modes : List EdidMode) : List EdidMode :=
  match (List.range' 54 72).find? (isAdditionalStandardHeader edid) with
  | none => modes
  | some i => additionalBytes edid (i + 6) 6 (i + 6) 0 modes

/-- The mode of the two-byte code at `index`, if it is in use. -/
def standardMode (edid : Edid) (index : Nat) : Option EdidMode :=
  if edid.byte index = 1 ∧ edid.byte (index + 1) = 1 then none
  else
    let width := (edid.byte index + 31) * 8
    let refresh : ℚ := ((edid.byte (index + 1) &&& 0x3F : Nat) : ℚ) + 60
    match edid.byte (index + 1) >>> 6 with
    | 0 => some ⟨width, width * 10 / 16, refresh⟩
    | 1 => some ⟨width, width * 3 / 4, refresh⟩
    | 2 => some ⟨width, width * 4 / 5, refresh⟩
    | 3 => some ⟨width, width * 9 / 16, refresh⟩
    | _ => none

/-- `get_standard_modes`: the eight codes at bytes 38, 40, …, 52. -/
def getStandardModes (edid : Edid) (modes : List EdidMode) : List EdidMode :=
  ((List.range 8).filterMap fun k => standardMode edid (38 + 2 * k)).foldl addMode modes

/-- The row of `cea_modelist` a short video descriptor byte selects. -/
def vicRow (code : Nat) : Option Nat :=
  let vic := if code &&& 0x7F > 64 then code else code &&& 0x7F
  if vic = 0 then none
  else if 1 ≤ vic ∧ vic ≤ 127 then
    if vic - 1 < ceaModelistSize then some (vic - 1) else none
  else if vic ≥ 193 then
    if vic - 65 < ceaModelistSize then some (vic - 65) else none
  else none

/-- The inner loop: the bytes of a video block that starts at `start`. -/
def videoBlockModes (edid : Edid) (start : Nat) : List EdidMode :=
  let length := edid.byte start &&& 0x1F
  let last := if start + length ≥ edidSize then edidSize - 1 else start + length
  (List.range' (start + 1) (last - start)).filterMap fun i =>
    (vicRow (edid.byte i)).map fun row => ceaModelist.getD row default

/-- The block walk: the first video block before `cea_end` is parsed and ends the
walk, any other block is stepped over. The fuel bounds the number of blocks. -/
def ceaWalk (edid : Edid) (ceaEnd : Nat) :
    (fuel start : Nat) → List EdidMode → List EdidMode
  | 0, _, modes => modes
  | fuel + 1, start, modes =>
      if start < ceaEnd then
        if (edid.byte start &&& 0xE0) >>> 5 = 2 then
          (videoBlockModes edid start).foldl addMode modes
        else
          ceaWalk edid ceaEnd fuel (start + (edid.byte start &&& 0x1F) + 1) modes
      else modes

/-- The walk moves on by at least one byte for each block, so any fuel that covers
the distance to the end gives the same result. -/
theorem ceaWalk_fuel (edid : Edid) (ceaEnd : Nat) {fuel more start : Nat}
    (modes : List EdidMode) (hfuel : ceaEnd ≤ start + fuel) (hmore : fuel ≤ more) :
    ceaWalk edid ceaEnd more start modes = ceaWalk edid ceaEnd fuel start modes := by
  induction fuel generalizing more start with
  | zero =>
      have hend : ¬ start < ceaEnd := by omega
      cases more with
      | zero => rfl
      | succ more => simp only [ceaWalk, hend, if_false]
  | succ fuel ih =>
      obtain ⟨more, rfl⟩ : ∃ n, more = n + 1 := ⟨more - 1, by omega⟩
      rw [ceaWalk, ceaWalk]
      split
      next hlt =>
        split
        next => rfl
        next => exact ih (by omega) (by omega)
      next => rfl

/-- `get_cea_modes`: the walk starts at byte 132 and its end, taken from byte 130,
is clamped to the array. -/
def getCeaModes (edid : Edid) (modes : List EdidMode) : List EdidMode :=
  let ceaEnd := if 132 + edid.byte 130 > edidSize - 1 then edidSize - 1 else 132 + edid.byte 130
  ceaWalk edid ceaEnd edidSize 132 modes

/-- The mode of the 18-byte descriptor at `i`, if it is a detailed timing. The
refresh rate is an integer quotient, as the source divides unsigned integers. -/
def detailedMode (edid : Edid) (i : Nat) : Option EdidMode :=
  if edid.byte i = 0 ∧ edid.byte (i + 1) = 0 then none
  else
    let pixelClk := (edid.byte i + (edid.byte (i + 1) <<< 8)) * 10000
    let hActive := ((edid.byte (i + 4) >>> 4) <<< 8) + edid.byte (i + 2)
    let vActive := ((edid.byte (i + 7) >>> 4) <<< 8) + edid.byte (i + 5)
    let hBlank := ((edid.byte (i + 4) &&& 15) <<< 8) + edid.byte (i + 3)
    let vBlank := ((edid.byte (i + 7) &&& 15) <<< 8) + edid.byte (i + 6)
    let hTotal := hActive + hBlank
    let vTotal := vActive + vBlank
    if hTotal ≠ 0 ∧ vTotal ≠ 0 then
      some ⟨hActive, vActive, ((pixelClk / (hTotal * vTotal) : Nat) : ℚ)⟩
    else none

/-- `get_detailed_timing_descriptor_modes`: the slots at 54, 72, 90 and 108. -/
def getDetailedTimingDescriptorModes (edid : Edid) (modes : List EdidMode) : List EdidMode :=
  ([54, 72, 90, 108].filterMap (detailedMode edid)).foldl addMode modes

/-- `parse_edid_data`: the result code and the list after the call. -/
def parseEdidData (edid : Edid) (modes : List EdidMode) : Int × List EdidMode :=
  if validateEdidHeader edid ≠ 0 then (validateEdidHeader edid, modes)
  else if validateEdidChecksum edid ≠ 0 then (validateEdidChecksum edid, modes)
  else
    let modes := getTimingBitmapsModes edid modes
    let modes := getStandardModes edid modes
    let modes := getCeaModes edid modes
    let modes := getDetailedTimingDescriptorModes edid modes
    (0, getAdditionalStandardDisplayModes edid modes)

/-- A rejected EDID leaves the list as it was. -/
theorem parseEdidData_of_ne_zero {edid : Edid} {modes : List EdidMode}
    (hrejected : (parseEdidData edid modes).1 ≠ 0) : (parseEdidData edid modes).2 = modes := by
  unfold parseEdidData at hrejected ⊢
  grind

theorem length_foldl_addMode_le {modes : List EdidMode} (new : List EdidMode)
    (hlen : modes.length ≤ outputModelistSize) :
    (new.foldl addMode modes).length ≤ outputModelistSize := by
  induction new generalizing modes with
  | nil => exact hlen
  | cons mode new ih => exact ih (length_addMode_le mode hlen)

/-- One bit of a bitmap walk. -/
theorem length_ite_addMode_le {modes : List EdidMode} (used : Prop) [Decidable used]
    (mode : EdidMode) (hlen : modes.length ≤ outputModelistSize) :
    (if used then addMode modes mode else modes).length ≤ outputModelistSize := by
  split
  next => exact length_addMode_le mode hlen
  next => exact hlen

theorem length_scanBits_le (table : List EdidMode) (size bits byte lookup : Nat)
    {modes : List EdidMode} (hlen : modes.length ≤ outputModelistSize) :
    (scanBits table size bits byte lookup modes).1.length ≤ outputModelistSize := by
  induction bits generalizing byte lookup modes with
  | zero => exact hlen
  | succ bits ih =>
      have hstep := length_ite_addMode_le (byte &&& 1 = 1) (table.getD lookup default) hlen
      rw [scanBits]
      generalize (if lookup ≤ size - 1 then lookup + 1 else lookup) = next
      by_cases hend : next > size - 1
      · rw [if_pos hend]
        exact hstep
      · rw [if_neg hend]
        exact ih _ _ hstep

theorem length_scanUpperBits_le (table : List EdidMode) (size bits byte lookup : Nat)
    {modes : List EdidMode} (hlen : modes.length ≤ outputModelistSize) :
    (scanUpperBits table size bits byte lookup modes).length ≤ outputModelistSize := by
  induction bits generalizing byte lookup modes with
  | zero => exact hlen
  | succ bits ih =>
      rw [scanUpperBits]
      split
      next => exact hlen
      next => exact ih _ _ (length_ite_addMode_le _ _ hlen)

theorem length_getTimingBitmapsModes_le (edid : Edid) {modes : List EdidMode}
    (hlen : modes.length ≤ outputModelistSize) :
    (getTimingBitmapsModes edid modes).length ≤ outputModelistSize := by
  have hfirst := length_scanBits_le timingBitmapModelist timingBitmapModelistSize 8
    (edid.byte 35) 0 hlen
  have hsecond := length_scanBits_le timingBitmapModelist timingBitmapModelistSize 8
    (edid.byte 36) (scanBits timingBitmapModelist timingBitmapModelistSize 8
      (edid.byte 35) 0 modes).2 hfirst
  unfold getTimingBitmapsModes
  dsimp only
  split
  next => exact hfirst
  next =>
    split
    next => exact hsecond
    next => exact length_ite_addMode_le _ _ hsecond

theorem length_additionalBytes_le (edid : Edid) (startIndex remaining index lookup : Nat)
    {modes : List EdidMode} (hlen : modes.length ≤ outputModelistSize) :
    (additionalBytes edid startIndex remaining index lookup modes).length ≤ outputModelistSize := by
  induction remaining generalizing index lookup modes with
  | zero => exact hlen
  | succ remaining ih =>
      rw [additionalBytes]
      dsimp only
      split
      next => exact hlen
      next =>
        split
        next => exact ih _ _ (length_scanBits_le _ _ _ _ _ hlen)
        next => exact length_scanUpperBits_le _ _ _ _ _ hlen

theorem length_ceaWalk_le (edid : Edid) (ceaEnd fuel start : Nat) {modes : List EdidMode}
    (hlen : modes.length ≤ outputModelistSize) :
    (ceaWalk edid ceaEnd fuel start modes).length ≤ outputModelistSize := by
  induction fuel generalizing start with
  | zero => exact hlen
  | succ fuel ih =>
      rw [ceaWalk]
      split
      next =>
        split
        next => exact length_foldl_addMode_le _ hlen
        next => exact ih _
      next => exact hlen

/-- Whatever the bytes, `parseEdidData` keeps the output list within its array. -/
theorem length_parseEdidData_le (edid : Edid) {modes : List EdidMode}
    (hlen : modes.length ≤ outputModelistSize) :
    (parseEdidData edid modes).2.length ≤ outputModelistSize := by
  unfold parseEdidData
  split
  next => exact hlen
  next =>
    split
    next => exact hlen
    next =>
      have hbitmaps := length_getTimingBitmapsModes_le edid hlen
      have hstandard : (getStandardModes edid _).length ≤ _ := length_foldl_addMode_le _ hbitmaps
      have hcea : (getCeaModes edid _).length ≤ _ := length_ceaWalk_le edid _ _ _ hstandard
      have hdetailed : (getDetailedTimingDescriptorModes edid _).length ≤ _ :=
        length_foldl_addMode_le _ hcea
      dsimp only [getAdditionalStandardDisplayModes]
      split
      next => exact hdetailed
      next => exact length_additionalBytes_le _ _ _ _ _ hdetailed

end VirtDisplay
