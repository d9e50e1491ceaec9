/-
# The modes of an EDID, section by section

Each pass of the parser appends to the list it is given, and which modes it appends does
not depend on that list. Here every section of an EDID is the list of its modes, and each
pass is the appending of that list, one mode at a time and as long as there is room.

An EDID is accepted if its header is right and the bytes of either half sum to a multiple
of 256.
-/

import Mathlib.Data.List.Basic
import Mathlib.Data.List.GetD
import VirtDisplay.Edid.Parser

namespace VirtDisplay

/-- Appending stops at the capacity of the list. -/
theorem foldl_addMode {modes : List EdidMode} (new : List EdidMode)
    (hlen : modes.length ≤ outputModelistSize) :
    new.foldl addMode modes = (modes ++ new).take outputModelistSize := by
  induction new generalizing modes with
  | nil => rw [List.append_nil, List.take_of_length_le hlen, List.foldl_nil]
  | cons mode new ih =>
      rw [List.foldl_cons, ih (length_addMode_le mode hlen), addMode]
      split
      next hfull =>
        rw [List.take_append_of_le_length hfull, List.take_append_of_le_length hfull]
      next => rw [List.append_assoc, List.singleton_append]

/-- The rows of a table from `first` on whose bits are set, the least significant bit
first. -/
def bitRows (table : List EdidMode) (first byte bits : Nat) : List EdidMode :=
  (List.range bits).filterMap fun k => if byte.testBit k then table[first + k]? else none

section

variable {table : List EdidMode} {first byte bits : Nat}

theorem and_one_eq_one_iff : byte &&& 1 = 1 ↔ byte.testBit 0 = true := by
  rw [Nat.and_one_is_mod, Nat.testBit_zero, decide_eq_true_eq]

/-- The first bit, and the others. -/
theorem bitRows_succ (byte bits : Nat) (hfirst : first < table.length) :
    bitRows table first byte (bits + 1) =
      (if byte &&& 1 = 1 then [table.getD first default] else []) ++
        bitRows table (first + 1) (byte >>> 1) bits := by
  have hrest : ((List.range bits).map Nat.succ).filterMap
      (fun k => if byte.testBit k then table[first + k]? else none) =
        bitRows table (first + 1) (byte >>> 1) bits := by
    rw [List.filterMap_map, bitRows]
    apply List.filterMap_congr
    intro k _
    rw [Function.comp_apply, Nat.testBit_shiftRight, Nat.succ_eq_add_one, Nat.add_comm k 1,
      Nat.add_assoc]
  rw [bitRows, List.range_succ_eq_map, List.filterMap_cons, hrest, Nat.add_zero,
    List.getElem?_eq_getElem hfirst, List.getD_eq_getElem _ _ hfirst]
  by_cases hbit : byte.testBit 0 = true
  · rw [if_pos hbit, if_pos (and_one_eq_one_iff.mpr hbit), List.singleton_append]
  · rw [if_neg hbit, if_neg (fun h => hbit (and_one_eq_one_iff.mp h)), List.nil_append]

/-- Adding the rows of the bits, the lowest first. -/
theorem foldl_addMode_bitRows (byte bits : Nat) (modes : List EdidMode)
    (hfirst : first < table.length) :
    (bitRows table first byte (bits + 1)).foldl addMode modes =
      (bitRows table (first + 1) (byte >>> 1) bits).foldl addMode
        (if byte &&& 1 = 1 then addMode modes (table.getD first default) else modes) := by
  rw [bitRows_succ byte bits hfirst, List.foldl_append]
  split <;> rfl

/-- A walk that ends with the table at the latest. -/
theorem scanBits_eq {size : Nat} {modes : List EdidMode} (hsize : size ≤ table.length)
    (hbits : first + bits ≤ size) :
    scanBits table size bits byte first modes =
      ((bitRows table first byte bits).foldl addMode modes, first + bits) := by
  induction bits generalizing byte first modes with
  | zero => rfl
  | succ bits ih =>
      rw [scanBits, if_pos (by omega : first ≤ size - 1),
        foldl_addMode_bitRows byte bits modes (by omega)]
      by_cases hend : first + 1 > size - 1
      · obtain rfl : bits = 0 := by omega
        rw [if_pos hend]
        rfl
      · rw [if_neg hend, ih (by omega), Nat.add_assoc, Nat.add_comm 1 bits]

/-- The walk that tests for the end of the table first adds the rows of the bits that are set. -/
theorem scanUpperBits_eq {size : Nat} {modes : List EdidMode} (hsize : size ≤ table.length)
    (hbits : first + bits ≤ size) :
    scanUpperBits table size bits byte first modes =
      (bitRows table first byte bits).foldl addMode modes := by
  induction bits generalizing byte first modes with
  | zero => rfl
  | succ bits ih =>
      rw [scanUpperBits, if_neg (by omega), if_pos (by omega : first ≤ size - 1),
        foldl_addMode_bitRows byte bits modes (by omega)]
      exact ih (by omega)

end

variable (edid : Edid)

/-- The modes of byte `k` of the established timings: two whole bytes and the top bit of a
third. -/
def timingRows (k : Nat) : List EdidMode :=
  if k < 2 then bitRows timingBitmapModelist (8 * k) (edid.byte (35 + k)) 8
  else bitRows timingBitmapModelist 16 (edid.byte (35 + k) >>> 7) 1

/-- The established timings. -/
def timingBitmapModes : List EdidMode := (List.range 3).flatMap (timingRows edid)

/-- The standard timings that are in use. -/
def standardModes : List EdidMode :=
  (List.range 8).filterMap fun k => standardMode edid (38 + 2 * k)

/-- The headers that the walk from `start` comes to: each block that starts before the end,
up to the first video block. -/
def ceaHeaders (ceaEnd : Nat) : (fuel start : Nat) → List Nat
  | 0, _ => []
  | fuel + 1, start =>
      if start < ceaEnd then
        if (edid.byte start &&& 0xE0) >>> 5 = 2 then [start]
        else start :: ceaHeaders ceaEnd fuel (start + (edid.byte start &&& 0x1F) + 1)
      else []

/-- The last byte of a block, as the inner loop sees it. -/
def videoBlockEnd (start : Nat) : Nat :=
  if start + (edid.byte start &&& 0x1F) ≥ edidSize then edidSize - 1
  else start + (edid.byte start &&& 0x1F)

/-- The positions of the codes of a video block. -/
def codePositions (start : Nat) : List Nat :=
  List.range' (start + 1) (videoBlockEnd edid start - start)

/-- The block that ends the walk from `start`: the first video block before the end. -/
def ceaVideoBlock (ceaEnd : Nat) : (fuel start : Nat) → Option Nat
  | 0, _ => none
  | fuel + 1, start =>
      if start < ceaEnd then
        if (edid.byte start &&& 0xE0) >>> 5 = 2 then some start
        else ceaVideoBlock ceaEnd fuel (start + (edid.byte start &&& 0x1F) + 1)
      else none

/-- Where the walk over the data blocks ends at the latest. -/
def ceaEnd : Nat := if 132 + edid.byte 130 > edidSize - 1 then edidSize - 1 else 132 + edid.byte 130

theorem ceaEnd_lt : ceaEnd edid < edidSize := by
  show (if 132 + edid.byte 130 > 255 then 255 else 132 + edid.byte 130) < 256
  split <;> omega

/-- The modes of the CEA extension: those of the video block that the walk comes to. -/
def ceaModes : List EdidMode :=
  ((ceaVideoBlock edid (ceaEnd edid) edidSize 132).map (videoBlockModes edid)).getD []

/-- The detailed timings. -/
def detailedModes : List EdidMode := [54, 72, 90, 108].filterMap (detailedMode edid)

/-- The modes of data byte `k` of the additional standard timings whose descriptor header
stands at byte `i`: five whole bytes, and the upper half of a sixth. -/
def additionalRows (i k : Nat) : List EdidMode :=
  if k < 5 then bitRows additionalStandardTimingModelist (8 * k) (edid.byte (i + 6 + k)) 8
  else bitRows additionalStandardTimingModelist 40 (edid.byte (i + 6 + k) >>> 4) 4

/-- The additional standard timings whose descriptor header stands at byte `i`. -/
def additionalModesAt (i : Nat) : List EdidMode := (List.range 6).flatMap (additionalRows edid i)

/-- The additional standard timings, behind the first descriptor header. -/
def additionalStandardModes : List EdidMode :=
  (((List.range' 54 72).find? (isAdditionalStandardHeader edid)).map
    (additionalModesAt edid)).getD []

/-- All the modes of an EDID, in the order of the passes. -/
def describedModes : List EdidMode :=
  timingBitmapModes edid ++ standardModes edid ++ ceaModes edid ++ detailedModes edid ++
    additionalStandardModes edid

variable {edid} {modes : List EdidMode}

theorem getTimingBitmapsModes_eq :
    getTimingBitmapsModes edid modes = (timingBitmapModes edid).foldl addMode modes := by
  have hbyte : ∀ byte first modes, first + 8 ≤ 17 →
      scanBits timingBitmapModelist 17 8 byte first modes =
        ((bitRows timingBitmapModelist first byte 8).foldl addMode modes, first + 8) :=
    fun byte first modes hfirst => scanBits_eq (Nat.le_refl _) hfirst
  have hlast : ∀ modes, (if (edid.byte 37 >>> 7) &&& 1 = 1 then
      addMode modes (timingBitmapModelist.getD 16 default) else modes) =
        (bitRows timingBitmapModelist 16 (edid.byte 37 >>> 7) 1).foldl addMode modes := by
    intro modes
    rw [bitRows_succ _ _ (show 16 < timingBitmapModelist.length by decide)]
    split <;> rfl
  have hrows : timingBitmapModes edid = bitRows timingBitmapModelist 0 (edid.byte 35) 8 ++
      (bitRows timingBitmapModelist 8 (edid.byte 36) 8 ++
        bitRows timingBitmapModelist 16 (edid.byte 37 >>> 7) 1) := by
    rw [timingBitmapModes, show List.range 3 = [0, 1, 2] from rfl]
    simp only [List.flatMap_cons, List.flatMap_nil, List.append_nil, timingRows, Nat.reduceLT,
      Nat.reduceMul, Nat.reduceAdd, if_true, if_false]
  have hfirst := hbyte (edid.byte 35) 0 modes (by decide)
  have hsecond := fun modes => hbyte (edid.byte 36) 8 modes (by decide)
  rw [hrows, List.foldl_append, List.foldl_append, ← hlast]
  simp only [getTimingBitmapsModes, hfirst, hsecond, Nat.reduceAdd]
  rw [if_neg (by decide), if_neg (by decide)]

theorem ceaWalk_eq (ceaEnd fuel start : Nat) : ceaWalk edid ceaEnd fuel start modes =
    (((ceaVideoBlock edid ceaEnd fuel start).map (videoBlockModes edid)).getD []).foldl
      addMode modes := by
  induction fuel generalizing start with
  | zero => rfl
  | succ fuel ih =>
      rw [ceaWalk, ceaVideoBlock]
      split
      next =>
        split
        next => rfl
        next => exact ih _
      next => rfl

theorem getCeaModes_eq : getCeaModes edid modes = (ceaModes edid).foldl addMode modes :=
  ceaWalk_eq ..

theorem additionalBytes_eq (i : Nat) : additionalBytes edid (i + 6) 6 (i + 6) 0 modes =
    (additionalModesAt edid i).foldl addMode modes := by
  have hwhole : ∀ remaining k modes, k < 5 →
      additionalBytes edid (i + 6) (remaining + 1) (i + 6 + k) (8 * k) modes =
        additionalBytes edid (i + 6) remaining (i + 6 + (k + 1)) (8 * (k + 1))
          ((additionalRows edid i k).foldl addMode modes) := by
    intro remaining k modes hk
    have hbits : scanBits additionalStandardTimingModelist 44 8 (edid.byte (i + 6 + k)) (8 * k)
        modes = _ := scanBits_eq (Nat.le_refl _) (by omega)
    rw [additionalBytes]
    dsimp only
    rw [if_neg (show ¬ 8 * k > 44 - 1 by omega), if_pos (by omega), additionalRows, if_pos hk]
    dsimp only [additionalStandardTimingModelistSize]
    rw [hbits, Nat.add_assoc]
    rfl
  have hupper : ∀ modes, additionalBytes edid (i + 6) 1 (i + 6 + 5) (8 * 5) modes =
      (additionalRows edid i 5).foldl addMode modes := by
    intro modes
    rw [additionalBytes]
    dsimp only
    rw [if_neg (by decide), if_neg (by omega), additionalRows, if_neg (by decide)]
    exact scanUpperBits_eq (Nat.le_refl _) (by decide)
  have hrows : additionalModesAt edid i = additionalRows edid i 0 ++ (additionalRows edid i 1 ++
      (additionalRows edid i 2 ++ (additionalRows edid i 3 ++ (additionalRows edid i 4 ++
        additionalRows edid i 5)))) := by
    rw [additionalModesAt, show List.range 6 = [0, 1, 2, 3, 4, 5] from rfl]
    simp only [List.flatMap_cons, List.flatMap_nil, List.append_nil]
  simp only [hrows, List.foldl_append]
  rw [← hupper]
  exact (hwhole 5 0 _ (by decide)).trans ((hwhole 4 1 _ (by decide)).trans
    ((hwhole 3 2 _ (by decide)).trans ((hwhole 2 3 _ (by decide)).trans
      (hwhole 1 4 _ (by decide)))))

theorem getAdditionalStandardDisplayModes_eq : getAdditionalStandardDisplayModes edid modes =
    (additionalStandardModes edid).foldl addMode modes := by
  rw [getAdditionalStandardDisplayModes, additionalStandardModes]
  cases (List.range' 54 72).find? (isAdditionalStandardHeader edid) with
  | none => rfl
  | some i => exact additionalBytes_eq i

/-- The header of an EDID. -/
abbrev edidHeader : List Nat := [0x00, 0xFF, 0xFF, 0xFF, 0xFF, 0xFF, 0xFF, 0x00]

/-- The sum of the 128 bytes from `start` on. -/
def Edid.blockSum (edid : Edid) (start : Nat) : Nat := ((List.range' start 128).map edid.byte).sum

/-- The header matches, and the bytes of both halves sum to zero modulo 256. -/
structure Edid.Accepted (edid : Edid) : Prop where
  header : (List.range 8).map edid.byte = edidHeader
  first : edid.blockSum 0 % 256 = 0
  second : edid.blockSum 128 % 256 = 0

theorem validateEdidHeader_eq_zero_iff :
    validateEdidHeader edid = 0 ↔ (List.range 8).map edid.byte = edidHeader := by
  unfold validateEdidHeader
  split
  next h => exact ⟨fun _ => h, fun _ => rfl⟩
  next h => exact ⟨fun hzero => absurd hzero (by decide), fun hheader => absurd hheader h⟩

/-- The running sum is zero modulo 256 where the second half begins. -/
theorem validateEdidChecksum_eq_zero_iff : validateEdidChecksum edid = 0 ↔
    edid.blockSum 0 % 256 = 0 ∧ edid.blockSum 128 % 256 = 0 := by
  have hfirst : ((List.range 128).map edid.byte).sum = edid.blockSum 0 := by
    rw [Edid.blockSum, List.range_eq_range']
  unfold validateEdidChecksum
  dsimp only
  rw [hfirst]
  split
  next hne => exact ⟨fun h => absurd h (by decide), fun h => absurd h.1 hne⟩
  next hzero =>
    rw [not_not.mp hzero, Nat.zero_add]
    split
    next hne => exact ⟨fun h => absurd h (by decide), fun h => absurd h.2 hne⟩
    next hzero' => exact ⟨fun _ => ⟨rfl, not_not.mp hzero'⟩, fun _ => rfl⟩

theorem accepted_iff : edid.Accepted ↔
    validateEdidHeader edid = 0 ∧ validateEdidChecksum edid = 0 := by
  rw [validateEdidHeader_eq_zero_iff, validateEdidChecksum_eq_zero_iff]
  exact ⟨fun h => ⟨h.header, h.first, h.second⟩, fun h => ⟨h.1, h.2.1, h.2.2⟩⟩

/-- An accepted EDID appends all its modes. -/
theorem parseEdidData_of_accepted (haccepted : edid.Accepted) :
    parseEdidData edid modes = (0, (describedModes edid).foldl addMode modes) := by
  obtain ⟨hheader, hchecksum⟩ := accepted_iff.mp haccepted
  rw [parseEdidData, if_neg (not_not.mpr hheader), if_neg (not_not.mpr hchecksum)]
  dsimp only
  rw [getTimingBitmapsModes_eq, getStandardModes, getCeaModes_eq,
    getDetailedTimingDescriptorModes, getAdditionalStandardDisplayModes_eq]
  simp only [describedModes, standardModes, detailedModes, List.foldl_append]

/-- An EDID that is not accepted appends nothing. -/
theorem parseEdidData_of_not_accepted (modes : List EdidMode) (hrejected : ¬ edid.Accepted) :
    (parseEdidData edid modes).1 ≠ 0 ∧ (parseEdidData edid modes).2 = modes := by
  have hcode : (parseEdidData edid modes).1 ≠ 0 := by
    rw [accepted_iff] at hrejected
    unfold parseEdidData
    grind
  exact ⟨hcode, parseEdidData_of_ne_zero hcode⟩

end VirtDisplay
