/-
# Bit strings and the tables they select from

The established timings of an EDID are a string of 17 bits, and the additional standard timings
a string of 44: whole bytes, each from its least significant bit on, and then a part of a last
byte. A bit that is set selects the row of its number.

Both passes walk their bytes with a running index into the table. For the established timings it
stays at the last row, whose bit is the only one of its byte. For the additional ones it is one
past the last row in the end.
-/

import VirtDisplay.Edid.ProgramSpec

namespace VirtDisplay

section

variable (edid : Edid)

/-- The bits of the established timings: bytes 35 and 36, and the top bit of byte 37. -/
def timingBit (k : Nat) : Bool :=
  if k < 16 then (edid.byte (35 + k / 8)).testBit (k % 8) else (edid.byte 37).testBit 7

/-- The bits of the additional standard timings whose descriptor header stands at byte `i`: five
bytes, and the upper half of a sixth. -/
def additionalBit (i k : Nat) : Bool :=
  if k < 40 then (edid.byte (i + 6 + k / 8)).testBit (k % 8)
  else (edid.byte (i + 6 + 5)).testBit (4 + (k - 40))

/-- Where the header of the descriptor stands that the search comes to. -/
def additionalHeader : Option Nat := (List.range' 54 72).find? (isAdditionalStandardHeader edid)

end

/-- The rows of a table that a bit string selects, each at most once and in their order. -/
def selectedRows (table : List EdidMode) (bit : Nat → Bool) : List EdidMode :=
  ((List.range table.length).filter bit).map fun k => table.getD k default

/-- The rows from `first` on that the bits of a byte select. -/
theorem bitRows_eq {table : List EdidMode} {bit : Nat → Bool} {first byte bits : Nat}
    (hfit : first + bits ≤ table.length) (hbit : ∀ k < bits, bit (first + k) = byte.testBit k) :
    bitRows table first byte bits =
      ((List.range' first bits).filter bit).map fun k => table.getD k default := by
  induction bits with
  | zero => rfl
  | succ bits ih =>
      have hset : byte >>> bits &&& 1 = 1 ↔ bit (first + bits) = true := by
        rw [and_one_eq_one_iff, Nat.testBit_shiftRight, Nat.add_zero,
          hbit bits (Nat.lt_succ_self _)]
      rw [EdidParser.bitRows_append bits (by omega),
        ih (by omega) fun k hk => hbit k (Nat.lt_succ_of_lt hk), List.range'_1_concat,
        List.filter_append, List.map_append, List.filter_singleton]
      by_cases hrow : bit (first + bits) = true
      · rw [if_pos (hset.mpr hrow), hrow]
        rfl
      · rw [if_neg fun h => hrow (hset.mp h), Bool.eq_false_iff.mpr hrow]
        rfl

variable {edid : Edid} {i : Nat}

/-- The established timings, byte by byte, are the rows of the bits that are set. -/
theorem timingBitmapModes_eq :
    timingBitmapModes edid = selectedRows timingBitmapModelist (timingBit edid) := by
  have hwhole : ∀ k < 2, timingRows edid k =
      ((List.range' (8 * k) 8).filter (timingBit edid)).map
        fun k => timingBitmapModelist.getD k default := by
    intro k hk
    rw [timingRows, if_pos hk]
    refine bitRows_eq (show 8 * k + 8 ≤ 17 by omega) fun j hj => ?_
    rw [timingBit, if_pos (by omega), show (8 * k + j) / 8 = k by omega,
      show (8 * k + j) % 8 = j by omega]
  have hlast : timingRows edid 2 = ((List.range' 16 1).filter (timingBit edid)).map
      fun k => timingBitmapModelist.getD k default := by
    rw [timingRows, if_neg (by decide)]
    refine bitRows_eq (by decide) fun j hj => ?_
    rw [timingBit, if_neg (by omega), Nat.testBit_shiftRight, show 7 + j = 7 by omega]
  have hrange : List.range timingBitmapModelist.length =
      List.range' (8 * 0) 8 ++ (List.range' (8 * 1) 8 ++ List.range' 16 1) := rfl
  rw [timingBitmapModes, selectedRows, hrange, List.filter_append, List.filter_append,
    List.map_append, List.map_append, ← hwhole 0 (by decide), ← hwhole 1 (by decide), ← hlast]
  exact congrArg (_ ++ ·) (congrArg (_ ++ ·) (List.append_nil _))

/-- The additional standard timings are selected by their bits as well. -/
theorem additionalModesAt_eq : additionalModesAt edid i =
    selectedRows additionalStandardTimingModelist (additionalBit edid i) := by
  have hwhole : ∀ k < 5, additionalRows edid i k =
      ((List.range' (8 * k) 8).filter (additionalBit edid i)).map
        fun k => additionalStandardTimingModelist.getD k default := by
    intro k hk
    rw [additionalRows, if_pos hk]
    refine bitRows_eq (show 8 * k + 8 ≤ 44 by omega) fun j hj => ?_
    rw [additionalBit, if_pos (by omega), show (8 * k + j) / 8 = k by omega,
      show (8 * k + j) % 8 = j by omega]
  have hlast : additionalRows edid i 5 =
      ((List.range' 40 4).filter (additionalBit edid i)).map
        fun k => additionalStandardTimingModelist.getD k default := by
    rw [additionalRows, if_neg (by decide)]
    refine bitRows_eq (by decide) fun j hj => ?_
    rw [additionalBit, if_neg (by omega), Nat.testBit_shiftRight, Nat.add_sub_cancel_left]
  have hrange : List.range additionalStandardTimingModelist.length =
      List.range' (8 * 0) 8 ++ (List.range' (8 * 1) 8 ++ (List.range' (8 * 2) 8 ++
        (List.range' (8 * 3) 8 ++ (List.range' (8 * 4) 8 ++ List.range' 40 4)))) := rfl
  rw [additionalModesAt, selectedRows, hrange]
  simp only [List.filter_append, List.map_append]
  rw [← hwhole 0 (by decide), ← hwhole 1 (by decide), ← hwhole 2 (by decide),
    ← hwhole 3 (by decide), ← hwhole 4 (by decide), ← hlast, show List.range 6 = [0, 1, 2, 3, 4, 5]
      from rfl]
  simp only [List.flatMap_cons, List.flatMap_nil, List.append_nil]

namespace EdidParser

open Checked

/-- The loop over the bytes of the established timings. -/
def timingLoop (edid : Edid) (out : OutputModelist) : Checked Use (Nat × OutputModelist) :=
  forLoop (fun i => decide (i ≤ 37)) 1 (timingRound edid) edidSize 35 (0, out)

/-- The loop over the bytes of the descriptor whose header stands at byte `i`. -/
def additionalLoop (edid : Edid) (i : Nat) (out : OutputModelist) :
    Checked Use (Nat × OutputModelist) :=
  forLoop (fun index => decide (index ≤ i + 6 + 5)) 1 (additionalRound edid (i + 6)) edidSize
    (i + 6) (0, out)

/-- A pass appends the rows that a bit string selects. The loop in it leaves the list that the pass
returns, and leaves the running index at `last`. -/
structure Selects (table : List EdidMode) (bit : Nat → Bool) (last : Nat) (out : OutputModelist)
    (bytes : Checked Use (Nat × OutputModelist)) (pass : Checked Use OutputModelist)
    (out' : OutputModelist) : Prop where
  bytes : bytes = pure (last, out')
  pass : pass = pure out'
  /-- As many of the rows as there is room for. -/
  fitting : out'.modes = (out.modes ++ selectedRows table bit).take outputModelistSize
  /-- All of them, if there is. -/
  all : out.modes.length + (selectedRows table bit).length ≤ outputModelistSize →
    out'.modes = out.modes ++ selectedRows table bit

/-- Both passes append the rows of their bits and end at these indices. -/
structure BitmapsSelect (edid : Edid) (out : OutputModelist) (lastTiming lastAdditional : Nat) :
    Prop where
  timing : ∃ out', Selects timingBitmapModelist (timingBit edid) lastTiming out
    (timingLoop edid out) (getTimingBitmapsModes edid out) out'
  additional : ∀ i, additionalHeader edid = some i →
    ∃ out', Selects additionalStandardTimingModelist (additionalBit edid i) lastAdditional out
      (additionalLoop edid i out) (getAdditionalStandardDisplayModes edid out) out'

variable {edid : Edid} {out : OutputModelist} {i : Nat}

/-- The header that the search comes to is the first one. -/
theorem additionalHeader_eq_some_iff : additionalHeader edid = some i ↔
    isAdditionalStandardHeader edid i = true ∧ 54 ≤ i ∧ i < 126 ∧
      ∀ j, 54 ≤ j → j < i → isAdditionalStandardHeader edid j = false := by
  rw [additionalHeader, List.find?_range'_eq_some, List.mem_range'_1]
  simp only [Bool.not_eq_true', and_assoc]

theorem selects_of_eq {table : List EdidMode} {bit : Nat → Bool} {last : Nat}
    {bytes : Checked Use (Nat × OutputModelist)} {pass : Checked Use OutputModelist}
    (hbytes : bytes = pure (last, out.pushAll (selectedRows table bit)))
    (hpass : pass = pure (out.pushAll (selectedRows table bit))) :
    Selects table bit last out bytes pass (out.pushAll (selectedRows table bit)) := by
  have hfitting := OutputModelist.modes_pushAll_eq_take out (selectedRows table bit)
  refine ⟨hbytes, hpass, hfitting, fun hroom => ?_⟩
  rw [hfitting, List.take_of_length_le]
  rwa [List.length_append]

/-- Each pass appends row `k` of its table exactly if bit `k` of its string is set, in the order of
the rows. The running index is in the end at the last of 17 rows, and one past the last of 44. -/
theorem bitmaps_select (edid : Edid) (out : OutputModelist) :
    BitmapsSelect edid out (timingBitmapModelistSize - 1) additionalStandardTimingModelistSize := by
  refine ⟨⟨_, selects_of_eq ?_ ?_⟩, fun i hfirst => ⟨_, selects_of_eq ?_ ?_⟩⟩
  · rw [← timingBitmapModes_eq]
    exact timingLoop_eq
  · rw [← timingBitmapModes_eq]
    exact getTimingBitmapsModes_eq
  · rw [← additionalModesAt_eq]
    exact additionalLoop_eq (additionalHeader_eq_some_iff.mp hfirst).2.2.1
  · rw [← additionalModesAt_eq, getAdditionalStandardDisplayModes_eq, additionalStandardModes,
      ← additionalHeader, hfirst]
    rfl

/-- An EDID with an additional-timing descriptor in its first slot, without any timings. -/
def noTimingsEdid : Edid := fun i =>
  (([0x00, 0xFF, 0xFF, 0xFF, 0xFF, 0xFF, 0xFF, 0x00] ++ List.replicate 49 0 ++ [0xF7] ++
    List.replicate 69 0 ++ [0x0F] : List UInt8)).getD i 0

example : noTimingsEdid.Accepted := ⟨by decide +kernel, by decide +kernel, by decide +kernel⟩

/-- The second index is not at the last row in the end. -/
theorem not_bitmaps_select_last : ¬ ∀ edid out, BitmapsSelect edid out
    (timingBitmapModelistSize - 1) (additionalStandardTimingModelistSize - 1) := by
  intro hclaim
  have hfirst : additionalHeader noTimingsEdid = some 54 := by decide +kernel
  obtain ⟨out', hselects⟩ := (hclaim noTimingsEdid OutputModelist.empty).additional 54 hfirst
  have hindex := congrArg Logged.result
    ((additionalLoop_eq (by decide)).symm.trans hselects.bytes)
  cases hindex

end EdidParser

end VirtDisplay
