/-
# What the checked parser returns

Every pass of the checked parser returns, and what it returns is the list it was given with
the modes of its section pushed onto it. So no input makes the parser fault, and the list it
leaves is the one that the sections describe.

The walk through the CEA extension leaves the marks of the headers it comes to and of the
codes of the video block that ends it.
-/

import VirtDisplay.Edid.Program
import VirtDisplay.Edid.Sections

namespace VirtDisplay

namespace EdidParser

open Checked

/-- What `add_mode` does to the list. -/
def OutputModelist.push (out : OutputModelist) (mode : EdidMode) : OutputModelist :=
  if h : out.modelistSize < outputModelistSize then
    ⟨out.modelist.set out.modelistSize mode h, out.modelistSize + 1⟩
  else out

/-- Push several modes. -/
def OutputModelist.pushAll (out : OutputModelist) (new : List EdidMode) : OutputModelist :=
  new.foldl OutputModelist.push out

section

variable (out : OutputModelist) (mode : EdidMode) (new new' : List EdidMode)

@[simp]
theorem OutputModelist.pushAll_nil : out.pushAll [] = out := rfl

theorem OutputModelist.pushAll_append :
    out.pushAll (new ++ new') = (out.pushAll new).pushAll new' := List.foldl_append

theorem append_eq : append out mode = pure (out.push mode) := by
  rw [append, addMode, OutputModelist.push]
  by_cases hroom : out.modelistSize < outputModelistSize
  · rw [if_neg (Nat.not_le.mpr hroom), dif_pos hroom]
    simp only [store_of_lt hroom, Logged.ok_bind]
    rw [uint_of_lt (Nat.lt_of_le_of_lt hroom (by decide))]
    rfl
  · rw [if_pos (Nat.not_lt.mp hroom), dif_neg hroom]
    rfl

variable {out}

theorem OutputModelist.length_modes (hsize : out.modelistSize ≤ outputModelistSize) :
    out.modes.length = out.modelistSize := by
  rw [OutputModelist.modes, List.length_take, Vector.length_toList, Nat.min_eq_left hsize]

/-- A list with room takes the mode as its next entry. -/
theorem OutputModelist.modes_push (hsize : out.modelistSize ≤ outputModelistSize) :
    (out.push mode).modes = VirtDisplay.addMode out.modes mode := by
  rw [OutputModelist.push, VirtDisplay.addMode, OutputModelist.length_modes hsize]
  by_cases hroom : out.modelistSize < outputModelistSize
  · rw [dif_pos hroom, if_neg (Nat.not_le.mpr hroom)]
    dsimp only [OutputModelist.modes]
    rw [Vector.toList_set, List.take_add_one, List.take_set_of_le (Nat.le_refl _),
      List.getElem?_set_self (by rw [Vector.length_toList]; exact hroom)]
    rfl
  · rw [dif_neg hroom, if_pos (Nat.not_lt.mp hroom)]

theorem OutputModelist.size_push_le (hsize : out.modelistSize ≤ outputModelistSize) :
    (out.push mode).modelistSize ≤ outputModelistSize := by
  unfold OutputModelist.push
  split
  next hroom => exact hroom
  next => exact hsize

theorem OutputModelist.size_pushAll_le (hsize : out.modelistSize ≤ outputModelistSize) :
    (out.pushAll new).modelistSize ≤ outputModelistSize := by
  induction new generalizing out with
  | nil => exact hsize
  | cons mode new ih => exact ih (OutputModelist.size_push_le mode hsize)

theorem OutputModelist.modes_pushAll (hsize : out.modelistSize ≤ outputModelistSize) :
    (out.pushAll new).modes = new.foldl VirtDisplay.addMode out.modes := by
  induction new generalizing out with
  | nil => rfl
  | cons mode new ih =>
      rw [List.foldl_cons, ← OutputModelist.modes_push mode hsize]
      exact ih (OutputModelist.size_push_le mode hsize)

/-- A list takes as many of the modes as fit, and none if it says that it is too long. -/
theorem OutputModelist.modes_pushAll_eq_take (out : OutputModelist) (new : List EdidMode) :
    (out.pushAll new).modes = (out.modes ++ new).take outputModelistSize := by
  by_cases hsize : out.modelistSize ≤ outputModelistSize
  · rw [OutputModelist.modes_pushAll new hsize,
      foldl_addMode new ((OutputModelist.length_modes hsize).trans_le hsize)]
  · have hkept : out.pushAll new = out :=
      List.foldl_fixed' (fun mode => dif_neg fun hroom => hsize (Nat.le_of_lt hroom)) new
    have hlength : out.modes.length = outputModelistSize := by
      rw [OutputModelist.modes, List.length_take, Vector.length_toList,
        Nat.min_eq_right (Nat.le_of_not_le hsize)]
    rw [hkept, List.take_append_of_le_length hlength.ge, List.take_of_length_le hlength.le]

end

section

variable (edid : Edid)

theorem readByte_of_lt {i : Nat} (h : i < edidSize) : readByte edid i = pure (edid.byte i) := by
  rw [readByte, Edid.byte, dif_pos h, dif_pos h]

theorem readBytes_of_le {i count : Nat} (h : i + count ≤ edidSize) :
    readBytes edid i count = pure ((List.range' i count).map edid.byte) := by
  induction count generalizing i with
  | zero => rfl
  | succ count ih =>
      rw [readBytes, readByte_of_lt edid (by omega), Logged.ok_bind, ih (by omega),
        List.range'_succ, List.map_cons]
      rfl

end

/-- Byte strings of one length are compared for equality. -/
theorem memcmp_eq_zero_iff {bytes header : List Nat} (hlength : bytes.length = header.length) :
    memcmp bytes header = 0 ↔ bytes = header := by
  induction bytes generalizing header with
  | nil =>
      obtain rfl := List.length_eq_zero_iff.mp hlength.symm
      exact ⟨fun _ => rfl, fun _ => rfl⟩
  | cons b bytes ih =>
      cases header with
      | nil => exact absurd hlength (Nat.succ_ne_zero _)
      | cons h header =>
          rw [memcmp, List.cons.injEq]
          split
          next heq => rw [ih (Nat.succ.inj hlength), and_iff_right heq]
          next hne =>
            refine ⟨fun hzero => ?_, fun heq => absurd heq.1 hne⟩
            split at hzero <;> exact absurd hzero (by decide)

section

variable {table : List EdidMode} {size first byte : Nat} {out : OutputModelist}

/-- The row of a bit that is set. -/
theorem appendRow_eq (h : first < table.length) :
    appendRow table byte first out =
      pure (out.pushAll (if byte &&& 1 = 1 then [table.getD first default] else [])) := by
  unfold appendRow
  split
  next =>
    rw [fetch_of_lt h, Logged.ok_bind, append_eq, List.getD_eq_getElem _ _ h]
    rfl
  next => rfl

theorem nextRow_eq (hfit : size < 2 ^ 31) (h : first < size) :
    nextRow size first = pure (first + 1) := by
  rw [nextRow, if_pos (by omega), int_of_lt (by omega)]

/-- One more bit. -/
theorem bitRows_append (bits : Nat) (h : first + bits < table.length) :
    bitRows table first byte (bits + 1) = bitRows table first byte bits ++
      (if byte >>> bits &&& 1 = 1 then [table.getD (first + bits) default] else []) := by
  have hbit : byte >>> bits &&& 1 = 1 ↔ byte.testBit bits = true := by
    rw [and_one_eq_one_iff, Nat.testBit_shiftRight, Nat.add_zero]
  rw [bitRows, List.range_succ, List.filterMap_append, ← bitRows, List.filterMap_cons,
    List.getElem?_eq_getElem h, List.getD_eq_getElem _ _ h]
  by_cases hset : byte.testBit bits = true
  · rw [if_pos hset, if_pos (hbit.mpr hset)]
    rfl
  · rw [if_neg hset, if_neg fun h => hset (hbit.mp h)]
    rfl

/-- The walk after some bits. -/
def bitWalk (table : List EdidMode) (first byte : Nat) (out : OutputModelist) (bits : Nat) :
    BitWalk :=
  ⟨byte >>> bits, first + bits, out.pushAll (bitRows table first byte bits)⟩

theorem bitWalk_succ (bits : Nat) (h : first + bits < table.length) :
    bitWalk table first byte out (bits + 1) =
      ⟨byte >>> bits >>> 1, first + bits + 1, (out.pushAll (bitRows table first byte bits)).pushAll
        (if byte >>> bits &&& 1 = 1 then [table.getD (first + bits) default] else [])⟩ := by
  rw [bitWalk, bitRows_append bits h, OutputModelist.pushAll_append, Nat.shiftRight_add,
    Nat.add_assoc]

variable {s : BitWalk}

theorem bitRound_eq (htable : size ≤ table.length) (hfit : size < 2 ^ 31)
    (h : s.lookup + 1 < size) (bit : Nat) : bitRound table size bit s =
      pure (.next ⟨s.byte >>> 1, s.lookup + 1,
        s.out.pushAll (if s.byte &&& 1 = 1 then [table.getD s.lookup default] else [])⟩) := by
  rw [bitRound, appendRow_eq (by omega), Logged.ok_bind, nextRow_eq hfit (by omega),
    Logged.ok_bind, if_neg (by omega)]

theorem upperBitRound_eq (htable : size ≤ table.length) (hfit : size < 2 ^ 31)
    (h : s.lookup < size) (bit : Nat) : upperBitRound table size bit s =
      pure (.next ⟨s.byte >>> 1, s.lookup + 1,
        s.out.pushAll (if s.byte &&& 1 = 1 then [table.getD s.lookup default] else [])⟩) := by
  rw [upperBitRound, if_neg (show ¬ s.lookup > size - 1 by omega), appendRow_eq (by omega),
    Logged.ok_bind, nextRow_eq hfit h, Logged.ok_bind]

/-- A walk of eight bits that ends before the table does. -/
theorem wholeByte_eq (htable : size ≤ table.length) (hfit : size < 2 ^ 31)
    (hfirst : first + 8 < size) :
    forLoop (fun bit => decide (bit ≤ 7)) 1 (bitRound table size) edidSize 0 ⟨byte, first, out⟩ =
      pure (bitWalk table first byte out 8) := by
  refine forLoop_pure (bitWalk table first byte out) 8
    (fun k hk => decide_eq_true (by omega)) (fun k hk => ?_) rfl (by decide) (by decide)
  rw [bitWalk_succ k (by omega)]
  exact bitRound_eq htable hfit (show first + k + 1 < size by omega) _

/-- A walk of the four bits of an upper half. -/
theorem upperHalf_eq (htable : size ≤ table.length) (hfit : size < 2 ^ 31)
    (hfirst : first + 4 ≤ size) :
    forLoop (fun bit => decide (bit ≤ 7)) 1 (upperBitRound table size) edidSize 4
      ⟨byte, first, out⟩ = pure (bitWalk table first byte out 4) := by
  refine forLoop_pure (bitWalk table first byte out) 4
    (fun k hk => decide_eq_true (by omega)) (fun k hk => ?_) rfl (by decide) (by decide)
  rw [bitWalk_succ k (by omega)]
  exact upperBitRound_eq htable hfit (show first + k < size by omega) _

end

section

variable (edid : Edid)

theorem sum_bytes_le (start count : Nat) :
    ((List.range' start count).map edid.byte).sum ≤ 255 * count := by
  induction count generalizing start with
  | zero => exact Nat.le_refl 0
  | succ count ih =>
      have hbyte := edid.byte_lt start
      have hrest := ih (start + 1)
      rw [List.range'_succ, List.map_cons, List.sum_cons]
      omega

/-- A loop that sums `count` bytes. -/
theorem checksumLoop_eq (continues : Nat → Bool) (start count : Nat) {chksum : Nat}
    (hend : start + count ≤ edidSize) (hcount : count < edidSize) (hchksum : chksum < edidSize)
    (hgo : ∀ k < count, continues (start + k) = true)
    (hstop : continues (start + count) = false) :
    forLoop continues 1 (checksumRound edid) edidSize start chksum =
      pure (chksum + ((List.range' start count).map edid.byte).sum) := by
  have hint : edidSize < 2 ^ 31 := by decide
  refine forLoop_pure (fun k => chksum + ((List.range' start k).map edid.byte).sum) count
    (fun k hk => by rw [Nat.mul_one]; exact hgo k hk) (fun k hk => ?_)
    (by rw [Nat.mul_one]; exact hstop) (by omega) hcount
  have hsum := sum_bytes_le edid start (k + 1)
  rw [List.range'_1_concat, List.map_append, List.sum_append, List.map_singleton,
    List.sum_singleton] at hsum ⊢
  have hlt : chksum + ((List.range' start k).map edid.byte).sum + edid.byte (start + k) <
      2 ^ 31 := by
    have : edidSize = 256 := rfl
    omega
  rw [Nat.mul_one, checksumRound, readByte_of_lt edid (by omega), Logged.ok_bind, int_of_lt hlt,
    Logged.ok_bind, Nat.add_assoc]

theorem validateEdidChecksum_eq :
    validateEdidChecksum edid = pure (VirtDisplay.validateEdidChecksum edid) := by
  have hfirst := checksumLoop_eq edid (fun index => decide (index ≤ 127)) 0 128 (by decide)
    (by decide) (show 0 < 256 by decide) (fun k hk => decide_eq_true (by omega)) rfl
  have hsecond := checksumLoop_eq edid (fun index => decide (index < edidSize)) 128 128 (by decide)
    (by decide) (Nat.mod_lt (((List.range 128).map edid.byte).sum) (by decide))
    (fun k hk => decide_eq_true (show 128 + k < 256 by omega)) rfl
  rw [Nat.zero_add, ← List.range_eq_range'] at hfirst
  rw [validateEdidChecksum, hfirst, Logged.ok_bind, hsecond, VirtDisplay.validateEdidChecksum]
  dsimp only
  split
  next => rfl
  next =>
    rw [Logged.ok_bind]
    split <;> rfl

theorem validateEdidHeader_eq : ∃ result, validateEdidHeader edid = pure result ∧
    (result = 0 ↔ VirtDisplay.validateEdidHeader edid = 0) := by
  refine ⟨memcmp ((List.range' 0 8).map edid.byte) edidHeader, ?_, ?_⟩
  · rw [validateEdidHeader, readBytes_of_le edid (by decide), Logged.ok_bind]
  · rw [memcmp_eq_zero_iff (by rw [List.length_map]; rfl), validateEdidHeader_eq_zero_iff,
      List.range_eq_range']

end

/-! ## Passes -/

section

variable {edid : Edid} {out : OutputModelist} {continues : Nat → Bool}
  {body : Nat → OutputModelist → Checked Use (Turn OutputModelist)} {start stride fuel : Nat}

/-- A loop whose rounds push modes that do not depend on the list. -/
theorem pushLoop_eq (rows : Nat → List EdidMode) (logs : Nat → List Use) (n : Nat)
    (hgo : ∀ k < n, continues (start + k * stride) = true)
    (hround : ∀ k < n, ∀ out, body (start + k * stride) out =
      ⟨logs k, .ok (.next (out.pushAll (rows k)))⟩)
    (hstop : continues (start + n * stride) = false) (hfit : start + n * stride < 2 ^ 31)
    (hfuel : n < fuel) :
    forLoop continues stride body fuel start out =
      ⟨(List.range n).flatMap logs, .ok (out.pushAll ((List.range n).flatMap rows))⟩ := by
  refine forLoop_eq (fun k => out.pushAll ((List.range k).flatMap rows)) logs n hgo
    (fun k hk => ?_) hstop hfit hfuel
  rw [hround k hk, List.range_succ, List.flatMap_append, List.flatMap_singleton,
    OutputModelist.pushAll_append]

/-- A loop of unmarked rounds that each push their rows pushes the rows of all of them. -/
theorem pushLoop_pure (rows : Nat → List EdidMode) (n : Nat)
    (hgo : ∀ k < n, continues (start + k * stride) = true)
    (hround : ∀ k < n, ∀ out, body (start + k * stride) out = pure (.next (out.pushAll (rows k))))
    (hstop : continues (start + n * stride) = false) (hfit : start + n * stride < 2 ^ 31)
    (hfuel : n < fuel) :
    forLoop continues stride body fuel start out =
      pure (out.pushAll ((List.range n).flatMap rows)) := by
  rw [pushLoop_eq rows (fun _ => []) n hgo hround hstop hfit hfuel, flatMap_nil_marks]
  rfl

/-- A code in use has one mode, which the width and the aspect ratio determine. -/
theorem standardRound_eq {index : Nat} (h : index + 1 < edidSize) :
    standardRound edid index out = pure (.next (out.pushAll (standardMode edid index).toList)) := by
  have hfirst := edid.byte_lt index
  have hsecond := edid.byte_lt (index + 1)
  have hint : edidSize < 2 ^ 31 := by decide
  rw [standardRound, readByte_of_lt edid (by omega), Logged.ok_bind, int_of_lt (by omega),
    Logged.ok_bind, readByte_of_lt edid h, Logged.ok_bind, standardMode]
  split
  next => rfl
  next =>
    have hheight : ∀ a b refresh, a ≤ 10 → b ≠ 0 →
        (do return .next (← append out ⟨(edid.byte index + 31) * 8,
          ← quotient (← int ((edid.byte index + 31) * 8 * a)) b, refresh⟩)) =
          (pure (.next (out.push ⟨(edid.byte index + 31) * 8,
            (edid.byte index + 31) * 8 * a / b, refresh⟩)) :
              Checked Use (Turn OutputModelist)) := by
      intro a b refresh ha hb
      have hwidth : (edid.byte index + 31) * 8 * a ≤ 286 * 8 * 10 :=
        Nat.mul_le_mul (by omega) ha
      rw [int_of_lt (by omega), Logged.ok_bind, quotient_of_ne hb, Logged.ok_bind, append_eq,
        Logged.ok_bind]
    rw [int_of_lt (by omega), Logged.ok_bind, int_of_lt (by omega), Logged.ok_bind]
    generalize edid.byte (index + 1) >>> 6 = aspectRatio
    match aspectRatio with
    | 0 => exact hheight 10 16 _ (by decide) (by decide)
    | 1 => exact hheight 3 4 _ (by decide) (by decide)
    | 2 => exact hheight 4 5 _ (by decide) (by decide)
    | 3 => exact hheight 9 16 _ (by decide) (by decide)
    | _ + 4 => rfl

theorem getStandardModes_eq :
    getStandardModes edid out = pure (out.pushAll (standardModes edid)) := by
  rw [getStandardModes, pushLoop_pure (fun k => (standardMode edid (38 + 2 * k)).toList) 8
    (fun k hk => decide_eq_true (by omega)) (fun k hk out => ?_) rfl (by decide) (by decide),
    standardModes, List.filterMap_eq_flatMap_toList]
  rw [standardRound_eq (show 38 + k * 2 + 1 < 256 by omega), Nat.mul_comm k 2]

/-- A loop whose state is a row number and the list. -/
theorem rowsLoop_eq {Event : Type}
    {body : Nat → Nat × OutputModelist → Checked Event (Turn (Nat × OutputModelist))}
    (rows : Nat → List EdidMode) (lookups : Nat → Nat) (logs : Nat → List Event) (n : Nat)
    (hgo : ∀ k < n, continues (start + k * stride) = true)
    (hround : ∀ k < n, ∀ out, body (start + k * stride) (lookups k, out) =
      ⟨logs k, .ok (.next (lookups (k + 1), out.pushAll (rows k)))⟩)
    (hstop : continues (start + n * stride) = false) (hfit : start + n * stride < 2 ^ 31)
    (hfuel : n < fuel) :
    forLoop continues stride body fuel start (lookups 0, out) =
      ⟨(List.range n).flatMap logs,
        .ok (lookups n, out.pushAll ((List.range n).flatMap rows))⟩ := by
  refine forLoop_eq (fun k => (lookups k, out.pushAll ((List.range k).flatMap rows))) logs n
    hgo (fun k hk => ?_) hstop hfit hfuel
  rw [hround k hk, List.range_succ, List.flatMap_append, List.flatMap_singleton,
    OutputModelist.pushAll_append]

/-- A loop of unmarked rounds that carry an index along pushes the rows of all of them. -/
theorem rowsLoop_pure
    {body : Nat → Nat × OutputModelist → Checked Use (Turn (Nat × OutputModelist))}
    (rows : Nat → List EdidMode) (lookups : Nat → Nat) (n : Nat)
    (hgo : ∀ k < n, continues (start + k * stride) = true)
    (hround : ∀ k < n, ∀ out, body (start + k * stride) (lookups k, out) =
      pure (.next (lookups (k + 1), out.pushAll (rows k))))
    (hstop : continues (start + n * stride) = false) (hfit : start + n * stride < 2 ^ 31)
    (hfuel : n < fuel) :
    forLoop continues stride body fuel start (lookups 0, out) =
      pure (lookups n, out.pushAll ((List.range n).flatMap rows)) := by
  rw [rowsLoop_eq rows lookups (fun _ => []) n hgo hround hstop hfit hfuel, flatMap_nil_marks]
  rfl

/-- The last byte of the established timings leaves the row number as it is. -/
theorem timingRound_eq {k : Nat} (hk : k < 3) :
    timingRound edid (35 + k * 1) (min (8 * k) 16, out) =
      pure (.next (min (8 * (k + 1)) 16, out.pushAll (timingRows edid k))) := by
  have hsize : edidSize = 256 := rfl
  rw [timingRound, if_neg (show ¬ min (8 * k) 16 > 17 - 1 by omega),
    readByte_of_lt edid (by omega), Logged.ok_bind, Nat.mul_one, timingRows]
  by_cases hwhole : k < 2
  · rw [if_pos (by omega), wholeByte_eq (by decide) (by decide)
      (show min (8 * k) 16 + 8 < 17 by omega), if_pos hwhole, Nat.min_eq_left (by omega),
      Nat.min_eq_left (by omega)]
    rfl
  · obtain rfl : k = 2 := by omega
    have hrow : bitRows timingBitmapModelist 16 (edid.byte (35 + 2) >>> 7) 1 =
        if edid.byte (35 + 2) >>> 7 &&& 1 = 1 then [timingBitmapModelist.getD 16 default] else [] :=
      bitRows_append 0 (by decide)
    rw [if_neg (show ¬ 35 + 2 < 37 by decide), if_neg hwhole, hrow]
    exact congrArg (· >>= _) (appendRow_eq (show 16 < timingBitmapModelist.length by decide))

theorem timingLoop_eq :
    forLoop (fun i => decide (i ≤ 37)) 1 (timingRound edid) edidSize 35 (0, out) =
      pure (16, out.pushAll (timingBitmapModes edid)) :=
  rowsLoop_pure (timingRows edid) (fun k => min (8 * k) 16) 3
    (fun k hk => decide_eq_true (by omega)) (fun k hk out => timingRound_eq hk) rfl (by decide)
    (by decide)

theorem getTimingBitmapsModes_eq :
    getTimingBitmapsModes edid out = pure (out.pushAll (timingBitmapModes edid)) := by
  rw [getTimingBitmapsModes]
  exact congrArg (· >>= _) timingLoop_eq

theorem additionalRound_eq {i k : Nat} (hi : i < 126) (hk : k < 6) :
    additionalRound edid (i + 6) (i + 6 + k * 1) (min (8 * k) 44, out) =
      pure (.next (min (8 * (k + 1)) 44, out.pushAll (additionalRows edid i k))) := by
  have hsize : edidSize = 256 := rfl
  rw [additionalRound, if_neg (show ¬ min (8 * k) 44 > 44 - 1 by omega),
    readByte_of_lt edid (by omega), Logged.ok_bind, int_of_lt (by omega), Logged.ok_bind,
    Nat.mul_one, additionalRows]
  by_cases hwhole : k < 5
  · rw [if_pos (by omega), wholeByte_eq (by decide) (by decide)
      (show min (8 * k) 44 + 8 < 44 by omega), if_pos hwhole, Nat.min_eq_left (by omega),
      Nat.min_eq_left (by omega)]
    rfl
  · obtain rfl : k = 5 := by omega
    rw [if_neg (by omega), if_neg hwhole, upperHalf_eq (by decide) (by decide)
      (show min (8 * 5) 44 + 4 ≤ 44 by decide)]
    rfl

theorem additionalLoop_eq {i : Nat} (hi : i < 126) :
    forLoop (fun index => decide (index ≤ i + 6 + 5)) 1 (additionalRound edid (i + 6)) edidSize
      (i + 6) (0, out) = pure (44, out.pushAll (additionalModesAt edid i)) :=
  rowsLoop_pure (additionalRows edid i) (fun k => min (8 * k) 44) 6
    (fun k hk => decide_eq_true (by omega)) (fun k hk out => additionalRound_eq hi hk)
    (decide_eq_false (by omega)) (by omega) (by decide)

theorem memcmp_header_iff {i : Nat} :
    memcmp ((List.range' i 5).map edid.byte) [0x00, 0x00, 0x00, 0xf7, 0x00] = 0 ↔
      isAdditionalStandardHeader edid i = true := by
  rw [memcmp_eq_zero_iff (by rw [List.length_map]; rfl), isAdditionalStandardHeader, beq_iff_eq]

theorem descriptorRound_eq {i : Nat} (hi : i < 126) : descriptorRound edid i out =
    if isAdditionalStandardHeader edid i then
      ⟨[], .ok (.leave (out.pushAll (additionalModesAt edid i)))⟩
    else pure (.next out) := by
  have hsize : edidSize = 256 := rfl
  rw [descriptorRound, readBytes_of_le edid (by omega), Logged.ok_bind]
  refine if_congr memcmp_header_iff ?_ rfl
  rw [int_of_lt (by omega), Logged.ok_bind, int_of_lt (by omega), Logged.ok_bind,
    additionalLoop_eq hi]
  rfl

/-- The search leaves at the first header. -/
theorem getAdditionalStandardDisplayModes_eq : getAdditionalStandardDisplayModes edid out =
    pure (out.pushAll (additionalStandardModes edid)) := by
  rw [getAdditionalStandardDisplayModes, additionalStandardModes,
    forLoop_find (fun _ => []) (fun i => out.pushAll (additionalModesAt edid i)) 72
      (fun k hk => decide_eq_true (by omega)) (fun k hk => descriptorRound_eq (by omega)) rfl
      (by decide) (by decide)]
  cases (List.range' 54 72).find? (isAdditionalStandardHeader edid) with
  | none => rfl
  | some i => rfl

theorem shiftedSum_eq {high low : Nat} (hhigh : high < 256) (hlow : low < 256) :
    shiftedSum high low = pure (high <<< 8 + low) ∧ high <<< 8 + low < (high + 1) * 256 := by
  have hshift : high <<< 8 = high * 256 := Nat.shiftLeft_eq high 8
  refine ⟨?_, by omega⟩
  rw [shiftedSum, int_of_lt (by omega), Logged.ok_bind, int_of_lt (by omega)]

/-- The total of a descriptor, active and blank, stays below 2 ^ 13. -/
theorem detailedRound_eq {i : Nat} (h : i + 8 ≤ edidSize) :
    detailedRound edid i out = pure (.next (out.pushAll (detailedMode edid i).toList)) := by
  have hread : ∀ k, k < 8 → readByte edid (i + k) = pure (edid.byte (i + k)) :=
    fun k hk => readByte_of_lt edid (by omega)
  have hsum : ∀ high k, high < 16 → shiftedSum high (edid.byte (i + k)) =
      pure (high <<< 8 + edid.byte (i + k)) ∧ high <<< 8 + edid.byte (i + k) < 4096 := by
    intro high k hhigh
    obtain ⟨heq, hlt⟩ := shiftedSum_eq (show high < 256 by omega) (edid.byte_lt (i + k))
    exact ⟨heq, by omega⟩
  have hupper : ∀ k, edid.byte (i + k) >>> 4 < 16 := by
    intro k
    have := edid.byte_lt (i + k)
    rw [Nat.shiftRight_eq_div_pow]
    omega
  have hlower : ∀ k, edid.byte (i + k) &&& 15 < 16 := fun k =>
    Nat.lt_succ_of_le Nat.and_le_right
  have hheader : memcmp ((List.range' i 2).map edid.byte) [0x00, 0x00] ≠ 0 ↔
      ¬ (edid.byte i = 0 ∧ edid.byte (i + 1) = 0) := by
    rw [ne_eq, memcmp_eq_zero_iff (by rw [List.length_map]; rfl)]
    simp only [List.range'_succ, List.map_cons, List.range'_zero, List.map_nil, List.cons.injEq,
      and_true]
  rw [detailedRound, readBytes_of_le edid (by omega), Logged.ok_bind, detailedMode]
  by_cases hdisplay : edid.byte i = 0 ∧ edid.byte (i + 1) = 0
  · rw [if_neg fun h => hheader.mp h hdisplay, if_pos hdisplay]
    rfl
  · obtain ⟨hclk, hclkLt⟩ := shiftedSum_eq (edid.byte_lt (i + 1)) (edid.byte_lt i)
    obtain ⟨hhActive, hhActiveLt⟩ := hsum _ 2 (hupper 4)
    obtain ⟨hvActive, hvActiveLt⟩ := hsum _ 5 (hupper 7)
    obtain ⟨hhBlank, hhBlankLt⟩ := hsum _ 3 (hlower 4)
    obtain ⟨hvBlank, hvBlankLt⟩ := hsum _ 6 (hlower 7)
    have hbyte := edid.byte_lt (i + 1)
    rw [if_pos (hheader.mpr hdisplay), if_neg hdisplay]
    rw [hread 1 (by decide), Logged.ok_bind, readByte_of_lt edid (show i < edidSize by omega),
      Logged.ok_bind, hclk, Logged.ok_bind, int_of_lt (by omega), Logged.ok_bind]
    rw [hread 4 (by decide), Logged.ok_bind, hread 2 (by decide), Logged.ok_bind, hhActive,
      Logged.ok_bind]
    rw [hread 7 (by decide), Logged.ok_bind, hread 5 (by decide), Logged.ok_bind, hvActive,
      Logged.ok_bind]
    rw [Logged.ok_bind, hread 3 (by decide), Logged.ok_bind, hhBlank, Logged.ok_bind]
    rw [Logged.ok_bind, hread 6 (by decide), Logged.ok_bind, hvBlank, Logged.ok_bind]
    rw [uint_of_lt (by omega), Logged.ok_bind, uint_of_lt (by omega), Logged.ok_bind]
    dsimp only
    split
    next htotal =>
      have hproduct := Nat.mul_lt_mul'' (Nat.add_lt_add hhActiveLt hhBlankLt)
        (Nat.add_lt_add hvActiveLt hvBlankLt)
      rw [uint_of_lt (Nat.lt_trans hproduct (by decide)), Logged.ok_bind,
        quotient_of_ne (Nat.mul_ne_zero htotal.1 htotal.2), Logged.ok_bind, append_eq,
        Logged.ok_bind, Nat.add_comm (_ <<< 8) (edid.byte i)]
      rfl
    next => rfl

theorem getDetailedTimingDescriptorModes_eq : getDetailedTimingDescriptorModes edid out =
    pure (out.pushAll (detailedModes edid)) := by
  rw [getDetailedTimingDescriptorModes,
    pushLoop_pure (fun k => (detailedMode edid (54 + k * 18)).toList) 4
      (fun k hk => decide_eq_true (by omega)) (fun k hk out => ?_) rfl (by decide) (by decide),
    detailedModes, List.filterMap_eq_flatMap_toList]
  · rfl
  · exact detailedRound_eq (show 54 + k * 18 + 8 ≤ 256 by omega)

theorem readVic_eq {i : Nat} (h : i < edidSize) : readVic edid i =
    pure (if edid.byte i &&& 0x7F > 64 then edid.byte i else edid.byte i &&& 0x7F) := by
  rw [readVic, readByte_of_lt edid h, Logged.ok_bind]
  split <;> rfl

/-- The rows with numbers below the table's length. -/
theorem appendCeaRow_eq (idx : Nat) : appendCeaRow out idx =
    pure (out.pushAll (((if idx < ceaModelistSize then some idx else none).map
      fun row => ceaModelist.getD row default)).toList) := by
  rw [appendCeaRow]
  split
  next h =>
    have hrow : idx < ceaModelist.length := h
    rw [fetch_of_lt hrow, Logged.ok_bind, append_eq, Option.map_some, List.getD_eq_getElem _ _ hrow]
    rfl
  next => rfl

theorem codeRound_eq {i : Nat} (h : i < edidSize) : codeRound edid i out =
    ⟨[.code i], .ok (.next (out.pushAll ((vicRow (edid.byte i)).map
      fun row => ceaModelist.getD row default).toList))⟩ := by
  rw [codeRound, Logged.bind_of_ok (Logged.emit_result _), readVic_eq h, Logged.ok_bind, vicRow]
  generalize (if edid.byte i &&& 0x7F > 64 then edid.byte i else edid.byte i &&& 0x7F) = vicNumber
  by_cases hzero : vicNumber = 0
  · rw [if_pos hzero, if_pos hzero]
    rfl
  · rw [if_neg hzero, if_neg hzero]
    by_cases hfirst : vicNumber ≥ 1 ∧ vicNumber ≤ 127
    · rw [if_pos hfirst, if_pos hfirst, minus_of_le hfirst.1, Logged.ok_bind, appendCeaRow_eq]
      rfl
    · rw [if_neg hfirst, if_neg hfirst]
      by_cases hsecond : vicNumber ≥ 193
      · rw [if_pos hsecond, if_pos hsecond, minus_of_le (by omega), Logged.ok_bind,
          appendCeaRow_eq]
        rfl
      · rw [if_neg hsecond, if_neg hsecond]
        rfl

theorem videoBlockEnd_lt (edid : Edid) {start : Nat} (h : start < edidSize) :
    start ≤ videoBlockEnd edid start ∧ videoBlockEnd edid start < edidSize := by
  unfold videoBlockEnd
  split <;> omega

/-- A video block is read to its end. -/
theorem codeLoop_eq (edid : Edid) (out : OutputModelist) {start : Nat} (h : start < edidSize) :
    forLoop (fun i => decide (i ≤ videoBlockEnd edid start)) 1 (codeRound edid) edidSize
      (start + 1) out = ⟨(codePositions edid start).map .code,
        .ok (out.pushAll (videoBlockModes edid start))⟩ := by
  obtain ⟨hle, hlt⟩ := videoBlockEnd_lt edid h
  have hint : edidSize < 2 ^ 31 := by decide
  rw [pushLoop_eq (fun k => ((vicRow (edid.byte (start + 1 + k))).map
      fun row => ceaModelist.getD row default).toList) (fun k => [.code (start + 1 + k)])
    (videoBlockEnd edid start - start) (fun k hk => decide_eq_true (by omega))
    (fun k hk out => ?_) (decide_eq_false (by omega)) (by omega) (by omega)]
  · congr 2
    · rw [codePositions, List.range'_eq_map_range, List.map_map, ← List.map_eq_flatMap]
      rfl
    · rw [videoBlockModes, List.range'_eq_map_range, List.filterMap_map,
        List.filterMap_eq_flatMap_toList]
      rfl
  · rw [Nat.mul_one, codeRound_eq (by omega)]

theorem ceaRound_eq (edid : Edid) (out : OutputModelist) {start : Nat} (h : start < edidSize) :
    ceaRound edid (start, out) =
    if (edid.byte start &&& 0xE0) >>> 5 = 2 then
      ⟨.header start :: (codePositions edid start).map .code,
        .ok (.leave (start, out.pushAll (videoBlockModes edid start)))⟩
    else ⟨[.header start], .ok (.next (start + (edid.byte start &&& 0x1F) + 1, out))⟩ := by
  have hint : edidSize + 64 < 2 ^ 31 := by decide
  have hlength : edid.byte start &&& 0x1F ≤ 0x1F := Nat.and_le_right
  rw [ceaRound, Logged.bind_of_ok (Logged.emit_result _), readByte_of_lt edid h, Logged.ok_bind]
  split
  next =>
    rw [int_of_lt (by omega), Logged.ok_bind, int_of_lt (by omega), Logged.ok_bind]
    have hloop := codeLoop_eq edid out h
    rw [videoBlockEnd] at hloop
    rw [hloop, Logged.mk_ok_bind, Logged.emit_log, Logged.pure_log, List.append_nil]
    rfl
  next =>
    rw [int_of_lt (by omega), Logged.ok_bind, int_of_lt (by omega), Logged.ok_bind]
    rfl

/-- What the walk takes the bytes it reads for. -/
def ceaUses (edid : Edid) (ceaEnd fuel start : Nat) : List Use :=
  (ceaHeaders edid ceaEnd fuel start).map .header ++
    (((ceaVideoBlock edid ceaEnd fuel start).map (codePositions edid)).getD []).map .code

/-- What the walk returns from `start` on. -/
def CeaReturns (edid : Edid) (out : OutputModelist) (ceaEnd fuel start : Nat) : Prop :=
  ∃ stop, loop (fun s => decide (s.1 < ceaEnd)) (ceaRound edid) fuel (start, out) =
    ⟨ceaUses edid ceaEnd fuel start, .ok (stop, out.pushAll
      (((ceaVideoBlock edid ceaEnd fuel start).map (videoBlockModes edid)).getD []))⟩

theorem CeaReturns.stop {ceaEnd fuel start : Nat} (hstop : ¬ start < ceaEnd) :
    CeaReturns edid out ceaEnd (fuel + 1) start := by
  have hloop : loop (fun s => decide (s.1 < ceaEnd)) (ceaRound edid) (fuel + 1) (start, out) =
      pure (start, out) := loop_stop (decide_eq_false hstop)
  refine ⟨start, ?_⟩
  rw [hloop, ceaUses, ceaHeaders, ceaVideoBlock, if_neg hstop, if_neg hstop]
  rfl

/-- The induction is on the fuel, which covers the bytes before the end: a round goes on by
one byte at least. -/
theorem ceaLoop_eq {ceaEnd fuel start : Nat} (hend : ceaEnd < edidSize)
    (hfuel : ceaEnd ≤ start + fuel) : CeaReturns edid out ceaEnd (fuel + 1) start := by
  induction fuel generalizing start with
  | zero => exact CeaReturns.stop (by omega)
  | succ fuel ih =>
      by_cases hgo : start < ceaEnd
      · have hround := ceaRound_eq edid out (show start < edidSize by omega)
        rw [CeaReturns, ceaUses, ceaHeaders, ceaVideoBlock, if_pos hgo, if_pos hgo]
        by_cases hvideo : (edid.byte start &&& 0xE0) >>> 5 = 2
        · rw [if_pos hvideo] at hround
          rw [if_pos hvideo, if_pos hvideo]
          exact ⟨start, loop_leave (decide_eq_true hgo) hround⟩
        · rw [if_neg hvideo] at hround
          rw [if_neg hvideo, if_neg hvideo]
          obtain ⟨stop, hrest⟩ := ih
            (show ceaEnd ≤ start + (edid.byte start &&& 0x1F) + 1 + fuel by omega)
          have hrounds : loop (fun s => decide (s.1 < ceaEnd)) (ceaRound edid) (fuel + 1 + 1)
              (start, out) = _ := loop_next (decide_eq_true hgo) hround
          refine ⟨stop, hrounds.trans ?_⟩
          rw [hrest]
          rfl
      · exact CeaReturns.stop hgo

theorem getCeaModes_eq : getCeaModes edid out =
    ⟨ceaUses edid (ceaEnd edid) edidSize 132, .ok (out.pushAll (ceaModes edid))⟩ := by
  have hbyte := edid.byte_lt 130
  obtain ⟨stop, hloop⟩ : CeaReturns edid out (ceaEnd edid) 256 132 :=
    ceaLoop_eq (ceaEnd_lt edid) (Nat.le_of_lt (Nat.lt_trans (ceaEnd_lt edid) (by decide)))
  rw [getCeaModes, readByte_of_lt edid (by decide), Logged.ok_bind, readByte_of_lt edid (by decide),
    Logged.ok_bind, int_of_lt (by omega), Logged.ok_bind]
  refine (congrArg (· >>= _) hloop).trans ?_
  rw [Logged.mk_ok_bind, Logged.pure_log, List.append_nil]
  rfl

end

variable (edid : Edid) (out : OutputModelist)

/-- The parser returns. It pushes nothing if it rejects the EDID, and all modes if it accepts
it. -/
theorem parseEdidData_eq : ∃ ret, (ret = 0 ↔ edid.Accepted) ∧ (parseEdidData edid out).result =
    .ok (ret, if ret = 0 then out.pushAll (describedModes edid) else out) := by
  obtain ⟨header, hheader, hheaderZero⟩ := validateEdidHeader_eq edid
  have hchecksum := validateEdidChecksum_eq edid
  rw [parseEdidData, hheader, Logged.ok_bind, hchecksum]
  by_cases hzero : header = 0
  · rw [if_neg (not_not.mpr hzero), Logged.ok_bind]
    by_cases hzero' : VirtDisplay.validateEdidChecksum edid = 0
    · refine ⟨0, ⟨fun _ => accepted_iff.mpr ⟨hheaderZero.mp hzero, hzero'⟩, fun _ => rfl⟩, ?_⟩
      rw [if_neg (not_not.mpr hzero'), getTimingBitmapsModes_eq, Logged.ok_bind,
        getStandardModes_eq, Logged.ok_bind, getCeaModes_eq, Logged.mk_ok_bind,
        getDetailedTimingDescriptorModes_eq, Logged.ok_bind, getAdditionalStandardDisplayModes_eq,
        Logged.ok_bind, if_pos rfl]
      simp only [describedModes, OutputModelist.pushAll_append]
      rfl
    · refine ⟨_, ⟨fun h => absurd h hzero', fun h => (accepted_iff.mp h).2⟩, ?_⟩
      rw [if_pos hzero', if_neg hzero']
      rfl
  · refine ⟨header, ⟨fun h => absurd h hzero, fun h => hheaderZero.mpr (accepted_iff.mp h).1⟩, ?_⟩
    rw [if_pos hzero, if_neg hzero]
    rfl

/-- No EDID, valid or malformed, makes the parser fault, whatever the list holds: it reads no
byte but the 256, no row but those of its three tables, writes no entry but the 32, divides by
nothing that is zero, stays within its integer types and comes to its end. -/
theorem parseEdidData_returns :
    timingBitmapModelist.length = 17 ∧ additionalStandardTimingModelist.length = 44 ∧
      ceaModelist.length = 154 ∧ ∀ (edid : Edid) (out : OutputModelist),
        ∃ ret out', (parseEdidData edid out).result = .ok (ret, out') := by
  refine ⟨rfl, rfl, rfl, fun edid out => ?_⟩
  obtain ⟨ret, -, hresult⟩ := parseEdidData_eq edid out
  exact ⟨ret, _, hresult⟩

variable {out}

/-- The parser accepts an EDID by its header and its two sums. It appends the sections of an
accepted one in order, as far as they fit, and nothing of any other. -/
theorem parseEdidData_appends (hsize : out.modelistSize ≤ outputModelistSize) :
    ∃ ret out', (parseEdidData edid out).result = .ok (ret, out') ∧
      (ret = 0 ↔ (List.range 8).map edid.byte = edidHeader ∧
        edid.blockSum 0 % 256 = 0 ∧ edid.blockSum 128 % 256 = 0) ∧
      (ret ≠ 0 → out' = out) ∧
      (ret = 0 → out'.modes = (out.modes ++ (timingBitmapModes edid ++ standardModes edid ++
          ceaModes edid ++ detailedModes edid ++ additionalStandardModes edid)).take 32 ∧
        out'.modelistSize = out'.modes.length) := by
  obtain ⟨ret, hret, hresult⟩ := parseEdidData_eq edid out
  refine ⟨ret, _, hresult, ?_, fun hne => if_neg hne, fun hzero => ?_⟩
  · rw [hret]
    exact ⟨fun h => ⟨h.header, h.first, h.second⟩, fun h => ⟨h.1, h.2.1, h.2.2⟩⟩
  · have hlength := OutputModelist.length_modes
      (OutputModelist.size_pushAll_le (describedModes edid) hsize)
    rw [if_pos hzero]
    refine ⟨?_, hlength.symm⟩
    rw [OutputModelist.modes_pushAll _ hsize, foldl_addMode _
      ((OutputModelist.length_modes hsize).trans_le hsize)]
    rfl

/-- A list with nothing in it. -/
def OutputModelist.empty : OutputModelist := ⟨Vector.replicate outputModelistSize default, 0⟩

/-- An EDID whose bit string names every established timing of its first byte. -/
def establishedEdid : Edid := fun i =>
  (([0x00, 0xFF, 0xFF, 0xFF, 0xFF, 0xFF, 0xFF, 0x00] ++ List.replicate 27 0 ++ [0xFF] ++
    List.replicate 91 0 ++ [0x07] : List UInt8)).getD i 0

/-- A list with room for two more entries. -/
def OutputModelist.nearlyFull : OutputModelist :=
  ⟨Vector.replicate outputModelistSize ⟨1920, 1080, 60⟩, 30⟩

/-- The parser accepts that EDID, and fills the list with the first two of its modes. -/
theorem parseEdidData_appends_nearlyFull :
    ∃ out', (parseEdidData establishedEdid .nearlyFull).result = .ok (0, out') ∧
      out'.modes = (OutputModelist.nearlyFull.modes ++ (timingBitmapModes establishedEdid ++
        standardModes establishedEdid ++ ceaModes establishedEdid ++
        detailedModes establishedEdid ++ additionalStandardModes establishedEdid)).take 32 ∧
      out'.modelistSize = out'.modes.length := by
  obtain ⟨ret, out', hresult, haccepted, -, happended⟩ := parseEdidData_appends establishedEdid
    (show OutputModelist.nearlyFull.modelistSize ≤ 32 by decide)
  have hzero : ret = 0 :=
    haccepted.mpr ⟨by decide +kernel, by decide +kernel, by decide +kernel⟩
  exact ⟨out', hzero ▸ hresult, happended hzero⟩

/-- The checked parser leaves the list that the unchecked one computes. -/
theorem parseEdidData_modes (hsize : out.modelistSize ≤ outputModelistSize) :
    ∃ ret out', (parseEdidData edid out).result = .ok (ret, out') ∧
      (ret = 0 ↔ (VirtDisplay.parseEdidData edid out.modes).1 = 0) ∧
      out'.modes = (VirtDisplay.parseEdidData edid out.modes).2 := by
  obtain ⟨ret, hret, hresult⟩ := parseEdidData_eq edid out
  refine ⟨ret, _, hresult, ?_⟩
  by_cases haccepted : edid.Accepted
  · rw [parseEdidData_of_accepted haccepted, if_pos (hret.mpr haccepted),
      OutputModelist.modes_pushAll _ hsize]
    exact ⟨iff_of_true (hret.mpr haccepted) rfl, rfl⟩
  · obtain ⟨hcode, hmodes⟩ := parseEdidData_of_not_accepted out.modes haccepted
    rw [if_neg fun h => haccepted (hret.mp h), hmodes]
    exact ⟨iff_of_false (fun h => haccepted (hret.mp h)) hcode, rfl⟩

end EdidParser

end VirtDisplay
