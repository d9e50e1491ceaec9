/-
# Video blocks and the collection they stand in

The data blocks of a CEA extension stand one behind the other, from byte 132 up to the
offset that byte 130 gives. A video block lists its modes as codes, one byte each: the codes
1 to 127 and 193 to 219 are identification codes, and a set top bit on 1 to 64 says that the
mode is native.

Two things can go wrong. The row of a code from 193 on is one too far. And the walk takes its
end from byte 132 where the offset counts from byte 128, looks at the first video block only,
and reads that block up to the end of the array.
-/

import Mathlib.Logic.Function.Iterate
import VirtDisplay.Edid.ProgramSpec

namespace VirtDisplay

/-- The identification code that a byte of a video block stands for. -/
def encodedVic (code : Nat) : Option Nat :=
  if 1 ≤ code ∧ code ≤ 127 then some code
  else if 129 ≤ code ∧ code ≤ 192 then some (code - 128)
  else if 193 ≤ code ∧ code ≤ 219 then some code
  else none

/-- The row of an identification code: 127 rows for 1 to 127, and 27 for 193 to 219. -/
def rowOfVic (vic : Nat) : Nat := if vic ≤ 127 then vic - 1 else vic - 193 + 127

/-- The mode of a byte of a video block. -/
def encodedMode (code : Nat) : Option EdidMode :=
  (encodedVic code).map fun vic => ceaModelist.getD (rowOfVic vic) default

/-- The modes of a video block. -/
def encodedModes (edid : Edid) (start : Nat) : List EdidMode :=
  (codePositions edid start).filterMap fun i => encodedMode (edid.byte i)

/-- The mode that the parser takes a byte for. -/
def decodedMode (code : Nat) : Option EdidMode :=
  (vicRow code).map fun row => ceaModelist.getD row default

section

variable {code : Nat}

/-- The rows of the parser, code by code. -/
theorem vicRow_eq (h : code < 256) : vicRow code =
    if 193 ≤ code then if code ≤ 218 then some (code - 65) else none
    else (encodedVic code).map rowOfVic := by
  have hmask : code &&& 0x7F = code % 128 := Nat.and_two_pow_sub_one_eq_mod code 7
  unfold vicRow encodedVic rowOfVic
  rw [hmask]
  grind

theorem decodedMode_eq (h : code < 256) (hsecond : ¬ (193 ≤ code ∧ code ≤ 219)) :
    decodedMode code = encodedMode code := by
  rw [decodedMode, encodedMode, vicRow_eq h]
  by_cases hlast : 193 ≤ code
  · rw [if_pos hlast, if_neg (by omega), encodedVic, if_neg (by omega), if_neg (by omega),
      if_neg hsecond]
    rfl
  · rw [if_neg hlast, Option.map_map]
    rfl

/-- Rows that follow each other at the end of the table differ. -/
theorem ceaModelist_succ_ne : ∀ k < 26,
    ceaModelist.getD (128 + k) default ≠ ceaModelist.getD (127 + k) default := by
  decide +kernel

/-- A code from 193 on has the next mode, or none. -/
theorem decodedMode_ne (h : 193 ≤ code ∧ code ≤ 219) :
    decodedMode code ≠ encodedMode code := by
  have hencoded : encodedMode code = some (ceaModelist.getD (127 + (code - 193)) default) := by
    rw [encodedMode, encodedVic, if_neg (by omega), if_neg (by omega), if_pos h, Option.map_some,
      rowOfVic, if_neg (by omega), Nat.add_comm]
  rw [decodedMode, vicRow_eq (by omega), if_pos h.1, hencoded]
  by_cases hlast : code ≤ 218
  · have hne := ceaModelist_succ_ne (code - 193) (by omega)
    rw [if_pos hlast, Option.map_some, ne_eq, Option.some.injEq,
      show code - 65 = 128 + (code - 193) by omega]
    exact hne
  · rw [if_neg hlast]
    exact (Option.some_ne_none _).symm

end

section

variable {α β : Type} {f g : α → Option β}

theorem length_filterMap_le (hsome : ∀ x, (f x).isSome → (g x).isSome) (xs : List α) :
    (xs.filterMap f).length ≤ (xs.filterMap g).length := by
  induction xs with
  | nil => exact Nat.le_refl 0
  | cons x xs ih =>
      have hx := hsome x
      rw [List.filterMap_cons, List.filterMap_cons]
      cases hf : f x with
      | none =>
          cases g x with
          | none => exact ih
          | some b => exact Nat.le_succ_of_le ih
      | some a =>
          rw [hf] at hx
          obtain ⟨b, hg⟩ := Option.isSome_iff_exists.mp (hx rfl)
          rw [hg]
          exact Nat.succ_le_succ ih

/-- If one decoder gives no more values than another, they give the same list only by giving
the same values. -/
theorem filterMap_eq_filterMap_iff (hsome : ∀ x, (f x).isSome → (g x).isSome) (xs : List α) :
    xs.filterMap f = xs.filterMap g ↔ ∀ x ∈ xs, f x = g x := by
  refine ⟨fun heq => ?_, List.filterMap_congr⟩
  induction xs with
  | nil => exact fun x hx => absurd hx List.not_mem_nil
  | cons x xs ih =>
      have hx := hsome x
      have hlength := length_filterMap_le hsome xs
      rw [List.forall_mem_cons]
      rw [List.filterMap_cons, List.filterMap_cons] at heq
      cases hf : f x with
      | none =>
          cases hg : g x with
          | none =>
              rw [hf, hg] at heq
              exact ⟨rfl, ih heq⟩
          | some b =>
              rw [hf, hg] at heq
              have heq' : xs.filterMap f = b :: xs.filterMap g := heq
              rw [heq'] at hlength
              exact absurd hlength (Nat.not_succ_le_self _)
      | some a =>
          rw [hf] at hx
          obtain ⟨b, hg⟩ := Option.isSome_iff_exists.mp (hx rfl)
          rw [hf, hg] at heq
          obtain ⟨hhead, htail⟩ := List.cons.inj heq
          exact ⟨by rw [hg, hhead], ih htail⟩

end

section

variable (edid : Edid) (start : Nat)

theorem decodedMode_isSome (i : Nat) (h : (decodedMode (edid.byte i)).isSome) :
    (encodedMode (edid.byte i)).isSome := by
  by_cases hsecond : 193 ≤ edid.byte i ∧ edid.byte i ≤ 219
  · rw [encodedMode, encodedVic, if_neg (by omega), if_neg (by omega), if_pos hsecond]
    rfl
  · rwa [← decodedMode_eq (edid.byte_lt i) hsecond]

/-- A video block is decoded as it is encoded if it has no code from 193 to 219. -/
theorem videoBlockModes_eq_iff : videoBlockModes edid start = encodedModes edid start ↔
    ∀ i ∈ codePositions edid start, ¬ (193 ≤ edid.byte i ∧ edid.byte i ≤ 219) := by
  have hlists := filterMap_eq_filterMap_iff (decodedMode_isSome edid) (codePositions edid start)
  refine hlists.trans (forall₂_congr fun i _ => ⟨fun heq hsecond => ?_, fun hsecond => ?_⟩)
  · exact decodedMode_ne hsecond heq
  · exact decodedMode_eq (edid.byte_lt i) hsecond

theorem length_videoBlockModes_le :
    (videoBlockModes edid start).length ≤ (encodedModes edid start).length :=
  length_filterMap_le (decodedMode_isSome edid) _

variable {edid start}

/-- The walk appends the modes of the video block it comes to, as the block encodes them,
exactly when none of the block's codes is from 193 to 219. -/
theorem getCeaModes_appends_encoded_iff {out : EdidParser.OutputModelist}
    (hreached : ceaVideoBlock edid (ceaEnd edid) edidSize 132 = some start)
    (hroom : out.modelistSize + (encodedModes edid start).length ≤ outputModelistSize) :
    (∃ out', (EdidParser.getCeaModes edid out).result = .ok out' ∧
      out'.modes = out.modes ++ encodedModes edid start) ↔
        ∀ i ∈ codePositions edid start, ¬ (193 ≤ edid.byte i ∧ edid.byte i ≤ 219) := by
  have hsize : out.modelistSize ≤ outputModelistSize := by omega
  have hcea : ceaModes edid = videoBlockModes edid start := by
    rw [ceaModes, hreached]
    rfl
  have hlength := EdidParser.OutputModelist.length_modes hsize
  have hle := length_videoBlockModes_le edid start
  have hmodes := EdidParser.OutputModelist.modes_pushAll (videoBlockModes edid start) hsize
  rw [foldl_addMode _ (hlength.trans_le hsize),
    List.take_of_length_le (by rw [List.length_append]; omega)] at hmodes
  rw [EdidParser.getCeaModes_eq, hcea, ← videoBlockModes_eq_iff]
  constructor
  · rintro ⟨out', hresult, hout'⟩
    obtain rfl := Except.ok.inj hresult
    exact List.append_cancel_left (hmodes.symm.trans hout')
  · intro heq
    exact ⟨_, rfl, hmodes.trans (by rw [heq])⟩

end

/-- An EDID with a CEA extension whose collection ends at `offset` and starts with these two
bytes. -/
def ceaEdid (offset header code checksum : UInt8) : Edid := fun i =>
  if 1 ≤ i.val ∧ i.val ≤ 6 then 0xFF
  else
    match i.val with
    | 127 => 0x06
    | 128 => 0x02
    | 129 => 0x03
    | 130 => offset
    | 132 => header
    | 133 => code
    | 255 => checksum
    | _ => 0

/-- One video block, with the code 193. -/
def vic193Edid : Edid := ceaEdid 6 0x41 193 0xF3

/-- The code 193 is 5120x2160 at 119.88 Hz. The parser makes it 7680x4320 at 23.98 Hz. -/
theorem getCeaModes_vic193 : vic193Edid.Accepted ∧
    ceaVideoBlock vic193Edid (ceaEnd vic193Edid) edidSize 132 = some 132 ∧
    encodedModes vic193Edid 132 = [⟨5120, 2160, 119.88⟩] ∧
    ¬ ∃ out', (EdidParser.getCeaModes vic193Edid EdidParser.OutputModelist.empty).result =
        .ok out' ∧
      out'.modes = EdidParser.OutputModelist.empty.modes ++ encodedModes vic193Edid 132 := by
  refine ⟨⟨by decide +kernel, by decide +kernel, by decide +kernel⟩, by decide +kernel,
    by decide +kernel, ?_⟩
  rintro ⟨out', hresult, hmodes⟩
  rw [EdidParser.getCeaModes_eq] at hresult
  obtain rfl := Except.ok.inj hresult
  revert hmodes
  decide +kernel

/-- One video block, with the code 16. -/
theorem getCeaModes_vic16 : ∃ out', (EdidParser.getCeaModes (ceaEdid 6 0x41 16 0xA4)
    EdidParser.OutputModelist.empty).result = .ok out' ∧
      out'.modes = EdidParser.OutputModelist.empty.modes ++
        encodedModes (ceaEdid 6 0x41 16 0xA4) 132 :=
  (getCeaModes_appends_encoded_iff (show ceaVideoBlock _ _ _ _ = some 132 by decide +kernel)
    (by decide +kernel)).mpr (by decide +kernel)

/-- A video block starts at byte `i`. -/
def IsVideo (edid : Edid) (i : Nat) : Prop := (edid.byte i &&& 0xE0) >>> 5 = 2

/-- The last byte of the block at `i`, by its length. -/
def blockEnd (edid : Edid) (i : Nat) : Nat := i + (edid.byte i &&& 0x1F)

/-- The chain of blocks from `start` on comes to `i`. -/
def Follows (edid : Edid) (start i : Nat) : Prop :=
  ∃ k, (fun i => blockEnd edid i + 1)^[k] start = i

/-- A block header stands at byte `i`, if the chain from byte 132 on is followed. -/
abbrev IsHeader (edid : Edid) (i : Nat) : Prop := Follows edid 132 i

/-- Byte `i` belongs to the data block collection. -/
def InCollection (edid : Edid) (i : Nat) : Prop :=
  132 ≤ i ∧ i < 128 + edid.byte 130 ∧ i < edidSize

/-- A video block of the collection. -/
structure IsVideoBlock (edid : Edid) (i : Nat) : Prop where
  header : IsHeader edid i
  inside : InCollection edid i
  video : IsVideo edid i

section

variable {edid : Edid} {start i : Nat}

theorem Follows.refl : Follows edid start start := ⟨0, rfl⟩

/-- The first block, and the others. -/
theorem follows_iff :
    Follows edid start i ↔ i = start ∨ Follows edid (blockEnd edid start + 1) i := by
  constructor
  · rintro ⟨k, hk⟩
    cases k with
    | zero => exact Or.inl hk.symm
    | succ k => exact Or.inr ⟨k, hk⟩
  · rintro (rfl | ⟨k, hk⟩)
    · exact Follows.refl
    · exact ⟨k + 1, hk⟩

theorem Follows.le (h : Follows edid start i) : start ≤ i := by
  obtain ⟨k, hk⟩ := h
  induction k generalizing start with
  | zero => exact Nat.le_of_eq hk
  | succ k ih =>
      have hnext : start + (edid.byte start &&& 0x1F) + 1 ≤ i := ih hk
      omega

/-- Where the walk from `start` comes to: along the chain, before the end, and not past a video
block. -/
def Visits (edid : Edid) (ceaEnd start i : Nat) : Prop :=
  Follows edid start i ∧ i < ceaEnd ∧ ∀ j < i, Follows edid start j → ¬ IsVideo edid j

theorem visits_iff {ceaEnd : Nat} : Visits edid ceaEnd start i ↔ start < ceaEnd ∧
    (i = start ∨ ¬ IsVideo edid start ∧ Visits edid ceaEnd (blockEnd edid start + 1) i) := by
  constructor
  · rintro ⟨hfollows, hlt, hbefore⟩
    refine ⟨Nat.lt_of_le_of_lt hfollows.le hlt, ?_⟩
    rcases follows_iff.mp hfollows with rfl | hrest
    · exact Or.inl rfl
    · have hle := hrest.le
      unfold blockEnd at hle
      exact Or.inr ⟨hbefore start (by omega) Follows.refl, hrest, hlt,
        fun j hj hfollows => hbefore j hj (follows_iff.mpr (Or.inr hfollows))⟩
  · rintro ⟨hlt, rfl | ⟨hvideo, hfollows, hend, hbefore⟩⟩
    · exact ⟨Follows.refl, hlt, fun j hj hfollows => absurd hfollows.le (Nat.not_le.mpr hj)⟩
    · refine ⟨follows_iff.mpr (Or.inr hfollows), hend, fun j hj hj' => ?_⟩
      rcases follows_iff.mp hj' with rfl | hrest
      · exact hvideo
      · exact hbefore j hj hrest

theorem mem_ceaHeaders_iff {ceaEnd fuel : Nat} (hfuel : ceaEnd ≤ start + fuel) :
    i ∈ ceaHeaders edid ceaEnd fuel start ↔ Visits edid ceaEnd start i := by
  induction fuel generalizing start with
  | zero =>
      rw [visits_iff]
      exact iff_of_false List.not_mem_nil fun h => absurd h.1 (by omega)
  | succ fuel ih =>
      rw [visits_iff, ceaHeaders]
      by_cases hlt : start < ceaEnd
      · rw [if_pos hlt, and_iff_right hlt]
        by_cases hvideo : (edid.byte start &&& 0xE0) >>> 5 = 2
        · rw [if_pos hvideo, List.mem_singleton]
          exact ⟨Or.inl, fun h => h.resolve_right fun h => h.1 hvideo⟩
        · rw [if_neg hvideo, List.mem_cons, ih (by omega),
            and_iff_right (show ¬ IsVideo edid start from hvideo)]
          rfl
      · rw [if_neg hlt]
        exact iff_of_false List.not_mem_nil fun h => hlt h.1

theorem ceaVideoBlock_eq_some_iff {ceaEnd fuel : Nat} (hfuel : ceaEnd ≤ start + fuel) :
    ceaVideoBlock edid ceaEnd fuel start = some i ↔
      Visits edid ceaEnd start i ∧ IsVideo edid i := by
  induction fuel generalizing start with
  | zero =>
      rw [visits_iff]
      exact iff_of_false (Option.some_ne_none i).symm fun h => absurd h.1.1 (by omega)
  | succ fuel ih =>
      rw [visits_iff, ceaVideoBlock]
      by_cases hlt : start < ceaEnd
      · rw [if_pos hlt, and_iff_right hlt]
        by_cases hvideo : (edid.byte start &&& 0xE0) >>> 5 = 2
        · rw [if_pos hvideo, Option.some.injEq]
          constructor
          · rintro rfl
            exact ⟨Or.inl rfl, hvideo⟩
          · rintro ⟨rfl | ⟨hnot, -⟩, -⟩
            · rfl
            · exact absurd hvideo hnot
        · rw [if_neg hvideo, ih (by omega), and_iff_right (show ¬ IsVideo edid start from hvideo)]
          refine ⟨fun h => ⟨Or.inr h.1, h.2⟩, ?_⟩
          rintro ⟨rfl | hrest, hvideo'⟩
          · exact absurd hvideo' hvideo
          · exact ⟨hrest, hvideo'⟩
      · rw [if_neg hlt]
        exact iff_of_false (Option.some_ne_none i).symm fun h => hlt h.1.1

end

open EdidParser (Use)

/-- The marks of a walk that keeps to the collection: every header is one of the chain inside
the collection, every code is one of a video block there, and every video block there is read
with its whole payload. -/
structure ReadsCollection (edid : Edid) (uses : List Use) : Prop where
  headers : ∀ i, .header i ∈ uses → IsHeader edid i ∧ InCollection edid i
  codes : ∀ i, .code i ∈ uses → InCollection edid i ∧
    ∃ v, IsVideoBlock edid v ∧ v < i ∧ i ≤ blockEnd edid v
  videoBlocks : ∀ v, IsVideoBlock edid v → .header v ∈ uses ∧
    ∀ i, v < i → i ≤ blockEnd edid v → InCollection edid i → .code i ∈ uses

/-- The collection has one video block, which ends inside it and is not the array's last
byte; or it has none, and no block header stands in the four bytes behind it. -/
structure Edid.SuitsWalk (edid : Edid) : Prop where
  single : ∀ v w, IsVideoBlock edid v → IsVideoBlock edid w → v = w
  inside : ∀ v, IsVideoBlock edid v → v < edidSize - 1 ∧
    ∀ i, v < i → i ≤ blockEnd edid v → i < edidSize → InCollection edid i
  behind : (∀ v, ¬ IsVideoBlock edid v) → ∀ i, IsHeader edid i → 128 + edid.byte 130 ≤ i →
    132 + edid.byte 130 ≤ i ∨ edidSize - 1 ≤ i

section

variable {edid : Edid} {i v : Nat}

theorem lt_ceaEnd_iff : i < ceaEnd edid ↔ i < 132 + edid.byte 130 ∧ i < edidSize - 1 := by
  unfold ceaEnd
  split <;> omega

theorem InCollection.of_header_lt {j : Nat} (hi : InCollection edid i) (hj : IsHeader edid j)
    (hlt : j < i) : InCollection edid j :=
  ⟨hj.le, Nat.lt_trans hlt hi.2.1, Nat.lt_trans hlt hi.2.2⟩

/-- The marks of the walk. -/
theorem header_mem_iff :
    .header i ∈ EdidParser.ceaUses edid (ceaEnd edid) edidSize 132 ↔
      Visits edid (ceaEnd edid) 132 i := by
  rw [← mem_ceaHeaders_iff (Nat.le_of_lt (Nat.lt_add_left 132 (ceaEnd_lt edid))),
    EdidParser.ceaUses, List.mem_append]
  simp

theorem code_mem_iff : .code i ∈ EdidParser.ceaUses edid (ceaEnd edid) edidSize 132 ↔
    ∃ v, (Visits edid (ceaEnd edid) 132 v ∧ IsVideo edid v) ∧ i ∈ codePositions edid v := by
  simp only [← ceaVideoBlock_eq_some_iff (Nat.le_of_lt (Nat.lt_add_left 132 (ceaEnd_lt edid)))]
  rw [EdidParser.ceaUses, List.mem_append]
  cases ceaVideoBlock edid (ceaEnd edid) edidSize 132 with
  | none => simp
  | some v => simp

theorem mem_codePositions_iff (hv : v < edidSize) :
    i ∈ codePositions edid v ↔ v < i ∧ i ≤ blockEnd edid v ∧ i < edidSize := by
  obtain ⟨hle, hlt⟩ := EdidParser.videoBlockEnd_lt edid hv
  rw [codePositions, List.mem_range'_1]
  unfold videoBlockEnd at hle hlt ⊢
  unfold blockEnd
  split at hle <;> split <;> omega

/-- The walk comes to the only video block of the collection. -/
theorem Edid.SuitsWalk.visits (hsuits : edid.SuitsWalk) (hv : IsVideoBlock edid v) :
    Visits edid (ceaEnd edid) 132 v := by
  have hlast := (hsuits.inside v hv).1
  have hinside := hv.inside.2.1
  refine ⟨hv.header, lt_ceaEnd_iff.mpr ⟨by omega, hlast⟩, fun j hj hheader hvideo => ?_⟩
  have hblock : IsVideoBlock edid j := ⟨hheader, hv.inside.of_header_lt hheader hj, hvideo⟩
  exact absurd (hsuits.single j v hblock hv) (Nat.ne_of_lt hj)

/-- The walk comes to no header behind the collection: not to one in front of which a video block
stands, and there is none at all without a video block. -/
theorem Edid.SuitsWalk.inCollection (hsuits : edid.SuitsWalk)
    (hvisits : Visits edid (ceaEnd edid) 132 i) : InCollection edid i := by
  obtain ⟨hheader, hlt, hbefore⟩ := hvisits
  obtain ⟨hend, hlast⟩ := lt_ceaEnd_iff.mp hlt
  refine ⟨hheader.le, ?_, Nat.lt_of_lt_pred hlast⟩
  by_contra hbehind
  by_cases hvideo : ∃ v, IsVideoBlock edid v
  · obtain ⟨v, hv⟩ := hvideo
    have hinside := hv.inside.2.1
    exact hbefore v (by omega) hv.header hv.video
  · have hfar := hsuits.behind (not_exists.mp hvideo) i hheader (Nat.not_lt.mp hbehind)
    omega

theorem Edid.SuitsWalk.reads (hsuits : edid.SuitsWalk) :
    ReadsCollection edid (EdidParser.ceaUses edid (ceaEnd edid) edidSize 132) where
  headers i hmem := by
    have hvisits := header_mem_iff.mp hmem
    exact ⟨hvisits.1, hsuits.inCollection hvisits⟩
  codes i hmem := by
    obtain ⟨v, ⟨hvisits, hvideo⟩, hposition⟩ := code_mem_iff.mp hmem
    have hinside := hsuits.inCollection hvisits
    have hv : IsVideoBlock edid v := ⟨hvisits.1, hinside, hvideo⟩
    obtain ⟨hlt, hle, hsize⟩ := (mem_codePositions_iff hinside.2.2).mp hposition
    exact ⟨(hsuits.inside v hv).2 i hlt hle hsize, v, hv, hlt, hle⟩
  videoBlocks v hv := by
    have hvisits := hsuits.visits hv
    refine ⟨header_mem_iff.mpr hvisits, fun i hlt hle hinside => ?_⟩
    exact code_mem_iff.mpr ⟨v, ⟨hvisits, hv.video⟩,
      (mem_codePositions_iff hv.inside.2.2).mpr ⟨hlt, hle, hinside.2.2⟩⟩

theorem ReadsCollection.suitsWalk
    (hreads : ReadsCollection edid (EdidParser.ceaUses edid (ceaEnd edid) edidSize 132)) :
    edid.SuitsWalk where
  single v w hv hw := by
    have hvVisits := header_mem_iff.mp (hreads.videoBlocks v hv).1
    have hwVisits := header_mem_iff.mp (hreads.videoBlocks w hw).1
    rcases Nat.lt_trichotomy v w with hlt | heq | hlt
    · exact absurd hv.video (hwVisits.2.2 v hlt hv.header)
    · exact heq
    · exact absurd hw.video (hvVisits.2.2 w hlt hw.header)
  inside v hv := by
    have hvisits := header_mem_iff.mp (hreads.videoBlocks v hv).1
    refine ⟨(lt_ceaEnd_iff.mp hvisits.2.1).2, fun i hlt hle hsize => ?_⟩
    exact (hreads.codes i (code_mem_iff.mpr ⟨v, ⟨hvisits, hv.video⟩,
      (mem_codePositions_iff hv.inside.2.2).mpr ⟨hlt, hle, hsize⟩⟩)).1
  behind hnone i := by
    -- Of the headers behind the collection the walk would come to the first.
    induction i using Nat.strong_induction_on with
    | _ i ih =>
        intro hheader hbehind
        by_contra hnear
        have hlt : i < ceaEnd edid := lt_ceaEnd_iff.mpr (by omega)
        have hvisits : Visits edid (ceaEnd edid) 132 i := by
          refine ⟨hheader, hlt, fun j hj hjHeader hvideo => ?_⟩
          have hinside : ¬ InCollection edid j := fun hinside => hnone j ⟨hjHeader, hinside, hvideo⟩
          have hjBehind : 128 + edid.byte 130 ≤ j := by
            by_contra hjInside
            exact hinside ⟨hjHeader.le, by omega, by omega⟩
          have hfar := ih j hj hjHeader hjBehind
          omega
        have hinside := (hreads.headers i (header_mem_iff.mpr hvisits)).2.2.1
        omega

/-- The walk keeps to the collection and reads all its video blocks exactly when there is one
that ends inside it, or none and no header just behind it. -/
theorem getCeaModes_readsCollection_iff (edid : Edid) (out : EdidParser.OutputModelist) :
    ReadsCollection edid (EdidParser.getCeaModes edid out).log ↔ edid.SuitsWalk := by
  rw [EdidParser.getCeaModes_eq]
  exact ⟨ReadsCollection.suitsWalk, Edid.SuitsWalk.reads⟩

end

/-- An EDID with no data blocks: the collection ends where it begins, and the detailed timings
begin at byte 132. -/
def emptyCollectionEdid : Edid := ceaEdid 4 0x41 0x10 0xA6

/-- The walk takes the pixel clock of the first detailed timing for a video block. -/
theorem getCeaModes_emptyCollection : emptyCollectionEdid.Accepted ∧
    emptyCollectionEdid.byte 128 = 2 ∧
      ¬ ReadsCollection emptyCollectionEdid
        (EdidParser.getCeaModes emptyCollectionEdid EdidParser.OutputModelist.empty).log := by
  refine ⟨⟨by decide +kernel, by decide +kernel, by decide +kernel⟩, by decide +kernel, ?_⟩
  rintro ⟨hheaders, -, -⟩
  rw [EdidParser.getCeaModes_eq] at hheaders
  have hinside := (hheaders 132 (by decide +kernel)).2.2.1
  revert hinside
  decide +kernel

end VirtDisplay
