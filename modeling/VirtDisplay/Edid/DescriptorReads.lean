/-
# Where the bits of the additional timings are read

An EDID has four descriptors of 18 bytes, at the bytes 54, 72, 90 and 108. One that begins with
the header of the additional standard timings holds their bits.

The search for that header looks at every byte of the descriptors, and the first place where it
stands is taken for the start of one. So the bytes of another descriptor, or the last ones of
the block, can pass for a header, and the bits are then read from bytes that mean something
else. The pass is run here with a mark for each byte that it reads bits from.
-/

import VirtDisplay.Edid.BitStrings

namespace VirtDisplay

namespace EdidParser

open Checked

/-- A byte that was read for bits, and where the header stands that it was read for. -/
structure BitsRead where
  header : Nat
  byte : Nat
  deriving DecidableEq

/-- A round of `additionalRound`, with a mark for its byte. -/
def markedAdditionalRound (edid : Edid) (i startIndex index : Nat) (s : Nat × OutputModelist) :
    Checked BitsRead (Turn (Nat × OutputModelist)) :=
  if s.1 > additionalStandardTimingModelistSize - 1 then pure (.leave s)
  else do
    Logged.emit ⟨i, index⟩
    (additionalRound edid startIndex index s).silent

/-- A round of `descriptorRound`, with the marks of its loop. -/
def markedDescriptorRound (edid : Edid) (i : Nat) (out : OutputModelist) :
    Checked BitsRead (Turn OutputModelist) := do
  let bytes ← (readBytes edid i 5).silent
  if memcmp bytes [0x00, 0x00, 0x00, 0xf7, 0x00] = 0 then
    let startIndex ← int (i + 6)
    let endIndex ← int (startIndex + 5)
    let s ← forLoop (fun index => decide (index ≤ endIndex)) 1
      (markedAdditionalRound edid i startIndex) edidSize startIndex (0, out)
    return .leave s.2
  else return .next out

/-- The pass `getAdditionalStandardDisplayModes`, with the marks. -/
def markedAdditionalModes (edid : Edid) (out : OutputModelist) :
    Checked BitsRead OutputModelist :=
  forLoop (fun i => decide (i < 126)) 1 (markedDescriptorRound edid) edidSize 54 out

section

variable (edid : Edid)

/-- The bytes that a header is taken to be followed by. -/
def bitsReadAt (i : Nat) : List BitsRead := (List.range 6).map fun k => ⟨i, i + 6 + k⟩

/-- The rows whose bits a byte was read for. -/
def BitsRead.rows (r : BitsRead) : List EdidMode :=
  additionalRows edid r.header (r.byte - (r.header + 6))

/-- The byte belongs to a descriptor of additional timings. -/
structure BitsRead.Own (r : BitsRead) : Prop where
  slot : r.header ∈ [54, 72, 90, 108]
  tag : isAdditionalStandardHeader edid r.header = true
  inside : r.header ≤ r.byte ∧ r.byte < r.header + 18

variable (out : OutputModelist)

/-- The pass reads bits from descriptors of additional timings only, and appends nothing but what
it has read. -/
structure AppendsOwn : Prop where
  own : ∀ r ∈ (markedAdditionalModes edid out).log, r.Own edid
  appended : ∃ out', getAdditionalStandardDisplayModes edid out = pure out' ∧
    out'.modes = (out.modes ++ (markedAdditionalModes edid out).log.flatMap
      (BitsRead.rows edid)).take outputModelistSize

/-- Wherever the header stands among the descriptors, it also stands at the start of one of them,
there or before. -/
def HeadersInSlots : Prop :=
  ∀ i, 54 ≤ i → i < 126 → isAdditionalStandardHeader edid i = true →
    ∃ slot ∈ [54, 72, 90, 108], slot ≤ i ∧ isAdditionalStandardHeader edid slot = true

end

variable {edid : Edid} {out : OutputModelist} {i : Nat}

theorem markedAdditionalRound_eq {k : Nat} (hi : i < 126) (hk : k < 6) :
    markedAdditionalRound edid i (i + 6) (i + 6 + k * 1) (min (8 * k) 44, out) =
      ⟨[⟨i, i + 6 + k⟩],
        .ok (.next (min (8 * (k + 1)) 44, out.pushAll (additionalRows edid i k)))⟩ := by
  rw [markedAdditionalRound, if_neg (show ¬ min (8 * k) 44 > 44 - 1 by omega),
    additionalRound_eq hi hk, Logged.silent_pure, Nat.mul_one]
  rfl

/-- The loop over the bytes behind a header. -/
theorem markedAdditionalLoop_eq (hi : i < 126) :
    forLoop (fun index => decide (index ≤ i + 6 + 5)) 1 (markedAdditionalRound edid i (i + 6))
      edidSize (i + 6) (0, out) =
        ⟨bitsReadAt i, .ok (44, out.pushAll (additionalModesAt edid i))⟩ := by
  rw [bitsReadAt, List.map_eq_flatMap]
  exact rowsLoop_eq (additionalRows edid i) (fun k => min (8 * k) 44) _ 6
    (fun k hk => decide_eq_true (by omega)) (fun k hk out => markedAdditionalRound_eq hi hk)
    (decide_eq_false (by omega)) (by omega) (by decide)

theorem markedDescriptorRound_eq (hi : i < 126) : markedDescriptorRound edid i out =
    if isAdditionalStandardHeader edid i then
      ⟨bitsReadAt i, .ok (.leave (out.pushAll (additionalModesAt edid i)))⟩
    else pure (.next out) := by
  have hsize : edidSize = 256 := rfl
  rw [markedDescriptorRound, readBytes_of_le edid (by omega), Logged.silent_pure, Logged.ok_bind]
  refine if_congr memcmp_header_iff ?_ rfl
  rw [int_of_lt (by omega), Logged.ok_bind, int_of_lt (by omega), Logged.ok_bind,
    markedAdditionalLoop_eq hi]
  exact congrArg (Logged.mk · _) (List.append_nil _)

/-- The pass reads the bytes behind the header that it finds. -/
theorem markedAdditionalModes_eq : markedAdditionalModes edid out =
    ⟨((additionalHeader edid).map bitsReadAt).getD [],
      .ok (out.pushAll (additionalStandardModes edid))⟩ := by
  rw [markedAdditionalModes, additionalStandardModes, ← additionalHeader,
    forLoop_find bitsReadAt (fun i => out.pushAll (additionalModesAt edid i)) 72
      (fun k hk => decide_eq_true (by omega)) (fun k hk => markedDescriptorRound_eq (by omega)) rfl
      (by decide) (by decide), ← additionalHeader]
  cases additionalHeader edid with
  | none => rfl
  | some i => rfl

/-- The marks of the bits that are read change nothing of the pass. -/
theorem result_markedAdditionalModes : (markedAdditionalModes edid out).result =
    (getAdditionalStandardDisplayModes edid out).result := by
  rw [markedAdditionalModes_eq, getAdditionalStandardDisplayModes_eq, Logged.pure_result]

/-- The bits that are read in a round stand for the modes that it appends. -/
theorem rows_bitsReadAt : (bitsReadAt i).flatMap (BitsRead.rows edid) =
    additionalModesAt edid i := by
  rw [bitsReadAt, List.flatMap_map, additionalModesAt]
  refine congrArg (List.flatMap · _) (funext fun k => ?_)
  rw [BitsRead.rows, Nat.add_sub_cancel_left]

theorem rows_markedAdditionalModes :
    (markedAdditionalModes edid out).log.flatMap (BitsRead.rows edid) =
      additionalStandardModes edid := by
  rw [markedAdditionalModes_eq, additionalStandardModes, ← additionalHeader]
  cases additionalHeader edid with
  | none => rfl
  | some i => exact rows_bitsReadAt

/-- The bytes behind a header belong to a descriptor if the header stands at the start of one. -/
theorem own_bitsReadAt_iff (hheader : isAdditionalStandardHeader edid i = true) :
    (∀ r ∈ bitsReadAt i, r.Own edid) ↔ i ∈ [54, 72, 90, 108] := by
  constructor
  · intro hown
    exact (hown ⟨i, i + 6 + 0⟩ (List.mem_map_of_mem (by decide))).slot
  · intro hslot r hmem
    obtain ⟨k, hk, rfl⟩ := List.mem_map.mp hmem
    rw [List.mem_range] at hk
    exact ⟨hslot, hheader, by dsimp only; omega, by dsimp only; omega⟩

/-- The header that the search comes to then stands at the start of a descriptor, if there is
one. -/
theorem headersInSlots_iff : HeadersInSlots edid ↔
    ∀ i, additionalHeader edid = some i → i ∈ [54, 72, 90, 108] := by
  constructor
  · intro hheaders i hfirst
    obtain ⟨hheader, hle, hlt, hbefore⟩ := additionalHeader_eq_some_iff.mp hfirst
    obtain ⟨slot, hslot, hslot_le, hslot_header⟩ := hheaders i hle hlt hheader
    have hstart : 54 ≤ slot := by
      simp only [List.mem_cons, List.not_mem_nil, or_false] at hslot
      omega
    rcases Nat.lt_or_eq_of_le hslot_le with hslot_lt | rfl
    · rw [hbefore slot hstart hslot_lt] at hslot_header
      cases hslot_header
    · exact hslot
  · intro hslots i hle hlt hheader
    cases hfirst : additionalHeader edid with
    | none =>
        rw [additionalHeader, List.find?_eq_none] at hfirst
        exact absurd hheader (hfirst i (List.mem_range'_1.mpr ⟨hle, hlt⟩))
    | some first =>
        obtain ⟨hfirst_header, -, -, hbefore⟩ := additionalHeader_eq_some_iff.mp hfirst
        refine ⟨first, hslots first hfirst, Nat.le_of_not_lt fun hearlier => ?_, hfirst_header⟩
        rw [hbefore i hle hearlier] at hheader
        cases hheader

/-- The pass reads its bits from a descriptor of its own, exactly if the header stands nowhere
before the first descriptor that begins with it. -/
theorem appendsOwn_iff : AppendsOwn edid out ↔ HeadersInSlots edid := by
  have happended : ∃ out', getAdditionalStandardDisplayModes edid out = pure out' ∧
      out'.modes = (out.modes ++ (markedAdditionalModes edid out).log.flatMap
        (BitsRead.rows edid)).take outputModelistSize := by
    rw [rows_markedAdditionalModes]
    exact ⟨_, getAdditionalStandardDisplayModes_eq,
      OutputModelist.modes_pushAll_eq_take out (additionalStandardModes edid)⟩
  have hown : AppendsOwn edid out ↔ ∀ r ∈ (markedAdditionalModes edid out).log, r.Own edid :=
    ⟨fun h => h.own, fun h => ⟨h, happended⟩⟩
  rw [hown, markedAdditionalModes_eq, headersInSlots_iff]
  cases hfirst : additionalHeader edid with
  | none =>
      constructor
      · intro _ i hsome
        cases hsome
      · intro _ r hmem
        cases hmem
  | some i =>
      have hheader := (additionalHeader_eq_some_iff.mp hfirst).1
      exact (own_bitsReadAt_iff hheader).trans
        ⟨fun hslot j hj => Option.some.inj hj ▸ hslot, fun hslots => hslots i rfl⟩

/-- An EDID with one descriptor, of a kind that is left to the manufacturer. Its data look like
the header from byte 60 on, and like the bit of the first additional timing. -/
def strayEdid : Edid := fun i =>
  (([0x00, 0xFF, 0xFF, 0xFF, 0xFF, 0xFF, 0xFF, 0x00] ++ List.replicate 46 0 ++
    [0x00, 0x00, 0x00, 0x0F, 0x00, 0x00, 0x00, 0x00, 0x00, 0xF7, 0x00, 0x00, 0x01] ++
    List.replicate 60 0 ++ [0xFF] : List UInt8)).getD i 0

/-- The parser accepts `strayEdid`, and takes bits from its descriptor, which is of another kind. -/
theorem not_appendsOwn : strayEdid.Accepted ∧ ¬ AppendsOwn strayEdid OutputModelist.empty := by
  refine ⟨⟨by decide +kernel, by decide +kernel, by decide +kernel⟩, fun happends => ?_⟩
  have hfirst : additionalHeader strayEdid = some 60 := by decide +kernel
  have hmark : ⟨60, 66⟩ ∈ (markedAdditionalModes strayEdid OutputModelist.empty).log := by
    rw [markedAdditionalModes_eq, hfirst]
    decide
  exact absurd (happends.own ⟨60, 66⟩ hmark).slot (by decide)

end EdidParser

end VirtDisplay
