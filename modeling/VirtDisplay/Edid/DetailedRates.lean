/-
# The rates of detailed timings

A detailed timing gives the pixel clock of a mode and the size of its frames, blanking
included. The pixels of a second, divided by those of a frame, are the frames of a second: a
rational number, and for many modes not a whole one.

The parser divides unsigned integers and stores the quotient as a floating-point number. The
mode of a timing that fits the list is right only if its frames divide the pixel clock.
-/

import Mathlib.Algebra.Field.Rat
import Mathlib.Data.Nat.Cast.Field
import VirtDisplay.Edid.ProgramSpec

namespace VirtDisplay

/-- A detailed timing. -/
structure DetailedTiming where
  /-- In Hz. -/
  pixelClock : Nat
  hActive : Nat
  hBlank : Nat
  vActive : Nat
  vBlank : Nat

namespace DetailedTiming

variable (t : DetailedTiming)

/-- The pixels of a line. -/
def hTotal : Nat := t.hActive + t.hBlank
/-- The lines of a frame. -/
def vTotal : Nat := t.vActive + t.vBlank
/-- The pixels of a frame. -/
def total : Nat := t.hTotal * t.vTotal

/-- The mode of a timing. -/
def mode : EdidMode := ⟨t.hActive, t.vActive, (t.pixelClock : ℚ) / (t.total : ℚ)⟩

/-- The mode that the parser takes a timing for. -/
def roundedMode : EdidMode := ⟨t.hActive, t.vActive, ((t.pixelClock / t.total : Nat) : ℚ)⟩

end DetailedTiming

section

variable (edid : Edid) (i : Nat)

/-- The timing in the descriptor at a byte: the clock in units of 10 kHz, and numbers of 12 bits
whose upper four share a byte. -/
def detailedTiming : DetailedTiming where
  pixelClock := (edid.byte i + edid.byte (i + 1) * 256) * 10000
  hActive := edid.byte (i + 4) / 16 * 256 + edid.byte (i + 2)
  hBlank := edid.byte (i + 4) % 16 * 256 + edid.byte (i + 3)
  vActive := edid.byte (i + 7) / 16 * 256 + edid.byte (i + 5)
  vBlank := edid.byte (i + 7) % 16 * 256 + edid.byte (i + 6)

/-- The descriptor holds a timing: its first two bytes are not both zero, and neither are its
totals. -/
structure IsTimed : Prop where
  header : ¬ (edid.byte i = 0 ∧ edid.byte (i + 1) = 0)
  hTotal : (detailedTiming edid i).hTotal ≠ 0
  vTotal : (detailedTiming edid i).vTotal ≠ 0

instance : Decidable (IsTimed edid i) :=
  decidable_of_iff (¬ (edid.byte i = 0 ∧ edid.byte (i + 1) = 0) ∧
      (detailedTiming edid i).hTotal ≠ 0 ∧ (detailedTiming edid i).vTotal ≠ 0)
    ⟨fun h => ⟨h.1, h.2.1, h.2.2⟩, fun h => ⟨h.header, h.hTotal, h.vTotal⟩⟩

/-- The slots that hold timings. -/
def timedSlots : List Nat := [54, 72, 90, 108].filter fun i => IsTimed edid i

end

variable {edid : Edid} {i : Nat}

theorem cast_quotient_eq_iff {a b : Nat} (hb : b ≠ 0) :
    ((a / b : Nat) : ℚ) = (a : ℚ) / (b : ℚ) ↔ b ∣ a := by
  refine ⟨fun heq => ?_, Nat.cast_div_charZero⟩
  rw [eq_div_iff (Nat.cast_ne_zero.mpr hb), ← Nat.cast_mul, Nat.cast_inj] at heq
  exact ⟨a / b, by rw [Nat.mul_comm, heq]⟩

/-- The mode of a timing is taken for what it is if its frames divide the pixel clock. -/
theorem DetailedTiming.roundedMode_eq_iff {t : DetailedTiming} (hpos : t.total ≠ 0) :
    t.roundedMode = t.mode ↔ t.total ∣ t.pixelClock := by
  rw [roundedMode, mode, EdidMode.mk.injEq, ← cast_quotient_eq_iff hpos]
  exact ⟨fun h => h.2.2, fun h => ⟨rfl, rfl, h⟩⟩

theorem IsTimed.total_ne_zero (htimed : IsTimed edid i) : (detailedTiming edid i).total ≠ 0 :=
  Nat.mul_ne_zero htimed.hTotal htimed.vTotal

/-- The fields that the parser puts together are those of the timing. -/
theorem detailedMode_eq : detailedMode edid i =
    if IsTimed edid i then some (detailedTiming edid i).roundedMode else none := by
  have hupper : ∀ byte, byte >>> 4 = byte / 16 := fun byte => Nat.shiftRight_eq_div_pow byte 4
  have hlower : ∀ byte, byte &&& 15 = byte % 16 := fun byte =>
    Nat.and_two_pow_sub_one_eq_mod byte 4
  have hhigh : ∀ n, n <<< 8 = n * 256 := fun n => Nat.shiftLeft_eq n 8
  rw [detailedMode]
  simp only [hupper, hlower, hhigh]
  by_cases hheader : edid.byte i = 0 ∧ edid.byte (i + 1) = 0
  · rw [if_pos hheader, if_neg fun htimed => htimed.header hheader]
  · rw [if_neg hheader]
    refine if_congr ⟨fun h => ⟨hheader, h.1, h.2⟩, fun h => ⟨h.hTotal, h.vTotal⟩⟩ rfl rfl

theorem detailedModes_eq : detailedModes edid =
    (timedSlots edid).map fun i => (detailedTiming edid i).roundedMode := by
  rw [detailedModes, timedSlots, ← List.filterMap_eq_map, List.filterMap_filter]
  refine List.filterMap_congr fun i _ => ?_
  rw [detailedMode_eq, Function.comp_apply]
  by_cases htimed : IsTimed edid i
  · rw [if_pos htimed, if_pos (decide_eq_true htimed)]
  · rw [if_neg htimed, if_neg (by rw [decide_eq_true_eq]; exact htimed)]

namespace EdidParser

variable {out : OutputModelist}

/-- The pass appends the mode of every timing, as far as there is room. -/
def TimingsAppended (edid : Edid) (out : OutputModelist) : Prop :=
  ∃ out', getDetailedTimingDescriptorModes edid out = pure out' ∧
    out'.modes = (out.modes ++ (timedSlots edid).map fun i => (detailedTiming edid i).mode).take
      outputModelistSize

/-- The timings are appended exactly if every one that still fits is taken for what it is. -/
theorem timingsAppended_iff_forall_eq : TimingsAppended edid out ↔
    ∀ i ∈ (timedSlots edid).take (outputModelistSize - out.modes.length),
      (detailedTiming edid i).roundedMode = (detailedTiming edid i).mode := by
  have hpass : TimingsAppended edid out ↔
      (out.pushAll (detailedModes edid)).modes = (out.modes ++
        (timedSlots edid).map fun i => (detailedTiming edid i).mode).take outputModelistSize := by
    rw [TimingsAppended, getDetailedTimingDescriptorModes_eq]
    constructor
    · rintro ⟨out', heq, hmodes⟩
      obtain rfl := Except.ok.inj (congrArg Logged.result heq)
      exact hmodes
    · exact fun hmodes => ⟨_, rfl, hmodes⟩
  rw [hpass, OutputModelist.modes_pushAll_eq_take, detailedModes_eq, List.take_append,
    List.take_append, List.append_cancel_left_eq, ← List.map_take, ← List.map_take,
    List.map_inj_left]

/-- The pass appends the right modes exactly if the frames of each timing that still fits divide
its pixel clock. -/
theorem timingsAppended_iff : TimingsAppended edid out ↔
    ∀ i ∈ (timedSlots edid).take (outputModelistSize - out.modes.length),
      (detailedTiming edid i).total ∣ (detailedTiming edid i).pixelClock := by
  rw [timingsAppended_iff_forall_eq]
  refine forall₂_congr fun i hmem => ?_
  have htimed : IsTimed edid i := by
    have hslot := (List.mem_filter.mp (List.mem_of_mem_take hmem)).2
    rwa [decide_eq_true_eq] at hslot
  exact DetailedTiming.roundedMode_eq_iff htimed.total_ne_zero

/-- An EDID with one detailed timing: 1920 by 1080, in frames of 2200 by 1125 and at 148.35 MHz,
which makes 59.94 frames a second. -/
def televisionEdid : Edid := fun i =>
  (([0x00, 0xFF, 0xFF, 0xFF, 0xFF, 0xFF, 0xFF, 0x00] ++ List.replicate 46 0 ++
    [0xF3, 0x39, 0x80, 0x18, 0x71, 0x38, 0x2D, 0x40] ++ List.replicate 65 0 ++ [0x2C] :
      List UInt8)).getD i 0

/-- The parser accepts `televisionEdid`, and appends a mode of 59 frames a second. -/
theorem not_timingsAppended :
    televisionEdid.Accepted ∧ ¬ TimingsAppended televisionEdid OutputModelist.empty := by
  refine ⟨⟨by decide +kernel, by decide +kernel, by decide +kernel⟩, fun happended => ?_⟩
  have hslot : 54 ∈ (timedSlots televisionEdid).take (outputModelistSize - 0) := by
    decide +kernel
  have heq := timingsAppended_iff_forall_eq.mp happended 54 hslot
  have hpos : (detailedTiming televisionEdid 54).total ≠ 0 := by decide +kernel
  rw [DetailedTiming.roundedMode_eq_iff hpos] at heq
  revert heq
  decide +kernel

end EdidParser

end VirtDisplay
