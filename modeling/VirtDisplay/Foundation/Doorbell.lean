/-
# Doorbells

A producer counts what it has made, a consumer counts what it has seen, and a consumer that
has caught up goes to sleep. The producer rings for it, but not each time: the consumer leaves
a note that says for which item it wants to be rung, or for none, and the producer looks at the
note and at how far its counter has moved since it last looked. Nobody holds a lock. The
consumer leaves its note before it looks at the counter for the last time, and the producer
advances the counter before it looks at the note.

Counters run modulo a word size. A consumer may also ask to be woken late, once more than a
given number of items are there. How notes are written and read is for the two sides to agree
on; all that matters is that a producer rings that has passed what the note asks for.
-/

import Mathlib.Data.Int.ModEq
import VirtDisplay.Foundation.Simulation

open Transition

/-- Both sides of a doorbell. -/
structure Doorbell (Note : Type*) where
  /-- The producer's counter. -/
  made : Nat
  /-- How much was made since the producer last looked. -/
  fresh : Nat
  /-- The consumer's counter. -/
  seen : Nat
  note : Note
  /-- Asleep until more than so many items are there. -/
  asleep : Option Nat
  rung : Bool

namespace Doorbell

variable {Note : Type*}

/-- What the two sides have agreed on. -/
structure Scheme (Note : Type*) where
  /-- Counters run modulo this. -/
  word : Nat
  /-- At most so many items are there at a time. -/
  num : Nat
  /-- A consumer that has seen so much says with this note that it wants to be woken once there
  are more items than so many. -/
  armed : (seen : Nat) → Note → (late : Nat) → Bool
  /-- The producer's decision. -/
  rings : (made fresh : Nat) → Note → Bool

/-- A producer rings that has passed what the note asks for. -/
structure Scheme.Sound (c : Scheme Note) : Prop where
  lt : c.num < c.word
  enough : ∀ {seen n fresh late note}, seen < c.word → n ≤ c.num → c.armed seen note late = true →
    late < n → n ≤ late + fresh → c.rings ((seen + n) % c.word) fresh note = true

/-- What can happen. -/
inductive Label (Note : Type*)
  | make (n : Nat)
  /-- The producer looks whether to ring, and may do so in any case. -/
  | look (anyway : Bool)
  | see (n : Nat)
  /-- A consumer that is awake leaves a note. -/
  | announce (note : Note)
  | doze (late : Nat)
  | wake

section

variable (c : Scheme Note) (d : Doorbell Note)

/-- How much there is to be seen. -/
def pending (word : Nat) : Nat := (d.made + word - d.seen) % word

/-- One step. -/
def step : Label Note → Option (Doorbell Note)
  | .make n =>
      if d.pending c.word + n ≤ c.num then
        some { d with made := (d.made + n) % c.word, fresh := d.fresh + n }
      else none
  | .look anyway =>
      some { d with rung := d.rung || anyway || c.rings d.made d.fresh d.note, fresh := 0 }
  | .see n =>
      if d.asleep = none ∧ n ≤ d.pending c.word then
        some { d with seen := (d.seen + n) % c.word }
      else none
  | .announce note => if d.asleep = none then some { d with note := note } else none
  | .doze late =>
      if d.asleep = none ∧ c.armed d.seen d.note late ∧ d.pending c.word ≤ late then
        some { d with asleep := some late }
      else none
  | .wake => if d.rung then some { d with asleep := none, rung := false } else none

/-- The doorbell as a system. -/
def system : System (Doorbell Note) (Label Note) := ⟨step c⟩

/-- What holds at any time. -/
structure Kept : Prop where
  seen_lt : d.seen < c.word
  made_eq : d.made = (d.seen + d.pending c.word) % c.word
  fits : d.pending c.word ≤ c.num
  asleep : ∀ late, d.asleep = some late → c.armed d.seen d.note late = true ∧
    (d.rung = true ∨ d.pending c.word ≤ late + d.fresh)

end

variable {c : Scheme Note} {word n late : Nat} {d d' : Doorbell Note}

theorem run_make (hroom : d.pending c.word + n ≤ c.num) :
    (system c).run d [.make n] =
      some { d with made := (d.made + n) % c.word, fresh := d.fresh + n } := by
  rw [System.run_singleton]
  exact if_pos hroom

theorem run_look (anyway : Bool) :
    (system c).run d [.look anyway] =
      some { d with rung := d.rung || anyway || c.rings d.made d.fresh d.note, fresh := 0 } :=
  System.run_singleton ..

theorem run_see (hawake : d.asleep = none) (hless : n ≤ d.pending c.word) :
    (system c).run d [.see n] = some { d with seen := (d.seen + n) % c.word } := by
  rw [System.run_singleton]
  exact if_pos ⟨hawake, hless⟩

theorem run_announce (note : Note) (hawake : d.asleep = none) :
    (system c).run d [.announce note] = some { d with note := note } := by
  rw [System.run_singleton]
  exact if_pos hawake

theorem run_see_announce (note : Note) (hawake : d.asleep = none)
    (hless : n ≤ d.pending c.word) :
    (system c).run d [.see n, .announce note] =
      some { d with seen := (d.seen + n) % c.word, note := note } := by
  show (system c).run d ([.see n] ++ [.announce note]) = _
  rw [System.run_append, run_see hawake hless, Option.bind_some]
  exact run_announce note hawake

theorem run_doze (hawake : d.asleep = none) (harmed : c.armed d.seen d.note late = true)
    (hless : d.pending c.word ≤ late) :
    (system c).run d [.doze late] = some { d with asleep := some late } := by
  rw [System.run_singleton]
  exact if_pos ⟨hawake, harmed, hless⟩

theorem run_wake (hrung : d.rung = true) :
    (system c).run d [.wake] = some { d with asleep := none, rung := false } := by
  rw [System.run_singleton]
  exact if_pos hrung

/-- The distance between two counters. -/
theorem pending_eq (hseen : d.seen < word) (hmade : d.made = (d.seen + n) % word)
    (hn : n < word) : d.pending word = n := by
  rw [pending, hmade]
  rcases Nat.lt_or_ge (d.seen + n) word with hlt | hge
  · have hback : d.seen + n + word - d.seen = n + word := by omega
    rw [Nat.mod_eq_of_lt hlt, hback, Nat.add_mod_right, Nat.mod_eq_of_lt hn]
  · have hwrap : d.seen + n - word < word := by omega
    have hback : d.seen + n - word + word - d.seen = n := by omega
    rw [Nat.mod_eq_sub_mod hge, Nat.mod_eq_of_lt hwrap, hback, Nat.mod_eq_of_lt hn]

/-- Different counters have something between them. -/
theorem pending_pos (hseen : d.seen < word) (hmade : d.made < word) (hne : d.seen ≠ d.made) :
    0 < d.pending word := by
  refine Nat.pos_of_ne_zero fun hzero => hne ?_
  rw [pending] at hzero
  rcases Nat.lt_or_ge d.made d.seen with hlt | hge
  · rw [Nat.mod_eq_of_lt (by omega)] at hzero
    omega
  · have hback : d.made + word - d.seen = d.made - d.seen + word := by omega
    rw [hback, Nat.add_mod_right, Nat.mod_eq_of_lt (by omega)] at hzero
    omega

namespace Kept

theorem init (hword : 0 < c.word) (note : Note) : Kept c ⟨0, 0, 0, note, none, false⟩ where
  seen_lt := hword
  made_eq := by simp [pending]
  fits := by simp [pending]
  asleep := nofun

/-- One step. -/
theorem step {label : Label Note} (h : Kept c d) (hsound : c.Sound)
    (hstep : d.step c label = some d') : Kept c d' := by
  have hlt := hsound.lt
  have hword : 0 < c.word := Nat.zero_lt_of_lt hlt
  have hfits := h.fits
  cases label with
  | make n =>
      obtain ⟨hroom, ⟨⟩⟩ := Option.ite_none_right_eq_some.mp hstep
      have hmade : (d.made + n) % c.word = (d.seen + (d.pending c.word + n)) % c.word := by
        conv_lhs => rw [h.made_eq]
        rw [Nat.mod_add_mod, Nat.add_assoc]
      have hpending := pending_eq (d := { d with
        made := (d.made + n) % c.word, fresh := d.fresh + n }) h.seen_lt hmade (by omega)
      refine ⟨h.seen_lt, ?_, ?_, ?_⟩
      · rw [hpending]
        exact hmade
      · rw [hpending]
        exact hroom
      · intro late hlate
        obtain ⟨harmed, hrung⟩ := h.asleep late hlate
        refine ⟨harmed, hrung.imp_right fun hless => ?_⟩
        rw [hpending]
        show _ ≤ late + (d.fresh + n)
        omega
  | look anyway =>
      obtain rfl := Option.some.inj hstep
      refine ⟨h.seen_lt, h.made_eq, h.fits, fun late hlate => ?_⟩
      obtain ⟨harmed, hrung⟩ := h.asleep late hlate
      refine ⟨harmed, ?_⟩
      show (d.rung || anyway || c.rings d.made d.fresh d.note) = true ∨
        d.pending c.word ≤ late + 0
      rcases hrung with hrung | hless
      · left
        rw [hrung, Bool.true_or, Bool.true_or]
      · rcases Nat.lt_or_ge late (d.pending c.word) with hmore | hdone
        · left
          have hrings := hsound.enough h.seen_lt hfits harmed hmore hless
          rw [← h.made_eq] at hrings
          rw [hrings, Bool.or_true]
        · exact .inr hdone
  | see n =>
      obtain ⟨⟨hawake, hless⟩, ⟨⟩⟩ := Option.ite_none_right_eq_some.mp hstep
      have hmade : d.made = ((d.seen + n) % c.word + (d.pending c.word - n)) % c.word := by
        conv_lhs => rw [h.made_eq]
        rw [Nat.mod_add_mod]
        congr 1
        omega
      have hpending := pending_eq (d := { d with seen := (d.seen + n) % c.word })
        (Nat.mod_lt _ hword) hmade (by omega)
      refine ⟨Nat.mod_lt _ hword, ?_, ?_, fun late hlate => ?_⟩
      · rw [hpending]
        exact hmade
      · rw [hpending]
        omega
      · exact absurd (hawake.symm.trans hlate) nofun
  | announce note =>
      obtain ⟨hawake, ⟨⟩⟩ := Option.ite_none_right_eq_some.mp hstep
      exact ⟨h.seen_lt, h.made_eq, h.fits, fun late hlate =>
        absurd (hawake.symm.trans hlate) nofun⟩
  | doze late =>
      obtain ⟨⟨-, harmed, hless⟩, ⟨⟩⟩ := Option.ite_none_right_eq_some.mp hstep
      refine ⟨h.seen_lt, h.made_eq, h.fits, ?_⟩
      rintro _ ⟨⟩
      exact ⟨harmed, .inr (Nat.le_trans hless (Nat.le_add_right ..))⟩
  | wake =>
      obtain ⟨-, ⟨⟩⟩ := Option.ite_none_right_eq_some.mp hstep
      exact ⟨h.seen_lt, h.made_eq, h.fits, nofun⟩

end Kept

theorem kept_of_reach {start : Doorbell Note} (hsound : c.Sound) (hstart : Kept c start)
    (hreach : (system c).Reach start d) : Kept c d :=
  hreach.invariant hstart fun _ _ _ hbefore _ hstep => hbefore.step hsound hstep

/-- No order of the steps leaves a consumer asleep for whom there is more than it is waiting
for, unless it has been rung for or the producer is still to look. -/
theorem never_missed {start : Doorbell Note} (hsound : c.Sound) (hstart : Kept c start)
    (hreach : (system c).Reach start d) (hasleep : d.asleep = some late)
    (hmore : late < d.pending c.word) (hlooked : d.fresh = 0) : d.rung = true := by
  obtain ⟨-, hrung | hless⟩ := (kept_of_reach hsound hstart hreach).asleep late hasleep
  · exact hrung
  · omega

/-- The counter has gone from `old` to `new` and has passed the index `event`. -/
def needEvent (word event new old : Int) : Bool :=
  (new - event - 1) % word < (new - old) % word

/-- An index is passed if the new counter is behind it and the old one was not. The index must
not be so far ahead that it is behind the old counter again. -/
theorem needEvent_iff (word seen : Nat) {fresh : Nat} (_ : n < word) (hfresh : fresh < word)
    (hlate : late + fresh < word + n) :
    needEvent word ((seen + late) % word : Nat) ((seen + n) % word : Nat)
      (((seen + n) % word : Nat) - fresh) = true ↔ late < n ∧ n ≤ late + fresh := by
  have hpast : (((seen + n) % word : Nat) - ((seen + late) % word : Nat) - 1 : Int) % word =
      ((n : Int) - late - 1) % word := by
    have hmod : (((seen + n : Nat) : Int) % word - ((seen + late : Nat) : Int) % word - 1) ≡
        (seen + n : Nat) - (seen + late : Nat) - 1 [ZMOD word] :=
      ((Int.mod_modEq ..).sub (Int.mod_modEq ..)).sub_right 1
    push_cast at hmod ⊢
    rw [hmod.eq, add_sub_add_left_eq_sub]
  have hmoved : (((seen + n) % word : Nat) - (((seen + n) % word : Nat) - fresh) : Int) % word =
      fresh := by
    rw [sub_sub_cancel, Int.emod_eq_of_lt (by omega) (by omega)]
  rw [needEvent, decide_eq_true_iff, hpast, hmoved]
  rcases Nat.lt_or_ge late n with hlt | hge
  · rw [Int.emod_eq_of_lt (by omega) (by omega)]
    omega
  · refine ⟨fun hless => ?_, fun hboth => absurd hboth.1 (Nat.not_lt_of_le hge)⟩
    -- The difference is negative, and one word brings it past `fresh`.
    have hback : ((n : Int) - late - 1) % word = n - late - 1 + word := by
      rw [← Int.add_emod_right, Int.emod_eq_of_lt (by omega) (by omega)]
    omega

/-- A note is an index and a flag, and the two sides know which of them is meant. A difference
of a whole word is not visible in the counters. -/
def indexScheme (word num : Nat) (indexed : Bool) : Scheme (Nat × Bool) where
  word := word
  num := num
  armed seen note late := if indexed then note.1 == (seen + late) % word else !note.2
  rings made fresh note :=
    if indexed then word ≤ fresh || needEvent word note.1 made (made - fresh) else !note.2

theorem indexScheme_sound {num : Nat} (hnum : num < word) (indexed : Bool) :
    (indexScheme word num indexed).Sound where
  lt := hnum
  enough := by
    intro seen n fresh late note _ hn harmed hlate hless
    have hn' : n ≤ num := hn
    cases indexed with
    | false => exact harmed
    | true =>
        have hevent : note.1 = (seen + late) % word := by simpa [indexScheme] using harmed
        show (decide (word ≤ fresh) || needEvent word note.1 _ _) = true
        rw [Bool.or_eq_true, decide_eq_true_iff]
        rcases Nat.lt_or_ge fresh word with hfew | hmany
        · right
          rw [hevent]
          exact (needEvent_iff word seen (by omega) hfew (by omega)).mpr ⟨hlate, hless⟩
        · exact .inl hmany

end Doorbell
