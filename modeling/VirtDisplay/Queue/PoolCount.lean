/-
# The counter of the pool

`m_uCount` is kept beside the two lists. `Init` adds to it with each buffer it inserts and
`Close` takes from it with each one it deletes. The roll-back of `Init` deletes buffers as
well, but does not take them off the count, and what `Init` returns is whether the count is
positive. So after an allocation that fails behind one that succeeded, the pool is empty,
counts what it had, and reports success.

The count is right along every run in which that does not happen, in which `Init` meets a
count of zero, and in which only buffers in use are given back.
-/

import Mathlib.Data.List.TakeWhile
import VirtDisplay.Foundation.Transition
import VirtDisplay.Queue.PoolLinks

namespace VirtDisplay

open Transition

namespace LinkedPool

/-- What is done to a buffer that was taken from a list: it is deleted, and counted or not. -/
structure Deletes (counted : Bool) (body : BufId → LinkedPool → LinkedPool) : Prop where
  links : ∀ b s, (body b s).links = s.links
  uCount : ∀ b s, (body b s).uCount = if counted then s.uCount - 1 else s.uCount
  allocated : ∀ b s, (body b s).allocated = s.allocated
  deletedBufs : ∀ b s, (body b s).deletedBufs = s.deletedBufs ++ [b]

theorem deletes_deleteBuf : Deletes false fun b s => s.deleteBuf b :=
  ⟨fun _ _ => rfl, fun _ _ => rfl, fun _ _ => rfl, fun _ _ => rfl⟩

theorem deletes_dropBuf : Deletes true fun b s => s.dropBuf b :=
  ⟨fun _ _ => rfl, fun _ _ => rfl, fun _ _ => rfl, fun _ _ => rfl⟩

theorem deletes_dropAttached : Deletes true fun b s => (s.deleteAttached b).dropBuf b :=
  ⟨fun _ _ => rfl, fun _ _ => rfl, fun _ _ => rfl, fun _ _ => rfl⟩

/-- A list that was emptied, beside another one. -/
structure Emptied (counted : Bool) (head other : PoolNode) (items others : List BufId)
    (s s' : LinkedPool) : Prop where
  ring : s'.links.Ring head []
  other : s'.links.Ring other (others.map .entry)
  uCount : s'.uCount = if counted then s.uCount - BitVec.ofNat 32 items.length else s.uCount
  allocated : s'.allocated = s.allocated
  deletedBufs : s'.deletedBufs = s.deletedBufs ++ items

section

variable {s s' : LinkedPool} {free inUse : List BufId} {fuel : Nat}

/-- The loop takes one buffer after the other from the list, and ends. -/
theorem drain_emptied {counted : Bool} {body : BufId → LinkedPool → LinkedPool}
    (hbody : Deletes counted body) {head other : PoolNode} {items others : List BufId}
    (hring : s.links.Ring head (items.map .entry))
    (hother : s.links.Ring other (others.map .entry))
    (hapart : ∀ node ∈ head :: items.map .entry, node ∉ other :: others.map .entry)
    (hfuel : items.length < fuel) :
    ∃ s', drain head body fuel s = some s' ∧ Emptied counted head other items others s s' := by
  induction items generalizing s fuel with
  | nil =>
      obtain ⟨fuel, rfl⟩ := Nat.exists_eq_succ_of_ne_zero (Nat.ne_zero_of_lt hfuel)
      refine ⟨s, ?_, hring, hother, ?_, rfl, (List.append_nil _).symm⟩
      · rw [drain, if_pos (hring.isListEmpty_iff.mpr rfl)]
      · split
        next => exact (BitVec.sub_zero _).symm
        next => rfl
  | cons b items ih =>
      obtain ⟨fuel, rfl⟩ := Nat.exists_eq_succ_of_ne_zero (Nat.ne_zero_of_lt hfuel)
      have hempty : ¬ s.links.isListEmpty head = true := by
        rw [hring.isListEmpty_iff]
        exact List.cons_ne_nil _ _
      obtain ⟨links, hremove, hrest, hsame⟩ := hring.removeHeadList
      have hother' : links.Ring other (others.map .entry) :=
        ring_of_sameAt hother hsame fun node hmem hnode => hapart node hnode hmem
      have hlinks := hbody.links b { s with links := links }
      obtain ⟨s', hdrain, hemptied⟩ := ih (s := body b { s with links := links })
        (hlinks ▸ hrest) (hlinks ▸ hother')
        (fun node hmem => by
          refine hapart node ?_
          rcases List.mem_cons.mp hmem with rfl | hmem
          · exact List.mem_cons_self
          · exact List.mem_cons_of_mem _ (List.mem_cons_of_mem _ hmem))
        (Nat.lt_of_succ_lt_succ hfuel)
      refine ⟨s', ?_, hemptied.ring, hemptied.other, ?_, ?_, ?_⟩
      · rw [drain, if_neg hempty, hremove]
        exact hdrain
      · rw [hemptied.uCount, hbody.uCount]
        split
        next => rw [List.length_cons]; bv_omega
        next => rfl
      · rw [hemptied.allocated, hbody.allocated]
      · rw [hemptied.deletedBufs, hbody.deletedBufs, List.append_assoc]
        rfl

/-- A loop that has ended does so with more fuel. -/
theorem drain_le {head : PoolNode} {body : BufId → LinkedPool → LinkedPool} {more : Nat}
    (hle : fuel ≤ more) (hdrain : drain head body fuel s = some s') :
    drain head body more s = some s' := by
  induction fuel generalizing s more with
  | zero => cases hdrain
  | succ fuel ih =>
      obtain ⟨more, rfl⟩ := Nat.exists_eq_succ_of_ne_zero (Nat.ne_zero_of_lt hle)
      rw [drain] at hdrain ⊢
      split at hdrain
      next hempty => rwa [if_pos hempty]
      next hempty =>
        rw [if_neg hempty]
        obtain ⟨⟨node, links⟩, hremove, hrest⟩ := Option.bind_eq_some_iff.mp hdrain
        rw [hremove, Option.bind_some]
        cases node with
        | entry b => exact ih (Nat.le_of_succ_le_succ hle) hrest
        | freeBufs => cases hrest
        | inUseBufs => cases hrest

/-- With the free list emptied, the buffers in use are left. -/
theorem Emptied.holds {counted : Bool} (hholds : s.Holds free inUse)
    (hemptied : Emptied counted .freeBufs .inUseBufs free inUse s s') : s'.Holds [] inUse where
  freeRing := hemptied.ring
  inUseRing := hemptied.other
  apart := (List.nodup_append.mp hholds.apart).2.1
  below b hmem := by
    rw [hemptied.allocated]
    exact hholds.below b (List.mem_append_right _ hmem)
  live b hmem hdeleted := by
    rw [hemptied.deletedBufs] at hdeleted
    rcases List.mem_append.mp hdeleted with hbefore | hfree
    · exact hholds.live b (List.mem_append_right _ hmem) hbefore
    · exact hholds.not_mem_inUse hfree hmem
  deletedBelow b hdeleted := by
    rw [hemptied.allocated]
    rw [hemptied.deletedBufs] at hdeleted
    rcases List.mem_append.mp hdeleted with hbefore | hfree
    · exact hholds.deletedBelow b hbefore
    · exact hholds.below b (List.mem_append_left _ hfree)

/-- With the list of those in use emptied, the free buffers are left. -/
theorem Emptied.holds_free {counted : Bool} (hholds : s.Holds free inUse)
    (hemptied : Emptied counted .inUseBufs .freeBufs inUse free s s') : s'.Holds free [] where
  freeRing := hemptied.other
  inUseRing := hemptied.ring
  apart := by
    rw [List.append_nil]
    exact (List.nodup_append.mp hholds.apart).1
  below b hmem := by
    rw [List.append_nil] at hmem
    rw [hemptied.allocated]
    exact hholds.below b (List.mem_append_left _ hmem)
  live b hmem hdeleted := by
    rw [List.append_nil] at hmem
    rw [hemptied.deletedBufs] at hdeleted
    rcases List.mem_append.mp hdeleted with hbefore | hused
    · exact hholds.live b (List.mem_append_left _ hmem) hbefore
    · exact hholds.not_mem_inUse hmem hused
  deletedBelow b hdeleted := by
    rw [hemptied.allocated]
    rw [hemptied.deletedBufs] at hdeleted
    rcases List.mem_append.mp hdeleted with hbefore | hused
    · exact hholds.deletedBelow b hbefore
    · exact hholds.below b (List.mem_append_right _ hused)

/-- The number of allocations that succeed before one fails, of `left` from the `i`-th on. -/
def succeeding (allocates : Nat → Bool) (i left : Nat) : Nat :=
  ((List.range' i left).takeWhile allocates).length

theorem succeeding_le (allocates : Nat → Bool) (i left : Nat) :
    succeeding allocates i left ≤ left := by
  have hprefix := (List.takeWhile_prefix (l := List.range' i left) allocates).length_le
  rwa [List.length_range'] at hprefix

theorem succeeding_eq_of_all {allocates : Nat → Bool} {cnt : Nat}
    (hall : ∀ i < cnt, allocates i = true) : succeeding allocates 0 cnt = cnt := by
  have hwhole : (List.range' 0 cnt).takeWhile allocates = List.range' 0 cnt := by
    refine List.takeWhile_eq_self_iff.mpr fun i hmem => hall i ?_
    rw [List.mem_range'_1] at hmem
    omega
  rw [succeeding, hwhole, List.length_range']

theorem all_of_succeeding_eq {allocates : Nat → Bool} {cnt : Nat}
    (hwhole : succeeding allocates 0 cnt = cnt) : ∀ i < cnt, allocates i = true := by
  intro i hlt
  have hprefix := List.takeWhile_prefix (l := List.range' 0 cnt) allocates
  have hself : (List.range' 0 cnt).takeWhile allocates = List.range' 0 cnt :=
    hprefix.eq_of_length (by rw [List.length_range']; exact hwhole)
  refine List.takeWhile_eq_self_iff.mp hself i ?_
  rw [List.mem_range'_1]
  omega

theorem first_of_succeeding_eq_zero {allocates : Nat → Bool} {cnt : Nat}
    (hzero : succeeding allocates 0 cnt = 0) (hne : cnt ≠ 0) : allocates 0 = false := by
  obtain ⟨cnt, rfl⟩ := Nat.exists_eq_succ_of_ne_zero hne
  rw [succeeding, List.range'_succ, List.takeWhile_cons] at hzero
  by_contra hfirst
  rw [if_pos (Bool.eq_true_of_not_eq_false hfirst)] at hzero
  cases hzero

theorem succeeding_eq_zero {allocates : Nat → Bool} (hfirst : allocates 0 = false) (cnt : Nat) :
    succeeding allocates 0 cnt = 0 := by
  cases cnt with
  | zero => rfl
  | succ cnt =>
      rw [succeeding, List.range'_succ, List.takeWhile_cons, hfirst]
      rfl

/-- `k` new buffers were added to the free list, cleared. -/
structure Added (k : Nat) (free inUse : List BufId) (s s' : LinkedPool) : Prop where
  holds : s'.Holds (free ++ List.range' s.allocated k) inUse
  uCount : s'.uCount = s.uCount + BitVec.ofNat 32 k
  deletedMem : s'.deletedMem = s.deletedMem
  kept : ∀ b < s.allocated, s'.fields b = s.fields b
  cleared : ∀ b ∈ List.range' s.allocated k, s'.fields b = .zero

theorem addBuffers_added (allocates : Nat → Bool) (left i : Nat) (hholds : s.Holds free inUse) :
    ∃ s', addBuffers allocates left i s = some s' ∧
      Added (succeeding allocates i left) free inUse s s' := by
  have hnone : Added 0 free inUse s s :=
    ⟨by rwa [List.range'_zero, List.append_nil], (BitVec.add_zero _).symm, rfl, fun _ _ => rfl,
      nofun⟩
  induction left generalizing i s free with
  | zero => exact ⟨s, rfl, hnone⟩
  | succ left ih =>
      rw [addBuffers]
      split
      next hallocates =>
        obtain ⟨s₁, hadd, hholds₁, huCount, hallocated, hmem, -, hfields⟩ := hholds.addBuffer
        obtain ⟨s', hrest, hadded⟩ := ih (i + 1) hholds₁
          ⟨by rwa [List.range'_zero, List.append_nil], (BitVec.add_zero _).symm, rfl,
            fun _ _ => rfl, nofun⟩
        have hcount : succeeding allocates i (left + 1) =
            succeeding allocates (i + 1) left + 1 := by
          rw [succeeding, List.range'_succ, List.takeWhile_cons, if_pos hallocates]
          rfl
        rw [hadd, hcount]
        refine ⟨s', hrest, ?_, ?_, hadded.deletedMem.trans hmem, fun b hlt => ?_, fun b hnew => ?_⟩
        · have hall := hadded.holds
          rwa [hallocated, List.append_assoc, List.singleton_append, ← List.range'_succ] at hall
        · rw [hadded.uCount, huCount]
          bv_omega
        · rw [hadded.kept b (hallocated ▸ Nat.lt_succ_of_lt hlt), hfields,
            Function.update_of_ne (Nat.ne_of_lt hlt)]
        · rw [List.range'_succ, List.mem_cons] at hnew
          rcases hnew with rfl | hnew
          · rw [hadded.kept _ (hallocated ▸ Nat.lt_succ_self _), hfields, Function.update_self]
          · exact hadded.cleared b (hallocated ▸ hnew)
      next hfails =>
        have hcount : succeeding allocates i (left + 1) = 0 := by
          rw [succeeding, List.range'_succ, List.takeWhile_cons, if_neg hfails]
          rfl
        rw [hcount]
        exact ⟨s, rfl, hnone⟩

/-- `Init` on a pool that counts nothing. If all allocations succeed, or the first one
fails, the count is that of the free list. Otherwise the free list is empty again, and the
count and the answer are not. -/
theorem init_eq (cnt : BitVec 32) (allocates : Nat → Bool) (hcount : s.uCount = 0)
    (hdeleted : ∀ b ∈ s.deletedBufs, b < s.allocated)
    (hfuel : succeeding allocates 0 cnt.toNat < fuel) :
    ∃ s', s.init cnt allocates fuel =
        some (s', decide (0 < succeeding allocates 0 cnt.toNat)) ∧
      s'.uCount.toNat = succeeding allocates 0 cnt.toNat ∧
      s'.Holds (if succeeding allocates 0 cnt.toNat = cnt.toNat then
        List.range' s.allocated cnt.toNat else []) [] := by
  obtain ⟨s₁, hadd, hadded⟩ :=
    addBuffers_added allocates cnt.toNat 0 (holds_initializeHeads hdeleted)
  have hle := succeeding_le allocates 0 cnt.toNat
  generalize succeeding allocates 0 cnt.toNat = k at *
  have hlt := cnt.isLt
  have huCount : s₁.uCount = BitVec.ofNat 32 k := by
    rw [hadded.uCount, show s.initializeHeads.uCount = 0 from hcount]
    exact BitVec.zero_add _
  have htoNat : s₁.uCount.toNat = k := by
    rw [huCount, BitVec.toNat_ofNat, Nat.mod_eq_of_lt (by omega)]
  have hanswer : ∀ s₂ : LinkedPool, s₂.uCount = s₁.uCount →
      decide (0 < s₂.uCount) = decide (0 < k) := by
    intro s₂ hsame
    refine decide_eq_decide.mpr ?_
    rw [hsame, BitVec.lt_def, htoNat]
    rfl
  have hholds := hadded.holds
  rw [List.nil_append] at hholds
  rw [init, hadd, Option.bind_eq_bind, Option.bind_some]
  by_cases hk : k = cnt.toNat
  · have hfull : ¬ s₁.uCount ≠ cnt := by
      rw [not_not]
      exact BitVec.eq_of_toNat_eq (htoNat.trans hk)
    rw [if_neg hfull]
    refine ⟨s₁, ?_, htoNat, ?_⟩
    · rw [← hanswer s₁ rfl]
      rfl
    · rw [if_pos hk, ← hk]
      exact hholds
  · have hshort : s₁.uCount ≠ cnt := fun h => hk (htoNat.symm.trans (congrArg BitVec.toNat h))
    obtain ⟨s₂, hdrain, hemptied⟩ := drain_emptied deletes_deleteBuf hholds.freeRing
      hholds.inUseRing (fun node hmem => hholds.nodes_apart hmem) (by
        rw [List.length_range']
        exact hfuel)
    have hsame : s₂.uCount = s₁.uCount := hemptied.uCount
    rw [if_pos hshort, hdrain]
    refine ⟨s₂, ?_, hsame ▸ htoNat, ?_⟩
    · rw [← hanswer s₂ hsame]
      rfl
    · rw [if_neg hk]
      exact hemptied.holds hholds

theorem init_le {cnt : BitVec 32} {allocates : Nat → Bool} {more : Nat} {answer : Bool}
    (hle : fuel ≤ more) (hinit : s.init cnt allocates fuel = some (s', answer)) :
    s.init cnt allocates more = some (s', answer) := by
  rw [init, Option.bind_eq_bind, Option.bind_eq_some_iff] at hinit
  obtain ⟨s₁, hadd, hinit⟩ := hinit
  rw [init, hadd, Option.bind_eq_bind, Option.bind_some]
  by_cases hshort : s₁.uCount ≠ cnt
  · rw [if_pos hshort] at hinit ⊢
    obtain ⟨s₂, hdrain, hreturn⟩ := Option.bind_eq_some_iff.mp hinit
    rwa [drain_le hle hdrain]
  · rwa [if_neg hshort] at hinit ⊢

theorem close_le {more : Nat} (hle : fuel ≤ more) (hclose : s.close fuel = some s') :
    s.close more = some s' := by
  obtain ⟨s₁, hused, hfree⟩ := Option.bind_eq_some_iff.mp hclose
  exact Option.bind_eq_some_iff.mpr ⟨s₁, drain_le hle hused, drain_le hle hfree⟩

/-- `Close` empties both lists and takes every buffer off the count. -/
theorem Holds.close (hholds : s.Holds free inUse) (hfree : free.length < fuel)
    (hused : inUse.length < fuel) :
    ∃ s', s.close fuel = some s' ∧ s'.Holds [] [] ∧
      s'.uCount = s.uCount - BitVec.ofNat 32 inUse.length - BitVec.ofNat 32 free.length := by
  obtain ⟨s₁, hdrain₁, hemptied₁⟩ := drain_emptied deletes_dropBuf hholds.inUseRing hholds.freeRing
    (fun node hmem hother => hholds.nodes_apart hother hmem) hused
  have hholds₁ := hemptied₁.holds_free hholds
  obtain ⟨s₂, hdrain₂, hemptied₂⟩ := drain_emptied deletes_dropAttached hholds₁.freeRing
    hholds₁.inUseRing (fun node hmem => hholds₁.nodes_apart hmem) hfree
  refine ⟨s₂, ?_, hemptied₂.holds hholds₁, ?_⟩
  · rw [LinkedPool.close, hdrain₁]
    exact hdrain₂
  · rw [hemptied₂.uCount, hemptied₁.uCount]
    rfl

end

/-- A call of one of the four functions. -/
inductive Label
  | init (cnt : BitVec 32) (allocates : Nat → Bool) (fuel : Nat)
  | getBuf (size respSize : Int) (respBuf : BufPtr)
  | freeBuf (b : BufId) (fuel : Nat)
  | close (fuel : Nat)

/-- A call that comes back. -/
def system : System LinkedPool Label where
  step s
    | .init cnt allocates fuel => (s.init cnt allocates fuel).map Prod.fst
    | .getBuf size respSize respBuf => (s.getBuf size respSize respBuf).map Prod.snd
    | .freeBuf b fuel => s.freeBuf b fuel
    | .close fuel => s.close fuel

/-- The buffer is on the list of those in use. -/
def InUse (s : LinkedPool) (b : BufId) : Prop := ∃ free inUse, s.Holds free inUse ∧ b ∈ inUse

/-- `Init` meets a count of zero, and all of its allocations succeed or the first one fails;
`FreeBuf` is called with a buffer in use. -/
def Careful (s : LinkedPool) : Label → Prop
  | .init cnt allocates _ =>
      s.uCount = 0 ∧ ((∀ i < cnt.toNat, allocates i = true) ∨ allocates 0 = false)
  | .freeBuf b _ => s.InUse b
  | .getBuf .. | .close _ => True

/-- The count is that of the buffers on the two lists. -/
def Counted (s : LinkedPool) : Prop :=
  ∃ free inUse, s.Holds free inUse ∧ s.uCount.toNat = free.length + inUse.length

/-- `Init` answers `TRUE` only if the free list holds as many buffers as were asked for. -/
def InitSound (s : LinkedPool) (allowed : LinkedPool → Label → Prop) : Prop :=
  ∀ cnt allocates fuel s', allowed s (.init cnt allocates fuel) →
    s.init cnt allocates fuel = some (s', true) →
    ∃ free, s'.Holds free [] ∧ free.length = cnt.toNat

/-- `Close` leaves no buffer, and a count of zero. -/
def CloseSound (s : LinkedPool) : Prop :=
  ∀ fuel s', s.close fuel = some s' → s'.Holds [] [] ∧ s'.uCount = 0

/-- The count is right, unless there was no `Init` yet, and so are the answer of `Init`, called
as it may be, and what `Close` leaves. -/
def CountKept (s : LinkedPool) (allowed : LinkedPool → Label → Prop) : Prop :=
  (s = constructed ∨ s.Counted) ∧ s.InitSound allowed ∧ s.CloseSound

section

variable {s s' : LinkedPool} {free inUse : List BufId} {fuel : Nat} {b : BufId}

/-- Before the first `Init` the pointers lead nowhere. -/
theorem constructed_step {label : Label} (hstep : system.step constructed label = some s') :
    ∃ cnt allocates fuel, label = .init cnt allocates fuel := by
  cases label with
  | init cnt allocates fuel => exact ⟨cnt, allocates, fuel, rfl⟩
  | getBuf size respSize respBuf => cases hstep
  | freeBuf b fuel => cases fuel <;> cases hstep
  | close fuel => cases fuel <;> cases hstep

/-- What a careful `Init` leaves. -/
theorem init_careful {cnt : BitVec 32} {allocates : Nat → Bool} {answer : Bool}
    (hcareful : s.Careful (.init cnt allocates fuel))
    (hdeleted : ∀ b ∈ s.deletedBufs, b < s.allocated)
    (hinit : s.init cnt allocates fuel = some (s', answer)) :
    s'.Counted ∧ (answer = true → ∃ free, s'.Holds free [] ∧ free.length = cnt.toNat) := by
  obtain ⟨hcount, hallocates⟩ := hcareful
  obtain ⟨s₁, heq, huCount, hholds⟩ := init_eq cnt allocates hcount hdeleted
    (Nat.lt_of_lt_of_le (Nat.lt_succ_self _)
      (Nat.le_max_right fuel (succeeding allocates 0 cnt.toNat + 1)))
  obtain ⟨rfl, rfl⟩ := Prod.mk.inj
    (Option.some.inj (heq.symm.trans (init_le (Nat.le_max_left _ _) hinit)))
  rcases hallocates with hall | hfirst
  · rw [succeeding_eq_of_all hall] at huCount hholds
    rw [if_pos rfl] at hholds
    have hlength : (List.range' s.allocated cnt.toNat).length = cnt.toNat := List.length_range'
    exact ⟨⟨_, _, hholds, huCount.trans hlength.symm⟩, fun _ => ⟨_, hholds, hlength⟩⟩
  · rw [succeeding_eq_zero hfirst] at huCount hholds ⊢
    have hempty : s₁.Holds [] [] := by
      split at hholds
      next hzero => rwa [← hzero] at hholds
      next => exact hholds
    exact ⟨⟨_, _, hempty, huCount⟩, fun h => absurd h (by decide)⟩

/-- An `Init` that meets a count of zero leaves it right exactly if it is careful. -/
theorem init_counted_iff {cnt : BitVec 32} {allocates : Nat → Bool} (hcount : s.uCount = 0)
    (hdeleted : ∀ b ∈ s.deletedBufs, b < s.allocated)
    (hfuel : succeeding allocates 0 cnt.toNat < fuel) :
    (∃ s' answer, s.init cnt allocates fuel = some (s', answer) ∧ s'.Counted) ↔
      s.Careful (.init cnt allocates fuel) := by
  obtain ⟨s₁, heq, huCount, hholds⟩ := init_eq cnt allocates hcount hdeleted hfuel
  constructor
  · rintro ⟨s', answer, hinit, free, inUse, hholds', hcounted⟩
    obtain ⟨rfl, -⟩ := Prod.mk.inj (Option.some.inj (heq.symm.trans hinit))
    obtain ⟨rfl, rfl⟩ := hholds.unique hholds'
    refine ⟨hcount, ?_⟩
    by_cases hwhole : succeeding allocates 0 cnt.toNat = cnt.toNat
    · exact .inl (all_of_succeeding_eq hwhole)
    · rw [huCount, if_neg hwhole] at hcounted
      exact .inr (first_of_succeeding_eq_zero hcounted fun h => hwhole (hcounted.trans h.symm))
  · exact fun hcareful => ⟨s₁, _, heq, (init_careful hcareful hdeleted heq).1⟩

/-- Buffers only move between the lists. -/
theorem Counted.of_perm {free' inUse' : List BufId} (hcount : s.uCount.toNat = free.length +
    inUse.length) (hholds' : s'.Holds free' inUse') (huCount : s'.uCount = s.uCount)
    (hlength : free'.length + inUse'.length = free.length + inUse.length) : s'.Counted :=
  ⟨free', inUse', hholds', by rw [huCount, hcount, hlength]⟩

/-- `Close` on a pool whose count is right. -/
theorem Counted.close (hcounted : s.Counted) : s.CloseSound := by
  intro fuel s' hclose
  obtain ⟨free, inUse, hholds, hcount⟩ := hcounted
  have henough := Nat.lt_succ_of_le (Nat.le_max_right fuel (free.length + inUse.length))
  obtain ⟨s₁, hclosed, hempty, huCount⟩ := hholds.close
    (Nat.lt_of_le_of_lt (Nat.le_add_right _ _) henough)
    (Nat.lt_of_le_of_lt (Nat.le_add_left _ _) henough)
  have hle : fuel ≤ max fuel (free.length + inUse.length) + 1 := by omega
  have hmore := close_le hle hclose
  obtain rfl := Option.some.inj (hmore.symm.trans hclosed)
  refine ⟨hempty, ?_⟩
  rw [huCount]
  bv_omega

/-- A careful call keeps the count right. -/
theorem Counted.step {label : Label} (hcounted : s.Counted) (hcareful : s.Careful label)
    (hstep : system.step s label = some s') : s'.Counted := by
  obtain ⟨free, inUse, hholds, hcount⟩ := hcounted
  cases label with
  | init cnt allocates fuel =>
      obtain ⟨⟨s₁, answer⟩, hinit, rfl⟩ := Option.map_eq_some_iff.mp hstep
      exact (init_careful hcareful hholds.deletedBelow hinit).1
  | getBuf size respSize respBuf =>
      obtain ⟨⟨result, s₁⟩, hget, rfl⟩ := Option.map_eq_some_iff.mp hstep
      cases free with
      | nil =>
          rw [hholds.getBuf_nil] at hget
          obtain ⟨-, rfl⟩ := Prod.mk.inj (Option.some.inj hget)
          exact ⟨_, _, hholds, hcount⟩
      | cons b free =>
          obtain ⟨links, hgot, hholds'⟩ := hholds.getBuf size respSize respBuf
          obtain ⟨-, rfl⟩ := Prod.mk.inj (Option.some.inj (hget.symm.trans hgot))
          refine .of_perm hcount hholds' rfl ?_
          simp only [List.length_append, List.length_cons, List.length_nil]
          omega
  | freeBuf b fuel =>
      obtain ⟨free', inUse', hused, hmem⟩ := hcareful
      obtain ⟨rfl, rfl⟩ := hholds.unique hused
      obtain ⟨links, rfl, hholds'⟩ := hholds.of_freeBuf hmem hstep
      refine .of_perm hcount hholds' rfl ?_
      have hpos := List.length_pos_of_mem hmem
      rw [List.length_append, List.length_singleton, List.length_erase_of_mem hmem]
      omega
  | close fuel =>
      obtain ⟨hempty, huCount⟩ := Counted.close ⟨_, _, hholds, hcount⟩ fuel s' hstep
      exact ⟨[], [], hempty, congrArg BitVec.toNat huCount⟩

/-- The state that a first call leaves, and any later one. -/
theorem reachUnder_careful (hreach : system.ReachUnder Careful constructed s) :
    s = constructed ∨ s.Counted := by
  refine hreach.invariant (I := fun s => s = constructed ∨ s.Counted) (.inl rfl)
    fun before label after hbefore hcareful hstep => .inr ?_
  rcases hbefore with rfl | hcounted
  · obtain ⟨cnt, allocates, fuel, rfl⟩ := constructed_step hstep
    obtain ⟨⟨s₁, answer⟩, hinit, rfl⟩ := Option.map_eq_some_iff.mp hstep
    exact (init_careful hcareful nofun hinit).1
  · exact hcounted.step hcareful hstep

end

/-- Along careful calls the count is right. -/
theorem countKept_of_careful {s : LinkedPool} (hreach : system.ReachUnder Careful constructed s) :
    s.CountKept Careful := by
  have hstate := reachUnder_careful hreach
  refine ⟨hstate, fun cnt allocates fuel s' hcareful hinit => ?_, fun fuel s' hclose => ?_⟩
  · refine (init_careful hcareful ?_ hinit).2 rfl
    rcases hstate with rfl | ⟨free, inUse, hholds, -⟩
    · nofun
    · exact hholds.deletedBelow
  · rcases hstate with rfl | hcounted
    · cases fuel <;> cases hclose
    · exact hcounted.close fuel s' hclose

/-- A first `Init` with two buffers is a careful call. -/
theorem countKept_two : ∃ s, system.step constructed (.init 2 (fun _ => true) 3) = some s ∧
    s.CountKept Careful := by
  have htwo : succeeding (fun _ => true) 0 2 < 3 := by decide
  obtain ⟨s, hinit, -, -⟩ := init_eq (s := constructed) 2 (fun _ => true) rfl nofun htwo
  have hstep : system.step constructed (.init 2 (fun _ => true) 3) = some s :=
    Option.map_eq_some_iff.mpr ⟨_, hinit, rfl⟩
  have hcareful : Careful constructed (.init 2 (fun _ => true) 3) := ⟨rfl, .inl fun _ _ => rfl⟩
  exact ⟨s, hstep, countKept_of_careful (.next .refl hcareful hstep)⟩

/-- Of two allocations the second fails. `Init` answers `TRUE`, with an empty free list and a
count of one. -/
theorem not_countKept :
    ¬ ∀ s, system.Reach constructed s → s.CountKept fun _ _ => True := by
  intro hclaim
  have hsecond : succeeding (fun i => i == 0) 0 2 < 2 := by decide
  obtain ⟨s', hinit, -, hholds⟩ := init_eq (s := constructed) 2 (fun i => i == 0) rfl nofun hsecond
  obtain ⟨free, hfree, hlength⟩ := (hclaim constructed .refl).2.1 2 (fun i => i == 0) 2 s' trivial
    hinit
  obtain ⟨rfl, -⟩ := hholds.unique hfree
  cases hlength

end LinkedPool

end VirtDisplay
