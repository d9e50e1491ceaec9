/-
# Memory that is copied around

A program that only copies bytes leaves, at every address, a byte that was somewhere in memory
when it began. `origin` says where: it is read off the list of the copies, whatever the bytes
are. It answers for programs that read from one place and write to another, so that no copy
reads what an earlier one wrote. Two such programs agree on every memory if their origins are
the same, and on one memory if the origins hold the same bytes there.

The copies of a loop whose two pointers move on by fixed steps are listed in the order of the
loop, each at so many steps from where the pointers started.
-/

import Mathlib.Tactic.Ring
import VirtDisplay.Foundation.ByteRange

universe u

/-- The bytes at all addresses. -/
abbrev ByteMemory : Type := Address → BitVec 8

/-- So many bytes are loaded from one place and then stored at another. -/
structure ByteCopy where
  dst : Address
  src : Address
  length : Nat
  deriving DecidableEq

namespace ByteCopy

variable (c : ByteCopy)

/-- The bytes that are stored. -/
def target : ByteRange := ⟨c.dst, c.length⟩
/-- The bytes that are loaded. -/
def source : ByteRange := ⟨c.src, c.length⟩

/-- Where the byte comes from that is stored at an address of the target. -/
def loaded (a : Address) : Address := c.src + (a - c.dst)

/-- The memory after the copy. -/
def run (m : ByteMemory) : ByteMemory := fun a => if c.target.Holds a then m (c.loaded a) else m a

end ByteCopy

/-- Memory, and the copies that were made in it. -/
structure CopiedMemory where
  bytes : ByteMemory
  copies : List ByteCopy

namespace CopiedMemory

/-- Make a copy. -/
def copy (dst src : Address) (length : Nat) (m : CopiedMemory) : CopiedMemory :=
  ⟨ByteCopy.run ⟨dst, src, length⟩ m.bytes, m.copies ++ [⟨dst, src, length⟩]⟩

/-- Make a list of copies. -/
def copyAll (cs : List ByteCopy) (m : CopiedMemory) : CopiedMemory :=
  cs.foldl (fun m c => m.copy c.dst c.src c.length) m

/-- Set the bytes of a range. -/
def fill (r : ByteRange) (value : BitVec 8) (m : CopiedMemory) : CopiedMemory :=
  { m with bytes := fun a => if r.Holds a then value else m.bytes a }

variable {m : CopiedMemory} {cs ds : List ByteCopy} {a : Address}

@[simp]
theorem copyAll_nil : m.copyAll [] = m := rfl

theorem copyAll_append : m.copyAll (cs ++ ds) = (m.copyAll cs).copyAll ds := List.foldl_append

@[simp]
theorem copyAll_singleton (c : ByteCopy) : m.copyAll [c] = m.copy c.dst c.src c.length := rfl

/-- A list of lists, one after the other. -/
theorem foldl_copyAll {α : Type u} (f : α → List ByteCopy) (l : List α) (m : CopiedMemory) :
    l.foldl (fun m x => m.copyAll (f x)) m = m.copyAll (l.flatMap f) :=
  List.foldl_flatMap.symm

@[simp]
theorem copies_copyAll (cs : List ByteCopy) (m : CopiedMemory) :
    (m.copyAll cs).copies = m.copies ++ cs := by
  induction cs generalizing m with
  | nil => exact (List.append_nil _).symm
  | cons c cs ih =>
      have hrest := ih (m.copy c.dst c.src c.length)
      rw [copy, List.append_assoc] at hrest
      exact hrest

/-- A byte that is in no target is left as it was. -/
theorem bytes_copyAll_of_not_holds (hnone : ∀ c ∈ cs, ¬ c.target.Holds a) :
    (m.copyAll cs).bytes a = m.bytes a := by
  induction cs generalizing m with
  | nil => rfl
  | cons c cs ih =>
      refine (ih fun d hmem => hnone d (List.mem_cons_of_mem _ hmem)).trans ?_
      exact if_neg (hnone c List.mem_cons_self)

/-- The place that a byte comes from behind a copy, if it came from `o` before. -/
def trace (a o : Address) (c : ByteCopy) : Address := if c.target.Holds a then c.loaded a else o

/-- The place that the byte at `a` has come from, after a list of copies. -/
def origin (cs : List ByteCopy) (a : Address) : Address := cs.foldl (trace a) a

/-- No copy reads what another one writes. -/
def Apart (cs : List ByteCopy) : Prop := ∀ c ∈ cs, ∀ d ∈ cs, ¬ c.source.Meets d.target

/-- A byte of the target comes from the source. -/
theorem source_holds_loaded {c : ByteCopy} (hholds : c.target.Holds a) :
    c.source.Holds (c.loaded a) := by
  show (c.src + (a - c.dst) - c.src).toNat < c.length
  rwa [BitVec.add_comm, BitVec.add_sub_cancel]

/-- The memory after copies that keep apart. -/
theorem bytes_copyAll (hapart : Apart cs) (m : CopiedMemory) (a : Address) :
    (m.copyAll cs).bytes a = m.bytes (origin cs a) := by
  induction cs using List.reverseRecOn with
  | nil => rfl
  | append_singleton cs c ih =>
      have hbefore : Apart cs := fun d hd e he =>
        hapart d (List.mem_append_left _ hd) e (List.mem_append_left _ he)
      rw [copyAll_append, origin, List.foldl_append]
      show c.run (m.copyAll cs).bytes a = m.bytes (trace a (origin cs a) c)
      rw [ByteCopy.run, trace]
      split
      next hholds =>
        refine bytes_copyAll_of_not_holds fun d hmem htarget => ?_
        exact hapart c (List.mem_append_right _ List.mem_cons_self) d
          (List.mem_append_left _ hmem) ⟨_, source_holds_loaded hholds, htarget⟩
      next => exact ih hbefore

/-- Copies between two ranges that have no byte in common keep apart. -/
theorem apart_of_within {out into : ByteRange} (hnot : ¬ out.Meets into)
    (hsource : ∀ c ∈ cs, ∀ a, c.source.Holds a → out.Holds a)
    (htarget : ∀ c ∈ cs, ∀ a, c.target.Holds a → into.Holds a) : Apart cs := by
  rintro c hc d hd ⟨a, hloaded, hstored⟩
  exact hnot ⟨a, hsource c hc a hloaded, htarget d hd a hstored⟩

/-- The last element that a fold takes its value from. -/
theorem foldl_ite_eq {α : Type u} {β : Type} (covers : α → Prop) [DecidablePred covers]
    (value : α → β) (l : List α) (o : β) :
    l.foldl (fun o x => if covers x then value x else o) o =
      ((l.reverse.find? fun x => covers x).map value).getD o := by
  induction l using List.reverseRecOn with
  | nil => rfl
  | append_singleton l x ih =>
      rw [List.foldl_append, List.reverse_append, List.reverse_singleton, List.singleton_append,
        List.find?_cons, List.foldl_cons, List.foldl_nil, ih]
      by_cases hcovers : covers x
      · rw [if_pos hcovers, decide_eq_true hcovers]
        rfl
      · rw [if_neg hcovers, decide_eq_false hcovers]

/-- The last element of a kind in a list is followed by none of that kind. -/
theorem find?_reverse_eq_some_iff {α : Type u} {covers : α → Prop} [DecidablePred covers]
    {l : List α} {x : α} :
    (l.reverse.find? fun x => covers x) = some x ↔
      covers x ∧ ∃ before after, l = before ++ x :: after ∧ ∀ y ∈ after, ¬ covers y := by
  rw [List.find?_eq_some_iff_append, decide_eq_true_iff]
  refine and_congr_right fun _ => ⟨?_, ?_⟩
  · rintro ⟨after, before, heq, hnone⟩
    refine ⟨before.reverse, after.reverse, ?_, fun y hmem hcovers => ?_⟩
    · rw [← List.reverse_reverse l, heq, List.reverse_append, List.reverse_cons, List.append_assoc]
      rfl
    · have hnot := hnone y (List.mem_reverse.mp hmem)
      rw [decide_eq_true hcovers] at hnot
      cases hnot
  · rintro ⟨before, after, rfl, hnone⟩
    refine ⟨after.reverse, before.reverse, ?_, fun y hmem => ?_⟩
    · rw [List.reverse_append, List.reverse_cons, List.append_assoc]
      rfl
    · rw [decide_eq_false (hnone y (List.mem_reverse.mp hmem))]
      rfl

/-- Elements that all give the same value. -/
theorem foldl_ite_of_agree {α : Type u} {β : Type} {covers : α → Prop} [DecidablePred covers]
    {value : α → β} {l : List α} {x : α} {v : β} (hmem : x ∈ l) (hcovers : covers x)
    (hagree : ∀ y ∈ l, covers y → value y = v) (o : β) :
    l.foldl (fun o x => if covers x then value x else o) o = v := by
  rw [foldl_ite_eq]
  cases hfind : l.reverse.find? fun x => covers x with
  | none =>
      have hnot := List.find?_eq_none.mp hfind x (List.mem_reverse.mpr hmem)
      exact absurd (decide_eq_true hcovers) hnot
  | some y =>
      obtain ⟨hy, before, after, rfl, -⟩ := find?_reverse_eq_some_iff.mp hfind
      exact hagree y (List.mem_append_right _ List.mem_cons_self) hy

/-- No element to take a value from. -/
theorem foldl_ite_of_none {α : Type u} {β : Type} {covers : α → Prop} [DecidablePred covers]
    {value : α → β} {l : List α} (hnone : ∀ y ∈ l, ¬ covers y) (o : β) :
    l.foldl (fun o x => if covers x then value x else o) o = o := by
  rw [foldl_ite_eq, List.find?_eq_none.mpr fun y hmem => ?_]
  · rfl
  · rw [decide_eq_true_iff]
    exact hnone y (List.mem_reverse.mp hmem)

/-- The byte that all copies to an address load it from. -/
theorem origin_of_agree {c : ByteCopy} (hmem : c ∈ cs) (hholds : c.target.Holds a)
    (hagree : ∀ d ∈ cs, d.target.Holds a → d.loaded a = c.loaded a) : origin cs a = c.loaded a :=
  foldl_ite_of_agree hmem hholds hagree a

/-- A copy in pieces leaves the same bytes. -/
theorem foldl_trace_pieces {dst src : Address} {w n : Nat} (hsize : w * n ≤ 2 ^ 64) (o : Address) :
    ((List.range n).map fun i =>
        (⟨dst + BitVec.ofNat 64 (w * i), src + BitVec.ofNat 64 (w * i), w⟩ : ByteCopy)).foldl
      (trace a) o = trace a o ⟨dst, src, w * n⟩ := by
  induction n with
  | zero => exact (if_neg (Nat.not_lt_zero _)).symm
  | succ n ih =>
      rw [Nat.mul_succ] at hsize
      have hpiece := ByteRange.holds_advanced_iff (b := dst) (a := a) hsize
      have hloaded : ByteCopy.loaded
          ⟨dst + BitVec.ofNat 64 (w * n), src + BitVec.ofNat 64 (w * n), w⟩ a =
            src + (a - dst) := by
        rw [ByteCopy.loaded]
        ring
      rw [List.range_succ, List.map_append, List.foldl_append, ih (by omega)]
      show trace a (trace a o ⟨dst, src, w * n⟩) ⟨_, _, w⟩ = trace a o ⟨dst, src, w * (n + 1)⟩
      rw [trace, trace, trace, hloaded]
      show (if ByteRange.Holds ⟨_, w⟩ a then _
          else if (a - dst).toNat < w * n then src + (a - dst) else o) =
        if (a - dst).toNat < w * (n + 1) then src + (a - dst) else o
      rw [Nat.mul_succ]
      by_cases hbefore : (a - dst).toNat < w * n
      · rw [if_pos hbefore, ite_self, if_pos (by omega)]
      · rw [if_neg hbefore]
        refine if_congr (hpiece.trans ?_) rfl rfl
        omega

/-- A loop with two pointers that move on by fixed steps. -/
def march {σ : Type u} (body : Address → Address → σ → σ) (dstStep srcStep : Address) :
    (left : Nat) → (dst src : Address) → σ → σ
  | 0, _, _, m => m
  | left + 1, dst, src, m =>
      march body dstStep srcStep left (dst + dstStep) (src + srcStep) (body dst src m)

/-- The copies that the loop `march` makes. -/
def marched (cs : Address → Address → List ByteCopy) (dstStep srcStep : Address) (left : Nat)
    (dst src : Address) : List ByteCopy :=
  (List.range left).flatMap fun i =>
    cs (dst + BitVec.ofNat 64 i * dstStep) (src + BitVec.ofNat 64 i * srcStep)

/-- A step, and then some more. -/
theorem add_step (start step : Address) (i : Nat) :
    start + step + BitVec.ofNat 64 i * step = start + BitVec.ofNat 64 (i + 1) * step := by
  have hsucc : BitVec.ofNat 64 (i + 1) = BitVec.ofNat 64 i + 1 := BitVec.ofNat_add i 1
  rw [hsucc]
  ring

theorem march_copyAll {body : Address → Address → CopiedMemory → CopiedMemory}
    {cs : Address → Address → List ByteCopy}
    (hbody : ∀ dst src m, body dst src m = m.copyAll (cs dst src))
    (dstStep srcStep : Address) (left : Nat) (dst src : Address) (m : CopiedMemory) :
    march body dstStep srcStep left dst src m =
      m.copyAll (marched cs dstStep srcStep left dst src) := by
  induction left generalizing dst src m with
  | zero => rfl
  | succ left ih =>
      have hrest : marched cs dstStep srcStep left (dst + dstStep) (src + srcStep) =
          (List.range left).flatMap fun i => cs
            (dst + BitVec.ofNat 64 (i + 1) * dstStep)
            (src + BitVec.ofNat 64 (i + 1) * srcStep) := by
        refine List.flatMap_congr fun i _ => ?_
        rw [add_step, add_step]
      have hfirst : cs (dst + BitVec.ofNat 64 0 * dstStep) (src + BitVec.ofNat 64 0 * srcStep) =
          cs dst src := by
        rw [BitVec.zero_mul, BitVec.zero_mul, BitVec.add_zero, BitVec.add_zero]
      rw [march, ih, hbody, ← copyAll_append, hrest, marched, List.range_succ_eq_map,
        List.flatMap_cons, List.flatMap_map, hfirst]

end CopiedMemory
