/-
# Trails

A list that is linked in memory is followed from each entry to the next. Nothing but the links
says where it ends, and a link may lead back to an entry that was passed before: then it does
not end at all. A list that ends passes no entry twice. So whoever knows all the places where
an entry can be needs to follow no more links than that, whatever they are looking for.
-/

import Mathlib.Data.List.Nodup
import Mathlib.Data.List.Perm.Subperm
import Mathlib.Logic.Relation

namespace Trails

open Relation

variable {α : Type*} {next : α → Option α} {x y z : α} {xs ys : List α} {n : Nat}

/-- One entry leads to the next. -/
def Leads (next : α → Option α) (x y : α) : Prop := next x = some y

/-- The entries from `x` on, of a list that ends. -/
inductive Trail (next : α → Option α) : α → List α → Prop
  | last {x : α} (hlast : next x = none) : Trail next x [x]
  | cons {x y : α} {xs : List α} (hnext : next x = some y) (rest : Trail next y xs) :
      Trail next x (x :: xs)

namespace Trail

theorem unique (h : Trail next x xs) (h' : Trail next x ys) : xs = ys := by
  induction h generalizing ys with
  | last hlast =>
      cases h' with
      | last _ => rfl
      | cons hnext rest => exact absurd (hlast.symm.trans hnext) nofun
  | cons hnext _ ih =>
      cases h' with
      | last hlast => exact absurd (hlast.symm.trans hnext) nofun
      | cons hnext' rest =>
          obtain rfl := Option.some.inj (hnext.symm.trans hnext')
          rw [ih rest]

theorem mem_self (h : Trail next x xs) : x ∈ xs := by
  cases h with
  | last _ => exact List.mem_singleton_self x
  | cons _ _ => exact List.mem_cons_self

/-- What comes from an entry on is a trail as well. -/
theorem of_mem (h : Trail next x xs) (hmem : y ∈ xs) :
    ∃ ys, Trail next y ys ∧ ys.length ≤ xs.length := by
  induction h with
  | last hlast =>
      obtain rfl := List.mem_singleton.mp hmem
      exact ⟨_, .last hlast, Nat.le_refl _⟩
  | cons hnext rest ih =>
      rcases List.mem_cons.mp hmem with rfl | hmem
      · exact ⟨_, .cons hnext rest, Nat.le_refl _⟩
      · obtain ⟨ys, htrail, hle⟩ := ih hmem
        exact ⟨ys, htrail, Nat.le_succ_of_le hle⟩

/-- No entry is passed twice: from there on, the trail would be shorter than itself. -/
theorem nodup (h : Trail next x xs) : xs.Nodup := by
  induction h with
  | last _ => exact List.nodup_singleton _
  | cons hnext rest ih =>
      refine List.nodup_cons.mpr ⟨fun hmem => ?_, ih⟩
      obtain ⟨ys, htrail, hle⟩ := rest.of_mem hmem
      rw [htrail.unique (.cons hnext rest)] at hle
      exact absurd hle (Nat.not_succ_le_self _)

theorem mem_iff (h : Trail next x xs) : y ∈ xs ↔ ReflTransGen (Leads next) x y := by
  constructor
  · intro hmem
    induction h with
    | last _ => rw [List.mem_singleton.mp hmem]
    | cons hnext _ ih =>
        rcases List.mem_cons.mp hmem with rfl | hmem
        · exact .refl
        · exact .head hnext (ih hmem)
  · intro hreach
    induction hreach using ReflTransGen.head_induction_on generalizing xs with
    | refl => exact h.mem_self
    | head hlead _ ih =>
        cases h with
        | last hlast => exact absurd (hlast.symm.trans hlead) nofun
        | cons hnext rest =>
            obtain rfl := Option.some.inj (hnext.symm.trans hlead)
            exact List.mem_cons_of_mem _ (ih rest)

/-- There are no more entries than places for them. -/
theorem length_le {places : List α} (h : Trail next x xs)
    (hplaces : ∀ y, ReflTransGen (Leads next) x y → y ∈ places) : xs.length ≤ places.length :=
  (h.nodup.subperm fun y hy => hplaces y (h.mem_iff.mp hy)).length_le

/-- A list that ends comes back to none of its entries. -/
theorem not_back (h : Trail next x xs) (hreach : ReflTransGen (Leads next) x y) :
    ¬ TransGen (Leads next) y y := by
  intro hback
  obtain ⟨ys, htrail, -⟩ := h.of_mem (h.mem_iff.mpr hreach)
  obtain ⟨z, hlead, hrest⟩ := TransGen.head'_iff.mp hback
  cases htrail with
  | last hlast => exact absurd (hlast.symm.trans hlead) nofun
  | cons hnext rest =>
      obtain rfl := Option.some.inj (hnext.symm.trans hlead)
      exact (List.nodup_cons.mp (Trail.cons hnext rest).nodup).1 (rest.mem_iff.mpr hrest)

end Trail

/-- A list with finitely many places ends if it comes back to none of its entries. -/
theorem exists_trail {places : List α}
    (hplaces : ∀ y, ReflTransGen (Leads next) x y → y ∈ places)
    (hback : ∀ y, ReflTransGen (Leads next) x y → ¬ TransGen (Leads next) y y) :
    ∃ xs, Trail next x xs := by
  classical
  -- Without the first entry, there is one place less for the others.
  induction hn : places.length generalizing places x with
  | zero => exact absurd (hplaces x .refl) (by simp [List.length_eq_zero_iff.mp hn])
  | succ n ih =>
      cases hnext : next x with
      | none => exact ⟨_, .last hnext⟩
      | some y =>
          have hlead : Leads next x y := hnext
          have hmem := hplaces x .refl
          have hlength : (places.erase x).length = n := by
            rw [List.length_erase_of_mem hmem, hn, Nat.add_sub_cancel]
          have hplaces' : ∀ z, ReflTransGen (Leads next) y z → z ∈ places.erase x := by
            intro z hreach
            refine (List.mem_erase_of_ne ?_).mpr (hplaces z (.head hlead hreach))
            rintro rfl
            exact hback z .refl (.head' hlead hreach)
          obtain ⟨xs, htrail⟩ :=
            ih hplaces' (fun z hreach => hback z (.head hlead hreach)) hlength
          exact ⟨_, .cons hnext htrail⟩

variable {p : α → Bool}

/-- The first entry from `x` on that satisfies `p`. -/
inductive Finds (next : α → Option α) (p : α → Bool) : α → α → Prop
  | here {x : α} (hp : p x = true) : Finds next p x x
  | later {x y z : α} (hp : p x = false) (hnext : next x = some y) (rest : Finds next p y z) :
      Finds next p x z

theorem Finds.unique (h : Finds next p x y) (h' : Finds next p x z) : y = z := by
  induction h with
  | here hp =>
      cases h' with
      | here _ => rfl
      | later hp' => exact absurd (hp.symm.trans hp') nofun
  | later hp hnext _ ih =>
      cases h' with
      | here hp' => exact absurd (hp.symm.trans hp') nofun
      | later _ hnext' rest' =>
          obtain rfl := Option.some.inj (hnext.symm.trans hnext')
          exact ih rest'

theorem Finds.satisfies (h : Finds next p x y) : p y = true := by
  induction h with
  | here hp => exact hp
  | later _ _ _ ih => exact ih

theorem Finds.reach (h : Finds next p x y) : ReflTransGen (Leads next) x y := by
  induction h with
  | here _ => exact .refl
  | later _ hnext _ ih => exact .head hnext ih

/-- An entry that satisfies `p` is not passed over. -/
theorem finds_of_reach (h : ReflTransGen (Leads next) x y) (hp : p y = true) :
    ∃ z, Finds next p x z ∧ ReflTransGen (Leads next) z y := by
  induction h using ReflTransGen.head_induction_on with
  | refl => exact ⟨y, .here hp, .refl⟩
  | @head x w hlead hrest ih =>
      cases hx : p x with
      | true => exact ⟨x, .here hx, .head hlead hrest⟩
      | false =>
          obtain ⟨z, hfinds, hreach⟩ := ih
          exact ⟨z, .later hx hlead hfinds, hreach⟩

/-- Follow at most so many links. -/
def seek (next : α → Option α) (p : α → Bool) : Nat → α → Option α
  | 0, _ => none
  | n + 1, x => if p x then some x else (next x).bind (seek next p n)

theorem finds_of_seek (h : seek next p n x = some y) : Finds next p x y := by
  induction n generalizing x with
  | zero => cases h
  | succ n ih =>
      unfold seek at h
      split at h
      next hp =>
        obtain rfl := Option.some.inj h
        exact .here hp
      next hp =>
        obtain ⟨z, hnext, hrest⟩ := Option.bind_eq_some_iff.mp h
        exact .later (Bool.eq_false_iff.mpr hp) hnext (ih hrest)

/-- The links that are followed on the way. -/
def stopAt (next : α → Option α) (p : α → Bool) (x : α) : Option α := if p x then none else next x

theorem trail_of_finds (h : Finds next p x y) :
    ∃ xs, Trail (stopAt next p) x xs ∧ ∀ n, xs.length ≤ n → seek next p n x = some y := by
  induction h with
  | here hp =>
      refine ⟨_, .last (if_pos hp), fun n hn => ?_⟩
      cases n with
      | zero => exact absurd hn (Nat.not_succ_le_zero _)
      | succ n => rw [seek, if_pos hp]
  | later hp hnext _ ih =>
      obtain ⟨xs, htrail, hseek⟩ := ih
      have hp' := Bool.eq_false_iff.mp hp
      refine ⟨_, .cons ((if_neg hp').trans hnext) htrail, fun n hn => ?_⟩
      cases n with
      | zero => exact absurd hn (Nat.not_succ_le_zero _)
      | succ n =>
          rw [seek, if_neg hp', hnext]
          exact hseek n (Nat.le_of_succ_le_succ hn)

/-- With as many links as there are places, the search misses nothing, even if the list does
not end. -/
theorem seek_eq_some_iff {places : List α}
    (hplaces : ∀ y, ReflTransGen (Leads next) x y → y ∈ places) (hn : places.length ≤ n) :
    seek next p n x = some y ↔ Finds next p x y := by
  refine ⟨finds_of_seek, fun h => ?_⟩
  obtain ⟨xs, htrail, hseek⟩ := trail_of_finds h
  refine hseek n (Nat.le_trans (htrail.length_le fun z hreach => hplaces z ?_) hn)
  exact ReflTransGen.mono (fun _ _ hlead => (Option.ite_none_left_eq_some.mp hlead).2) _ _ hreach

variable {hop : α → Option α}

/-- `hop` goes to the next entry that satisfies `p`. -/
def Hops (next : α → Option α) (p : α → Bool) (hop : α → Option α) : Prop :=
  ∀ x z, hop x = some z ↔ ∃ y, next x = some y ∧ Finds next p y z

theorem Hops.comes (hhop : Hops next p hop) (h : TransGen (Leads hop) x z) :
    TransGen (Leads next) x z := by
  induction h with
  | single hlead =>
      obtain ⟨y, hnext, hfinds⟩ := (hhop _ _).mp hlead
      exact .head' hnext hfinds.reach
  | tail _ hlead ih =>
      obtain ⟨y, hnext, hfinds⟩ := (hhop _ _).mp hlead
      exact ih.trans (.head' hnext hfinds.reach)

/-- Hopping leaves out no entry that satisfies `p`. -/
theorem Hops.of_comes (hhop : Hops next p hop) (h : TransGen (Leads next) x z)
    (hp : p z = true) : TransGen (Leads hop) x z := by
  induction h using TransGen.head_induction_on with
  | single hlead => exact .single ((hhop _ _).mpr ⟨z, hlead, .here hp⟩)
  | @head x y hlead _ ih =>
      cases hy : p y with
      | true => exact .head ((hhop _ _).mpr ⟨y, hlead, .here hy⟩) ih
      | false =>
          -- The entry between is passed over.
          have hpass : ∀ w, Leads hop y w → Leads hop x w := by
            intro w hw
            obtain ⟨v, hnext, hfinds⟩ := (hhop _ _).mp hw
            exact (hhop _ _).mpr ⟨y, hlead, .later hy hnext hfinds⟩
          obtain ⟨w, hw, hrest⟩ := TransGen.head'_iff.mp ih
          exact .head' (hpass w hw) hrest

/-- Hopping ends exactly if the list comes back to no entry that satisfies `p`. -/
theorem Hops.exists_trail_iff (hhop : Hops next p hop) {places : List α}
    (hplaces : ∀ y, ReflTransGen (Leads next) x y → y ∈ places) (hp : p x = true) :
    (∃ xs, Trail hop x xs) ↔
      ∀ y, ReflTransGen (Leads next) x y → p y = true → ¬ TransGen (Leads next) y y := by
  have hreach : ∀ {y}, ReflTransGen (Leads hop) x y → ReflTransGen (Leads next) x y := by
    intro y h
    rcases reflTransGen_iff_eq_or_transGen.mp h with rfl | hcomes
    · exact .refl
    · exact (hhop.comes hcomes).to_reflTransGen
  have hsatisfies : ∀ {y}, ReflTransGen (Leads hop) x y → p y = true := by
    intro y h
    rcases ReflTransGen.cases_tail h with rfl | ⟨w, -, hlead⟩
    · exact hp
    · obtain ⟨v, -, hfinds⟩ := (hhop _ _).mp hlead
      exact hfinds.satisfies
  constructor
  · rintro ⟨xs, htrail⟩ y hy hpy hback
    refine htrail.not_back ?_ (hhop.of_comes hback hpy)
    rcases reflTransGen_iff_eq_or_transGen.mp hy with rfl | hcomes
    · exact .refl
    · exact (hhop.of_comes hcomes hpy).to_reflTransGen
  · intro hback
    refine exists_trail (fun y hy => hplaces y (hreach hy)) fun y hy hcycle => ?_
    exact hback y (hreach hy) (hsatisfies hy) (hhop.comes hcycle)

/-- Hopping on a list that ends goes through the entries that satisfy `p`. -/
theorem Hops.trail_filter (hhop : Hops next p hop) (h : Trail next x xs)
    (hfinds : Finds next p x y) :
    Trail hop y (xs.filter p) := by
  induction h generalizing y with
  | @last x hlast =>
      cases hfinds with
      | here hp =>
          rw [List.filter_singleton, hp, cond_true]
          refine .last (Option.eq_none_iff_forall_ne_some.mpr fun z hz => ?_)
          obtain ⟨w, hnext, -⟩ := (hhop _ _).mp hz
          exact absurd (hlast.symm.trans hnext) nofun
      | later _ hnext _ => exact absurd (hlast.symm.trans hnext) nofun
  | @cons x w xs hnext rest ih =>
      cases hfinds with
      | here hp =>
          rw [List.filter_cons_of_pos hp]
          rcases hrest : xs.filter p with _ | ⟨z, zs⟩
          · refine .last (Option.eq_none_iff_forall_ne_some.mpr fun z hz => ?_)
            obtain ⟨w', hnext', hfinds⟩ := (hhop _ _).mp hz
            obtain rfl := Option.some.inj (hnext.symm.trans hnext')
            have hmem := List.mem_filter.mpr ⟨rest.mem_iff.mpr hfinds.reach, hfinds.satisfies⟩
            exact List.ne_nil_of_mem hmem hrest
          · have hmem : z ∈ xs.filter p := hrest ▸ List.mem_cons_self
            obtain ⟨hz, hpz⟩ := List.mem_filter.mp hmem
            obtain ⟨v, hfinds, -⟩ := finds_of_reach (rest.mem_iff.mp hz) hpz
            exact .cons ((hhop _ _).mpr ⟨w, hnext, hfinds⟩) (hrest ▸ ih hfinds)
      | later hp hnext' hfinds =>
          obtain rfl := Option.some.inj (hnext.symm.trans hnext')
          rw [List.filter_cons_of_neg (Bool.eq_false_iff.mp hp)]
          exact ih hfinds

end Trails
