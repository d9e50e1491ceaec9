/-
# Lending locked memory to a peer over a queue

A driver that gives memory to a device locks it, tells the device about it, and takes
it back later. Locking and unlocking take effect at once. Telling and asking back are
messages, and the device acts on them whenever it gets to them.

A `Ledger` is the driver's side of this: the locks it holds, and which lock it has lent
under which id and not asked back. It is a discipline on the driver alone: nothing is
lent that is not locked, and nothing is unlocked that is still lent. Programs are lists
of events, and `Triple` is their Hoare logic.

`Custody` is the assertion that carries proofs. The locks are those of a family of
slots, each slot has its own, and what is lent is lent under an id its slot shows.
-/

import Mathlib.Data.Set.Insert
import Mathlib.Logic.Function.Basic

namespace Lending

universe u v w

variable {Id : Type u} {Lock : Type v}

/-- The locks a driver holds, and what it has lent and not asked back. -/
structure Ledger (Id : Type u) (Lock : Type v) where
  lent : Set (Id × Lock)
  held : Set Lock

/-- The steps of a driver. -/
inductive Event (Id : Type u) (Lock : Type v)
  | lend (id : Id) (lock : Lock)
  /-- Everything lent under this id is asked back. -/
  | recall (id : Id)
  | take (lock : Lock)
  | release (lock : Lock)
  /-- The peer forgets everything. -/
  | reset

namespace Ledger

/-- The effect of an event. -/
def play (g : Ledger Id Lock) : Event Id Lock → Ledger Id Lock
  | .lend id lock => { g with lent := insert (id, lock) g.lent }
  | .recall id => { g with lent := {loan ∈ g.lent | loan.1 ≠ id} }
  | .take lock => { g with held := insert lock g.held }
  | .release lock => { g with held := g.held \ {lock} }
  | .reset => { g with lent := ∅ }

/-- The discipline. -/
def Permits (g : Ledger Id Lock) : Event Id Lock → Prop
  | .lend _ lock => lock ∈ g.held
  | .release lock => ∀ id, (id, lock) ∉ g.lent
  | .recall _ | .take _ | .reset => True

/-- The effect of events one after the other. -/
def run (g : Ledger Id Lock) (events : List (Event Id Lock)) : Ledger Id Lock :=
  events.foldl play g

/-- Every event is permitted where it happens. -/
def Obeys : Ledger Id Lock → List (Event Id Lock) → Prop
  | _, [] => True
  | g, event :: events => g.Permits event ∧ (g.play event).Obeys events

theorem run_append (g : Ledger Id Lock) (xs ys : List (Event Id Lock)) :
    g.run (xs ++ ys) = (g.run xs).run ys := List.foldl_append

theorem obeys_append {g : Ledger Id Lock} {xs ys : List (Event Id Lock)} :
    g.Obeys (xs ++ ys) ↔ g.Obeys xs ∧ (g.run xs).Obeys ys := by
  induction xs generalizing g with
  | nil => exact ⟨fun hobeys => ⟨trivial, hobeys⟩, And.right⟩
  | cons x xs ih =>
      show g.Permits x ∧ (g.play x).Obeys (xs ++ ys) ↔ _
      rw [ih, ← and_assoc]
      rfl

/-- Asking back is always permitted. -/
theorem obeys_recalls (g : Ledger Id Lock) {events : List (Event Id Lock)}
    (hrecalls : ∀ event ∈ events, ∃ id, event = .recall id) : g.Obeys events := by
  induction events generalizing g with
  | nil => trivial
  | cons event events ih =>
      obtain ⟨id, rfl⟩ := hrecalls event List.mem_cons_self
      exact ⟨trivial, ih _ fun event hmem => hrecalls event (List.mem_cons_of_mem _ hmem)⟩

end Ledger

/-- From a ledger that satisfies `pre`, the events are permitted and lead to `post`. -/
def Triple (pre : Ledger Id Lock → Prop) (events : List (Event Id Lock))
    (post : Ledger Id Lock → Prop) : Prop :=
  ∀ g, pre g → g.Obeys events ∧ post (g.run events)

variable {pre mid post : Ledger Id Lock → Prop} {xs ys : List (Event Id Lock)}

/-- Doing nothing. -/
theorem Triple.nil (himp : ∀ g, pre g → post g) : Triple pre [] post :=
  fun g hpre => ⟨trivial, himp g hpre⟩

theorem Triple.append (hxs : Triple pre xs mid) (hys : Triple mid ys post) :
    Triple pre (xs ++ ys) post := by
  intro g hpre
  obtain ⟨hobeys, hmid⟩ := hxs g hpre
  obtain ⟨hobeys', hpost⟩ := hys (g.run xs) hmid
  rw [Ledger.obeys_append, Ledger.run_append]
  exact ⟨⟨hobeys, hobeys'⟩, hpost⟩

/-- A single event. -/
theorem Triple.single {event : Event Id Lock} (hpermits : ∀ g, pre g → g.Permits event)
    (hplay : ∀ g, pre g → post (g.play event)) : Triple pre [event] post :=
  fun g hpre => ⟨⟨hpermits g hpre, trivial⟩, hplay g hpre⟩

theorem Triple.weaken (htriple : Triple pre xs mid) (himp : ∀ g, mid g → post g) :
    Triple pre xs post :=
  fun g hpre => (htriple g hpre).imp_right (himp _)

/-- With nothing lent everything may be released. -/
theorem triple_releases (hreleases : ∀ event ∈ xs, ∃ lock, event = .release lock) :
    Triple (fun g : Ledger Id Lock => g.lent = ∅) xs (fun g => g.lent = ∅) := by
  induction xs with
  | nil => exact .nil fun _ h => h
  | cons event xs ih =>
      obtain ⟨lock, rfl⟩ := hreleases _ List.mem_cons_self
      have hone : Triple (fun g : Ledger Id Lock => g.lent = ∅) [.release lock]
          (fun g => g.lent = ∅) := by
        refine .single (fun g hlent id hmem => ?_) fun g hlent => hlent
        rw [hlent] at hmem
        exact hmem
      exact hone.append (ih fun event hmem => hreleases event (List.mem_cons_of_mem _ hmem))

/-- After a reset nothing is lent, whatever was asked back before, and everything may
be released. -/
theorem triple_reset (hrecalls : ∀ event ∈ xs, ∃ id, event = .recall id)
    (hreleases : ∀ event ∈ ys, ∃ lock, event = .release lock) :
    Triple pre (xs ++ .reset :: ys) (fun g => g.lent = ∅) := by
  have hbefore : Triple pre xs (fun _ => True) :=
    fun g _ => ⟨g.obeys_recalls hrecalls, trivial⟩
  have hreset : Triple (fun _ : Ledger Id Lock => True) [.reset] (fun g => g.lent = ∅) :=
    .single (fun _ _ => trivial) fun _ _ => rfl
  exact hbefore.append (hreset.append (triple_releases hreleases))

variable {Slot : Type w}

/-- The slots own the locks: each has its own, all of them are held, none is among the
fresh ones, and whatever is lent is the lock of a slot, under an id the slot shows. -/
structure Custody (locks : Slot → Option Lock) (shows : Slot → Set Id) (fresh : Set Lock)
    (g : Ledger Id Lock) : Prop where
  owned : ∀ id lock, (id, lock) ∈ g.lent → ∃ slot, locks slot = some lock ∧ id ∈ shows slot
  held : ∀ slot lock, locks slot = some lock → lock ∈ g.held
  used : ∀ slot lock, locks slot = some lock → lock ∉ fresh
  apart : ∀ slot slot' lock, locks slot = some lock → locks slot' = some lock → slot = slot'

namespace Custody

variable {locks : Slot → Option Lock} {shows shows' : Slot → Set Id} {fresh fresh' : Set Lock}
  {g : Ledger Id Lock}

/-- Showing more ids and having fewer fresh locks is weaker. -/
theorem mono (hcustody : Custody locks shows fresh g) (hshows : ∀ slot, shows slot ⊆ shows' slot)
    (hfresh : fresh' ⊆ fresh) : Custody locks shows' fresh' g where
  owned id lock hlent := by
    obtain ⟨slot, hlock, hid⟩ := hcustody.owned id lock hlent
    exact ⟨slot, hlock, hshows slot hid⟩
  held := hcustody.held
  used slot lock hlock hmem := hcustody.used slot lock hlock (hfresh hmem)
  apart := hcustody.apart

/-- The lock of a slot that shows nothing is not lent. -/
theorem not_lent (hcustody : Custody locks shows fresh g) {slot : Slot} {lock : Lock}
    (hlock : locks slot = some lock) (hempty : shows slot = ∅) (id : Id) : (id, lock) ∉ g.lent := by
  intro hlent
  obtain ⟨slot', hlock', hid⟩ := hcustody.owned id lock hlent
  obtain rfl := hcustody.apart slot slot' lock hlock hlock'
  rw [hempty] at hid
  exact hid

/-- A fresh lock is not lent. -/
theorem not_lent_of_fresh (hcustody : Custody locks shows fresh g) {lock : Lock}
    (hfresh : lock ∈ fresh) (id : Id) : (id, lock) ∉ g.lent := by
  intro hlent
  obtain ⟨slot, hlock, -⟩ := hcustody.owned id lock hlent
  exact hcustody.used slot lock hlock hfresh

/-- With nothing lent and no lock owned there is nothing to say. -/
theorem of_reset (hlent : g.lent = ∅) (shows : Slot → Set Id) (fresh : Set Lock) :
    Custody (fun _ => none) shows fresh g where
  owned id lock hmem := by
    rw [hlent] at hmem
    cases hmem
  held slot lock hlock := by cases hlock
  used slot lock hlock := by cases hlock
  apart slot slot' lock hlock := by cases hlock

variable [DecidableEq Slot]

/-- A slot that shows nothing may forget its lock. -/
theorem vacate (hcustody : Custody locks shows fresh g) {slot : Slot} (hempty : shows slot = ∅) :
    Custody (Function.update locks slot none) shows fresh g := by
  have hkept : ∀ {slot' lock}, Function.update locks slot none slot' = some lock →
      locks slot' = some lock := by
    intro slot' lock hlock
    by_cases heq : slot' = slot
    · subst heq
      rw [Function.update_self] at hlock
      cases hlock
    · rwa [Function.update_of_ne heq] at hlock
  refine ⟨?_, ?_, ?_, ?_⟩
  · intro id lock hlent
    obtain ⟨slot', hlock, hid⟩ := hcustody.owned id lock hlent
    have hne : slot' ≠ slot := by
      rintro rfl
      rw [hempty] at hid
      exact hid
    exact ⟨slot', by rwa [Function.update_of_ne hne], hid⟩
  · exact fun slot' lock hlock => hcustody.held slot' lock (hkept hlock)
  · exact fun slot' lock hlock => hcustody.used slot' lock (hkept hlock)
  · exact fun slot' slot'' lock hlock hlock' =>
      hcustody.apart slot' slot'' lock (hkept hlock) (hkept hlock')

end Custody

section Rules

variable {locks : Slot → Option Lock} {shows : Slot → Set Id} {fresh : Set Lock}

/-- After a recall no slot shows the id any more. -/
theorem triple_recall (id : Id) :
    Triple (Custody locks shows fresh) [.recall id]
      (Custody locks (fun slot => shows slot \ {id}) fresh) := by
  refine .single (fun _ _ => trivial) fun g hcustody => ?_
  refine ⟨?_, hcustody.held, hcustody.used, hcustody.apart⟩
  rintro id' lock ⟨hlent, hne⟩
  obtain ⟨slot, hlock, hid⟩ := hcustody.owned id' lock hlent
  exact ⟨slot, hlock, hid, hne⟩

/-- Taking a fresh lock and releasing it at once. -/
theorem triple_take_release {lock : Lock} (hfresh : lock ∈ fresh) :
    Triple (Custody locks shows fresh) [.take lock, .release lock] (Custody locks shows fresh) := by
  intro g hcustody
  refine ⟨⟨trivial, hcustody.not_lent_of_fresh hfresh, trivial⟩, hcustody.owned, ?_,
    hcustody.used, hcustody.apart⟩
  intro slot lock' hlock
  refine ⟨Set.mem_insert_of_mem _ (hcustody.held slot lock' hlock), ?_⟩
  rintro rfl
  exact hcustody.used slot lock' hlock hfresh

variable [DecidableEq Slot]

/-- Releasing the lock of a slot that shows nothing. -/
theorem triple_release {slot : Slot} {lock : Lock} (hlock : locks slot = some lock)
    (hempty : shows slot = ∅) :
    Triple (Custody locks shows fresh) [.release lock]
      (Custody (Function.update locks slot none) shows fresh) := by
  refine .single (fun g hcustody => hcustody.not_lent hlock hempty) fun g hcustody => ?_
  have hvacated := hcustody.vacate hempty
  refine ⟨hvacated.owned, ?_, hvacated.used, hvacated.apart⟩
  intro slot' lock' hlock'
  refine ⟨hvacated.held slot' lock' hlock', ?_⟩
  rintro rfl
  -- two slots with one lock are one slot, and that one has given it up
  by_cases heq : slot' = slot
  · subst heq
    rw [Function.update_self] at hlock'
    cases hlock'
  · rw [Function.update_of_ne heq] at hlock'
    exact heq (hcustody.apart slot' slot lock' hlock' hlock)

/-- Taking a fresh lock for a slot that has none. -/
theorem triple_take {slot : Slot} {lock : Lock} (hnone : locks slot = none)
    (hfresh : lock ∈ fresh) :
    Triple (Custody locks shows fresh) [.take lock]
      (Custody (Function.update locks slot (some lock)) shows (fresh \ {lock})) := by
  refine .single (fun _ _ => trivial) fun g hcustody => ?_
  have hcases : ∀ {slot' lock'}, Function.update locks slot (some lock) slot' = some lock' →
      (slot' = slot ∧ lock' = lock) ∨ (slot' ≠ slot ∧ locks slot' = some lock') := by
    intro slot' lock' hlock
    by_cases heq : slot' = slot
    · subst heq
      rw [Function.update_self] at hlock
      exact .inl ⟨rfl, (Option.some.inj hlock).symm⟩
    · rw [Function.update_of_ne heq] at hlock
      exact .inr ⟨heq, hlock⟩
  refine ⟨?_, ?_, ?_, ?_⟩
  · intro id lock' hlent
    obtain ⟨slot', hlock, hid⟩ := hcustody.owned id lock' hlent
    have hne : slot' ≠ slot := by
      rintro rfl
      cases hnone.symm.trans hlock
    exact ⟨slot', by rwa [Function.update_of_ne hne], hid⟩
  · intro slot' lock' hlock
    rcases hcases hlock with ⟨-, rfl⟩ | ⟨-, hlock⟩
    · exact Set.mem_insert _ _
    · exact Set.mem_insert_of_mem _ (hcustody.held slot' lock' hlock)
  · rintro slot' lock' hlock ⟨hmem, hne⟩
    rcases hcases hlock with ⟨-, rfl⟩ | ⟨-, hlock⟩
    · exact hne rfl
    · exact hcustody.used slot' lock' hlock hmem
  · intro slot' slot'' lock' hlock hlock'
    rcases hcases hlock with ⟨rfl, rfl⟩ | ⟨-, hkept⟩
    · rcases hcases hlock' with ⟨rfl, -⟩ | ⟨-, hkept'⟩
      · rfl
      · exact absurd hfresh (hcustody.used slot'' lock' hkept')
    · rcases hcases hlock' with ⟨-, rfl⟩ | ⟨-, hkept'⟩
      · exact absurd hfresh (hcustody.used slot' lock' hkept)
      · exact hcustody.apart slot' slot'' lock' hkept hkept'

/-- Lending the lock of a slot under one more id. -/
theorem triple_lend {slot : Slot} {lock : Lock} (id : Id) (hlock : locks slot = some lock) :
    Triple (Custody locks shows fresh) [.lend id lock]
      (Custody locks (Function.update shows slot (insert id (shows slot))) fresh) := by
  refine .single (fun g hcustody => hcustody.held slot lock hlock) fun g hcustody => ?_
  refine ⟨?_, hcustody.held, hcustody.used, hcustody.apart⟩
  rintro id' lock' (heq | hlent)
  · obtain ⟨rfl, rfl⟩ := Prod.mk.inj heq
    exact ⟨slot, hlock, by rw [Function.update_self]; exact Set.mem_insert _ _⟩
  · obtain ⟨slot', hlock', hid⟩ := hcustody.owned id' lock' hlent
    refine ⟨slot', hlock', ?_⟩
    by_cases heq : slot' = slot
    · subst heq
      rw [Function.update_self]
      exact Set.mem_insert_of_mem _ hid
    · rwa [Function.update_of_ne heq]

end Rules

end Lending
