/-
# Threads and their mutexes

A thread that acquires a mutex which another thread owns waits for it, and so does a thread
that acquires its own mutex again unless the mutex is recursive. Threads that wait for one
another in a cycle wait forever.

The way out is a hierarchy: each mutex has a rank, and a thread only acquires a mutex that
ranks above all it holds, its own holds of a recursive mutex apart. What an operation does
to mutexes is its log, so the discipline is a property of logs, and an operation is shown to
have it by rules that follow its text. That threads which run such operations never wait in
a cycle is proved here once, for any threads and any operations.
-/

import Mathlib.Data.List.Count
import Mathlib.Logic.Function.Basic
import Mathlib.Logic.Relation
import VirtDisplay.Foundation.Logged
import VirtDisplay.Foundation.Transition

namespace Mutexes

open Transition

universe u v

/-- What a thread does to mutexes. -/
inductive Act (Mutex : Type)
  | acquire (m : Mutex)
  | release (m : Mutex)
  /-- The thread goes no further. -/
  | halt
  deriving DecidableEq

/-- How often a thread holds each mutex. -/
abbrev Held (Mutex : Type) : Type := Mutex → Nat

variable {Mutex : Type} [DecidableEq Mutex]

namespace Held

/-- Nothing is held. -/
def nothing : Held Mutex := fun _ => 0

/-- The mutexes held after one more acquisition of `m`. -/
def take (held : Held Mutex) (m : Mutex) : Held Mutex := Function.update held m (held m + 1)

/-- The mutexes held after one release of `m`. -/
def drop (held : Held Mutex) (m : Mutex) : Held Mutex := Function.update held m (held m - 1)

variable (held : Held Mutex) {m other : Mutex}

@[simp] theorem take_self : held.take m m = held m + 1 := Function.update_self _ _ _
@[simp] theorem drop_self : held.drop m m = held m - 1 := Function.update_self _ _ _

theorem take_of_ne (hne : other ≠ m) : held.take m other = held other :=
  Function.update_of_ne hne _ _

theorem drop_of_ne (hne : other ≠ m) : held.drop m other = held other :=
  Function.update_of_ne hne _ _

@[simp]
theorem drop_take : (held.take m).drop m = held := by
  funext other
  by_cases heq : other = m
  · subst heq
    simp
  · rw [drop_of_ne _ heq, take_of_ne _ heq]

/-- What is held afterwards was held before or is the mutex taken. -/
theorem take_ne_zero (htaken : held.take m other ≠ 0) : held other ≠ 0 ∨ other = m := by
  by_cases heq : other = m
  · exact .inr heq
  · rw [take_of_ne _ heq] at htaken
    exact .inl htaken

end Held

/-- What a thread holds after an act. -/
def Act.apply : Act Mutex → Held Mutex → Held Mutex
  | .acquire m, held => held.take m
  | .release m, held => held.drop m
  | .halt, held => held

@[simp] theorem Act.apply_acquire (m : Mutex) (held : Held Mutex) :
    (Act.acquire m).apply held = held.take m := rfl
@[simp] theorem Act.apply_release (m : Mutex) (held : Held Mutex) :
    (Act.release m).apply held = held.drop m := rfl
@[simp] theorem Act.apply_halt (held : Held Mutex) : (Act.halt : Act Mutex).apply held = held := rfl

/-- What a thread holds after some acts. -/
def heldAfter (held : Held Mutex) : List (Act Mutex) → Held Mutex
  | [] => held
  | act :: acts => heldAfter (act.apply held) acts

@[simp]
theorem heldAfter_nil (held : Held Mutex) : heldAfter held [] = held := rfl

@[simp]
theorem heldAfter_cons (held : Held Mutex) (act : Act Mutex) (acts : List (Act Mutex)) :
    heldAfter held (act :: acts) = heldAfter (act.apply held) acts := rfl

theorem heldAfter_append (held : Held Mutex) (first rest : List (Act Mutex)) :
    heldAfter held (first ++ rest) = heldAfter (heldAfter held first) rest := by
  induction first generalizing held with
  | nil => rfl
  | cons act first ih => exact ih (act.apply held)

/-- An order in which mutexes are acquired. -/
structure Hierarchy (Mutex : Type) where
  rank : Mutex → Nat
  /-- Its owner may acquire the mutex again. -/
  recursive : Mutex → Bool

namespace Hierarchy

variable (H : Hierarchy Mutex)

/-- A thread that holds these mutexes may acquire this one. -/
def Admits (held : Held Mutex) (m : Mutex) : Prop :=
  ∀ other, held other ≠ 0 → H.rank other < H.rank m ∨ (other = m ∧ H.recursive m = true)

/-- A thread that holds these mutexes may do this. -/
def Allows (held : Held Mutex) : Act Mutex → Prop
  | .acquire m => H.Admits held m
  | .release m => held m ≠ 0
  | .halt => True

/-- Each of the acts is allowed when it comes. -/
def Disciplined : Held Mutex → List (Act Mutex) → Prop
  | _, [] => True
  | held, act :: acts => H.Allows held act ∧ Disciplined (act.apply held) acts

variable {H} {held left : Held Mutex} {m : Mutex} {act : Act Mutex}
  {acts first rest : List (Act Mutex)}

omit [DecidableEq Mutex] in
theorem admits_nothing : H.Admits Held.nothing m := fun _ hheld => absurd rfl hheld

/-- A mutex may be acquired on top of one that may be acquired and has a lower rank. -/
theorem Admits.above {lower : Mutex} (hadmits : H.Admits held lower)
    (hrank : H.rank lower < H.rank m) : H.Admits (held.take lower) m := by
  intro other htaken
  left
  rcases held.take_ne_zero htaken with hheld | rfl
  · rcases hadmits other hheld with hlt | ⟨rfl, -⟩
    · exact Nat.lt_trans hlt hrank
    · exact hrank
  · exact hrank

/-- A recursive mutex may be acquired again. -/
theorem Admits.again (hadmits : H.Admits held m) (hrecursive : H.recursive m = true) :
    H.Admits (held.take m) m := by
  intro other htaken
  rcases held.take_ne_zero htaken with hheld | rfl
  · exact hadmits other hheld
  · exact .inr ⟨rfl, hrecursive⟩

theorem disciplined_append : H.Disciplined held (first ++ rest) ↔
    H.Disciplined held first ∧ H.Disciplined (heldAfter held first) rest := by
  induction first generalizing held with
  | nil => simp [Disciplined]
  | cons act first ih =>
      rw [List.cons_append, Disciplined, Disciplined, ih, heldAfter_cons, and_assoc]

/-- What is held at the end is what was acquired and not released. -/
theorem Disciplined.count (hacts : H.Disciplined held acts) (m : Mutex) :
    heldAfter held acts m + acts.count (.release m) = held m + acts.count (.acquire m) := by
  induction acts generalizing held with
  | nil => rfl
  | cons act acts ih =>
      obtain ⟨hallows, hrest⟩ := hacts
      have hcount := ih hrest
      cases act with
      | acquire other =>
          by_cases heq : m = other
          · subst heq
            simp only [Act.apply_acquire, Held.take_self] at hcount
            simp
            omega
          · simp only [Act.apply_acquire, Held.take_of_ne _ heq] at hcount
            simpa [List.count_cons, Ne.symm heq] using hcount
      | release other =>
          by_cases heq : m = other
          · subst heq
            have hheld : held m ≠ 0 := hallows
            simp only [Act.apply_release, Held.drop_self] at hcount
            simp
            omega
          · simp only [Act.apply_release, Held.drop_of_ne _ heq] at hcount
            simpa [List.count_cons, Ne.symm heq] using hcount
      | halt => simpa [List.count_cons] using hcount

/-- A thread that holds these mutexes may do this, and will then hold nothing unless it
halts. -/
structure Settles (H : Hierarchy Mutex) (held : Held Mutex) (acts : List (Act Mutex)) : Prop where
  disciplined : H.Disciplined held acts
  ends : .halt ∈ acts ∨ heldAfter held acts = Held.nothing

theorem settles_nil : H.Settles held [] ↔ held = Held.nothing :=
  ⟨fun h => h.ends.resolve_left List.not_mem_nil, fun h => ⟨trivial, .inr h⟩⟩

/-- What a thread may still do settles after each act that is not a halt. -/
theorem Settles.tail (hsettles : H.Settles held (act :: acts)) (hgoes : act ≠ .halt) :
    H.Settles (act.apply held) acts := by
  apply Settles.mk hsettles.disciplined.2
  rcases hsettles.ends with hhalt | hnothing
  · exact .inl ((List.mem_cons.mp hhalt).resolve_left (Ne.symm hgoes))
  · exact .inr hnothing

end Hierarchy

section

variable {Code : Type} {Value Next : Type u}

/-- `m` is acquired. -/
def acquire (m : Mutex) : Logged (Act Mutex) Code Unit := Logged.emit (.acquire m)

/-- `m` is released. -/
def release (m : Mutex) : Logged (Act Mutex) Code Unit := Logged.emit (.release m)

/-- The operation does not come back. -/
def halt (code : Code) : Logged (Act Mutex) Code Value := Logged.stop .halt code

omit [DecidableEq Mutex] in
@[simp] theorem returned_acquire (m : Mutex) :
    (acquire m : Logged (Act Mutex) Code Unit).returned = some () := rfl
omit [DecidableEq Mutex] in
@[simp] theorem returned_release (m : Mutex) :
    (release m : Logged (Act Mutex) Code Unit).returned = some () := rfl

namespace Hierarchy

variable {H : Hierarchy Mutex} {held mid left : Held Mutex} {m : Mutex}

/-- A thread that holds the first mutexes may run the operation, and holds the last ones
when it comes back. -/
structure Conforms (H : Hierarchy Mutex) (held : Held Mutex) (p : Logged (Act Mutex) Code Value)
    (left : Held Mutex) : Prop where
  disciplined : H.Disciplined held p.log
  ends : ∀ value, p.result = .ok value → heldAfter held p.log = left
  halts : ∀ code, p.result = .error code → .halt ∈ p.log

theorem Conforms.pure (value : Value) :
    H.Conforms held (pure value : Logged (Act Mutex) Code Value) held :=
  ⟨trivial, fun _ _ => rfl, nofun⟩

theorem Conforms.acquire (hadmits : H.Admits held m) :
    H.Conforms held (acquire m : Logged (Act Mutex) Code Unit) (held.take m) :=
  ⟨⟨hadmits, trivial⟩, fun _ _ => rfl, nofun⟩

theorem Conforms.release :
    H.Conforms (held.take m) (release m : Logged (Act Mutex) Code Unit) held := by
  have hheld : held.take m m ≠ 0 := by simp
  exact ⟨⟨hheld, trivial⟩, fun _ _ => held.drop_take, nofun⟩

theorem Conforms.halt (code : Code) :
    H.Conforms held (halt code : Logged (Act Mutex) Code Value) left :=
  ⟨⟨trivial, trivial⟩, nofun, fun _ _ => List.mem_singleton_self _⟩

theorem Conforms.bind {first : Logged (Act Mutex) Code Value}
    {next : Value → Logged (Act Mutex) Code Next} (hfirst : H.Conforms held first mid)
    (hnext : ∀ value, H.Conforms mid (next value) left) :
    H.Conforms held (first >>= next) left := by
  cases hresult : first.result with
  | error code =>
      rw [Logged.bind_of_error hresult]
      exact ⟨hfirst.disciplined, nofun, fun _ _ => hfirst.halts code hresult⟩
  | ok value =>
      rw [Logged.bind_of_ok hresult]
      have hmid := hfirst.ends value hresult
      constructor
      · apply disciplined_append.mpr
        rw [hmid]
        exact ⟨hfirst.disciplined, (hnext value).disciplined⟩
      · intro after hafter
        rw [heldAfter_append, hmid]
        exact (hnext value).ends after hafter
      · intro code hcode
        exact List.mem_append_right _ ((hnext value).halts code hcode)

theorem Conforms.ite {p : Prop} [Decidable p] {yes no : Logged (Act Mutex) Code Value}
    (hyes : H.Conforms held yes left) (hno : H.Conforms held no left) :
    H.Conforms held (if p then yes else no) left := by
  split
  next => exact hyes
  next => exact hno

/-- A way out that releases a mutex by hand. -/
theorem Conforms.leave {Value : Type} (value : Value) : H.Conforms (held.take m)
    (do Mutexes.release m; Pure.pure value : Logged (Act Mutex) Code Value) held := by
  apply Conforms.bind .release
  intro _
  exact .pure value

/-- A thread with nothing that runs the operation has nothing when it comes back. -/
theorem Conforms.settles {p : Logged (Act Mutex) Code Value}
    (hp : H.Conforms held p Held.nothing) : H.Settles held p.log := by
  cases hresult : p.result with
  | error code => exact ⟨hp.disciplined, .inl (hp.halts code hresult)⟩
  | ok value => exact ⟨hp.disciplined, .inr (hp.ends value hresult)⟩

/-- An operation that leaves what it found releases each mutex as often as it acquires it. -/
theorem Conforms.count_eq {p : Logged (Act Mutex) Code Value} {value : Value}
    (hp : H.Conforms held p held) (hresult : p.result = .ok value) (m : Mutex) :
    p.log.count (.release m) = p.log.count (.acquire m) := by
  have hcount := hp.disciplined.count m
  rw [hp.ends value hresult] at hcount
  exact Nat.add_left_cancel hcount

end Hierarchy

end

/-- The thread that owns a mutex, and how often it has acquired it again. -/
abbrev Owner (Thread : Type v) : Type v := Option (Thread × Nat)

namespace Owner

variable {Thread : Type v} [DecidableEq Thread]

/-- How often a thread holds the mutex. -/
def count (owner : Owner Thread) (t : Thread) : Nat :=
  match owner with
  | none => 0
  | some (t', again) => if t' = t then again + 1 else 0

/-- The mutex is acquired by `t`, unless `t` has to wait. -/
def acquire (recursive : Bool) (t : Thread) (owner : Owner Thread) : Option (Owner Thread) :=
  match owner with
  | none => some (some (t, 0))
  | some (t', again) => if t' = t ∧ recursive = true then some (some (t, again + 1)) else none

/-- The mutex is released by `t`, which has to own it. -/
def release (t : Thread) (owner : Owner Thread) : Option (Owner Thread) :=
  match owner with
  | none => none
  | some (t', 0) => if t' = t then some none else none
  | some (t', again + 1) => if t' = t then some (some (t, again)) else none

variable {owner after : Owner Thread} {t other : Thread} {recursive : Bool}

/-- The owner is who holds the mutex. -/
theorem count_ne_zero : owner.count t ≠ 0 ↔ ∃ again, owner = some (t, again) := by
  unfold count
  cases owner with
  | none => simp
  | some holder =>
      obtain ⟨t', again⟩ := holder
      by_cases heq : t' = t
      · simp [heq]
      · simp [heq]

theorem count_acquire (hacquire : owner.acquire recursive t = some after) :
    after.count t = owner.count t + 1 ∧
      ∀ other, other ≠ t → after.count other = owner.count other := by
  cases owner with
  | none =>
      obtain rfl := Option.some.inj hacquire
      exact ⟨by simp [count], fun other hne => by simp [count, Ne.symm hne]⟩
  | some holder =>
      obtain ⟨t', again⟩ := holder
      rw [acquire] at hacquire
      split at hacquire
      next hown =>
        obtain ⟨rfl, -⟩ := hown
        obtain rfl := Option.some.inj hacquire
        exact ⟨by simp [count], fun other hne => by simp [count, Ne.symm hne]⟩
      next => cases hacquire

theorem count_release (hrelease : owner.release t = some after) :
    after.count t = owner.count t - 1 ∧
      ∀ other, other ≠ t → after.count other = owner.count other := by
  cases owner with
  | none => cases hrelease
  | some holder =>
      obtain ⟨t', again⟩ := holder
      cases again with
      | zero =>
          rw [release] at hrelease
          split at hrelease
          next hown =>
            subst hown
            obtain rfl := Option.some.inj hrelease
            exact ⟨by simp [count], fun other hne => by simp [count, Ne.symm hne]⟩
          next => cases hrelease
      | succ again =>
          rw [release] at hrelease
          split at hrelease
          next hown =>
            subst hown
            obtain rfl := Option.some.inj hrelease
            exact ⟨by simp [count], fun other hne => by simp [count, Ne.symm hne]⟩
          next => cases hrelease

end Owner

/-- The threads between and within their operations. -/
structure Threads (Thread : Type v) (Mutex : Type) where
  owner : Mutex → Owner Thread
  /-- What is left of the operation that each thread runs. -/
  todo : Thread → List (Act Mutex)

/-- What a thread does next. -/
inductive Move (Thread : Type v) (Op : Type u)
  /-- It begins an operation. -/
  | begin (t : Thread) (op : Op)
  /-- It goes on with the one it runs. -/
  | go (t : Thread)

namespace Threads

variable {Thread : Type v} [DecidableEq Thread] {Op : Type u}

/-- No thread runs anything. -/
def idle : Threads Thread Mutex := ⟨fun _ => none, fun _ => []⟩

/-- How often a thread holds each mutex. -/
def held (s : Threads Thread Mutex) (t : Thread) : Held Mutex := fun m => (s.owner m).count t

/-- The owners after an act of `t`, unless `t` has to wait or has halted. -/
def perform (H : Hierarchy Mutex) (t : Thread) (owner : Mutex → Owner Thread) :
    Act Mutex → Option (Mutex → Owner Thread)
  | .acquire m =>
      ((owner m).acquire (H.recursive m) t).map fun after => Function.update owner m after
  | .release m => ((owner m).release t).map fun after => Function.update owner m after
  | .halt => none

/-- The threads, which run operations of the given logs one after the other. -/
def system (H : Hierarchy Mutex) (acts : Op → List (Act Mutex)) :
    System (Threads Thread Mutex) (Move Thread Op) where
  step s
    | .begin t op =>
        if s.todo t = [] then some { s with todo := Function.update s.todo t (acts op) } else none
    | .go t =>
        match s.todo t with
        | [] => none
        | act :: rest =>
            (perform H t s.owner act).map fun owner => ⟨owner, Function.update s.todo t rest⟩

/-- `t` has to wait for `m`, which `t'` owns. -/
def Blocked (H : Hierarchy Mutex) (s : Threads Thread Mutex) (t : Thread) (m : Mutex)
    (t' : Thread) : Prop :=
  (∃ rest, s.todo t = .acquire m :: rest) ∧ (∃ again, s.owner m = some (t', again)) ∧
    ¬ (t' = t ∧ H.recursive m = true)

/-- `t` waits for a mutex of `t'`. -/
def WaitsFor (H : Hierarchy Mutex) (s : Threads Thread Mutex) (t t' : Thread) : Prop :=
  ∃ m, Blocked H s t m t'

/-- Each thread may do what it has yet to do. -/
def Orderly (H : Hierarchy Mutex) (s : Threads Thread Mutex) : Prop :=
  ∀ t, H.Settles (s.held t) (s.todo t)

variable {H : Hierarchy Mutex} {s after : Threads Thread Mutex} {t t' : Thread} {m m' : Mutex}
  {act : Act Mutex} {owner : Mutex → Owner Thread} {todo : Thread → List (Act Mutex)}

/-- One mutex with a new owner. -/
theorem held_update {new : Owner Thread} {mine : Held Mutex}
    (hmine : mine = Function.update (s.held t) m (new.count t))
    (hothers : ∀ other, other ≠ t → new.count other = (s.owner m).count other) :
    (Threads.mk (Function.update s.owner m new) todo).held t = mine ∧
      ∀ other, other ≠ t →
        (Threads.mk (Function.update s.owner m new) todo).held other = s.held other := by
  constructor
  · rw [hmine]
    funext m'
    by_cases heq : m' = m
    · subst heq
      simp [held]
    · simp [held, Function.update_of_ne heq]
  · intro other hne
    funext m'
    by_cases heq : m' = m
    · subst heq
      simp [held, hothers other hne]
    · simp [held, Function.update_of_ne heq]

/-- An act changes what its thread holds, and what no other thread holds. -/
theorem held_perform (hperform : perform H t s.owner act = some owner) :
    (Threads.mk owner todo).held t = act.apply (s.held t) ∧
      ∀ other, other ≠ t → (Threads.mk owner todo).held other = s.held other := by
  cases act with
  | acquire m =>
      obtain ⟨new, hacquire, rfl⟩ := Option.map_eq_some_iff.mp hperform
      obtain ⟨hmine, hothers⟩ := Owner.count_acquire hacquire
      apply held_update _ hothers
      rw [hmine]
      rfl
  | release m =>
      obtain ⟨new, hrelease, rfl⟩ := Option.map_eq_some_iff.mp hperform
      obtain ⟨hmine, hothers⟩ := Owner.count_release hrelease
      apply held_update _ hothers
      rw [hmine]
      rfl
  | halt => cases hperform

theorem orderly_idle : (idle : Threads Thread Mutex).Orderly H :=
  fun _ => Hierarchy.settles_nil.mpr rfl

/-- One thread moves, and the others keep what they hold and have to do. -/
theorem Orderly.update (hs : s.Orderly H) (hown : H.Settles (after.held t) (after.todo t))
    (hheld : ∀ other, other ≠ t → after.held other = s.held other)
    (htodo : ∀ other, other ≠ t → after.todo other = s.todo other) : after.Orderly H := by
  intro other
  by_cases heq : other = t
  · subst heq
    exact hown
  · rw [hheld other heq, htodo other heq]
    exact hs other

/-- One move, of whatever thread. -/
theorem Orderly.step {acts : Op → List (Act Mutex)} {move : Move Thread Op} (hs : s.Orderly H)
    (hacts : ∀ op, H.Settles Held.nothing (acts op))
    (hstep : (system H acts).step s move = some after) : after.Orderly H := by
  cases move with
  | begin t op =>
      simp only [system, Option.ite_none_right_eq_some, Option.some.injEq] at hstep
      obtain ⟨hdone, rfl⟩ := hstep
      -- between its operations a thread holds nothing
      have hnothing : s.held t = Held.nothing := by
        have hsettles := hs t
        rw [hdone] at hsettles
        exact Hierarchy.settles_nil.mp hsettles
      have hown : H.Settles (s.held t) (Function.update s.todo t (acts op) t) := by
        rw [hnothing, Function.update_self]
        exact hacts op
      exact hs.update hown (fun _ _ => rfl) (fun _ hne => Function.update_of_ne hne _ _)
  | go t =>
      simp only [system] at hstep
      cases htodo : s.todo t with
      | nil =>
          rw [htodo] at hstep
          cases hstep
      | cons act rest =>
          rw [htodo] at hstep
          obtain ⟨owner, hperform, rfl⟩ := Option.map_eq_some_iff.mp hstep
          obtain ⟨hmine, hothers⟩ := held_perform hperform
          have hgoes : act ≠ .halt := by
            rintro rfl
            cases hperform
          have hsettles := hs t
          rw [htodo] at hsettles
          have hown : H.Settles (Threads.held ⟨owner, Function.update s.todo t rest⟩ t)
              (Function.update s.todo t rest t) := by
            rw [hmine, Function.update_self]
            exact hsettles.tail hgoes
          exact hs.update hown hothers (fun _ hne => Function.update_of_ne hne _ _)

/-- Whoever waits for a mutex holds only mutexes of lower rank. -/
theorem Blocked.rank_lt (hblocked : Blocked H s t m t') (hs : s.Orderly H)
    (hheld : s.held t m' ≠ 0) : H.rank m' < H.rank m := by
  obtain ⟨⟨rest, htodo⟩, ⟨again, howner⟩, hwaits⟩ := hblocked
  have hsettles := hs t
  rw [htodo] at hsettles
  rcases hsettles.disciplined.1 m' hheld with hlt | ⟨rfl, hrecursive⟩
  · exact hlt
  · -- its own recursive mutex it would not wait for
    obtain ⟨again', hmine⟩ := Owner.count_ne_zero.mp hheld
    rw [howner] at hmine
    cases hmine
    exact absurd ⟨rfl, hrecursive⟩ hwaits

omit [DecidableEq Mutex] in
theorem Blocked.held (hblocked : Blocked H s t m t') : s.held t' m ≠ 0 :=
  Owner.count_ne_zero.mpr hblocked.2.1

/-- Along a chain of waiting threads the rank does not fall. -/
theorem Orderly.rank_le (hs : s.Orderly H) (hwaits : Relation.TransGen (WaitsFor H s) t t') :
    ∃ m m' holder, Blocked H s t m holder ∧ s.held t' m' ≠ 0 ∧ H.rank m ≤ H.rank m' := by
  induction hwaits with
  | single hwait =>
      obtain ⟨m, hblocked⟩ := hwait
      exact ⟨m, m, _, hblocked, hblocked.held, Nat.le_refl _⟩
  | tail _ hwait ih =>
      obtain ⟨m, m', holder, hfirst, hheld, hle⟩ := ih
      obtain ⟨m'', hblocked⟩ := hwait
      exact ⟨m, m'', holder, hfirst, hblocked.held,
        Nat.le_trans hle (Nat.le_of_lt (hblocked.rank_lt hs hheld))⟩

/-- No thread waits, over others, for itself. -/
theorem Orderly.no_cycle (hs : s.Orderly H) (t : Thread) :
    ¬ Relation.TransGen (WaitsFor H s) t t := by
  intro hcycle
  obtain ⟨m, m', holder, hblocked, hheld, hle⟩ := hs.rank_le hcycle
  exact absurd (hblocked.rank_lt hs hheld) (Nat.not_lt.mpr hle)

/-- Whatever the threads and the order of their moves, no cycle of waiting threads is reached
if each operation may be run by a thread that holds nothing. -/
theorem no_cycle_of_reach {acts : Op → List (Act Mutex)}
    (hacts : ∀ op, H.Settles Held.nothing (acts op))
    (hreach : (system H acts).Reach (idle : Threads Thread Mutex) s) (t : Thread) :
    ¬ Relation.TransGen (WaitsFor H s) t t := by
  have hs : s.Orderly H := by
    apply hreach.invariant orderly_idle
    intro before move after hbefore _ hstep
    exact hbefore.step hacts hstep
  exact hs.no_cycle t

end Threads

end Mutexes
