/-
# Computations that leave a log

A routine that serves a request does three kinds of things: it leaves marks that others
can see, it goes on with a value, or it stops early with a code. Its log is what it did,
in order; its result is how it ended.

Two rules are about the convention that an early stop has already said everything there
is to say to the caller. A computation settles what it is counted by if it leaves exactly
one counted mark when it stops and none when it goes on, and composing such computations
keeps it so. The other rule is about marks a computation never leaves.
-/

import Mathlib.Data.List.Basic

universe u

/-- What a computation did, and the value it went on with or the code it stopped with. -/
structure Logged (Event Code : Type) (Value : Type u) : Type u where
  log : List Event
  result : Except Code Value

namespace Logged

variable {Event Code : Type} {Value Next : Type u}

/-- Go on with a value. -/
protected def pure (value : Value) : Logged Event Code Value := ⟨[], .ok value⟩

/-- Do the first, and the second with its value unless the first stopped. -/
protected def bind (first : Logged Event Code Value) (next : Value → Logged Event Code Next) :
    Logged Event Code Next :=
  match first.result with
  | .ok value => ⟨first.log ++ (next value).log, (next value).result⟩
  | .error code => ⟨first.log, .error code⟩

instance : Monad (Logged Event Code) where
  pure := Logged.pure
  bind := Logged.bind

/-- Leave a mark. -/
def emit (event : Event) : Logged Event Code Unit := ⟨[event], .ok ()⟩

/-- Leave a mark and stop. -/
def stop (event : Event) (code : Code) : Logged Event Code Value := ⟨[event], .error code⟩

@[simp] theorem pure_log (value : Value) : (pure value : Logged Event Code Value).log = [] := rfl
@[simp] theorem pure_result (value : Value) :
    (pure value : Logged Event Code Value).result = .ok value := rfl
@[simp] theorem emit_log (event : Event) :
    (emit event : Logged Event Code Unit).log = [event] := rfl
@[simp] theorem emit_result (event : Event) :
    (emit event : Logged Event Code Unit).result = .ok () := rfl
@[simp] theorem stop_log (event : Event) (code : Code) :
    (stop event code : Logged Event Code Value).log = [event] := rfl
@[simp] theorem stop_result (event : Event) (code : Code) :
    (stop event code : Logged Event Code Value).result = .error code := rfl

section

variable {first : Logged Event Code Value} {next : Value → Logged Event Code Next} {value : Value}
  {code : Code}

theorem bind_of_ok (hresult : first.result = .ok value) :
    first >>= next = ⟨first.log ++ (next value).log, (next value).result⟩ := by
  show Logged.bind first next = _
  rw [Logged.bind, hresult]

/-- A computation that only goes on. -/
theorem ok_bind (value : Value) (next : Value → Logged Event Code Next) :
    (pure value : Logged Event Code Value) >>= next = next value := rfl

/-- A successful computation with a log, and then another: the logs are appended. -/
theorem mk_ok_bind (log : List Event) (value : Value) (next : Value → Logged Event Code Next) :
    (⟨log, .ok value⟩ : Logged Event Code Value) >>= next =
      ⟨log ++ (next value).log, (next value).result⟩ := rfl

theorem bind_of_error (hresult : first.result = .error code) :
    first >>= next = ⟨first.log, .error code⟩ := by
  show Logged.bind first next = _
  rw [Logged.bind, hresult]

end

theorem bind_assoc {Last : Type u} (first : Logged Event Code Value)
    (next : Value → Logged Event Code Next) (last : Next → Logged Event Code Last) :
    (first >>= next) >>= last = first >>= fun value => next value >>= last := by
  cases hfirst : first.result with
  | error code => rw [bind_of_error hfirst, bind_of_error hfirst, bind_of_error rfl]
  | ok value =>
      rw [bind_of_ok hfirst, bind_of_ok hfirst]
      cases hnext : (next value).result with
      | error code => rw [bind_of_error rfl, bind_of_error hnext]
      | ok value' => rw [bind_of_ok rfl, bind_of_ok hnext, List.append_assoc]

/-- A composition goes on if both parts do. -/
@[simp]
theorem bind_result_eq_ok {first : Logged Event Code Value} {next : Value → Logged Event Code Next}
    {after : Next} : (first >>= next).result = .ok after ↔
      ∃ value, first.result = .ok value ∧ (next value).result = .ok after := by
  cases hfirst : first.result with
  | error code => simp [bind_of_error hfirst]
  | ok value => simp [bind_of_ok hfirst]

/-- The value the computation went on with, if it did not stop. -/
def returned (p : Logged Event Code Value) : Option Value := p.result.toOption

@[simp] theorem returned_pure (value : Value) :
    (pure value : Logged Event Code Value).returned = some value := rfl
@[simp] theorem returned_emit (event : Event) :
    (emit event : Logged Event Code Unit).returned = some () := rfl
@[simp] theorem returned_stop (event : Event) (code : Code) :
    (stop event code : Logged Event Code Value).returned = none := rfl

@[simp]
theorem returned_bind (first : Logged Event Code Value) (next : Value → Logged Event Code Next) :
    (first >>= next).returned = first.returned.bind fun value => (next value).returned := by
  cases hfirst : first.result with
  | error code =>
      rw [bind_of_error hfirst, returned, returned, hfirst]
      rfl
  | ok value =>
      rw [bind_of_ok hfirst, returned, returned, hfirst]
      rfl

/-- A computation of which nobody sees a mark. Others may then be left around it. -/
def silent {Event' : Type} (p : Logged Event Code Value) : Logged Event' Code Value :=
  ⟨[], p.result⟩

theorem silent_pure {Event' : Type} (value : Value) :
    (pure value : Logged Event Code Value).silent = (pure value : Logged Event' Code Value) := rfl

/-- The computation leaves one counted mark if it stops, for a reason that counts as a
failure, and none if it goes on. -/
structure Settles (counted : Event → Bool) (Failing : Code → Prop) (p : Logged Event Code Value) :
    Prop where
  ok : ∀ value, p.result = .ok value → p.log.countP counted = 0
  stopped : ∀ code, p.result = .error code → p.log.countP counted = 1 ∧ Failing code

variable {counted : Event → Bool} {Failing : Code → Prop}

theorem Settles.pure (value : Value) :
    Settles counted Failing (pure value : Logged Event Code Value) :=
  ⟨fun _ _ => rfl, nofun⟩

theorem Settles.emit {event : Event} (hcounted : counted event = false) :
    Settles counted Failing (emit event : Logged Event Code Unit) :=
  ⟨fun _ _ => by simp [hcounted], nofun⟩

theorem Settles.stop {event : Event} {code : Code} (hcounted : counted event = true)
    (hfails : Failing code) :
      Settles counted Failing (stop event code : Logged Event Code Value) := by
  refine ⟨nofun, fun code' hresult => ?_⟩
  obtain rfl := Except.error.inj hresult
  exact ⟨by simp [hcounted], hfails⟩

/-- The convention composes. -/
theorem Settles.bind {first : Logged Event Code Value} {next : Value → Logged Event Code Next}
    (hfirst : Settles counted Failing first)
    (hnext : ∀ value, Settles counted Failing (next value)) :
    Settles counted Failing (first >>= next) := by
  cases hresult : first.result with
  | ok value =>
      rw [bind_of_ok hresult]
      have hquiet := hfirst.ok value hresult
      refine ⟨fun after hafter => ?_, fun code hcode => ?_⟩
      · simp [hquiet, (hnext value).ok after hafter]
      · obtain ⟨hone, hfails⟩ := (hnext value).stopped code hcode
        exact ⟨by simp [hquiet, hone], hfails⟩
  | error code =>
      rw [bind_of_error hresult]
      refine ⟨nofun, fun code' hcode => ?_⟩
      obtain rfl := Except.error.inj hcode
      exact hfirst.stopped _ hresult

theorem Settles.ite {p : Prop} [Decidable p] {yes no : Logged Event Code Value}
    (hyes : p → Settles counted Failing yes) (hno : ¬ p → Settles counted Failing no) :
    Settles counted Failing (if p then yes else no) := by
  split
  next hp => exact hyes hp
  next hp => exact hno hp

/-- The computation leaves none of these marks. -/
def Avoids (marks : Event → Prop) (p : Logged Event Code Value) : Prop :=
  ∀ event ∈ p.log, ¬ marks event

variable {marks : Event → Prop}

theorem Avoids.pure (value : Value) : Avoids marks (pure value : Logged Event Code Value) := nofun

theorem Avoids.stop {event : Event} {code : Code} (havoids : ¬ marks event) :
    Avoids marks (stop event code : Logged Event Code Value) := by
  intro other hmem
  obtain rfl := List.mem_singleton.mp hmem
  exact havoids

theorem Avoids.bind {first : Logged Event Code Value} {next : Value → Logged Event Code Next}
    (hfirst : Avoids marks first) (hnext : ∀ value, Avoids marks (next value)) :
    Avoids marks (first >>= next) := by
  cases hresult : first.result with
  | ok value =>
      rw [bind_of_ok hresult]
      intro event hmem
      exact (List.mem_append.mp hmem).elim (hfirst event) (hnext value event)
  | error code =>
      rw [bind_of_error hresult]
      exact hfirst

theorem Avoids.ite {p : Prop} [Decidable p] {yes no : Logged Event Code Value}
    (hyes : Avoids marks yes) (hno : Avoids marks no) : Avoids marks (if p then yes else no) := by
  split
  · exact hyes
  · exact hno

end Logged
