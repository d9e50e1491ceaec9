/-
# Calls that may not return

A call that does not return, or that does what it must not, is `none`. Whoever relies on it
wants to know two things: what holds when it returns, and what was the reason if it does not.
An attempt says both, and attempts that are made one after the other blame the same reason.
-/

import Mathlib.Logic.Basic

universe u v

/-- The call returns something that satisfies `post`, or `blame` is why it does not. -/
inductive Attempt {α : Type u} (blame : Prop) (post : α → Prop) : Option α → Prop
  | done {a : α} (h : post a) : Attempt blame post (some a)
  | lost (h : blame) : Attempt blame post none

namespace Attempt

variable {α : Type u} {β : Type v} {blame : Prop} {post weaker : α → Prop} {final : β → Prop}
variable {call : Option α} {next : α → Option β} {a : α}

theorem mono (h : Attempt blame post call) (himp : ∀ a, post a → weaker a) :
    Attempt blame weaker call := by
  cases h with
  | done h => exact .done (himp _ h)
  | lost h => exact .lost h

/-- What is returned is what was called for. -/
theorem self (h : Attempt blame post call) : Attempt blame (fun a => call = some a) call := by
  cases h with
  | done => exact .done rfl
  | lost h => exact .lost h

/-- Go on with what was returned. -/
theorem bind (h : Attempt blame post call) (hnext : ∀ a, post a → Attempt blame final (next a)) :
    Attempt blame final (call.bind next) := by
  cases h with
  | done h => exact hnext _ h
  | lost h => exact .lost h

theorem map {f : α → β} (h : Attempt blame (fun a => final (f a)) call) :
    Attempt blame final (call.map f) := by
  cases h with
  | done h => exact .done h
  | lost h => exact .lost h

theorem of_eq (h : call = some a) (hpost : post a) : Attempt blame post call := h ▸ .done hpost

theorem post_of_eq (h : Attempt blame post call) (hcall : call = some a) : post a := by
  cases h with
  | done h => exact Option.some.inj hcall ▸ h
  | lost => cases hcall

/-- An attempt whose reason to fail is excluded returns. -/
theorem isSome (h : Attempt blame post call) (hblame : ¬ blame) : call.isSome = true := by
  cases h with
  | done => rfl
  | lost h => exact absurd h hblame

end Attempt
