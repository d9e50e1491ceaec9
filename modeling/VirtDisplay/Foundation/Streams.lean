/-
# Streams and their readers

Whether a message is in order often depends on the messages before it. A reader goes
through the stream and keeps, in a state of its own, what it needs to remember of them;
the stream is in order if every message is, in the state the reader is in by then.

`Sends` is the rule for writing such a stream piece by piece.
-/

import Mathlib.Tactic.TypeStar

namespace Streams

variable {View Event : Type*}

/-- Every event is in order when the reader comes to it. -/
def Throughout (read : View → Event → View) (InOrder : View → Event → Prop) :
    View → List Event → Prop
  | _, [] => True
  | view, event :: events => InOrder view event ∧ Throughout read InOrder (read view event) events

variable {read : View → Event → View} {InOrder : View → Event → Prop} {view mid after : View}
  {event : Event} {xs ys : List Event}

theorem throughout_append : Throughout read InOrder view (xs ++ ys) ↔
    Throughout read InOrder view xs ∧ Throughout read InOrder (xs.foldl read view) ys := by
  induction xs generalizing view with
  | nil => exact ⟨fun hys => ⟨trivial, hys⟩, And.right⟩
  | cons x xs ih =>
      show InOrder view x ∧ Throughout read InOrder (read view x) (xs ++ ys) ↔ _
      rw [ih, ← and_assoc]
      rfl

/-- These events are in order, and the reader is in this state after them. -/
structure Sends (read : View → Event → View) (InOrder : View → Event → Prop) (view : View)
    (events : List Event) (after : View) : Prop where
  inOrder : Throughout read InOrder view events
  read : events.foldl read view = after

theorem Sends.nil : Sends read InOrder view [] view := ⟨trivial, rfl⟩

theorem Sends.cons (hevent : InOrder view event)
    (hxs : Sends read InOrder (read view event) xs after) :
    Sends read InOrder view (event :: xs) after :=
  ⟨⟨hevent, hxs.inOrder⟩, hxs.read⟩

theorem Sends.append (hxs : Sends read InOrder view xs mid)
    (hys : Sends read InOrder mid ys after) :
    Sends read InOrder view (xs ++ ys) after := by
  obtain ⟨hxs, rfl⟩ := hxs
  refine ⟨throughout_append.mpr ⟨hxs, hys.inOrder⟩, ?_⟩
  rw [List.foldl_append]
  exact hys.read

/-- What holds of the reader's state, whatever of these events it reads. -/
theorem Sends.of_forall {I : View → Prop} (hview : I view)
    (hall : ∀ event ∈ xs, ∀ view, I view → InOrder view event ∧ I (read view event)) :
    ∃ after, Sends read InOrder view xs after ∧ I after := by
  induction xs generalizing view with
  | nil => exact ⟨view, .nil, hview⟩
  | cons x xs ih =>
      obtain ⟨hx, hnext⟩ := hall x List.mem_cons_self view hview
      obtain ⟨after, hxs, hafter⟩ := ih hnext fun y hy => hall y (List.mem_cons_of_mem _ hy)
      exact ⟨after, .cons hx hxs, hafter⟩

end Streams
