/-
# Operations that decide under a lock and act step by step

Many drivers have the same shape. Private data is only touched by the holder of
one mutex, so an operation can be read as a function of that data. What it does
to the outside, however, such as placing commands on a ring or unlocking a page,
happens one action at a time while other parties keep moving.

`Component` captures this shape. A call computes the operation's new private
state together with the list of actions it performs; the machine then plays these
actions one by one, and any party outside may move between two of them. No other
call starts until the actions have been played, which is what holding the mutex
means. A log of what each call was and decided is kept beside the state, so that
statements about whole histories need no second semantics.
-/

import VirtDisplay.Foundation.Transition

namespace Transition

/-- The ingredients of a machine whose calls decide at once and act in steps. -/
structure Component (Private Shared Call Action Outside Record : Type) where
  /-- What a call does: its private effect, its actions in order and its log
  record. A call may read the shared state; `none` means that it cannot start. -/
  exec : Private → Shared → Call → Option (Private × List Action × Record)
  /-- The effect of one action on the shared state. -/
  play : Shared → Action → Shared
  /-- A move of a party that does not hold the mutex. -/
  outside : Shared → Outside → Option Shared

namespace Component

variable {Private Shared Call Action Outside Record : Type}

/-- A machine state: between two calls the agenda is empty. -/
structure State (Private Shared Action Record : Type) where
  /-- The data only the mutex holder touches. -/
  priv : Private
  /-- The actions the current call has still to perform. -/
  agenda : List Action
  /-- The data every party touches. -/
  shared : Shared
  /-- The records of all calls so far, newest first. -/
  log : List Record

/-- The moves of the machine. -/
inductive Label (Call Outside : Type)
  | call (c : Call)
  | act
  | outside (x : Outside)

variable (comp : Component Private Shared Call Action Outside Record)

/-- One move. -/
def step (m : State Private Shared Action Record) :
    Label Call Outside → Option (State Private Shared Action Record)
  | .call c =>
      match m.agenda with
      | [] => (comp.exec m.priv m.shared c).map fun (priv, actions, record) =>
          ⟨priv, actions, m.shared, record :: m.log⟩
      | _ :: _ => none
  | .act =>
      match m.agenda with
      | [] => none
      | action :: rest => some { m with agenda := rest, shared := comp.play m.shared action }
  | .outside x => (comp.outside m.shared x).map fun shared => { m with shared := shared }

/-- The machine as a transition system. -/
def system : System (State Private Shared Action Record) (Label Call Outside) := ⟨comp.step⟩

variable {comp} {m m' : State Private Shared Action Record}

theorem step_call_eq_some {c : Call} (hstep : comp.system.step m (.call c) = some m') :
    ∃ priv actions record, m.agenda = [] ∧
      comp.exec m.priv m.shared c = some (priv, actions, record) ∧
      m' = ⟨priv, actions, m.shared, record :: m.log⟩ := by
  simp only [system, step] at hstep
  split at hstep
  next hagenda =>
    obtain ⟨⟨priv, actions, record⟩, hexec, rfl⟩ := Option.map_eq_some_iff.mp hstep
    exact ⟨priv, actions, record, hagenda, hexec, rfl⟩
  next => cases hstep

theorem step_act_eq_some (hstep : comp.system.step m .act = some m') :
    ∃ action rest, m.agenda = action :: rest ∧
      m' = { m with agenda := rest, shared := comp.play m.shared action } := by
  simp only [system, step] at hstep
  split at hstep
  next => cases hstep
  next action rest hagenda => exact ⟨action, rest, hagenda, (Option.some.inj hstep).symm⟩

theorem step_outside_eq_some {x : Outside} (hstep : comp.system.step m (.outside x) = some m') :
    ∃ shared, comp.outside m.shared x = some shared ∧ m' = { m with shared := shared } := by
  obtain ⟨shared, hout, rfl⟩ := Option.map_eq_some_iff.mp hstep
  exact ⟨shared, hout, rfl⟩

variable {ok : State Private Shared Action Record → Label Call Outside → Prop}
  {start : State Private Shared Action Record}

/-- The invariant rule of a component, one obligation for each kind of move. An
obligation may use that the state before the move is reachable, and so any invariant
that is known already. -/
theorem invariant {I : State Private Shared Action Record → Prop}
    (hreach : comp.system.ReachUnder ok start m) (hstart : I start)
    (hcall : ∀ m c priv actions record, comp.system.Reach start m → I m → ok m (.call c) →
      m.agenda = [] → comp.exec m.priv m.shared c = some (priv, actions, record) →
      I ⟨priv, actions, m.shared, record :: m.log⟩)
    (hact : ∀ m action rest, comp.system.Reach start m → I m → ok m .act →
      m.agenda = action :: rest →
      I { m with agenda := rest, shared := comp.play m.shared action })
    (houtside : ∀ m x shared, comp.system.Reach start m → I m → ok m (.outside x) →
      comp.outside m.shared x = some shared → I { m with shared := shared }) :
    I m := by
  apply hreach.invariant_with id hstart
  intro before label after hknown hinv hok hstep
  cases label with
  | call c =>
      obtain ⟨priv, actions, record, hagenda, hexec, rfl⟩ := step_call_eq_some hstep
      exact hcall before c priv actions record hknown hinv hok hagenda hexec
  | act =>
      obtain ⟨action, rest, hagenda, rfl⟩ := step_act_eq_some hstep
      exact hact before action rest hknown hinv hok hagenda
  | outside x =>
      obtain ⟨shared, hout, rfl⟩ := step_outside_eq_some hstep
      exact houtside before x shared hknown hinv hok hout

end Component

end Transition
