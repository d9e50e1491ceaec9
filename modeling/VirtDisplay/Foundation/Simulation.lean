/-
# Simulations between transition systems

One system implements another if everything it can do, the other can do as well. What a
label of the first shows of the second is a relation rather than a function: the first may
know less about a step than the second says about it. A label may also show several actions,
or none.
-/

import VirtDisplay.Foundation.Transition

namespace Transition

universe u v w x

namespace System

variable {State : Type u} {Label : Type v} {Abstract : Type w} {Action : Type x}
variable {sys : System State Label} {spec : System Abstract Action}
variable {ok : State → Label → Prop} {Shows : Label → List Action → Prop}
variable {R : State → Abstract → Prop}

theorem run_append (sys : System State Label) (state : State) (first second : List Label) :
    sys.run state (first ++ second) =
      (sys.run state first).bind fun next => sys.run next second := by
  induction first generalizing state with
  | nil => rfl
  | cons label first ih =>
      simp only [List.cons_append, run, Option.bind_assoc, ih]

@[simp]
theorem run_singleton (sys : System State Label) (state : State) (label : Label) :
    sys.run state [label] = sys.step state label := by
  rw [run]
  cases sys.step state label with
  | none => rfl
  | some next => rfl

theorem run_pair (sys : System State Label) (state : State) (first second : Label) :
    sys.run state [first, second] =
      (sys.step state first).bind fun next => sys.step next second := by
  rw [run]
  exact congrArg _ (funext fun next => run_singleton sys next second)

/-- Every allowed step of `sys` is matched by actions that it shows. -/
structure Simulates (sys : System State Label) (ok : State → Label → Prop)
    (spec : System Abstract Action) (Shows : Label → List Action → Prop)
    (R : State → Abstract → Prop) : Prop where
  step : ∀ {state label after spot}, R state spot → ok state label →
    sys.step state label = some after →
    ∃ actions spot', Shows label actions ∧ spec.run spot actions = some spot' ∧ R after spot'

/-- The runs of `sys` whose steps are all allowed. -/
inductive RunUnder (sys : System State Label) (ok : State → Label → Prop) :
    State → List Label → State → Prop
  | nil (state : State) : RunUnder sys ok state [] state
  | cons {state next after : State} {label : Label} {labels : List Label}
      (allowed : ok state label) (taken : sys.step state label = some next)
      (rest : RunUnder sys ok next labels after) : RunUnder sys ok state (label :: labels) after

/-- What a run comes to is reached. -/
theorem ReachUnder.follow {start state after : State} {labels : List Label}
    (hreach : sys.ReachUnder ok start state) (hrun : sys.RunUnder ok state labels after) :
    sys.ReachUnder ok start after := by
  induction hrun with
  | nil => exact hreach
  | cons allowed taken _ ih => exact ih (.next hreach allowed taken)

/-- The invariant rule for runs: what holds of the run without steps, and survives every allowed
step at its end, holds of every run. -/
theorem RunUnder.invariant {P : List Label → State → Prop} {start after : State}
    {labels : List Label} (hrun : sys.RunUnder ok start labels after) (hstart : P [] start)
    (hstep : ∀ {labels state label after}, P labels state → ok state label →
      sys.step state label = some after → P (labels ++ [label]) after) :
    P labels after := by
  have hall : ∀ before, P before start → P (before ++ labels) after := by
    clear hstart
    induction hrun with
    | nil state =>
        intro before hbefore
        rwa [List.append_nil]
    | cons allowed taken _ ih =>
        intro before hbefore
        have hrest := ih _ (hstep hbefore allowed taken)
        rwa [List.append_assoc, List.singleton_append] at hrest
  exact hall [] hstart

/-- Every run is matched by a run of what its labels show, in the same order. -/
theorem Simulates.run (hsim : sys.Simulates ok spec Shows R) {state after : State}
    {spot : Abstract} {labels : List Label} (hrel : R state spot)
    (hrun : sys.RunUnder ok state labels after) :
    ∃ shown spot', List.Forall₂ Shows labels shown ∧
      spec.run spot shown.flatten = some spot' ∧ R after spot' := by
  induction hrun generalizing spot with
  | nil state => exact ⟨[], spot, .nil, rfl, hrel⟩
  | cons allowed taken _ ih =>
      obtain ⟨actions, mid, hshow, hmid, hrel'⟩ := hsim.step hrel allowed taken
      obtain ⟨shown, spot', hshown, hrest, hend⟩ := ih hrel'
      refine ⟨actions :: shown, spot', .cons hshow hshown, ?_, hend⟩
      rw [List.flatten_cons, run_append, hmid]
      exact hrest

/-- A run whose steps are all allowed, from the labels. -/
theorem RunUnder.of_run {state after : State} {labels : List Label}
    (hok : ∀ state label, ok state label) (hrun : sys.run state labels = some after) :
    sys.RunUnder ok state labels after := by
  induction labels generalizing state with
  | nil =>
      obtain rfl := Option.some.inj hrun
      exact .nil state
  | cons label labels ih =>
      obtain ⟨next, hstep, hrest⟩ := Option.bind_eq_some_iff.mp hrun
      exact .cons (hok state label) hstep (ih hrest)

/-- Simulations compose. -/
theorem Simulates.trans {Deep Move : Type*} {deep : System Deep Move}
    {Shows' : Action → List Move → Prop} {R' : Abstract → Deep → Prop}
    (hfirst : sys.Simulates ok spec Shows R)
    (hsecond : spec.Simulates (fun _ _ => True) deep Shows' R') :
    sys.Simulates ok deep
      (fun label moves => ∃ actions shown, Shows label actions ∧
        List.Forall₂ Shows' actions shown ∧ shown.flatten = moves)
      (fun state spot => ∃ mid, R state mid ∧ R' mid spot) where
  step := by
    rintro state label after spot ⟨mid, hrel, hrel'⟩ hallowed hstep
    obtain ⟨actions, mid', hshows, hrun, hmid⟩ := hfirst.step hrel hallowed hstep
    obtain ⟨shown, spot', hshown, hdeep, hspot⟩ :=
      hsecond.run hrel' (.of_run (fun _ _ => trivial) hrun)
    exact ⟨shown.flatten, spot', ⟨actions, shown, hshows, hshown, rfl⟩, hdeep, mid', hmid, hspot⟩

/-- Every state that can be reached is related to one that can be. -/
theorem Simulates.reach (hsim : sys.Simulates ok spec Shows R) {start state : State}
    {spot : Abstract} (hstart : R start spot) (hreach : sys.ReachUnder ok start state) :
    ∃ spot', spec.Reach spot spot' ∧ R state spot' := by
  induction hreach with
  | refl => exact ⟨spot, .refl, hstart⟩
  | next _ allowed taken ih =>
      obtain ⟨mid, hmid, hrel⟩ := ih
      obtain ⟨actions, spot', _, hrun, hrel'⟩ := hsim.step hrel allowed taken
      exact ⟨spot', Reach.run hmid hrun, hrel'⟩

end System

end Transition
