/-
# Transition systems whose steps may be refused

A labelled transition system here is one partial function: given a state and a
label it either produces the next state or refuses. Everything nondeterministic,
such as the order of the participants' moves or the outcome of an allocation, is
carried by the label, so a run is determined by its labels and can be evaluated.

Reachability is indexed by a guard on steps. A property that a program only has
while its environment behaves is then a statement about the states reached by
guarded steps, and dropping the guard gives the property of every run. The two
readings share one induction principle.
-/

import Mathlib.Data.List.Perm.Basic

namespace Transition

universe u v w

/-- A labelled transition system with a deterministic, partial step. -/
structure System (State : Type u) (Label : Type v) where
  /-- The state a label leads to, or `none` where the label is refused. -/
  step : State → Label → Option State

namespace System

variable {State : Type u} {Label : Type v} (sys : System State Label)

/-- Follow a list of labels; the run is refused as soon as one label is. -/
def run : State → List Label → Option State
  | state, [] => some state
  | state, label :: labels => (sys.step state label).bind fun next => run next labels

@[simp]
theorem run_nil (state : State) : sys.run state [] = some state := rfl

/-- The states reachable from `start` by steps that all satisfy the guard `ok`. -/
inductive ReachUnder (ok : State → Label → Prop) (start : State) : State → Prop
  | refl : ReachUnder ok start start
  | next {state after : State} {label : Label} (prior : ReachUnder ok start state)
      (allowed : ok state label) (taken : sys.step state label = some after) :
      ReachUnder ok start after

/-- Reachability without a guard: any steps, in any order. -/
abbrev Reach (start : State) : State → Prop := sys.ReachUnder (fun _ _ => True) start

variable {sys} {ok strict : State → Label → Prop} {start state : State}

/-- The invariant rule: what holds initially and survives every allowed step
holds in every state reached. The step may use the invariant and the guard. -/
theorem ReachUnder.invariant {I : State → Prop} (hreach : sys.ReachUnder ok start state)
    (hstart : I start)
    (hstep : ∀ before label after, I before → ok before label →
      sys.step before label = some after → I after) :
    I state := by
  induction hreach with
  | refl => exact hstart
  | next _ allowed taken ih => exact hstep _ _ _ ih allowed taken

/-- A stricter guard reaches fewer states. -/
theorem ReachUnder.mono (hreach : sys.ReachUnder strict start state)
    (himp : ∀ before label, strict before label → ok before label) :
    sys.ReachUnder ok start state := by
  induction hreach with
  | refl => exact .refl
  | next _ allowed taken ih => exact .next ih (himp _ _ allowed) taken

/-- Forgetting the guard. -/
theorem ReachUnder.reach (hreach : sys.ReachUnder ok start state) : sys.Reach start state :=
  hreach.mono fun _ _ _ => trivial

/-- An invariant of the unguarded system may be assumed in every guarded run. -/
theorem ReachUnder.invariant_with {Known I : State → Prop}
    (hreach : sys.ReachUnder ok start state) (hknown : ∀ {s}, sys.Reach start s → Known s)
    (hstart : I start)
    (hstep : ∀ before label after, Known before → I before → ok before label →
      sys.step before label = some after → I after) :
    I state := by
  induction hreach with
  | refl => exact hstart
  | next prior allowed taken ih =>
      exact hstep _ _ _ (hknown prior.reach) ih allowed taken

/-- A guard may be exchanged for one that an invariant makes it imply. -/
theorem ReachUnder.exchange {I : State → Prop} {ok' : State → Label → Prop}
    (hreach : sys.ReachUnder ok start state) (hstart : I start)
    (hstep : ∀ before label after, I before → ok before label →
      sys.step before label = some after → I after ∧ ok' before label) :
    sys.ReachUnder ok' start state := by
  have hboth : I state ∧ sys.ReachUnder ok' start state := by
    induction hreach with
    | refl => exact ⟨hstart, .refl⟩
    | next _ allowed taken ih =>
        obtain ⟨hafter, hallowed⟩ := hstep _ _ _ ih.1 allowed taken
        exact ⟨hafter, .next ih.2 hallowed taken⟩
  exact hboth.2

/-- Running labels that are allowed in every state. -/
theorem ReachUnder.run {after : State} {labels : List Label}
    (hreach : sys.ReachUnder ok start state) (hok : ∀ s, ∀ label ∈ labels, ok s label)
    (hrun : sys.run state labels = some after) : sys.ReachUnder ok start after := by
  induction labels generalizing state with
  | nil =>
      rw [run_nil, Option.some.injEq] at hrun
      exact hrun ▸ hreach
  | cons label labels ih =>
      rw [System.run, Option.bind_eq_some_iff] at hrun
      obtain ⟨next, hstep, hrest⟩ := hrun
      exact ih (.next hreach (hok _ _ List.mem_cons_self) hstep)
        (fun s label hmem => hok s label (List.mem_cons_of_mem _ hmem)) hrest

variable (sys) in
/-- Follow a list of labels as long as each passes a test in the state it is taken in. -/
def checkedRun (check : State → Label → Bool) : State → List Label → Option State
  | state, [] => some state
  | state, label :: labels =>
      if check state label then
        (sys.step state label).bind fun next => checkedRun check next labels
      else none

/-- A run whose test implies the guard. -/
theorem ReachUnder.checkedRun {check : State → Label → Bool} {after : State} {labels : List Label}
    (hreach : sys.ReachUnder ok start state)
    (hok : ∀ s, ∀ label ∈ labels, check s label = true → ok s label)
    (hrun : sys.checkedRun check state labels = some after) : sys.ReachUnder ok start after := by
  induction labels generalizing state with
  | nil =>
      obtain rfl := Option.some.inj hrun
      exact hreach
  | cons label labels ih =>
      rw [System.checkedRun] at hrun
      split at hrun
      next hcheck =>
        obtain ⟨next, hstep, hrest⟩ := Option.bind_eq_some_iff.mp hrun
        exact ih (.next hreach (hok _ _ List.mem_cons_self hcheck) hstep)
          (fun s label hmem => hok s label (List.mem_cons_of_mem _ hmem)) hrest
      next => cases hrun

/-- Running labels from a reached state stays within the reachable states. -/
theorem Reach.run {after : State} {labels : List Label} (hreach : sys.Reach start state)
    (hrun : sys.run state labels = some after) : sys.Reach start after :=
  ReachUnder.run hreach (fun _ _ _ => trivial) hrun

/-- What a run, followed out, shows to be reachable. -/
theorem exists_reach {labels : List Label} {p : State → Bool}
    (hrun : (sys.run start labels).any p = true) :
      ∃ state, sys.Reach start state ∧ p state = true := by
  obtain ⟨state, hstate, hp⟩ := (Option.any_eq_true ..).mp hrun
  exact ⟨state, Reach.run .refl hstate, hp⟩

/-- What a tested run, followed out, shows to be reachable under the guard. -/
theorem exists_reachUnder {check : State → Label → Bool} {labels : List Label} {p : State → Bool}
    (hok : ∀ s label, check s label = true → ok s label)
    (hrun : (sys.checkedRun check start labels).any p = true) :
    ∃ state, sys.ReachUnder ok start state ∧ p state = true := by
  obtain ⟨state, hstate, hp⟩ := (Option.any_eq_true ..).mp hrun
  exact ⟨state, ReachUnder.checkedRun .refl (fun s label _ => hok s label) hstate, hp⟩

/-- A participant's own steps come to a goal, whatever each of them chooses. -/
inductive LeadsTo {Choice : Type w} (sys : System State Label) (act : Choice → Label)
    (goal : State → Prop) : State → Prop
  | now {state : State} (reached : goal state) : LeadsTo sys act goal state
  | later {state : State} (next : Choice → State)
      (taken : ∀ choice, sys.step state (act choice) = some (next choice))
      (rest : ∀ choice, LeadsTo sys act goal (next choice)) : LeadsTo sys act goal state

/-- A step that is the same for every choice. -/
theorem LeadsTo.step {Choice : Type w} {act : Choice → Label} {goal : State → Prop}
    {after : State} (taken : ∀ choice, sys.step state (act choice) = some after)
    (rest : sys.LeadsTo act goal after) : sys.LeadsTo act goal state :=
  .later (fun _ => after) taken fun _ => rest

/-- A step with two outcomes. -/
theorem LeadsTo.either {act : Bool → Label} {goal : State → Prop} {yes no : State}
    (takenYes : sys.step state (act true) = some yes)
    (takenNo : sys.step state (act false) = some no)
    (restYes : sys.LeadsTo act goal yes) (restNo : sys.LeadsTo act goal no) :
    sys.LeadsTo act goal state := by
  refine .later (fun choice => bif choice then yes else no) ?_ ?_
  · rintro (- | -)
    · exact takenNo
    · exact takenYes
  · rintro (- | -)
    · exact restNo
    · exact restYes

end System

/-! ## Choices

A label names one of several pending things by its place in a list. -/

/-- The thing chosen, and the others. -/
theorem perm_cons_eraseIdx {Item : Type u} {items : List Item} {item : Item} {k : Nat}
    (hget : items[k]? = some item) : items.Perm (item :: items.eraseIdx k) := by
  obtain ⟨hlt, rfl⟩ := List.getElem?_eq_some_iff.mp hget
  exact (List.getElem_cons_eraseIdx_perm hlt).symm

end Transition
