/-
# An owner and a peer

An owner submits items to a peer and collects them again. The peer takes the items in the
order of their submission, works on several at a time and answers them in any order; the
owner collects the answers in the order in which they were given. Each item has a cost, and
what is between the two never costs more than the capacity: a submission that would exceed
it is refused, and no other is.

The runs of this system say what such an exchange is for. Nothing is lost, nothing is
returned twice, and both directions are first in, first out.
-/

import Mathlib.Algebra.BigOperators.Group.List.Basic
import Mathlib.Algebra.Ring.Nat
import VirtDisplay.Foundation.Simulation

/-- What has been submitted and not collected. -/
structure Exchange (Item Answer : Type*) where
  waiting : List Item
  held : List Item
  answered : List (Item × Answer)

namespace Exchange

open Transition

variable {Item Answer : Type*}

/-- What the two can do. -/
inductive Action (Item Answer : Type*)
  | submit (x : Item)
  /-- There is no room for the item. -/
  | refuse (x : Item)
  | take (x : Item)
  /-- The peer is done with the `k`-th item it holds. -/
  | answer (k : Nat) (x : Item) (a : Answer)
  | collect (x : Item) (a : Answer)
  /-- There is no answer to collect. -/
  | nothing

/-- Everything between the two. -/
def live (e : Exchange Item Answer) : List Item :=
  e.waiting ++ e.held ++ e.answered.map Prod.fst

/-- What the live items of an exchange cost together. -/
def load (cost : Item → Nat) (e : Exchange Item Answer) : Nat := (e.live.map cost).sum

/-- Nothing submitted yet. -/
def idle : Exchange Item Answer := ⟨[], [], []⟩

section

variable [DecidableEq Item] [DecidableEq Answer]

/-- One action. -/
def step (cost : Item → Nat) (capacity : Nat) (e : Exchange Item Answer) :
    Action Item Answer → Option (Exchange Item Answer)
  | .submit x =>
      if e.load cost + cost x ≤ capacity then some { e with waiting := e.waiting ++ [x] } else none
  | .refuse x => if capacity < e.load cost + cost x then some e else none
  | .take x =>
      if e.waiting.head? = some x then
        some { e with waiting := e.waiting.tail, held := e.held ++ [x] }
      else none
  | .answer k x a =>
      if e.held[k]? = some x then
        some { e with held := e.held.eraseIdx k, answered := e.answered ++ [(x, a)] }
      else none
  | .collect x a =>
      if e.answered.head? = some (x, a) then some { e with answered := e.answered.tail } else none
  | .nothing => if e.answered = [] then some e else none

/-- The exchange as a system. -/
def system (cost : Item → Nat) (capacity : Nat) :
    System (Exchange Item Answer) (Action Item Answer) := ⟨step cost capacity⟩

end

/-- What an action submits. -/
def Action.submitted? : Action Item Answer → Option Item
  | .submit x => some x
  | _ => none

/-- What an action takes. -/
def Action.taken? : Action Item Answer → Option Item
  | .take x => some x
  | _ => none

/-- What an action answers. -/
def Action.answered? : Action Item Answer → Option (Item × Answer)
  | .answer _ x a => some (x, a)
  | _ => none

/-- What an action collects. -/
def Action.collected? : Action Item Answer → Option (Item × Answer)
  | .collect x a => some (x, a)
  | _ => none

/-- A run of the exchange and the ways in which it may be summed up. -/
structure Account (before : Exchange Item Answer) (actions : List (Action Item Answer))
    (after : Exchange Item Answer) : Prop where
  /-- Items are taken in the order of submission. -/
  taken : before.waiting ++ actions.filterMap Action.submitted? =
    actions.filterMap Action.taken? ++ after.waiting
  /-- What is held was taken, and is answered once. -/
  held : (before.held ++ actions.filterMap Action.taken?).Perm
    ((actions.filterMap Action.answered?).map Prod.fst ++ after.held)
  /-- Answers are collected in the order in which they are given. -/
  collected : before.answered ++ actions.filterMap Action.answered? =
    actions.filterMap Action.collected? ++ after.answered

variable {cost : Item → Nat} {capacity k : Nat} {e before mid after : Exchange Item Answer}
variable {action : Action Item Answer} {actions : List (Action Item Answer)} {x : Item} {a : Answer}

theorem filterMap_singleton {α β : Type*} (f : α → Option β) (a : α) :
    [a].filterMap f = (f a).toList := by
  cases h : f a with
  | none => simp [h]
  | some b => simp [h]

section

variable [DecidableEq Item] [DecidableEq Answer]

theorem run_submit (hroom : e.load cost + cost x ≤ capacity) :
    (system cost capacity).run e [.submit x] =
      some { e with waiting := e.waiting ++ [x] } := by
  rw [System.run_singleton]
  exact if_pos hroom

theorem run_refuse (hfull : capacity < e.load cost + cost x) :
    (system cost capacity).run e [.refuse x] = some e := by
  rw [System.run_singleton]
  exact if_pos hfull

theorem run_take (hhead : e.waiting.head? = some x) :
    (system cost capacity).run e [.take x] =
      some { e with waiting := e.waiting.tail, held := e.held ++ [x] } := by
  rw [System.run_singleton]
  exact if_pos hhead

theorem run_answer (hget : e.held[k]? = some x) :
    (system cost capacity).run e [.answer k x a] =
      some { e with held := e.held.eraseIdx k, answered := e.answered ++ [(x, a)] } := by
  rw [System.run_singleton]
  exact if_pos hget

theorem run_collect (hhead : e.answered.head? = some (x, a)) :
    (system cost capacity).run e [.collect x a] =
      some { e with answered := e.answered.tail } := by
  rw [System.run_singleton]
  exact if_pos hhead

theorem run_nothing (hnil : e.answered = []) :
    (system cost capacity).run e [.nothing] = some e := by
  rw [System.run_singleton]
  exact if_pos hnil

end

/-- An account of one action, part by part. -/
theorem account_single
    (htaken : before.waiting ++ action.submitted?.toList = action.taken?.toList ++ after.waiting)
    (hheld : (before.held ++ action.taken?.toList).Perm
      (action.answered?.toList.map Prod.fst ++ after.held))
    (hcollected : before.answered ++ action.answered?.toList =
      action.collected?.toList ++ after.answered) : Account before [action] after where
  taken := by simpa only [filterMap_singleton] using htaken
  held := by simpa only [filterMap_singleton] using hheld
  collected := by simpa only [filterMap_singleton] using hcollected

section

variable [DecidableEq Item] [DecidableEq Answer]

/-- One action, summed up. -/
theorem step_account (hstep : step cost capacity before action = some after) :
    Account before [action] after := by
  cases action with
  | submit x =>
      rw [step, Option.ite_none_right_eq_some] at hstep
      obtain ⟨-, ⟨⟩⟩ := hstep
      exact account_single rfl (by simp [Action.answered?, Action.taken?]) (List.append_nil _)
  | refuse x =>
      rw [step, Option.ite_none_right_eq_some] at hstep
      obtain ⟨-, ⟨⟩⟩ := hstep
      exact account_single (List.append_nil _) (by simp [Action.answered?, Action.taken?])
        (List.append_nil _)
  | take x =>
      rw [step, Option.ite_none_right_eq_some] at hstep
      obtain ⟨hhead, ⟨⟩⟩ := hstep
      exact account_single ((List.append_nil _).trans (List.eq_cons_of_mem_head? hhead)) (.refl _)
        (List.append_nil _)
  | answer k x a =>
      rw [step, Option.ite_none_right_eq_some] at hstep
      obtain ⟨hget, ⟨⟩⟩ := hstep
      refine account_single (List.append_nil _) ?_ rfl
      simpa [Action.answered?, Action.taken?] using perm_cons_eraseIdx hget
  | collect x a =>
      rw [step, Option.ite_none_right_eq_some] at hstep
      obtain ⟨hhead, ⟨⟩⟩ := hstep
      exact account_single (List.append_nil _) (by simp [Action.answered?, Action.taken?])
        ((List.append_nil _).trans (List.eq_cons_of_mem_head? hhead))
  | nothing =>
      rw [step, Option.ite_none_right_eq_some] at hstep
      obtain ⟨-, ⟨⟩⟩ := hstep
      exact account_single (List.append_nil _) (by simp [Action.answered?, Action.taken?])
        (List.append_nil _)

end

namespace Account

theorem refl (e : Exchange Item Answer) : Account e [] e := ⟨by simp, by simp, by simp⟩

/-- Accounts of one run after another add up. -/
theorem append {more : List (Action Item Answer)} (hfirst : Account before actions mid)
    (hsecond : Account mid more after) : Account before (actions ++ more) after where
  taken := by
    rw [List.filterMap_append, List.filterMap_append, ← List.append_assoc, hfirst.taken,
      List.append_assoc, hsecond.taken, List.append_assoc]
  held := by
    rw [List.filterMap_append, List.filterMap_append, List.map_append, ← List.append_assoc]
    have hmid := hfirst.held.append_right (more.filterMap Action.taken?)
    rw [List.append_assoc (List.map _ _)] at hmid
    refine hmid.trans ?_
    rw [List.append_assoc]
    exact hsecond.held.append_left _
  collected := by
    rw [List.filterMap_append, List.filterMap_append, ← List.append_assoc, hfirst.collected,
      List.append_assoc, hsecond.collected, List.append_assoc]

theorem submitted_eq (h : Account idle actions after) :
    actions.filterMap Action.submitted? = actions.filterMap Action.taken? ++ after.waiting :=
  h.taken

theorem answered_eq (h : Account idle actions after) :
    actions.filterMap Action.answered? = actions.filterMap Action.collected? ++ after.answered :=
  h.collected

/-- From the start, what was submitted is what was collected and what is still there. -/
theorem conserved (h : Account idle actions after) :
    (actions.filterMap Action.submitted?).Perm
      ((actions.filterMap Action.collected?).map Prod.fst ++ after.live) := by
  have hheld : (actions.filterMap Action.taken?).Perm
      ((actions.filterMap Action.answered?).map Prod.fst ++ after.held) := h.held
  rw [h.submitted_eq]
  refine (hheld.append_right _).trans ?_
  rw [h.answered_eq, List.map_append, live]
  simp only [List.append_assoc]
  refine List.Perm.append_left _ ?_
  refine List.perm_append_comm.trans ?_
  rw [← List.append_assoc]
  exact List.perm_append_comm.append_right _

end Account

/-- Every run adds up. -/
theorem run_account [DecidableEq Item] [DecidableEq Answer]
    (hrun : (system cost capacity).run before actions = some after) :
    Account before actions after := by
  induction actions generalizing before with
  | nil =>
      obtain rfl := Option.some.inj hrun
      exact .refl before
  | cons action actions ih =>
      obtain ⟨mid, hstep, hrest⟩ := Option.bind_eq_some_iff.mp hrun
      exact (step_account hstep).append (ih hrest)

end Exchange
