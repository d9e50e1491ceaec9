/-
# The control queue as the host reads it

A reader of the control queue knows which resources are live and which scanout shows
which resource. This says nothing about how far the host has come: it is what the
commands queued so far amount to, whenever they are executed.

A scanout that is pointed at a resource shows it from then on. It stops showing what it
showed before if it is pointed at nothing or at a resource that is live.
-/

import VirtDisplay.Foundation.Streams
import VirtDisplay.Adapter.Runs

namespace VirtDisplay

open Transition Streams

/-- What the host gets to see. -/
inductive HostEvent
  | command (cmd : GpuCmd)
  | reset
  deriving DecidableEq

/-- What the host sees of an action. -/
def Action.hostEvents : Action → List HostEvent
  | .submit submission => [.command submission.cmd]
  | .flush _ _ (some cmd) => [.command cmd]
  | .reset => [.reset]
  | .flush _ _ none | .clearFlush _ | .pages _ | .cursor _ => []

/-- What the host sees of some actions. -/
def hostEvents (actions : List Action) : List HostEvent := actions.flatMap Action.hostEvents

/-- What is on the queue, executed or not. -/
def Shared.hostEvents (s : Shared) : List HostEvent :=
  s.sent.map fun submission => .command submission.cmd

section

variable (o : Outcomes) (i : ScreenId)

@[simp] theorem hostEvents_nil : hostEvents [] = [] := rfl

@[simp]
theorem hostEvents_append (xs ys : List Action) :
    hostEvents (xs ++ ys) = hostEvents xs ++ hostEvents ys := List.flatMap_append

@[simp]
theorem hostEvents_submitted (cmd : GpuCmd) (backing : Option Nat) :
    hostEvents (submitted o cmd backing) = if o.accepts cmd then [.command cmd] else [] := by
  unfold submitted
  split <;> rfl

@[simp]
theorem hostEvents_flushAction (serial resid width height : Nat) :
    hostEvents [flushAction o i serial resid width height] =
      if o.accepts (.resourceFlush i.val resid width height) then
        [.command (.resourceFlush i.val resid width height)] else [] := by
  unfold flushAction
  split <;> rfl

@[simp]
theorem hostEvents_pages (events : List PageEvent) : hostEvents (events.map .pages) = [] := by
  simp [hostEvents, Action.hostEvents]

@[simp]
theorem hostEvents_resetActions (flushCount : Nat) :
    hostEvents (resetActions i flushCount) = [] := by
  unfold resetActions
  split <;> rfl

theorem hostEvents_cursor {shown : List Action}
    (hshown : ∀ action ∈ shown, ∃ cmd, action = .cursor cmd) : hostEvents shown = [] := by
  apply List.flatMap_eq_nil_iff.mpr
  intro action hmem
  obtain ⟨cmd, rfl⟩ := hshown action hmem
  rfl

end

/-- The live resources, and the scanouts with the resources they show. -/
structure HostView where
  live : List Nat
  shown : List (Nat × Nat)
  deriving DecidableEq

/-- A host that has just been reset. -/
def HostView.start : HostView := ⟨[], []⟩

namespace HostView

variable (view : HostView)

/-- A scanout is pointed at a resource, or at nothing. -/
def point (scanoutId resourceId : Nat) : List (Nat × Nat) :=
  let kept :=
    if resourceId = 0 ∨ resourceId ∈ view.live then
      view.shown.filter fun pair => pair.1 ≠ scanoutId
    else view.shown
  if resourceId = 0 then kept else (scanoutId, resourceId) :: kept

/-- The view after a command. -/
def exec : GpuCmd → HostView
  | .resourceCreate2D id .. | .resourceCreateBlob id .. => { view with live := id :: view.live }
  | .resourceUnref id => { view with live := view.live.filter (· ≠ id) }
  | .setScanout scanoutId id .. | .setScanoutBlob scanoutId id .. =>
      { view with shown := view.point scanoutId id }
  | .resourceAttachBacking .. | .resourceDetachBacking _ | .transferToHost2D ..
  | .resourceFlush .. =>
      view

/-- The view after an event. -/
def read : HostEvent → HostView
  | .command cmd => view.exec cmd
  | .reset => .start

end HostView

/-- The view of everything on the queue. -/
def Shared.view (s : Shared) : HostView := s.hostEvents.foldl HostView.read .start

variable {InOrder : HostView → HostEvent → Prop}

/-- An action puts on the queue what the host sees of it. -/
theorem playAction_hostEvents (s : Shared) (action : Action) :
    (playAction s action).hostEvents =
      if action = .reset then [] else s.hostEvents ++ action.hostEvents := by
  cases action with
  | submit submission => simp [playAction, Shared.hostEvents, Action.hostEvents]
  | flush i serial cmd => cases cmd <;> simp [playAction, Shared.hostEvents, Action.hostEvents]
  | clearFlush i => simp [playAction, Shared.hostEvents, Action.hostEvents]
  | pages event => cases event <;> simp [playAction, Shared.hostEvents, Action.hostEvents]
  | cursor cmd => simp [playAction, Shared.hostEvents, Action.hostEvents]
  | reset => simp [playAction, Shared.hostEvents]

theorem outsideMove_hostEvents {s s' : Shared} {x : Outside} (hmove : outsideMove s x = some s') :
    s'.hostEvents = s.hostEvents := by
  obtain ⟨hsent, -⟩ := outsideMove_frame hmove
  rw [Shared.hostEvents, hsent, Shared.hostEvents]

/-- An action is read as it is played. -/
theorem playAction_view (s : Shared) (action : Action) :
    (playAction s action).view = action.hostEvents.foldl HostView.read s.view := by
  rw [Shared.view, playAction_hostEvents]
  split
  next hreset =>
    subst hreset
    rfl
  next => rw [List.foldl_append, Shared.view]

/-- The rule for what the host reads: each call's events are in order, and keep an
invariant between the adapter and the view. Then what is on the queue is in order, and
so are the events of the call under way. -/
theorem Machine.ReachableUnder.sends {ok : Machine → Move → Prop} {m : Machine}
    {I : Adapter → HostView → Prop} (hreach : Machine.ReachableUnder ok m)
    (hstart : ∀ cfg a, hwInit cfg = some a → I a .start)
    (hcall : ∀ m call a' actions record, I m.priv m.shared.view → ok m (.call call) →
      CallStep m.priv m.shared call a' actions record →
      ∃ after, Sends HostView.read InOrder m.shared.view (hostEvents actions) after ∧ I a' after) :
    Throughout HostView.read InOrder .start m.shared.hostEvents ∧
      ∃ after, Sends HostView.read InOrder m.shared.view (hostEvents m.agenda) after ∧
        I m.priv after := by
  refine hreach.invariant_of_hwInit (I := fun m =>
    Throughout HostView.read InOrder .start m.shared.hostEvents ∧
      ∃ after, Sends HostView.read InOrder m.shared.view (hostEvents m.agenda) after ∧
        I m.priv after) ?_ ?_ ?_ ?_
  · intro cfg a hinit
    exact ⟨trivial, _, .nil, hstart cfg a hinit⟩
  · rintro m call a' actions record - ⟨hqueue, after, hsends, hinv⟩ hok hagenda hstep
    rw [hagenda] at hsends
    obtain rfl : m.shared.view = after := hsends.read
    exact ⟨hqueue, hcall m call a' actions record hinv hok hstep⟩
  · rintro m action rest - ⟨hqueue, after, hsends, hinv⟩ - hagenda
    rw [hagenda, show hostEvents (action :: rest) = action.hostEvents ++ hostEvents rest from rfl]
      at hsends
    obtain ⟨hfirst, hrest⟩ := throughout_append.mp hsends.inOrder
    have hread := hsends.read
    rw [List.foldl_append] at hread
    show Throughout HostView.read InOrder .start (playAction m.shared action).hostEvents ∧
      ∃ after,
        Sends HostView.read InOrder (playAction m.shared action).view (hostEvents rest) after ∧
        I m.priv after
    rw [playAction_view]
    refine ⟨?_, after, ⟨hrest, hread⟩, hinv⟩
    rw [playAction_hostEvents]
    split
    next => trivial
    next => exact throughout_append.mpr ⟨hqueue, hfirst⟩
  · rintro m x shared - ⟨hqueue, hsends⟩ - hmove
    have hsame := outsideMove_hostEvents hmove
    show Throughout HostView.read InOrder .start shared.hostEvents ∧
      ∃ after, Sends HostView.read InOrder shared.view (hostEvents m.agenda) after ∧ I m.priv after
    rw [Shared.view, hsame]
    exact ⟨hqueue, hsends⟩

end VirtDisplay
