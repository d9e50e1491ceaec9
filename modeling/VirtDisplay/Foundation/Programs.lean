/-
# Calls that can be watched

A call that changes a state step by step shows the states in between to whoever looks at it
meanwhile. Here it is a program of such steps. Some programs wait for the outside: they read an
answer again and again until one of them is the last, and nothing says that there is a last one.

What a program keeps is shown along its text, with a rule for each kind of step and one for
going on with another program. It follows for whatever is seen in a run, between two calls and in
the middle of one, also of a call that never comes to its end.
-/

import VirtDisplay.Foundation.Attempts
import VirtDisplay.Foundation.Transition

namespace Transition

/-- What is left to do of a call that changes a state. -/
inductive Program (State Answer Value : Type) : Type 1
  | done (a : Value)
  /-- One step, and what is done with its value. A step that goes wrong has no result. -/
  | act {Step : Type} (f : State → Option (Step × State))
      (rest : Step → Program State Answer Value)
  /-- A loop: each round takes an answer and says whether it is the last one. -/
  | await (round : Answer → State → State × Bool) (rest : Program State Answer Value)

namespace Program

variable {State Answer Value Value' : Type}

/-- Go on with another program. -/
def bind : Program State Answer Value → (Value → Program State Answer Value') →
    Program State Answer Value'
  | .done a, next => next a
  | .act f rest, next => .act f fun b => (rest b).bind next
  | .await round rest, next => .await round (rest.bind next)

instance : Monad (Program State Answer) where
  pure := .done
  bind := .bind

/-- A program of one step. -/
def step (f : State → Option (Value × State)) : Program State Answer Value := .act f .done

/-- Look at the state. -/
def gets (f : State → Value) : Program State Answer Value := .step fun s => some (f s, s)

/-- Change the state. -/
def modify (f : State → State) : Program State Answer Unit := .step fun s => some ((), f s)

/-- A program that only waits. -/
def wait (round : Answer → State → State × Bool) : Program State Answer Unit :=
  .await round (.done ())

/-- From this state on the program only shows states that are `visible`, as long as the answers
are `ok`; `blame` is why a step goes wrong, and `post` holds at the end. -/
inductive Keeps (ok : State → Answer → Prop) (blame : Prop) (visible : State → Prop)
    (post : Value → State → Prop) : Program State Answer Value → State → Prop
  | done {a : Value} {s : State} (now : visible s) (ends : post a s) :
      Keeps ok blame visible post (.done a) s
  | act {Step : Type} {f : State → Option (Step × State)}
      {rest : Step → Program State Answer Value} {s : State} (now : visible s)
      (next : ∀ b s', f s = some (b, s') → Keeps ok blame visible post (rest b) s')
      (wrong : f s = none → blame) : Keeps ok blame visible post (.act f rest) s
  /-- What holds during the wait is kept by each round but the last. -/
  | await {round : Answer → State → State × Bool} {rest : Program State Answer Value} {s : State}
      {I : State → Prop} (now : I s) (shows : ∀ s, I s → visible s)
      (stays : ∀ s a, I s → ok s a → (round a s).2 = false → I (round a s).1)
      (leaves : ∀ s a, I s → ok s a → (round a s).2 = true →
        Keeps ok blame visible post rest (round a s).1) :
      Keeps ok blame visible post (.await round rest) s

/-- The program comes to its end if its waits do. -/
inductive Returns : Program State Answer Value → State → Prop
  | done {a : Value} {s : State} : Returns (.done a) s
  | act {Step : Type} {f : State → Option (Step × State)}
      {rest : Step → Program State Answer Value} {b : Step} {s s' : State}
      (taken : f s = some (b, s')) (later : Returns (rest b) s') : Returns (.act f rest) s
  | await {round : Answer → State → State × Bool} {rest : Program State Answer Value} {s : State}
      (later : ∀ a, (round a s).2 = true → Returns rest (round a s).1) :
      Returns (.await round rest) s

variable {ok : State → Answer → Prop} {blame : Prop} {visible : State → Prop}
variable {post : Value → State → Prop} {final : Value' → State → Prop}
variable {p : Program State Answer Value} {s : State}

namespace Keeps

theorem now (h : Keeps ok blame visible post p s) : visible s := by
  cases h with
  | done now => exact now
  | act now => exact now
  | await now shows => exact shows _ now

theorem ends {a : Value} (h : Keeps ok blame visible post (.done a) s) : post a s := by
  cases h with
  | done _ ends => exact ends

theorem bind (h : Keeps ok blame visible post p s) {next : Value → Program State Answer Value'}
    (hnext : ∀ a s, post a s → Keeps ok blame visible final (next a) s) :
    Keeps ok blame visible final (p >>= next) s := by
  induction h with
  | done now ends => exact hnext _ _ ends
  | act now _ wrong ih => exact .act now ih wrong
  | await now shows stays _ ih => exact .await now shows stays ih

theorem mono {post' : Value → State → Prop} (h : Keeps ok blame visible post p s)
    (himp : ∀ a s, post a s → post' a s) : Keeps ok blame visible post' p s := by
  induction h with
  | done now ends => exact .done now (himp _ _ ends)
  | act now _ wrong ih => exact .act now ih wrong
  | await now shows stays _ ih => exact .await now shows stays ih

/-- A step that is an attempt. -/
theorem step {f : State → Option (Value × State)} (now : visible s)
    (shows : ∀ a s, post a s → visible s) (h : Attempt blame (fun r => post r.1 r.2) (f s)) :
    Keeps ok blame visible post (.step f) s := by
  refine .act now (fun b s' heq => ?_) fun hnone => ?_
  · have hpost := h.post_of_eq heq
    exact .done (shows _ _ hpost) hpost
  · rw [hnone] at h
    cases h with
    | lost hblame => exact hblame

theorem gets {f : State → Value} (now : visible s) (h : post (f s) s) :
    Keeps ok blame visible post (.gets f) s :=
  .act now (fun _ _ heq => by cases heq; exact .done now h) nofun

theorem modify {f : State → State} {post : Unit → State → Prop} (now : visible s)
    (shows : ∀ a s, post a s → visible s) (h : post () (f s)) :
    Keeps ok blame visible post (.modify f) s :=
  .step now shows (.done h)

/-- A wait that keeps `I` and ends with `post`. -/
theorem wait {round : Answer → State → State × Bool} {I : State → Prop}
    {post : Unit → State → Prop} (now : I s) (visibly : ∀ s, I s → visible s)
    (shows : ∀ a s, post a s → visible s)
    (stays : ∀ s a, I s → ok s a → (round a s).2 = false → I (round a s).1)
    (leaves : ∀ s a, I s → ok s a → (round a s).2 = true → post () (round a s).1) :
    Keeps ok blame visible post (.wait round) s :=
  .await now visibly stays fun s a hI hok hlast =>
    have hpost := leaves s a hI hok hlast
    .done (shows _ _ hpost) hpost

/-- A program whose reason to go wrong is excluded returns, whatever the device answers. -/
theorem returns (h : Keeps ok blame visible post p s) (hok : ∀ s a, ok s a) (hblame : ¬ blame) :
    Returns p s := by
  induction h with
  | done => exact .done
  | @act Step f rest s now next wrong ih =>
      cases hstep : f s with
      | none => exact absurd (wrong hstep) hblame
      | some r => exact .act hstep (ih _ _ hstep)
  | await now _ _ _ ih => exact .await fun a hlast => ih _ a now (hok _ a) hlast

end Keeps

/-- What the call that is under way has still to do, and the state. -/
structure Thread (State Answer : Type) : Type 1 where
  todo : Program State Answer Unit
  state : State

/-- The thread is between two calls. -/
def Thread.Idle (t : Thread State Answer) : Prop := t.todo = .done ()

/-- What happens next. -/
inductive Move (Call Answer : Type)
  /-- A call begins. -/
  | call (c : Call)
  /-- The next step of a call. -/
  | act
  /-- The next round of a wait. -/
  | answer (a : Answer)

variable {Call : Type}

/-- A thread that runs one call after the other. -/
def thread (body : Call → Program State Answer Unit) :
    System (Thread State Answer) (Move Call Answer) where
  step t move :=
    match t.todo, move with
    | .done _, .call c => some ⟨body c, t.state⟩
    | .act f rest, .act => (f t.state).map fun r => ⟨rest r.1, r.2⟩
    | .await round rest, .answer a =>
        some ⟨if (round a t.state).2 then rest else .await round rest, (round a t.state).1⟩
    | _, _ => none

/-- The answers are `ok`. -/
def Answered (ok : State → Answer → Prop) (t : Thread State Answer) : Move Call Answer → Prop
  | .answer a => ok t.state a
  | _ => True

instance [∀ s a, Decidable (ok s a)] (t : Thread State Answer) :
    (move : Move Call Answer) → Decidable (Answered ok t move)
  | .answer a => inferInstanceAs (Decidable (ok t.state a))
  | .call _ => .isTrue trivial
  | .act => .isTrue trivial

theorem answered_of_forall {t : Thread State Answer} (hok : ∀ s a, ok s a)
    (move : Move Call Answer) : Answered ok t move := by
  cases move with
  | answer a => exact hok _ a
  | call c => trivial
  | act => trivial

variable {body : Call → Program State Answer Unit} {start t : Thread State Answer}

/-- Whatever calls keep is kept in every run of them. -/
theorem Keeps.reach {between : Unit → State → Prop}
    (hbody : ∀ c s, between () s → Keeps ok blame visible between (body c) s)
    (hstart : Keeps ok blame visible between start.todo start.state)
    (hreach : (thread body).ReachUnder (Answered ok) start t) :
    Keeps ok blame visible between t.todo t.state := by
  refine hreach.invariant (I := fun t => Keeps ok blame visible between t.todo t.state) hstart
    fun before move after hkeeps hok hstep => ?_
  obtain ⟨todo, s⟩ := before
  cases hkeeps with
  | done _ ends =>
      cases move with
      | call c =>
          obtain rfl := Option.some.inj hstep
          exact hbody c s ends
      | act => cases hstep
      | answer a => cases hstep
  | act _ next _ =>
      cases move with
      | call c => cases hstep
      | act =>
          obtain ⟨⟨b, s'⟩, htaken, rfl⟩ := Option.map_eq_some_iff.mp hstep
          exact next b s' htaken
      | answer a => cases hstep
  | await now shows stays leaves =>
      cases move with
      | call c => cases hstep
      | act => cases hstep
      | answer a =>
          obtain rfl := Option.some.inj hstep
          dsimp only
          split
          next hlast => exact leaves s a now hok hlast
          next hlast =>
            exact .await (stays s a now hok (eq_false_of_ne_true hlast)) shows stays leaves

end Program

end Transition
