/-
# What a call does to the flush count of a screen

`m_FlushCount` is changed by two kinds of action, an increment together with a flush
and a reset to zero, and by the DPC. Of the many actions of a call only these are
kept here, screen by screen; a call turns out to perform at most one reset followed
by at most one flush. `FlushStep` says which, beside what happens to the screen.
-/

import VirtDisplay.Adapter.Runs

namespace VirtDisplay

open Transition

/-- The action changes the flush count of screen `j`, or the flushes outstanding. -/
def Action.countsFor (j : ScreenId) : Action → Bool
  | .flush i _ _ => i == j
  | .clearFlush i => i == j
  | .reset => true
  | .submit _ | .pages _ | .cursor _ => false

/-- The actions that count for screen `j`. -/
def accounting (j : ScreenId) (actions : List Action) : List Action :=
  actions.filter (Action.countsFor j)

section

variable (j : ScreenId) (o : Outcomes) (blob : Bool) (i : ScreenId) (info : VideoModeInfo)
  (mode : CurrentMode) (c : Ctx)

@[simp] theorem accounting_nil : accounting j [] = [] := rfl

@[simp]
theorem accounting_append (xs ys : List Action) :
    accounting j (xs ++ ys) = accounting j xs ++ accounting j ys := List.filter_append ..

@[simp]
theorem accounting_submitted (cmd : GpuCmd) (backing : Option Nat) :
    accounting j (submitted o cmd backing) = [] := by
  unfold submitted
  split <;> rfl

@[simp]
theorem accounting_pages (events : List PageEvent) : accounting j (events.map .pages) = [] := by
  simp [accounting, Action.countsFor]

@[simp]
theorem accounting_destroyActions (bReset : Bool) (resid : Nat) :
    accounting j (destroyActions o bReset resid) = [] := by
  cases bReset <;> simp [destroyActions]

@[simp]
theorem accounting_destroyFrontActions : accounting j (destroyFrontActions o c) = [] := by
  unfold destroyFrontActions
  split <;> simp

@[simp]
theorem accounting_prepareActions (resid : Nat) :
    accounting j (prepareActions o blob info mode c resid) = [] := by
  cases blob <;> simp [prepareActions]

@[simp]
theorem accounting_scanoutActions (resid : Nat) :
    accounting j (scanoutActions o blob i info mode resid) = [] := by
  cases blob <;> simp [scanoutActions]

theorem accounting_flushAction (serial resid width height : Nat) :
    accounting j [flushAction o i serial resid width height] =
      if i = j then [flushAction o i serial resid width height] else [] := by
  by_cases hij : i = j <;> simp [accounting, flushAction, Action.countsFor, hij]

/-- The flush of a freshly installed object is the only action of an installation
that counts. -/
@[simp]
theorem accounting_installActions (resid : Nat) :
    accounting j (installActions o blob i info mode c resid) =
      if i = j then [flushAction o i c.serial resid info.visScreenWidth info.visScreenHeight]
      else [] := by
  have hattach : accounting j (if o.newEnts then
      submitted o (attachCmd blob info mode resid (updatedSegment o info mode c).segment)
        (updatedSegment o info mode c).segment.mdl else []) = [] := by
    split <;> simp
  simp only [installActions, accounting_append, hattach, accounting_scanoutActions,
    accounting_flushAction, List.nil_append]

end

variable {o : Outcomes} {blob : Bool} {i : ScreenId} {flushCount : Nat} {mode : CurrentMode}
  {c c₁ c' : Ctx} {forced : Bool}

theorem accounting_resetActions (j : ScreenId) :
    accounting j (resetActions i flushCount) = if i = j then resetActions i flushCount else [] := by
  by_cases hcount : flushCount = 0
  · simp [resetActions, hcount]
  · by_cases hij : i = j <;> simp [resetActions, hcount, accounting, Action.countsFor, hij]

theorem not_flush_mem_resetActions {i j : ScreenId} {serial : Nat} {cmd : Option GpuCmd} :
    .flush i serial cmd ∉ resetActions j flushCount := by
  unfold resetActions
  split <;> simp

/-- The counting actions of a rebuild. -/
theorem accounting_rebuildFront (j : ScreenId) (info : VideoModeInfo) :
    accounting j (rebuildFront o blob i info mode c).actions = accounting j c.actions ++
      if Buildable o info mode c ∧ i = j then
        [flushAction o i c.serial (rebuildId o c) info.visScreenWidth info.visScreenHeight]
      else [] := by
  rw [rebuildFront_actions]
  by_cases hbuild : Buildable o info mode c <;> simp [hbuild]

/-- The counting actions of a reuse. -/
theorem accounting_flushFrameBufferObj {obj : VioGpuObj} (j : ScreenId) (info : VideoModeInfo)
    (hfront : c.screen.front = some obj) :
    accounting j (flushFrameBufferObj o blob i info c).actions = accounting j c.actions ++
      if i = j then
        [flushAction o i obj.origin.serial obj.hwRes info.visScreenWidth info.visScreenHeight]
      else [] := by
  rw [flushFrameBufferObj_eq o blob i info c hfront]
  cases blob <;> simp [accounting_flushAction]

/-- A mode-set call only counts for its own screen. -/
theorem ModeStep.accounting_of_ne {status : NtStatus} {path : PresentPath} {j : ScreenId}
    (hmode : ModeStep o blob i flushCount mode c c' status path) (hne : i ≠ j)
    (hquiet : accounting j c.actions = []) : accounting j c'.actions = [] := by
  cases hmode with
  | noMode => exact hquiet
  | dropped => exact hquiet
  | rebuild info hfound hpass hchanged =>
      rw [accounting_rebuildFront, hpass.actions, accounting_append, hquiet,
        accounting_resetActions, if_neg hne, if_neg (fun h => hne h.2)]
      rfl
  | reuse info obj hfound hpass hfront hsame =>
      rw [accounting_flushFrameBufferObj j info hfront, hpass.actions, accounting_append, hquiet,
        accounting_resetActions, if_neg hne, if_neg hne]
      rfl

/-- The black-out's flush of the front object. -/
theorem accounting_blackOutActions (j : ScreenId) :
    accounting j (blackOutActions o i mode c) =
      match c.screen.front with
      | none => []
      | some obj =>
          if mode.frameBufferIsActive ∧ i = j then
            [flushAction o i obj.origin.serial obj.hwRes mode.width mode.height]
          else [] := by
  unfold blackOutActions
  cases c.screen.front with
  | none => rfl
  | some obj => cases mode.frameBufferIsActive <;> simp [accounting_flushAction]

theorem accounting_releaseFrameBuffer (j : ScreenId) (hquiet : accounting j c.actions = []) :
    accounting j (releaseFrameBuffer o i c).actions = if i = j then [.clearFlush i] else [] := by
  rw [releaseFrameBuffer_actions]
  by_cases hij : i = j
  · simp only [accounting_append, accounting_submitted, accounting_destroyFrontActions,
      accounting_pages, hquiet, List.nil_append]
    simp [accounting, Action.countsFor, hij]
  · simp only [accounting_append, accounting_submitted, accounting_destroyFrontActions,
      accounting_pages, hquiet, List.nil_append]
    simp [accounting, Action.countsFor, hij]

/-- Actions none of which counts. -/
theorem accounting_eq_nil {j : ScreenId} {actions : List Action}
    (hquiet : ∀ action ∈ actions, action.countsFor j = false) : accounting j actions = [] := by
  rw [accounting, List.filter_eq_nil_iff]
  intro action hmem
  rw [hquiet action hmem]
  exact Bool.false_ne_true

theorem accounting_cursor {j : ScreenId} {shown : List Action}
    (hshown : ∀ action ∈ shown, ∃ cmd, action = .cursor cmd) : accounting j shown = [] := by
  apply accounting_eq_nil
  intro action hmem
  obtain ⟨cmd, rfl⟩ := hshown action hmem
  rfl

theorem PointerStep.accounting {shape : PointerShape} {format : D3DDDIFormat}
    (hstep : PointerStep o blob i shape format c c') (j : ScreenId) :
    accounting j c'.actions = accounting j c.actions := by
  obtain ⟨shown, hshown, hactions⟩ := hstep.actions
  have hdestroy : VirtDisplay.accounting j (destroyCursorActions o c) = [] := by
    unfold destroyCursorActions
    split <;> simp
  have hcreate : ∀ resid, VirtDisplay.accounting j
      (createCursorActions o blob shape format c resid) = [] := by
    intro resid
    unfold createCursorActions
    by_cases hbuild : CursorBuildable o c <;> cases blob <;> simp [hbuild]
  rw [hactions]
  simp only [accounting_append, hdestroy, hcreate, accounting_cursor hshown, List.append_nil]

theorem accounting_d0Exit (o : ScreenId → Outcomes) (a : Adapter) (j : ScreenId) :
    accounting j (d0Exit o a).2 = [.reset] := by
  obtain ⟨destroyed, closed, hactions, hdestroyed, hclosed⟩ := d0Exit_actions o a
  have hbefore : accounting j destroyed = [] := by
    apply accounting_eq_nil
    intro action hmem
    obtain ⟨cmd, rfl⟩ := hdestroyed action hmem
    rfl
  have hafter : accounting j closed = [] := by
    apply accounting_eq_nil
    intro action hmem
    obtain ⟨mdl, rfl, -⟩ := hclosed action hmem
    rfl
  rw [hactions, accounting_append, hbefore, List.nil_append]
  show .reset :: accounting j closed = [.reset]
  rw [hafter]

/-- What a call does to the frame buffer of screen `j` and to its flush count. The
last two indices are the screen afterwards and the counting actions. -/
inductive FlushStep (a : Adapter) (s : Shared) (call : Call) (j : ScreenId) :
    Record → ScreenInfo → List Action → Prop
  | silent {record : Record} {y : ScreenInfo} (hother : ¬ record.IsModeOf j)
      (heq : (a.screens j).FrameEq y) : FlushStep a s call j record y []
  | blackOut {record : Record} {y : ScreenInfo} {k : Nat} {o : Outcomes} (mode : CurrentMode)
      (obj : VioGpuObj) (hcall : call = .blackOut k o)
      (hpending : a.pendingBlackOuts[k]? = some mode) (hscreen : mode.targetId = j)
      (hother : ¬ record.IsModeOf j) (heq : (a.screens j).FrameEq y)
      (hfront : (a.screens j).front = some obj) :
      FlushStep a s call j record y
        [flushAction o j obj.origin.serial obj.hwRes mode.width mode.height]
  | mode {c' : Ctx} {status : NtStatus} {path : PresentPath} (r : Request)
      (hrequest : call.request = some r) (hscreen : r.screen = j)
      (hmode : ModeStep r.outcomes a.blobSupported j (s.flushCount j) r.mode (a.ctx j) c' status
        path) :
      FlushStep a s call j (.mode r.frame r.setMode status path) c'.screen (accounting j c'.actions)
  | release {o : Outcomes} {y : ScreenInfo} (hcall : call = .releaseFb j.val o)
      (hreleased : y.Released) : FlushStep a s call j .other y [.clearFlush j]
  | powerDown {o : ScreenId → Outcomes} {y : ScreenInfo} (hcall : call = .d0Exit o)
      (hdown : (a.screens j).PoweredDown y) : FlushStep a s call j .other y [.reset]

variable {a a' : Adapter} {s : Shared} {call : Call} {actions : List Action} {record : Record}

/-- Every call does one of the listed things to each screen's flush count. -/
theorem CallStep.flushStep (hcall : CallStep a s call a' actions record) (j : ScreenId) :
    FlushStep a s call j record (a'.screens j) (accounting j actions) := by
  have hscreen := hcall.screenStep j
  have hsilent : ¬ record.IsModeOf j → (a.screens j).FrameEq (a'.screens j) →
      accounting j actions = [] →
        FlushStep a s call j record (a'.screens j) (accounting j actions) := by
    intro hother heq hquiet
    rw [hquiet]
    exact .silent hother heq
  have hother : ∀ {record : Record}, (∀ f b st p, record ≠ .mode f b st p) →
      ¬ record.IsModeOf j := by
    rintro record hne ⟨f, b, st, p, heq, -⟩
    exact hne f b st p heq
  cases hcall with
  | rejected status => exact .silent (hother (by simp)) (.refl _)
  | @mode c' status path r hrequest hmode =>
      show FlushStep a s call j _ ((a.withCtx r.screen c').screens j) _
      by_cases hj : r.screen = j
      · subst hj
        rw [Adapter.withCtx_screens_self]
        exact .mode r hrequest rfl hmode
      · rw [hmode.accounting_of_ne hj rfl, Adapter.withCtx_screens_of_ne (Ne.symm hj)]
        exact .silent (fun h => hj (Record.isModeOf_mode.mp h)) (.refl _)
  | getFbVAddr => exact .silent (hother (by simp)) (.refl _)
  | blackOut k o mode hcall hpending =>
      have heq : (a.screens j).FrameEq ((a.withCtx mode.targetId
          (blackOutScreen o mode.targetId mode (a.ctx mode.targetId))).screens j) := by
        refine frameEq_withCtx ?_ j
        rw [blackOutScreen_screen]
        exact .refl _
      rw [blackOutScreen_actions, accounting_append, accounting_blackOutActions]
      cases hfront : (a.ctx mode.targetId).screen.front with
      | none => exact .silent (hother (by simp)) heq
      | some obj =>
          dsimp only
          split
          next hcond =>
            obtain ⟨-, rfl⟩ := hcond
            exact .blackOut mode obj hcall hpending rfl (hother (by simp)) heq hfront
          next => exact .silent (hother (by simp)) heq
  | release i o hcall =>
      rw [accounting_releaseFrameBuffer j rfl]
      by_cases hij : i = j
      · subst hij
        rw [if_pos rfl, Adapter.withCtx_screens_self]
        exact .release hcall (releaseFrameBuffer_released o i _)
      · rw [if_neg hij, Adapter.withCtx_screens_of_ne (Ne.symm hij)]
        exact .silent (hother (by simp)) (.refl _)
  | cursorData i shape format o =>
      have hstep := setPointerShape_spec o a.blobSupported i shape format (a.ctx i)
      exact hsilent (hother (by simp)) (frameEq_withCtx hstep.frame j) (hstep.accounting j)
  | cursorPos i x y o =>
      obtain ⟨hsame, -, shown, hshown, hactions⟩ := setPointerPosition_spec o i (a.ctx i) x y
      refine hsilent (hother (by simp)) (frameEq_withCtx ?_ j) ?_
      · rw [hsame]
        exact .refl _
      · rw [hactions, accounting_append, accounting_cursor hshown]
        rfl
  | hotPlug st => exact .silent (hother (by simp)) ⟨rfl, rfl, rfl, rfl, rfl, rfl, rfl⟩
  | d0Exit o hcall =>
      rw [accounting_d0Exit]
      exact .powerDown hcall (d0Exit_poweredDown o a j)
  | d0Entry => exact .silent (hother (by simp)) (.refl _)

/-- A move of the host changes neither the flush counts nor the flushes outstanding. A
move of the DPC takes one flush out and lowers the count of at most one screen. -/
theorem outsideMove_cases {s s' : Shared} {x : Outside} (hmove : outsideMove s x = some s') :
    (s'.flushCount = s.flushCount ∧ s'.flights = s.flights) ∨
    ∃ k flight reads, s.flights[k]? = some flight ∧
      (x = .complete k ∧ reads = some flight.screen ∨ x = .misread k reads) ∧
      s'.flights = s.flights.eraseIdx k ∧
      ∀ j, s'.flushCount j = if reads = some j then s.flushCount j - 1 else s.flushCount j := by
  have hdecrement : ∀ (s : Shared) (i j : ScreenId), (decrementFlush s i).flushCount j =
      if some i = some j then s.flushCount j - 1 else s.flushCount j := by
    intro s i j
    by_cases hij : i = j
    · subst hij
      simp [decrementFlush]
    · simp [decrementFlush, hij, Function.update_of_ne (Ne.symm hij)]
  cases outsideMove_spec hmove with
  | executed | executedCursor => exact .inl ⟨rfl, rfl⟩
  | @completed k flight hflight =>
      exact .inr ⟨k, flight, _, hflight, .inl ⟨rfl, rfl⟩, rfl, hdecrement _ flight.screen⟩
  | @misreadNone k flight hflight =>
      exact .inr ⟨k, flight, none, hflight, .inr rfl, rfl, fun j => rfl⟩
  | @misreadSome k flight i hflight =>
      exact .inr ⟨k, flight, some i, hflight, .inr rfl, rfl, hdecrement _ i⟩

/-- The effect of a counting action on the flush count. -/
def bump (n : Nat) : Action → Nat
  | .flush _ _ _ => n + 1
  | .clearFlush _ => 0
  | _ => n

/-- The flush count of a screen once the current call's actions have been performed,
if nobody else moves. -/
def settledCount (m : Machine) (j : ScreenId) : Nat :=
  (accounting j m.agenda).foldl bump (m.shared.flushCount j)

theorem bump_mono {n n' : Nat} (action : Action) (hle : n ≤ n') :
    bump n action ≤ bump n' action := by
  cases action with
  | flush => exact Nat.add_le_add_right hle 1
  | clearFlush => exact Nat.le_refl 0
  | submit | pages | cursor | reset => exact hle

theorem foldl_bump_mono (actions : List Action) {n n' : Nat} (hle : n ≤ n') :
    actions.foldl bump n ≤ actions.foldl bump n' := by
  induction actions generalizing n n' with
  | nil => exact hle
  | cons action actions ih => exact ih (bump_mono action hle)

/-- Only the counting actions of a screen change its flush count. -/
theorem playAction_flushCount (s : Shared) (action : Action) (j : ScreenId) :
    (playAction s action).flushCount j =
      if action.countsFor j then bump (s.flushCount j) action else s.flushCount j := by
  cases action with
  | flush i serial cmd =>
      by_cases hij : i = j
      · subst hij
        cases cmd <;> simp [playAction, Action.countsFor, bump]
      · cases cmd <;> simp [playAction, Action.countsFor, hij, Function.update_of_ne (Ne.symm hij)]
  | clearFlush i =>
      by_cases hij : i = j
      · subst hij
        simp [playAction, Action.countsFor, bump]
      · simp [playAction, Action.countsFor, hij, Function.update_of_ne (Ne.symm hij)]
  | pages event => cases event <;> rfl
  | submit | cursor | reset => rfl

theorem settledCount_act {m : Machine} {action : Action} {rest : List Action}
    (hagenda : m.agenda = action :: rest) (j : ScreenId) :
    settledCount { m with agenda := rest, shared := playAction m.shared action } j =
      settledCount m j := by
  simp only [settledCount, hagenda, accounting, List.filter_cons, playAction_flushCount]
  split <;> rfl

/-- The host and the DPC never raise a flush count. -/
theorem settledCount_outside {m : Machine} {shared : Shared} {x : Outside}
    (hmove : outsideMove m.shared x = some shared) (j : ScreenId) :
    settledCount { m with shared := shared } j ≤ settledCount m j := by
  apply foldl_bump_mono
  rcases outsideMove_cases hmove with ⟨hcount, -⟩ | ⟨k, flight, reads, -, -, -, hcount⟩
  · exact Nat.le_of_eq (congrFun hcount j)
  · show shared.flushCount j ≤ m.shared.flushCount j
    rw [hcount j]
    split
    next => exact Nat.sub_le _ 1
    next => exact Nat.le_refl _

end VirtDisplay
