/-
# The flush count and the flushes outstanding

`m_FlushCount` is meant to be the number of flushes of the current front resource
whose completion is still to come. The code keeps the two apart in four ways. A flush
whose command could not be queued is counted all the same. A count is reset to zero
although the front resource, and with it the flush, stays in place. A completion that
belongs to an earlier resource lowers the count of the present one. And leaving D0
takes the flushes away but not the count.

`FlushesAccounted` excludes these four and nothing else, and under it the two numbers
agree in every state between two calls.
-/

import VirtDisplay.Adapter.FlushAccounting

namespace VirtDisplay

open Transition

/-- The object of this number is the screen's front object. -/
def ScreenInfo.owns (x : ScreenInfo) (serial : Nat) : Bool :=
  x.front.any fun obj => obj.origin.serial == serial

/-- The flight is a flush of screen `j` for its front object `x.front`. -/
def Flight.isOf (x : ScreenInfo) (j : ScreenId) (flight : Flight) : Bool :=
  flight.screen == j && x.owns flight.serial

/-- The number of flushes queued for the current front resource of screen `j` whose
completion has not been handled. -/
def outstanding (m : Machine) (j : ScreenId) : Nat :=
  m.shared.flights.countP (Flight.isOf (m.priv.screens j) j)

/-- Every flush of this geometry on this screen finds a command buffer and is queued. -/
def QueuesFlush (o : Outcomes) (i : ScreenId) (width height : Nat) : Prop :=
  ∀ resid, o.accepts (.resourceFlush i.val resid width height) = true

/-- A call that keeps the counts exact. -/
structure CallAccounted (a : Adapter) (s : Shared) (call : Call) : Prop where
  /-- The flush of a frame is queued. -/
  queued : ∀ r, call.request = some r →
    QueuesFlush r.outcomes r.screen r.mode.width r.mode.height
  /-- The flush of a black-out is queued. -/
  queuedBlackOut : ∀ k o mode, call = .blackOut k o → a.pendingBlackOuts[k]? = some mode →
    QueuesFlush o mode.targetId mode.width mode.height
  /-- A frame that finds a count above zero, and so resets it, rebuilds the front. -/
  rebuilds : ∀ r, call.request = some r → s.flushCount r.screen ≠ 0 → ¬ ReusesFront a s r
  /-- D0 is left with no flush counted. -/
  idle : ∀ o, call = .d0Exit o → ∀ j, s.flushCount j = 0

/-- The DPC takes this flight out and lowers the count of the screen it reads, if any:
that of the flight's screen for a flush of the current front, and else none that is
above zero, unless it is about to be reset. -/
def CompletionAccounted (m : Machine) (flight : Flight) (reads : Option ScreenId) : Prop :=
  if flight.isOf (m.priv.screens flight.screen) flight.screen then reads = some flight.screen
  else ∀ i, reads = some i → m.shared.flushCount i = 0 ∨ .clearFlush i ∈ m.agenda

/-- The moves that keep the counts exact. -/
def FlushesAccounted (m : Machine) : Move → Prop
  | .call call => CallAccounted m.priv m.shared call
  | .act => True
  | .outside (.complete k) =>
      ∀ flight, m.shared.flights[k]? = some flight →
        CompletionAccounted m flight (some flight.screen)
  | .outside (.misread k reads) =>
      ∀ flight, m.shared.flights[k]? = some flight → CompletionAccounted m flight reads
  | .outside _ => True

/-- The action flushes no object with a number from `bound` on. -/
def Action.FlushesBelow (bound : Nat) : Action → Prop
  | .flush _ serial _ => serial < bound
  | _ => True

/-- Every object that is, was or is about to be flushed has a number that was handed
out. -/
structure Numbered (m : Machine) : Prop where
  fronts : m.priv.FrontsNumbered
  flights : ∀ flight ∈ m.shared.flights, flight.serial < m.priv.serial
  agenda : ∀ j, ∀ action ∈ accounting j m.agenda, action.FlushesBelow m.priv.serial

section

variable {a : Adapter} {s : Shared} {call : Call} {j : ScreenId} {record : Record} {y : ScreenInfo}
  {acts : List Action} {o : Outcomes} {blob : Bool} {mode : CurrentMode} {c c' : Ctx}
  {status : NtStatus} {path : PresentPath} {flushCount : Nat}

/-- What a mode-set call does to the flush count of its own screen: nothing, or a reset
followed by the flush of the front object it leaves. -/
inductive FrontFlush (o : Outcomes) (j : ScreenId) (flushCount : Nat) (mode : CurrentMode)
    (c : Ctx) (y : ScreenInfo) : List Action → PresentPath → Prop
  | quiet {path : PresentPath} (hkept : y.front = c.screen.front) :
      FrontFlush o j flushCount mode c y [] path
  | failed {forced : Bool} (hnone : y.front = none) :
      FrontFlush o j flushCount mode c y (resetActions j flushCount) (.rebuild forced)
  | rebuilt {forced : Bool} (obj : VioGpuObj) (resid : Nat) (hfront : y.front = some obj)
      (hfresh : obj.origin.serial = c.serial) :
      FrontFlush o j flushCount mode c y
        (resetActions j flushCount ++
          [flushAction o j obj.origin.serial resid mode.width mode.height])
        (.rebuild forced)
  | reused {forced : Bool} (obj : VioGpuObj) (hfront : y.front = some obj)
      (hkept : y.front = c.screen.front) :
      FrontFlush o j flushCount mode c y
        (resetActions j flushCount ++
          [flushAction o j obj.origin.serial obj.hwRes mode.width mode.height])
        (.reuse forced)

theorem ModeStep.frontFlush (hmode : ModeStep o blob j flushCount mode c c' status path)
    (hempty : c.actions = []) :
    FrontFlush o j flushCount mode c c'.screen (accounting j c'.actions) path := by
  have hreset : ∀ {c₁ : Ctx} {forced : Bool}, Admits j flushCount mode c c₁ forced →
      accounting j c₁.actions = resetActions j flushCount := by
    intro c₁ forced hpass
    rw [hpass.actions, hempty, List.nil_append, accounting_resetActions, if_pos rfl]
  cases hmode with
  | noMode =>
      rw [hempty]
      exact .quiet rfl
  | dropped =>
      show FrontFlush o j flushCount mode c _ (accounting j c.actions) _
      rw [hempty]
      exact .quiet rfl
  | @rebuild c₁ forced info hfound hpass hchanged =>
      obtain ⟨hwidth, hheight⟩ := size_of_searchModes hfound
      rw [accounting_rebuildFront, hreset hpass, rebuildFront_screen, hwidth, hheight]
      by_cases hbuild : Buildable o info mode c₁
      · simp only [hbuild, and_self, if_true]
        exact .rebuilt (createdObj o blob j info mode c₁ (rebuildId o c₁)) _ rfl hpass.serial
      · simp only [hbuild, false_and, if_false, List.append_nil]
        exact .failed rfl
  | @reuse c₁ forced info obj hfound hpass hfront hsame =>
      obtain ⟨hwidth, hheight⟩ := size_of_searchModes hfound
      rw [accounting_flushFrameBufferObj j info hfront, hreset hpass, if_pos rfl, hwidth, hheight]
      have hscreen : (flushFrameBufferObj o blob j info c₁).screen = c₁.screen := by
        rw [flushFrameBufferObj_eq _ _ _ _ _ hfront]
      rw [hscreen]
      refine .reused obj hfront ?_
      rw [hpass.screen]

/-- The object a counting action of a call flushes is the front object it leaves. -/
theorem FlushStep.flush_owned (hstep : FlushStep a s call j record y acts) {i : ScreenId}
    {serial : Nat} {cmd : Option GpuCmd} (hmem : .flush i serial cmd ∈ acts) :
    ∃ obj, y.front = some obj ∧ obj.origin.serial = serial := by
  have hflush : ∀ {obj : VioGpuObj} {o : Outcomes} {resid width height : Nat},
      .flush i serial cmd = flushAction o j obj.origin.serial resid width height →
      obj.origin.serial = serial := by
    intro obj o resid width height heq
    rw [flushAction, Action.flush.injEq] at heq
    exact heq.2.1.symm
  cases hstep with
  | silent => cases hmem
  | blackOut mode obj _ _ _ _ heq hfront =>
      exact ⟨obj, heq.front.trans hfront, hflush (List.mem_singleton.mp hmem)⟩
  | mode r _ _ hmode =>
      have hfront := hmode.frontFlush rfl
      revert hfront hmem
      generalize accounting j _ = acts
      intro hmem hfront
      cases hfront with
      | quiet => cases hmem
      | failed => exact absurd hmem not_flush_mem_resetActions
      | rebuilt obj resid hobj _ =>
          rcases List.mem_append.mp hmem with hmem | hmem
          · exact absurd hmem not_flush_mem_resetActions
          · exact ⟨obj, hobj, hflush (List.mem_singleton.mp hmem)⟩
      | reused obj hobj _ =>
          rcases List.mem_append.mp hmem with hmem | hmem
          · exact absurd hmem not_flush_mem_resetActions
          · exact ⟨obj, hobj, hflush (List.mem_singleton.mp hmem)⟩
  | release => simp at hmem
  | powerDown => simp at hmem

end

/-- A flush outstanding after an action was outstanding before or is the action's own. -/
theorem mem_playAction_flights {s : Shared} {action : Action} {flight : Flight}
    (hmem : flight ∈ (playAction s action).flights) :
    flight ∈ s.flights ∨ ∃ cmd, action = .flush flight.screen flight.serial cmd := by
  cases action with
  | flush i serial cmd =>
      cases cmd with
      | none => exact .inl hmem
      | some cmd =>
          rcases List.mem_append.mp hmem with hold | hnew
          · exact .inl hold
          · obtain rfl := List.mem_singleton.mp hnew
            exact .inr ⟨some cmd, rfl⟩
  | pages event => cases event <;> exact .inl hmem
  | reset => cases hmem
  | submit | clearFlush | cursor => exact .inl hmem

/-- What the agenda still holds after an action. -/
theorem mem_accounting_rest {j : ScreenId} {action x : Action} {rest : List Action}
    (hmem : x ∈ accounting j rest) : x ∈ accounting j (action :: rest) := by
  rw [accounting, List.filter_cons]
  split
  next => exact List.mem_cons_of_mem _ hmem
  next => exact hmem

theorem numbered {m : Machine} (hreach : m.Reachable) : Numbered m := by
  apply Machine.ReachableUnder.invariant hreach
  · intro a hbooted
    refine ⟨fun j obj hobj => ?_, fun flight hmem => ?_, fun j action hmem => ?_⟩
    · cases (hbooted.screens j).front.symm.trans hobj
    · cases hmem
    · cases hmem
  · intro m call a' actions record _ hinv _ _ hcall
    have hfronts := hcall.frontsNumbered hinv.fronts
    refine ⟨hfronts, fun flight hmem => ?_, fun j action hmem => ?_⟩
    · exact Nat.lt_of_lt_of_le (hinv.flights flight hmem) hcall.serial_le
    · cases action with
      | flush i serial cmd =>
          obtain ⟨obj, hobj, hserial⟩ := (hcall.flushStep j).flush_owned hmem
          exact hserial ▸ hfronts j obj hobj
      | submit | clearFlush | pages | cursor | reset => trivial
  · intro m action rest _ hinv _ hagenda
    refine ⟨hinv.fronts, fun flight hmem => ?_, fun j x hmem => ?_⟩
    · rcases mem_playAction_flights hmem with hold | ⟨cmd, rfl⟩
      · exact hinv.flights flight hold
      · have hpending : Action.flush flight.screen flight.serial cmd ∈
            accounting flight.screen m.agenda := by
          rw [hagenda]
          simp [accounting, Action.countsFor]
        exact hinv.agenda _ _ hpending
    · apply hinv.agenda j x
      rw [hagenda]
      exact mem_accounting_rest hmem
  · intro m x shared _ hinv _ hmove
    refine ⟨hinv.fronts, fun flight hmem => hinv.flights flight ?_, hinv.agenda⟩
    rcases outsideMove_cases hmove with ⟨-, hflights⟩ | ⟨k, _, _, -, -, hflights, -⟩
    · exact hflights ▸ hmem
    · exact List.mem_of_mem_eraseIdx (hflights ▸ hmem)

/-- The action is a flush. -/
def Action.isFlush : Action → Bool
  | .flush _ _ _ => true
  | _ => false

/-- A counting action that is still to come is a queued flush of the front object, a
reset of the count, or a reset of the device once the front is gone. -/
def Action.Expected (x : ScreenInfo) : Action → Prop
  | .flush _ serial cmd => x.owns serial = true ∧ cmd ≠ none
  | .reset => x.front = none
  | _ => True

/-- Where the count of screen `j` is heading, the outstanding flushes and those still
to be performed are heading too. -/
structure Counted (j : ScreenId) (m : Machine) : Prop where
  settled : settledCount m j = outstanding m j + (accounting j m.agenda).countP Action.isFlush
  expected : ∀ action ∈ accounting j m.agenda, action.Expected (m.priv.screens j)

theorem owns_of_front {x : ScreenInfo} {obj : VioGpuObj} (hfront : x.front = some obj) :
    x.owns obj.origin.serial = true := by
  simp [ScreenInfo.owns, hfront]

/-- Whether a flight is of the front object only depends on the front object. -/
theorem Flight.isOf_congr {x y : ScreenInfo} (heq : y.front = x.front) (j : ScreenId) :
    Flight.isOf y j = Flight.isOf x j := by
  funext flight
  simp only [Flight.isOf, ScreenInfo.owns, heq]

theorem countP_isOf_none {x : ScreenInfo} (hnone : x.front = none) (j : ScreenId)
    (flights : List Flight) : flights.countP (Flight.isOf x j) = 0 := by
  rw [List.countP_eq_zero]
  intro flight _
  simp [Flight.isOf, ScreenInfo.owns, hnone]

/-- No flush of a new object is outstanding. -/
theorem countP_isOf_fresh {x : ScreenInfo} {obj : VioGpuObj} {bound : Nat} {flights : List Flight}
    (hfront : x.front = some obj) (hfresh : obj.origin.serial = bound)
    (hflights : ∀ flight ∈ flights, flight.serial < bound) (j : ScreenId) :
    flights.countP (Flight.isOf x j) = 0 := by
  rw [List.countP_eq_zero]
  intro flight hmem
  have hne : obj.origin.serial ≠ flight.serial :=
    hfresh ▸ Nat.ne_of_gt (hflights flight hmem)
  simp [Flight.isOf, ScreenInfo.owns, hfront, hne]

/-- Behind back-pressure the count is zero. -/
theorem foldl_resetActions (j : ScreenId) (flushCount : Nat) :
    (resetActions j flushCount).foldl bump flushCount = 0 := by
  unfold resetActions
  split
  next hcount => exact hcount
  next => rfl

theorem countP_resetActions (j : ScreenId) (flushCount : Nat) :
    (resetActions j flushCount).countP Action.isFlush = 0 := by
  unfold resetActions
  split <;> rfl

theorem flushAction_expected {o : Outcomes} {j : ScreenId} {x : ScreenInfo} {obj : VioGpuObj}
    {resid width height : Nat} (hfront : x.front = some obj)
    (hqueued : QueuesFlush o j width height) :
    (flushAction o j obj.origin.serial resid width height).Expected x := by
  refine ⟨owns_of_front hfront, ?_⟩
  rw [if_pos (hqueued resid)]
  exact Option.some_ne_none _

theorem resetActions_expected {j : ScreenId} {flushCount : Nat} {y : ScreenInfo} :
    ∀ action ∈ resetActions j flushCount, action.Expected y := by
  intro action hmem
  unfold resetActions at hmem
  split at hmem
  next => cases hmem
  next =>
    obtain rfl := List.mem_singleton.mp hmem
    trivial

/-- A reset followed by a queued flush of the front object, when no flush of that
object is outstanding. -/
theorem counted_flush {o : Outcomes} {j : ScreenId} {y : ScreenInfo} {obj : VioGpuObj}
    {resid width height flushCount : Nat} {flights : List Flight} (hfront : y.front = some obj)
    (hqueued : QueuesFlush o j width height)
    (hnone : flights.countP (Flight.isOf y j) = 0) :
    (resetActions j flushCount ++
          [flushAction o j obj.origin.serial resid width height]).foldl bump flushCount =
        flights.countP (Flight.isOf y j) +
          (resetActions j flushCount ++
            [flushAction o j obj.origin.serial resid width height]).countP Action.isFlush ∧
      ∀ action ∈ resetActions j flushCount ++
        [flushAction o j obj.origin.serial resid width height], action.Expected y := by
  constructor
  · rw [List.foldl_append, foldl_resetActions, List.countP_append, countP_resetActions, hnone]
    rfl
  · intro action hmem
    rcases List.mem_append.mp hmem with hmem | hmem
    · exact resetActions_expected action hmem
    · obtain rfl := List.mem_singleton.mp hmem
      exact flushAction_expected hfront hqueued

/-- An accounted call keeps the count of a screen on course. -/
theorem FlushStep.counted {a : Adapter} {s : Shared} {call : Call} {j : ScreenId}
    {record : Record} {y : ScreenInfo} {acts : List Action}
    (hstep : FlushStep a s call j record y acts) (hok : CallAccounted a s call)
    (hflights : ∀ flight ∈ s.flights, flight.serial < a.serial)
    (hexact : s.flushCount j = s.flights.countP (Flight.isOf (a.screens j) j)) :
    acts.foldl bump (s.flushCount j) =
        s.flights.countP (Flight.isOf y j) + acts.countP Action.isFlush ∧
      ∀ action ∈ acts, action.Expected y := by
  have hquiet : y.front = (a.screens j).front →
      s.flushCount j = s.flights.countP (Flight.isOf y j) := by
    intro hkept
    rw [Flight.isOf_congr hkept]
    exact hexact
  cases hstep with
  | silent _ heq => exact ⟨hquiet heq.front, fun _ h => nomatch h⟩
  | blackOut mode obj hcall hpending hscreen _ heq hfront =>
      have hqueued := hok.queuedBlackOut _ _ mode hcall hpending
      rw [hscreen] at hqueued
      refine ⟨congrArg (· + 1) (hquiet heq.front), fun action hmem => ?_⟩
      obtain rfl := List.mem_singleton.mp hmem
      exact flushAction_expected (heq.front.trans hfront) hqueued
  | @mode c' status path r hrequest hscreen hmode =>
      have hqueued := hok.queued r hrequest
      rw [hscreen] at hqueued
      have hfront := hmode.frontFlush rfl
      -- a reuse finds no count: an accounted call that finds one rebuilds
      have hreuse : ∀ forced, path = .reuse forced → s.flushCount j = 0 := by
        rintro forced rfl
        by_contra hcount
        cases hmode with
        | reuse info obj hfound hpass hobj hsame =>
            apply hok.rebuilds r hrequest (hscreen ▸ hcount)
            subst hscreen
            exact ⟨info, _, forced, hfound, hpass.backPressure_eq,
              backingChanged_eq_false_iff.mpr ⟨⟨obj, hobj⟩, hsame⟩⟩
      revert hfront
      generalize accounting j c'.actions = acts
      intro hfront
      cases hfront with
      | quiet hkept => exact ⟨hquiet hkept, fun _ h => nomatch h⟩
      | failed hnone =>
          refine ⟨?_, resetActions_expected⟩
          rw [foldl_resetActions, countP_resetActions, countP_isOf_none hnone]
      | rebuilt obj resid hobj hfresh =>
          exact counted_flush hobj hqueued (countP_isOf_fresh hobj hfresh hflights j)
      | reused obj hobj hkept =>
          apply counted_flush hobj hqueued
          rw [← hquiet hkept, hreuse _ rfl]
  | release _ hreleased =>
      refine ⟨?_, fun action hmem => ?_⟩
      · rw [countP_isOf_none hreleased.front]
        rfl
      · obtain rfl := List.mem_singleton.mp hmem
        trivial
  | powerDown hcall hdown =>
      refine ⟨?_, fun action hmem => ?_⟩
      · rw [countP_isOf_none hdown.front, hok.idle _ hcall j]
        rfl
      · obtain rfl := List.mem_singleton.mp hmem
        exact hdown.front

/-- The outstanding flushes of a screen's front object after an action that is to be
expected. -/
theorem countP_playAction {s : Shared} {action : Action} {x : ScreenInfo} {j : ScreenId}
    (hexpected : action.countsFor j = true → action.Expected x) :
    (playAction s action).flights.countP (Flight.isOf x j) =
      s.flights.countP (Flight.isOf x j) +
        if action.countsFor j = true ∧ action.isFlush = true then 1 else 0 := by
  cases action with
  | flush i serial cmd =>
      by_cases hij : i = j
      · subst hij
        obtain ⟨howns, hcmd⟩ := hexpected (by simp [Action.countsFor])
        cases cmd with
        | none => exact absurd rfl hcmd
        | some cmd =>
            simp [playAction, Action.countsFor, Action.isFlush, List.countP_append, Flight.isOf,
              howns]
      · cases cmd with
        | none => simp [playAction, Action.countsFor, hij]
        | some cmd => simp [playAction, Action.countsFor, hij, List.countP_append, Flight.isOf]
  | reset =>
      have hnone : x.front = none := hexpected rfl
      rw [countP_isOf_none hnone, countP_isOf_none hnone]
      rfl
  | pages event => cases event <;> rfl
  | submit | cursor => rfl
  | clearFlush i => simp [playAction, Action.isFlush]

theorem Counted.act {j : ScreenId} {m : Machine} {action : Action} {rest : List Action}
    (hinv : Counted j m) (hagenda : m.agenda = action :: rest) :
    Counted j { m with agenda := rest, shared := playAction m.shared action } := by
  have hhead : action.countsFor j = true → action ∈ accounting j m.agenda := by
    intro hcounts
    rw [hagenda, accounting, List.filter_cons, if_pos hcounts]
    exact List.mem_cons_self
  constructor
  · have hplayed := countP_playAction (s := m.shared)
      fun hcounts => hinv.expected action (hhead hcounts)
    have hsettled := hinv.settled
    rw [hagenda, accounting, List.filter_cons] at hsettled
    rw [settledCount_act hagenda]
    show settledCount m j = (playAction m.shared action).flights.countP _ + _
    rw [hplayed, hsettled, outstanding]
    -- the action either leaves the pending ones or does not count
    by_cases hcounts : action.countsFor j = true
    · by_cases hflush : action.isFlush = true
      · simp only [hcounts, hflush, and_self, if_true, List.countP_cons_of_pos, accounting]
        omega
      · simp [hcounts, hflush, accounting]
    · simp [hcounts, accounting]
  · intro x hmem
    apply hinv.expected x
    rw [hagenda]
    exact mem_accounting_rest hmem

/-- Past a reset the count a list of actions starts from does not matter. -/
theorem foldl_bump_of_clear {i : ScreenId} {actions : List Action}
    (hclear : .clearFlush i ∈ actions) (n n' : Nat) :
    actions.foldl bump n = actions.foldl bump n' := by
  induction actions generalizing n n' with
  | nil => cases hclear
  | cons action actions ih =>
      rcases List.mem_cons.mp hclear with rfl | hclear
      · rfl
      · exact ih hclear _ _

theorem foldl_bump_le (actions : List Action) (n : Nat) :
    actions.foldl bump n ≤ n + actions.countP Action.isFlush := by
  induction actions generalizing n with
  | nil => exact Nat.le_refl n
  | cons action actions ih =>
      have hhead : bump n action ≤ n + if action.isFlush then 1 else 0 := by
        cases action <;> simp [bump, Action.isFlush]
      have hrest := ih (bump n action)
      rw [List.foldl_cons, List.countP_cons]
      omega

/-- Without a reset to come, every flush to come counts. -/
theorem foldl_bump_of_not_clear {j : ScreenId} {actions : List Action}
    (hclear : .clearFlush j ∉ accounting j actions) (n : Nat) :
    (accounting j actions).foldl bump n = n + (accounting j actions).countP Action.isFlush := by
  induction actions generalizing n with
  | nil => rfl
  | cons action actions ih =>
      rw [accounting, List.filter_cons] at hclear ⊢
      by_cases hcounts : action.countsFor j = true
      · rw [if_pos hcounts] at hclear ⊢
        obtain ⟨hhead, hrest⟩ := not_or.mp (List.mem_cons.not.mp hclear)
        have hih := ih hrest (bump n action)
        rw [accounting] at hih
        have hbump : bump n action = n + if action.isFlush then 1 else 0 := by
          cases action with
          | clearFlush i =>
              obtain rfl : i = j := by simpa [Action.countsFor] using hcounts
              exact absurd rfl hhead
          | flush | submit | pages | cursor | reset => simp [bump, Action.isFlush]
        rw [List.foldl_cons, hih, List.countP_cons]
        omega
      · rw [if_neg hcounts] at hclear ⊢
        exact ih hclear n

/-- Taking one flight out of a list. -/
theorem countP_eraseIdx {flights : List Flight} {k : Nat} {flight : Flight}
    (hflight : flights[k]? = some flight) (p : Flight → Bool) :
    (flights.eraseIdx k).countP p + (if p flight then 1 else 0) = flights.countP p := by
  rw [← List.countP_cons, (perm_cons_eraseIdx hflight).countP_eq]

theorem clearFlush_mem_accounting {j : ScreenId} {actions : List Action} :
    .clearFlush j ∈ accounting j actions ↔ .clearFlush j ∈ actions := by
  simp [accounting, Action.countsFor]

theorem Counted.outside {j : ScreenId} {m : Machine} {x : Outside} {shared : Shared}
    (hinv : Counted j m) (hok : FlushesAccounted m (.outside x))
    (hmove : outsideMove m.shared x = some shared) : Counted j { m with shared := shared } := by
  refine ⟨?_, hinv.expected⟩
  have hsettled := hinv.settled
  unfold settledCount outstanding at hsettled ⊢
  dsimp only
  rcases outsideMove_cases hmove with ⟨hcount, hflights⟩ |
    ⟨k, flight, reads, hflight, hx, hflights, hcount⟩
  · rw [hcount, hflights]
    exact hsettled
  · have hdone : CompletionAccounted m flight reads := by
      rcases hx with ⟨rfl, rfl⟩ | rfl
      · exact hok flight hflight
      · exact hok flight hflight
    have herase := countP_eraseIdx hflight (Flight.isOf (m.priv.screens j) j)
    rw [hflights, hcount j]
    by_cases hclear : .clearFlush j ∈ accounting j m.agenda
    · -- the count is about to be reset, and then no flush of the front is outstanding
      have hle := foldl_bump_le (accounting j m.agenda) 0
      rw [foldl_bump_of_clear hclear _ 0] at hsettled ⊢
      omega
    · rw [foldl_bump_of_not_clear hclear] at hsettled ⊢
      have hnot : .clearFlush j ∉ m.agenda := fun h => hclear (clearFlush_mem_accounting.mpr h)
      by_cases hown : flight.isOf (m.priv.screens j) j = true
      · -- a flush of the front is handled: one less on either side
        obtain rfl : flight.screen = j := by
          simpa [Flight.isOf] using (Bool.and_eq_true_iff.mp hown).1
        rw [CompletionAccounted, if_pos hown] at hdone
        rw [if_pos hown] at herase
        rw [if_pos hdone]
        omega
      · rw [if_neg hown] at herase
        split
        next hreads =>
          -- the count of this screen is lowered for a flush that is not of its front
          have hzero : m.shared.flushCount j = 0 := by
            by_cases hother : flight.isOf (m.priv.screens flight.screen) flight.screen = true
            · rw [CompletionAccounted, if_pos hother, hreads] at hdone
              obtain rfl := Option.some.inj hdone
              exact absurd hother hown
            · rw [CompletionAccounted, if_neg hother] at hdone
              exact (hdone j hreads).resolve_right hnot
          omega
        next => omega

end VirtDisplay
