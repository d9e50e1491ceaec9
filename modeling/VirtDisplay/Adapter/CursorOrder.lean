/-
# The pointer's two queues

A pointer image is created, filled and destroyed through the control queue and shown
through the cursor queue. Each queue is served in order, but nothing orders one against the
other: no fence, and no wait between the last control command and `UPDATE_CURSOR`.

The driver queues things in the right order. `UPDATE_CURSOR` comes behind the commands that
create its resource and attach its pages, and before the one that destroys it. What it
leaves to chance is that the host serves both queues in this order.

The machine is followed here with one thing added: where the control queue ended when a
cursor command was queued.
-/

import VirtDisplay.Adapter.PageLocks
import VirtDisplay.Foundation.Streams

namespace VirtDisplay

open Transition Streams

/-- The command attaches pages to this resource. -/
def GpuCmd.Attaches (resid : Nat) : GpuCmd → Prop
  | .resourceAttachBacking id _ | .resourceCreateBlob id _ _ => id = resid
  | _ => False

/-- The command shows this resource as the pointer. -/
def CursorCmd.Updates (resid : Nat) : CursorCmd → Prop
  | .updateCursor _ id .. => id = resid
  | .moveCursor .. => False

/-- The last `CREATE` of a resource before some position of the queue, and an attachment of
pages behind it. -/
structure MadeAt (sent : List Submission) (resid queuedAt created attached : Nat) : Prop where
  order : created ≤ attached
  before : attached < queuedAt
  creates : ∃ u, sent[created]? = some u ∧ u.cmd.Creates resid
  attaches : ∃ u, sent[attached]? = some u ∧ u.cmd.Attaches resid
  last : ∀ q u, created < q → q < queuedAt → sent[q]? = some u → ¬ u.cmd.Creates resid

/-- A resource is made before one position of the queue and not destroyed before another. -/
def ReadyAt (sent : List Submission) (resid queuedAt before : Nat) : Prop :=
  ∃ created attached, MadeAt sent resid queuedAt created attached ∧
    ¬ UnrefBetween sent resid created before

/-- An `UPDATE_CURSOR` that the host executes: its resource, where the control queue ended
when it was queued, and the control queue now. -/
structure ServedUpdate where
  resid : Nat
  queuedAt : Nat
  sent : List Submission
  executed : Nat

/-- The host has executed the `CREATE` and the attachment of the resource, and no `UNREF`
of it since. -/
def ServedUpdate.InOrder (x : ServedUpdate) : Prop :=
  x.resid ≠ 0 → ∃ created attached, MadeAt x.sent x.resid x.queuedAt created attached ∧
    attached < x.executed ∧ ¬ UnrefBetween x.sent x.resid created (max x.queuedAt x.executed)

/-- The machine, for each cursor command where the control queue ended when it was queued,
and the updates executed so far, newest first. -/
structure CursorRun where
  state : Machine
  queuedAt : List Nat
  served : List ServedUpdate

namespace CursorRun

variable (t : CursorRun)

/-- The positions after the next action. -/
def mark : List Nat :=
  match t.state.agenda with
  | .cursor _ :: _ => t.queuedAt ++ [t.state.shared.sent.length]
  | .reset :: _ => []
  | _ => t.queuedAt

/-- The next cursor command, if it is an update. -/
def next : Option ServedUpdate :=
  match t.state.shared.cursorSent[t.state.shared.cursorExecuted]?,
      t.queuedAt[t.state.shared.cursorExecuted]? with
  | some (.updateCursor _ resid _ _ _ _), some queuedAt =>
      some ⟨resid, queuedAt, t.state.shared.sent, t.state.shared.executed⟩
  | _, _ => none

/-- One move of the machine. -/
def step (move : Move) : Option CursorRun :=
  (machine.step t.state move).map fun m =>
    { state := m
      queuedAt := match move with
        | .act => t.mark
        | _ => t.queuedAt
      served := match move with
        | .outside .hostExecutesCursor => t.next.toList ++ t.served
        | _ => t.served }

/-- The machine with positions. -/
def system : System CursorRun Move := ⟨step⟩

/-- Nothing queued yet. -/
def start (a : Adapter) : CursorRun := ⟨.start a, [], []⟩

/-- Every update was executed in order. -/
def InOrder : Prop := ∀ x ∈ t.served, x.InOrder

/-- A cursor command that the host has not executed shows this resource, and was queued when
the control queue had this length. -/
def Pending (k resid queuedAt : Nat) : Prop :=
  t.state.shared.cursorExecuted ≤ k ∧ t.queuedAt[k]? = some queuedAt ∧
    ∃ cmd, t.state.shared.cursorSent[k]? = some cmd ∧ cmd.Updates resid

/-- The control queue takes the commands that make the resource of a pointer that will be
shown. The host executes an update only when no `CREATE` or attachment of its resource that
was queued before is left, and an `UNREF` only when no update of its resource that was
queued before is left. -/
def HostInOrder : Move → Prop
  | .call (.cursorData i _ _ o) =>
      CursorBuildable o (t.state.priv.ctx i) → o.allocCursor = true → o.addCursor = true →
        ∀ cmd resid, cmd.Creates resid ∨ cmd.Attaches resid → o.accepts cmd = true
  | .outside .hostExecutesCursor => ∀ x ∈ t.next, ∀ q u, q < x.queuedAt →
      x.sent[q]? = some u → u.cmd.Creates x.resid ∨ u.cmd.Attaches x.resid → q < x.executed
  | .outside .hostExecutes => ∀ u resid, resid ≠ 0 →
      t.state.shared.sent[t.state.shared.executed]? = some u → u.cmd = .resourceUnref resid →
        ∀ k queuedAt, t.Pending k resid queuedAt → t.state.shared.executed < queuedAt
  | _ => True

end CursorRun

/-- The command an action puts on the cursor queue. -/
def Action.cursorCmds : Action → List CursorCmd
  | .cursor cmd => [cmd]
  | .submit _ | .flush _ _ _ | .clearFlush _ | .pages _ | .reset => []

/-- The commands actions put on the cursor queue. -/
def cursorCmds (actions : List Action) : List CursorCmd := actions.flatMap Action.cursorCmds

section

variable (o : Outcomes) (blob : Bool) (i : ScreenId) (info : VideoModeInfo) (mode : CurrentMode)
  (c : Ctx)

@[simp] theorem cursorCmds_nil : cursorCmds [] = [] := rfl

@[simp]
theorem cursorCmds_append (xs ys : List Action) :
    cursorCmds (xs ++ ys) = cursorCmds xs ++ cursorCmds ys := List.flatMap_append

@[simp]
theorem cursorCmds_submitted (cmd : GpuCmd) (backing : Option Nat) :
    cursorCmds (submitted o cmd backing) = [] := by
  unfold submitted
  split <;> rfl

@[simp]
theorem cursorCmds_pages (events : List PageEvent) : cursorCmds (events.map .pages) = [] := by
  simp [cursorCmds, Action.cursorCmds]

@[simp]
theorem cursorCmds_flushAction (serial resid width height : Nat) :
    cursorCmds [flushAction o i serial resid width height] = [] := rfl

@[simp]
theorem cursorCmds_resetActions (flushCount : Nat) :
    cursorCmds (resetActions i flushCount) = [] := by
  unfold resetActions
  split <;> rfl

@[simp]
theorem cursorCmds_destroyActions (bReset : Bool) (resid : Nat) :
    cursorCmds (destroyActions o bReset resid) = [] := by
  cases bReset <;> simp [destroyActions]

@[simp]
theorem cursorCmds_destroyFrontActions : cursorCmds (destroyFrontActions o c) = [] := by
  unfold destroyFrontActions
  split <;> simp

@[simp]
theorem cursorCmds_prepareActions (resid : Nat) :
    cursorCmds (prepareActions o blob info mode c resid) = [] := by
  cases blob <;> simp [prepareActions]

@[simp]
theorem cursorCmds_scanoutActions (resid : Nat) :
    cursorCmds (scanoutActions o blob i info mode resid) = [] := by
  cases blob <;> simp [scanoutActions]

@[simp]
theorem cursorCmds_installActions (resid : Nat) :
    cursorCmds (installActions o blob i info mode c resid) = [] := by
  cases hents : o.newEnts <;> simp [installActions, hents]

end

section

variable {o : Outcomes} {blob : Bool} {i : ScreenId} {flushCount : Nat} {mode : CurrentMode}
  {c c' : Ctx} {status : NtStatus} {path : PresentPath}

/-- A mode-set call puts nothing on the cursor queue. -/
theorem ModeStep.cursorCmds (hmode : ModeStep o blob i flushCount mode c c' status path) :
    cursorCmds c'.actions = cursorCmds c.actions := by
  cases hmode with
  | noMode => rfl
  | dropped => rfl
  | @rebuild c₁ forced info hfound hpass hchanged =>
      rw [rebuildFront_actions, hpass.actions]
      by_cases hbuild : Buildable o info mode c₁ <;> simp [hbuild]
  | reuse info obj hfound hpass hfront hsame =>
      rw [flushFrameBufferObj_eq o blob i info _ hfront]
      cases blob <;> simp [hpass.actions]

theorem cursorCmds_blackOutActions : cursorCmds (blackOutActions o i mode c) = [] := by
  unfold blackOutActions
  split
  next => rfl
  next => split <;> simp

end

/-- The control queue after an action. -/
def queueSent (sent : List Submission) : Action → List Submission
  | .submit submission => sent ++ [submission]
  | .flush _ _ (some cmd) => sent ++ [⟨cmd, none⟩]
  | .reset => []
  | .flush _ _ none | .clearFlush _ | .pages _ | .cursor _ => sent

theorem playAction_sent (s : Shared) (action : Action) :
    (playAction s action).sent = queueSent s.sent action := by
  cases action with
  | flush i serial cmd => cases cmd <;> rfl
  | pages event => cases event <;> rfl
  | _ => rfl

/-- A pointer is shown when its resource is made and not destroyed. -/
def ShownReady (sent : List Submission) (action : Action) : Prop :=
  ∀ cmd resid, action = .cursor cmd → cmd.Updates resid → resid ≠ 0 →
    ReadyAt sent resid sent.length sent.length

/-- Actions that show no pointer. -/
theorem throughout_of_quiet {sent : List Submission} {actions : List Action}
    (hquiet : ∀ cmd ∈ cursorCmds actions, ∀ resid, ¬ cmd.Updates resid) :
    Throughout queueSent ShownReady sent actions := by
  induction actions generalizing sent with
  | nil => trivial
  | cons action rest ih =>
      refine ⟨?_, ih fun cmd hmem => hquiet cmd (List.mem_append_right _ hmem)⟩
      rintro cmd resid rfl hupdates
      exact absurd hupdates (hquiet cmd (List.mem_append_left _ (List.mem_singleton_self _)) resid)

theorem throughout_of_nil {sent : List Submission} {actions : List Action}
    (hnil : cursorCmds actions = []) : Throughout queueSent ShownReady sent actions :=
  throughout_of_quiet (by rw [hnil]; exact nofun)

@[simp]
theorem foldl_queueSent_pages (sent : List Submission) (events : List PageEvent) :
    (events.map Action.pages).foldl queueSent sent = sent := by
  induction events with
  | nil => rfl
  | cons event events ih => exact ih

@[simp]
theorem foldl_queueSent_submitted (sent : List Submission) (o : Outcomes) (cmd : GpuCmd)
    (backing : Option Nat) : (submitted o cmd backing).foldl queueSent sent =
      if o.accepts cmd then sent ++ [⟨cmd, backing⟩] else sent := by
  unfold submitted
  split <;> rfl

/-- A resource made by the commands queued last. -/
theorem readyAt_append {resid : Nat} {base rest : List Submission} {u v : Submission}
    (hcreates : u.cmd.Creates resid) (hmem : v ∈ u :: rest) (hattaches : v.cmd.Attaches resid)
    (hrest : ∀ w ∈ rest, ¬ w.cmd.Creates resid ∧ w.cmd ≠ .resourceUnref resid) :
    ReadyAt (base ++ u :: rest) resid (base ++ u :: rest).length (base ++ u :: rest).length := by
  obtain ⟨k, hk⟩ := List.mem_iff_getElem?.mp hmem
  have hget : ∀ j, (base ++ u :: rest)[base.length + j]? = (u :: rest)[j]? := by
    intro j
    rw [List.getElem?_append_right (Nat.le_add_right _ _), Nat.add_sub_cancel_left]
  -- behind the creation there are only the others
  have hbehind : ∀ q w, base.length < q → (base ++ u :: rest)[q]? = some w → w ∈ rest := by
    intro q w hlt hw
    obtain ⟨j, rfl⟩ := Nat.exists_eq_add_of_lt hlt
    rw [Nat.add_assoc, hget, List.getElem?_cons_succ] at hw
    exact List.mem_of_getElem? hw
  refine ⟨base.length, base.length + k, ⟨Nat.le_add_right _ _, ?_, ⟨u, ?_, hcreates⟩,
    ⟨v, (hget k).trans hk, hattaches⟩, fun q w hlt _ hw => (hrest w (hbehind q w hlt hw)).1⟩, ?_⟩
  · rw [List.length_append]
    exact Nat.add_lt_add_left (List.getElem?_eq_some_iff.mp hk).1 _
  · exact hget 0
  · rintro ⟨q, w, hlt, -, hw, hcmd⟩
    exact (hrest w (hbehind q w hlt hw)).2 hcmd

/-- Making a pointer's resource, where the queue takes the commands for it. -/
theorem readyAt_createCursor {o : Outcomes} {blob : Bool} {shape : PointerShape}
    {format : D3DDDIFormat} {c : Ctx} {resid : Nat} {sent : List Submission}
    (hbuild : CursorBuildable o c)
    (haccepts : ∀ cmd, cmd.Creates resid ∨ cmd.Attaches resid → o.accepts cmd = true) :
    let after := (createCursorActions o blob shape format c resid).foldl queueSent sent
    ReadyAt after resid after.length after.length := by
  dsimp only
  have hattach : o.accepts (cursorAttachCmd blob resid (cursorUpdated o c).segment) = true :=
    haccepts _ (.inr (by cases blob <;> exact rfl))
  rw [createCursorActions, if_pos hbuild]
  cases blob with
  | true =>
      simp only [if_true, List.nil_append, List.append_nil, List.foldl_append, hattach,
        foldl_queueSent_pages, foldl_queueSent_submitted]
      exact readyAt_append rfl List.mem_cons_self rfl fun w hmem => absurd hmem List.not_mem_nil
  | false =>
      have hcreate : o.accepts (.resourceCreate2D resid (colorFormat format) pointerSize
          pointerSize) = true := haccepts _ (.inl rfl)
      simp only [if_false, Bool.false_eq_true, List.foldl_append, hattach, hcreate, if_true,
        foldl_queueSent_pages, foldl_queueSent_submitted, List.append_assoc]
      split
      next =>
        refine readyAt_append rfl (List.mem_cons_of_mem _ List.mem_cons_self) rfl fun w hmem => ?_
        rcases List.mem_cons.mp hmem with rfl | hmem
        · exact ⟨not_false, GpuCmd.noConfusion⟩
        · obtain rfl := List.mem_singleton.mp hmem
          exact ⟨not_false, GpuCmd.noConfusion⟩
      next =>
        refine readyAt_append rfl (List.mem_cons_of_mem _ List.mem_cons_self) rfl fun w hmem => ?_
        obtain rfl := List.mem_singleton.mp hmem
        exact ⟨not_false, GpuCmd.noConfusion⟩

/-- A new pointer is shown behind the commands that make it. -/
theorem setPointerShape_shown {o : Outcomes} {blob : Bool} {i : ScreenId} {shape : PointerShape}
    {format : D3DDDIFormat} {c : Ctx} {sent : List Submission} (hempty : c.actions = [])
    (haccepts : CursorBuildable o c → o.allocCursor = true → o.addCursor = true →
      ∀ cmd resid, cmd.Creates resid ∨ cmd.Attaches resid → o.accepts cmd = true) :
    Throughout queueSent ShownReady sent (setPointerShape o blob i shape format c).1.actions := by
  have hdestroyed : cursorCmds (destroyCursor o c).actions = [] := by
    rw [destroyCursor_actions, hempty]
    split <;> simp
  have hcreated : ∀ resid, cursorCmds
      (createCursorActions o blob shape format (destroyCursor o c) resid) = [] := by
    intro resid
    unfold createCursorActions
    by_cases hbuild : CursorBuildable o (destroyCursor o c) <;> cases blob <;> simp [hbuild]
  have hquiet : ∀ resid, Throughout queueSent ShownReady sent ((destroyCursor o c).actions ++
      createCursorActions o blob shape format (destroyCursor o c) resid) := by
    intro resid
    apply throughout_of_nil
    rw [cursorCmds_append, hdestroyed, hcreated, List.append_nil]
  unfold setPointerShape
  rw [createCursor_eq]
  split
  next c₁ heq =>
    obtain rfl := (Prod.mk.inj heq).1
    exact hquiet _
  next c₁ heq =>
    obtain ⟨rfl, hbuild⟩ := Prod.mk.inj heq
    have hbuild := of_decide_eq_true hbuild
    split
    next => exact hquiet _
    next cursor hcursor =>
      split
      next => exact hquiet _
      next halloc =>
        split
        next hadd =>
          refine throughout_append.mpr ⟨hquiet _, ?_, trivial⟩
          rintro cmd resid ⟨⟩ hupdates -
          dsimp only [cursorScreen] at hcursor
          rw [if_pos hbuild] at hcursor
          obtain rfl := Option.some.inj hcursor
          obtain rfl : (destroyCursor o c).idr.getId.1 = resid := hupdates
          rw [List.foldl_append]
          exact readyAt_createCursor hbuild fun cmd =>
            haccepts ((cursorBuildable_destroyCursor o c).mp hbuild) (not_not.mp halloc) hadd cmd _
        next => exact hquiet _

/-- What every call queues is in order, as far as it shows a pointer. -/
theorem CallStep.shown {a a' : Adapter} {s : Shared} {call : Call} {actions : List Action}
    {record : Record} (hcall : CallStep a s call a' actions record)
    (haccepts : ∀ i shape format o, call = .cursorData i shape format o →
      CursorBuildable o (a.ctx i) → o.allocCursor = true → o.addCursor = true →
        ∀ cmd resid, cmd.Creates resid ∨ cmd.Attaches resid → o.accepts cmd = true) :
    Throughout queueSent ShownReady s.sent actions := by
  cases hcall with
  | rejected => trivial
  | mode r hrequest hmode => exact throughout_of_nil hmode.cursorCmds
  | getFbVAddr => trivial
  | blackOut k o mode =>
      apply throughout_of_nil
      rw [blackOutScreen_actions, cursorCmds_append, cursorCmds_blackOutActions]
      rfl
  | release i o =>
      apply throughout_of_nil
      rw [releaseFrameBuffer_actions]
      simp only [cursorCmds_append, cursorCmds_submitted, cursorCmds_destroyFrontActions,
        cursorCmds_pages]
      rfl
  | cursorData i shape format o hcall =>
      exact setPointerShape_shown rfl (haccepts i shape format o hcall)
  | cursorPos i x y o hcall =>
      apply throughout_of_quiet
      unfold setPointerPosition
      split
      next => exact nofun
      next cursor _ =>
        split
        next => exact nofun
        next =>
          split
          next =>
            intro cmd hmem resid
            obtain rfl := List.mem_singleton.mp hmem
            exact nofun
          next => exact nofun
  | hotPlug => trivial
  | d0Exit os hcall =>
      obtain ⟨destroyed, closed, hactions, hdestroyed, hclosed⟩ := d0Exit_actions os a
      apply throughout_of_nil
      rw [hactions]
      apply List.flatMap_eq_nil_iff.mpr
      intro action hmem
      rcases List.mem_append.mp hmem with hmem | hmem
      · obtain ⟨cmd, rfl⟩ := hdestroyed action hmem
        rfl
      · rcases List.mem_cons.mp hmem with rfl | hmem
        · rfl
        · obtain ⟨mdl, rfl, -⟩ := hclosed action hmem
          rfl
  | d0Entry => trivial

/-! ## Over runs -/

theorem UnrefBetween.of_append {sent more : List Submission} {resid after before : Nat}
    (hle : before ≤ sent.length) (hunref : UnrefBetween (sent ++ more) resid after before) :
    UnrefBetween sent resid after before := by
  obtain ⟨q, u, hafter, hbefore, hu, hcmd⟩ := hunref
  rw [List.getElem?_append_left (hbefore.trans_le hle)] at hu
  exact ⟨q, u, hafter, hbefore, hu, hcmd⟩

/-- What is queued later makes no difference. -/
theorem ReadyAt.append {sent more : List Submission} {resid queuedAt before : Nat}
    (hready : ReadyAt sent resid queuedAt before) (hqueued : queuedAt ≤ sent.length)
    (hbefore : before ≤ sent.length) : ReadyAt (sent ++ more) resid queuedAt before := by
  obtain ⟨created, attached, hmade, hkept⟩ := hready
  have hget : ∀ q, q < queuedAt → (sent ++ more)[q]? = sent[q]? :=
    fun q hlt => List.getElem?_append_left (hlt.trans_le hqueued)
  refine ⟨created, attached, ⟨hmade.order, hmade.before, ?_, ?_, fun q u hlt hq hu => ?_⟩,
    fun hunref => hkept (hunref.of_append hbefore)⟩
  · rw [hget _ (hmade.order.trans_lt hmade.before)]
    exact hmade.creates
  · rw [hget _ hmade.before]
    exact hmade.attaches
  · rw [hget _ hq] at hu
    exact hmade.last q u hlt hq hu

namespace CursorRun

/-- The pointers that are to be shown are ready, and those that were shown were. -/
structure Ordered (t : CursorRun) : Prop where
  agenda : Throughout queueSent ShownReady t.state.shared.sent t.state.agenda
  executed : t.state.shared.executed ≤ t.state.shared.sent.length
  marks : t.queuedAt.length = t.state.shared.cursorSent.length
  queued : ∀ queuedAt ∈ t.queuedAt, queuedAt ≤ t.state.shared.sent.length
  pending : ∀ k resid queuedAt, resid ≠ 0 → t.Pending k resid queuedAt →
    ReadyAt t.state.shared.sent resid queuedAt (max queuedAt t.state.shared.executed)
  served : t.InOrder

variable {t t' : CursorRun}

theorem ordered_start (a : Adapter) : (start a).Ordered where
  agenda := trivial
  executed := Nat.le_refl 0
  marks := rfl
  queued := nofun
  pending := by
    rintro k resid queuedAt - ⟨-, -, cmd, hcmd, -⟩
    cases hcmd
  served := nofun

/-- The control queue grows, and nothing else. -/
theorem Ordered.grow (hordered : t.Ordered)
    (hagenda : Throughout queueSent ShownReady t'.state.shared.sent t'.state.agenda)
    (hgrows : ∃ more, t'.state.shared.sent = t.state.shared.sent ++ more)
    (hexecuted : t'.state.shared.executed = t.state.shared.executed)
    (hcursor : t'.state.shared.cursorSent = t.state.shared.cursorSent ∧
      t'.state.shared.cursorExecuted = t.state.shared.cursorExecuted)
    (hmarks : t'.queuedAt = t.queuedAt) (hserved : t'.served = t.served) : t'.Ordered := by
  obtain ⟨more, hsent⟩ := hgrows
  have hle : t.state.shared.sent.length ≤ t'.state.shared.sent.length := by
    rw [hsent, List.length_append]
    exact Nat.le_add_right _ _
  refine ⟨hagenda, ?_, ?_, ?_, ?_, ?_⟩
  · rw [hexecuted]
    exact hordered.executed.trans hle
  · rw [hmarks, hcursor.1]
    exact hordered.marks
  · rw [hmarks]
    exact fun queuedAt hmem => (hordered.queued queuedAt hmem).trans hle
  · intro k resid queuedAt hne hpending
    unfold Pending at hpending
    rw [hcursor.1, hcursor.2, hmarks] at hpending
    have hqueued := hordered.queued queuedAt (List.mem_of_getElem? hpending.2.1)
    rw [hsent, hexecuted]
    exact (hordered.pending k resid queuedAt hne hpending).append hqueued
      (max_le hqueued hordered.executed)
  · unfold InOrder
    rw [hserved]
    exact hordered.served

/-- An action of the call under way. -/
theorem Ordered.act {action : Action} {rest : List Action} (hordered : t.Ordered)
    (hagenda : t.state.agenda = action :: rest) :
    CursorRun.Ordered
      { state := { t.state with agenda := rest, shared := playAction t.state.shared action }
        queuedAt := t.mark
        served := t.served } := by
  have hthrough := hordered.agenda
  rw [hagenda] at hthrough
  obtain ⟨hready, hrest⟩ := hthrough
  have hsent := playAction_sent t.state.shared action
  have hafter : Throughout queueSent ShownReady (playAction t.state.shared action).sent rest :=
    hsent ▸ hrest
  unfold mark
  rw [hagenda]
  cases action with
  | submit submission => exact hordered.grow hafter ⟨_, rfl⟩ rfl ⟨rfl, rfl⟩ rfl rfl
  | flush i serial cmd =>
      cases cmd with
      | none =>
          exact hordered.grow hafter ⟨[], (List.append_nil _).symm⟩ rfl ⟨rfl, rfl⟩ rfl rfl
      | some cmd => exact hordered.grow hafter ⟨_, rfl⟩ rfl ⟨rfl, rfl⟩ rfl rfl
  | clearFlush i =>
      exact hordered.grow hafter ⟨[], (List.append_nil _).symm⟩ rfl ⟨rfl, rfl⟩ rfl rfl
  | pages event =>
      cases event with
      | lock mdl =>
          exact hordered.grow hafter ⟨[], (List.append_nil _).symm⟩ rfl ⟨rfl, rfl⟩ rfl rfl
      | unlock mdl =>
          exact hordered.grow hafter ⟨[], (List.append_nil _).symm⟩ rfl ⟨rfl, rfl⟩ rfl rfl
  | cursor cmd =>
      refine ⟨hafter, hordered.executed, ?_, ?_, ?_, hordered.served⟩
      · simp only [playAction, List.length_append, hordered.marks, List.length_singleton]
      · intro queuedAt hmem
        rcases List.mem_append.mp hmem with hmem | hmem
        · exact hordered.queued queuedAt hmem
        · exact (List.mem_singleton.mp hmem).le
      · rintro k resid queuedAt hne ⟨hle, hmark, cmd', hcmd, hupdates⟩
        rcases Nat.lt_or_ge k t.queuedAt.length with hold | hnew
        · rw [List.getElem?_append_left hold] at hmark
          have hcmd : (t.state.shared.cursorSent ++ [cmd])[k]? = some cmd' := hcmd
          rw [List.getElem?_append_left (hordered.marks ▸ hold)] at hcmd
          exact hordered.pending k resid queuedAt hne ⟨hle, hmark, cmd', hcmd, hupdates⟩
        · -- the command just queued
          rw [List.getElem?_append_right hnew, List.getElem?_singleton] at hmark
          have hcmd : (t.state.shared.cursorSent ++ [cmd])[k]? = some cmd' := hcmd
          rw [List.getElem?_append_right (hordered.marks ▸ hnew), List.getElem?_singleton] at hcmd
          split at hmark
          next =>
            split at hcmd
            next =>
              obtain rfl := Option.some.inj hmark
              obtain rfl := Option.some.inj hcmd
              have hmax := max_eq_left hordered.executed
              show ReadyAt t.state.shared.sent resid _ (max _ t.state.shared.executed)
              rw [hmax]
              exact hready cmd resid rfl hupdates hne
            next => cases hcmd
          next => cases hmark
  | reset =>
      refine ⟨hafter, Nat.le_refl 0, rfl, fun _ hmem => absurd hmem List.not_mem_nil, ?_,
        hordered.served⟩
      rintro k resid queuedAt - ⟨-, -, cmd, hcmd, -⟩
      cases hcmd

/-- The host executes a control command, an `UNREF` only when no pointer is waiting. -/
theorem Ordered.hostExecutes (hordered : t.Ordered) (hok : t.HostInOrder (.outside .hostExecutes))
    (hlt : t.state.shared.executed < t.state.shared.sent.length) :
    CursorRun.Ordered
      { t with state := { t.state with shared :=
        { t.state.shared with executed := t.state.shared.executed + 1 } } } := by
  refine ⟨hordered.agenda, hlt, hordered.marks, hordered.queued, ?_, hordered.served⟩
  intro k resid queuedAt hne hpending
  obtain ⟨created, attached, hmade, hkept⟩ := hordered.pending k resid queuedAt hne hpending
  refine ⟨created, attached, hmade, ?_⟩
  rintro ⟨q, u, hafter, hbefore, hu, hcmd⟩
  rcases Nat.lt_or_ge q (max queuedAt t.state.shared.executed) with hold | hnew
  · exact hkept ⟨q, u, hafter, hold, hu, hcmd⟩
  · -- only the command just executed is new
    dsimp only at hbefore hu
    have heq : q = t.state.shared.executed := by omega
    subst heq
    have hlate := hok u resid hne hu hcmd k queuedAt hpending
    omega

/-- The host executes a cursor command, an update only when its resource is made. -/
theorem Ordered.hostExecutesCursor (hordered : t.Ordered)
    (hok : t.HostInOrder (.outside .hostExecutesCursor)) :
    CursorRun.Ordered
      { state := { t.state with shared :=
          { t.state.shared with cursorExecuted := t.state.shared.cursorExecuted + 1 } }
        queuedAt := t.queuedAt
        served := t.next.toList ++ t.served } := by
  refine ⟨hordered.agenda, hordered.executed, hordered.marks, hordered.queued, ?_, ?_⟩
  · rintro k resid queuedAt hne ⟨hle, hmark, hcmd⟩
    exact hordered.pending k resid queuedAt hne ⟨(Nat.le_succ _).trans hle, hmark, hcmd⟩
  · intro x hmem hne
    rcases List.mem_append.mp hmem with hmem | hmem
    · have hnext : t.next = some x := Option.mem_toList.mp hmem
      have hexecuted := hok x hnext
      unfold next at hnext
      split at hnext
      next hcmd hmark =>
        obtain rfl := Option.some.inj hnext
        have hpending : t.Pending _ _ _ := ⟨Nat.le_refl _, hmark, _, hcmd, rfl⟩
        obtain ⟨created, attached, hmade, hkept⟩ := hordered.pending _ _ _ hne hpending
        obtain ⟨u, hu, hattaches⟩ := hmade.attaches
        exact ⟨created, attached, hmade, hexecuted attached u hmade.before hu (.inr hattaches),
          hkept⟩
      next => cases hnext
    · exact hordered.served x hmem hne

/-- A move of the host or the DPC that executes nothing. -/
theorem Ordered.completes {k : Nat} {shared : Shared} (hordered : t.Ordered)
    (hmove : outsideMove t.state.shared (.complete k) = some shared ∨
      ∃ reads, outsideMove t.state.shared (.misread k reads) = some shared) :
    CursorRun.Ordered { t with state := { t.state with shared := shared } } := by
  have hsame : shared.sent = t.state.shared.sent ∧ shared.executed = t.state.shared.executed ∧
      shared.cursorSent = t.state.shared.cursorSent ∧
      shared.cursorExecuted = t.state.shared.cursorExecuted := by
    rcases hmove with hmove | ⟨reads, hmove⟩
    · cases outsideMove_spec hmove with
      | completed => exact ⟨rfl, rfl, rfl, rfl⟩
    · cases outsideMove_spec hmove with
      | misreadNone | misreadSome => exact ⟨rfl, rfl, rfl, rfl⟩
  obtain ⟨hsent, hexecuted, hcursor⟩ := hsame
  refine hordered.grow ?_ ⟨[], by rw [List.append_nil]; exact hsent⟩ hexecuted hcursor rfl rfl
  dsimp only
  rw [hsent]
  exact hordered.agenda

/-- Every move that meets the condition keeps the pointers in order. -/
theorem Ordered.step {move : Move} (hordered : t.Ordered) (hok : t.HostInOrder move)
    (hstep : system.step t move = some t') : t'.Ordered := by
  obtain ⟨m, hmachine, rfl⟩ := Option.map_eq_some_iff.mp hstep
  cases move with
  | call call =>
      obtain ⟨priv, actions, record, hagenda, hexec, rfl⟩ := Component.step_call_eq_some hmachine
      have hshown := (exec_callStep hexec).shown fun i shape format o hcall => by
        subst hcall
        exact hok
      exact ⟨hshown, hordered.executed, hordered.marks, hordered.queued, hordered.pending,
        hordered.served⟩
  | act =>
      obtain ⟨action, rest, hagenda, rfl⟩ := Component.step_act_eq_some hmachine
      exact hordered.act hagenda
  | outside x =>
      obtain ⟨shared, hmove, rfl⟩ := Component.step_outside_eq_some hmachine
      cases x with
      | hostExecutes =>
          obtain ⟨hlt, heq⟩ := Option.ite_none_right_eq_some.mp hmove
          obtain rfl := Option.some.inj heq
          exact hordered.hostExecutes hok hlt
      | hostExecutesCursor =>
          obtain ⟨-, heq⟩ := Option.ite_none_right_eq_some.mp hmove
          obtain rfl := Option.some.inj heq
          exact hordered.hostExecutesCursor hok
      | complete k => exact hordered.completes (.inl hmove)
      | misread k reads => exact hordered.completes (.inr ⟨reads, hmove⟩)

/-- The machine runs as it does on its own. -/
theorem reach_machine {a : Adapter} (hreach : system.Reach (start a) t) :
    machine.Reach (.start a) t.state := by
  apply hreach.invariant (I := fun t => machine.Reach (.start a) t.state)
  · exact .refl
  · intro before move after hbefore _ hstep
    obtain ⟨m, hmachine, rfl⟩ := Option.map_eq_some_iff.mp hstep
    exact .next hbefore trivial hmachine

/-- In every run in which the host serves the two queues in the order in which their
commands for one resource were queued, every pointer it is told to show is made and not yet
destroyed. -/
theorem pointers_in_order {a : Adapter} (hreach : system.ReachUnder HostInOrder (start a) t) :
    t.InOrder := by
  have hordered : t.Ordered := by
    apply hreach.invariant (ordered_start a)
    intro before move after hordered hok hstep
    exact hordered.step hok hstep
  exact hordered.served

/-- A pointer of 32 by 32 pixels, on screen 0, for which nothing fails. -/
def showPointer : Move := .call (.cursorData 0 ⟨32, 32, 5, 7, 0, 0⟩ (.other 0) .good)

/-- The host executes cursor commands once it has executed every control command, and no
`UNREF`. -/
def servesInOrder (t : CursorRun) : Move → Bool
  | .outside .hostExecutesCursor => t.state.shared.executed == t.state.shared.sent.length
  | .outside .hostExecutes => (t.state.shared.sent[t.state.shared.executed]?).all fun u =>
      match u.cmd with
      | .resourceUnref _ => false
      | _ => true
  | .call _ | .act | .outside _ => true

/-- A pointer is shown by a host that serves the control queue first. -/
theorem pointers_in_order_shown : ∃ t : CursorRun, t.InOrder ∧ t.served.map (·.resid) = [1] := by
  let moves : List Move := showPointer :: List.replicate 2 .act ++
    [.outside .hostExecutes, .outside .hostExecutesCursor]
  have hresult : (hwInit (.plain true)).bind (fun a =>
      (system.checkedRun servesInOrder (start a) moves).map fun t => t.served.map (·.resid)) =
        some [1] := by
    decide +kernel
  obtain ⟨a, -, hresult⟩ := Option.bind_eq_some_iff.mp hresult
  obtain ⟨t, hrun, hserved⟩ := Option.map_eq_some_iff.mp hresult
  have hok : ∀ t, ∀ move ∈ moves, servesInOrder t move = true → HostInOrder t move := by
    intro t move hmem hcheck
    cases move with
    | call call =>
        have hcall : call = .cursorData 0 ⟨32, 32, 5, 7, 0, 0⟩ (.other 0) .good := by
          simpa [moves, showPointer] using hmem
        subst hcall
        exact fun _ _ _ _ _ _ => rfl
    | act => trivial
    | outside x =>
        cases x with
        | hostExecutes =>
            intro u resid _ hu hcmd
            simp [servesInOrder, hu, hcmd] at hcheck
        | hostExecutesCursor =>
            intro x hx q u _ hu _
            have hexecuted : t.state.shared.executed = t.state.shared.sent.length :=
              beq_iff_eq.mp hcheck
            have hnow : x.sent = t.state.shared.sent ∧ x.executed = t.state.shared.executed := by
              unfold next at hx
              split at hx
              next =>
                obtain rfl := Option.some.inj hx
                exact ⟨rfl, rfl⟩
              next => cases hx
            rw [hnow.2, hexecuted, ← hnow.1]
            exact (List.getElem?_eq_some_iff.mp hu).1
        | _ => trivial
  exact ⟨t, pointers_in_order (System.ReachUnder.checkedRun .refl hok hrun), hserved⟩

/-- A host that serves the cursor queue first shows a pointer that it has not made. -/
theorem pointers_not_in_order : ¬ ∀ cfg a, hwInit cfg = some a → ∀ t,
    system.Reach (start a) t → t.InOrder := by
  let moves : List Move :=
    showPointer :: List.replicate 2 .act ++ [.outside .hostExecutesCursor]
  have hresult : (hwInit (.plain true)).bind (fun a =>
      (system.run (start a) moves).map fun t => t.served.map fun x => (x.resid, x.executed)) =
        some [(1, 0)] := by
    decide +kernel
  obtain ⟨a, hinit, hresult⟩ := Option.bind_eq_some_iff.mp hresult
  obtain ⟨t, hrun, hserved⟩ := Option.map_eq_some_iff.mp hresult
  obtain ⟨x, hx, hvalues⟩ := List.map_eq_singleton_iff.mp hserved
  obtain ⟨hresid, hexecuted⟩ := Prod.mk.inj hvalues
  intro hclaim
  have hmem : x ∈ t.served := hx ▸ List.mem_singleton_self x
  have hne : x.resid ≠ 0 := by
    rw [hresid]
    exact Nat.one_ne_zero
  obtain ⟨created, attached, -, hlt, -⟩ :=
    hclaim _ a hinit t (System.Reach.run .refl hrun) x hmem hne
  rw [hexecuted] at hlt
  exact Nat.not_lt_zero _ hlt

end CursorRun

end VirtDisplay
