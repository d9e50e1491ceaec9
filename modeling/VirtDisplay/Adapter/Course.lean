/-
# The course of a call

Every call goes through the same three phases. It clears slots, by destroying the objects
in them. It makes at most one object, or fails to, and either way asks for one id. Then
it uses objects that are there. Powering down is a call that clears every slot and resets
the device, and a release points its scanout at nothing before it clears the slot.

The invariants about resources and scanouts are kept by each phase for its own reasons,
and `CallStep.course` is the only place that looks at the calls.
-/

import VirtDisplay.Adapter.Holdings

namespace VirtDisplay

open Transition

/-- The environment's answers a call goes by. -/
def Call.Consults (o : Outcomes) : Call → Prop
  | .setMode _ _ o' | .blackOut _ o' | .present _ _ o' | .releaseFb _ o' | .cursorData _ _ _ o'
  | .cursorPos _ _ _ o' => o' = o
  | .d0Exit os => ∃ i, os i = o
  | .getFbVAddr _ | .hotPlug _ | .d0Entry _ _ => False

/-- The call makes a new object for this slot, or tries to. -/
def Takes (a : Adapter) (s : Shared) (call : Call) : Slot → Prop
  | .frame i => ∃ r, call.request = some r ∧ r.screen = i ∧ RebuildsFront a s r
  | .cursor i => ∃ shape format o, call = .cursorData i shape format o

/-- The call powers the device down. -/
def Call.PowersDown (call : Call) : Prop := ∃ os, call = .d0Exit os

theorem Call.consults_request {call : Call} {r : Request} (hrequest : call.request = some r) :
    call.Consults r.outcomes := by
  cases call with
  | setMode frame probed o => exact (Call.request_setMode hrequest).2.2.symm
  | present frame probed o => exact (Call.request_present hrequest).2.2.symm
  | getFbVAddr | blackOut | releaseFb | cursorData | cursorPos | hotPlug | d0Exit | d0Entry =>
      cases hrequest

/-- Objects are destroyed one after the other, each of which `may` be. -/
inductive Clears (may : Outcomes → Slot → Nat → Prop) : Holdings → List HostEvent → Holdings → Prop
  | done (h : Holdings) : Clears may h [] h
  | drops {h after : Holdings} {slot : Slot} {id : Nat} {o : Outcomes} {bReset : Bool}
      {events : List HostEvent} (hheld : h.held slot = some id) (hmay : may o slot id)
      (hrest : Clears may (h.drop slot id) events after) :
      Clears may h (hostEvents (destroyActions o bReset id) ++ events) after

/-- What a call may destroy to make room, or to power down. -/
def MayClear (a : Adapter) (s : Shared) (call : Call) (o : Outcomes) (slot : Slot) (id : Nat) :
    Prop :=
  call.Consults o ∧ a.holdings.held slot = some id ∧ (Takes a s call slot ∨ call.PowersDown)

/-- What `ReleaseFrameBuffer` may destroy. -/
def MayRelease (a : Adapter) (o : Outcomes) (i : ScreenId) (o' : Outcomes) (slot : Slot)
    (id : Nat) :
    Prop :=
  o' = o ∧ slot = .frame i ∧ a.holdings.held slot = some id

/-- At most one object is made, in a slot that is empty, or the device is reset. -/
inductive Makes (a : Adapter) (s : Shared) (call : Call) (h : Holdings) :
    List HostEvent → Holdings → Prop
  | nothing : Makes a s call h [] h
  | builds {r : Request} {info : VideoModeInfo} {c : Ctx} (hrequest : call.request = some r)
      (htakes : Takes a s call (.frame r.screen)) (hempty : h.held (.frame r.screen) = none)
      (hbuild : Buildable r.outcomes info r.mode c) :
      Makes a s call h
        (hostEvents (prepareActions r.outcomes a.blobSupported info r.mode c h.nextId ++
          installActions r.outcomes a.blobSupported r.screen info r.mode c h.nextId))
        (h.take (.frame r.screen) (if r.outcomes.newEnts then h.nextId else 0))
  | abandons {r : Request} {info : VideoModeInfo} {c : Ctx} (hrequest : call.request = some r)
      (htakes : Takes a s call (.frame r.screen)) (hempty : h.held (.frame r.screen) = none)
      (hheight : info.visScreenHeight = r.mode.height)
      (hfails : ¬ Buildable r.outcomes info r.mode c) :
      Makes a s call h
        (hostEvents (prepareActions r.outcomes a.blobSupported info r.mode c h.nextId)) h.abandon
  | points {i : ScreenId} {shape : PointerShape} {format : D3DDDIFormat} {o : Outcomes}
      (hcall : call = .cursorData i shape format o) (hempty : h.held (.cursor i) = none)
      (hbuild : CursorBuildable o (a.ctx i)) :
      Makes a s call h
        (hostEvents (createCursorActions o a.blobSupported shape format (a.ctx i) h.nextId))
        (h.take (.cursor i) h.nextId)
  | loses {i : ScreenId} {shape : PointerShape} {format : D3DDDIFormat} {o : Outcomes}
      (hcall : call = .cursorData i shape format o) (hempty : h.held (.cursor i) = none)
      (hfails : ¬ CursorBuildable o (a.ctx i)) :
      Makes a s call h
        (hostEvents (createCursorActions o a.blobSupported shape format (a.ctx i) h.nextId)) h.lose
  | resets (hpower : call.PowersDown) (hempty : ∀ slot, h.held slot = none) :
      Makes a s call h [.reset] h

/-- The command reads the resource with this id. -/
def GpuCmd.Uses (id : Nat) : GpuCmd → Prop
  | .transferToHost2D id' .. | .resourceFlush _ id' .. => id' = id
  | _ => False

/-- Objects are used. -/
def Uses (h : Holdings) (events : List HostEvent) : Prop :=
  ∀ event ∈ events, ∃ cmd id slot, event = .command cmd ∧ cmd.Uses id ∧ h.held slot = some id

/-- What a call does to the holdings, and what the host sees of it. -/
inductive Course (a : Adapter) (s : Shared) (call : Call) : List HostEvent → Holdings → Prop
  | plain {cleared made used : List HostEvent} {mid after : Holdings}
      (hclears : Clears (MayClear a s call) a.holdings cleared mid)
      (hmakes : Makes a s call mid made after) (huses : Uses after used) :
      Course a s call (cleared ++ made ++ used) after
  | release {i : ScreenId} {o : Outcomes} {cleared : List HostEvent} {after : Holdings}
      (hcall : call = .releaseFb i.val o)
      (hclears : Clears (MayRelease a o i) a.holdings cleared after) :
      Course a s call (hostEvents (submitted o (.setScanout i.val 0 0 0) none) ++ cleared) after

namespace Clears

variable {may may' : Outcomes → Slot → Nat → Prop} {h mid after : Holdings}
  {events events' : List HostEvent} {slot : Slot} {id : Nat}

theorem single {o : Outcomes} (bReset : Bool) (hheld : h.held slot = some id)
    (hmay : may o slot id) :
    Clears may h (hostEvents (destroyActions o bReset id)) (h.drop slot id) := by
  have hdrops : Clears may h (hostEvents (destroyActions o bReset id) ++ []) (h.drop slot id) :=
    .drops hheld hmay (.done _)
  rwa [List.append_nil] at hdrops

theorem trans (hfirst : Clears may h events mid) (hsecond : Clears may mid events' after) :
    Clears may h (events ++ events') after := by
  induction hfirst with
  | done => exact hsecond
  | drops hheld hmay _ ih =>
      rw [List.append_assoc]
      exact .drops hheld hmay (ih hsecond)

/-- No id is taken. -/
theorem used_of (hclears : Clears may h events after) (hmem : id ∈ after.idr.used) :
    id ∈ h.idr.used := by
  induction hclears with
  | done => exact hmem
  | drops _ _ _ ih => exact (Idr.mem_used_putId.mp (ih hmem)).1

/-- What a slot still holds it held before. -/
theorem held_of (hclears : Clears may h events after) (hheld : after.held slot = some id) :
    h.held slot = some id := by
  induction hclears with
  | done => exact hheld
  | drops _ _ _ ih => exact (Holdings.held_drop (ih hheld)).2

/-- A slot that is empty now has given its id back. -/
theorem not_used (hclears : Clears may h events after) (hheld : h.held slot = some id)
    (hempty : after.held slot = none) : id ∉ after.idr.used := by
  induction hclears with
  | done => cases hheld.symm.trans hempty
  | @drops h after slot' id' o bReset events hheld' hmay hrest ih =>
      by_cases hslot : slot = slot'
      · subst hslot
        obtain rfl := Option.some.inj (hheld.symm.trans hheld')
        exact fun hmem => (Idr.mem_used_putId.mp (hrest.used_of hmem)).2 rfl
      · exact ih ((Holdings.drop_held_of_ne hslot).trans hheld) hempty

/-- What may not be destroyed stays. -/
theorem held_eq (hclears : Clears may h events after) (hkept : ∀ o id, ¬ may o slot id) :
    after.held slot = h.held slot := by
  induction hclears with
  | done => rfl
  | @drops h after slot' id' o bReset events hheld hmay hrest ih =>
      have hne : slot ≠ slot' := by
        rintro rfl
        exact hkept o id' hmay
      rw [ih, Holdings.drop_held_of_ne hne]

end Clears

/-- An id is free for the object a call is to make, once the object in its slot has given
its own back. -/
def RoomToTake (a : Adapter) (s : Shared) (call : Call) : Prop :=
  ∀ slot, Takes a s call slot →
    ∃ id < Idr.bitmapSize, id ∉ a.idr.used ∨ a.holdings.held slot = some id

section

variable {a : Adapter} {s : Shared} {call : Call} {h mid after : Holdings} {events : List HostEvent}

theorem RoomToTake.hasRoom {may : Outcomes → Slot → Nat → Prop} {slot : Slot}
    (hroom : RoomToTake a s call) (htakes : Takes a s call slot)
    (hclears : Clears may a.holdings events mid) (hempty : mid.held slot = none) :
    mid.idr.HasRoom := by
  obtain ⟨id, hlt, hfree | hheld⟩ := hroom slot htakes
  · exact ⟨id, hlt, fun hmem => hfree (hclears.used_of hmem)⟩
  · exact ⟨id, hlt, hclears.not_used hheld hempty⟩

/-- A call that makes an object does not power down. -/
theorem Takes.not_powersDown {slot : Slot} (htakes : Takes a s call slot) : ¬ call.PowersDown := by
  rintro ⟨os, rfl⟩
  cases slot with
  | frame i =>
      obtain ⟨r, hrequest, -⟩ := htakes
      cases hrequest
  | cursor i =>
      obtain ⟨shape, format, o, hcall⟩ := htakes
      cases hcall

/-- A call that makes an object has asked for its id in an empty slot. -/
theorem Makes.cases (hmakes : Makes a s call h events after) :
    after = h ∨ ∃ slot, Takes a s call slot ∧ h.held slot = none ∧
      (after = h.take slot h.nextId ∨ (∃ i, slot = .frame i) ∧ after = h.take slot 0 ∨
        after = h.abandon ∨ after = h.lose) := by
  cases hmakes with
  | nothing | resets => exact .inl rfl
  | @builds r info c hrequest htakes hempty hbuild =>
      refine .inr ⟨_, htakes, hempty, ?_⟩
      split
      · exact .inl rfl
      · exact .inr (.inl ⟨⟨_, rfl⟩, rfl⟩)
  | abandons hrequest htakes hempty => exact .inr ⟨_, htakes, hempty, .inr (.inr (.inl rfl))⟩
  | @points i _ _ _ hcall hempty =>
      have htakes : Takes a s call (.cursor i) := ⟨_, _, _, hcall⟩
      exact .inr ⟨_, htakes, hempty, .inl rfl⟩
  | @loses i _ _ _ hcall hempty =>
      have htakes : Takes a s call (.cursor i) := ⟨_, _, _, hcall⟩
      exact .inr ⟨_, htakes, hempty, .inr (.inr (.inr rfl))⟩

end

/-- Nothing is held when the device has started. -/
theorem hwInit_holdings {cfg : BootConfig} {a : Adapter} (hinit : hwInit cfg = some a) :
    a.holdings = ⟨fun _ => none, .initial⟩ := by
  unfold hwInit at hinit
  split at hinit
  next st heq =>
    split at hinit
    next =>
      obtain rfl := Option.some.inj hinit
      refine congrArg (Holdings.mk · _) (funext fun slot => ?_)
      cases slot <;> rfl
    next => cases hinit
  next => cases hinit

theorem hwInit_owned {cfg : BootConfig} {a : Adapter} (hinit : hwInit cfg = some a) :
    a.holdings.Owned := by
  rw [hwInit_holdings hinit]
  exact ⟨nofun, nofun, nofun⟩

/-- The command is part of making an object for a slot under this id. -/
inductive GpuCmd.Builds (slot : Slot) (id : Nat) : GpuCmd → Prop
  | create2D {format : VirtioGpuFormat} {width height : Nat} :
      Builds slot id (.resourceCreate2D id format width height)
  | createBlob {entries : List MemEntry} {size : Nat} :
      Builds slot id (.resourceCreateBlob id entries size)
  | attach {entries : List MemEntry} : Builds slot id (.resourceAttachBacking id entries)
  | scanout {i : ScreenId} {width height : Nat} (hslot : slot = .frame i) :
      Builds slot id (.setScanout i.val id width height)
  | scanoutBlob {i : ScreenId} {width height stride : Nat} {format : VirtioGpuFormat}
      (hslot : slot = .frame i) :
      Builds slot id (.setScanoutBlob i.val id width height format stride)
  | transfer {width height : Nat} : Builds slot id (.transferToHost2D id width height)
  | flush {fenceId width height : Nat} : Builds slot id (.resourceFlush fenceId id width height)

theorem mem_accepted {o : Outcomes} {cmd : GpuCmd} {event : HostEvent}
    (hmem : event ∈ if o.accepts cmd then [HostEvent.command cmd] else []) :
    event = .command cmd := by
  split at hmem
  · exact List.mem_singleton.mp hmem
  · cases hmem

/-- What the host sees of an object being destroyed. -/
theorem mem_hostEvents_destroyActions {o : Outcomes} {bReset : Bool} {id : Nat} {event : HostEvent}
    (hmem : event ∈ hostEvents (destroyActions o bReset id)) :
    event = .command (.resourceDetachBacking id) ∨ event = .command (.resourceUnref id) ∨
      event = .command (.setScanout 0 0 0 0) := by
  rw [destroyActions, hostEvents_append, hostEvents_append, hostEvents_submitted,
    hostEvents_submitted] at hmem
  rcases List.mem_append.mp hmem with hmem | hmem
  · rcases List.mem_append.mp hmem with hmem | hmem
    · exact .inl (mem_accepted hmem)
    · exact .inr (.inl (mem_accepted hmem))
  · cases bReset with
    | true =>
        rw [if_pos rfl, hostEvents_submitted] at hmem
        exact .inr (.inr (mem_accepted hmem))
    | false => cases hmem

theorem builds_prepareActions {o : Outcomes} {blob : Bool} {info : VideoModeInfo}
    {mode : CurrentMode} {c : Ctx} {id : Nat} {event : HostEvent} (slot : Slot)
    (hmem : event ∈ hostEvents (prepareActions o blob info mode c id)) :
    ∃ cmd, event = .command cmd ∧ cmd.Builds slot id := by
  rw [prepareActions, hostEvents_append, hostEvents_pages, List.append_nil] at hmem
  cases blob with
  | true => cases hmem
  | false =>
      rw [if_neg Bool.false_ne_true, hostEvents_submitted] at hmem
      exact ⟨_, mem_accepted hmem, .create2D⟩

theorem builds_installActions {o : Outcomes} {blob : Bool} {i : ScreenId} {info : VideoModeInfo}
    {mode : CurrentMode} {c : Ctx} {id : Nat} {event : HostEvent}
    (hmem : event ∈ hostEvents (installActions o blob i info mode c id)) :
    ∃ cmd, event = .command cmd ∧ cmd.Builds (.frame i) id := by
  rw [installActions, hostEvents_append, hostEvents_append, hostEvents_flushAction] at hmem
  rcases List.mem_append.mp hmem with hmem | hmem
  · rcases List.mem_append.mp hmem with hmem | hmem
    · split at hmem
      · rw [hostEvents_submitted] at hmem
        refine ⟨_, mem_accepted hmem, ?_⟩
        unfold attachCmd
        split
        · exact .createBlob
        · exact .attach
      · cases hmem
    · unfold scanoutActions at hmem
      split at hmem
      · rw [hostEvents_submitted] at hmem
        exact ⟨_, mem_accepted hmem, .scanoutBlob rfl⟩
      · rw [hostEvents_append, hostEvents_submitted, hostEvents_submitted] at hmem
        rcases List.mem_append.mp hmem with hmem | hmem
        · exact ⟨_, mem_accepted hmem, .scanout rfl⟩
        · exact ⟨_, mem_accepted hmem, .transfer⟩
  · exact ⟨_, mem_accepted hmem, .flush⟩

theorem builds_createCursorActions {o : Outcomes} {blob : Bool} {shape : PointerShape}
    {format : D3DDDIFormat} {c : Ctx} {id : Nat} {event : HostEvent} (slot : Slot)
    (hmem : event ∈ hostEvents (createCursorActions o blob shape format c id)) :
    ∃ cmd, event = .command cmd ∧ cmd.Builds slot id := by
  rw [createCursorActions, hostEvents_append, hostEvents_append, hostEvents_pages,
    List.append_nil] at hmem
  rcases List.mem_append.mp hmem with hmem | hmem
  · split at hmem
    · cases hmem
    · rw [hostEvents_submitted] at hmem
      exact ⟨_, mem_accepted hmem, .create2D⟩
  · split at hmem
    · rw [hostEvents_append, hostEvents_submitted] at hmem
      rcases List.mem_append.mp hmem with hmem | hmem
      · refine ⟨_, mem_accepted hmem, ?_⟩
        unfold cursorAttachCmd
        split
        · exact .createBlob
        · exact .attach
      · split at hmem
        · cases hmem
        · rw [hostEvents_submitted] at hmem
          exact ⟨_, mem_accepted hmem, .transfer⟩
    · cases hmem

/-- All the host sees of the making is about the object made, apart from a reset. -/
theorem Makes.builds_of_mem {a : Adapter} {s : Shared} {call : Call} {h after : Holdings}
    {events : List HostEvent} {cmd : GpuCmd} (hmakes : Makes a s call h events after)
    (hmem : .command cmd ∈ events) :
    ∃ slot, Takes a s call slot ∧ h.held slot = none ∧ cmd.Builds slot h.nextId := by
  have hdone : ∀ {slot}, Takes a s call slot → h.held slot = none →
      (∃ cmd', HostEvent.command cmd = .command cmd' ∧ cmd'.Builds slot h.nextId) →
      ∃ slot, Takes a s call slot ∧ h.held slot = none ∧ cmd.Builds slot h.nextId := by
    rintro slot htakes hempty ⟨cmd', heq, hbuilds⟩
    obtain rfl := HostEvent.command.inj heq
    exact ⟨slot, htakes, hempty, hbuilds⟩
  cases hmakes with
  | nothing => cases hmem
  | builds hrequest htakes hempty hbuild =>
      apply hdone htakes hempty
      rw [hostEvents_append] at hmem
      exact (List.mem_append.mp hmem).elim (builds_prepareActions _) builds_installActions
  | abandons hrequest htakes hempty => exact hdone htakes hempty (builds_prepareActions _ hmem)
  | @points i _ _ _ hcall hempty =>
      have htakes : Takes a s call (.cursor i) := ⟨_, _, _, hcall⟩
      exact hdone htakes hempty (builds_createCursorActions _ hmem)
  | @loses i _ _ _ hcall hempty =>
      have htakes : Takes a s call (.cursor i) := ⟨_, _, _, hcall⟩
      exact hdone htakes hempty (builds_createCursorActions _ hmem)
  | resets =>
      rcases List.mem_singleton.mp hmem with ⟨⟩

/-! ## Functions on one screen -/

section

variable {a : Adapter} {i : ScreenId} {c : Ctx}

/-- A function that leaves the pointer alone changes what the frame slot holds. -/
theorem holdings_withCtx_frame (hcursor : c.screen.cursorBuf = (a.screens i).cursorBuf) :
    (a.withCtx i c).holdings =
      ⟨Function.update a.holdings.held (.frame i) (c.screen.front.map VioGpuObj.hwRes), c.idr⟩ := by
  apply congrArg (Holdings.mk · c.idr)
  funext slot
  cases slot with
  | frame j =>
      by_cases hj : j = i
      · subst hj
        simp [Adapter.object]
      · have hne : Slot.frame j ≠ .frame i := fun h => hj (Slot.frame.inj h)
        rw [Function.update_of_ne hne]
        simp [Adapter.object, Adapter.holdings, Adapter.withCtx_screens_of_ne hj]
  | cursor j =>
      by_cases hj : j = i
      · subst hj
        simp [Adapter.object, Adapter.holdings, hcursor]
      · simp [Adapter.object, Adapter.holdings, Adapter.withCtx_screens_of_ne hj]

/-- A function that leaves the front alone changes what the pointer's slot holds. -/
theorem holdings_withCtx_cursor (hfront : c.screen.front = (a.screens i).front) :
    (a.withCtx i c).holdings =
      ⟨Function.update a.holdings.held (.cursor i) (c.screen.cursorBuf.map VioGpuObj.hwRes),
        c.idr⟩ := by
  apply congrArg (Holdings.mk · c.idr)
  funext slot
  cases slot with
  | frame j =>
      by_cases hj : j = i
      · subst hj
        simp [Adapter.object, Adapter.holdings, hfront]
      · simp [Adapter.object, Adapter.holdings, Adapter.withCtx_screens_of_ne hj]
  | cursor j =>
      by_cases hj : j = i
      · subst hj
        simp [Adapter.object]
      · have hne : Slot.cursor j ≠ .cursor i := fun h => hj (Slot.cursor.inj h)
        rw [Function.update_of_ne hne]
        simp [Adapter.object, Adapter.holdings, Adapter.withCtx_screens_of_ne hj]

/-- A function that makes and destroys nothing changes nothing. -/
theorem holdings_withCtx_self (hfront : c.screen.front = (a.screens i).front)
    (hcursor : c.screen.cursorBuf = (a.screens i).cursorBuf) (hidr : c.idr = a.idr) :
    (a.withCtx i c).holdings = a.holdings := by
  rw [holdings_withCtx_frame hcursor, hfront, hidr]
  apply congrArg (Holdings.mk · a.idr)
  exact Function.update_eq_self (Slot.frame i) a.holdings.held

/-- Destroying the front clears its slot. -/
theorem clears_destroyFrameBufferObj {may : Outcomes → Slot → Nat → Prop} {o : Outcomes}
    (bReset : Bool) (hfront : c.screen.front = (a.screens i).front)
    (hcursor : c.screen.cursorBuf = (a.screens i).cursorBuf) (hidr : c.idr = a.idr)
    (hmay : ∀ id, a.holdings.held (.frame i) = some id → may o (.frame i) id) :
    ∃ events,
      hostEvents (destroyFrameBufferObj o bReset c).actions = hostEvents c.actions ++ events ∧
      Clears may a.holdings events (a.withCtx i (destroyFrameBufferObj o bReset c)).holdings := by
  have hslot : a.holdings.held (.frame i) = c.screen.front.map VioGpuObj.hwRes :=
    congrArg (Option.map _) hfront.symm
  rw [holdings_withCtx_frame (by rw [destroyFrameBufferObj_screen, hcursor]),
    destroyFrameBufferObj_actions, destroyFrameBufferObj_idr, destroyFrameBufferObj_screen, hidr,
    hostEvents_append]
  refine ⟨_, rfl, ?_⟩
  cases hobj : c.screen.front with
  | none =>
      rw [hobj] at hslot
      have hheld : Function.update a.holdings.held (.frame i) none = a.holdings.held :=
        Function.update_eq_iff.mpr ⟨hslot.symm, fun _ _ => rfl⟩
      simp only [Option.map_none, hheld]
      exact .done a.holdings
  | some fbuf =>
      rw [hobj] at hslot
      exact .single bReset hslot (hmay _ hslot)

/-- Destroying the pointer clears its slot. -/
theorem clears_destroyCursor {may : Outcomes → Slot → Nat → Prop} {o : Outcomes}
    (hfront : c.screen.front = (a.screens i).front)
    (hcursor : c.screen.cursorBuf = (a.screens i).cursorBuf) (hidr : c.idr = a.idr)
    (hmay : ∀ id, a.holdings.held (.cursor i) = some id → may o (.cursor i) id) :
    ∃ events, hostEvents (destroyCursor o c).actions = hostEvents c.actions ++ events ∧
      Clears may a.holdings events (a.withCtx i (destroyCursor o c)).holdings := by
  have hslot : a.holdings.held (.cursor i) = c.screen.cursorBuf.map VioGpuObj.hwRes :=
    congrArg (Option.map _) hcursor.symm
  rw [holdings_withCtx_cursor (by rw [destroyCursor_screen, hfront]), destroyCursor_actions,
    destroyCursor_idr, destroyCursor_screen, hidr, hostEvents_append]
  refine ⟨_, rfl, ?_⟩
  cases hobj : c.screen.cursorBuf with
  | none =>
      rw [hobj] at hslot
      have hheld : Function.update a.holdings.held (.cursor i) none = a.holdings.held :=
        Function.update_eq_iff.mpr ⟨hslot.symm, fun _ _ => rfl⟩
      simp only [Option.map_none, hheld]
      exact .done a.holdings
  | some cursor =>
      rw [hobj] at hslot
      exact .single false hslot (hmay _ hslot)

theorem withCtx_withCtx (c' : Ctx) : (a.withCtx i c).withCtx i c' = a.withCtx i c' := by
  simp only [Adapter.withCtx, Function.update_idem]

/-- One screen's objects are destroyed. -/
theorem clears_destroyScreenObjs {may : Outcomes → Slot → Nat → Prop} (o : Outcomes)
    (a : Adapter) (i : ScreenId)
    (hmay : ∀ slot id, a.holdings.held slot = some id → may o slot id) :
    Clears may a.holdings (hostEvents (destroyScreenObjs o (a.ctx i)).actions)
      (a.withCtx i (destroyScreenObjs o (a.ctx i))).holdings := by
  obtain ⟨front, hfront, hclearsFront⟩ := clears_destroyFrameBufferObj (a := a) (i := i) true
    (rfl : (a.ctx i).screen.front = _) rfl rfl (hmay _)
  let c := destroyFrameBufferObj o true (a.ctx i)
  have hscreen : (a.withCtx i c).screens i = c.screen := Adapter.withCtx_screens_self a i c
  obtain ⟨cursor, hcursor, hclearsCursor⟩ : ∃ events,
      hostEvents (destroyCursor o c).actions = hostEvents c.actions ++ events ∧
        Clears may (a.withCtx i c).holdings events
          ((a.withCtx i c).withCtx i (destroyCursor o c)).holdings :=
    clears_destroyCursor (by rw [hscreen]) (by rw [hscreen]) rfl fun id hheld =>
      hmay _ _ (hclearsFront.held_of hheld)
  rw [destroyScreenObjs, hcursor, hfront, Adapter.ctx_actions, hostEvents_nil, List.nil_append]
  rw [withCtx_withCtx] at hclearsCursor
  exact hclearsFront.trans hclearsCursor

/-- The objects of each screen in turn are destroyed. -/
theorem clears_forScreens {may : Outcomes → Slot → Nat → Prop} (os : ScreenId → Outcomes)
    (todo : List ScreenId) (a : Adapter)
    (hmay : ∀ i slot id, a.holdings.held slot = some id → may (os i) slot id) :
    Clears may a.holdings (hostEvents (forScreens (fun i => destroyScreenObjs (os i)) todo a).2)
      (forScreens (fun i => destroyScreenObjs (os i)) todo a).1.holdings := by
  induction todo generalizing a with
  | nil => exact .done a.holdings
  | cons i todo ih =>
      have hfirst := clears_destroyScreenObjs (os i) a i (hmay i)
      have hrest := ih (a.withCtx i (destroyScreenObjs (os i) (a.ctx i))) fun j slot id hheld =>
        hmay j slot id (hfirst.held_of hheld)
      simp only [forScreens, hostEvents_append]
      exact hfirst.trans hrest

theorem forScreens_idr {f : ScreenId → Ctx → Ctx} (hidr : ∀ i c, (f i c).idr = c.idr)
    (todo : List ScreenId) (a : Adapter) : (forScreens f todo a).1.idr = a.idr := by
  induction todo generalizing a with
  | nil => rfl
  | cons i todo ih =>
      simp only [forScreens]
      rw [ih]
      exact hidr i (a.ctx i)

/-- Closing the segments shows the host nothing. -/
theorem hostEvents_closeSegments (todo : List ScreenId) (a : Adapter) (hnodup : todo.Nodup) :
    hostEvents (forScreens (fun _ => closeSegments) todo a).2 = [] := by
  apply List.flatMap_eq_nil_iff.mpr
  intro action hmem
  obtain ⟨i, -, c, -, hempty, hmem⟩ := mem_forScreens hnodup hmem
  obtain ⟨mdl, rfl, -⟩ := mem_closeSegments hempty hmem
  rfl

/-- The adapter once its objects are destroyed. -/
def destroyedObjs (os : ScreenId → Outcomes) (a : Adapter) : Adapter × List Action :=
  forScreens (fun i => destroyScreenObjs (os i)) (List.finRange maxScanOut) a

theorem destroyedObjs_held (os : ScreenId → Outcomes) (a : Adapter) (slot : Slot) :
    (destroyedObjs os a).1.holdings.held slot = none := by
  have hscreens : ∀ j, (destroyedObjs os a).1.screens j = (a.screens j).withoutObjs := fun j =>
    (forScreens_screens (fun _ x => x.withoutObjs) (fun i c => destroyScreenObjs_screen (os i) c)
      (List.nodup_finRange _) a j).trans (if_pos (List.mem_finRange j))
  cases slot with
  | frame j => exact congrArg (fun x : ScreenInfo => x.front.map VioGpuObj.hwRes) (hscreens j)
  | cursor j => exact congrArg (fun x : ScreenInfo => x.cursorBuf.map VioGpuObj.hwRes) (hscreens j)

theorem d0Exit_holdings (os : ScreenId → Outcomes) (a : Adapter) :
    (d0Exit os a).1.holdings = (destroyedObjs os a).1.holdings := by
  have hheld : (d0Exit os a).1.holdings.held = (destroyedObjs os a).1.holdings.held := by
    funext slot
    rw [destroyedObjs_held]
    cases slot with
    | frame j =>
        exact congrArg (fun x : ScreenInfo => x.front.map VioGpuObj.hwRes) (d0Exit_screens os a j)
    | cursor j =>
        exact congrArg (fun x : ScreenInfo => x.cursorBuf.map VioGpuObj.hwRes)
          (d0Exit_screens os a j)
  have hidr : (d0Exit os a).1.idr = (destroyedObjs os a).1.idr := by
    have hclose : ∀ (_ : ScreenId) c, (closeSegments c).idr = c.idr := by
      intro _ c
      unfold closeSegments
      dsimp only
      split_ifs <;> rfl
    simp only [d0Exit]
    rw [forScreens_idr hclose, destroyedObjs]
  exact congrArg₂ Holdings.mk hheld hidr

theorem hostEvents_d0Exit (os : ScreenId → Outcomes) (a : Adapter) :
    hostEvents (d0Exit os a).2 = hostEvents (destroyedObjs os a).2 ++ [.reset] := by
  simp only [d0Exit]
  rw [hostEvents_append]
  refine congrArg (_ ++ .reset :: ·) (hostEvents_closeSegments _ _ (List.nodup_finRange _))

/-- Leaving D0 clears every slot and resets the device. -/
theorem course_d0Exit {s : Shared} (os : ScreenId → Outcomes) (a : Adapter) :
    Course a s (.d0Exit os) (hostEvents (d0Exit os a).2) (d0Exit os a).1.holdings := by
  have hclears : Clears (MayClear a s (.d0Exit os)) a.holdings (hostEvents (destroyedObjs os a).2)
      (destroyedObjs os a).1.holdings :=
    clears_forScreens os _ a fun i _ _ hheld => ⟨⟨i, rfl⟩, hheld, .inr ⟨os, rfl⟩⟩
  rw [hostEvents_d0Exit, d0Exit_holdings, ← List.append_nil (_ ++ _)]
  exact .plain hclears (.resets ⟨os, rfl⟩ (destroyedObjs_held os a)) fun _ hmem => nomatch hmem

/-- A call that makes and destroys nothing. -/
theorem course_uses {s : Shared} {call : Call} {events : List HostEvent} {after : Holdings}
    (hsame : after = a.holdings) (huses : Uses a.holdings events) :
      Course a s call events after := by
  subst hsame
  exact .plain (.done _) .nothing huses

/-- An upload, where there is one, and a flush use the object they are for. -/
theorem uses_flush {h : Holdings} {slot : Slot} {id : Nat} (hheld : h.held slot = some id)
    (o : Outcomes) (i : ScreenId) (serial width height : Nat) :
    Uses h (hostEvents (submitted o (.transferToHost2D id width height) none ++
      [flushAction o i serial id width height])) := by
  intro event hmem
  simp only [hostEvents_append, hostEvents_submitted, hostEvents_flushAction] at hmem
  rcases List.mem_append.mp hmem with hmem | hmem
  · split at hmem
    next =>
      obtain rfl := List.mem_singleton.mp hmem
      exact ⟨_, id, slot, rfl, rfl, hheld⟩
    next => cases hmem
  · split at hmem
    next =>
      obtain rfl := List.mem_singleton.mp hmem
      exact ⟨_, id, slot, rfl, rfl, hheld⟩
    next => cases hmem

/-- A rebuild clears the frame slot and makes an object for it. -/
theorem course_rebuildFront {s : Shared} {call : Call} {r : Request} {info : VideoModeInfo}
    (hrequest : call.request = some r) (htakes : Takes a s call (.frame r.screen))
    (hheight : info.visScreenHeight = r.mode.height)
    (hfront : c.screen.front = (a.screens r.screen).front)
    (hcursor : c.screen.cursorBuf = (a.screens r.screen).cursorBuf) (hidr : c.idr = a.idr)
    (hquiet : hostEvents c.actions = []) :
    Course a s call
      (hostEvents (rebuildFront r.outcomes a.blobSupported r.screen info r.mode c).actions)
      (a.withCtx r.screen
        (rebuildFront r.outcomes a.blobSupported r.screen info r.mode c)).holdings := by
  have hmay : ∀ id, a.holdings.held (.frame r.screen) = some id →
      MayClear a s call r.outcomes (.frame r.screen) id :=
    fun id hheld => ⟨Call.consults_request hrequest, hheld, .inl htakes⟩
  obtain ⟨cleared, hevents, hclears⟩ := clears_destroyFrameBufferObj false hfront hcursor hidr hmay
  have hcleared : hostEvents (destroyFrontActions r.outcomes c) = cleared := by
    rw [destroyFrameBufferObj_actions, hostEvents_append] at hevents
    exact List.append_cancel_left hevents
  rw [holdings_withCtx_frame (by rw [destroyFrameBufferObj_screen, hcursor]),
    destroyFrameBufferObj_screen] at hclears
  let mid : Holdings := ⟨Function.update a.holdings.held (.frame r.screen) none,
    (destroyFrameBufferObj r.outcomes false c).idr⟩
  have hempty : mid.held (.frame r.screen) = none := Function.update_self _ _ _
  rw [holdings_withCtx_frame (by rw [rebuildFront_screen, hcursor]), rebuildFront_screen,
    rebuildFront_idr, rebuildFront_actions]
  simp only [hostEvents_append, hquiet, List.nil_append, hcleared]
  rw [List.append_assoc, ← List.append_nil (cleared ++ _)]
  refine .plain hclears ?_ fun _ hmem => nomatch hmem
  by_cases hbuild : Buildable r.outcomes info r.mode c
  · have hmakes := Makes.builds (a := a) (s := s) (h := mid) hrequest htakes hempty hbuild
    have htaken : ∀ id, mid.take (.frame r.screen) id =
        ⟨Function.update a.holdings.held (.frame r.screen) (some id), mid.idr.getId.2⟩ :=
      fun id => congrArg (Holdings.mk · _) (Function.update_idem _ _ _)
    rw [htaken, hostEvents_append] at hmakes
    simp only [if_pos hbuild]
    exact hmakes
  · have hmakes := Makes.abandons (a := a) (s := s) (h := mid) hrequest htakes hempty hheight hbuild
    simp only [if_neg hbuild, hostEvents_nil, List.append_nil]
    exact hmakes

/-- A call of `SetCurrentModeExt`. -/
theorem ModeStep.course {s : Shared} {call : Call} {r : Request} {c' : Ctx} {status : NtStatus}
    {path : PresentPath} (hrequest : call.request = some r)
    (hmode : ModeStep r.outcomes a.blobSupported r.screen (s.flushCount r.screen) r.mode
      (a.ctx r.screen) c' status path) :
    Course a s call (hostEvents c'.actions) (a.withCtx r.screen c').holdings := by
  have hnone : ∀ {h : Holdings}, Uses h [] := fun _ hmem => nomatch hmem
  cases hmode with
  | noMode => exact course_uses (holdings_withCtx_self rfl rfl rfl) hnone
  | dropped => exact course_uses (holdings_withCtx_self rfl rfl rfl) hnone
  | rebuild info hfound hpass hchanged =>
      have hscreen := hpass.screen
      refine course_rebuildFront hrequest ⟨r, hrequest, rfl, info, _, _, hfound,
        hpass.backPressure_eq, hchanged⟩ (size_of_searchModes hfound).2 ?_ ?_ hpass.idr ?_
      · rw [hscreen]
        rfl
      · rw [hscreen]
        rfl
      · rw [hpass.actions, hostEvents_append, hostEvents_resetActions]
        rfl
  | reuse info obj hfound hpass hfront hsame =>
      have hscreen := hpass.screen
      have hheld : a.holdings.held (.frame r.screen) = some obj.hwRes := by
        have hobj : (a.screens r.screen).front = some obj := by
          rw [hscreen] at hfront
          exact hfront
        exact congrArg (Option.map VioGpuObj.hwRes) hobj
      rw [flushFrameBufferObj_eq _ _ _ _ _ hfront]
      refine course_uses (holdings_withCtx_self ?_ ?_ hpass.idr) ?_
      · rw [hscreen]
        rfl
      · rw [hscreen]
        rfl
      · rw [hpass.actions, hostEvents_append, hostEvents_append, hostEvents_append,
          hostEvents_resetActions, Adapter.ctx_actions, List.append_assoc, hostEvents_nil,
          List.nil_append, List.nil_append]
        have huses := uses_flush hheld r.outcomes r.screen obj.origin.serial info.visScreenWidth
          info.visScreenHeight
        cases a.blobSupported with
        | true => exact fun event hmem => huses event (hostEvents_append .. ▸
            List.mem_append_right _ hmem)
        | false => exact hostEvents_append .. ▸ huses

/-- A release points the scanout at nothing and clears the frame slot. -/
theorem course_releaseFrameBuffer {s : Shared} (o : Outcomes) (i : ScreenId) :
    Course a s (.releaseFb i.val o) (hostEvents (releaseFrameBuffer o i (a.ctx i)).actions)
      (a.withCtx i (releaseFrameBuffer o i (a.ctx i))).holdings := by
  have hmay : ∀ id, a.holdings.held (.frame i) = some id → MayRelease a o i o (.frame i) id :=
    fun id hheld => ⟨rfl, rfl, hheld⟩
  obtain ⟨cleared, hevents, hclears⟩ := clears_destroyFrameBufferObj
    (c := a.ctx i) false rfl rfl rfl
    hmay
  have hcleared : hostEvents (destroyFrontActions o (a.ctx i)) = cleared := by
    rw [destroyFrameBufferObj_actions, hostEvents_append] at hevents
    exact List.append_cancel_left hevents
  have hholdings : (a.withCtx i (releaseFrameBuffer o i (a.ctx i))).holdings =
      (a.withCtx i (destroyFrameBufferObj o false (a.ctx i))).holdings := by
    rw [holdings_withCtx_frame (by simp [releaseFrameBuffer, Ctx.clearFlush]),
      holdings_withCtx_frame (by rw [destroyFrameBufferObj_screen]; rfl), releaseFrameBuffer_idr,
      (releaseFrameBuffer_released o i (a.ctx i)).front, destroyFrameBufferObj_screen]
  have hquiet : hostEvents [Action.clearFlush i] = [] := rfl
  rw [hholdings, releaseFrameBuffer_actions]
  simp only [hostEvents_append, hcleared, hostEvents_pages, hquiet, List.append_nil]
  exact .release rfl hclears

/-- A new pointer clears its slot and makes an object for it. -/
theorem course_setPointerShape {s : Shared} (o : Outcomes) (i : ScreenId) (shape : PointerShape)
    (format : D3DDDIFormat) :
    Course a s (.cursorData i shape format o)
      (hostEvents (setPointerShape o a.blobSupported i shape format (a.ctx i)).1.actions)
      (a.withCtx i (setPointerShape o a.blobSupported i shape format (a.ctx i)).1).holdings := by
  have hstep := setPointerShape_spec o a.blobSupported i shape format (a.ctx i)
  generalize (setPointerShape o a.blobSupported i shape format (a.ctx i)).1 = c' at hstep
  have hmay : ∀ id, a.holdings.held (.cursor i) = some id →
      MayClear a s (.cursorData i shape format o) o (.cursor i) id :=
    fun id hheld => ⟨rfl, hheld, .inl ⟨shape, format, o, rfl⟩⟩
  obtain ⟨cleared, hevents, hclears⟩ := clears_destroyCursor (c := a.ctx i) rfl rfl rfl hmay
  have hcleared : hostEvents (destroyCursorActions o (a.ctx i)) = cleared := by
    rw [destroyCursor_actions, hostEvents_append] at hevents
    exact List.append_cancel_left hevents
  rw [holdings_withCtx_cursor (by rw [destroyCursor_screen]; rfl), destroyCursor_screen] at hclears
  let mid : Holdings := ⟨Function.update a.holdings.held (.cursor i) none,
    (destroyCursor o (a.ctx i)).idr⟩
  have hempty : mid.held (.cursor i) = none := Function.update_self _ _ _
  obtain ⟨shown, hshown, hactions⟩ := hstep.actions
  rw [holdings_withCtx_cursor hstep.frame.front, hstep.idr, hstep.cursorBuf, hactions]
  simp only [hostEvents_append, hcleared, hostEvents_cursor hshown, Adapter.ctx_actions,
    List.nil_append]
  refine .plain hclears ?_ fun _ hmem => nomatch hmem
  by_cases hbuild : CursorBuildable o (a.ctx i)
  · have hcall : Call.cursorData i shape format o = .cursorData i shape format o := rfl
    have hmakes := Makes.points (a := a) (s := s) (h := mid) hcall hempty hbuild
    have htaken : ∀ id, mid.take (.cursor i) id =
        ⟨Function.update a.holdings.held (.cursor i) (some id), mid.idr.getId.2⟩ :=
      fun id => congrArg (Holdings.mk · _) (Function.update_idem _ _ _)
    rw [htaken] at hmakes
    rw [if_pos hbuild]
    exact hmakes
  · rw [if_neg hbuild]
    exact Makes.loses (a := a) (s := s) (h := mid) rfl hempty hbuild

theorem course_blackOutScreen {s : Shared} {call : Call} (o : Outcomes) (mode : CurrentMode) :
    Course a s call (hostEvents (blackOutScreen o i mode (a.ctx i)).actions)
      (a.withCtx i (blackOutScreen o i mode (a.ctx i))).holdings := by
  refine course_uses (holdings_withCtx_self (by rw [blackOutScreen_screen]; rfl)
    (by rw [blackOutScreen_screen]; rfl) (blackOutScreen_idr o i mode _)) ?_
  rw [blackOutScreen_actions, hostEvents_append, Adapter.ctx_actions, hostEvents_nil,
    List.nil_append, blackOutActions]
  split
  next => exact fun _ hmem => nomatch hmem
  next obj hobj =>
    split
    next =>
      have hheld : a.holdings.held (.frame i) = some obj.hwRes :=
        congrArg (Option.map VioGpuObj.hwRes) hobj
      exact uses_flush hheld o i obj.origin.serial mode.width mode.height
    next => exact fun _ hmem => nomatch hmem

/-- Every call takes a course. -/
theorem CallStep.course {a' : Adapter} {s : Shared} {call : Call} {actions : List Action}
    {record : Record} (hcall : CallStep a s call a' actions record) :
    Course a s call (hostEvents actions) a'.holdings := by
  have hnone : Uses a.holdings [] := fun _ hmem => nomatch hmem
  cases hcall with
  | rejected => exact course_uses rfl hnone
  | mode r hrequest hmode => exact hmode.course hrequest
  | getFbVAddr => exact course_uses rfl hnone
  | blackOut k o mode => exact course_blackOutScreen o mode
  | release i o hcall =>
      subst hcall
      exact course_releaseFrameBuffer o i
  | cursorData i shape format o hcall =>
      subst hcall
      exact course_setPointerShape o i shape format
  | cursorPos i x y o =>
      obtain ⟨hscreen, -, shown, hshown, hactions⟩ := setPointerPosition_spec o i (a.ctx i) x y
      have hsame : (a.withCtx i (setPointerPosition o i x y (a.ctx i)).1).holdings = a.holdings :=
        holdings_withCtx_self (by rw [hscreen]; rfl) (by rw [hscreen]; rfl)
          (setPointerPosition_idr o i _ x y)
      rw [hactions, hostEvents_append, hostEvents_cursor hshown]
      exact course_uses hsame hnone
  | hotPlug st => exact course_uses rfl hnone
  | d0Exit os hcall =>
      subst hcall
      exact course_d0Exit os a
  | d0Entry => exact course_uses rfl hnone

end

end VirtDisplay
