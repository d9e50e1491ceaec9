/-
# The stream of resource commands

The host knows resources by their ids, the driver knows objects, and nothing but the
stream of commands ties the two together. While no allocation, page lock or queue
insertion fails, the stream is well formed, and whenever the driver is between calls the
live resources are just those of its objects.

The creation functions check more than what the environment answers: that the segment is
large enough for the frame. With a frame address this is so after every successful lock,
and for the pointer because its segment is initialised with the one size there is.
-/

import VirtDisplay.Adapter.Course

namespace VirtDisplay

open Transition Streams

/-- The resource a command names; zero is none. -/
def GpuCmd.names : GpuCmd → Nat
  | .resourceCreate2D id .. | .resourceCreateBlob id .. | .resourceAttachBacking id _
  | .resourceDetachBacking id | .resourceUnref id | .setScanout _ id .. | .setScanoutBlob _ id ..
  | .transferToHost2D id .. | .resourceFlush _ id .. => id

/-- A resource that is created is not live, and one that is named otherwise is. -/
def WellFormed (view : HostView) : HostEvent → Prop
  | .command (.resourceCreate2D id ..) | .command (.resourceCreateBlob id ..) => id ∉ view.live
  | .command cmd => cmd.names ≠ 0 → cmd.names ∈ view.live
  | .reset => True

/-- The resources that are live once the call under way has queued the rest of its
commands. -/
def Machine.live (m : Machine) : List Nat :=
  ((hostEvents m.agenda).foldl HostView.read m.shared.view).live

/-- The control queue is well formed, and the live resources are the objects', each of
which has one of its own. -/
structure StreamSound (m : Machine) : Prop where
  wellFormed : Throughout HostView.read WellFormed .start m.shared.hostEvents
  live : ∀ id, id ∈ m.live ↔ ∃ slot obj, m.priv.object slot = some obj ∧ obj.hwRes = id
  apart : ∀ slot slot' obj obj', m.priv.object slot = some obj → m.priv.object slot' = some obj' →
    obj.hwRes = obj'.hwRes → slot = slot'

/-- No allocation, page lock or queue insertion fails. -/
structure Outcomes.Fine (o : Outcomes) : Prop where
  accepts : ∀ cmd, o.accepts cmd = true
  newObj : o.newObj = true
  newEnts : o.newEnts = true
  sysAddr : o.sysAddr ≠ 0
  lockable : Segment.Lockable o

/-- The address of the frame a call carries, if it carries one. -/
def Call.frameAddr : Call → Option Nat
  | .setMode frame .. | .present frame .. => some frame.addr
  | .getFbVAddr _ | .blackOut .. | .releaseFb .. | .cursorData .. | .cursorPos .. | .hotPlug _
  | .d0Exit _ | .d0Entry .. => none

/-- A frame has an address, and nothing fails. -/
structure Call.Fine (call : Call) : Prop where
  outcomes : ∀ o, call.Consults o → o.Fine
  frameAddr : ∀ addr, call.frameAddr = some addr → addr ≠ 0

/-- Nothing fails. -/
def CallsFine (_ : Machine) : Move → Prop
  | .call call => call.Fine
  | .act | .outside _ => True

section

variable {o : Outcomes}

theorem hostEvents_submitted_fine (hfine : o.Fine) (cmd : GpuCmd) (backing : Option Nat) :
    hostEvents (submitted o cmd backing) = [.command cmd] := by
  rw [hostEvents_submitted, if_pos (hfine.accepts cmd)]

theorem hostEvents_flushAction_fine (hfine : o.Fine) (i : ScreenId)
    (serial resid width height : Nat) :
    hostEvents [flushAction o i serial resid width height] =
      [.command (.resourceFlush i.val resid width height)] := by
  rw [hostEvents_flushAction, if_pos (hfine.accepts _)]

theorem Segment.init_fine (hfine : o.Fine) (mdl size : Nat) (segment : Segment) :
    (Segment.init o mdl size segment).segment.size = pagedSize size := by
  obtain ⟨hmdl, hlock, hsgl⟩ := hfine.lockable
  simp [Segment.init, hfine.sysAddr, hmdl, hlock, hsgl]

/-- A request's address is that of its frame. -/
theorem Call.Fine.ptr_ne_zero {call : Call} {r : Request} (hfine : call.Fine)
    (hrequest : call.request = some r) : r.mode.ptr ≠ 0 := by
  rw [Request.mode_ptr]
  cases call with
  | setMode frame probed o =>
      rw [(Call.request_setMode hrequest).1]
      exact hfine.frameAddr _ rfl
  | present frame probed o =>
      rw [(Call.request_present hrequest).1]
      exact hfine.frameAddr _ rfl
  | getFbVAddr | blackOut | releaseFb | cursorData | cursorPos | hotPlug | d0Exit | d0Entry =>
      cases hrequest

/-- A page more than nothing. -/
theorem pagedSize_pos {size : Nat} (hpos : 0 < size) (hle : size ≤ maxFrameSize) :
    0 < pagedSize size := by
  rw [pagedSize_eq_roundToPages hle]
  exact hpos.trans_le (Pages.le_roundUp (by decide))

/-- A front can be built for every accepted frame that has an address. -/
theorem buildable_fine {r : Request} {info : VideoModeInfo} (hfine : r.outcomes.Fine)
    (haddr : r.mode.ptr ≠ 0) (hheight : info.visScreenHeight = r.mode.height) (c : Ctx) :
    Buildable r.outcomes info r.mode c := by
  have hsize : frameSize info r.mode = r.frame.frame.pitch * r.frame.frame.height := by
    rw [frameSize, hheight, Request.mode_pitch, Request.mode_height, r.frame.pitch_mul_height_mod]
  have hpaged : 0 < pagedSize (frameSize info r.mode) := by
    rw [hsize]
    exact pagedSize_pos r.frame.size_pos r.frame.pitch_mul_height_le
  have hok : (updatedSegment r.outcomes info r.mode c).ok = true := by
    unfold updatedSegment updateFrameSegment
    rw [if_pos haddr]
    split
    next => exact (Segment.initExt_ok_iff _ _ _ hpaged haddr).mpr hfine.lockable
    next => exact (Segment.initExt_ok_iff _ _ _ hpaged haddr).mpr hfine.lockable
  refine ⟨hok, hfine.newObj, ?_⟩
  rw [show (updatedSegment r.outcomes info r.mode c).segment.size =
      pagedSize (frameSize info r.mode) from
    congrArg Segment.size (updateFrameSegment_of_addr haddr hok).1]

end

/-- Every object has an id of its own, every id that is taken is some object's, and the
objects' resources are the live ones. -/
structure Mirrors (h : Holdings) (live : List Nat) : Prop where
  owned : h.Owned
  reserved : 0 ∈ h.idr.used
  attached : ∀ {slot id}, h.held slot = some id → id ≠ 0
  tracked : ∀ {id}, id ∈ h.idr.used → id = 0 ∨ ∃ slot, h.held slot = some id
  live : ∀ {id}, id ∈ live ↔ ∃ slot, h.held slot = some id

namespace Mirrors

variable {h : Holdings} {live : List Nat} {slot : Slot} {id : Nat}

/-- There are more ids than slots. -/
theorem hasRoom (hmirrors : Mirrors h live) : h.idr.HasRoom := by
  by_contra hnone
  let ids : List Nat := 0 :: (List.finRange maxScanOut).flatMap fun i =>
    [(h.held (.frame i)).getD 0, (h.held (.cursor i)).getD 0]
  have hsub : List.range 10 ⊆ ids := by
    intro id hid
    have hused : id ∈ h.idr.used := by
      by_contra hfree
      exact hnone ⟨id, (List.mem_range.mp hid).trans (by norm_num), hfree⟩
    rcases hmirrors.tracked hused with rfl | ⟨slot, hheld⟩
    · exact List.mem_cons_self
    · refine List.mem_cons_of_mem _ (List.mem_flatMap.mpr ?_)
      cases slot with
      | frame i => exact ⟨i, List.mem_finRange i, by simp [hheld]⟩
      | cursor i => exact ⟨i, List.mem_finRange i, by simp [hheld]⟩
  have hlength : (List.range 10).length ≤ ids.length :=
    (List.nodup_range.subperm hsub).length_le
  exact absurd hlength (by simp [ids, List.length_flatMap, maxScanOut])

theorem drop (hmirrors : Mirrors h live) (hheld : h.held slot = some id) :
    Mirrors (h.drop slot id) (live.filter (· ≠ id)) := by
  have hne := hmirrors.attached hheld
  -- what another slot holds is another id
  have hother : ∀ {slot' id'}, h.held slot' = some id' →
      (id' ≠ id ↔ (h.drop slot id).held slot' = some id') := by
    intro slot' id' hheld'
    by_cases hslot : slot' = slot
    · subst hslot
      obtain rfl := Option.some.inj (hheld.symm.trans hheld')
      simp
    · rw [Holdings.drop_held_of_ne hslot]
      refine ⟨fun _ => hheld', fun _ heq => hslot (hmirrors.owned.apart hheld' (heq ▸ hheld) ?_)⟩
      exact hmirrors.attached hheld'
  refine ⟨hmirrors.owned.drop hheld, Idr.mem_used_putId.mpr ⟨hmirrors.reserved, hne.symm⟩,
    fun hafter => hmirrors.attached (Holdings.held_drop hafter).2, fun hmem => ?_, ?_⟩
  · obtain ⟨hused, hne'⟩ := Idr.mem_used_putId.mp hmem
    apply (hmirrors.tracked hused).imp_right
    rintro ⟨slot', hheld'⟩
    exact ⟨slot', (hother hheld').mp hne'⟩
  · intro id'
    rw [List.mem_filter, decide_eq_true_eq, hmirrors.live]
    constructor
    · rintro ⟨⟨slot', hheld'⟩, hne'⟩
      exact ⟨slot', (hother hheld').mp hne'⟩
    · rintro ⟨slot', hafter⟩
      have hheld' := (Holdings.held_drop hafter).2
      exact ⟨⟨slot', hheld'⟩, (hother hheld').mpr hafter⟩

/-- The next id is not live. -/
theorem nextId_not_mem (hmirrors : Mirrors h live) : h.nextId ∉ live ∧ h.nextId ≠ 0 := by
  have hclear := hmirrors.hasRoom.getId.1
  constructor
  · intro hmem
    obtain ⟨slot, hheld⟩ := hmirrors.live.mp hmem
    exact hclear (hmirrors.owned.used hheld (hmirrors.attached hheld))
  · intro hzero
    rw [show h.idr.getId.1 = 0 from hzero] at hclear
    exact hclear hmirrors.reserved

theorem take (hmirrors : Mirrors h live) (hempty : h.held slot = none) :
    Mirrors (h.take slot h.nextId) (h.nextId :: live) := by
  have hroom := hmirrors.hasRoom
  have hused : (h.take slot h.nextId).idr.used = h.nextId :: h.idr.used :=
    congrArg Idr.used hroom.getId.2.2
  have hkept : ∀ {slot' id'}, h.held slot' = some id' →
      (h.take slot h.nextId).held slot' = some id' := by
    intro slot' id' hheld
    rw [Holdings.take_held_of_ne, hheld]
    rintro rfl
    cases hempty.symm.trans hheld
  have hnow : ∀ {id'}, id' = h.nextId ∨ (∃ slot', h.held slot' = some id') ↔
      ∃ slot', (h.take slot h.nextId).held slot' = some id' := by
    intro id'
    constructor
    · rintro (rfl | ⟨slot', hheld⟩)
      · exact ⟨slot, Holdings.take_held_self⟩
      · exact ⟨slot', hkept hheld⟩
    · rintro ⟨slot', hheld⟩
      exact (Holdings.held_take hheld).imp And.right fun hold => ⟨slot', hold.2⟩
  refine ⟨hmirrors.owned.take hroom (.inl rfl), ?_, fun hheld => ?_, fun hmem => ?_, ?_⟩
  · rw [hused]
    exact List.mem_cons_of_mem _ hmirrors.reserved
  · rcases Holdings.held_take hheld with ⟨-, rfl⟩ | ⟨-, hheld⟩
    · exact hmirrors.nextId_not_mem.2
    · exact hmirrors.attached hheld
  · rw [hused, List.mem_cons] at hmem
    rcases hmem with rfl | hmem
    · exact .inr (hnow.mp (.inl rfl))
    · exact (hmirrors.tracked hmem).imp_right fun hheld => hnow.mp (.inr hheld)
  · intro id'
    rw [List.mem_cons, hmirrors.live]
    exact hnow

end Mirrors

section

variable {a : Adapter} {s : Shared} {call : Call} {h after : Holdings} {events : List HostEvent}
  {view : HostView} {slot : Slot} {id : Nat}

/-- The command names a resource, and neither creates nor destroys it. -/
def GpuCmd.Handles (id : Nat) (cmd : GpuCmd) : Prop :=
  cmd.names = id ∧ ∀ view : HostView, (view.exec cmd).live = view.live

theorem GpuCmd.Handles.wellFormed {cmd : GpuCmd} (hhandles : cmd.Handles id)
    (hlive : id ≠ 0 → id ∈ view.live) : WellFormed view (.command cmd) := by
  obtain ⟨rfl, hsame⟩ := hhandles
  cases cmd with
  | resourceCreate2D | resourceCreateBlob => exact absurd (hsame ⟨[], []⟩) (by simp [HostView.exec])
  | _ => exact hlive

/-- Commands that handle a live resource. -/
theorem sends_handles {live : List Nat} (hview : view.live = live)
    (hhandles : ∀ event ∈ events, ∃ cmd id, event = .command cmd ∧ cmd.Handles id ∧
      (id ≠ 0 → id ∈ live)) :
    ∃ view', Sends HostView.read WellFormed view events view' ∧ view'.live = live := by
  apply Sends.of_forall (I := fun view' : HostView => view'.live = live) hview
  rintro event hmem view' rfl
  obtain ⟨cmd, id, rfl, hcmd, hlive⟩ := hhandles event hmem
  exact ⟨hcmd.wellFormed hlive, hcmd.2 view'⟩

/-- Destroying a live resource. -/
theorem sends_destroyActions_fine {o : Outcomes} (hfine : o.Fine) (bReset : Bool)
    (hlive : id ∈ view.live) :
    ∃ view', Sends HostView.read WellFormed view (hostEvents (destroyActions o bReset id)) view' ∧
      view'.live = view.live.filter (· ≠ id) := by
  let detached := view.exec (.resourceDetachBacking id)
  have hpair : Sends HostView.read WellFormed view
      [.command (.resourceDetachBacking id), .command (.resourceUnref id)]
      (detached.exec (.resourceUnref id)) := .cons (fun _ => hlive) (.cons (fun _ => hlive) .nil)
  have hreset : ∃ view', Sends HostView.read WellFormed (detached.exec (.resourceUnref id))
      (hostEvents (if bReset then submitted o (.setScanout 0 0 0 0) none else [])) view' ∧
        view'.live = view.live.filter (· ≠ id) := by
    apply sends_handles rfl
    intro event hmem
    cases bReset with
    | true =>
        rw [if_pos rfl, hostEvents_submitted_fine hfine] at hmem
        obtain rfl := List.mem_singleton.mp hmem
        exact ⟨_, 0, rfl, ⟨rfl, fun _ => rfl⟩, fun hne => absurd rfl hne⟩
    | false => cases hmem
  obtain ⟨view', hreset, hview'⟩ := hreset
  refine ⟨view', ?_, hview'⟩
  rw [destroyActions, hostEvents_append, hostEvents_append, hostEvents_submitted_fine hfine,
    hostEvents_submitted_fine hfine]
  exact hpair.append hreset

theorem Clears.sends_fine {may : Outcomes → Slot → Nat → Prop} (hclears : Clears may h events after)
    (hfine : ∀ o slot id, may o slot id → o.Fine) (hmirrors : Mirrors h view.live) :
    ∃ view', Sends HostView.read WellFormed view events view' ∧ Mirrors after view'.live := by
  induction hclears generalizing view with
  | done => exact ⟨view, .nil, hmirrors⟩
  | @drops h after slot id o bReset events hheld hmay hrest ih =>
      obtain ⟨mid, hfirst, hlive⟩ := sends_destroyActions_fine (hfine _ _ _ hmay) bReset
        (hmirrors.live.mpr ⟨slot, hheld⟩)
      obtain ⟨last, hsecond, hlast⟩ := ih (hlive ▸ hmirrors.drop hheld)
      exact ⟨last, hfirst.append hsecond, hlast⟩

/-- A new resource is created, and then handled. -/
theorem sends_created {create : GpuCmd} (hmirrors : Mirrors h view.live)
    (hempty : h.held slot = none)
    (hcreate : (∃ format width height, create = .resourceCreate2D h.nextId format width height) ∨
      ∃ entries size, create = .resourceCreateBlob h.nextId entries size)
    (hhandles : ∀ event ∈ events, ∃ cmd, event = .command cmd ∧ cmd.Handles h.nextId) :
    ∃ view', Sends HostView.read WellFormed view (.command create :: events) view' ∧
      Mirrors (h.take slot h.nextId) view'.live := by
  have hcreated : WellFormed view (.command create) ∧
      (view.exec create).live = h.nextId :: view.live := by
    rcases hcreate with ⟨format, width, height, rfl⟩ | ⟨entries, size, rfl⟩
    · exact ⟨hmirrors.nextId_not_mem.1, rfl⟩
    · exact ⟨hmirrors.nextId_not_mem.1, rfl⟩
  obtain ⟨view', hsends, hlive⟩ := sends_handles hcreated.2 fun event hmem => by
    obtain ⟨cmd, rfl, hcmd⟩ := hhandles event hmem
    exact ⟨cmd, h.nextId, rfl, hcmd, fun _ => List.mem_cons_self⟩
  exact ⟨view', .cons hcreated.1 hsends, hlive ▸ hmirrors.take hempty⟩

theorem Makes.sends_fine (hmakes : Makes a s call h events after) (hfine : call.Fine)
    (hpointer : ∀ i o, o.Fine → CursorBuildable o (a.ctx i)) (hmirrors : Mirrors h view.live) :
    ∃ view', Sends HostView.read WellFormed view events view' ∧ Mirrors after view'.live := by
  have hdone : ∀ {cmd : GpuCmd} {id : Nat}, cmd.names = id →
      (∀ view : HostView, (view.exec cmd).live = view.live) →
        ∃ cmd', HostEvent.command cmd = .command cmd' ∧ cmd'.Handles id :=
    fun hnames hsame => ⟨_, rfl, hnames, hsame⟩
  cases hmakes with
  | nothing => exact ⟨view, .nil, hmirrors⟩
  | @builds r info c hrequest htakes hempty hbuild =>
      have ho : r.outcomes.Fine := hfine.outcomes _ (Call.consults_request hrequest)
      rw [if_pos ho.newEnts]
      cases hblob : a.blobSupported with
      | true =>
          simp only [prepareActions, installActions, scanoutActions, attachCmd, hostEvents_append,
            hostEvents_pages, hostEvents_submitted_fine ho, hostEvents_flushAction_fine ho,
            ho.newEnts, if_true, List.nil_append, List.singleton_append, List.append_assoc]
          apply sends_created hmirrors hempty (.inr ⟨_, _, rfl⟩)
          intro event hmem
          simp only [List.mem_cons, List.not_mem_nil, or_false] at hmem
          rcases hmem with rfl | rfl <;> exact hdone rfl fun _ => rfl
      | false =>
          simp only [prepareActions, installActions, scanoutActions, attachCmd, hostEvents_append,
            hostEvents_pages, hostEvents_submitted_fine ho, hostEvents_flushAction_fine ho,
            ho.newEnts, if_true, Bool.false_eq_true, if_false, List.nil_append,
            List.singleton_append, List.append_assoc]
          apply sends_created hmirrors hempty (.inl ⟨_, _, _, rfl⟩)
          intro event hmem
          simp only [List.mem_cons, List.not_mem_nil, or_false] at hmem
          rcases hmem with rfl | rfl | rfl | rfl <;> exact hdone rfl fun _ => rfl
  | @abandons r info c hrequest htakes hempty hheight hfails =>
      have ho : r.outcomes.Fine := hfine.outcomes _ (Call.consults_request hrequest)
      exact absurd (buildable_fine ho (hfine.ptr_ne_zero hrequest) hheight c) hfails
  | @points i shape format o hcall hempty hbuild =>
      have ho : o.Fine := hfine.outcomes o (hcall ▸ rfl)
      cases hblob : a.blobSupported with
      | true =>
          simp only [createCursorActions, cursorAttachCmd, hostEvents_append, hostEvents_pages,
            hostEvents_submitted_fine ho, hbuild, if_true, List.nil_append, List.append_nil]
          exact sends_created hmirrors hempty (.inr ⟨_, _, rfl⟩) fun event hmem =>
            absurd hmem List.not_mem_nil
      | false =>
          simp only [createCursorActions, cursorAttachCmd, hostEvents_append, hostEvents_pages,
            hostEvents_submitted_fine ho, hbuild, if_true, Bool.false_eq_true, if_false,
            List.append_nil, List.singleton_append]
          apply sends_created hmirrors hempty (.inl ⟨_, _, _, rfl⟩)
          intro event hmem
          simp only [List.mem_cons, List.not_mem_nil, or_false] at hmem
          rcases hmem with rfl | rfl <;> exact hdone rfl fun _ => rfl
  | @loses i shape format o hcall hempty hfails =>
      exact absurd (hpointer i o (hfine.outcomes o (hcall ▸ rfl))) hfails
  | resets hpower hempty =>
      refine ⟨.start, .cons trivial .nil, hmirrors.owned, hmirrors.reserved, hmirrors.attached,
        hmirrors.tracked, ?_⟩
      intro id
      simp [HostView.start, hempty]

theorem Uses.sends_fine (huses : Uses h events) (hmirrors : Mirrors h view.live) :
    ∃ view', Sends HostView.read WellFormed view events view' ∧ view'.live = view.live := by
  apply sends_handles rfl
  intro event hmem
  obtain ⟨cmd, id, slot, rfl, hreads, hheld⟩ := huses event hmem
  refine ⟨cmd, id, rfl, ?_, fun _ => hmirrors.live.mpr ⟨slot, hheld⟩⟩
  cases cmd with
  | transferToHost2D | resourceFlush => exact ⟨hreads, fun _ => rfl⟩
  | _ => exact hreads.elim

/-- A call that nothing fails keeps the stream well formed and the live resources those
of the objects. -/
theorem Course.sends_fine (hcourse : Course a s call events after) (hfine : call.Fine)
    (hpointer : ∀ i o, o.Fine → CursorBuildable o (a.ctx i))
    (hmirrors : Mirrors a.holdings view.live) :
    ∃ view', Sends HostView.read WellFormed view events view' ∧ Mirrors after view'.live := by
  cases hcourse with
  | plain hclears hmakes huses =>
      obtain ⟨view₁, hcleared, hmirrors₁⟩ :=
        hclears.sends_fine (fun o _ _ hmay => hfine.outcomes o hmay.1) hmirrors
      obtain ⟨view₂, hmade, hmirrors₂⟩ := hmakes.sends_fine hfine hpointer hmirrors₁
      obtain ⟨view₃, hused, hlive⟩ := huses.sends_fine hmirrors₂
      exact ⟨view₃, (hcleared.append hmade).append hused, hlive ▸ hmirrors₂⟩
  | @release i o cleared _ hcall hclears =>
      have ho : o.Fine := hfine.outcomes o (hcall ▸ rfl)
      rw [hostEvents_submitted_fine ho]
      have hpointed : Mirrors a.holdings (view.exec (.setScanout i.val 0 0 0)).live := hmirrors
      obtain ⟨view', hsends, hafter⟩ :=
        hclears.sends_fine (fun o' _ _ hmay => hmay.1 ▸ ho) hpointed
      exact ⟨view', .cons (fun hne => absurd rfl hne) hsends, hafter⟩

end

/-- The pointer's segment has no memory yet, or room for a pointer. -/
def ScreenInfo.PointerReady (x : ScreenInfo) : Prop :=
  x.cursorSegment.vAddr ≠ 0 → pagedSize cursorSize ≤ x.cursorSegment.size

/-- The segment is there when a pointer is created. -/
theorem cursorUpdated_size {o : Outcomes} {c : Ctx} (hfine : o.Fine)
    (hready : c.screen.PointerReady) :
    pagedSize cursorSize ≤ (cursorUpdated o c).segment.size := by
  unfold cursorUpdated
  split
  next => exact (Segment.init_fine hfine _ _ _).ge
  next hmapped => exact hready hmapped

/-- Initialising a segment is how its size is set. -/
theorem Segment.init_size_of_ok {o : Outcomes} {mdl size : Nat} {segment : Segment}
    (hok : (Segment.init o mdl size segment).ok = true) :
    (Segment.init o mdl size segment).segment.size = pagedSize size := by
  unfold Segment.init at hok ⊢
  dsimp only at hok ⊢
  -- every exit but the last returns `FALSE`
  split_ifs at hok ⊢
  rfl

theorem hwInit_pointerReady {cfg : BootConfig} {a : Adapter} (hinit : hwInit cfg = some a)
    (i : ScreenId) : (a.screens i).PointerReady := by
  unfold hwInit at hinit
  split at hinit
  next st heq =>
    split at hinit
    next hok =>
      obtain rfl := Option.some.inj hinit
      exact fun _ => (Segment.init_size_of_ok (hok.2 i)).ge
    next => cases hinit
  next => cases hinit

theorem CallStep.pointerReady {a a' : Adapter} {s : Shared} {call : Call} {actions : List Action}
    {record : Record} (hcall : CallStep a s call a' actions record) (hfine : call.Fine)
    (hready : ∀ i, (a.screens i).PointerReady) (i : ScreenId) : (a'.screens i).PointerReady := by
  -- a call that replaces one screen only has to speak of that screen
  have hscreen : ∀ {j : ScreenId} {c : Ctx}, c.screen.PointerReady →
      ((a.withCtx j c).screens i).PointerReady := by
    intro j c hc
    by_cases hi : i = j
    · subst hi
      rwa [Adapter.withCtx_screens_self]
    · rw [Adapter.withCtx_screens_of_ne hi]
      exact hready i
  have hsame : ∀ {j : ScreenId} {c : Ctx}, c.screen.cursorSegment = (a.screens j).cursorSegment →
      ((a.withCtx j c).screens i).PointerReady := by
    intro j c hsegment
    apply hscreen
    rw [ScreenInfo.PointerReady, hsegment]
    exact hready j
  cases hcall with
  | rejected => exact hready i
  | mode r hrequest hmode => exact hsame hmode.pointer.1
  | getFbVAddr => exact hready i
  | blackOut k o mode =>
      apply hsame
      rw [blackOutScreen_screen]
      rfl
  | release j o => exact hsame (by simp [releaseFrameBuffer, Ctx.clearFlush])
  | cursorData j shape format o hcall =>
      have hstep := setPointerShape_spec o a.blobSupported j shape format (a.ctx j)
      apply hscreen
      intro _
      rw [hstep.cursorSegment]
      exact cursorUpdated_size (hfine.outcomes o (hcall ▸ rfl)) (hready j)
  | cursorPos j x y o =>
      apply hsame
      rw [(setPointerPosition_spec o j (a.ctx j) x y).1]
      rfl
  | hotPlug st => exact hready i
  | d0Exit os =>
      rw [d0Exit_screens]
      show (a.screens i).cursorSegment.hwClosed.vAddr ≠ 0 → _
      unfold Segment.hwClosed
      split
      next => exact fun hmapped => absurd rfl hmapped
      next hnull => exact fun hmapped => absurd hmapped hnull
  | d0Entry => exact hready i

/-- In every run in which nothing fails the control queue is well formed, and the live
resources are those of the objects. -/
theorem stream_sound {m : Machine} (hreach : Machine.ReachableUnder CallsFine m) :
    StreamSound m := by
  have hsent : Throughout HostView.read WellFormed .start m.shared.hostEvents ∧
      ∃ after, Sends HostView.read WellFormed m.shared.view (hostEvents m.agenda) after ∧
        Mirrors m.priv.holdings after.live ∧ ∀ i, (m.priv.screens i).PointerReady := by
    refine hreach.sends
      (I := fun a view => Mirrors a.holdings view.live ∧ ∀ i, (a.screens i).PointerReady) ?_ ?_
    · intro cfg a hinit
      refine ⟨?_, hwInit_pointerReady hinit⟩
      have howned := hwInit_owned hinit
      rw [hwInit_holdings hinit] at howned ⊢
      refine ⟨howned, List.mem_singleton.mpr rfl, nofun, fun hmem => ?_, ?_⟩
      · exact .inl (List.mem_singleton.mp hmem)
      · simp [HostView.start]
    · rintro m call a' actions record ⟨hmirrors, hready⟩ hfine hcall
      obtain ⟨view', hsends, hafter⟩ := hcall.course.sends_fine hfine (fun i o ho =>
        ⟨ho.newObj, cursorUpdated_size ho (hready i), ho.newEnts⟩) hmirrors
      exact ⟨view', hsends, hafter, hcall.pointerReady hfine hready⟩
  obtain ⟨hwellFormed, after, hsends, hmirrors, -⟩ := hsent
  obtain rfl := hsends.read
  refine ⟨hwellFormed, fun id => ?_, fun slot slot' obj obj' hobj hobj' heq => ?_⟩
  · rw [Machine.live, hmirrors.live]
    exact exists_congr fun slot => Option.map_eq_some_iff
  · have hheld : m.priv.holdings.held slot = some obj.hwRes := congrArg (Option.map _) hobj
    have hheld' : m.priv.holdings.held slot' = some obj'.hwRes := congrArg (Option.map _) hobj'
    exact hmirrors.owned.apart hheld (heq ▸ hheld') (hmirrors.attached hheld)

theorem Outcomes.good_fine : Outcomes.good.Fine where
  accepts := fun _ => rfl
  newObj := rfl
  newEnts := rfl
  sysAddr := by decide
  lockable := ⟨rfl, rfl, rfl⟩

/-- A frame and a pointer are shown, and the frame is released. -/
theorem stream_sound_release : ∃ m : Machine, StreamSound m ∧ m.shared.sent.length = 11 ∧
    m.live = [2] := by
  let frame : FrameMetaData := .sized 1024 768 4096 1024 0x1000
  let moves : List Move := .call (.present frame true .good) :: List.replicate 7 .act ++
    .call (.cursorData 1 ⟨32, 32, 0, 0, 0, 0⟩ .a8r8g8b8 .good) :: List.replicate 4 .act ++
    .call (.releaseFb 0 .good) :: List.replicate 5 .act
  have hresult : (bootRun (.plain false) moves).map (fun m =>
      (m.shared.sent.length, m.live)) = some (11, [2]) := by
    decide +kernel
  obtain ⟨m, hrun, hvalues⟩ := Option.map_eq_some_iff.mp hresult
  obtain ⟨hlength, hlive⟩ := Prod.mk.inj hvalues
  have hok : ∀ m, ∀ move ∈ moves, CallsFine m move := by
    intro m move hmem
    cases move with
    | call call =>
        simp only [moves, List.cons_append, List.append_assoc, List.mem_cons, List.mem_append,
          List.mem_replicate, Component.Label.call.injEq, reduceCtorEq, and_false, false_or,
          or_false] at hmem
        rcases hmem with rfl | rfl | rfl
        · exact ⟨fun o ho => ho ▸ Outcomes.good_fine, fun addr haddr => by
            obtain rfl := Option.some.inj haddr
            decide⟩
        · exact ⟨fun o ho => ho ▸ Outcomes.good_fine, nofun⟩
        · exact ⟨fun o ho => ho ▸ Outcomes.good_fine, nofun⟩
    | act => trivial
    | outside x => trivial
  exact ⟨m, stream_sound (reachableUnder_of_bootRun hok hrun), hlength, hlive⟩

end VirtDisplay
