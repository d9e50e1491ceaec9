/-
# The ids in commands and in the bitmap

An id is meant to go from the bitmap into the commands of one object, and back when the
object is destroyed. This module says when it does.

The driver does not check what the bitmap answers: once every id is taken, the answer
"none found" is used as an id. Nor does it check whether the attach step of a frame
buffer succeeded. If the step fails the object keeps the id zero, and destroying it gives
back id zero, the one that is reserved. Pointer objects are discarded in that case.
-/

import VirtDisplay.Adapter.Course

namespace VirtDisplay

open Transition

/-- The resource a create, attach or scanout command is about, if it is about one. -/
def GpuCmd.assigns : GpuCmd → Option Nat
  | .resourceCreate2D id .. | .resourceCreateBlob id .. | .resourceAttachBacking id _
  | .setScanoutBlob _ id .. => some id
  | .setScanout _ id width height => if id = 0 ∧ width = 0 ∧ height = 0 then none else some id
  | .resourceDetachBacking _ | .resourceUnref _ | .transferToHost2D .. | .resourceFlush .. => none

/-- The ids `VioGpuIdr` is there to hand out. -/
def ValidId (id : Nat) : Prop := 1 ≤ id ∧ id < Idr.bitmapSize

/-- The commands a call queues are about valid ids that no other object has. -/
def AssignsSoundly (m : Machine) (call : Call) : Prop :=
  ∀ a' actions record, exec m.priv m.shared call = some (a', actions, record) →
    ∀ cmd id, .command cmd ∈ hostEvents actions → cmd.assigns = some id →
      ValidId id ∧ ∀ slot obj, ¬ Takes m.priv m.shared call slot →
        m.priv.object slot = some obj → obj.hwRes ≠ id

/-- Up to the end of a call, `PutId` has been called with allocated ids only. -/
def FreesSoundly (m : Machine) (call : Call) : Prop :=
  ∀ a' actions record, exec m.priv m.shared call = some (a', actions, record) →
    ∀ put ∈ a'.idr.puts, ValidId put.1 ∧ put.2 = true

/-- The call destroys the front object of this screen, if there is one. -/
def DestroysFront (a : Adapter) (s : Shared) (call : Call) (i : ScreenId) : Prop :=
  Takes a s call (.frame i) ∨ call.PowersDown ∨ ∃ o, call = .releaseFb i.val o

/-- The call finds an id for what it makes, and destroys no front whose attach step
failed. -/
structure KeepsIds (a : Adapter) (s : Shared) (call : Call) : Prop where
  room : RoomToTake a s call
  attached : ∀ i obj, DestroysFront a s call i → (a.screens i).front = some obj → obj.hwRes ≠ 0

/-- Every call keeps the ids. -/
def CallsKeepIds (m : Machine) : Move → Prop
  | .call call => KeepsIds m.priv m.shared call
  | .act | .outside _ => True

namespace Holdings

/-- Objects have ids of their own, zero is reserved, only fronts can lack an id, and what
was given back had been allocated. -/
structure Sound (h : Holdings) : Prop where
  owned : h.Owned
  reserved : 0 ∈ h.idr.used
  pointers : ∀ {i id}, h.held (.cursor i) = some id → id ≠ 0
  freed : ∀ put ∈ h.idr.puts, ValidId put.1 ∧ put.2 = true

variable {h : Holdings} {slot : Slot} {id : Nat}

/-- With an id free, the next one is valid. -/
theorem Sound.validId_nextId (hsound : h.Sound) (hroom : h.idr.HasRoom) : ValidId h.nextId := by
  obtain ⟨hclear, hlt, -⟩ := hroom.getId
  refine ⟨Nat.one_le_iff_ne_zero.mpr fun hzero => hclear ?_, hlt⟩
  rw [show h.idr.getId.1 = 0 from hzero]
  exact hsound.reserved

theorem Sound.drop (hsound : h.Sound) (hheld : h.held slot = some id) (hne : id ≠ 0) :
    (h.drop slot id).Sound := by
  refine ⟨hsound.owned.drop hheld, Idr.mem_used_putId.mpr ⟨hsound.reserved, hne.symm⟩,
    fun hpointer => hsound.pointers (held_drop hpointer).2, fun put hmem => ?_⟩
  rcases List.mem_cons.mp hmem with rfl | hmem
  · exact ⟨⟨Nat.one_le_iff_ne_zero.mpr hne, hsound.owned.lt hheld⟩,
      decide_eq_true (hsound.owned.used hheld hne)⟩
  · exact hsound.freed put hmem

theorem Sound.take (hsound : h.Sound) (hroom : h.idr.HasRoom)
    (hid : id = h.nextId ∨ (∃ i, slot = .frame i) ∧ id = 0) : (h.take slot id).Sound := by
  obtain ⟨-, -, hidr⟩ := hroom.getId
  refine ⟨hsound.owned.take hroom (hid.imp_right And.right), ?_, fun hpointer => ?_, ?_⟩
  · show 0 ∈ h.idr.getId.2.used
    rw [hidr]
    exact List.mem_cons_of_mem _ hsound.reserved
  · rcases held_take hpointer with ⟨hslot, rfl⟩ | ⟨-, hbefore⟩
    · rcases hid with rfl | ⟨⟨i, rfl⟩, -⟩
      · exact Nat.one_le_iff_ne_zero.mp (hsound.validId_nextId hroom).1
      · cases hslot
    · exact hsound.pointers hbefore
  · show ∀ put ∈ h.idr.getId.2.puts, _
    rw [hidr]
    exact hsound.freed

theorem Sound.lose (hsound : h.Sound) (hroom : h.idr.HasRoom) : h.lose.Sound := by
  obtain ⟨-, -, hidr⟩ := hroom.getId
  refine ⟨hsound.owned.lose hroom, ?_, hsound.pointers, ?_⟩
  · show 0 ∈ h.idr.getId.2.used
    rw [hidr]
    exact List.mem_cons_of_mem _ hsound.reserved
  · show ∀ put ∈ h.idr.getId.2.puts, _
    rw [hidr]
    exact hsound.freed

theorem Sound.abandon (hsound : h.Sound) (hroom : h.idr.HasRoom) : h.abandon.Sound := by
  obtain ⟨hvalid, hlt⟩ := hsound.validId_nextId hroom
  have hlost := hsound.lose hroom
  refine ⟨hsound.owned.abandon hroom,
    Idr.mem_used_putId.mpr ⟨hlost.reserved, (Nat.one_le_iff_ne_zero.mp hvalid).symm⟩,
    hsound.pointers, fun put hmem => ?_⟩
  rcases List.mem_cons.mp hmem with rfl | hmem
  · refine ⟨⟨hvalid, hlt⟩, decide_eq_true ?_⟩
    rw [hroom.getId.2.2]
    exact List.mem_cons_self
  · exact hlost.freed put hmem

end Holdings

section

variable {a : Adapter} {s : Shared} {call : Call} {h after : Holdings} {events : List HostEvent}

theorem Clears.sound {may : Outcomes → Slot → Nat → Prop} (hclears : Clears may h events after)
    (hne : ∀ o slot id, may o slot id → id ≠ 0) (hsound : h.Sound) : after.Sound := by
  induction hclears with
  | done => exact hsound
  | drops hheld hmay _ ih => exact ih (hsound.drop hheld (hne _ _ _ hmay))

/-- What a call destroys has an id. -/
theorem KeepsIds.ne_zero (hkeeps : KeepsIds a s call) (hsound : a.holdings.Sound) {slot : Slot}
    {id : Nat} (hheld : a.holdings.held slot = some id)
    (hdestroys : ∀ i, slot = .frame i → DestroysFront a s call i) : id ≠ 0 := by
  cases slot with
  | frame i =>
      obtain ⟨obj, hobj, rfl⟩ := Option.map_eq_some_iff.mp hheld
      exact hkeeps.attached i obj (hdestroys i rfl) hobj
  | cursor i => exact hsound.pointers hheld

/-- Making room keeps the account. -/
theorem KeepsIds.clears_sound (hkeeps : KeepsIds a s call) (hsound : a.holdings.Sound)
    (hclears : Clears (MayClear a s call) a.holdings events h) : h.Sound := by
  refine hclears.sound (fun o slot id hmay => ?_) hsound
  obtain ⟨-, hheld, hwhy⟩ := hmay
  apply hkeeps.ne_zero hsound hheld
  intro i hi
  subst hi
  exact hwhy.imp_right .inl

theorem Course.sound (hcourse : Course a s call events after) (hkeeps : KeepsIds a s call)
    (hsound : a.holdings.Sound) : after.Sound := by
  cases hcourse with
  | @release i o cleared _ hcall hclears =>
      refine hclears.sound (fun o' slot id hmay => ?_) hsound
      obtain ⟨-, rfl, hheld⟩ := hmay
      apply hkeeps.ne_zero hsound hheld
      intro j hj
      obtain rfl := Slot.frame.inj hj
      exact .inr (.inr ⟨o, hcall⟩)
  | plain hclears hmakes huses =>
      have hmid := hkeeps.clears_sound hsound hclears
      rcases hmakes.cases with rfl | ⟨slot, htakes, hempty, hafter⟩
      · exact hmid
      · have hroom := hkeeps.room.hasRoom htakes hclears hempty
        rcases hafter with rfl | ⟨hframe, rfl⟩ | rfl | rfl
        · exact hmid.take hroom (.inl rfl)
        · exact hmid.take hroom (.inr ⟨hframe, rfl⟩)
        · exact hmid.abandon hroom
        · exact hmid.lose hroom

/-- Destroying objects queues no command that is about a resource id to come. -/
theorem Clears.assigns_eq_none {may : Outcomes → Slot → Nat → Prop} {cmd : GpuCmd}
    (hclears : Clears may h events after) (hmem : .command cmd ∈ events) : cmd.assigns = none := by
  induction hclears with
  | done => cases hmem
  | drops _ _ _ ih =>
      rcases List.mem_append.mp hmem with hmem | hmem
      · rcases mem_hostEvents_destroyActions hmem with heq | heq | heq <;>
          obtain rfl := HostEvent.command.inj heq <;> rfl
      · exact ih hmem

theorem GpuCmd.Builds.assigns_eq {cmd : GpuCmd} {slot : Slot} {id id' : Nat}
    (hbuilds : cmd.Builds slot id) (hassigns : cmd.assigns = some id') : id' = id := by
  cases hbuilds with
  | scanout =>
      rw [GpuCmd.assigns] at hassigns
      split at hassigns
      next => cases hassigns
      next => exact (Option.some.inj hassigns).symm
  | create2D | createBlob | attach | scanoutBlob => exact (Option.some.inj hassigns).symm
  | transfer | flush => cases hassigns

/-- What a call's commands are about is the object it makes. -/
theorem Course.assigned {cmd : GpuCmd} {id : Nat} (hcourse : Course a s call events after)
    (hkeeps : KeepsIds a s call) (hsound : a.holdings.Sound) (hmem : .command cmd ∈ events)
    (hassigns : cmd.assigns = some id) : ValidId id ∧
      ∀ slot obj, ¬ Takes a s call slot → a.object slot = some obj → obj.hwRes ≠ id := by
  have hcommand : ∀ {cmd' : GpuCmd}, HostEvent.command cmd = .command cmd' → cmd'.assigns ≠ none :=
    fun heq hnone => by
      obtain rfl := HostEvent.command.inj heq
      cases hassigns.symm.trans hnone
  cases hcourse with
  | release hcall hclears =>
      rcases List.mem_append.mp hmem with hmem | hmem
      · rw [hostEvents_submitted] at hmem
        exact absurd rfl (hcommand (mem_accepted hmem))
      · cases hassigns.symm.trans (hclears.assigns_eq_none hmem)
  | @plain _ _ _ mid _ hclears hmakes huses =>
      rcases List.mem_append.mp hmem with hmem | hmem
      · rcases List.mem_append.mp hmem with hmem | hmem
        · cases hassigns.symm.trans (hclears.assigns_eq_none hmem)
        · obtain ⟨slot, htakes, hempty, hbuilds⟩ := hmakes.builds_of_mem hmem
          obtain rfl := hbuilds.assigns_eq hassigns
          have hmid := hkeeps.clears_sound hsound hclears
          have hroom := hkeeps.room.hasRoom htakes hclears hempty
          refine ⟨hmid.validId_nextId hroom, fun other obj hother hobj heq => ?_⟩
          -- an object the call leaves alone still holds its id when the new one is taken
          have hheld : mid.held other = some obj.hwRes :=
            (hclears.held_eq fun o id hmay => hmay.2.2.elim hother htakes.not_powersDown).trans
              (congrArg (Option.map VioGpuObj.hwRes) hobj)
          refine hroom.getId.1 (hmid.owned.used (heq ▸ hheld) ?_)
          exact Nat.one_le_iff_ne_zero.mp (hmid.validId_nextId hroom).1
      · obtain ⟨cmd', id', slot, heq, hreads, -⟩ := huses _ hmem
        refine absurd ?_ (hcommand heq)
        cases cmd' with
        | transferToHost2D | resourceFlush => rfl
        | _ => exact hreads.elim

end

theorem hwInit_sound {cfg : BootConfig} {a : Adapter} (hinit : hwInit cfg = some a) :
    a.holdings.Sound := by
  refine ⟨hwInit_owned hinit, ?_, ?_, ?_⟩ <;> rw [hwInit_holdings hinit]
  · exact List.mem_singleton.mpr rfl
  · exact nofun
  · exact nofun

/-- In runs whose calls keep the ids the account stays in order. -/
theorem holdings_sound {m : Machine} (hreach : Machine.ReachableUnder CallsKeepIds m) :
    m.priv.holdings.Sound := by
  refine hreach.invariant_of_hwInit (I := fun m => m.priv.holdings.Sound)
    (fun _ _ hinit => hwInit_sound hinit) ?_ ?_ ?_
  · intro m call a' actions record _ hinv hok _ hcall
    exact hcall.course.sound hok hinv
  · intro m action rest _ hinv _ _
    exact hinv
  · intro m x shared _ hinv _ _
    exact hinv

/-- In every run whose calls keep the ids, commands are about valid ids of no other
object, and only allocated ids are given back. -/
theorem resource_ids_sound {m : Machine} (hreach : Machine.ReachableUnder CallsKeepIds m)
    {call : Call} (hkeeps : CallsKeepIds m (.call call)) :
    AssignsSoundly m call ∧ FreesSoundly m call := by
  have hsound := holdings_sound hreach
  constructor
  · intro a' actions record hexec cmd id hmem hassigns
    exact (exec_callStep hexec).course.assigned hkeeps hsound hmem hassigns
  · intro a' actions record hexec
    exact ((exec_callStep hexec).course.sound hkeeps hsound).freed

/-- A front whose attach step failed is rebuilt, and id zero is given back. -/
theorem resource_ids_unsound :
    ¬ ∀ m : Machine, m.Reachable → ∀ call, AssignsSoundly m call ∧ FreesSoundly m call := by
  let frame (addr : Nat) : FrameMetaData := .sized 1024 768 4096 1024 addr
  let moves : List Move :=
    .call (.present (frame 0x1000) true { Outcomes.good with newEnts := false }) ::
      List.replicate 4 .act ++ List.replicate 2 (.outside .hostExecutes) ++ [.outside (.complete 0)]
  let again : Call := .present (frame 0x2000) true .good
  have hresult : (bootRun (.plain true) moves).bind (fun m =>
      (exec m.priv m.shared again).map fun (a', _, _) => a'.idr.puts) = some [(0, true)] := by
    decide +kernel
  obtain ⟨m, hrun, hresult⟩ := Option.bind_eq_some_iff.mp hresult
  obtain ⟨⟨a', actions, record⟩, hexec, hputs⟩ := Option.map_eq_some_iff.mp hresult
  intro hclaim
  have hfreed := (hclaim m (reachable_of_bootRun hrun) again).2 a' actions record hexec (0, true)
    (by rw [show a'.idr.puts = [(0, true)] from hputs]; exact List.mem_singleton.mpr rfl)
  exact absurd hfreed.1.1 (by decide)

/-- Id 100 is free and every front has an id. -/
def hasIds (m : Machine) : Move → Bool
  | .call _ => decide (100 ∉ m.priv.idr.used) &&
      (List.finRange maxScanOut).all fun i => (m.priv.screens i).front.all fun obj => obj.hwRes != 0
  | .act | .outside _ => true

theorem callsKeepIds_of_hasIds {m : Machine} {move : Move} (hcheck : hasIds m move = true) :
    CallsKeepIds m move := by
  cases move with
  | call call =>
      obtain ⟨hfree, hfronts⟩ := Bool.and_eq_true_iff.mp hcheck
      refine ⟨fun slot _ => ⟨100, by norm_num, .inl (of_decide_eq_true hfree)⟩, ?_⟩
      intro i obj _ hobj
      have hfront := List.all_eq_true.mp hfronts i (List.mem_finRange i)
      rw [hobj] at hfront
      exact bne_iff_ne.mp hfront
  | act => trivial
  | outside x => trivial

/-- A front that was built is rebuilt, and its id given back. -/
theorem resource_ids_sound_rebuild : ∃ (m : Machine) (call : Call),
    (AssignsSoundly m call ∧ FreesSoundly m call) ∧
      (exec m.priv m.shared call).map (fun (a', _, _) => a'.idr.puts) = some [(1, true)] := by
  let frame (addr : Nat) : FrameMetaData := .sized 1024 768 4096 1024 addr
  let moves : List Move := .call (.present (frame 0x1000) true .good) :: List.replicate 5 .act ++
    List.replicate 3 (.outside .hostExecutes) ++ [.outside (.complete 0)]
  let again : Call := .present (frame 0x2000) true .good
  have hresult : (hwInit (.plain true)).any (fun a =>
      (machine.checkedRun hasIds (.start a) moves).any fun m => hasIds m (.call again) &&
        decide ((exec m.priv m.shared again).map (fun (a', _, _) => a'.idr.puts) =
          some [(1, true)])) = true := by
    decide +kernel
  obtain ⟨a, hinit, hresult⟩ := (Option.any_eq_true ..).mp hresult
  obtain ⟨m, hreach, hresult⟩ :=
    System.exists_reachUnder (fun _ _ hcheck => callsKeepIds_of_hasIds hcheck) hresult
  obtain ⟨hcheck, hputs⟩ := Bool.and_eq_true_iff.mp hresult
  exact ⟨m, again, resource_ids_sound ⟨_, a, hinit, hreach⟩ (callsKeepIds_of_hasIds hcheck),
    of_decide_eq_true hputs⟩

end VirtDisplay
