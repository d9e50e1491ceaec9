/-
# Creations that fail

`CreateFrameBufferObj` and `CreateCursor` take a resource id first, and without blob
resources tell the host to create the resource. Only then do they prepare the segment,
allocate the object and attach the segment's pages, and any of these may fail.

What a failure leaves behind depends on where it happens. A frame buffer that cannot be
built gives its id back, a pointer keeps it. Neither withdraws the command to create the
resource. And `CreateFrameBufferObj` does not look at the result of its attach step.
-/

import VirtDisplay.Adapter.CursorSpec
import VirtDisplay.Adapter.Holdings

namespace VirtDisplay

namespace Idr

variable {idr : Idr} {id : Nat}

/-- Without a free bit the bitmap stays as it is. -/
theorem getId_of_full (hfull : ¬ idr.HasRoom) : idr.getId = (notFound, idr) := by
  unfold getId
  split
  next id hfound =>
    obtain ⟨hclear, hlt⟩ := findClear_of_some hfound
    exact absurd ⟨id, by omega, hclear⟩ hfull
  next => rfl

/-- An id that is given back at once leaves every bit as it was. -/
theorem mem_used_putId_getId (hlt : id < bitmapSize) :
    id ∈ (idr.getId.2.putId idr.getId.1).used ↔ id ∈ idr.used := by
  rw [mem_used_putId]
  by_cases hroom : idr.HasRoom
  · obtain ⟨hclear, -, hused⟩ := hroom.getId
    rw [hused, List.mem_cons]
    constructor
    · rintro ⟨heq | hmem, hne⟩
      · exact absurd heq hne
      · exact hmem
    · intro hmem
      exact ⟨.inr hmem, fun heq => hclear (heq ▸ hmem)⟩
  · rw [getId_of_full hroom]
    have hne : id ≠ notFound := fun heq => absurd (heq ▸ hlt) (by decide)
    exact and_iff_left hne

/-- An id that is kept changes a bit, if there was one to change. -/
theorem used_getId_eq_iff :
    (∀ id < bitmapSize, id ∈ idr.getId.2.used ↔ id ∈ idr.used) ↔ ¬ idr.HasRoom := by
  constructor
  · intro hsame hroom
    obtain ⟨hclear, hlt, hused⟩ := hroom.getId
    exact hclear ((hsame _ hlt).mp (hused ▸ List.mem_cons_self))
  · intro hfull id _
    rw [getId_of_full hfull]

end Idr

/-- The creation of the object in one of a screen's two slots. -/
inductive Creation
  /-- `CreateFrameBufferObj`. -/
  | frame (info : VideoModeInfo) (mode : CurrentMode)
  /-- `CreateCursor`. -/
  | cursor (shape : PointerShape) (format : D3DDDIFormat)

/-- The resources that the host has been told to create and not to unref, by what is on the
queue and what the context adds to it. -/
def Ctx.hostLive (view : HostView) (c : Ctx) : List Nat :=
  ((hostEvents c.actions).foldl HostView.read view).live

namespace Creation

section

variable (o : Outcomes) (blob : Bool) (i : ScreenId) (creation : Creation) (view : HostView)
  (c : Ctx)

/-- The context after the creation. -/
def run : Ctx :=
  match creation with
  | .frame info mode => createFrameBufferObj o blob i info mode c
  | .cursor shape format => (createCursor o blob i shape format c).1

/-- The object in the slot of the creation. -/
def object : Option VioGpuObj :=
  match creation with
  | .frame _ _ => c.screen.front
  | .cursor _ _ => c.screen.cursorBuf

/-- The creation installs an object that has its resource id. -/
def Installs : Prop :=
  match creation with
  | .frame info mode => Buildable o info mode c ∧ o.newEnts = true
  | .cursor _ _ => CursorBuildable o c

/-- The command that creates the resource, when it is not a blob. -/
def createCmd (resid : Nat) : GpuCmd :=
  match creation with
  | .frame info mode =>
      .resourceCreate2D resid (colorFormat mode.colorFormat) info.visScreenWidth
        info.visScreenHeight
  | .cursor _ format => .resourceCreate2D resid (colorFormat format) pointerSize pointerSize

/-- The creation leaves the allocated ids and the host's resources as they were, and its slot
empty. -/
structure Undone (c' : Ctx) : Prop where
  ids : ∀ id < Idr.bitmapSize, id ∈ c'.idr.used ↔ id ∈ c.idr.used
  live : ∀ resid, resid ∈ c'.hostLive view ↔ resid ∈ c.hostLive view
  empty : creation.object c' = none

/-- The failure is one that hands back the id: a frame buffer fails before its attach step. A
pointer never hands its id back, and has none only if all are taken. -/
def HandsBack : Prop :=
  match creation with
  | .frame info mode => ¬ Buildable o info mode c
  | .cursor _ _ => ¬ c.idr.HasRoom

/-- The host is told of no resource that it does not have already. -/
def TellsNothing : Prop :=
  blob = true ∨ o.accepts (creation.createCmd c.idr.getId.1) = false ∨
    c.idr.getId.1 ∈ c.hostLive view

/-- What the host has seen before it is clear whether an object is installed. -/
def createEvents : List HostEvent :=
  if blob then []
  else if o.accepts (creation.createCmd c.idr.getId.1) then
    [.command (creation.createCmd c.idr.getId.1)]
  else []

variable {o blob i creation view c}

/-- The first action of a creation, if it has one. -/
theorem hostEvents_createCmd (creation : Creation) :
    hostEvents (if blob then [] else submitted o (creation.createCmd c.idr.getId.1) none) =
      creation.createEvents o blob c := by
  unfold createEvents
  cases blob with
  | true => rfl
  | false =>
      simp only [Bool.false_eq_true, if_false]
      exact hostEvents_submitted ..

theorem hostEvents_frame {info : VideoModeInfo} {mode : CurrentMode}
    (hfails : ¬ Buildable o info mode c) :
    hostEvents (createFrameBufferObj o blob i info mode c).actions =
      hostEvents c.actions ++ (Creation.frame info mode).createEvents o blob c := by
  rw [createFrameBufferObj_actions, if_neg hfails, List.append_nil, hostEvents_append,
    prepareActions, hostEvents_append, hostEvents_pages, List.append_nil]
  exact congrArg (_ ++ ·) (hostEvents_createCmd (.frame info mode))

theorem hostEvents_cursor {shape : PointerShape} {format : D3DDDIFormat}
    (hfails : ¬ CursorBuildable o c) :
    hostEvents (createCursor o blob i shape format c).1.actions =
      hostEvents c.actions ++ (Creation.cursor shape format).createEvents o blob c := by
  rw [createCursor_eq]
  dsimp only
  rw [hostEvents_append, createCursorActions, if_neg hfails, List.append_nil, hostEvents_append,
    hostEvents_pages, List.append_nil]
  exact congrArg (_ ++ ·) (hostEvents_createCmd (.cursor shape format))

/-- The host's resources are the ones it had exactly if it was told of no new one. -/
theorem hostLive_eq_iff {c' : Ctx}
    (hevents : hostEvents c'.actions = hostEvents c.actions ++ creation.createEvents o blob c) :
    (∀ resid, resid ∈ c'.hostLive view ↔ resid ∈ c.hostLive view) ↔
      creation.TellsNothing o blob view c := by
  have hexec : ∀ view : HostView, (view.exec (creation.createCmd c.idr.getId.1)).live =
      c.idr.getId.1 :: view.live := by
    intro view
    cases creation <;> rfl
  rw [Ctx.hostLive, hevents, List.foldl_append]
  unfold TellsNothing createEvents
  cases blob with
  | true => exact iff_of_true (fun _ => Iff.rfl) (.inl rfl)
  | false =>
      cases haccepts : o.accepts (creation.createCmd c.idr.getId.1) with
      | false => exact iff_of_true (fun _ => Iff.rfl) (.inr (.inl rfl))
      | true =>
          simp only [Bool.false_eq_true, if_false, if_true, List.foldl_cons, List.foldl_nil,
            HostView.read, hexec, List.mem_cons, false_or, reduceCtorEq]
          exact ⟨fun hsame => (hsame _).mp (.inl rfl),
            fun hmem resid => or_iff_right_of_imp fun heq => heq ▸ hmem⟩

/-- A creation without a working object leaves nothing behind exactly if its failure hands the id
back and the host was told of nothing new. -/
theorem run_undone_iff (hempty : creation.object c = none) (hfails : ¬ creation.Installs o c) :
    creation.Undone view c (creation.run o blob i c) ↔
      creation.HandsBack o c ∧ creation.TellsNothing o blob view c := by
  cases creation with
  | frame info mode =>
      by_cases hbuild : Buildable o info mode c
      · -- the attach step fails: the object is installed nevertheless
        refine iff_of_false (fun hundone => ?_) fun h => h.1 hbuild
        have hfront := hundone.empty
        change (createFrameBufferObj o blob i info mode c).screen.front = none at hfront
        rw [createFrameBufferObj_screen] at hfront
        dsimp only at hfront
        rw [if_pos hbuild] at hfront
        cases hfront
      · have hlive : (∀ resid, resid ∈ (createFrameBufferObj o blob i info mode c).hostLive view ↔
            resid ∈ c.hostLive view) ↔ (Creation.frame info mode).TellsNothing o blob view c :=
          hostLive_eq_iff (hostEvents_frame hbuild)
        constructor
        · exact fun hundone => ⟨hbuild, hlive.mp hundone.live⟩
        · rintro ⟨-, htells⟩
          refine ⟨fun id hlt => ?_, hlive.mpr htells, ?_⟩
          · change id ∈ (createFrameBufferObj o blob i info mode c).idr.used ↔ _
            rw [createFrameBufferObj_idr, if_neg hbuild]
            exact Idr.mem_used_putId_getId hlt
          · change (createFrameBufferObj o blob i info mode c).screen.front = none
            rw [createFrameBufferObj_screen]
            exact (if_neg hbuild).trans hempty
  | cursor shape format =>
      have hlive : (∀ resid, resid ∈ (createCursor o blob i shape format c).1.hostLive view ↔
          resid ∈ c.hostLive view) ↔ (Creation.cursor shape format).TellsNothing o blob view c :=
        hostLive_eq_iff (hostEvents_cursor hfails)
      have hidr : (createCursor o blob i shape format c).1.idr = c.idr.getId.2 := by
        rw [createCursor_eq]
      have hslot : (createCursor o blob i shape format c).1.screen.cursorBuf = none := by
        rw [createCursor_eq]
        exact (if_neg hfails).trans hempty
      constructor
      · intro hundone
        refine ⟨Idr.used_getId_eq_iff.mp fun id hlt => ?_, hlive.mp hundone.live⟩
        rw [← hidr]
        exact hundone.ids id hlt
      · rintro ⟨hfull, htells⟩
        refine ⟨fun id hlt => ?_, hlive.mpr htells, hslot⟩
        change id ∈ (createCursor o blob i shape format c).1.idr.used ↔ _
        rw [hidr]
        exact Idr.used_getId_eq_iff.mpr hfull id hlt

end

/-- A frame buffer of 1024x768 over a user address. -/
def plainFrame : Creation :=
  .frame ⟨0, 1024, 768⟩ ⟨1024, 768, 4096, 0, .x8r8g8b8, 1024, false, true, 0x1000⟩

/-- A pointer of 32x32. -/
def plainCursor : Creation := .cursor ⟨32, 32, 0, 0, 0, 0⟩ .a8r8g8b8

/-- No object can be allocated. -/
def noObj : Outcomes := { Outcomes.good with newObj := false }

/-- No memory entries can be allocated. -/
def noEnts : Outcomes := { Outcomes.good with newEnts := false }

/-- With blob resources, a frame buffer that finds no memory for its object. -/
theorem run_undone_noObj : ∃ a, hwInit (.plain true) = some a ∧
    plainFrame.Undone .start (a.ctx 0) (plainFrame.run noObj true 0 (a.ctx 0)) := by
  obtain ⟨a, hinit⟩ := Option.isSome_iff_exists.mp
    (by decide +kernel : (hwInit (.plain true)).isSome = true)
  have hempty : plainFrame.object (a.ctx 0) = none := ((hwInit_booted hinit).screens 0).front
  have hfails : ∀ c, ¬ plainFrame.Installs noObj c := fun _ h => Bool.false_ne_true h.1.2.1
  exact ⟨a, hinit, (run_undone_iff hempty (hfails _)).mpr
    ⟨fun hbuild => Bool.false_ne_true hbuild.2.1, .inl rfl⟩⟩

/-- On a device that has just started, the creation fails and leaves something behind. -/
def LeavesSomething (creation : Creation) (o : Outcomes) (blob : Bool) : Prop :=
  ∃ a, hwInit (.plain blob) = some a ∧ creation.object (a.ctx 0) = none ∧
    ¬ creation.Installs o (a.ctx 0) ∧
      ¬ creation.Undone .start (a.ctx 0) (creation.run o blob 0 (a.ctx 0))

/-- Without memory for the object a pointer keeps its id, and a frame buffer that is not a blob
leaves the host its resource. Without memory for the entries a frame buffer is installed that has
no id. -/
theorem run_not_undone : LeavesSomething plainCursor noObj true ∧
    LeavesSomething plainFrame noObj false ∧ LeavesSomething plainFrame noEnts true := by
  refine ⟨?_, ?_, ?_⟩
  · have hids : (hwInit (.plain true)).map (fun a => (decide (1 ∈ (a.ctx 0).idr.used),
        decide (1 ∈ (plainCursor.run noObj true 0 (a.ctx 0)).idr.used))) = some (false, true) := by
      decide +kernel
    obtain ⟨a, hinit, hids⟩ := Option.map_eq_some_iff.mp hids
    obtain ⟨hbefore, hafter⟩ := Prod.mk.inj hids
    refine ⟨a, hinit, ((hwInit_booted hinit).screens 0).cursorBuf,
      fun h => Bool.false_ne_true h.1, fun hundone => ?_⟩
    exact of_decide_eq_false hbefore ((hundone.ids 1 (by decide)).mp (of_decide_eq_true hafter))
  · have hlive : (hwInit (.plain false)).map (fun a => (decide (1 ∈ (a.ctx 0).hostLive .start),
        decide (1 ∈ (plainFrame.run noObj false 0 (a.ctx 0)).hostLive .start))) =
          some (false, true) := by
      decide +kernel
    obtain ⟨a, hinit, hlive⟩ := Option.map_eq_some_iff.mp hlive
    obtain ⟨hbefore, hafter⟩ := Prod.mk.inj hlive
    refine ⟨a, hinit, ((hwInit_booted hinit).screens 0).front,
      fun h => Bool.false_ne_true h.1.2.1, fun hundone => ?_⟩
    exact of_decide_eq_false hbefore ((hundone.live 1).mp (of_decide_eq_true hafter))
  · have hfront : (hwInit (.plain true)).map (fun a =>
        (plainFrame.object (plainFrame.run noEnts true 0 (a.ctx 0))).isSome) = some true := by
      decide +kernel
    obtain ⟨a, hinit, hfront⟩ := Option.map_eq_some_iff.mp hfront
    refine ⟨a, hinit, ((hwInit_booted hinit).screens 0).front,
      fun h => Bool.false_ne_true h.2, fun hundone => ?_⟩
    rw [hundone.empty] at hfront
    cases hfront

end Creation

end VirtDisplay
