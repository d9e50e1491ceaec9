/-
# Scanouts and the resources they show

Before a resource is destroyed no scanout should show it any more. `ReleaseFrameBuffer`
points its scanout at nothing first. The other two places that destroy a front do not: a
rebuild asks the host to destroy the resource while the scanout still shows it, and points
the scanout at the new resource later, and powering down resets scanout zero after the
resource, whichever screen it was for.

So a `RESOURCE_UNREF` comes too early in those calls that destroy, in either of these
ways, a front its scanout shows, and in no others.
-/

import VirtDisplay.Adapter.Course

namespace VirtDisplay

open Transition Streams

/-- No scanout shows a resource when it is destroyed. -/
def UnrefUnshown (view : HostView) (event : HostEvent) : Prop :=
  ∀ id, event = .command (.resourceUnref id) → ∀ scanoutId, (scanoutId, id) ∉ view.shown

/-- Every resource on the queue was taken off the scanouts before it was destroyed. -/
def ScanoutsFirst (m : Machine) : Prop :=
  Throughout HostView.read UnrefUnshown .start m.shared.hostEvents

/-- A front that the call rebuilds or powers down is not shown by its scanout, and the
scanout of one that is released can be pointed at nothing. -/
structure HidesFronts (a : Adapter) (s : Shared) (call : Call) : Prop where
  room : RoomToTake a s call
  hidden : ∀ i obj, (a.screens i).front = some obj → Takes a s call (.frame i) ∨ call.PowersDown →
    (i.val, obj.hwRes) ∉ s.view.shown
  released : ∀ i o obj, call = .releaseFb i.val o → (a.screens i).front = some obj →
    (i.val, obj.hwRes) ∈ s.view.shown → o.accepts (.setScanout i.val 0 0 0) = true

/-- Every call takes the fronts it destroys off their scanouts. -/
def CallsHideFronts (m : Machine) : Move → Prop
  | .call call => HidesFronts m.priv m.shared call
  | .act | .outside _ => True

namespace HostView

variable {view : HostView} {cmd : GpuCmd} {scanoutId id : Nat}

/-- A scanout shows what it was pointed at or what it showed before. -/
theorem mem_point {pair : Nat × Nat} (hmem : pair ∈ view.point scanoutId id) :
    id ≠ 0 ∧ pair = (scanoutId, id) ∨ pair ∈ view.shown := by
  have hkept : ∀ {p : Prop} [Decidable p],
      pair ∈ (if p then view.shown.filter fun pair => pair.1 ≠ scanoutId else view.shown) →
        pair ∈ view.shown := by
    intro p _ hmem
    split at hmem
    · exact List.mem_of_mem_filter hmem
    · exact hmem
  unfold point at hmem
  dsimp only at hmem
  split at hmem
  next => exact .inr (hkept hmem)
  next hne =>
    rcases List.mem_cons.mp hmem with rfl | hmem
    · exact .inl ⟨hne, rfl⟩
    · exact .inr (hkept hmem)

/-- A scanout that is pointed at nothing shows nothing. -/
theorem not_mem_point_zero : (scanoutId, id) ∉ view.point scanoutId 0 := by
  simp [point]

/-- Only the scanout commands change what is shown. -/
theorem mem_shown_exec {pair : Nat × Nat} (hmem : pair ∈ (view.exec cmd).shown) :
    pair ∈ view.shown ∨ pair.2 ≠ 0 ∧
      ((∃ width height, cmd = .setScanout pair.1 pair.2 width height) ∨
      ∃ width height format stride,
        cmd = .setScanoutBlob pair.1 pair.2 width height format stride) := by
  cases cmd with
  | setScanout scanoutId id width height =>
      rcases mem_point hmem with ⟨hne, rfl⟩ | hold
      · exact .inr ⟨hne, .inl ⟨_, _, rfl⟩⟩
      · exact .inl hold
  | setScanoutBlob scanoutId id width height format stride =>
      rcases mem_point hmem with ⟨hne, rfl⟩ | hold
      · exact .inr ⟨hne, .inr ⟨_, _, _, _, rfl⟩⟩
      · exact .inl hold
  | _ => exact .inl hmem

end HostView

/-- What a scanout shows has an id that is taken, and belongs to no object but perhaps to
the front of that screen. -/
structure ShowsFronts (h : Holdings) (shown : List (Nat × Nat)) : Prop where
  owned : h.Owned
  taken : ∀ {scanoutId id}, (scanoutId, id) ∈ shown → id ≠ 0 ∧ id ∈ h.idr.used
  front : ∀ {scanoutId id slot}, (scanoutId, id) ∈ shown → h.held slot = some id →
    ∃ i : ScreenId, slot = .frame i ∧ i.val = scanoutId

namespace ShowsFronts

variable {h : Holdings} {shown shown' : List (Nat × Nat)} {slot : Slot} {id : Nat}

theorem subset (hshows : ShowsFronts h shown) (hsub : shown' ⊆ shown) : ShowsFronts h shown' :=
  ⟨hshows.owned, fun hmem => hshows.taken (hsub hmem), fun hmem => hshows.front (hsub hmem)⟩

/-- An object no scanout shows is destroyed. -/
theorem drop (hshows : ShowsFronts h shown) (hheld : h.held slot = some id)
    (hhidden : ∀ scanoutId, (scanoutId, id) ∉ shown) : ShowsFronts (h.drop slot id) shown := by
  refine ⟨hshows.owned.drop hheld, fun hmem => ?_,
    fun hmem hother => hshows.front hmem (Holdings.held_drop hother).2⟩
  obtain ⟨hne, hused⟩ := hshows.taken hmem
  refine ⟨hne, Idr.mem_used_putId.mpr ⟨hused, ?_⟩⟩
  rintro rfl
  exact hhidden _ hmem

/-- Taking an id leaves what was shown before to the objects there were. -/
theorem grow {h' : Holdings} (hshows : ShowsFronts h shown) (howned : h'.Owned)
    (hused : ∀ id ∈ h.idr.used, id ∈ h'.idr.used)
    (hheld : ∀ slot id, h'.held slot = some id → h.held slot = some id ∨ id ∉ h.idr.used ∨ id = 0) :
    ShowsFronts h' shown := by
  refine ⟨howned, fun hmem => ?_, fun hmem hother => ?_⟩
  · obtain ⟨hne, hmem⟩ := hshows.taken hmem
    exact ⟨hne, hused _ hmem⟩
  · obtain ⟨hne, hmemUsed⟩ := hshows.taken hmem
    rcases hheld _ _ hother with hbefore | hfresh | hzero
    · exact hshows.front hmem hbefore
    · exact absurd hmemUsed hfresh
    · exact absurd hzero hne

end ShowsFronts

section

variable {a : Adapter} {s : Shared} {call : Call} {h after : Holdings} {events : List HostEvent}
  {view : HostView} {slot : Slot} {id : Nat}

/-- Destroying an object no scanout shows. -/
theorem sends_destroyActions (o : Outcomes) (bReset : Bool)
    (hhidden : ∀ scanoutId, (scanoutId, id) ∉ view.shown) :
    ∃ view', Sends HostView.read UnrefUnshown view (hostEvents (destroyActions o bReset id)) view' ∧
      view'.shown ⊆ view.shown := by
  apply Sends.of_forall (I := fun view' : HostView => view'.shown ⊆ view.shown) (List.Subset.refl _)
  intro event hmem view' hsub
  rcases mem_hostEvents_destroyActions hmem with rfl | rfl | rfl
  · exact ⟨nofun, hsub⟩
  · refine ⟨fun other heq scanoutId hshown => ?_, hsub⟩
    obtain rfl := GpuCmd.resourceUnref.inj (HostEvent.command.inj heq)
    exact hhidden scanoutId (hsub hshown)
  · refine ⟨nofun, fun pair (hpair : pair ∈ view'.point 0 0) => hsub ?_⟩
    rcases HostView.mem_point hpair with ⟨hne, -⟩ | hold
    · exact absurd rfl hne
    · exact hold

/-- Destroying objects none of which its own scanout shows. -/
theorem Clears.sends {may : Outcomes → Slot → Nat → Prop} (hclears : Clears may h events after)
    (hshows : ShowsFronts h view.shown)
    (hhidden : ∀ o i id, may o (.frame i) id → (i.val, id) ∉ view.shown) :
    ∃ view', Sends HostView.read UnrefUnshown view events view' ∧
      ShowsFronts after view'.shown := by
  induction hclears generalizing view with
  | done => exact ⟨view, .nil, hshows⟩
  | @drops h after slot id o bReset events hheld hmay hrest ih =>
      have hunshown : ∀ scanoutId, (scanoutId, id) ∉ view.shown := by
        intro scanoutId hmem
        obtain ⟨i, rfl, rfl⟩ := hshows.front hmem hheld
        exact hhidden o i id hmay hmem
      obtain ⟨mid, hfirst, hsub⟩ := sends_destroyActions o bReset hunshown
      obtain ⟨last, hsecond, hlast⟩ := ih ((hshows.drop hheld hunshown).subset hsub)
        fun o i id hmay hmem => hhidden o i id hmay (hsub hmem)
      exact ⟨last, hfirst.append hsecond, hlast⟩

variable (view) in
/-- The commands that make an object point its screen's scanout at it, if at anything. -/
theorem sends_builds
    (hbuilds : ∀ event ∈ events, ∃ cmd, event = .command cmd ∧ cmd.Builds slot id) :
    ∃ view', Sends HostView.read UnrefUnshown view events view' ∧ ∀ pair ∈ view'.shown,
      pair ∈ view.shown ∨ id ≠ 0 ∧ ∃ i : ScreenId, slot = .frame i ∧ pair = (i.val, id) := by
  refine Sends.of_forall (I := fun view' : HostView => ∀ pair ∈ view'.shown,
    pair ∈ view.shown ∨ id ≠ 0 ∧ ∃ i : ScreenId, slot = .frame i ∧ pair = (i.val, id))
    (fun _ hmem => .inl hmem) ?_
  intro event hmem view' hinv
  obtain ⟨cmd, rfl, hcmd⟩ := hbuilds event hmem
  refine ⟨fun other heq => ?_, fun pair hpair => ?_⟩
  · obtain rfl := HostEvent.command.inj heq
    cases hcmd
  · rcases HostView.mem_shown_exec hpair with
      hold | ⟨hne, ⟨width, height, rfl⟩ | ⟨width, height, format, stride, rfl⟩⟩
    · exact hinv pair hold
    · obtain ⟨scanoutId, other⟩ := pair
      cases hcmd with
      | scanout hslot => exact .inr ⟨hne, _, hslot, rfl⟩
    · obtain ⟨scanoutId, other⟩ := pair
      cases hcmd with
      | scanoutBlob hslot => exact .inr ⟨hne, _, hslot, rfl⟩

/-- An object that is not a front, or is discarded, is shown by no scanout. -/
theorem sends_builds_unshown (i : ScreenId)
    (hbuilds : ∀ event ∈ events, ∃ cmd, event = .command cmd ∧ cmd.Builds (.cursor i) id)
    (hshows : ShowsFronts after view.shown) :
    ∃ view', Sends HostView.read UnrefUnshown view events view' ∧
      ShowsFronts after view'.shown := by
  obtain ⟨view', hsends, hshown⟩ := sends_builds view hbuilds
  refine ⟨view', hsends, hshows.subset fun pair hmem => ?_⟩
  rcases hshown pair hmem with hold | ⟨-, j, hslot, -⟩
  · exact hold
  · cases hslot

/-- A new front is shown by its own scanout only. -/
theorem ShowsFronts.install {shown shown' : List (Nat × Nat)} {i : ScreenId}
    (hshows : ShowsFronts h shown) (hroom : h.idr.HasRoom) (hid : id = h.nextId ∨ id = 0)
    (hshown : ∀ pair ∈ shown', pair ∈ shown ∨ h.nextId ≠ 0 ∧
      ∃ j : ScreenId, Slot.frame i = .frame j ∧ pair = (j.val, h.nextId)) :
    ShowsFronts (h.take (.frame i) id) shown' := by
  have hused : (h.take (.frame i) id).idr.used = h.nextId :: h.idr.used :=
    congrArg Idr.used hroom.getId.2.2
  have hbefore : ShowsFronts (h.take (.frame i) id) shown := by
    refine hshows.grow (hshows.owned.take hroom hid)
      (fun id hmem => hused ▸ List.mem_cons_of_mem _ hmem) fun slot other hheld => ?_
    rcases Holdings.held_take hheld with ⟨-, rfl⟩ | ⟨-, hheld⟩
    · exact .inr (hid.imp_left fun heq => by rw [heq]; exact hroom.getId.1)
    · exact .inl hheld
  refine ⟨hbefore.owned, fun {scanoutId other} hmem => ?_,
    fun {scanoutId other slot} hmem hheld => ?_⟩
  · rcases hshown _ hmem with hold | ⟨hne, j, -, heq⟩
    · exact hbefore.taken hold
    · obtain ⟨-, rfl⟩ := Prod.mk.inj heq
      exact ⟨hne, hused ▸ List.mem_cons_self⟩
  · rcases hshown _ hmem with hold | ⟨hne, j, hslot, heq⟩
    · exact hbefore.front hold hheld
    · obtain ⟨rfl, rfl⟩ := Prod.mk.inj heq
      rcases Holdings.held_take hheld with ⟨rfl, -⟩ | ⟨-, hheld⟩
      · exact ⟨j, hslot, rfl⟩
      · exact absurd (hshows.owned.used hheld hne) hroom.getId.1

/-- Making an object. -/
theorem Makes.sends (hmakes : Makes a s call h events after) (hshows : ShowsFronts h view.shown)
    (hfree : ∀ slot, Takes a s call slot → h.held slot = none → h.idr.HasRoom) :
    ∃ view', Sends HostView.read UnrefUnshown view events view' ∧
      ShowsFronts after view'.shown := by
  cases hmakes with
  | nothing => exact ⟨view, .nil, hshows⟩
  | @builds r info c hrequest htakes hempty hbuild =>
      have hbuilds : ∀ event ∈ hostEvents (prepareActions r.outcomes a.blobSupported info r.mode c
          h.nextId ++ installActions r.outcomes a.blobSupported r.screen info r.mode c h.nextId),
          ∃ cmd, event = .command cmd ∧ cmd.Builds (.frame r.screen) h.nextId := by
        intro event hmem
        rw [hostEvents_append] at hmem
        exact (List.mem_append.mp hmem).elim (builds_prepareActions _) builds_installActions
      obtain ⟨view', hsends, hshown⟩ := sends_builds view hbuilds
      refine ⟨view', hsends, hshows.install (hfree _ htakes hempty) ?_ hshown⟩
      split
      · exact .inl rfl
      · exact .inr rfl
  | @abandons r info c hrequest htakes hempty hheight hfails =>
      have hroom := hfree _ htakes hempty
      obtain ⟨hclear, -, hidr⟩ := hroom.getId
      refine sends_builds_unshown r.screen (fun _ => builds_prepareActions _)
        (hshows.grow (hshows.owned.abandon hroom) (fun id hmem => ?_) fun _ _ => .inl)
      have hne : id ≠ h.nextId := by
        rintro rfl
        exact hclear hmem
      refine Idr.mem_used_putId.mpr ⟨?_, hne⟩
      rw [hidr]
      exact List.mem_cons_of_mem _ hmem
  | @points i shape format o hcall hempty hbuild =>
      have htakes : Takes a s call (.cursor i) := ⟨_, _, _, hcall⟩
      have hroom := hfree _ htakes hempty
      obtain ⟨hclear, -, hidr⟩ := hroom.getId
      refine sends_builds_unshown i (fun _ => builds_createCursorActions _)
        (hshows.grow (hshows.owned.take hroom (.inl rfl)) (fun id hmem => ?_)
          fun slot id hheld => ?_)
      · show id ∈ h.idr.getId.2.used
        rw [hidr]
        exact List.mem_cons_of_mem _ hmem
      · rcases Holdings.held_take hheld with ⟨-, rfl⟩ | ⟨-, hheld⟩
        · exact .inr (.inl hclear)
        · exact .inl hheld
  | @loses i shape format o hcall hempty hfails =>
      have htakes : Takes a s call (.cursor i) := ⟨_, _, _, hcall⟩
      have hroom := hfree _ htakes hempty
      refine sends_builds_unshown i (fun _ => builds_createCursorActions _)
        (hshows.grow (hshows.owned.lose hroom) (fun id hmem => ?_) fun _ _ => .inl)
      show id ∈ h.idr.getId.2.used
      rw [hroom.getId.2.2]
      exact List.mem_cons_of_mem _ hmem
  | resets => exact ⟨.start, .cons nofun .nil, hshows.subset (List.nil_subset _)⟩

/-- Using objects. -/
theorem Uses.sends (huses : Uses h events) :
    Sends HostView.read UnrefUnshown view events view := by
  have hsame : ∃ view', Sends HostView.read UnrefUnshown view events view' ∧ view' = view := by
    apply Sends.of_forall (I := fun view' => view' = view) rfl
    intro event hmem view' heq
    obtain ⟨cmd, id, slot, rfl, hreads, -⟩ := huses event hmem
    cases cmd with
    | transferToHost2D | resourceFlush => exact ⟨nofun, heq⟩
    | _ => exact hreads.elim
  obtain ⟨view', hsends, rfl⟩ := hsame
  exact hsends

/-- A call that takes the fronts it destroys off their scanouts does so in order. -/
theorem Course.sends (hcourse : Course a s call events after) (hhides : HidesFronts a s call)
    (hshows : ShowsFronts a.holdings s.view.shown) :
    ∃ view', Sends HostView.read UnrefUnshown s.view events view' ∧
      ShowsFronts after view'.shown := by
  cases hcourse with
  | @plain cleared made used mid _ hclears hmakes huses =>
      have hhidden : ∀ o i id, MayClear a s call o (.frame i) id → (i.val, id) ∉ s.view.shown := by
        rintro o i id ⟨-, hheld, hwhy⟩
        obtain ⟨obj, hobj, rfl⟩ := Option.map_eq_some_iff.mp hheld
        exact hhides.hidden i obj hobj hwhy
      obtain ⟨view₁, hcleared, hshows₁⟩ := hclears.sends hshows hhidden
      obtain ⟨view₂, hmade, hshows₂⟩ := hmakes.sends hshows₁ fun slot htakes hempty =>
        hhides.room.hasRoom htakes hclears hempty
      exact ⟨view₂, (hcleared.append hmade).append huses.sends, hshows₂⟩
  | @release i o cleared _ hcall hclears =>
      rw [hostEvents_submitted]
      by_cases haccepts : o.accepts (.setScanout i.val 0 0 0) = true
      · rw [if_pos haccepts]
        have hsub : s.view.point i.val 0 ⊆ s.view.shown := fun pair hmem =>
          (HostView.mem_point hmem).resolve_left fun hne => hne.1 rfl
        have hpointed : ShowsFronts a.holdings (s.view.exec (.setScanout i.val 0 0 0)).shown :=
          hshows.subset hsub
        obtain ⟨view', hsends, hafter⟩ := hclears.sends hpointed fun o' j id hmay => by
          obtain rfl := Slot.frame.inj hmay.2.1
          exact HostView.not_mem_point_zero
        exact ⟨view', .cons nofun hsends, hafter⟩
      · rw [if_neg haccepts]
        refine hclears.sends hshows fun o' j id hmay hmem => haccepts ?_
        obtain ⟨-, hslot, hheld⟩ := hmay
        obtain rfl := Slot.frame.inj hslot
        obtain ⟨obj, hobj, rfl⟩ := Option.map_eq_some_iff.mp hheld
        exact hhides.released j o obj hcall hobj hmem

end

/-- In every run whose calls take the fronts they destroy off their scanouts, no resource
is destroyed while a scanout shows it. -/
theorem scanouts_first {m : Machine} (hreach : Machine.ReachableUnder CallsHideFronts m) :
    ScanoutsFirst m := by
  refine (hreach.sends (I := fun a view => ShowsFronts a.holdings view.shown) ?_ ?_).1
  · intro cfg a hinit
    exact ⟨hwInit_owned hinit, nofun, nofun⟩
  · intro m call a' actions record hshows hhides hcall
    exact hcall.course.sends hhides hshows

/-- A frame at another address has the front rebuilt, which its scanout still shows when
the host is told to destroy it. -/
theorem scanouts_not_first : ¬ ∀ m : Machine, m.Reachable → ScanoutsFirst m := by
  let frame (addr : Nat) : FrameMetaData := .sized 1024 768 4096 1024 addr
  let moves : List Move := .call (.present (frame 0x1000) true .good) :: List.replicate 5 .act ++
    List.replicate 3 (.outside .hostExecutes) ++ [.outside (.complete 0)] ++
    .call (.present (frame 0x2000) true .good) :: List.replicate 2 .act
  have hresult : (bootRun (.plain true) moves).map (fun m =>
      (m.shared.hostEvents.getLast?,
        (m.shared.hostEvents.dropLast.foldl HostView.read .start).shown)) =
        some (some (.command (.resourceUnref 1)), [(0, 1)]) := by
    decide +kernel
  obtain ⟨m, hrun, hvalues⟩ := Option.map_eq_some_iff.mp hresult
  obtain ⟨hlast, hshown⟩ := Prod.mk.inj hvalues
  intro hclaim
  have hordered : Throughout HostView.read UnrefUnshown .start m.shared.hostEvents :=
    hclaim m (reachable_of_bootRun hrun)
  rw [← List.dropLast_append_getLast? _ hlast] at hordered
  apply (throughout_append.mp hordered).2.1 1 rfl 0
  rw [hshown]
  exact List.mem_singleton.mpr rfl

/-- Id 100 is free, and only a release, which can point its scanout at nothing, finds a
front that is shown. -/
def hidesFronts (m : Machine) : Move → Bool
  | .call call => decide (100 ∉ m.priv.idr.used) &&
      match call with
      | .releaseFb screenNum o => o.accepts (.setScanout screenNum 0 0 0)
      | _ => (List.finRange maxScanOut).all fun i => (m.priv.screens i).front.all fun obj =>
          decide ((i.val, obj.hwRes) ∉ m.shared.view.shown)
  | .act | .outside _ => true

theorem callsHideFronts_of_hidesFronts {m : Machine} {move : Move}
    (hcheck : hidesFronts m move = true) : CallsHideFronts m move := by
  cases move with
  | call call =>
      obtain ⟨hfree, hfronts⟩ := Bool.and_eq_true_iff.mp hcheck
      refine ⟨fun slot _ => ⟨100, by norm_num, .inl (of_decide_eq_true hfree)⟩, ?_, ?_⟩
      · intro i obj hobj hwhy
        have hunshown : (List.finRange maxScanOut).all (fun i => (m.priv.screens i).front.all
            fun obj => decide ((i.val, obj.hwRes) ∉ m.shared.view.shown)) = true := by
          cases call with
          | releaseFb screenNum o =>
              rcases hwhy with ⟨r, hrequest, -⟩ | ⟨os, hpower⟩
              · cases hrequest
              · cases hpower
          | _ => exact hfronts
        have hfront := List.all_eq_true.mp hunshown i (List.mem_finRange i)
        rw [hobj] at hfront
        exact of_decide_eq_true hfront
      · rintro i o obj rfl - -
        exact hfronts
  | act => trivial
  | outside x => trivial

/-- A front is built, shown and released. -/
theorem scanouts_first_release : ∃ m : Machine, ScanoutsFirst m ∧
    .command (.resourceUnref 1) ∈ m.shared.hostEvents := by
  let frame : FrameMetaData := .sized 1024 768 4096 1024 0x1000
  let moves : List Move := .call (.present frame true .good) :: List.replicate 5 .act ++
    .call (.releaseFb 0 .good) :: List.replicate 3 .act
  have hresult : (hwInit (.plain true)).any (fun a =>
      (machine.checkedRun hidesFronts (.start a) moves).any fun m =>
        decide (.command (.resourceUnref 1) ∈ m.shared.hostEvents)) = true := by
    decide +kernel
  obtain ⟨a, hinit, hresult⟩ := (Option.any_eq_true ..).mp hresult
  obtain ⟨m, hreach, hmem⟩ :=
    System.exists_reachUnder (fun _ _ hcheck => callsHideFronts_of_hidesFronts hcheck) hresult
  exact ⟨m, scanouts_first ⟨_, a, hinit, hreach⟩, of_decide_eq_true hmem⟩

end VirtDisplay
