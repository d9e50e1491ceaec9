/-
# What a successful status says

`SetCurrentModeExt` reports success from the first round of its search loop on,
whatever the search finds and whatever becomes of the frame behind it. So success does
not mean that the frame was presented or deliberately dropped. This module says when it
does: the exact condition, on the state and on the environment's answers, under which a
success is earned.
-/

import VirtDisplay.Adapter.FlushAccounting

namespace VirtDisplay

open Transition

/-- A flush of the screen's front resource was queued during the call, and the resource
was built on the host, for this size. -/
def Presented (i : ScreenId) (mode : CurrentMode) (c' : Ctx) : Prop :=
  ∃ obj, c'.screen.front = some obj ∧ obj.origin.hostBuilt = true ∧
    obj.origin.request.width = mode.width ∧ obj.origin.request.height = mode.height ∧
    .flush i obj.origin.serial (some (.resourceFlush i.val obj.hwRes mode.width mode.height)) ∈
      c'.actions

/-- The frame was dropped for an outstanding flush, below the stall limit. -/
def DroppedBelowLimit (flushCount : Nat) (c' : Ctx) (path : PresentPath) : Prop :=
  path = .dropped ∧ flushCount ≠ 0 ∧ c'.screen.flushStallCount < flushStallLimit

/-- A success is earned. -/
def ReportsTruly (i : ScreenId) (flushCount : Nat) (mode : CurrentMode) (c' : Ctx)
    (status : NtStatus) (path : PresentPath) : Prop :=
  status = .success → Presented i mode c' ∨ DroppedBelowLimit flushCount c' path

/-- A rebuild reaches the host: no check of the creation fails, the resource is built
and its flush queued. -/
def RebuildReaches (o : Outcomes) (blob : Bool) (i : ScreenId) (info : VideoModeInfo)
    (mode : CurrentMode) (c : Ctx) : Prop :=
  Buildable o info mode c ∧
    hostBuilds o blob (rebuildId o c) (updatedSegment o info mode c).segment info mode = true ∧
    o.accepts (.resourceFlush i.val (rebuildId o c) mode.width mode.height) = true

/-- A reuse reaches the host: the resource is there and its flush queued. -/
def ReuseReaches (o : Outcomes) (i : ScreenId) (mode : CurrentMode) (x : ScreenInfo) : Prop :=
  ∃ obj, x.front = some obj ∧ obj.origin.hostBuilt = true ∧
    o.accepts (.resourceFlush i.val obj.hwRes mode.width mode.height) = true

/-- A frame without a matching mode meets an empty mode list, and one that gets past
back-pressure reaches the host. -/
def Earns (o : Outcomes) (blob : Bool) (i : ScreenId) (flushCount : Nat) (mode : CurrentMode)
    (c : Ctx) : Prop :=
  match foundMode c.screen mode with
  | none => True
  | some none => c.screen.modes.modeCount = 0
  | some (some info) =>
      match backPressure i flushCount mode c with
      | (_, .drop) => True
      | (c₁, .go _) =>
          if backingChanged c₁.screen mode then RebuildReaches o blob i info mode c₁
          else ReuseReaches o i mode c₁.screen

/-- The cached size is the size the front object was built for. -/
def SizeCached (x : ScreenInfo) : Prop :=
  ∀ obj, x.front = some obj →
    x.fbWidth = obj.origin.request.width ∧ x.fbHeight = obj.origin.request.height

theorem SizeCached.congr {x y : ScreenInfo} (hcached : SizeCached x) (hfront : y.front = x.front)
    (hwidth : y.fbWidth = x.fbWidth) (hheight : y.fbHeight = x.fbHeight) : SizeCached y := by
  intro obj hobj
  obtain ⟨hw, hh⟩ := hcached obj (hfront ▸ hobj)
  exact ⟨hwidth.trans hw, hheight.trans hh⟩

theorem ModeStep.sizeCached {o : Outcomes} {blob : Bool} {i : ScreenId} {flushCount : Nat}
    {mode : CurrentMode} {c c' : Ctx} {status : NtStatus} {path : PresentPath}
    (hmode : ModeStep o blob i flushCount mode c c' status path) (hcached : SizeCached c.screen) :
    SizeCached c'.screen := by
  cases hmode with
  | noMode => exact hcached
  | dropped => exact hcached.congr rfl rfl rfl
  | rebuild info hfound hpass hchanged =>
      rw [rebuildFront_screen]
      intro obj hobj
      dsimp only at hobj
      split at hobj
      next =>
        obtain rfl := Option.some.inj hobj
        exact ⟨rfl, rfl⟩
      next => cases hobj
  | reuse info obj hfound hpass hfront hsame =>
      rw [flushFrameBufferObj_eq _ _ _ _ _ hfront]
      dsimp only
      rw [hpass.screen]
      exact hcached.congr rfl rfl rfl

theorem sizeCached {m : Machine} (hreach : m.Reachable) (j : ScreenId) :
    SizeCached (m.priv.screens j) := by
  apply Machine.ReachableUnder.screen_invariant hreach (I := fun x _ => SizeCached x) j
  · intro x hbooted obj hobj
    cases hbooted.front.symm.trans hobj
  · intro m call record y hcached _ hstep
    cases hstep with
    | unchanged _ heq => exact hcached.congr heq.front heq.fbWidth heq.fbHeight
    | mode r hrequest hscreen hmode => exact hmode.sizeCached hcached
    | release _ hreleased =>
        intro obj hobj
        cases hreleased.front.symm.trans hobj
    | powerDown _ hdown =>
        intro obj hobj
        cases hdown.front.symm.trans hobj

/-- A flush of a screen among the actions counts for it. -/
theorem flush_mem_accounting {i : ScreenId} {serial : Nat} {cmd : Option GpuCmd}
    {actions : List Action} :
    .flush i serial cmd ∈ actions ↔ .flush i serial cmd ∈ accounting i actions := by
  simp [accounting, Action.countsFor]

/-- A flush action carries its command just when the command is queued. -/
theorem flush_eq_flushAction_iff {o : Outcomes} {i : ScreenId} {serial resid width height : Nat} :
    .flush i serial (some (.resourceFlush i.val resid width height)) =
        flushAction o i serial resid width height ↔
      o.accepts (.resourceFlush i.val resid width height) = true := by
  unfold flushAction
  split
  next h => simp [h]
  next h => simp [h]

section

variable {o : Outcomes} {blob : Bool} {i : ScreenId} {flushCount : Nat} {info : VideoModeInfo}
  {mode : CurrentMode} {c c₁ c' : Ctx} {forced : Bool} {status : NtStatus} {path : PresentPath}

/-- A rebuilt front is presented just when the rebuild reaches the host. -/
theorem presented_rebuildFront_iff
    (hsize : info.visScreenWidth = mode.width ∧ info.visScreenHeight = mode.height)
    (hquiet : accounting i c₁.actions = resetActions i flushCount) :
    Presented i mode (rebuildFront o blob i info mode c₁) ↔
      RebuildReaches o blob i info mode c₁ := by
  obtain ⟨hwidth, hheight⟩ := hsize
  have hmem : ∀ serial cmd, .flush i serial cmd ∈ (rebuildFront o blob i info mode c₁).actions ↔
      .flush i serial cmd ∈ resetActions i flushCount ++
        if Buildable o info mode c₁ then
          [flushAction o i c₁.serial (rebuildId o c₁) mode.width mode.height] else [] := by
    intro serial cmd
    rw [flush_mem_accounting, accounting_rebuildFront, hquiet, hwidth, hheight]
    simp only [and_true]
  unfold Presented RebuildReaches
  simp only [hmem, rebuildFront_screen]
  by_cases hbuild : Buildable o info mode c₁
  · -- the object's id is the one the flush names once the entries could be allocated
    have hid : hostBuilds o blob (rebuildId o c₁) (updatedSegment o info mode c₁).segment info
        mode = true → (createdObj o blob i info mode c₁ (rebuildId o c₁)).hwRes =
          rebuildId o c₁ := by
      intro hhost
      exact if_pos (Bool.and_eq_true_iff.mp hhost).1
    have hserial : (createdObj o blob i info mode c₁ (rebuildId o c₁)).origin.serial =
        c₁.serial := rfl
    simp only [hbuild, if_true, true_and, Option.some.injEq]
    constructor
    · rintro ⟨obj, rfl, hhost, -, -, hmem⟩
      have hhost : hostBuilds o blob (rebuildId o c₁) (updatedSegment o info mode c₁).segment info
        mode = true := hhost
      rcases List.mem_append.mp hmem with hmem | hmem
      · exact absurd hmem not_flush_mem_resetActions
      · rw [hid hhost, hserial] at hmem
        exact ⟨hhost, flush_eq_flushAction_iff.mp (List.mem_singleton.mp hmem)⟩
    · rintro ⟨hhost, haccepts⟩
      refine ⟨_, rfl, hhost, rfl, rfl, List.mem_append_right _ (List.mem_singleton.mpr ?_)⟩
      rw [hid hhost, hserial]
      exact flush_eq_flushAction_iff.mpr haccepts
  · simp only [hbuild, if_false, false_and, iff_false]
    rintro ⟨obj, hnone, -⟩
    cases hnone

/-- A reused front is presented just when the reuse reaches the host. -/
theorem presented_flushFrameBufferObj_iff {obj : VioGpuObj}
    (hsize : info.visScreenWidth = mode.width ∧ info.visScreenHeight = mode.height)
    (hquiet : accounting i c₁.actions = resetActions i flushCount)
    (hfront : c₁.screen.front = some obj) (hsame : SameBacking c₁.screen mode)
    (hcached : SizeCached c₁.screen) :
    Presented i mode (flushFrameBufferObj o blob i info c₁) ↔ ReuseReaches o i mode c₁.screen := by
  obtain ⟨hwidth, hheight⟩ := hsize
  obtain ⟨hfbWidth, hfbHeight⟩ := hcached obj hfront
  have hscreen : (flushFrameBufferObj o blob i info c₁).screen = c₁.screen := by
    rw [flushFrameBufferObj_eq _ _ _ _ _ hfront]
  have hmem : ∀ serial cmd, .flush i serial cmd ∈ (flushFrameBufferObj o blob i info c₁).actions ↔
      .flush i serial cmd ∈ resetActions i flushCount ++
        [flushAction o i obj.origin.serial obj.hwRes mode.width mode.height] := by
    intro serial cmd
    rw [flush_mem_accounting, accounting_flushFrameBufferObj i info hfront, hquiet, if_pos rfl,
      hwidth, hheight]
  unfold Presented ReuseReaches
  simp only [hmem, hscreen, hfront, Option.some.injEq]
  constructor
  · rintro ⟨obj', rfl, hhost, -, -, hmem⟩
    rcases List.mem_append.mp hmem with hmem | hmem
    · exact absurd hmem not_flush_mem_resetActions
    · exact ⟨_, rfl, hhost, flush_eq_flushAction_iff.mp (List.mem_singleton.mp hmem)⟩
  · rintro ⟨obj', rfl, hhost, haccepts⟩
    refine ⟨_, rfl, hhost, hfbWidth.symm.trans hsame.width, hfbHeight.symm.trans hsame.height, ?_⟩
    exact List.mem_append_right _
      (List.mem_singleton.mpr (flush_eq_flushAction_iff.mpr haccepts))

theorem ModeStep.reportsTruly_iff (hmode : ModeStep o blob i flushCount mode c c' status path)
    (hempty : c.actions = []) (hcached : SizeCached c.screen) :
    ReportsTruly i flushCount mode c' status path ↔ Earns o blob i flushCount mode c := by
  have hquiet : ∀ {c₁ : Ctx} {forced : Bool}, Admits i flushCount mode c c₁ forced →
      accounting i c₁.actions = resetActions i flushCount := by
    intro c₁ forced hpass
    rw [hpass.actions, hempty, List.nil_append, accounting_resetActions, if_pos rfl]
  -- apart from a drop, success is earned by a presented frame
  have hpresented : ∀ {c' : Ctx} {status : NtStatus} {path : PresentPath}, path ≠ .dropped →
      (ReportsTruly i flushCount mode c' status path ↔
        (status = .success → Presented i mode c')) := by
    intro c' status path hpath
    have hnot : ¬ DroppedBelowLimit flushCount c' path := fun h => hpath h.1
    simp only [ReportsTruly, hnot, or_false]
  cases hmode with
  | noMode hfound =>
      have hnot : ¬ Presented i mode c := by
        rintro ⟨obj, -, -, -, -, hmem⟩
        rw [hempty] at hmem
        cases hmem
      rw [hpresented (by simp), Earns, hfound]
      by_cases hcount : c.screen.modes.modeCount = 0 <;> simp [hcount, hnot]
  | dropped info hfound hcount hset hstall =>
      rw [Earns, hfound]
      dsimp only
      rw [backPressure_eq_drop i hcount hset hstall]
      exact iff_of_true (fun _ => .inr ⟨rfl, hcount, hstall⟩) trivial
  | rebuild info hfound hpass hchanged =>
      rw [hpresented (by simp), Earns, hfound]
      dsimp only
      rw [hpass.backPressure_eq]
      dsimp only
      rw [if_pos hchanged]
      simp only [true_implies]
      exact presented_rebuildFront_iff (size_of_searchModes hfound) (hquiet hpass)
  | @reuse c₁ _ info obj hfound hpass hfront hsame =>
      have hkept : backingChanged c₁.screen mode = false :=
        backingChanged_eq_false_iff.mpr ⟨⟨obj, hfront⟩, hsame⟩
      have hcached₁ : SizeCached c₁.screen := by
        rw [hpass.screen]
        exact hcached.congr rfl rfl rfl
      rw [hpresented (by simp), Earns, hfound]
      dsimp only
      rw [hpass.backPressure_eq]
      dsimp only
      rw [hkept, if_neg Bool.false_ne_true]
      simp only [true_implies]
      exact presented_flushFrameBufferObj_iff (size_of_searchModes hfound) (hquiet hpass) hfront
        hsame hcached₁

end

/-- In every reachable state and for every mode, a call of `SetCurrentModeExt` earns its
success exactly when `Earns` says so. -/
theorem success_earned_iff {m : Machine} {o : Outcomes} {i : ScreenId} {mode : CurrentMode}
    {c' : Ctx} {status : NtStatus} {path : PresentPath} (hreach : m.Reachable)
    (hcall : setCurrentModeExt o m.priv.blobSupported i (m.shared.flushCount i) mode
      (m.priv.ctx i) = some (c', status, path)) :
    ReportsTruly i (m.shared.flushCount i) mode c' status path ↔
      Earns o m.priv.blobSupported i (m.shared.flushCount i) mode (m.priv.ctx i) :=
  (setCurrentModeExt_spec hcall).reportsTruly_iff rfl (sizeCached hreach i)

/-- A mode of the given size, as a `SET_MODE` asks for it. -/
def CurrentMode.sized (width height : Nat) : CurrentMode where
  width := width
  height := height
  pitch := width * 4
  targetId := 0
  colorFormat := .a8r8g8b8
  stride := width
  frameBufferIsActive := false
  setMode := true
  ptr := 0x1000

/-- A size that no entry has is reported as a success. -/
theorem success_unearned : ¬ ∀ (m : Machine) (o : Outcomes) (i : ScreenId) (mode : CurrentMode)
    (c' : Ctx) (status : NtStatus) (path : PresentPath), m.Reachable →
    setCurrentModeExt o m.priv.blobSupported i (m.shared.flushCount i) mode (m.priv.ctx i) =
      some (c', status, path) →
    ReportsTruly i (m.shared.flushCount i) mode c' status path := by
  have hresult : ((bootRun (.plain true) []).bind fun m =>
      (setCurrentModeExt .good m.priv.blobSupported 0 (m.shared.flushCount 0) (.sized 800 600)
        (m.priv.ctx 0)).map fun result => (result.1.screen.front.isSome, result.2)) =
      some (false, .success, .noMode) := by
    decide +kernel
  obtain ⟨m, hrun, hvalues⟩ := Option.bind_eq_some_iff.mp hresult
  obtain ⟨⟨c', status, path⟩, hcall, hvalues⟩ := Option.map_eq_some_iff.mp hvalues
  obtain ⟨hfront, rfl, rfl⟩ := Prod.mk.inj hvalues |>.imp_right Prod.mk.inj
  intro hclaim
  rcases hclaim m _ 0 _ _ _ _ (reachable_of_bootRun hrun) hcall rfl with ⟨obj, hobj, -⟩ | hdropped
  · rw [hobj] at hfront
    cases hfront
  · cases hdropped.1

/-- The condition at the first mode-set after a start. -/
theorem success_earned_iff_first_setMode : ∃ (m : Machine) (c' : Ctx) (path : PresentPath),
    path = .rebuild false ∧
    (ReportsTruly 0 (m.shared.flushCount 0) (.sized 1024 768) c' .success path ↔
      Earns .good m.priv.blobSupported 0 (m.shared.flushCount 0) (.sized 1024 768)
        (m.priv.ctx 0)) := by
  have hresult : ((bootRun (.plain true) []).bind fun m =>
      (setCurrentModeExt .good m.priv.blobSupported 0 (m.shared.flushCount 0) (.sized 1024 768)
        (m.priv.ctx 0)).map fun result => result.2) =
      some (.success, .rebuild false) := by
    decide +kernel
  obtain ⟨m, hrun, hvalues⟩ := Option.bind_eq_some_iff.mp hresult
  obtain ⟨⟨c', status, path⟩, hcall, hvalues⟩ := Option.map_eq_some_iff.mp hvalues
  obtain ⟨rfl, rfl⟩ := Prod.mk.inj hvalues
  exact ⟨m, c', _, rfl, success_earned_iff (reachable_of_bootRun hrun) hcall⟩

end VirtDisplay
