/-
# What a mode-set call does

`SetCurrentModeExt` has four ways to return, and behind two of them three ways to
get past back-pressure. They are listed here once, with everything each of them
does and every condition under which it is taken; the theorems about histories
case on these two lists instead of on the code.
-/

import VirtDisplay.Adapter.FrameBufferSpec

namespace VirtDisplay

variable {o : Outcomes} {blob : Bool} {i : ScreenId} {flushCount : Nat} {mode : CurrentMode}
  {c c' : Ctx}

/-- The ways past back-pressure. The index is the context behind it and whether the
stall limit forced the way. -/
inductive Admits (i : ScreenId) (flushCount : Nat) (mode : CurrentMode) (c : Ctx) :
    Ctx → Bool → Prop
  /-- No flush is counted. -/
  | idle (hcount : flushCount = 0) :
      Admits i flushCount mode c { c with screen := { c.screen with flushStallCount := 0 } } false
  /-- A `SET_MODE` clears the count. -/
  | stale (hcount : flushCount ≠ 0) (hset : mode.setMode = true) :
      Admits i flushCount mode c
        (({ c with screen := { c.screen with flushStallCount := 0 } }).clearFlush i) false
  /-- The stall limit is reached: the count is cleared and the cached address wiped. -/
  | forced (hcount : flushCount ≠ 0) (hset : mode.setMode = false)
      (hstall : flushStallLimit ≤ c.screen.flushStallCount + 1) :
      Admits i flushCount mode c
        (({ c with screen := { c.screen with flushStallCount := 0, fbSrcAddr := 0 } }).clearFlush i)
        true

/-- Of the context, a way past back-pressure changes two fields of the screen. -/
theorem Admits.screen {c₁ : Ctx} {forced : Bool} (hpass : Admits i flushCount mode c c₁ forced) :
    c₁.screen = { c.screen with
      flushStallCount := 0
      fbSrcAddr := if forced then 0 else c.screen.fbSrcAddr } := by
  cases hpass <;> rfl

theorem Admits.serial {c₁ : Ctx} {forced : Bool}
    (hpass : Admits i flushCount mode c c₁ forced) : c₁.serial = c.serial := by
  cases hpass <;> rfl

theorem Admits.idr {c₁ : Ctx} {forced : Bool}
    (hpass : Admits i flushCount mode c c₁ forced) : c₁.idr = c.idr := by
  cases hpass <;> rfl

/-- The reset behind back-pressure. -/
def resetActions (i : ScreenId) (flushCount : Nat) : List Action :=
  if flushCount = 0 then [] else [.clearFlush i]

/-- Every way past back-pressure resets the count unless it is zero. -/
theorem Admits.actions {c₁ : Ctx} {forced : Bool}
    (hpass : Admits i flushCount mode c c₁ forced) :
    c₁.actions = c.actions ++ resetActions i flushCount := by
  cases hpass with
  | idle hcount => rw [resetActions, if_pos hcount, List.append_nil]
  | stale hcount _ => rw [resetActions, if_neg hcount]; rfl
  | forced hcount _ _ => rw [resetActions, if_neg hcount]; rfl

/-- The cached identity is that of the request. -/
structure SameBacking (screen : ScreenInfo) (mode : CurrentMode) : Prop where
  addr : screen.fbSrcAddr = mode.ptr
  width : screen.fbWidth = mode.width
  height : screen.fbHeight = mode.height
  stride : screen.fbStride = mode.stride

theorem backingChanged_eq_false_iff {screen : ScreenInfo} :
    backingChanged screen mode = false ↔
      (∃ obj, screen.front = some obj) ∧ SameBacking screen mode := by
  simp only [backingChanged, Bool.or_eq_false_iff, Option.isNone_eq_false_iff,
    Option.isSome_iff_exists, bne_eq_false_iff_eq]
  constructor
  · rintro ⟨⟨⟨⟨hfront, haddr⟩, hwidth⟩, hheight⟩, hstride⟩
    exact ⟨hfront, haddr, hwidth, hheight, hstride⟩
  · rintro ⟨hfront, haddr, hwidth, hheight, hstride⟩
    exact ⟨⟨⟨⟨hfront, haddr⟩, hwidth⟩, hheight⟩, hstride⟩

/-- What the search of `SetCurrentModeExt` finds on a screen. -/
abbrev foundMode (x : ScreenInfo) (mode : CurrentMode) : Option (Option VideoModeInfo) :=
  searchModes x.modes.modeInfo mode x.modes.modeCount 0

/-- The ways `SetCurrentModeExt` returns. -/
inductive ModeStep (o : Outcomes) (blob : Bool) (i : ScreenId) (flushCount : Nat)
    (mode : CurrentMode) (c : Ctx) : Ctx → NtStatus → PresentPath → Prop
  /-- No entry matches. -/
  | noMode (hfound : foundMode c.screen mode = some none) :
      ModeStep o blob i flushCount mode c c
        (if c.screen.modes.modeCount = 0 then .unsuccessful else .success) .noMode
  /-- The frame is dropped. -/
  | dropped (info : VideoModeInfo) (hfound : foundMode c.screen mode = some (some info))
      (hcount : flushCount ≠ 0) (hset : mode.setMode = false)
      (hstall : c.screen.flushStallCount + 1 < flushStallLimit) :
      ModeStep o blob i flushCount mode c
        { c with screen :=
          { c.screen with flushStallCount := c.screen.flushStallCount + 1 } } .success .dropped
  /-- The front resource is built anew. -/
  | rebuild {c₁ : Ctx} {forced : Bool} (info : VideoModeInfo)
      (hfound : foundMode c.screen mode = some (some info))
      (hpass : Admits i flushCount mode c c₁ forced)
      (hchanged : backingChanged c₁.screen mode = true) :
      ModeStep o blob i flushCount mode c (rebuildFront o blob i info mode c₁) .success
        (.rebuild forced)
  /-- The front resource is reused. -/
  | reuse {c₁ : Ctx} {forced : Bool} (info : VideoModeInfo) (obj : VioGpuObj)
      (hfound : foundMode c.screen mode = some (some info))
      (hpass : Admits i flushCount mode c c₁ forced)
      (hfront : c₁.screen.front = some obj) (hsame : SameBacking c₁.screen mode) :
      ModeStep o blob i flushCount mode c (flushFrameBufferObj o blob i info c₁) .success
        (.reuse forced)

/-- A present below the stall limit is dropped for a counted flush. -/
theorem backPressure_eq_drop (i : ScreenId) (hcount : flushCount ≠ 0) (hset : mode.setMode = false)
    (hstall : c.screen.flushStallCount + 1 < flushStallLimit) :
    backPressure i flushCount mode c =
      ({ c with screen := { c.screen with flushStallCount := c.screen.flushStallCount + 1 } },
        .drop) := by
  simp only [backPressure, clearsStale, hset, Bool.false_and, Bool.false_eq_true, if_false, ne_eq,
    hcount, not_false_eq_true, if_true, ge_iff_le, Nat.not_le.mpr hstall]

/-- Each listed way past back-pressure is taken. -/
theorem Admits.backPressure_eq {c₁ : Ctx} {forced : Bool}
    (hpass : Admits i flushCount mode c c₁ forced) :
    backPressure i flushCount mode c = (c₁, .go forced) := by
  cases hpass with
  | idle hcount => simp [backPressure, clearsStale, hcount]
  | stale hcount hset => simp [backPressure, clearsStale, hcount, hset]
  | forced hcount hset hstall => simp [backPressure, clearsStale, hcount, hset, hstall]

/-- The back-pressure block either drops the frame or admits it in one of the listed
ways. -/
theorem backPressure_spec (i : ScreenId) (flushCount : Nat) (mode : CurrentMode) (c : Ctx) :
    (flushCount ≠ 0 ∧ mode.setMode = false ∧ c.screen.flushStallCount + 1 < flushStallLimit) ∨
    ∃ c₁ forced, Admits i flushCount mode c c₁ forced := by
  by_cases hcount : flushCount = 0
  · exact .inr ⟨_, _, .idle hcount⟩
  · cases hset : mode.setMode with
    | true => exact .inr ⟨_, _, .stale hcount hset⟩
    | false =>
        by_cases hstall : flushStallLimit ≤ c.screen.flushStallCount + 1
        · exact .inr ⟨_, _, .forced hcount hset hstall⟩
        · exact .inl ⟨hcount, rfl, Nat.not_le.mp hstall⟩

/-- Every return of `SetCurrentModeExt` is one of the listed ways. -/
theorem setCurrentModeExt_spec {status : NtStatus} {path : PresentPath}
    (hcall : setCurrentModeExt o blob i flushCount mode c = some (c', status, path)) :
    ModeStep o blob i flushCount mode c c' status path := by
  unfold setCurrentModeExt at hcall
  split at hcall
  next => cases hcall
  next hfound =>
    obtain ⟨rfl, rfl, rfl⟩ := Prod.mk.inj (Option.some.inj hcall) |>.imp_right Prod.mk.inj
    exact .noMode hfound
  next info hfound =>
    have hpresent :
        presentMode o blob i flushCount info mode c = (c', path) ∧ status = .success := by
      obtain ⟨rfl, rfl, rfl⟩ := Prod.mk.inj (Option.some.inj hcall) |>.imp_right Prod.mk.inj
      exact ⟨rfl, rfl⟩
    obtain ⟨hpresent, rfl⟩ := hpresent
    unfold presentMode at hpresent
    rcases backPressure_spec i flushCount mode c with ⟨hcount, hset, hstall⟩ | ⟨c₁, forced, hpass⟩
    · rw [backPressure_eq_drop i hcount hset hstall] at hpresent
      obtain ⟨rfl, rfl⟩ := Prod.mk.inj hpresent
      exact .dropped info hfound hcount hset hstall
    · rw [hpass.backPressure_eq] at hpresent
      dsimp only at hpresent
      cases hchanged : backingChanged c₁.screen mode with
      | true =>
          rw [hchanged, if_pos rfl] at hpresent
          obtain ⟨rfl, rfl⟩ := Prod.mk.inj hpresent
          exact .rebuild info hfound hpass hchanged
      | false =>
          rw [hchanged, if_neg (by decide)] at hpresent
          obtain ⟨rfl, rfl⟩ := Prod.mk.inj hpresent
          obtain ⟨⟨obj, hfront⟩, hsame⟩ := backingChanged_eq_false_iff.mp hchanged
          exact .reuse info obj hfound hpass hfront hsame

/-- The frame gets past back-pressure and finds the front resource to be rebuilt. -/
def Rebuilds (i : ScreenId) (flushCount : Nat) (mode : CurrentMode) (c : Ctx) : Prop :=
  ∃ info c₁ forced, foundMode c.screen mode = some (some info) ∧
    backPressure i flushCount mode c = (c₁, .go forced) ∧ backingChanged c₁.screen mode = true

/-- The frame gets past back-pressure and finds the front resource reusable. -/
def Reuses (i : ScreenId) (flushCount : Nat) (mode : CurrentMode) (c : Ctx) : Prop :=
  ∃ info c₁ forced, foundMode c.screen mode = some (some info) ∧
    backPressure i flushCount mode c = (c₁, .go forced) ∧ backingChanged c₁.screen mode = false

/-- The frame rebuilds the front resource and no check of the creation fails. -/
def Installs (o : Outcomes) (i : ScreenId) (flushCount : Nat) (mode : CurrentMode) (c : Ctx) :
    Prop :=
  ∃ info c₁ forced, foundMode c.screen mode = some (some info) ∧
    backPressure i flushCount mode c = (c₁, .go forced) ∧
    backingChanged c₁.screen mode = true ∧ Buildable o info mode c

/-- A rebuild behind back-pressure can be built just when the context before it says. -/
theorem Admits.buildable_iff {c₁ : Ctx} {forced : Bool}
    (hpass : Admits i flushCount mode c c₁ forced) (info : VideoModeInfo) :
    Buildable o info mode c₁ ↔ Buildable o info mode c :=
  buildable_congr hpass.serial (by rw [hpass.screen])

/-- Only the rebuilding return is taken by a frame that rebuilds. -/
theorem ModeStep.not_rebuilds {status : NtStatus} {path : PresentPath}
    (hmode : ModeStep o blob i flushCount mode c c' status path)
    (hpath : ∀ forced, path ≠ .rebuild forced) : ¬ Rebuilds i flushCount mode c := by
  rintro ⟨info, c₁, forced, hfound, hpressure, hchanged⟩
  cases hmode with
  | noMode hnone => cases hnone.symm.trans hfound
  | dropped _ _ hcount hset hstall =>
      cases (backPressure_eq_drop i hcount hset hstall).symm.trans hpressure
  | rebuild => exact hpath _ rfl
  | reuse _ obj _ hpass hfront hsame =>
      cases hpass.backPressure_eq.symm.trans hpressure
      exact Bool.false_ne_true
        ((backingChanged_eq_false_iff.mpr ⟨⟨obj, hfront⟩, hsame⟩).symm.trans hchanged)

/-- A mode-set call leaves the pointer alone. -/
theorem ModeStep.pointer {status : NtStatus} {path : PresentPath}
    (hmode : ModeStep o blob i flushCount mode c c' status path) :
    c'.screen.cursorSegment = c.screen.cursorSegment ∧
      c'.screen.cursorBuf = c.screen.cursorBuf := by
  cases hmode with
  | noMode => exact ⟨rfl, rfl⟩
  | dropped => exact ⟨rfl, rfl⟩
  | rebuild info hfound hpass hchanged =>
      rw [rebuildFront_screen]
      dsimp only
      rw [hpass.screen]
      exact ⟨rfl, rfl⟩
  | reuse info obj hfound hpass hfront hsame =>
      rw [flushFrameBufferObj_eq _ _ _ _ _ hfront]
      dsimp only
      rw [hpass.screen]
      exact ⟨rfl, rfl⟩

variable {status : NtStatus} {path : PresentPath}

/-- A mode set for an entry that is found rebuilds nothing into nothing: there is no front
to destroy and none can be built, and neither the screen nor its segment changes on the
way. -/
structure InVain (o : Outcomes) (blob : Bool) (flushCount : Nat) (mode : CurrentMode) (c : Ctx)
    (info : VideoModeInfo) : Prop where
  found : foundMode c.screen mode = some (some info)
  idle : flushCount = 0
  stall : c.screen.flushStallCount = 0
  front : c.screen.front = none
  same : SameBacking c.screen mode
  fails : ¬ Buildable o info mode c
  segment : (updatedSegment o info mode c).segment = c.screen.frameSegment
  events : (updatedSegment o info mode c).events = []
  /-- Without blob resources the host is asked for one before the segment is updated. -/
  silent : blob = true ∨ o.accepts (.resourceCreate2D c.idr.getId.1 (colorFormat mode.colorFormat)
    info.visScreenWidth info.visScreenHeight) = false

/-- A mode set leaves no trace: no entry is found, or it is in vain. -/
def LeavesNoTrace (o : Outcomes) (blob : Bool) (flushCount : Nat) (mode : CurrentMode) (c : Ctx) :
    Prop :=
  foundMode c.screen mode = some none ∨ ∃ info, InVain o blob flushCount mode c info

/-- An entry is only found in a list that has one. -/
theorem modeCount_ne_zero {x : ScreenInfo} {info : VideoModeInfo}
    (hfound : foundMode x mode = some (some info)) : x.modes.modeCount ≠ 0 := by
  intro hzero
  rw [foundMode, hzero] at hfound
  cases hfound

/-- The status tells no more than whether the mode list has an entry. -/
theorem ModeStep.success_iff (hmode : ModeStep o blob i flushCount mode c c' status path) :
    status = .success ↔ c.screen.modes.modeCount ≠ 0 := by
  cases hmode with
  | noMode =>
      split
      next hzero => simp [hzero]
      next hpos => simp [hpos]
  | dropped info hfound | rebuild info hfound | reuse info obj hfound =>
      exact iff_of_true rfl (modeCount_ne_zero hfound)

theorem prepareActions_eq_nil_iff {info : VideoModeInfo} {resid : Nat} :
    prepareActions o blob info mode c resid = [] ↔
      (blob = true ∨ o.accepts (.resourceCreate2D resid (colorFormat mode.colorFormat)
        info.visScreenWidth info.visScreenHeight) = false) ∧
      (updatedSegment o info mode c).events = [] := by
  rw [prepareActions, List.append_eq_nil_iff, List.map_eq_nil_iff]
  cases blob <;> simp [submitted]

/-- A rebuild leaves no trace only in vain. -/
theorem inVain_of_rebuildFront {c₁ : Ctx} {forced : Bool} {info : VideoModeInfo}
    (hfound : foundMode c.screen mode = some (some info))
    (hpass : Admits i flushCount mode c c₁ forced)
    (hnumbered : ∀ obj, c.screen.front = some obj → obj.origin.serial < c.serial)
    (hscreen : (rebuildFront o blob i info mode c₁).screen = c.screen)
    (hactions : (rebuildFront o blob i info mode c₁).actions = []) :
    InVain o blob flushCount mode c info := by
  rw [rebuildFront_actions, hpass.actions] at hactions
  simp only [List.append_eq_nil_iff] at hactions
  obtain ⟨⟨⟨⟨-, hreset⟩, -⟩, hprepare⟩, -⟩ := hactions
  have hidle : flushCount = 0 := by
    by_contra hcount
    rw [resetActions, if_neg hcount] at hreset
    cases hreset
  have hpassed : c₁ = { c with screen := { c.screen with flushStallCount := 0 } } := by
    cases hpass with
    | idle => rfl
    | stale hcount | forced hcount => exact absurd hidle hcount
  subst hpassed
  rw [rebuildFront_screen] at hscreen
  have hfails :
      ¬ Buildable o info mode { c with screen := { c.screen with flushStallCount := 0 } } := by
    intro hbuild
    -- the new object has a number the old front cannot have
    have hfront := congrArg ScreenInfo.front hscreen
    simp only [if_pos hbuild] at hfront
    exact Nat.lt_irrefl _ (hnumbered _ hfront.symm)
  have hfront : c.screen.front = none := by
    have hfront := congrArg ScreenInfo.front hscreen
    simp only [if_neg hfails] at hfront
    exact hfront.symm
  obtain ⟨hsilent, hevents⟩ := prepareActions_eq_nil_iff.mp hprepare
  rw [rebuildId, destroyFrameBufferObj_idr] at hsilent
  simp only [hfront] at hsilent
  exact
    { found := hfound
      idle := hidle
      stall := (congrArg ScreenInfo.flushStallCount hscreen).symm
      front := hfront
      same :=
        { addr := (congrArg ScreenInfo.fbSrcAddr hscreen).symm
          width := (congrArg ScreenInfo.fbWidth hscreen).symm
          height := (congrArg ScreenInfo.fbHeight hscreen).symm
          stride := (congrArg ScreenInfo.fbStride hscreen).symm }
      fails := hfails
      segment := congrArg ScreenInfo.frameSegment hscreen
      events := hevents
      silent := hsilent }

/-- A rebuild in vain leaves no trace. -/
theorem InVain.rebuildFront {c₁ : Ctx} {forced : Bool} {info : VideoModeInfo}
    (hvain : InVain o blob flushCount mode c info) (hempty : c.actions = [])
    (hpass : Admits i flushCount mode c c₁ forced) :
    (VirtDisplay.rebuildFront o blob i info mode c₁).screen = c.screen ∧
      (VirtDisplay.rebuildFront o blob i info mode c₁).actions = [] := by
  have hpassed : c₁ = { c with screen := { c.screen with flushStallCount := 0 } } := by
    cases hpass with
    | idle => rfl
    | stale hcount | forced hcount => exact absurd hvain.idle hcount
  subst hpassed
  have hfails :
      ¬ Buildable o info mode { c with screen := { c.screen with flushStallCount := 0 } } :=
    hvain.fails
  have hsegment : (updatedSegment o info mode
      { c with screen := { c.screen with flushStallCount := 0 } }).segment =
        c.screen.frameSegment := hvain.segment
  constructor
  · rw [rebuildFront_screen, if_neg hfails, hsegment, ← hvain.same.addr, ← hvain.same.width,
      ← hvain.same.height, ← hvain.same.stride, ← hvain.front]
    show { c.screen with flushStallCount := 0 } = c.screen
    rw [← hvain.stall]
  · rw [rebuildFront_actions, if_neg hfails, hempty, destroyFrontActions]
    simp only [hvain.front, List.append_nil, List.nil_append]
    refine prepareActions_eq_nil_iff.mpr ⟨?_, hvain.events⟩
    rw [rebuildId, destroyFrameBufferObj_idr]
    exact hvain.silent

/-- A mode set leaves the screen as it is and does nothing others see just when it leaves
no trace. -/
theorem ModeStep.untouched_iff (hmode : ModeStep o blob i flushCount mode c c' status path)
    (hempty : c.actions = [])
    (hnumbered : ∀ obj, c.screen.front = some obj → obj.origin.serial < c.serial) :
    c'.screen = c.screen ∧ c'.actions = [] ↔ LeavesNoTrace o blob flushCount mode c := by
  cases hmode with
  | noMode hfound => exact iff_of_true ⟨rfl, hempty⟩ (.inl hfound)
  | dropped info hfound hcount =>
      refine iff_of_false (fun huntouched => ?_) ?_
      · exact absurd (congrArg ScreenInfo.flushStallCount huntouched.1) (Nat.succ_ne_self _)
      · rintro (hnone | ⟨info', hvain⟩)
        · cases hnone.symm.trans hfound
        · exact hcount hvain.idle
  | rebuild info hfound hpass hchanged =>
      constructor
      · rintro ⟨hscreen, hactions⟩
        exact .inr ⟨info, inVain_of_rebuildFront hfound hpass hnumbered hscreen hactions⟩
      · rintro (hnone | ⟨info', hvain⟩)
        · cases hnone.symm.trans hfound
        · cases hvain.found.symm.trans hfound
          exact hvain.rebuildFront hempty hpass
  | reuse info obj hfound hpass hfront hsame =>
      refine iff_of_false (fun huntouched => ?_) ?_
      · rw [flushFrameBufferObj_eq _ _ _ _ _ hfront] at huntouched
        simp at huntouched
      · rintro (hnone | ⟨info', hvain⟩)
        · cases hnone.symm.trans hfound
        · rw [hpass.screen] at hfront
          cases hvain.front.symm.trans hfront

end VirtDisplay
