/-
# The bytes a black-out zeroes

`IoctlRequestSetMode` zeroes `height * pitch` bytes, as its own request counts them, at
the address its screen's segment has after `SetCurrentModeExt`. Nothing relates this
length to the segment: a request without a matching mode succeeds and leaves the segment
of another mode, a reuse compares everything but the pitch, and a failed segment update
can leave an address behind with no memory. The black-out also holds no mutex, nor does the
read of the address before it, so that another request can replace the segment under either.

`BlackOutsCovered` is the condition that excludes these, and under it every black-out
stays within the segment.
-/

import VirtDisplay.Adapter.Runs

namespace VirtDisplay

open Transition

/-- The segment is not mapped, or has the bytes of the frame. -/
def Covers (segment : Segment) (f : AcceptedFrame) : Prop :=
  segment.vAddr = 0 ∨ f.frame.height * f.frame.pitch ≤ segment.size

/-- The segment update of a rebuild does not fail after it has set the address. -/
def UpdateCovers (o : Outcomes) (segment : Segment) (f : AcceptedFrame) : Prop :=
  if f.frame.addr ≠ 0 then o.allocMdl = true
  else Covers segment f ∨ o.sysAddr = 0 ∨ Segment.Lockable o

/-- A `SET_MODE` leaves a segment that covers its frame, if it is going to black it
out. -/
def LeavesCovered (a : Adapter) (s : Shared) (r : Request) : Prop :=
  (RebuildsFront a s r → UpdateCovers r.outcomes (a.screens r.screen).frameSegment r.frame) ∧
  (¬ RebuildsFront a s r →
    (a.screens r.screen).modes.modeCount = 0 ∨ Covers (a.screens r.screen).frameSegment r.frame)

/-- No black-out is pending for this screen that would zero anything. -/
def NoneOwed (a : Adapter) (j : ScreenId) : Prop :=
  ∀ mode ∈ a.pendingBlackOuts, mode.targetId = j → blackOutBytes mode = 0

/-- A rebuild for a frame leaves a segment with room for so many bytes: it keeps the segment,
or gets all of a new one, which is large enough. -/
def KeepsRoom (o : Outcomes) (segment : Segment) (f : AcceptedFrame) (bytes : Nat) : Prop :=
  (f.frame.addr = 0 ∧ Covers segment f) ∨
    ((f.frame.addr ≠ 0 ∨ o.sysAddr ≠ 0) ∧ Segment.Lockable o ∧
      bytes ≤ roundToPages (f.frame.pitch * f.frame.height))

/-- A rebuild for a frame leaves a segment with room for the black-out of another one, whose
address is yet to be read, or at once a segment without an address. -/
def KeepsRoomToRead (o : Outcomes) (segment : Segment) (f owed : AcceptedFrame) : Prop :=
  KeepsRoom o segment f (owed.frame.height * owed.frame.pitch) ∨
    (f.frame.addr = 0 ∧ o.sysAddr = 0)

/-- The moves that keep every black-out within its segment. -/
def BlackOutsCovered (m : Machine) : Move → Prop
  | .call call =>
      (∀ r, call.request = some r → r.setMode = true → LeavesCovered m.priv m.shared r) ∧
      (∀ r, call.request = some r → RebuildsFront m.priv m.shared r →
        (∀ f ∈ m.priv.unreadBlackOuts, f.screen = r.screen →
          KeepsRoomToRead r.outcomes (m.priv.screens r.screen).frameSegment r.frame f) ∧
        ∀ mode ∈ m.priv.pendingBlackOuts, mode.targetId = r.screen → blackOutBytes mode = 0 ∨
          KeepsRoom r.outcomes (m.priv.screens r.screen).frameSegment r.frame
            (blackOutBytes mode)) ∧
      (∀ (j : ScreenId) o, call = .releaseFb j.val o → NoneOwed m.priv j)
  | _ => True

theorem blackOutBytes_blackOutRequest (f : AcceptedFrame) (vAddr : Nat) :
    blackOutBytes (f.blackOutRequest vAddr) =
      if vAddr ≠ 0 then f.frame.height * f.frame.pitch else 0 := by
  have hmod := f.pitch_mul_height_mod
  rw [Nat.mul_comm f.frame.pitch] at hmod
  unfold blackOutBytes AcceptedFrame.blackOutRequest
  by_cases haddr : vAddr ≠ 0
  · simp only [haddr, not_false_eq_true, and_self, if_true, hmod, ne_eq]
  · simp only [haddr, and_false, if_false]

/-- A covered black-out fits. -/
theorem blackOutBytes_le {segment : Segment} {f : AcceptedFrame} (hcovers : Covers segment f) :
    blackOutBytes (f.blackOutRequest segment.vAddr) ≤ segment.size := by
  rw [blackOutBytes_blackOutRequest]
  rcases hcovers with hnull | hfits
  · rw [if_neg (not_not.mpr hnull)]
    exact Nat.zero_le _
  · split
    next => exact hfits
    next => exact Nat.zero_le _

/-- The segment a frame's bytes are rounded up to has room for them. -/
theorem frame_le_pagedSize (f : AcceptedFrame) :
    f.frame.height * f.frame.pitch ≤ pagedSize (f.frame.pitch * f.frame.height) := by
  rw [pagedSize_eq_roundToPages f.pitch_mul_height_le, Nat.mul_comm]
  exact Pages.le_roundUp (by decide)

theorem covers_initExt {o : Outcomes} {mdl userAddr : Nat} {segment : Segment} {f : AcceptedFrame}
    (halloc : o.allocMdl = true) :
    Covers (Segment.initExt o mdl (f.frame.pitch * f.frame.height) userAddr segment).segment f := by
  unfold Segment.initExt
  dsimp only
  rw [if_neg (not_not.mpr halloc)]
  split
  next =>
    split
    next => exact .inl rfl
    next =>
      split
      next => exact .inl rfl
      next => exact .inr (frame_le_pagedSize f)
  next => exact .inl rfl

theorem covers_init {o : Outcomes} {mdl : Nat} {segment : Segment} {f : AcceptedFrame}
    (hok : o.sysAddr = 0 ∨ Segment.Lockable o) :
    Covers (Segment.init o mdl (f.frame.pitch * f.frame.height) segment).segment f := by
  unfold Segment.init
  dsimp only
  by_cases haddr : o.sysAddr = 0
  · rw [if_pos haddr]
    exact .inl rfl
  · obtain ⟨halloc, hlock, hlist⟩ := hok.resolve_left haddr
    rw [if_neg haddr, if_neg (not_not.mpr halloc), if_neg (not_not.mpr hlock),
      if_neg (not_not.mpr hlist)]
    exact .inr (frame_le_pagedSize f)

/-- A rebuild that does not fail after setting the address leaves a segment that covers
its frame. -/
theorem covers_updateFrameSegment {o : Outcomes} {mdl : Nat} {segment : Segment}
    {f : AcceptedFrame} (hok : UpdateCovers o segment f) :
    Covers (updateFrameSegment o mdl (f.frame.pitch * f.frame.height) f.frame.addr
      segment).segment f := by
  unfold UpdateCovers at hok
  unfold updateFrameSegment
  by_cases haddr : f.frame.addr ≠ 0
  · rw [if_pos haddr] at hok ⊢
    split
    next => exact covers_initExt hok
    next => exact covers_initExt hok
  · rw [if_neg haddr] at hok ⊢
    split
    next hgrow =>
      refine covers_init (hok.resolve_left fun hcovers => ?_)
      rcases hcovers with hnull | hfits
      · exact hgrow.1 hnull
      · rw [Nat.mul_comm] at hfits
        exact absurd hfits (Nat.not_le.mpr hgrow.2)
    next hgrow =>
      rw [not_and_or, not_not, Nat.not_lt] at hgrow
      apply hgrow.imp id
      intro hfits
      rwa [Nat.mul_comm]

/-- What a rebuild that keeps room leaves is the segment as it was, or has the room. -/
theorem KeepsRoom.updateFrameSegment {o : Outcomes} {bytes : Nat} {segment : Segment}
    {f : AcceptedFrame} (hkeeps : KeepsRoom o segment f bytes) (mdl : Nat) :
    (updateFrameSegment o mdl (f.frame.pitch * f.frame.height) f.frame.addr segment).segment =
        segment ∨
      bytes ≤ (updateFrameSegment o mdl (f.frame.pitch * f.frame.height) f.frame.addr
        segment).segment.size := by
  have hpaged : pagedSize (f.frame.pitch * f.frame.height) =
      roundToPages (f.frame.pitch * f.frame.height) :=
    pagedSize_eq_roundToPages f.pitch_mul_height_le
  unfold VirtDisplay.updateFrameSegment
  rcases hkeeps with ⟨haddr, hcovers⟩ | ⟨haddr, ⟨halloc, hlock, hlist⟩, hroom⟩
  · have hsame : ¬ (segment.vAddr ≠ 0 ∧ f.frame.pitch * f.frame.height > segment.size) := by
      rintro ⟨hmapped, hgrow⟩
      rw [Nat.mul_comm] at hgrow
      exact Nat.not_le.mpr hgrow (hcovers.resolve_left hmapped)
    rw [if_neg (not_not.mpr haddr), if_neg hsame]
    exact .inl rfl
  · have hinitExt : ∀ before : Segment, f.frame.addr ≠ 0 →
        (Segment.initExt o mdl (f.frame.pitch * f.frame.height) f.frame.addr before).segment.size =
          roundToPages (f.frame.pitch * f.frame.height) := by
      intro before haddr
      have hsize : 0 < pagedSize (f.frame.pitch * f.frame.height) :=
        hpaged ▸ f.size_pos.trans_le (Pages.le_roundUp (by decide))
      have hok := (Segment.initExt_ok_iff o mdl before hsize haddr).mpr ⟨halloc, hlock, hlist⟩
      rw [(Segment.initExt_of_ok hok).1]
      exact hpaged
    by_cases hptr : f.frame.addr ≠ 0
    · right
      rw [if_pos hptr]
      split
      next => exact hroom.trans_eq (hinitExt _ hptr).symm
      next => exact hroom.trans_eq (hinitExt _ hptr).symm
    · rw [if_neg hptr]
      have hsys : ¬ o.sysAddr = 0 := haddr.resolve_left hptr
      split
      next =>
        right
        unfold Segment.init
        dsimp only
        rw [if_neg hsys, if_neg (not_not.mpr halloc), if_neg (not_not.mpr hlock),
          if_neg (not_not.mpr hlist)]
        exact hroom.trans_eq hpaged.symm
      next => exact .inl rfl

/-- Where no system memory is needed or none can be had, a rebuild leaves the segment as it was or
without an address. -/
theorem updateFrameSegment_of_no_memory {o : Outcomes} {size : Nat} {segment : Segment} (mdl : Nat)
    (hsys : o.sysAddr = 0) :
    (updateFrameSegment o mdl size 0 segment).segment = segment ∨
      (updateFrameSegment o mdl size 0 segment).segment.vAddr = 0 := by
  unfold updateFrameSegment
  rw [if_neg (not_not.mpr rfl)]
  split
  next =>
    right
    unfold Segment.init
    dsimp only
    rw [if_pos hsys]
  next => exact .inl rfl

/-- A black-out whose bytes a rebuild keeps room for is covered by what it leaves. -/
theorem KeepsRoomToRead.covers {o : Outcomes} {mdl : Nat} {segment : Segment}
    {f owed : AcceptedFrame} (hkeeps : KeepsRoomToRead o segment f owed)
    (hcovers : Covers segment owed) :
    Covers (updateFrameSegment o mdl (f.frame.pitch * f.frame.height) f.frame.addr
      segment).segment owed := by
  rcases hkeeps with hroom | ⟨haddr, hsys⟩
  · rcases hroom.updateFrameSegment mdl with hsame | hle
    · rwa [hsame]
    · exact .inr hle
  · rw [haddr]
    rcases updateFrameSegment_of_no_memory mdl hsys with hsame | hnull
    · rwa [hsame]
    · exact .inl hnull

section

variable {o : Outcomes} {blob : Bool} {i : ScreenId} {flushCount : Nat} {mode : CurrentMode}
  {c c' : Ctx} {status : NtStatus} {path : PresentPath}

/-- Only a rebuild changes the segment. -/
theorem ModeStep.frameSegment (hmode : ModeStep o blob i flushCount mode c c' status path) :
    (¬ Rebuilds i flushCount mode c ∧ c'.screen.frameSegment = c.screen.frameSegment) ∨
      (Rebuilds i flushCount mode c ∧ c'.screen.frameSegment =
        (updateFrameSegment o c.serial (mode.pitch * mode.height % 2 ^ 32) mode.ptr
          c.screen.frameSegment).segment) := by
  have hkept := hmode.not_rebuilds
  cases hmode with
  | noMode => exact .inl ⟨hkept (by simp), rfl⟩
  | dropped => exact .inl ⟨hkept (by simp), rfl⟩
  | @rebuild c₁ forced info hfound hpass hchanged =>
      right
      obtain ⟨-, hheight⟩ := size_of_searchModes hfound
      refine ⟨⟨info, c₁, forced, hfound, hpass.backPressure_eq, hchanged⟩, ?_⟩
      rw [rebuildFront_screen]
      show (updateFrameSegment o c₁.serial (mode.pitch * info.visScreenHeight % 2 ^ 32) mode.ptr
        c₁.screen.frameSegment).segment = _
      rw [hheight, hpass.serial, hpass.screen]
  | reuse info obj hfound hpass hfront hsame =>
      refine .inl ⟨hkept (by simp), ?_⟩
      rw [flushFrameBufferObj_eq _ _ _ _ _ hfront]
      dsimp only
      rw [hpass.screen]

/-- With an empty mode list the call reports a failure. -/
theorem ModeStep.status_of_empty (hmode : ModeStep o blob i flushCount mode c c' status path)
    (hempty : c.screen.modes.modeCount = 0) : status = .unsuccessful := by
  have hnone : foundMode c.screen mode = some none := by
    unfold foundMode
    rw [hempty]
    rfl
  cases hmode with
  | noMode => exact if_pos hempty
  | dropped _ hfound => cases hnone.symm.trans hfound
  | rebuild _ hfound => cases hnone.symm.trans hfound
  | reuse _ _ hfound => cases hnone.symm.trans hfound

end

/-- A covered `SET_MODE` that is going to black its screen out leaves a segment that
covers its frame. -/
theorem LeavesCovered.covers {a : Adapter} {s : Shared} {r : Request} {c' : Ctx}
    {status : NtStatus} {path : PresentPath} (hok : LeavesCovered a s r)
    (hmode : ModeStep r.outcomes a.blobSupported r.screen (s.flushCount r.screen) r.mode
      (a.ctx r.screen) c' status path) (hsuccess : status = .success) :
    Covers c'.screen.frameSegment r.frame := by
  rcases hmode.frameSegment with ⟨hkept, hsegment⟩ | ⟨hrebuilds, hsegment⟩
  · rw [hsegment]
    apply (hok.2 hkept).resolve_left
    intro hempty
    cases hsuccess.symm.trans (hmode.status_of_empty hempty)
  · rw [hsegment, r.mode_pitch, r.mode_height, r.mode_ptr, r.frame.pitch_mul_height_mod]
    exact covers_updateFrameSegment (hok.1 hrebuilds)

/-- The black-outs that are to come fit the segments there are now, and those on record fitted
theirs. -/
structure BlackOutsBounded (a : Adapter) (log : List Record) : Prop where
  unread : ∀ f ∈ a.unreadBlackOuts, Covers (a.screens f.screen).frameSegment f
  pending : ∀ mode ∈ a.pendingBlackOuts,
    blackOutBytes mode ≤ (a.screens mode.targetId).frameSegment.size
  recorded : ∀ mode bytes size, Record.blackOut mode bytes size ∈ log → bytes ≤ size

/-- A record that is of no black-out adds nothing. -/
theorem BlackOutsBounded.recorded_cons {a : Adapter} {log : List Record} {record : Record}
    (hinv : BlackOutsBounded a log)
    (hother : ∀ mode bytes size, record ≠ .blackOut mode bytes size) :
    ∀ mode bytes size, Record.blackOut mode bytes size ∈ record :: log → bytes ≤ size := by
  intro mode bytes size hmem
  rcases List.mem_cons.mp hmem with heq | hmem
  · exact absurd heq.symm (hother mode bytes size)
  · exact hinv.recorded mode bytes size hmem

/-- A change that leaves every frame segment and the black-outs to come alone keeps them
bounded. -/
theorem BlackOutsBounded.congr {a a' : Adapter} {log log' : List Record}
    (hinv : BlackOutsBounded a log)
    (hsegments : ∀ j, (a'.screens j).frameSegment = (a.screens j).frameSegment)
    (hunread : a'.unreadBlackOuts = a.unreadBlackOuts)
    (hpending : a'.pendingBlackOuts = a.pendingBlackOuts)
    (hrecorded : ∀ mode bytes size, Record.blackOut mode bytes size ∈ log' → bytes ≤ size) :
    BlackOutsBounded a' log' where
  unread f hmem := by
    rw [hsegments]
    exact hinv.unread f (hunread ▸ hmem)
  pending mode hmem := by
    rw [hsegments]
    exact hinv.pending mode (hpending ▸ hmem)
  recorded := hrecorded

/-- Replacing one screen keeps what is said of the segments of the screens, if it still holds of
that one. -/
theorem Adapter.withCtx_frameSegment {a : Adapter} {i : ScreenId} {c : Ctx} {P : Segment → Prop}
    (j : ScreenId) (hkept : P (a.screens j).frameSegment)
    (hown : j = i → P (a.screens i).frameSegment → P c.screen.frameSegment) :
    P ((a.withCtx i c).screens j).frameSegment := by
  by_cases hscreen : j = i
  · subst hscreen
    rw [Adapter.withCtx_screens_self]
    exact hown rfl hkept
  · rwa [Adapter.withCtx_screens_of_ne hscreen]

theorem Adapter.withCtx_frameSegment_eq {a : Adapter} {i : ScreenId} {c : Ctx}
    (hsame : c.screen.frameSegment = (a.screens i).frameSegment) (j : ScreenId) :
    ((a.withCtx i c).screens j).frameSegment = (a.screens j).frameSegment :=
  Adapter.withCtx_frameSegment (P := (· = (a.screens j).frameSegment)) j rfl
    fun hij _ => hij ▸ hsame

theorem forScreens_blackOuts (f : ScreenId → Ctx → Ctx) (todo : List ScreenId) (a : Adapter) :
    (forScreens f todo a).1.unreadBlackOuts = a.unreadBlackOuts ∧
      (forScreens f todo a).1.pendingBlackOuts = a.pendingBlackOuts := by
  induction todo generalizing a with
  | nil => exact ⟨rfl, rfl⟩
  | cons i todo ih =>
      simp only [forScreens]
      exact ih _

/-- A mode-set call that is covered keeps the black-outs bounded. -/
theorem BlackOutsBounded.mode {m : Machine} {call : Call} {r : Request} {c' : Ctx}
    {status : NtStatus} {path : PresentPath} (hinv : BlackOutsBounded m.priv m.log)
    (hok : BlackOutsCovered m (.call call)) (hrequest : call.request = some r)
    (hmode : ModeStep r.outcomes m.priv.blobSupported r.screen (m.shared.flushCount r.screen)
      r.mode (m.priv.ctx r.screen) c' status path) :
    BlackOutsBounded
      { m.priv.withCtx r.screen c' with
        unreadBlackOuts := m.priv.unreadBlackOuts ++ r.owedBlackOuts status }
      (.mode r.frame r.setMode status path :: m.log) := by
  obtain ⟨hset, hrebuild, -⟩ := hok
  have hsegment : c'.screen.frameSegment = (m.priv.screens r.screen).frameSegment ∨
      (RebuildsFront m.priv m.shared r ∧ ∃ mdl, c'.screen.frameSegment =
        (updateFrameSegment r.outcomes mdl (r.frame.frame.pitch * r.frame.frame.height)
          r.frame.frame.addr (m.priv.screens r.screen).frameSegment).segment) := by
    rcases hmode.frameSegment with ⟨-, hsame⟩ | ⟨hrebuilds, hupdated⟩
    · exact .inl hsame
    · rw [r.mode_pitch, r.mode_height, r.mode_ptr, r.frame.pitch_mul_height_mod] at hupdated
      exact .inr ⟨hrebuilds, _, hupdated⟩
  refine ⟨fun f hmem => ?_, fun mode hmem => ?_, hinv.recorded_cons (by simp)⟩
  · rcases List.mem_append.mp hmem with hmem | hmem
    · refine Adapter.withCtx_frameSegment (P := fun segment => Covers segment f) f.screen
        (hinv.unread f hmem) fun hscreen hcovers => ?_
      rcases hsegment with hsame | ⟨hrebuilds, mdl, hupdated⟩
      · rwa [hsame]
      · rw [hupdated]
        exact ((hrebuild r hrequest hrebuilds).1 f hmem hscreen).covers hcovers
    · -- the black-out this request owes itself
      unfold Request.owedBlackOuts at hmem
      split at hmem
      next howes =>
        obtain rfl := List.mem_singleton.mp hmem
        show Covers ((m.priv.withCtx r.screen c').screens r.screen).frameSegment r.frame
        rw [Adapter.withCtx_screens_self]
        exact (hset r hrequest howes.1).covers hmode howes.2
      next => cases hmem
  · refine Adapter.withCtx_frameSegment (P := fun segment => blackOutBytes mode ≤ segment.size)
      mode.targetId (hinv.pending mode hmem) fun hscreen hfits => ?_
    rcases hsegment with hsame | ⟨hrebuilds, mdl, hupdated⟩
    · rwa [hsame]
    · rw [hupdated]
      rcases (hrebuild r hrequest hrebuilds).2 mode hmem hscreen with hzero | hroom
      · rw [hzero]
        exact Nat.zero_le _
      · rcases hroom.updateFrameSegment mdl with hsame | hle
        · rwa [hsame]
        · exact hle

/-- A call that keeps black-outs covered keeps them bounded. -/
theorem BlackOutsBounded.call {m : Machine} {call : Call} {a' : Adapter} {actions : List Action}
    {record : Record} (hinv : BlackOutsBounded m.priv m.log)
    (hok : BlackOutsCovered m (.call call))
    (hcall : CallStep m.priv m.shared call a' actions record) :
    BlackOutsBounded a' (record :: m.log) := by
  cases hcall with
  | rejected => exact hinv.congr (fun _ => rfl) rfl rfl (hinv.recorded_cons (by simp))
  | mode r hrequest hmode => exact hinv.mode hok hrequest hmode
  | getFbVAddr k f _ hunread =>
      have hmem : f ∈ m.priv.unreadBlackOuts := List.mem_of_getElem? hunread
      refine ⟨fun f' hmem' => hinv.unread f' (List.mem_of_mem_eraseIdx hmem'), fun mode hmode => ?_,
        hinv.recorded_cons (by simp)⟩
      rcases List.mem_append.mp hmode with hmode | hmode
      · exact hinv.pending mode hmode
      · obtain rfl := List.mem_singleton.mp hmode
        exact blackOutBytes_le (hinv.unread f hmem)
  | blackOut k o mode _ hpending =>
      have hmem : mode ∈ m.priv.pendingBlackOuts := List.mem_of_getElem? hpending
      have hkept : BlackOutsBounded (m.priv.withCtx mode.targetId
          (blackOutScreen o mode.targetId mode (m.priv.ctx mode.targetId))) m.log :=
        hinv.congr (Adapter.withCtx_frameSegment_eq (by rw [blackOutScreen_screen]; rfl)) rfl rfl
          hinv.recorded
      refine ⟨hkept.unread,
        fun mode' hmem' => hkept.pending mode' (List.mem_of_mem_eraseIdx hmem'), ?_⟩
      intro mode' bytes size hrecord
      rcases List.mem_cons.mp hrecord with heq | hrecord
      · cases heq
        exact hinv.pending mode hmem
      · exact hinv.recorded mode' bytes size hrecord
  | release i o hcall =>
      refine ⟨fun f hmem => ?_, fun mode hmem => ?_, hinv.recorded_cons (by simp)⟩
      · refine Adapter.withCtx_frameSegment (P := fun segment => Covers segment f) f.screen
          (hinv.unread f hmem) fun _ _ => .inl ?_
        rw [(releaseFrameBuffer_released o i _).frameSegment]
        rfl
      · refine Adapter.withCtx_frameSegment (P := fun segment => blackOutBytes mode ≤ segment.size)
          mode.targetId (hinv.pending mode hmem) fun hscreen _ => ?_
        rw [hok.2.2 i o hcall mode hmem hscreen]
        exact Nat.zero_le _
  | cursorData i shape format o _ =>
      have hframe := (setPointerShape_spec o m.priv.blobSupported i shape format
        (m.priv.ctx i)).frame.frameSegment
      exact hinv.congr (Adapter.withCtx_frameSegment_eq hframe) rfl rfl
        (hinv.recorded_cons (by simp))
  | cursorPos i x y o _ =>
      have hscreen := (setPointerPosition_spec o i (m.priv.ctx i) x y).1
      exact hinv.congr (Adapter.withCtx_frameSegment_eq (congrArg (·.frameSegment) hscreen)) rfl rfl
        (hinv.recorded_cons (by simp))
  | hotPlug => exact hinv.congr (fun _ => rfl) rfl rfl (hinv.recorded_cons (by simp))
  | d0Exit o _ hunread hpending =>
      have hempty : (d0Exit o m.priv).1.unreadBlackOuts = m.priv.unreadBlackOuts ∧
          (d0Exit o m.priv).1.pendingBlackOuts = m.priv.pendingBlackOuts := by
        simp only [d0Exit, forScreens_blackOuts, and_self]
      rw [hunread, hpending] at hempty
      refine ⟨fun f hmem => ?_, fun mode hmem => ?_, hinv.recorded_cons (by simp)⟩
      · rw [hempty.1] at hmem
        cases hmem
      · rw [hempty.2] at hmem
        cases hmem
  | d0Entry => exact hinv.congr (fun _ => rfl) rfl rfl (hinv.recorded_cons (by simp))

end VirtDisplay
