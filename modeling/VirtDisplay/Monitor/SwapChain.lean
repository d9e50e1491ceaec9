/-
# The staging texture of a swap chain

A swap chain copies each frame to a staging texture and hands the address of its mapping
to the kernel driver, by SET_MODE when the resolution changed or the mapping moved, and by
FRAME_DATA for each frame. The kernel driver locks the pages behind the address and builds
the screen's front resource over them, for whichever of the two requests comes first, and
keeps both until RELEASE_FB.

So the texture should not be released before that. The user-mode driver remembers that
there is something to release once a FRAME_DATA has succeeded. The kernel driver holds the
pages from the first request on that it builds something for.

A swap chain is followed here beside the adapter of the kernel driver; the calls of other
clients of the adapter come in between. Whether a request of the swap chain made the kernel
driver build, and what the screen was when a texture was released, is recorded.
-/

import VirtDisplay.Adapter.Runs
import VirtDisplay.Adapter.ScreenSpec

namespace VirtDisplay

open Transition

/-- Where a swap chain is. -/
inductive ChainPhase
  /-- Not begun, or cleaned up. -/
  | ended
  /-- Between two frames. -/
  | waiting
  /-- In `GetFrameData`, before SET_MODE. -/
  | settingMode
  /-- In `GetFrameData`, before FRAME_DATA. -/
  | presenting
  /-- `RunCore` has left its loop. -/
  | left
  deriving DecidableEq

/-- `SwapChainProcessor` -/
structure SwapChain where
  phase : ChainPhase
  resolutionChanged : Bool
  /-- `m_destimage` is not null. -/
  destimage : Bool
  stagingMapped : Bool
  framedata : FrameMetaData
  lastReportedAddr : Nat
  stagingAddrValid : Bool

/-- What the environment answers to `GetFrameData` up to its requests. -/
structure FrameAnswers where
  /-- The desktop image is valid. -/
  image : Bool
  width : Nat
  height : Nat
  format : Nat
  /-- `CreateTexture2D` accepts the descriptor. -/
  descriptorValid : Bool
  textureCreated : Bool
  /-- The address and the row pitch of the mapping, if `Map` succeeds. -/
  mapped : Option (Nat × Nat)

/-- A frame for which nothing fails, at the given place. -/
def FrameAnswers.good (addr : Nat) : FrameAnswers :=
  ⟨true, 1024, 768, frameTypeBgra, true, true, some (addr, 4096)⟩

namespace SwapChain

/-- `init` and the constructor. -/
def init : SwapChain where
  phase := .waiting
  resolutionChanged := true
  destimage := false
  stagingMapped := false
  framedata := ⟨0, 0, 0, 0, 0, 0, 0⟩
  lastReportedAddr := 0
  stagingAddrValid := false

/-- The swap chain before and after its life. -/
def none : SwapChain := { init with phase := .ended }

variable (x : FrameAnswers) (c : SwapChain)

/-- `RunCore` leaves its loop, as behind every failure of `GetFrameData`. -/
def leave : SwapChain := { c with phase := .left }

/-- The texture is unmapped and released. -/
def dropStaging : SwapChain := { c with destimage := false, stagingMapped := false }

/-- The branch for a changed resolution. -/
def renewStaging : SwapChain :=
  let c := c.dropStaging
  let c := { c with framedata := { c.framedata with
    width := x.width, height := x.height, colorFormat := x.format } }
  if ¬ x.descriptorValid then c.leave
  else if ¬ x.textureCreated then c.leave
  else { c with destimage := true }

/-- The copy, with the texture unmapped, and the new mapping. -/
def mapStaging (screenNum : ScreenId) : SwapChain :=
  let c := { c with stagingMapped := false }
  match x.mapped with
  | .none => c.dropStaging.leave
  | .some (addr, rowPitch) =>
      let moved := c.stagingAddrValid && c.lastReportedAddr != addr
      let resolutionChanged := c.resolutionChanged || moved
      { c with
        stagingMapped := true
        resolutionChanged := resolutionChanged
        framedata := { c.framedata with
          pitch := rowPitch, stride := rowPitch / 4, addr := addr, screenNum := screenNum }
        phase := if resolutionChanged then .settingMode else .presenting }

/-- `GetFrameData` up to its requests. -/
def getFrame (screenNum : ScreenId) : SwapChain :=
  if ¬ x.image then c.leave
  else
    let c := if c.resolutionChanged then c.renewStaging x else c
    if c.phase = .left then c else c.mapStaging x screenNum

/-- SET_MODE has succeeded. -/
def modeSet : SwapChain := { c with resolutionChanged := false, phase := .presenting }

/-- FRAME_DATA has succeeded. -/
def presented : SwapChain :=
  { c with lastReportedAddr := c.framedata.addr, stagingAddrValid := true, phase := .waiting }

/-- `GetFrameData` comes to releasing a texture: one that a new one replaces, or one that
could not be mapped again. -/
def ReleasesTexture : Prop :=
  x.image = true ∧ (c.resolutionChanged = true ∧ c.destimage = true ∨ x.mapped = .none ∧
    (c.resolutionChanged = true → x.descriptorValid = true ∧ x.textureCreated = true))

instance : Decidable (c.ReleasesTexture x) := inferInstanceAs (Decidable (_ ∧ (_ ∨ _ ∧ _)))

end SwapChain

/-- The kernel driver holds neither a front resource nor locked user pages. -/
def ScreenInfo.clear (x : ScreenInfo) : Bool :=
  x.front.isNone && !(x.frameSegment.userMemory && x.frameSegment.mdl.isSome)

/-- The record of a request that succeeded. -/
def Record.succeeded : Record → Bool
  | .mode _ _ .success _ => true
  | _ => false

/-- The record of a request that rebuilt the front resource. -/
def Record.rebuilds : Record → Bool
  | .mode _ _ _ (.rebuild _) => true
  | _ => false

/-- A call that is not a frame or a release of screen `i`: what others may ask of the adapter
meanwhile. -/
def Call.foreign (i : ScreenId) : Call → Bool
  | .setMode frame _ _ | .present frame _ _ => frame.screenNum ≠ i.val
  | .releaseFb screenNum _ => screenNum ≠ i.val
  | _ => true

/-- How the kernel driver answers a request of the swap chain that reaches its adapter. -/
structure IoctlAnswer where
  shared : Shared
  probed : Bool
  outcomes : Outcomes
  /-- Nothing fails behind the adapter's function. -/
  responds : Bool

/-- A request for which nothing fails. -/
def IoctlAnswer.good : IoctlAnswer := ⟨.initial, true, .good, true⟩

/-- The swap chain of a screen, and the adapter. -/
structure Streaming where
  chain : SwapChain
  adapter : Adapter
  /-- A request of this swap chain made the kernel driver rebuild the front resource. -/
  built : Bool
  /-- For each release of a texture, newest first, whether the screen was clear. -/
  releases : List Bool

namespace Streaming

variable (i : ScreenId) (s : Streaming)

/-- The texture is released, if there is one. -/
def noteRelease (released : Bool) : Streaming :=
  { s with releases := if released then (s.adapter.screens i).clear :: s.releases else s.releases }

/-- What can happen. A missing answer is a request that fails before it reaches the adapter. -/
inductive Label
  /-- A swap chain is assigned. -/
  | start
  | frame (x : FrameAnswers)
  | setMode (answer : Option IoctlAnswer)
  | frameData (answer : Option IoctlAnswer)
  /-- `RunCore` is left, because it was told to or another of its calls failed. -/
  | leave
  | cleanup (answer : Option IoctlAnswer)
  /-- Another call to the adapter. -/
  | other (shared : Shared) (call : Call)

/-- A request of the swap chain at the adapter, or before it. -/
def ask (request : IoctlAnswer → Call) (success : SwapChain → SwapChain) :
    Option IoctlAnswer → Option Streaming
  | none => some { s with chain := s.chain.leave }
  | some x => (exec s.adapter x.shared (request x)).map fun (adapter, _, record) =>
      { s with
        chain := if record.succeeded && x.responds then success s.chain else s.chain.leave
        adapter := adapter
        built := s.built || record.rebuilds }

/-- RELEASE_FB, if `cleanup_resources` sends it. -/
def releaseFb (answer : Option IoctlAnswer) : Option Adapter :=
  if s.chain.stagingAddrValid then
    match answer with
    | none => some s.adapter
    | some x => (exec s.adapter x.shared (.releaseFb i.val x.outcomes)).map Prod.fst
  else some s.adapter

/-- `cleanup_resources` -/
def cleanup (answer : Option IoctlAnswer) : Option Streaming :=
  (s.releaseFb i answer).map fun adapter =>
    { noteRelease i { s with adapter := adapter } s.chain.destimage with
      chain := .none
      built := false }

/-- One move. -/
def step : Label → Option Streaming
  | .start => if s.chain.phase = .ended then some { s with chain := .init } else none
  | .frame x =>
      if s.chain.phase = .waiting then
        some { noteRelease i s (s.chain.ReleasesTexture x) with chain := s.chain.getFrame x i }
      else none
  | .setMode answer =>
      if s.chain.phase = .settingMode then
        s.ask (fun x => .setMode s.chain.framedata x.probed x.outcomes) SwapChain.modeSet answer
      else none
  | .frameData answer =>
      if s.chain.phase = .presenting then
        s.ask (fun x => .present s.chain.framedata x.probed x.outcomes) SwapChain.presented answer
      else none
  | .leave => if s.chain.phase = .waiting then some { s with chain := s.chain.leave } else none
  | .cleanup answer => if s.chain.phase = .ended then none else s.cleanup i answer
  | .other shared call =>
      if call.foreign i then
        (exec s.adapter shared call).map fun (adapter, _, _) => { s with adapter := adapter }
      else none

/-- The swap chains of a screen, one after the other, and the adapter. -/
def system : System Streaming Label := ⟨step i⟩

/-- No swap chain assigned yet. -/
def start (a : Adapter) : Streaming := ⟨.none, a, false, []⟩

end Streaming

/-- The driver's own memory does not become a user's. -/
theorem Segment.init_userMemory (o : Outcomes) (mdl size : Nat) (segment : Segment) :
    (Segment.init o mdl size segment).segment.userMemory = segment.userMemory := by
  unfold Segment.init
  dsimp only
  split_ifs <;> rfl

/-- What others ask is not a frame for the screen. -/
theorem Call.foreign_screen {i : ScreenId} {call : Call} {r : Request}
    (hforeign : call.foreign i = true) (hrequest : call.request = some r) : r.screen ≠ i := by
  rintro rfl
  cases call with
  | setMode frame probed o =>
      rw [← (Call.request_setMode hrequest).1] at hforeign
      exact of_decide_eq_true hforeign rfl
  | present frame probed o =>
      rw [← (Call.request_present hrequest).1] at hforeign
      exact of_decide_eq_true hforeign rfl
  | _ => cases hrequest

theorem ScreenInfo.clear_iff {x : ScreenInfo} : x.clear = true ↔
    x.front = none ∧ (x.frameSegment.userMemory = true → x.frameSegment.mdl = none) := by
  simp [ScreenInfo.clear, imp_iff_not_or]

theorem ScreenInfo.FrameEq.clear {x y : ScreenInfo} (heq : x.FrameEq y) : y.clear = x.clear := by
  rw [ScreenInfo.clear, heq.front, heq.frameSegment]
  rfl

theorem ScreenInfo.Released.clear {y : ScreenInfo} (hreleased : y.Released) : y.clear = true := by
  apply ScreenInfo.clear_iff.mpr
  rw [hreleased.frameSegment]
  exact ⟨hreleased.front, nofun⟩

theorem ScreenInfo.PoweredDown.clear {x y : ScreenInfo} (hdown : x.PoweredDown y)
    (hclear : x.clear = true) : y.clear = true := by
  apply ScreenInfo.clear_iff.mpr
  rw [hdown.frameSegment]
  refine ⟨hdown.front, fun huser => ?_⟩
  split at huser
  next => cases huser
  next hnull =>
    rw [if_neg hnull]
    exact (ScreenInfo.clear_iff.mp hclear).2 huser

/-- A mode-set call that does not rebuild the front resource builds nothing. -/
theorem ModeStep.clear {o : Outcomes} {blob : Bool} {i : ScreenId} {flushCount : Nat}
    {mode : CurrentMode} {c c' : Ctx} {status : NtStatus} {path : PresentPath}
    (hmode : ModeStep o blob i flushCount mode c c' status path)
    (hpath : ∀ forced, path ≠ .rebuild forced) (hclear : c.screen.clear = true) :
    c'.screen.clear = true := by
  cases hmode with
  | noMode => exact hclear
  | dropped => exact hclear
  | rebuild => exact absurd rfl (hpath _)
  | reuse info obj hfound hpass hfront hsame =>
      rw [hpass.screen] at hfront
      have hnone := (ScreenInfo.clear_iff.mp hclear).1
      cases hnone.symm.trans hfront

/-- A call that does not rebuild the screen in place keeps it clear. -/
theorem ScreenStep.clear {a : Adapter} {s : Shared} {call : Call} {j : ScreenId} {record : Record}
    {y : ScreenInfo} (hstep : ScreenStep a s call j record y)
    (hkept : record.rebuilds = false ∨ call.foreign j = true)
    (hclear : (a.screens j).clear = true) : y.clear = true := by
  cases hstep with
  | unchanged _ heq => rwa [heq.clear]
  | mode r hrequest hscreen hmode =>
      apply hmode.clear _ hclear
      rintro forced rfl
      rcases hkept with hkept | hforeign
      · cases hkept
      · exact Call.foreign_screen hforeign hrequest hscreen
  | release _ hreleased => exact hreleased.clear
  | powerDown _ hdown => exact hdown.clear hclear

/-- A started device holds only memory of its own. -/
theorem hwInit_clear {cfg : BootConfig} {a : Adapter} (hinit : hwInit cfg = some a) (i : ScreenId) :
    (a.screens i).clear = true := by
  unfold hwInit at hinit
  split at hinit
  next st heq =>
    split at hinit
    next hok =>
      obtain rfl := Option.some.inj hinit
      apply ScreenInfo.clear_iff.mpr
      refine ⟨rfl, fun huser => ?_⟩
      rw [show (bootFrameSegment cfg st.displayInfo i).segment.userMemory = false from
        Segment.init_userMemory ..] at huser
      cases huser
    next => cases hinit
  next => cases hinit

namespace Streaming

variable {i : ScreenId} {s s' : Streaming}

/-- Whenever a texture was released, the kernel driver held nothing of the screen. -/
def ReleasedClear (s : Streaming) : Prop := ∀ clear ∈ s.releases, clear = true

theorem noteRelease_releasedClear (released : Bool) : (noteRelease i s released).ReleasedClear ↔
    s.ReleasedClear ∧ (released = true → (s.adapter.screens i).clear = true) := by
  cases released with
  | false => exact (and_iff_left nofun).symm
  | true =>
      simp only [ReleasedClear, noteRelease, if_true, List.forall_mem_cons, true_imp_iff]
      exact and_comm

/-- A request leaves a clear screen clear, unless it is recorded to have built something. -/
theorem ask_spec {request : IoctlAnswer → Call} {success : SwapChain → SwapChain}
    {answer : Option IoctlAnswer} (hask : s.ask request success answer = some s') :
    s'.releases = s.releases ∧ (s'.built = false → s.built = false ∧
      ((s.adapter.screens i).clear = true → (s'.adapter.screens i).clear = true)) := by
  cases answer with
  | none =>
      obtain rfl := Option.some.inj hask
      exact ⟨rfl, fun hbuilt => ⟨hbuilt, id⟩⟩
  | some x =>
      obtain ⟨⟨a', actions, record⟩, hexec, rfl⟩ := Option.map_eq_some_iff.mp hask
      refine ⟨rfl, fun hbuilt => ?_⟩
      obtain ⟨hbefore, hkept⟩ := Bool.or_eq_false_iff.mp hbuilt
      exact ⟨hbefore, ((exec_callStep hexec).screenStep i).clear (.inl hkept)⟩

/-- RELEASE_FB leaves the screen clear. -/
theorem releaseFb_clear {x : IoctlAnswer} {a : Adapter} (hvalid : s.chain.stagingAddrValid = true)
    (hrelease : s.releaseFb i (some x) = some a) : (a.screens i).clear = true := by
  rw [releaseFb, if_pos hvalid] at hrelease
  obtain ⟨⟨a', actions, record⟩, hexec, rfl⟩ := Option.map_eq_some_iff.mp hrelease
  simp only [exec] at hexec
  split at hexec
  next => cases hexec
  next =>
    rw [dif_pos i.isLt] at hexec
    obtain rfl := congrArg Prod.fst (Option.some.inj hexec)
    rw [onScreen, Adapter.withCtx_screens_self]
    exact (releaseFrameBuffer_released _ _ _).clear

theorem releaseFb_of_not_valid {answer : Option IoctlAnswer}
    (hvalid : s.chain.stagingAddrValid = false) : s.releaseFb i answer = some s.adapter := by
  unfold releaseFb
  rw [hvalid, if_neg (by decide)]

/-- RELEASE_FB does not fail. -/
def ReleaseFbWorks (s : Streaming) : Label → Prop
  | .cleanup answer => s.chain.stagingAddrValid = true → answer.isSome = true
  | _ => True

/-- The move releases a texture without RELEASE_FB before. -/
def ReleasesUnasked (s : Streaming) : Label → Prop
  | .frame x => s.chain.ReleasesTexture x
  | .cleanup _ => s.chain.stagingAddrValid = false ∧ s.chain.destimage = true
  | _ => False

/-- The moves that leave nothing behind: RELEASE_FB works, and a swap chain releases a
texture in the middle of a frame, or is cleaned up without RELEASE_FB, only while none of its
requests has made the kernel driver build anything. -/
def ReleasesInTime (s : Streaming) : Label → Prop
  | .frame x => s.chain.ReleasesTexture x → s.built = false
  | .cleanup answer =>
      if s.chain.stagingAddrValid then answer.isSome = true else s.built = false
  | _ => True

instance (s : Streaming) : (label : Label) → Decidable (s.ReleasesInTime label)
  | .frame x => inferInstanceAs (Decidable (s.chain.ReleasesTexture x → s.built = false))
  | .cleanup answer => inferInstanceAs (Decidable
      (if s.chain.stagingAddrValid then answer.isSome = true else s.built = false))
  | .start | .setMode _ | .frameData _ | .leave | .other _ _ => .isTrue trivial

/-- A move keeps the record clear exactly if it releases no texture of a screen that is not,
or asks for the release before. -/
theorem step_releasedClear {label : Label} (hworks : s.ReleaseFbWorks label)
    (hstep : (system i).step s label = some s') : s'.ReleasedClear ↔
      s.ReleasedClear ∧ (s.ReleasesUnasked label → (s.adapter.screens i).clear = true) := by
  have hquiet : s'.releases = s.releases → (s'.ReleasedClear ↔
      s.ReleasedClear ∧ (False → (s.adapter.screens i).clear = true)) := by
    intro heq
    rw [ReleasedClear, heq]
    exact (and_iff_left nofun).symm
  cases label with
  | start | leave =>
      simp only [system, step, Option.ite_none_right_eq_some, Option.some.injEq] at hstep
      exact hquiet (congrArg releases hstep.2).symm
  | frame x =>
      simp only [system, step, Option.ite_none_right_eq_some, Option.some.injEq] at hstep
      obtain ⟨-, rfl⟩ := hstep
      have hnote := @noteRelease_releasedClear i s (decide (s.chain.ReleasesTexture x))
      rwa [decide_eq_true_iff] at hnote
  | setMode answer | frameData answer =>
      simp only [system, step, Option.ite_none_right_eq_some] at hstep
      exact hquiet (ask_spec (i := i) hstep.2).1
  | cleanup answer =>
      simp only [system, step, Option.ite_none_left_eq_some] at hstep
      obtain ⟨a, hrelease, rfl⟩ := Option.map_eq_some_iff.mp hstep.2
      apply (@noteRelease_releasedClear i { s with adapter := a } _).trans
      apply and_congr_right
      intro _
      cases hvalid : s.chain.stagingAddrValid with
      | true =>
          obtain ⟨x, rfl⟩ := Option.isSome_iff_exists.mp (hworks hvalid)
          exact iff_of_true (fun _ => releaseFb_clear hvalid hrelease)
            fun hunasked => absurd hunasked.1 (by simp [hvalid])
      | false =>
          rw [releaseFb_of_not_valid hvalid] at hrelease
          obtain rfl := Option.some.inj hrelease
          exact imp_congr_left (and_iff_right hvalid).symm
  | other shared call =>
      simp only [system, step, Option.ite_none_right_eq_some] at hstep
      obtain ⟨_, -, rfl⟩ := Option.map_eq_some_iff.mp hstep.2
      exact hquiet rfl

/-- As long as nothing was built the screen is clear, move by move. -/
theorem step_clear {label : Label} (hok : s.ReleasesInTime label)
    (hclear : s.built = false → (s.adapter.screens i).clear = true)
    (hstep : (system i).step s label = some s') :
    s'.built = false → (s'.adapter.screens i).clear = true := by
  cases label with
  | start | leave | frame x =>
      simp only [system, step, Option.ite_none_right_eq_some, Option.some.injEq] at hstep
      obtain ⟨-, rfl⟩ := hstep
      exact hclear
  | setMode answer | frameData answer =>
      simp only [system, step, Option.ite_none_right_eq_some] at hstep
      intro hbuilt
      obtain ⟨hbefore, hkept⟩ := (ask_spec (i := i) hstep.2).2 hbuilt
      exact hkept (hclear hbefore)
  | cleanup answer =>
      simp only [system, step, Option.ite_none_left_eq_some] at hstep
      obtain ⟨a, hrelease, rfl⟩ := Option.map_eq_some_iff.mp hstep.2
      intro _
      cases hvalid : s.chain.stagingAddrValid with
      | true =>
          rw [ReleasesInTime, if_pos hvalid] at hok
          obtain ⟨x, rfl⟩ := Option.isSome_iff_exists.mp hok
          exact releaseFb_clear hvalid hrelease
      | false =>
          rw [ReleasesInTime, hvalid, if_neg (by decide)] at hok
          rw [releaseFb_of_not_valid hvalid] at hrelease
          obtain rfl := Option.some.inj hrelease
          exact hclear hok
  | other shared call =>
      simp only [system, step, Option.ite_none_right_eq_some] at hstep
      obtain ⟨hforeign, hanswer⟩ := hstep
      obtain ⟨⟨a', actions, record⟩, hexec, rfl⟩ := Option.map_eq_some_iff.mp hanswer
      intro hbuilt
      exact ((exec_callStep hexec).screenStep i).clear (.inr hforeign) (hclear hbuilt)

/-- A move in time releases no texture of a screen that is not clear. -/
theorem ReleasesInTime.clear {label : Label} (hok : s.ReleasesInTime label)
    (hclear : s.built = false → (s.adapter.screens i).clear = true)
    (hunasked : s.ReleasesUnasked label) : (s.adapter.screens i).clear = true := by
  cases label with
  | frame x => exact hclear (hok hunasked)
  | cleanup answer =>
      rw [ReleasesInTime, hunasked.1, if_neg (by decide)] at hok
      exact hclear hok
  | _ => cases hunasked

theorem ReleasesInTime.works {label : Label} (hok : s.ReleasesInTime label) :
    s.ReleaseFbWorks label := by
  cases label with
  | cleanup answer =>
      intro hvalid
      rwa [ReleasesInTime, if_pos hvalid] at hok
  | _ => trivial

/-- Whenever the moves of a run are in time, the kernel driver holds nothing of the screen
when a texture is released. And a move at which RELEASE_FB does not fail keeps it that way
exactly if it does not release the texture of a screen that is not clear unasked. -/
theorem released_clear {cfg : BootConfig} {a : Adapter} (hinit : hwInit cfg = some a)
    (i : ScreenId) (s : Streaming) :
    ((system i).ReachUnder ReleasesInTime (start a) s → s.ReleasedClear) ∧
      ∀ label s', s.ReleaseFbWorks label → (system i).step s label = some s' →
        (s'.ReleasedClear ↔ s.ReleasedClear ∧
          (s.ReleasesUnasked label → (s.adapter.screens i).clear = true)) := by
  refine ⟨fun hreach => ?_, fun label s' hworks hstep => step_releasedClear hworks hstep⟩
  have hboth : s.ReleasedClear ∧ (s.built = false → (s.adapter.screens i).clear = true) := by
    apply hreach.invariant (I := fun s =>
      s.ReleasedClear ∧ (s.built = false → (s.adapter.screens i).clear = true))
    · exact ⟨nofun, fun _ => hwInit_clear hinit i⟩
    · intro before label after hinv hok hstep
      obtain ⟨hreleased, hclear⟩ := hinv
      exact ⟨(step_releasedClear hok.works hstep).mpr ⟨hreleased, hok.clear hclear⟩,
        step_clear hok hclear hstep⟩
  exact hboth.1

/-- A swap chain that presents one frame. -/
theorem released_clear_presented : ∃ s : Streaming, s.ReleasedClear ∧ s.releases = [true] := by
  let labels : List Label := [.start, .frame (.good 0x1000), .setMode (some .good),
    .frameData (some .good), .leave, .cleanup (some .good)]
  have hresult : (hwInit (.plain true)).bind (fun a =>
      ((system 0).checkedRun (fun s label => decide (s.ReleasesInTime label)) (start a) labels).map
        releases) = some [true] := by
    decide +kernel
  obtain ⟨a, hinit, hresult⟩ := Option.bind_eq_some_iff.mp hresult
  obtain ⟨s, hrun, hreleases⟩ := Option.map_eq_some_iff.mp hresult
  have hreach : (system 0).ReachUnder ReleasesInTime (start a) s :=
    System.ReachUnder.checkedRun .refl (fun _ _ _ => of_decide_eq_true) hrun
  exact ⟨s, (released_clear hinit 0 s).1 hreach, hreleases⟩

/-- A swap chain whose mode was set and whose frame was refused leaves its pages behind. -/
theorem not_released_clear : ¬ ∀ cfg a, hwInit cfg = some a → ∀ i s,
    (system i).ReachUnder ReleaseFbWorks (start a) s → s.ReleasedClear := by
  let labels : List Label := [.start, .frame (.good 0x1000), .setMode (some .good),
    .frameData none, .cleanup (some .good)]
  have hresult : (hwInit (.plain true)).bind (fun a =>
      ((system 0).run (start a) labels).map releases) = some [false] := by
    decide +kernel
  obtain ⟨a, hinit, hresult⟩ := Option.bind_eq_some_iff.mp hresult
  obtain ⟨s, hrun, hreleases⟩ := Option.map_eq_some_iff.mp hresult
  have hworks : ∀ s, ∀ label ∈ labels, ReleaseFbWorks s label := by
    intro s label hmem
    cases label with
    | cleanup answer =>
        have hanswer : answer = some .good := by simpa [labels] using hmem
        exact fun _ => hanswer ▸ rfl
    | _ => trivial
  intro hclaim
  have hclear := hclaim _ a hinit 0 s (System.ReachUnder.run .refl hworks hrun)
  exact absurd (hclear false (hreleases ▸ List.mem_singleton_self _)) Bool.false_ne_true

end Streaming

end VirtDisplay
