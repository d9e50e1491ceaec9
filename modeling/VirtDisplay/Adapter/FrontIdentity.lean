/-
# The cached identity of the front resource

A frame reuses the front resource if its address, size and stride are those cached on
the screen. The cache is written before the resource is created, and the creation has
several ways to fail. Most of them leave the front slot empty, which forces the next
frame to rebuild. One does not: when the array of memory entries cannot be allocated,
or the command is not queued, the object is installed although the host was never
told to build the resource, and the frames that follow reuse it.
-/

import VirtDisplay.Adapter.Runs

namespace VirtDisplay

open Transition

/-- The cached identity is that of the request the object was built for, and the frame
segment is the one locked for it over its address. -/
structure BuiltFrom (x : ScreenInfo) (obj : VioGpuObj) : Prop where
  addr : x.fbSrcAddr = obj.origin.request.ptr
  width : x.fbWidth = obj.origin.request.width
  height : x.fbHeight = obj.origin.request.height
  stride : x.fbStride = obj.origin.request.stride
  userMemory : x.frameSegment.userMemory = true
  locked : x.frameSegment.mdl = some obj.origin.serial
  mapped : x.frameSegment.vAddr = obj.origin.request.ptr

/-- The front resource of every screen is cached as it was built, frames only reuse a
resource the host was told to build from their own address, size and stride, and a
release leaves nothing to reuse. -/
structure ReuseSound (m : Machine) : Prop where
  identity : ∀ j obj, (m.priv.screens j).front = some obj → BuiltFrom (m.priv.screens j) obj
  reuse : ∀ call a' actions f setMode status forced,
    exec m.priv m.shared call = some (a', actions, .mode f setMode status (.reuse forced)) →
    f.frame.addr ≠ 0 →
    ∃ obj, (m.priv.screens f.screen).front = some obj ∧ obj.origin.hostBuilt = true ∧
      obj.origin.request.ptr = f.frame.addr ∧ obj.origin.request.width = f.frame.width ∧
      obj.origin.request.height = f.frame.height ∧ obj.origin.request.stride = f.frame.stride
  released : ∀ (j : ScreenId) o a' actions record,
    exec m.priv m.shared (.releaseFb j.val o) = some (a', actions, record) →
    (a'.screens j).front = none

/-- The commands that create this mode's resource over its pages are queued. -/
def BuildsOnHost (o : Outcomes) (blob : Bool) (mode : CurrentMode) : Prop :=
  o.newEnts = true ∧ ∀ resid ents,
    if blob then
      o.accepts
        (.resourceCreateBlob resid ents (roundToPages (mode.stride * mode.height * 4))) = true
    else
      o.accepts (.resourceCreate2D resid (colorFormat mode.colorFormat) mode.width
          mode.height) = true ∧
        o.accepts (.resourceAttachBacking resid ents) = true

/-- Frames carry an address, and one whose creation passes all its checks is built on
the host. A `SET_MODE` needs an address only if it builds. -/
def CreationsReachHost (m : Machine) : Move → Prop
  | .call call => ∀ r, call.request = some r →
      (r.setMode = false → r.frame.frame.addr ≠ 0) ∧
      (InstallsFront m.priv m.shared r →
        r.frame.frame.addr ≠ 0 ∧ BuildsOnHost r.outcomes m.priv.blobSupported r.mode)
  | _ => True

/-- The frame metadata a call carries has an address. -/
def framesHaveAddress : Move → Bool
  | .call (.setMode frame _ _) => frame.addr != 0
  | .call (.present frame _ _) => frame.addr != 0
  | _ => true

theorem hostBuilds_of_buildsOnHost {o : Outcomes} {blob : Bool} {info : VideoModeInfo}
    {mode : CurrentMode} (hbuilds : BuildsOnHost o blob mode)
    (hwidth : info.visScreenWidth = mode.width) (hheight : info.visScreenHeight = mode.height)
    (resid : Nat) (segment : Segment) : hostBuilds o blob resid segment info mode = true := by
  obtain ⟨hents, hqueued⟩ := hbuilds
  have hqueued := hqueued resid (segment.sgList.getD [])
  unfold hostBuilds
  rw [hwidth, hheight]
  cases blob with
  | true => simpa [hents] using hqueued
  | false => simpa [hents] using hqueued

/-- What holds of every front object. -/
def FrontSound (x : ScreenInfo) : Prop :=
  ∀ obj, x.front = some obj → BuiltFrom x obj ∧ obj.origin.hostBuilt = true

/-- What the cache, the segment and the front object say is all that matters. -/
theorem FrontSound.congr {x y : ScreenInfo} (hsound : FrontSound x) (hfront : y.front = x.front)
    (hsegment : y.frameSegment = x.frameSegment) (haddr : y.fbSrcAddr = x.fbSrcAddr)
    (hwidth : y.fbWidth = x.fbWidth) (hheight : y.fbHeight = x.fbHeight)
    (hstride : y.fbStride = x.fbStride) : FrontSound y := by
  intro obj hobj
  obtain ⟨hbuilt, hhost⟩ := hsound obj (hfront ▸ hobj)
  refine ⟨⟨?_, ?_, ?_, ?_, ?_, ?_, ?_⟩, hhost⟩
  · exact haddr.trans hbuilt.addr
  · exact hwidth.trans hbuilt.width
  · exact hheight.trans hbuilt.height
  · exact hstride.trans hbuilt.stride
  · rw [hsegment, hbuilt.userMemory]
  · rw [hsegment, hbuilt.locked]
  · rw [hsegment, hbuilt.mapped]

/-- A frame with an address that builds a front object builds a sound one. -/
theorem frontSound_rebuildFront {o : Outcomes} {blob : Bool} {i : ScreenId} {info : VideoModeInfo}
    {mode : CurrentMode} {c : Ctx}
    (hbuilds : Buildable o info mode c → mode.ptr ≠ 0 ∧ BuildsOnHost o blob mode)
    (hwidth : info.visScreenWidth = mode.width) (hheight : info.visScreenHeight = mode.height) :
    FrontSound (rebuildFront o blob i info mode c).screen := by
  rw [rebuildFront_screen]
  intro obj hobj
  dsimp only at hobj
  split at hobj
  next hbuild =>
    obtain rfl := Option.some.inj hobj
    obtain ⟨haddr, hhost⟩ := hbuilds hbuild
    obtain ⟨hsegment, -⟩ := updateFrameSegment_of_addr haddr hbuild.1
    have hsegment : (updatedSegment o info mode c).segment = _ := hsegment
    refine ⟨⟨rfl, rfl, rfl, rfl, ?_, ?_, ?_⟩, ?_⟩
    · exact congrArg Segment.userMemory hsegment
    · exact congrArg Segment.mdl hsegment
    · exact congrArg Segment.vAddr hsegment
    · exact hostBuilds_of_buildsOnHost hhost hwidth hheight _ _
  next => cases hobj

/-- A frame with an address is not forced to a reuse. -/
theorem Admits.not_forced_of_same {i : ScreenId} {flushCount : Nat} {mode : CurrentMode}
    {c c₁ : Ctx} {forced : Bool} (hpass : Admits i flushCount mode c c₁ forced)
    (hsame : SameBacking c₁.screen mode) (haddr : mode.setMode = false → mode.ptr ≠ 0) :
    forced = false := by
  cases hpass with
  | idle => rfl
  | stale => rfl
  | forced _ hset _ => exact absurd hsame.addr.symm (haddr hset)

/-- A call keeps a screen's front sound if its creation reaches the host. -/
theorem ScreenStep.frontSound {a : Adapter} {s : Shared} {call : Call} {j : ScreenId}
    {record : Record} {y : ScreenInfo} (hstep : ScreenStep a s call j record y)
    (hsound : FrontSound (a.screens j))
    (hok : ∀ r, call.request = some r → (r.setMode = false → r.frame.frame.addr ≠ 0) ∧
      (InstallsFront a s r →
        r.frame.frame.addr ≠ 0 ∧ BuildsOnHost r.outcomes a.blobSupported r.mode)) :
    FrontSound y := by
  cases hstep with
  | unchanged _ heq =>
      exact hsound.congr heq.front heq.frameSegment heq.fbSrcAddr heq.fbWidth heq.fbHeight
        heq.fbStride
  | mode r hrequest hscreen hmode =>
      subst hscreen
      obtain ⟨hpresent, hinstalls⟩ := hok r hrequest
      cases hmode with
      | noMode => exact hsound
      | dropped => exact hsound.congr rfl rfl rfl rfl rfl rfl
      | rebuild info hfound hpass hchanged =>
          obtain ⟨hwidth, hheight⟩ := size_of_searchModes hfound
          refine frontSound_rebuildFront (fun hbuild => ?_) hwidth hheight
          rw [r.mode_ptr]
          exact hinstalls ⟨info, _, _, hfound, hpass.backPressure_eq, hchanged,
            (hpass.buildable_iff info).mp hbuild⟩
      | @reuse c₁ forced info obj hfound hpass hfront hsame =>
          have hscreen : (flushFrameBufferObj r.outcomes a.blobSupported r.screen info c₁).screen =
              c₁.screen := by
            rw [flushFrameBufferObj_eq _ _ _ _ _ hfront]
          have hforced := hpass.not_forced_of_same hsame (by rwa [r.mode_setMode, r.mode_ptr])
          rw [hscreen, hpass.screen, hforced]
          exact hsound.congr rfl rfl rfl rfl rfl rfl
  | release _ hreleased =>
      intro obj hobj
      cases hreleased.front.symm.trans hobj
  | powerDown _ hdown =>
      intro obj hobj
      cases hdown.front.symm.trans hobj

theorem frontSound {m : Machine} (hreach : Machine.ReachableUnder CreationsReachHost m)
    (j : ScreenId) : FrontSound (m.priv.screens j) := by
  apply hreach.screen_invariant (I := fun x _ => FrontSound x) j
  · intro x hbooted obj hobj
    cases hbooted.front.symm.trans hobj
  · intro m call record y hsound hok hstep
    exact hstep.frontSound hsound hok

/-- The frame of a mode-set call's record is the one the call carries. -/
theorem CallStep.request_of_mode {a a' : Adapter} {s : Shared} {call : Call}
    {actions : List Action} {f : AcceptedFrame} {setMode : Bool} {status : NtStatus}
    {path : PresentPath} (hcall : CallStep a s call a' actions (.mode f setMode status path)) :
    ∃ r, call.request = some r ∧ r.frame = f := by
  cases hcall with
  | mode r hrequest hmode => exact ⟨r, hrequest, rfl⟩

/-- As long as frames carry an address and every creation reaches the host, the cache
and the reuse of front resources are sound. -/
theorem reuse_sound {m : Machine} (hreach : Machine.ReachableUnder CreationsReachHost m) :
    ReuseSound m := by
  refine ⟨fun j obj hobj => (frontSound hreach j obj hobj).1, ?_, ?_⟩
  · intro call a' actions f setMode status forced hexec haddr
    have hcall := exec_callStep hexec
    obtain ⟨r, hrequest, rfl⟩ := hcall.request_of_mode
    obtain ⟨c', hmode, -, -⟩ := hcall.modeStep hrequest
    cases hmode with
    | reuse info obj hfound hpass hfront hsame =>
        have hforced := hpass.not_forced_of_same hsame fun _ => by rwa [r.mode_ptr]
        rw [hpass.screen] at hfront hsame
        obtain ⟨hbuilt, hhost⟩ := frontSound hreach r.screen obj hfront
        refine ⟨obj, hfront, hhost, ?_, ?_, ?_, ?_⟩
        · rw [← hbuilt.addr, ← r.mode_ptr, ← hsame.addr, hforced]
          rfl
        · rw [← hbuilt.width, ← r.mode_width, ← hsame.width]
          rfl
        · rw [← hbuilt.height, ← r.mode_height, ← hsame.height]
          rfl
        · rw [← hbuilt.stride, ← r.mode_stride, ← hsame.stride]
          rfl
  · intro j o a' actions record hexec
    simp only [exec, j.isLt, dif_pos] at hexec
    split at hexec
    next => cases hexec
    next =>
      obtain rfl := (Prod.mk.inj (Option.some.inj hexec)).1
      show ((m.priv.withCtx j (releaseFrameBuffer o j (m.priv.ctx j))).screens j).front = none
      rw [Adapter.withCtx_screens_self]
      exact (releaseFrameBuffer_released o j _).front

/-- The frame whose mode set reused the front. -/
def Record.reusedFrame : Record → Option FrameMetaData
  | .mode f _ _ (.reuse _) => some f.frame
  | _ => none

theorem Record.eq_reuse_of_reusedFrame {record : Record} {frame : FrameMetaData}
    (hreused : record.reusedFrame = some frame) : ∃ f setMode status forced,
      record = .mode f setMode status (.reuse forced) ∧ f.frame = frame := by
  unfold reusedFrame at hreused
  split at hreused
  next f setMode status forced => exact ⟨f, setMode, status, forced, rfl, Option.some.inj hreused⟩
  next => cases hreused

/-- A creation that fails where the memory entries are allocated leaves its object in
the front slot, and the next frame reuses a resource the host does not have. -/
theorem reuse_unsound : ¬ ∀ m : Machine,
    Machine.ReachableUnder (fun _ move => framesHaveAddress move = true) m → ReuseSound m := by
  let frame : FrameMetaData := .sized 1024 768 4096 1024 0x1000
  let failing : Outcomes := { Outcomes.good with newEnts := false }
  let moves : List Move := .call (.present frame true failing) :: (List.replicate 4 .act ++
    (List.replicate 2 (.outside .hostExecutes) ++ [.outside (.complete 0)]))
  have hresult : (bootRun (.plain true) moves).map (fun m =>
      ((m.priv.screens 0).front.map fun obj => obj.origin.hostBuilt,
        (exec m.priv m.shared (.present frame true .good)).bind fun result =>
          result.2.2.reusedFrame)) = some (some false, some frame) := by
    decide +kernel
  obtain ⟨m, hrun, hvalues⟩ := Option.map_eq_some_iff.mp hresult
  obtain ⟨hfront, hreuse⟩ := Prod.mk.inj hvalues
  intro hclaim
  have hsound := hclaim m (reachableUnder_of_bootRun (fun _ => by decide +kernel) hrun)
  obtain ⟨⟨a', actions, record⟩, hexec, hreused⟩ := Option.bind_eq_some_iff.mp hreuse
  obtain ⟨f, setMode, status, forced, rfl, hframe⟩ := Record.eq_reuse_of_reusedFrame hreused
  have hscreen : f.screen = 0 := Fin.ext (congrArg FrameMetaData.screenNum hframe)
  obtain ⟨obj, hobj, hhost, -⟩ := hsound.reuse _ _ _ _ _ _ _ hexec (by rw [hframe]; decide)
  rw [hscreen] at hobj
  rw [hobj, Option.map_some, hhost] at hfront
  cases hfront

/-- A front resource that was built, and what the cache says of it. -/
theorem reuse_sound_first_frame :
    ∃ m : Machine, ReuseSound m ∧ ((m.priv.screens 0).front.map fun obj => obj.hwRes) = some 1 := by
  let frame : FrameMetaData := .sized 1024 768 4096 1024 0x1000
  have hresult : (bootRun (.plain true) [.call (.present frame true .good)]).map
      (fun m => (m.priv.screens 0).front.map fun obj => obj.hwRes) = some (some 1) := by
    decide +kernel
  obtain ⟨m, hrun, hfront⟩ := Option.map_eq_some_iff.mp hresult
  refine ⟨m, reuse_sound (reachableUnder_of_bootRun (fun m move hmem => ?_) hrun), hfront⟩
  obtain rfl := List.mem_singleton.mp hmem
  intro r hrequest
  obtain ⟨hframe, -, houtcomes⟩ := Call.request_present hrequest
  have haddr : r.frame.frame.addr ≠ 0 := by
    rw [hframe]
    decide
  refine ⟨fun _ => haddr, fun _ => ⟨haddr, ?_⟩⟩
  rw [houtcomes]
  refine ⟨rfl, fun resid ents => ?_⟩
  cases m.priv.blobSupported with
  | true => rfl
  | false => exact ⟨rfl, rfl⟩

end VirtDisplay
