/-
# The pixel format of the front resource

The format of a frame is translated twice on its way to the host, and the host hears
of it only when a resource is created, or when a scanout is configured over a blob. Two
parts of the code let it drift from the latest request's. A frame present that has to
rebuild hard-codes the format of its mode. And whether a frame can reuse the front is
decided without looking at the format.
-/

import VirtDisplay.Adapter.Runs

namespace VirtDisplay

open Transition

/-- The virtio format of a frame, by the two translations of the source. -/
def AcceptedFrame.hostFormat (f : AcceptedFrame) : VirtioGpuFormat :=
  colorFormat (colorFormatToD3DDDIFmt f.frame.colorFormat)

/-- The most recent accepted request for screen `j`. The log has its newest record
first. -/
def lastFrame (j : ScreenId) : List Record → Option AcceptedFrame
  | [] => none
  | .mode f _ _ _ :: log => if f.screen = j then some f else lastFrame j log
  | _ :: log => lastFrame j log

/-- Every front resource was last configured with the format of its screen's latest
request. -/
def FormatsAgree (m : Machine) : Prop :=
  ∀ j obj, (m.priv.screens j).front = some obj →
    ∃ f, lastFrame j m.log = some f ∧ obj.origin.hostFormat = some f.hostFormat

/-- The command that tells the host this mode's format is queued. -/
def SendsFormat (o : Outcomes) (blob : Bool) (i : ScreenId) (mode : CurrentMode) : Prop :=
  ∀ resid,
    if blob then
      o.accepts (.setScanoutBlob i.val resid mode.width mode.height (colorFormat mode.colorFormat)
        (mode.stride * 4 % 2 ^ 32)) = true
    else
      o.accepts (.resourceCreate2D resid (colorFormat mode.colorFormat) mode.width
        mode.height) = true

/-- A front resource is only built by a `SET_MODE` whose format command is queued, and
a request that does not rebuild the front has the format of the request before it. -/
def FormatsKept (m : Machine) : Move → Prop
  | .call call => ∀ r, call.request = some r →
      (InstallsFront m.priv m.shared r →
        r.setMode = true ∧ SendsFormat r.outcomes m.priv.blobSupported r.screen r.mode) ∧
      (¬ RebuildsFront m.priv m.shared r → (m.priv.screens r.screen).front ≠ none →
        ∀ f, lastFrame r.screen m.log = some f → r.frame.hostFormat = f.hostFormat)
  | _ => True

theorem lastFrame_of_not_isModeOf {j : ScreenId} {record : Record} (log : List Record)
    (hother : ¬ record.IsModeOf j) : lastFrame j (record :: log) = lastFrame j log := by
  cases record with
  | mode f setMode status path => exact if_neg fun h => hother (Record.isModeOf_mode.mpr h)
  | blackOut | rejected | other => rfl

/-- What the host was told when a `SET_MODE` built the front. -/
theorem hostConfigures_of_sendsFormat {o : Outcomes} {blob : Bool} {i : ScreenId}
    {info : VideoModeInfo} {mode : CurrentMode} (hsends : SendsFormat o blob i mode)
    (hwidth : info.visScreenWidth = mode.width) (hheight : info.visScreenHeight = mode.height)
    (resid : Nat) :
    hostConfigures o blob i resid info mode = some (colorFormat mode.colorFormat) := by
  have hsends := hsends resid
  unfold hostConfigures
  rw [hwidth, hheight]
  cases blob with
  | true => exact if_pos hsends
  | false => exact if_pos hsends

/-- The invariant, of one screen and the log. -/
def FormatAgrees (j : ScreenId) (x : ScreenInfo) (log : List Record) : Prop :=
  ∀ obj, x.front = some obj →
    ∃ f, lastFrame j log = some f ∧ obj.origin.hostFormat = some f.hostFormat

/-- A request that leaves the front alone and has the format of the one before. -/
theorem FormatAgrees.kept {j : ScreenId} {x y : ScreenInfo} {log : List Record} {r : Request}
    {status : NtStatus} {path : PresentPath} (hinv : FormatAgrees j x log)
    (hscreen : r.screen = j) (hfront : y.front = x.front)
    (hsame : x.front ≠ none → ∀ f, lastFrame j log = some f → r.frame.hostFormat = f.hostFormat) :
    FormatAgrees j y (.mode r.frame r.setMode status path :: log) := by
  intro obj hobj
  have hobj : x.front = some obj := hfront ▸ hobj
  obtain ⟨f, hlast, hformat⟩ := hinv obj hobj
  have hne : x.front ≠ none := hobj ▸ Option.some_ne_none obj
  refine ⟨r.frame, if_pos hscreen, ?_⟩
  rw [hformat, hsame hne f hlast]

/-- What a rebuild leaves in the front slot agrees with the request. -/
theorem formatAgrees_rebuildFront {o : Outcomes} {blob : Bool} {j : ScreenId}
    {info : VideoModeInfo} {c : Ctx} {r : Request} {log : List Record} {status : NtStatus}
    {path : PresentPath} (hscreen : r.screen = j)
    (hwidth : info.visScreenWidth = r.mode.width) (hheight : info.visScreenHeight = r.mode.height)
    (hsends : Buildable o info r.mode c → r.setMode = true ∧ SendsFormat o blob j r.mode) :
    FormatAgrees j (rebuildFront o blob j info r.mode c).screen
      (.mode r.frame r.setMode status path :: log) := by
  rw [rebuildFront_screen]
  intro obj hobj
  dsimp only at hobj
  split at hobj
  next hbuild =>
    obtain rfl := Option.some.inj hobj
    obtain ⟨hset, hsends⟩ := hsends hbuild
    refine ⟨r.frame, if_pos hscreen, ?_⟩
    have hmode : r.mode = r.frame.setModeRequest := if_pos hset
    rw [show r.frame.hostFormat = colorFormat r.mode.colorFormat by rw [hmode]; rfl]
    exact hostConfigures_of_sendsFormat hsends hwidth hheight _
  next => cases hobj

theorem ScreenStep.formatAgrees {m : Machine} {call : Call} {j : ScreenId} {record : Record}
    {y : ScreenInfo} (hstep : ScreenStep m.priv m.shared call j record y)
    (hinv : FormatAgrees j (m.priv.screens j) m.log) (hok : FormatsKept m (.call call)) :
    FormatAgrees j y (record :: m.log) := by
  cases hstep with
  | unchanged hother heq =>
      intro obj hobj
      rw [lastFrame_of_not_isModeOf m.log hother]
      exact hinv obj (heq.front ▸ hobj)
  | mode r hrequest hscreen hmode =>
      subst hscreen
      obtain ⟨hinstalls, hsame⟩ := hok r hrequest
      have hkept := hmode.not_rebuilds
      cases hmode with
      | noMode => exact hinv.kept rfl rfl (hsame (hkept (by simp)))
      | dropped => exact hinv.kept rfl rfl (hsame (hkept (by simp)))
      | rebuild info hfound hpass hchanged =>
          obtain ⟨hwidth, hheight⟩ := size_of_searchModes hfound
          refine formatAgrees_rebuildFront rfl hwidth hheight fun hbuild => hinstalls ?_
          exact ⟨info, _, _, hfound, hpass.backPressure_eq, hchanged,
            (hpass.buildable_iff info).mp hbuild⟩
      | reuse info obj hfound hpass hfront hreuse =>
          refine hinv.kept rfl ?_ (hsame (hkept (by simp)))
          rw [flushFrameBufferObj_eq _ _ _ _ _ hfront]
          show _ = _
          rw [hpass.screen]
          rfl
  | release _ hreleased =>
      intro obj hobj
      cases hreleased.front.symm.trans hobj
  | powerDown _ hdown =>
      intro obj hobj
      cases hdown.front.symm.trans hobj

/-- Over every run whose requests keep the format, each front resource has the format of
its screen's latest request. -/
theorem formats_agree {m : Machine} (hreach : Machine.ReachableUnder FormatsKept m) :
    FormatsAgree m := by
  intro j
  apply hreach.screen_invariant (I := FormatAgrees j) j
  · intro x hbooted obj hobj
    cases hbooted.front.symm.trans hobj
  · intro m call record y hinv hok hstep
    exact hstep.formatAgrees hinv hok

/-- A present that builds the front tells the host a format no frame has. -/
theorem formats_disagree : ¬ ∀ m : Machine, m.Reachable → FormatsAgree m := by
  let frame : FrameMetaData := .sized 1024 768 4096 1024 0x1000
  have hresult : (bootRun (.plain true) [.call (.present frame true .good)]).map
      (fun m => ((m.priv.screens 0).front.map fun obj => obj.origin.hostFormat,
        (lastFrame 0 m.log).map AcceptedFrame.hostFormat)) =
      some (some (some .b8g8r8x8Unorm), some .b8g8r8a8Unorm) := by
    decide +kernel
  obtain ⟨m, hrun, hvalues⟩ := Option.map_eq_some_iff.mp hresult
  obtain ⟨hfront, hlast⟩ := Prod.mk.inj hvalues
  obtain ⟨obj, hobj, hconfigured⟩ := Option.map_eq_some_iff.mp hfront
  intro hclaim
  obtain ⟨f, hf, hformat⟩ := hclaim m (reachable_of_bootRun hrun) 0 obj hobj
  rw [hf, Option.map_some, Option.some.injEq] at hlast
  rw [hconfigured, hlast, Option.some.injEq] at hformat
  cases hformat

/-- The format after a first `SET_MODE`. -/
theorem formats_agree_first_setMode : ∃ m : Machine, FormatsAgree m ∧
    ((m.priv.screens 0).front.map fun obj => obj.origin.hostFormat) =
      some (some .b8g8r8a8Unorm) := by
  let frame : FrameMetaData := .sized 1024 768 4096 1024 0x1000
  have hresult : (bootRun (.plain true) [.call (.setMode frame true .good)]).map
      (fun m => (m.priv.screens 0).front.map fun obj => obj.origin.hostFormat) =
        some (some (some .b8g8r8a8Unorm)) := by
    decide +kernel
  obtain ⟨m, hrun, hformat⟩ := Option.map_eq_some_iff.mp hresult
  obtain ⟨a, hinit, hrun⟩ := Option.bind_eq_some_iff.mp hrun
  obtain ⟨after, hstep, hdone⟩ := Option.bind_eq_some_iff.mp hrun
  obtain rfl := Option.some.inj hdone
  have hok : FormatsKept (.start a) (.call (.setMode frame true .good)) := by
    intro r hrequest
    obtain ⟨-, hset, houtcomes⟩ := Call.request_setMode hrequest
    refine ⟨fun _ => ⟨hset, fun resid => ?_⟩, fun _ _ f hf => ?_⟩
    · rw [houtcomes]
      split <;> rfl
    · cases hf
  exact ⟨after, formats_agree ⟨_, a, hinit, .next .refl hok hstep⟩, hformat⟩

end VirtDisplay
