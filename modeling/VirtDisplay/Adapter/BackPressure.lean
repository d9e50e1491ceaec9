/-
# Back-pressure drops a bounded number of frames

A screen whose flush is outstanding drops frames, and the stall counter is to bound
how many. The bound is over whole runs: completions, releases and calls for other
screens may come between any two frames. The invariant ties the frames dropped in a
row, read off the log, to the stall counter. It has one exception. `RELEASE_FB` sets
the counter back without presenting anything; but it leaves no front resource and no
counted flush either, and then nothing can raise the count before a frame has gone
through.
-/

import VirtDisplay.Adapter.FlushAccounting

namespace VirtDisplay

open Transition

/-- The number of frames dropped in a row, after a frame that took this path. -/
def PresentPath.drops (before : Nat) : PresentPath → Nat
  | .dropped => before + 1
  | .noMode => before
  | .rebuild _ | .reuse _ => 0

/-- How many of the latest frames of screen `j` were dropped, frames without a matching
mode left aside. The log has its newest record first. -/
def trailingDrops (j : ScreenId) : List Record → Nat
  | [] => 0
  | .mode f _ _ path :: log =>
      if f.screen = j then path.drops (trailingDrops j log) else trailingDrops j log
  | _ :: log => trailingDrops j log

/-- A record that is not of a frame of this screen does not matter. -/
theorem trailingDrops_of_not_isModeOf {j : ScreenId} {record : Record} (log : List Record)
    (hother : ¬ record.IsModeOf j) : trailingDrops j (record :: log) = trailingDrops j log := by
  cases record with
  | mode f setMode status path => exact if_neg fun h => hother (Record.isModeOf_mode.mpr h)
  | blackOut | rejected | other => rfl

/-- The frames dropped in a row are bounded by the stall counter, or nothing is left
that could be dropped for. -/
structure DropsBounded (j : ScreenId) (m : Machine) : Prop where
  stall : (m.priv.screens j).flushStallCount < flushStallLimit
  drops : trailingDrops j m.log < flushStallLimit
  tied : trailingDrops j m.log ≤ (m.priv.screens j).flushStallCount ∨
    ((m.priv.screens j).front = none ∧ settledCount m j = 0)

theorem flushStallLimit_pos : 0 < flushStallLimit := by decide

theorem Admits.stall {i : ScreenId} {flushCount : Nat} {mode : CurrentMode} {c c₁ : Ctx}
    {forced : Bool} (hpass : Admits i flushCount mode c c₁ forced) :
    c₁.screen.flushStallCount = 0 := by
  rw [hpass.screen]

/-- A frame that goes through leaves the stall counter at zero. -/
theorem ModeStep.stall_of_through {o : Outcomes} {blob : Bool} {i : ScreenId} {flushCount : Nat}
    {mode : CurrentMode} {c c' : Ctx} {status : NtStatus} {path : PresentPath}
    (hmode : ModeStep o blob i flushCount mode c c' status path) (hmatch : path ≠ .noMode)
    (hthrough : path ≠ .dropped) : c'.screen.flushStallCount = 0 := by
  cases hmode with
  | noMode => exact absurd rfl hmatch
  | dropped => exact absurd rfl hthrough
  | rebuild info hfound hpass hchanged =>
      rw [rebuildFront_screen]
      exact hpass.stall
  | reuse info obj hfound hpass hfront hsame =>
      rw [flushFrameBufferObj_eq _ _ _ _ _ hfront]
      exact hpass.stall

/-- With no call under way a dropped frame is dropped for a count the invariant
knows of, so fewer than the limit were dropped before. -/
theorem DropsBounded.of_dropped {j : ScreenId} {m : Machine} (hinv : DropsBounded j m)
    (hagenda : m.agenda = []) (hcount : m.shared.flushCount j ≠ 0) :
    trailingDrops j m.log ≤ (m.priv.screens j).flushStallCount := by
  rcases hinv.tied with htied | ⟨-, hsettled⟩
  · exact htied
  · rw [settledCount, hagenda] at hsettled
    exact absurd hsettled hcount

theorem DropsBounded.call {j : ScreenId} {m : Machine} {call : Call} {a' : Adapter}
    {actions : List Action} {record : Record} (hinv : DropsBounded j m) (hagenda : m.agenda = [])
    (hcall : CallStep m.priv m.shared call a' actions record) :
    DropsBounded j ⟨a', actions, m.shared, record :: m.log⟩ := by
  have hsettled : settledCount m j = m.shared.flushCount j := by
    rw [settledCount, hagenda]
    rfl
  have hstep := hcall.flushStep j
  -- from here on the screen and the counting actions only appear as variables
  suffices hgoal : ∀ y acts, FlushStep m.priv m.shared call j record y acts →
      y.flushStallCount < flushStallLimit ∧ trailingDrops j (record :: m.log) < flushStallLimit ∧
        (trailingDrops j (record :: m.log) ≤ y.flushStallCount ∨
          (y.front = none ∧ acts.foldl bump (m.shared.flushCount j) = 0)) by
    obtain ⟨hstall, hdrops, htied⟩ := hgoal _ _ hstep
    exact ⟨hstall, hdrops, htied⟩
  intro y acts hstep
  cases hstep with
  | silent hother heq =>
      rw [trailingDrops_of_not_isModeOf _ hother, heq.flushStallCount, heq.front]
      refine ⟨hinv.stall, hinv.drops, hinv.tied.imp id fun h => ⟨h.1, ?_⟩⟩
      exact hsettled ▸ h.2
  | blackOut mode obj _ _ _ hother heq hfront =>
      rw [trailingDrops_of_not_isModeOf _ hother, heq.flushStallCount]
      refine ⟨hinv.stall, hinv.drops, .inl ?_⟩
      rcases hinv.tied with htied | ⟨hnone, -⟩
      · exact htied
      · cases hfront.symm.trans hnone
  | @mode c' status path r _ hscreen hmode =>
      have hlog : trailingDrops j (.mode r.frame r.setMode status path :: m.log) =
          path.drops (trailingDrops j m.log) := if_pos hscreen
      rw [hlog]
      cases path with
      | noMode =>
          cases hmode with
          | noMode =>
              refine ⟨hinv.stall, hinv.drops, hinv.tied.imp id fun h => ⟨h.1, ?_⟩⟩
              exact hsettled ▸ h.2
      | dropped =>
          cases hmode with
          | dropped info _ hcount _ hstall =>
              have htied := hinv.of_dropped hagenda hcount
              have hnext : trailingDrops j m.log + 1 ≤
                  (m.priv.screens j).flushStallCount + 1 := Nat.succ_le_succ htied
              exact ⟨hstall, Nat.lt_of_le_of_lt hnext hstall, .inl hnext⟩
      | rebuild forced =>
          rw [hmode.stall_of_through (by simp) (by simp)]
          exact ⟨flushStallLimit_pos, flushStallLimit_pos, .inl (Nat.le_refl 0)⟩
      | reuse forced =>
          rw [hmode.stall_of_through (by simp) (by simp)]
          exact ⟨flushStallLimit_pos, flushStallLimit_pos, .inl (Nat.le_refl 0)⟩
  | release _ hreleased =>
      rw [trailingDrops_of_not_isModeOf _ (by rintro ⟨_, _, _, _, h, _⟩; cases h)]
      refine ⟨?_, hinv.drops, .inr ⟨hreleased.front, rfl⟩⟩
      rw [hreleased.flushStallCount]
      exact flushStallLimit_pos
  | powerDown _ hdown =>
      rw [trailingDrops_of_not_isModeOf _ (by rintro ⟨_, _, _, _, h, _⟩; cases h),
        hdown.flushStallCount]
      refine ⟨hinv.stall, hinv.drops, hinv.tied.imp id fun h => ⟨hdown.front, ?_⟩⟩
      exact hsettled ▸ h.2

theorem dropsBounded {m : Machine} (hreach : m.Reachable) (j : ScreenId) : DropsBounded j m := by
  apply Machine.ReachableUnder.invariant hreach
  · intro a hbooted
    have hscreen := hbooted.screens j
    refine ⟨?_, flushStallLimit_pos, .inr ⟨hscreen.front, rfl⟩⟩
    show (a.screens j).flushStallCount < flushStallLimit
    rw [hscreen.flushStallCount]
    exact flushStallLimit_pos
  · intro m call a' actions record _ hinv _ hagenda hcall
    exact hinv.call hagenda hcall
  · intro m action rest _ hinv _ hagenda
    refine ⟨hinv.stall, hinv.drops, ?_⟩
    rw [settledCount_act hagenda]
    exact hinv.tied
  · intro m x shared _ hinv _ hmove
    refine ⟨hinv.stall, hinv.drops, hinv.tied.imp id fun h => ⟨h.1, ?_⟩⟩
    exact Nat.le_zero.mp (h.2 ▸ settledCount_outside hmove j)

/-- The path was taken because the stall limit was reached. -/
def PresentPath.forced : PresentPath → Bool
  | .noMode | .dropped => false
  | .rebuild forced | .reuse forced => forced

/-- The call destroyed screen `j`'s front object and went on to build a new one for the
request, which is there afterwards if the creation could succeed. -/
structure Rebuilt (r : Request) (a a' : Adapter) (actions : List Action) : Prop where
  destroyed : ∀ obj, (a.screens r.screen).front = some obj →
    destroyActions r.outcomes false obj.hwRes <:+: actions
  attempted : ∃ info : VideoModeInfo, info.visScreenWidth = r.frame.frame.width ∧
    info.visScreenHeight = r.frame.frame.height ∧
    if Buildable r.outcomes info r.mode (a.ctx r.screen) then
      ∃ obj, (a'.screens r.screen).front = some obj ∧ obj.origin.serial = a.serial ∧
        obj.origin.request = r.mode
    else (a'.screens r.screen).front = none

/-- A frame forced through finds the cached address wiped, so unless its own address is
null it rebuilds the front. -/
theorem ModeStep.forced_rebuild {o : Outcomes} {blob : Bool} {i : ScreenId} {flushCount : Nat}
    {mode : CurrentMode} {c c' : Ctx} {status : NtStatus} {path : PresentPath}
    (hmode : ModeStep o blob i flushCount mode c c' status path) (hforced : path.forced = true)
    (haddr : mode.ptr ≠ 0) :
    ∃ info c₁, info.visScreenWidth = mode.width ∧ info.visScreenHeight = mode.height ∧
      Admits i flushCount mode c c₁ true ∧ c' = rebuildFront o blob i info mode c₁ := by
  cases hmode with
  | noMode => cases hforced
  | dropped => cases hforced
  | rebuild info hfound hpass hchanged =>
      obtain rfl : _ = true := hforced
      have hsize := size_of_searchModes hfound
      exact ⟨info, _, hsize.1, hsize.2, hpass, rfl⟩
  | reuse info obj hfound hpass hfront hsame =>
      obtain rfl : _ = true := hforced
      have hwiped := hsame.addr
      rw [hpass.screen] at hwiped
      exact absurd hwiped.symm haddr

theorem rebuilt_of_forced {r : Request} {a : Adapter} {s : Shared} {c' : Ctx} {status : NtStatus}
    {path : PresentPath} {unread : List AcceptedFrame}
    (hmode : ModeStep r.outcomes a.blobSupported r.screen (s.flushCount r.screen) r.mode
      (a.ctx r.screen) c' status path)
    (hforced : path.forced = true) (haddr : r.frame.frame.addr ≠ 0) :
    Rebuilt r a { a.withCtx r.screen c' with unreadBlackOuts := unread } c'.actions := by
  rw [← r.mode_ptr] at haddr
  obtain ⟨info, c₁, hwidth, hheight, hpass, rfl⟩ := hmode.forced_rebuild hforced haddr
  rw [r.mode_width] at hwidth
  rw [r.mode_height] at hheight
  have hfront : c₁.screen.front = (a.screens r.screen).front := by rw [hpass.screen]; rfl
  have hbuild : Buildable r.outcomes info r.mode c₁ ↔
      Buildable r.outcomes info r.mode (a.ctx r.screen) := hpass.buildable_iff info
  constructor
  · intro obj hobj
    have hdestroy : destroyFrontActions r.outcomes c₁ =
        destroyActions r.outcomes false obj.hwRes := by
      rw [destroyFrontActions, hfront, hobj]
    rw [rebuildFront_actions, hdestroy, List.append_assoc]
    exact ⟨_, _, rfl⟩
  · refine ⟨info, hwidth, hheight, ?_⟩
    have hafter : (({ a.withCtx r.screen
        (rebuildFront r.outcomes a.blobSupported r.screen info r.mode c₁) with
          unreadBlackOuts := unread } : Adapter).screens r.screen).front =
        if Buildable r.outcomes info r.mode c₁ then
          some (createdObj r.outcomes a.blobSupported r.screen info r.mode c₁
            (rebuildId r.outcomes c₁))
        else none := by
      show ((a.withCtx r.screen _).screens r.screen).front = _
      rw [Adapter.withCtx_screens_self, rebuildFront_screen]
    rw [hafter]
    split
    next h => exact ⟨_, if_pos (hbuild.mpr h), hpass.serial, rfl⟩
    next h => exact if_neg fun h' => h (hbuild.mp h')

/-- A frame that goes through resets whatever flush count it finds. -/
theorem ModeStep.clears {o : Outcomes} {blob : Bool} {i : ScreenId} {flushCount : Nat}
    {mode : CurrentMode} {c c' : Ctx} {status : NtStatus} {path : PresentPath}
    (hmode : ModeStep o blob i flushCount mode c c' status path) (hmatch : path ≠ .noMode)
    (hthrough : path ≠ .dropped) : flushCount = 0 ∨ .clearFlush i ∈ c'.actions := by
  have hreset : ∀ {c₁ : Ctx} {forced : Bool}, Admits i flushCount mode c c₁ forced →
      flushCount = 0 ∨ .clearFlush i ∈ c₁.actions := by
    intro c₁ forced hpass
    rw [hpass.actions, resetActions]
    by_cases hcount : flushCount = 0
    · exact .inl hcount
    · rw [if_neg hcount]
      exact .inr (List.mem_append_right _ List.mem_cons_self)
  cases hmode with
  | noMode => exact absurd rfl hmatch
  | dropped => exact absurd rfl hthrough
  | rebuild info hfound hpass hchanged =>
      apply (hreset hpass).imp id
      intro hmem
      rw [rebuildFront_actions, List.append_assoc, List.append_assoc]
      exact List.mem_append_left _ hmem
  | reuse info obj hfound hpass hfront hsame =>
      apply (hreset hpass).imp id
      intro hmem
      rw [flushFrameBufferObj_eq _ _ _ _ _ hfront]
      exact List.mem_append_left _ (List.mem_append_left _ hmem)

/-- In every reachable state: the stall counter is below its limit, fewer frames than
the limit were dropped in a row, and every further frame with a matching mode that is
not dropped goes through. After the largest run of drops the next frame does; it
resets whatever flush count is left; and if the limit forced it and its address is
not null, it rebuilds the front. -/
theorem drops_bounded {m : Machine} (hreach : m.Reachable) (j : ScreenId) :
    (m.priv.screens j).flushStallCount < flushStallLimit ∧
    trailingDrops j m.log ≤ flushStallLimit - 1 ∧
    ∀ call r a' actions status path, m.agenda = [] → call.request = some r → r.screen = j →
      exec m.priv m.shared call =
        some (a', actions, .mode r.frame r.setMode status path) → path ≠ .noMode →
      (trailingDrops j m.log = flushStallLimit - 1 → path ≠ .dropped) ∧
      (path ≠ .dropped → (∃ forced, path = .rebuild forced ∨ path = .reuse forced) ∧
        (a'.screens j).flushStallCount = 0 ∧
        (m.shared.flushCount j = 0 ∨ .clearFlush j ∈ actions)) ∧
      (path.forced = true → r.frame.frame.addr ≠ 0 → Rebuilt r m.priv a' actions) := by
  have hinv := dropsBounded hreach j
  refine ⟨hinv.stall, Nat.le_sub_one_of_lt hinv.drops, ?_⟩
  intro call r a' actions status path hagenda hrequest hscreen hexec hmatch
  subst hscreen
  obtain ⟨c', hmode, rfl, rfl⟩ := (exec_callStep hexec).modeStep hrequest
  refine ⟨?_, ?_, fun hforced haddr => rebuilt_of_forced hmode hforced haddr⟩
  · rintro hlimit rfl
    cases hmode with
    | dropped info _ hcount _ hstall =>
        have htied := hinv.of_dropped hagenda hcount
        have hnext : (m.priv.screens r.screen).flushStallCount + 1 < flushStallLimit := hstall
        rw [hlimit] at htied
        exact absurd (Nat.succ_le_succ htied) (Nat.not_le.mpr hnext)
  · intro hthrough
    refine ⟨?_, ?_, hmode.clears hmatch hthrough⟩
    · cases path with
      | noMode => exact absurd rfl hmatch
      | dropped => exact absurd rfl hthrough
      | rebuild forced => exact ⟨forced, .inl rfl⟩
      | reuse forced => exact ⟨forced, .inr rfl⟩
    · show ((m.priv.withCtx r.screen c').screens r.screen).flushStallCount = 0
      rw [Adapter.withCtx_screens_self]
      exact hmode.stall_of_through hmatch hthrough

/-- The bound is attained: behind one frame whose flush never completes, as many frames
are dropped as the theorem allows. -/
theorem drops_bounded_attained : ∃ m : Machine,
    trailingDrops 0 m.log = flushStallLimit - 1 ∧
    (m.priv.screens 0).flushStallCount < flushStallLimit := by
  let frame : Move := .call (.present (.sized 1024 768 4096 1024 0x1000) true .good)
  let moves : List Move := frame :: (List.replicate 5 .act ++ List.replicate 59 frame)
  have hdrops : (bootRun (.plain true) moves).map (fun m => trailingDrops 0 m.log) =
      some (flushStallLimit - 1) := by decide +kernel
  obtain ⟨m, hrun, hdrops⟩ := Option.map_eq_some_iff.mp hdrops
  exact ⟨m, hdrops, (drops_bounded (reachable_of_bootRun hrun) 0).1⟩

end VirtDisplay
