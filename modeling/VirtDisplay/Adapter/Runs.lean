/-
# Runs of the adapter

How an invariant is established over runs. The rules here specialise the rule of a
component to this adapter: the start is described by what a successful `HWInit`
leaves, and a call by what it does to the adapter as a whole or to one screen.

A run can also be evaluated. `bootRun` starts the device and follows a list of
moves, and what it returns is reachable.
-/

import VirtDisplay.Adapter.ScreenSpec

namespace VirtDisplay

open Transition

/-- A screen as `HWInit` leaves it. -/
structure ScreenInfo.Booted (x : ScreenInfo) (i : ScreenId) : Prop where
  front : x.front = none
  cursorBuf : x.cursorBuf = none
  fbSrcAddr : x.fbSrcAddr = 0
  flushStallCount : x.flushStallCount = 0
  frameLock : x.frameSegment.mdl = some i.val
  frameMapped : x.frameSegment.vAddr ≠ 0
  cursorLock : x.cursorSegment.mdl = some (maxScanOut + i.val)
  cursorMapped : x.cursorSegment.vAddr ≠ 0

/-- The adapter as `HWInit` leaves it. -/
structure Adapter.Booted (a : Adapter) : Prop where
  screens : ∀ i, (a.screens i).Booted i
  serial : a.serial = 2 * maxScanOut
  unreadBlackOuts : a.unreadBlackOuts = []
  pendingBlackOuts : a.pendingBlackOuts = []

/-- A successful `Init` leaves the segment with memory, locked under the number it was
given. -/
theorem Segment.init_of_ok {o : Outcomes} {mdl size : Nat} {segment : Segment}
    (hok : (Segment.init o mdl size segment).ok = true) :
    (Segment.init o mdl size segment).segment.mdl = some mdl ∧
      (Segment.init o mdl size segment).segment.vAddr ≠ 0 := by
  unfold Segment.init at hok ⊢
  dsimp only at hok ⊢
  -- every exit but the last returns `FALSE`
  split_ifs at hok ⊢ with hnull
  exact ⟨rfl, hnull⟩

theorem hwInit_booted {cfg : BootConfig} {a : Adapter} (hinit : hwInit cfg = some a) :
    a.Booted := by
  unfold hwInit at hinit
  split at hinit
  next st heq =>
    split at hinit
    next hok =>
      obtain rfl := Option.some.inj hinit
      refine ⟨fun i => ?_, rfl, rfl, rfl⟩
      obtain ⟨hframeLock, hframeMapped⟩ := Segment.init_of_ok (hok.1 i)
      obtain ⟨hcursorLock, hcursorMapped⟩ := Segment.init_of_ok (hok.2 i)
      exact ⟨rfl, rfl, rfl, rfl, hframeLock, hframeMapped, hcursorLock, hcursorMapped⟩
    next => cases hinit
  next => cases hinit

variable {ok strict : Machine → Move → Prop} {m : Machine}

/-- The invariant rule of the machine, from whatever `HWInit` can leave. -/
theorem Machine.ReachableUnder.invariant_of_hwInit {I : Machine → Prop}
    (hreach : Machine.ReachableUnder ok m)
    (hstart : ∀ cfg a, hwInit cfg = some a → I (.start a))
    (hcall : ∀ m call a' actions record, Machine.Reachable m → I m → ok m (.call call) →
      m.agenda = [] → CallStep m.priv m.shared call a' actions record →
      I ⟨a', actions, m.shared, record :: m.log⟩)
    (hact : ∀ m action rest, Machine.Reachable m → I m → ok m .act → m.agenda = action :: rest →
      I { m with agenda := rest, shared := playAction m.shared action })
    (houtside : ∀ m x shared, Machine.Reachable m → I m → ok m (.outside x) →
      outsideMove m.shared x = some shared → I { m with shared := shared }) :
    I m := by
  obtain ⟨cfg, a, hinit, hreach⟩ := hreach
  apply Component.invariant hreach (hstart cfg a hinit)
  · intro m call a' actions record hreach hinv hok hagenda hexec
    exact hcall m call a' actions record ⟨cfg, a, hinit, hreach⟩ hinv hok hagenda
      (exec_callStep hexec)
  · intro m action rest hreach hinv hok hagenda
    exact hact m action rest ⟨cfg, a, hinit, hreach⟩ hinv hok hagenda
  · intro m x shared hreach hinv hok hmove
    exact houtside m x shared ⟨cfg, a, hinit, hreach⟩ hinv hok hmove

/-- The invariant rule of the machine. -/
theorem Machine.ReachableUnder.invariant {I : Machine → Prop}
    (hreach : Machine.ReachableUnder ok m) (hstart : ∀ a : Adapter, a.Booted → I (.start a))
    (hcall : ∀ m call a' actions record, Machine.Reachable m → I m → ok m (.call call) →
      m.agenda = [] → CallStep m.priv m.shared call a' actions record →
      I ⟨a', actions, m.shared, record :: m.log⟩)
    (hact : ∀ m action rest, Machine.Reachable m → I m → ok m .act → m.agenda = action :: rest →
      I { m with agenda := rest, shared := playAction m.shared action })
    (houtside : ∀ m x shared, Machine.Reachable m → I m → ok m (.outside x) →
      outsideMove m.shared x = some shared → I { m with shared := shared }) :
    I m :=
  hreach.invariant_of_hwInit (fun _ a hinit => hstart a (hwInit_booted hinit)) hcall hact houtside

/-- An invariant of the adapter and the log alone: only calls matter. -/
theorem Machine.ReachableUnder.adapter_invariant {I : Adapter → List Record → Prop}
    (hreach : Machine.ReachableUnder ok m) (hstart : ∀ a : Adapter, a.Booted → I a [])
    (hcall : ∀ m call a' actions record, I m.priv m.log → ok m (.call call) → m.agenda = [] →
      CallStep m.priv m.shared call a' actions record → I a' (record :: m.log)) :
    I m.priv m.log := by
  apply hreach.invariant (I := fun m => I m.priv m.log) hstart
  · intro m call a' actions record _ hinv hok hagenda hstep
    exact hcall m call a' actions record hinv hok hagenda hstep
  · intro m action rest _ hinv _ _
    exact hinv
  · intro m x shared _ hinv _ _
    exact hinv

/-- An invariant of one screen's frame buffer and the log. -/
theorem Machine.ReachableUnder.screen_invariant {I : ScreenInfo → List Record → Prop}
    (hreach : Machine.ReachableUnder ok m) (j : ScreenId)
    (hstart : ∀ x : ScreenInfo, x.Booted j → I x [])
    (hstep : ∀ m call record y, I (m.priv.screens j) m.log → ok m (.call call) →
      ScreenStep m.priv m.shared call j record y → I y (record :: m.log)) :
    I (m.priv.screens j) m.log := by
  apply hreach.adapter_invariant (I := fun a log => I (a.screens j) log)
  · intro a hbooted
    exact hstart _ (hbooted.screens j)
  · intro m call a' actions record hinv hok _ hcall
    exact hstep m call record _ hinv hok (hcall.screenStep j)

/-- The moves of the host and the DPC. A command that was read at the wrong place names another
screen, or none. -/
inductive OutsideStep (s : Shared) : Outside → Shared → Prop
  | executed (hpending : s.executed < s.sent.length) :
      OutsideStep s .hostExecutes { s with executed := s.executed + 1 }
  | executedCursor (hpending : s.cursorExecuted < s.cursorSent.length) :
      OutsideStep s .hostExecutesCursor { s with cursorExecuted := s.cursorExecuted + 1 }
  | completed {k : Nat} {flight : Flight} (hflight : s.flights[k]? = some flight)
      (hexecuted : flight.position < s.executed) :
      OutsideStep s (.complete k)
        (decrementFlush { s with flights := s.flights.eraseIdx k } flight.screen)
  | misreadNone {k : Nat} {flight : Flight} (hflight : s.flights[k]? = some flight)
      (hexecuted : flight.position < s.executed) :
      OutsideStep s (.misread k none) { s with flights := s.flights.eraseIdx k }
  | misreadSome {k : Nat} {flight : Flight} {i : ScreenId}
      (hflight : s.flights[k]? = some flight) (hexecuted : flight.position < s.executed) :
      OutsideStep s (.misread k (some i))
        (decrementFlush { s with flights := s.flights.eraseIdx k } i)

theorem outsideMove_spec {s s' : Shared} {x : Outside} (hmove : outsideMove s x = some s') :
    OutsideStep s x s' := by
  cases x with
  | hostExecutes =>
      obtain ⟨hpending, hafter⟩ := Option.ite_none_right_eq_some.mp hmove
      obtain rfl := Option.some.inj hafter
      exact .executed hpending
  | hostExecutesCursor =>
      obtain ⟨hpending, hafter⟩ := Option.ite_none_right_eq_some.mp hmove
      obtain rfl := Option.some.inj hafter
      exact .executedCursor hpending
  | complete k =>
      simp only [outsideMove] at hmove
      split at hmove
      next => cases hmove
      next flight hflight =>
        obtain ⟨hexecuted, hafter⟩ := Option.ite_none_right_eq_some.mp hmove
        obtain rfl := Option.some.inj hafter
        exact .completed hflight hexecuted
  | misread k reads =>
      simp only [outsideMove] at hmove
      split at hmove
      next => cases hmove
      next flight hflight =>
        obtain ⟨hexecuted, hafter⟩ := Option.ite_none_right_eq_some.mp hmove
        obtain rfl := Option.some.inj hafter
        cases reads with
        | none => exact .misreadNone hflight hexecuted
        | some i => exact .misreadSome hflight hexecuted

/-- No move of the host or the DPC queues a command, or takes or releases a lock. -/
theorem outsideMove_frame {s s' : Shared} {x : Outside} (hmove : outsideMove s x = some s') :
    s'.sent = s.sent ∧ s'.locked = s.locked ∧ s.executed ≤ s'.executed := by
  cases outsideMove_spec hmove with
  | executed => exact ⟨rfl, rfl, Nat.le_succ _⟩
  | executedCursor | completed | misreadNone | misreadSome => exact ⟨rfl, rfl, Nat.le_refl _⟩

/-- Start the device and follow these moves. -/
def bootRun (cfg : BootConfig) (moves : List Move) : Option Machine :=
  (hwInit cfg).bind fun a => machine.run (.start a) moves

/-- A run of moves that are allowed in every state. -/
theorem reachableUnder_of_bootRun {cfg : BootConfig} {moves : List Move}
    (hok : ∀ m, ∀ move ∈ moves, ok m move) (hrun : bootRun cfg moves = some m) :
    Machine.ReachableUnder ok m := by
  obtain ⟨a, hinit, hrun⟩ := Option.bind_eq_some_iff.mp hrun
  exact ⟨cfg, a, hinit, System.ReachUnder.run .refl hok hrun⟩

theorem reachable_of_bootRun {cfg : BootConfig} {moves : List Move}
    (hrun : bootRun cfg moves = some m) : m.Reachable :=
  reachableUnder_of_bootRun (fun _ _ _ => trivial) hrun

/-- A start on which every allocation succeeds and every EDID is blank, so that each
screen gets the fallback modes. -/
def BootConfig.plain (blobFeature : Bool) : BootConfig where
  edidFeature := true
  blobFeature := blobFeature
  fbSize := 0
  replies := fun _ => ⟨true, fun _ => 0, .disabled, true, true⟩
  frame := fun _ => .good
  cursor := fun _ => .good
  behindGpuEdid := fun _ => 0

/-- A request frame of the given geometry, in BGRA, on screen 0. -/
def FrameMetaData.sized (width height pitch stride addr : Nat) : FrameMetaData :=
  ⟨width, height, frameTypeBgra, pitch, stride, addr, 0⟩

end VirtDisplay
