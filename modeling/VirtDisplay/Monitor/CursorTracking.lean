/-
# Where the pointer is

The cursor thread of a swap chain asks the OS for the pointer whenever the OS signals a
change, and passes on what is new. A position goes to the kernel driver by one IOCTL and a
shape by another, and both carry the place of the pointer. What is new the thread decides
by what it remembers: the ids of the shape and the position it sent last, and the place of
that position.

The thread remembers the place of a position it sent, but not that of a shape. So a shape
can move the pointer of the kernel driver away from the remembered place, and a pointer
that the OS reports back there is not sent.

The kernel driver keeps a negative coordinate at the edge of the screen; the place it
accepts is the one the request names.
-/

import VirtDisplay.Adapter.CursorSpec
import VirtDisplay.Foundation.Transition
import VirtDisplay.Ioctl.Handlers

namespace VirtDisplay

open Transition

/-- `IDARG_OUT_QUERY_HWCURSOR2`, as far as the thread reads it. -/
structure CursorQuery where
  positionValid : Bool
  positionId : Nat
  x : Int
  y : Int
  shapeId : Nat
  width : Nat
  height : Nat
  pitch : Nat
  xHot : Nat
  yHot : Nat

/-- The local variables of `GetCursorData`. -/
structure CursorTracker where
  tempshapeid : Nat
  tempposid : Nat
  tempX : Int
  tempY : Int

/-- The tracker at the start: `UINT_MAX` in all its fields, which is -1 as an `INT`. -/
def CursorTracker.initial : CursorTracker := ⟨2 ^ 32 - 1, 2 ^ 32 - 1, -1, -1⟩

/-- The thread of a screen, and what the kernel driver accepted for that screen. -/
structure CursorThread where
  tracker : CursorTracker
  /-- The place that the last accepted request names. -/
  accepted : Option (Int × Int)
  /-- The last event, if it had a valid position and none of its IOCTLs failed. -/
  settled : Option CursorQuery

namespace CursorThread

open Ioctl

/-- `m_cursordata` for `IOCTL_INTELVIRTDISPLAY_CURSOR_POS`. -/
def positionRequest (screenNum : ScreenId) (q : CursorQuery) : CursorData where
  screenNum := screenNum
  cursorX := q.x
  cursorY := q.y
  width := 0
  height := 0
  pitch := 0
  colorFormat := .other 0
  data := 0
  xHot := 0
  yHot := 0

/-- `m_cursordata` for `IOCTL_INTELVIRTDISPLAY_CURSOR_DATA`, with the screen's shape buffer. -/
def shapeRequest (screenNum : ScreenId) (shapeBuffer : Nat) (q : CursorQuery) : CursorData where
  screenNum := screenNum
  cursorX := q.x
  cursorY := q.y
  width := q.width
  height := q.height
  pitch := q.pitch
  colorFormat := .a8r8g8b8
  data := shapeBuffer
  xHot := q.xHot
  yHot := q.yHot

/-- The place a request names. -/
def place (request : CursorData) : Int × Int := (request.cursorX, request.cursorY)

/-- `positionChanged` -/
def positionChanged (t : CursorTracker) (q : CursorQuery) : Bool :=
  t.tempposid ≠ q.positionId ∧ q.positionValid ∧ (t.tempX ≠ q.x ∨ t.tempY ≠ q.y)

/-- `shapeChanged` -/
def shapeChanged (t : CursorTracker) (q : CursorQuery) : Bool := t.tempshapeid ≠ q.shapeId

/-- The IOCTLs that an event sends, and the outcome of each. -/
structure Outcome where
  position : Bool
  shape : Bool

/-- None of the IOCTLs that the event sends fails. -/
def Succeeds (t : CursorTracker) (q : CursorQuery) (o : Outcome) : Prop :=
  (positionChanged t q = true → o.position = true) ∧ (shapeChanged t q = true → o.shape = true)

instance (t : CursorTracker) (q : CursorQuery) (o : Outcome) : Decidable (Succeeds t q o) :=
  inferInstanceAs (Decidable (_ ∧ _))

/-- The position is sent, and remembered if that succeeds. -/
def sendPosition (screenNum : ScreenId) (q : CursorQuery) (ok : Bool) (s : CursorThread) :
    CursorThread :=
  if ok then
    { s with
      accepted := some (place (positionRequest screenNum q))
      tracker := { s.tracker with tempposid := q.positionId, tempX := q.x, tempY := q.y } }
  else s

/-- The shape is sent, and only its id remembered. -/
def sendShape (screenNum : ScreenId) (shapeBuffer : Nat) (q : CursorQuery) (ok : Bool)
    (s : CursorThread) : CursorThread :=
  if ok then
    { s with
      accepted := some (place (shapeRequest screenNum shapeBuffer q))
      tracker := { s.tracker with tempshapeid := q.shapeId } }
  else s

/-- `ProcessCursorData` for an answer of the OS. -/
def processCursorData (screenNum : ScreenId) (shapeBuffer : Nat) (q : CursorQuery) (o : Outcome)
    (s : CursorThread) : CursorThread :=
  let positionChanged := positionChanged s.tracker q
  let shapeChanged := shapeChanged s.tracker q
  let settled := if q.positionValid ∧ Succeeds s.tracker q o then some q else none
  let s := if positionChanged then s.sendPosition screenNum q o.position else s
  let s := if shapeChanged then s.sendShape screenNum shapeBuffer q o.shape else s
  { s with settled := settled }

/-- What can happen. -/
inductive Label
  /-- A swap chain starts its thread. -/
  | start
  /-- The query fails. -/
  | queryFails
  | event (q : CursorQuery) (o : Outcome)

/-- The threads of a screen, one after the other. -/
def system (screenNum : ScreenId) (shapeBuffer : Nat) : System CursorThread Label where
  step s
    | .start => some { s with tracker := .initial, settled := none }
    | .queryFails => some { s with settled := none }
    | .event q o => some (s.processCursorData screenNum shapeBuffer q o)

/-- No pointer sent yet. -/
def start : CursorThread := ⟨.initial, none, none⟩

/-- The kernel driver has the place that the OS reported in the last event, if that event
settled one. -/
def Follows (s : CursorThread) : Prop := ∀ q ∈ s.settled, s.accepted = some (q.x, q.y)

/-- An event that settles a place sends it, or a shape with it, or the kernel driver has it. -/
def Sends (s : CursorThread) : Label → Prop
  | .start | .queryFails => True
  | .event q o => q.positionValid = true → Succeeds s.tracker q o →
      positionChanged s.tracker q = true ∨ shapeChanged s.tracker q = true ∨
        s.accepted = some (q.x, q.y)

variable {screenNum : ScreenId} {shapeBuffer : Nat} {s : CursorThread} {q : CursorQuery}
  {o : Outcome}

/-- What the kernel driver has accepted after an event. -/
theorem processCursorData_accepted :
    (s.processCursorData screenNum shapeBuffer q o).accepted =
      if positionChanged s.tracker q = true ∧ o.position = true ∨
          shapeChanged s.tracker q = true ∧ o.shape = true then
        some (q.x, q.y)
      else s.accepted := by
  unfold processCursorData sendPosition sendShape
  cases positionChanged s.tracker q <;> cases shapeChanged s.tracker q <;> cases o.position <;>
    cases o.shape <;> rfl

/-- Which events leave the kernel driver with the place that the OS reported. -/
theorem follows_processCursorData :
    Follows (s.processCursorData screenNum shapeBuffer q o) ↔ Sends s (.event q o) := by
  have hsettled : (s.processCursorData screenNum shapeBuffer q o).settled =
      if q.positionValid = true ∧ Succeeds s.tracker q o then some q else none := rfl
  unfold Follows Sends
  rw [hsettled, processCursorData_accepted]
  by_cases hsettles : q.positionValid = true ∧ Succeeds s.tracker q o
  · obtain ⟨hvalid, hsucceeds⟩ := hsettles
    obtain ⟨hposition, hshape⟩ := hsucceeds
    have hsent : (positionChanged s.tracker q = true ∧ o.position = true ∨
        shapeChanged s.tracker q = true ∧ o.shape = true) ↔
        positionChanged s.tracker q = true ∨ shapeChanged s.tracker q = true :=
      or_congr (and_iff_left_of_imp hposition) (and_iff_left_of_imp hshape)
    rw [if_pos ⟨hvalid, hposition, hshape⟩, if_congr hsent rfl rfl]
    simp only [Option.mem_def, Option.some.injEq, forall_eq', hvalid, forall_const]
    rw [forall_prop_of_true (show Succeeds s.tracker q o from ⟨hposition, hshape⟩), ← or_assoc]
    by_cases hsends : positionChanged s.tracker q = true ∨ shapeChanged s.tracker q = true
    · simp [hsends]
    · simp [hsends]
  · rw [if_neg hsettles]
    simp only [Option.mem_def, reduceCtorEq, false_implies, implies_true, true_iff]
    exact fun hvalid hsucceeds => absurd ⟨hvalid, hsucceeds⟩ hsettles

/-- As long as every event that settles a place sends it, or finds the kernel driver to
have it, the kernel driver follows the OS. And these events are the only ones after which
it does. -/
theorem follows_of_reachUnder (screenNum : ScreenId) (shapeBuffer : Nat) (s : CursorThread) :
    ((system screenNum shapeBuffer).ReachUnder Sends start s → Follows s) ∧
      ∀ q o, Follows (s.processCursorData screenNum shapeBuffer q o) ↔ Sends s (.event q o) := by
  refine ⟨fun hreach => ?_, fun q o => follows_processCursorData⟩
  apply hreach.invariant
  · exact nofun
  · intro before label after _ hsends hstep
    cases label with
    | start =>
        obtain rfl := Option.some.inj hstep
        exact nofun
    | queryFails =>
        obtain rfl := Option.some.inj hstep
        exact nofun
    | event q o =>
        obtain rfl := Option.some.inj hstep
        exact follows_processCursorData.mpr hsends

/-- An answer of the OS with the pointer at (3, 3) or, not valid, at (0, 0). -/
def queryAt (valid : Bool) (positionId shapeId : Nat) : CursorQuery where
  positionValid := valid
  positionId := positionId
  x := if valid then 3 else 0
  y := if valid then 3 else 0
  shapeId := shapeId
  width := 32
  height := 32
  pitch := 128
  xHot := 0
  yHot := 0

/-- The event of an answer with these identifiers, with all its IOCTLs succeeding. -/
def eventAt (valid : Bool) (positionId shapeId : Nat) : Label :=
  .event (queryAt valid positionId shapeId) ⟨true, true⟩

theorem follows_of_reachUnder_moved :
    ∃ s, Follows s ∧ s.settled = some (queryAt true 1 1) ∧ s.accepted = some (3, 3) := by
  have hsends : Sends start (eventAt true 1 1) := fun _ _ => .inl (by decide)
  have hstep : (system 0 0).step start (eventAt true 1 1) =
      some (start.processCursorData 0 0 (queryAt true 1 1) ⟨true, true⟩) := rfl
  exact ⟨_, (follows_of_reachUnder 0 0 _).1 (.next .refl hsends hstep), rfl, rfl⟩

/-- A pointer that was moved by its shape is not moved back. -/
theorem not_follows : ∃ s, (system 0 0).Reach start s ∧ ¬ Follows s := by
  have hrun : (system 0 0).run start
      [eventAt true 1 1, eventAt false 1 2, eventAt true 2 2] = some _ := rfl
  refine ⟨_, System.Reach.run .refl hrun, fun hfollows => ?_⟩
  exact absurd (hfollows (queryAt true 2 2) rfl) (by decide)

/-- The place that the kernel driver makes of the one in a request: a negative coordinate
stays at the edge. -/
def hostPlace (place : Int × Int) : Nat × Nat := (place.1.toNat, place.2.toNat)

/-- The place in a cursor command. -/
def toldPlace : CursorCmd → Nat × Nat
  | .updateCursor _ _ x y _ _ => (x, y)
  | .moveCursor _ _ x y => (x, y)

section

variable {o : Outcomes} {i : ScreenId} {c : Ctx} {blob : Bool}

/-- An accepted position is what the host is told. -/
theorem position_told (request : CursorData) (hadd : o.addCursor = true)
    (hsuccess :
      (VirtDisplay.setPointerPosition o i request.cursorX.toNat request.cursorY.toNat c).2 =
        .success) :
    ∃ cmd,
      (VirtDisplay.setPointerPosition o i request.cursorX.toNat request.cursorY.toNat c).1.actions =
        c.actions ++ [.cursor cmd] ∧ toldPlace cmd = hostPlace (place request) := by
  obtain ⟨hcursor, halloc⟩ := (setPointerPosition_success_iff ..).mp hsuccess
  obtain ⟨cursor, hcursor⟩ := Option.ne_none_iff_exists'.mp hcursor
  refine ⟨.moveCursor i.val cursor.hwRes request.cursorX.toNat request.cursorY.toNat, ?_, rfl⟩
  simp [VirtDisplay.setPointerPosition, hcursor, halloc, hadd]

/-- The place of an accepted shape is told to the host. -/
theorem shape_told (request : CursorData) (hadd : o.addCursor = true)
    (hsuccess : (VirtDisplay.setPointerShape o blob i request.shape request.colorFormat c).2 =
      .success) :
    ∃ before cmd,
      (VirtDisplay.setPointerShape o blob i request.shape request.colorFormat c).1.actions =
        before ++ [.cursor cmd] ∧ toldPlace cmd = hostPlace (place request) := by
  unfold VirtDisplay.setPointerShape at hsuccess ⊢
  cases hcreate : createCursor o blob i request.shape request.colorFormat (destroyCursor o c) with
  | mk created ok =>
      rw [hcreate] at hsuccess
      cases ok with
      | false => cases hsuccess
      | true =>
          dsimp only at hsuccess ⊢
          cases hcursor : created.screen.cursorBuf with
          | none =>
              rw [hcursor] at hsuccess
              cases hsuccess
          | some cursor =>
              rw [hcursor] at hsuccess
              dsimp only at hsuccess ⊢
              cases halloc : o.allocCursor with
              | false => simp [halloc] at hsuccess
              | true =>
                  exact ⟨created.actions, .updateCursor i.val cursor.hwRes request.shape.x
                    request.shape.y request.shape.hotX request.shape.hotY, by simp [hadd], rfl⟩

end

end CursorThread

end VirtDisplay
