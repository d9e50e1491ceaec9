/-
# The mode-set state machine of a screen

`SetCurrentModeExt` is where both request paths meet. It looks the requested size
up in the mode list, decides whether back-pressure drops the frame, decides
whether the persistent front resource can be reused, and then either rebuilds the
resource or flushes it. `BlackOutScreen` and `ReleaseFrameBuffer` are the other two
functions that touch a screen's front resource while requests arrive.

`m_FlushCount` is not part of the screen here: the DPC changes it too, so a
function receives the value it read and announces its own changes as actions.
-/

import VirtDisplay.Adapter.FrameBuffer

namespace VirtDisplay

abbrev flushStallLimit : Nat := 60

/-- `IsSameMode`, where the entry may be a null pointer. -/
def isSameMode (info : Option VideoModeInfo) (mode : CurrentMode) : Bool :=
  match info with
  | none => false
  | some info => info.visScreenWidth == mode.width && info.visScreenHeight == mode.height

/-- The pointer `&m_ModeInfo[idx]`, followed. With a null table the first entry is a
null pointer, and any other lies outside every table, as does an index past the
end: reading there is the outer `none`. -/
def modeAt (table : Option (List VideoModeInfo)) (idx : Nat) : Option (Option VideoModeInfo) :=
  match table with
  | none => if idx = 0 then some none else none
  | some entries => entries[idx]?.map some

/-- The search loop of `SetCurrentModeExt` from index `idx` on. The outer `none` is
a read outside the table. -/
def searchModes (table : Option (List VideoModeInfo)) (mode : CurrentMode) :
    (remaining idx : Nat) → Option (Option VideoModeInfo)
  | 0, _ => some none
  | remaining + 1, idx =>
      match modeAt table idx with
      | none => none
      | some info =>
          if isSameMode info mode then some info else searchModes table mode remaining (idx + 1)

/-- An entry the search returns has the size asked for. -/
theorem size_of_searchModes {table : Option (List VideoModeInfo)} {mode : CurrentMode}
    {remaining idx : Nat} {info : VideoModeInfo}
    (hfound : searchModes table mode remaining idx = some (some info)) :
    info.visScreenWidth = mode.width ∧ info.visScreenHeight = mode.height := by
  induction remaining generalizing idx with
  | zero => cases hfound
  | succ remaining ih =>
      rw [searchModes] at hfound
      split at hfound
      next => cases hfound
      next entry _ =>
        split at hfound
        next hsame =>
          obtain rfl := Option.some.inj hfound
          simpa [isSameMode] using hsame
        next => exact ih hfound

/-- What the back-pressure block decides. -/
inductive Pressure
  /-- The frame is dropped. -/
  | drop
  /-- The frame goes on; `forced` if the stall limit made it. -/
  | go (forced : Bool)
  deriving DecidableEq, Repr

/-- A `SET_MODE` meets a non-zero flush count and clears it. -/
abbrev clearsStale (flushCount : Nat) (mode : CurrentMode) : Bool :=
  mode.setMode && flushCount != 0

/-- The back-pressure block of `SetCurrentModeExt`, on the flush count it read. -/
def backPressure (i : ScreenId) (flushCount : Nat) (mode : CurrentMode) (c : Ctx) :
    Ctx × Pressure :=
  if clearsStale flushCount mode then
    -- the second test of the counter then finds zero
    (({ c with screen := { c.screen with flushStallCount := 0 } }).clearFlush i, .go false)
  else if flushCount ≠ 0 then
    let stall := c.screen.flushStallCount + 1
    if stall ≥ flushStallLimit then
      (({ c with screen := { c.screen with flushStallCount := 0, fbSrcAddr := 0 } }).clearFlush i,
        .go true)
    else ({ c with screen := { c.screen with flushStallCount := stall } }, .drop)
  else ({ c with screen := { c.screen with flushStallCount := 0 } }, .go false)

/-- `backingChanged`. -/
def backingChanged (screen : ScreenInfo) (mode : CurrentMode) : Bool :=
  screen.front.isNone || screen.fbSrcAddr != mode.ptr || screen.fbWidth != mode.width ||
    screen.fbHeight != mode.height || screen.fbStride != mode.stride

/-- The rebuild branch: destroy the old front, cache the new identity, create. -/
def rebuildFront (o : Outcomes) (blob : Bool) (i : ScreenId) (info : VideoModeInfo)
    (mode : CurrentMode) (c : Ctx) : Ctx :=
  let c := destroyFrameBufferObj o false c
  let c := { c with screen :=
    { c.screen with
      fbSrcAddr := mode.ptr
      fbWidth := mode.width
      fbHeight := mode.height
      fbStride := mode.stride } }
  createFrameBufferObj o blob i info mode c

/-- Which way a call of `SetCurrentModeExt` went. -/
inductive PresentPath
  /-- No entry of the mode list has the requested size. -/
  | noMode
  /-- Back-pressure dropped the frame. -/
  | dropped
  /-- The front resource was torn down and built anew. -/
  | rebuild (forced : Bool)
  /-- The front resource was flushed as it is. -/
  | reuse (forced : Bool)
  deriving DecidableEq, Repr

/-- The part of `SetCurrentModeExt` behind a matching entry. -/
def presentMode (o : Outcomes) (blob : Bool) (i : ScreenId) (flushCount : Nat)
    (info : VideoModeInfo) (mode : CurrentMode) (c : Ctx) : Ctx × PresentPath :=
  match backPressure i flushCount mode c with
  | (c, .drop) => (c, .dropped)
  | (c, .go forced) =>
      if backingChanged c.screen mode then (rebuildFront o blob i info mode c, .rebuild forced)
      else (flushFrameBufferObj o blob i info c, .reuse forced)

/-- `SetCurrentModeExt`. The status is `STATUS_SUCCESS` as soon as the loop has a
first round, found or not. `none` is a fault in the search. -/
def setCurrentModeExt (o : Outcomes) (blob : Bool) (i : ScreenId) (flushCount : Nat)
    (mode : CurrentMode) (c : Ctx) : Option (Ctx × NtStatus × PresentPath) :=
  match searchModes c.screen.modes.modeInfo mode c.screen.modes.modeCount 0 with
  | none => none
  | some none =>
      some (c, if c.screen.modes.modeCount = 0 then .unsuccessful else .success, .noMode)
  | some (some info) =>
      let (c, path) := presentMode o blob i flushCount info mode c
      some (c, .success, path)

/-- The number of bytes `BlackOutScreen` zeroes at `FrameBuffer.Ptr`. -/
def blackOutBytes (mode : CurrentMode) : Nat :=
  if mode.frameBufferIsActive ∧ mode.ptr ≠ 0 then mode.height * mode.pitch % 2 ^ 32 else 0

/-- `BlackOutScreen` behind the zeroing: the front resource is uploaded and flushed. -/
def blackOutScreen (o : Outcomes) (i : ScreenId) (mode : CurrentMode) (c : Ctx) : Ctx :=
  if mode.frameBufferIsActive then
    match c.screen.front with
    | none => c
    | some frontBuf =>
        let c := c.submit o (.transferToHost2D frontBuf.hwRes mode.width mode.height) none
        c.resFlush o i frontBuf.origin.serial frontBuf.hwRes mode.width mode.height
  else c

/-- `ReleaseFrameBuffer` for a screen in range. -/
def releaseFrameBuffer (o : Outcomes) (i : ScreenId) (c : Ctx) : Ctx :=
  let c := c.submit o (.setScanout i.val 0 0 0) none
  let c := destroyFrameBufferObj o false c
  let c := c.pages c.screen.frameSegment.closeEvents
  let c := { c with screen :=
    { c.screen with
      frameSegment := c.screen.frameSegment.close
      fbSrcAddr := 0
      fbWidth := 0
      fbHeight := 0
      fbStride := 0
      flushStallCount := 0 } }
  c.clearFlush i

end VirtDisplay
