/-
# The mode list of a screen

`GetModeList` runs once at start and again at every hot plug. For each screen it
fetches the EDID, turns it into a list of candidate modes, keeps those at least as
large as the adapter's display size, appends two entries for a size the host may
ask for, and lets `SetCurrentModeExt` search the result.

The host's part of this is an input. A screen's `ScreenReply` says what the EDID
query left in the response buffer, what the display-info query answered, and
whether the two table allocations succeeded. A response that did not arrive before
the time-out is not special: the code reads the buffer all the same, so its
contents are simply some bytes.
-/

import Mathlib.Data.Rat.Floor
import VirtDisplay.Contract
import VirtDisplay.Edid.Parser

namespace VirtDisplay

abbrev maxModelistSize : Nat := 128
abbrev modeListMaxSize : Nat := 32
abbrev qemuModelistSize : Nat := 23

/-- `GPU_DISP_MODE_EXT`: a candidate mode. -/
structure DispMode where
  xResolution : Nat
  yResolution : Nat
  refresh : ℚ
  deriving DecidableEq

/-- The zero-filled candidate. -/
def DispMode.zero : DispMode := ⟨0, 0, 0⟩

/-- `VIDEO_MODE_INFORMATION`, as far as the driver writes it. -/
structure VideoModeInfo where
  modeIndex : Nat
  visScreenWidth : Nat
  visScreenHeight : Nat
  deriving DecidableEq, Repr

/-- The zero-filled entry. -/
def VideoModeInfo.zero : VideoModeInfo := ⟨0, 0, 0⟩

/-- The fields of `ScreenInfo` that describe modes. -/
structure ModeTable where
  /-- `m_ModeInfo`, with `none` for `NULL`. -/
  modeInfo : Option (List VideoModeInfo)
  modeCount : Nat
  modeNumbers : Option (List Nat)
  currentMode : Nat
  customMode : Nat
  edids : Edid
  /-- The entries of `gpu_disp_mode_ext` written since the last reset; the rest of
  its 128 entries are zero. -/
  gpuDispModeExt : List DispMode
  /-- `mode_list`, the parser's output. -/
  modeList : List EdidMode
  enabled : Bool

/-- The constructor of `ScreenInfo`. -/
def ModeTable.initial : ModeTable where
  modeInfo := none
  modeCount := 0
  modeNumbers := none
  currentMode := 0
  customMode := 0
  edids := fun _ => 0
  gpuDispModeExt := []
  modeList := []
  enabled := false

/-- `DXGK_DISPLAY_INFORMATION`: the size modes must at least have. -/
structure DisplayInformation where
  width : Nat
  height : Nat
  pitch : Nat
  colorFormat : D3DDDIFormat
  deriving DecidableEq, Repr

/-- The adapter's initial `DisplayInfo`. -/
def DisplayInformation.initial : DisplayInformation := ⟨1024, 768, 4096, .x8r8g8b8⟩

/-- What `AskDisplayInfo` and `GetDisplayInfo` found for a screen. -/
inductive DisplayReply
  /-- `AskDisplayInfo` could not allocate. -/
  | noMemory
  /-- The reply has another type, or the scanout is disabled. -/
  | disabled
  /-- The scanout is enabled with this size. -/
  | enabled (xres yres : Nat)
  deriving DecidableEq, Repr

/-- The environment's part in rebuilding one screen's mode list. -/
structure ScreenReply where
  /-- `AskEdidInfo` found memory for its response and its command. -/
  edidAllocated : Bool
  /-- The first 256 bytes of the EDID response buffer when it is read. -/
  edid : Edid
  display : DisplayReply
  /-- `new VIDEO_MODE_INFORMATION[]` succeeded. -/
  modeInfoAllocated : Bool
  /-- `new USHORT[]` succeeded. -/
  modeNumbersAllocated : Bool

/-- What is read at `g_gpu_edid`, the EDID reported while none has been received: it has 128
bytes, and the rest of `EDID_V1_BLOCK_SIZE` is what the image has `behind` it. -/
def gGpuEdid (behind : Edid) : Edid := fun i =>
  ([0x00, 0xFF, 0xFF, 0xFF, 0xFF, 0xFF, 0xFF, 0x00, 0x49, 0x14, 0x34, 0x12, 0x00, 0x00, 0x00, 0x00,
    0xff, 0x1d, 0x01, 0x04, 0xa3, 0x00, 0x00, 0x78, 0x22, 0xEE, 0x95, 0xA3, 0x54, 0x4C, 0x99, 0x26,
    0x0F, 0x50, 0x54, 0x00, 0x00, 0x00, 0x01, 0x01, 0x01, 0x01, 0x01, 0x01, 0x01, 0x01, 0x01, 0x01,
    0x01, 0x01, 0x01, 0x01, 0x01, 0x01, 0x6c, 0x20, 0x80, 0x30, 0x42, 0x00, 0x32, 0x30, 0x40, 0xc0,
    0x13, 0x00, 0x00, 0x00, 0x00, 0x00, 0x00, 0x1e, 0x00, 0x00, 0x00, 0xFD, 0x00, 0x32, 0x7D, 0x1E,
    0xA0, 0x78, 0x01, 0x0A, 0x20, 0x20, 0x20, 0x20, 0x20, 0x20, 0x00, 0x00, 0x00, 0x10, 0x00, 0x00,
    0x00, 0x00, 0x00, 0x00, 0x00, 0x00, 0x00, 0x00, 0x00, 0x00, 0x00, 0x00, 0x00, 0x00, 0x00, 0x10,
    0x00, 0x00, 0x00, 0x00, 0x00, 0x00, 0x00, 0x00, 0x00, 0x00, 0x00, 0x00, 0x00, 0x00, 0x00,
    0x00] : List UInt8).getD i.val (behind i)

/-- `GetEdidData` for a screen in range. -/
def getEdidData (bEdid : Bool) (behind : Edid) (table : ModeTable) : Edid :=
  if bEdid then table.edids else gGpuEdid behind

/-- A parsed mode as a candidate: the resolution is narrowed to 16 bits. -/
def EdidMode.toDispMode (mode : EdidMode) : DispMode :=
  ⟨mode.width % 2 ^ 16, mode.height % 2 ^ 16, mode.refreshRate⟩

/-- The candidates `AddEdidModes` writes for an EDID, starting from a reset list. -/
def edidModes (edid : Edid) (modes : List EdidMode) : List DispMode :=
  if (parseEdidData edid modes).1 ≠ 0 then qemuModelist.map EdidMode.toDispMode
  else ((parseEdidData edid modes).2.take outputModelistSize).map EdidMode.toDispMode

/-- `AddEdidModes`, on a table whose candidates have been reset. -/
def addEdidModes (bEdid : Bool) (behind : Edid) (table : ModeTable) : ModeTable :=
  let edid := getEdidData bEdid behind table
  { table with
    modeList := (parseEdidData edid table.modeList).2
    gpuDispModeExt := edidModes edid table.modeList }

/-- `ScreenInfo::Reset`. -/
def ModeTable.reset (table : ModeTable) : ModeTable :=
  { table with modeInfo := none, modeNumbers := none, modeList := [], gpuDispModeExt := [] }

/-- The candidates the prefix scan of `GetModeList` counts: it stops at the first
one below 640x480. -/
def scannedModes (candidates : List DispMode) : List DispMode :=
  (candidates.take maxModelistSize).takeWhile fun mode =>
    mode.xResolution ≥ minWidthSize ∧ mode.yResolution ≥ minHeightSize

/-- `SetVideoModeInfo` on the table at `idx`. -/
def setVideoModeInfo (modeInfo : List VideoModeInfo) (idx x y : Nat) : List VideoModeInfo :=
  modeInfo.set idx ⟨idx, x, y⟩

/-- The variables of the filter loop of `GetModeList`. -/
structure FilterState where
  modeInfo : List VideoModeInfo
  modeNumbers : List Nat
  /-- `SuitableModeCount`. -/
  suitable : Nat
  currentMode : Nat

/-- Whether a candidate is at least as large as the display size. -/
abbrev DispMode.Suitable (disp : DisplayInformation) (mode : DispMode) : Prop :=
  mode.xResolution ≥ disp.width ∧ mode.yResolution ≥ disp.height

/-- One round of the filter loop. -/
def filterMode (disp : DisplayInformation) (s : FilterState) (mode : DispMode) : FilterState :=
  if mode.Suitable disp then
    { modeNumbers := s.modeNumbers.set s.suitable s.suitable
      modeInfo := setVideoModeInfo s.modeInfo s.suitable mode.xResolution mode.yResolution
      currentMode :=
        if mode.xResolution = nomWidthSize ∧ mode.yResolution = nomHeightSize then s.suitable
        else s.currentMode
      suitable := s.suitable + 1 }
  else s

/-- The filter loop over freshly allocated, zero-filled tables. -/
def filterModes (disp : DisplayInformation) (scanned : List DispMode) : FilterState :=
  scanned.foldl (filterMode disp)
    ⟨List.replicate (scanned.length + 2) .zero, List.replicate (scanned.length + 2) 0, 0, 0⟩

/-- Duplicate the current mode into the slot `idx`. -/
def copyCurrentMode (s : FilterState) (idx : Nat) : FilterState :=
  { s with
    modeNumbers := s.modeNumbers.set idx idx
    modeInfo := s.modeInfo.set idx (s.modeInfo.getD s.currentMode .zero) }

/-- The display size after `GetModeList` has raised it to the minimum. -/
def DisplayInformation.raise (disp : DisplayInformation) : DisplayInformation where
  height := max disp.height minHeightSize
  width := max disp.width minWidthSize
  colorFormat := .x8r8g8b8
  pitch := 4 * max disp.width minWidthSize

/-- `SetCustomDisplay`. -/
def setCustomDisplay (table : ModeTable) (xres yres : Nat) : ModeTable :=
  let customMode :=
    if table.customMode = table.modeCount - 1 then table.modeCount - 2 else table.modeCount - 1
  { table with
    customMode := customMode
    modeInfo := table.modeInfo.map fun info =>
      setVideoModeInfo info customMode (max minWidthSize xres) (max minHeightSize yres) }

/-- `VioGpuAdapterLite::GetDisplayInfo`: record whether the screen is enabled and
take over the size the host asks for. -/
def getDisplayInfo (reply : DisplayReply) (table : ModeTable) : ModeTable :=
  match reply with
  | .noMemory => table
  | .disabled => { table with enabled := false }
  | .enabled xres yres =>
      let table := { table with enabled := true }
      if xres ≠ 0 ∧ yres ≠ 0 then setCustomDisplay table (xres % 2 ^ 16) (yres % 2 ^ 16) else table

/-- The state `GetModeList` works on. -/
structure ModeState where
  tables : ScreenId → ModeTable
  displayInfo : DisplayInformation
  /-- `m_bEDID`. -/
  bEdid : Bool
  /-- The bytes that are read behind `g_gpu_edid`. -/
  behindGpuEdid : Edid

/-- The adapter before its first `GetModeList`. -/
def ModeState.initial (behind : Edid) : ModeState := ⟨fun _ => .initial, .initial, false, behind⟩

/-- `ProcessEdid` for one screen. When the EDID query cannot allocate, `GetEdids`
goes on to release a null buffer and does not return. -/
def processEdid (edidFeature : Bool) (reply : ScreenReply) (st : ModeState) (i : ScreenId) :
    Option ModeState :=
  if edidFeature then
    if reply.edidAllocated then
      let table := { st.tables i with edids := reply.edid }
      some { st with
        tables := Function.update st.tables i (addEdidModes true st.behindGpuEdid table)
        bEdid := true }
    else none
  else some st

/-- The table of a screen once its modes have been filtered. -/
def fillTable (disp : DisplayInformation) (table : ModeTable) : ModeTable :=
  let filtered := filterModes disp (scannedModes table.gpuDispModeExt)
  let filled := copyCurrentMode (copyCurrentMode filtered filtered.suitable) (filtered.suitable + 1)
  { table with
    modeInfo := some filled.modeInfo
    modeNumbers := some filled.modeNumbers
    currentMode := filled.currentMode
    customMode := filled.suitable
    modeCount := filled.suitable + 2 }

/-- The loop body of `GetModeList` for screen `i`, behind its EDID query. Besides the
state it returns what the iteration does to the status: `noMemory` also ends the
loop. -/
def finishScreen (reply : ScreenReply) (st : ModeState) (i : ScreenId) : ModeState × NtStatus :=
  let table := st.tables i
  let entries := (scannedModes table.gpuDispModeExt).length + 2
  if ¬ reply.modeInfoAllocated then (st, .noMemory)
  else
    let table := { table with modeInfo := some (List.replicate entries .zero) }
    if ¬ reply.modeNumbersAllocated then
      ({ st with tables := Function.update st.tables i table }, .noMemory)
    else
      let disp := st.displayInfo.raise
      let table := fillTable disp table
      let status := if table.modeCount = 2 then .unsuccessful else .success
      let table := getDisplayInfo reply.display table
      ({ st with tables := Function.update st.tables i table, displayInfo := disp }, status)

/-- The loop body of `GetModeList` for screen `i`. -/
def rebuildScreen (edidFeature : Bool) (reply : ScreenReply) (st : ModeState) (i : ScreenId) :
    Option (ModeState × NtStatus) :=
  let st := { st with tables := Function.update st.tables i (st.tables i).reset }
  (processEdid edidFeature reply st i).map fun st => finishScreen reply st i

/-- The loop of `GetModeList` over the screens `todo`. -/
def rebuildScreens (edidFeature : Bool) (replies : ScreenId → ScreenReply) :
    List ScreenId → NtStatus → ModeState → Option (ModeState × NtStatus)
  | [], status, st => some (st, status)
  | i :: todo, status, st =>
      match rebuildScreen edidFeature (replies i) st i with
      | none => none
      | some (st, .noMemory) => some (st, .noMemory)
      | some (st, .success) => rebuildScreens edidFeature replies todo status st
      | some (st, outcome) => rebuildScreens edidFeature replies todo outcome st

/-- `VioGpuAdapterLite::GetModeList`. -/
def getModeList (edidFeature : Bool) (replies : ScreenId → ScreenReply) (st : ModeState) :
    Option (ModeState × NtStatus) :=
  rebuildScreens edidFeature replies (List.finRange maxScanOut) .success st

end VirtDisplay
