/-
# The mode list as a checked program

`Modes.ModeTable` fills the two tables of a screen with list operations that ignore what lies
outside. Here the same statements run on tables of the allocated length, with counters of the
types the source gives them: an index outside a table, or a count that its type does not hold,
would be a fault.

None occurs, whatever the 128 candidates, the display size and the host's answer are, and the
program computes what the list operations compute.
-/

import Mathlib.Data.List.GetD
import Mathlib.Data.List.TakeWhile
import VirtDisplay.Foundation.Checked
import VirtDisplay.Modes.OfferedModes

namespace VirtDisplay

namespace ModeProgram

open Checked

/-- `gpu_disp_mode_ext[i]`. -/
def readMode (table : ModeTable) (i : Nat) : Checked Empty DispMode :=
  if i < maxModelistSize then pure (table.gpuDispModeExt.getD i .zero) else fault .outOfBounds

/-- A round of the prefix scan, whose condition looks at the next candidate. -/
def scanRound (table : ModeTable) (modeCount : Nat) : Checked Empty (Turn Nat) := do
  let mode ← readMode table modeCount
  if mode.xResolution ≥ minWidthSize ∧ mode.yResolution ≥ minHeightSize then
    return .next (← uint (modeCount + 1))
  else return .leave modeCount

/-- The prefix scan. -/
def scanModes (table : ModeTable) : Checked Empty Nat :=
  loop (fun modeCount => decide (modeCount < maxModelistSize)) (scanRound table)
    (maxModelistSize + 1) 0

/-- `SetVideoModeInfo`. -/
def setVideoModeInfo (modeInfo : List VideoModeInfo) (idx x y : Nat) :
    Checked Empty (List VideoModeInfo) := put modeInfo idx ⟨idx, x, y⟩

/-- A round of the filter loop. Its counter is a `USHORT`, and so is `SuitableModeCount`. -/
def filterRound (disp : DisplayInformation) (table : ModeTable) (currentMode : Nat)
    (s : FilterState) : Checked Empty (Turn FilterState) := do
  let mode ← readMode table currentMode
  let _ ← ushort (currentMode + 1)
  if mode.Suitable disp then
    let modeNumbers ← put s.modeNumbers s.suitable s.suitable
    let modeInfo ← setVideoModeInfo s.modeInfo s.suitable mode.xResolution mode.yResolution
    let suitable ← ushort (s.suitable + 1)
    return .next
      { modeInfo := modeInfo
        modeNumbers := modeNumbers
        suitable := suitable
        currentMode :=
          if mode.xResolution = nomWidthSize ∧ mode.yResolution = nomHeightSize then s.suitable
          else s.currentMode }
  else return .next s

/-- A round of the loop that duplicates the current mode. -/
def copyRound (idx : Nat) (s : FilterState) : Checked Empty (Turn FilterState) := do
  let _ ← ushort (idx + 1)
  let modeNumbers ← put s.modeNumbers idx idx
  let entry ← fetch s.modeInfo s.currentMode
  let modeInfo ← put s.modeInfo idx entry
  return .next { s with modeNumbers := modeNumbers, modeInfo := modeInfo }

/-- The loops behind the allocation of the two tables, which have `mode_count` entries. -/
def fillTable (disp : DisplayInformation) (table : ModeTable) (modeCount : Nat) :
    Checked Empty ModeTable := do
  let stop ← minus modeCount 2
  let filtered ← forLoop (fun idx => decide (idx < stop)) 1 (filterRound disp table)
    (maxModelistSize + 1) 0 ⟨List.replicate modeCount .zero, List.replicate modeCount 0, 0, 0⟩
  let stop ← int (filtered.suitable + 2)
  let filled ← forLoop (fun idx => decide (idx < stop)) 1 copyRound (maxModelistSize + 1)
    filtered.suitable filtered
  return { table with
    modeInfo := some filled.modeInfo
    modeNumbers := some filled.modeNumbers
    currentMode := filled.currentMode
    customMode := filtered.suitable
    modeCount := stop }

/-- The slot that `SetCustomDisplay` takes: the last, or the last but one if the last is taken. -/
def customSlot (table : ModeTable) : Checked Empty Nat := do
  let last ← minus table.modeCount 1
  if table.customMode = last then ushort (← minus table.modeCount 2) else ushort last

/-- `SetCustomDisplay`. -/
def setCustomDisplay (table : ModeTable) (xres yres : Nat) : Checked Empty ModeTable := do
  let customMode ← customSlot table
  let modeInfo ← setVideoModeInfo (table.modeInfo.getD []) customMode (max minWidthSize xres)
    (max minHeightSize yres)
  return { table with customMode := customMode, modeInfo := some modeInfo }

/-- `VioGpuAdapterLite::GetDisplayInfo`. -/
def getDisplayInfo (reply : DisplayReply) (table : ModeTable) : Checked Empty ModeTable :=
  match reply with
  | .noMemory => pure table
  | .disabled => pure { table with enabled := false }
  | .enabled xres yres =>
      if xres ≠ 0 ∧ yres ≠ 0 then
        setCustomDisplay { table with enabled := true } (xres % 2 ^ 16) (yres % 2 ^ 16)
      else pure { table with enabled := true }

/-- The loop body of `GetModeList` for screen `i`, behind its EDID query. -/
def finishScreen (reply : ScreenReply) (st : ModeState) (i : ScreenId) :
    Checked Empty (ModeState × NtStatus) := do
  let modeCount ← uint ((← scanModes (st.tables i)) + 2)
  if ¬ reply.modeInfoAllocated then
    return (st, .noMemory)
  else
    let table := { st.tables i with modeInfo := some (List.replicate modeCount .zero) }
    if ¬ reply.modeNumbersAllocated then
      return ({ st with tables := Function.update st.tables i table }, .noMemory)
    else
      let disp := st.displayInfo.raise
      let table ← fillTable disp table modeCount
      let status := if table.modeCount = 2 then NtStatus.unsuccessful else .success
      let table ← getDisplayInfo reply.display table
      return ({ st with tables := Function.update st.tables i table, displayInfo := disp }, status)

section

variable {c : List DispMode} {k : Nat}

/-- The minimum size, which the prefix scan looks for. -/
abbrev IsLarge (mode : DispMode) : Prop :=
  mode.xResolution ≥ minWidthSize ∧ mode.yResolution ≥ minHeightSize

theorem scannedModes_prefix : scannedModes c <+: c :=
  (List.takeWhile_prefix _).trans (List.take_prefix _ _)

theorem length_scannedModes_le : (scannedModes c).length ≤ maxModelistSize :=
  (List.takeWhile_prefix _).length_le.trans (List.length_take_le _ _)

theorem getD_of_lt_scanned (h : k < (scannedModes c).length) :
    c.getD k .zero = (scannedModes c)[k] := by
  rw [List.getD_eq_getElem _ _ (h.trans_le scannedModes_prefix.length_le),
    scannedModes_prefix.getElem h]

theorem isLarge_of_lt_scanned (h : k < (scannedModes c).length) :
    IsLarge (c.getD k .zero) := by
  rw [getD_of_lt_scanned h]
  have hmem : (scannedModes c)[k] ∈ (c.take maxModelistSize).takeWhile
      fun mode => decide (IsLarge mode) := List.getElem_mem h
  have hlarge := List.mem_takeWhile_imp hmem
  exact of_decide_eq_true hlarge

/-- The scan stops at a candidate that is not large, or at the zeros behind the candidates. -/
theorem not_isLarge_at_scanned (h : (scannedModes c).length < maxModelistSize) :
    ¬ IsLarge (c.getD (scannedModes c).length .zero) := by
  have hscanned : (scannedModes c).length = (c.take maxModelistSize).findIdx
      fun mode => !decide (IsLarge mode) := by
    rw [scannedModes, List.takeWhile_eq_take_findIdx_not, List.length_take,
      Nat.min_eq_left List.findIdx_le_length]
  rw [hscanned] at h ⊢
  set first := (c.take maxModelistSize).findIdx fun mode => !decide (IsLarge mode)
  by_cases hin : first < (c.take maxModelistSize).length
  · have hfound := List.findIdx_getElem (w := hin)
    rw [Bool.not_eq_true', decide_eq_false_iff_not, List.getElem_take] at hfound
    rwa [List.getD_eq_getElem]
  · have hle : c.length ≤ first := by
      rw [List.length_take] at hin
      omega
    rw [List.getD_eq_default _ _ hle]
    decide

end

section

variable (table : ModeTable)

theorem readMode_of_lt {i : Nat} (h : i < maxModelistSize) :
    readMode table i = pure (table.gpuDispModeExt.getD i .zero) := if_pos h

theorem scanRound_eq {i : Nat} (h : i < maxModelistSize) : scanRound table i =
    pure (if IsLarge (table.gpuDispModeExt.getD i .zero) then .next (i + 1) else .leave i) := by
  have hfit : maxModelistSize < 2 ^ 32 := by decide
  rw [scanRound, readMode_of_lt table h, Logged.ok_bind, uint_of_lt (by omega)]
  split <;> rfl

theorem scanModes_eq : scanModes table = pure (scannedModes table.gpuDispModeExt).length := by
  have hle := length_scannedModes_le (c := table.gpuDispModeExt)
  rcases Nat.lt_or_eq_of_le hle with hlt | heq
  · refine loop_pure_leave (fun k => k) (scannedModes table.gpuDispModeExt).length
      (fun k hk => decide_eq_true (by omega)) (fun k hk => ?_) ?_ (by omega)
    · rw [scanRound_eq table (by omega), if_pos (isLarge_of_lt_scanned hk)]
    · rw [scanRound_eq table hlt, if_neg (not_isLarge_at_scanned hlt)]
  · refine loop_pure (fun k => k) (scannedModes table.gpuDispModeExt).length
      (fun k hk => decide_eq_true (by omega)) (fun k hk => ?_) (decide_eq_false (by omega))
      (by omega)
    rw [scanRound_eq table (by omega), if_pos (isLarge_of_lt_scanned hk)]

variable (disp : DisplayInformation)

/-- A round of the filter with room in the tables. -/
theorem filterRound_eq {i : Nat} {s : FilterState} (hi : i < maxModelistSize)
    (hsuitable : s.suitable ≤ i) (hinfo : s.suitable < s.modeInfo.length)
    (hnumbers : s.suitable < s.modeNumbers.length) : filterRound disp table i s =
      pure (.next (filterMode disp s (table.gpuDispModeExt.getD i .zero))) := by
  have hfit : maxModelistSize < 2 ^ 16 := by decide
  rw [filterRound, readMode_of_lt table hi, Logged.ok_bind, ushort_of_lt (by omega),
    Logged.ok_bind, filterMode]
  split
  next =>
    rw [put_of_lt hnumbers, Logged.ok_bind, setVideoModeInfo, put_of_lt hinfo, Logged.ok_bind,
      ushort_of_lt (by omega), Logged.ok_bind]
    rfl
  next => rfl

/-- The entries of `m_ModeNumbers` below the count are their own numbers. -/
structure Numbered (total : Nat) (s : FilterState) : Prop where
  length_eq : s.modeNumbers.length = total
  numbers : ∀ k < s.suitable, s.modeNumbers[k]? = some k

/-- Writing its own number to the next entry. -/
theorem numbers_set_succ {numbers : List Nat} {n : Nat} (hn : n < numbers.length)
    (hnumbers : ∀ k < n, numbers[k]? = some k) :
    ∀ k < n + 1, (numbers.set n n)[k]? = some k := by
  intro k hk
  rcases Nat.lt_succ_iff_lt_or_eq.mp hk with hlt | rfl
  · rw [List.getElem?_set_ne (Nat.ne_of_gt hlt), hnumbers k hlt]
  · exact List.getElem?_set_self hn

theorem numbered_foldl {total : Nat} {seen : List DispMode} (hroom : seen.length ≤ total) :
    Numbered total (seen.foldl (filterMode disp)
      ⟨List.replicate total .zero, List.replicate total 0, 0, 0⟩) := by
  induction seen using List.reverseRecOn with
  | nil => exact ⟨List.length_replicate, fun k hk => absurd hk (Nat.not_lt_zero k)⟩
  | append_singleton seen mode ih =>
      rw [List.length_append, List.length_singleton] at hroom
      obtain ⟨hlength, hnumbers⟩ := ih (Nat.le_of_succ_le hroom)
      have hle := (tracks_foldl disp (Nat.le_of_succ_le hroom)).suitable_le
      rw [List.foldl_append, List.foldl_cons, List.foldl_nil, filterMode]
      split
      next => exact ⟨(List.length_set).trans hlength, numbers_set_succ (by omega) hnumbers⟩
      next => exact ⟨hlength, hnumbers⟩

/-- The filter loop computes the filter. -/
theorem filterLoop_eq :
    forLoop (fun idx => decide (idx < (scannedModes table.gpuDispModeExt).length)) 1
      (filterRound disp table) (maxModelistSize + 1) 0
      ⟨List.replicate ((scannedModes table.gpuDispModeExt).length + 2) .zero,
        List.replicate ((scannedModes table.gpuDispModeExt).length + 2) 0, 0, 0⟩ =
      pure (filterModes disp (scannedModes table.gpuDispModeExt)) := by
  set scanned := scannedModes table.gpuDispModeExt with hscanned
  have hle : scanned.length ≤ maxModelistSize := length_scannedModes_le
  have hfit : maxModelistSize < 2 ^ 31 := by decide
  refine (forLoop_pure (fun k => (scanned.take k).foldl (filterMode disp)
    ⟨List.replicate (scanned.length + 2) .zero, List.replicate (scanned.length + 2) 0, 0, 0⟩)
    scanned.length (fun k hk => decide_eq_true (by omega)) (fun k hk => ?_)
    (decide_eq_false (by omega)) (by omega) (by omega)).trans ?_
  · have hroom : (scanned.take k).length ≤ scanned.length + 2 := by
      rw [List.length_take]
      omega
    have htracks := tracks_foldl disp hroom
    have hnumbered := numbered_foldl disp hroom
    have hsuitable := htracks.suitable_le
    rw [List.length_take, Nat.min_eq_left (Nat.le_of_lt hk)] at hsuitable
    have hinfo := htracks.length_eq
    have hnumbers := hnumbered.length_eq
    rw [Nat.zero_add, Nat.mul_one, filterRound_eq table disp (by omega) hsuitable (by omega)
      (by omega), getD_of_lt_scanned hk, List.take_add_one, List.getElem?_eq_getElem hk,
      List.foldl_append]
    rfl
  · rw [List.take_length]
    rfl

end

theorem copyRound_eq {idx : Nat} {s : FilterState} (hfit : idx + 1 < 2 ^ 16)
    (hnumbers : idx < s.modeNumbers.length) (hinfo : idx < s.modeInfo.length)
    (hcurrent : s.currentMode < s.modeInfo.length) :
    copyRound idx s = pure (.next (copyCurrentMode s idx)) := by
  rw [copyRound, ushort_of_lt hfit, Logged.ok_bind, put_of_lt hnumbers, Logged.ok_bind,
    fetch_of_lt hcurrent, Logged.ok_bind, put_of_lt hinfo, Logged.ok_bind, copyCurrentMode,
    List.getD_eq_getElem _ _ hcurrent]

/-- Two rounds, each with one number and one entry. -/
theorem copyLoop_eq {s : FilterState} (hfit : s.suitable + 2 < 2 ^ 16)
    (hnumbers : s.suitable + 1 < s.modeNumbers.length)
    (hinfo : s.suitable + 1 < s.modeInfo.length) (hcurrent : s.currentMode < s.modeInfo.length) :
    forLoop (fun idx => decide (idx < s.suitable + 2)) 1 copyRound (maxModelistSize + 1)
      s.suitable s = pure (copyCurrentMode (copyCurrentMode s s.suitable) (s.suitable + 1)) := by
  refine forLoop_pure (fun k => (List.range k).foldl
    (fun s' j => copyCurrentMode s' (s.suitable + j)) s) 2 (fun k hk => decide_eq_true (by omega))
    (fun k hk => ?_) (decide_eq_false (by omega)) (by omega) (by decide)
  rw [List.range_succ, List.foldl_append, List.foldl_cons, List.foldl_nil, Nat.mul_one]
  rcases Nat.lt_succ_iff_lt_or_eq.mp hk with hfirst | rfl
  · obtain rfl : k = 0 := by omega
    exact copyRound_eq (by omega) (Nat.lt_of_succ_lt hnumbers) (Nat.lt_of_succ_lt hinfo) hcurrent
  · refine copyRound_eq (by omega) ?_ ?_ ?_
    · exact hnumbers.trans_eq List.length_set.symm
    · exact hinfo.trans_eq List.length_set.symm
    · exact hcurrent.trans_eq List.length_set.symm

/-- The tables of a screen whose modes have been filtered. -/
structure Filled (entries : Nat) (table : ModeTable) : Prop where
  modeInfo : ∃ info, table.modeInfo = some info ∧ info.length = entries
  modeNumbers : ∃ numbers, table.modeNumbers = some numbers ∧ numbers.length = entries ∧
    ∀ k < table.modeCount, numbers[k]? = some k
  two_le : 2 ≤ table.modeCount
  modeCount_le : table.modeCount ≤ entries
  currentMode_lt : table.currentMode < table.modeCount
  customMode_lt : table.customMode < table.modeCount

section

variable (disp : DisplayInformation) (table : ModeTable)

theorem fillTable_eq : fillTable disp table ((scannedModes table.gpuDispModeExt).length + 2) =
    pure (VirtDisplay.fillTable disp table) := by
  have hle : (scannedModes table.gpuDispModeExt).length ≤ maxModelistSize := length_scannedModes_le
  have hroom : (scannedModes table.gpuDispModeExt).length ≤
      (scannedModes table.gpuDispModeExt).length + 2 := Nat.le_add_right _ 2
  have hmax : maxModelistSize = 128 := rfl
  have htracks := tracks_filterModes disp (scannedModes table.gpuDispModeExt)
  have hnumbered : Numbered _ (filterModes disp _) := numbered_foldl disp hroom
  have hsuitable := htracks.suitable_le
  have hcurrent := htracks.current
  have hinfo := htracks.length_eq
  have hnumbers := hnumbered.length_eq
  rw [fillTable, minus_of_le (Nat.le_add_left 2 _), Logged.ok_bind, Nat.add_sub_cancel,
    filterLoop_eq, Logged.ok_bind, int_of_lt (by omega), Logged.ok_bind,
    copyLoop_eq (by omega) (by omega) (by omega) (by omega)]
  rfl

theorem filled_fillTable :
    Filled ((scannedModes table.gpuDispModeExt).length + 2) (VirtDisplay.fillTable disp table) := by
  have hroom : (scannedModes table.gpuDispModeExt).length ≤
      (scannedModes table.gpuDispModeExt).length + 2 := Nat.le_add_right _ 2
  have htracks := tracks_filterModes disp (scannedModes table.gpuDispModeExt)
  have hnumbered : Numbered _ (filterModes disp (scannedModes table.gpuDispModeExt)) :=
    numbered_foldl disp hroom
  have hsuitable := htracks.suitable_le
  have hnumbers := hnumbered.length_eq
  set s := filterModes disp (scannedModes table.gpuDispModeExt) with hs
  have hcount : (VirtDisplay.fillTable disp table).modeCount = s.suitable + 2 := rfl
  have hcurrent : (VirtDisplay.fillTable disp table).currentMode = s.currentMode := rfl
  have hcustom : (VirtDisplay.fillTable disp table).customMode = s.suitable := rfl
  refine ⟨⟨_, rfl, ?_⟩, ⟨_, rfl, ?_, ?_⟩, ?_, ?_, ?_, ?_⟩
  · exact (List.length_set.trans List.length_set).trans htracks.length_eq
  · exact (List.length_set.trans List.length_set).trans hnumbers
  · have hfirst : s.suitable < s.modeNumbers.length := by omega
    have hsecond : s.suitable + 1 < (s.modeNumbers.set s.suitable s.suitable).length := by
      rw [List.length_set]
      omega
    rw [hcount]
    exact numbers_set_succ hsecond (numbers_set_succ hfirst hnumbered.numbers)
  · omega
  · omega
  · rw [hcount, hcurrent]
    rcases htracks.current with hlt | hzero <;> omega
  · omega

variable {table : ModeTable} {entries : Nat}

theorem customSlot_eq (hfilled : Filled entries table) (hfit : entries < 2 ^ 16) :
    customSlot table = pure (if table.customMode = table.modeCount - 1 then table.modeCount - 2
      else table.modeCount - 1) := by
  have htwo := hfilled.two_le
  have hle := hfilled.modeCount_le
  rw [customSlot, minus_of_le (by omega), Logged.ok_bind]
  split
  next => rw [minus_of_le htwo, Logged.ok_bind, ushort_of_lt (by omega)]
  next => rw [ushort_of_lt (by omega)]

theorem setCustomDisplay_eq (hfilled : Filled entries table) (hfit : entries < 2 ^ 16)
    (xres yres : Nat) : setCustomDisplay table xres yres =
      pure (VirtDisplay.setCustomDisplay table xres yres) := by
  obtain ⟨info, hinfo, hlength⟩ := hfilled.modeInfo
  have htwo := hfilled.two_le
  have hle := hfilled.modeCount_le
  rw [setCustomDisplay, customSlot_eq hfilled hfit, Logged.ok_bind, setVideoModeInfo, hinfo,
    Option.getD_some, put_of_lt (by split <;> omega), Logged.ok_bind,
    VirtDisplay.setCustomDisplay, hinfo]
  rfl

/-- The custom size stands in the slot that is then the custom mode. -/
theorem filled_setCustomDisplay (hfilled : Filled entries table) (xres yres : Nat) :
    Filled entries (VirtDisplay.setCustomDisplay table xres yres) ∧
      ∃ info, (VirtDisplay.setCustomDisplay table xres yres).modeInfo = some info ∧
        (info[(VirtDisplay.setCustomDisplay table xres yres).customMode]?).map
          VideoModeInfo.visSize = some (max minWidthSize xres, max minHeightSize yres) := by
  obtain ⟨info, hinfo, hlength⟩ := hfilled.modeInfo
  have htwo := hfilled.two_le
  have hle := hfilled.modeCount_le
  have hslot : (VirtDisplay.setCustomDisplay table xres yres).customMode < table.modeCount := by
    show (if table.customMode = table.modeCount - 1 then table.modeCount - 2
      else table.modeCount - 1) < table.modeCount
    split <;> omega
  have hinfo' : (VirtDisplay.setCustomDisplay table xres yres).modeInfo =
      some (info.set (VirtDisplay.setCustomDisplay table xres yres).customMode
        ⟨(VirtDisplay.setCustomDisplay table xres yres).customMode, max minWidthSize xres,
          max minHeightSize yres⟩) := by
    simp only [VirtDisplay.setCustomDisplay, hinfo, Option.map_some, VirtDisplay.setVideoModeInfo]
  refine ⟨⟨⟨_, hinfo', List.length_set.trans hlength⟩, hfilled.modeNumbers, htwo, hle,
    hfilled.currentMode_lt, hslot⟩, _, hinfo', ?_⟩
  rw [List.getElem?_set_self (by omega)]
  rfl

theorem Filled.enable (hfilled : Filled entries table) :
    Filled entries { table with enabled := true } :=
  ⟨hfilled.modeInfo, hfilled.modeNumbers, hfilled.two_le, hfilled.modeCount_le,
    hfilled.currentMode_lt, hfilled.customMode_lt⟩

/-- A filled table stays filled, without a fault, whatever the host answers. -/
theorem getDisplayInfo_eq (hfilled : Filled entries table) (hfit : entries < 2 ^ 16)
    (reply : DisplayReply) :
    getDisplayInfo reply table = pure (VirtDisplay.getDisplayInfo reply table) ∧
      Filled entries (VirtDisplay.getDisplayInfo reply table) := by
  cases reply with
  | noMemory => exact ⟨rfl, hfilled⟩
  | disabled =>
      exact ⟨rfl, hfilled.modeInfo, hfilled.modeNumbers, hfilled.two_le, hfilled.modeCount_le,
        hfilled.currentMode_lt, hfilled.customMode_lt⟩
  | enabled xres yres =>
      unfold getDisplayInfo VirtDisplay.getDisplayInfo
      dsimp only
      split
      next =>
        exact ⟨setCustomDisplay_eq hfilled.enable hfit _ _,
          (filled_setCustomDisplay hfilled.enable _ _).1⟩
      next => exact ⟨rfl, hfilled.enable⟩

end

variable {reply : ScreenReply} {st : ModeState} {i : ScreenId}

/-- The table of a screen behind the allocation of its entries. -/
def zeroedTable (table : ModeTable) : ModeTable :=
  { table with
    modeInfo := some (List.replicate ((scannedModes table.gpuDispModeExt).length + 2) .zero) }

/-- The program does what the list operations do, also where an allocation fails. -/
theorem finishScreen_eq :
    finishScreen reply st i = pure (VirtDisplay.finishScreen reply st i) := by
  have hle : (scannedModes (st.tables i).gpuDispModeExt).length ≤ maxModelistSize :=
    length_scannedModes_le
  have hmax : maxModelistSize = 128 := rfl
  rw [finishScreen, scanModes_eq, Logged.ok_bind, uint_of_lt (by omega), Logged.ok_bind,
    VirtDisplay.finishScreen]
  dsimp only
  split
  next => rfl
  next =>
    split
    next => rfl
    next =>
      have hfill := fillTable_eq st.displayInfo.raise (zeroedTable (st.tables i))
      have hfilled := filled_fillTable st.displayInfo.raise (zeroedTable (st.tables i))
      have hdisplay := (getDisplayInfo_eq hfilled (Nat.lt_of_le_of_lt (Nat.add_le_add_right hle 2)
        (by decide)) reply.display).1
      refine (congrArg (· >>= _) hfill).trans ?_
      rw [Logged.ok_bind]
      exact congrArg (· >>= _) hdisplay

/-- Behind the two allocations no write is outside the tables, whatever the candidates, the
display size and the host's answer are. The numbers are in order, the current and the custom
mode exist, and a size the host asks for stands in the custom mode. -/
theorem finishScreen_fills (st : ModeState) (i : ScreenId) (hallocated : reply.TablesAllocated) :
    ∃ st' status, (finishScreen reply st i).result = .ok (st', status) ∧
      Filled ((scannedModes (st.tables i).gpuDispModeExt).length + 2) (st'.tables i) ∧
      ∀ xres yres, reply.display = .enabled xres yres → xres ≠ 0 → yres ≠ 0 → xres ≤ 65535 →
        yres ≤ 65535 → ∃ info, (st'.tables i).modeInfo = some info ∧
          (info[(st'.tables i).customMode]?).map VideoModeInfo.visSize =
            some (max minWidthSize xres, max minHeightSize yres) := by
  have hle : (scannedModes (st.tables i).gpuDispModeExt).length ≤ maxModelistSize :=
    length_scannedModes_le
  have hfit : (scannedModes (st.tables i).gpuDispModeExt).length + 2 < 2 ^ 16 :=
    Nat.lt_of_le_of_lt (Nat.add_le_add_right hle 2) (by decide)
  have hfilled := filled_fillTable st.displayInfo.raise (zeroedTable (st.tables i))
  have htable : (VirtDisplay.finishScreen reply st i).1.tables i =
      VirtDisplay.getDisplayInfo reply.display
        (VirtDisplay.fillTable st.displayInfo.raise (zeroedTable (st.tables i))) := by
    rw [VirtDisplay.finishScreen, if_neg (not_not.mpr hallocated.1)]
    dsimp only
    rw [if_neg (not_not.mpr hallocated.2)]
    exact Function.update_self ..
  refine ⟨(VirtDisplay.finishScreen reply st i).1, (VirtDisplay.finishScreen reply st i).2,
    congrArg Logged.result finishScreen_eq, ?_, ?_⟩
  · rw [htable]
    exact (getDisplayInfo_eq hfilled hfit reply.display).2
  · intro xres yres hreply hx hy hxres hyres
    have hxmod : xres % 2 ^ 16 = xres := Nat.mod_eq_of_lt (by omega)
    have hymod : yres % 2 ^ 16 = yres := Nat.mod_eq_of_lt (by omega)
    rw [htable, hreply, VirtDisplay.getDisplayInfo, if_pos ⟨hx, hy⟩, hxmod, hymod]
    exact (filled_setCustomDisplay hfilled.enable xres yres).2

/-- A rejected EDID, and a host that asks for 1600x200. -/
def wideRequest : ScreenReply := ⟨true, fun _ => 0, .enabled 1600 200, true, true⟩

/-- The fallback modes, and a host that asks for 1600x200. -/
theorem finishScreen_fills_fallback : ∃ st' status,
    (finishScreen wideRequest (withEdid wideRequest (.initial fun _ => 0) 0) 0).result =
        .ok (st', status) ∧
      ∃ info, (st'.tables 0).modeInfo = some info ∧
        (info[(st'.tables 0).customMode]?).map VideoModeInfo.visSize = some (1600, 480) := by
  have hallocated : wideRequest.TablesAllocated := ⟨rfl, rfl⟩
  obtain ⟨st', status, hresult, -, hcustom⟩ := finishScreen_fills
    (withEdid wideRequest (.initial fun _ => 0) 0) 0 hallocated
  exact ⟨st', status, hresult,
    hcustom 1600 200 rfl (by decide) (by decide) (by decide) (by decide)⟩

end ModeProgram

end VirtDisplay
