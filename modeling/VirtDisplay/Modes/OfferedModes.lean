/-
# Do both drivers offer the same modes?

The kernel driver matches a requested size against `m_ModeInfo`. The user-mode
driver decides on its own which sizes to offer: it reads the candidates back with
`GET_EDID_DATA` and trims them by rules of its own. This module follows both
derivations to the end and settles when every size offered is one the kernel will
match.

The kernel's list is described first, as a set of sizes: the candidates that
survive its two filters, and the size the host asked for. The user-mode list is
the reported candidates that survive the width caps and the blacklist.
-/

import Mathlib.Tactic.Linarith
import VirtDisplay.Modes.ModeTable

namespace VirtDisplay

/-- The size of a candidate. -/
def DispMode.size (mode : DispMode) : Nat × Nat := (mode.xResolution, mode.yResolution)

/-- The visible size of an entry of `m_ModeInfo`. -/
def VideoModeInfo.visSize (info : VideoModeInfo) : Nat × Nat :=
  (info.visScreenWidth, info.visScreenHeight)

/-- Some entry below `m_ModeCount` has this visible size, so the search of
`SetCurrentModeExt` finds it. -/
def ModeTable.Matches (table : ModeTable) (size : Nat × Nat) : Prop :=
  ∃ info ∈ (table.modeInfo.getD []).take table.modeCount, info.visSize = size

/-- The sizes the kernel's two filters leave of a list of candidates. -/
def suitableSizes (disp : DisplayInformation) (candidates : List DispMode) : List (Nat × Nat) :=
  ((scannedModes candidates).filter fun mode => mode.Suitable disp).map DispMode.size

/-- The loop invariant of the filter: after the candidates `seen`, the entries
below `suitable` have exactly the sizes of the suitable ones among them, and the
entries from there on are still zero. -/
structure FilterState.Tracks (disp : DisplayInformation) (total : Nat) (seen : List DispMode)
    (s : FilterState) : Prop where
  length_eq : s.modeInfo.length = total
  suitable_le : s.suitable ≤ seen.length
  sizes : (s.modeInfo.take s.suitable).map VideoModeInfo.visSize =
    (seen.filter fun mode => mode.Suitable disp).map DispMode.size
  untouched : ∀ idx, s.suitable ≤ idx → s.modeInfo.getD idx .zero = .zero
  current : s.currentMode < s.suitable ∨ s.currentMode = 0

/-- Writing one entry behind a prefix extends the prefix by that entry. -/
theorem take_set_succ {α : Type} (entries : List α) {idx : Nat} (entry : α)
    (hidx : idx < entries.length) :
    (entries.set idx entry).take (idx + 1) = entries.take idx ++ [entry] := by
  rw [List.take_add_one, List.take_set_of_le (Nat.le_refl _), List.getElem?_set_self hidx]
  rfl

theorem FilterState.Tracks.filterMode {disp : DisplayInformation} {total : Nat}
    {seen : List DispMode} {s : FilterState} (h : s.Tracks disp total seen) (mode : DispMode)
    (hroom : seen.length < total) :
      (filterMode disp s mode).Tracks disp total (seen ++ [mode]) := by
  have hlt : s.suitable < s.modeInfo.length := by
    rw [h.length_eq]
    exact h.suitable_le.trans_lt hroom
  unfold VirtDisplay.filterMode
  by_cases hsuit : mode.Suitable disp
  · rw [if_pos hsuit]
    refine ⟨?_, ?_, ?_, ?_, ?_⟩
    · simpa [setVideoModeInfo] using h.length_eq
    · simpa using h.suitable_le
    · simp only [setVideoModeInfo, take_set_succ _ _ hlt, List.map_append, h.sizes,
        List.filter_append]
      simp [hsuit, VideoModeInfo.visSize, DispMode.size]
    · intro idx hidx
      have hne : s.suitable ≠ idx := by
        have hsucc : s.suitable + 1 ≤ idx := hidx
        omega
      have hbefore := h.untouched idx (Nat.le_of_succ_le hidx)
      rw [List.getD_eq_getElem?_getD] at hbefore ⊢
      rw [setVideoModeInfo, List.getElem?_set_ne hne, hbefore]
    · dsimp only
      split
      next => exact .inl (Nat.lt_succ_self _)
      next => exact h.current.imp_left Nat.lt_succ_of_lt
  · rw [if_neg hsuit]
    refine ⟨h.length_eq, ?_, ?_, h.untouched, h.current⟩
    · exact h.suitable_le.trans (by simp)
    · rw [h.sizes, List.filter_append]
      simp [hsuit]

/-- The filter loop over a part of the candidates, by induction on them from the right. -/
theorem tracks_foldl (disp : DisplayInformation) {total : Nat} {seen : List DispMode}
    (hroom : seen.length ≤ total) :
    FilterState.Tracks disp total seen (seen.foldl (filterMode disp)
      ⟨List.replicate total .zero, List.replicate total 0, 0, 0⟩) := by
  induction seen using List.reverseRecOn with
  | nil =>
      refine ⟨List.length_replicate, Nat.le_refl _, rfl, fun idx _ => ?_, .inr rfl⟩
      rw [List.foldl_nil, List.getD_eq_getElem?_getD, List.getElem?_replicate]
      split <;> rfl
  | append_singleton seen mode ih =>
      rw [List.length_append, List.length_singleton] at hroom
      rw [List.foldl_append]
      exact (ih (Nat.le_of_succ_le hroom)).filterMode mode hroom

theorem tracks_filterModes (disp : DisplayInformation) (scanned : List DispMode) :
    (filterModes disp scanned).Tracks disp (scanned.length + 2) scanned :=
  tracks_foldl disp (Nat.le_add_right _ 2)

/-- After filtering, the list is the suitable sizes followed by two copies of one
entry: the nominal mode or, failing that, the first, or a zero size if there is
none. -/
theorem fillTable_entries (disp : DisplayInformation) (table : ModeTable) :
    ∃ front entry, ((fillTable disp table).modeInfo.getD []).take (fillTable disp table).modeCount =
        front ++ [entry, entry] ∧
      (fillTable disp table).modeCount = front.length + 2 ∧
      (fillTable disp table).customMode = front.length ∧
      front.map VideoModeInfo.visSize = suitableSizes disp table.gpuDispModeExt ∧
      (entry.visSize = (0, 0) ∨ entry.visSize ∈ suitableSizes disp table.gpuDispModeExt) := by
  have htracks := tracks_filterModes disp (scannedModes table.gpuDispModeExt)
  set s := filterModes disp (scannedModes table.gpuDispModeExt) with hs
  have hlt : s.suitable + 1 < s.modeInfo.length := by
    have hle := htracks.suitable_le
    rw [htracks.length_eq]
    omega
  set entry := s.modeInfo.getD s.currentMode .zero with hentry
  -- the second copy reads the table after the first was written, and finds the same entry
  have hagain : (s.modeInfo.set s.suitable entry).getD s.currentMode .zero = entry := by
    rcases eq_or_ne s.suitable s.currentMode with heq | hne
    · rw [← heq, List.getD_eq_getElem?_getD, List.getElem?_set_self (by omega)]
      rfl
    · rw [List.getD_eq_getElem?_getD, List.getElem?_set_ne hne, ← List.getD_eq_getElem?_getD]
  have hfill : (fillTable disp table).modeInfo =
      some ((s.modeInfo.set s.suitable entry).set (s.suitable + 1) entry) := by
    simp only [fillTable, copyCurrentMode, ← hs, ← hentry, hagain]
  have hfirst : s.suitable < s.modeInfo.length := by omega
  have hfront : (s.modeInfo.take s.suitable).length = s.suitable := by
    rw [List.length_take]
    omega
  refine ⟨s.modeInfo.take s.suitable, entry, ?_, ?_, hfront.symm, htracks.sizes, ?_⟩
  · have hcount : (fillTable disp table).modeCount = s.suitable + 2 := rfl
    rw [hfill, hcount, Option.getD_some, take_set_succ _ _ (by simpa using hlt),
      take_set_succ _ _ hfirst, List.append_assoc]
    rfl
  · rw [hfront]
    rfl
  · rcases Nat.eq_zero_or_pos s.suitable with hzero | hpos
    · left
      rw [hentry, htracks.untouched _ (hzero ▸ Nat.zero_le _)]
      rfl
    · right
      have hcur : s.currentMode < s.suitable := by
        rcases htracks.current with hcur | hcur
        · exact hcur
        · rwa [hcur]
      rw [suitableSizes, ← htracks.sizes]
      apply List.mem_map_of_mem
      rw [hentry, List.getD_eq_getElem?_getD, List.getElem?_eq_getElem (by omega)]
      exact List.mem_take_iff_getElem.mpr ⟨s.currentMode, by omega, rfl⟩

theorem matches_iff_mem_sizes (table : ModeTable) (size : Nat × Nat) :
    table.Matches size ↔
      size ∈ ((table.modeInfo.getD []).take table.modeCount).map VideoModeInfo.visSize := by
  rw [ModeTable.Matches, List.mem_map]

/-- The size a display-info reply makes the adapter add to its list. -/
def DisplayReply.customSize : DisplayReply → Option (Nat × Nat)
  | .enabled xres yres =>
      if xres ≠ 0 ∧ yres ≠ 0 then
        some (max minWidthSize (xres % 2 ^ 16), max minHeightSize (yres % 2 ^ 16))
      else none
  | _ => none

/-- The sizes of a filled table once the display-info reply has been taken over:
the second of the two extra entries becomes the size the host asked for. -/
theorem getDisplayInfo_sizes (disp : DisplayInformation) (reply : DisplayReply)
    (table : ModeTable) :
    ∃ copy, (copy = (0, 0) ∨ copy ∈ suitableSizes disp table.gpuDispModeExt) ∧
      (((getDisplayInfo reply (fillTable disp table)).modeInfo.getD []).take
        (getDisplayInfo reply (fillTable disp table)).modeCount).map VideoModeInfo.visSize =
      suitableSizes disp table.gpuDispModeExt ++ [copy, reply.customSize.getD copy] := by
  obtain ⟨front, entry, hentries, hcount, hcustom, hsizes, hcopy⟩ := fillTable_entries disp table
  refine ⟨entry.visSize, hcopy, ?_⟩
  have hplain : (((fillTable disp table).modeInfo.getD []).take
      (fillTable disp table).modeCount).map VideoModeInfo.visSize =
      suitableSizes disp table.gpuDispModeExt ++ [entry.visSize, entry.visSize] := by
    rw [hentries, List.map_append, hsizes]
    rfl
  cases reply with
  | noMemory => exact hplain
  | disabled => exact hplain
  | enabled xres yres =>
      by_cases hasked : xres ≠ 0 ∧ yres ≠ 0
      · -- the custom slot is the last entry below the mode count
        obtain ⟨info, hinfo⟩ : ∃ info, (fillTable disp table).modeInfo = some info := ⟨_, rfl⟩
        have hslot : ¬ front.length = front.length + 2 - 1 := by omega
        rw [hinfo, Option.getD_some, hcount] at hentries
        simp only [getDisplayInfo, if_pos hasked, setCustomDisplay, hinfo, hcustom, hcount,
          if_neg hslot, Option.map_some, Option.getD_some, setVideoModeInfo,
          DisplayReply.customSize]
        rw [List.take_set, hentries, List.set_append_right _ _ (by omega), List.map_append, hsizes]
        simp [VideoModeInfo.visSize]
      · simpa only [getDisplayInfo, if_neg hasked, DisplayReply.customSize,
          Option.getD_none] using hplain

/-- What the kernel matches after a rebuild: the suitable candidates and the size
the host asked for. The extra entries add nothing of positive width. -/
theorem matches_getDisplayInfo_iff (disp : DisplayInformation) (reply : DisplayReply)
    (table : ModeTable) {size : Nat × Nat} (hwidth : 0 < size.1) :
    (getDisplayInfo reply (fillTable disp table)).Matches size ↔
      size ∈ suitableSizes disp table.gpuDispModeExt ∨ reply.customSize = some size := by
  obtain ⟨copy, hcopy, hsizes⟩ := getDisplayInfo_sizes disp reply table
  have hcopy' : size = copy → size ∈ suitableSizes disp table.gpuDispModeExt := by
    rintro rfl
    apply hcopy.resolve_left
    intro hzero
    rw [hzero] at hwidth
    exact Nat.lt_irrefl 0 hwidth
  rw [matches_iff_mem_sizes, hsizes, List.mem_append, List.mem_cons, List.mem_singleton]
  cases reply.customSize with
  | none =>
      simp only [Option.getD_none, or_self, reduceCtorEq, or_false]
      exact ⟨fun h => h.elim id hcopy', .inl⟩
  | some custom =>
      simp only [Option.getD_some, Option.some.injEq]
      constructor
      · rintro (h | h | h)
        · exact .inl h
        · exact .inl (hcopy' h)
        · exact .inr h.symm
      · rintro (h | h)
        · exact .inl h
        · exact .inr (.inr h.symm)

/-- `edid_info`, the buffer of `GET_EDID_DATA`. -/
structure EdidInfo where
  edidData : Edid
  modeSize : Nat
  screenNum : ScreenId
  modeList : List DispMode

/-- `IoctlRequestEdid` for a validated screen number, with `CopyResolution`. -/
def ioctlRequestEdid (st : ModeState) (i : ScreenId) : EdidInfo :=
  let table := st.tables i
  let reported := if table.modeList.length = 0 then qemuModelistSize else table.modeList.length
  let modeSize := if reported > modeListMaxSize then modeListMaxSize else reported
  { edidData := getEdidData st.bEdid st.behindGpuEdid table
    modeSize := modeSize
    screenNum := i
    modeList := (List.range modeSize).map fun k => table.gpuDispModeExt.getD k .zero }

abbrev widthUpperCap : Nat := 3840
abbrev widthLowerCap : Nat := 1024
/-- `szModeList` of the user-mode monitor record. -/
abbrev szModeList : Nat := 32

/-- `is_blacklist`. -/
def isBlacklist (width height : Nat) : Bool :=
  [(1400, 1050)].contains (width, height)

/-- One entry of `pModeList`. -/
structure MonitorMode where
  width : Nat
  height : Nat
  vSync : Nat
  deriving DecidableEq, Repr

/-- What the user-mode driver keeps of a reported mode. -/
def DispMode.toMonitorMode (mode : DispMode) : MonitorMode where
  width := mode.xResolution
  height := mode.yResolution
  vSync := if mode.refresh.floor = 59 then 60 else mode.refresh.floor.toNat

/-- The trimming rule of `get_edid_data`, its list's capacity apart. -/
abbrev DispMode.Kept (mode : DispMode) : Prop :=
  mode.xResolution ≤ widthUpperCap ∧ mode.xResolution ≥ widthLowerCap ∧
    isBlacklist mode.xResolution mode.yResolution = false

/-- One round of the loop of `get_edid_data`. -/
def keepMode (kept : List MonitorMode) (mode : DispMode) : List MonitorMode :=
  if mode.Kept ∧ kept.length < szModeList then kept ++ [mode.toMonitorMode] else kept

/-- `get_edid_data`, from the answer of the kernel to the mode list. -/
def umdGetEdidData (edata : EdidInfo) : Option (List MonitorMode) :=
  if edata.modeSize > modeListMaxSize then none
  else some ((edata.modeList.take edata.modeSize).foldl keepMode [])

/-- As long as the list has room, the loop keeps exactly the modes its rule keeps. -/
theorem foldl_keepMode {kept : List MonitorMode} (modes : List DispMode)
    (hroom : kept.length + modes.length ≤ szModeList) :
    modes.foldl keepMode kept =
      kept ++ (modes.filter fun mode => mode.Kept).map DispMode.toMonitorMode := by
  induction modes generalizing kept with
  | nil => simp
  | cons mode modes ih =>
      rw [List.length_cons] at hroom
      have hfree : kept.length < szModeList := by omega
      rw [List.foldl_cons, keepMode, List.filter_cons]
      by_cases hkeep : mode.Kept
      · rw [if_pos ⟨hkeep, hfree⟩,
          ih (by simp only [List.length_append, List.length_singleton]; omega)]
        simp [hkeep]
      · rw [if_neg (fun h => hkeep h.1), ih (by omega)]
        simp [hkeep]

/-- A table whose candidates and parser output both come from this EDID. -/
structure ModeTable.ReadFrom (edid : Edid) (table : ModeTable) : Prop where
  candidates : table.gpuDispModeExt = edidModes edid []
  parsed : table.modeList = (parseEdidData edid []).2

/-- The reported length covers every candidate: the fallback list is announced
with its own length, a parsed list with the parser's count. -/
theorem length_edidModes_le_modeSize {edid : Edid} {st : ModeState} {i : ScreenId}
    (hread : (st.tables i).ReadFrom edid) :
    (edidModes edid []).length ≤ (ioctlRequestEdid st i).modeSize := by
  have hparsed : (parseEdidData edid []).2.length ≤ outputModelistSize :=
    length_parseEdidData_le edid (Nat.zero_le _)
  simp only [ioctlRequestEdid, hread.parsed, qemuModelistSize, modeListMaxSize,
    outputModelistSize] at hparsed ⊢
  by_cases hrejected : (parseEdidData edid []).1 ≠ 0
  · rw [edidModes, if_pos hrejected, parseEdidData_of_ne_zero hrejected, List.length_map]
    decide
  · rw [edidModes, if_neg hrejected, List.length_map, List.length_take]
    split <;> split <;> omega

theorem modeSize_le (st : ModeState) (i : ScreenId) :
    (ioctlRequestEdid st i).modeSize ≤ modeListMaxSize := by
  simp only [ioctlRequestEdid]
  generalize (if (st.tables i).modeList.length = 0 then qemuModelistSize
    else (st.tables i).modeList.length) = reported
  split
  next => exact Nat.le_refl _
  next h => exact Nat.le_of_not_lt h

/-- The sizes the user-mode driver offers are those of the candidates its rule
keeps: the zero entries reported beyond the candidates are too narrow. -/
theorem mem_umdGetEdidData_iff {edid : Edid} {st : ModeState} {i : ScreenId}
    (hread : (st.tables i).ReadFrom edid) :
    ∃ offered, umdGetEdidData (ioctlRequestEdid st i) = some offered ∧
      ∀ kept, kept ∈ offered ↔
        ∃ mode ∈ edidModes edid [], mode.Kept ∧ mode.toMonitorMode = kept := by
  have hlist : (ioctlRequestEdid st i).modeList =
      (List.range (ioctlRequestEdid st i).modeSize).map fun k =>
        (edidModes edid []).getD k .zero := by
    rw [← hread.candidates]
    rfl
  have hlength : (ioctlRequestEdid st i).modeList.length = (ioctlRequestEdid st i).modeSize := by
    rw [hlist, List.length_map, List.length_range]
  refine ⟨((ioctlRequestEdid st i).modeList.filter fun mode => mode.Kept).map
    DispMode.toMonitorMode, ?_, ?_⟩
  · rw [umdGetEdidData, if_neg (Nat.not_lt.mpr (modeSize_le st i)), ← hlength, List.take_length,
      foldl_keepMode _ (by rw [hlength]; simpa using modeSize_le st i), List.nil_append]
  · intro kept
    rw [List.mem_map]
    constructor
    · rintro ⟨mode, hmode, rfl⟩
      rw [List.mem_filter, hlist, List.mem_map] at hmode
      obtain ⟨⟨k, -, rfl⟩, hkeep⟩ := hmode
      have hkeep := of_decide_eq_true hkeep
      refine ⟨_, ?_, hkeep, rfl⟩
      rw [List.getD_eq_getElem?_getD] at hkeep ⊢
      cases hget : (edidModes edid [])[k]? with
      | none =>
          rw [hget] at hkeep
          exact absurd hkeep.2.1 (by decide)
      | some mode => exact List.mem_of_getElem? hget
    · rintro ⟨mode, hmode, hkeep, rfl⟩
      refine ⟨mode, List.mem_filter.mpr ⟨?_, decide_eq_true hkeep⟩, rfl⟩
      obtain ⟨k, hk, rfl⟩ := List.mem_iff_getElem.mp hmode
      rw [hlist, List.mem_map]
      refine ⟨k, List.mem_range.mpr (hk.trans_le (length_edidModes_le_modeSize hread)), ?_⟩
      rw [List.getD_eq_getElem?_getD, List.getElem?_eq_getElem hk, Option.getD_some]

@[simp]
theorem DisplayInformation.raise_raise (disp : DisplayInformation) :
    disp.raise.raise = disp.raise := by
  simp [DisplayInformation.raise]

/-- The allocations of one iteration. -/
abbrev ScreenReply.TablesAllocated (reply : ScreenReply) : Prop :=
  reply.modeInfoAllocated = true ∧ reply.modeNumbersAllocated = true

/-- The state of an iteration behind its EDID query. -/
def withEdid (reply : ScreenReply) (st : ModeState) (i : ScreenId) : ModeState where
  tables := Function.update st.tables i
    (addEdidModes true st.behindGpuEdid { (st.tables i).reset with edids := reply.edid })
  displayInfo := st.displayInfo
  bEdid := true
  behindGpuEdid := st.behindGpuEdid

theorem rebuildScreen_eq_some {reply : ScreenReply} {st : ModeState} {i : ScreenId}
    {result : ModeState × NtStatus} (hstep : rebuildScreen true reply st i = some result) :
    reply.edidAllocated = true ∧ finishScreen reply (withEdid reply st i) i = result := by
  obtain ⟨st₁, hprocess, heq⟩ := Option.map_eq_some_iff.mp hstep
  simp only [processEdid, if_true] at hprocess
  split at hprocess
  next hallocated =>
    refine ⟨hallocated, ?_⟩
    have hst : st₁ = withEdid reply st i := by
      rw [← Option.some.inj hprocess]
      simp [withEdid, Function.update_idem]
    rw [← hst]
    exact heq
  next => cases hprocess

/-- What an iteration leaves alone: the tables of the other screens, and a display
size that only its raising can change. -/
theorem finishScreen_frame (reply : ScreenReply) (st : ModeState) (i : ScreenId) :
    (∀ j, j ≠ i → (finishScreen reply st i).1.tables j = st.tables j) ∧
      (finishScreen reply st i).1.displayInfo.raise = st.displayInfo.raise := by
  unfold finishScreen
  dsimp only
  split
  next => exact ⟨fun _ _ => rfl, rfl⟩
  next =>
    split
    next => exact ⟨fun j hj => Function.update_of_ne hj _ _, rfl⟩
    next =>
      exact ⟨fun j hj => Function.update_of_ne hj _ _, DisplayInformation.raise_raise _⟩

theorem rebuildScreen_frame {reply : ScreenReply} {st st' : ModeState} {i : ScreenId}
    {status : NtStatus} (hstep : rebuildScreen true reply st i = some (st', status)) :
    (∀ j, j ≠ i → st'.tables j = st.tables j) ∧ st'.displayInfo.raise = st.displayInfo.raise := by
  obtain ⟨-, heq⟩ := rebuildScreen_eq_some hstep
  obtain ⟨htables, hdisp⟩ := finishScreen_frame reply (withEdid reply st i) i
  rw [heq] at htables hdisp
  exact ⟨fun j hj => (htables j hj).trans (Function.update_of_ne hj _ _), hdisp⟩

theorem getDisplayInfo_readFrom {edid : Edid} {table : ModeTable} (reply : DisplayReply)
    (hread : table.ReadFrom edid) : (getDisplayInfo reply table).ReadFrom edid := by
  cases reply with
  | noMemory => exact hread
  | disabled => exact ⟨hread.candidates, hread.parsed⟩
  | enabled xres yres =>
      simp only [getDisplayInfo]
      split
      next => exact ⟨hread.candidates, hread.parsed⟩
      next => exact ⟨hread.candidates, hread.parsed⟩

/-- A table of zero entries matches no mode. -/
theorem not_matches_replicate_zero {table : ModeTable} {entries : Nat} {size : Nat × Nat}
    (hinfo : table.modeInfo = some (List.replicate entries .zero)) (hwidth : 0 < size.1) :
    ¬ table.Matches size := by
  rintro ⟨info, hmem, rfl⟩
  rw [hinfo, Option.getD_some] at hmem
  have hzero := List.eq_of_mem_replicate (List.mem_of_mem_take hmem)
  rw [hzero] at hwidth
  exact Nat.lt_irrefl 0 hwidth

/-- What an iteration makes of its own screen. -/
theorem finishScreen_table {reply : ScreenReply} {st : ModeState} {i : ScreenId}
    (hread : (st.tables i).ReadFrom reply.edid) (hreset : (st.tables i).modeInfo = none) :
    ((finishScreen reply st i).1.tables i).ReadFrom reply.edid ∧
      ((finishScreen reply st i).2 = .noMemory ↔ ¬ reply.TablesAllocated) ∧
      ∀ size : Nat × Nat, 0 < size.1 → (((finishScreen reply st i).1.tables i).Matches size ↔
        reply.TablesAllocated ∧
          (size ∈ suitableSizes st.displayInfo.raise (edidModes reply.edid []) ∨
            reply.display.customSize = some size)) := by
  unfold finishScreen
  by_cases hinfo : reply.modeInfoAllocated = true
  · by_cases hnumbers : reply.modeNumbersAllocated = true
    · simp only [hinfo, hnumbers, not_true_eq_false, if_false, Function.update_self]
      refine ⟨getDisplayInfo_readFrom _ ⟨hread.candidates, hread.parsed⟩, ?_, fun size hwidth => ?_⟩
      · split <;> simp [ScreenReply.TablesAllocated, hinfo, hnumbers]
      · rw [matches_getDisplayInfo_iff _ _ _ hwidth, ← hread.candidates]
        simp [ScreenReply.TablesAllocated, hinfo, hnumbers]
    · simp only [hinfo, hnumbers, not_true_eq_false, if_false, Bool.false_eq_true,
        not_false_eq_true, if_true, Function.update_self]
      refine ⟨⟨hread.candidates, hread.parsed⟩, by simp [ScreenReply.TablesAllocated, hnumbers],
        fun size hwidth => ?_⟩
      exact iff_of_false (not_matches_replicate_zero rfl hwidth) (fun h => hnumbers h.1.2)
  · simp only [hinfo, Bool.false_eq_true, not_false_eq_true, if_true]
    refine ⟨hread, by simp [ScreenReply.TablesAllocated, hinfo], fun size _ => ?_⟩
    refine iff_of_false (fun ⟨info, hmem, _⟩ => ?_) (fun h => hinfo h.1.1)
    simp [hreset] at hmem

/-- The whole loop body offers the sizes of the EDID that is the host's answer. -/
theorem rebuildScreen_table {reply : ScreenReply} {st st' : ModeState} {i : ScreenId}
    {status : NtStatus} (hstep : rebuildScreen true reply st i = some (st', status)) :
    (st'.tables i).ReadFrom reply.edid ∧ (status = .noMemory ↔ ¬ reply.TablesAllocated) ∧
      ∀ size : Nat × Nat, 0 < size.1 → ((st'.tables i).Matches size ↔
        reply.TablesAllocated ∧
          (size ∈ suitableSizes st.displayInfo.raise (edidModes reply.edid []) ∨
            reply.display.customSize = some size)) := by
  obtain ⟨-, heq⟩ := rebuildScreen_eq_some hstep
  have htable : (withEdid reply st i).tables i =
      addEdidModes true st.behindGpuEdid { (st.tables i).reset with edids := reply.edid } :=
    Function.update_self _ _ _
  have hread : ((withEdid reply st i).tables i).ReadFrom reply.edid := htable ▸ ⟨rfl, rfl⟩
  have hreset : ((withEdid reply st i).tables i).modeInfo = none := htable ▸ rfl
  have hfinish := finishScreen_table hread hreset
  rwa [heq] at hfinish

theorem rebuildScreens_frame {replies : ScreenId → ScreenReply} {todo : List ScreenId}
    {status out : NtStatus} {st st' : ModeState} {i : ScreenId} (hi : i ∉ todo)
    (hrun : rebuildScreens true replies todo status st = some (st', out)) :
    st'.tables i = st.tables i := by
  induction todo generalizing status st with
  | nil =>
      obtain ⟨rfl, -⟩ := Prod.mk.inj (Option.some.inj hrun)
      rfl
  | cons j todo ih =>
      obtain ⟨hne, hi⟩ := not_or.mp (List.mem_cons.not.mp hi)
      rw [rebuildScreens] at hrun
      split at hrun
      next => cases hrun
      next st₁ hstep =>
        obtain ⟨rfl, -⟩ := Prod.mk.inj (Option.some.inj hrun)
        exact (rebuildScreen_frame hstep).1 i hne
      next st₁ hstep => exact (ih hi hrun).trans ((rebuildScreen_frame hstep).1 i hne)
      next st₁ outcome _ _ hstep => exact (ih hi hrun).trans ((rebuildScreen_frame hstep).1 i hne)

/-- The loop as far as a screen's own iteration: if the screens before it found
memory for their tables, its iteration runs, on a display size that has at most
been raised, and the rest of the loop leaves its table alone. -/
theorem rebuildScreens_reaches {replies : ScreenId → ScreenReply} {before after : List ScreenId}
    {status out : NtStatus} {st st' : ModeState} {i : ScreenId} (hafter : i ∉ after)
    (hbefore : ∀ j ∈ before, (replies j).TablesAllocated)
    (hrun : rebuildScreens true replies (before ++ i :: after) status st = some (st', out)) :
    ∃ st₁ st₂ outcome, rebuildScreen true (replies i) st₁ i = some (st₂, outcome) ∧
      st₁.displayInfo.raise = st.displayInfo.raise ∧ st'.tables i = st₂.tables i := by
  induction before generalizing status st with
  | nil =>
      rw [List.nil_append, rebuildScreens] at hrun
      split at hrun
      next => cases hrun
      next st₁ hstep =>
        obtain ⟨rfl, -⟩ := Prod.mk.inj (Option.some.inj hrun)
        exact ⟨st, _, _, hstep, rfl, rfl⟩
      next st₁ hstep => exact ⟨st, _, _, hstep, rfl, rebuildScreens_frame hafter hrun⟩
      next st₁ outcome _ _ hstep => exact ⟨st, _, _, hstep, rfl, rebuildScreens_frame hafter hrun⟩
  | cons j before ih =>
      obtain ⟨hj, hbefore⟩ := List.forall_mem_cons.mp hbefore
      have hcontinue : ∀ {status st₁ outcome}, rebuildScreen true (replies j) st j =
          some (st₁, outcome) →
          rebuildScreens true replies (before ++ i :: after) status st₁ = some (st', out) →
          ∃ st₁ st₂ outcome, rebuildScreen true (replies i) st₁ i = some (st₂, outcome) ∧
            st₁.displayInfo.raise = st.displayInfo.raise ∧ st'.tables i = st₂.tables i := by
        intro status st₁ outcome hstep hrest
        obtain ⟨st₂, st₃, outcome', hown, hdisp, htable⟩ := ih hbefore hrest
        exact ⟨st₂, st₃, outcome', hown, hdisp.trans (rebuildScreen_frame hstep).2, htable⟩
      rw [List.cons_append, rebuildScreens] at hrun
      split at hrun
      next => cases hrun
      next st₁ hstep => exact absurd hj ((rebuildScreen_table hstep).2.1.mp rfl)
      next st₁ hstep => exact hcontinue hstep hrun
      next st₁ outcome _ _ hstep => exact hcontinue hstep hrun

/-- The screens in their order, split at one of them. -/
theorem finRange_split (i : ScreenId) :
    List.finRange maxScanOut = (List.finRange maxScanOut).take i.val ++
        i :: (List.finRange maxScanOut).drop (i.val + 1) ∧
      i ∉ (List.finRange maxScanOut).drop (i.val + 1) ∧
      ∀ j ∈ (List.finRange maxScanOut).take i.val, j < i := by
  revert i
  decide

/-- The offered modes agree with the kernel's list for this answer of the host:
each candidate the user-mode driver keeps either stands, in its size, before the
first candidate below 640x480 and is at least as large as the display size, or
has the size the host asked for. -/
def ScreenReply.ModesAgree (disp : DisplayInformation) (reply : ScreenReply) : Prop :=
  ∀ mode ∈ edidModes reply.edid [], mode.Kept →
    reply.TablesAllocated ∧
      ((∃ scanned ∈ scannedModes (edidModes reply.edid []),
          scanned.Suitable disp ∧ scanned.size = mode.size) ∨
        reply.display.customSize = some mode.size)

/-- Every size the user-mode driver offers after the round trip is one the search
of `SetCurrentModeExt` will match. -/
def OffersMatched (st : ModeState) (i : ScreenId) : Prop :=
  ∃ offered, umdGetEdidData (ioctlRequestEdid st i) = some offered ∧
    ∀ kept ∈ offered, (st.tables i).Matches (kept.width, kept.height)

/-- After `GetModeList` has reached screen `i`, every mode the user-mode driver
offers for it is matched by the kernel exactly when the host's answer for that
screen satisfies `ModesAgree`. -/
theorem offersMatched_iff_modesAgree {replies : ScreenId → ScreenReply} {st st' : ModeState}
    {status : NtStatus} {i : ScreenId} (hearlier : ∀ j < i, (replies j).TablesAllocated)
    (hrun : getModeList true replies st = some (st', status)) :
    OffersMatched st' i ↔ (replies i).ModesAgree st.displayInfo.raise := by
  obtain ⟨hsplit, hafter, hbefore⟩ := finRange_split i
  rw [getModeList, hsplit] at hrun
  obtain ⟨st₁, st₂, outcome, hown, hdisp, htable⟩ :=
    rebuildScreens_reaches hafter (fun j hj => hearlier j (hbefore j hj)) hrun
  obtain ⟨hread, -, hmatches⟩ := rebuildScreen_table hown
  rw [← htable] at hread hmatches
  rw [hdisp] at hmatches
  obtain ⟨offered, hoffered, hmem⟩ := mem_umdGetEdidData_iff hread
  -- the positive width the kernel's table lemma needs comes from the width cap
  have hsize : ∀ mode : DispMode, mode.Kept → ((st'.tables i).Matches mode.size ↔
      (replies i).TablesAllocated ∧
        ((∃ scanned ∈ scannedModes (edidModes (replies i).edid []),
            scanned.Suitable st.displayInfo.raise ∧ scanned.size = mode.size) ∨
          (replies i).display.customSize = some mode.size)) := by
    intro mode hkeep
    rw [hmatches mode.size (lt_of_lt_of_le (by decide) hkeep.2.1)]
    simp only [suitableSizes, List.mem_map, List.mem_filter, decide_eq_true_eq, and_assoc]
  constructor
  · rintro ⟨offered', hoffered', hall⟩ mode hmode hkeep
    obtain rfl := Option.some.inj (hoffered.symm.trans hoffered')
    exact (hsize mode hkeep).mp (hall _ ((hmem _).mpr ⟨mode, hmode, hkeep, rfl⟩))
  · intro hagree
    refine ⟨offered, hoffered, fun kept hkept => ?_⟩
    obtain ⟨mode, hmode, hkeep, rfl⟩ := (hmem kept).mp hkept
    exact (hsize mode hkeep).mpr (hagree mode hmode hkeep)

/-- A display's answer built from the bytes at three places of an otherwise plain
EDID: the first standard-timing code and the checksum. -/
private def standardTimingEdid (code₁ code₂ checksum : UInt8) : Edid := fun i =>
  if i.val = 38 then code₁ else if i.val = 39 then code₂ else if i.val = 127 then checksum
  else if 40 ≤ i.val ∧ i.val < 54 then 1 else if 1 ≤ i.val ∧ i.val < 7 then 0xFF else 0

/-- An EDID that names 1280x720 as its only mode. -/
def wideEdid : Edid := standardTimingEdid 0x81 0xC0 0xB7

/-- An answer with this EDID, no size asked for, and both tables allocated. -/
def wideReply : ScreenReply := ⟨true, wideEdid, .disabled, true, true⟩

/-- A rejected EDID never makes the two lists disagree: the fallback list has no
mode below 640x480, and none of its wide modes is lower than the display size. -/
theorem modesAgree_of_rejected {reply : ScreenReply}
    (hrejected : (parseEdidData reply.edid []).1 ≠ 0)
    (hallocated : reply.TablesAllocated) : reply.ModesAgree DisplayInformation.initial.raise := by
  have hmodes : edidModes reply.edid [] = qemuModelist.map EdidMode.toDispMode := if_pos hrejected
  intro mode hmode hkeep
  refine ⟨hallocated, .inl ?_⟩
  rw [hmodes] at hmode ⊢
  revert mode
  decide +kernel

instance (table : ModeTable) (size : Nat × Nat) : Decidable (table.Matches size) :=
  inferInstanceAs (Decidable (∃ info ∈ (table.modeInfo.getD []).take table.modeCount, _))

/-- Whether screen `i` offers a mode that its kernel table does not contain. -/
def offersUnmatched (st : ModeState) (i : ScreenId) : Bool :=
  (umdGetEdidData (ioctlRequestEdid st i)).any fun offered =>
    offered.any fun kept => ¬ (st.tables i).Matches (kept.width, kept.height)

theorem not_offersMatched_of_offersUnmatched {st : ModeState} {i : ScreenId}
    (hunmatched : offersUnmatched st i = true) : ¬ OffersMatched st i := by
  rintro ⟨offered, hoffered, hall⟩
  rw [offersUnmatched, hoffered, Option.any_some, List.any_eq_true] at hunmatched
  obtain ⟨kept, hkept, hnot⟩ := hunmatched
  exact of_decide_eq_true hnot (hall kept hkept)

/-- An accepted EDID whose only mode is 1280x720: the user-mode driver offers it,
the kernel filters it out for its height. -/
theorem offersMatched_fails_on_wideEdid :
    ¬ ∀ (replies : ScreenId → ScreenReply) (st st' : ModeState) (status : NtStatus) (i : ScreenId),
      (∀ j, (replies j).TablesAllocated) →
      getModeList true replies st = some (st', status) → OffersMatched st' i := by
  intro hclaim
  have hrun : (getModeList true (fun _ => wideReply) (.initial wideEdid)).any
      (fun result => offersUnmatched result.1 0) = true := by
    decide +kernel
  obtain ⟨⟨st', status⟩, hresult, hunmatched⟩ := (Option.any_eq_true _ _).mp hrun
  exact not_offersMatched_of_offersUnmatched hunmatched
    (hclaim (fun _ => wideReply) (.initial wideEdid) st' status 0 (fun _ => ⟨rfl, rfl⟩) hresult)

/-- The exact condition at a concrete answer: a rejected EDID on every screen. -/
theorem offersMatched_iff_modesAgree_blank :
    ∃ st' status, getModeList true (fun _ => ⟨true, fun _ => 0, .disabled, true, true⟩)
        (.initial wideEdid) = some (st', status) ∧
      (OffersMatched st' 1 ↔ ScreenReply.ModesAgree DisplayInformation.initial.raise
        ⟨true, fun _ => 0, .disabled, true, true⟩) := by
  have hreturns : (getModeList true (fun _ => ⟨true, fun _ => 0, .disabled, true, true⟩)
      (.initial wideEdid)).isSome = true := by
    decide +kernel
  obtain ⟨⟨st', status⟩, hresult⟩ := Option.isSome_iff_exists.mp hreturns
  exact ⟨st', status, hresult, offersMatched_iff_modesAgree (fun _ _ => ⟨rfl, rfl⟩) hresult⟩

end VirtDisplay
