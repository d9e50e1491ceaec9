/-
# The monitor records of the user-mode driver

The user-mode driver keeps one record for each connector: the EDID it hands to the
operating system and an array of 32 modes. `get_edid_data` fills a record from the
kernel's answer, and two callbacks read it back, each looking it up by the bytes of the
EDID.

The array has a fixed length and no count beside it. What a callback reports is the
whole array, so it is the kept modes of one answer only if they fill it.
-/

import VirtDisplay.Modes.OfferedModes

namespace VirtDisplay

/-- `IndirectSampleMonitor`. -/
structure IndirectSampleMonitor where
  /-- `pEdidBlock`. -/
  edidBlock : Edid
  /-- `pModeList`. -/
  modeList : List MonitorMode
  /-- The array has `szModeList` entries. -/
  length_modeList : modeList.length = szModeList
  /-- `ulPreferredModeIdx`. -/
  preferredModeIdx : Nat

/-- The zero-filled entry. -/
def MonitorMode.zero : MonitorMode := ⟨0, 0, 0⟩

/-- A record as `new IndirectSampleMonitor[]()` leaves it. -/
def IndirectSampleMonitor.zero : IndirectSampleMonitor :=
  ⟨fun _ => 0, List.replicate szModeList .zero, List.length_replicate, 0⟩

/-- `s_SampleMonitors`: the record of the default EDID. -/
def sSampleMonitor : IndirectSampleMonitor where
  edidBlock i := (
    [0x00, 0xff, 0xff, 0xff, 0xff, 0xff, 0xff, 0x00, 0x49, 0x14, 0x34, 0x12, 0x00, 0x00, 0x00, 0x00,
     0x2a, 0x18, 0x01, 0x04, 0xa5, 0x20, 0x14, 0x78, 0x06, 0xee, 0x91, 0xa3, 0x54, 0x4c, 0x99, 0x26,
     0x0f, 0x50, 0x54, 0x21, 0x08, 0x00, 0xe1, 0xc0, 0xd1, 0xc0, 0xd1, 0x00, 0xa9, 0x40, 0xb3, 0x00,
     0x95, 0x00, 0x81, 0x80, 0x81, 0x40, 0xea, 0x29, 0x00, 0xc0, 0x51, 0x20, 0x1c, 0x30, 0x40, 0x26,
     0x44, 0x40, 0x45, 0xcb, 0x10, 0x00, 0x00, 0x18, 0x00, 0x00, 0x00, 0xf7, 0x00, 0xa0, 0x00, 0x40,
     0x82, 0x00, 0x28, 0x20, 0x00, 0x00, 0x00, 0x00, 0x00, 0x00, 0x00, 0x00, 0x00, 0xfd, 0x00, 0x32,
     0x7d, 0x1e, 0xa0, 0xff, 0x01, 0x0a, 0x20, 0x20, 0x20, 0x20, 0x20, 0x20, 0x00, 0x00, 0x00, 0xfc,
     0x00, 0x51, 0x45, 0x4d, 0x55, 0x20, 0x4d, 0x6f, 0x6e, 0x69, 0x74, 0x6f, 0x72, 0x0a, 0x01, 0x3a,
     0x02, 0x03, 0x0b, 0x00, 0x46, 0x7d, 0x65, 0x60, 0x59, 0x1f, 0x61, 0x00, 0x00, 0x00, 0x10, 0x00,
     0x00, 0x00, 0x00, 0x00, 0x00, 0x00, 0x00, 0x00, 0x00, 0x00, 0x00, 0x00, 0x00, 0x00, 0x00, 0x00,
     0x10, 0x00, 0x00, 0x00, 0x00, 0x00, 0x00, 0x00, 0x00, 0x00, 0x00, 0x00, 0x00, 0x00, 0x00, 0x00,
     0x00, 0x00, 0x10, 0x00, 0x00, 0x00, 0x00, 0x00, 0x00, 0x00, 0x00, 0x00, 0x00, 0x00, 0x00, 0x00,
     0x00, 0x00, 0x00, 0x00, 0x10, 0x00, 0x00, 0x00, 0x00, 0x00, 0x00, 0x00, 0x00, 0x00, 0x00, 0x00,
     0x00, 0x00, 0x00, 0x00, 0x00, 0x00, 0x10, 0x00, 0x00, 0x00, 0x00, 0x00, 0x00, 0x00, 0x00, 0x00,
     0x00, 0x00, 0x00, 0x00, 0x00, 0x00, 0x00, 0x00, 0x10, 0x00, 0x00, 0x00, 0x00, 0x00, 0x00, 0x00,
     0x00, 0x00, 0x00, 0x00, 0x00, 0x00, 0x00, 0x00, 0x00, 0x00, 0x00, 0x00, 0x00, 0x00, 0x00,
     0x2f] : List UInt8).getD i.val 0
  modeList :=
    [⟨1920, 1080, 60⟩, ⟨1600, 1200, 60⟩, ⟨1024, 768, 60⟩] ++ List.replicate 29 .zero
  length_modeList := rfl
  preferredModeIdx := 0

/-- The kernel's answer to `GET_EDID_DATA`, as `get_edid_data` comes to see it. -/
inductive EdidAnswer
  /-- There is no device handle. -/
  | noHandle
  /-- The request buffer could not be allocated. -/
  | noMemory
  /-- `DeviceIoControl` failed. -/
  | ioctlFailed
  | reply (edata : EdidInfo)

/-- One round of the loop of `get_edid_data`, on `pModeList` and `edid_mode_index`. -/
def storeMode (s : List MonitorMode × Nat) (mode : DispMode) : List MonitorMode × Nat :=
  if mode.Kept ∧ s.2 < szModeList then (s.1.set s.2 mode.toMonitorMode, s.2 + 1) else s

theorem length_foldl_storeMode (modes : List DispMode) (s : List MonitorMode × Nat) :
    (modes.foldl storeMode s).1.length = s.1.length := by
  induction modes generalizing s with
  | nil => rfl
  | cons mode modes ih =>
      rw [List.foldl_cons, ih, storeMode]
      split
      next => exact List.length_set
      next => rfl

/-- The record after a reply was copied into it. -/
def IndirectSampleMonitor.store (monitor : IndirectSampleMonitor) (edata : EdidInfo) :
    IndirectSampleMonitor where
  edidBlock := edata.edidData
  modeList := ((edata.modeList.take edata.modeSize).foldl storeMode (monitor.modeList, 0)).1
  length_modeList := (length_foldl_storeMode _ _).trans monitor.length_modeList
  preferredModeIdx := 0

/-- `get_edid_data`: the record it leaves where it returns success. -/
def IndirectSampleMonitor.getEdidData (monitor : IndirectSampleMonitor) (dEdid : Bool) :
    EdidAnswer → Option IndirectSampleMonitor
  | .noHandle => none
  | .noMemory | .ioctlFailed => if dEdid then some sSampleMonitor else none
  | .reply edata =>
      if dEdid then some sSampleMonitor
      else if edata.modeSize > modeListMaxSize then none
      else some (monitor.store edata)

/-- `DISPLAYCONFIG_VIDEO_SIGNAL_INFO`, as far as `FillSignalInfo` computes it. -/
structure VideoSignalInfo where
  activeSize : Nat × Nat
  totalSize : Nat × Nat
  vSyncFreqDivider : Nat
  vSyncFreq : Nat
  hSyncFreq : Nat
  pixelRate : Nat
  deriving DecidableEq, Repr

/-- `FillSignalInfo`. -/
def fillSignalInfo (mode : MonitorMode) (bMonitorMode : Bool) : VideoSignalInfo where
  activeSize := (mode.width, mode.height)
  totalSize := (mode.width, mode.height)
  vSyncFreqDivider := if bMonitorMode then 0 else 1
  vSyncFreq := mode.vSync
  hSyncFreq := mode.vSync * mode.height % 2 ^ 32
  pixelRate := mode.vSync * mode.width * mode.height % 2 ^ 64

/-- Nothing of a mode is lost in its signal description. -/
theorem fillSignalInfo_injective (bMonitorMode : Bool) :
    Function.Injective fun mode => fillSignalInfo mode bMonitorMode := by
  intro mode mode' heq
  obtain ⟨hactive, -, -, hvSync, -⟩ := VideoSignalInfo.mk.injEq .. ▸ heq
  obtain ⟨hwidth, hheight⟩ := Prod.mk.inj hactive
  cases mode
  cases mode'
  simp_all

/-- `CreateIddCxMonitorMode`. -/
def createIddCxMonitorMode (mode : MonitorMode) : VideoSignalInfo := fillSignalInfo mode true

/-- `CreateIddCxTargetMode`. -/
def createIddCxTargetMode (mode : MonitorMode) : VideoSignalInfo := fillSignalInfo mode false

section

variable {n : Nat}

/-- The search of both callbacks: the first record with these EDID bytes. -/
def findMonitor (monitors : Fin n → IndirectSampleMonitor) (edid : Edid) : Option (Fin n) :=
  Fin.find? fun j => decide ((monitors j).edidBlock = edid)

/-- What `IntelVirtDisplayUMDParseMonitorDescription` answers. -/
inductive ParseAnswer
  /-- Success without modes: the caller asked for their number. -/
  | counted
  | bufferTooSmall
  | invalidParameter
  | modes (monitorModes : List VideoSignalInfo) (preferred : Nat)
  deriving DecidableEq

/-- `IntelVirtDisplayUMDParseMonitorDescription`, for a buffer with room for `room`
modes. Whatever the answer, the number announced is `szModeList`. -/
def parseMonitorDescription (monitors : Fin n → IndirectSampleMonitor) (room dataSize : Nat)
    (edid : Edid) : ParseAnswer :=
  if room < szModeList then
    if room > 0 then .bufferTooSmall else .counted
  else if dataSize ≠ edidSize then .invalidParameter
  else
    match findMonitor monitors edid with
    | none => .invalidParameter
    | some j =>
        .modes ((monitors j).modeList.map createIddCxMonitorMode) (monitors j).preferredModeIdx

/-- `IntelVirtDisplayUMDMonitorQueryModes`: the number announced, and the modes if there
is room for them. `none` is `STATUS_INVALID_PARAMETER`. -/
def monitorQueryModes (monitors : Fin n → IndirectSampleMonitor) (room : Nat) (edid : Edid) :
    Option (Nat × Option (List VideoSignalInfo)) :=
  (findMonitor monitors edid).map fun j =>
    let targetModes := (monitors j).modeList.map createIddCxTargetMode
    (targetModes.length, if room ≥ targetModes.length then some targetModes else none)

end

/-- Modes written over the front of an array. -/
def overlay (kept entries : List MonitorMode) : List MonitorMode := kept ++ entries.drop kept.length

/-- Writing behind the modes that were kept so far. -/
theorem overlay_set {kept entries : List MonitorMode} (mode : MonitorMode)
    (hroom : kept.length < entries.length) :
    (overlay kept entries).set kept.length mode = overlay (kept ++ [mode]) entries := by
  rw [overlay, List.set_append_right _ _ (Nat.le_refl _), Nat.sub_self,
    List.drop_eq_getElem_cons hroom, List.set_cons_zero, overlay, List.length_append,
    List.length_singleton, List.append_assoc]
  rfl

/-- The loop lays the modes its rule keeps over the array and counts them. -/
theorem foldl_storeMode {kept entries : List MonitorMode} (modes : List DispMode)
    (hlength : entries.length = szModeList) (hroom : kept.length ≤ szModeList) :
    modes.foldl storeMode (overlay kept entries, kept.length) =
      (overlay (modes.foldl keepMode kept) entries, (modes.foldl keepMode kept).length) := by
  induction modes generalizing kept with
  | nil => rfl
  | cons mode modes ih =>
      rw [List.foldl_cons, List.foldl_cons, storeMode, keepMode]
      by_cases hkeep : mode.Kept ∧ kept.length < szModeList
      · rw [if_pos hkeep, if_pos hkeep, overlay_set _ (hlength ▸ hkeep.2)]
        have hsucc : (kept ++ [mode.toMonitorMode]).length = kept.length + 1 := by simp
        rw [← hsucc]
        exact ih (hsucc ▸ hkeep.2)
      · rw [if_neg hkeep, if_neg hkeep]
        exact ih hroom

/-- The modes of an answer that pass the width caps and the blacklist, in order, with
59 Hz as 60 Hz. -/
def keptModes (edata : EdidInfo) : List MonitorMode :=
  ((edata.modeList.take edata.modeSize).filter fun mode => mode.Kept).map DispMode.toMonitorMode

section

variable {edata : EdidInfo}

/-- An answer of admissible length is kept in full. -/
theorem umdGetEdidData_eq (hsize : edata.modeSize ≤ modeListMaxSize) :
    umdGetEdidData edata = some (keptModes edata) := by
  have hroom : (edata.modeList.take edata.modeSize).length ≤ szModeList :=
    (List.length_take_le ..).trans hsize
  rw [umdGetEdidData, if_neg (Nat.not_lt.mpr hsize), foldl_keepMode _ (by simpa using hroom)]
  rfl

/-- What a reply leaves in the array: its kept modes, and behind them what was there. -/
theorem store_modeList (monitor : IndirectSampleMonitor)
    (hsize : edata.modeSize ≤ modeListMaxSize) :
    (monitor.store edata).modeList = overlay (keptModes edata) monitor.modeList := by
  have hkept := umdGetEdidData_eq hsize
  rw [umdGetEdidData, if_neg (Nat.not_lt.mpr hsize), Option.some.injEq] at hkept
  rw [← hkept]
  exact congrArg Prod.fst (@foldl_storeMode [] _ _ monitor.length_modeList (Nat.zero_le _))

/-- A reply fills the array exactly if 32 of its modes are kept. -/
theorem store_modeList_eq_iff (monitor : IndirectSampleMonitor)
    (hsize : edata.modeSize ≤ modeListMaxSize) :
    (monitor.store edata).modeList = keptModes edata ↔ (keptModes edata).length = szModeList := by
  constructor
  · intro hfilled
    rw [← hfilled]
    exact (monitor.store edata).length_modeList
  · intro hlength
    rw [store_modeList monitor hsize, overlay, hlength, ← monitor.length_modeList, List.drop_length,
      List.append_nil]

end

section

variable {n : Nat}

/-- A call of `get_edid_data` on a connector. -/
structure EdidCall (n : Nat) where
  connector : Fin n
  dEdid : Bool
  answer : EdidAnswer

/-- The call returns success, which does not depend on the record. -/
def EdidCall.Succeeds (call : EdidCall n) : Prop :=
  ∃ monitor, IndirectSampleMonitor.zero.getEdidData call.dEdid call.answer = some monitor

/-- The records after a call. -/
def fillRecord (monitors : Fin n → IndirectSampleMonitor) (call : EdidCall n) :
    Fin n → IndirectSampleMonitor :=
  match (monitors call.connector).getEdidData call.dEdid call.answer with
  | none => monitors
  | some monitor => Function.update monitors call.connector monitor

variable {monitors : Fin n → IndirectSampleMonitor} {call : EdidCall n} {c : Fin n}

theorem EdidCall.succeeds_of_eq_some {monitor filled : IndirectSampleMonitor}
    (hfilled : monitor.getEdidData call.dEdid call.answer = some filled) : call.Succeeds := by
  obtain ⟨connector, dEdid, answer⟩ := call
  cases answer with
  | noHandle => cases hfilled
  | noMemory | ioctlFailed => exact ⟨filled, hfilled⟩
  | reply edata =>
      cases dEdid with
      | true => exact ⟨filled, hfilled⟩
      | false =>
          by_cases hsize : edata.modeSize > modeListMaxSize
          · simp [IndirectSampleMonitor.getEdidData, hsize] at hfilled
          · refine ⟨IndirectSampleMonitor.zero.store edata, ?_⟩
            simp [IndirectSampleMonitor.getEdidData, hsize]

/-- A call that fails, and one on another connector, leaves a record as it is. -/
theorem fillRecord_of_not_succeeds (hother : call.connector = c → ¬ call.Succeeds) :
    fillRecord monitors call c = monitors c := by
  unfold fillRecord
  cases hfilled : (monitors call.connector).getEdidData call.dEdid call.answer with
  | none => rfl
  | some monitor =>
      by_cases heq : call.connector = c
      · exact absurd (EdidCall.succeeds_of_eq_some hfilled) (hother heq)
      · exact Function.update_of_ne (Ne.symm heq) _ _

theorem foldl_fillRecord_of_not_succeeds {calls : List (EdidCall n)}
    (hothers : ∀ call ∈ calls, call.connector = c → ¬ call.Succeeds) :
    calls.foldl fillRecord monitors c = monitors c := by
  induction calls generalizing monitors with
  | nil => rfl
  | cons call calls ih =>
      rw [List.foldl_cons, ih fun other hmem => hothers other (List.mem_cons_of_mem _ hmem)]
      exact fillRecord_of_not_succeeds (hothers call List.mem_cons_self)

/-- The record of a connector after its latest successful call, a reply. -/
theorem foldl_fillRecord_latest {edata : EdidInfo} {before after : List (EdidCall n)}
    (hsize : edata.modeSize ≤ modeListMaxSize)
    (hlatest : ∀ call ∈ after, call.connector = c → ¬ call.Succeeds) :
    (before ++ ⟨c, false, .reply edata⟩ :: after).foldl fillRecord monitors c =
      (before.foldl fillRecord monitors c).store edata := by
  rw [List.foldl_append, List.foldl_cons, foldl_fillRecord_of_not_succeeds hlatest, fillRecord]
  simp [IndirectSampleMonitor.getEdidData, Nat.not_lt.mpr hsize]

/-- Given room, both callbacks report exactly these modes for the current EDID of the
connector. -/
def Reports (monitors : Fin n → IndirectSampleMonitor) (c : Fin n) (modes : List MonitorMode) :
    Prop :=
  ∀ room, room ≥ szModeList →
    (∃ preferred, parseMonitorDescription monitors room edidSize (monitors c).edidBlock =
      .modes (modes.map createIddCxMonitorMode) preferred) ∧
    monitorQueryModes monitors room (monitors c).edidBlock =
      some (modes.length, some (modes.map createIddCxTargetMode))

/-- The record that the search finds for the connector's EDID has the connector's modes. -/
def SharesModes (monitors : Fin n → IndirectSampleMonitor) (c : Fin n) : Prop :=
  ∀ j, findMonitor monitors (monitors c).edidBlock = some j →
    (monitors j).modeList = (monitors c).modeList

/-- The search finds some record. -/
theorem exists_findMonitor (monitors : Fin n → IndirectSampleMonitor) (c : Fin n) :
    ∃ j, findMonitor monitors (monitors c).edidBlock = some j :=
  Option.isSome_iff_exists.mp (Fin.isSome_find?_iff.mpr ⟨c, decide_eq_true rfl⟩)

/-- The callbacks report the array of the record that the search finds. -/
theorem reports_iff_modeList {j : Fin n} {modes : List MonitorMode}
    (hfound : findMonitor monitors (monitors c).edidBlock = some j) :
    Reports monitors c modes ↔ (monitors j).modeList = modes := by
  have hlength := (monitors j).length_modeList
  constructor
  · intro hreports
    obtain ⟨⟨preferred, hparse⟩, -⟩ := hreports szModeList (Nat.le_refl _)
    rw [parseMonitorDescription, if_neg (Nat.lt_irrefl _), if_neg (not_not.mpr rfl),
      hfound] at hparse
    exact List.map_injective_iff.mpr (fillSignalInfo_injective true)
      (ParseAnswer.modes.inj hparse).1
  · rintro rfl room hroom
    refine ⟨⟨(monitors j).preferredModeIdx, ?_⟩, ?_⟩
    · rw [parseMonitorDescription, if_neg (Nat.not_lt.mpr hroom), if_neg (not_not.mpr rfl), hfound]
    · have hfits : room ≥ ((monitors j).modeList.map createIddCxTargetMode).length := by
        rw [List.length_map, hlength]
        exact hroom
      rw [monitorQueryModes, hfound, Option.map_some]
      dsimp only
      rw [if_pos hfits, List.length_map]

/-- Whatever is reported has the length of the array. -/
theorem Reports.length_eq {modes : List MonitorMode} (hreports : Reports monitors c modes) :
    modes.length = szModeList := by
  obtain ⟨j, hfound⟩ := exists_findMonitor monitors c
  rw [← (reports_iff_modeList hfound).mp hreports]
  exact (monitors j).length_modeList

/-- After any history, the callbacks report for a connector exactly the kept modes of its
latest reply if and only if 32 modes of the reply are kept and the record found for the
connector's EDID has the connector's modes. -/
theorem reports_iff {edata : EdidInfo} {before after : List (EdidCall n)}
    (hsize : edata.modeSize ≤ modeListMaxSize)
    (hlatest : ∀ call ∈ after, call.connector = c → ¬ call.Succeeds) :
    Reports ((before ++ ⟨c, false, .reply edata⟩ :: after).foldl fillRecord fun _ => .zero) c
        (keptModes edata) ↔
      (keptModes edata).length = szModeList ∧
        SharesModes ((before ++ ⟨c, false, .reply edata⟩ :: after).foldl fillRecord fun _ => .zero)
          c := by
  have hrecord := @foldl_fillRecord_latest n (fun _ => .zero) c edata before after hsize hlatest
  set monitors := (before ++ ⟨c, false, .reply edata⟩ :: after).foldl fillRecord
    fun _ => IndirectSampleMonitor.zero
  obtain ⟨j, hfound⟩ := exists_findMonitor monitors c
  have hown : (monitors c).modeList = keptModes edata ↔ (keptModes edata).length = szModeList := by
    rw [hrecord]
    exact store_modeList_eq_iff _ hsize
  constructor
  · intro hreports
    have hmodes := (reports_iff_modeList hfound).mp hreports
    refine ⟨hreports.length_eq, fun j' hfound' => ?_⟩
    obtain rfl := Option.some.inj (hfound.symm.trans hfound')
    exact hmodes.trans (hown.mpr hreports.length_eq).symm
  · rintro ⟨hlength, hshares⟩
    exact (reports_iff_modeList hfound).mpr ((hshares j hfound).trans (hown.mpr hlength))

/-- An answer with `count` times the mode 1920x1080. -/
def EdidInfo.uniform (count : Nat) : EdidInfo :=
  ⟨fun _ => 0, count, 0, List.replicate count ⟨1920, 1080, 60⟩⟩

/-- An answer with another EDID and 32 times the mode 1280x720. -/
def EdidInfo.second : EdidInfo := ⟨fun _ => 1, 32, 1, List.replicate 32 ⟨1280, 720, 60⟩⟩

/-- Two connectors with different EDIDs have been answered; then both ask again, and one gets no
handle. -/
def twoConnectors : List (EdidCall 2) :=
  [⟨0, false, .reply (.uniform 32)⟩, ⟨1, false, .reply .second⟩, ⟨1, false, .noHandle⟩,
    ⟨0, false, .reply (.uniform 32)⟩]

/-- An answer that fills the array is reported as it is, also after a call that has failed. -/
theorem reports_iff_full :
    Reports (twoConnectors.foldl fillRecord fun _ => .zero) 1 (keptModes .second) := by
  refine (@reports_iff 2 1 .second [⟨0, false, .reply (.uniform 32)⟩]
    [⟨1, false, .noHandle⟩, ⟨0, false, .reply (.uniform 32)⟩] (by decide) ?_).mpr
    ⟨by decide, ?_⟩
  · rintro call hcall hconnector ⟨monitor, hfilled⟩
    rw [List.mem_cons, List.mem_singleton] at hcall
    obtain rfl | rfl := hcall
    · cases hfilled
    · cases hconnector
  · unfold SharesModes
    decide +kernel

/-- After an answer with a single mode, 31 entries too many are reported. -/
theorem not_reports :
    ¬ ∀ (n : Nat) (c : Fin n) (edata : EdidInfo) (before after : List (EdidCall n)),
    edata.modeSize ≤ modeListMaxSize →
    (∀ call ∈ after, call.connector = c → ¬ call.Succeeds) →
    Reports ((before ++ ⟨c, false, .reply edata⟩ :: after).foldl fillRecord fun _ => .zero) c
      (keptModes edata) := by
  intro hclaim
  have hreports := hclaim 1 0 (.uniform 1) [] [] (by decide) nofun
  exact absurd hreports.length_eq (by decide)

end

end VirtDisplay
