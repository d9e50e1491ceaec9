/-
# Which candidates are listed

`GetModeList` is to list every candidate that is at least as large as the display size. It
first counts the candidates, and the count ends at the first one below 640x480, as if that
were the end of the list. A candidate behind a small one is not looked at.

So the list is what it should be exactly when no suitable candidate stands behind a small
one. An EDID that names 720x400 among its established timings is enough to lose all its
other modes.
-/

import VirtDisplay.Edid.Sections
import VirtDisplay.Foundation.Splits
import VirtDisplay.Modes.ModeProgram

namespace VirtDisplay

open ModeProgram (IsLarge)

section

variable {α : Type} {p q : α → Bool}

/-- Filtering a prefix is filtering the whole list if nothing the filter keeps stands behind
something that ends the prefix. -/
theorem filter_takeWhile_eq_filter_iff (hq : ∀ x, q x = true → p x = true) (xs : List α) :
    (xs.takeWhile p).filter q = xs.filter q ↔
      ∀ before x after, xs = before ++ x :: after → q x = true → ∀ y ∈ before, p y = true := by
  induction xs with
  | nil => exact iff_of_true rfl Splits.forall_nil
  | cons a xs ih =>
      rw [Splits.forall_cons_iff]
      by_cases hpa : p a = true
      · have hhead : (a :: xs.takeWhile p).filter q = (a :: xs).filter q ↔
            (xs.takeWhile p).filter q = xs.filter q := by
          rw [List.filter_cons, List.filter_cons]
          split
          next => exact List.cons_inj_right a
          next => exact Iff.rfl
        rw [List.takeWhile_cons_of_pos hpa, hhead, ih, and_iff_right fun _ => nofun]
        simp only [List.forall_mem_cons, hpa, true_and]
      · -- the prefix ends here, so the filter may keep nothing of the rest
        have hqa : ¬ q a = true := fun hqa => hpa (hq a hqa)
        rw [List.takeWhile_cons_of_neg hpa, List.filter_nil, List.filter_cons_of_neg hqa, eq_comm,
          List.filter_eq_nil_iff]
        constructor
        · intro hnone
          refine ⟨fun h => absurd h hqa, fun before x after hsplit hqx => ?_⟩
          exact absurd hqx (hnone x (hsplit ▸ List.mem_append_right before List.mem_cons_self))
        · rintro ⟨-, hrest⟩ x hmem hqx
          obtain ⟨before, after, hsplit⟩ := List.append_of_mem hmem
          exact hpa (hrest before x after hsplit hqx a List.mem_cons_self)

end

/-- The visible sizes of the entries in front of the two extra ones. -/
def ModeTable.listedSizes (table : ModeTable) : List (Nat × Nat) :=
  ((table.modeInfo.getD []).take (table.modeCount - 2)).map VideoModeInfo.visSize

/-- The sizes of the candidates that are at least as large as the display size, wherever they
stand. -/
def fittingSizes (disp : DisplayInformation) (candidates : List DispMode) : List (Nat × Nat) :=
  (candidates.filter fun mode => mode.Suitable disp).map DispMode.size

/-- Every fitting candidate is listed, in order, and the screen fails only without one. -/
structure ListsFitting (disp : DisplayInformation) (candidates : List DispMode)
    (table : ModeTable) (status : NtStatus) : Prop where
  listed : table.listedSizes = fittingSizes disp candidates
  failed : status ≠ .success → fittingSizes disp candidates = []

/-- No fitting candidate stands behind one below 640x480. -/
def NoneBehindSmall (disp : DisplayInformation) (candidates : List DispMode) : Prop :=
  ∀ before mode after, candidates = before ++ mode :: after → mode.Suitable disp →
    ∀ other ∈ before, IsLarge other

section

variable {disp : DisplayInformation} {candidates : List DispMode}

/-- The display size has been raised to the minimum. -/
theorem DispMode.Suitable.isLarge {mode : DispMode} (hsuitable : mode.Suitable disp.raise) :
    IsLarge mode :=
  ⟨(Nat.le_max_right _ _).trans hsuitable.1, (Nat.le_max_right _ _).trans hsuitable.2⟩

theorem suitableSizes_eq_iff (hlength : candidates.length ≤ maxModelistSize) :
    suitableSizes disp.raise candidates = fittingSizes disp.raise candidates ↔
      NoneBehindSmall disp.raise candidates := by
  have hlists := filter_takeWhile_eq_filter_iff
    (p := fun mode : DispMode => decide (IsLarge mode))
    (q := fun mode => decide (mode.Suitable disp.raise))
    (fun mode hmode => decide_eq_true (DispMode.Suitable.isLarge (of_decide_eq_true hmode)))
    candidates
  have hsizes : ∀ kept, kept <+: candidates.filter (fun mode => mode.Suitable disp.raise) →
      (kept.map DispMode.size = fittingSizes disp.raise candidates ↔
        kept = candidates.filter fun mode => mode.Suitable disp.raise) := by
    intro kept hprefix
    refine ⟨fun heq => hprefix.eq_of_length ?_, fun heq => by rw [heq, fittingSizes]⟩
    have hlengths := congrArg List.length heq
    rwa [fittingSizes, List.length_map, List.length_map] at hlengths
  rw [suitableSizes, hsizes _ ((List.IsPrefix.filter _ ModeProgram.scannedModes_prefix)),
    scannedModes, List.take_of_length_le hlength]
  refine hlists.trans ?_
  simp only [decide_eq_true_eq]
  rfl

theorem getDisplayInfo_modeCount (reply : DisplayReply) (table : ModeTable) :
    (getDisplayInfo reply table).modeCount = table.modeCount := by
  cases reply with
  | noMemory => rfl
  | disabled => rfl
  | enabled xres yres =>
      unfold getDisplayInfo
      dsimp only
      split <;> rfl

variable (disp) in
/-- What stands in front of the two extra entries: the suitable sizes. -/
theorem listedSizes_getDisplayInfo (reply : DisplayReply) (table : ModeTable) :
    (getDisplayInfo reply (fillTable disp table)).listedSizes =
        suitableSizes disp table.gpuDispModeExt ∧
      (fillTable disp table).modeCount = (suitableSizes disp table.gpuDispModeExt).length + 2 := by
  obtain ⟨front, entry, -, hcount, -, hfront, -⟩ := fillTable_entries disp table
  obtain ⟨copy, -, hsizes⟩ := getDisplayInfo_sizes disp reply table
  have hlength := congrArg List.length hfront
  rw [List.length_map] at hlength
  rw [getDisplayInfo_modeCount, hcount, hlength] at hsizes
  refine ⟨?_, by rw [hcount, hlength]⟩
  have htake := congrArg (List.take (suitableSizes disp table.gpuDispModeExt).length) hsizes
  rw [← List.map_take, List.take_take, Nat.min_eq_left (Nat.le_add_right _ 2),
    List.take_left'  rfl] at htake
  rw [ModeTable.listedSizes, getDisplayInfo_modeCount, hcount, hlength, Nat.add_sub_cancel]
  exact htake

/-- The candidates of a screen, parsed or fallen back on. -/
theorem length_edidModes_le (edid : Edid) : (edidModes edid []).length ≤ maxModelistSize := by
  unfold edidModes
  split
  next => decide
  next =>
    rw [List.length_map]
    exact (List.length_take_le _ _).trans (by decide)

end

section

variable {reply : ScreenReply} {st st' : ModeState} {i : ScreenId} {status : NtStatus}

/-- A round with its allocations. -/
theorem rebuildScreen_listed (hallocated : reply.TablesAllocated)
    (hround : rebuildScreen true reply st i = some (st', status)) :
    (st'.tables i).listedSizes =
        suitableSizes st.displayInfo.raise (edidModes reply.edid []) ∧
      (status ≠ .success → suitableSizes st.displayInfo.raise (edidModes reply.edid []) = []) := by
  obtain ⟨-, hfinish⟩ := rebuildScreen_eq_some hround
  have htable : (withEdid reply st i).tables i =
      addEdidModes true st.behindGpuEdid { (st.tables i).reset with edids := reply.edid } :=
    Function.update_self _ _ _
  have hcandidates : ((withEdid reply st i).tables i).gpuDispModeExt = edidModes reply.edid [] :=
    congrArg ModeTable.gpuDispModeExt htable
  have hdisp : (withEdid reply st i).displayInfo = st.displayInfo := rfl
  generalize withEdid reply st i = st₁ at hfinish hcandidates hdisp
  obtain ⟨hlisted, hcount⟩ := listedSizes_getDisplayInfo st.displayInfo.raise
    reply.display (ModeProgram.zeroedTable (st₁.tables i))
  have hext : (ModeProgram.zeroedTable (st₁.tables i)).gpuDispModeExt = edidModes reply.edid [] :=
    hcandidates
  rw [hext] at hlisted hcount
  rw [finishScreen, if_neg (not_not.mpr hallocated.1)] at hfinish
  dsimp only at hfinish
  rw [if_neg (not_not.mpr hallocated.2), hdisp] at hfinish
  obtain ⟨rfl, rfl⟩ := Prod.mk.inj hfinish
  refine ⟨?_, fun hfailed => ?_⟩
  · exact (congrArg ModeTable.listedSizes (Function.update_self ..)).trans hlisted
  · by_contra hne
    refine hfailed (if_neg fun htwo => hne ?_)
    exact List.length_eq_zero_iff.mp (Nat.add_right_cancel (hcount.symm.trans htwo))

/-- A round lists every candidate as large as the display size, in order, and fails only if
there is none, exactly when none of them stands behind one below 640x480. -/
theorem rebuildScreen_listsFitting_iff (hallocated : reply.TablesAllocated)
    (hround : rebuildScreen true reply st i = some (st', status)) :
    ListsFitting st.displayInfo.raise (edidModes reply.edid []) (st'.tables i) status ↔
      NoneBehindSmall st.displayInfo.raise (edidModes reply.edid []) := by
  obtain ⟨hlisted, hfailed⟩ := rebuildScreen_listed hallocated hround
  rw [← suitableSizes_eq_iff (length_edidModes_le reply.edid)]
  constructor
  · intro hlists
    rw [← hlisted, hlists.listed]
  · intro hsizes
    exact ⟨hlisted.trans hsizes, fun hne => hsizes ▸ hfailed hne⟩

/-- The list that the whole call leaves a screen has the fitting sizes exactly when none of them
stands behind one below 640x480. -/
theorem getModeList_listed_iff {replies : ScreenId → ScreenReply}
    (hallocated : ∀ j ≤ i, (replies j).TablesAllocated)
    (hrun : getModeList true replies st = some (st', status)) :
    (st'.tables i).listedSizes =
        fittingSizes st.displayInfo.raise (edidModes (replies i).edid []) ↔
      NoneBehindSmall st.displayInfo.raise (edidModes (replies i).edid []) := by
  obtain ⟨hsplit, hafter, hbefore⟩ := finRange_split i
  rw [getModeList, hsplit] at hrun
  obtain ⟨st₁, st₂, outcome, hown, hdisp, htable⟩ := rebuildScreens_reaches hafter
    (fun j hj => hallocated j (le_of_lt (hbefore j hj))) hrun
  have hlisted := (rebuildScreen_listed (hallocated i (le_refl i)) hown).1
  rw [htable, hlisted, hdisp]
  exact suitableSizes_eq_iff (length_edidModes_le _)

end

/-- An EDID that names two established timings, 720x400 and 1024x768. -/
def textModeEdid : Edid := fun i =>
  if i.val = 35 then 0x80 else if i.val = 36 then 0x08 else if i.val = 127 then 0x6E
  else if 38 ≤ i.val ∧ i.val < 54 then 1 else if 1 ≤ i.val ∧ i.val < 7 then 0xFF else 0

/-- An answer with this EDID. -/
def textModeReply : ScreenReply := ⟨true, textModeEdid, .disabled, true, true⟩

/-- The adapter starts with a display size of 1024x768 and does not find the mode behind
720x400: the round fails. -/
theorem not_listsFitting : textModeEdid.Accepted ∧
    edidModes textModeEdid [] = [⟨720, 400, 70⟩, ⟨1024, 768, 60⟩] ∧
      ∃ st', rebuildScreen true textModeReply (.initial fun _ => 0) 0 = some (st', .unsuccessful) ∧
        ¬ ListsFitting DisplayInformation.initial.raise (edidModes textModeEdid []) (st'.tables 0)
          .unsuccessful := by
  have hround : (rebuildScreen true textModeReply (.initial fun _ => 0) 0).map Prod.snd =
      some .unsuccessful := by
    decide +kernel
  obtain ⟨⟨st', status⟩, hresult, rfl⟩ := Option.map_eq_some_iff.mp hround
  refine ⟨⟨by decide +kernel, by decide +kernel, by decide +kernel⟩, by decide +kernel,
    st', hresult, fun hlists => ?_⟩
  have hnone := hlists.failed (by decide)
  revert hnone
  decide +kernel

/-- An answer whose EDID is rejected. -/
def fallbackReply : ScreenReply := ⟨true, fun _ => 0, .disabled, true, true⟩

/-- The fallback modes are listed. -/
theorem rebuildScreen_listsFitting_fallback :
    ∃ st' status, rebuildScreen true fallbackReply (.initial fun _ => 0) 0 = some (st', status) ∧
      ListsFitting DisplayInformation.initial.raise (edidModes fallbackReply.edid [])
        (st'.tables 0) status := by
  have hallocated : fallbackReply.TablesAllocated := ⟨rfl, rfl⟩
  have hround : rebuildScreen true fallbackReply (.initial fun _ => 0) 0 = some _ := rfl
  have hlarge : ∀ mode ∈ edidModes fallbackReply.edid [], IsLarge mode := by decide +kernel
  refine ⟨_, _, hround, (rebuildScreen_listsFitting_iff hallocated hround).mpr ?_⟩
  intro before mode after hsplit _ other hother
  exact hlarge other (hsplit.symm ▸ List.mem_append_left _ hother)

end VirtDisplay
