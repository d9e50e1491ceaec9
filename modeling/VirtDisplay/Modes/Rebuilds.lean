/-
# Rebuilding the mode lists when memory is short

A screen's mode list is an array and a count, two fields that `GetModeList` changes at
different times. `Reset` frees the array and leaves the count; the count is assigned behind
two allocations, and if one of them fails the call returns at once. The screen is then left
with the count of its old list, and with no array, or with a new one of zero entries.

The state between two calls is what other threads find: while a call runs it holds
`m_screen_mutex`.
-/

import VirtDisplay.Adapter.SetMode
import VirtDisplay.Foundation.Splits
import VirtDisplay.Foundation.Transition
import VirtDisplay.Modes.ListedModes

namespace VirtDisplay

open Transition

/-- `m_ModeInfo` has at least `m_ModeCount` entries. -/
def ModeTable.Backed (table : ModeTable) : Prop :=
  table.modeCount ≤ (table.modeInfo.getD []).length

/-- Every screen's list is backed. -/
def ModeState.Backed (st : ModeState) : Prop := ∀ i, (st.tables i).Backed

/-- The search of `SetCurrentModeExt` stays inside a backed table. -/
theorem ModeTable.Backed.searches {table : ModeTable} (hbacked : table.Backed)
    (mode : CurrentMode) :
    ∃ found, searchModes table.modeInfo mode table.modeCount 0 = some found := by
  have hfrom : ∀ remaining idx, idx + remaining ≤ (table.modeInfo.getD []).length →
      ∃ found, searchModes table.modeInfo mode remaining idx = some found := by
    intro remaining
    induction remaining with
    | zero => exact fun _ _ => ⟨none, rfl⟩
    | succ remaining ih =>
        intro idx hroom
        cases hinfo : table.modeInfo with
        | none =>
            rw [hinfo] at hroom
            exact absurd hroom (by simp)
        | some entries =>
            rw [hinfo, Option.getD_some] at hroom
            have hentry : modeAt (some entries) idx = some (some entries[idx]) := by
              rw [modeAt, List.getElem?_eq_getElem (by omega)]
              rfl
            rw [searchModes, hentry]
            dsimp only
            split
            next => exact ⟨_, rfl⟩
            next =>
              rw [hinfo] at ih
              exact ih (idx + 1) (by rw [Option.getD_some]; omega)
  exact hfrom _ 0 (by rw [Nat.zero_add]; exact hbacked)

section

variable (edidFeature : Bool) (reply : ScreenReply)

/-- The candidates that a round finds: without the EDID feature there are none. -/
def roundCandidates : List DispMode := if edidFeature then edidModes reply.edid [] else []

/-- The number of entries that a round allocates. -/
def roundEntries : Nat := (scannedModes (roundCandidates edidFeature reply)).length + 2

/-- The round finds its memory, or the old count does not exceed what it leaves: nothing if the
entries cannot be allocated, and the new entries if the numbers cannot. -/
structure SparesCount (table : ModeTable) : Prop where
  noEntries : reply.modeInfoAllocated = false → table.modeCount = 0
  noNumbers : reply.modeInfoAllocated = true → reply.modeNumbersAllocated = false →
    table.modeCount ≤ roundEntries edidFeature reply

variable {edidFeature reply} {st st' : ModeState} {i : ScreenId} {status : NtStatus}

/-- A round that finds its memory. -/
theorem sparesCount_of_allocated {table : ModeTable} (hallocated : reply.TablesAllocated) :
    SparesCount edidFeature reply table where
  noEntries hfails := absurd (hfails.symm.trans hallocated.1) (by decide)
  noNumbers _ hfails := absurd (hfails.symm.trans hallocated.2) (by decide)

/-- What a round of the loop leaves its own screen and the others. -/
structure RoundLeaves (edidFeature : Bool) (reply : ScreenReply) (st st' : ModeState)
    (i : ScreenId) (status : NtStatus) : Prop where
  others : ∀ j, j ≠ i → st'.tables j = st.tables j
  noMemory : status = .noMemory ↔ ¬ reply.TablesAllocated
  noEntries : reply.modeInfoAllocated = false →
    (st'.tables i).modeInfo = none ∧ (st'.tables i).modeCount = (st.tables i).modeCount
  noNumbers : reply.modeInfoAllocated = true → reply.modeNumbersAllocated = false →
    ((st'.tables i).modeInfo.getD []).length = roundEntries edidFeature reply ∧
      (st'.tables i).modeCount = (st.tables i).modeCount
  filled : reply.TablesAllocated →
    ModeProgram.Filled (roundEntries edidFeature reply) (st'.tables i)

/-- Behind its EDID query the screen has no array, its old count, and the round's candidates. -/
theorem processEdid_leaves {st₁ : ModeState} (hprocess : processEdid edidFeature reply
    { st with tables := Function.update st.tables i (st.tables i).reset } i = some st₁) :
    (∀ j, j ≠ i → st₁.tables j = st.tables j) ∧ (st₁.tables i).modeInfo = none ∧
      (st₁.tables i).modeCount = (st.tables i).modeCount ∧
      (st₁.tables i).gpuDispModeExt = roundCandidates edidFeature reply := by
  have htable : ∃ table, st₁.tables = Function.update st.tables i table ∧
      table.modeInfo = none ∧ table.modeCount = (st.tables i).modeCount ∧
        table.gpuDispModeExt = roundCandidates edidFeature reply := by
    unfold processEdid at hprocess
    cases edidFeature with
    | false =>
        obtain rfl := Option.some.inj hprocess
        exact ⟨_, rfl, rfl, rfl, rfl⟩
    | true =>
        dsimp only at hprocess
        rw [if_pos rfl, Function.update_idem, Function.update_self] at hprocess
        split at hprocess
        next =>
          obtain rfl := Option.some.inj hprocess
          exact ⟨_, rfl, rfl, rfl, rfl⟩
        next => cases hprocess
  obtain ⟨table, htables, hkept⟩ := htable
  rw [htables, Function.update_self]
  exact ⟨fun j hj => Function.update_of_ne hj _ _, hkept⟩

theorem rebuildScreen_leaves (hround : rebuildScreen edidFeature reply st i = some (st', status)) :
    RoundLeaves edidFeature reply st st' i status := by
  obtain ⟨st₁, hprocess, hfinish⟩ := Option.map_eq_some_iff.mp hround
  obtain ⟨hothers, hinfo, hcount, hext⟩ := processEdid_leaves hprocess
  have hframe := (finishScreen_frame reply st₁ i).1
  rw [hfinish] at hframe
  have hkept : ∀ j, j ≠ i → st'.tables j = st.tables j :=
    fun j hj => (hframe j hj).trans (hothers j hj)
  rw [finishScreen] at hfinish
  dsimp only at hfinish
  by_cases hentries : reply.modeInfoAllocated = true
  · rw [if_neg (not_not.mpr hentries)] at hfinish
    by_cases hnumbers : reply.modeNumbersAllocated = true
    · rw [if_neg (not_not.mpr hnumbers)] at hfinish
      obtain ⟨rfl, rfl⟩ := Prod.mk.inj hfinish
      have hfilled := ModeProgram.filled_fillTable st₁.displayInfo.raise
        (ModeProgram.zeroedTable (st₁.tables i))
      have hfit : (scannedModes (st₁.tables i).gpuDispModeExt).length + 2 < 2 ^ 16 :=
        Nat.lt_of_le_of_lt (Nat.add_le_add_right ModeProgram.length_scannedModes_le 2) (by decide)
      refine ⟨hkept, ?_, fun h => absurd hentries (by simp [h]),
        fun _ h => absurd hnumbers (by simp [h]), fun _ => ?_⟩
      · refine iff_of_false ?_ (not_not.mpr ⟨hentries, hnumbers⟩)
        split <;> decide
      · dsimp only
        rw [Function.update_self, roundEntries, ← hext]
        exact (ModeProgram.getDisplayInfo_eq hfilled hfit reply.display).2
    · rw [if_pos hnumbers] at hfinish
      obtain ⟨rfl, rfl⟩ := Prod.mk.inj hfinish
      refine ⟨hkept, iff_of_true rfl fun h => hnumbers h.2, fun h => absurd hentries (by simp [h]),
        fun _ _ => ?_, fun h => absurd h.2 hnumbers⟩
      dsimp only
      rw [Function.update_self, roundEntries, ← hext]
      exact ⟨List.length_replicate, hcount⟩
  · rw [if_pos hentries] at hfinish
    obtain ⟨rfl, rfl⟩ := Prod.mk.inj hfinish
    exact ⟨hkept, iff_of_true rfl fun h => hentries h.1, fun _ => ⟨hinfo, hcount⟩,
      fun h => absurd h hentries, fun h => absurd h.1 hentries⟩

/-- After the round the screen's list is backed exactly if the round spares its count. -/
theorem RoundLeaves.backed_iff (hleaves : RoundLeaves edidFeature reply st st' i status) :
    (st'.tables i).Backed ↔ SparesCount edidFeature reply (st.tables i) := by
  unfold ModeTable.Backed
  by_cases hentries : reply.modeInfoAllocated = true
  · by_cases hnumbers : reply.modeNumbersAllocated = true
    · have hfilled := hleaves.filled ⟨hentries, hnumbers⟩
      obtain ⟨info, hinfo, hlength⟩ := hfilled.modeInfo
      rw [hinfo, Option.getD_some, hlength]
      exact iff_of_true hfilled.modeCount_le (sparesCount_of_allocated ⟨hentries, hnumbers⟩)
    · obtain ⟨hlength, hcount⟩ := hleaves.noNumbers hentries (Bool.eq_false_iff.mpr hnumbers)
      rw [hlength, hcount]
      exact ⟨fun hle => ⟨fun h => absurd hentries (by simp [h]), fun _ _ => hle⟩,
        fun hspares => hspares.noNumbers hentries (Bool.eq_false_iff.mpr hnumbers)⟩
  · obtain ⟨hinfo, hcount⟩ := hleaves.noEntries (Bool.eq_false_iff.mpr hentries)
    rw [hinfo, hcount, Option.getD_none, List.length_nil, Nat.le_zero]
    exact ⟨fun hzero => ⟨fun _ => hzero, fun h => absurd h hentries⟩,
      fun hspares => hspares.noEntries (Bool.eq_false_iff.mpr hentries)⟩

/-- A round that spares the count of its screen, from backed lists. -/
theorem RoundLeaves.backed (hleaves : RoundLeaves edidFeature reply st st' i status)
    (hbacked : st.Backed) (hspares : SparesCount edidFeature reply (st.tables i)) :
    st'.Backed := by
  intro j
  by_cases hj : j = i
  · subst hj
    exact hleaves.backed_iff.mpr hspares
  · rw [hleaves.others j hj]
    exact hbacked j

end

section

variable {edidFeature : Bool} {replies : ScreenId → ScreenReply} {todo : List ScreenId}
  {st st' : ModeState} {status out : NtStatus}

/-- Every round that the call comes to spares the count of its screen. -/
def RoundsSpare (edidFeature : Bool) (replies : ScreenId → ScreenReply) (todo : List ScreenId)
    (st : ModeState) : Prop :=
  ∀ before i after, todo = before ++ i :: after → (∀ j ∈ before, (replies j).TablesAllocated) →
    SparesCount edidFeature (replies i) (st.tables i)

theorem roundsSpare_nil : RoundsSpare edidFeature replies [] st := Splits.forall_nil

/-- The next round, and the ones behind it if it finds its memory. -/
theorem roundsSpare_cons {i : ScreenId} :
    RoundsSpare edidFeature replies (i :: todo) st ↔
      SparesCount edidFeature (replies i) (st.tables i) ∧
        ((replies i).TablesAllocated → RoundsSpare edidFeature replies todo st) := by
  refine Splits.forall_cons_iff.trans (and_congr ⟨fun h => h nofun, fun h _ => h⟩ ?_)
  simp only [List.forall_mem_cons]
  exact ⟨fun h hallocated before j after hsplit hbefore =>
      h before j after hsplit ⟨hallocated, hbefore⟩,
    fun h before j after hsplit hbefore => h hbefore.1 before j after hsplit hbefore.2⟩

/-- Only the tables of the screens to come matter. -/
theorem roundsSpare_congr (htables : ∀ j ∈ todo, st'.tables j = st.tables j) :
    RoundsSpare edidFeature replies todo st' ↔ RoundsSpare edidFeature replies todo st := by
  unfold RoundsSpare
  refine forall_congr' fun before => forall_congr' fun i => forall_congr' fun after =>
    forall_congr' fun hsplit => ?_
  rw [htables i (hsplit ▸ List.mem_append_right before List.mem_cons_self)]

/-- The loop stops at the first round without memory, so at most one round can leave a list that
is not backed. -/
theorem rebuildScreens_backed_iff (hnodup : todo.Nodup) (hbacked : st.Backed)
    (hrun : rebuildScreens edidFeature replies todo status st = some (st', out)) :
    st'.Backed ↔ RoundsSpare edidFeature replies todo st := by
  induction todo generalizing status st with
  | nil =>
      obtain ⟨rfl, -⟩ := Prod.mk.inj (Option.some.inj hrun)
      exact iff_of_true hbacked roundsSpare_nil
  | cons i todo ih =>
      obtain ⟨hi, hnodup⟩ := List.nodup_cons.mp hnodup
      rw [roundsSpare_cons]
      -- a round with its memory: the screens to come have the tables they had
      have hgo : ∀ {st₁ outcome status}, outcome ≠ .noMemory →
          rebuildScreen edidFeature (replies i) st i = some (st₁, outcome) →
          rebuildScreens edidFeature replies todo status st₁ = some (st', out) →
          (st'.Backed ↔ SparesCount edidFeature (replies i) (st.tables i) ∧
            ((replies i).TablesAllocated → RoundsSpare edidFeature replies todo st)) := by
        intro st₁ outcome status houtcome hround hrest
        have hleaves := rebuildScreen_leaves hround
        have hallocated := not_not.mp (mt hleaves.noMemory.mpr houtcome)
        have hspares : SparesCount edidFeature (replies i) (st.tables i) :=
          sparesCount_of_allocated hallocated
        have hbacked₁ := hleaves.backed hbacked hspares
        have htodo : ∀ j ∈ todo, st₁.tables j = st.tables j :=
          fun j hj => hleaves.others j (ne_of_mem_of_not_mem hj hi)
        rw [ih hnodup hbacked₁ hrest, roundsSpare_congr htodo]
        exact ⟨fun hspare => ⟨hspares, fun _ => hspare⟩, fun hspare => hspare.2 hallocated⟩
      rw [rebuildScreens] at hrun
      split at hrun
      next => cases hrun
      next st₁ hround =>
        obtain ⟨rfl, -⟩ := Prod.mk.inj (Option.some.inj hrun)
        have hleaves := rebuildScreen_leaves hround
        have hfails := hleaves.noMemory.mp rfl
        constructor
        · exact fun hafter => ⟨hleaves.backed_iff.mp (hafter i), fun h => absurd h hfails⟩
        · exact fun hspare => hleaves.backed hbacked hspare.1
      next st₁ hround => exact hgo (by decide : NtStatus.success ≠ .noMemory) hround hrun
      next st₁ outcome hne _ hround => exact hgo hne hround hrun

end

namespace ModeState

/-- The calls of `GetModeList`, each with what the host answers and which allocations succeed. -/
def rebuilds (edidFeature : Bool) : System ModeState (ScreenId → ScreenReply) where
  step st replies := (getModeList edidFeature replies st).map Prod.fst

/-- Each round of the call whose memory is short spares the count of its screen. -/
def SparesCounts (edidFeature : Bool) (st : ModeState) (replies : ScreenId → ScreenReply) : Prop :=
  RoundsSpare edidFeature replies (List.finRange maxScanOut) st

variable {edidFeature : Bool} {replies : ScreenId → ScreenReply} {st st' : ModeState}

theorem backed_initial (behind : Edid) : (ModeState.initial behind).Backed := fun _ => Nat.zero_le _

/-- One call, from backed lists. -/
theorem rebuilds_backed_iff (hbacked : st.Backed)
    (hstep : (rebuilds edidFeature).step st replies = some st') :
    st'.Backed ↔ SparesCounts edidFeature st replies := by
  obtain ⟨⟨_, out⟩, hrun, rfl⟩ := Option.map_eq_some_iff.mp hstep
  exact rebuildScreens_backed_iff (List.nodup_finRange maxScanOut) hbacked hrun

/-- Over calls that spare the counts every list stays backed, the search of a screen's list stays
inside it, and the next call leaves the lists backed exactly if it spares the counts too. -/
theorem backed_of_reachUnder (edidFeature : Bool) (behind : Edid) {st : ModeState}
    (hreach : (rebuilds edidFeature).ReachUnder (SparesCounts edidFeature) (.initial behind) st) :
    (∀ i, (st.tables i).Backed ∧ ∀ mode, ∃ found,
      searchModes (st.tables i).modeInfo mode (st.tables i).modeCount 0 = some found) ∧
      ∀ replies st', (rebuilds edidFeature).step st replies = some st' →
        (st'.Backed ↔ SparesCounts edidFeature st replies) := by
  have hbacked : st.Backed := by
    refine hreach.invariant (backed_initial behind) ?_
    intro before replies after hbefore hspares hstep
    exact (rebuilds_backed_iff hbefore hstep).mpr hspares
  exact ⟨fun i => ⟨hbacked i, (hbacked i).searches⟩,
    fun replies st' hstep => rebuilds_backed_iff hbacked hstep⟩

/-- Fallback modes, listed with enough memory. -/
theorem backed_of_reachUnder_fallback : ∃ st,
    (rebuilds true).step (.initial fun _ => 0) (fun _ => fallbackReply) = some st ∧
      ∀ i, (st.tables i).Backed := by
  have hspares : SparesCounts true (.initial fun _ => 0) fun _ => fallbackReply :=
    fun _ _ _ _ _ => ⟨nofun, nofun⟩
  obtain ⟨st, hstep⟩ := Option.isSome_iff_exists.mp
    (by rfl : ((rebuilds true).step (.initial fun _ => 0) fun _ => fallbackReply).isSome)
  exact ⟨st, hstep, fun i => ((backed_of_reachUnder true _ (.next .refl hspares hstep)).1 i).1⟩

/-- The fallback answer, without the memory for the entries. -/
def shortReply : ScreenReply := ⟨true, fun _ => 0, .disabled, false, true⟩

/-- A second call that finds no memory leaves the count of the first without its entries, and every
search of the list reads behind a null pointer. -/
theorem not_backed : ∃ st, (rebuilds true).Reach (.initial fun _ => 0) st ∧ ¬ (st.tables 0).Backed ∧
    ∀ mode, searchModes (st.tables 0).modeInfo mode (st.tables 0).modeCount 0 = none := by
  have hrun : ((rebuilds true).run (.initial fun _ => 0)
      [fun _ => fallbackReply, fun _ => shortReply]).map
      (fun st => ((st.tables 0).modeInfo, (st.tables 0).modeCount)) = some (none, 23) := by
    decide +kernel
  obtain ⟨st, hst, htable⟩ := Option.map_eq_some_iff.mp hrun
  obtain ⟨hinfo, hcount⟩ := Prod.mk.inj htable
  refine ⟨st, System.ReachUnder.run .refl (fun _ _ _ => trivial) hst, fun hbacked => ?_,
    fun mode => ?_⟩
  · rw [ModeTable.Backed, hinfo, hcount] at hbacked
    exact absurd hbacked (by decide)
  · rw [hinfo, hcount]
    rfl

end ModeState

end VirtDisplay
