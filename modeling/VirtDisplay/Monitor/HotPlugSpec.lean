/-
# What a wake-up does

The loop of a wake-up treats each connector by itself, so one round is described by what
it does to its connector and by what it leaves alone, and the whole loop by the rounds.
The description holds where a connector has a monitor object exactly if its recorded
status says so; every successful wake-up establishes this, as long as the monitors it
creates can be created.
-/

import Mathlib.Algebra.BigOperators.Fin
import VirtDisplay.Monitor.HotPlug

namespace VirtDisplay

namespace HotPlug

/-- The list has a monitor object for the connector. -/
abbrev registered (s : HotPlug) (i : ScreenId) : Bool := (s.monitorObjects.slots i).isSome

/-- The round for the connector creates a monitor, for a screen that appeared or whose
EDID changed. -/
def Attempts (w : WakeAnswers) (s : HotPlug) (i : ScreenId) : Prop :=
  s.screenPresent i = true ∧ ((s.minfo i).status = false ∨
    (s.minfo i).edidBlock ≠ (queried (s.monitors i) s.dEdid (w.edid i)).edidBlock)

/-- On how many connectors a flag is set. -/
def count (flag : ScreenId → Bool) : Nat := ∑ i, (flag i).toNat

/-- Counting again after one flag changed. -/
theorem count_change {flag flag' : ScreenId → Bool} {i : ScreenId}
    (hsame : ∀ j, j ≠ i → flag' j = flag j) :
    count flag' + (flag i).toNat = count flag + (flag' i).toNat := by
  have hrest : ∑ j ∈ Finset.univ.erase i, (flag' j).toNat =
      ∑ j ∈ Finset.univ.erase i, (flag j).toNat :=
    Finset.sum_congr rfl fun j hj => by rw [hsame j (Finset.ne_of_mem_erase hj)]
  rw [count, count, ← Finset.add_sum_erase _ _ (Finset.mem_univ i), hrest,
    ← Finset.add_sum_erase Finset.univ (fun j => (flag j).toNat) (Finset.mem_univ i)]
  omega

/-- What the round for connector `i` does. -/
structure Serves (w : WakeAnswers) (s : HotPlug) (i : ScreenId) (s' : HotPlug) : Prop where
  screenPresent : s'.screenPresent = s.screenPresent
  dEdid : s'.dEdid = s.dEdid
  running : s'.running = s.running
  published : s'.published = s.published
  others : ∀ j, j ≠ i → s'.registered j = s.registered j ∧ s'.minfo j = s.minfo j ∧
    s'.monitors j = s.monitors j ∧ s'.creation j = s.creation j
  status : (s'.minfo i).status = s.screenPresent i
  registered : s'.registered i = true ↔
    s.screenPresent i = true ∧ (s.Attempts w i → w.creates i = true)
  creation : s.Attempts w i → s'.creation i = w.creates i
  creation_of_not : ¬ s.Attempts w i → s'.creation i = s.creation i
  dispCount : s'.dispCount + (s.minfo i).status.toNat = s.dispCount + (s.screenPresent i).toNat
  doSetEvent : s'.doSetEvent = true ↔
    s.doSetEvent = true ∨ (s.minfo i).status ≠ s.screenPresent i ∨ s.Attempts w i
  owned : s.monitorObjects.Owned → s'.monitorObjects.Owned

variable {w : WakeAnswers} {s : HotPlug} {i : ScreenId}

/-- The round of an absent screen without a monitor. -/
theorem serves_absent (hstatus : (s.minfo i).status = false) (hpresent : s.screenPresent i = false)
    (htracked : s.registered i = (s.minfo i).status) : Serves w s i (serve w s i) := by
  have hquiet : ¬ s.Attempts w i := fun h => by simp [Attempts, hpresent] at h
  have hserve : serve w s i = s := by simp [serve, hpresent, hstatus]
  rw [hserve]
  rw [hstatus] at htracked
  constructor <;> simp_all

/-- The round of a screen that went: its monitor departs. -/
theorem serves_departure (hstatus : (s.minfo i).status = true)
    (hpresent : s.screenPresent i = false)
    (htracked : s.registered i = (s.minfo i).status) : Serves w s i (serve w s i) := by
  have hquiet : ¬ s.Attempts w i := fun h => by simp [Attempts, hpresent] at h
  rw [hstatus] at htracked
  rw [serve, if_pos (by simp [hstatus, hpresent]), if_pos ⟨hpresent, htracked⟩]
  constructor <;> simp [setInfo, depart, hpresent, hstatus, hquiet]
  · intro j hne
    exact ⟨congrArg Option.isSome (Registry.drop_slots_of_ne hne), Function.update_of_ne hne ..⟩
  · intro howned
    exact howned.drop htracked

/-- What `FinishInit` does to the list. -/
theorem finishInit_slots (creates : Bool) (hempty : s.monitorObjects.slots i = none) :
    (s.finishInit creates i).registered i = creates ∧
      (∀ j, j ≠ i → (s.finishInit creates i).registered j = s.registered j) ∧
      (s.monitorObjects.Owned → (s.finishInit creates i).monitorObjects.Owned) := by
  unfold finishInit registered
  cases creates with
  | true =>
      refine ⟨by simp, fun j hne => ?_, fun howned => howned.put hempty⟩
      simp [Registry.put_slots_of_ne hne]
  | false => exact ⟨by simp [hempty], fun j hne => rfl, id⟩

/-- The round of a screen that appeared: a monitor is created for it. -/
theorem serves_arrival (hstatus : (s.minfo i).status = false) (hpresent : s.screenPresent i = true)
    (htracked : s.registered i = (s.minfo i).status) : Serves w s i (serve w s i) := by
  have hattempts : s.Attempts w i := ⟨hpresent, .inl hstatus⟩
  rw [hstatus] at htracked
  have hempty : s.monitorObjects.slots i = none := by simpa using htracked
  rw [serve, if_pos (by simp [hstatus, hpresent]), if_neg (by simp [hpresent])]
  dsimp only
  set filled := s.queryEdid w i
  set recorded := filled.setInfo i ⟨filled.screenPresent i, (filled.monitors i).edidBlock⟩
  obtain ⟨hself, hothers, howned⟩ := @finishInit_slots recorded i (w.creates i) hempty
  constructor
  case registered => simpa [hpresent, hattempts] using hself
  case others =>
    intro j hne
    exact ⟨hothers j hne, Function.update_of_ne hne .., Function.update_of_ne hne ..,
      Function.update_of_ne hne ..⟩
  case owned => exact howned
  all_goals simp [recorded, filled, finishInit, setInfo, queryEdid, hpresent, hstatus, hattempts]

/-- The round of a screen whose monitor stays, or is replaced for its new EDID. -/
theorem serves_presence (hstatus : (s.minfo i).status = true) (hpresent : s.screenPresent i = true)
    (htracked : s.registered i = (s.minfo i).status) : Serves w s i (serve w s i) := by
  rw [hstatus] at htracked
  rw [serve, if_neg (by simp [hstatus, hpresent]), if_pos hpresent]
  dsimp only
  have hfilled : ((s.queryEdid w i).monitors i).edidBlock =
      (queried (s.monitors i) s.dEdid (w.edid i)).edidBlock := by
    simp [queryEdid]
  by_cases hsame : ((s.queryEdid w i).minfo i).edidBlock = ((s.queryEdid w i).monitors i).edidBlock
  · have hquiet : ¬ s.Attempts w i := by
      rintro ⟨-, hoff | hchanged⟩
      · rw [hstatus] at hoff
        cases hoff
      · exact hchanged (hsame.trans hfilled)
    rw [if_neg (not_not.mpr hsame)]
    constructor <;> simp [queryEdid, hpresent, hstatus, hquiet, htracked]
    intro j hne
    exact Function.update_of_ne hne ..
  · have hattempts : s.Attempts w i := ⟨hpresent, .inr fun h => hsame (h.trans hfilled.symm)⟩
    rw [if_pos hsame]
    set filled := s.queryEdid w i
    set recorded := filled.setInfo i ⟨(filled.minfo i).status, (filled.monitors i).edidBlock⟩
    obtain ⟨hself, hothers, howned⟩ :=
      @finishInit_slots (recorded.depart i) i (w.creates i) (Registry.drop_slots_self ..)
    constructor
    case registered => simpa [hpresent, hattempts] using hself
    case others =>
      intro j hne
      refine ⟨(hothers j hne).trans ?_, Function.update_of_ne hne .., Function.update_of_ne hne ..,
        Function.update_of_ne hne ..⟩
      exact congrArg Option.isSome (Registry.drop_slots_of_ne hne)
    case owned => exact fun hbefore => howned (hbefore.drop htracked)
    all_goals
      simp [recorded, filled, finishInit, depart, setInfo, queryEdid, hpresent, hstatus, hattempts]

/-- The round for a connector whose monitor is tracked by its status. -/
theorem serve_spec (htracked : s.registered i = (s.minfo i).status) :
    Serves w s i (serve w s i) := by
  cases hpresent : s.screenPresent i with
  | false =>
      cases hstatus : (s.minfo i).status with
      | false => exact serves_absent hstatus hpresent htracked
      | true => exact serves_departure hstatus hpresent htracked
  | true =>
      cases hstatus : (s.minfo i).status with
      | false => exact serves_arrival hstatus hpresent htracked
      | true => exact serves_presence hstatus hpresent htracked

/-- The recorded statuses. -/
abbrev status (s : HotPlug) (i : ScreenId) : Bool := (s.minfo i).status

/-- What the rounds for these connectors do. -/
structure ServesAll (w : WakeAnswers) (s : HotPlug) (todo : List ScreenId) (s' : HotPlug) :
    Prop where
  screenPresent : s'.screenPresent = s.screenPresent
  dEdid : s'.dEdid = s.dEdid
  running : s'.running = s.running
  published : s'.published = s.published
  others : ∀ j, j ∉ todo → s'.registered j = s.registered j ∧ s'.minfo j = s.minfo j ∧
    s'.monitors j = s.monitors j ∧ s'.creation j = s.creation j
  status : ∀ i ∈ todo, s'.status i = s.screenPresent i
  registered : ∀ i ∈ todo, (s'.registered i = true ↔
    s.screenPresent i = true ∧ (s.Attempts w i → w.creates i = true))
  creation : ∀ i ∈ todo, s.Attempts w i → s'.creation i = w.creates i
  creation_of_not : ∀ i ∈ todo, ¬ s.Attempts w i → s'.creation i = s.creation i
  dispCount : s'.dispCount + count s.status = s.dispCount + count s'.status
  doSetEvent : s'.doSetEvent = true ↔
    s.doSetEvent = true ∨ ∃ i ∈ todo, s.status i ≠ s.screenPresent i ∨ s.Attempts w i
  owned : s.monitorObjects.Owned → s'.monitorObjects.Owned

/-- A round only looks at its own connector. -/
theorem Serves.attempts_iff {s' : HotPlug} (hserves : Serves w s i s') {j : ScreenId}
    (hne : j ≠ i) :
    s'.Attempts w j ↔ s.Attempts w j := by
  obtain ⟨-, hminfo, hmonitors, -⟩ := hserves.others j hne
  rw [Attempts, Attempts, hserves.screenPresent, hminfo, hmonitors, hserves.dEdid]

theorem foldl_serve (w : WakeAnswers) {todo : List ScreenId} (hnodup : todo.Nodup) {s : HotPlug}
    (htracked : ∀ i ∈ todo, s.registered i = s.status i) :
    ServesAll w s todo (todo.foldl (serve w) s) := by
  induction todo generalizing s with
  | nil =>
      refine ⟨rfl, rfl, rfl, rfl, fun j _ => ⟨rfl, rfl, rfl, rfl⟩, ?_, ?_, ?_, ?_, rfl, ?_, id⟩
      · exact nofun
      · exact nofun
      · exact nofun
      · exact nofun
      · simp
  | cons i todo ih =>
      obtain ⟨hi, hnodup⟩ := List.nodup_cons.mp hnodup
      have hone := @serve_spec w s i (htracked i List.mem_cons_self)
      have hne : ∀ j ∈ todo, j ≠ i := fun j hj heq => hi (heq ▸ hj)
      have hrest := @ih hnodup (serve w s i) fun j hj => by
        obtain ⟨hregistered, hminfo, -, -⟩ := hone.others j (hne j hj)
        rw [hregistered, status, hminfo]
        exact htracked j (List.mem_cons_of_mem _ hj)
      rw [List.foldl_cons]
      set mid := serve w s i
      set last := todo.foldl (serve w) mid
      have hkept := hrest.others i hi
      have hcount : count mid.status + (s.status i).toNat = count s.status + (mid.status i).toNat :=
        count_change fun j hj => congrArg MonitorInfo.status (hone.others j hj).2.1
      constructor
      case screenPresent => exact hrest.screenPresent.trans hone.screenPresent
      case dEdid => exact hrest.dEdid.trans hone.dEdid
      case running => exact hrest.running.trans hone.running
      case published => exact hrest.published.trans hone.published
      case others =>
        intro j hj
        obtain ⟨hji, hj⟩ := not_or.mp (fun h => hj (List.mem_cons.mpr h))
        obtain ⟨hr, hm, hg, hc⟩ := hrest.others j hj
        obtain ⟨hr', hm', hg', hc'⟩ := hone.others j hji
        exact ⟨hr.trans hr', hm.trans hm', hg.trans hg', hc.trans hc'⟩
      case status =>
        intro j hj
        rcases List.mem_cons.mp hj with rfl | hj
        · rw [status, hkept.2.1]
          exact hone.status
        · rw [hrest.status j hj, hone.screenPresent]
      case registered =>
        intro j hj
        rcases List.mem_cons.mp hj with rfl | hj
        · rw [hkept.1]
          exact hone.registered
        · rw [hrest.registered j hj, hone.screenPresent, hone.attempts_iff (hne j hj)]
      case creation =>
        intro j hj hattempts
        rcases List.mem_cons.mp hj with rfl | hj
        · rw [hkept.2.2.2]
          exact hone.creation hattempts
        · exact hrest.creation j hj ((hone.attempts_iff (hne j hj)).mpr hattempts)
      case creation_of_not =>
        intro j hj hquiet
        rcases List.mem_cons.mp hj with rfl | hj
        · rw [hkept.2.2.2]
          exact hone.creation_of_not hquiet
        · rw [hrest.creation_of_not j hj fun h => hquiet ((hone.attempts_iff (hne j hj)).mp h)]
          exact (hone.others j (hne j hj)).2.2.2
      case dispCount =>
        have hfirst := hone.dispCount
        have hsecond := hrest.dispCount
        have hstatus : mid.status i = s.screenPresent i := hone.status
        rw [hstatus] at hcount
        simp only [status] at hfirst hcount
        omega
      case doSetEvent =>
        rw [hrest.doSetEvent, hone.doSetEvent, or_assoc]
        apply or_congr_right
        simp only [List.mem_cons, exists_eq_or_imp]
        refine or_congr_right (exists_congr fun j => and_congr_right fun hj => ?_)
        rw [hone.screenPresent, hone.attempts_iff (hne j hj), status, status,
          (hone.others j (hne j hj)).2.1]
      case owned => exact fun howned => hrest.owned (hone.owned howned)

/-- The moves, with the thread running or not. -/
inductive Step (n : MonitorCount) (s : HotPlug) : Label → HotPlug → Prop
  | entered {isWin11 creates : Bool} {answer : EdidAnswer} (hstopped : s.running = false) :
      Step n s (.enter isWin11 answer creates) (s.enter isWin11 answer creates)
  | woke {w : WakeAnswers} (hrunning : s.running = true) : Step n s (.wakeUp w) (s.wakeUp n w)
  | terminated (hrunning : s.running = true) : Step n s .terminate s.terminate

theorem step_spec {n : MonitorCount} {label : Label} {after : HotPlug}
    (hstep : (system n).step s label = some after) : Step n s label after := by
  cases label with
  | enter isWin11 answer creates =>
      obtain ⟨hstopped, hafter⟩ := Option.ite_none_left_eq_some.mp hstep
      obtain rfl := Option.some.inj hafter
      exact .entered (Bool.eq_false_iff.mpr hstopped)
  | wakeUp w =>
      obtain ⟨hrunning, hafter⟩ := Option.ite_none_right_eq_some.mp hstep
      obtain rfl := Option.some.inj hafter
      exact .woke hrunning
  | terminate =>
      obtain ⟨hrunning, hafter⟩ := Option.ite_none_right_eq_some.mp hstep
      obtain rfl := Option.some.inj hafter
      exact .terminated hrunning

end HotPlug

end VirtDisplay
