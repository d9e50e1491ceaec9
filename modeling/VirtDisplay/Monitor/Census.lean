/-
# How many monitors there are

After a wake-up the monitor objects should be those of the screens that are present, and
the thread's count and the published count should be their number. The program that
manages the display topology compares the published count with the paths it finds and
waits until they agree, so a count that is off by one is never made up for.

The count is raised for a monitor whether or not it could be created, and it is only
published when something changed. So the first wake-up, which lets the default monitor
depart, leaves the count of one in shared memory if it finds no screen.
-/

import Mathlib.Algebra.Order.BigOperators.Group.Finset
import VirtDisplay.Monitor.HotPlugSpec

namespace VirtDisplay

open Transition

namespace HotPlug

/-- The monitors are those of the screens that are present and could be created, and both
counts are their number. -/
structure Consistent (s : HotPlug) : Prop where
  registered : ∀ i, s.registered i = true ↔ s.screenPresent i = true ∧ s.creation i = true
  dispCount : s.dispCount = count s.registered
  published : s.published = count s.registered

/-- A wake-up with these flags. -/
abbrev woken (flags : ScreenId → Bool) (s : HotPlug) : HotPlug := s.beginWake.present flags

/-- Every monitor that the wake-up tries to create can be created. -/
def CreatesAll (n : MonitorCount) (w : WakeAnswers) (flags : ScreenId → Bool) (s : HotPlug) :
    Prop :=
  ∀ i ∈ connectors n, (s.woken flags).Attempts w i → w.creates i = true

/-- The wake-up finds a screen that came, went or has a new EDID. -/
def Changes (n : MonitorCount) (w : WakeAnswers) (flags : ScreenId → Bool) (s : HotPlug) : Prop :=
  ∃ i ∈ connectors n, s.status i ≠ flags i ∨ (s.woken flags).Attempts w i

/-- A thread starts with no monitor object in the list but that of the default monitor, and
wake-ups create every monitor they try to create. -/
def Creating (n : MonitorCount) (s : HotPlug) : Label → Prop
  | .enter _ _ _ => ∀ i, i ≠ primaryIddIndex → s.registered i = false
  | .wakeUp w => ∀ flags ∈ w.hpd, s.CreatesAll n w flags
  | .terminate => True

/-- Moreover a wake-up whose query is answered changes something unless the published count
is the thread's, and where the query fails it is, and the connector whose flag was cleared
has no monitor object. -/
def Faithful (n : MonitorCount) (s : HotPlug) : Label → Prop
  | .enter _ _ _ => ∀ i, i ≠ primaryIddIndex → s.registered i = false
  | .wakeUp w =>
      match w.hpd with
      | none => s.registered 3 = false ∧ s.published = s.dispCount
      | some flags => s.CreatesAll n w flags ∧ (s.published = s.dispCount ∨ s.Changes n w flags)
  | .terminate => True

theorem Faithful.creating {n : MonitorCount} {s : HotPlug} {label : Label}
    (hfaithful : s.Faithful n label) : s.Creating n label := by
  cases label with
  | enter isWin11 answer creates => exact hfaithful
  | wakeUp w =>
      intro flags hflags
      rw [Option.mem_def] at hflags
      rw [Faithful, hflags] at hfaithful
      exact hfaithful.1
  | terminate => trivial

/-- Where the thread waits, the statuses describe the monitors. -/
structure Tracks (n : MonitorCount) (s : HotPlug) : Prop where
  idle : s.dEdid = true → (∀ i, s.status i = false) ∧
    ∀ i, i ≠ primaryIddIndex → s.registered i = false
  tracked : s.dEdid = false → ∀ i, s.registered i = s.status i
  beyond : ∀ i, n.val ≤ i.val → s.status i = false ∧ s.creation i = false
  created : ∀ i, s.status i = true → s.creation i = true
  shown : ∀ i, i.val < n.val → i ≠ 3 → s.screenPresent i = s.status i
  dispCount : s.dispCount = count s.status
  quiet : s.doSetEvent = false

variable {n : MonitorCount} {w : WakeAnswers} {s : HotPlug} {i : ScreenId}
  {flags : ScreenId → Bool}

theorem mem_connectors : i ∈ connectors n ↔ i.val < n.val := by
  simp [connectors]

theorem count_eq_zero {flag : ScreenId → Bool} (hclear : ∀ i, flag i = false) : count flag = 0 :=
  Finset.sum_eq_zero fun i _ => by rw [hclear i]; rfl

/-- Flags that imply others and are as many as they are the same. -/
theorem count_eq_iff {flag flag' : ScreenId → Bool} (himp : ∀ i, flag i = true → flag' i = true) :
    count flag = count flag' ↔ ∀ i, flag i = flag' i := by
  have hle : ∀ i ∈ Finset.univ, (flag i).toNat ≤ (flag' i).toNat := by
    intro i _
    cases hflag : flag i with
    | false => exact Nat.zero_le _
    | true => rw [himp i hflag]
  rw [count, count, Finset.sum_eq_sum_iff_of_le hle]
  constructor
  · intro heq i
    have hi := heq i (Finset.mem_univ i)
    cases h : flag i <;> cases h' : flag' i <;> simp_all
  · intro heq i _
    rw [heq i]

theorem tracks_enter (isWin11 : Bool) (answer : EdidAnswer) (creates : Bool)
    (hclear : ∀ i, i ≠ primaryIddIndex → s.registered i = false) :
    Tracks n (s.enter isWin11 answer creates) := by
  have hbeyond : ∀ i : ScreenId, n.val ≤ i.val → i ≠ primaryIddIndex := by
    rintro i hle rfl
    exact absurd n.pos (Nat.not_lt.mpr hle)
  have hothers : ∀ i, i ≠ primaryIddIndex →
      (s.enter isWin11 answer creates).registered i = false := by
    intro i hne
    rw [← hclear i hne]
    cases creates with
    | false => rfl
    | true => exact congrArg Option.isSome (Registry.put_slots_of_ne hne)
  constructor
  case idle => exact fun _ => ⟨fun i => rfl, hothers⟩
  case tracked => exact nofun
  case beyond => exact fun i hle => ⟨rfl, Function.update_of_ne (hbeyond i hle) ..⟩
  case created => exact nofun
  case shown => exact fun i _ _ => rfl
  case dispCount => exact (congrArg Nat.cast (count_eq_zero fun i => rfl)).symm
  case quiet => rfl

/-- A wake-up up to its query leaves the connectors but the first and the last alone, and the
list and the statuses agree afterwards. -/
structure Begins (n : MonitorCount) (s s' : HotPlug) : Prop where
  tracks : Tracks n s'
  dEdid : s'.dEdid = false
  minfo : s'.minfo = s.minfo
  published : s'.published = s.published
  dispCount : s'.dispCount = s.dispCount
  cleared : s'.screenPresent 3 = false

/-- Once the default monitor has departed, the thread is out of its idle state. -/
theorem Tracks.beginWake (htracks : Tracks n s) : Begins n s s.beginWake := by
  have hshown : ∀ i : ScreenId, i.val < n.val → i ≠ 3 →
      Function.update s.screenPresent 3 false i = s.status i := by
    intro i hlt hne
    rw [Function.update_of_ne hne]
    exact htracks.shown i hlt hne
  have hcleared : Function.update s.screenPresent 3 false 3 = false := Function.update_self ..
  unfold HotPlug.beginWake
  cases hdEdid : s.dEdid with
  | false =>
      have hidle : ¬ s.dEdid = true := by simp [hdEdid]
      exact ⟨⟨fun h => absurd h hidle, htracks.tracked, htracks.beyond, htracks.created, hshown,
        htracks.dispCount, htracks.quiet⟩, hdEdid, rfl, rfl, rfl, hcleared⟩
  | true =>
      obtain ⟨hstatus, hclear⟩ := htracks.idle hdEdid
      have hdeparted : ∀ i, (s.depart primaryIddIndex).registered i = s.status i := by
        intro i
        rw [hstatus i]
        by_cases heq : i = primaryIddIndex
        · subst heq
          exact congrArg Option.isSome (Registry.drop_slots_self ..)
        · exact (congrArg Option.isSome (Registry.drop_slots_of_ne heq)).trans (hclear i heq)
      exact ⟨⟨nofun, fun _ => hdeparted, htracks.beyond, htracks.created, hshown,
        htracks.dispCount, htracks.quiet⟩, rfl, rfl, rfl, rfl, hcleared⟩

theorem wakeUp_failed (hflags : w.hpd = none) :
    s.wakeUp n w = { s.beginWake with handled := true } := by
  rw [wakeUp, hflags]

/-- The loop of a wake-up, from a state that tracks its monitors. -/
theorem Tracks.servesAll (htracks : Tracks n s) (w : WakeAnswers) (flags : ScreenId → Bool) :
    ServesAll w (s.woken flags) (connectors n)
      ((connectors n).foldl (serve w) (s.woken flags)) := by
  have hbegins := htracks.beginWake
  exact foldl_serve w ((List.nodup_finRange _).filter _) fun i _ =>
    hbegins.tracks.tracked hbegins.dEdid i

/-- What a wake-up with an answer leaves, from a state that tracks its monitors. -/
structure Woken (n : MonitorCount) (w : WakeAnswers) (flags : ScreenId → Bool) (s s' : HotPlug) :
    Prop where
  dEdid : s'.dEdid = false
  screenPresent : s'.screenPresent = flags
  status : ∀ i ∈ connectors n, s'.status i = flags i
  beyond : ∀ i, i ∉ connectors n →
    s'.registered i = false ∧ s'.status i = false ∧ s'.creation i = false
  registered : ∀ i ∈ connectors n, (s'.registered i = true ↔
    flags i = true ∧ ((s.woken flags).Attempts w i → w.creates i = true))
  creation : ∀ i ∈ connectors n, flags i = true →
    (s'.creation i = true ↔ ((s.woken flags).Attempts w i → w.creates i = true))
  dispCount : s'.dispCount = count s'.status
  unchanged : ¬ s.Changes n w flags → s'.published = s.published ∧ s'.dispCount = s.dispCount
  changed : s.Changes n w flags → s'.published = s'.dispCount
  quiet : s'.doSetEvent = false

theorem Tracks.wakeUp_woken (htracks : Tracks n s) (hflags : w.hpd = some flags) :
    Woken n w flags s (s.wakeUp n w) := by
  have hall := htracks.servesAll w flags
  obtain ⟨hbegun, hdEdid, hminfo, hpublished, hdispCount, -⟩ := htracks.beginWake
  have hwake : s.wakeUp n w =
      { ((connectors n).foldl (serve w) (s.woken flags)).publish with handled := true } := by
    rw [wakeUp, hflags]
  have hstatus : (s.woken flags).status = s.status := by
    funext i
    exact congrArg (fun minfo => (minfo i).status) hminfo
  set served := (connectors n).foldl (serve w) (s.woken flags)
  have hcount : served.dispCount = count served.status := by
    have hloop := hall.dispCount
    have hbefore : (s.woken flags).dispCount = count (s.woken flags).status := hbegun.dispCount
    omega
  have hchanges : served.doSetEvent = true ↔ s.Changes n w flags := by
    rw [hall.doSetEvent, hstatus]
    exact or_iff_right (fun h => Bool.false_ne_true (hbegun.quiet.symm.trans h))
  rw [hwake]
  constructor
  case dEdid => exact hall.dEdid.trans hdEdid
  case screenPresent => exact hall.screenPresent
  case status => exact hall.status
  case beyond =>
    intro i hi
    obtain ⟨hregistered, hkept, -, hcreation⟩ := hall.others i hi
    obtain ⟨hoff, hnever⟩ := hbegun.beyond i (Nat.not_lt.mp fun hlt => hi (mem_connectors.mpr hlt))
    refine ⟨hregistered.trans ((hbegun.tracked hdEdid i).trans hoff), ?_, hcreation.trans hnever⟩
    exact (congrArg MonitorInfo.status hkept).trans hoff
  case registered => exact hall.registered
  case creation =>
    intro i hi hon
    show served.creation i = true ↔ _
    by_cases hattempts : (s.woken flags).Attempts w i
    · rw [hall.creation i hi hattempts]
      exact ⟨fun h _ => h, fun h => h hattempts⟩
    · have hkept : served.creation i = s.beginWake.creation i :=
        hall.creation_of_not i hi hattempts
      have hshown : s.beginWake.status i = true := by
        cases hoff : s.beginWake.status i with
        | false => exact absurd ⟨hon, .inl hoff⟩ hattempts
        | true => rfl
      rw [hkept, hbegun.created i hshown]
      exact ⟨fun _ h => absurd h hattempts, fun _ => rfl⟩
  case dispCount => exact hcount
  case unchanged =>
    intro hsame
    have hquiet : served.doSetEvent = false := by
      simpa using mt hchanges.mp hsame
    constructor
    · show (if served.doSetEvent then served.dispCount else served.published) = _
      rw [hquiet]
      exact hall.published.trans hpublished
    · have hstill : served.status = s.status := by
        funext i
        by_cases hi : i ∈ connectors n
        · rw [hall.status i hi]
          by_contra hne
          exact hsame ⟨i, hi, .inl fun h => hne h.symm⟩
        · rw [← hstatus]
          exact congrArg MonitorInfo.status (hall.others i hi).2.1
      show served.dispCount = _
      rw [hcount, hstill, ← htracks.dispCount]
  case changed =>
    intro hchanged
    show (if served.doSetEvent then served.dispCount else served.published) = _
    rw [hchanges.mpr hchanged]
    rfl
  case quiet => rfl

variable {s' : HotPlug}

/-- A monitor object is always one of a screen that is present. -/
theorem Woken.status_of_registered (hwoken : Woken n w flags s s')
    (hregistered : s'.registered i = true) : s'.status i = true := by
  by_cases hi : i ∈ connectors n
  · rw [hwoken.status i hi]
    exact ((hwoken.registered i hi).mp hregistered).1
  · rw [(hwoken.beyond i hi).1] at hregistered
    cases hregistered

/-- The monitors are as many as the statuses exactly if all could be created. -/
theorem Woken.count_eq_iff (hwoken : Woken n w flags s s') :
    count s'.registered = count s'.status ↔ s.CreatesAll n w flags := by
  rw [HotPlug.count_eq_iff fun i => hwoken.status_of_registered]
  constructor
  · intro heq i hi hattempts
    have hon : s'.registered i = true := (heq i).trans ((hwoken.status i hi).trans hattempts.1)
    exact ((hwoken.registered i hi).mp hon).2 hattempts
  · intro hcreates i
    by_cases hi : i ∈ connectors n
    · have hregistered := hwoken.registered i hi
      rw [and_iff_left (hcreates i hi)] at hregistered
      rw [hwoken.status i hi]
      exact Bool.eq_iff_iff.mpr hregistered
    · rw [(hwoken.beyond i hi).1, (hwoken.beyond i hi).2.1]

/-- Each monitor object belongs to a screen that is present and whose monitor could be
created, whatever could not be. -/
theorem Woken.registered_iff (hwoken : Woken n w flags s s') (i : ScreenId) :
    s'.registered i = true ↔ s'.screenPresent i = true ∧ s'.creation i = true := by
  rw [hwoken.screenPresent]
  by_cases hi : i ∈ connectors n
  · rw [hwoken.registered i hi]
    exact and_congr_right fun hon => (hwoken.creation i hi hon).symm
  · obtain ⟨hoff, -, hnever⟩ := hwoken.beyond i hi
    rw [hoff, hnever]
    simp

/-- What an answered wake-up leaves is consistent exactly if the wake-up was faithful. -/
theorem Woken.consistent_iff (hwoken : Woken n w flags s s') :
    Consistent s' ↔
      s.CreatesAll n w flags ∧ (s.published = s.dispCount ∨ s.Changes n w flags) := by
  have hcount := hwoken.dispCount
  constructor
  · intro hconsistent
    have hequal : count s'.registered = count s'.status := by
      have hregistered := hconsistent.dispCount
      omega
    refine ⟨hwoken.count_eq_iff.mp hequal, ?_⟩
    by_cases hchanged : s.Changes n w flags
    · exact .inr hchanged
    · obtain ⟨hpublished, hdispCount⟩ := hwoken.unchanged hchanged
      exact .inl (by rw [← hpublished, ← hdispCount, hconsistent.published, hconsistent.dispCount])
  · rintro ⟨hcreates, hpublishes⟩
    have hequal := hwoken.count_eq_iff.mpr hcreates
    refine ⟨hwoken.registered_iff, by rw [hcount, hequal], ?_⟩
    rw [hequal, ← hcount]
    by_cases hchanged : s.Changes n w flags
    · exact hwoken.changed hchanged
    · obtain ⟨hpublished, hdispCount⟩ := hwoken.unchanged hchanged
      rw [hpublished, hdispCount]
      exact hpublishes.resolve_right hchanged

/-- If all could be created, the thread tracks its monitors again. -/
theorem Woken.tracks (hwoken : Woken n w flags s s') (hcreates : s.CreatesAll n w flags) :
    Tracks n s' where
  idle h := absurd (hwoken.dEdid.symm.trans h) nofun
  tracked _ := (HotPlug.count_eq_iff fun _ => hwoken.status_of_registered).mp
    (hwoken.count_eq_iff.mpr hcreates)
  beyond i hle := (hwoken.beyond i fun hi => Nat.not_lt.mpr hle (mem_connectors.mp hi)).2
  created i hon := by
    by_cases hi : i ∈ connectors n
    · exact (hwoken.creation i hi ((hwoken.status i hi).symm.trans hon)).mpr (hcreates i hi)
    · rw [(hwoken.beyond i hi).2.1] at hon
      cases hon
  shown i hlt _ := by
    rw [hwoken.screenPresent, hwoken.status i (mem_connectors.mpr hlt)]
  dispCount := hwoken.dispCount
  quiet := hwoken.quiet

/-- A wake-up whose creations all succeed, or whose query fails. -/
theorem Tracks.wakeUp (htracks : Tracks n s)
    (hcreates : ∀ flags ∈ w.hpd, s.CreatesAll n w flags) : Tracks n (s.wakeUp n w) := by
  cases hflags : w.hpd with
  | none =>
      obtain ⟨hidle, htracked, hbeyond, hcreated, hshown, hdispCount, hquiet⟩ :=
        htracks.beginWake.tracks
      rw [wakeUp_failed hflags]
      exact ⟨hidle, htracked, hbeyond, hcreated, hshown, hdispCount, hquiet⟩
  | some flags => exact (htracks.wakeUp_woken hflags).tracks (hcreates flags hflags)

/-- Beside the default monitor's, the list and the statuses agree even before the first
wake-up. -/
theorem Tracks.registered_of_ne (htracks : Tracks n s) (hne : i ≠ primaryIddIndex) :
    s.registered i = s.status i := by
  cases hdEdid : s.dEdid with
  | false => exact htracks.tracked hdEdid i
  | true =>
      obtain ⟨hstatus, hclear⟩ := htracks.idle hdEdid
      rw [hstatus i, hclear i hne]

/-- What a wake-up with a failing query leaves is consistent exactly if the wake-up was
faithful: the flag it cleared was that of a connector without a monitor. -/
theorem Tracks.failed_consistent_iff (htracks : Tracks n s) (hflags : w.hpd = none) :
    Consistent (s.wakeUp n w) ↔ s.registered 3 = false ∧ s.published = s.dispCount := by
  obtain ⟨hbegun, hdEdid, hminfo, hpublished, hdispCount, hcleared⟩ := htracks.beginWake
  rw [wakeUp_failed hflags]
  set begun := s.beginWake
  have htracked := hbegun.tracked hdEdid
  have hlast : begun.registered 3 = s.registered 3 := by
    rw [htracked 3, htracks.registered_of_ne (by decide), status, hminfo]
  have hcount : begun.dispCount = count begun.registered := by
    rw [hbegun.dispCount, funext htracked]
  constructor
  · intro hconsistent
    constructor
    · rw [← hlast]
      have hshown : begun.registered 3 = true ↔ begun.screenPresent 3 = true ∧ _ :=
        hconsistent.registered 3
      rw [hcleared] at hshown
      exact Bool.eq_false_iff.mpr fun h => absurd (hshown.mp h).1 Bool.false_ne_true
    · have hboth : begun.published = count begun.registered := hconsistent.published
      rw [← hpublished, ← hdispCount, hboth, hcount]
  · rintro ⟨hempty, hequal⟩
    refine ⟨fun i => ?_, hcount, ?_⟩
    · show begun.registered i = true ↔ begun.screenPresent i = true ∧ begun.creation i = true
      by_cases hlt : i.val < n.val
      · by_cases heq : i = 3
        · rw [heq, hlast, hempty, hcleared]
          simp
        · rw [htracked i, hbegun.shown i hlt heq]
          exact ⟨fun h => ⟨h, hbegun.created i h⟩, fun h => h.1⟩
      · obtain ⟨hoff, hnever⟩ := hbegun.beyond i (Nat.not_lt.mp hlt)
        rw [htracked i, hoff, hnever]
        simp
    · show begun.published = count begun.registered
      rw [hpublished, hequal, ← hdispCount, hcount]

/-- Which wake-ups leave a consistent state. -/
theorem Tracks.consistent_iff (htracks : Tracks n s) (w : WakeAnswers) :
    Consistent (s.wakeUp n w) ↔ Faithful n s (.wakeUp w) := by
  cases hflags : w.hpd with
  | none =>
      rw [htracks.failed_consistent_iff hflags, Faithful, hflags]
  | some flags =>
      rw [(htracks.wakeUp_woken hflags).consistent_iff, Faithful, hflags]

/-- Where every wake-up creates what it tries to create, a waiting thread tracks its
monitors. -/
theorem Tracks.step {label : Label} {after : HotPlug} (hcreating : s.Creating n label)
    (htracks : s.running = true → Tracks n s) (hstep : (system n).step s label = some after) :
    after.running = true → Tracks n after := by
  intro hrunning
  cases step_spec hstep with
  | entered => exact tracks_enter _ _ _ hcreating
  | woke hbefore => exact (htracks hbefore).wakeUp hcreating
  | terminated => cases hrunning

theorem tracks_of_reachUnder (hreach : (system n).ReachUnder (Creating n) start s) :
    s.running = true → Tracks n s := by
  apply hreach.invariant (I := fun s => s.running = true → Tracks n s)
  · exact nofun
  · exact fun _ _ _ hinv hok hstep => Tracks.step hok hinv hstep

/-- A move keeps a consistent state consistent, and a faithful wake-up establishes it. -/
theorem Consistent.step {label : Label} {after : HotPlug} (hfaithful : s.Faithful n label)
    (htracks : s.running = true → Tracks n s) (hstep : (system n).step s label = some after) :
    after.handled = true → Consistent after := by
  intro hhandled
  cases step_spec hstep with
  | entered => cases hhandled
  | woke hbefore => exact ((htracks hbefore).consistent_iff _).mpr hfaithful
  | terminated => cases hhandled

/-- If all moves are faithful, the monitors and both counts are right after each wake-up. And
as long as all monitors can be created, a wake-up leaves them right exactly if it is
faithful. -/
theorem handled_consistent (n : MonitorCount) (s : HotPlug) :
    ((system n).ReachUnder (Faithful n) start s → s.handled = true → Consistent s) ∧
      ((system n).ReachUnder (Creating n) start s → s.running = true →
        ∀ w, Consistent (s.wakeUp n w) ↔ Faithful n s (.wakeUp w)) := by
  constructor
  · intro hreach
    have hinv : (s.running = true → Tracks n s) ∧ (s.handled = true → Consistent s) := by
      apply hreach.invariant
        (I := fun s => (s.running = true → Tracks n s) ∧ (s.handled = true → Consistent s))
      · exact ⟨nofun, nofun⟩
      · intro before label after ⟨htracks, _⟩ hfaithful hstep
        exact ⟨Tracks.step hfaithful.creating htracks hstep,
          Consistent.step hfaithful htracks hstep⟩
    exact hinv.2
  · exact fun hreach hrunning w => (tracks_of_reachUnder hreach hrunning).consistent_iff w

/-- Four monitors. -/
def fourMonitors : MonitorCount := ⟨4, by decide, by decide⟩

/-- An answered wake-up with these screens, whose monitors can be created. -/
def shows (flags : ScreenId → Bool) : WakeAnswers := ⟨some flags, fun _ => .noHandle, fun _ => true⟩

/-- A thread starts and can create its default monitor. -/
abbrev announces : Label := .enter false .noHandle true

/-- A thread that announced its default monitor. -/
def announced : HotPlug := start.enter false .noHandle true

theorem reach_announced {ok : HotPlug → Label → Prop} (n : MonitorCount)
    (hok : ok start announces) :
    (system n).ReachUnder ok start announced := by
  have hstep : (system n).step start announces = some announced := rfl
  exact .next .refl hok hstep

theorem handled_consistent_first_screen :
    Consistent (announced.wakeUp fourMonitors (shows fun i => i = 0)) ∧
      ¬ Consistent (announced.wakeUp fourMonitors (shows fun _ => false)) := by
  constructor
  · have hfaithful : Faithful fourMonitors announced (.wakeUp (shows fun i => i = 0)) :=
      ⟨fun _ _ _ => rfl, .inr ⟨0, by decide, .inl (by decide)⟩⟩
    have hreach : (system fourMonitors).ReachUnder (Faithful fourMonitors) start announced :=
      reach_announced fourMonitors fun _ _ => rfl
    exact (handled_consistent fourMonitors _).1 (.next hreach hfaithful rfl) rfl
  · have hreach : (system fourMonitors).ReachUnder (Creating fourMonitors) start announced :=
      reach_announced fourMonitors fun _ _ => rfl
    rw [(handled_consistent fourMonitors announced).2 hreach rfl]
    rintro ⟨-, hequal | ⟨i, -, hdiffers | hattempts⟩⟩
    · exact absurd hequal (by decide)
    · exact hdiffers rfl
    · exact absurd hattempts.1 nofun

/-- If the first wake-up finds no screen, the count of the default monitor stays published. -/
theorem not_handled_consistent :
    ∃ n s, (system n).Reach start s ∧ s.handled = true ∧ ¬ Consistent s := by
  have hstep : (system fourMonitors).step announced (.wakeUp (shows fun _ => false)) =
      some (announced.wakeUp fourMonitors (shows fun _ => false)) := rfl
  refine ⟨fourMonitors, _, .next (reach_announced fourMonitors trivial) trivial hstep, rfl, ?_⟩
  intro hconsistent
  exact absurd hconsistent.published (by decide)

end HotPlug

end VirtDisplay
