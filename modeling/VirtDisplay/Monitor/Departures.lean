/-
# Every monitor departs once

A monitor object that the thread created should depart once: when its screen goes, when
it is replaced for a new EDID, when it is the default monitor and the first wake-up comes,
or when the thread ends. Each of these four places looks at something else to decide
whether there is an object: the wake-up for the default monitor at nothing, the one for a
new EDID at the recorded status, the last loop at the flags of the last query.

Who looks at the list itself would never be wrong. So the guard says that where one of
the others is looked at, it says of the connector what the list says.
-/

import VirtDisplay.Monitor.Census

namespace VirtDisplay

open Transition

namespace HotPlug

/-- No call let a monitor depart that was not created or had departed, and when the thread
has returned, each monitor departed once. -/
structure Departed (s : HotPlug) : Prop where
  live : ∀ departure ∈ s.monitorObjects.ended, departure.live = true
  once : s.running = false → ∀ k < s.monitorObjects.created,
    (s.monitorObjects.ended.map Registry.Ending.object).count (some k) = 1

/-- The default monitor was created if it is still to depart. Where a wake-up creates a
monitor, the status of its connector says whether there is one already. When the thread
ends, the flags say which connectors have one. -/
def Paired (n : MonitorCount) (s : HotPlug) : Label → Prop
  | .enter _ _ _ => True
  | .wakeUp w => (s.dEdid = true → s.registered primaryIddIndex = true) ∧
      ∀ flags ∈ w.hpd, ∀ i ∈ connectors n, (s.woken flags).Attempts w i →
        (s.woken flags).registered i = s.status i
  | .terminate => ∀ i, s.registered i = s.screenPresent i

variable {n : MonitorCount} {w : WakeAnswers} {s : HotPlug} {i j : ScreenId}

theorem registered_depart_of_ne (hne : j ≠ i) : (s.depart i).registered j = s.registered j :=
  congrArg Option.isSome (Registry.drop_slots_of_ne hne)

theorem registered_finishInit_of_ne (creates : Bool) (hne : j ≠ i) :
    (s.finishInit creates i).registered j = s.registered j := by
  cases creates with
  | false => rfl
  | true => exact congrArg Option.isSome (Registry.put_slots_of_ne hne)

/-- A monitor is created where there is none. -/
theorem owned_finishInit (creates : Bool) (howned : s.monitorObjects.Owned)
    (hempty : s.registered i = false) : (s.finishInit creates i).monitorObjects.Owned := by
  cases creates with
  | false => exact howned
  | true => exact howned.put (by simpa using hempty)

/-- What a round leaves alone, whatever it finds. -/
structure Keeps (i : ScreenId) (s s' : HotPlug) : Prop where
  screenPresent : s'.screenPresent = s.screenPresent
  dEdid : s'.dEdid = s.dEdid
  running : s'.running = s.running
  others : ∀ j, j ≠ i → s'.registered j = s.registered j ∧ s'.minfo j = s.minfo j ∧
    s'.monitors j = s.monitors j

theorem keeps_serve (w : WakeAnswers) (s : HotPlug) (i : ScreenId) : Keeps i s (serve w s i) := by
  have hupdate : ∀ {Value : Type} (f : ScreenId → Value) (value : Value) (j : ScreenId), j ≠ i →
      Function.update f i value j = f j := fun f value j hne => Function.update_of_ne hne ..
  unfold serve
  split
  next =>
    split
    next =>
      exact ⟨rfl, rfl, rfl, fun j hne => ⟨registered_depart_of_ne hne, hupdate _ _ j hne, rfl⟩⟩
    next =>
      exact ⟨rfl, rfl, rfl, fun j hne =>
        ⟨registered_finishInit_of_ne _ hne, hupdate _ _ j hne, hupdate _ _ j hne⟩⟩
  next =>
    split
    next =>
      dsimp only
      split
      next =>
        refine ⟨rfl, rfl, rfl, fun j hne => ⟨?_, hupdate _ _ j hne, hupdate _ _ j hne⟩⟩
        exact (registered_finishInit_of_ne _ hne).trans (registered_depart_of_ne hne)
      next => exact ⟨rfl, rfl, rfl, fun j hne => ⟨rfl, rfl, hupdate _ _ j hne⟩⟩
    next => exact ⟨rfl, rfl, rfl, fun j _ => ⟨rfl, rfl, rfl⟩⟩

/-- A round that creates a monitor only where the status is right about the list. -/
theorem owned_serve (howned : s.monitorObjects.Owned)
    (hpaired : s.Attempts w i → s.registered i = s.status i) :
    (serve w s i).monitorObjects.Owned := by
  unfold serve
  split
  next hdiffers =>
    split
    next hgone => exact howned.drop hgone.2
    next hstays =>
      apply owned_finishInit _ howned
      cases hpresent : s.screenPresent i with
      | false => exact Bool.eq_false_iff.mpr fun hregistered => hstays ⟨hpresent, hregistered⟩
      | true =>
          have hoff : s.status i = false := by
            rw [hpresent] at hdiffers
            exact Bool.eq_false_iff.mpr hdiffers
          exact (hpaired ⟨hpresent, .inl hoff⟩).trans hoff
  next hsame =>
    split
    next hpresent =>
      have hon : s.status i = true := (not_not.mp hsame).trans hpresent
      have hfilled : ((s.queryEdid w i).monitors i).edidBlock =
          (queried (s.monitors i) s.dEdid (w.edid i)).edidBlock := by
        simp [queryEdid]
      dsimp only
      split
      next hchanged =>
        have hfull : s.registered i = true :=
          (hpaired ⟨hpresent, .inr fun h => hchanged (h.trans hfilled.symm)⟩).trans hon
        apply owned_finishInit _ (howned.drop hfull)
        exact congrArg Option.isSome (Registry.drop_slots_self ..)
      next => exact howned
    next => exact howned

/-- The loop over the screens keeps the monitor objects owned. -/
theorem owned_foldl_serve {todo : List ScreenId} (hnodup : todo.Nodup)
    (howned : s.monitorObjects.Owned)
    (hpaired : ∀ i ∈ todo, s.Attempts w i → s.registered i = s.status i) :
    (todo.foldl (serve w) s).monitorObjects.Owned := by
  induction todo generalizing s with
  | nil => exact howned
  | cons i todo ih =>
      obtain ⟨hi, hnodup⟩ := List.nodup_cons.mp hnodup
      apply ih hnodup (owned_serve howned (hpaired i List.mem_cons_self))
      intro j hj
      have hne : j ≠ i := fun heq => hi (heq ▸ hj)
      obtain ⟨hscreen, hdEdid, -, hothers⟩ := keeps_serve w s i
      obtain ⟨hregistered, hminfo, hmonitors⟩ := hothers j hne
      rw [Attempts, hscreen, hminfo, hmonitors, hdEdid, hregistered, status, hminfo]
      exact hpaired j (List.mem_cons_of_mem _ hj)

theorem running_foldl_serve (w : WakeAnswers) (todo : List ScreenId) (s : HotPlug) :
    (todo.foldl (serve w) s).running = s.running := by
  induction todo generalizing s with
  | nil => rfl
  | cons i todo ih => exact (ih _).trans (keeps_serve w s i).running

/-- A paired wake-up. -/
theorem owned_wakeUp (howned : s.monitorObjects.Owned) (hpaired : s.Paired n (.wakeUp w)) :
    (s.wakeUp n w).monitorObjects.Owned := by
  obtain ⟨hdefault, hpaired⟩ := hpaired
  have hbegun : s.beginWake.monitorObjects.Owned := by
    unfold beginWake
    cases hdEdid : s.dEdid with
    | false => exact howned
    | true => exact howned.drop (hdefault hdEdid)
  have hminfo : s.beginWake.minfo = s.minfo := by
    unfold beginWake
    split <;> rfl
  cases hflags : w.hpd with
  | none =>
      rw [wakeUp_failed hflags]
      exact hbegun
  | some flags =>
      rw [wakeUp, hflags]
      have hwoken : (s.woken flags).monitorObjects.Owned := hbegun
      have hloop : ((connectors n).foldl (serve w) (s.woken flags)).monitorObjects.Owned := by
        apply owned_foldl_serve ((List.nodup_finRange _).filter _) hwoken
        intro i hi hattempts
        rw [hpaired flags hflags i hi hattempts]
        exact congrArg (fun minfo => (minfo i).status) hminfo.symm
      exact hloop

theorem running_wakeUp (n : MonitorCount) (w : WakeAnswers) (s : HotPlug) :
    (s.wakeUp n w).running = s.running := by
  have hbegun : s.beginWake.running = s.running := by
    unfold beginWake
    split <;> rfl
  cases hflags : w.hpd with
  | none =>
      rw [wakeUp_failed hflags]
      exact hbegun
  | some flags =>
      rw [wakeUp, hflags]
      exact (running_foldl_serve w (connectors n) _).trans hbegun

/-- The last loop lets the monitors of the flags depart, and no other one is left. -/
theorem foldl_sweep {todo : List ScreenId} (hnodup : todo.Nodup) (howned : s.monitorObjects.Owned)
    (hpaired : ∀ i ∈ todo, s.registered i = s.screenPresent i)
    (hempty : ∀ i, i ∉ todo → s.registered i = false) :
    (todo.foldl sweep s).monitorObjects.Owned ∧
      ∀ i, (todo.foldl sweep s).registered i = false := by
  induction todo generalizing s with
  | nil => exact ⟨howned, fun i => hempty i List.not_mem_nil⟩
  | cons i todo ih =>
      obtain ⟨hi, hnodup⟩ := List.nodup_cons.mp hnodup
      have hself := hpaired i List.mem_cons_self
      rw [List.foldl_cons]
      unfold sweep
      split
      next hpresent =>
        apply ih hnodup
        · exact howned.drop (hself.trans hpresent)
        · intro j hj
          have hne : j ≠ i := fun heq => hi (heq ▸ hj)
          exact (registered_depart_of_ne hne).trans (hpaired j (List.mem_cons_of_mem _ hj))
        · intro j hj
          by_cases heq : j = i
          · subst heq
            exact congrArg Option.isSome (Registry.drop_slots_self ..)
          · refine (registered_depart_of_ne heq).trans (hempty j ?_)
            exact List.not_mem_cons_of_ne_of_not_mem heq hj
      next habsent =>
        apply ih hnodup howned
        · exact fun j hj => hpaired j (List.mem_cons_of_mem _ hj)
        · intro j hj
          by_cases heq : j = i
          · subst heq
            exact hself.trans (Bool.eq_false_iff.mpr habsent)
          · exact hempty j (List.not_mem_cons_of_ne_of_not_mem heq hj)

/-- The list is in order, and empty between two lives of the thread. -/
structure InOrder (s : HotPlug) : Prop where
  owned : s.monitorObjects.Owned
  empty : s.running = false → ∀ i, s.registered i = false

theorem inOrder_start : InOrder start := ⟨Registry.owned_empty, fun _ _ => rfl⟩

/-- One move keeps the list in order. -/
theorem InOrder.step {label : Label} {after : HotPlug} (hinorder : InOrder s)
    (hpaired : s.Paired n label) (hstep : (system n).step s label = some after) :
    InOrder after := by
  cases step_spec hstep with
  | @entered isWin11 creates answer hstopped =>
      have hempty := hinorder.empty hstopped
      constructor
      · cases creates with
        | false => exact hinorder.owned
        | true => exact hinorder.owned.put (by simpa using hempty primaryIddIndex)
      · intro hstopped
        cases hstopped
  | woke hrunning =>
      refine ⟨owned_wakeUp hinorder.owned hpaired, fun hstopped => ?_⟩
      rw [running_wakeUp, hrunning] at hstopped
      cases hstopped
  | terminated =>
      obtain ⟨howned, hempty⟩ := foldl_sweep (List.nodup_finRange maxScanOut) hinorder.owned
        (fun i _ => hpaired i) fun i hi => absurd (List.mem_finRange i) hi
      exact ⟨howned, fun _ => hempty⟩

/-- In an orderly list every departure was of a monitor, and none is missing at the end. -/
theorem InOrder.departed (hinorder : InOrder s) : Departed s where
  live := hinorder.owned.live
  once hstopped _ hlt :=
    hinorder.owned.ended_once (fun i => by simpa using hinorder.empty hstopped i) hlt

/-- If the status, the flags and the default monitor are right about the list wherever they
decide, monitors depart as they should in every state reached. -/
theorem departed_of_reachUnder {n : MonitorCount} {s : HotPlug}
    (hreach : (system n).ReachUnder (Paired n) start s) : Departed s := by
  have hinorder : InOrder s := by
    apply hreach.invariant inOrder_start
    exact fun _ _ _ hinv hpaired hstep => hinv.step hpaired hstep
  exact hinorder.departed

theorem departed_of_reachUnder_first_screen :
    Departed ((announced.wakeUp fourMonitors (shows fun i => i = 0)).terminate) := by
  set shown := announced.wakeUp fourMonitors (shows fun i => i = 0)
  have hwake : Paired fourMonitors announced (.wakeUp (shows fun i => i = 0)) := by
    refine ⟨fun _ => by decide, fun flags hflags i _ _ => ?_⟩
    obtain rfl := Option.some.inj hflags
    have hall : ∀ i, (announced.woken fun i => i = 0).registered i = announced.status i := by decide
    exact hall i
  have hend : Paired fourMonitors shown .terminate := by
    have hall : ∀ i, shown.registered i = shown.screenPresent i := by decide
    exact hall
  have hwoken : (system fourMonitors).step announced (.wakeUp (shows fun i => i = 0)) =
      some shown := rfl
  have hended : (system fourMonitors).step shown .terminate = some shown.terminate := rfl
  have hreach : (system fourMonitors).ReachUnder (Paired fourMonitors) start announced :=
    reach_announced fourMonitors trivial
  exact departed_of_reachUnder (.next (.next hreach hwake hwoken) hend hended)

/-- A thread that ends before its first wake-up never lets its default monitor depart. -/
theorem not_departed : ∃ n s, (system n).Reach start s ∧ ¬ Departed s := by
  have hended : (system fourMonitors).step announced .terminate = some announced.terminate := rfl
  refine ⟨fourMonitors, _, .next (reach_announced fourMonitors trivial) trivial hended, ?_⟩
  intro hdeparted
  exact absurd (hdeparted.once rfl 0 (by decide)) (by decide)

end HotPlug

end VirtDisplay
