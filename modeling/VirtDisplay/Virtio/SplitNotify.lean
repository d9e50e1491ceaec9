/-
# Notifications of a split ring

The driver rings for requests that it has made visible, the device for used elements, and
either side may ask the other not to, by its flag or, where the two have agreed on it, by an
event index. Both directions are the same doorbell. So a device that has gone to sleep is
notified of any request it has not taken, once the driver has kicked, and a driver that waits
for an interrupt gets one for any answer it has not fetched.

`virtqueue_enable_cb_delayed` is different. It compares a difference of two 16-bit counters
that it does not reduce to 16 bits again, so when the used index has wrapped, the driver waits
for an interrupt that the device has no reason to send.
-/

import VirtDisplay.Foundation.Doorbell
import VirtDisplay.Virtio.SplitRing

namespace VirtDisplay.Virtio.SplitRing

open Transition

variable {Token : Type*}

/-- `vring_need_event` -/
def vringNeedEvent (event new old : Nat) : Bool :=
  ((new : Int) - event - 1) % 2 ^ 16 < ((new : Int) - old) % 2 ^ 16

namespace VirtqueueSplit

variable (vq : VirtqueueSplit Token)

/-- `virtqueue_kick_prepare_split` -/
def virtqueueKickPrepareSplit : Bool × VirtqueueSplit Token :=
  let wrapAround := decide (2 ^ 16 ≤ vq.numAddedSinceKick)
  let old := u16 (vq.masterIdx + 2 ^ 32 - vq.numAddedSinceKick)
  let new := vq.masterIdx
  let vq := { vq with numAddedSinceKick := 0 }
  if vq.eventSuppression then (wrapAround || vringNeedEvent vq.vring.availEvent new old, vq)
  else (!vq.vring.usedNoNotify, vq)

/-- `virtqueue_kick_always_split` -/
def virtqueueKickAlwaysSplit : Bool × VirtqueueSplit Token :=
  (true, { vq with numAddedSinceKick := 0 })

/-- The flag is cleared, in memory only if the device looks at it there. -/
def allowInterrupts : VirtqueueSplit Token :=
  if vq.virtqueueIsInterruptEnabledSplit then vq
  else
    let vq := { vq with masterNoInterrupt := false }
    if vq.eventSuppression then vq else { vq with vring.availNoInterrupt := vq.masterNoInterrupt }

/-- `virtqueue_enable_cb_split` before its memory barrier. -/
def announceNext : VirtqueueSplit Token :=
  let vq := vq.allowInterrupts
  { vq with vring.usedEvent := vq.lastUsed }

/-- `virtqueue_enable_cb_split` -/
def virtqueueEnableCbSplit : Bool × VirtqueueSplit Token :=
  let vq := vq.announceNext
  (vq.lastUsed == vq.vring.usedIdx, vq)

/-- `virtqueue_disable_cb_split` -/
def virtqueueDisableCbSplit : VirtqueueSplit Token :=
  if vq.virtqueueIsInterruptEnabledSplit then
    let vq := { vq with masterNoInterrupt := true }
    if vq.eventSuppression then vq else { vq with vring.availNoInterrupt := vq.masterNoInterrupt }
  else vq

/-- Three quarters of the buffers that are with the device. -/
def delayBufs : Nat := u16 (u16 (vq.masterIdx + 2 ^ 16 - vq.lastUsed) * 3 / 4)

/-- `virtqueue_enable_cb_delayed_split`; the difference that it compares is an `int`. -/
def virtqueueEnableCbDelayedSplit : Bool × VirtqueueSplit Token :=
  let vq := vq.allowInterrupts
  let bufs := vq.delayBufs
  let vq := { vq with vring.usedEvent := u16 (vq.lastUsed + bufs) }
  ((vq.vring.usedIdx : Int) - vq.lastUsed ≤ bufs, vq)

end VirtqueueSplit

/-- A queue that was just set up. -/
theorem new_fields {num : Nat} {tables : Nat → Nat → VringDesc} {suppress : Bool}
    {vq : VirtqueueSplit Token}
    (hnew : vringNewVirtqueueSplit (zeroPages num tables) suppress = some (some vq)) :
    vq.vring.num = num ∧ vq.eventSuppression = suppress ∧ vq.vring.availIdx = 0 ∧
      vq.masterIdx = 0 ∧ vq.numAddedSinceKick = 0 ∧ vq.lastUsed = 0 ∧ vq.vring.usedIdx = 0 ∧
      vq.masterNoInterrupt = false ∧ vq.vring.availNoInterrupt = false ∧
      vq.vring.usedEvent = 0 := by
  unfold vringNewVirtqueueSplit at hnew
  split at hnew
  next => cases hnew
  next =>
    rw [Option.ite_none_left_eq_some] at hnew
    obtain ⟨-, ⟨⟩⟩ := hnew
    exact ⟨rfl, rfl, rfl, rfl, rfl, rfl, rfl, rfl, rfl, rfl⟩

/-- A driver that kicks and a device that sleeps. -/
structure Kicks (Token : Type*) where
  vq : VirtqueueSplit Token
  lastAvail : Nat
  asleep : Bool
  notified : Bool

namespace Kicks

/-- What can happen. -/
inductive Step
  | publish
  /-- `virtqueue_kick` -/
  | kick
  | kickAlways
  | take
  /-- A device that is awake writes the index it wants to be notified for, and its flag. -/
  | announce (event : Nat) (mute : Bool)
  | sleep
  | wake

section

variable (s : Kicks Token)

/-- How many requests the device has not taken. -/
def pending : Nat := (s.vq.vring.availIdx + 2 ^ 16 - s.lastAvail) % 2 ^ 16

/-- The device has said that it wants to be notified of the next request. -/
def armed : Bool :=
  if s.vq.eventSuppression then s.vq.vring.availEvent == s.lastAvail
  else !s.vq.vring.usedNoNotify

/-- One step. Requests are only made visible as long as the ring has room for them, and the
driver kicks before it has added so many that its count of them starts anew. -/
def step : Step → Option (Kicks Token)
  | .publish =>
      if s.pending < s.vq.vring.num ∧ s.vq.numAddedSinceKick + 1 < 2 ^ 32 then
        some { s with vq := s.vq.publish }
      else none
  | .kick =>
      let (notify, vq) := s.vq.virtqueueKickPrepareSplit
      some { s with vq := vq, notified := s.notified || notify }
  | .kickAlways =>
      let (notify, vq) := s.vq.virtqueueKickAlwaysSplit
      some { s with vq := vq, notified := s.notified || notify }
  | .take =>
      if ¬ s.asleep ∧ s.lastAvail ≠ s.vq.vring.availIdx then
        some { s with lastAvail := u16 (s.lastAvail + 1) }
      else none
  | .announce event mute =>
      if ¬ s.asleep then
        some { s with vq.vring.availEvent := event, vq.vring.usedNoNotify := mute }
      else none
  | .sleep =>
      if ¬ s.asleep ∧ s.armed ∧ s.lastAvail = s.vq.vring.availIdx then
        some { s with asleep := true }
      else none
  | .wake => if s.notified then some { s with asleep := false, notified := false } else none

end

/-- Both sides as a system. -/
def system : System (Kicks Token) Step := ⟨step⟩

/-- A queue that was just set up. -/
def start (vq : VirtqueueSplit Token) : Kicks Token := ⟨vq, 0, false, false⟩

/-- The driver makes, the device sees. -/
def doorbell (s : Kicks Token) : Doorbell (Nat × Bool) where
  made := s.vq.vring.availIdx
  fresh := s.vq.numAddedSinceKick
  seen := s.lastAvail
  note := (s.vq.vring.availEvent, s.vq.vring.usedNoNotify)
  asleep := if s.asleep then some 0 else none
  rung := s.notified

/-- What a step is to the doorbell. -/
inductive Shows : Step → List (Doorbell.Label (Nat × Bool)) → Prop
  | publish : Shows .publish [.make 1]
  | kick : Shows .kick [.look false]
  | kickAlways : Shows .kickAlways [.look true]
  | take : Shows .take [.see 1]
  | announce (event : Nat) (mute : Bool) : Shows (.announce event mute) [.announce (event, mute)]
  | sleep : Shows .sleep [.doze 0]
  | wake : Shows .wake [.wake]

/-- The counters are where the doorbell has them. -/
structure Follows (num : Nat) (indexed : Bool) (s : Kicks Token) (d : Doorbell (Nat × Bool)) :
    Prop where
  doorbell : d = s.doorbell
  sized : s.vq.vring.num = num
  indexed : s.vq.eventSuppression = indexed
  master : s.vq.masterIdx = s.vq.vring.availIdx
  made_lt : s.vq.vring.availIdx < 2 ^ 16
  seen_lt : s.lastAvail < 2 ^ 16
  fresh_lt : s.vq.numAddedSinceKick < 2 ^ 32

variable {num : Nat} {indexed : Bool} {s : Kicks Token} {d : Doorbell (Nat × Bool)}

/-- The two ways of counting back agree in sixteen bits. -/
theorem vringNeedEvent_eq (event new fresh : Nat) (hfresh : fresh < 2 ^ 32) :
    vringNeedEvent event new (u16 (new + 2 ^ 32 - fresh)) =
      Doorbell.needEvent (2 ^ 16 : Nat) event new (new - fresh) := by
  have hold : ((new : Int) - (u16 (new + 2 ^ 32 - fresh) : Nat)) % 2 ^ 16 =
      ((new : Int) - (new - fresh)) % 2 ^ 16 := by
    have hle : fresh ≤ new + 2 ^ 32 := by omega
    rw [u16]
    push_cast [hle]
    omega
  rw [vringNeedEvent, Doorbell.needEvent, hold]
  norm_cast

/-- The driver decides as the doorbell does. -/
theorem kickPrepare_eq (h : Follows num indexed s d) :
    s.vq.virtqueueKickPrepareSplit =
      ((Doorbell.indexScheme (2 ^ 16) num indexed).rings d.made d.fresh d.note,
        { s.vq with numAddedSinceKick := 0 }) := by
  obtain ⟨rfl, -, rfl, hmaster, -, -, hfresh⟩ := h
  unfold VirtqueueSplit.virtqueueKickPrepareSplit Doorbell.indexScheme
  dsimp only
  rw [hmaster, vringNeedEvent_eq _ _ _ hfresh]
  cases s.vq.eventSuppression with
  | false => rfl
  | true => rfl

theorem simulates : (system : System (Kicks Token) Step).Simulates (fun _ _ => True)
    (Doorbell.system (Doorbell.indexScheme (2 ^ 16) num indexed)) Shows (Follows num indexed) where
  step := by
    rintro s label s' d h - hstep
    obtain ⟨rfl, hsized, hindexed, hmaster, hmade, hseen, hfresh⟩ := id h
    cases label with
    | publish =>
        obtain ⟨⟨hroom, hcount⟩, ⟨⟩⟩ := Option.ite_none_right_eq_some.mp hstep
        refine ⟨_, _, .publish, Doorbell.run_make (hsized ▸ hroom), ?_, hsized, hindexed, rfl,
          Nat.mod_lt _ (Nat.two_pow_pos 16), hseen, Nat.mod_lt _ (Nat.two_pow_pos 32)⟩
        show Doorbell.mk _ _ _ _ _ _ =
          Doorbell.mk (u16 (s.vq.masterIdx + 1)) ((s.vq.numAddedSinceKick + 1) % 2 ^ 32) _ _ _ _
        rw [hmaster, Nat.mod_eq_of_lt hcount]
        rfl
    | kick =>
        have hafter : s' = { s with
            vq := s.vq.virtqueueKickPrepareSplit.2
            notified := s.notified || s.vq.virtqueueKickPrepareSplit.1 } :=
          (Option.some.inj hstep).symm
        rw [kickPrepare_eq h] at hafter
        subst hafter
        refine ⟨_, _, .kick, Doorbell.run_look false, ?_, hsized, hindexed, hmaster, hmade, hseen,
          Nat.two_pow_pos 32⟩
        show Doorbell.mk _ _ _ _ _ _ = Doorbell.mk _ _ _ _ _ _
        rw [Bool.or_false]
        rfl
    | kickAlways =>
        obtain rfl := Option.some.inj hstep
        refine ⟨_, _, .kickAlways, Doorbell.run_look true, ?_, hsized, hindexed, hmaster, hmade,
          hseen, Nat.two_pow_pos 32⟩
        show Doorbell.mk _ _ _ _ _ _ = Doorbell.mk _ _ _ _ _ (_ || true)
        rw [Bool.or_true, Bool.true_or, Bool.or_true]
        rfl
    | take =>
        obtain ⟨⟨hawake, hne⟩, ⟨⟩⟩ := Option.ite_none_right_eq_some.mp hstep
        have hpending := Doorbell.pending_pos (d := s.doorbell) hseen hmade hne
        exact ⟨_, _, .take, Doorbell.run_see (if_neg hawake) hpending, rfl, hsized, hindexed,
          hmaster, hmade, Nat.mod_lt _ (Nat.two_pow_pos 16), hfresh⟩
    | announce event mute =>
        obtain ⟨hawake, ⟨⟩⟩ := Option.ite_none_right_eq_some.mp hstep
        exact ⟨_, _, .announce event mute, Doorbell.run_announce (event, mute) (if_neg hawake), rfl,
          hsized, hindexed, hmaster, hmade, hseen, hfresh⟩
    | sleep =>
        obtain ⟨⟨hawake, harmed, heq⟩, ⟨⟩⟩ := Option.ite_none_right_eq_some.mp hstep
        refine ⟨_, _, .sleep, Doorbell.run_doze (if_neg hawake) ?_ ?_, ?_, hsized, hindexed,
          hmaster, hmade, hseen, hfresh⟩
        · unfold armed at harmed
          rw [hindexed] at harmed
          show (if indexed then s.vq.vring.availEvent == s.lastAvail % 2 ^ 16
            else !s.vq.vring.usedNoNotify) = true
          rwa [Nat.mod_eq_of_lt hseen]
        · show (s.vq.vring.availIdx + 2 ^ 16 - s.lastAvail) % 2 ^ 16 ≤ 0
          rw [heq, Nat.add_sub_cancel_left, Nat.mod_self]
        · rfl
    | wake =>
        obtain ⟨hrung, ⟨⟩⟩ := Option.ite_none_right_eq_some.mp hstep
        exact ⟨_, _, .wake, Doorbell.run_wake hrung, rfl, hsized, hindexed, hmaster, hmade, hseen,
          hfresh⟩

/-- A device that has gone to sleep is notified of every request that is visible to it, as soon
as the driver has kicked: in either mode, whatever order the two have taken their steps in. -/
theorem notified_of_kicked {tables : Nat → Nat → VringDesc} {suppress : Bool}
    {vq : VirtqueueSplit Token}
    (hnew : vringNewVirtqueueSplit (zeroPages num tables) suppress = some (some vq))
    (hsize : num < 2 ^ 16) (hreach : system.Reach (start vq) s)
    (hasleep : s.asleep = true) (hmore : s.lastAvail ≠ s.vq.vring.availIdx)
    (hkicked : s.vq.numAddedSinceKick = 0) : s.notified = true := by
  obtain ⟨hnum, hsuppress, hidx, hmaster, hadded, -⟩ := new_fields hnew
  have hfollows : Follows num suppress (start vq) ((start vq).doorbell) :=
    ⟨rfl, hnum, hsuppress, hmaster.trans hidx.symm, hidx.trans_lt (Nat.two_pow_pos 16),
      Nat.two_pow_pos 16, hadded ▸ Nat.two_pow_pos 32⟩
  have hkept : Doorbell.Kept (Doorbell.indexScheme (2 ^ 16) num suppress) (start vq).doorbell := by
    have hdoorbell : (start vq).doorbell =
        ⟨0, 0, 0, (vq.vring.availEvent, vq.vring.usedNoNotify), none, false⟩ := by
      rw [doorbell, start, hidx, hadded]
      rfl
    rw [hdoorbell]
    exact .init (Nat.two_pow_pos 16) _
  obtain ⟨_, hdoorbell, rfl, -, -, -, hmade, hseen, -⟩ := simulates.reach hfollows hreach
  have hwaits : s.doorbell.asleep = some 0 := if_pos hasleep
  have hpending := Doorbell.pending_pos (d := s.doorbell) hseen hmade hmore
  exact Doorbell.never_missed (Doorbell.indexScheme_sound hsize suppress) hkept hdoorbell hwaits
    hpending hkicked

theorem notified_of_kicked_once :
    ∃ s : Kicks Nat, s.asleep = true ∧ s.notified = true := by
  obtain ⟨vq, s, hnew, hrun, hasleep, hmore, hkicked⟩ : ∃ (vq : VirtqueueSplit Nat) (s : Kicks Nat),
      vringNewVirtqueueSplit (zeroPages 4 zeroTables) false = some (some vq) ∧
      system.run (start vq) [.sleep, .publish, .kick] = some s ∧ s.asleep = true ∧
      s.lastAvail ≠ s.vq.vring.availIdx ∧ s.vq.numAddedSinceKick = 0 :=
    ⟨_, _, rfl, rfl, rfl, by decide, rfl⟩
  exact ⟨s, hasleep, notified_of_kicked hnew (by decide) (System.Reach.run .refl hrun) hasleep hmore
    hkicked⟩

end Kicks

/-! ## Interrupts -/

/-- A device that interrupts and a driver that waits for it. -/
structure Interrupts (Token : Type*) where
  vq : VirtqueueSplit Token
  /-- How many used elements were made visible since the device last decided. -/
  posted : Nat
  asleep : Bool
  interrupted : Bool

namespace Interrupts

/-- What can happen. -/
inductive Step
  | post
  /-- The device decides whether to interrupt. -/
  | decide
  /-- `virtqueue_get_buf` fetches an element. -/
  | get
  /-- `virtqueue_enable_cb` up to its memory barrier. -/
  | enable
  | disable
  /-- Interrupts are enabled, and `virtqueue_get_buf` or `virtqueue_enable_cb` sees no element. -/
  | sleep
  | wake

section

variable (s : Interrupts Token)

/-- How many elements the driver has not fetched. -/
def pending : Nat := (s.vq.vring.usedIdx + 2 ^ 16 - s.vq.lastUsed) % 2 ^ 16

/-- A device that keeps to the event index, or to the flag. -/
def interrupts : Bool :=
  if s.vq.eventSuppression then
    2 ^ 16 ≤ s.posted || Doorbell.needEvent (2 ^ 16 : Nat) s.vq.vring.usedEvent s.vq.vring.usedIdx
      (s.vq.vring.usedIdx - s.posted)
  else !s.vq.vring.availNoInterrupt

/-- One step. -/
def step : Step → Option (Interrupts Token)
  | .post =>
      if s.pending < s.vq.vring.num then
        some { s with
          vq.vring.usedIdx := u16 (s.vq.vring.usedIdx + 1)
          posted := s.posted + 1 }
      else none
  | .decide => some { s with interrupted := s.interrupted || s.interrupts, posted := 0 }
  | .get =>
      if ¬ s.asleep ∧ s.vq.virtqueueHasBufSplit then some { s with vq := s.vq.countUsed } else none
  | .enable => if ¬ s.asleep then some { s with vq := s.vq.announceNext } else none
  | .disable => if ¬ s.asleep then some { s with vq := s.vq.virtqueueDisableCbSplit } else none
  | .sleep =>
      if ¬ s.asleep ∧ s.vq.virtqueueIsInterruptEnabledSplit ∧ ¬ s.vq.virtqueueHasBufSplit then
        some { s with asleep := true }
      else none
  | .wake => if s.interrupted then some { s with asleep := false, interrupted := false } else none

end

/-- Both sides as a system. -/
def system : System (Interrupts Token) Step := ⟨step⟩

/-- A queue that was just set up. -/
def start (vq : VirtqueueSplit Token) : Interrupts Token := ⟨vq, 0, false, false⟩

/-- The call of `virtqueue_enable_cb` whose answer lets a driver go to sleep. -/
theorem run_enable_sleep {s : Interrupts Token} (hawake : s.asleep = false) :
    system.run s [.enable, .sleep] =
      if s.vq.virtqueueEnableCbSplit.1 then
        some { s with vq := s.vq.virtqueueEnableCbSplit.2, asleep := true }
      else none := by
  have henabled : s.vq.announceNext.virtqueueIsInterruptEnabledSplit = true := by
    unfold VirtqueueSplit.announceNext VirtqueueSplit.allowInterrupts
    split
    next henabled => exact henabled
    next =>
      dsimp only
      split
      next => rfl
      next => rfl
  rw [System.run_pair]
  simp only [system, step, hawake, Bool.false_eq_true, not_false_eq_true, if_true, true_and,
    Option.bind_some, henabled, VirtqueueSplit.virtqueueHasBufSplit,
    VirtqueueSplit.virtqueueEnableCbSplit, bne_iff_ne, not_not, beq_iff_eq]

/-- The device makes, the driver sees. -/
def doorbell (s : Interrupts Token) : Doorbell (Nat × Bool) where
  made := s.vq.vring.usedIdx
  fresh := s.posted
  seen := s.vq.lastUsed
  note := (s.vq.vring.usedEvent, s.vq.vring.availNoInterrupt)
  asleep := if s.asleep then some 0 else none
  rung := s.interrupted

/-- What a step is to the doorbell. -/
inductive Shows : Step → List (Doorbell.Label (Nat × Bool)) → Prop
  | post : Shows .post [.make 1]
  | decide : Shows .decide [.look false]
  | get (note : Nat × Bool) : Shows .get [.see 1, .announce note]
  | enable (note : Nat × Bool) : Shows .enable [.announce note]
  | disable (note : Nat × Bool) : Shows .disable [.announce note]
  | sleep : Shows .sleep [.doze 0]
  | wake : Shows .wake [.wake]

/-- A driver that has interrupts enabled has told the device so. -/
def Told (indexed : Bool) (vq : VirtqueueSplit Token) : Prop :=
  vq.masterNoInterrupt = false →
    if indexed then vq.vring.usedEvent = vq.lastUsed else vq.vring.availNoInterrupt = false

/-- The counters are where the doorbell has them, and the device knows what it has to. -/
structure Follows (num : Nat) (indexed : Bool) (s : Interrupts Token)
    (d : Doorbell (Nat × Bool)) : Prop where
  doorbell : d = s.doorbell
  sized : s.vq.vring.num = num
  mode : s.vq.eventSuppression = indexed
  made_lt : s.vq.vring.usedIdx < 2 ^ 16
  seen_lt : s.vq.lastUsed < 2 ^ 16
  told : Told indexed s.vq

variable {num : Nat} {indexed : Bool} {s : Interrupts Token} {d : Doorbell (Nat × Bool)}

/-- Fetching an element moves the event index along. -/
theorem told_countUsed {vq : VirtqueueSplit Token} (hmode : vq.eventSuppression = indexed)
    (htold : Told indexed vq) : Told indexed vq.countUsed := by
  unfold VirtqueueSplit.countUsed VirtqueueSplit.virtqueueIsInterruptEnabledSplit
  dsimp only
  split
  next hboth =>
    rw [Bool.and_eq_true] at hboth
    intro _
    rw [if_pos (hmode.symm.trans hboth.1)]
  next hnot =>
    intro henabled
    have hflag := htold henabled
    cases indexed with
    | false => exact hflag
    | true =>
        refine absurd ?_ hnot
        rw [Bool.and_eq_true, Bool.not_eq_true']
        exact ⟨hmode, henabled⟩

/-- Enabling interrupts tells the device. -/
theorem announceNext_eq (vq : VirtqueueSplit Token) (hmode : vq.eventSuppression = indexed)
    (htold : Told indexed vq) :
    ∃ mute master, vq.announceNext = { vq with
      masterNoInterrupt := master
      vring.availNoInterrupt := mute
      vring.usedEvent := vq.lastUsed } ∧ Told indexed vq.announceNext := by
  unfold VirtqueueSplit.announceNext VirtqueueSplit.allowInterrupts
    VirtqueueSplit.virtqueueIsInterruptEnabledSplit
  cases hmaster : vq.masterNoInterrupt with
  | false =>
      refine ⟨vq.vring.availNoInterrupt, vq.masterNoInterrupt, rfl, fun _ => ?_⟩
      have hflag := htold hmaster
      cases indexed with
      | false => exact hflag
      | true => rfl
  | true =>
      cases hsuppress : vq.eventSuppression with
      | false =>
          rw [← hmode, hsuppress]
          exact ⟨false, false, rfl, fun _ => rfl⟩
      | true =>
          rw [← hmode, hsuppress]
          exact ⟨vq.vring.availNoInterrupt, false, rfl, fun _ => rfl⟩

theorem disable_eq (vq : VirtqueueSplit Token) :
    ∃ mute master, vq.virtqueueDisableCbSplit = { vq with
      masterNoInterrupt := master
      vring.availNoInterrupt := mute } ∧ master = true := by
  unfold VirtqueueSplit.virtqueueDisableCbSplit VirtqueueSplit.virtqueueIsInterruptEnabledSplit
  cases hmaster : vq.masterNoInterrupt with
  | true => exact ⟨vq.vring.availNoInterrupt, vq.masterNoInterrupt, rfl, hmaster⟩
  | false =>
      cases vq.eventSuppression with
      | false => exact ⟨true, true, rfl, rfl⟩
      | true => exact ⟨vq.vring.availNoInterrupt, true, rfl, rfl⟩

theorem simulates : (system : System (Interrupts Token) Step).Simulates (fun _ _ => True)
    (Doorbell.system (Doorbell.indexScheme (2 ^ 16) num indexed)) Shows (Follows num indexed) where
  step := by
    rintro s label s' d h - hstep
    obtain ⟨rfl, hsized, hindexed, hmade, hseen, htold⟩ := id h
    cases label with
    | post =>
        obtain ⟨hroom, ⟨⟩⟩ := Option.ite_none_right_eq_some.mp hstep
        exact ⟨_, _, .post, Doorbell.run_make (hsized ▸ hroom), rfl, hsized, hindexed,
          Nat.mod_lt _ (Nat.two_pow_pos 16), hseen, htold⟩
    | decide =>
        obtain rfl := Option.some.inj hstep
        refine ⟨_, _, .decide, Doorbell.run_look false, ?_, hsized, hindexed, hmade, hseen, htold⟩
        show Doorbell.mk _ _ _ _ _ _ = Doorbell.mk _ _ _ _ _ _
        rw [Bool.or_false, interrupts, hindexed]
        rfl
    | get =>
        obtain ⟨⟨hawake, hhas⟩, ⟨⟩⟩ := Option.ite_none_right_eq_some.mp hstep
        rw [VirtqueueSplit.virtqueueHasBufSplit, bne_iff_ne] at hhas
        obtain ⟨event, hcount⟩ := s.vq.countUsed_eq
        have htold' := told_countUsed hindexed htold
        rw [hcount] at htold' ⊢
        have hpending := Doorbell.pending_pos (d := s.doorbell) hseen hmade hhas
        exact ⟨_, _, .get (event, s.vq.vring.availNoInterrupt),
          Doorbell.run_see_announce _ (if_neg hawake) hpending, rfl, hsized, hindexed, hmade,
          Nat.mod_lt _ (Nat.two_pow_pos 16), htold'⟩
    | enable =>
        obtain ⟨hawake, ⟨⟩⟩ := Option.ite_none_right_eq_some.mp hstep
        obtain ⟨mute, master, hannounce, htold'⟩ := announceNext_eq s.vq hindexed htold
        rw [hannounce] at htold' ⊢
        exact ⟨_, _, .enable (s.vq.lastUsed, mute), Doorbell.run_announce _ (if_neg hawake), rfl,
          hsized, hindexed, hmade, hseen, htold'⟩
    | disable =>
        obtain ⟨hawake, ⟨⟩⟩ := Option.ite_none_right_eq_some.mp hstep
        obtain ⟨mute, _, hdisable, rfl⟩ := disable_eq s.vq
        rw [hdisable]
        exact ⟨_, _, .disable (s.vq.vring.usedEvent, mute), Doorbell.run_announce _ (if_neg hawake),
          rfl, hsized, hindexed, hmade, hseen, nofun⟩
    | sleep =>
        obtain ⟨⟨hawake, henabled, hnone⟩, ⟨⟩⟩ := Option.ite_none_right_eq_some.mp hstep
        rw [VirtqueueSplit.virtqueueHasBufSplit, bne_iff_ne, not_not] at hnone
        rw [VirtqueueSplit.virtqueueIsInterruptEnabledSplit, Bool.not_eq_true'] at henabled
        refine ⟨_, _, .sleep, Doorbell.run_doze (if_neg hawake) ?_ ?_, ?_, hsized, hindexed, hmade,
          hseen, htold⟩
        · show (if indexed then s.vq.vring.usedEvent == s.vq.lastUsed % 2 ^ 16
            else !s.vq.vring.availNoInterrupt) = true
          rw [Nat.mod_eq_of_lt hseen]
          have hflag := htold henabled
          cases indexed with
          | false => exact congrArg (! ·) hflag
          | true => exact beq_iff_eq.mpr hflag
        · show (s.vq.vring.usedIdx + 2 ^ 16 - s.vq.lastUsed) % 2 ^ 16 ≤ 0
          rw [hnone, Nat.add_sub_cancel_left, Nat.mod_self]
        · rfl
    | wake =>
        obtain ⟨hrung, ⟨⟩⟩ := Option.ite_none_right_eq_some.mp hstep
        exact ⟨_, _, .wake, Doorbell.run_wake hrung, rfl, hsized, hindexed, hmade, hseen, htold⟩

/-- A driver that waits gets an interrupt for every element that it has not fetched, as soon as
the device has decided: in either mode, however it got to have its interrupts enabled. -/
theorem interrupted_of_decided {tables : Nat → Nat → VringDesc} {suppress : Bool}
    {vq : VirtqueueSplit Token}
    (hnew : vringNewVirtqueueSplit (zeroPages num tables) suppress = some (some vq))
    (hsize : num < 2 ^ 16) (hreach : system.Reach (start vq) s)
    (hasleep : s.asleep = true) (hmore : s.vq.virtqueueHasBufSplit = true)
    (hdecided : s.posted = 0) : s.interrupted = true := by
  obtain ⟨hnum, hsuppress, -, -, -, hlast, hidx, -, hmute, hevent⟩ := new_fields hnew
  have hfollows : Follows num suppress (start vq) ((start vq).doorbell) := by
    refine ⟨rfl, hnum, hsuppress, hidx.trans_lt (Nat.two_pow_pos 16),
      hlast.trans_lt (Nat.two_pow_pos 16), fun _ => ?_⟩
    cases suppress with
    | false => exact hmute
    | true => exact hevent.trans hlast.symm
  have hkept : Doorbell.Kept (Doorbell.indexScheme (2 ^ 16) num suppress) (start vq).doorbell := by
    have hdoorbell : (start vq).doorbell =
        ⟨0, 0, 0, (vq.vring.usedEvent, vq.vring.availNoInterrupt), none, false⟩ := by
      rw [doorbell, start, hidx, hlast]
      rfl
    rw [hdoorbell]
    exact .init (Nat.two_pow_pos 16) _
  obtain ⟨_, hdoorbell, rfl, -, -, hmade, hseen, -⟩ := simulates.reach hfollows hreach
  have hwaits : s.doorbell.asleep = some 0 := if_pos hasleep
  rw [VirtqueueSplit.virtqueueHasBufSplit, bne_iff_ne] at hmore
  have hpending := Doorbell.pending_pos (d := s.doorbell) hseen hmade hmore
  exact Doorbell.never_missed (Doorbell.indexScheme_sound hsize suppress) hkept hdoorbell hwaits
    hpending hdecided

theorem interrupted_of_decided_once :
    ∃ s : Interrupts Nat, s.asleep = true ∧ s.interrupted = true := by
  obtain ⟨vq, s, hnew, hrun, hasleep, hmore, hdecided⟩ :
      ∃ (vq : VirtqueueSplit Nat) (s : Interrupts Nat),
      vringNewVirtqueueSplit (zeroPages 4 zeroTables) false = some (some vq) ∧
      system.run (start vq) [.sleep, .post, .decide] = some s ∧ s.asleep = true ∧
      s.vq.virtqueueHasBufSplit = true ∧ s.posted = 0 :=
    ⟨_, _, rfl, rfl, rfl, rfl, rfl⟩
  exact ⟨s, hasleep, interrupted_of_decided hnew (by decide) (System.Reach.run .refl hrun) hasleep
    hmore hdecided⟩

end Interrupts

namespace VirtqueueSplit

variable (vq : VirtqueueSplit Token)

/-- Allowing interrupts touches no counter. -/
theorem allowInterrupts_eq : ∃ mute master, vq.allowInterrupts = { vq with
    masterNoInterrupt := master
    vring.availNoInterrupt := mute } := by
  unfold allowInterrupts
  split
  next => exact ⟨vq.vring.availNoInterrupt, vq.masterNoInterrupt, rfl⟩
  next =>
    cases vq.eventSuppression with
    | false => exact ⟨false, false, rfl⟩
    | true => exact ⟨vq.vring.availNoInterrupt, false, rfl⟩

theorem delayBufs_lt : vq.delayBufs < 2 ^ 16 := Nat.mod_lt _ (Nat.two_pow_pos 16)

variable {vq} {n : Nat}

/-- With `n` elements to fetch, the answer is that there are no more than the driver waits for,
unless the used index has wrapped. -/
theorem enableCbDelayed_iff (hlast : vq.lastUsed < 2 ^ 16) (hn : n < 2 ^ 16)
    (hused : vq.vring.usedIdx = u16 (vq.lastUsed + n)) :
    vq.virtqueueEnableCbDelayedSplit.1 = true ↔
      n ≤ vq.delayBufs ∨ 2 ^ 16 ≤ vq.lastUsed + n := by
  obtain ⟨mute, master, hallow⟩ := vq.allowInterrupts_eq
  unfold virtqueueEnableCbDelayedSplit
  rw [hallow]
  show decide ((vq.vring.usedIdx : Int) - vq.lastUsed ≤ vq.delayBufs) = true ↔ _
  have hbufs := vq.delayBufs_lt
  rw [decide_eq_true_iff, hused, u16]
  omega

/-- What the device is told to interrupt for. -/
theorem enableCbDelayed_event :
    vq.virtqueueEnableCbDelayedSplit.2.vring.usedEvent = u16 (vq.lastUsed + vq.delayBufs) := by
  obtain ⟨mute, master, hallow⟩ := vq.allowInterrupts_eq
  unfold virtqueueEnableCbDelayedSplit
  rw [hallow]
  rfl

/-- On its way to `k` elements the device interrupts exactly if it passes the one it was told,
which it cannot if the driver has passed it already. -/
theorem interrupts_delayed_iff {k : Nat} (hused : vq.vring.usedIdx = u16 (vq.lastUsed + n))
    (hnk : n ≤ k) (hk : k < 2 ^ 16) :
    vringNeedEvent vq.virtqueueEnableCbDelayedSplit.2.vring.usedEvent (u16 (vq.lastUsed + k))
        vq.vring.usedIdx = true ↔ vq.delayBufs < k ∧ n ≤ vq.delayBufs := by
  have hbufs := vq.delayBufs_lt
  have hneed := Doorbell.needEvent_iff (2 ^ 16) vq.lastUsed hk (Nat.lt_of_le_of_lt
    (Nat.sub_le k n) hk) (show vq.delayBufs + (k - n) < 2 ^ 16 + k by omega)
  have hsame : vringNeedEvent (u16 (vq.lastUsed + vq.delayBufs)) (u16 (vq.lastUsed + k))
      (u16 (vq.lastUsed + n)) = Doorbell.needEvent (2 ^ 16 : Nat)
      ((vq.lastUsed + vq.delayBufs) % 2 ^ 16 : Nat) ((vq.lastUsed + k) % 2 ^ 16 : Nat)
      (((vq.lastUsed + k) % 2 ^ 16 : Nat) - (k - n : Nat)) := by
    have hold : (((vq.lastUsed + k) % 2 ^ 16 : Nat) - ((vq.lastUsed + n) % 2 ^ 16 : Nat) : Int) %
        2 ^ 16 = (((vq.lastUsed + k) % 2 ^ 16 : Nat) -
          (((vq.lastUsed + k) % 2 ^ 16 : Nat) - (k - n : Nat)) : Int) % 2 ^ 16 := by
      omega
    rw [vringNeedEvent, u16, u16, u16, hold, Doorbell.needEvent]
    norm_cast
  rw [enableCbDelayed_event, hused, hsame, hneed]
  omega

theorem delayBufs_le : vq.delayBufs ≤ 2 ^ 16 - 2 ^ 14 := by
  have hmod : ∀ m : Nat, u16 m < 2 ^ 16 := fun m => Nat.mod_lt m (Nat.two_pow_pos 16)
  have hleft := hmod (vq.masterIdx + 2 ^ 16 - vq.lastUsed)
  exact Nat.le_trans (Nat.mod_le ..) (by omega)

/-- A driver that is told to wait for a late interrupt gets it when there are more elements than
it waits for, exactly if there were no more before or the used index had not wrapped. Otherwise
it is told to wait although it need not, and no number of elements makes the device interrupt. -/
theorem enableCbDelayed_safe_iff (hlast : vq.lastUsed < 2 ^ 16) (hn : n < 2 ^ 16)
    (hused : vq.vring.usedIdx = u16 (vq.lastUsed + n)) :
    (vq.virtqueueEnableCbDelayedSplit.1 = true → ∀ k, n ≤ k → k < 2 ^ 16 → vq.delayBufs < k →
      vringNeedEvent vq.virtqueueEnableCbDelayedSplit.2.vring.usedEvent (u16 (vq.lastUsed + k))
        vq.vring.usedIdx = true) ↔
      n ≤ vq.delayBufs ∨ vq.lastUsed + n < 2 ^ 16 := by
  have hbufs := vq.delayBufs_le
  constructor
  · intro hall
    by_contra hnot
    rw [not_or] at hnot
    have hwait := (enableCbDelayed_iff hlast hn hused).mpr (.inr (by omega))
    have hrings := (interrupts_delayed_iff hused (Nat.le_refl n) hn).mp
      (hall hwait n (Nat.le_refl n) hn (by omega))
    exact hnot.1 hrings.2
  · intro hcases hwait k hnk hk hmore
    have hanswer := (enableCbDelayed_iff hlast hn hused).mp hwait
    exact (interrupts_delayed_iff hused hnk hk).mpr ⟨hmore, by omega⟩

theorem enableCbDelayed_safe_iff_wrapped : ∃ vq : VirtqueueSplit Nat,
    vq.lastUsed = 2 ^ 16 - 1 ∧
    ¬ (vq.virtqueueEnableCbDelayedSplit.1 = true → ∀ k, 2 ≤ k → k < 2 ^ 16 → vq.delayBufs < k →
      vringNeedEvent vq.virtqueueEnableCbDelayedSplit.2.vring.usedEvent (u16 (vq.lastUsed + k))
        vq.vring.usedIdx = true) := by
  refine ⟨{
    vring := { zeroPages 4 zeroTables with availIdx := 1, usedIdx := 1 }
    masterNoInterrupt := false, masterIdx := 1, numUnused := 4, numAddedSinceKick := 0
    firstUnused := 0, lastUsed := 2 ^ 16 - 1, opaques := fun _ => none
    eventSuppression := true }, rfl, ?_⟩
  rw [enableCbDelayed_safe_iff (by decide) (show 2 < 2 ^ 16 by decide) rfl]
  decide

end VirtqueueSplit

end VirtDisplay.Virtio.SplitRing
