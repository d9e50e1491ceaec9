/-
# Notifications of a packed ring

Each side of a packed ring keeps a structure that tells the other when it wants to be notified:
always, never, or when a certain descriptor is reached, which is named by its index and the
sense of its round. Again both directions are the same doorbell, with places counted modulo
two rounds.

The driver compares in sixteen bits and corrects by one round where the senses differ. It takes
its own sense from `avail_wrap_counter`, and that counter misses a change of the round when the
regular descriptors of one request fill the whole ring.
-/

import VirtDisplay.Foundation.Doorbell
import VirtDisplay.Virtio.PackedExchange

namespace VirtDisplay.Virtio.PackedRing

open Rounds Transition

variable {Token : Type*}

/-- `vring_need_event` -/
def vringNeedEvent (event new old : Nat) : Bool :=
  ((new : Int) - event - 1) % 2 ^ 16 < ((new : Int) - old) % 2 ^ 16

/-- The wrap counter of an `off_wrap`. -/
def eventWrap (offWrap : Nat) : Bool := offWrap / 2 ^ 15 % 2 = 1

/-- The index of an `off_wrap`. -/
def eventIdx (offWrap : Nat) : Nat := offWrap % 2 ^ 15

/-- What `virtqueue_kick_prepare_packed` decides, with its indices and what it has read of the
device's structure. -/
def needsKick (num nextAvailIdx : Nat) (availWrapCounter : Bool) (numAdded : Nat)
    (snapshot : DescEvent) : Bool :=
  if snapshot.flags ≠ eventFlagDesc then snapshot.flags ≠ eventFlagDisable
  else
    let old := u16 (nextAvailIdx + 2 ^ 32 - numAdded)
    let event := eventIdx snapshot.offWrap
    let event :=
      if eventWrap snapshot.offWrap ≠ availWrapCounter then u16 (event + 2 ^ 16 - u16 num)
      else event
    vringNeedEvent event nextAvailIdx old

namespace VirtqueuePacked

variable (vq : VirtqueuePacked Token)

/-- `virtqueue_kick_prepare_packed` -/
def virtqueueKickPreparePacked : Bool × VirtqueuePacked Token :=
  (needsKick vq.vring.num vq.nextAvailIdx vq.availWrapCounter vq.numAdded vq.vring.device,
    { vq with numAdded := 0 })

/-- `virtqueue_kick_always_packed` -/
def virtqueueKickAlwaysPacked : Bool × VirtqueuePacked Token := (true, { vq with numAdded := 0 })

/-- The flags are written if interrupts are disabled. -/
def allowInterrupts : VirtqueuePacked Token :=
  if vq.eventFlagsShadow = eventFlagDisable then
    let flags := if vq.eventSuppression then eventFlagDesc else eventFlagEnable
    { vq with eventFlagsShadow := flags, vring.driver.flags := flags }
  else vq

/-- `virtqueue_enable_cb_prepare_packed`; what it returns is `offWrap` of the last used index. -/
def virtqueueEnableCbPreparePacked : VirtqueuePacked Token :=
  let vq :=
    if vq.eventSuppression then
      { vq with vring.driver.offWrap := offWrap vq.lastUsedIdx vq.usedWrapCounter }
    else vq
  vq.allowInterrupts

/-- `virtqueue_poll_packed` -/
def virtqueuePollPacked (offWrap : Nat) : Bool :=
  vq.isUsedDescPacked (eventIdx offWrap) (eventWrap offWrap)

/-- `virtqueue_enable_cb_packed` -/
def virtqueueEnableCbPacked : Bool × VirtqueuePacked Token :=
  let vq := vq.virtqueueEnableCbPreparePacked
  (!vq.virtqueuePollPacked (offWrap vq.lastUsedIdx vq.usedWrapCounter), vq)

/-- Three quarters of the descriptors that are with the device. -/
def delayBufs : Nat := u16 ((vq.vring.num - vq.numFree) * 3 / 4)

/-- `virtqueue_enable_cb_delayed_packed` before its last memory barrier. -/
def announceLater : VirtqueuePacked Token :=
  let vq :=
    if vq.eventSuppression then
      let usedIdx := u16 (vq.lastUsedIdx + vq.delayBufs)
      let event :=
        if vq.vring.num ≤ usedIdx then
          offWrap (u16 (usedIdx + 2 ^ 16 - u16 vq.vring.num)) (!vq.usedWrapCounter)
        else offWrap usedIdx vq.usedWrapCounter
      { vq with vring.driver.offWrap := event }
    else vq
  vq.allowInterrupts

/-- `virtqueue_enable_cb_delayed_packed` -/
def virtqueueEnableCbDelayedPacked : Bool × VirtqueuePacked Token :=
  let vq := vq.announceLater
  (!vq.isUsedDescPacked vq.lastUsedIdx vq.usedWrapCounter, vq)

/-- `virtqueue_disable_cb_packed` -/
def virtqueueDisableCbPacked : VirtqueuePacked Token :=
  if vq.eventFlagsShadow ≠ eventFlagDisable then
    { vq with eventFlagsShadow := eventFlagDisable, vring.driver.flags := eventFlagDisable }
  else vq

/-- `virtqueue_is_interrupt_enabled_packed` -/
def virtqueueIsInterruptEnabledPacked : Bool := vq.eventFlagsShadow &&& eventFlagDisable ≠ 0

end VirtqueuePacked

section

variable {num q n late fresh : Nat} {wrap : Bool}

theorem eventIdx_offWrap (hlt : n < 2 ^ 15) (wrap : Bool) :
    eventIdx (offWrap n wrap) = n ∧ eventWrap (offWrap n wrap) = wrap := by
  cases wrap with
  | false =>
      rw [offWrap, if_neg Bool.false_ne_true, eventIdx, eventWrap, Nat.mod_eq_of_lt hlt,
        Nat.div_eq_of_lt hlt]
      exact ⟨rfl, rfl⟩
  | true =>
      rw [offWrap, if_pos rfl, Nat.or_two_pow_eq_add_of_lt hlt, eventIdx, eventWrap,
        Nat.add_mod_right, Nat.mod_eq_of_lt hlt, Nat.add_div_right _ (Nat.two_pow_pos 15),
        Nat.div_eq_of_lt hlt]
      exact ⟨rfl, rfl⟩

/-- The two ways of counting back agree in sixteen bits. -/
theorem moved_eq (new : Nat) (hfresh : fresh < 2 ^ 16) :
    ((new : Int) - (u16 (new + 2 ^ 32 - fresh) : Nat)) % 2 ^ 16 = fresh := by
  have hle : fresh ≤ new + 2 ^ 32 := by omega
  rw [u16]
  push_cast [hle]
  omega

/-- A device that waits for the next request behind the place `q` is notified of requests up to
`n` descriptors further on, if they were added since the last kick. -/
theorem needsKick_iff (hpos : 0 < num) (hsmall : num ≤ 2 ^ 15) (hn : 0 < n) (hle : n ≤ num)
    (hfresh : fresh < 2 ^ 16) :
    needsKick num ((q + n) % num) (sense num (q + n)) fresh
      ⟨offWrap (q % num) (sense num q), eventFlagDesc⟩ = true ↔ n ≤ fresh := by
  have hlt := Nat.mod_lt q hpos
  obtain ⟨hidx, hwrap⟩ := eventIdx_offWrap (n := q % num) (by omega) (sense num q)
  have hnum : u16 num = num := Nat.mod_eq_of_lt (by omega)
  rw [needsKick, if_neg (not_not.mpr rfl)]
  dsimp only
  rw [hidx, hwrap, hnum, vringNeedEvent, decide_eq_true_iff, moved_eq _ hfresh]
  rcases Nat.lt_or_ge (q % num + n) num with hwithin | hover
  · obtain ⟨hslot, hsense⟩ := on_of_lt hwithin
    rw [hslot, hsense, if_neg (not_not.mpr rfl)]
    omega
  · obtain ⟨hslot, hsense⟩ := on_of_le hpos hle hover
    rw [hslot, hsense, if_pos (Bool.self_ne_not _), u16]
    omega

/-- Where `avail_wrap_counter` is wrong, the distance is off by one round, and no number of
requests that are in the ring makes the driver notify the device. -/
theorem needsKick_wrong (hpos : 0 < num) (hsmall : num ≤ 2 ^ 15) (hn : 0 < n) (hle : n ≤ num)
    (hfresh : fresh ≤ num) :
    needsKick num ((q + n) % num) (!sense num (q + n)) fresh
      ⟨offWrap (q % num) (sense num q), eventFlagDesc⟩ = false := by
  have hlt := Nat.mod_lt q hpos
  obtain ⟨hidx, hwrap⟩ := eventIdx_offWrap (n := q % num) (by omega) (sense num q)
  have hnum : u16 num = num := Nat.mod_eq_of_lt (by omega)
  rw [needsKick, if_neg (not_not.mpr rfl)]
  dsimp only
  rw [hidx, hwrap, hnum, vringNeedEvent, decide_eq_false_iff_not, moved_eq _ (by omega)]
  rcases Nat.lt_or_ge (q % num + n) num with hwithin | hover
  · obtain ⟨hslot, hsense⟩ := on_of_lt hwithin
    rw [hslot, hsense, if_pos (Bool.self_ne_not _), u16]
    omega
  · obtain ⟨hslot, hsense⟩ := on_of_le hpos hle hover
    rw [hslot, hsense, Bool.not_not, if_neg (not_not.mpr rfl)]
    omega

end

/-- The two structures of a packed ring as notes: the places are counted modulo two rounds. -/
def noteScheme (num : Nat) : Doorbell.Scheme DescEvent where
  word := 2 * num
  num := num
  armed seen note late :=
    if note.flags = eventFlagDesc then
      note.offWrap == offWrap ((seen + late) % num) (sense num (seen + late))
    else note.flags != eventFlagDisable
  rings made fresh note := 2 ^ 16 ≤ fresh || needsKick num (made % num) (sense num made) fresh note

theorem noteScheme_sound {num : Nat} (hpos : 0 < num) (hsmall : num ≤ 2 ^ 15) :
    (noteScheme num).Sound where
  lt := by
    show num < 2 * num
    omega
  enough := by
    intro seen n fresh late note _ hn harmed hlate hless
    have hn' : n ≤ num := hn
    have harmed' : (if note.flags = eventFlagDesc then
      note.offWrap == offWrap ((seen + late) % num) (sense num (seen + late))
      else note.flags != eventFlagDisable) = true := harmed
    show (decide (2 ^ 16 ≤ fresh) || needsKick num ((seen + n) % (2 * num) % num)
      (sense num ((seen + n) % (2 * num))) fresh note) = true
    rw [(mod_two_rounds num _).1, (mod_two_rounds num _).2, Bool.or_eq_true, decide_eq_true_iff]
    refine (Nat.lt_or_ge fresh (2 ^ 16)).symm.imp_right fun hfresh => ?_
    split at harmed'
    next hdesc =>
      have hnote : note = ⟨offWrap ((seen + late) % num) (sense num (seen + late)),
          eventFlagDesc⟩ := by
        rw [← beq_iff_eq.mp harmed', ← hdesc]
      have hplace : seen + n = seen + late + (n - late) := by omega
      rw [hnote, hplace]
      exact (needsKick_iff hpos hsmall (by omega) (by omega) hfresh).mpr (by omega)
    next hdesc =>
      rw [needsKick, if_pos hdesc]
      simpa using harmed'

/-- What a note asks for is the same however many rounds have passed. -/
theorem noteScheme_armed_mod (num q late : Nat) (note : DescEvent) :
    (noteScheme num).armed (q % (2 * num)) note late = (noteScheme num).armed q note late := by
  obtain ⟨hslot, hsense⟩ := mod_two_rounds num (q + late)
  obtain ⟨hslot', hsense'⟩ := mod_two_rounds num (q % (2 * num) + late)
  rw [Nat.mod_add_mod] at hslot' hsense'
  simp only [noteScheme]
  rw [← hslot', ← hsense', hslot, hsense]

section

variable {vq vq' : VirtqueuePacked Token} {token : Token} {len n : Nat}

theorem countUsed_kept (vq : VirtqueuePacked Token) (n : Nat) :
    (vq.countUsed n).numAdded = vq.numAdded ∧ (vq.countUsed n).availFlag = vq.availFlag ∧
      (vq.countUsed n).availWrapCounter = vq.availWrapCounter ∧
      (vq.countUsed n).vring.device = vq.vring.device ∧
      (vq.countUsed n).eventFlagsShadow = vq.eventFlagsShadow ∧
      (vq.countUsed n).eventSuppression = vq.eventSuppression ∧
      (vq.countUsed n).vring.driver.flags = vq.vring.driver.flags ∧
      (vq.eventFlagsShadow = eventFlagDesc → (vq.countUsed n).vring.driver.offWrap =
        offWrap (vq.countUsed n).lastUsedIdx (vq.countUsed n).usedWrapCounter) := by
  by_cases hover : vq.vring.num ≤ u16 (vq.lastUsedIdx + n) <;>
    by_cases hdesc : vq.eventFlagsShadow = eventFlagDesc <;>
    simp [VirtqueuePacked.countUsed, hover, hdesc]

/-- Fetching a request moves the driver's note along, and nothing else that is about
notifications. -/
theorem takeUsed_kept (h : vq.takeUsed = some (token, len, vq')) :
    vq'.numAdded = vq.numAdded ∧ vq'.availFlag = vq.availFlag ∧
      vq'.availWrapCounter = vq.availWrapCounter ∧ vq'.vring.device = vq.vring.device ∧
      vq'.eventFlagsShadow = vq.eventFlagsShadow ∧
      vq'.eventSuppression = vq.eventSuppression ∧
      vq'.vring.driver.flags = vq.vring.driver.flags ∧
      (vq.eventFlagsShadow = eventFlagDesc →
        vq'.vring.driver.offWrap = offWrap vq'.lastUsedIdx vq'.usedWrapCounter) := by
  unfold VirtqueuePacked.takeUsed at h
  dsimp only at h
  rw [Option.ite_none_left_eq_some] at h
  obtain ⟨-, h⟩ := h
  split at h
  next => cases h
  next =>
    obtain ⟨-, -, rfl⟩ : _ = token ∧ _ = len ∧ _ = vq' := by
      simpa only [Option.some.injEq, Prod.mk.injEq] using h
    exact countUsed_kept ..

end

namespace Ring

variable {page : Token → Option Nat} {s s' : Ring Token} {label : Label Token}

/-- Most steps change nothing of the virtqueue but descriptors. -/
theorem step_desc [DecidableEq Token] (hstep : s.step page label = some s')
    (hadd : label.accepted? = none) (hget : label.returned? = none) :
    ∃ desc, s'.vq = { s.vq with vring.desc := desc } := by
  cases label with
  | add r => cases hadd
  | full r =>
      rw [step, Option.ite_none_right_eq_some] at hstep
      obtain ⟨-, hstep⟩ := hstep
      split at hstep
      next =>
        obtain rfl := Option.some.inj hstep
        exact ⟨_, rfl⟩
      next => cases hstep
  | publish =>
      obtain ⟨⟨head, flags⟩, -, hs'⟩ := Option.map_eq_some_iff.mp hstep
      obtain rfl : { s with vq := s.vq.publish head flags, adding := none } = s' := hs'
      exact ⟨_, rfl⟩
  | take pieces =>
      rw [step, Option.ite_none_right_eq_some] at hstep
      obtain ⟨-, hstep⟩ := hstep
      split at hstep
      next =>
        obtain ⟨-, ⟨⟩⟩ := Option.ite_none_right_eq_some.mp hstep
        exact ⟨_, rfl⟩
      next => cases hstep
  | write k len =>
      rw [step, Option.ite_none_right_eq_some] at hstep
      obtain ⟨⟨id, n⟩, -, hs'⟩ := Option.map_eq_some_iff.mp hstep.2
      obtain rfl : s.writeUsed k len id = s' := hs'
      exact ⟨_, rfl⟩
  | post k len =>
      rw [step, Option.ite_none_right_eq_some] at hstep
      obtain ⟨⟨id, n⟩, -, hs'⟩ := Option.map_eq_some_iff.mp hstep.2
      obtain rfl : s.postUsed k n = s' := hs'
      exact ⟨_, rfl⟩
  | poll =>
      obtain ⟨-, ⟨⟩⟩ := Option.ite_none_right_eq_some.mp hstep
      exact ⟨_, rfl⟩
  | get token len => cases hget
  | empty =>
      obtain ⟨-, ⟨⟩⟩ := Option.ite_none_right_eq_some.mp hstep
      exact ⟨_, rfl⟩

theorem step_takeUsed [DecidableEq Token] {token : Token} {len : Nat}
    (hstep : s.step page (.get token len) = some s') :
    s.vq.takeUsed = some (token, len, s'.vq) := by
  rw [step, Option.ite_none_right_eq_some] at hstep
  obtain ⟨-, hstep⟩ := hstep
  split at hstep
  next htake =>
    obtain ⟨⟨rfl, rfl⟩, ⟨⟩⟩ := Option.ite_none_right_eq_some.mp hstep
    exact htake
  next => cases hstep

/-- Only adding a request changes what the next kick is decided by. -/
theorem step_kept [DecidableEq Token] (hstep : s.step page label = some s')
    (hadd : label.accepted? = none) :
    s'.vq.numAdded = s.vq.numAdded ∧ s'.vq.availFlag = s.vq.availFlag ∧
      s'.vq.availWrapCounter = s.vq.availWrapCounter ∧ s'.vq.vring.device = s.vq.vring.device := by
  cases hget : label.returned? with
  | none =>
      obtain ⟨desc, hdesc⟩ := step_desc hstep hadd hget
      rw [hdesc]
      exact ⟨rfl, rfl, rfl, rfl⟩
  | some answer =>
      obtain ⟨token, len, rfl⟩ : ∃ token len, label = .get token len := by
        cases label with
        | get token len => exact ⟨token, len, rfl⟩
        | _ => cases hget
      obtain ⟨hadded, hflag, hwrap, hdevice, -⟩ := takeUsed_kept (step_takeUsed hstep)
      exact ⟨hadded, hflag, hwrap, hdevice⟩

end Ring

section

variable {page : Token → Option Nat} {num : Nat} {g : Ledger Token} {s s' : Ring Token}

/-- What adding a request does to the counters. -/
theorem Ledger.Keeps.added [DecidableEq Token] {r : Request Token} (h : g.Keeps page num s)
    (hcareful : Careful page s.vq r)
    (hstep : s.step page (.add r) = some s') :
    ∃ lot head flags, lot.request = r ∧
      Readied page s.vq (g.stop page) lot head flags s'.vq := by
  rw [Ring.step, Option.ite_none_right_eq_some] at hstep
  obtain ⟨-, hstep⟩ := hstep
  rcases Nat.lt_or_ge g.free.length (cost page r) with hfull | hroom
  · rw [h.idents.fillBuf_full hcareful hfull h.lt_word] at hstep
    cases hstep
  · obtain ⟨head, flags, vq', hrun, hreadied, -⟩ :=
      h.idents.fillBuf h.next hcareful hroom h.lt_word
    rw [hrun] at hstep
    obtain rfl := Option.some.inj hstep
    exact ⟨_, head, flags, rfl, hreadied⟩

/-- Only fetching a request changes what the device is told. -/
theorem Ledger.Keeps.silent [DecidableEq Token] {label : Label Token} (h : g.Keeps page num s)
    (hallowed : Ring.Allowed page s label) (hstep : s.step page label = some s')
    (hget : label.returned? = none) :
    s'.vq.vring.driver = s.vq.vring.driver ∧ s'.vq.eventFlagsShadow = s.vq.eventFlagsShadow ∧
      s'.vq.eventSuppression = s.vq.eventSuppression := by
  cases hadd : label.accepted? with
  | none =>
      obtain ⟨desc, hdesc⟩ := Ring.step_desc hstep hadd hget
      rw [hdesc]
      exact ⟨rfl, rfl, rfl⟩
  | some r =>
      obtain rfl : label = .add r := by
        cases label with
        | add r => exact congrArg Label.add (Option.some.inj hadd)
        | _ => cases hadd
      obtain ⟨lot, head, flags, -, hreadied⟩ := h.added hallowed hstep
      obtain ⟨hdriver, -, hshadow, hmode⟩ := hreadied.events
      exact ⟨hdriver, hshadow, hmode⟩

/-- What is only about notifications does not matter to the ledger. -/
theorem Ledger.Keeps.aside (h : g.Keeps page num s) (added shadow : Nat) (wrap : Bool)
    (driver device : DescEvent) :
    g.Keeps page num { s with vq := { s.vq with
      numAdded := added
      availWrapCounter := wrap
      eventFlagsShadow := shadow
      vring.driver := driver
      vring.device := device } } := by
  have hdesc : ({ s with vq := { s.vq with
      numAdded := added
      availWrapCounter := wrap
      eventFlagsShadow := shadow
      vring.driver := driver
      vring.device := device } } : Ring Token).settled.desc = s.settled.desc :=
    Ring.settled_desc_eq rfl rfl
  exact { h with
    idents := h.idents.transfer rfl rfl rfl rfl
    next := ⟨h.next.next, h.next.avail, h.next.used⟩
    marked := hdesc.symm ▸ h.marked
    laid := h.laid.imp fun _ _ _ _ _ hlaid => Ring.laid_settled hlaid _ rfl rfl rfl rfl }

end

end VirtDisplay.Virtio.PackedRing
