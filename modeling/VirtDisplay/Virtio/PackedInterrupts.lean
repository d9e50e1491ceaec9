/-
# Interrupts of a packed ring

In the other direction it is the driver that waits. It tells the device to interrupt for the
next used descriptor, or only once three quarters of the descriptors that are with the device
have been returned, and goes to sleep when it has looked once more. No interrupt is missed in
either case: the driver counts its rounds by the descriptors that it fetches, and when it asks
for a late interrupt it goes to sleep only if there is nothing to fetch at all.

The driver knows whether interrupts are enabled from a shadow of the flags, and
`virtqueue_is_interrupt_enabled` reads it the wrong way round.
-/

import VirtDisplay.Virtio.PackedNotify

namespace VirtDisplay.Virtio.PackedRing

open Rounds Transition

variable {Token : Type*}

/-- The device is told to interrupt for the descriptor that comes `late` descriptors behind
`start`, or each time, or never, and the driver knows. -/
structure Told (num start late : Nat) (vq : VirtqueuePacked Token) : Prop where
  flags : vq.vring.driver.flags = vq.eventFlagsShadow
  known : vq.eventFlagsShadow ≤ eventFlagDesc
  mode : vq.eventFlagsShadow = eventFlagDesc → vq.eventSuppression = true
  event : vq.eventFlagsShadow = eventFlagDesc →
    vq.vring.driver.offWrap = offWrap ((start + late) % num) (sense num (start + late))

namespace Told

variable {num start late n : Nat} {vq vq' : VirtqueuePacked Token}

theorem congr (h : Told num start late vq) (hdriver : vq'.vring.driver = vq.vring.driver)
    (hshadow : vq'.eventFlagsShadow = vq.eventFlagsShadow)
    (hmode : vq'.eventSuppression = vq.eventSuppression) : Told num start late vq' where
  flags := by rw [hdriver, hshadow, h.flags]
  known := hshadow ▸ h.known
  mode hdesc := hmode.trans (h.mode (hshadow ▸ hdesc))
  event hdesc := hdriver ▸ h.event (hshadow ▸ hdesc)

/-- A device that has been told to interrupt is armed. -/
theorem armed (h : Told num start late vq) (henabled : vq.eventFlagsShadow ≠ eventFlagDisable) :
    (noteScheme num).armed start vq.vring.driver late = true := by
  show (if vq.vring.driver.flags = eventFlagDesc then _ else _) = true
  rw [h.flags]
  split
  next hdesc => exact beq_iff_eq.mpr (h.event hdesc)
  next => exact bne_iff_ne.mpr henabled

/-- Where an index has been written before, allowing interrupts tells the device. -/
theorem announced (h : Told num start late vq) {event : Nat}
    (hevent : vq.eventSuppression = true →
      event = offWrap ((start + n) % num) (sense num (start + n))) :
    Told num start n (if vq.eventSuppression then { vq with vring.driver.offWrap := event }
      else vq).allowInterrupts := by
  unfold VirtqueuePacked.allowInterrupts
  by_cases hsuppress : vq.eventSuppression = true
  · rw [if_pos hsuppress]
    split
    next =>
      dsimp only
      exact ⟨rfl, Nat.le_refl _, fun _ => hsuppress, fun _ => hevent hsuppress⟩
    next => exact ⟨h.flags, h.known, h.mode, fun _ => hevent hsuppress⟩
  · rw [if_neg hsuppress]
    split
    next =>
      dsimp only
      exact ⟨rfl, Nat.zero_le _, nofun, nofun⟩
    next => exact ⟨h.flags, h.known, h.mode, fun hdesc => absurd (h.mode hdesc) hsuppress⟩

end Told

section

variable {num start late : Nat} {vq : VirtqueuePacked Token}

/-- Enabling and disabling interrupts only writes the structure and its shadow. -/
theorem announced_eq (vq : VirtqueuePacked Token) (event : Nat) : ∃ shadow driver,
    (if vq.eventSuppression then { vq with vring.driver.offWrap := event }
      else vq).allowInterrupts =
      { vq with eventFlagsShadow := shadow, vring.driver := driver } := by
  unfold VirtqueuePacked.allowInterrupts
  by_cases hsuppress : vq.eventSuppression = true
  · rw [if_pos hsuppress]
    split
    next => exact ⟨_, _, rfl⟩
    next => exact ⟨_, _, rfl⟩
  · rw [if_neg hsuppress]
    split
    next => exact ⟨_, _, rfl⟩
    next => exact ⟨_, _, rfl⟩

theorem disableCb_eq (vq : VirtqueuePacked Token) : ∃ shadow driver,
    vq.virtqueueDisableCbPacked =
      { vq with eventFlagsShadow := shadow, vring.driver := driver } := by
  unfold VirtqueuePacked.virtqueueDisableCbPacked
  split
  next => exact ⟨_, _, rfl⟩
  next => exact ⟨_, _, rfl⟩

/-- `virtqueue_enable_cb` asks for the next descriptor. -/
theorem Told.enableCbPrepare (h : Told num start late vq) (hlast : vq.lastUsedIdx = start % num)
    (hwrap : vq.usedWrapCounter = sense num start) :
    Told num start 0 vq.virtqueueEnableCbPreparePacked :=
  h.announced fun _ => by rw [hlast, hwrap, Nat.add_zero]

/-- `virtqueue_enable_cb_delayed` asks for an interrupt further on. -/
theorem Told.announceLater (h : Told num start late vq) (hpos : 0 < num) (hsmall : num ≤ 2 ^ 15)
    (hsized : vq.vring.num = num) (hlast : vq.lastUsedIdx = start % num)
    (hwrap : vq.usedWrapCounter = sense num start) :
    Told num start (if vq.eventSuppression then vq.delayBufs else 0) vq.announceLater := by
  have hlt := Nat.mod_lt start hpos
  have hbufs : vq.delayBufs ≤ num := by
    rw [VirtqueuePacked.delayBufs, hsized]
    exact Nat.le_trans (Nat.mod_le ..) (by omega)
  have hnum : u16 num = num := Nat.mod_eq_of_lt (by omega)
  have hidx : u16 (start % num + vq.delayBufs) = start % num + vq.delayBufs :=
    Nat.mod_eq_of_lt (by omega)
  refine h.announced fun hsuppress => ?_
  rw [if_pos hsuppress, hsized, hlast, hwrap, hidx, hnum]
  rcases Nat.lt_or_ge (start % num + vq.delayBufs) num with hwithin | hover
  · obtain ⟨hslot, hsense⟩ := on_of_lt hwithin
    rw [if_neg (Nat.not_le_of_lt hwithin), hslot, hsense]
  · obtain ⟨hslot, hsense⟩ := on_of_le hpos hbufs hover
    have hback : u16 (start % num + vq.delayBufs + 2 ^ 16 - num) =
        start % num + vq.delayBufs - num := by
      rw [u16]
      omega
    rw [if_pos hover, hslot, hsense, hback]

theorem Told.disableCb (h : Told num start late vq) :
    Told num start late vq.virtqueueDisableCbPacked := by
  unfold VirtqueuePacked.virtqueueDisableCbPacked
  split
  next => exact ⟨rfl, Nat.le_succ 1, nofun, nofun⟩
  next => exact h

/-- Fetching a request moves the index along. -/
theorem Told.takeUsed {vq' : VirtqueuePacked Token} {token : Token} {len q : Nat}
    (h : Told num start late vq) (htake : vq.takeUsed = some (token, len, vq'))
    (hlast : vq'.lastUsedIdx = q % num) (hwrap : vq'.usedWrapCounter = sense num q) :
    Told num q 0 vq' := by
  obtain ⟨-, -, -, -, hshadow, hmode, hflags, hevent⟩ := takeUsed_kept htake
  exact {
    flags := by rw [hflags, hshadow, h.flags]
    known := hshadow ▸ h.known
    mode := fun hdesc => hmode.trans (h.mode (hshadow ▸ hdesc))
    event := fun hdesc => by rw [hevent (hshadow ▸ hdesc), hlast, hwrap, Nat.add_zero] }

end

/-- A device that interrupts and a driver that waits for it. -/
structure Interrupts (Token : Type*) where
  ring : Ring Token
  /-- How many descriptors were returned since the device last decided. -/
  posted : Nat
  /-- How many returned descriptors the driver's last call may leave without an interrupt. -/
  late : Nat
  /-- The driver waits for more than so many. -/
  asleep : Option Nat
  interrupted : Bool

namespace Interrupts

/-- What can happen. -/
inductive Step (Token : Type*)
  /-- A step of the ring; a driver that is asleep fetches nothing. -/
  | move (label : Label Token)
  /-- The device decides whether to interrupt. -/
  | decide
  /-- `virtqueue_enable_cb` up to its last memory barrier. -/
  | enable
  | enableDelayed
  | disable
  /-- Interrupts are enabled, and the driver sees no used descriptor. -/
  | sleep
  | wake

/-- The driver looks for a used descriptor and fetches it. -/
def fetches : Label Token → Bool
  | .poll => true
  | .get _ _ => true
  | _ => false

section

variable (page : Token → Option Nat) (s : Interrupts Token)

/-- A device that keeps to the driver's structure as the driver keeps to its own. -/
def interrupts : Bool :=
  let num := s.ring.vq.vring.num
  2 ^ 16 ≤ s.posted || needsKick num (s.ring.nextUsed % num) (sense num s.ring.nextUsed) s.posted
    s.ring.vq.vring.driver

/-- How many descriptors the driver has not fetched. -/
def unfetched : Nat :=
  let num := s.ring.vq.vring.num
  (s.ring.nextUsed + 2 * num - place num s.ring.vq.lastUsedIdx s.ring.vq.usedWrapCounter) %
    (2 * num)

/-- One step. -/
def step [DecidableEq Token] : Step Token → Option (Interrupts Token)
  | .move label =>
      if s.asleep.isSome ∧ fetches label then none
      else (s.ring.step page label).map fun ring => { s with
        ring := ring
        posted := s.posted + (ring.nextUsed - s.ring.nextUsed)
        late := if label.returned?.isSome then 0 else s.late }
  | .decide => some { s with interrupted := s.interrupted || s.interrupts, posted := 0 }
  | .enable =>
      if s.asleep = none ∧ s.ring.quiet then
        some { s with ring.vq := s.ring.vq.virtqueueEnableCbPreparePacked, late := 0 }
      else none
  | .enableDelayed =>
      if s.asleep = none ∧ s.ring.quiet then
        some { s with
          ring.vq := s.ring.vq.announceLater
          late := if s.ring.vq.eventSuppression then s.ring.vq.delayBufs else 0 }
      else none
  | .disable =>
      if s.asleep = none ∧ s.ring.quiet then
        some { s with ring.vq := s.ring.vq.virtqueueDisableCbPacked }
      else none
  | .sleep =>
      if s.asleep = none ∧ s.ring.quiet ∧ s.ring.vq.eventFlagsShadow ≠ eventFlagDisable ∧
          ¬ s.ring.vq.moreUsedPacked then
        some { s with asleep := some s.late }
      else none
  | .wake => if s.interrupted then some { s with asleep := none, interrupted := false } else none

/-- Both sides as a system. -/
def system [DecidableEq Token] : System (Interrupts Token) (Step Token) :=
  ⟨fun s label => s.step page label⟩

/-- A ring that was just set up. -/
def start (vq : VirtqueuePacked Token) : Interrupts Token := ⟨.start vq, 0, 0, none, false⟩

/-- The driver only adds requests that it may add. -/
def Allowed : Step Token → Prop
  | .move label => Ring.Allowed page s.ring label
  | _ => True

end

theorem allowInterrupts_ne (vq : VirtqueuePacked Token) :
    vq.allowInterrupts.eventFlagsShadow ≠ eventFlagDisable := by
  unfold VirtqueuePacked.allowInterrupts
  split
  next =>
    dsimp only
    split <;> decide
  next hne => exact hne

section

variable [DecidableEq Token] {page : Token → Option Nat} {s : Interrupts Token}

/-- With interrupts enabled, the driver goes to sleep where it sees nothing. -/
theorem step_sleep_eq (hawake : s.asleep = none) (hquiet : s.ring.quiet = true)
    (henabled : s.ring.vq.eventFlagsShadow ≠ eventFlagDisable) :
    (system page).step s .sleep =
      if !s.ring.vq.moreUsedPacked then some { s with asleep := some s.late } else none := by
  show s.step page .sleep = _
  rw [step]
  simp [hawake, hquiet, henabled]

/-- The call of `virtqueue_enable_cb` whose answer lets a driver go to sleep. -/
theorem run_enable_sleep (hawake : s.asleep = none) (hquiet : s.ring.quiet = true)
    (hlt : s.ring.vq.lastUsedIdx < 2 ^ 15) :
    (system page).run s [.enable, .sleep] =
      if s.ring.vq.virtqueueEnableCbPacked.1 then
        some { s with
          ring.vq := s.ring.vq.virtqueueEnableCbPacked.2, late := 0, asleep := some 0 }
      else none := by
  obtain ⟨shadow, driver, hprepare⟩ : ∃ shadow driver,
      s.ring.vq.virtqueueEnableCbPreparePacked =
        { s.ring.vq with eventFlagsShadow := shadow, vring.driver := driver } := announced_eq ..
  have hsome : (system page).step s .enable =
      some { s with ring.vq := s.ring.vq.virtqueueEnableCbPreparePacked, late := 0 } :=
    if_pos ⟨hawake, hquiet⟩
  have hpoll : s.ring.vq.virtqueueEnableCbPacked.1 =
      !s.ring.vq.virtqueueEnableCbPreparePacked.moreUsedPacked := by
    obtain ⟨hidx, hwrap⟩ := eventIdx_offWrap hlt s.ring.vq.usedWrapCounter
    rw [VirtqueuePacked.virtqueueEnableCbPacked, hprepare]
    dsimp only
    rw [VirtqueuePacked.virtqueuePollPacked, hidx, hwrap]
    rfl
  rw [System.run_pair, hsome, Option.bind_some, hpoll]
  exact step_sleep_eq hawake hquiet (allowInterrupts_ne _)

/-- The call of `virtqueue_enable_cb_delayed` whose answer lets a driver go to sleep. -/
theorem run_enableDelayed_sleep (hawake : s.asleep = none) (hquiet : s.ring.quiet = true) :
    (system page).run s [.enableDelayed, .sleep] =
      if s.ring.vq.virtqueueEnableCbDelayedPacked.1 then
        let late := if s.ring.vq.eventSuppression then s.ring.vq.delayBufs else 0
        some { s with
          ring.vq := s.ring.vq.virtqueueEnableCbDelayedPacked.2, late := late, asleep := some late }
      else none := by
  have hsome : (system page).step s .enableDelayed = some { s with
      ring.vq := s.ring.vq.announceLater
      late := if s.ring.vq.eventSuppression then s.ring.vq.delayBufs else 0 } :=
    if_pos ⟨hawake, hquiet⟩
  rw [System.run_pair, hsome, Option.bind_some]
  exact step_sleep_eq hawake hquiet (allowInterrupts_ne _)

end

/-- What a step is to the doorbell. -/
inductive Shows : Step Token → List (Doorbell.Label DescEvent) → Prop
  | post (k len n : Nat) : Shows (.move (.post k len)) [.make n]
  | get (token : Token) (len n : Nat) (note : DescEvent) :
      Shows (.move (.get token len)) [.see n, .announce note]
  | move (label : Label Token) (hpost : label.posted? = none) (hget : label.returned? = none) :
      Shows (.move label) []
  | decide : Shows .decide [.look false]
  | enable (note : DescEvent) : Shows .enable [.announce note]
  | enableDelayed (note : DescEvent) : Shows .enableDelayed [.announce note]
  | disable (note : DescEvent) : Shows .disable [.announce note]
  | sleep (late : Nat) : Shows .sleep [.doze late]
  | wake : Shows .wake [.wake]

/-- The device makes, the driver sees, and the device knows what it has to. -/
structure Keeps (page : Token → Option Nat) (num : Nat) (g : Ledger Token) (s : Interrupts Token)
    (d : Doorbell DescEvent) : Prop where
  ring : g.Keeps page num s.ring
  made : d.made = g.posted page % (2 * num)
  seen : d.seen = g.start % (2 * num)
  note : d.note = s.ring.vq.vring.driver
  asleep : d.asleep = s.asleep
  rung : d.rung = s.interrupted
  fresh : d.fresh = s.posted
  told : Told num g.start s.late s.ring.vq

variable {page : Token → Option Nat} {num : Nat} {g : Ledger Token} {s s' : Interrupts Token}
variable {d : Doorbell DescEvent}

namespace Keeps

/-- What the driver has not fetched. -/
theorem pending_eq (h : Keeps page num g s d) :
    d.pending (2 * num) = span page (g.answered.map Prod.fst) := by
  obtain ⟨-, hposted, hle, hle', hfits⟩ := h.ring.places
  have hpos := h.ring.pos
  have hplace : g.posted page = g.start + span page (g.answered.map Prod.fst) := rfl
  refine Doorbell.pending_eq (h.seen ▸ Nat.mod_lt _ (by omega)) ?_ (by omega)
  rw [h.made, h.seen, Nat.mod_add_mod, hplace]

theorem unfetched_eq (h : Keeps page num g s d) : s.unfetched = d.pending (2 * num) := by
  obtain ⟨-, hposted, hle, hle', hfits⟩ := h.ring.places
  have hpos := h.ring.pos
  have hplace : g.posted page = g.start + span page (g.answered.map Prod.fst) := rfl
  rw [h.pending_eq, unfetched, h.ring.sized, h.ring.nextUsed, h.ring.lastUsed, h.ring.usedWrap,
    hplace]
  exact behind_eq (by omega) g.start

/-- The device decides as the doorbell does. -/
theorem interrupts_eq (h : Keeps page num g s d) :
    s.interrupts = (noteScheme num).rings d.made d.fresh d.note := by
  show _ = (decide (2 ^ 16 ≤ d.fresh) ||
    needsKick num (d.made % num) (sense num d.made) d.fresh d.note)
  rw [interrupts, h.ring.sized, h.ring.nextUsed, h.made, (mod_two_rounds num _).1,
    (mod_two_rounds num _).2, h.note, h.fresh]

/-- A driver that is awake tells the device something. -/
theorem step_announce {shadow n : Nat} {driver : DescEvent} {vq : VirtqueuePacked Token}
    (h : Keeps page num g s d) (hawake : s.asleep = none)
    (hvq : vq = { s.ring.vq with eventFlagsShadow := shadow, vring.driver := driver })
    (htold : Told num g.start n vq) :
    ∃ d', (Doorbell.system (noteScheme num)).run d [.announce driver] = some d' ∧
      Keeps page num g { s with ring.vq := vq, late := n } d' := by
  subst hvq
  exact ⟨_, Doorbell.run_announce driver (h.asleep.trans hawake), {
    ring := h.ring.aside _ shadow _ driver _, made := h.made, seen := h.seen, note := rfl
    asleep := h.asleep, rung := h.rung, fresh := h.fresh, told := htold }⟩

variable {label : Label Token} [DecidableEq Token]

/-- A step of the ring moves the places of the doorbell. -/
theorem step_move (h : Keeps page num g s d) (hallowed : s.Allowed page (.move label))
    (hstep : s.step page (.move label) = some s') :
    ∃ moves g' d', Shows (.move label) moves ∧
      (Doorbell.system (noteScheme num)).run d moves = some d' ∧ Keeps page num g' s' d' := by
  rw [Interrupts.step, Option.ite_none_left_eq_some] at hstep
  obtain ⟨hawake, hstep⟩ := hstep
  obtain ⟨ring, hring, rfl⟩ := Option.map_eq_some_iff.mp hstep
  obtain ⟨actions, -, g', -, hbooks, hkeeps⟩ := h.ring.follows hallowed hring
  obtain ⟨-, -, hle, hle', hfits⟩ := h.ring.places
  have hpending := h.pending_eq
  cases hget : label.returned? with
  | some answer =>
      cases hbooks with
      | @get lot len rest hanswered free =>
          have hnot : s.asleep = none := by
            rw [← Option.not_isSome_iff_eq_none]
            exact fun hasleep => hawake ⟨hasleep, rfl⟩
          have hless : lot.size page ≤ d.pending (2 * num) := by
            rw [hpending, hanswered, List.map_cons, span, List.map_cons, List.sum_cons]
            exact Nat.le_add_right ..
          have hposted := Ledger.posted_get page hanswered free
          exact ⟨_, _, _, .get _ len (lot.size page) ring.vq.vring.driver,
            Doorbell.run_see_announce _ (h.asleep.trans hnot) hless, {
              ring := hkeeps
              made := by rw [hposted, h.made]
              seen := by rw [h.seen]; exact Nat.mod_add_mod ..
              note := rfl, asleep := h.asleep, rung := h.rung
              fresh := by
                rw [hkeeps.nextUsed, hposted, ← h.ring.nextUsed, Nat.sub_self]
                exact h.fresh
              told := h.told.takeUsed (Ring.step_takeUsed hring) hkeeps.lastUsed
                hkeeps.usedWrap }⟩
      | _ => cases hget
  | none =>
      obtain ⟨hdriver, hshadow, hmode⟩ := h.ring.silent hallowed hring hget
      have hstart := hbooks.start_eq hget
      have htold := h.told.congr hdriver hshadow hmode
      cases hpost : label.posted? with
      | none =>
          have hposted := hbooks.posted_eq hpost
          exact ⟨[], g', d, .move label hpost hget, rfl, {
            ring := hkeeps, made := hposted ▸ h.made, seen := hstart ▸ h.seen
            note := h.note.trans hdriver.symm, asleep := h.asleep, rung := h.rung
            fresh := by
              rw [hkeeps.nextUsed, hposted, ← h.ring.nextUsed, Nat.sub_self]
              exact h.fresh
            told := hstart ▸ htold }⟩
      | some len =>
          cases hbooks with
          | @post k lot hheld len =>
              have hposted := Ledger.posted_post page g lot k len
              have hroom : d.pending (2 * num) + lot.size page ≤ num := by
                have hmore := (h.ring.held_le hheld).2
                have hplace : g.posted page = g.start + span page (g.answered.map Prod.fst) := rfl
                omega
              exact ⟨_, _, _, .post k len (lot.size page), Doorbell.run_make hroom, {
                ring := hkeeps
                made := by rw [hposted, h.made]; exact Nat.mod_add_mod ..
                seen := h.seen, note := h.note.trans hdriver.symm, asleep := h.asleep
                rung := h.rung
                fresh := by
                  rw [hkeeps.nextUsed, hposted, ← h.ring.nextUsed, Nat.add_sub_cancel_left,
                    h.fresh]
                told := htold }⟩
          | _ => cases hpost

end Keeps

/-- The state has a ledger that the doorbell agrees with. -/
def Rings (page : Token → Option Nat) (num : Nat) (s : Interrupts Token)
    (d : Doorbell DescEvent) : Prop :=
  ∃ g, Keeps page num g s d

variable {tables : Nat → Nat → PackedDesc} {suppress : Bool}

/-- What the doorbell is at first. -/
theorem keeps_start (hpos : 0 < num) (hsmall : num ≤ 2 ^ 15) :
    Keeps page num (.start₀ num)
      (start (vringNewVirtqueuePacked (zeroPages num tables) suppress) : Interrupts Token)
      ⟨0, 0, 0, ⟨0, 0⟩, none, false⟩ where
  ring := Ledger.keeps_start hpos hsmall
  made := (Nat.zero_mod _).symm
  seen := (Nat.zero_mod _).symm
  note := rfl
  asleep := rfl
  rung := rfl
  fresh := rfl
  told := ⟨rfl, Nat.zero_le _, nofun, nofun⟩

variable [DecidableEq Token]

theorem simulates : (system page).Simulates (Allowed page) (Doorbell.system (noteScheme num))
    Shows (Rings page num) where
  step := by
    rintro s label s' d ⟨g, h⟩ hallowed hstep
    cases label with
    | move label =>
        obtain ⟨moves, g', d', hshows, hrun, hkeeps⟩ := h.step_move hallowed hstep
        exact ⟨moves, d', hshows, hrun, g', hkeeps⟩
    | decide =>
        obtain rfl := Option.some.inj hstep
        refine ⟨_, _, .decide, Doorbell.run_look false, g, {
          ring := h.ring, made := h.made, seen := h.seen, note := h.note, asleep := h.asleep
          rung := ?_, fresh := rfl, told := h.told }⟩
        rw [h.interrupts_eq, ← h.rung, Bool.or_false]
    | enable =>
        obtain ⟨⟨hawake, -⟩, ⟨⟩⟩ := Option.ite_none_right_eq_some.mp hstep
        obtain ⟨shadow, driver, hvq⟩ := announced_eq s.ring.vq _
        obtain ⟨d', hrun, hkeeps⟩ :=
          h.step_announce hawake hvq (h.told.enableCbPrepare h.ring.lastUsed h.ring.usedWrap)
        exact ⟨_, d', .enable driver, hrun, g, hkeeps⟩
    | enableDelayed =>
        obtain ⟨⟨hawake, -⟩, ⟨⟩⟩ := Option.ite_none_right_eq_some.mp hstep
        obtain ⟨shadow, driver, hvq⟩ := announced_eq s.ring.vq _
        obtain ⟨d', hrun, hkeeps⟩ := h.step_announce hawake hvq
          (h.told.announceLater h.ring.pos h.ring.small h.ring.sized h.ring.lastUsed
            h.ring.usedWrap)
        exact ⟨_, d', .enableDelayed driver, hrun, g, hkeeps⟩
    | disable =>
        obtain ⟨⟨hawake, -⟩, ⟨⟩⟩ := Option.ite_none_right_eq_some.mp hstep
        obtain ⟨shadow, driver, hvq⟩ := disableCb_eq s.ring.vq
        obtain ⟨d', hrun, hkeeps⟩ := h.step_announce hawake hvq h.told.disableCb
        exact ⟨_, d', .disable driver, hrun, g, hkeeps⟩
    | sleep =>
        obtain ⟨⟨hawake, hquiet, henabled, hnone⟩, ⟨⟩⟩ := Option.ite_none_right_eq_some.mp hstep
        rw [Ring.quiet, Bool.and_eq_true, Option.isNone_iff_eq_none] at hquiet
        rw [h.ring.moreUsed_iff hquiet.1, not_not] at hnone
        refine ⟨_, _, .sleep s.late, Doorbell.run_doze (h.asleep.trans hawake) ?_ ?_, g, {
          ring := h.ring, made := h.made, seen := h.seen, note := h.note, asleep := rfl
          rung := h.rung, fresh := h.fresh, told := h.told }⟩
        · rw [h.note, h.seen]
          exact (noteScheme_armed_mod ..).trans (h.told.armed henabled)
        · show d.pending (2 * num) ≤ s.late
          rw [h.pending_eq, hnone]
          exact Nat.zero_le _
    | wake =>
        obtain ⟨hrung, ⟨⟩⟩ := Option.ite_none_right_eq_some.mp hstep
        exact ⟨_, _, .wake, Doorbell.run_wake (h.rung.trans hrung), g, {
          ring := h.ring, made := h.made, seen := h.seen, note := h.note, asleep := rfl
          rung := rfl, fresh := h.fresh, told := h.told }⟩

/-- A driver that waits gets an interrupt as soon as more descriptors are returned than it waits
for and the device has decided: however it has asked for the interrupt, whatever order the two
have taken their steps in. -/
theorem interrupted_of_returned {late : Nat} (hpos : 0 < num) (hsmall : num ≤ 2 ^ 15)
    (hreach : (system page).ReachUnder (Allowed page)
      (start (vringNewVirtqueuePacked (zeroPages num tables) suppress)) s)
    (hasleep : s.asleep = some late) (hmore : late < s.unfetched)
    (hdecided : s.posted = 0) : s.interrupted = true := by
  obtain ⟨d, hdoorbell, g, h⟩ := simulates.reach ⟨_, keeps_start hpos hsmall⟩ hreach
  have hword : 0 < (noteScheme num).word := Nat.mul_pos Nat.two_pos hpos
  exact h.rung.symm.trans (Doorbell.never_missed (noteScheme_sound hpos hsmall) (.init hword _)
    hdoorbell (h.asleep.trans hasleep) (h.unfetched_eq ▸ hmore) (h.fresh.trans hdecided))

/-- The driver sleeps when a request comes back. -/
theorem exists_returned : ∃ s : Interrupts Nat,
    (system fun _ => none).RunUnder (Allowed fun _ => none)
      (start (vringNewVirtqueuePacked (zeroPages 4 zeroTables) false))
      [.move (.add (twoPieces 7)), .move .publish, .move (.take (twoPieces 7).pieces), .sleep,
        .move (.write 0 24), .move (.post 0 24), .decide] s ∧
    s.asleep = some 0 ∧ 0 < s.unfetched ∧ s.posted = 0 :=
  ⟨_, .cons ⟨by decide, nofun, nofun⟩ rfl <| .cons trivial rfl <| .cons trivial rfl <|
    .cons trivial rfl <| .cons trivial rfl <| .cons trivial rfl <| .cons trivial rfl <| .nil _,
    rfl, by decide, rfl⟩

theorem interrupted_of_returned_first :
    ∃ s : Interrupts Nat, s.asleep = some 0 ∧ s.interrupted = true := by
  obtain ⟨s, hrun, hasleep, hmore, hdecided⟩ := exists_returned
  exact ⟨s, hasleep, interrupted_of_returned (by decide) (by decide)
    (System.ReachUnder.refl.follow hrun) hasleep hmore hdecided⟩

/-- `virtqueue_is_interrupt_enabled` says that interrupts are enabled exactly if the device has
been told never to interrupt. -/
theorem isInterruptEnabled_iff (hpos : 0 < num) (hsmall : num ≤ 2 ^ 15)
    (hreach : (system page).ReachUnder (Allowed page)
      (start (vringNewVirtqueuePacked (zeroPages num tables) suppress)) s) :
    s.ring.vq.virtqueueIsInterruptEnabledPacked = true ↔
      s.ring.vq.vring.driver.flags = eventFlagDisable := by
  obtain ⟨d, -, g, h⟩ := simulates.reach ⟨_, keeps_start hpos hsmall⟩ hreach
  have hflags : ∀ flags ≤ eventFlagDesc,
      flags &&& eventFlagDisable ≠ 0 ↔ flags = eventFlagDisable := by
    decide
  rw [h.told.flags, VirtqueuePacked.virtqueueIsInterruptEnabledPacked, decide_eq_true_iff]
  exact hflags _ h.told.known

theorem isInterruptEnabled_iff_returned : ∃ s : Interrupts Nat, s.asleep = some 0 ∧
    (s.ring.vq.virtqueueIsInterruptEnabledPacked = true ↔
      s.ring.vq.vring.driver.flags = eventFlagDisable) := by
  obtain ⟨s, hrun, hasleep, -⟩ := exists_returned
  exact ⟨s, hasleep, isInterruptEnabled_iff (by decide) (by decide)
    (System.ReachUnder.refl.follow hrun)⟩

end Interrupts

end VirtDisplay.Virtio.PackedRing
