/-
# Kicks of a packed ring

A device that has found no request writes what it wants to be notified of, looks once more, and
goes to sleep. The driver adds requests and kicks whenever it likes. As long as no request of
regular descriptors fills the whole ring, and the driver kicks before it has added as many
descriptors as sixteen bits can count, no request is left lying.

The one condition is needed. `avail_wrap_counter` is toggled where the next index has become
smaller, and after a whole round it has not: so the counter is right exactly if the number of
requests that fill the ring is even, and otherwise a device that waits for the next descriptor
is never notified of it.
-/

import VirtDisplay.Virtio.PackedNotify

namespace VirtDisplay.Virtio.PackedRing

open Rounds Transition

variable {Token : Type*}

/-- A request whose regular descriptors fill the ring. -/
def fillsRing (page : Token → Option Nat) (num : Nat) : Label Token → Bool
  | .add r => (page r.token).isNone && r.sg.length == num
  | _ => false

section

variable [DecidableEq Token] {page : Token → Option Nat} {num : Nat} {g : Ledger Token}
variable {s s' : Ring Token} {label : Label Token}

/-- What one step does to the agreement of counter and flags. -/
theorem Ledger.Keeps.agree (h : g.Keeps page num s) (hallowed : Ring.Allowed page s label)
    (hstep : s.step page label = some s') :
    s'.vq.availWrapCounter = s'.vq.availFlag ↔
      (s.vq.availWrapCounter = s.vq.availFlag ↔ fillsRing page num label = false) := by
  cases hadd : label.accepted? with
  | none =>
      obtain ⟨-, hflag, hwrap, -⟩ := Ring.step_kept hstep hadd
      have hfills : fillsRing page num label = false := by
        cases label with
        | add r => cases hadd
        | _ => rfl
      rw [hflag, hwrap, hfills]
      simp
  | some r =>
      obtain rfl : label = .add r := by
        cases label with
        | add r => exact congrArg Label.add (Option.some.inj hadd)
        | _ => cases hadd
      obtain ⟨lot, head, flags, rfl, hreadied⟩ := h.added hallowed hstep
      have hflag := hreadied.next.avail
      rw [hreadied.sized] at hflag
      rw [hflag, h.next.avail, hreadied.availWrap, h.sized, fillsRing]
      cases hpage : page lot.request.token with
      | some p => simp
      | none => simp [cost, hpage]

end

/-- A driver that kicks and a device that sleeps. -/
structure Kicks (Token : Type*) where
  ring : Ring Token
  asleep : Bool
  notified : Bool

namespace Kicks

/-- What can happen. -/
inductive Step (Token : Type*)
  /-- A step of the ring; a device that is asleep takes nothing. -/
  | move (label : Label Token)
  /-- `virtqueue_kick` -/
  | kick
  | kickAlways
  /-- A device that is awake writes what it wants to be notified of. -/
  | announce (note : DescEvent)
  | sleep
  | wake

section

variable (page : Token → Option Nat) (s : Kicks Token)

/-- The device has said that it wants to be notified of the next request. -/
def armed : Bool :=
  let note := s.ring.vq.vring.device
  if note.flags = eventFlagDesc then
    note.offWrap == offWrap (s.ring.nextAvail % s.ring.vq.vring.num)
      (sense s.ring.vq.vring.num s.ring.nextAvail)
  else note.flags != eventFlagDisable

/-- The device finds a request. -/
def isAvail : Bool := PackedRing.isAvail s.ring.vq.vring.num s.ring.vq.vring.desc s.ring.nextAvail

/-- One step. -/
def step [DecidableEq Token] : Step Token → Option (Kicks Token)
  | .move label =>
      if s.asleep ∧ label.seen?.isSome then none
      else (s.ring.step page label).map fun ring => { s with ring := ring }
  | .kick =>
      if s.ring.quiet then
        let (notify, vq) := s.ring.vq.virtqueueKickPreparePacked
        some { s with ring.vq := vq, notified := s.notified || notify }
      else none
  | .kickAlways =>
      if s.ring.quiet then
        let (notify, vq) := s.ring.vq.virtqueueKickAlwaysPacked
        some { s with ring.vq := vq, notified := s.notified || notify }
      else none
  | .announce note =>
      if ¬ s.asleep then some { s with ring.vq.vring.device := note } else none
  | .sleep =>
      if ¬ s.asleep ∧ s.armed ∧ ¬ s.isAvail then some { s with asleep := true } else none
  | .wake => if s.notified then some { s with asleep := false, notified := false } else none

/-- Both sides as a system. -/
def system [DecidableEq Token] : System (Kicks Token) (Step Token) :=
  ⟨fun s label => s.step page label⟩

/-- A ring that was just set up. -/
def start (vq : VirtqueuePacked Token) : Kicks Token := ⟨.start vq, false, false⟩

/-- The driver adds what it may add, and kicks whenever it likes. -/
def Adds : Step Token → Prop
  | .move label => Ring.Allowed page s.ring label
  | _ => True

/-- The driver adds what it may add, its regular descriptors do not fill the ring, and it kicks
before it has added as many as sixteen bits can count. -/
def Allowed : Step Token → Prop
  | .move (.add r) =>
      Careful page s.ring.vq r ∧ fillsRing page s.ring.vq.vring.num (.add r) = false ∧
        s.ring.vq.numAdded + cost page r < 2 ^ 16
  | .move (.full r) => Careful page s.ring.vq r
  | _ => True

end

/-- The step of the ring, if it is one. -/
def Step.label? : Step Token → Option (Label Token)
  | .move label => some label
  | _ => none

/-- The number of descriptors added since the last kick, with one more step. -/
def Step.count (page : Token → Option Nat) (n : Nat) : Step Token → Nat
  | .move (.add r) => n + cost page r
  | .kick => 0
  | .kickAlways => 0
  | _ => n

/-- The number of descriptors that a run has added since its last kick. -/
def sinceKick (page : Token → Option Nat) (steps : List (Step Token)) : Nat :=
  steps.foldl (Step.count page) 0

/-- What the steps of a run have come to, whatever the driver adds and whenever it kicks. -/
structure Counted (page : Token → Option Nat) (num : Nat) [DecidableEq Token] (g : Ledger Token)
    (steps : List (Step Token)) (s : Kicks Token) : Prop where
  ring : g.Keeps page num s.ring
  exchange : ∃ shown, List.Forall₂ Virtio.Shows (steps.filterMap Step.label?) shown ∧
    (Exchange.system (cost page) num).run .idle shown.flatten = some g.exchange
  agree : s.ring.vq.availWrapCounter = s.ring.vq.availFlag ↔
    Even ((steps.filterMap Step.label?).countP (fillsRing page num))
  added : s.ring.vq.numAdded = sinceKick page steps % 2 ^ 32

section

variable [DecidableEq Token] {page : Token → Option Nat} {num : Nat} {g : Ledger Token}
variable {steps : List (Step Token)} {s : Kicks Token} {ring : Ring Token} {label : Label Token}

namespace Counted

/-- A step of the ring. -/
theorem move (h : Counted page num g steps s) (hallowed : Ring.Allowed page s.ring label)
    (hstep : s.ring.step page label = some ring) :
    ∃ g', Counted page num g' (steps ++ [.move label]) { s with ring := ring } := by
  obtain ⟨actions, hshows, g', hrun, -, hkeeps⟩ := h.ring.follows hallowed hstep
  obtain ⟨shown, hshown, hbefore⟩ := h.exchange
  have hlabels : (steps ++ [Step.move label]).filterMap Step.label? =
      steps.filterMap Step.label? ++ [label] := List.filterMap_append ..
  refine ⟨g', hkeeps, ⟨shown ++ [actions], ?_, ?_⟩, ?_, ?_⟩
  · rw [hlabels]
    exact List.rel_append hshown (.cons hshows .nil)
  · rw [List.flatten_append, System.run_append, hbefore, List.flatten_singleton]
    exact hrun
  · refine (h.ring.agree hallowed hstep).trans ?_
    rw [h.agree, hlabels, List.countP_append, List.countP_singleton]
    cases fillsRing page num label with
    | false => simp
    | true => simp [Nat.even_add_one]
  · rw [sinceKick, List.foldl_append]
    cases hadd : label.accepted? with
    | none =>
        have hcount : Step.count page (sinceKick page steps) (.move label) =
            sinceKick page steps := by
          cases label with
          | add r => cases hadd
          | _ => rfl
        exact (Ring.step_kept hstep hadd).1.trans
          (h.added.trans (congrArg (· % 2 ^ 32) hcount.symm))
    | some r =>
        obtain rfl : label = .add r := by
          cases label with
          | add r => exact congrArg Label.add (Option.some.inj hadd)
          | _ => cases hadd
        obtain ⟨lot, head, flags, rfl, hreadied⟩ := h.ring.added hallowed hstep
        rw [hreadied.numAdded, h.added]
        exact Nat.mod_add_mod ..

/-- A step of another kind leaves the ring as it is, but for what is about notifications. -/
theorem aside (h : Counted page num g steps s) {step : Step Token} (hlabel : step.label? = none)
    {added : Nat} (hadded : added = step.count page (sinceKick page steps) % 2 ^ 32)
    (note : DescEvent) (asleep notified : Bool) :
    Counted page num g (steps ++ [step])
      ⟨{ s.ring with vq.numAdded := added, vq.vring.device := note }, asleep, notified⟩ := by
  have hlabels : (steps ++ [step]).filterMap Step.label? = steps.filterMap Step.label? := by
    rw [List.filterMap_append, Exchange.filterMap_singleton, hlabel, Option.toList_none,
      List.append_nil]
  refine ⟨h.ring.aside added _ _ _ note, hlabels ▸ h.exchange, hlabels ▸ h.agree, ?_⟩
  rw [sinceKick, List.foldl_append]
  exact hadded

theorem step (h : Counted page num g steps s) {step : Step Token} {s' : Kicks Token}
    (hadds : s.Adds page step) (hstep : s.step page step = some s') :
    ∃ g', Counted page num g' (steps ++ [step]) s' := by
  cases step with
  | move label =>
      obtain ⟨-, hstep⟩ := Option.ite_none_left_eq_some.mp hstep
      obtain ⟨ring, hring, rfl⟩ := Option.map_eq_some_iff.mp hstep
      exact h.move hadds hring
  | kick =>
      obtain ⟨-, ⟨⟩⟩ := Option.ite_none_right_eq_some.mp hstep
      exact ⟨g, h.aside rfl rfl _ _ _⟩
  | kickAlways =>
      obtain ⟨-, ⟨⟩⟩ := Option.ite_none_right_eq_some.mp hstep
      exact ⟨g, h.aside rfl rfl _ _ _⟩
  | announce note =>
      obtain ⟨-, ⟨⟩⟩ := Option.ite_none_right_eq_some.mp hstep
      exact ⟨g, h.aside rfl h.added note _ _⟩
  | sleep =>
      obtain ⟨-, ⟨⟩⟩ := Option.ite_none_right_eq_some.mp hstep
      exact ⟨g, h.aside rfl h.added _ _ _⟩
  | wake =>
      obtain ⟨-, ⟨⟩⟩ := Option.ite_none_right_eq_some.mp hstep
      exact ⟨g, h.aside rfl h.added _ _ _⟩

/-- What waits for the device is what the run leaves waiting. -/
theorem leaves (h : Counted page num g steps s) :
    ∃ back, Leaves (steps.filterMap Step.label?) back g.exchange := by
  obtain ⟨shown, hshown, hrun⟩ := h.exchange
  exact ⟨_, leaves_of_shows hshown (Exchange.run_account hrun)⟩

/-- What the driver decides for a device that waits for the next request. -/
theorem needsKick_iff (h : Counted page num g steps s) (hsmall : num ≤ 2 ^ 15)
    (hquiet : s.ring.quiet = true) (hfew : sinceKick page steps ≤ num)
    (hdevice : s.ring.vq.vring.device =
      ⟨offWrap (s.ring.nextAvail % num) (sense num s.ring.nextAvail), eventFlagDesc⟩)
    (hne : g.exchange.waiting ≠ []) :
    s.ring.vq.virtqueueKickPreparePacked.1 = true ↔
      (g.exchange.waiting.map (cost page)).sum ≤ sinceKick page steps ∧
        Even ((steps.filterMap Step.label?).countP (fillsRing page num)) := by
  rw [Ring.quiet, Bool.and_eq_true, Option.isNone_iff_eq_none] at hquiet
  have hstaged := h.ring.quiet hquiet.1
  obtain ⟨hstart, hposted, -, -, hfits⟩ := h.ring.places
  have hpos := h.ring.pos
  have hadded : s.ring.vq.numAdded = sinceKick page steps :=
    h.added.trans (Nat.mod_eq_of_lt (by omega))
  have hwaiting : (g.exchange.waiting.map (cost page)).sum = span page g.waiting := by
    rw [Ledger.exchange, hstaged, Option.toList_none, List.append_nil, List.map_map]
    rfl
  have hstop : g.stop page = g.taken page + span page g.waiting := by
    rw [Ledger.stop, hstaged, Ledger.shown]
    rfl
  have hn : 0 < span page g.waiting := by
    rw [Ledger.exchange, hstaged, Option.toList_none, List.append_nil, Ne, List.map_eq_nil_iff]
      at hne
    obtain ⟨lot, rest, hlot⟩ := List.exists_cons_of_ne_nil hne
    have hmem : lot ∈ g.lots := by simp [Ledger.lots, hlot]
    have hsize := h.ring.size_pos hmem
    rw [span, hlot, List.map_cons, List.sum_cons]
    omega
  have hidx := h.ring.next.next
  have hflag := h.ring.next.avail
  rw [h.ring.sized, hstop] at hidx hflag
  rw [VirtqueuePacked.virtqueueKickPreparePacked, hdevice, h.ring.sized, hidx, h.ring.nextAvail,
    hadded, hwaiting, ← h.agree, hflag]
  by_cases hright : s.ring.vq.availWrapCounter = sense num (g.taken page + span page g.waiting)
  · rw [hright, PackedRing.needsKick_iff hpos hsmall hn (by omega) (by omega)]
    exact (and_iff_left rfl).symm
  · rw [Bool.eq_not.mpr hright, needsKick_wrong hpos hsmall hn (by omega) hfew]
    simp

end Counted

/-- In every run, a device that waits for the next request is notified exactly if what it has
not taken was added since the last kick and the number of requests whose regular descriptors
have filled the ring is even. -/
theorem needsKick_iff_even {tables : Nat → Nat → PackedDesc} {suppress : Bool} (hpos : 0 < num)
    (hsmall : num ≤ 2 ^ 15)
    (hrun : (system page).RunUnder (Adds page)
      (start (vringNewVirtqueuePacked (zeroPages num tables) suppress)) steps s)
    (hquiet : s.ring.quiet = true) (hfew : sinceKick page steps ≤ num)
    (hdevice : s.ring.vq.vring.device =
      ⟨offWrap (s.ring.nextAvail % num) (sense num s.ring.nextAvail), eventFlagDesc⟩) :
    ∃ back e, Leaves (steps.filterMap Step.label?) back e ∧ (e.waiting ≠ [] →
      (s.ring.vq.virtqueueKickPreparePacked.1 = true ↔
        (e.waiting.map (cost page)).sum ≤ sinceKick page steps ∧
          Even ((steps.filterMap Step.label?).countP (fillsRing page num)))) := by
  have hstart : Counted page num (.start₀ num) []
      (start (vringNewVirtqueuePacked (zeroPages num tables) suppress)) :=
    ⟨Ledger.keeps_start hpos hsmall, ⟨[], .nil, rfl⟩, iff_of_true rfl Even.zero, rfl⟩
  have hcounted : ∃ g, Counted page num g steps s :=
    hrun.invariant (P := fun steps s => ∃ g, Counted page num g steps s) ⟨_, hstart⟩
      fun ⟨_, h⟩ hadds hstep => h.step hadds hstep
  obtain ⟨g, h⟩ := hcounted
  obtain ⟨back, hleaves⟩ := h.leaves
  exact ⟨back, _, hleaves, h.needsKick_iff hsmall hquiet hfew hdevice⟩

/-- A request fills the ring of two and comes back; the next one has one piece. -/
def afterRound : List (Step Nat) :=
  [.move (.add (twoPieces 7)), .move .publish, .kick, .move (.take (twoPieces 7).pieces),
    .move (.write 0 24), .move (.post 0 24), .move .poll, .move (.get 7 24),
    .announce ⟨offWrap 0 false, eventFlagDesc⟩,
    .move (.add ⟨[⟨4096, 24⟩], 1, 8⟩), .move .publish]

theorem needsKick_iff_even_afterRound : ∃ (s : Kicks Nat) (e : Exchange (Request Nat) Nat),
    e.waiting ≠ [] → (s.ring.vq.virtqueueKickPreparePacked.1 = true ↔
      (e.waiting.map (cost fun _ => none)).sum ≤ 1 ∧ Even 1) := by
  obtain ⟨s, hrun, hquiet, hdevice⟩ : ∃ s,
      (system fun _ : Nat => none).RunUnder (Adds fun _ => none)
        (start (vringNewVirtqueuePacked (zeroPages 2 zeroTables) false)) afterRound s ∧
      s.ring.quiet = true ∧ s.ring.vq.vring.device =
        ⟨offWrap (s.ring.nextAvail % 2) (sense 2 s.ring.nextAvail), eventFlagDesc⟩ :=
    ⟨_, .cons ⟨by decide, nofun, nofun⟩ rfl <| .cons trivial rfl <| .cons trivial rfl <|
      .cons trivial rfl <| .cons trivial rfl <| .cons trivial rfl <| .cons trivial rfl <|
      .cons trivial rfl <| .cons trivial rfl <| .cons ⟨by decide, nofun, nofun⟩ rfl <|
      .cons trivial rfl <| .nil _, rfl, rfl⟩
  obtain ⟨back, e, -, hkick⟩ := needsKick_iff_even (by decide) (by decide) hrun hquiet
    (by decide) hdevice
  exact ⟨s, e, hkick⟩

end

/-- What a step is to the doorbell. -/
inductive Shows (page : Token → Option Nat) : Step Token → List (Doorbell.Label DescEvent) → Prop
  | publish (n : Nat) : Shows page (.move .publish) [.make n]
  | take (pieces : List Piece) (n : Nat) : Shows page (.move (.take pieces)) [.see n]
  | move (label : Label Token) (hpublish : label ≠ .publish) (htake : label.seen? = none) :
      Shows page (.move label) []
  | kick : Shows page .kick [.look false]
  | kickAlways : Shows page .kickAlways [.look true]
  | announce (note : DescEvent) : Shows page (.announce note) [.announce note]
  | sleep : Shows page .sleep [.doze 0]
  | wake : Shows page .wake [.wake]

/-- The doorbell has the places of the ledger, modulo two rounds. -/
structure Keeps (page : Token → Option Nat) (num : Nat) (g : Ledger Token) (s : Kicks Token)
    (d : Doorbell DescEvent) : Prop where
  ring : g.Keeps page num s.ring
  made : d.made = g.shown page % (2 * num)
  seen : d.seen = g.taken page % (2 * num)
  note : d.note = s.ring.vq.vring.device
  asleep : d.asleep = if s.asleep then some 0 else none
  rung : d.rung = s.notified
  fresh : s.ring.vq.numAdded = d.fresh + span page g.staged.toList
  few : s.ring.vq.numAdded < 2 ^ 16
  wrap : s.ring.vq.availWrapCounter = s.ring.vq.availFlag

variable {page : Token → Option Nat} {num : Nat} {g : Ledger Token} {s s' : Kicks Token}
variable {d : Doorbell DescEvent}

namespace Keeps

/-- What the device has not taken. -/
theorem pending_eq (h : Keeps page num g s d) : d.pending (2 * num) = span page g.waiting := by
  obtain ⟨hstart, hposted, -, hle, hfits⟩ := h.ring.places
  have hpos := h.ring.pos
  have hshown : g.shown page = g.taken page + span page g.waiting := rfl
  refine Doorbell.pending_eq (h.seen ▸ Nat.mod_lt _ (by omega)) ?_ (by omega)
  rw [h.made, h.seen, Nat.mod_add_mod, hshown]

/-- The driver decides as the doorbell does. -/
theorem needsKick_eq (h : Keeps page num g s d) (hquiet : s.ring.quiet = true) :
    needsKick s.ring.vq.vring.num s.ring.vq.nextAvailIdx s.ring.vq.availWrapCounter
        s.ring.vq.numAdded s.ring.vq.vring.device =
      (noteScheme num).rings d.made d.fresh d.note := by
  rw [Ring.quiet, Bool.and_eq_true, Option.isNone_iff_eq_none] at hquiet
  have hstaged := h.ring.quiet hquiet.1
  have hshown : g.shown page = g.stop page := by
    rw [Ledger.stop, hstaged]
    rfl
  have hfresh : d.fresh = s.ring.vq.numAdded := by
    rw [h.fresh, hstaged]
    rfl
  have hidx := h.ring.next.next
  have hflag := h.ring.next.avail
  have hfew := h.few
  rw [h.ring.sized] at hidx hflag
  show _ = (decide (2 ^ 16 ≤ d.fresh) ||
    needsKick num (d.made % num) (sense num d.made) d.fresh d.note)
  rw [h.made, (mod_two_rounds num _).1, (mod_two_rounds num _).2, h.note, hfresh, hshown, h.wrap,
    h.ring.sized, hidx, hflag, decide_eq_false (by omega), Bool.false_or]

/-- The driver looks whether to kick, or kicks in any case. -/
theorem step_look (anyway : Bool) (h : Keeps page num g s d) (hquiet : s.ring.quiet = true) :
    ∃ d', (Doorbell.system (noteScheme num)).run d [.look anyway] = some d' ∧
      Keeps page num g { s with
        ring.vq.numAdded := 0
        notified := s.notified || (anyway || needsKick s.ring.vq.vring.num s.ring.vq.nextAvailIdx
          s.ring.vq.availWrapCounter s.ring.vq.numAdded s.ring.vq.vring.device) } d' := by
  refine ⟨_, Doorbell.run_look anyway, ?_⟩
  have hdecided := h.needsKick_eq hquiet
  rw [Ring.quiet, Bool.and_eq_true, Option.isNone_iff_eq_none] at hquiet
  exact {
    ring := h.ring.aside 0 _ _ _ _, made := h.made, seen := h.seen, note := h.note
    asleep := h.asleep
    rung := by
      rw [hdecided, h.rung, Bool.or_assoc]
    fresh := by
      rw [h.ring.quiet hquiet.1]
      rfl
    few := Nat.two_pow_pos 16, wrap := h.wrap }

theorem step_announce (h : Keeps page num g s d) (note : DescEvent)
    (hawake : ¬ s.asleep = true) :
    ∃ d', (Doorbell.system (noteScheme num)).run d [.announce note] = some d' ∧
      Keeps page num g { s with ring.vq.vring.device := note } d' :=
  ⟨_, Doorbell.run_announce note (h.asleep.trans (if_neg hawake)), {
    ring := h.ring.aside _ _ _ _ note, made := h.made, seen := h.seen, note := rfl
    asleep := h.asleep, rung := h.rung, fresh := h.fresh, few := h.few, wrap := h.wrap }⟩

/-- A device that finds no request has taken all that are visible. -/
theorem step_sleep (h : Keeps page num g s d) (hawake : ¬ s.asleep = true)
    (harmed : s.armed = true) (hnone : ¬ s.isAvail = true) :
    ∃ d', (Doorbell.system (noteScheme num)).run d [.doze 0] = some d' ∧
      Keeps page num g { s with asleep := true } d' := by
  rw [isAvail, h.ring.sized, h.ring.nextAvail, h.ring.isAvail_iff, not_not] at hnone
  rw [armed, h.ring.sized, h.ring.nextAvail] at harmed
  refine ⟨_, Doorbell.run_doze (h.asleep.trans (if_neg hawake)) ?_ ?_, {
    ring := h.ring, made := h.made, seen := h.seen, note := h.note, asleep := rfl
    rung := h.rung, fresh := h.fresh, few := h.few, wrap := h.wrap }⟩
  · rw [h.note, h.seen]
    simp only [noteScheme, Nat.add_zero, mod_two_rounds]
    exact harmed
  · show d.pending (2 * num) ≤ 0
    rw [h.pending_eq, hnone]
    exact Nat.le_refl 0

theorem step_wake (h : Keeps page num g s d) (hnotified : s.notified = true) :
    ∃ d', (Doorbell.system (noteScheme num)).run d [.wake] = some d' ∧
      Keeps page num g { s with asleep := false, notified := false } d' :=
  ⟨_, Doorbell.run_wake (h.rung.trans hnotified), {
    ring := h.ring, made := h.made, seen := h.seen, note := h.note, asleep := rfl, rung := rfl
    fresh := h.fresh, few := h.few, wrap := h.wrap }⟩

variable {label : Label Token}

/-- What is allowed here is allowed of the ring. -/
theorem allowed (h : Keeps page num g s d) (hallowed : s.Allowed page (.move label)) :
    Ring.Allowed page s.ring label ∧ fillsRing page num label = false := by
  cases label with
  | add r => exact ⟨hallowed.1, h.ring.sized ▸ hallowed.2.1⟩
  | full r => exact ⟨hallowed, rfl⟩
  | _ => exact ⟨trivial, rfl⟩

variable [DecidableEq Token]

/-- A step of the ring moves the places of the doorbell. -/
theorem step_move (h : Keeps page num g s d) (hallowed : s.Allowed page (.move label))
    (hstep : s.step page (.move label) = some s') :
    ∃ moves g' d', Shows page (.move label) moves ∧
      (Doorbell.system (noteScheme num)).run d moves = some d' ∧ Keeps page num g' s' d' := by
  rw [Kicks.step, Option.ite_none_left_eq_some] at hstep
  obtain ⟨hawake, hstep⟩ := hstep
  obtain ⟨ring, hring, rfl⟩ := Option.map_eq_some_iff.mp hstep
  obtain ⟨hallowed', hfills⟩ := h.allowed hallowed
  obtain ⟨actions, -, g', -, hbooks, hkeeps⟩ := h.ring.follows hallowed' hring
  have hwrap := (h.ring.agree hallowed' hring).mpr (iff_of_true h.wrap hfills)
  obtain ⟨hstart, hposted, -, hle, hfits⟩ := h.ring.places
  have hpending := h.pending_eq
  cases hadd : label.accepted? with
  | some r =>
      cases hbooks with
      | add hstaged r free ids =>
          obtain ⟨lot, head, flags, rfl, hreadied⟩ := h.ring.added hallowed' hring
          have hfew : s.ring.vq.numAdded + cost page lot.request < 2 ^ 16 := hallowed.2.2
          have hcount : ring.vq.numAdded = s.ring.vq.numAdded + cost page lot.request :=
            hreadied.numAdded.trans (Nat.mod_eq_of_lt (Nat.lt_trans hfew (by decide)))
          exact ⟨[], _, d, .move _ nofun rfl, rfl, {
            ring := hkeeps, made := h.made, seen := h.seen
            note := h.note.trans hreadied.events.2.1.symm, asleep := h.asleep, rung := h.rung
            fresh := by
              rw [hcount, h.fresh, hstaged]
              rfl
            few := hcount ▸ hfew, wrap := hwrap }⟩
      | _ => cases hadd
  | none =>
      obtain ⟨hcount, -, -, hdevice⟩ := Ring.step_kept hring hadd
      by_cases hpublish : label = .publish
      · subst hpublish
        cases hbooks with
        | @publish lot hstaged =>
            have hsize : g.stop page = g.shown page + lot.size page := by
              rw [Ledger.stop, hstaged]
              rfl
            have hshown : g.shown page = g.taken page + span page g.waiting := rfl
            have hroom : d.pending (2 * num) + lot.size page ≤ num := by
              rw [hpending]
              omega
            refine ⟨_, { g with waiting := g.waiting ++ [lot], staged := none }, _,
              .publish (lot.size page), Doorbell.run_make hroom, ?_⟩
            exact {
              ring := hkeeps
              made := by
                have hafter : { g with
                    waiting := g.waiting ++ [lot]
                    staged := none }.shown page = g.shown page + lot.size page :=
                  (Ledger.stop_publish page hstaged).trans hsize
                rw [hafter, h.made]
                exact Nat.mod_add_mod ..
              seen := h.seen, note := h.note.trans hdevice.symm, asleep := h.asleep
              rung := h.rung
              fresh := by
                rw [hcount, h.fresh, hstaged]
                rfl
              few := hcount ▸ h.few, wrap := hwrap }
      · have hshown := hbooks.shown_eq hpublish
        have hstaged := hbooks.staged_eq hadd hpublish
        cases htake : label.seen? with
        | none =>
            exact ⟨[], g', d, .move label hpublish htake, rfl, {
              ring := hkeeps, made := hshown ▸ h.made, seen := hbooks.taken_eq htake ▸ h.seen
              note := h.note.trans hdevice.symm, asleep := h.asleep, rung := h.rung
              fresh := hcount ▸ hstaged ▸ h.fresh, few := hcount ▸ h.few, wrap := hwrap }⟩
        | some pieces =>
            cases hbooks with
            | @take lot rest hwaiting =>
                have hnot : d.asleep = none :=
                  h.asleep.trans (if_neg fun hasleep => hawake ⟨hasleep, rfl⟩)
                have hless : lot.size page ≤ d.pending (2 * num) := by
                  rw [hpending, hwaiting, span, List.map_cons, List.sum_cons]
                  omega
                refine ⟨_, { g with waiting := rest, held := g.held ++ [lot] }, _,
                  .take _ (lot.size page), Doorbell.run_see hnot hless, ?_⟩
                exact {
                  ring := hkeeps, made := hshown ▸ h.made
                  seen := by
                    rw [Ledger.taken_take, h.seen]
                    exact Nat.mod_add_mod ..
                  note := h.note.trans hdevice.symm, asleep := h.asleep, rung := h.rung
                  fresh := hcount ▸ h.fresh, few := hcount ▸ h.few, wrap := hwrap }
            | _ => cases htake

end Keeps

/-- The state has a ledger that the doorbell agrees with. -/
def Rings (page : Token → Option Nat) (num : Nat) (s : Kicks Token) (d : Doorbell DescEvent) :
    Prop :=
  ∃ g, Keeps page num g s d

variable [DecidableEq Token]

theorem simulates : (system page).Simulates (Allowed page) (Doorbell.system (noteScheme num))
    (Shows page) (Rings page num) where
  step := by
    rintro s label s' d ⟨g, h⟩ hallowed hstep
    cases label with
    | move label =>
        obtain ⟨moves, g', d', hshows, hrun, hkeeps⟩ := h.step_move hallowed hstep
        exact ⟨moves, d', hshows, hrun, g', hkeeps⟩
    | kick =>
        obtain ⟨hquiet, ⟨⟩⟩ := Option.ite_none_right_eq_some.mp hstep
        obtain ⟨d', hrun, hkeeps⟩ := h.step_look false hquiet
        rw [Bool.false_or] at hkeeps
        exact ⟨_, d', .kick, hrun, g, hkeeps⟩
    | kickAlways =>
        obtain ⟨hquiet, ⟨⟩⟩ := Option.ite_none_right_eq_some.mp hstep
        obtain ⟨d', hrun, hkeeps⟩ := h.step_look true hquiet
        rw [Bool.true_or] at hkeeps
        exact ⟨_, d', .kickAlways, hrun, g, hkeeps⟩
    | announce note =>
        obtain ⟨hawake, ⟨⟩⟩ := Option.ite_none_right_eq_some.mp hstep
        obtain ⟨d', hrun, hkeeps⟩ := h.step_announce note hawake
        exact ⟨_, d', .announce note, hrun, g, hkeeps⟩
    | sleep =>
        obtain ⟨⟨hawake, harmed, hnone⟩, ⟨⟩⟩ := Option.ite_none_right_eq_some.mp hstep
        obtain ⟨d', hrun, hkeeps⟩ := h.step_sleep hawake harmed hnone
        exact ⟨_, d', .sleep, hrun, g, hkeeps⟩
    | wake =>
        obtain ⟨hnotified, ⟨⟩⟩ := Option.ite_none_right_eq_some.mp hstep
        obtain ⟨d', hrun, hkeeps⟩ := h.step_wake hnotified
        exact ⟨_, d', .wake, hrun, g, hkeeps⟩

/-- A device that has gone to sleep is notified of every request that is visible to it, as soon
as the driver has kicked, if no request of regular descriptors has filled the ring. -/
theorem notified_of_waiting {tables : Nat → Nat → PackedDesc} {suppress : Bool} (hpos : 0 < num)
    (hsmall : num ≤ 2 ^ 15)
    (hreach : (system page).ReachUnder (Allowed page)
      (start (vringNewVirtqueuePacked (zeroPages num tables) suppress)) s)
    (hasleep : s.asleep = true) (hmore : s.isAvail = true)
    (hkicked : s.ring.vq.numAdded = 0) : s.notified = true := by
  have hkeeps : Keeps page num (.start₀ num)
      (start (vringNewVirtqueuePacked (zeroPages num tables) suppress) : Kicks Token)
      ⟨0, 0, 0, _, none, false⟩ := {
    ring := Ledger.keeps_start hpos hsmall, made := (Nat.zero_mod _).symm
    seen := (Nat.zero_mod _).symm, note := rfl, asleep := rfl, rung := rfl, fresh := rfl
    few := Nat.two_pow_pos 16, wrap := rfl }
  obtain ⟨d, hdoorbell, g, h⟩ := simulates.reach ⟨_, hkeeps⟩ hreach
  have hdozes : d.asleep = some 0 := h.asleep.trans (if_pos hasleep)
  have hfresh : d.fresh = 0 := by
    have := h.fresh
    omega
  rw [isAvail, h.ring.sized, h.ring.nextAvail, h.ring.isAvail_iff] at hmore
  have hpending : 0 < d.pending (2 * num) := by
    rw [h.pending_eq]
    obtain ⟨lot, rest, hlot⟩ := List.exists_cons_of_ne_nil hmore
    have hmem : lot ∈ g.lots := by simp [Ledger.lots, hlot]
    have hsize := h.ring.size_pos hmem
    rw [hlot, span, List.map_cons, List.sum_cons]
    omega
  have hword : 0 < (noteScheme num).word := Nat.mul_pos Nat.two_pos hpos
  exact h.rung.symm.trans (Doorbell.never_missed (noteScheme_sound hpos hsmall)
    (.init hword _) hdoorbell hdozes hpending hfresh)

theorem notified_of_waiting_first : ∃ s : Kicks Nat, s.asleep = true ∧ s.notified = true := by
  obtain ⟨s, hrun, hasleep, hmore, hkicked⟩ : ∃ s,
      (system fun _ : Nat => none).RunUnder (Allowed fun _ => none)
        (start (vringNewVirtqueuePacked (zeroPages 4 zeroTables) false))
        [.sleep, .move (.add (twoPieces 7)), .move .publish, .kick] s ∧
      s.asleep = true ∧ s.isAvail = true ∧ s.ring.vq.numAdded = 0 :=
    ⟨_, .cons trivial rfl <| .cons ⟨⟨by decide, nofun, nofun⟩, by decide, by decide⟩ rfl <|
      .cons trivial rfl <| .cons trivial rfl <| .nil _, rfl, by decide, rfl⟩
  exact ⟨s, hasleep, notified_of_waiting (by decide) (by decide)
    (System.ReachUnder.refl.follow hrun) hasleep hmore hkicked⟩

end Kicks

end VirtDisplay.Virtio.PackedRing
