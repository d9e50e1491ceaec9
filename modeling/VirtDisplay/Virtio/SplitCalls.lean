/-
# The calls of a split ring

In every state that a ring can get into, each call of the driver comes back, and what it
returns is decided by the requests that are outstanding: a request is refused only if there
are too few descriptors beside theirs, and `NULL` means that none of them has been answered.
What the device reads of a request stays the same for as long as it holds it.

A driver that takes its requests back after the device was reset gets each of them once,
answered or not.
-/

import VirtDisplay.Virtio.SplitExchange

namespace VirtDisplay.Virtio.SplitRing

open Transition

variable {Token : Type*}

/-- No call runs into anything undefined, and what it returns is decided by the requests that
are outstanding. -/
structure Works (page : Token → Option Nat) (e : Exchange (Request Token) Nat) (s : Ring Token) :
    Prop where
  add : ∀ r, s.quiet = true → Careful page s.vq r → ∃ vq',
    s.vq.virtqueueAddBufSplit r (page r.token) =
      some (if cost page r ≤ s.vq.numUnused then (0, vq') else (-(enospc : Int), s.vq))
  get : s.quiet = true → ∃ vq', s.vq.virtqueueGetBufSplit =
    some (e.answered.head?.map fun a => a.1.token, e.answered.head?.map Prod.snd, vq')
  /-- The call that is at its barrier. -/
  finish : s.getting = true → ∃ r len vq', e.answered.head? = some (r, len) ∧
    s.vq.takeUsed = some (some r.token, len, vq')
  /-- The device can read what it finds. -/
  take : s.lastAvail ≠ s.vq.vring.availIdx → ∃ r, e.waiting.head? = some r ∧
    s.vq.vring.readRequest (s.vq.vring.availRing (descIndex s.vq.vring.num s.lastAvail)) =
      some r.pieces

variable {page : Token → Option Nat} {num : Nat} {g : Ledger Token} {s : Ring Token}

namespace Ledger.Keeps

theorem works (h : g.Keeps page num s) : Works page g.exchange s where
  add r _ hcareful := by
    rw [VirtqueueSplit.virtqueueAddBufSplit, VirtqueueSplit.fillBuf, h.table.unused]
    rcases Nat.lt_or_ge g.free.length (cost page r) with hfull | hroom
    · rw [h.table.describeRequest_full hfull]
      refine ⟨s.vq, ?_⟩
      rw [if_neg (Nat.not_le_of_lt hfull)]
      rfl
    · obtain ⟨vq', hrun, -, -⟩ := h.table.describeRequest hcareful hroom
      rw [hrun]
      refine ⟨(vq'.stage (Lot.mk r (g.free.take (cost page r))).head).publish, ?_⟩
      rw [if_pos hroom]
      rfl
  get _ := by
    have hhas := h.hasBuf_iff
    rw [VirtqueueSplit.virtqueueGetBufSplit]
    cases hanswered : g.answered with
    | nil =>
        rw [if_neg (mt hhas.mp (not_not_intro hanswered)), exchange, hanswered]
        exact ⟨s.vq, rfl⟩
    | cons a rest =>
        obtain ⟨vq', htake, -⟩ := h.takeUsed_eq hanswered
        rw [if_pos (hhas.mpr (hanswered ▸ List.cons_ne_nil _ _)), htake, exchange, hanswered]
        exact ⟨vq', rfl⟩
  finish hgetting := by
    obtain ⟨⟨lot, len⟩, rest, hanswered⟩ := List.exists_cons_of_ne_nil (h.getting hgetting)
    obtain ⟨vq', htake, -⟩ := h.takeUsed_eq hanswered
    refine ⟨lot.request, len, vq', ?_, htake⟩
    rw [exchange, hanswered]
    rfl
  take hne := by
    have hnil : g.waiting ≠ [] := fun hnil =>
      hne ((h.avail.eq_iff h.sizes).mpr (by rw [hnil, List.map_nil]))
    obtain ⟨lot, rest, hwaiting⟩ := List.exists_cons_of_ne_nil hnil
    have havail := h.avail
    rw [hwaiting, List.map_cons] at havail
    refine ⟨lot.request, ?_, ?_⟩
    · rw [exchange, hwaiting]
      rfl
    · rw [h.descIndex_eq, havail.head]
      exact h.table.readRequest_eq (by simp [lots, hwaiting])

/-- The device can read the requests it holds again. -/
theorem read_held (h : g.Keeps page num s) :
    s.held.map s.vq.vring.readRequest = g.exchange.held.map fun r => some r.pieces := by
  rw [h.held, exchange, List.map_map, List.map_map]
  exact List.map_congr_left fun lot hlot =>
    h.table.readRequest_eq (by simp [lots, hlot])

end Ledger.Keeps

/-- After every run the ring works, its free descriptors are those that the outstanding
requests leave, and the requests that its device holds are intact. -/
theorem Ring.run_works [DecidableEq Token] {tables : Nat → Nat → VringDesc} {suppress : Bool}
    {vq : VirtqueueSplit Token} {labels : List (Label Token)}
    (hnew : vringNewVirtqueueSplit (zeroPages num tables) suppress = some (some vq))
    (hsize : num < 2 ^ 16)
    (hrun : (Ring.system page).RunUnder (Ring.Allowed page) (Ring.start vq) labels s) :
    ∃ back e, Leaves labels back e ∧ Works page e s ∧
      e.load (cost page) + s.vq.numUnused = num ∧
      s.held.map s.vq.vring.readRequest = e.held.map fun r => some r.pieces := by
  obtain ⟨shown, _, hshown, hexchange, g, rfl, hkeeps⟩ := Ring.run_exchange hnew hsize hrun
  exact ⟨_, _, leaves_of_shows hshown (Exchange.run_account hexchange), hkeeps.works,
    hkeeps.table.unused ▸ hkeeps.load_eq, hkeeps.read_held⟩

/-- The device of this ring holds a request. -/
def holding : List (Label Nat) := [.add (twoPieces 7), .publish, .take (twoPieces 7).pieces]

theorem Ring.exists_holding : ∃ (vq : VirtqueueSplit Nat) (s : Ring Nat),
    vringNewVirtqueueSplit (zeroPages 4 zeroTables) false = some (some vq) ∧
    (Ring.system fun _ => none).RunUnder (Ring.Allowed fun _ => none) (Ring.start vq) holding s :=
  ⟨_, _, rfl, .cons ⟨by decide, nofun, nofun⟩ rfl <| .cons trivial rfl <|
    .cons trivial rfl <| .nil _⟩

theorem Ring.run_works_holding : ∃ (s : Ring Nat) (back : List (Request Nat × Nat))
    (e : Exchange (Request Nat) Nat), Leaves holding back e ∧ Works (fun _ => none) e s := by
  obtain ⟨vq, s, hnew, hrun⟩ := Ring.exists_holding
  obtain ⟨back, e, hleaves, hworks, -⟩ := Ring.run_works hnew (by decide) hrun
  exact ⟨s, back, e, hleaves, hworks⟩

namespace VirtqueueSplit

/-- The index counts back. -/
def withdraw (vq : VirtqueueSplit Token) : VirtqueueSplit Token :=
  { vq with
    masterIdx := u16 (vq.masterIdx + (2 ^ 16 - 1))
    vring.availIdx := u16 (vq.masterIdx + (2 ^ 16 - 1)) }

/-- `virtqueue_detach_unused_buf_split` -/
def virtqueueDetachUnusedBufSplit (vq : VirtqueueSplit Token) :
    Option (Option Token × VirtqueueSplit Token) :=
  match (List.range (u16 vq.vring.num)).find? fun idx => (vq.opaques idx).isSome with
  | none => some (none, vq)
  | some idx => (vq.putUnusedDescChain idx).map fun after => (vq.opaques idx, after.withdraw)

/-- A driver's loop over `virtqueue_detach_unused_buf_split`, to the first `NULL`. -/
def detachAll : (fuel : Nat) → VirtqueueSplit Token → Option (List Token × VirtqueueSplit Token)
  | 0, _ => none
  | fuel + 1, vq => do
      let (token, vq) ← vq.virtqueueDetachUnusedBufSplit
      match token with
      | none => pure ([], vq)
      | some token =>
          let (tokens, vq) ← detachAll fuel vq
          pure (token :: tokens, vq)

end VirtqueueSplit

variable {vq : VirtqueueSplit Token} {free : List Nat} {lots : List (Lot Token)}

namespace Table

theorem detach_nil (h : Table page vq free []) :
    vq.virtqueueDetachUnusedBufSplit = some (none, vq) := by
  have hnone : (List.range (u16 vq.vring.num)).find? (fun idx => (vq.opaques idx).isSome) =
      none := by
    refine List.find?_eq_none.mpr fun c _ => ?_
    rw [h.others c nofun]
    exact Bool.false_ne_true
  rw [VirtqueueSplit.virtqueueDetachUnusedBufSplit, hnone]

/-- A pointer that is kept is that of a request. -/
theorem exists_of_isSome (h : Table page vq free lots) {c : Nat} (hc : (vq.opaques c).isSome) :
    ∃ lot ∈ lots, lot.head = c := by
  by_contra hnot
  rw [h.others c fun lot hlot heq => hnot ⟨lot, hlot, heq⟩] at hc
  cases hc

/-- Each call gives back one request, and its descriptors. -/
theorem detach_cons (h : Table page vq free lots) (hsize : vq.vring.num < 2 ^ 16)
    (hne : lots ≠ []) :
    ∃ lot rest vq', lots.Perm (lot :: rest) ∧ vq'.vring.num = vq.vring.num ∧
      vq.virtqueueDetachUnusedBufSplit = some (some lot.request.token, vq') ∧
      Table page vq' (lot.cells ++ free) rest := by
  have hsize' : u16 vq.vring.num = vq.vring.num := Nat.mod_eq_of_lt hsize
  cases hfind : (List.range (u16 vq.vring.num)).find? fun idx => (vq.opaques idx).isSome with
  | none =>
      obtain ⟨lot, rest, rfl⟩ := List.exists_cons_of_ne_nil hne
      have hmem : lot ∈ lot :: rest := List.mem_cons_self
      have hlt := h.cells_lt hmem _ (h.laid lot hmem).head_mem
      refine absurd ?_ (List.find?_eq_none.mp hfind lot.head
        (List.mem_range.mpr (hsize'.symm ▸ hlt)))
      rw [h.tokens lot hmem]
      rfl
  | some c =>
      have hc : (vq.opaques c).isSome := by simpa using List.find?_some hfind
      obtain ⟨lot, hlot, rfl⟩ := h.exists_of_isSome hc
      obtain ⟨before, after, hsplit⟩ := List.append_of_mem hlot
      have hperm : lots.Perm (lot :: (before ++ after)) := hsplit ▸ List.perm_middle
      obtain ⟨vq', hput, ⟨desc, tables, first, unused, opaques, rfl⟩, htable⟩ :=
        (h.perm hperm).putUnusedDescChain
      have hrun : vq.virtqueueDetachUnusedBufSplit =
          some (some lot.request.token, VirtqueueSplit.withdraw { vq with
            vring.desc := desc, vring.tables := tables, firstUnused := first
            numUnused := unused, opaques := opaques }) := by
        rw [VirtqueueSplit.virtqueueDetachUnusedBufSplit, hfind]
        dsimp only
        rw [hput, Option.map_some, h.tokens lot hlot]
      refine ⟨lot, before ++ after, _, hperm, ?_, hrun, ?_⟩
      · rfl
      · exact htable.transfer rfl rfl rfl rfl rfl rfl

/-- The detaching calls together give back every request once, and then `NULL`. -/
theorem detachAll_eq (h : Table page vq free lots) (hsize : vq.vring.num < 2 ^ 16) {fuel : Nat}
    (hfuel : lots.length < fuel) :
    ∃ tokens vq', vq.detachAll fuel = some (tokens, vq') ∧
      tokens.Perm (lots.map fun lot => lot.request.token) ∧ vq'.numUnused = vq.vring.num ∧
      vq'.virtqueueDetachUnusedBufSplit = some (none, vq') := by
  induction fuel generalizing vq free lots with
  | zero => exact absurd hfuel (Nat.not_lt_zero _)
  | succ fuel ih =>
      rw [VirtqueueSplit.detachAll]
      rcases eq_or_ne lots [] with rfl | hne
      · rw [h.detach_nil]
        refine ⟨[], vq, rfl, .refl _, ?_, h.detach_nil⟩
        have hlength := h.length_eq
        rw [List.map_nil, List.sum_nil, Nat.add_zero] at hlength
        rw [h.unused, hlength]
      · obtain ⟨lot, rest, vq', hperm, hnum, hdetach, htable⟩ := h.detach_cons hsize hne
        have hlength := hperm.length_eq
        rw [List.length_cons] at hlength
        obtain ⟨tokens, vq'', hall, htokens, hunused, hnull⟩ :=
          ih htable (hnum ▸ hsize) (by omega)
        refine ⟨lot.request.token :: tokens, vq'', ?_, ?_, hnum ▸ hunused, hnull⟩
        · rw [hdetach]
          show (do let (tokens, vq) ← vq'.detachAll fuel; pure (_ :: tokens, vq)) = _
          rw [hall]
          rfl
        · exact (htokens.cons _).trans
            (hperm.map fun lot : Lot Token => lot.request.token).symm

end Table

/-- Whatever a run has left outstanding is given back, each pointer as often as it was added
and not returned, in at most as many calls as the ring has descriptors, and one for the
`NULL`. -/
theorem Ring.run_detachAll [DecidableEq Token] {tables : Nat → Nat → VringDesc}
    {suppress : Bool} {vq : VirtqueueSplit Token} {labels : List (Label Token)}
    (hnew : vringNewVirtqueueSplit (zeroPages num tables) suppress = some (some vq))
    (hsize : num < 2 ^ 16)
    (hrun : (Ring.system page).RunUnder (Ring.Allowed page) (Ring.start vq) labels s) :
    ∃ tokens vq', s.vq.detachAll (num + 1) = some (tokens, vq') ∧
      ((labels.filterMap Label.accepted?).map Request.token).Perm
        ((labels.filterMap Label.returned?).map Prod.fst ++ tokens) ∧
      vq'.numUnused = num ∧ vq'.virtqueueDetachUnusedBufSplit = some (none, vq') := by
  obtain ⟨shown, _, hshown, hexchange, g, rfl, hkeeps⟩ := Ring.run_exchange hnew hsize hrun
  have hleaves := leaves_of_shows hshown (Exchange.run_account hexchange)
  obtain ⟨tokens, vq', hall, hperm, hunused, hnull⟩ := hkeeps.table.detachAll_eq
    (hkeeps.sized.symm ▸ hsize) (Nat.lt_succ_of_le
      (Nat.le_trans (Nat.le_add_right ..) hkeeps.length_lots))
  refine ⟨tokens, vq', hall, ?_, hkeeps.sized ▸ hunused, hnull⟩
  have haccepted := hleaves.accepted.map Request.token
  rw [List.map_append, List.map_map, g.live_eq, List.map_map] at haccepted
  rw [hleaves.returned, List.map_map]
  exact haccepted.trans (hperm.symm.append_left _)

theorem Ring.run_detachAll_holding : ∃ (s : Ring Nat) (tokens : List Nat)
    (vq' : VirtqueueSplit Nat), s.vq.detachAll 5 = some (tokens, vq') ∧ [7].Perm tokens ∧
      vq'.numUnused = 4 := by
  obtain ⟨vq, s, hnew, hrun⟩ := Ring.exists_holding
  obtain ⟨tokens, vq', hdetach, htokens, hunused, -⟩ :=
    Ring.run_detachAll hnew (by decide) hrun
  exact ⟨s, tokens, vq', hdetach, htokens, hunused⟩

end VirtDisplay.Virtio.SplitRing
