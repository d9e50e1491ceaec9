/-
# The descriptors of a packed ring

The descriptors of a request lie one after the other in the ring. They spell the request's
pieces, or the one descriptor leads to the caller's indirect page, and their flags have the
sense of the round that each of them is in. Adding a request writes all of this but the flags
of the first descriptor, which the device is waiting for.
-/

import VirtDisplay.Virtio.PackedTable

namespace VirtDisplay.Virtio.PackedRing

open Chains Rounds

variable {Token : Type*} {num q id fuel : Nat} {desc desc' : Nat → PackedDesc}
variable {pieces : List Piece}

/-- The flags of a descriptor that is available at a place. -/
def availFlags (num q : Nat) (next write indirect : Bool) : DescFlags :=
  ⟨next, write, indirect, sense num q, !sense num q⟩

/-- The descriptors from `q` on describe these pieces, under this identifier. -/
def Spells (num : Nat) (desc : Nat → PackedDesc) (id : Nat) : Nat → List Piece → Prop
  | _, [] => True
  | q, p :: pieces =>
      desc (q % num) = ⟨p.element.physAddr, p.element.length, id,
        availFlags num q (!pieces.isEmpty) p.writable false⟩ ∧ Spells num desc id (q + 1) pieces

namespace Spells

theorem congr (h : Spells num desc id q pieces)
    (heq : ∀ p, q ≤ p → p < q + pieces.length → desc' (p % num) = desc (p % num)) :
    Spells num desc' id q pieces := by
  induction pieces generalizing q with
  | nil => trivial
  | cons p pieces ih =>
      rw [List.length_cons] at heq
      refine ⟨(heq q (Nat.le_refl q) (by omega)).trans h.1, ih h.2 ?_⟩
      intro p hqp hp
      exact heq p (by omega) (by omega)

/-- Each descriptor of a request has the flags of its own round. -/
theorem flags (h : Spells num desc id q pieces) {p : Nat} (hqp : q ≤ p)
    (hp : p < q + pieces.length) :
    (desc (p % num)).flags.avail = sense num p ∧ (desc (p % num)).flags.used = !sense num p := by
  induction pieces generalizing q with
  | nil =>
      rw [List.length_nil] at hp
      omega
  | cons piece pieces ih =>
      rw [List.length_cons] at hp
      rcases Nat.eq_or_lt_of_le hqp with rfl | hlt
      · rw [h.1]
        exact ⟨rfl, rfl⟩
      · exact ih h.2 hlt (by omega)

/-- The device reads what is spelled. -/
theorem readChain_eq (h : Spells num desc id q pieces) (hne : pieces ≠ [])
    (hfuel : pieces.length ≤ fuel) : readChain num desc fuel q = some (pieces, id) := by
  induction pieces generalizing q fuel with
  | nil => exact absurd rfl hne
  | cons p pieces ih =>
      obtain ⟨fuel, rfl⟩ := Nat.exists_eq_succ_of_ne_zero (Nat.ne_of_gt (Nat.lt_of_lt_of_le
        (Nat.zero_lt_succ _) hfuel))
      rw [readChain]
      dsimp only
      rw [h.1]
      cases pieces with
      | nil => rfl
      | cons p' pieces =>
          rw [ih h.2 (List.cons_ne_nil _ _) (Nat.le_of_succ_le_succ hfuel)]
          rfl

end Spells

/-- A request is described at a place. -/
def Laid (page : Token → Option Nat) (vr : Vring) (q : Nat) (lot : Lot Token) : Prop :=
  match page lot.request.token with
  | none => Spells vr.num vr.desc lot.head q lot.request.pieces
  | some p =>
      vr.desc (q % vr.num) = ⟨p, lot.request.sg.length * 16, lot.head,
        availFlags vr.num q false false true⟩ ∧
      ((List.range' 0 lot.request.sg.length).map fun i => (vr.tables p i).piece) =
        lot.request.pieces

variable {page : Token → Option Nat} {vr vr' : Vring} {lot : Lot Token} {r : Request Token}

/-- A request takes its cost in descriptors. -/
theorem cost_of_none (h : page r.token = none) : cost page r = r.pieces.length := by
  rw [cost, h, Request.pieces, length_piecesFrom]
  rfl

theorem cost_of_some {p : Nat} (h : page r.token = some p) : cost page r = 1 := by
  rw [cost, h]
  rfl

namespace Laid

/-- What describes a request are its descriptors and its page. -/
theorem congr (h : Laid page vr q lot) (hnum : vr'.num = vr.num)
    (hdesc : ∀ p, q ≤ p → p < q + cost page lot.request →
      vr'.desc (p % vr.num) = vr.desc (p % vr.num))
    (htables : ∀ p, page lot.request.token = some p → vr'.tables p = vr.tables p) :
    Laid page vr' q lot := by
  unfold Laid at h ⊢
  rw [hnum]
  split at h
  next hnone =>
    refine h.congr fun p hqp hp => hdesc p hqp ?_
    rwa [cost_of_none hnone]
  next p hsome =>
    have hself := hdesc q (Nat.le_refl q) (by rw [cost_of_some hsome]; exact Nat.lt_succ_self q)
    rw [hself, htables p hsome]
    exact h

theorem of_eq (h : Laid page vr q lot) (hnum : vr'.num = vr.num) (hdesc : vr'.desc = vr.desc)
    (htables : vr'.tables = vr.tables) : Laid page vr' q lot :=
  h.congr hnum (fun _ _ _ => by rw [hdesc]) fun _ _ => by rw [htables]

theorem flags (h : Laid page vr q lot) {p : Nat} (hqp : q ≤ p)
    (hp : p < q + cost page lot.request) :
    (vr.desc (p % vr.num)).flags.avail = sense vr.num p ∧
      (vr.desc (p % vr.num)).flags.used = !sense vr.num p := by
  unfold Laid at h
  split at h
  next hnone =>
    rw [cost_of_none hnone] at hp
    exact h.flags hqp hp
  next p' hsome =>
    rw [cost_of_some hsome] at hp
    obtain rfl : p = q := by omega
    rw [h.1]
    exact ⟨rfl, rfl⟩

/-- The device reads the pieces of the request. -/
theorem readRequest_eq (h : Laid page vr q lot) (hpos : 0 < cost page lot.request)
    (hle : cost page lot.request ≤ vr.num) :
    vr.readRequest q = some (lot.request.pieces, lot.head, cost page lot.request) := by
  unfold Laid at h
  rw [Vring.readRequest]
  dsimp only
  split at h
  next hnone =>
    rw [cost_of_none hnone] at hpos hle ⊢
    have hdirect : (vr.desc (q % vr.num)).flags.indirect = false := by
      obtain ⟨p, pieces, hpieces⟩ := List.exists_cons_of_length_pos hpos
      rw [hpieces] at h
      rw [h.1]
      rfl
    rw [hdirect, if_neg Bool.false_ne_true, h.readChain_eq (List.length_pos_iff.mp hpos) hle]
    rfl
  next p hsome =>
    have hindirect : (vr.desc (q % vr.num)).flags.indirect = true := by
      rw [h.1]
      rfl
    rw [hindirect, if_pos rfl, h.1, cost_of_some hsome, ← h.2, List.range_eq_range']
    dsimp only
    rw [Nat.mul_div_cancel _ (Nat.zero_lt_succ 15)]

end Laid

/-- Where the driver will add the next request. -/
structure At (vq : VirtqueuePacked Token) (q : Nat) : Prop where
  next : vq.nextAvailIdx = q % vq.vring.num
  avail : vq.availFlag = sense vq.vring.num q
  used : vq.usedFlag = !sense vq.vring.num q

/-- What a caller keeps to: a request has elements, an indirect page has room for them, and it
is not with the device already. -/
structure Careful (page : Token → Option Nat) (vq : VirtqueuePacked Token) (r : Request Token) :
    Prop where
  nonempty : r.sg ≠ []
  fits : ∀ p, page r.token = some p → r.sg.length ≤ 256
  fresh : ∀ i token p, (vq.descState i).data = some token → page token = some p →
    page r.token ≠ some p

variable {vq vq' : VirtqueuePacked Token} {free rest ids : List Nat} {lots : List (Lot Token)}
variable {sg : List SgElement} {out descsUsed n head : Nat} {flags : DescFlags}

/-- Going on by one slot, with the flags. -/
theorem next_slot (hnum : 0 < num) (q : Nat) :
    (if num ≤ q % num + 1 then 0 else q % num + 1) = (q + 1) % num ∧
      (if num ≤ q % num + 1 then !sense num q else sense num q) = sense num (q + 1) := by
  have hlt := Nat.mod_lt q hnum
  split
  next hle =>
    obtain ⟨hslot, hsense⟩ := on_of_le hnum (n := 1) hnum hle
    rw [hslot, hsense]
    exact ⟨by omega, rfl⟩
  next hnot =>
    obtain ⟨hslot, hsense⟩ := on_of_lt (show q % num + 1 < num by omega)
    rw [hslot, hsense]
    exact ⟨rfl, rfl⟩

/-- Descriptors that the loop has written, and all the others. -/
structure Written (num : Nat) (desc desc' : Nat → PackedDesc) (id q : Nat)
    (pieces : List Piece) : Prop where
  spells : Spells num desc' id q pieces
  kept : ∀ j, (∀ p, q ≤ p → p < q + pieces.length → j ≠ p % num) → desc' j = desc j

namespace Written

/-- The slot before the descriptors of a request is not written. -/
theorem before (h : Written num desc desc' id (q + 1) pieces) (hfits : pieces.length < num) :
    desc' (q % num) = desc (q % num) :=
  h.kept _ fun _ hp hp' => slot_ne (Nat.le_refl q) hp (by omega)

/-- A descriptor written in front of those of the rest of a request. -/
theorem cons {p : Piece} {d : PackedDesc}
    (h : Written num (Function.update desc (q % num) d) desc' id (q + 1) pieces)
    (hfits : pieces.length < num) :
    Written num desc (Function.update desc' (q % num) ⟨p.element.physAddr, p.element.length, id,
      availFlags num q (!pieces.isEmpty) p.writable false⟩) id q (p :: pieces) where
  spells := by
    refine ⟨Function.update_self .., h.spells.congr fun p' hp hp' => ?_⟩
    exact Function.update_of_ne (slot_ne (Nat.le_refl q) hp (by omega)).symm ..
  kept j hj := by
    rw [List.length_cons] at hj
    have hne := hj q (Nat.le_refl q) (by omega)
    rw [Function.update_of_ne hne, h.kept j fun p' hp hp' => hj p' (by omega) (by omega),
      Function.update_of_ne hne]

end Written

/-- The queue with these descriptors, and with flags for this place. -/
def VirtqueuePacked.stamped (vq : VirtqueuePacked Token) (desc : Nat → PackedDesc) (q : Nat) :
    VirtqueuePacked Token :=
  { vq with
    vring.desc := desc
    availFlag := sense vq.vring.num q
    usedFlag := !sense vq.vring.num q }

theorem VirtqueuePacked.stamped_self (havail : vq.availFlag = sense vq.vring.num q)
    (hused : vq.usedFlag = !sense vq.vring.num q) : vq.stamped vq.vring.desc q = vq := by
  rw [stamped, ← hused, ← havail]

/-- One round of the loop. -/
theorem addOne_eq {curr prev : Nat} (hpos : 0 < vq.vring.num) (hcurr : curr < vq.vring.num)
    (out descsUsed id n : Nat) (e : SgElement) :
    VirtqueuePacked.addOne out descsUsed id n
        ⟨vq.stamped desc q, q % vq.vring.num, curr, prev, flags⟩ e =
      some ⟨vq.stamped (Function.update desc (q % vq.vring.num) ⟨e.physAddr, e.length, id,
            if n = 0 then (desc (q % vq.vring.num)).flags
            else availFlags vq.vring.num q (n + 1 ≠ descsUsed) (out ≤ n) false⟩) (q + 1),
        (q + 1) % vq.vring.num, (vq.descState curr).next, curr,
        if n = 0 then availFlags vq.vring.num q (n + 1 ≠ descsUsed) (out ≤ n) false
        else flags⟩ := by
  obtain ⟨hslot, hsense⟩ := next_slot hpos q
  have hlt := Nat.mod_lt q hpos
  have hin : ¬(vq.vring.num ≤ q % vq.vring.num ∨ vq.vring.num ≤ curr) := by omega
  by_cases hwraps : vq.vring.num ≤ q % vq.vring.num + 1
  · rw [if_pos hwraps] at hslot hsense
    simp only [VirtqueuePacked.addOne, VirtqueuePacked.stamped, VirtqueuePacked.setDesc,
      VirtqueuePacked.flipFlags, VirtqueuePacked.chainFlags, availFlags, if_neg hin, if_pos hwraps,
      hslot, hsense]
  · rw [if_neg hwraps] at hslot hsense
    simp only [VirtqueuePacked.addOne, VirtqueuePacked.stamped, VirtqueuePacked.setDesc,
      VirtqueuePacked.chainFlags, availFlags, hin, hwraps, if_false, ← hslot, ← hsense]

/-- More descriptors than one are marked as continued. -/
theorem more_eq (out n : Nat) (sg : List SgElement) :
    (!(piecesFrom out (n + 1) sg).isEmpty) = decide (n + 1 ≠ n + (sg.length + 1)) := by
  cases sg with
  | nil => simp [piecesFrom]
  | cons e sg =>
      rw [piecesFrom, List.isEmpty_cons, List.length_cons]
      exact (decide_eq_true (by omega)).symm

/-- The rounds after the first write whole descriptors. -/
theorem addLoop_eq (desc : Nat → PackedDesc) (out id q prev : Nat) (flags : DescFlags)
    {curr : Nat} (hpos : 0 < vq.vring.num) (hn : 0 < n)
    (hcount : n + sg.length = descsUsed) (hlength : ids.length = sg.length)
    (hfits : sg.length ≤ vq.vring.num)
    (hlinks : Links (fun i => (vq.descState i).next) curr (ids ++ rest))
    (hcurr : curr < vq.vring.num) (hnexts : ∀ i, (vq.descState i).next < vq.vring.num) :
    ∃ desc' first last, VirtqueuePacked.addLoop out descsUsed id n
        ⟨vq.stamped desc q, q % vq.vring.num, curr, prev, flags⟩ sg =
          some ⟨vq.stamped desc' (q + sg.length), (q + sg.length) % vq.vring.num, first, last,
            flags⟩ ∧
      Written vq.vring.num desc desc' id q (piecesFrom out n sg) ∧
      Links (fun i => (vq.descState i).next) first rest ∧ first < vq.vring.num ∧
      (prev :: ids).getLast? = some last := by
  induction sg generalizing n ids q curr prev desc with
  | nil =>
      obtain rfl := List.length_eq_zero_iff.mp hlength
      exact ⟨desc, curr, prev, rfl, ⟨trivial, fun _ _ => rfl⟩, hlinks, hcurr, rfl⟩
  | cons e sg ih =>
      obtain _ | ⟨i, ids⟩ := ids
      · cases hlength
      obtain ⟨rfl, hlinks⟩ := hlinks
      rw [List.length_cons] at hcount hfits
      obtain ⟨desc', first, last, hrun, hwritten, hfirst, hlt, hlast⟩ :=
        ih (n := n + 1) _ (q + 1) curr (Nat.succ_pos n) (by omega) (Nat.succ.inj hlength)
          (by omega) hlinks (hnexts curr)
      refine ⟨desc', first, last, ?_, ?_, hfirst, hlt, ?_⟩
      · rw [VirtqueuePacked.addLoop, addOne_eq hpos hcurr, if_neg (Nat.ne_of_gt hn),
          if_neg (Nat.ne_of_gt hn), Option.bind_eq_bind, Option.bind_some, hrun, List.length_cons,
          Nat.add_assoc, Nat.add_comm 1]
      · have hmore := more_eq out n sg
        rw [hcount] at hmore
        have hfits' : (piecesFrom out (n + 1) sg).length < vq.vring.num := by
          rw [length_piecesFrom]
          omega
        have hself := hwritten.before hfits'
        have hcons := hwritten.cons (p := ⟨e, out ≤ n⟩) hfits'
        rw [Function.update_self] at hself
        rwa [hmore, ← hself, Function.update_eq_self] at hcons
      · rwa [List.getLast?_cons_cons]

/-- A request has been described at a place, all but the flags of its first descriptor. -/
structure Readied (page : Token → Option Nat) (vq : VirtqueuePacked Token) (q : Nat)
    (lot : Lot Token) (head : Nat) (flags : DescFlags) (vq' : VirtqueuePacked Token) :
    Prop where
  sized : vq'.vring.num = vq.vring.num
  place : head = q % vq.vring.num
  next : At vq' (q + cost page lot.request)
  laid : Laid page (vq'.publish head flags).vring q lot
  waits : (vq'.vring.desc head).flags = (vq.vring.desc head).flags
  kept : ∀ j, (∀ p, q ≤ p → p < q + cost page lot.request → j ≠ p % vq.vring.num) →
    vq'.vring.desc j = vq.vring.desc j
  tables : ∀ p, page lot.request.token ≠ some p → vq'.vring.tables p = vq.vring.tables p
  lastUsed : vq'.lastUsedIdx = vq.lastUsedIdx
  usedWrap : vq'.usedWrapCounter = vq.usedWrapCounter
  /-- `avail_wrap_counter` follows the flags, unless regular descriptors fill the whole ring. -/
  availWrap : vq'.availWrapCounter = sense vq.vring.num (q + cost page lot.request) ↔
    (vq.availWrapCounter = sense vq.vring.num q ↔
      ¬(page lot.request.token = none ∧ cost page lot.request = vq.vring.num))
  numAdded : vq'.numAdded = (vq.numAdded + cost page lot.request) % 2 ^ 32
  events : vq'.vring.driver = vq.vring.driver ∧ vq'.vring.device = vq.vring.device ∧
    vq'.eventFlagsShadow = vq.eventFlagsShadow ∧ vq'.eventSuppression = vq.eventSuppression

/-- The comparison that `avail_wrap_counter` is toggled by sees every change of the round but
one. -/
theorem crossed_iff (hpos : 0 < num) (hn : 0 < n) (hle : n ≤ num) (q : Nat) (wrap : Bool) :
    ((if (q + n) % num < q % num then !wrap else wrap) = sense num (q + n)) ↔
      (wrap = sense num q ↔ n ≠ num) := by
  have hlt := Nat.mod_lt q hpos
  rcases Nat.lt_or_ge (q % num + n) num with hwithin | hover
  · obtain ⟨hslot, hsense⟩ := on_of_lt hwithin
    rw [if_neg (by omega), hsense]
    exact (iff_true_right (Nat.ne_of_lt (by omega))).symm
  · obtain ⟨hslot, hsense⟩ := on_of_le hpos hle hover
    rw [hslot, hsense]
    rcases Nat.eq_or_lt_of_le hle with rfl | hless
    · rw [if_neg (by omega)]
      cases wrap <;> cases sense n q <;> simp
    · rw [if_pos (by omega)]
      have hne : n ≠ num := Nat.ne_of_lt hless
      cases wrap <;> cases sense num q <;> simp [hne]

/-- The queue after regular descriptors have been written, whose identifiers are these. -/
def VirtqueuePacked.added (vq : VirtqueuePacked Token) (q : Nat) (r : Request Token)
    (desc : Nat → PackedDesc) (first last : Nat) : VirtqueuePacked Token :=
  { vq.stamped desc (q + r.sg.length) with
    availWrapCounter :=
      if (q + r.sg.length) % vq.vring.num < q % vq.vring.num then !vq.availWrapCounter
      else vq.availWrapCounter
    numFree := vq.numFree - r.sg.length
    nextAvailIdx := (q + r.sg.length) % vq.vring.num
    freeHead := first
    descState := Function.update vq.descState vq.freeHead
      ⟨some r.token, r.sg.length, (vq.descState vq.freeHead).next, last⟩
    numAdded := (vq.numAdded + r.sg.length) % 2 ^ 32 }

/-- The first round keeps its flags back; behind the barrier they complete the chain. -/
theorem addDirect_eq (hat : At vq q) (hsize : vq.vring.num < 2 ^ 16) (hne : r.sg ≠ [])
    (hlength : ids.length = r.sg.length) (hfits : r.sg.length ≤ vq.vring.num)
    (hlinks : Links (fun i => (vq.descState i).next) vq.freeHead (ids ++ rest))
    (hhead : vq.freeHead < vq.vring.num) (hnexts : ∀ i, (vq.descState i).next < vq.vring.num) :
    ∃ desc first last flags,
      vq.addDirect r = some (q % vq.vring.num, flags, vq.added q r desc first last) ∧
      Written vq.vring.num vq.vring.desc (Function.update desc (q % vq.vring.num)
        { desc (q % vq.vring.num) with flags := flags }) vq.freeHead q r.pieces ∧
      (desc (q % vq.vring.num)).flags = (vq.vring.desc (q % vq.vring.num)).flags ∧
      Links (fun i => (vq.descState i).next) first rest ∧ first < vq.vring.num ∧
      ids.getLast? = some last := by
  have hpos : 0 < vq.vring.num := Nat.zero_lt_of_lt hhead
  obtain ⟨e, sg, hsg⟩ := List.exists_cons_of_ne_nil hne
  have hcount : r.sg.length = sg.length + 1 := by rw [hsg, List.length_cons]
  obtain ⟨i, ids, rfl⟩ : ∃ i tail, ids = i :: tail := List.exists_cons_of_length_pos (by omega)
  obtain ⟨hi, hlinks⟩ := hlinks
  rw [hi] at hhead ⊢
  rw [List.length_cons] at hlength
  have hid : u16 vq.freeHead = i := by
    rw [hi]
    exact Nat.mod_eq_of_lt (Nat.lt_trans hhead hsize)
  have hu16 : u16 r.sg.length = r.sg.length := Nat.mod_eq_of_lt (by omega)
  obtain ⟨desc, first, last, hrun, hwritten, hfirst, hlt, hlast⟩ :=
    addLoop_eq
      (Function.update vq.vring.desc (q % vq.vring.num)
        ⟨e.physAddr, e.length, i, (vq.vring.desc (q % vq.vring.num)).flags⟩)
      r.out i (q + 1) i (availFlags vq.vring.num q (1 ≠ r.sg.length) (r.out ≤ 0) false)
      hpos Nat.zero_lt_one (show 1 + sg.length = r.sg.length by omega) (by omega) (by omega)
      hlinks (hnexts i) hnexts
  have hstart : (⟨vq, vq.nextAvailIdx, i, i, ⟨false, false, false, false, false⟩⟩ :
      VirtqueuePacked.Cursor Token) = ⟨vq.stamped vq.vring.desc q, q % vq.vring.num, i, i,
        ⟨false, false, false, false, false⟩⟩ := by
    rw [VirtqueuePacked.stamped_self hat.avail hat.used, hat.next]
  have hloop : VirtqueuePacked.addLoop r.out r.sg.length i 0
      ⟨vq, vq.nextAvailIdx, i, i, ⟨false, false, false, false, false⟩⟩ r.sg =
        some ⟨vq.stamped desc (q + r.sg.length), (q + r.sg.length) % vq.vring.num, first, last,
          availFlags vq.vring.num q (1 ≠ r.sg.length) (r.out ≤ 0) false⟩ := by
    rw [hstart, hsg, VirtqueuePacked.addLoop, addOne_eq hpos hhead]
    rw [if_pos rfl, if_pos rfl, Option.bind_eq_bind, Option.bind_some, ← hsg]
    rw [Nat.zero_add, hrun, hcount]
    simp only [Nat.add_assoc, Nat.add_comm 1]
  have hfits' : (piecesFrom r.out 1 sg).length < vq.vring.num := by
    rw [length_piecesFrom]
    omega
  have hself := hwritten.before hfits'
  rw [Function.update_self] at hself
  refine ⟨desc, first, last, availFlags vq.vring.num q (1 ≠ r.sg.length) (r.out ≤ 0) false, ?_, ?_,
    by rw [hself], hfirst, hlt, hlast⟩
  · rw [VirtqueuePacked.addDirect, hid]
    dsimp only
    rw [hloop, hat.next, hu16, VirtqueuePacked.added, hi]
    rfl
  · have hcons := hwritten.cons (p := ⟨e, r.out ≤ 0⟩) hfits'
    have hmore := more_eq r.out 0 sg
    rw [Nat.zero_add, Nat.zero_add, ← hcount] at hmore
    rw [hmore] at hcons
    have hpieces : r.pieces = ⟨e, r.out ≤ 0⟩ :: piecesFrom r.out 1 sg := by
      rw [Request.pieces, hsg]
      rfl
    rw [hself, hpieces]
    exact hcons

namespace Idents

/-- Regular descriptors. -/
theorem addDirect (h : Idents page vq free lots) (hat : At vq q) (hpage : page r.token = none)
    (hne : r.sg ≠ []) (hroom : r.sg.length ≤ free.length) (hsize : vq.vring.num < 2 ^ 16) :
    ∃ head flags vq', vq.addDirect r = some (head, flags, vq') ∧
      Readied page vq q ⟨r, free.take r.sg.length⟩ head flags vq' ∧
      Idents page vq' (free.drop r.sg.length) (⟨r, free.take r.sg.length⟩ :: lots) := by
  have hpos : 0 < vq.vring.num := Nat.zero_lt_of_lt h.freeHead
  have hle : r.sg.length ≤ vq.vring.num := by
    have := h.length_eq
    omega
  have hcost : cost page r = r.sg.length := by
    rw [cost, hpage]
    rfl
  have hlength : (free.take r.sg.length).length = r.sg.length := by
    rw [List.length_take, Nat.min_eq_left hroom]
  have hsplit : free.take r.sg.length ++ free.drop r.sg.length = free := List.take_append_drop ..
  rw [← hsplit] at h
  obtain ⟨desc, first, last, flags, hrun, hwritten, hwaits, hfirst, hlt, hlast⟩ :=
    addDirect_eq hat hsize hne hlength hle h.links h.freeHead h.nexts
  have hhead : (Lot.mk r (free.take r.sg.length)).head = vq.freeHead := by
    obtain ⟨i, ids, hids⟩ := List.exists_cons_of_length_pos
      (hlength.symm ▸ List.length_pos_iff.mpr hne : 0 < (free.take r.sg.length).length)
    have hlinks := h.links
    rw [hids] at hlinks
    rw [Lot.head, hids]
    exact hlinks.1.symm
  refine ⟨_, _, _, hrun, ?_, ?_⟩
  · refine {
      sized := rfl, place := rfl, next := ?_, laid := ?_, waits := hwaits, kept := ?_,
      tables := fun _ _ => rfl, lastUsed := rfl, usedWrap := rfl, availWrap := ?_,
      numAdded := ?_, events := ⟨rfl, rfl, rfl, rfl⟩ }
    · rw [hcost]
      exact ⟨rfl, rfl, rfl⟩
    · unfold Laid
      rw [hpage, hhead]
      exact hwritten.spells
    · intro j hj
      rw [hcost] at hj
      have hkept := hwritten.kept j (by rwa [Request.pieces, length_piecesFrom])
      rwa [Function.update_of_ne (hj q (Nat.le_refl q)
        (Nat.lt_add_of_pos_right (List.length_pos_iff.mpr hne)))] at hkept
    · rw [hcost, hpage]
      refine (crossed_iff hpos (List.length_pos_iff.mpr hne) hle q vq.availWrapCounter).trans ?_
      simp
    · rw [hcost]
      rfl
  · refine h.draw (hlength.trans hcost.symm) hlast hfirst hlt rfl ?_ rfl ?_
    · rw [hlength]
      rfl
    · show vq.numFree - r.sg.length = _
      rw [h.numFree, List.length_append, hlength, Nat.add_sub_cancel_left]

end Idents

/-- The page is filled from the front. -/
theorem fillTable_of_lt {i j : Nat} (hj : j < i) :
    VirtqueuePacked.fillTable out desc i sg j = desc j := by
  induction sg generalizing desc i with
  | nil => rfl
  | cons e sg ih =>
      rw [VirtqueuePacked.fillTable, ih (Nat.lt_succ_of_lt hj),
        Function.update_of_ne (Nat.ne_of_lt hj)]

/-- The entries of an indirect table are the elements in their order. -/
theorem fillTable_pieces {i : Nat} :
    (List.range' i sg.length).map (fun j => (VirtqueuePacked.fillTable out desc i sg j).piece) =
      piecesFrom out i sg := by
  induction sg generalizing desc i with
  | nil => rfl
  | cons e sg ih =>
      rw [List.length_cons, List.range'_succ, List.map_cons, piecesFrom,
        VirtqueuePacked.fillTable, ih, fillTable_of_lt (Nat.lt_succ_self i), Function.update_self]
      rfl

/-- The queue after the descriptor of a page has been written. -/
def VirtqueuePacked.addedPage (vq : VirtqueuePacked Token) (q p : Nat) (r : Request Token) :
    VirtqueuePacked Token :=
  { vq.stamped (Function.update vq.vring.desc (q % vq.vring.num)
      ⟨p, r.sg.length * 16, vq.freeHead, (vq.vring.desc (q % vq.vring.num)).flags⟩) (q + 1) with
    vring.tables := Function.update vq.vring.tables p (fillTable r.out (vq.vring.tables p) 0 r.sg)
    availWrapCounter :=
      if vq.vring.num ≤ q % vq.vring.num + 1 then !vq.availWrapCounter else vq.availWrapCounter
    numFree := vq.numFree - 1
    nextAvailIdx := (q + 1) % vq.vring.num
    freeHead := (vq.descState vq.freeHead).next
    descState := Function.update vq.descState vq.freeHead
      ⟨some r.token, 1, (vq.descState vq.freeHead).next, vq.freeHead⟩
    numAdded := (vq.numAdded + 1) % 2 ^ 32 }

theorem addIndirect_eq (hat : At vq q) (hsize : vq.vring.num < 2 ^ 16)
    (hhead : vq.freeHead < vq.vring.num) (r : Request Token) (p : Nat) :
    vq.addIndirect r p =
      some (q % vq.vring.num, availFlags vq.vring.num q false false true, vq.addedPage q p r) := by
  have hpos : 0 < vq.vring.num := Nat.zero_lt_of_lt hhead
  have hid : u16 vq.freeHead = vq.freeHead := Nat.mod_eq_of_lt (Nat.lt_trans hhead hsize)
  have hin : ¬vq.vring.num ≤ q % vq.vring.num := Nat.not_le_of_lt (Nat.mod_lt q hpos)
  obtain ⟨hslot, hsense⟩ := next_slot hpos q
  by_cases hwraps : vq.vring.num ≤ q % vq.vring.num + 1
  · rw [if_pos hwraps] at hslot hsense
    simp only [VirtqueuePacked.addIndirect, VirtqueuePacked.addedPage, VirtqueuePacked.stamped,
      VirtqueuePacked.setDesc, VirtqueuePacked.setState, VirtqueuePacked.flipFlags, availFlags, hid,
      hat.next, hat.avail, hat.used, hin, hwraps, if_true, if_false, ← hslot, ← hsense]
  · rw [if_neg hwraps] at hslot hsense
    simp only [VirtqueuePacked.addIndirect, VirtqueuePacked.addedPage, VirtqueuePacked.stamped,
      VirtqueuePacked.setDesc, VirtqueuePacked.setState, availFlags, hid, hat.next, hat.avail,
      hat.used, hin, hwraps, if_false, ← hslot, ← hsense]

namespace Idents

/-- One descriptor, for a page of the caller's. -/
theorem addIndirect (h : Idents page vq free lots) (hat : At vq q) {p : Nat}
    (hpage : page r.token = some p) (hroom : 1 ≤ free.length) (hsize : vq.vring.num < 2 ^ 16) :
    ∃ head flags vq', vq.addIndirect r p = some (head, flags, vq') ∧
      Readied page vq q ⟨r, free.take 1⟩ head flags vq' ∧
      Idents page vq' (free.drop 1) (⟨r, free.take 1⟩ :: lots) := by
  obtain ⟨i, rest, rfl⟩ := List.exists_cons_of_length_pos hroom
  have hi : vq.freeHead = i := h.links.1
  have hpos : 0 < vq.vring.num := Nat.zero_lt_of_lt h.freeHead
  have hlt := Nat.mod_lt q hpos
  have hcost := cost_of_some hpage
  refine ⟨_, _, _, addIndirect_eq hat hsize h.freeHead r p, ?_, ?_⟩
  · refine {
      sized := rfl, place := rfl, next := ?_, laid := ?_, waits := ?_, kept := ?_, tables := ?_,
      lastUsed := rfl, usedWrap := rfl, availWrap := ?_, numAdded := ?_
      events := ⟨rfl, rfl, rfl, rfl⟩ }
    · rw [hcost]
      exact ⟨rfl, rfl, rfl⟩
    · unfold Laid
      rw [hpage]
      refine ⟨?_, ?_⟩
      · simp [VirtqueuePacked.publish, VirtqueuePacked.setDesc, VirtqueuePacked.addedPage,
          VirtqueuePacked.stamped, hi, Lot.head]
      · show (List.range' 0 r.sg.length).map
          (fun j => (Function.update vq.vring.tables p _ p j).piece) = _
        rw [Function.update_self]
        exact fillTable_pieces
    · show (Function.update vq.vring.desc _ _ _).flags = _
      rw [Function.update_self]
    · intro j hj
      have hq : q < q + cost page r := by
        rw [hcost]
        exact Nat.lt_succ_self q
      exact Function.update_of_ne (hj q (Nat.le_refl q) hq) ..
    · intro p' hp'
      exact Function.update_of_ne (fun heq => hp' (hpage.trans (congrArg some heq.symm))) ..
    · show (if _ then _ else _) = _ ↔ _
      rw [hcost, hpage, ← (next_slot hpos q).2]
      split <;> simp
    · rw [hcost]
      rfl
  · have h' : Idents page vq ([i] ++ rest) lots := h
    refine h'.draw hcost.symm (by rw [hi]; rfl) ?_ ?_ rfl rfl rfl ?_
    · show Links _ (vq.descState vq.freeHead).next rest
      rw [hi]
      exact h.links.2
    · exact h.nexts _
    · show vq.numFree - 1 = _
      rw [h.numFree, List.length_cons, Nat.add_sub_cancel]

/-- A request for which there are descriptors enough is described. -/
theorem fillBuf (h : Idents page vq free lots) (hat : At vq q) (hcareful : Careful page vq r)
    (hroom : cost page r ≤ free.length) (hsize : vq.vring.num < 2 ^ 16) :
    ∃ head flags vq', vq.fillBuf r (page r.token) = some (some (head, flags, vq')) ∧
      Readied page vq q ⟨r, free.take (cost page r)⟩ head flags vq' ∧
      Idents page vq' (free.drop (cost page r)) (⟨r, free.take (cost page r)⟩ :: lots) := by
  have hne : r.sg.length ≠ 0 := fun hzero => hcareful.nonempty (List.length_eq_zero_iff.mp hzero)
  have hid : u16 vq.freeHead = vq.freeHead := Nat.mod_eq_of_lt (Nat.lt_trans h.freeHead hsize)
  have hin : ¬(r.sg.length = 0 ∨ vq.vring.num ≤ u16 vq.freeHead) := by
    rw [hid, not_or]
    exact ⟨hne, Nat.not_le_of_lt h.freeHead⟩
  have hfree := h.numFree
  unfold VirtqueuePacked.fillBuf
  rw [if_neg hin]
  cases hpage : page r.token with
  | none =>
      have hcost : cost page r = r.sg.length := by
        rw [cost, hpage]
        rfl
      rw [hcost] at hroom ⊢
      obtain ⟨head, flags, vq', hrun, hreadied, hidents⟩ :=
        h.addDirect hat hpage hcareful.nonempty hroom hsize
      dsimp only
      rw [if_neg (by omega), hrun]
      exact ⟨head, flags, vq', rfl, hreadied, hidents⟩
  | some p =>
      rw [cost_of_some hpage] at hroom ⊢
      obtain ⟨head, flags, vq', hrun, hreadied, hidents⟩ := h.addIndirect hat hpage hroom hsize
      dsimp only
      rw [if_pos (by omega), hrun]
      exact ⟨head, flags, vq', rfl, hreadied, hidents⟩

/-- A request for which there are too few descriptors is refused. -/
theorem fillBuf_full (h : Idents page vq free lots) (hcareful : Careful page vq r)
    (hfull : free.length < cost page r) (hsize : vq.vring.num < 2 ^ 16) :
    vq.fillBuf r (page r.token) = some none := by
  have hne : 0 < r.sg.length := List.length_pos_iff.mpr hcareful.nonempty
  have hid : u16 vq.freeHead = vq.freeHead := Nat.mod_eq_of_lt (Nat.lt_trans h.freeHead hsize)
  have hin : ¬(r.sg.length = 0 ∨ vq.vring.num ≤ u16 vq.freeHead) := by
    rw [hid, not_or]
    exact ⟨Nat.ne_of_gt hne, Nat.not_le_of_lt h.freeHead⟩
  have hfree := h.numFree
  unfold VirtqueuePacked.fillBuf
  rw [if_neg hin]
  cases hpage : page r.token with
  | none =>
      have hcost : cost page r = r.sg.length := by
        rw [cost, hpage]
        rfl
      dsimp only
      rw [if_pos (by omega)]
  | some p =>
      rw [cost_of_some hpage] at hfull
      dsimp only
      rw [if_neg (by omega), if_pos (by omega)]

/-- The call refuses a request exactly if there are too few descriptors for it. -/
theorem addBuf_eq (h : Idents page vq free lots) (hat : At vq q) (hcareful : Careful page vq r)
    (hsize : vq.vring.num < 2 ^ 16) :
    ∃ vq', vq.virtqueueAddBufPacked r (page r.token) =
      some (if cost page r ≤ vq.numFree then (0, vq') else (-(enospc : Int), vq)) := by
  rw [VirtqueuePacked.virtqueueAddBufPacked, h.numFree]
  rcases Nat.lt_or_ge free.length (cost page r) with hfull | hroom
  · rw [h.fillBuf_full hcareful hfull hsize]
    refine ⟨vq, ?_⟩
    rw [if_neg (Nat.not_le_of_lt hfull)]
    rfl
  · obtain ⟨head, flags, vq', hrun, -, -⟩ := h.fillBuf hat hcareful hroom hsize
    rw [hrun]
    refine ⟨vq'.publish head flags, ?_⟩
    rw [if_pos hroom]
    rfl

end Idents

end VirtDisplay.Virtio.PackedRing
