/-
# A packed ring between its driver and its device

Driver and device go round the ring one behind the other: the device takes requests where the
driver has made them available, and writes what it returns over descriptors that it has taken.
Neither of them keeps a counter that the other one could read; the flags of the descriptors
tell how far each has come, and only together with the round.

As for the split ring, either side may act at every memory barrier of the other, and the ring
is an exchange of requests. Beside the state there is a ledger of who has which descriptors,
and its places are counted from the first round on.
-/

import VirtDisplay.Foundation.Simulation
import VirtDisplay.Virtio.PackedLayout

namespace VirtDisplay.Virtio.PackedRing

open Chains Rounds Transition

variable {Token : Type*}

/-- The flags of all descriptors: from `start` on they were made available in the round that
they are in, from `posted` on they are not used, and from `stop` on they are left over from the
round before. -/
structure Marked (num : Nat) (desc : Nat → PackedDesc) (start posted stop : Nat) : Prop where
  avail : ∀ q, start ≤ q → q < stop → (desc (q % num)).flags.avail = sense num q
  unused : ∀ q, posted ≤ q → q < stop → (desc (q % num)).flags.used = !sense num q
  stale : ∀ q, stop ≤ q → q < start + num → (desc (q % num)).flags.avail = !sense num q

namespace Marked

variable {num start posted stop n : Nat} {desc desc' : Nat → PackedDesc}

theorem congr (h : Marked num desc start posted stop)
    (heq : ∀ i, (desc' i).flags = (desc i).flags) :
    Marked num desc' start posted stop where
  avail q hq hq' := by rw [heq]; exact h.avail q hq hq'
  unused q hq hq' := by rw [heq]; exact h.unused q hq hq'
  stale q hq hq' := by rw [heq]; exact h.stale q hq hq'

/-- The descriptor behind the last one is not available, even when the ring is full. -/
theorem avail_stop (h : Marked num desc start posted stop) (hpos : 0 < num)
    (hle : start ≤ stop) (hfits : stop ≤ start + num) :
    (desc (stop % num)).flags.avail = !sense num stop := by
  rcases Nat.eq_or_lt_of_le hfits with rfl | hlt
  · rw [Nat.add_mod_right, sense_add_num hpos, Bool.not_not]
    exact h.avail start (Nat.le_refl _) (Nat.lt_add_of_pos_right hpos)
  · exact h.stale stop (Nat.le_refl _) hlt

/-- Descriptors are made available. -/
theorem publish (h : Marked num desc start posted stop) (hstart : start ≤ posted)
    (hposted : posted ≤ stop) (hfits : stop + n ≤ start + num)
    (hnew : ∀ q, stop ≤ q → q < stop + n →
      (desc' (q % num)).flags.avail = sense num q ∧ (desc' (q % num)).flags.used = !sense num q)
    (hkept : ∀ i, (∀ q, stop ≤ q → q < stop + n → i ≠ q % num) → desc' i = desc i) :
    Marked num desc' start posted (stop + n) where
  avail q hq hq' := by
    rcases Nat.lt_or_ge q stop with hlt | hge
    · rw [hkept _ fun p hp hp' => slot_ne hq (by omega) (by omega)]
      exact h.avail q hq hlt
    · exact (hnew q hge hq').1
  unused q hq hq' := by
    rcases Nat.lt_or_ge q stop with hlt | hge
    · rw [hkept _ fun p hp hp' => slot_ne (Nat.le_trans hstart hq) (by omega) (by omega)]
      exact h.unused q hq hlt
    · exact (hnew q hge hq').2
  stale q hq hq' := by
    rw [hkept _ fun p hp hp' => (slot_ne (a := start) (by omega) (by omega) hq').symm]
    exact h.stale q (by omega) hq'

/-- The device returns descriptors with the first of them. -/
theorem post (h : Marked num desc start posted stop) (hstart : start ≤ posted) (hn : 0 < n)
    (hposted : posted + n ≤ stop) (hfits : stop ≤ start + num) (d : PackedDesc)
    (havail : d.flags.avail = sense num posted) :
    Marked num (Function.update desc (posted % num) d) start (posted + n) stop where
  avail q hq hq' := by
    rcases eq_or_ne q posted with rfl | hne
    · rw [Function.update_self]
      exact havail
    · rw [Function.update_of_ne (slot_ne' hq (by omega) hstart (by omega) hne)]
      exact h.avail q hq hq'
  unused q hq hq' := by
    rw [Function.update_of_ne (slot_ne hstart (by omega) (by omega)).symm]
    exact h.unused q (by omega) hq'
  stale q hq hq' := by
    rw [Function.update_of_ne (slot_ne hstart (by omega) hq').symm]
    exact h.stale q hq hq'

/-- The driver is done with returned descriptors. -/
theorem collect (h : Marked num desc start posted stop) (hpos : 0 < num)
    (hle : start + n ≤ posted) (hposted : posted ≤ stop) :
    Marked num desc (start + n) posted stop where
  avail q hq hq' := h.avail q (by omega) hq'
  unused := h.unused
  stale q hq hq' := by
    rcases Nat.lt_or_ge q (start + num) with hlt | hge
    · exact h.stale q hq hlt
    · obtain ⟨p, rfl⟩ := Nat.exists_eq_add_of_le' (Nat.le_trans (Nat.le_add_left ..) hge)
      rw [Nat.add_mod_right, sense_add_num hpos, Bool.not_not]
      exact h.avail p (by omega) (by omega)

end Marked

/-- A virtqueue, where the calls of its driver are, and its device. -/
structure Ring (Token : Type*) where
  vq : VirtqueuePacked Token
  /-- `virtqueue_add_buf` is at its memory barrier, with flags that are still to be written. -/
  adding : Option (Nat × DescFlags)
  /-- `virtqueue_get_buf` is at its memory barrier. -/
  getting : Bool
  /-- The place where the device takes the next request. -/
  nextAvail : Nat
  /-- The place where it returns the next one. -/
  nextUsed : Nat
  /-- The requests that the device is working on: identifier and number of descriptors. -/
  held : List (Nat × Nat)
  /-- What is written of a used descriptor that has its flags not yet: for which request, and
  how many bytes. -/
  posting : Option (Nat × Nat)

namespace Ring

variable (page : Token → Option Nat) (s : Ring Token)

/-- No call of the driver is on its way. -/
def quiet : Bool := s.adding.isNone && !s.getting

/-- The memory as it will be when the call that is on its way has returned. -/
def settled : Vring :=
  match s.adding with
  | none => s.vq.vring
  | some (head, flags) => (s.vq.publish head flags).vring

/-- The device writes a descriptor. -/
def setDesc (i : Nat) (d : PackedDesc) : Ring Token :=
  { s with vq.vring.desc := Function.update s.vq.vring.desc i d }

/-- The device writes identifier and length over the first descriptor that it has not returned. -/
def writeUsed (k len id : Nat) : Ring Token :=
  let i := s.nextUsed % s.vq.vring.num
  { s.setDesc i { s.vq.vring.desc i with id := id, len := len } with posting := some (k, len) }

/-- Behind a barrier, the device marks that descriptor as used. -/
def postUsed (k n : Nat) : Ring Token :=
  let i := s.nextUsed % s.vq.vring.num
  let wrap := sense s.vq.vring.num s.nextUsed
  { s.setDesc i { s.vq.vring.desc i with
      flags := { (s.vq.vring.desc i).flags with avail := wrap, used := wrap } } with
    nextUsed := s.nextUsed + n
    held := s.held.eraseIdx k
    posting := none }

/-- One step. -/
def step [DecidableEq Token] : Label Token → Option (Ring Token)
  | .add r =>
      if s.quiet then
        match s.vq.fillBuf r (page r.token) with
        | some (some (head, flags, vq)) => some { s with vq := vq, adding := some (head, flags) }
        | _ => none
      else none
  | .full r =>
      if s.quiet then
        match s.vq.fillBuf r (page r.token) with
        | some none => some s
        | _ => none
      else none
  | .publish =>
      s.adding.map fun (head, flags) => { s with vq := s.vq.publish head flags, adding := none }
  | .take pieces =>
      if isAvail s.vq.vring.num s.vq.vring.desc s.nextAvail then
        match s.vq.vring.readRequest s.nextAvail with
        | some (pieces', id, n) =>
            if pieces' = pieces then
              some { s with nextAvail := s.nextAvail + n, held := s.held ++ [(id, n)] }
            else none
        | none => none
      else none
  | .write k len =>
      if s.posting = none then (s.held[k]?).map fun (id, _) => s.writeUsed k len id else none
  | .post k len =>
      if s.posting = some (k, len) then (s.held[k]?).map fun (_, n) => s.postUsed k n else none
  | .poll => if s.quiet ∧ s.vq.moreUsedPacked then some { s with getting := true } else none
  | .get token len =>
      if s.getting then
        match s.vq.takeUsed with
        | some (token', len', vq) =>
            if token' = token ∧ len' = len then some { s with vq := vq, getting := false } else none
        | none => none
      else none
  | .empty => if s.quiet ∧ ¬ s.vq.moreUsedPacked then some s else none

/-- The ring as a system. -/
def system [DecidableEq Token] : System (Ring Token) (Label Token) :=
  ⟨fun s label => s.step page label⟩

/-- A ring that was just set up. -/
def start (vq : VirtqueuePacked Token) : Ring Token where
  vq := vq
  adding := none
  getting := false
  nextAvail := 0
  nextUsed := 0
  held := []
  posting := none

/-- The driver only adds requests that it may add. -/
def Allowed : Label Token → Prop
  | .add r => Careful page s.vq r
  | .full r => Careful page s.vq r
  | _ => True

section

variable {page s} [DecidableEq Token] {s' : Ring Token} {token : Token} {len : Nat}

/-- A call of `virtqueue_get_buf` that is not interrupted at its memory barrier. -/
theorem run_getBuf (hquiet : s.quiet = true) :
    (system page).run s [.poll, .get token len] = some s' ↔
      ∃ vq, s.vq.virtqueueGetBufPacked = some (some token, some len, vq) ∧
        s' = { s with vq := vq } := by
  have hgetting : s.getting = false := by
    rw [quiet, Bool.and_eq_true, Bool.not_eq_true'] at hquiet
    exact hquiet.2
  rw [VirtqueuePacked.virtqueueGetBufPacked, System.run_pair]
  simp only [system, step]
  by_cases hmore : s.vq.moreUsedPacked = true
  · rw [if_pos ⟨hquiet, hmore⟩, if_pos hmore, Option.bind_some, if_pos rfl]
    cases s.vq.takeUsed with
    | none => simp
    | some answer =>
        obtain ⟨token', len', vq⟩ := answer
        simp [hgetting, and_assoc, eq_comm]
  · rw [if_neg fun h => hmore h.2, if_neg hmore]
    simp

/-- A call of `virtqueue_get_buf_packed` that finds nothing leaves the ring alone. -/
theorem step_empty_iff (hquiet : s.quiet = true) :
    s.step page .empty = some s' ↔
      s.vq.virtqueueGetBufPacked = some (none, none, s.vq) ∧ s' = s := by
  rw [VirtqueuePacked.virtqueueGetBufPacked, step]
  by_cases hmore : s.vq.moreUsedPacked = true
  · rw [if_neg fun h => h.2 hmore, if_pos hmore]
    simp
  · rw [if_pos ⟨hquiet, hmore⟩, if_neg hmore]
    simp [eq_comm]

end

end Ring

/-! ## The ledger -/

/-- The number of descriptors a request has. -/
def Lot.size (page : Token → Option Nat) (lot : Lot Token) : Nat := cost page lot.request

/-- The number of descriptors these requests have. -/
def span (page : Token → Option Nat) (lots : List (Lot Token)) : Nat :=
  (lots.map (Lot.size page)).sum

/-- A request has been returned at a place. -/
structure Returned (num : Nat) (desc : Nat → PackedDesc) (q : Nat) (a : Lot Token × Nat) :
    Prop where
  id : (desc (q % num)).id = a.1.head
  len : (desc (q % num)).len = a.2
  avail : (desc (q % num)).flags.avail = sense num q
  used : (desc (q % num)).flags.used = sense num q

/-- Who has which descriptors. -/
structure Ledger (Token : Type*) where
  /-- The unused identifiers. -/
  free : List Nat
  /-- Where the driver looks for the next used descriptor. -/
  start : Nat
  /-- The requests from there on: returned by the device, -/
  answered : List (Lot Token × Nat)
  /-- taken by it, -/
  held : List (Lot Token)
  /-- visible to it, -/
  waiting : List (Lot Token)
  /-- and described, but not visible yet. The held ones are not in the order of the ring. -/
  staged : Option (Lot Token)

namespace Ledger

section

variable (page : Token → Option Nat) (g : Ledger Token)

/-- Every request in the ring. -/
def lots : List (Lot Token) :=
  g.waiting ++ g.staged.toList ++ g.held ++ g.answered.map Prod.fst

/-- What the ledger says about requests. -/
def exchange : Exchange (Request Token) Nat where
  waiting := (g.waiting ++ g.staged.toList).map Lot.request
  held := g.held.map Lot.request
  answered := g.answered.map fun a => (a.1.request, a.2)

/-- Where the device returns the next request. -/
def posted : Nat := g.start + span page (g.answered.map Prod.fst)

/-- Where the device takes the next request. -/
def taken : Nat := g.posted page + span page g.held

/-- Where the driver makes the next request visible. -/
def shown : Nat := g.taken page + span page g.waiting

/-- Where the driver describes the next request. -/
def stop : Nat := g.shown page + span page g.staged.toList

end

/-- The state is as the ledger has it. -/
structure Keeps (page : Token → Option Nat) (num : Nat) (g : Ledger Token) (s : Ring Token) :
    Prop where
  sized : s.vq.vring.num = num
  small : num ≤ 2 ^ 15
  idents : Idents page s.vq g.free g.lots
  next : At s.vq (g.stop page)
  lastUsed : s.vq.lastUsedIdx = g.start % num
  usedWrap : s.vq.usedWrapCounter = sense num g.start
  nextUsed : s.nextUsed = g.posted page
  nextAvail : s.nextAvail = g.taken page
  marked : Marked num s.settled.desc g.start (g.posted page) (g.stop page)
  laid : Along (Lot.size page) (Laid page s.settled) (g.taken page)
    (g.waiting ++ g.staged.toList)
  returned : Along (fun a => a.1.size page) (Returned num s.vq.vring.desc) g.start g.answered
  quiet : s.adding = none → g.staged = none
  adding : ∀ head flags, s.adding = some (head, flags) → g.staged ≠ none ∧
    head = g.shown page % num ∧ (s.vq.vring.desc head).flags.avail = !sense num (g.shown page)
  held : s.held = g.held.map fun lot => (lot.head, lot.size page)
  getting : s.getting = true → g.answered ≠ []
  posting : ∀ k len, s.posting = some (k, len) → ∃ lot, g.held[k]? = some lot ∧
    (s.vq.vring.desc (g.posted page % num)).id = lot.head ∧
    (s.vq.vring.desc (g.posted page % num)).len = len

variable {page : Token → Option Nat} {num : Nat} {g : Ledger Token} {s s' : Ring Token}

/-- A ring that was just set up. -/
def start₀ (num : Nat) : Ledger Token := ⟨List.range' 0 num, 0, [], [], [], none⟩

theorem keeps_start {tables : Nat → Nat → PackedDesc} {suppress : Bool} (hpos : 0 < num)
    (hsmall : num ≤ 2 ^ 15) :
    (start₀ num : Ledger Token).Keeps page num
      (Ring.start (vringNewVirtqueuePacked (zeroPages num tables) suppress)) where
  sized := rfl
  small := hsmall
  idents := by
    constructor
    · rw [List.range_eq_range']
      exact .of_eq (List.append_nil _)
    · refine links_range' fun i hi => ?_
      exact if_pos (hi.trans_eq (Nat.zero_add num))
    · exact List.length_range'.symm
    · exact nofun
    · exact fun _ _ => rfl
    · exact hpos
    · intro i
      show (if i + 1 < num then i + 1 else 0) < num
      split
      next h => exact h
      next => exact hpos
  next := by
    refine ⟨(Nat.zero_mod num).symm, sense_zero.symm, ?_⟩
    rw [show stop page (start₀ num) = 0 from rfl, sense_zero]
    rfl
  lastUsed := (Nat.zero_mod num).symm
  usedWrap := sense_zero.symm
  nextUsed := rfl
  nextAvail := rfl
  marked := by
    refine ⟨fun q _ hq => absurd hq (Nat.not_lt_zero q),
      fun q _ hq => absurd hq (Nat.not_lt_zero q), fun q _ hq => ?_⟩
    have hsense : sense num q = true := by
      rw [sense, Nat.div_eq_of_lt (by simpa [start₀] using hq)]
      rfl
    rw [hsense]
    rfl
  laid := trivial
  returned := trivial
  quiet _ := rfl
  adding := nofun
  held := rfl
  getting := nofun
  posting := nofun

theorem span_append (these those : List (Lot Token)) :
    span page (these ++ those) = span page these + span page those := by
  rw [span, List.map_append, List.sum_append, span, span]

section

variable {lot : Lot Token} {len k : Nat}

theorem span_eraseIdx {lots : List (Lot Token)} (hget : lots[k]? = some lot) :
    lot.size page + span page (lots.eraseIdx k) = span page lots := by
  have hsum := ((perm_cons_eraseIdx hget).map (Lot.size page)).sum_nat
  rw [List.map_cons, List.sum_cons] at hsum
  exact hsum.symm

variable (page)

theorem posted_get {rest : List (Lot Token × Nat)} (hanswered : g.answered = (lot, len) :: rest)
    (free : List Nat) :
    { g with free := free, start := g.start + lot.size page, answered := rest }.posted page =
      g.posted page := by
  simp only [posted, span, hanswered, List.map_cons, List.sum_cons, Nat.add_assoc]

theorem posted_post (g : Ledger Token) (lot : Lot Token) (k len : Nat) :
    { g with
      held := g.held.eraseIdx k
      answered := g.answered ++ [(lot, len)] }.posted page = g.posted page + lot.size page := by
  show g.start + span page ((g.answered ++ [(lot, len)]).map Prod.fst) = _
  rw [List.map_append, span_append, ← Nat.add_assoc]
  rfl

theorem taken_post (hheld : g.held[k]? = some lot) (len : Nat) :
    { g with
      held := g.held.eraseIdx k
      answered := g.answered ++ [(lot, len)] }.taken page = g.taken page := by
  rw [taken, posted_post page, taken, ← span_eraseIdx hheld, Nat.add_assoc]

theorem taken_take (g : Ledger Token) (lot : Lot Token) (rest : List (Lot Token)) :
    { g with waiting := rest, held := g.held ++ [lot] }.taken page =
      g.taken page + lot.size page := by
  rw [taken, taken, span_append, Nat.add_assoc]
  rfl

theorem shown_take {rest : List (Lot Token)} (hwaiting : g.waiting = lot :: rest) :
    { g with waiting := rest, held := g.held ++ [lot] }.shown page = g.shown page := by
  rw [shown, taken_take, shown, hwaiting, Nat.add_assoc]
  rfl

theorem stop_publish (hstaged : g.staged = some lot) :
    { g with waiting := g.waiting ++ [lot], staged := none }.stop page = g.stop page := by
  show g.taken page + span page (g.waiting ++ [lot]) + 0 = _
  rw [span_append, stop, shown, hstaged, Option.toList_some, Nat.add_zero, Nat.add_assoc]

end

theorem live_eq (g : Ledger Token) : g.exchange.live = g.lots.map Lot.request := by
  simp only [Exchange.live, exchange, lots, List.map_append, List.map_map]
  rfl

namespace Keeps

theorem pos (h : g.Keeps page num s) : 0 < num := h.sized ▸ Nat.zero_lt_of_lt h.idents.freeHead

theorem lt_word (h : g.Keeps page num s) : s.vq.vring.num < 2 ^ 16 :=
  h.sized ▸ Nat.lt_of_le_of_lt h.small (Nat.pow_lt_pow_right (Nat.lt_succ_self 1) (by omega))

/-- The places from `start` on and the unused descriptors make up the ring. -/
theorem stop_add (h : g.Keeps page num s) : g.stop page + g.free.length = g.start + num := by
  have hlength := h.idents.length_eq
  rw [h.sized] at hlength
  have hspan : (g.lots.map fun lot => cost page lot.request).sum = span page g.waiting +
      span page g.staged.toList + span page g.held + span page (g.answered.map Prod.fst) := by
    rw [← span_append, ← span_append, ← span_append]
    rfl
  rw [stop, shown, taken, posted]
  omega

/-- The load of the exchange is what the ring does not have free. -/
theorem load_eq (h : g.Keeps page num s) :
    g.exchange.load (cost page) + g.free.length = num := by
  have hlength := h.idents.length_eq
  rw [h.sized] at hlength
  rw [Exchange.load, live_eq, List.map_map, Nat.add_comm]
  exact hlength

/-- The places stand in their order. -/
theorem places (h : g.Keeps page num s) :
    g.start ≤ g.posted page ∧ g.posted page ≤ g.taken page ∧ g.taken page ≤ g.shown page ∧
      g.shown page ≤ g.stop page ∧ g.stop page ≤ g.start + num := by
  have hstop := h.stop_add
  refine ⟨Nat.le_add_right .., Nat.le_add_right .., Nat.le_add_right .., Nat.le_add_right .., ?_⟩
  omega

theorem size_pos (h : g.Keeps page num s) {lot : Lot Token} (hlot : lot ∈ g.lots) :
    0 < lot.size page := by
  have howned := h.idents.owned lot hlot
  rw [Lot.size, ← howned.length]
  exact List.length_pos_iff.mpr howned.nonempty

/-- A request that is described and not visible has a descriptor. -/
theorem shown_lt (h : g.Keeps page num s) {head : Nat} {flags : DescFlags}
    (hadding : s.adding = some (head, flags)) : g.shown page < g.stop page := by
  obtain ⟨lot, hlot⟩ := Option.ne_none_iff_exists'.mp (h.adding head flags hadding).1
  have hmem : lot ∈ g.lots := by simp [lots, hlot]
  have hpos := h.size_pos hmem
  rw [stop, hlot, Option.toList_some]
  exact Nat.lt_add_of_pos_right (by simpa [span] using hpos)

end Keeps

end Ledger

namespace Ring

variable {s : Ring Token}

@[simp]
theorem settled_num (s : Ring Token) : s.settled.num = s.vq.vring.num := by
  unfold settled
  split <;> rfl

@[simp]
theorem settled_tables (s : Ring Token) : s.settled.tables = s.vq.vring.tables := by
  unfold settled
  split <;> rfl

theorem settled_of_none (h : s.adding = none) : s.settled = s.vq.vring := by
  rw [settled, h]

/-- Only the first descriptor of a request that is being added differs. -/
theorem settled_desc {i : Nat} (h : ∀ head flags, s.adding = some (head, flags) → i ≠ head) :
    s.settled.desc i = s.vq.vring.desc i := by
  unfold settled
  split
  next => rfl
  next head flags hadding => exact Function.update_of_ne (h head flags hadding) ..

theorem settled_desc_eq {s' : Ring Token} (hadding : s'.adding = s.adding)
    (hdesc : s'.vq.vring.desc = s.vq.vring.desc) : s'.settled.desc = s.settled.desc := by
  unfold settled
  rw [hadding]
  split
  next => exact hdesc
  next head flags _ =>
    show Function.update s'.vq.vring.desc head { s'.vq.vring.desc head with flags := flags } = _
    rw [hdesc]
    rfl

theorem laid_settled {page : Token → Option Nat} {q : Nat} {lot : Lot Token}
    (h : Laid page s.settled q lot) (s' : Ring Token) (hadding : s'.adding = s.adding)
    (hnum : s'.vq.vring.num = s.vq.vring.num) (hdesc : s'.vq.vring.desc = s.vq.vring.desc)
    (htables : s'.vq.vring.tables = s.vq.vring.tables) : Laid page s'.settled q lot :=
  h.of_eq (by rw [settled_num, settled_num, hnum]) (settled_desc_eq hadding hdesc)
    (by rw [settled_tables, settled_tables, htables])

theorem setDesc_self (s : Ring Token) (i : Nat) (d : PackedDesc) :
    (s.setDesc i d).vq.vring.desc i = d := Function.update_self ..

theorem setDesc_of_ne (s : Ring Token) {i j : Nat} (d : PackedDesc) (h : j ≠ i) :
    (s.setDesc i d).vq.vring.desc j = s.vq.vring.desc j := Function.update_of_ne h ..

/-- What the device writes elsewhere stays. -/
theorem settled_setDesc {i : Nat} {d : PackedDesc}
    (h : ∀ head flags, s.adding = some (head, flags) → i ≠ head) :
    (s.setDesc i d).settled = { s.settled with desc := Function.update s.settled.desc i d } := by
  unfold settled
  show (match s.adding with | none => _ | some (head, flags) => _) = _
  split
  next => rfl
  next head flags hadding =>
    have hne := h head flags hadding
    simp only [setDesc, VirtqueuePacked.publish, VirtqueuePacked.setDesc,
      Function.update_of_ne hne.symm]
    rw [Function.update_comm hne]

end Ring

/-! ## The steps of the driver -/

/-- The next used descriptor is looked for where the next request was made visible. -/
theorem countUsed_eq (vq : VirtqueuePacked Token) (q n : Nat) (hpos : 0 < vq.vring.num)
    (hsmall : vq.vring.num ≤ 2 ^ 15) (hidx : vq.lastUsedIdx = q % vq.vring.num)
    (hwrap : vq.usedWrapCounter = sense vq.vring.num q) (hn : n ≤ vq.vring.num) :
    ∃ off, vq.countUsed n = { vq with
      lastUsedIdx := (q + n) % vq.vring.num
      usedWrapCounter := sense vq.vring.num (q + n)
      vring.driver.offWrap := off } := by
  have hlt := Nat.mod_lt q hpos
  have hsum : u16 (q % vq.vring.num + n) = q % vq.vring.num + n := Nat.mod_eq_of_lt (by omega)
  have hnum : u16 vq.vring.num = vq.vring.num := Nat.mod_eq_of_lt (by omega)
  rw [VirtqueuePacked.countUsed, hidx, hsum, hnum]
  dsimp only
  by_cases hover : vq.vring.num ≤ q % vq.vring.num + n
  · obtain ⟨hslot, hsense⟩ := on_of_le hpos hn hover
    have hback : u16 (q % vq.vring.num + n + 2 ^ 16 - vq.vring.num) =
        q % vq.vring.num + n - vq.vring.num := by
      rw [u16]
      omega
    rw [if_pos hover, hback, ← hslot, hwrap, ← hsense]
    split
    next => exact ⟨_, rfl⟩
    next => exact ⟨vq.vring.driver.offWrap, rfl⟩
  · obtain ⟨hslot, hsense⟩ := on_of_lt (Nat.lt_of_not_le hover)
    rw [if_neg hover, ← hslot, hsense, ← hwrap]
    split
    next => exact ⟨_, rfl⟩
    next => exact ⟨vq.vring.driver.offWrap, rfl⟩

namespace Ledger

variable {page : Token → Option Nat} {num : Nat} {g : Ledger Token} {s s' : Ring Token}

/-- What a step does to the ledger. -/
inductive Books (page : Token → Option Nat) (g : Ledger Token) :
    Label Token → Ledger Token → Prop
  | add (hstaged : g.staged = none) (r : Request Token) (free ids : List Nat) :
      Books page g (.add r) { g with free := free, staged := some ⟨r, ids⟩ }
  | full (r : Request Token) : Books page g (.full r) g
  | publish {lot : Lot Token} (hstaged : g.staged = some lot) :
      Books page g .publish { g with waiting := g.waiting ++ [lot], staged := none }
  | take {lot : Lot Token} {rest : List (Lot Token)} (hwaiting : g.waiting = lot :: rest) :
      Books page g (.take lot.request.pieces) { g with waiting := rest, held := g.held ++ [lot] }
  | write (k len : Nat) : Books page g (.write k len) g
  | post {k : Nat} {lot : Lot Token} (hheld : g.held[k]? = some lot) (len : Nat) :
      Books page g (.post k len)
        { g with held := g.held.eraseIdx k, answered := g.answered ++ [(lot, len)] }
  | poll : Books page g .poll g
  | get {lot : Lot Token} {len : Nat} {rest : List (Lot Token × Nat)}
      (hanswered : g.answered = (lot, len) :: rest) (free : List Nat) :
      Books page g (.get lot.request.token len)
        { g with free := free, start := g.start + lot.size page, answered := rest }
  | empty : Books page g .empty g

namespace Books

variable {label : Label Token} {g' : Ledger Token}

/-- The driver's place moves only where it fetches a request. -/
theorem start_eq (h : g.Books page label g') (hget : label.returned? = none) :
    g'.start = g.start := by
  cases h with
  | get hanswered free => cases hget
  | _ => rfl

/-- The device's place moves only where it returns a request. -/
theorem posted_eq (h : g.Books page label g') (hpost : label.posted? = none) :
    g'.posted page = g.posted page := by
  cases h with
  | post hheld len => cases hpost
  | get hanswered free => exact posted_get page hanswered free
  | _ => rfl

/-- Only a step of the device makes it take something. -/
theorem taken_eq (h : g.Books page label g') (htake : label.seen? = none) :
    g'.taken page = g.taken page := by
  cases h with
  | take hwaiting => cases htake
  | post hheld len => exact taken_post page hheld len
  | get hanswered free => exact congrArg (· + span page g.held) (posted_get page hanswered free)
  | _ => rfl

theorem shown_eq (h : g.Books page label g') (hpublish : label ≠ .publish) :
    g'.shown page = g.shown page := by
  cases h with
  | publish hstaged => exact absurd rfl hpublish
  | take hwaiting => exact shown_take page hwaiting
  | post hheld len => exact congrArg (· + span page g.waiting) (taken_post page hheld len)
  | get hanswered free =>
      exact congrArg (· + span page g.held + span page g.waiting) (posted_get page hanswered free)
  | _ => rfl

theorem staged_eq (h : g.Books page label g') (hadd : label.accepted? = none)
    (hpublish : label ≠ .publish) : g'.staged = g.staged := by
  cases h with
  | add hstaged r free ids => cases hadd
  | publish hstaged => exact absurd rfl hpublish
  | _ => rfl

end Books

/-- One step of the ring is one step of the ledger, and shows the exchange these actions. -/
def Follows (page : Token → Option Nat) (num : Nat) [DecidableEq Token] (g : Ledger Token)
    (label : Label Token) (s' : Ring Token)
    (actions : List (Exchange.Action (Request Token) Nat)) : Prop :=
  ∃ g' : Ledger Token,
    (Exchange.system (cost page) num).run g.exchange actions = some g'.exchange ∧
      g.Books page label g' ∧ g'.Keeps page num s'

namespace Keeps

/-- `more_used_packed` sees whether there is an answer. -/
theorem moreUsed_iff (h : g.Keeps page num s) (hadding : s.adding = none) :
    s.vq.moreUsedPacked = true ↔ g.answered ≠ [] := by
  have hpos := h.pos
  have hmarked := h.marked
  rw [Ring.settled_of_none hadding] at hmarked
  obtain ⟨hstart, hposted, hle, hshown, hfits⟩ := h.places
  rw [VirtqueuePacked.moreUsedPacked, VirtqueuePacked.isUsedDescPacked, h.lastUsed, h.usedWrap,
    Bool.and_eq_true, beq_iff_eq, beq_iff_eq]
  constructor
  · rintro ⟨heq, hused⟩ hnil
    have hempty : g.posted page = g.start := by
      rw [posted, hnil]
      exact Nat.add_zero _
    rcases Nat.lt_or_ge g.start (g.stop page) with hlt | hge
    · rw [hmarked.unused g.start (Nat.le_of_eq hempty) hlt] at hused
      exact Bool.not_ne_self _ hused
    · have havail := hmarked.avail_stop hpos (by omega) hfits
      rw [Nat.le_antisymm hge (by omega : g.start ≤ g.stop page), heq, hused] at havail
      exact Bool.self_ne_not _ havail
  · intro hne
    obtain ⟨a, rest, hanswered⟩ := List.exists_cons_of_ne_nil hne
    have hreturned := h.returned
    rw [hanswered] at hreturned
    exact ⟨hreturned.1.avail.trans hreturned.1.used.symm, hreturned.1.used⟩

/-- What `virtqueue_get_buf` finds behind its barrier: the request that was returned first. -/
theorem takeUsed_eq (h : g.Keeps page num s) {lot : Lot Token} {len : Nat}
    {rest : List (Lot Token × Nat)} (hanswered : g.answered = (lot, len) :: rest) :
    ∃ vq', s.vq.takeUsed = some (lot.request.token, len, vq') ∧
      { g with
        free := lot.ids ++ g.free
        start := g.start + lot.size page
        answered := rest }.Keeps page num { s with vq := vq', getting := false } := by
  have hmem : lot ∈ g.lots := by simp [lots, hanswered]
  have howned := h.idents.owned lot hmem
  have hreturned := h.returned
  rw [hanswered] at hreturned
  obtain ⟨hfirst, hrest⟩ := hreturned
  have hperm : g.lots.Perm (lot :: { g with answered := rest }.lots) := by
    simp only [lots, hanswered, List.map_cons]
    exact List.perm_middle
  have hidents := (h.idents.perm hperm).detachBufPacked
    (Nat.le_trans (Nat.le_of_lt h.lt_word) (Nat.le_refl _))
  have hposted := posted_get page hanswered (lot.ids ++ g.free)
  have htaken := congrArg (· + span page g.held) hposted
  have hshown := congrArg (· + span page g.waiting) htaken
  have hstop := congrArg (· + span page g.staged.toList) hshown
  obtain ⟨hstart, hle, hle', hle'', hfits⟩ := h.places
  have hfirst_le : g.start + lot.size page ≤ g.posted page := hposted ▸ Nat.le_add_right ..
  have hcount : (s.vq.descState lot.head).num = lot.size page := howned.num.trans howned.length
  obtain ⟨off, hoff⟩ := countUsed_eq (s.vq.detachBufPacked lot.head) g.start
    (lot.size page) (h.sized.symm ▸ h.pos) (h.sized.symm ▸ h.small)
    (h.lastUsed.trans (h.sized ▸ rfl)) (h.usedWrap.trans (h.sized ▸ rfl))
    (show lot.size page ≤ s.vq.vring.num by rw [h.sized]; omega)
  obtain ⟨vq', hvq'⟩ : ∃ vq', vq' =
    (s.vq.detachBufPacked lot.head).countUsed (s.vq.descState lot.head).num := ⟨_, rfl⟩
  have hring := hvq'
  rw [hcount, hoff] at hring
  have hnum : vq'.vring.num = s.vq.vring.num := by rw [hring]; rfl
  have hdesc : vq'.vring.desc = s.vq.vring.desc := by rw [hring]; rfl
  have htables : vq'.vring.tables = s.vq.vring.tables := by rw [hring]; rfl
  have hsettled : ({ s with vq := vq', getting := false } : Ring Token).settled.desc =
      s.settled.desc := Ring.settled_desc_eq rfl hdesc
  refine ⟨vq', ?_, ?_⟩
  · rw [VirtqueuePacked.takeUsed, h.lastUsed, hfirst.id,
      if_neg (Nat.not_le_of_lt (h.idents.head_lt hmem)), howned.data, hfirst.len, hvq']
  · exact {
      sized := hnum.trans h.sized, small := h.small
      idents := hidents.transfer (by rw [hring]) (by rw [hring]) (by rw [hring]) (by rw [hring])
      next := by
        obtain ⟨hidx, havail, hused⟩ := h.next
        rw [show stop page _ = stop page g from hstop, hring]
        exact ⟨hidx, havail, hused⟩
      lastUsed := by rw [hring, ← h.sized]; rfl
      usedWrap := by rw [hring, ← h.sized]; rfl
      nextUsed := h.nextUsed.trans hposted.symm
      nextAvail := h.nextAvail.trans htaken.symm
      marked := by
        rw [hsettled, hposted, show stop page _ = stop page g from hstop]
        exact h.marked.collect h.pos hfirst_le (Nat.le_trans hle (Nat.le_trans hle' hle''))
      laid := by
        rw [show taken page _ = taken page g from htaken]
        exact h.laid.imp fun p lot _ _ _ hlaid => Ring.laid_settled hlaid
          { s with vq := vq', getting := false } rfl hnum hdesc htables
      returned := hdesc.symm ▸ hrest
      quiet := h.quiet
      adding := by
        rw [show shown page _ = shown page g from hshown]
        exact hdesc.symm ▸ h.adding
      held := h.held
      getting := nofun
      posting := by
        rw [hposted]
        exact hdesc.symm ▸ h.posting }

/-- What has been returned depends on the descriptors before `posted` only. -/
theorem returned_congr (h : g.Keeps page num s) {desc' : Nat → PackedDesc}
    (hkept : ∀ q, g.start ≤ q → q < g.posted page →
      desc' (q % num) = s.vq.vring.desc (q % num)) :
    Along (fun a => a.1.size page) (Returned num desc') g.start g.answered := by
  have hspan : g.posted page = g.start +
      (g.answered.map fun a : Lot Token × Nat => a.1.size page).sum := by
    rw [posted, span, List.map_map]
    rfl
  refine h.returned.imp fun p a ha hp hp' hreturned => ?_
  have hmem : a.1 ∈ g.lots := by
    simp only [lots, List.mem_append, List.mem_map]
    exact .inr ⟨a, ha, rfl⟩
  have hsize := h.size_pos hmem
  have heq := hkept p hp (by omega)
  obtain ⟨hid, hlen, havail, hused⟩ := hreturned
  rw [← heq] at hid hlen havail hused
  exact ⟨hid, hlen, havail, hused⟩

/-- A request that the device holds lies before the ones it has not taken. -/
theorem held_le (h : g.Keeps page num s) {k : Nat} {lot : Lot Token}
    (hget : g.held[k]? = some lot) :
    0 < lot.size page ∧ g.posted page + lot.size page + span page (g.held.eraseIdx k) =
      g.taken page := by
  refine ⟨h.size_pos ?_, ?_⟩
  · simp only [lots, List.mem_append]
    exact .inl (.inr (List.mem_of_getElem? hget))
  · rw [taken, ← span_eraseIdx hget, Nat.add_assoc]

/-- What the device has not returned is not what is being added. -/
theorem posted_ne (h : g.Keeps page num s) {k : Nat} {lot : Lot Token}
    (hget : g.held[k]? = some lot) :
    ∀ head flags, s.adding = some (head, flags) → g.posted page % num ≠ head := by
  intro head flags hadding
  obtain ⟨hstart, -, hle, -, hfits⟩ := h.places
  have hheld := h.held_le hget
  have hshown := h.shown_lt hadding
  rw [(h.adding head flags hadding).2.1]
  exact slot_ne hstart (by omega) (by omega)

/-- The request that the device takes next is complete. -/
theorem laid_first (h : g.Keeps page num s) {lot : Lot Token} {rest : List (Lot Token)}
    (hwaiting : g.waiting = lot :: rest) : Laid page s.vq.vring (g.taken page) lot := by
  obtain ⟨hstart, hposted, -, -, hfits⟩ := h.places
  have hlaid := h.laid
  rw [hwaiting, List.cons_append] at hlaid
  refine hlaid.1.congr (Ring.settled_num s).symm (fun q hq hq' => ?_)
    fun _ _ => by rw [Ring.settled_tables]
  rw [Ring.settled_num, h.sized]
  refine (Ring.settled_desc fun head flags hadding => ?_).symm
  have hshown := h.shown_lt hadding
  rw [(h.adding head flags hadding).2.1]
  have hsize : g.taken page + lot.size page ≤ g.shown page := by
    rw [shown, hwaiting, span, List.map_cons, List.sum_cons]
    omega
  exact slot_ne (a := g.start) (by omega) (Nat.lt_of_lt_of_le hq' hsize) (by omega)

/-- The device sees whether there is a request for it. -/
theorem isAvail_iff (h : g.Keeps page num s) :
    isAvail num s.vq.vring.desc (g.taken page) = true ↔ g.waiting ≠ [] := by
  obtain ⟨hstart, hposted, hle, hle', hfits⟩ := h.places
  rw [isAvail, Bool.and_eq_true, beq_iff_eq, bne_iff_ne]
  constructor
  · rintro ⟨havail, -⟩ hnil
    have hshown : g.shown page = g.taken page := by
      rw [shown, hnil]
      rfl
    rw [← hshown] at havail
    rcases hadding : s.adding with _ | ⟨head, flags⟩
    · have hmarked := h.marked.avail_stop h.pos (by omega) hfits
      have hstop : g.stop page = g.shown page := by
        rw [stop, h.quiet hadding]
        rfl
      rw [Ring.settled_of_none hadding, hstop, havail] at hmarked
      exact Bool.self_ne_not _ hmarked
    · obtain ⟨-, hplace, hwaits⟩ := h.adding head flags hadding
      rw [hplace, havail] at hwaits
      exact Bool.self_ne_not _ hwaits
  · intro hne
    obtain ⟨lot, rest, hwaiting⟩ := List.exists_cons_of_ne_nil hne
    have hmem : lot ∈ g.lots := by simp [lots, hwaiting]
    have hpos := h.size_pos hmem
    have hflags := (h.laid_first hwaiting).flags (Nat.le_refl _) (Nat.lt_add_of_pos_right hpos)
    rw [h.sized] at hflags
    rw [hflags.1, hflags.2]
    exact ⟨rfl, Bool.not_ne_self _⟩

/-- The device may write over what it holds: nobody reads this any more. -/
theorem laid_setDesc (h : g.Keeps page num s) {k : Nat} {lot : Lot Token}
    (hget : g.held[k]? = some lot) (d : PackedDesc) :
    Along (Lot.size page) (Laid page (s.setDesc (g.posted page % num) d).settled) (g.taken page)
      (g.waiting ++ g.staged.toList) := by
  obtain ⟨hstart, -, -, -, hfits⟩ := h.places
  have hheld := h.held_le hget
  have hspan : g.taken page + ((g.waiting ++ g.staged.toList).map (Lot.size page)).sum =
      g.stop page := by
    rw [stop, shown, Nat.add_assoc, ← span_append, span]
  rw [Ring.settled_setDesc (h.posted_ne hget)]
  refine h.laid.imp fun p other _ hp hp' hone => hone.congr rfl (fun q hq hq' => ?_) fun _ _ => rfl
  have hq'' : q < p + other.size page := hq'
  rw [Ring.settled_num, h.sized]
  exact Function.update_of_ne (slot_ne hstart (by omega) (by omega)).symm ..

theorem returned_setDesc (h : g.Keeps page num s) {k : Nat} {lot : Lot Token}
    (hget : g.held[k]? = some lot) (d : PackedDesc) :
    Along (fun a => a.1.size page) (Returned num (s.setDesc (g.posted page % num) d).vq.vring.desc)
      g.start g.answered := by
  obtain ⟨-, -, hle, hle', hfits⟩ := h.places
  have hheld := h.held_le hget
  refine h.returned_congr fun q hq hq' => ?_
  exact Function.update_of_ne (slot_ne hq hq' (by omega)) ..

theorem adding_setDesc (h : g.Keeps page num s) {k : Nat} {lot : Lot Token}
    (hget : g.held[k]? = some lot) (d : PackedDesc) : ∀ head flags, s.adding = some (head, flags) →
      g.staged ≠ none ∧ head = g.shown page % num ∧
        ((s.setDesc (g.posted page % num) d).vq.vring.desc head).flags.avail =
          !sense num (g.shown page) := by
  intro head flags hadding
  obtain ⟨hstaged, hplace, hwaits⟩ := h.adding head flags hadding
  refine ⟨hstaged, hplace, ?_⟩
  rwa [Ring.setDesc_of_ne _ _ (h.posted_ne hget head flags hadding).symm]

variable [DecidableEq Token] {r : Request Token} {k len : Nat} {token : Token}
variable {pieces : List Piece}

theorem step_add (h : g.Keeps page num s) (hcareful : Careful page s.vq r)
    (hstep : s.step page (.add r) = some s') : g.Follows page num (.add r) s' [.submit r] := by
  have hload := h.load_eq
  have hcost : 0 < cost page r := cost_pos page hcareful.nonempty
  have hfits := h.stop_add
  obtain ⟨hstart, hposted, hle, -, -⟩ := h.places
  rw [Ring.step, Option.ite_none_right_eq_some] at hstep
  obtain ⟨hquiet, hstep⟩ := hstep
  rw [Ring.quiet, Bool.and_eq_true, Option.isNone_iff_eq_none] at hquiet
  have hstaged := h.quiet hquiet.1
  have hshown : g.shown page = g.stop page := by
    rw [stop, hstaged]
    rfl
  have hsettled := Ring.settled_of_none hquiet.1
  rcases Nat.lt_or_ge g.free.length (cost page r) with hfull | hroom
  · rw [h.idents.fillBuf_full hcareful hfull h.lt_word] at hstep
    cases hstep
  · obtain ⟨head, flags, vq', hrun, hreadied, hidents⟩ :=
      h.idents.fillBuf h.next hcareful hroom h.lt_word
    rw [hrun] at hstep
    obtain rfl := Option.some.inj hstep
    have hstop : { g with
        free := g.free.drop (cost page r)
        staged := some ⟨r, g.free.take (cost page r)⟩ }.stop page = g.stop page + cost page r := by
      rw [← hshown]
      rfl
    have hplace : head = g.stop page % num := hreadied.place.trans (by rw [h.sized])
    have hnum : vq'.vring.num = num := hreadied.sized.trans h.sized
    have hslots : ∀ q, g.start ≤ q → q < g.stop page → ∀ p, g.stop page ≤ p →
        p < g.stop page + cost page r → q % num ≠ p % num := fun q hq hq' p hp hp' =>
      slot_ne hq (Nat.lt_of_lt_of_le hq' hp) (by omega)
    have hold : ∀ q, g.start ≤ q → q < g.stop page →
        vq'.vring.desc (q % num) = s.vq.vring.desc (q % num) := by
      intro q hq hq'
      refine hreadied.kept _ ?_
      rw [h.sized]
      exact hslots q hq hq'
    have hkept : ∀ i, (∀ q, g.stop page ≤ q → q < g.stop page + cost page r → i ≠ q % num) →
        (vq'.publish head flags).vring.desc i = s.vq.vring.desc i := by
      intro i hi
      have hne : i ≠ head := hplace ▸ hi _ (Nat.le_refl _) (by omega)
      refine (Function.update_of_ne hne ..).trans (hreadied.kept i fun p hp hp' => ?_)
      rw [h.sized]
      exact hi p hp hp'
    refine ⟨{ g with
      free := g.free.drop (cost page r)
      staged := some ⟨r, g.free.take (cost page r)⟩ }, ?_, .add hstaged r _ _, ?_⟩
    · rw [Exchange.run_submit (by omega)]
      simp [exchange, hstaged]
    · refine {
        sized := hnum, small := h.small, idents := hidents.perm ?_
        next := hstop ▸ hreadied.next, lastUsed := hreadied.lastUsed.trans h.lastUsed
        usedWrap := hreadied.usedWrap.trans h.usedWrap, nextUsed := h.nextUsed
        nextAvail := h.nextAvail, marked := ?_, laid := ?_, returned := ?_, quiet := nofun
        adding := ?_, held := h.held, getting := h.getting, posting := ?_ }
      · simp only [lots, hstaged, Option.toList_none, Option.toList_some, List.append_nil,
          List.append_assoc, List.singleton_append]
        exact List.perm_middle.symm
      · rw [hstop]
        have hmarked := h.marked
        rw [hsettled] at hmarked
        refine hmarked.publish hstart (Nat.le_trans hposted (hshown ▸ hle)) (by omega)
          (fun q hq hq' => ?_) hkept
        have hflags := hreadied.laid.flags hq hq'
        rwa [show (vq'.publish head flags).vring.num = num from hnum] at hflags
      · have hlaid := h.laid
        rw [hstaged, hsettled, Option.toList_none, List.append_nil] at hlaid
        refine along_append.mpr ⟨hlaid.imp fun p lot hlot hp hp' hone => ?_, ?_, trivial⟩
        · refine hone.congr (hnum.trans h.sized.symm) (fun q hq hq' => ?_) fun p' hp' => ?_
          · rw [h.sized]
            refine hkept _ (hslots q (by omega) ?_)
            exact Nat.lt_of_lt_of_le hq' (hshown ▸ hp')
          · have howned := h.idents.owned lot (by simp [lots, hlot])
            exact hreadied.tables p' (hcareful.fresh _ _ _ howned.data hp')
        · have hlast := hreadied.laid
          rw [← hshown] at hlast
          exact hlast
      · exact h.returned_congr fun q hq hq' => hold q hq (by omega)
      · rintro head' flags' ⟨⟩
        refine ⟨nofun, hshown ▸ hplace, ?_⟩
        have hstale := h.marked.stale (g.stop page) (Nat.le_refl _) (by omega)
        rw [hsettled] at hstale
        rw [hreadied.waits, hplace]
        exact hshown ▸ hstale
      · intro k len hposting
        obtain ⟨lot, hget, hid, hlen⟩ := h.posting k len hposting
        have hheld := h.held_le hget
        have hsame := hold (g.posted page) hstart (by omega)
        exact ⟨lot, hget, hsame ▸ hid, hsame ▸ hlen⟩

theorem step_full (h : g.Keeps page num s) (hcareful : Careful page s.vq r)
    (hstep : s.step page (.full r) = some s') : g.Follows page num (.full r) s' [.refuse r] := by
  have hload := h.load_eq
  rw [Ring.step, Option.ite_none_right_eq_some] at hstep
  obtain ⟨hquiet, hstep⟩ := hstep
  rcases Nat.lt_or_ge g.free.length (cost page r) with hfull | hroom
  · rw [h.idents.fillBuf_full hcareful hfull h.lt_word] at hstep
    obtain rfl := Option.some.inj hstep
    exact ⟨g, Exchange.run_refuse (by omega), .full r, h⟩
  · obtain ⟨head, flags, vq', hrun, -, -⟩ := h.idents.fillBuf h.next hcareful hroom h.lt_word
    rw [hrun] at hstep
    cases hstep

theorem step_publish (h : g.Keeps page num s) (hstep : s.step page .publish = some s') :
    g.Follows page num .publish s' [] := by
  rw [Ring.step] at hstep
  obtain ⟨⟨head, flags⟩, hadding, hs'⟩ := Option.map_eq_some_iff.mp hstep
  obtain rfl : { s with vq := s.vq.publish head flags, adding := none } = s' := hs'
  obtain ⟨hstaged, hplace, -⟩ := h.adding head flags hadding
  obtain ⟨lot, hlot⟩ := Option.ne_none_iff_exists'.mp hstaged
  obtain ⟨hstart, hposted, hle, -, hfits⟩ := h.places
  have hshown := h.shown_lt hadding
  have hsettled : s.settled = (s.vq.publish head flags).vring := by
    unfold Ring.settled
    rw [hadding]
  have hold : ∀ q, g.start ≤ q → q < g.shown page →
      (s.vq.publish head flags).vring.desc (q % num) = s.vq.vring.desc (q % num) := by
    intro q hq hq'
    rw [hplace]
    exact Function.update_of_ne (slot_ne hq hq' (by omega)) ..
  have hstop := stop_publish page hlot
  refine ⟨{ g with waiting := g.waiting ++ [lot], staged := none }, ?_, .publish hlot, ?_⟩
  · simp [exchange, hlot]
  · refine {
      sized := h.sized, small := h.small
      idents := (h.idents.perm (.of_eq (by simp [lots, hlot]))).transfer rfl rfl rfl rfl
      next := hstop ▸ ⟨h.next.next, h.next.avail, h.next.used⟩, lastUsed := h.lastUsed
      usedWrap := h.usedWrap, nextUsed := h.nextUsed, nextAvail := h.nextAvail, marked := ?_
      laid := ?_, returned := ?_, quiet := fun _ => rfl, adding := nofun, held := h.held
      getting := h.getting
      posting := ?_ }
    · have hmarked := h.marked
      rw [hsettled, ← hstop] at hmarked
      exact hmarked
    · have hlaid := h.laid
      rw [hlot, Option.toList_some, hsettled] at hlaid
      show Along _ _ _ (g.waiting ++ [lot] ++ [])
      rw [List.append_nil]
      exact hlaid
    · exact h.returned_congr fun q hq hq' => hold q hq (by omega)
    · intro k len hposting
      obtain ⟨other, hget, hid, hlen⟩ := h.posting k len hposting
      have hheld := h.held_le hget
      have hsame := hold (g.posted page) hstart (by omega)
      exact ⟨other, hget, hsame ▸ hid, hsame ▸ hlen⟩

theorem step_poll (h : g.Keeps page num s) (hstep : s.step page .poll = some s') :
    g.Follows page num .poll s' [] := by
  rw [Ring.step, Option.ite_none_right_eq_some] at hstep
  obtain ⟨⟨hquiet, hmore⟩, ⟨⟩⟩ := hstep
  rw [Ring.quiet, Bool.and_eq_true, Option.isNone_iff_eq_none] at hquiet
  exact ⟨g, rfl, .poll, { h with getting := fun _ => (h.moreUsed_iff hquiet.1).mp hmore }⟩

theorem step_empty (h : g.Keeps page num s) (hstep : s.step page .empty = some s') :
    g.Follows page num .empty s' [.nothing] := by
  rw [Ring.step, Option.ite_none_right_eq_some] at hstep
  obtain ⟨⟨hquiet, hmore⟩, ⟨⟩⟩ := hstep
  rw [Ring.quiet, Bool.and_eq_true, Option.isNone_iff_eq_none] at hquiet
  have hnil : g.answered = [] := not_not.mp fun hne => hmore ((h.moreUsed_iff hquiet.1).mpr hne)
  exact ⟨g, Exchange.run_nothing (by rw [exchange, hnil, List.map_nil]), .empty, h⟩

theorem step_get (h : g.Keeps page num s) (hstep : s.step page (.get token len) = some s') :
    ∃ lot : Lot Token, lot.request.token = token ∧
      g.Follows page num (.get lot.request.token len) s' [.collect lot.request len] := by
  rw [Ring.step, Option.ite_none_right_eq_some] at hstep
  obtain ⟨hgetting, hstep⟩ := hstep
  obtain ⟨⟨lot, len₀⟩, rest, hanswered⟩ := List.exists_cons_of_ne_nil (h.getting hgetting)
  obtain ⟨vq', htake, hkeeps⟩ := h.takeUsed_eq hanswered
  rw [htake] at hstep
  dsimp only at hstep
  rw [Option.ite_none_right_eq_some] at hstep
  obtain ⟨⟨htoken, rfl⟩, ⟨⟩⟩ := hstep
  refine ⟨lot, htoken, _, ?_, .get hanswered _, hkeeps⟩
  rw [Exchange.run_collect]
  · simp [exchange, hanswered]
  · simp [exchange, hanswered]

/-! ## The steps of the device -/

theorem step_take (h : g.Keeps page num s) (hstep : s.step page (.take pieces) = some s') :
    ∃ lot : Lot Token, lot.request.pieces = pieces ∧
      g.Follows page num (.take lot.request.pieces) s' [.take lot.request] := by
  obtain ⟨hstart, hposted, hle, hle', hfits⟩ := h.places
  have hnum := h.sized
  rw [Ring.step, Option.ite_none_right_eq_some, h.nextAvail, hnum] at hstep
  obtain ⟨havail, hstep⟩ := hstep
  obtain ⟨lot, rest, hwaiting⟩ := List.exists_cons_of_ne_nil (h.isAvail_iff.mp havail)
  have hmem : lot ∈ g.lots := by simp [lots, hwaiting]
  have hsize : g.taken page + lot.size page + span page rest = g.shown page := by
    rw [shown, hwaiting, span, span, List.map_cons, List.sum_cons, Nat.add_assoc]
  have hrest := h.laid
  rw [hwaiting, List.cons_append] at hrest
  have hle'' : lot.size page ≤ s.vq.vring.num := by omega
  rw [(h.laid_first hwaiting).readRequest_eq (h.size_pos hmem) hle''] at hstep
  dsimp only at hstep
  rw [Option.ite_none_right_eq_some] at hstep
  obtain ⟨rfl, ⟨⟩⟩ := hstep
  have htaken := taken_take page g lot rest
  have hshown := shown_take page hwaiting
  have hstop : { g with waiting := rest, held := g.held ++ [lot] }.stop page = g.stop page := by
    rw [stop, hshown, stop]
  refine ⟨lot, rfl, { g with waiting := rest, held := g.held ++ [lot] }, ?_, .take hwaiting, ?_⟩
  · rw [Exchange.run_take]
    · simp [exchange, hwaiting]
    · simp [exchange, hwaiting]
  · refine {
      sized := h.sized, small := h.small, idents := h.idents.perm ?_, next := hstop ▸ h.next
      lastUsed := h.lastUsed, usedWrap := h.usedWrap, nextUsed := h.nextUsed, nextAvail := ?_
      marked := hstop ▸ h.marked, laid := htaken ▸ hrest.2, returned := h.returned
      quiet := h.quiet, adding := hshown ▸ h.adding, held := ?_, getting := h.getting
      posting := ?_ }
    · simp only [lots, hwaiting, List.cons_append]
      rw [← List.append_assoc (rest ++ g.staged.toList), List.append_assoc _ [lot],
        List.singleton_append]
      exact List.perm_middle.symm
    · rw [htaken, ← h.nextAvail]
      rfl
    · show s.held ++ [_] = _
      rw [h.held, List.map_append]
      rfl
    · intro k len hposting
      obtain ⟨other, hget, hslot⟩ := h.posting k len hposting
      have hlt := (List.getElem?_eq_some_iff.mp hget).1
      exact ⟨other, by rw [List.getElem?_append_left hlt]; exact hget, hslot⟩

theorem step_write (h : g.Keeps page num s) (hstep : s.step page (.write k len) = some s') :
    g.Follows page num (.write k len) s' [] := by
  rw [Ring.step, Option.ite_none_right_eq_some] at hstep
  obtain ⟨-, hstep⟩ := hstep
  obtain ⟨⟨id, n⟩, hget, hs'⟩ := Option.map_eq_some_iff.mp hstep
  rw [h.held, List.getElem?_map] at hget
  obtain ⟨lot, hlot, hhead⟩ := Option.map_eq_some_iff.mp hget
  obtain ⟨rfl, rfl⟩ := Prod.mk.inj hhead
  obtain rfl : s.writeUsed k len lot.head = s' := hs'
  rw [Ring.writeUsed, h.nextUsed, h.sized]
  dsimp only
  refine ⟨g, rfl, .write k len, {
    sized := h.sized, small := h.small, idents := h.idents.transfer rfl rfl rfl rfl
    next := ⟨h.next.next, h.next.avail, h.next.used⟩, lastUsed := h.lastUsed
    usedWrap := h.usedWrap, nextUsed := h.nextUsed, nextAvail := h.nextAvail, marked := ?_
    laid := h.laid_setDesc hlot _, returned := h.returned_setDesc hlot _, quiet := h.quiet
    adding := h.adding_setDesc hlot _, held := h.held, getting := h.getting, posting := ?_ }⟩
  · have hne := h.posted_ne hlot
    show Marked num (s.setDesc (g.posted page % num) _).settled.desc _ _ _
    rw [Ring.settled_setDesc hne]
    refine h.marked.congr fun i => ?_
    rcases eq_or_ne i (g.posted page % num) with rfl | hi
    · rw [Ring.settled_desc hne]
      exact (congrArg PackedDesc.flags (Function.update_self (g.posted page % num) _
        s.settled.desc)).trans rfl
    · exact congrArg PackedDesc.flags (Function.update_of_ne hi ..)
  · rintro k' len' ⟨⟩
    exact ⟨lot, hlot, congrArg PackedDesc.id (Ring.setDesc_self s _ _),
      congrArg PackedDesc.len (Ring.setDesc_self s _ _)⟩

theorem step_post (h : g.Keeps page num s) (hstep : s.step page (.post k len) = some s') :
    ∃ lot : Lot Token, g.Follows page num (.post k len) s' [.answer k lot.request len] := by
  obtain ⟨hstart, hposted, hle, hle', hfits⟩ := h.places
  rw [Ring.step, Option.ite_none_right_eq_some] at hstep
  obtain ⟨hposting, hstep⟩ := hstep
  obtain ⟨lot, hlot, hid, hlen⟩ := h.posting k len hposting
  have hheld := h.held_le hlot
  rw [h.held, List.getElem?_map, hlot, Option.map_some, Option.map_some] at hstep
  obtain rfl : s.postUsed k (lot.size page) = s' := Option.some.inj hstep
  have hposted' := posted_post page g lot k len
  have htaken := taken_post page hlot len
  have hshown := congrArg (· + span page g.waiting) htaken
  have hstop := congrArg (· + span page g.staged.toList) hshown
  refine ⟨lot, { g with
    held := g.held.eraseIdx k, answered := g.answered ++ [(lot, len)] }, ?_, .post hlot len, ?_⟩
  · rw [Exchange.run_answer]
    · simp [exchange, List.eraseIdx_map]
    · simp [exchange, hlot]
  · rw [Ring.postUsed, h.nextUsed, h.sized]
    dsimp only
    refine {
      sized := h.sized, small := h.small
      idents := (h.idents.perm ?_).transfer rfl rfl rfl rfl, next := ?_
      lastUsed := h.lastUsed, usedWrap := h.usedWrap, nextUsed := hposted'.symm
      nextAvail := h.nextAvail.trans htaken.symm, marked := ?_, laid := ?_, returned := ?_
      quiet := h.quiet, adding := ?_, held := ?_, getting := ?_, posting := nofun }
    · simp only [lots, List.append_assoc, List.map_append, List.map_cons, List.map_nil]
      refine List.Perm.append_left _ (List.Perm.append_left _ ?_)
      refine ((perm_cons_eraseIdx hlot).append_right _).trans ?_
      rw [← List.append_assoc]
      exact (List.perm_append_singleton ..).symm
    · rw [show stop page _ = stop page g from hstop]
      exact ⟨h.next.next, h.next.avail, h.next.used⟩
    · show Marked num (s.setDesc (g.posted page % num) _).settled.desc _ _ _
      rw [Ring.settled_setDesc (h.posted_ne hlot), hposted',
        show stop page _ = stop page g from hstop]
      exact h.marked.post hstart hheld.1 (by omega) hfits _ rfl
    · rw [htaken]
      exact h.laid_setDesc hlot _
    · refine along_append.mpr ⟨h.returned_setDesc hlot _, ?_, trivial⟩
      have hplace : g.start + (g.answered.map fun a : Lot Token × Nat => a.1.size page).sum =
          g.posted page := by
        rw [posted, span, List.map_map]
        rfl
      rw [hplace]
      have hself := Ring.setDesc_self s (g.posted page % num)
      exact ⟨(congrArg PackedDesc.id (hself _)).trans hid,
        (congrArg PackedDesc.len (hself _)).trans hlen,
        congrArg (fun d => d.flags.avail) (hself _), congrArg (fun d => d.flags.used) (hself _)⟩
    · rw [show shown page _ = shown page g from hshown]
      exact h.adding_setDesc hlot _
    · show s.held.eraseIdx k = _
      rw [h.held, List.eraseIdx_map]
    · exact fun _ hnil => List.append_ne_nil_of_right_ne_nil _ (List.cons_ne_nil _ _) hnil

/-- Whatever happens, the ledger can follow it. -/
theorem follows {label : Label Token} (h : g.Keeps page num s)
    (hallowed : Ring.Allowed page s label) (hstep : s.step page label = some s') :
    ∃ actions, Shows label actions ∧ g.Follows page num label s' actions := by
  cases label with
  | add r => exact ⟨_, .add r, h.step_add hallowed hstep⟩
  | full r => exact ⟨_, .full r, h.step_full hallowed hstep⟩
  | publish => exact ⟨_, .publish, h.step_publish hstep⟩
  | take pieces =>
      obtain ⟨lot, rfl, hfollows⟩ := h.step_take hstep
      exact ⟨_, .take lot.request, hfollows⟩
  | write k len => exact ⟨_, .write k len, h.step_write hstep⟩
  | post k len =>
      obtain ⟨lot, hfollows⟩ := h.step_post hstep
      exact ⟨_, .post k lot.request len, hfollows⟩
  | poll => exact ⟨_, .poll, h.step_poll hstep⟩
  | get token len =>
      obtain ⟨lot, rfl, hfollows⟩ := h.step_get hstep
      exact ⟨_, .get lot.request len, hfollows⟩
  | empty => exact ⟨_, .empty, h.step_empty hstep⟩

end Keeps

end Ledger

namespace Ring

variable {page : Token → Option Nat} {num : Nat}

/-- The state has a ledger that says this about requests. -/
def Tracks (page : Token → Option Nat) (num : Nat) (s : Ring Token)
    (e : Exchange (Request Token) Nat) : Prop :=
  ∃ g : Ledger Token, g.exchange = e ∧ g.Keeps page num s

section

variable [DecidableEq Token]

theorem simulates : (system page).Simulates (Allowed page) (Exchange.system (cost page) num) Shows
    (Tracks page num) where
  step := by
    rintro s label s' _ ⟨g, rfl, hkeeps⟩ hallowed hstep
    obtain ⟨actions, hshows, g', hrun, -, hkeeps'⟩ := hkeeps.follows hallowed hstep
    exact ⟨actions, _, hshows, hrun, g', rfl, hkeeps'⟩

variable {tables : Nat → Nat → PackedDesc} {suppress : Bool} {labels : List (Label Token)}
variable {s : Ring Token}

/-- Every run of a packed ring, in whatever order the driver and the device take their steps, is
a run of the exchange of requests with the size of the ring as its capacity. -/
theorem runs_exchange (hpos : 0 < num) (hsmall : num ≤ 2 ^ 15)
    (hrun : (system page).RunUnder (Allowed page)
      (start (vringNewVirtqueuePacked (zeroPages num tables) suppress)) labels s) :
    ∃ shown e, List.Forall₂ Shows labels shown ∧
      (Exchange.system (cost page) num).run .idle shown.flatten = some e ∧ Tracks page num s e :=
  simulates.run ⟨_, rfl, Ledger.keeps_start hpos hsmall⟩ hrun

/-- Every run delivers, in terms of what the caller and the device see. -/
theorem runs_deliver (hpos : 0 < num) (hsmall : num ≤ 2 ^ 15)
    (hrun : (system page).RunUnder (Allowed page)
      (start (vringNewVirtqueuePacked (zeroPages num tables) suppress)) labels s) :
    Delivers labels := by
  obtain ⟨shown, e, hshown, hexchange, -⟩ := runs_exchange hpos hsmall hrun
  exact delivers_of_shows hshown (Exchange.run_account hexchange)

theorem runs_deliver_roundTrip : Delivers (roundTrip (twoPieces 7) 24) := by
  obtain ⟨s, hrun⟩ : ∃ s, (system fun _ : Nat => none).RunUnder (Allowed fun _ => none)
      (start (vringNewVirtqueuePacked (zeroPages 4 zeroTables) false))
      (roundTrip (twoPieces 7) 24) s :=
    ⟨_, .cons ⟨by decide, nofun, nofun⟩ rfl <| .cons trivial rfl <| .cons trivial rfl <|
      .cons trivial rfl <| .cons trivial rfl <| .cons trivial rfl <| .cons trivial rfl <| .nil _⟩
  exact runs_deliver (by decide) (by decide) hrun

end

end Ring

end VirtDisplay.Virtio.PackedRing
