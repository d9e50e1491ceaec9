/-
# A split ring between its driver and its device

The driver adds and gets back requests under the queue's lock; the device takes them, works
on any number of them and writes used elements in whatever order it is done. Either side may
act at every memory barrier of the other. A device that keeps to its part of the ring is all
that is assumed: it reads the requests that are visible, in order, and writes one used
element for each request that it holds.

Under these steps the ring is an exchange of requests. Which cells of the memory belong to
whom is a ledger beside the state, and every step of the ring is a step of the ledger.
-/

import VirtDisplay.Foundation.Circular
import VirtDisplay.Virtio.SplitTable

namespace VirtDisplay.Virtio.SplitRing

open Chains Circular Transition

variable {Token : Type*}

/-- A virtqueue, where the calls of its driver are, and its device. -/
structure Ring (Token : Type*) where
  vq : VirtqueueSplit Token
  /-- `virtqueue_add_buf` is at its memory barrier. -/
  adding : Bool
  /-- `virtqueue_get_buf` is at its memory barrier. -/
  getting : Bool
  /-- The device's own place in the available ring. -/
  lastAvail : Nat
  /-- The heads of the requests that the device is working on. -/
  held : List Nat
  /-- The used element that is written and not visible yet: for which request, and how many
  bytes. -/
  posting : Option (Nat × Nat)

namespace Ring

variable (page : Token → Option Nat) (s : Ring Token)

/-- No call of the driver is on its way. -/
def quiet : Bool := !s.adding && !s.getting

/-- The device writes the next used element. -/
def writeUsed (k len head : Nat) : Ring Token :=
  { s with
    vq.vring.usedRing := Function.update s.vq.vring.usedRing
      (descIndex s.vq.vring.num s.vq.vring.usedIdx) ⟨head, len⟩
    posting := some (k, len) }

/-- One step. -/
def step [DecidableEq Token] : Label Token → Option (Ring Token)
  | .add r =>
      if s.quiet then
        match s.vq.fillBuf r (page r.token) with
        | some (some vq) => some { s with vq := vq, adding := true }
        | _ => none
      else none
  | .full r =>
      if s.quiet then
        match s.vq.fillBuf r (page r.token) with
        | some none => some s
        | _ => none
      else none
  | .publish => if s.adding then some { s with vq := s.vq.publish, adding := false } else none
  | .take pieces =>
      let head := s.vq.vring.availRing (descIndex s.vq.vring.num s.lastAvail)
      if s.lastAvail ≠ s.vq.vring.availIdx ∧ s.vq.vring.readRequest head = some pieces then
        some { s with lastAvail := u16 (s.lastAvail + 1), held := s.held ++ [head] }
      else none
  | .write k len =>
      if s.posting = none then (s.held[k]?).map fun head => s.writeUsed k len head else none
  | .post k len =>
      if s.posting = some (k, len) then
        some { s with
          vq.vring.usedIdx := u16 (s.vq.vring.usedIdx + 1)
          held := s.held.eraseIdx k
          posting := none }
      else none
  | .poll => if s.quiet ∧ s.vq.virtqueueHasBufSplit then some { s with getting := true } else none
  | .get token len =>
      if s.getting then
        match s.vq.takeUsed with
        | some (token', len', vq) =>
            if token' = some token ∧ len' = len then some { s with vq := vq, getting := false }
            else none
        | none => none
      else none
  | .empty => if s.quiet ∧ ¬ s.vq.virtqueueHasBufSplit then some s else none

/-- The ring as a system. -/
def system [DecidableEq Token] : System (Ring Token) (Label Token) :=
  ⟨fun s label => s.step page label⟩

/-- A ring that was just set up. -/
def start (vq : VirtqueueSplit Token) : Ring Token where
  vq := vq
  adding := false
  getting := false
  lastAvail := 0
  held := []
  posting := none

/-- The driver only adds requests that it may add. -/
def Allowed : Label Token → Prop
  | .add r => Careful page s.vq r
  | .full r => Careful page s.vq r
  | _ => True

end Ring

/-- Who has which cells. -/
structure Ledger (Token : Type*) where
  free : List Nat
  /-- Visible to the device, in the order of the available ring. -/
  waiting : List (Lot Token)
  /-- Described, and not visible yet. -/
  staged : Option (Lot Token)
  held : List (Lot Token)
  /-- In the order of the used ring. -/
  answered : List (Lot Token × Nat)

namespace Ledger

/-- Every request in the table. -/
def lots (g : Ledger Token) : List (Lot Token) :=
  g.waiting ++ g.staged.toList ++ g.held ++ g.answered.map Prod.fst

/-- What the ledger says about requests. -/
def exchange (g : Ledger Token) : Exchange (Request Token) Nat where
  waiting := (g.waiting ++ g.staged.toList).map Lot.request
  held := g.held.map Lot.request
  answered := g.answered.map fun a => (a.1.request, a.2)

/-- The state is as the ledger has it. -/
structure Keeps (page : Token → Option Nat) (num : Nat) (g : Ledger Token) (s : Ring Token) :
    Prop where
  sized : s.vq.vring.num = num
  power : ∃ k < 16, num = 2 ^ k
  table : Table page s.vq g.free g.lots
  avail : Window num (2 ^ 16) s.vq.vring.availRing s.lastAvail s.vq.vring.availIdx
    (g.waiting.map Lot.head)
  master : s.vq.masterIdx = s.vq.vring.availIdx
  adding : s.adding = g.staged.isSome
  staged : ∀ lot, g.staged = some lot →
    s.vq.vring.availRing (s.vq.vring.availIdx % num) = lot.head
  held : s.held = g.held.map Lot.head
  used : Window num (2 ^ 16) s.vq.vring.usedRing s.vq.lastUsed s.vq.vring.usedIdx
    (g.answered.map fun a => ⟨a.1.head, a.2⟩)
  getting : s.getting = true → g.answered ≠ []
  posting : ∀ k len, s.posting = some (k, len) → ∃ lot, g.held[k]? = some lot ∧
    s.vq.vring.usedRing (s.vq.vring.usedIdx % num) = ⟨lot.head, len⟩

variable {page : Token → Option Nat} {num : Nat} {g : Ledger Token} {s s' : Ring Token}

/-- A ring that was just set up. -/
def start (num : Nat) : Ledger Token := ⟨List.range' 0 num, [], none, [], []⟩

/-- A ring that was just set up has no requests. -/
theorem keeps_start {tables : Nat → Nat → VringDesc} {suppress : Bool} {vq : VirtqueueSplit Token}
    (hnew : vringNewVirtqueueSplit (zeroPages num tables) suppress = some (some vq))
    (hsize : num < 2 ^ 16) : (start num).Keeps page num (Ring.start vq) := by
  have hpower : ∃ k < 16, num = 2 ^ k := power_of_new hnew hsize
  unfold vringNewVirtqueueSplit at hnew
  split at hnew
  next => cases hnew
  next =>
    rw [Option.ite_none_left_eq_some, not_or] at hnew
    obtain ⟨⟨hzero, -⟩, ⟨⟩⟩ := hnew
    refine {
      sized := rfl, power := hpower, table := ?_, avail := .nil (Nat.two_pow_pos 16),
      master := rfl, adding := rfl, staged := nofun, held := rfl,
      used := .nil (Nat.two_pow_pos 16), getting := nofun, posting := nofun }
    constructor
    · rw [List.range_eq_range']
      exact .of_eq (List.append_nil _)
    · refine links_range' fun i hi => ?_
      have hi' : i + 1 < num := by simpa [Ring.start] using hi
      show (if i + 1 < num then _ else _ : VringDesc).next = i + 1
      rw [if_pos hi']
    · exact List.length_range'.symm
    · exact nofun
    · exact nofun
    · exact fun _ _ => rfl

theorem live_eq (g : Ledger Token) : g.exchange.live = g.lots.map Lot.request := by
  simp only [Exchange.live, exchange, lots, List.map_append, List.map_map]
  rfl

namespace Keeps

theorem sizes (h : g.Keeps page num s) : Sizes num (2 ^ 16) := by
  obtain ⟨k, hk, rfl⟩ := h.power
  exact ⟨pow_dvd_pow 2 (Nat.le_of_lt hk), Nat.pow_lt_pow_right (Nat.lt_succ_self 1) hk⟩

theorem descIndex_eq (h : g.Keeps page num s) (i : Nat) :
    descIndex s.vq.vring.num i = i % num := by
  obtain ⟨k, -, hk⟩ := h.power
  rw [h.sized, descIndex, hk]
  exact Nat.and_two_pow_sub_one_eq_mod ..

/-- Every request has a descriptor. -/
theorem length_lots (h : g.Keeps page num s) : g.lots.length + g.free.length ≤ num := by
  have hlength := h.table.length_eq
  have hcount := List.length_le_sum_of_one_le (g.lots.map fun lot => cost page lot.request) (by
    intro n hn
    obtain ⟨lot, hlot, rfl⟩ := List.mem_map.mp hn
    have hlaid := h.table.laid lot hlot
    rw [← hlaid.length_cells]
    exact List.length_pos_iff.mpr hlaid.cells_ne_nil)
  rw [List.length_map] at hcount
  rw [h.sized] at hlength
  omega

/-- The load of the exchange is what the table does not have free. -/
theorem load_eq (h : g.Keeps page num s) :
    g.exchange.load (cost page) + g.free.length = num := by
  have hlength := h.table.length_eq
  rw [h.sized] at hlength
  rw [Exchange.load, live_eq, List.map_map, Nat.add_comm]
  exact hlength

/-- The number of requests, in parts. -/
theorem length_parts (h : g.Keeps page num s) :
    g.waiting.length + g.staged.toList.length + g.held.length + g.answered.length +
      g.free.length ≤ num := by
  have hlots := h.length_lots
  simp only [lots, List.length_append, List.length_map] at hlots
  exact hlots

theorem staged_none (h : g.Keeps page num s) (hidle : s.adding = false) : g.staged = none := by
  rw [h.adding] at hidle
  exact Option.isNone_iff_eq_none.mp (Option.isSome_eq_false_iff.mp hidle)

/-- There is a used element to be seen if a request has been answered. -/
theorem hasBuf_iff (h : g.Keeps page num s) :
    s.vq.virtqueueHasBufSplit = true ↔ g.answered ≠ [] := by
  rw [VirtqueueSplit.virtqueueHasBufSplit, bne_iff_ne, Ne, h.used.eq_iff h.sizes,
    List.map_eq_nil_iff]

/-- What `virtqueue_get_buf` finds behind its barrier: the request that was answered first. -/
theorem takeUsed_eq (h : g.Keeps page num s) {lot : Lot Token} {len : Nat}
    {rest : List (Lot Token × Nat)}
    (hanswered : g.answered = (lot, len) :: rest) :
    ∃ vq', s.vq.takeUsed = some (some lot.request.token, len, vq') ∧
      { g with free := lot.cells ++ g.free, answered := rest }.Keeps page num
        { s with vq := vq', getting := false } := by
  have hmem : lot ∈ g.lots := by simp [lots, hanswered]
  have hused := h.used
  rw [hanswered, List.map_cons] at hused
  have hlt : lot.head < num := h.sized ▸ h.table.cells_lt hmem _ (h.table.laid lot hmem).head_mem
  have hhead : u16 lot.head = lot.head := Nat.mod_eq_of_lt (Nat.lt_trans hlt h.sizes.lt)
  have hperm : g.lots.Perm (lot :: { g with answered := rest }.lots) := by
    simp only [lots, hanswered, List.map_cons]
    exact List.perm_middle
  obtain ⟨vq', hput, ⟨desc, tables, first, unused, opaques, rfl⟩, htable⟩ :=
    (h.table.perm hperm).putUnusedDescChain
  have helem : s.vq.vring.usedRing (descIndex s.vq.vring.num s.vq.lastUsed) = ⟨lot.head, len⟩ := by
    rw [h.descIndex_eq]
    exact hused.head
  rw [VirtqueueSplit.takeUsed, helem]
  dsimp only
  rw [if_neg (Nat.not_le_of_lt (h.sized.symm ▸ hlt)), hhead, hput, h.table.tokens lot hmem]
  refine ⟨_, rfl, ?_⟩
  obtain ⟨event, hevent⟩ := VirtqueueSplit.countUsed_eq { s.vq with
    vring.desc := desc, vring.tables := tables, firstUnused := first, numUnused := unused
    opaques := opaques }
  rw [hevent]
  exact {
    sized := h.sized, power := h.power
    table := htable.transfer rfl rfl rfl rfl rfl rfl
    avail := h.avail, master := h.master, adding := h.adding, staged := h.staged, held := h.held
    used := hused.pop h.sizes
    getting := nofun
    posting := h.posting }

end Keeps

/-- One step of the ring is one step of the ledger, and shows the exchange these actions. -/
def Follows (page : Token → Option Nat) (num : Nat) [DecidableEq Token] (g : Ledger Token)
    (s' : Ring Token) (actions : List (Exchange.Action (Request Token) Nat)) : Prop :=
  ∃ g' : Ledger Token,
    (Exchange.system (cost page) num).run g.exchange actions = some g'.exchange ∧
      g'.Keeps page num s'

namespace Keeps

variable [DecidableEq Token] {r : Request Token} {k len : Nat} {token : Token}
variable {pieces : List Piece}

theorem step_add (h : g.Keeps page num s) (hcareful : Careful page s.vq r)
    (hstep : s.step page (.add r) = some s') : g.Follows page num s' [.submit r] := by
  have hload := h.load_eq
  have hparts := h.length_parts
  have hcost : 0 < cost page r := cost_pos page hcareful.nonempty
  rw [Ring.step, Option.ite_none_right_eq_some] at hstep
  obtain ⟨hquiet, hstep⟩ := hstep
  rw [Ring.quiet, Bool.and_eq_true, Bool.not_eq_true'] at hquiet
  have hstaged := h.staged_none hquiet.1
  rcases Nat.lt_or_ge g.free.length (cost page r) with hfull | hroom
  · rw [VirtqueueSplit.fillBuf, h.table.describeRequest_full hfull] at hstep
    cases hstep
  · have hspace : (g.waiting.map Lot.head).length < num := by
      rw [List.length_map]
      omega
    obtain ⟨vq', hrun, ⟨desc, tables, first, unused, opaques, rfl⟩, htable⟩ :=
      h.table.describeRequest hcareful hroom
    rw [VirtqueueSplit.fillBuf, hrun] at hstep
    obtain rfl := Option.some.inj hstep
    refine ⟨{ g with
      free := g.free.drop (cost page r)
      staged := some ⟨r, g.free.take (cost page r)⟩ }, ?_, ?_⟩
    · rw [Exchange.run_submit (by omega)]
      simp [exchange, hstaged]
    · refine {
        sized := h.sized, power := h.power, table := ?_, avail := ?_, master := h.master,
        adding := rfl, staged := ?_, held := h.held, used := h.used, getting := h.getting,
        posting := h.posting }
      · refine (htable.perm ?_).transfer rfl rfl rfl rfl rfl rfl
        simp only [lots, hstaged, Option.toList_none, Option.toList_some, List.append_nil,
          List.append_assoc, List.singleton_append]
        exact List.perm_middle.symm
      · show Window _ _ (Function.update _ (descIndex s.vq.vring.num s.vq.masterIdx) _) _ _ _
        rw [h.descIndex_eq, h.master]
        exact h.avail.store h.sizes hspace
      · rintro lot ⟨⟩
        show Function.update _ (descIndex s.vq.vring.num s.vq.masterIdx) _ _ = _
        rw [h.descIndex_eq, h.master]
        exact Function.update_self ..

theorem step_full (h : g.Keeps page num s) (hcareful : Careful page s.vq r)
    (hstep : s.step page (.full r) = some s') : g.Follows page num s' [.refuse r] := by
  have hload := h.load_eq
  rw [Ring.step, Option.ite_none_right_eq_some] at hstep
  obtain ⟨hquiet, hstep⟩ := hstep
  rcases Nat.lt_or_ge g.free.length (cost page r) with hfull | hroom
  · rw [VirtqueueSplit.fillBuf, h.table.describeRequest_full hfull] at hstep
    obtain rfl := Option.some.inj hstep
    exact ⟨g, Exchange.run_refuse (by omega), h⟩
  · obtain ⟨vq', hrun, -, -⟩ := h.table.describeRequest hcareful hroom
    rw [VirtqueueSplit.fillBuf, hrun] at hstep
    cases hstep

theorem step_publish (h : g.Keeps page num s) (hstep : s.step page .publish = some s') :
    g.Follows page num s' [] := by
  have hparts := h.length_parts
  rw [Ring.step, Option.ite_none_right_eq_some] at hstep
  obtain ⟨hadding, ⟨⟩⟩ := hstep
  obtain ⟨lot, hlot⟩ := Option.isSome_iff_exists.mp (h.adding ▸ hadding)
  rw [hlot, Option.toList_some, List.length_singleton] at hparts
  refine ⟨{ g with waiting := g.waiting ++ [lot], staged := none }, ?_, ?_⟩
  · simp [exchange, hlot]
  · refine {
      sized := h.sized, power := h.power, table := ?_, avail := ?_, master := rfl,
      adding := rfl, staged := nofun, held := h.held, used := h.used, getting := h.getting,
      posting := h.posting }
    · refine (h.table.perm (.of_eq ?_)).transfer rfl rfl rfl rfl rfl rfl
      simp [lots, hlot]
    · show Window _ _ _ _ (u16 (s.vq.masterIdx + 1)) _
      rw [h.master, List.map_append]
      exact h.avail.advance h.sizes (by rw [List.length_map]; omega) (h.staged lot hlot)

theorem step_poll (h : g.Keeps page num s) (hstep : s.step page .poll = some s') :
    g.Follows page num s' [] := by
  rw [Ring.step, Option.ite_none_right_eq_some] at hstep
  obtain ⟨⟨-, hhas⟩, ⟨⟩⟩ := hstep
  exact ⟨g, rfl, { h with getting := fun _ => h.hasBuf_iff.mp hhas }⟩

theorem step_empty (h : g.Keeps page num s) (hstep : s.step page .empty = some s') :
    g.Follows page num s' [.nothing] := by
  rw [Ring.step, Option.ite_none_right_eq_some] at hstep
  obtain ⟨⟨-, hhas⟩, ⟨⟩⟩ := hstep
  have hnil : g.answered = [] := not_not.mp (mt h.hasBuf_iff.mpr hhas)
  exact ⟨g, Exchange.run_nothing (by rw [exchange, hnil, List.map_nil]), h⟩

theorem step_get (h : g.Keeps page num s) (hstep : s.step page (.get token len) = some s') :
    ∃ lot : Lot Token, lot.request.token = token ∧
      g.Follows page num s' [.collect lot.request len] := by
  rw [Ring.step, Option.ite_none_right_eq_some] at hstep
  obtain ⟨hgetting, hstep⟩ := hstep
  obtain ⟨⟨lot, len₀⟩, rest, hanswered⟩ := List.exists_cons_of_ne_nil (h.getting hgetting)
  obtain ⟨vq', htake, hkeeps⟩ := h.takeUsed_eq hanswered
  rw [htake] at hstep
  dsimp only at hstep
  rw [Option.ite_none_right_eq_some] at hstep
  obtain ⟨⟨htoken, rfl⟩, ⟨⟩⟩ := hstep
  refine ⟨lot, Option.some.inj htoken, _, ?_, hkeeps⟩
  rw [Exchange.run_collect]
  · simp [exchange, hanswered]
  · simp [exchange, hanswered]

theorem step_take (h : g.Keeps page num s) (hstep : s.step page (.take pieces) = some s') :
    ∃ lot : Lot Token, lot.request.pieces = pieces ∧
      g.Follows page num s' [.take lot.request] := by
  rw [Ring.step, Option.ite_none_right_eq_some, h.descIndex_eq] at hstep
  obtain ⟨⟨hne, hread⟩, ⟨⟩⟩ := hstep
  have hnil : g.waiting ≠ [] := fun hnil =>
    hne ((h.avail.eq_iff h.sizes).mpr (by rw [hnil, List.map_nil]))
  obtain ⟨lot, rest, hwaiting⟩ := List.exists_cons_of_ne_nil hnil
  have havail := h.avail
  rw [hwaiting, List.map_cons] at havail
  have hmem : lot ∈ g.lots := by simp [lots, hwaiting]
  rw [havail.head, h.table.readRequest_eq hmem] at hread
  refine ⟨lot, Option.some.inj hread, { g with waiting := rest, held := g.held ++ [lot] }, ?_, ?_⟩
  · rw [Exchange.run_take]
    · simp [exchange, hwaiting]
    · simp [exchange, hwaiting]
  · refine { h with
      table := h.table.perm ?_, avail := havail.pop h.sizes, held := ?_, posting := ?_ }
    · simp only [lots, hwaiting, List.cons_append]
      rw [← List.append_assoc (rest ++ g.staged.toList), List.append_assoc _ [lot],
        List.singleton_append]
      exact List.perm_middle.symm
    · show s.held ++ [_] = _
      rw [havail.head, h.held, List.map_append]
      rfl
    · intro k len hposting
      obtain ⟨other, hget, hslot⟩ := h.posting k len hposting
      have hlt := (List.getElem?_eq_some_iff.mp hget).1
      exact ⟨other, by rw [List.getElem?_append_left hlt]; exact hget, hslot⟩

theorem step_write (h : g.Keeps page num s) (hstep : s.step page (.write k len) = some s') :
    g.Follows page num s' [] := by
  have hparts := h.length_parts
  rw [Ring.step, Option.ite_none_right_eq_some] at hstep
  obtain ⟨hposting, hstep⟩ := hstep
  obtain ⟨head, hget, rfl⟩ := Option.map_eq_some_iff.mp hstep
  rw [h.held, List.getElem?_map] at hget
  obtain ⟨lot, hlot, rfl⟩ := Option.map_eq_some_iff.mp hget
  have hheld : k < g.held.length := (List.getElem?_eq_some_iff.mp hlot).1
  have hspace : (g.answered.map fun a : Lot Token × Nat =>
      (⟨a.1.head, a.2⟩ : VringUsedElem)).length < num := by
    rw [List.length_map]
    omega
  refine ⟨g, rfl, { h with
    table := h.table.transfer rfl rfl rfl rfl rfl rfl, used := ?_, posting := ?_ }⟩
  · show Window _ _ (Function.update _ (descIndex _ _) _) _ _ _
    rw [h.descIndex_eq]
    exact h.used.store h.sizes hspace
  · rintro k' len' ⟨⟩
    refine ⟨lot, hlot, ?_⟩
    show Function.update _ (descIndex _ _) _ _ = _
    rw [h.descIndex_eq]
    exact Function.update_self ..

theorem step_post (h : g.Keeps page num s) (hstep : s.step page (.post k len) = some s') :
    ∃ lot : Lot Token, g.Follows page num s' [.answer k lot.request len] := by
  have hparts := h.length_parts
  rw [Ring.step, Option.ite_none_right_eq_some] at hstep
  obtain ⟨hposting, ⟨⟩⟩ := hstep
  obtain ⟨lot, hlot, hslot⟩ := h.posting k len hposting
  have hheld : k < g.held.length := (List.getElem?_eq_some_iff.mp hlot).1
  have hspace : (g.answered.map fun a : Lot Token × Nat =>
      (⟨a.1.head, a.2⟩ : VringUsedElem)).length < num := by
    rw [List.length_map]
    omega
  refine ⟨lot, { g with
    held := g.held.eraseIdx k, answered := g.answered ++ [(lot, len)] }, ?_, ?_⟩
  · rw [Exchange.run_answer]
    · simp [exchange, List.eraseIdx_map]
    · simp [exchange, hlot]
  · refine { h with
      table := (h.table.perm ?_).transfer rfl rfl rfl rfl rfl rfl, held := ?_, used := ?_,
      getting := ?_, posting := nofun }
    · simp only [lots, List.append_assoc, List.map_append, List.map_cons, List.map_nil]
      refine List.Perm.append_left _ (List.Perm.append_left _ ?_)
      refine ((perm_cons_eraseIdx hlot).append_right _).trans ?_
      rw [← List.append_assoc]
      exact (List.perm_append_singleton ..).symm
    · show s.held.eraseIdx k = _
      rw [h.held, List.eraseIdx_map]
    · show Window _ _ _ _ (u16 (s.vq.vring.usedIdx + 1)) _
      rw [List.map_append]
      exact h.used.advance h.sizes hspace hslot
    · exact fun _ hnil => List.append_ne_nil_of_right_ne_nil _ (List.cons_ne_nil _ _) hnil

/-- Whatever happens, the ledger can follow it. -/
theorem follows {label : Label Token} (h : g.Keeps page num s)
    (hallowed : Ring.Allowed page s label) (hstep : s.step page label = some s') :
    ∃ actions, Shows label actions ∧ g.Follows page num s' actions := by
  cases label with
  | add r => exact ⟨_, .add r, h.step_add hallowed hstep⟩
  | full r => exact ⟨_, .full r, h.step_full hallowed hstep⟩
  | publish => exact ⟨_, .publish, h.step_publish hstep⟩
  | take pieces =>
      obtain ⟨lot, rfl, hfollows⟩ := h.step_take hstep
      exact ⟨_, .take lot.request, hfollows⟩
  | write k len => exact ⟨_, .write k len, h.step_write hstep⟩
  | post k len =>
      obtain ⟨lot, hfollows⟩ := h.step_post hstep
      exact ⟨_, .post k lot.request len, hfollows⟩
  | poll => exact ⟨_, .poll, h.step_poll hstep⟩
  | get token len =>
      obtain ⟨lot, rfl, hfollows⟩ := h.step_get hstep
      exact ⟨_, .get lot.request len, hfollows⟩
  | empty => exact ⟨_, .empty, h.step_empty hstep⟩

end Keeps

end Ledger

namespace Ring

variable {page : Token → Option Nat} {num : Nat}

/-- The state has a ledger that says this about requests. -/
def Tracks (page : Token → Option Nat) (num : Nat) (s : Ring Token)
    (e : Exchange (Request Token) Nat) : Prop :=
  ∃ g : Ledger Token, g.exchange = e ∧ g.Keeps page num s

section

variable [DecidableEq Token]

theorem simulates : (system page).Simulates (Allowed page) (Exchange.system (cost page) num) Shows
    (Tracks page num) where
  step := by
    rintro s label s' _ ⟨g, rfl, hkeeps⟩ hallowed hstep
    obtain ⟨actions, hshows, g', hrun, hkeeps'⟩ := hkeeps.follows hallowed hstep
    exact ⟨actions, _, hshows, hrun, g', rfl, hkeeps'⟩

variable {tables : Nat → Nat → VringDesc} {suppress : Bool} {vq : VirtqueueSplit Token}
variable {labels : List (Label Token)} {s : Ring Token}

/-- Every run of the ring, in whatever order the driver and the device take their steps, is a
run of the exchange of requests with the size of the ring as its capacity. -/
theorem run_exchange
    (hnew : vringNewVirtqueueSplit (zeroPages num tables) suppress = some (some vq))
    (hsize : num < 2 ^ 16) (hrun : (system page).RunUnder (Allowed page) (start vq) labels s) :
    ∃ shown e, List.Forall₂ Shows labels shown ∧
      (Exchange.system (cost page) num).run .idle shown.flatten = some e ∧ Tracks page num s e :=
  simulates.run ⟨_, rfl, Ledger.keeps_start hnew hsize⟩ hrun

/-- Every run delivers, in terms of what the caller and the device see. -/
theorem run_delivers
    (hnew : vringNewVirtqueueSplit (zeroPages num tables) suppress = some (some vq))
    (hsize : num < 2 ^ 16) (hrun : (system page).RunUnder (Allowed page) (start vq) labels s) :
    Delivers labels := by
  obtain ⟨shown, e, hshown, hexchange, -⟩ := run_exchange hnew hsize hrun
  exact delivers_of_shows hshown (Exchange.run_account hexchange)

theorem run_delivers_roundTrip : Delivers (roundTrip (twoPieces 7) 24) := by
  obtain ⟨vq, s, hnew, hrun⟩ : ∃ vq s,
      vringNewVirtqueueSplit (zeroPages 4 zeroTables) false = some (some vq) ∧
      (system fun _ : Nat => none).RunUnder (Allowed fun _ => none) (start vq)
        (roundTrip (twoPieces 7) 24) s :=
    ⟨_, _, rfl, .cons ⟨by decide, nofun, nofun⟩ rfl <| .cons trivial rfl <| .cons trivial rfl <|
      .cons trivial rfl <| .cons trivial rfl <| .cons trivial rfl <| .cons trivial rfl <| .nil _⟩
  exact run_delivers hnew (by decide) hrun

end

end Ring

end VirtDisplay.Virtio.SplitRing
