/-
# A packed ring whose device is not trusted

The driver keeps the state of the identifiers, its indices and its counters to itself. So even
a device that writes anything it likes over the shared memory, at any time, cannot make the
driver return a pointer that is not with the device, return one twice, lose count of its
descriptors or reach outside its arrays. The worst it can do is to give identifiers that have
no request, which the driver answers with a bug check.
-/

import VirtDisplay.Virtio.PackedExchange

namespace VirtDisplay.Virtio.PackedRing

open Rounds Transition

variable {Token : Type*}

/-- The steps of a driver, and of memory that others can write to. -/
inductive Move (Token : Type*)
  | add (r : Request Token)
  | full (r : Request Token)
  | publish
  | poll
  | get (token : Token) (len : Nat)
  | empty
  /-- `virtqueue_detach_unused_buf` -/
  | detach (token : Token)
  /-- Anything may be in the shared memory now. -/
  | scribble (memory : Vring)

/-- A virtqueue, and where the calls of its driver are. -/
structure Host (Token : Type*) where
  vq : VirtqueuePacked Token
  adding : Option (Nat × DescFlags)
  getting : Bool

namespace Host

variable (page : Token → Option Nat) (s : Host Token)

/-- No call is on its way. -/
def quiet : Bool := s.adding.isNone && !s.getting

/-- One step. A bug check is the end of a run. -/
def step [DecidableEq Token] : Move Token → Option (Host Token)
  | .add r =>
      if s.quiet then
        match s.vq.fillBuf r (page r.token) with
        | some (some (head, flags, vq)) => some { s with vq := vq, adding := some (head, flags) }
        | _ => none
      else none
  | .full r =>
      if s.quiet then
        match s.vq.fillBuf r (page r.token) with
        | some none => some s
        | _ => none
      else none
  | .publish =>
      s.adding.map fun (head, flags) => { s with vq := s.vq.publish head flags, adding := none }
  | .poll => if s.quiet ∧ s.vq.moreUsedPacked then some { s with getting := true } else none
  | .get token len =>
      if s.getting then
        match s.vq.takeUsed with
        | some (token', len', vq) =>
            if token' = token ∧ len' = len then some { s with vq := vq, getting := false } else none
        | none => none
      else none
  | .empty => if s.quiet ∧ ¬ s.vq.moreUsedPacked then some s else none
  | .detach token =>
      if s.quiet then
        match s.vq.virtqueueDetachUnusedBufPacked with
        | some (some token', vq) => if token' = token then some { s with vq := vq } else none
        | _ => none
      else none
  | .scribble memory => some { s with vq.vring := { memory with num := s.vq.vring.num } }

/-- Driver and memory as a system. -/
def system [DecidableEq Token] : System (Host Token) (Move Token) :=
  ⟨fun s move => s.step page move⟩

/-- A queue that was just set up. -/
def start (vq : VirtqueuePacked Token) : Host Token := ⟨vq, none, false⟩

/-- The driver only adds requests that it may add. -/
def Allowed : Move Token → Prop
  | .add r => Careful page s.vq r
  | .full r => Careful page s.vq r
  | _ => True

end Host

/-- The request that a step has accepted. -/
def Move.accepted? : Move Token → Option (Request Token)
  | .add r => some r
  | _ => none

/-- The pointer that a call returns in a step. -/
def Move.returned? : Move Token → Option Token
  | .get token _ => some token
  | .detach token => some token
  | _ => none

/-- Of the requests that were accepted, those of `back` have been returned, in this order, and
the others are outstanding. -/
structure Accounts (moves : List (Move Token)) (back outstanding : List (Request Token)) :
    Prop where
  accepted : (moves.filterMap Move.accepted?).Perm (back ++ outstanding)
  returned : moves.filterMap Move.returned? = back.map Request.token

theorem Accounts.append {moves : List (Move Token)} {move : Move Token}
    {back more outstanding left : List (Request Token)} (h : Accounts moves back outstanding)
    (hreturned : move.returned?.toList = more.map Request.token)
    (hperm : (move.accepted?.toList ++ outstanding).Perm (more ++ left)) :
    Accounts (moves ++ [move]) (back ++ more) left where
  accepted := by
    rw [List.filterMap_append, Exchange.filterMap_singleton, List.append_assoc]
    refine (h.accepted.append_right _).trans ?_
    rw [List.append_assoc]
    exact (List.perm_append_comm.trans hperm).append_left back
  returned := by
    rw [List.filterMap_append, Exchange.filterMap_singleton, h.returned, hreturned,
      List.map_append]

/-- The driver's own state, with these requests outstanding. -/
structure Host.Keeps (page : Token → Option Nat) (num : Nat) (s : Host Token)
    (lots : List (Lot Token)) : Prop where
  sized : s.vq.vring.num = num
  small : num ≤ 2 ^ 15
  idents : ∃ free, Idents page s.vq free lots
  next : ∃ q, At s.vq q
  used : ∃ q, s.vq.lastUsedIdx = q % num ∧ s.vq.usedWrapCounter = sense num q

/-- The first request that is found has its identifiers back. -/
theorem Idents.detach {page : Token → Option Nat} {vq vq' : VirtqueuePacked Token}
    {free : List Nat} {lots : List (Lot Token)} {token : Token} (h : Idents page vq free lots)
    (hsize : vq.vring.num ≤ 2 ^ 16)
    (hdetach : vq.virtqueueDetachUnusedBufPacked = some (some token, vq')) :
    ∃ lot rest, lots.Perm (lot :: rest) ∧ lot.request.token = token ∧
      vq' = vq.detachBufPacked lot.head ∧ Idents page vq' (lot.ids ++ free) rest := by
  unfold VirtqueuePacked.virtqueueDetachUnusedBufPacked at hdetach
  split at hdetach
  next => split at hdetach <;> cases hdetach
  next i hfind =>
    obtain ⟨htoken, rfl⟩ := Prod.mk.inj (Option.some.inj hdetach)
    obtain ⟨lot, hlot, rfl, rfl⟩ := h.exists_of_data htoken
    obtain ⟨before, after, hsplit⟩ := List.append_of_mem hlot
    have hperm : lots.Perm (lot :: (before ++ after)) := hsplit ▸ List.perm_middle
    exact ⟨lot, before ++ after, hperm, rfl, rfl, (h.perm hperm).detachBufPacked hsize⟩

namespace Host

variable {page : Token → Option Nat} {num : Nat} {s s' : Host Token} {lots : List (Lot Token)}

theorem keeps_start {tables : Nat → Nat → PackedDesc} {suppress : Bool} (hpos : 0 < num)
    (hsmall : num ≤ 2 ^ 15) :
    (start (vringNewVirtqueuePacked (zeroPages num tables) suppress) : Host Token).Keeps page num
      [] := by
  have hkeeps : (Ledger.start₀ num : Ledger Token).Keeps page num
      (Ring.start (vringNewVirtqueuePacked (zeroPages num tables) suppress)) :=
    Ledger.keeps_start hpos hsmall
  exact ⟨rfl, hsmall, ⟨_, hkeeps.idents⟩, ⟨_, hkeeps.next⟩, ⟨_, hkeeps.lastUsed, hkeeps.usedWrap⟩⟩

namespace Keeps

theorem lt_word (h : s.Keeps page num lots) : s.vq.vring.num < 2 ^ 16 :=
  h.sized ▸ Nat.lt_of_le_of_lt h.small (Nat.pow_lt_pow_right (Nat.lt_succ_self 1) (by omega))

/-- What is outstanding, and what a step did with it. -/
def Moved (page : Token → Option Nat) (num : Nat) (lots : List (Lot Token)) (move : Move Token)
    (s' : Host Token) : Prop :=
  ∃ (back : List (Request Token)) (lots' : List (Lot Token)), s'.Keeps page num lots' ∧
    move.returned?.toList = back.map Request.token ∧
    (move.accepted?.toList ++ lots.map Lot.request).Perm (back ++ lots'.map Lot.request)

theorem ids_le (h : s.Keeps page num lots) {lot : Lot Token} (hlot : lot ∈ lots) :
    lot.ids.length ≤ num := by
  obtain ⟨free, hidents⟩ := h.idents
  obtain ⟨before, after, rfl⟩ := List.append_of_mem hlot
  have hlength := hidents.length_eq
  have hcost := (hidents.owned lot hlot).length
  rw [List.map_append, List.map_cons, List.sum_append, List.sum_cons, h.sized] at hlength
  omega

/-- Only the memory changes. -/
theorem moved_memory {move : Move Token} {adding : Option (Nat × DescFlags)} {getting : Bool}
    {vring : Vring} (h : s.Keeps page num lots) (hnum : vring.num = s.vq.vring.num)
    (hmove : move.accepted? = none ∧ move.returned? = none) :
    Moved page num lots move ⟨{ s.vq with vring := vring }, adding, getting⟩ := by
  obtain ⟨free, hidents⟩ := h.idents
  obtain ⟨q, hnext, havail, hused⟩ := h.next
  refine ⟨[], lots, ?_, ?_, ?_⟩
  · exact {
      sized := hnum.trans h.sized, small := h.small
      idents := ⟨free, hidents.transfer hnum rfl rfl rfl⟩
      next := ⟨q, hnext.trans (congrArg _ hnum.symm), havail.trans (congrArg (sense · q) hnum.symm),
        hused.trans (congrArg (fun n => !sense n q) hnum.symm)⟩
      used := h.used }
  · rw [hmove.2]
    rfl
  · rw [hmove.1]
    exact .refl _

/-- All indices stay within their arrays. -/
theorem in_range (h : s.Keeps page num lots) :
    s.vq.lastUsedIdx < num ∧ s.vq.nextAvailIdx < num ∧ s.vq.freeHead < num := by
  obtain ⟨free, hidents⟩ := h.idents
  obtain ⟨q, hnext, -, -⟩ := h.next
  obtain ⟨q', hused, -⟩ := h.used
  have hfree := hidents.freeHead
  rw [h.sized] at hfree hnext
  have hpos := Nat.zero_lt_of_lt hfree
  exact ⟨hused ▸ Nat.mod_lt q' hpos, hnext ▸ Nat.mod_lt q hpos, hfree⟩

/-- All descriptors are free if no request is outstanding, and only then. -/
theorem numFree_eq_iff (h : s.Keeps page num lots) : s.vq.numFree = num ↔ lots = [] := by
  obtain ⟨free, hidents⟩ := h.idents
  have hlength := hidents.length_eq
  rw [← hidents.numFree, h.sized] at hlength
  constructor
  · intro hall
    by_contra hne
    obtain ⟨lot, rest, rfl⟩ := List.exists_cons_of_ne_nil hne
    have howned := hidents.owned lot List.mem_cons_self
    have hpos : 0 < cost page lot.request := by
      rw [← howned.length]
      exact List.length_pos_iff.mpr howned.nonempty
    rw [List.map_cons, List.sum_cons] at hlength
    omega
  · rintro rfl
    exact hlength

/-- Taking requests back comes to its end when there is none. -/
theorem detach_eq (h : s.Keeps page num lots) :
    ∃ token vq', s.vq.virtqueueDetachUnusedBufPacked = some (token, vq') ∧
      (token = none ↔ lots = []) := by
  obtain ⟨free, hidents⟩ := h.idents
  unfold VirtqueuePacked.virtqueueDetachUnusedBufPacked
  split
  next hfind =>
    have hnil : lots = [] := by
      by_contra hne
      obtain ⟨lot, rest, rfl⟩ := List.exists_cons_of_ne_nil hne
      have hmem : lot ∈ lot :: rest := List.mem_cons_self
      refine List.find?_eq_none.mp hfind lot.head (List.mem_range.mpr (hidents.head_lt hmem)) ?_
      rw [(hidents.owned lot hmem).data]
      rfl
    rw [if_pos ((h.numFree_eq_iff.mpr hnil).trans h.sized.symm)]
    exact ⟨none, s.vq, rfl, iff_of_true rfl hnil⟩
  next i hfind =>
    have hsome : (s.vq.descState i).data.isSome = true := by simpa using List.find?_some hfind
    obtain ⟨token, hdata⟩ := Option.isSome_iff_exists.mp hsome
    obtain ⟨lot, hlot, -⟩ := hidents.exists_of_data hdata
    refine ⟨_, _, rfl, iff_of_false ?_ (List.ne_nil_of_mem hlot)⟩
    rw [hdata]
    exact nofun

variable [DecidableEq Token] {r : Request Token} {token : Token} {len : Nat}

theorem step_add (h : s.Keeps page num lots) (hcareful : Careful page s.vq r)
    (hstep : s.step page (.add r) = some s') : Moved page num lots (.add r) s' := by
  obtain ⟨free, hidents⟩ := h.idents
  obtain ⟨q, hat⟩ := h.next
  rw [Host.step, Option.ite_none_right_eq_some] at hstep
  obtain ⟨-, hstep⟩ := hstep
  rcases Nat.lt_or_ge free.length (cost page r) with hfull | hroom
  · rw [hidents.fillBuf_full hcareful hfull h.lt_word] at hstep
    cases hstep
  · obtain ⟨head, flags, vq', hrun, hreadied, hidents'⟩ :=
      hidents.fillBuf hat hcareful hroom h.lt_word
    rw [hrun] at hstep
    obtain rfl := Option.some.inj hstep
    refine ⟨[], ⟨r, free.take (cost page r)⟩ :: lots, ?_, rfl, List.Perm.refl (_ :: _)⟩
    exact {
      sized := hreadied.sized.trans h.sized, small := h.small, idents := ⟨_, hidents'⟩
      next := ⟨_, hreadied.next⟩
      used := hreadied.lastUsed.symm ▸ hreadied.usedWrap.symm ▸ h.used }

theorem step_full (h : s.Keeps page num lots) (hstep : s.step page (.full r) = some s') :
    Moved page num lots (.full r) s' := by
  rw [Host.step, Option.ite_none_right_eq_some] at hstep
  obtain ⟨-, hstep⟩ := hstep
  split at hstep
  next =>
    obtain rfl := Option.some.inj hstep
    exact ⟨[], lots, h, rfl, .refl _⟩
  next => cases hstep

/-- Only one of the requests that are outstanding can be returned. -/
theorem step_get (h : s.Keeps page num lots) (hstep : s.step page (.get token len) = some s') :
    Moved page num lots (.get token len) s' := by
  obtain ⟨free, hidents⟩ := h.idents
  obtain ⟨q, hidx, hwrap⟩ := h.used
  rw [Host.step, Option.ite_none_right_eq_some] at hstep
  obtain ⟨-, hstep⟩ := hstep
  split at hstep
  next token' len' vq htake =>
    obtain ⟨⟨rfl, rfl⟩, ⟨⟩⟩ := Option.ite_none_right_eq_some.mp hstep
    unfold VirtqueuePacked.takeUsed at htake
    dsimp only at htake
    rw [Option.ite_none_left_eq_some] at htake
    obtain ⟨-, htake⟩ := htake
    split at htake
    next => cases htake
    next token hdata =>
      obtain ⟨rfl, rfl, rfl⟩ : token = token' ∧ _ = len' ∧ _ = vq := by
        simpa only [Option.some.injEq, Prod.mk.injEq] using htake
      obtain ⟨lot, hlot, hhead, htoken⟩ := hidents.exists_of_data hdata
      rw [← hhead]
      have howned := hidents.owned lot hlot
      have hle := h.ids_le hlot
      obtain ⟨before, after, rfl⟩ := List.append_of_mem hlot
      have hidents' := (hidents.perm List.perm_middle).detachBufPacked (Nat.le_of_lt h.lt_word)
      obtain ⟨off, hoff⟩ := countUsed_eq (s.vq.detachBufPacked lot.head) q
        (s.vq.descState lot.head).num (h.sized.symm ▸ Nat.zero_lt_of_lt
          (h.sized ▸ hidents.freeHead)) (h.sized.symm ▸ h.small) (hidx.trans (h.sized ▸ rfl))
        (hwrap.trans (h.sized ▸ rfl)) (by rw [howned.num]; exact h.sized.symm ▸ hle)
      rw [hoff]
      refine ⟨[lot.request], before ++ after, ?_, ?_, ?_⟩
      · exact {
          sized := h.sized, small := h.small
          idents := ⟨_, hidents'.transfer rfl rfl rfl rfl⟩
          next := h.next.imp fun _ hat => ⟨hat.next, hat.avail, hat.used⟩
          used := ⟨q + (s.vq.descState lot.head).num, h.sized ▸ rfl, h.sized ▸ rfl⟩ }
      · rw [← htoken]
        rfl
      · exact List.perm_middle.map Lot.request
  next => cases hstep

theorem step_detach (h : s.Keeps page num lots) (hstep : s.step page (.detach token) = some s') :
    Moved page num lots (.detach token) s' := by
  obtain ⟨free, hidents⟩ := h.idents
  rw [Host.step, Option.ite_none_right_eq_some] at hstep
  obtain ⟨-, hstep⟩ := hstep
  split at hstep
  next token' vq hdetach =>
    obtain ⟨rfl, ⟨⟩⟩ := Option.ite_none_right_eq_some.mp hstep
    obtain ⟨lot, rest, hperm, rfl, rfl, hidents'⟩ :=
      hidents.detach (Nat.le_of_lt h.lt_word) hdetach
    refine ⟨[lot.request], rest, ?_, rfl, hperm.map Lot.request⟩
    exact {
      sized := h.sized, small := h.small, idents := ⟨_, hidents'⟩
      next := h.next.imp fun _ hat => ⟨hat.next, hat.avail, hat.used⟩, used := h.used }
  next => cases hstep

theorem step {move : Move Token} (h : s.Keeps page num lots) (hallowed : s.Allowed page move)
    (hstep : s.step page move = some s') : Moved page num lots move s' := by
  cases move with
  | add r => exact h.step_add hallowed hstep
  | full r => exact h.step_full hstep
  | publish =>
      obtain ⟨⟨head, flags⟩, -, hs'⟩ := Option.map_eq_some_iff.mp hstep
      obtain rfl : { s with vq := s.vq.publish head flags, adding := none } = s' := hs'
      exact h.moved_memory rfl ⟨rfl, rfl⟩
  | poll =>
      obtain ⟨-, ⟨⟩⟩ := Option.ite_none_right_eq_some.mp hstep
      exact h.moved_memory rfl ⟨rfl, rfl⟩
  | get token len => exact h.step_get hstep
  | empty =>
      obtain ⟨-, ⟨⟩⟩ := Option.ite_none_right_eq_some.mp hstep
      exact h.moved_memory rfl ⟨rfl, rfl⟩
  | detach token => exact h.step_detach hstep
  | scribble memory =>
      obtain rfl := Option.some.inj hstep
      exact h.moved_memory rfl ⟨rfl, rfl⟩

/-- A whole run. -/
theorem accounts {moves : List (Move Token)} (h : s.Keeps page num [])
    (hrun : (system page).RunUnder (Allowed page) s moves s') :
    ∃ (back : List (Request Token)) (lots : List (Lot Token)), s'.Keeps page num lots ∧
      Accounts moves back (lots.map Lot.request) := by
  refine hrun.invariant (P := fun moves s => ∃ (back : List (Request Token))
    (lots : List (Lot Token)), s.Keeps page num lots ∧ Accounts moves back (lots.map Lot.request))
    ⟨[], [], h, .refl _, rfl⟩ ?_
  rintro moves s move s' ⟨back, lots, hkeeps, haccounts⟩ hallowed hstep
  obtain ⟨more, lots', hkeeps', hreturned, hperm⟩ := hkeeps.step hallowed hstep
  exact ⟨back ++ more, lots', hkeeps', haccounts.append hreturned hperm⟩

end Keeps

variable [DecidableEq Token] {tables : Nat → Nat → PackedDesc} {suppress : Bool}
variable {moves : List (Move Token)}

/-- Whatever is written into the shared memory on the way: each request that was added has been
returned once or is still outstanding, and the descriptors that are not free are those of the
outstanding ones. -/
theorem run_conserves (hpos : 0 < num) (hsmall : num ≤ 2 ^ 15)
    (hrun : (system page).RunUnder (Allowed page)
      (start (vringNewVirtqueuePacked (zeroPages num tables) suppress)) moves s) :
    ∃ back outstanding, Accounts moves back outstanding ∧
      s.vq.numFree + (outstanding.map (cost page)).sum = num ∧
      s.vq.lastUsedIdx < num ∧ s.vq.nextAvailIdx < num ∧ s.vq.freeHead < num := by
  obtain ⟨back, lots, hkeeps, haccounts⟩ := (keeps_start hpos hsmall).accounts hrun
  obtain ⟨free, hidents⟩ := hkeeps.idents
  refine ⟨back, lots.map Lot.request, haccounts, ?_, hkeeps.in_range⟩
  rw [List.map_map, hidents.numFree, ← hkeeps.sized]
  exact hidents.length_eq

/-- Somebody writes zeroes over a request, and it is taken back. -/
theorem exists_overwritten : ∃ s : Host Nat,
    (system fun _ => none).RunUnder (Allowed fun _ => none)
      (start (vringNewVirtqueuePacked (zeroPages 4 zeroTables) false))
      [.add (twoPieces 7), .publish, .scribble (zeroPages 9 zeroTables), .detach 7] s :=
  ⟨_, .cons ⟨by decide, nofun, nofun⟩ rfl <| .cons trivial rfl <| .cons trivial rfl <|
    .cons trivial rfl <| .nil _⟩

theorem run_conserves_overwritten : ∃ (s : Host Nat) (back outstanding : List (Request Nat)),
    [twoPieces 7].Perm (back ++ outstanding) ∧ [7] = back.map Request.token ∧
      s.vq.numFree + (outstanding.map (cost fun _ => none)).sum = 4 := by
  obtain ⟨s, hrun⟩ := exists_overwritten
  obtain ⟨back, outstanding, ⟨haccepted, hreturned⟩, hfree, -⟩ :=
    run_conserves (by decide) (by decide) hrun
  exact ⟨s, back, outstanding, haccepted, hreturned, hfree⟩

/-- The calls that add a request or take one back return from every state of every run, and
the requests that are outstanding decide what they return. -/
theorem run_answers (hpos : 0 < num) (hsmall : num ≤ 2 ^ 15)
    (hrun : (system page).RunUnder (Allowed page)
      (start (vringNewVirtqueuePacked (zeroPages num tables) suppress)) moves s) :
    (∀ r, Careful page s.vq r → ∃ vq', s.vq.virtqueueAddBufPacked r (page r.token) =
      some (if cost page r ≤ s.vq.numFree then (0, vq') else (-(enospc : Int), s.vq))) ∧
    ∃ back outstanding, Accounts moves back outstanding ∧
      (s.vq.numFree = num ↔ outstanding = []) ∧
      ∃ token vq', s.vq.virtqueueDetachUnusedBufPacked = some (token, vq') ∧
        (token = none ↔ outstanding = []) := by
  obtain ⟨back, lots, hkeeps, haccounts⟩ := (keeps_start hpos hsmall).accounts hrun
  obtain ⟨free, hidents⟩ := hkeeps.idents
  obtain ⟨q, hat⟩ := hkeeps.next
  have hnil : lots.map Lot.request = [] ↔ lots = [] := List.map_eq_nil_iff
  refine ⟨fun r hcareful => hidents.addBuf_eq hat hcareful hkeeps.lt_word, back, _, haccounts,
    hkeeps.numFree_eq_iff.trans hnil.symm, ?_⟩
  obtain ⟨token, vq', hdetach, hnone⟩ := hkeeps.detach_eq
  exact ⟨token, vq', hdetach, hnone.trans hnil.symm⟩

theorem run_answers_overwritten : ∃ (s : Host Nat) (outstanding : List (Request Nat))
    (token : Option Nat) (vq' : VirtqueuePacked Nat),
    s.vq.virtqueueDetachUnusedBufPacked = some (token, vq') ∧
      (token = none ↔ outstanding = []) := by
  obtain ⟨s, hrun⟩ := exists_overwritten
  obtain ⟨-, back, outstanding, -, -, token, vq', hdetach, hnone⟩ :=
    run_answers (by decide) (by decide) hrun
  exact ⟨s, outstanding, token, vq', hdetach, hnone⟩

end Host

end VirtDisplay.Virtio.PackedRing
