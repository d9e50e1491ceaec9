/-
# Putting a buffer on a queue

`QueueBuffer` describes a command to the host by a list of memory pieces: the command, the
pages of the data attached to it and the memory of the response. `QueueCursor` has one
piece. Both hand the list to the ring, which takes it if it has that many free descriptors.

What they return does not say whether the buffer was queued. `QueueBuffer` gives up with
the zero that also stands for success, and only a full ring makes it return something else.
`QueueCursor` always returns zero.
-/

import VirtDisplay.Contract

namespace VirtDisplay

/-- What the memory manager says about an address. -/
structure AddressSpace where
  /-- `MmIsAddressValid` -/
  valid : Nat → Bool
  /-- `MmGetPhysicalAddress` -/
  phys : Nat → Nat

/-- `VirtIOBufferDescriptor` -/
structure SgElement where
  physAddr : Nat
  length : Nat
  deriving DecidableEq

/-- `BuildSGElement` -/
def buildSGElement (space : AddressSpace) (buf size : Nat) : Option SgElement :=
  if size ≠ 0 ∧ space.valid buf then some ⟨space.phys buf, min size pageSize⟩ else none

/-- `SGLIST_SIZE` -/
def sgListSize : Nat := 64

/-- How the loop over the attached data ends. -/
inductive DataLoop
  | built (sg : List SgElement) (sgleft : Nat)
  /-- The list has no room. -/
  | full
  /-- A page is not valid: the loop tries it for ever. -/
  | endless

/-- The loop over the attached data. -/
def addData (space : AddressSpace) : (sgleft dataBuf dataSize : Nat) → List SgElement → DataLoop
  | sgleft, _, 0, sg => .built sg sgleft
  | 0, _, _ + 1, _ => .full
  | sgleft + 1, dataBuf, dataSize + 1, sg =>
      match buildSGElement space dataBuf (dataSize + 1) with
      | none => .endless
      | some element =>
          if sgleft = 0 then .full
          else
            addData space sgleft (dataBuf + pageSize) (dataSize + 1 - min (dataSize + 1) pageSize)
              (sg ++ [element])

/-- `ENOSPC` -/
def enospc : Nat := 1

/-- `virtqueue_add_buf` of that many pieces, without an indirect table, as a `UINT`. -/
def addBuf (numUnused pieces : Nat) : Nat := if numUnused < pieces then 2 ^ 32 - enospc else 0

/-- What a queueing function returns, and the pieces it put on the ring, if it did. -/
structure QueueResult where
  ret : Nat
  queued : Option (List SgElement × List SgElement)

/-- The pieces are handed to the ring. -/
def queuePieces (numUnused : Nat) (out inn : List SgElement) : QueueResult :=
  let ret := addBuf numUnused (out.length + inn.length)
  ⟨ret, if ret = 0 then some (out, inn) else none⟩

/-- The fields of a `GPU_VBUFFER` that describe its memory. -/
structure CommandMemory where
  buf : Nat
  size : Nat
  dataBuf : Nat
  dataSize : Nat
  respBuf : Nat
  respSize : Nat

/-- `QueueBuffer`, which does not come back where the loop over the data does not end. -/
def queueBuffer (space : AddressSpace) (numUnused : Nat) (v : CommandMemory) : Option QueueResult :=
  if pageSize < v.size then some ⟨0, none⟩
  else
    let command := (buildSGElement space v.buf v.size).toList
    match addData space (sgListSize - command.length) v.dataBuf v.dataSize command with
    | .endless => none
    | .full => some ⟨0, none⟩
    | .built out sgleft =>
        if pageSize < v.respSize then some ⟨0, none⟩
        else
          let response :=
            if 0 < sgleft then (buildSGElement space v.respBuf v.respSize).toList else []
          some (queuePieces numUnused out response)

/-- `QueueCursor` -/
def queueCursor (space : AddressSpace) (numUnused : Nat) (v : CommandMemory) : QueueResult :=
  { queuePieces numUnused (buildSGElement space v.buf v.size).toList [] with ret := 0 }

section

variable {space : AddressSpace} {numUnused buf size : Nat} {v : CommandMemory}

/-- The number of pieces for one stretch of memory within a page. -/
def pieces (space : AddressSpace) (buf size : Nat) : Nat :=
  if size ≠ 0 ∧ space.valid buf then 1 else 0

theorem length_buildSGElement :
    (buildSGElement space buf size).toList.length = pieces space buf size := by
  unfold buildSGElement pieces
  split <;> rfl

theorem pieces_le_one : pieces space buf size ≤ 1 := by
  unfold pieces
  split <;> omega

/-- The memory of a command fits the list and the ring: the command and the response stay
within a page, a slot is left behind the pages of the data, and the ring has a free
descriptor for each piece. -/
def FitsControl (space : AddressSpace) (numUnused : Nat) (v : CommandMemory) : Prop :=
  let out := pieces space v.buf v.size + Pages.count pageSize v.dataSize
  v.size ≤ pageSize ∧ (v.dataSize ≠ 0 → out < sgListSize) ∧ v.respSize ≤ pageSize ∧
    out + pieces space v.respBuf v.respSize ≤ numUnused

/-- A cursor command only has to fit the ring. -/
def FitsCursor (space : AddressSpace) (numUnused : Nat) (v : CommandMemory) : Prop :=
  pieces space v.buf v.size ≤ numUnused

instance : Decidable (FitsControl space numUnused v) :=
  inferInstanceAs (Decidable (_ ∧ (_ → _) ∧ _ ∧ _))

instance : Decidable (FitsCursor space numUnused v) := inferInstanceAs (Decidable (_ ≤ _))

/-- The loop over the data, unless it has no end, takes a slot for each page and leaves
one. -/
theorem addData_spec (sgleft dataBuf dataSize : Nat) (sg : List SgElement)
    (hends : addData space sgleft dataBuf dataSize sg ≠ .endless) :
    (dataSize ≠ 0 ∧ sgleft ≤ Pages.count pageSize dataSize ∧
        addData space sgleft dataBuf dataSize sg = .full) ∨
      (dataSize ≠ 0 → Pages.count pageSize dataSize < sgleft) ∧
        ∃ out, addData space sgleft dataBuf dataSize sg =
            .built out (sgleft - Pages.count pageSize dataSize) ∧
          out.length = sg.length + Pages.count pageSize dataSize := by
  -- one turn takes one page off the data
  have hcount : ∀ dataSize, Pages.count pageSize (dataSize + 1) =
      Pages.count pageSize (dataSize + 1 - min (dataSize + 1) pageSize) + 1 :=
    fun dataSize => Pages.count_sub_page (by decide) (Nat.succ_pos dataSize)
  induction sgleft, dataBuf, dataSize, sg using addData.induct space with
  | case1 sgleft dataBuf sg => exact .inr ⟨nofun, sg, by rw [addData]; rfl, rfl⟩
  | case2 dataBuf dataSize sg => exact .inl ⟨nofun, Nat.zero_le _, by rw [addData]⟩
  | case3 sgleft dataBuf dataSize sg hnone => exact absurd (by rw [addData, hnone]) hends
  | case4 dataBuf dataSize sg element hsome =>
      refine .inl ⟨nofun, ?_, by rw [addData, hsome]; rfl⟩
      rw [hcount]
      exact Nat.le_add_left _ _
  | case5 sgleft dataBuf dataSize sg element hsome hleft ih =>
      have hturn : addData space (sgleft + 1) dataBuf (dataSize + 1) sg =
          addData space sgleft (dataBuf + pageSize)
            (dataSize + 1 - min (dataSize + 1) pageSize) (sg ++ [element]) := by
        rw [addData, hsome]
        exact if_neg hleft
      rw [hturn] at hends ⊢
      rw [hcount]
      rcases ih hends with ⟨-, hfull, heq⟩ | ⟨hroom, out, heq, hlength⟩
      · exact .inl ⟨nofun, Nat.succ_le_succ hfull, heq⟩
      · refine .inr ⟨fun _ => ?_, out, ?_, ?_⟩
        · by_cases hrest : dataSize + 1 - min (dataSize + 1) pageSize = 0
          · rw [hrest]
            exact Nat.succ_lt_succ (Nat.pos_of_ne_zero hleft)
          · exact Nat.succ_lt_succ (hroom hrest)
        · rw [heq, Nat.succ_eq_add_one, Nat.add_sub_add_right]
        · rw [hlength, List.length_append, List.length_singleton]
          omega

theorem queuePieces_queued (out inn : List SgElement) :
    (queuePieces numUnused out inn).queued.isSome = true ↔ out.length + inn.length ≤ numUnused := by
  unfold queuePieces addBuf
  by_cases hroom : numUnused < out.length + inn.length
  · simp [hroom, enospc]
  · simp [hroom, Nat.not_lt.mp hroom]

theorem queueCursor_queued :
    (queueCursor space numUnused v).queued.isSome = true ↔ FitsCursor space numUnused v := by
  unfold FitsCursor
  rw [← length_buildSGElement]
  exact queuePieces_queued _ []

/-- Where it comes back, `QueueBuffer` has queued the buffer if its memory fits. -/
theorem queueBuffer_queued {r : QueueResult} (hqueue : queueBuffer space numUnused v = some r) :
    r.queued.isSome = true ↔ FitsControl space numUnused v := by
  unfold queueBuffer at hqueue
  unfold FitsControl
  dsimp only
  split at hqueue
  next hsize =>
    obtain rfl := Option.some.inj hqueue
    exact iff_of_false Bool.false_ne_true fun hfits => absurd hfits.1 (Nat.not_le.mpr hsize)
  next hsize =>
    dsimp only at hqueue
    rw [length_buildSGElement] at hqueue
    have hone := @pieces_le_one space v.buf v.size
    have hlist : sgListSize = 64 := rfl
    have hspec := @addData_spec space (sgListSize - pieces space v.buf v.size) v.dataBuf v.dataSize
      (buildSGElement space v.buf v.size).toList
    split at hqueue
    next => cases hqueue
    next hfull =>
      obtain rfl := Option.some.inj hqueue
      rw [hfull] at hspec
      apply iff_of_false Bool.false_ne_true
      intro hfits
      rcases hspec nofun with ⟨hdata, hcount, -⟩ | ⟨-, _, heq, -⟩
      · have hroom := hfits.2.1 hdata
        omega
      · cases heq
    next out sgleft hbuilt =>
      rw [hbuilt] at hspec
      rcases hspec nofun with ⟨-, -, heq⟩ | ⟨hroom, out', heq, hlength⟩
      · cases heq
      · obtain ⟨rfl, rfl⟩ := DataLoop.built.inj heq
        rw [length_buildSGElement] at hlength
        split at hqueue
        next hresp =>
          obtain rfl := Option.some.inj hqueue
          exact iff_of_false Bool.false_ne_true
            fun hfits => absurd hfits.2.2.1 (Nat.not_le.mpr hresp)
        next hresp =>
          have hleft : 0 < sgListSize - pieces space v.buf v.size -
              Pages.count pageSize v.dataSize := by
            by_cases hdata : v.dataSize = 0
            · rw [hdata, Pages.count_zero]
              omega
            · have := hroom hdata
              omega
          rw [if_pos hleft] at hqueue
          obtain rfl := Option.some.inj hqueue
          rw [queuePieces_queued, length_buildSGElement, hlength]
          refine ⟨fun hfree => ⟨Nat.not_lt.mp hsize, fun hdata => ?_, Nat.not_lt.mp hresp, hfree⟩,
            fun hfits => hfits.2.2.2⟩
          have := hroom hdata
          omega

end

end VirtDisplay
