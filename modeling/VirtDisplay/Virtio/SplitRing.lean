/-
# The split ring

A split virtqueue lives in memory that it shares with the device: a table of descriptors, a
ring of chain heads that the driver makes available and a ring of used elements that the
device fills. Unused descriptors are chained through the same `next` fields as the
descriptors of a request. What the driver knows besides is private to it.

An operation that reads or writes outside its arrays, fails an assertion or does not come
back has no result here. Memory barriers fall between the parts into which `add_buf` and
`get_buf` are cut, so that the device may act there.
-/

import Mathlib.Logic.Function.Basic
import VirtDisplay.Virtio.Requests

namespace VirtDisplay.Virtio.SplitRing

/-- A value stored in a `u16`. -/
def u16 (n : Nat) : Nat := n % 2 ^ 16

/-- `VIRTQ_DESC_F_NEXT`, `VIRTQ_DESC_F_WRITE` and `VIRTQ_DESC_F_INDIRECT`. -/
structure DescFlags where
  next : Bool
  write : Bool
  indirect : Bool
  deriving DecidableEq

/-- `struct vring_desc` -/
structure VringDesc where
  addr : Nat
  len : Nat
  flags : DescFlags
  next : Nat

/-- `struct vring_used_elem` -/
structure VringUsedElem where
  id : Nat
  len : Nat
  deriving DecidableEq

/-- `struct vring`, with the memory that it points to. -/
structure Vring where
  num : Nat
  desc : Nat → VringDesc
  /-- `VIRTQ_AVAIL_F_NO_INTERRUPT` in `avail->flags`. -/
  availNoInterrupt : Bool
  availIdx : Nat
  availRing : Nat → Nat
  /-- `vring_used_event` -/
  usedEvent : Nat
  /-- `VIRTQ_USED_F_NO_NOTIFY` in `used->flags`. -/
  usedNoNotify : Bool
  usedIdx : Nat
  usedRing : Nat → VringUsedElem
  /-- `vring_avail_event` -/
  availEvent : Nat
  /-- The indirect pages, by physical address. -/
  tables : Nat → Nat → VringDesc

/-- `struct virtqueue_split` -/
structure VirtqueueSplit (Token : Type*) where
  vring : Vring
  /-- `VIRTQ_AVAIL_F_NO_INTERRUPT` in `master_vring_avail.flags`. -/
  masterNoInterrupt : Bool
  /-- `master_vring_avail.idx` -/
  masterIdx : Nat
  numUnused : Nat
  numAddedSinceKick : Nat
  firstUnused : Nat
  lastUsed : Nat
  /-- `opaque` -/
  opaques : Nat → Option Token
  /-- `vdev->event_suppression_enabled` -/
  eventSuppression : Bool

/-- `DESC_INDEX` -/
def descIndex (num i : Nat) : Nat := i &&& (num - 1)

/-- Memory after `RtlZeroMemory`. -/
def zeroPages (num : Nat) (tables : Nat → Nat → VringDesc) : Vring where
  num := num
  desc := fun _ => ⟨0, 0, ⟨false, false, false⟩, 0⟩
  availNoInterrupt := false
  availIdx := 0
  availRing := fun _ => 0
  usedEvent := 0
  usedNoNotify := false
  usedIdx := 0
  usedRing := fun _ => ⟨0, 0⟩
  availEvent := 0
  tables := tables

/-- Tables of nothing but zeroes. -/
def zeroTables : Nat → Nat → VringDesc := fun _ _ => ⟨0, 0, ⟨false, false, false⟩, 0⟩

variable {Token : Type*}

/-- `vring_new_virtqueue_split`, which returns `NULL` for a size that is not a power of two.
Its counter is a `u16`, so for some sizes its loop does not end. -/
def vringNewVirtqueueSplit (pages : Vring) (eventSuppression : Bool) :
    Option (Option (VirtqueueSplit Token)) :=
  if descIndex pages.num pages.num ≠ 0 then some none
  else if pages.num = 0 ∨ 2 ^ 16 < pages.num then none
  else
    some (some {
      vring := { pages with
        desc := fun i =>
          if i + 1 < pages.num then
            { pages.desc i with flags := ⟨true, false, false⟩, next := i + 1 }
          else pages.desc i }
      masterNoInterrupt := false
      masterIdx := 0
      numUnused := pages.num
      numAddedSinceKick := 0
      firstUnused := 0
      lastUsed := 0
      opaques := fun _ => none
      eventSuppression := eventSuppression })

/-- The sizes that `vring_new_virtqueue_split` accepts, and that its loop comes to an end
with, are the powers of two up to `2 ^ 16`. -/
theorem power_of_new {pages : Vring} {suppress : Bool} {vq : VirtqueueSplit Token}
    (hnew : vringNewVirtqueueSplit pages suppress = some (some vq)) (hsize : pages.num < 2 ^ 16) :
    ∃ k < 16, pages.num = 2 ^ k := by
  unfold vringNewVirtqueueSplit at hnew
  split at hnew
  next => cases hnew
  next hmask =>
    rw [Option.ite_none_left_eq_some, not_or] at hnew
    obtain ⟨⟨hzero, -⟩, -⟩ := hnew
    obtain ⟨k, hk⟩ := (Nat.and_sub_one_eq_zero_iff_isPowerOfTwo hzero).mp (not_not.mp hmask)
    exact ⟨k, (Nat.pow_lt_pow_iff_right (Nat.lt_succ_self 1)).mp (hk ▸ hsize), hk⟩

namespace VirtqueueSplit

variable (vq : VirtqueueSplit Token)

/-- `get_unused_desc` -/
def getUnusedDesc : Option (Nat × VirtqueueSplit Token) :=
  if vq.numUnused = 0 ∨ vq.vring.num ≤ vq.firstUnused then none
  else
    some (vq.firstUnused,
      { vq with
        firstUnused := (vq.vring.desc vq.firstUnused).next
        numUnused := vq.numUnused - 1 })

/-- Write a descriptor. -/
def setDesc (idx : Nat) (d : VringDesc) : VirtqueueSplit Token :=
  { vq with vring.desc := Function.update vq.vring.desc idx d }

/-- A descriptor of a chain, which leads on to the first unused one. -/
def describe (idx : Nat) (e : SgElement) (write : Bool) : VirtqueueSplit Token :=
  vq.setDesc idx ⟨e.physAddr, e.length, ⟨true, write, false⟩, vq.firstUnused⟩

/-- The rest of the descriptors, numbered from `i`. -/
def addRest (out : Nat) :
    VirtqueueSplit Token → (i last : Nat) → List SgElement → Option (Nat × VirtqueueSplit Token)
  | vq, _, last, [] => some (last, vq)
  | vq, i, _, e :: sg => do
      let (idx, vq) ← vq.getUnusedDesc
      addRest out (vq.describe idx e (out ≤ i)) (i + 1) idx sg

/-- `&= ~VIRTQ_DESC_F_NEXT` -/
def clearNext (d : VringDesc) : VringDesc := { d with flags.next := false }

/-- The regular descriptors of a request. -/
def addDirect (r : Request Token) : Option (Nat × VirtqueueSplit Token) :=
  match r.sg with
  | [] => none
  | e :: sg => do
      let (idx, vq) ← vq.getUnusedDesc
      let vq := { vq with opaques := Function.update vq.opaques idx (some r.token) }
      let vq := vq.describe idx e (r.out = 0)
      let (last, vq) ← addRest r.out vq 1 idx sg
      pure (idx, vq.setDesc last (clearNext (vq.vring.desc last)))

/-- The loop over an indirect table. -/
def fillTable (out : Nat) :
    (desc : Nat → VringDesc) → (i : Nat) → List SgElement → Nat → VringDesc
  | desc, _, [] => desc
  | desc, i, e :: sg =>
      fillTable out
        (Function.update desc i ⟨e.physAddr, e.length, ⟨true, out ≤ i, false⟩, u16 (i + 1)⟩)
        (i + 1) sg

/-- An indirect table in memory that held `desc` before. -/
def indirectTable (r : Request Token) (desc : Nat → VringDesc) : Nat → VringDesc :=
  let desc := fillTable r.out desc 0 r.sg
  let last := r.sg.length - 1
  Function.update desc last (clearNext (desc last))

/-- One descriptor for a table at `page`. -/
def addIndirect (r : Request Token) (page : Nat) : Option (Nat × VirtqueueSplit Token) := do
  let vq := { vq with
    vring.tables :=
      Function.update vq.vring.tables page (indirectTable r (vq.vring.tables page)) }
  let (idx, vq) ← vq.getUnusedDesc
  let d := vq.vring.desc idx
  let vq := vq.setDesc idx { d with
    addr := page, len := r.sg.length * 16, flags := ⟨false, false, true⟩ }
  pure (idx, { vq with opaques := Function.update vq.opaques idx (some r.token) })

/-- The descriptors of a request, or that there are too few. -/
def describeRequest (r : Request Token) (table : Option Nat) :
    Option (Option (Nat × VirtqueueSplit Token)) :=
  match table with
  | some page =>
      if 1 < r.sg.length ∧ 0 < vq.numUnused then (vq.addIndirect r page).map some
      else if vq.numUnused < r.sg.length then some none
      else (vq.addDirect r).map some
  | none => if vq.numUnused < r.sg.length then some none else (vq.addDirect r).map some

/-- The first descriptor goes into the available ring. -/
def stage (idx : Nat) : VirtqueueSplit Token :=
  { vq with
    vring.availRing :=
      Function.update vq.vring.availRing (descIndex vq.vring.num vq.masterIdx) idx }

/-- What `virtqueue_add_buf_split` does before its memory barrier. -/
def fillBuf (r : Request Token) (table : Option Nat) : Option (Option (VirtqueueSplit Token)) :=
  (vq.describeRequest r table).map fun described => described.map fun (idx, vq) => vq.stage idx

/-- What `virtqueue_add_buf_split` does behind its memory barrier. -/
def publish : VirtqueueSplit Token :=
  { vq with
    masterIdx := u16 (vq.masterIdx + 1)
    vring.availIdx := u16 (vq.masterIdx + 1)
    numAddedSinceKick := (vq.numAddedSinceKick + 1) % 2 ^ 32 }

/-- `virtqueue_add_buf_split`; the page at `table` is its argument `va_indirect`. -/
def virtqueueAddBufSplit (r : Request Token) (table : Option Nat) :
    Option (Int × VirtqueueSplit Token) :=
  (vq.fillBuf r table).map fun filled =>
    match filled with
    | none => (-enospc, vq)
    | some vq => (0, vq.publish)

/-- The loop of `put_unused_desc_chain` to the end of the chain. A walk longer than the table
has come back to where it was. -/
def chainEnd (vr : Vring) : (fuel idx numUnused : Nat) → Option (Nat × Nat)
  | 0, _, _ => none
  | fuel + 1, idx, numUnused =>
      if vr.num ≤ idx then none
      else if (vr.desc idx).flags.next then chainEnd vr fuel (vr.desc idx).next (numUnused + 1)
      else some (idx, numUnused)

/-- `put_unused_desc_chain` -/
def putUnusedDescChain (start : Nat) : Option (VirtqueueSplit Token) :=
  (chainEnd vq.vring vq.vring.num start vq.numUnused).map fun (idx, numUnused) =>
    let d := vq.vring.desc idx
    let vq := vq.setDesc idx { d with flags := ⟨true, false, false⟩, next := vq.firstUnused }
    { vq with
      opaques := Function.update vq.opaques start none
      numUnused := numUnused + 1
      firstUnused := start }

/-- `virtqueue_is_interrupt_enabled_split` -/
def virtqueueIsInterruptEnabledSplit : Bool := !vq.masterNoInterrupt

/-- A used element has been dealt with: the next one is looked for, and announced to a device
that is to interrupt for it. -/
def countUsed : VirtqueueSplit Token :=
  let vq := { vq with lastUsed := u16 (vq.lastUsed + 1) }
  if vq.eventSuppression && vq.virtqueueIsInterruptEnabledSplit then
    { vq with vring.usedEvent := vq.lastUsed }
  else vq

/-- What `virtqueue_get_buf_split` does behind its memory barrier: the pointer, which is
`NULL` for an element that is out of range, and the number of bytes. -/
def takeUsed : Option (Option Token × Nat × VirtqueueSplit Token) :=
  let elem := vq.vring.usedRing (descIndex vq.vring.num vq.lastUsed)
  if vq.vring.num ≤ elem.id then
    some (none, elem.len, { vq with lastUsed := u16 (vq.lastUsed + 1) })
  else do
    let after ← vq.putUnusedDescChain (u16 elem.id)
    -- `ASSERT(opaque != NULL)`
    let token ← vq.opaques (u16 elem.id)
    pure (some token, elem.len, after.countUsed)

theorem countUsed_eq : ∃ event, vq.countUsed =
    { vq with lastUsed := u16 (vq.lastUsed + 1), vring.usedEvent := event } := by
  unfold countUsed
  dsimp only
  split
  next => exact ⟨_, rfl⟩
  next => exact ⟨vq.vring.usedEvent, rfl⟩

/-- `virtqueue_has_buf_split` -/
def virtqueueHasBufSplit : Bool := vq.lastUsed != vq.vring.usedIdx

/-- `virtqueue_get_buf_split`, where the length is written only if an element was seen. -/
def virtqueueGetBufSplit : Option (Option Token × Option Nat × VirtqueueSplit Token) :=
  if vq.virtqueueHasBufSplit then
    vq.takeUsed.map fun (token, len, vq) => (token, some len, vq)
  else some (none, none, vq)

end VirtqueueSplit

/-- Follow a chain of descriptors in a table of `num`. -/
def readChain (desc : Nat → VringDesc) (num : Nat) : (fuel idx : Nat) → Option (List Piece)
  | 0, _ => none
  | fuel + 1, idx =>
      if num ≤ idx then none
      else
        let d := desc idx
        let piece : Piece := ⟨⟨d.addr, d.len⟩, d.flags.write⟩
        if d.flags.next then (readChain desc num fuel d.next).map (piece :: ·) else some [piece]

/-- What the device reads of the request at `head`. -/
def Vring.readRequest (vr : Vring) (head : Nat) : Option (List Piece) :=
  let d := vr.desc head
  if d.flags.indirect then readChain (vr.tables d.addr) (d.len / 16) (d.len / 16) 0
  else readChain vr.desc vr.num vr.num head

end VirtDisplay.Virtio.SplitRing
