/-
# The packed ring

A packed virtqueue has one ring of descriptors for both directions. Where it stands is told by
two flags in each descriptor: the driver makes them different to make it available, the device
makes them equal to return it, and both change the sense of the flags every time they come
round. A request takes consecutive descriptors and is known by an identifier; the state kept
for each identifier is private to the driver, and unused identifiers are chained through it.

A bug check, like an access outside the arrays, has no result here.
-/

import VirtDisplay.Foundation.Rounds
import VirtDisplay.Virtio.Requests

namespace VirtDisplay.Virtio.PackedRing

open Rounds

/-- The flags of a descriptor: `VRING_DESC_F_NEXT`, `VRING_DESC_F_WRITE`,
`VRING_DESC_F_INDIRECT`, `VRING_PACKED_DESC_F_AVAIL` and `VRING_PACKED_DESC_F_USED`. -/
structure DescFlags where
  next : Bool
  write : Bool
  indirect : Bool
  avail : Bool
  used : Bool
  deriving DecidableEq

/-- `struct vring_packed_desc` -/
structure PackedDesc where
  addr : Nat
  len : Nat
  id : Nat
  flags : DescFlags
  deriving DecidableEq

/-- `struct vring_packed_desc_event` -/
structure DescEvent where
  offWrap : Nat
  flags : Nat

/-- `VRING_PACKED_EVENT_FLAG_ENABLE` -/
def eventFlagEnable : Nat := 0

/-- `VRING_PACKED_EVENT_FLAG_DISABLE` -/
def eventFlagDisable : Nat := 1

/-- `VRING_PACKED_EVENT_FLAG_DESC` -/
def eventFlagDesc : Nat := 2

/-- `packed.vring`, with the memory that it points to. -/
structure Vring where
  num : Nat
  desc : Nat → PackedDesc
  driver : DescEvent
  device : DescEvent
  /-- The indirect pages, by physical address. -/
  tables : Nat → Nat → PackedDesc

/-- `struct vring_desc_state_packed` -/
structure DescState (Token : Type*) where
  data : Option Token
  num : Nat
  next : Nat
  last : Nat

/-- `struct virtqueue_packed` -/
structure VirtqueuePacked (Token : Type*) where
  numAdded : Nat
  freeHead : Nat
  numFree : Nat
  lastUsedIdx : Nat
  /-- `VRING_PACKED_DESC_F_AVAIL` in `avail_used_flags`. -/
  availFlag : Bool
  /-- `VRING_PACKED_DESC_F_USED` in `avail_used_flags`. -/
  usedFlag : Bool
  availWrapCounter : Bool
  usedWrapCounter : Bool
  nextAvailIdx : Nat
  eventFlagsShadow : Nat
  vring : Vring
  descState : Nat → DescState Token
  /-- `vdev->event_suppression_enabled` -/
  eventSuppression : Bool

/-- A value stored in a `u16`. -/
def u16 (n : Nat) : Nat := n % 2 ^ 16

/-- An index with its wrap counter. -/
def offWrap (idx : Nat) (wrapCounter : Bool) : Nat := if wrapCounter then idx ||| 2 ^ 15 else idx

/-- Memory after `RtlZeroMemory`. -/
def zeroPages (num : Nat) (tables : Nat → Nat → PackedDesc) : Vring where
  num := num
  desc := fun _ => ⟨0, 0, 0, ⟨false, false, false, false, false⟩⟩
  driver := ⟨0, 0⟩
  device := ⟨0, 0⟩
  tables := tables

/-- Tables of nothing but zeroes. -/
def zeroTables : Nat → Nat → PackedDesc :=
  fun _ _ => ⟨0, 0, 0, ⟨false, false, false, false, false⟩⟩

variable {Token : Type*}

/-- `vring_new_virtqueue_packed` -/
def vringNewVirtqueuePacked (pages : Vring) (eventSuppression : Bool) : VirtqueuePacked Token where
  numAdded := 0
  freeHead := 0
  numFree := pages.num
  lastUsedIdx := 0
  availFlag := true
  usedFlag := false
  availWrapCounter := true
  usedWrapCounter := true
  nextAvailIdx := 0
  eventFlagsShadow := 0
  vring := pages
  descState := fun i => ⟨none, 0, if i + 1 < pages.num then i + 1 else 0, 0⟩
  eventSuppression := eventSuppression

namespace VirtqueuePacked

variable (vq : VirtqueuePacked Token)

/-- Write a descriptor. -/
def setDesc (i : Nat) (d : PackedDesc) : VirtqueuePacked Token :=
  { vq with vring.desc := Function.update vq.vring.desc i d }

/-- Write the state of an identifier. -/
def setState (i : Nat) (state : DescState Token) : VirtqueuePacked Token :=
  { vq with descState := Function.update vq.descState i state }

/-- `avail_used_flags` change their sense. -/
def flipFlags : VirtqueuePacked Token :=
  { vq with availFlag := !vq.availFlag, usedFlag := !vq.usedFlag }

/-- The flags of the `n`-th of `descsUsed` descriptors. -/
def chainFlags (out descsUsed n : Nat) : DescFlags :=
  ⟨n + 1 ≠ descsUsed, out ≤ n, false, vq.availFlag, vq.usedFlag⟩

/-- Where the loop over the descriptors is. -/
structure Cursor (Token : Type*) where
  vq : VirtqueuePacked Token
  i : Nat
  curr : Nat
  prev : Nat
  headFlags : DescFlags

/-- One round: the flags of the first descriptor are kept back. -/
def addOne (out descsUsed id n : Nat) (c : Cursor Token) (e : SgElement) : Option (Cursor Token) :=
  if c.vq.vring.num ≤ c.i ∨ c.vq.vring.num ≤ c.curr then none
  else
    let flags := c.vq.chainFlags out descsUsed n
    let d : PackedDesc :=
      ⟨e.physAddr, e.length, id, if n = 0 then (c.vq.vring.desc c.i).flags else flags⟩
    let vq := c.vq.setDesc c.i d
    let wraps := vq.vring.num ≤ c.i + 1
    some {
      vq := if wraps then vq.flipFlags else vq
      i := if wraps then 0 else c.i + 1
      curr := (vq.descState c.curr).next
      prev := c.curr
      headFlags := if n = 0 then flags else c.headFlags }

/-- The loop over the descriptors, from the `n`-th on. -/
def addLoop (out descsUsed id : Nat) : (n : Nat) → Cursor Token → List SgElement →
    Option (Cursor Token)
  | _, c, [] => some c
  | n, c, e :: sg => do
      let c ← addOne out descsUsed id n c e
      addLoop out descsUsed id (n + 1) c sg

/-- The regular descriptors of a request. The flags of the first of them are still to be
written, at the index that is returned. -/
def addDirect (r : Request Token) : Option (Nat × DescFlags × VirtqueuePacked Token) := do
  let head := vq.nextAvailIdx
  let id := u16 vq.freeHead
  let descsUsed := r.sg.length
  let c ← addLoop r.out descsUsed id 0
    ⟨vq, head, id, id, ⟨false, false, false, false, false⟩⟩ r.sg
  let vq := c.vq
  let vq := { vq with
    availWrapCounter := if c.i < head then !vq.availWrapCounter else vq.availWrapCounter
    numFree := vq.numFree - descsUsed
    nextAvailIdx := c.i
    freeHead := c.curr }
  let vq := vq.setState id { vq.descState id with
    num := u16 descsUsed, data := some r.token, last := c.prev }
  pure (head, c.headFlags, { vq with numAdded := (vq.numAdded + descsUsed) % 2 ^ 32 })

/-- The loop over an indirect table; it does not touch the identifiers. -/
def fillTable (out : Nat) : (desc : Nat → PackedDesc) → (i : Nat) → List SgElement →
    Nat → PackedDesc
  | desc, _, [] => desc
  | desc, i, e :: sg =>
      fillTable out
        (Function.update desc i
          ⟨e.physAddr, e.length, (desc i).id, ⟨false, out ≤ i, false, false, false⟩⟩)
        (i + 1) sg

/-- One descriptor for a table at `page`, whose flags are still to be written. -/
def addIndirect (r : Request Token) (page : Nat) :
    Option (Nat × DescFlags × VirtqueuePacked Token) :=
  let head := vq.nextAvailIdx
  let id := u16 vq.freeHead
  if vq.vring.num ≤ head then none
  else
    let vq := { vq with
      vring.tables :=
        Function.update vq.vring.tables page (fillTable r.out (vq.vring.tables page) 0 r.sg) }
    let vq := vq.setDesc head
      ⟨page, r.sg.length * 16, id, (vq.vring.desc head).flags⟩
    let flags : DescFlags := ⟨false, false, true, vq.availFlag, vq.usedFlag⟩
    let wraps := vq.vring.num ≤ head + 1
    let vq := if wraps then { vq.flipFlags with availWrapCounter := !vq.availWrapCounter } else vq
    let vq := { vq with
      nextAvailIdx := if wraps then 0 else head + 1
      numFree := vq.numFree - 1
      numAdded := (vq.numAdded + 1) % 2 ^ 32
      freeHead := (vq.descState id).next }
    some (head, flags, vq.setState id { vq.descState id with
      num := 1, data := some r.token, last := id })

/-- What `virtqueue_add_buf_packed` does before its memory barrier, with the flags that it is to
write behind it, or that there are too few descriptors. -/
def fillBuf (r : Request Token) (table : Option Nat) :
    Option (Option (Nat × DescFlags × VirtqueuePacked Token)) :=
  if r.sg.length = 0 ∨ vq.vring.num ≤ u16 vq.freeHead then none
  else
    match table with
    | some page =>
        if 0 < vq.numFree then (vq.addIndirect r page).map some
        else if vq.numFree < r.sg.length then some none
        else (vq.addDirect r).map some
    | none => if vq.numFree < r.sg.length then some none else (vq.addDirect r).map some

/-- What `virtqueue_add_buf_packed` does behind its memory barrier. -/
def publish (head : Nat) (flags : DescFlags) : VirtqueuePacked Token :=
  vq.setDesc head { vq.vring.desc head with flags := flags }

/-- `virtqueue_add_buf_packed`; the page at `table` is its argument `va_indirect`. -/
def virtqueueAddBufPacked (r : Request Token) (table : Option Nat) :
    Option (Int × VirtqueuePacked Token) :=
  (vq.fillBuf r table).map fun filled =>
    match filled with
    | none => (-enospc, vq)
    | some (head, flags, vq) => (0, vq.publish head flags)

/-- `detach_buf_packed` -/
def detachBufPacked (id : Nat) : VirtqueuePacked Token :=
  let state := vq.descState id
  let vq := vq.setState id { state with data := none }
  let vq := vq.setState state.last { vq.descState state.last with next := u16 vq.freeHead }
  { vq with freeHead := id, numFree := vq.numFree + state.num }

/-- `is_used_desc_packed` -/
def isUsedDescPacked (idx : Nat) (usedWrapCounter : Bool) : Bool :=
  let flags := (vq.vring.desc idx).flags
  flags.avail == flags.used && flags.used == usedWrapCounter

/-- `more_used_packed`, which is also `virtqueue_has_buf_packed`. -/
def moreUsedPacked : Bool := vq.isUsedDescPacked vq.lastUsedIdx vq.usedWrapCounter

/-- A used descriptor has been dealt with: the next one is looked for, and announced to a device
that is to interrupt for it. -/
def countUsed (num : Nat) : VirtqueuePacked Token :=
  let idx := u16 (vq.lastUsedIdx + num)
  let vq :=
    if vq.vring.num ≤ idx then
      { vq with
        lastUsedIdx := u16 (idx + 2 ^ 16 - u16 vq.vring.num)
        usedWrapCounter := !vq.usedWrapCounter }
    else { vq with lastUsedIdx := idx }
  if vq.eventFlagsShadow = eventFlagDesc then
    { vq with vring.driver.offWrap := offWrap vq.lastUsedIdx vq.usedWrapCounter }
  else vq

/-- What `virtqueue_get_buf_packed` does behind its memory barrier. An identifier that is out of
range, or that no request has, is a bug check. -/
def takeUsed : Option (Token × Nat × VirtqueuePacked Token) :=
  let d := vq.vring.desc vq.lastUsedIdx
  if vq.vring.num ≤ d.id then none
  else
    match (vq.descState d.id).data with
    | none => none
    | some token => some (token, d.len, (vq.detachBufPacked d.id).countUsed (vq.descState d.id).num)

/-- `virtqueue_get_buf_packed`, where the length is written only if a descriptor was seen. -/
def virtqueueGetBufPacked : Option (Option Token × Option Nat × VirtqueuePacked Token) :=
  if vq.moreUsedPacked then vq.takeUsed.map fun (token, len, vq) => (some token, some len, vq)
  else some (none, none, vq)

/-- `virtqueue_detach_unused_buf_packed`, which bug checks when it finds nothing although not all
descriptors are free. -/
def virtqueueDetachUnusedBufPacked : Option (Option Token × VirtqueuePacked Token) :=
  match (List.range vq.vring.num).find? fun i => (vq.descState i).data.isSome with
  | none => if vq.numFree = vq.vring.num then some (none, vq) else none
  | some i => some ((vq.descState i).data, vq.detachBufPacked i)

end VirtqueuePacked

/-- The driver has made this descriptor available in the round that the place `q` is in. -/
def isAvail (num : Nat) (desc : Nat → PackedDesc) (q : Nat) : Bool :=
  (desc (q % num)).flags.avail == sense num q && (desc (q % num)).flags.used != sense num q

/-- A descriptor as a piece of memory. -/
def PackedDesc.piece (d : PackedDesc) : Piece := ⟨⟨d.addr, d.len⟩, d.flags.write⟩

/-- Read the descriptors from `q` on: the pieces, and the identifier in the last of them. -/
def readChain (num : Nat) (desc : Nat → PackedDesc) : (fuel q : Nat) → Option (List Piece × Nat)
  | 0, _ => none
  | fuel + 1, q =>
      let d := desc (q % num)
      if d.flags.next then
        (readChain num desc fuel (q + 1)).map fun (pieces, id) => (d.piece :: pieces, id)
      else some ([d.piece], d.id)

/-- What the device reads of the request at `q`: the pieces, the identifier, and how many
descriptors the request takes in the ring. -/
def Vring.readRequest (vr : Vring) (q : Nat) : Option (List Piece × Nat × Nat) :=
  let d := vr.desc (q % vr.num)
  if d.flags.indirect then
    some ((List.range (d.len / 16)).map fun i => (vr.tables d.addr i).piece, d.id, 1)
  else (readChain vr.num vr.desc vr.num q).map fun (pieces, id) => (pieces, id, pieces.length)

end VirtDisplay.Virtio.PackedRing
