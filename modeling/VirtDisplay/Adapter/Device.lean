/-
# Memory segments, resource ids and commands

The pieces a frame buffer is made of. A `Segment` is a stretch of guest memory,
either the driver's own or a user's, together with the page lock that keeps its
physical addresses valid. An `Idr` hands out resource ids, and keeps a record of the ids
it got back, which is not in the source. A `GpuCmd` is what the control queue carries.

Whether an allocation, a page lock or a queue insertion succeeds is decided by the
environment; `Outcomes` collects these answers for one call. Locks are numbered so
that a later statement can say which pages a command's entries describe: the number
is bookkeeping of the model, not something the driver stores.
-/

import VirtDisplay.Contract

namespace VirtDisplay

/-- `GPU_MEM_ENTRY`: one run of guest memory handed to the host. -/
structure MemEntry where
  addr : Nat
  length : Nat
  deriving DecidableEq, Repr

/-- The control-queue commands that configure resources and scanouts. -/
inductive GpuCmd
  | resourceCreate2D (resourceId : Nat) (format : VirtioGpuFormat) (width height : Nat)
  | resourceCreateBlob (resourceId : Nat) (entries : List MemEntry) (size : Nat)
  | resourceAttachBacking (resourceId : Nat) (entries : List MemEntry)
  | resourceDetachBacking (resourceId : Nat)
  | resourceUnref (resourceId : Nat)
  | setScanout (scanoutId resourceId width height : Nat)
  | setScanoutBlob (scanoutId resourceId width height : Nat) (format : VirtioGpuFormat)
      (stride : Nat)
  | transferToHost2D (resourceId width height : Nat)
  | resourceFlush (fenceId resourceId width height : Nat)
  deriving DecidableEq, Repr

/-- The cursor-queue commands. -/
inductive CursorCmd
  | updateCursor (scanoutId resourceId x y hotX hotY : Nat)
  | moveCursor (scanoutId resourceId x y : Nat)
  deriving DecidableEq, Repr

/-- A queued command, with the lock of the pages its entries list. -/
structure Submission where
  cmd : GpuCmd
  /-- The page lock behind the command's memory entries, if it has any. -/
  backing : Option Nat
  deriving DecidableEq, Repr

/-- The environment's answers during one call. -/
structure Outcomes where
  /-- A command buffer for this command could be taken and placed on the ring. -/
  accepts : GpuCmd → Bool
  /-- `AllocCursor` found a buffer. -/
  allocCursor : Bool
  /-- The cursor command could be placed on its ring. -/
  addCursor : Bool
  /-- `new VioGpuObj()` succeeded. -/
  newObj : Bool
  /-- The array of memory entries could be allocated. -/
  newEnts : Bool
  /-- The address of freshly allocated system memory, zero for a failure. -/
  sysAddr : Nat
  /-- `IoAllocateMdl` succeeded. -/
  allocMdl : Bool
  /-- `MmProbeAndLockPages` did not raise. -/
  lockPages : Bool
  /-- The scatter-gather list could be allocated. -/
  newSgl : Bool
  /-- `MmGetPhysicalAddress`, zero for an invalid address. -/
  phys : Nat → Nat

/-- Every allocation succeeds and every page has a physical address. -/
def Outcomes.good : Outcomes where
  accepts := fun _ => true
  allocCursor := true
  addCursor := true
  newObj := true
  newEnts := true
  sysAddr := 0x10000000
  allocMdl := true
  lockPages := true
  newSgl := true
  phys := fun addr => addr + 1

/-- What happened to a page lock. -/
inductive PageEvent
  | lock (mdl : Nat)
  | unlock (mdl : Nat)
  deriving DecidableEq, Repr

/-- `BYTES_TO_PAGES` followed by the multiplication with `PAGE_SIZE`, both on an
`unsigned int`. -/
def pagedSize (size : Nat) : Nat := Pages.count pageSize size * pageSize % 2 ^ 32

/-- `ROUND_TO_PAGES` on a 64-bit size. -/
def roundToPages (size : Nat) : Nat := Pages.roundUp pageSize size

theorem pagedSize_eq_roundToPages {size : Nat} (hsize : size ≤ maxFrameSize) :
    pagedSize size = roundToPages size := by
  have hlt : roundToPages size < size + pageSize := Pages.roundUp_lt (by decide)
  refine Nat.mod_eq_of_lt (hlt.trans_le ?_)
  calc size + pageSize ≤ maxFrameSize + pageSize := Nat.add_le_add_right hsize _
    _ ≤ 2 ^ 32 := by norm_num

/-- `VioGpuMemSegment`. An address is zero for `NULL`; `mdl` is the lock held on
the pages. -/
structure Segment where
  systemMemory : Bool
  userMemory : Bool
  sgList : Option (List MemEntry)
  vAddr : Nat
  mdl : Option Nat
  size : Nat
  deriving DecidableEq, Repr

namespace Segment

/-- The state the constructor and `Close` leave. -/
def closed : Segment := ⟨false, false, none, 0, none, 0⟩

/-- `VioGpuMemSegment::Close`: every field is reset. -/
def close (_ : Segment) : Segment := closed

/-- The lock `Close` releases. -/
def closeEvents (segment : Segment) : List PageEvent :=
  match segment.mdl with
  | none => []
  | some mdl => if segment.systemMemory || segment.userMemory then [.unlock mdl] else []

/-- The scatter-gather list of `pages` pages from the page of `vAddr` on. It ends at
the first page without a physical address. -/
def scatterGather (phys : Nat → Nat) (vAddr pages : Nat) : List MemEntry :=
  (((List.range pages).map fun i => phys (vAddr / pageSize * pageSize + i * pageSize)).takeWhile
    fun pa => pa ≠ 0).map fun pa => ⟨pa, pageSize⟩

/-- The outcome of an initialisation. -/
structure Result where
  segment : Segment
  ok : Bool
  events : List PageEvent

/-- `VioGpuMemSegment::Init` with a null physical address: fresh system memory. The
early exits leave behind whatever had been assigned by then. -/
def init (o : Outcomes) (mdl size : Nat) (segment : Segment) : Result :=
  let pages := Pages.count pageSize size
  let size := pagedSize size
  if o.sysAddr = 0 then ⟨{ segment with vAddr := 0 }, false, []⟩
  else
    let segment := { segment with vAddr := o.sysAddr, systemMemory := true, mdl := none }
    if ¬ o.allocMdl then ⟨segment, false, []⟩
    else if ¬ o.lockPages then ⟨segment, false, []⟩
    else if ¬ o.newSgl then ⟨{ segment with sgList := none }, false, [.lock mdl, .unlock mdl]⟩
    else
      ⟨{ segment with
          mdl := some mdl
          sgList := some (scatterGather o.phys o.sysAddr pages)
          size := size },
        true, [.lock mdl]⟩

/-- `VioGpuMemSegment::InitExt`: lock a user's memory. A failed `IoAllocateMdl` is
the one exit that does not take the address back. -/
def initExt (o : Outcomes) (mdl size userAddr : Nat) (segment : Segment) : Result :=
  let released := segment.closeEvents
  let segment := segment.close
  let pages := Pages.count pageSize size
  let size := pagedSize size
  if size > 0 ∧ userAddr ≠ 0 then
    if ¬ o.allocMdl then ⟨{ segment with vAddr := userAddr, userMemory := true }, false, released⟩
    else if ¬ o.lockPages then ⟨segment, false, released⟩
    else if ¬ o.newSgl then ⟨segment, false, released ++ [.lock mdl, .unlock mdl]⟩
    else
      ⟨{ segment with
          vAddr := userAddr
          userMemory := true
          mdl := some mdl
          sgList := some (scatterGather o.phys userAddr pages)
          size := size },
        true, released ++ [.lock mdl]⟩
  else ⟨segment, false, released⟩

/-- `IoAllocateMdl`, `MmProbeAndLockPages` and the list allocation all succeed. -/
abbrev Lockable (o : Outcomes) : Prop :=
  o.allocMdl = true ∧ o.lockPages = true ∧ o.newSgl = true

theorem initExt_ok_iff (o : Outcomes) (mdl : Nat) {size userAddr : Nat} (segment : Segment)
    (hsize : 0 < pagedSize size) (haddr : userAddr ≠ 0) :
    (initExt o mdl size userAddr segment).ok = true ↔ Lockable o := by
  unfold initExt
  dsimp only
  rw [if_pos ⟨hsize, haddr⟩]
  split_ifs <;> simp_all [Lockable]

/-- A segment a successful `InitExt` leaves. -/
theorem initExt_of_ok {o : Outcomes} {mdl size userAddr : Nat} {segment : Segment}
    (hok : (initExt o mdl size userAddr segment).ok = true) :
    (initExt o mdl size userAddr segment).segment =
        ⟨false, true, some (scatterGather o.phys userAddr (Pages.count pageSize size)), userAddr,
          some mdl, pagedSize size⟩ ∧
      (initExt o mdl size userAddr segment).events = segment.closeEvents ++ [.lock mdl] := by
  unfold initExt at hok ⊢
  dsimp only at hok ⊢
  -- every exit but the last returns `FALSE`
  split_ifs at hok ⊢
  exact ⟨rfl, rfl⟩

end Segment

/-- `VioGpuIdr`: the ids whose bit is set. -/
structure Idr where
  used : List Nat
  /-- What `PutId` was called with, newest first, and whether the bit was set. -/
  puts : List (Nat × Bool)
  deriving DecidableEq, Repr

namespace Idr

/-- Number of bits in the id bitmap. -/
abbrev bitmapSize : Nat := 8 * pageSize

/-- What `RtlFindClearBitsAndSet` returns when every bit is set. -/
abbrev notFound : Nat := 0xFFFFFFFF

/-- `VioGpuIdr::Init(1)`: id zero is reserved. -/
def initial : Idr := ⟨[0], []⟩

/-- The lowest clear bit among the `bits` bits from `i` on. -/
def findClear (used : List Nat) : (bits i : Nat) → Option Nat
  | 0, _ => none
  | bits + 1, i => if i ∈ used then findClear used bits (i + 1) else some i

/-- `VioGpuIdr::GetId`. -/
def getId (idr : Idr) : Nat × Idr :=
  match findClear idr.used bitmapSize 0 with
  | some id => (id, { idr with used := id :: idr.used })
  | none => (notFound, idr)

/-- `VioGpuIdr::PutId`. -/
def putId (idr : Idr) (id : Nat) : Idr :=
  ⟨idr.used.filter (· ≠ id), (id, decide (id ∈ idr.used)) :: idr.puts⟩

end Idr

end VirtDisplay
