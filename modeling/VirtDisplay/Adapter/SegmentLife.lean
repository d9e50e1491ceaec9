/-
# The life of a memory segment

A `VioGpuMemSegment` owns up to four things: the buffer it allocated, an MDL that describes its
memory, the lock on the pages behind the MDL, and the scatter-gather list. The rest of the
adapter only sees the pages, and `Segment` says what becomes of them. This module follows the
same three functions statement by statement, for each of the four parts.

The parts are objects in the slots of a registry. A pointer of the class is a slot, null if the
slot is empty, and a pointer that is overwritten forgets its object. The lock has no pointer; it
goes with the MDL.
-/

import VirtDisplay.Adapter.Device
import VirtDisplay.Foundation.Registry

namespace VirtDisplay

/-- What a segment can own. -/
inductive Part
  /-- What `m_pVAddr` points to, if the segment allocated it. -/
  | buffer
  /-- `m_pMdl`. -/
  | mdl
  /-- The lock on the pages that the MDL describes. -/
  | lock
  /-- `m_pSGList`. -/
  | sgList
  deriving DecidableEq

/-- An address and where it comes from. -/
inductive Pointer
  | null
  | system (addr : Nat)
  | user (addr : Nat)
  deriving DecidableEq

/-- The address itself. -/
def Pointer.address : Pointer → Nat
  | .null => 0
  | .system addr | .user addr => addr

/-- `VioGpuMemSegment`, with its parts. -/
structure VioGpuMemSegment where
  systemMemory : Bool
  userMemory : Bool
  mapped : Bool
  vAddr : Pointer
  size : Nat
  /-- The elements of the list behind `m_pSGList`. -/
  elements : List MemEntry
  /-- The address that the last MDL was allocated for. -/
  described : Pointer
  parts : Registry Part

namespace VioGpuMemSegment

/-- The constructor. -/
def new : VioGpuMemSegment := ⟨false, false, false, .null, 0, [], .null, .empty⟩

section

variable (o : Outcomes) (s : VioGpuMemSegment)

/-- The segment has the part. -/
def has (part : Part) : Bool := (s.parts.slots part).isSome

/-- `m_pVAddr = vAddr`, for an address that is not newly allocated. -/
def setVAddr (vAddr : Pointer) : VioGpuMemSegment :=
  { s with vAddr := vAddr, parts := s.parts.clear .buffer }

/-- `m_pVAddr = new BYTE[size]`. -/
def newBuffer : VioGpuMemSegment :=
  if o.sysAddr = 0 then s.setVAddr .null
  else { s with vAddr := .system o.sysAddr, parts := s.parts.put .buffer }

/-- `delete[] m_pVAddr`, which does nothing to a null pointer. -/
def deleteBuffer : VioGpuMemSegment :=
  if s.vAddr = .null then s else { s with parts := s.parts.drop .buffer }

/-- `m_pMdl = IoAllocateMdl(m_pVAddr, ..)`. -/
def allocateMdl : VioGpuMemSegment :=
  if o.allocMdl then
    { s with described := s.vAddr, parts := (s.parts.clear .lock).put .mdl }
  else { s with parts := (s.parts.clear .lock).clear .mdl }

/-- `MmProbeAndLockPages(m_pMdl, ..)`, when it does not raise. -/
def lockPages : VioGpuMemSegment := { s with parts := s.parts.put .lock }

/-- `MmUnlockPages(m_pMdl)`. -/
def unlockPages : VioGpuMemSegment := { s with parts := s.parts.drop .lock }

/-- `IoFreeMdl(m_pMdl)` and `m_pMdl = NULL`. -/
def freeMdl : VioGpuMemSegment := { s with parts := (s.parts.clear .lock).drop .mdl }

/-- `m_pSGList = new BYTE[sglsize]`. -/
def newSgList : VioGpuMemSegment :=
  if o.newSgl then { s with parts := s.parts.put .sgList }
  else { s with parts := s.parts.clear .sgList }

/-- `delete[] m_pSGList` and `m_pSGList = NULL`. -/
def deleteSgList : VioGpuMemSegment := { s with parts := s.parts.drop .sgList }

/-- `Close` as far as the MDL. -/
def closeMdl : VioGpuMemSegment :=
  if s.has .mdl then
    if s.systemMemory || s.userMemory then s.unlockPages.freeMdl else s.freeMdl
  else s

/-- `Close` on the memory. What is neither the user's nor the system's is mapped memory, which
neither of the two initialisers below leaves behind. -/
def closeMemory : VioGpuMemSegment :=
  if ¬ s.userMemory ∧ s.systemMemory then s.deleteBuffer else s

/-- `Close` on the fields. -/
def closeFields : VioGpuMemSegment :=
  { s.setVAddr .null with systemMemory := false, userMemory := false, mapped := false, size := 0 }

/-- `Close` on the scatter-gather list. -/
def closeSgList : VioGpuMemSegment := if s.has .sgList then s.deleteSgList else s

/-- `VioGpuMemSegment::Close`. -/
def close : VioGpuMemSegment := s.closeMdl.closeMemory.closeFields.closeSgList

/-- What both initialisers do once the segment has an address: allocate the MDL, lock the pages,
list them. The exits behind the MDL give back what was acquired here, and then whatever `undo`
says. -/
def describe (undo : VioGpuMemSegment → VioGpuMemSegment) (pages size : Nat) :
    VioGpuMemSegment × Bool :=
  let s := s.allocateMdl o
  if ¬ s.has .mdl then (s, false)
  else if ¬ o.lockPages then (undo s.freeMdl, false)
  else
    let s := s.lockPages.newSgList o
    if ¬ s.has .sgList then (undo s.unlockPages.freeMdl, false)
    else
      ({ s with
          elements := Segment.scatterGather o.phys s.vAddr.address pages
          size := size },
        true)

/-- `m_bSystemMemory = TRUE`. -/
def setSystemMemory : VioGpuMemSegment := { s with systemMemory := true }

/-- `VioGpuMemSegment::Init` with a null physical address, and whether it returned `TRUE`. It locks
the pages because it has just set `m_bSystemMemory`. No exit takes the buffer back. -/
def init (size : Nat) : VioGpuMemSegment × Bool :=
  let s := s.newBuffer o
  if s.vAddr = .null then (s, false)
  else s.setSystemMemory.describe o id (Pages.count pageSize size) (pagedSize size)

/-- `m_pVAddr = pUserAddr` and `m_bUserMemory = TRUE`. -/
def setUser (userAddr : Nat) : VioGpuMemSegment :=
  { s.setVAddr (.user userAddr) with userMemory := true }

/-- `m_pVAddr = NULL` and `m_bUserMemory = FALSE`. -/
def unsetUser : VioGpuMemSegment := { s.setVAddr .null with userMemory := false }

/-- `VioGpuMemSegment::InitExt`, and whether it returned `TRUE`. The exit without an MDL does not
take the user's address back. -/
def initExt (size userAddr : Nat) : VioGpuMemSegment × Bool :=
  let s := s.close
  if pagedSize size > 0 ∧ userAddr ≠ 0 then
    (s.setUser userAddr).describe o unsetUser (Pages.count pageSize size) (pagedSize size)
  else (s, false)

/-- `GetVirtualAddress`. -/
def getVirtualAddress : Pointer := s.vAddr

end

variable {s : VioGpuMemSegment} {o : Outcomes} {size userAddr : Nat}

theorem has_eq_false {part : Part} : s.has part = false ↔ s.parts.slots part = none := by
  rw [has, Option.isSome_eq_false_iff, Option.isNone_iff_eq_none]

theorem init_of_null (hnull : o.sysAddr = 0) : s.init o size = (s.setVAddr .null, false) := by
  unfold VioGpuMemSegment.init newBuffer
  dsimp only
  rw [if_pos hnull]
  exact if_pos rfl

/-- The segment once `Init` has its buffer. -/
def buffered (o : Outcomes) (s : VioGpuMemSegment) : VioGpuMemSegment :=
  { s with systemMemory := true, vAddr := .system o.sysAddr, parts := s.parts.put .buffer }

theorem init_of_ne_null (hne : o.sysAddr ≠ 0) : s.init o size =
    (s.buffered o).describe o id (Pages.count pageSize size) (pagedSize size) := by
  unfold VioGpuMemSegment.init newBuffer
  dsimp only
  rw [if_neg hne]
  exact if_neg nofun

/-- The segment as the adapter's functions see it: the lock has the number of its MDL. -/
def toSegment (s : VioGpuMemSegment) : Segment where
  systemMemory := s.systemMemory
  userMemory := s.userMemory
  sgList := (s.parts.slots .sgList).map fun _ => s.elements
  vAddr := s.vAddr.address
  mdl := s.parts.slots .mdl
  size := s.size

theorem closeMdl_slots : s.closeMdl.parts.slots .mdl = none ∧
    s.closeMdl.parts.created = s.parts.created := by
  unfold VioGpuMemSegment.closeMdl
  split
  next =>
    split
    next => exact ⟨Registry.drop_slots_self _ _, rfl⟩
    next => exact ⟨Registry.drop_slots_self _ _, rfl⟩
  next hnone => exact ⟨has_eq_false.mp (Bool.eq_false_iff.mpr hnone), rfl⟩

theorem closeMemory_slots : s.closeMemory.parts.slots .mdl = s.parts.slots .mdl ∧
    s.closeMemory.parts.created = s.parts.created := by
  unfold closeMemory deleteBuffer
  split
  next =>
    split
    next => exact ⟨rfl, rfl⟩
    next => exact ⟨Registry.drop_slots_of_ne nofun, rfl⟩
  next => exact ⟨rfl, rfl⟩

theorem closeSgList_slots : s.closeSgList.parts.slots .mdl = s.parts.slots .mdl ∧
    s.closeSgList.parts.slots .sgList = none ∧ s.closeSgList.parts.created = s.parts.created := by
  unfold closeSgList
  split
  next => exact ⟨Registry.drop_slots_of_ne nofun, Registry.drop_slots_self _ _, rfl⟩
  next hnone => exact ⟨rfl, has_eq_false.mp (Bool.eq_false_iff.mpr hnone), rfl⟩

/-- The parts that the adapter's functions see are gone after `Close`, and none is new. -/
theorem close_slots : s.close.parts.slots .mdl = none ∧ s.close.parts.slots .sgList = none ∧
    s.close.parts.created = s.parts.created := by
  obtain ⟨hmdl, hlist, hcreated⟩ := closeSgList_slots
    (s := s.closeMdl.closeMemory.closeFields)
  refine ⟨hmdl.trans ?_, hlist, hcreated.trans ?_⟩
  · exact (Registry.clear_slots_of_ne (by decide)).trans
      (closeMemory_slots.1.trans closeMdl_slots.1)
  · exact closeMemory_slots.2.trans closeMdl_slots.2

theorem toSegment_close : s.close.toSegment = s.toSegment.close := by
  obtain ⟨hmdl, hlist, -⟩ := close_slots (s := s)
  have hfields : s.close.systemMemory = false ∧ s.close.userMemory = false ∧
      s.close.vAddr = .null ∧ s.close.size = 0 := by
    unfold VioGpuMemSegment.close closeSgList
    split <;> exact ⟨rfl, rfl, rfl, rfl⟩
  obtain ⟨hsystem, huser, hvAddr, hsize⟩ := hfields
  rw [toSegment, hmdl, hlist, hsystem, huser, hvAddr, hsize]
  rfl

/-- The section that both initialisers share, for an `undo` that is one on segments. -/
theorem toSegment_describe (undo : VioGpuMemSegment → VioGpuMemSegment)
    (retract : Segment → Segment) (pages size : Nat)
    (hundo : ∀ s, toSegment (undo s) = retract s.toSegment) :
    (s.describe o undo pages size).1.toSegment =
        (if ¬ o.allocMdl then { s.toSegment with mdl := none }
        else if ¬ o.lockPages then retract { s.toSegment with mdl := none }
        else if ¬ o.newSgl then retract { s.toSegment with mdl := none, sgList := none }
        else
          { s.toSegment with
            mdl := some s.parts.created
            sgList := some (Segment.scatterGather o.phys s.vAddr.address pages)
            size := size }) ∧
      (s.describe o undo pages size).2 = (o.allocMdl && o.lockPages && o.newSgl) := by
  unfold describe allocateMdl
  cases hmdl : o.allocMdl with
  | false => simp [has, toSegment]
  | true =>
      cases hlock : o.lockPages with
      | false =>
          simp only [has, if_true, Registry.put_slots_self, Option.isSome_some, not_true_eq_false,
            if_false, Bool.false_eq_true, not_false_eq_true, hundo]
          simp [toSegment, freeMdl]
      | true =>
          unfold newSgList
          cases hlist : o.newSgl with
          | false =>
              simp only [has, if_true, Registry.put_slots_self, Registry.clear_slots_self,
                Option.isSome_some, Option.isSome_none, not_true_eq_false, if_false,
                Bool.false_eq_true, not_false_eq_true, hundo]
              simp [toSegment, freeMdl, lockPages, unlockPages]
          | true => simp [has, toSegment, lockPages]

theorem toSegment_init : (s.init o size).1.toSegment =
      (Segment.init o (s.parts.created + 1) size s.toSegment).segment ∧
    (s.init o size).2 = (Segment.init o (s.parts.created + 1) size s.toSegment).ok := by
  by_cases hnull : o.sysAddr = 0
  · rw [init_of_null hnull, Segment.init]
    dsimp only
    rw [if_pos hnull]
    constructor
    · simp [toSegment, setVAddr, Pointer.address]
    · rfl
  · rw [init_of_ne_null hnull, (toSegment_describe id id _ _ fun _ => rfl).1,
      (toSegment_describe id id _ _ fun _ => rfl).2, Segment.init]
    dsimp only
    rw [if_neg hnull]
    have hlist : (s.buffered o).parts.slots .sgList = s.parts.slots .sgList :=
      Registry.put_slots_of_ne nofun
    cases o.allocMdl <;> cases o.lockPages <;> cases o.newSgl <;>
      simp [toSegment, hlist] <;> simp [buffered, Pointer.address]

theorem toSegment_initExt : (s.initExt o size userAddr).1.toSegment =
      (Segment.initExt o s.parts.created size userAddr s.toSegment).segment ∧
    (s.initExt o size userAddr).2 =
      (Segment.initExt o s.parts.created size userAddr s.toSegment).ok := by
  have hclose : s.close.toSegment = Segment.closed := toSegment_close
  have hcreated := (close_slots (s := s)).2.2
  unfold VioGpuMemSegment.initExt Segment.initExt
  dsimp only
  by_cases hvalid : pagedSize size > 0 ∧ userAddr ≠ 0
  · obtain ⟨hsegment, hok⟩ := toSegment_describe (o := o) (s := s.close.setUser userAddr) unsetUser
      (fun segment => { segment with vAddr := 0, userMemory := false }) (Pages.count pageSize size)
      (pagedSize size) fun s => by
        simp [toSegment, unsetUser, setVAddr, Pointer.address]
    have huser : (s.close.setUser userAddr).toSegment =
        { Segment.closed with vAddr := userAddr, userMemory := true } := by
      rw [← hclose]
      simp [toSegment, setUser, setVAddr, Pointer.address]
    have hcount : (s.close.setUser userAddr).parts.created = s.parts.created := hcreated
    rw [if_pos hvalid, if_pos hvalid, hsegment, hok, huser, hcount]
    cases o.allocMdl <;> cases o.lockPages <;> cases o.newSgl <;>
      simp [Segment.close, Segment.closed, setUser, setVAddr, Pointer.address]
  · rw [if_neg hvalid, if_neg hvalid]
    exact ⟨hclose, rfl⟩

end VioGpuMemSegment

end VirtDisplay
