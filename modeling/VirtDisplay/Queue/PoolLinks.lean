/-
# The pool through its pointers

`Queue.Pool` treats the two lists of `VioGpuBuf` as lists. In the source they are circular
lists whose pointers lie in the buffers, and its functions follow and write those pointers.
Here they are what the functions work on, together with the other fields of a buffer and the
counter `m_uCount`.

`Holds` says which buffers the pointers lead to. While it holds, the functions do what
`Queue.Pool` says they do. `FreeBuf` is the one that need not keep it: what it does with a
buffer that is not in use is to search for ever, or to insert it a second time.
-/

import VirtDisplay.Foundation.IntrusiveList
import VirtDisplay.Queue.Pool

namespace VirtDisplay

/-- `sizeof(GPU_VBUFFER)`. -/
abbrev gpuVBufferSize : Nat := 72
/-- `MAX_INLINE_CMD_SIZE + MAX_INLINE_RESP_SIZE`. -/
abbrev inlineSize : Nat := 96 + maxInlineRespSize

/-- The nodes of the lists: the two heads and the entry in each buffer. -/
inductive PoolNode
  | freeBufs
  | inUseBufs
  | entry (b : BufId)
  deriving DecidableEq

/-- A pointer in a buffer. -/
inductive BufPtr
  | null
  /-- Into a buffer, so many bytes behind its start. -/
  | inside (b : BufId) (offset : Int)
  /-- To memory that was allocated on its own. -/
  | block (addr : Nat)
  deriving DecidableEq

/-- The memory a pointer leads to that was allocated on its own. -/
def BufPtr.blocks : BufPtr → List Nat
  | .block addr => [addr]
  | .null | .inside .. => []

/-- A `GPU_VBUFFER` but for its list entry, with the bytes behind it. -/
structure VBufferFields where
  buf : BufPtr
  size : Int
  dataBuf : BufPtr
  dataSize : Nat
  respBuf : BufPtr
  respSize : Int
  event : Option EventId
  inlineBytes : Fin inlineSize → BitVec 8

namespace VBufferFields

/-- After `memset` or `RtlZeroMemory`. -/
def zero : VBufferFields := ⟨.null, 0, .null, 0, .null, 0, none, fun _ => 0⟩

variable (v : VBufferFields)

/-- The response has memory of its own. -/
def OwnsResponse : Prop := v.respBuf ≠ .null ∧ (maxInlineRespSize : Int) < v.respSize
/-- The buffer has a data block of its own. -/
def OwnsData : Prop := v.dataBuf ≠ .null ∧ v.dataSize ≠ 0

instance : Decidable v.OwnsResponse := inferInstanceAs (Decidable (_ ∧ _))
instance : Decidable v.OwnsData := inferInstanceAs (Decidable (_ ∧ _))

/-- The memory that `FreeBuf` and `Close` delete with a buffer. -/
def attached : List Nat :=
  (if v.OwnsResponse then v.respBuf.blocks else []) ++
    if v.OwnsData then v.dataBuf.blocks else []

/-- The fields once that memory is deleted. -/
def released : VBufferFields :=
  { v with
    respBuf := if v.OwnsResponse then .null else v.respBuf
    respSize := if v.OwnsResponse then 0 else v.respSize
    dataBuf := if v.OwnsData then .null else v.dataBuf
    dataSize := if v.OwnsData then 0 else v.dataSize }

/-- A buffer that `GetBuf` hands out. -/
def handedOut (b : BufId) (size respSize : Int) (respBuf : BufPtr) : VBufferFields :=
  { zero with
    buf := .inside b gpuVBufferSize
    size := size
    respSize := respSize
    respBuf := if respSize ≤ maxInlineRespSize then .inside b (gpuVBufferSize + size) else respBuf }

end VBufferFields

/-- `VioGpuBuf` and the memory it works on. The buffers are numbered as they are allocated,
and what was deleted is kept on record. -/
structure LinkedPool where
  links : IntrusiveLinks PoolNode
  uCount : BitVec 32
  fields : BufId → VBufferFields
  allocated : Nat
  deletedBufs : List BufId
  deletedMem : List Nat

namespace LinkedPool

/-- The constructor, which leaves the heads of the lists as they are. To follow a pointer
there is a fault. -/
def constructed : LinkedPool := ⟨⟨fun _ => none, fun _ => none⟩, 0, fun _ => .zero, 0, [], []⟩

section

variable (s : LinkedPool)

/-- A turn of the loop of `Init` whose allocation succeeds. -/
def addBuffer : Option LinkedPool :=
  let b := s.allocated
  ((s.links.clear (.entry b)).insertTailList .freeBufs (.entry b)).map fun links =>
    { s with
      links := links
      uCount := s.uCount + 1
      fields := Function.update s.fields b .zero
      allocated := b + 1 }

/-- The loop of `Init`, with so many turns left. It ends at the first allocation that
fails. -/
def addBuffers (allocates : Nat → Bool) : (left i : Nat) → LinkedPool → Option LinkedPool
  | 0, _, s => some s
  | left + 1, i, s =>
      if allocates i then s.addBuffer.bind (addBuffers allocates left (i + 1)) else some s

/-- `while (!IsListEmpty(head))` with `RemoveHeadList` and something done to the buffer. -/
def drain (head : PoolNode) (body : BufId → LinkedPool → LinkedPool) :
    (fuel : Nat) → LinkedPool → Option LinkedPool
  | 0, _ => none
  | fuel + 1, s =>
      if s.links.isListEmpty head then some s
      else
        (s.links.removeHeadList head).bind fun (node, links) =>
          match node with
          | .entry b => drain head body fuel (body b { s with links := links })
          | .freeBufs | .inUseBufs => none

/-- `delete[] pvbuf`. -/
def deleteBuf (b : BufId) : LinkedPool := { s with deletedBufs := s.deletedBufs ++ [b] }

/-- `delete[] pvbuf`, and the count of the pool goes down. -/
def dropBuf (b : BufId) : LinkedPool := { s.deleteBuf b with uCount := s.uCount - 1 }

/-- The separate memory of a buffer is deleted. -/
def deleteAttached (b : BufId) : LinkedPool :=
  { s with
    fields := Function.update s.fields b (s.fields b).released
    deletedMem := s.deletedMem ++ (s.fields b).attached }

/-- The two heads are initialised. -/
def initializeHeads : LinkedPool :=
  { s with links := (s.links.initializeListHead .freeBufs).initializeListHead .inUseBufs }

/-- `VioGpuBuf::Init` and what it returns. What the roll-back deletes is not taken off the
count. -/
def init (cnt : BitVec 32) (allocates : Nat → Bool) (fuel : Nat) : Option (LinkedPool × Bool) := do
  let s ← addBuffers allocates cnt.toNat 0 s.initializeHeads
  let s ← if s.uCount ≠ cnt then drain .freeBufs (fun b s => s.deleteBuf b) fuel s else some s
  return (s, decide (0 < s.uCount))

/-- `VioGpuBuf::Close`. -/
def close (fuel : Nat) : Option LinkedPool :=
  (drain .inUseBufs (fun b s => s.dropBuf b) fuel s).bind
    (drain .freeBufs (fun b s => (s.deleteAttached b).dropBuf b) fuel)

/-- `VioGpuBuf::GetBuf`. -/
def getBuf (size respSize : Int) (respBuf : BufPtr) : Option (Option BufId × LinkedPool) :=
  if s.links.isListEmpty .freeBufs then some (none, s)
  else
    (s.links.removeHeadList .freeBufs).bind fun (node, links) =>
      match node with
      | .entry b =>
          ((links.clear (.entry b)).insertTailList .inUseBufs (.entry b)).map fun links =>
            (some b,
              { s with
                links := links
                fields := Function.update s.fields b (.handedOut b size respSize respBuf) })
      | .freeBufs | .inUseBufs => none

/-- The search of `FreeBuf` for its argument, which it takes out where it finds it. -/
def unlink (b : BufId) (fuel : Nat) : Option (IntrusiveLinks PoolNode) :=
  if s.links.isListEmpty .inUseBufs then some s.links
  else
    (s.links.search (.entry b) fuel (s.links.flink .inUseBufs)).bind fun found =>
      if found then s.links.removeEntryList (.entry b) else some s.links

/-- `VioGpuBuf::FreeBuf`. -/
def freeBuf (b : BufId) (fuel : Nat) : Option LinkedPool :=
  (s.unlink b fuel).bind fun links =>
    (links.insertTailList .freeBufs (.entry b)).map fun links =>
      { s.deleteAttached b with links := links }

end

/-- The heads lead to these buffers: each is on one list, once, and has not been deleted. -/
structure Holds (s : LinkedPool) (free inUse : List BufId) : Prop where
  freeRing : s.links.Ring .freeBufs (free.map .entry)
  inUseRing : s.links.Ring .inUseBufs (inUse.map .entry)
  apart : (free ++ inUse).Nodup
  below : ∀ b ∈ free ++ inUse, b < s.allocated
  live : ∀ b ∈ free ++ inUse, b ∉ s.deletedBufs
  deletedBelow : ∀ b ∈ s.deletedBufs, b < s.allocated

section

variable {s : LinkedPool} {free inUse : List BufId} {b : BufId} {links : IntrusiveLinks PoolNode}

theorem entry_injective : Function.Injective PoolNode.entry := fun _ _ => PoolNode.entry.inj

@[simp]
theorem entry_mem_free : PoolNode.entry b ∈ .freeBufs :: free.map .entry ↔ b ∈ free := by
  simp

@[simp]
theorem entry_mem_inUse : PoolNode.entry b ∈ .inUseBufs :: inUse.map .entry ↔ b ∈ inUse := by
  simp

theorem Holds.not_mem_inUse (hholds : s.Holds free inUse) (hmem : b ∈ free) : b ∉ inUse :=
  fun hused => (List.nodup_append.mp hholds.apart).2.2 b hmem b hused rfl

/-- The two lists have no node in common. -/
theorem Holds.nodes_apart (hholds : s.Holds free inUse) {node : PoolNode}
    (hmem : node ∈ .freeBufs :: free.map .entry) : node ∉ .inUseBufs :: inUse.map .entry := by
  rcases List.mem_cons.mp hmem with rfl | hmem
  · simp
  · obtain ⟨b, hb, rfl⟩ := List.mem_map.mp hmem
    exact fun hused => hholds.not_mem_inUse hb (entry_mem_inUse.mp hused)

/-- Pointers that are changed off a ring. -/
theorem ring_of_sameAt {l l' : IntrusiveLinks PoolNode} {head : PoolNode}
    {nodes others : List PoolNode} (hring : l.Ring head nodes)
    (hsame : ∀ node, node ∉ others → l.SameAt l' node)
    (hapart : ∀ node ∈ head :: nodes, node ∉ others) : l'.Ring head nodes :=
  hring.congr fun node hmem => hsame node (hapart node hmem)

/-- A buffer that was just allocated is on no list. -/
theorem Holds.allocated_not_mem (hholds : s.Holds free inUse) : s.allocated ∉ free ++ inUse :=
  fun hmem => Nat.lt_irrefl _ (hholds.below _ hmem)

/-- A new buffer joins the end of the free list. -/
theorem Holds.addBuffer (hholds : s.Holds free inUse) :
    ∃ s', s.addBuffer = some s' ∧ s'.Holds (free ++ [s.allocated]) inUse ∧
      s'.uCount = s.uCount + 1 ∧ s'.allocated = s.allocated + 1 ∧
      s'.deletedMem = s.deletedMem ∧ s'.deletedBufs = s.deletedBufs ∧
      s'.fields = Function.update s.fields s.allocated .zero := by
  have hnew := hholds.allocated_not_mem
  have hnewFree : s.allocated ∉ free := fun h => hnew (List.mem_append_left _ h)
  have hnewUsed : s.allocated ∉ inUse := fun h => hnew (List.mem_append_right _ h)
  have hfree : (s.links.clear (.entry s.allocated)).Ring .freeBufs (free.map .entry) :=
    hholds.freeRing.congr fun node hmem =>
      IntrusiveLinks.sameAt_clear fun h => hnewFree (entry_mem_free.mp (h ▸ hmem))
  have hused : (s.links.clear (.entry s.allocated)).Ring .inUseBufs (inUse.map .entry) :=
    hholds.inUseRing.congr fun node hmem =>
      IntrusiveLinks.sameAt_clear fun h => hnewUsed (entry_mem_inUse.mp (h ▸ hmem))
  obtain ⟨links, hinsert, hring, hsame⟩ :=
    hfree.insertTailList fun hmem => hnewFree (entry_mem_free.mp hmem)
  refine ⟨_, congrArg (Option.map _) hinsert, ⟨?_, ?_, ?_, ?_, ?_, ?_⟩, rfl, rfl, rfl, rfl, rfl⟩
  · rw [List.map_append]
    exact hring
  · refine ring_of_sameAt hused hsame fun node hmem hother => ?_
    rcases List.mem_cons.mp hother with rfl | hother
    · exact hnewUsed (entry_mem_inUse.mp hmem)
    · exact hholds.nodes_apart hother hmem
  · rw [List.append_assoc]
    have hperm : (free ++ ([s.allocated] ++ inUse)).Perm (s.allocated :: (free ++ inUse)) :=
      List.perm_middle
    exact hperm.nodup_iff.mpr (List.nodup_cons.mpr ⟨hnew, hholds.apart⟩)
  · intro b hmem
    rw [List.append_assoc, List.mem_append, List.mem_append, List.mem_singleton] at hmem
    rcases hmem with hmem | rfl | hmem
    · exact Nat.lt_succ_of_lt (hholds.below b (List.mem_append_left _ hmem))
    · exact Nat.lt_succ_self _
    · exact Nat.lt_succ_of_lt (hholds.below b (List.mem_append_right _ hmem))
  · intro b hmem hdeleted
    rw [List.append_assoc, List.mem_append, List.mem_append, List.mem_singleton] at hmem
    rcases hmem with hmem | rfl | hmem
    · exact hholds.live b (List.mem_append_left _ hmem) hdeleted
    · exact Nat.lt_irrefl _ (hholds.deletedBelow _ hdeleted)
    · exact hholds.live b (List.mem_append_right _ hmem) hdeleted
  · exact fun b hmem => Nat.lt_succ_of_lt (hholds.deletedBelow b hmem)

/-- The pointers after both heads are initialised, with no buffer deleted that will be
allocated. -/
theorem holds_initializeHeads (hdeleted : ∀ b ∈ s.deletedBufs, b < s.allocated) :
    s.initializeHeads.Holds [] [] where
  freeRing := (IntrusiveLinks.ring_initializeListHead s.links .freeBufs).congr fun node hmem =>
    IntrusiveLinks.sameAt_initializeListHead fun h => by
      rw [List.mem_singleton.mp hmem] at h
      cases h
  inUseRing := IntrusiveLinks.ring_initializeListHead _ _
  apart := List.nodup_nil
  below := nofun
  live := nofun
  deletedBelow := hdeleted

/-- `GetBuf` moves the first free buffer to the end of the list of those in use. -/
theorem Holds.getBuf (hholds : s.Holds (b :: free) inUse) (size respSize : Int)
    (respBuf : BufPtr) :
    ∃ links, s.getBuf size respSize respBuf = some (some b,
        { s with
          links := links
          fields := Function.update s.fields b (.handedOut b size respSize respBuf) }) ∧
      Holds { s with
        links := links
        fields := Function.update s.fields b (.handedOut b size respSize respBuf) }
        free (inUse ++ [b]) := by
  have hfreeRing := hholds.freeRing
  have hbUsed : b ∉ inUse := hholds.not_mem_inUse List.mem_cons_self
  have hbFree : b ∉ free := by
    have hnodup := (List.nodup_append.mp hholds.apart).1
    exact (List.nodup_cons.mp hnodup).1
  rw [List.map_cons] at hfreeRing
  obtain ⟨l₁, hremove, hrest, hsame₁⟩ := hfreeRing.removeHeadList
  have hused₁ : l₁.Ring .inUseBufs (inUse.map .entry) :=
    ring_of_sameAt hholds.inUseRing hsame₁ fun node hmem hother => hholds.nodes_apart hother hmem
  have hfree₂ : (l₁.clear (.entry b)).Ring .freeBufs (free.map .entry) :=
    hrest.congr fun node hmem =>
      IntrusiveLinks.sameAt_clear fun h => hbFree (entry_mem_free.mp (h ▸ hmem))
  have hused₂ : (l₁.clear (.entry b)).Ring .inUseBufs (inUse.map .entry) :=
    hused₁.congr fun node hmem =>
      IntrusiveLinks.sameAt_clear fun h => hbUsed (entry_mem_inUse.mp (h ▸ hmem))
  obtain ⟨links, hinsert, hring, hsame₂⟩ :=
    hused₂.insertTailList fun hmem => hbUsed (entry_mem_inUse.mp hmem)
  have hempty : ¬ s.links.isListEmpty .freeBufs = true := by
    rw [hholds.freeRing.isListEmpty_iff]
    exact List.cons_ne_nil _ _
  have hperm : (free ++ (inUse ++ [b])).Perm (b :: free ++ inUse) := by
    rw [← List.append_assoc]
    exact List.perm_append_singleton b (free ++ inUse)
  refine ⟨links, ?_, ?_, ?_, hperm.nodup_iff.mpr hholds.apart,
    fun c hmem => hholds.below c (hperm.mem_iff.mp hmem),
    fun c hmem => hholds.live c (hperm.mem_iff.mp hmem), hholds.deletedBelow⟩
  · rw [LinkedPool.getBuf, if_neg hempty, hremove, Option.bind_some]
    exact congrArg (Option.map _) hinsert
  · refine ring_of_sameAt hfree₂ hsame₂ fun node hmem hother => ?_
    rcases List.mem_cons.mp hother with rfl | hother
    · exact hbFree (entry_mem_free.mp hmem)
    · refine hholds.nodes_apart ?_ hother
      rcases List.mem_cons.mp hmem with rfl | hmem
      · exact List.mem_cons_self
      · exact List.mem_cons_of_mem _ (List.mem_cons_of_mem _ hmem)
  · rw [List.map_append]
    exact hring

/-- `GetBuf` without a free buffer answers null. -/
theorem Holds.getBuf_nil (hholds : s.Holds [] inUse) (size respSize : Int) (respBuf : BufPtr) :
    s.getBuf size respSize respBuf = some (none, s) :=
  if_pos (hholds.freeRing.isListEmpty_iff.mpr rfl)

/-- `FreeBuf` moves a buffer in use to the end of the free list. -/
theorem Holds.freeBuf (hholds : s.Holds free inUse) (hused : b ∈ inUse) {fuel : Nat}
    (hfuel : inUse.length ≤ fuel) :
    ∃ links, s.freeBuf b fuel = some { s.deleteAttached b with links := links } ∧
      Holds { s.deleteAttached b with links := links } (free ++ [b]) (inUse.erase b) := by
  have hbFree : b ∉ free := fun h => hholds.not_mem_inUse h hused
  have hempty : ¬ s.links.isListEmpty .inUseBufs = true := by
    rw [hholds.inUseRing.isListEmpty_iff, List.map_eq_nil_iff]
    exact List.ne_nil_of_mem hused
  have hentry : PoolNode.entry b ∈ inUse.map .entry := List.mem_map_of_mem hused
  have hlength : (inUse.map PoolNode.entry).length ≤ fuel := by
    rw [List.length_map]
    exact hfuel
  have hfound := hholds.inUseRing.search_eq_true hentry hlength
  obtain ⟨l₁, hremove, hring₁, hsame₁⟩ := hholds.inUseRing.removeEntryList hentry
  rw [← List.map_erase entry_injective] at hring₁
  have hfree₁ : l₁.Ring .freeBufs (free.map .entry) :=
    ring_of_sameAt hholds.freeRing hsame₁ fun node hmem => hholds.nodes_apart hmem
  obtain ⟨links, hinsert, hring, hsame₂⟩ :=
    hfree₁.insertTailList fun hmem => hbFree (entry_mem_free.mp hmem)
  have hunlink : s.unlink b fuel = some l₁ := by
    rw [unlink, if_neg hempty, hfound, Option.bind_some, if_pos rfl, hremove]
  have hnodupUsed := (List.nodup_append.mp hholds.apart).2.1
  have hperm : (free ++ [b] ++ inUse.erase b).Perm (free ++ inUse) := by
    rw [List.append_assoc]
    exact (List.perm_cons_erase hused).symm.append_left free
  refine ⟨links, ?_, ?_, ?_, hperm.nodup_iff.mpr hholds.apart,
    fun c hmem => hholds.below c (hperm.mem_iff.mp hmem),
    fun c hmem => hholds.live c (hperm.mem_iff.mp hmem), hholds.deletedBelow⟩
  · rw [LinkedPool.freeBuf, hunlink, Option.bind_some]
    exact congrArg (Option.map _) hinsert
  · rw [List.map_append]
    exact hring
  · refine ring_of_sameAt hring₁ hsame₂ fun node hmem hother => ?_
    rcases List.mem_cons.mp hother with rfl | hother
    · exact hnodupUsed.not_mem_erase (entry_mem_inUse.mp hmem)
    · refine hholds.nodes_apart hother ?_
      rcases List.mem_cons.mp hmem with rfl | hmem
      · exact List.mem_cons_self
      · obtain ⟨c, hc, rfl⟩ := List.mem_map.mp hmem
        exact entry_mem_inUse.mpr (List.mem_of_mem_erase hc)

/-- A call that has come back does so with more fuel. -/
theorem freeBuf_le {fuel more : Nat} {s' : LinkedPool} (hle : fuel ≤ more)
    (hfreed : s.freeBuf b fuel = some s') : s.freeBuf b more = some s' := by
  obtain ⟨links, hunlink, hinsert⟩ := Option.bind_eq_some_iff.mp hfreed
  refine Option.bind_eq_some_iff.mpr ⟨links, ?_, hinsert⟩
  rw [unlink] at hunlink ⊢
  split at hunlink
  next hempty => rwa [if_pos hempty]
  next hempty =>
    rw [if_neg hempty]
    obtain ⟨found, hsearch, hremove⟩ := Option.bind_eq_some_iff.mp hunlink
    exact Option.bind_eq_some_iff.mpr ⟨found, IntrusiveLinks.search_le hle hsearch, hremove⟩

/-- What a call with a buffer in use leaves. -/
theorem Holds.of_freeBuf (hholds : s.Holds free inUse) (hused : b ∈ inUse) {fuel : Nat}
    {s' : LinkedPool} (hfreed : s.freeBuf b fuel = some s') :
    ∃ links, s' = { s.deleteAttached b with links := links } ∧
      s'.Holds (free ++ [b]) (inUse.erase b) := by
  obtain ⟨links, hfreed', hholds'⟩ := hholds.freeBuf hused (Nat.le_max_right fuel inUse.length)
  obtain rfl := Option.some.inj ((freeBuf_le (Nat.le_max_left ..) hfreed).symm.trans hfreed')
  exact ⟨links, rfl, hholds'⟩

/-- With other buffers in use, `FreeBuf` searches for a free buffer for ever. -/
theorem Holds.freeBuf_free (hholds : s.Holds free inUse) (hfree : b ∈ free) (hne : inUse ≠ [])
    (fuel : Nat) : s.freeBuf b fuel = none := by
  have hempty : ¬ s.links.isListEmpty .inUseBufs = true := by
    rw [hholds.inUseRing.isListEmpty_iff, List.map_eq_nil_iff]
    exact hne
  obtain ⟨next, hnext, hhead, -⟩ := hholds.inUseRing.exists_next List.mem_cons_self
  have hsearch := hholds.inUseRing.search_eq_none
    (fun hmem => hholds.not_mem_inUse hfree (entry_mem_inUse.mp hmem)) fuel hnext
  rw [LinkedPool.freeBuf, unlink, if_neg hempty, hhead, hsearch]
  rfl

/-- `FreeBuf` with no buffer in use inserts a free one a second time, which breaks the free list. -/
theorem Holds.freeBuf_twice (hholds : s.Holds free []) (hfree : b ∈ free) (fuel : Nat) :
    ∃ s', s.freeBuf b fuel = some s' ∧ ∀ free' inUse', ¬ s'.Holds free' inUse' := by
  have hempty : s.links.isListEmpty .inUseBufs = true :=
    hholds.inUseRing.isListEmpty_iff.mpr rfl
  obtain ⟨links, hinsert, hnone⟩ :=
    hholds.freeRing.insertTailList_twice (List.mem_map_of_mem hfree)
  refine ⟨{ s.deleteAttached b with links := links }, ?_,
    fun free' inUse' hholds' => hnone _ hholds'.freeRing⟩
  rw [LinkedPool.freeBuf, unlink, if_pos hempty, Option.bind_some]
  exact congrArg (Option.map _) hinsert

/-- The pointers determine both lists. -/
theorem Holds.unique {free' inUse' : List BufId} (hholds : s.Holds free inUse)
    (hholds' : s.Holds free' inUse') : free = free' ∧ inUse = inUse' :=
  ⟨List.map_injective_iff.mpr entry_injective (hholds.freeRing.unique hholds'.freeRing),
    List.map_injective_iff.mpr entry_injective (hholds.inUseRing.unique hholds'.inUseRing)⟩

end

section

variable {s : LinkedPool} {pool pool' : VioGpuBuf} {b : BufId}

/-- `GetBuf` through the pointers does what `GetBuf` on the lists does. -/
theorem getBuf_refines (hholds : s.Holds pool.freeBufs pool.inUseBufs) (size respSize : Int)
    (respBuf : BufPtr) (n : Nat) :
    match pool.getBuf n with
    | none => s.getBuf size respSize respBuf = some (none, s)
    | some (b, pool') => ∃ s', s.getBuf size respSize respBuf = some (some b, s') ∧
        s'.Holds pool'.freeBufs pool'.inUseBufs := by
  unfold VioGpuBuf.getBuf
  cases hfree : pool.freeBufs with
  | nil =>
      rw [hfree] at hholds
      exact hholds.getBuf_nil size respSize respBuf
  | cons b rest =>
      rw [hfree] at hholds
      obtain ⟨links, hget, hholds'⟩ := hholds.getBuf size respSize respBuf
      exact ⟨_, hget, hholds'⟩

/-- `FreeBuf` of a buffer in use does what the pool of lists does. -/
theorem freeBuf_refines (hholds : s.Holds pool.freeBufs pool.inUseBufs)
    (hused : b ∈ pool.inUseBufs) (hfree : pool.freeBuf (some b) = some pool') :
    ∃ fuel s', s.freeBuf b fuel = some s' ∧ s'.Holds pool'.freeBufs pool'.inUseBufs := by
  have hfrees := VioGpuBuf.freeBuf_frees hfree
  obtain ⟨links, hfreed, hholds'⟩ := hholds.freeBuf hused (Nat.le_refl _)
  refine ⟨_, _, hfreed, ?_⟩
  rw [hfrees.free, hfrees.inUse]
  exact hholds'

/-- Where the lists have no answer for a buffer, the pointers have none. -/
theorem freeBuf_hangs (hholds : s.Holds pool.freeBufs pool.inUseBufs)
    (hfree : b ∈ pool.freeBufs) (hnone : pool.freeBuf (some b) = none) (fuel : Nat) :
    s.freeBuf b fuel = none := by
  rw [VioGpuBuf.freeBuf] at hnone
  split at hnone
  next hlost => exact hholds.freeBuf_free hfree hlost.1 fuel
  next => cases hnone

end

/-- `FreeBuf` comes back, and leaves the buffer once on the free list and not in use. -/
def ReleasedOnce (s : LinkedPool) (b : BufId) : Prop :=
  ∃ fuel s', s.freeBuf b fuel = some s' ∧
    ∃ free inUse, s'.Holds free inUse ∧ free.count b = 1 ∧ b ∉ inUse

/-- A buffer of the pool is released as it should be exactly if it is in use. -/
theorem releasedOnce_iff {s : LinkedPool} {free inUse : List BufId} {b : BufId}
    (hholds : s.Holds free inUse) (hmem : b ∈ free ++ inUse) : s.ReleasedOnce b ↔ b ∈ inUse := by
  constructor
  · rintro ⟨fuel, s', hfreed, free', inUse', hholds', -, -⟩
    by_contra hnot
    have hfree : b ∈ free := (List.mem_append.mp hmem).resolve_right hnot
    by_cases hne : inUse = []
    · subst hne
      obtain ⟨s'', htwice, hbroken⟩ := hholds.freeBuf_twice hfree fuel
      obtain rfl := Option.some.inj (hfreed.symm.trans htwice)
      exact hbroken free' inUse' hholds'
    · cases hfreed.symm.trans (hholds.freeBuf_free hfree hne fuel)
  · intro hused
    obtain ⟨links, hfreed, hholds'⟩ := hholds.freeBuf hused (Nat.le_refl _)
    have hnotFree : b ∉ free := fun h => hholds.not_mem_inUse h hused
    refine ⟨_, _, hfreed, _, _, hholds', ?_,
      (List.nodup_append.mp hholds.apart).2.1.not_mem_erase⟩
    rw [List.count_append, List.count_eq_zero_of_not_mem hnotFree, List.count_singleton_self]

/-- A pool of two buffers, the first of them in use. -/
theorem exists_holds_two : ∃ s : LinkedPool, s.Holds [1] [0] := by
  have hempty : constructed.initializeHeads.Holds [] [] := holds_initializeHeads nofun
  obtain ⟨s₁, -, hone, -, hallocated, -⟩ := hempty.addBuffer
  obtain ⟨s₂, -, htwo, -⟩ := hone.addBuffer
  rw [hallocated] at htwo
  obtain ⟨links, -, hget⟩ := Holds.getBuf htwo 32 24 .null
  exact ⟨_, hget⟩

/-- The buffer in use of a pool of two can be released. -/
theorem releasedOnce_two : ∃ s : LinkedPool, s.Holds [1] [0] ∧ s.ReleasedOnce 0 := by
  obtain ⟨s, hholds⟩ := exists_holds_two
  exact ⟨s, hholds, (releasedOnce_iff hholds (by decide)).mpr List.mem_cons_self⟩

/-- A free buffer cannot be released: the search for it does not end. -/
theorem not_releasedOnce : ¬ ∀ (s : LinkedPool) (free inUse : List BufId) (b : BufId),
    s.Holds free inUse → b ∈ free ++ inUse → s.ReleasedOnce b := by
  intro hclaim
  obtain ⟨s, hholds⟩ := exists_holds_two
  obtain ⟨fuel, s', hfreed, -⟩ := hclaim s [1] [0] 1 hholds (by decide)
  rw [hholds.freeBuf_free List.mem_cons_self (List.cons_ne_nil _ _) fuel] at hfreed
  cases hfreed

end LinkedPool

end VirtDisplay
