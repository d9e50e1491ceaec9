/-
# The bytes behind the memory entries of a user's buffer

`InitExt` counts the pages of a buffer from its size alone, and lists that many pages from the
one on that the address lies in. The host reads the entries one after the other, so the first
byte it finds is the first byte of that page. The lock is another matter: the MDL is given the
address itself, and covers every page that the buffer touches.
-/

import VirtDisplay.Adapter.BlobExtent

namespace VirtDisplay

/-- The physical address at an offset of the concatenated entries. -/
def byteAt : List MemEntry → Nat → Option Nat
  | [], _ => none
  | entry :: entries, k =>
      if k < entry.length then some (entry.addr + k) else byteAt entries (k - entry.length)

/-- The physical address of a byte, by the one of its page. -/
def physicalAddress (phys : Nat → Nat) (addr : Nat) : Nat :=
  phys (addr / pageSize * pageSize) + addr % pageSize

/-- The numbers of the pages that some bytes from an address on touch. -/
def touched (addr size : Nat) : Set Nat := {p | ∃ k < size, p = (addr + k) / pageSize}

/-- The entries in a command. -/
def GpuCmd.entries : GpuCmd → List MemEntry
  | .resourceCreateBlob _ entries _ | .resourceAttachBacking _ entries => entries
  | _ => []

/-- The entries describe the buffer: each byte stands at its own offset, and every page that the
buffer touches is listed and is among the locked ones. -/
structure DescribesBuffer (phys : Nat → Nat) (locked : Set Nat) (addr size : Nat)
    (entries : List MemEntry) : Prop where
  bytes : ∀ k < size, byteAt entries k = some (physicalAddress phys (addr + k))
  listed : ∀ p ∈ touched addr size, ∃ entry ∈ entries, entry.addr = phys (p * pageSize)
  locked : ∀ p ∈ touched addr size, p ∈ locked

/-- Entries of one page each. -/
theorem byteAt_map (f : Nat → Nat) {page pages k : Nat} (hk : k < pages * page) :
    byteAt ((List.range pages).map fun i => ⟨f i, page⟩) k = some (f (k / page) + k % page) := by
  induction pages generalizing f k with
  | zero => omega
  | succ pages ih =>
      rw [List.range_succ_eq_map, List.map_cons, List.map_map, byteAt]
      by_cases hfirst : k < page
      · rw [if_pos hfirst, Nat.div_eq_of_lt hfirst, Nat.mod_eq_of_lt hfirst]
      · have hle := Nat.le_of_not_lt hfirst
        have hrest : k - page < pages * page := by
          rw [Nat.succ_mul] at hk
          omega
        have hsplit : k = k - page + page := (Nat.sub_add_cancel hle).symm
        have hpage : 0 < page := Nat.pos_of_lt_mul_left (Nat.lt_of_le_of_lt (Nat.zero_le _) hk)
        rw [if_neg hfirst]
        refine (ih (fun i => f (i + 1)) hrest).trans ?_
        conv_rhs => rw [hsplit, Nat.add_div_right _ hpage, Nat.add_mod_right]

section

variable {phys : Nat → Nat} {addr pages size : Nat}

/-- The start of a page, some bytes behind the start of another. -/
theorem page_start_add (addr k : Nat) : (addr / pageSize * pageSize + k) / pageSize * pageSize =
    addr / pageSize * pageSize + k / pageSize * pageSize := by
  unfold pageSize
  omega

/-- Whatever the address is, the entries describe the bytes from the start of its page on. -/
theorem byteAt_scatterGather {k : Nat}
    (hphys : ∀ i < pages, phys (addr / pageSize * pageSize + i * pageSize) ≠ 0)
    (hk : k < pages * pageSize) : byteAt (Segment.scatterGather phys addr pages) k =
      some (physicalAddress phys (addr / pageSize * pageSize + k)) := by
  rw [scatterGather_eq hphys]
  refine (byteAt_map (fun i => phys (addr / pageSize * pageSize + i * pageSize)) hk).trans ?_
  have hmod : (addr / pageSize * pageSize + k) % pageSize = k % pageSize := by
    unfold pageSize
    omega
  rw [physicalAddress, page_start_add, hmod]

/-- The rounded size does not wrap around unless it becomes zero. -/
theorem pagedSize_of_pos (hsize : size < 2 ^ 32) (hpos : 0 < pagedSize size) :
    pagedSize size = Pages.count pageSize size * pageSize ∧ size ≤ pagedSize size := by
  have hle : Pages.count pageSize size * pageSize ≤ 2 ^ 20 * pageSize :=
    Pages.roundUp_le_mul (by decide) (by unfold pageSize; omega)
  have hround : size ≤ Pages.count pageSize size * pageSize := Pages.le_roundUp (by decide)
  unfold pagedSize pageSize at *
  omega

/-- A page that the entries start with, or one behind it, is touched. -/
theorem mem_touched {i : Nat} (hi : i < pages) :
    addr / pageSize + i ∈ touched addr (pages * pageSize) := by
  refine ⟨i * pageSize, Nat.mul_lt_mul_of_pos_right hi (by decide), ?_⟩
  rw [Nat.add_mul_div_right _ _ (by decide)]

theorem touched_mono {size' : Nat} (hle : size ≤ size') :
    touched addr size ⊆ touched addr size' := by
  rintro p ⟨k, hk, rfl⟩
  exact ⟨k, hk.trans_le hle, rfl⟩

/-- An `InitExt` that succeeds was given a size. -/
theorem Segment.initExt_pos {o : Outcomes} {mdl size addr : Nat} {segment : Segment}
    (hok : (Segment.initExt o mdl size addr segment).ok = true) : 0 < pagedSize size := by
  unfold Segment.initExt at hok
  dsimp only at hok
  by_contra hzero
  rw [if_neg fun h => hzero h.1] at hok
  cases hok

/-- The list that `InitExt` leaves describes the buffer exactly if the buffer starts a page. -/
theorem scatterGather_describes_iff (hsize : size < 2 ^ 32) (hpos : 0 < pagedSize size)
    (hphys : ∀ p ∈ touched addr (pagedSize size), phys (p * pageSize) ≠ 0) :
    DescribesBuffer phys (touched addr (pagedSize size)) addr size
        (Segment.scatterGather phys addr (Pages.count pageSize size)) ↔
      addr % pageSize = 0 := by
  obtain ⟨hpaged, hle⟩ := pagedSize_of_pos hsize hpos
  rw [hpaged] at hphys hpos hle ⊢
  have hpages : ∀ i < Pages.count pageSize size,
      phys (addr / pageSize * pageSize + i * pageSize) ≠ 0 := by
    intro i hi
    rw [← Nat.add_mul]
    exact hphys _ (mem_touched hi)
  constructor
  · intro hdescribes
    -- the entries start with the page's first byte, which the buffer's first byte has to be
    have hsome : 0 < size := by
      by_contra hzero
      rw [Nat.eq_zero_of_not_pos hzero, Pages.count_zero] at hpos
      omega
    have hfirst := (byteAt_scatterGather hpages (k := 0) hpos).symm.trans (hdescribes.bytes 0 hsome)
    have heq := Option.some.inj hfirst
    rw [physicalAddress, physicalAddress, Nat.add_zero, Nat.add_zero,
      Nat.mul_div_cancel _ (by decide), Nat.mul_mod_left] at heq
    omega
  · intro haligned
    have hbase : addr / pageSize * pageSize = addr := by
      unfold pageSize at *
      omega
    refine ⟨fun k hk => ?_, ?_, fun p hp => touched_mono hle hp⟩
    · rw [byteAt_scatterGather hpages (hk.trans_le hle), hbase]
    · rintro p ⟨k, hk, rfl⟩
      rw [scatterGather_eq hpages]
      have hlt : k / pageSize < Pages.count pageSize size :=
        (Nat.div_lt_iff_lt_mul (by decide)).mpr (hk.trans_le hle)
      refine ⟨_, List.mem_map.mpr ⟨k / pageSize, List.mem_range.mpr hlt, rfl⟩, congrArg phys ?_⟩
      rw [← page_start_add, hbase]

end

section

variable {o o' : Outcomes} {blob : Bool} {mdl size addr resid height stride : Nat}
  {segment : Segment} {c : Ctx} {cmd : GpuCmd} {backing : Option Nat}

/-- `GpuObjectAttach` hands over the segment's list. -/
theorem gpuObjectAttach_sends
    (hsent : (gpuObjectAttach o blob resid segment height stride c).1.actions =
      c.actions ++ [.submit ⟨cmd, backing⟩]) :
    cmd.entries = frameEntries segment ∧ backing = segment.mdl := by
  unfold gpuObjectAttach at hsent
  split at hsent
  next =>
    dsimp only at hsent
    rw [Ctx.submit_eq] at hsent
    have hmem := List.mem_singleton_self (Action.submit ⟨cmd, backing⟩)
    rw [← List.append_cancel_left hsent] at hmem
    obtain ⟨rfl, rfl⟩ := Submission.mk.inj (Action.submit.inj (mem_submitted.mp hmem).2)
    refine ⟨?_, rfl⟩
    cases blob <;> rfl
  next => exact absurd (List.self_eq_append_right.mp hsent) (List.cons_ne_nil _ _)

/-- For every user's buffer that `InitExt` accepts, in whatever state the segment is: the entries
that `GpuObjectAttach` then passes to the host are backed by the lock just taken, and describe the
buffer exactly if its address is the start of a page. The hypothesis on `phys` says that locked
pages have physical addresses. -/
theorem attached_describes_iff (hsize : size < 2 ^ 32)
    (hok : (Segment.initExt o mdl size addr segment).ok = true)
    (hphys : ∀ p ∈ touched addr (pagedSize size), o.phys (p * pageSize) ≠ 0)
    (hsent : (gpuObjectAttach o' blob resid (Segment.initExt o mdl size addr segment).segment height
      stride c).1.actions = c.actions ++ [.submit ⟨cmd, backing⟩]) :
    backing = some mdl ∧ .lock mdl ∈ (Segment.initExt o mdl size addr segment).events ∧
      (DescribesBuffer o.phys (touched addr (pagedSize size)) addr size cmd.entries ↔
        addr % pageSize = 0) := by
  obtain ⟨hentries, hbacking⟩ := gpuObjectAttach_sends hsent
  obtain ⟨hsegment, hevents⟩ := Segment.initExt_of_ok hok
  rw [hentries, hbacking, hevents, hsegment]
  exact ⟨rfl, List.mem_append_right _ List.mem_cons_self,
    scatterGather_describes_iff hsize (Segment.initExt_pos hok) hphys⟩

end

/-- The segment of a frame of 1024x768 at a user's address. -/
abbrev plainSegment (addr : Nat) : Segment.Result :=
  Segment.initExt .good 0 (4096 * 768) addr .closed

theorem plainSegment_ok {addr : Nat} (haddr : addr ≠ 0) : (plainSegment addr).ok = true :=
  (Segment.initExt_ok_iff _ _ _ (by decide) haddr).mpr ⟨rfl, rfl, rfl⟩

/-- The first resource of a device that has just started is attached to it. -/
theorem plainSegment_sent (addr : Nat) : ∃ (c : Ctx) (cmd : GpuCmd) (backing : Option Nat),
    (gpuObjectAttach .good true 1 (plainSegment addr).segment 768 1024 c).1.actions =
      c.actions ++ [.submit ⟨cmd, backing⟩] := by
  obtain ⟨a, -⟩ := Option.isSome_iff_exists.mp
    (by decide +kernel : (hwInit (.plain true)).isSome = true)
  exact ⟨a.ctx 0, .resourceCreateBlob 1 (frameEntries (plainSegment addr).segment)
    (roundToPages (1024 * 768 * 4)), (plainSegment addr).segment.mdl, rfl⟩

/-- The frame at the start of a page. -/
theorem attached_describes_aligned : ∃ cmd : GpuCmd, DescribesBuffer Outcomes.good.phys
    (touched 0x1000 (pagedSize (4096 * 768))) 0x1000 (4096 * 768) cmd.entries := by
  obtain ⟨c, cmd, backing, hsent⟩ := plainSegment_sent 0x1000
  have hphys : ∀ p ∈ touched 0x1000 (pagedSize (4096 * 768)),
      Outcomes.good.phys (p * pageSize) ≠ 0 := fun _ _ => Nat.succ_ne_zero _
  exact ⟨cmd, (attached_describes_iff (by decide) (plainSegment_ok (by decide)) hphys
    hsent).2.2.mpr (by decide)⟩

/-- The same frame one byte later passes the validation of the request and is locked, and the
entries that the host is handed describe the bytes from one byte before it on. -/
theorem attached_not_describes :
    validateFrame (.sized 1024 768 4096 1024 0x1001) = .success ∧
      (plainSegment 0x1001).ok = true ∧
      ∃ (c : Ctx) (cmd : GpuCmd) (backing : Option Nat),
        (gpuObjectAttach .good true 1 (plainSegment 0x1001).segment 768 1024 c).1.actions =
          c.actions ++ [.submit ⟨cmd, backing⟩] ∧
        ¬ DescribesBuffer Outcomes.good.phys (touched 0x1001 (pagedSize (4096 * 768))) 0x1001
          (4096 * 768) cmd.entries := by
  have hok := plainSegment_ok (by decide : 0x1001 ≠ 0)
  obtain ⟨c, cmd, backing, hsent⟩ := plainSegment_sent 0x1001
  refine ⟨by decide, hok, c, cmd, backing, hsent, fun hdescribes => ?_⟩
  have hphys : ∀ p ∈ touched 0x1001 (pagedSize (4096 * 768)),
      Outcomes.good.phys (p * pageSize) ≠ 0 := fun _ _ => Nat.succ_ne_zero _
  rw [(gpuObjectAttach_sends hsent).1, plainSegment, (Segment.initExt_of_ok hok).1, frameEntries,
    Option.getD_some] at hdescribes
  have haligned := (scatterGather_describes_iff (by decide) (by decide) hphys).mp hdescribes
  exact absurd haligned (by decide)

end VirtDisplay
