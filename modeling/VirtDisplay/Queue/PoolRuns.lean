/-
# What the pool keeps over a run

Between `Init` and `Close` the pool is only used through `GetBuf` and `FreeBuf`. Its callers
write to the buffers they hold: the command, the event, and one pointer to data of their own.
The memory behind that pointer, and that of a long response, goes over to the pool with the
buffer.

As long as only buffers that are held are given back, the two lists share out the buffers that
`Init` allocated, the buffers in use are those that are held, and the free ones are waiting in
the order they came back. Every block of memory that was handed over is with a buffer that is
held, or it was deleted, once, when its buffer was given back.
-/

import VirtDisplay.Queue.PoolCount

namespace VirtDisplay

open Transition

namespace LinkedPool

/-- A pool between `Init` and `Close`, with what its callers have had from it. -/
structure PoolRun where
  pool : LinkedPool
  /-- The buffers that `GetBuf` returned, in order. -/
  gotten : List BufId
  /-- The buffers that were given back, in order. -/
  freed : List BufId
  /-- The buffers that were returned and not given back since. -/
  held : List BufId
  /-- The blocks of memory that went over to the pool. -/
  handed : List Nat

/-- A call, or a write to a buffer. -/
inductive PoolCall
  | getBuf (size respSize : Int) (respBuf : BufPtr)
  | freeBuf (b : BufId) (fuel : Nat)
  /-- `data_buf` and `data_size` are set. -/
  | attach (b : BufId) (addr size : Nat)
  /-- The command and the event are written. -/
  | fill (b : BufId) (event : Option EventId) (inlineBytes : Fin inlineSize → BitVec 8)

/-- What a caller writes to a buffer. -/
def writeFields (s : LinkedPool) (b : BufId) (f : VBufferFields → VBufferFields) : LinkedPool :=
  { s with fields := Function.update s.fields b (f (s.fields b)) }

@[simp]
theorem writeFields_self {s : LinkedPool} {b : BufId} {f : VBufferFields → VBufferFields} :
    (s.writeFields b f).fields b = f (s.fields b) := Function.update_self ..

theorem writeFields_of_ne {s : LinkedPool} {b c : BufId} {f : VBufferFields → VBufferFields}
    (hne : c ≠ b) : (s.writeFields b f).fields c = s.fields c := Function.update_of_ne hne ..

/-- A step of the callers. They write to buffers they hold, set the data of a buffer once, and
give back what they hold. A response that fits a buffer has no memory of its own, and data of
no bytes is no data. -/
def callers : System PoolRun PoolCall where
  step r
    | .getBuf size respSize respBuf =>
        (r.pool.getBuf size respSize respBuf).map fun
          | (none, pool) => { r with pool := pool }
          | (some b, pool) =>
              { r with
                pool := pool
                gotten := r.gotten ++ [b]
                held := r.held ++ [b]
                handed := r.handed ++
                  if (maxInlineRespSize : Int) < respSize then respBuf.blocks else [] }
    | .freeBuf b fuel =>
        if b ∈ r.held then
          (r.pool.freeBuf b fuel).map fun pool =>
            { r with pool := pool, freed := r.freed ++ [b], held := r.held.erase b }
        else none
    | .attach b addr size =>
        if b ∈ r.held ∧ (r.pool.fields b).dataBuf = .null then
          some { r with
            pool := r.pool.writeFields b fun v =>
              { v with dataBuf := .block addr, dataSize := size }
            handed := r.handed ++ if size ≠ 0 then [addr] else [] }
        else none
    | .fill b event inlineBytes =>
        if b ∈ r.held then
          some { r with
            pool := r.pool.writeFields b fun v =>
              { v with event := event, inlineBytes := inlineBytes } }
        else none

/-- The pool as `Init` leaves it. -/
def PoolRun.started (s : LinkedPool) : PoolRun := ⟨s, [], [], [], []⟩

namespace PoolRun

/-- The memory that belongs to the buffers that are held. -/
def attachedHeld (r : PoolRun) : List Nat :=
  r.held.flatMap fun b => (r.pool.fields b).attached

/-- The pool holds `buffers`, and had deleted `before` when the run began. -/
structure Sound (buffers : List BufId) (before : List Nat) (r : PoolRun) : Prop where
  /-- The two lists share out the buffers, and the free ones wait in the order they came. -/
  lists : ∃ free inUse, r.pool.Holds free inUse ∧ (free ++ inUse).Perm buffers ∧
    inUse.Perm r.held ∧ buffers ++ r.freed = r.gotten ++ free
  /-- `GetBuf` answers null if all buffers are in use, and otherwise with a cleared buffer
  that is not. -/
  getBuf : ∀ size respSize respBuf, ∃ answer pool,
    r.pool.getBuf size respSize respBuf = some (answer, pool) ∧
      (answer = none ↔ r.held.length = buffers.length) ∧
      pool.deletedMem = r.pool.deletedMem ∧
      ∀ b, answer = some b → b ∈ buffers ∧ b ∉ r.held ∧
        pool.fields b = .handedOut b size respSize respBuf
  /-- `FreeBuf` comes back, and deletes the memory of its buffer. -/
  freeBuf : ∀ b ∈ r.held, ∃ fuel pool, r.pool.freeBuf b fuel = some pool ∧
    pool.deletedMem = r.pool.deletedMem ++ (r.pool.fields b).attached
  /-- What was handed over is with a buffer that is held, or was deleted, once. -/
  memory : (before ++ r.handed).Perm (r.pool.deletedMem ++ r.attachedHeld)
  /-- No memory is left with a buffer that is free. -/
  unattached : ∀ b ∈ buffers, b ∉ r.held → (r.pool.fields b).attached = []

/-- What a run of the pool keeps from step to step. -/
structure Kept (buffers : List BufId) (before : List Nat) (free : List BufId) (r : PoolRun) :
    Prop where
  holds : r.pool.Holds free r.held
  shared : (free ++ r.held).Perm buffers
  waiting : buffers ++ r.freed = r.gotten ++ free
  memory : (before ++ r.handed).Perm (r.pool.deletedMem ++ r.attachedHeld)
  unattached : ∀ b ∈ free, (r.pool.fields b).attached = []

end PoolRun

section

variable {b : BufId} {v : VBufferFields}

/-- The memory of a buffer just handed out is the response that does not fit it. -/
theorem attached_handedOut (b : BufId) (size respSize : Int) (respBuf : BufPtr) :
    (VBufferFields.handedOut b size respSize respBuf).attached =
      if (maxInlineRespSize : Int) < respSize then respBuf.blocks else [] := by
  have hdata : ¬ (VBufferFields.handedOut b size respSize respBuf).OwnsData := fun h => h.1 rfl
  rw [VBufferFields.attached, if_neg hdata, List.append_nil]
  by_cases hlong : (maxInlineRespSize : Int) < respSize
  · rw [if_pos hlong]
    have hresp : (VBufferFields.handedOut b size respSize respBuf).respBuf = respBuf :=
      if_neg (Int.not_le.mpr hlong)
    cases respBuf with
    | null => exact if_neg fun h => h.1 hresp
    | inside c offset => rw [hresp]; exact ite_self _
    | block addr =>
        have hne : (VBufferFields.handedOut b size respSize (.block addr)).respBuf ≠ .null := by
          rw [hresp]
          exact nofun
        rw [hresp]
        exact if_pos ⟨hne, hlong⟩
  · rw [if_neg hlong, if_neg fun h => hlong h.2]

/-- Nothing is left once it was deleted. -/
theorem attached_released (v : VBufferFields) : v.released.attached = [] := by
  have hresponse : ¬ v.released.OwnsResponse := by
    intro howns
    by_cases hbefore : v.OwnsResponse
    · exact howns.1 (if_pos hbefore)
    · refine hbefore ⟨?_, ?_⟩
      · rw [← show v.released.respBuf = v.respBuf from if_neg hbefore]
        exact howns.1
      · rw [← show v.released.respSize = v.respSize from if_neg hbefore]
        exact howns.2
  have hdata : ¬ v.released.OwnsData := by
    intro howns
    by_cases hbefore : v.OwnsData
    · exact howns.1 (if_pos hbefore)
    · refine hbefore ⟨?_, ?_⟩
      · rw [← show v.released.dataBuf = v.dataBuf from if_neg hbefore]
        exact howns.1
      · rw [← show v.released.dataSize = v.dataSize from if_neg hbefore]
        exact howns.2
  rw [VBufferFields.attached, if_neg hresponse, if_neg hdata, List.append_nil]

/-- Data joins what a buffer without data has. -/
theorem attached_attach (hnull : v.dataBuf = .null) (addr size : Nat) :
    ({ v with dataBuf := .block addr, dataSize := size } : VBufferFields).attached =
      v.attached ++ if size ≠ 0 then [addr] else [] := by
  have hnone : ¬ v.OwnsData := fun h => h.1 hnull
  have hdata : ({ v with dataBuf := .block addr, dataSize := size } : VBufferFields).OwnsData ↔
      size ≠ 0 := ⟨fun h => h.2, fun h => ⟨nofun, h⟩⟩
  rw [VBufferFields.attached, VBufferFields.attached, if_neg hnone, List.append_nil]
  refine congrArg₂ (· ++ ·) rfl ?_
  simp only [hdata]
  rfl

end

namespace PoolRun

section

variable {buffers free : List BufId} {before : List Nat} {r r' : PoolRun} {b : BufId}

/-- The blocks of the buffers held, those of one of them first. -/
theorem flatMap_perm_of_mem {held : List BufId} (hheld : b ∈ held) (blocksOf : BufId → List Nat) :
    (held.flatMap blocksOf).Perm (blocksOf b ++ (held.erase b).flatMap blocksOf) := by
  have hperm := (List.perm_cons_erase hheld).flatMap_right blocksOf
  rwa [List.flatMap_cons] at hperm

/-- The blocks of the buffers held, if more are joined to one of them. -/
theorem flatMap_perm_of_join {held : List BufId} (hnodup : held.Nodup) (hheld : b ∈ held)
    (blocksOf blocksOf' : BufId → List Nat) {blocks : List Nat}
    (hself : blocksOf' b = blocksOf b ++ blocks)
    (hothers : ∀ c, c ≠ b → blocksOf' c = blocksOf c) :
    (held.flatMap blocksOf').Perm (held.flatMap blocksOf ++ blocks) := by
  have hrest : (held.erase b).flatMap blocksOf' = (held.erase b).flatMap blocksOf :=
    List.flatMap_congr fun c hmem => hothers c fun heq => hnodup.not_mem_erase (heq ▸ hmem)
  have hafter := flatMap_perm_of_mem hheld blocksOf'
  rw [hself, hrest, List.append_assoc] at hafter
  have hswap : (blocksOf b ++ (blocks ++ (held.erase b).flatMap blocksOf)).Perm
      (blocksOf b ++ ((held.erase b).flatMap blocksOf ++ blocks)) :=
    List.perm_append_comm.append_left _
  have hbefore := (flatMap_perm_of_mem hheld blocksOf).append_right blocks
  rw [List.append_assoc] at hbefore
  exact hafter.trans (hswap.trans hbefore.symm)

/-- A write that joins blocks to what a buffer has. -/
theorem Kept.write {f : VBufferFields → VBufferFields} {blocks : List Nat}
    (hkept : Kept buffers before free r) (hheld : b ∈ r.held)
    (hjoins : (f (r.pool.fields b)).attached = (r.pool.fields b).attached ++ blocks) :
    Kept buffers before free
      { r with pool := r.pool.writeFields b f, handed := r.handed ++ blocks } where
  holds := ⟨hkept.holds.freeRing, hkept.holds.inUseRing, hkept.holds.apart, hkept.holds.below,
    hkept.holds.live, hkept.holds.deletedBelow⟩
  shared := hkept.shared
  waiting := hkept.waiting
  memory := by
    have hjoined := flatMap_perm_of_join (List.nodup_append.mp hkept.holds.apart).2.1 hheld
      (fun c => (r.pool.fields c).attached)
      (fun c => ((r.pool.writeFields b f).fields c).attached)
      (by rw [writeFields_self, hjoins]) fun c hne => by rw [writeFields_of_ne hne]
    have hmemory := hkept.memory.append_right blocks
    rw [List.append_assoc, List.append_assoc] at hmemory
    exact hmemory.trans (hjoined.symm.append_left _)
  unattached c hmem := by
    have hne : c ≠ b := by
      rintro rfl
      exact hkept.holds.not_mem_inUse hmem hheld
    exact (congrArg VBufferFields.attached (writeFields_of_ne hne)).trans (hkept.unattached c hmem)

/-- `GetBuf` with a free buffer. -/
theorem Kept.getBuf {size respSize : Int} {respBuf : BufPtr} {pool : LinkedPool}
    (hkept : Kept buffers before (b :: free) r) (hholds : pool.Holds free (r.held ++ [b]))
    (hfields : pool.fields = Function.update r.pool.fields b (.handedOut b size respSize respBuf))
    (hdeleted : pool.deletedMem = r.pool.deletedMem) :
    Kept buffers before free
      { r with
        pool := pool
        gotten := r.gotten ++ [b]
        held := r.held ++ [b]
        handed := r.handed ++
          if (maxInlineRespSize : Int) < respSize then respBuf.blocks else [] } where
  holds := hholds
  shared := by
    rw [← List.append_assoc]
    exact (List.perm_append_singleton b _).trans hkept.shared
  waiting := by
    rw [hkept.waiting, List.append_assoc]
    rfl
  memory := by
    have hothers : (r.held.flatMap fun c => (pool.fields c).attached) = r.attachedHeld :=
      List.flatMap_congr fun c hmem => by
        rw [hfields, Function.update_of_ne]
        rintro rfl
        exact hkept.holds.not_mem_inUse List.mem_cons_self hmem
    have hself : (pool.fields b).attached =
        if (maxInlineRespSize : Int) < respSize then respBuf.blocks else [] := by
      rw [hfields, Function.update_self, attached_handedOut]
    have hmemory := hkept.memory.append_right
      (if (maxInlineRespSize : Int) < respSize then respBuf.blocks else [])
    rw [attachedHeld, List.flatMap_append, List.flatMap_singleton, hothers, hself, hdeleted,
      ← List.append_assoc, ← List.append_assoc]
    exact hmemory
  unattached c hmem := by
    have hnodup := (List.nodup_append.mp hkept.holds.apart).1
    have hne : c ≠ b := fun heq => (List.nodup_cons.mp hnodup).1 (heq ▸ hmem)
    rw [hfields, Function.update_of_ne hne]
    exact hkept.unattached c (List.mem_cons_of_mem _ hmem)

/-- `FreeBuf` with a buffer that is held. -/
theorem Kept.freeBuf {pool : LinkedPool} (hkept : Kept buffers before free r) (hheld : b ∈ r.held)
    (hholds : pool.Holds (free ++ [b]) (r.held.erase b))
    (hfields : pool.fields = Function.update r.pool.fields b (r.pool.fields b).released)
    (hdeleted : pool.deletedMem = r.pool.deletedMem ++ (r.pool.fields b).attached) :
    Kept buffers before (free ++ [b])
      { r with pool := pool, freed := r.freed ++ [b], held := r.held.erase b } where
  holds := hholds
  shared := by
    rw [List.append_assoc]
    exact ((List.perm_cons_erase hheld).symm.append_left free).trans hkept.shared
  waiting := by
    rw [← List.append_assoc, hkept.waiting, List.append_assoc]
  memory := by
    have hnodup := (List.nodup_append.mp hkept.holds.apart).2.1
    have hothers : ((r.held.erase b).flatMap fun c => (pool.fields c).attached) =
        (r.held.erase b).flatMap fun c => (r.pool.fields c).attached :=
      List.flatMap_congr fun c hmem => by
        rw [hfields, Function.update_of_ne]
        rintro rfl
        exact hnodup.not_mem_erase hmem
    have hsplit := flatMap_perm_of_mem hheld fun c => (r.pool.fields c).attached
    rw [attachedHeld, hothers, hdeleted, List.append_assoc]
    exact hkept.memory.trans (hsplit.append_left _)
  unattached c hmem := by
    by_cases heq : c = b
    · rw [heq, hfields, Function.update_self]
      exact attached_released _
    · rw [hfields, Function.update_of_ne heq]
      rcases List.mem_append.mp hmem with hmem | hmem
      · exact hkept.unattached c hmem
      · exact absurd (List.mem_singleton.mp hmem) heq

/-- Every step of the callers keeps the pool in order. -/
theorem Kept.step {call : PoolCall} (hkept : Kept buffers before free r)
    (hstep : callers.step r call = some r') : ∃ free', Kept buffers before free' r' := by
  cases call with
  | getBuf size respSize respBuf =>
      obtain ⟨⟨answer, pool⟩, hget, rfl⟩ := Option.map_eq_some_iff.mp hstep
      cases free with
      | nil =>
          rw [hkept.holds.getBuf_nil] at hget
          obtain ⟨rfl, rfl⟩ := Prod.mk.inj (Option.some.inj hget)
          exact ⟨[], hkept⟩
      | cons b free =>
          obtain ⟨links, hgot, hholds⟩ := hkept.holds.getBuf size respSize respBuf
          obtain ⟨rfl, rfl⟩ := Prod.mk.inj (Option.some.inj (hget.symm.trans hgot))
          exact ⟨free, hkept.getBuf hholds rfl rfl⟩
  | freeBuf b fuel =>
      simp only [callers] at hstep
      split at hstep
      next hheld =>
        obtain ⟨pool, hfreed, rfl⟩ := Option.map_eq_some_iff.mp hstep
        obtain ⟨links, rfl, hholds⟩ := hkept.holds.of_freeBuf hheld hfreed
        exact ⟨_, hkept.freeBuf hheld hholds rfl rfl⟩
      next => cases hstep
  | attach b addr size =>
      simp only [callers] at hstep
      split at hstep
      next hattach =>
        obtain rfl := Option.some.inj hstep
        exact ⟨free, hkept.write hattach.1 (attached_attach hattach.2 addr size)⟩
      next => cases hstep
  | fill b event inlineBytes =>
      simp only [callers] at hstep
      split at hstep
      next hheld =>
        obtain rfl := Option.some.inj hstep
        have hwritten := hkept.write hheld
          (f := fun v => { v with event := event, inlineBytes := inlineBytes })
          (List.append_nil _).symm
        rw [List.append_nil] at hwritten
        exact ⟨free, hwritten⟩
      next => cases hstep

/-- What the callers may rely on. -/
theorem Kept.sound (hkept : Kept buffers before free r) : Sound buffers before r where
  lists := ⟨free, r.held, hkept.holds, hkept.shared, .refl _, hkept.waiting⟩
  getBuf size respSize respBuf := by
    have hlength := hkept.shared.length_eq
    rw [List.length_append] at hlength
    cases free with
    | nil =>
        refine ⟨none, r.pool, hkept.holds.getBuf_nil size respSize respBuf, ?_, rfl, nofun⟩
        exact iff_of_true rfl (by rw [← hlength]; exact (Nat.zero_add _).symm)
    | cons b free =>
        obtain ⟨links, hgot, -⟩ := hkept.holds.getBuf size respSize respBuf
        refine ⟨some b, _, hgot, iff_of_false nofun ?_, rfl, ?_⟩
        · rw [List.length_cons] at hlength
          omega
        · rintro c hc
          obtain rfl := Option.some.inj hc
          exact ⟨hkept.shared.mem_iff.mp List.mem_cons_self,
            hkept.holds.not_mem_inUse List.mem_cons_self, Function.update_self ..⟩
  freeBuf b hheld := by
    obtain ⟨links, hfreed, -⟩ := hkept.holds.freeBuf hheld (Nat.le_refl _)
    exact ⟨_, _, hfreed, rfl⟩
  memory := hkept.memory
  unattached b hmem hheld := by
    rcases List.mem_append.mp (hkept.shared.mem_iff.mpr hmem) with hfree | hused
    · exact hkept.unattached b hfree
    · exact absurd hused hheld

end

end PoolRun

section

variable {s : LinkedPool} {cnt : BitVec 32} {allocates : Nat → Bool}

/-- `Init` on a pool that counts nothing, if all allocations succeed: it comes back with so
many cleared buffers on the free list. -/
theorem init_all (hcount : s.uCount = 0) (hdeleted : ∀ b ∈ s.deletedBufs, b < s.allocated)
    (hall : ∀ i < cnt.toNat, allocates i = true) :
    ∃ s', (∀ fuel, s.init cnt allocates fuel = some (s', decide (0 < cnt))) ∧
      PoolRun.Kept (List.range' s.allocated cnt.toNat) s.deletedMem
        (List.range' s.allocated cnt.toNat) (.started s') := by
  obtain ⟨s', hadd, hadded⟩ :=
    addBuffers_added allocates cnt.toNat 0 (holds_initializeHeads hdeleted)
  rw [succeeding_eq_of_all hall] at hadded
  have huCount : s'.uCount = cnt := by
    rw [hadded.uCount, show s.initializeHeads.uCount = 0 from hcount, BitVec.ofNat_toNat]
    exact (BitVec.zero_add _).trans (BitVec.setWidth_eq _)
  refine ⟨s', fun fuel => ?_, hadded.holds, ?_, ?_, ?_, fun b hmem => ?_⟩
  · rw [init, hadd, Option.bind_eq_bind, Option.bind_some, if_neg (not_not.mpr huCount), ← huCount]
    rfl
  · exact .of_eq (List.append_nil _)
  · exact List.append_nil _
  · show (s.deletedMem ++ []).Perm (s'.deletedMem ++ [])
    rw [hadded.deletedMem]
    rfl
  · show (s'.fields b).attached = []
    rw [hadded.cleared b hmem]
    rfl

/-- After an `Init` whose allocations all succeed, along every run of the callers. -/
theorem init_sound (hcount : s.uCount = 0) (hdeleted : ∀ b ∈ s.deletedBufs, b < s.allocated)
    (hall : ∀ i < cnt.toNat, allocates i = true) :
    ∃ s', (∀ fuel, s.init cnt allocates fuel = some (s', decide (0 < cnt))) ∧
      ∀ r, callers.Reach (.started s') r →
        r.Sound (List.range' s.allocated cnt.toNat) s.deletedMem := by
  obtain ⟨s', hinit, hkept⟩ := init_all hcount hdeleted hall
  refine ⟨s', hinit, fun r hreach => ?_⟩
  have hreached : ∃ free, r.Kept (List.range' s.allocated cnt.toNat) s.deletedMem free := by
    refine hreach.invariant
      (I := fun r => ∃ free, r.Kept (List.range' s.allocated cnt.toNat) s.deletedMem free)
      ⟨_, hkept⟩ ?_
    rintro before call after ⟨free, hbefore⟩ - hstep
    exact hbefore.step hstep
  obtain ⟨free, hkept⟩ := hreached
  exact hkept.sound

/-- The first `Init` of a pool, with two buffers. -/
theorem init_sound_two :
    ∃ s', (∀ fuel, constructed.init 2 (fun _ => true) fuel = some (s', true)) ∧
      ∀ r, callers.Reach (.started s') r → r.Sound [0, 1] [] :=
  init_sound rfl nofun fun _ _ => rfl

end

end LinkedPool

end VirtDisplay
