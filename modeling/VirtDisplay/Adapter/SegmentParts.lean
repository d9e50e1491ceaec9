/-
# Who frees the parts of a memory segment

Which parts a segment has is not recorded anywhere. `Close` tells it from two pointers and two
flags, and each initialiser has exits at which only some of the parts are there. `Tidy` says that
`Close` reads them right.

Calls keep a segment tidy if `Init` finds nothing to overwrite and `InitExt` gets its MDL.
`InitExt` closes the segment first and `Init` does not; and of the exits of `InitExt` the one
without an MDL leaves the user's address behind.
-/

import VirtDisplay.Adapter.SegmentLife
import VirtDisplay.Foundation.Transition

namespace VirtDisplay

open Transition

namespace VioGpuMemSegment

section

variable {r : Registry Part}

/-- Releasing the pages and then their MDL. -/
theorem owned_release (howned : r.Owned) (hlock : (r.slots .lock).isSome = true)
    (hmdl : (r.slots .mdl).isSome = true) : (((r.drop .lock).clear .lock).drop .mdl).Owned := by
  have hdropped := howned.drop hlock
  rw [Registry.clear_of_empty (Registry.drop_slots_self r .lock)]
  exact hdropped.drop (by simpa using hmdl)

/-- An MDL, a lock and a list are acquired in this order, and released at the exits between. -/
structure Stages (r : Registry Part) : Prop where
  undescribed : (((r.put .mdl).clear .lock).drop .mdl).Owned
  unlocked : (((((r.put .mdl).put .lock).drop .lock).clear .lock).drop .mdl).Owned
  listed : (((r.put .mdl).put .lock).put .sgList).Owned

theorem stages (howned : r.Owned) (hempty : ∀ part, part ≠ .buffer → r.slots part = none) :
    Stages r := by
  have hdescribed : (r.put .mdl).Owned := howned.put (hempty .mdl nofun)
  have hlock : (r.put .mdl).slots .lock = none := by simp [hempty]
  have hlocked := hdescribed.put hlock
  have hsgList : ((r.put .mdl).put .lock).slots .sgList = none := by simp [hempty]
  refine ⟨?_, owned_release hlocked (by simp) (by simp), hlocked.put hsgList⟩
  rw [Registry.clear_of_empty hlock]
  exact hdescribed.drop (by simp)

/-- The parts that come with an MDL, where the slots other than the buffer's are all empty or all
full. -/
theorem isSome_eq_mdl {full : Bool}
    (hslots : ∀ part, part ≠ .buffer → (r.slots part).isSome = full) :
    (r.slots .lock).isSome = (r.slots .mdl).isSome ∧
      (r.slots .sgList).isSome = (r.slots .mdl).isSome :=
  ⟨(hslots .lock nofun).trans (hslots .mdl nofun).symm,
    (hslots .sgList nofun).trans (hslots .mdl nofun).symm⟩

end

/-- A segment on which every call has been safe: the flags and pointers tell which parts it has. -/
structure Tidy (s : VioGpuMemSegment) : Prop where
  owned : s.parts.Owned
  buffer : s.has .buffer = s.systemMemory
  lock : s.has .lock = s.has .mdl
  sgList : s.has .sgList = s.has .mdl
  user : s.userMemory = true → s.has .mdl = true
  flags : s.has .mdl = true → (s.systemMemory || s.userMemory) = true
  exclusive : s.userMemory = true → s.systemMemory = false
  memory : match s.vAddr with
    | .null => s.systemMemory = false
    | .system _ => s.systemMemory = true
    | .user addr => s.userMemory = true ∧ s.described = .user addr

/-- The state that the constructor and `Close` leave. -/
structure Closed (s : VioGpuMemSegment) : Prop where
  systemMemory : s.systemMemory = false
  userMemory : s.userMemory = false
  mapped : s.mapped = false
  vAddr : s.vAddr = .null
  size : s.size = 0
  parts : ∀ part, s.parts.slots part = none

variable {s : VioGpuMemSegment} {o : Outcomes} {size userAddr : Nat}

theorem Tidy.closeMdl (htidy : s.Tidy) : ∃ r, s.closeMdl = { s with parts := r } ∧ r.Owned ∧
    r.slots .mdl = none ∧ r.slots .lock = none ∧ r.slots .buffer = s.parts.slots .buffer ∧
      r.slots .sgList = s.parts.slots .sgList := by
  unfold VioGpuMemSegment.closeMdl
  by_cases hmdl : s.has .mdl = true
  · rw [if_pos hmdl, if_pos (htidy.flags hmdl)]
    refine ⟨_, rfl, owned_release htidy.owned (htidy.lock.trans hmdl) hmdl, ?_⟩
    simp [unlockPages]
  · rw [if_neg hmdl]
    have hnone := Bool.eq_false_iff.mpr hmdl
    exact ⟨s.parts, rfl, htidy.owned, has_eq_false.mp hnone,
      has_eq_false.mp (htidy.lock.trans hnone), rfl, rfl⟩

/-- The buffer is deleted where there is one. -/
theorem closeMemory_spec (howned : s.parts.Owned) (hbuffer : s.has .buffer = s.systemMemory)
    (hexclusive : s.userMemory = true → s.systemMemory = false)
    (hvAddr : s.systemMemory = true → s.vAddr ≠ .null) :
    ∃ r, s.closeMemory = { s with parts := r } ∧ r.Owned ∧ r.slots .buffer = none ∧
      ∀ part, part ≠ .buffer → r.slots part = s.parts.slots part := by
  unfold closeMemory
  by_cases hsystem : s.systemMemory = true
  · have huser : ¬ s.userMemory = true :=
      fun h => Bool.false_ne_true ((hexclusive h).symm.trans hsystem)
    rw [if_pos ⟨huser, hsystem⟩, deleteBuffer, if_neg (hvAddr hsystem)]
    exact ⟨_, rfl, howned.drop (hbuffer.trans hsystem), Registry.drop_slots_self _ _,
      fun part hne => Registry.drop_slots_of_ne hne⟩
  · rw [if_neg fun h => hsystem h.2]
    exact ⟨s.parts, rfl, howned,
      has_eq_false.mp (hbuffer.trans (Bool.eq_false_iff.mpr hsystem)), fun _ _ => rfl⟩

theorem closeSgList_spec (howned : s.parts.Owned) :
    ∃ r, s.closeSgList = { s with parts := r } ∧ r.Owned ∧ r.slots .sgList = none ∧
      ∀ part, part ≠ .sgList → r.slots part = s.parts.slots part := by
  unfold closeSgList
  by_cases hsgList : s.has .sgList = true
  · rw [if_pos hsgList]
    exact ⟨_, rfl, howned.drop hsgList, Registry.drop_slots_self _ _,
      fun part hne => Registry.drop_slots_of_ne hne⟩
  · rw [if_neg hsgList]
    exact ⟨s.parts, rfl, howned, has_eq_false.mp (Bool.eq_false_iff.mpr hsgList), fun _ _ => rfl⟩

/-- The address of a segment whose memory is the system's. -/
theorem Tidy.vAddr_ne_null (htidy : s.Tidy) (hsystem : s.systemMemory = true) :
    s.vAddr ≠ .null := by
  intro hnull
  have hmemory := htidy.memory
  rw [hnull] at hmemory
  exact Bool.false_ne_true (hmemory.symm.trans hsystem)

/-- Closing ends every part and leaves the closed state. -/
theorem Tidy.close (htidy : s.Tidy) : s.close.Closed ∧ s.close.parts.Owned := by
  obtain ⟨r₁, hmdl, howned₁, hnoMdl, hnoLock, hbuffer, -⟩ := htidy.closeMdl
  obtain ⟨r₂, hmemory, howned₂, hnoBuffer, hothers⟩ := closeMemory_spec
    (s := { s with parts := r₁ }) howned₁ ((congrArg Option.isSome hbuffer).trans htidy.buffer)
    htidy.exclusive htidy.vAddr_ne_null
  obtain ⟨r₃, hsgList, howned₃, hnoList, hkept⟩ := closeSgList_spec
    (s := VioGpuMemSegment.closeFields { s with parts := r₂ })
    (show (r₂.clear .buffer).Owned from (Registry.clear_of_empty hnoBuffer).symm ▸ howned₂)
  have hclose : s.close = { closeFields { s with parts := r₂ } with parts := r₃ } := by
    rw [VioGpuMemSegment.close, hmdl, hmemory, hsgList]
  rw [hclose]
  refine ⟨⟨rfl, rfl, rfl, rfl, rfl, fun part => ?_⟩, howned₃⟩
  have hslots : ∀ part, part ≠ .sgList → r₃.slots part = r₂.slots part := by
    intro part hne
    rw [hkept part hne]
    exact congrArg (Registry.slots · part) (Registry.clear_of_empty hnoBuffer)
  show r₃.slots part = none
  cases part with
  | buffer => exact (hslots _ (by decide)).trans hnoBuffer
  | mdl => exact (hslots _ (by decide)).trans ((hothers _ (by decide)).trans hnoMdl)
  | lock => exact (hslots _ (by decide)).trans ((hothers _ (by decide)).trans hnoLock)
  | sgList => exact hnoList

theorem Closed.tidy (hclosed : s.Closed) (howned : s.parts.Owned) : s.Tidy := by
  have hnone : ∀ part, s.has part = false := fun part => has_eq_false.mpr (hclosed.parts part)
  refine ⟨howned, (hnone _).trans hclosed.systemMemory.symm, (hnone _).trans (hnone _).symm,
    (hnone _).trans (hnone _).symm, fun huser => ?_, fun hmdl => ?_, fun _ => hclosed.systemMemory,
    ?_⟩
  · exact absurd (huser.symm.trans hclosed.userMemory) (by decide)
  · exact absurd (hmdl.symm.trans (hnone _)) (by decide)
  · rw [hclosed.vAddr]
    exact hclosed.systemMemory

/-- A segment without a buffer and an MDL has nothing at all. -/
theorem Tidy.empty (htidy : s.Tidy) (hbuffer : s.has .buffer = false) (hmdl : s.has .mdl = false)
    (part : Part) : s.parts.slots part = none := by
  apply has_eq_false.mp
  cases part with
  | buffer => exact hbuffer
  | mdl => exact hmdl
  | lock => exact htidy.lock.trans hmdl
  | sgList => exact htidy.sgList.trans hmdl

/-- What `describe` leaves of a segment that has at most a buffer. -/
inductive Describes (o : Outcomes) (undo : VioGpuMemSegment → VioGpuMemSegment)
    (s : VioGpuMemSegment) : VioGpuMemSegment × Bool → Prop
  | noMdl (hmdl : o.allocMdl = false) : Describes o undo s (s, false)
  | released (r : Registry Part) (hmdl : o.allocMdl = true) (howned : r.Owned)
      (hslots : ∀ part, r.slots part = s.parts.slots part) :
      Describes o undo s (undo { s with described := s.vAddr, parts := r }, false)
  | done (r : Registry Part) (elements : List MemEntry) (size : Nat) (hmdl : o.allocMdl = true)
      (howned : r.Owned) (hbuffer : r.slots .buffer = s.parts.slots .buffer)
      (hfull : ∀ part, part ≠ .buffer → (r.slots part).isSome = true) :
      Describes o undo s
        ({ s with described := s.vAddr, parts := r, elements := elements, size := size }, true)

theorem allocateMdl_of_empty (hmdl : s.parts.slots .mdl = none)
    (hlock : s.parts.slots .lock = none) : s.allocateMdl o =
      if o.allocMdl then { s with described := s.vAddr, parts := s.parts.put .mdl } else s := by
  unfold allocateMdl
  rw [Registry.clear_of_empty hlock, Registry.clear_of_empty hmdl]

theorem newSgList_of_empty (hsgList : s.parts.slots .sgList = none) :
    s.newSgList o = if o.newSgl then { s with parts := s.parts.put .sgList } else s := by
  unfold newSgList
  rw [Registry.clear_of_empty hsgList]

theorem describe_spec {undo : VioGpuMemSegment → VioGpuMemSegment} {pages : Nat}
    (howned : s.parts.Owned) (hempty : ∀ part, part ≠ .buffer → s.parts.slots part = none) :
    Describes o undo s (s.describe o undo pages size) := by
  have hstages := stages howned hempty
  have hnoMdl := hempty .mdl nofun
  have halloc := allocateMdl_of_empty (o := o) hnoMdl (hempty .lock nofun)
  unfold describe
  dsimp only
  cases hmdl : o.allocMdl with
  | false =>
      rw [hmdl, if_neg Bool.false_ne_true] at halloc
      rw [halloc, if_pos (by rw [has_eq_false.mpr hnoMdl]; decide)]
      exact .noMdl hmdl
  | true =>
      rw [hmdl, if_pos rfl] at halloc
      rw [halloc, if_neg (by simp [has])]
      split
      next =>
        refine .released _ hmdl hstages.undescribed fun part => ?_
        cases part <;> simp [hempty]
      next =>
        have hnoList : ((s.parts.put .mdl).put .lock).slots .sgList = none := by simp [hempty]
        have hlisted := newSgList_of_empty (o := o)
          (s := lockPages { s with described := s.vAddr, parts := s.parts.put .mdl }) hnoList
        cases hlist : o.newSgl with
        | false =>
            rw [hlist, if_neg Bool.false_ne_true] at hlisted
            rw [hlisted, if_pos (by simp [has, lockPages, hempty])]
            refine .released _ hmdl hstages.unlocked fun part => ?_
            cases part <;> simp [lockPages, unlockPages, hempty]
        | true =>
            rw [hlist, if_pos rfl] at hlisted
            rw [hlisted, if_neg (by simp [has])]
            refine .done _ _ _ hmdl hstages.listed ?_ fun part hne => ?_
            · simp [lockPages]
            · cases part <;> simp [lockPages] at hne ⊢

/-- A safe `Init`: there is no buffer, and no MDL either unless the allocation of the buffer
fails. -/
theorem Tidy.init (htidy : s.Tidy) (hbuffer : s.has .buffer = false)
    (hsafe : o.sysAddr = 0 ∨ s.has .mdl = false) : (s.init o size).1.Tidy := by
  have hsystem : s.systemMemory = false := htidy.buffer.symm.trans hbuffer
  by_cases hnull : o.sysAddr = 0
  · rw [init_of_null hnull, setVAddr, Registry.clear_of_empty (has_eq_false.mp hbuffer)]
    exact ⟨htidy.owned, htidy.buffer, htidy.lock, htidy.sgList, htidy.user, htidy.flags,
      htidy.exclusive, hsystem⟩
  · have hmdl := hsafe.resolve_left hnull
    have hempty := htidy.empty hbuffer hmdl
    have huser : ¬ s.userMemory = true :=
      fun h => Bool.false_ne_true (hmdl.symm.trans (htidy.user h))
    have hput := htidy.owned.put (hempty .buffer)
    have hnone : ∀ part, part ≠ .buffer → (s.buffered o).parts.slots part = none :=
      fun part hne => (Registry.put_slots_of_ne hne).trans (hempty part)
    have hfull : (s.buffered o).has .buffer = true := by simp [has, buffered]
    -- at every exit without the MDL the segment has its buffer and nothing else
    have hexit : ∀ described r, r.Owned →
        (∀ part, r.slots part = (s.buffered o).parts.slots part) →
        Tidy { s.buffered o with described := described, parts := r } := by
      intro described r howned hslots
      have hhas : ∀ part, (r.slots part).isSome = (s.buffered o).has part :=
        fun part => congrArg Option.isSome (hslots part)
      have hnot : ∀ part, part ≠ .buffer → (r.slots part).isSome = false :=
        fun part hne => (hhas part).trans (has_eq_false.mpr (hnone part hne))
      obtain ⟨hlock, hsgList⟩ := isSome_eq_mdl hnot
      exact ⟨howned, (hhas .buffer).trans hfull, hlock, hsgList, fun h => absurd h huser,
        fun _ => rfl, fun h => absurd h huser, rfl⟩
    have hdescribes : Describes o id (s.buffered o) (s.init o size) :=
      init_of_ne_null hnull ▸ describe_spec hput hnone
    generalize s.init o size = result at hdescribes ⊢
    cases hdescribes with
    | noMdl => exact hexit _ _ hput fun _ => rfl
    | released r _ howned hslots => exact hexit _ r howned hslots
    | done r elements size _ howned hbuffer hrest =>
        obtain ⟨hlock, hsgList⟩ := isSome_eq_mdl hrest
        exact ⟨howned, (congrArg Option.isSome hbuffer).trans hfull, hlock, hsgList,
          fun h => absurd h huser, fun _ => rfl, fun h => absurd h huser, rfl⟩

/-- The address of a user is set on a segment that has no parts. -/
theorem Closed.setUser_parts (hclosed : s.Closed) (userAddr : Nat) :
    (s.setUser userAddr).parts = s.parts :=
  Registry.clear_of_empty (hclosed.parts .buffer)

theorem Tidy.initExt_describes (htidy : s.Tidy) (hsize : pagedSize size ≠ 0)
    (haddr : userAddr ≠ 0) :
    Describes o unsetUser (s.close.setUser userAddr) (s.initExt o size userAddr) := by
  obtain ⟨hclosed, howned⟩ := htidy.close
  have hparts := hclosed.setUser_parts userAddr
  unfold VioGpuMemSegment.initExt
  dsimp only
  rw [if_pos ⟨Nat.pos_of_ne_zero hsize, haddr⟩]
  exact describe_spec (hparts ▸ howned) fun part _ => hparts ▸ hclosed.parts part

/-- What `InitExt` does to a tidy segment: it leaves the closed state if it fails, unless the MDL
cannot be allocated. -/
theorem Tidy.initExt (htidy : s.Tidy)
    (hsafe : pagedSize size = 0 ∨ userAddr = 0 ∨ o.allocMdl = true) :
    (s.initExt o size userAddr).1.Tidy ∧
      ((s.initExt o size userAddr).2 = false → (s.initExt o size userAddr).1.Closed) := by
  obtain ⟨hclosed, howned⟩ := htidy.close
  by_cases hvalid : pagedSize size ≠ 0 ∧ userAddr ≠ 0
  · have hmdl : o.allocMdl = true := (hsafe.resolve_left hvalid.1).resolve_left hvalid.2
    have hparts := hclosed.setUser_parts userAddr
    have hdescribes := htidy.initExt_describes (o := o) hvalid.1 hvalid.2
    generalize s.initExt o size userAddr = result at hdescribes ⊢
    cases hdescribes with
    | noMdl hfails => exact absurd (hmdl.symm.trans hfails) (by decide)
    | released r _ howned' hslots =>
        have hempty : ∀ part, r.slots part = none :=
          fun part => (hslots part).trans (hparts ▸ hclosed.parts part)
        have hkept : r.clear .buffer = r := Registry.clear_of_empty (hempty .buffer)
        have hkeptOwned : (r.clear .buffer).Owned := by rwa [hkept]
        have hundone : Closed (unsetUser
            { s.close.setUser userAddr with
              described := (s.close.setUser userAddr).vAddr, parts := r }) :=
          ⟨hclosed.systemMemory, rfl, hclosed.mapped, rfl, hclosed.size,
            fun part => (congrArg (Registry.slots · part) hkept).trans (hempty part)⟩
        exact ⟨hundone.tidy hkeptOwned, fun _ => hundone⟩
    | done r elements size _ howned' hbuffer hrest =>
        have hnoBuffer : (r.slots .buffer).isSome = false := by
          rw [hbuffer, hparts, hclosed.parts]
          rfl
        obtain ⟨hlock, hsgList⟩ := isSome_eq_mdl hrest
        exact ⟨⟨howned', hnoBuffer.trans hclosed.systemMemory.symm, hlock, hsgList,
          fun _ => hrest .mdl nofun, fun _ => (Bool.or_eq_true ..).mpr (.inr rfl),
          fun _ => hclosed.systemMemory, ⟨rfl, rfl⟩⟩, nofun⟩
  · have hrefused : s.initExt o size userAddr = (s.close, false) :=
      if_neg fun h => hvalid ⟨h.1.ne', h.2⟩
    rw [hrefused]
    exact ⟨hclosed.tidy howned, fun _ => hclosed⟩

section

variable {k : Nat}

/-- Nothing behind the allocation of the MDL brings an object back. -/
theorem lost_describe {pages : Nat} (hlost : (s.allocateMdl o).parts.Lost k) :
    (s.describe o id pages size).1.parts.Lost k := by
  have hfreed : ∀ {s : VioGpuMemSegment}, s.parts.Lost k → s.freeMdl.parts.Lost k :=
    fun h => h.clear.drop
  unfold describe
  dsimp only
  split
  next => exact hlost
  next =>
    split
    next => exact hfreed hlost
    next =>
      have hlisted : ((s.allocateMdl o).lockPages.newSgList o).parts.Lost k := by
        unfold newSgList
        split
        next => exact Registry.Lost.put (Registry.Lost.put hlost)
        next => exact Registry.Lost.clear (Registry.Lost.put hlost)
      split
      next => exact hfreed (Registry.Lost.drop hlisted)
      next => exact hlisted

theorem lost_allocateMdl (hlost : (s.parts.clear .lock).Lost k) :
    (s.allocateMdl o).parts.Lost k := by
  unfold allocateMdl
  split
  next => exact hlost.put
  next => exact hlost.clear

/-- An unsafe `Init` loses the buffer, or the lock on the pages of the MDL that it overwrites. -/
theorem Tidy.init_lost (htidy : s.Tidy) (size : Nat)
    (hrisky : s.has .buffer = true ∨ o.sysAddr ≠ 0 ∧ s.has .mdl = true) :
    ∃ k, (s.init o size).1.parts.Lost k := by
  cases hbuffer : s.has .buffer with
  | true =>
      obtain ⟨k, hheld⟩ := Option.isSome_iff_exists.mp hbuffer
      have hlost := htidy.owned.lost_clear hheld
      refine ⟨k, ?_⟩
      by_cases hnull : o.sysAddr = 0
      · rw [init_of_null hnull]
        exact hlost
      · rw [init_of_ne_null hnull]
        have hput : (s.buffered o).parts.Lost k := by
          show (s.parts.put .buffer).Lost k
          rw [← Registry.put_clear]
          exact hlost.put
        exact lost_describe (lost_allocateMdl hput.clear)
  | false =>
      obtain ⟨hne, hmdl⟩ := hrisky.resolve_left (by rw [hbuffer]; decide)
      obtain ⟨k, hheld⟩ := Option.isSome_iff_exists.mp (htidy.lock.trans hmdl)
      rw [init_of_ne_null hne]
      refine ⟨k, lost_describe (lost_allocateMdl ?_)⟩
      refine Registry.Owned.lost_clear (htidy.owned.put (has_eq_false.mp hbuffer)) ?_
      exact (Registry.put_slots_of_ne (by decide)).trans hheld

/-- Without an MDL `InitExt` fails and leaves a user's address with no lock. -/
theorem Tidy.initExt_unlocked (htidy : s.Tidy) (hsize : pagedSize size ≠ 0)
    (haddr : userAddr ≠ 0) (hmdl : o.allocMdl = false) :
    (s.initExt o size userAddr).1.vAddr = .user userAddr ∧
      (s.initExt o size userAddr).1.has .lock = false := by
  have hclosed := htidy.close.1
  have hdescribes := htidy.initExt_describes (o := o) hsize haddr
  generalize s.initExt o size userAddr = result at hdescribes ⊢
  cases hdescribes with
  | noMdl => exact ⟨rfl, has_eq_false.mpr (hclosed.setUser_parts _ ▸ hclosed.parts .lock)⟩
  | released _ hallocated => exact absurd (hallocated.symm.trans hmdl) (by decide)
  | done _ _ _ hallocated => exact absurd (hallocated.symm.trans hmdl) (by decide)

end

/-- A call on a segment, with what succeeds during it. -/
inductive SegmentCall
  | init (o : Outcomes) (size : Nat)
  | initExt (o : Outcomes) (size userAddr : Nat)
  | close

/-- The segment after a call, and what the call returned. -/
def perform (s : VioGpuMemSegment) : SegmentCall → VioGpuMemSegment × Bool
  | .init o size => s.init o size
  | .initExt o size userAddr => s.initExt o size userAddr
  | .close => (s.close, true)

/-- The life of a segment. -/
def life : System VioGpuMemSegment SegmentCall where
  step s call := some (s.perform call).1

/-- Every part is in its place or was ended, once, and a user's address is one whose pages are
locked. -/
structure Sound (s : VioGpuMemSegment) : Prop where
  owned : s.parts.Owned
  locked : ∀ addr, s.getVirtualAddress = .user addr →
    s.has .lock = true ∧ s.described = .user addr

/-- The call leaves a sound segment, and a closed one if it is an `InitExt` that fails. -/
def Keeps (s : VioGpuMemSegment) (call : SegmentCall) : Prop :=
  (s.perform call).1.Sound ∧
    match call with
    | .initExt _ _ _ => (s.perform call).2 = false → (s.perform call).1.Closed
    | .init _ _ | .close => True

/-- `Init` is called on a segment that has nothing, or at most a user's pages if it does not get
its buffer. `InitExt` gets its MDL, if it gets as far as that. -/
def Safe (s : VioGpuMemSegment) : SegmentCall → Prop
  | .init o _ => s.has .buffer = false ∧ (o.sysAddr = 0 ∨ s.has .mdl = false)
  | .initExt o size userAddr => pagedSize size = 0 ∨ userAddr = 0 ∨ o.allocMdl = true
  | .close => True

variable {call : SegmentCall}

theorem Tidy.sound (htidy : s.Tidy) : s.Sound := by
  refine ⟨htidy.owned, fun addr haddr => ?_⟩
  have hmemory := htidy.memory
  rw [show s.vAddr = .user addr from haddr] at hmemory
  exact ⟨htidy.lock.trans (htidy.user hmemory.1), hmemory.2⟩

theorem tidy_new : new.Tidy :=
  Closed.tidy ⟨rfl, rfl, rfl, rfl, rfl, fun _ => rfl⟩ Registry.owned_empty

/-- Safe calls keep a segment tidy. -/
theorem Tidy.perform (htidy : s.Tidy) (hsafe : s.Safe call) : (s.perform call).1.Tidy := by
  cases call with
  | init o size => exact htidy.init hsafe.1 hsafe.2
  | initExt o size userAddr => exact (htidy.initExt hsafe).1
  | close => exact htidy.close.1.tidy htidy.close.2

/-- On a tidy segment the safe calls are the ones that keep what is promised. -/
theorem Tidy.keeps_iff (htidy : s.Tidy) : s.Keeps call ↔ s.Safe call := by
  constructor
  · intro hkeeps
    cases call with
    | init o size =>
        by_contra hrisky
        have hlost : s.has .buffer = true ∨ o.sysAddr ≠ 0 ∧ s.has .mdl = true := by
          rcases Bool.eq_false_or_eq_true (s.has .buffer) with hbuffer | hbuffer
          · exact .inl hbuffer
          · obtain ⟨hne, hmdl⟩ := not_or.mp fun h => hrisky ⟨hbuffer, h⟩
            exact .inr ⟨hne, Bool.eq_true_of_not_eq_false hmdl⟩
        obtain ⟨k, hlost⟩ := htidy.init_lost size hlost
        exact hlost.not_owned hkeeps.1.owned
    | initExt o size userAddr =>
        by_contra hrisky
        obtain ⟨hsize, haddr, hmdl⟩ := by simpa only [Safe, not_or] using hrisky
        obtain ⟨huser, hlock⟩ :=
          htidy.initExt_unlocked hsize haddr (Bool.eq_false_iff.mpr hmdl)
        exact Bool.false_ne_true (hlock.symm.trans (hkeeps.1.locked userAddr huser).1)
    | close => trivial
  · intro hsafe
    refine ⟨(htidy.perform hsafe).sound, ?_⟩
    cases call with
    | init o size => trivial
    | initExt o size userAddr => exact (htidy.initExt hsafe).2
    | close => trivial

/-- Over safe calls a segment is sound. Closing it then ends each of its parts, all that were
ever there have been ended exactly once, and a further call keeps this up exactly if it is safe. -/
theorem sound_of_reachUnder (hreach : life.ReachUnder Safe new s) :
    s.Sound ∧
      (∀ k < s.close.parts.created,
        (s.close.parts.ended.map Registry.Ending.object).count (some k) = 1) ∧
      ∀ call, s.Keeps call ↔ s.Safe call := by
  have htidy : s.Tidy := by
    refine hreach.invariant tidy_new ?_
    intro before call after hbefore hsafe hstep
    obtain rfl := Option.some.inj hstep
    exact hbefore.perform hsafe
  obtain ⟨hclosed, howned⟩ := htidy.close
  exact ⟨htidy.sound, fun k hlt => howned.ended_once hclosed.parts hlt,
    fun call => htidy.keeps_iff⟩

/-- A user's page is locked at its address. -/
theorem sound_of_reachUnder_user : ∃ s, life.step new (.initExt .good 4096 0x1000) = some s ∧
    s.getVirtualAddress = .user 0x1000 ∧ s.Sound := by
  have hsafe : new.Safe (.initExt .good 4096 0x1000) := .inr (.inr rfl)
  exact ⟨_, rfl, rfl, (sound_of_reachUnder (.next .refl hsafe rfl)).1⟩

/-- No MDL can be allocated. -/
def noMdl : Outcomes := { Outcomes.good with allocMdl := false }

/-- A second `Init` loses parts of the first. An `InitExt` without an MDL fails, but leaves a user's
address in a segment that has no lock. -/
theorem not_sound : (∃ s, life.Reach new s ∧ ¬ s.Sound) ∧
    (new.initExt noMdl 4096 0x1000).2 = false ∧
      (new.initExt noMdl 4096 0x1000).1.getVirtualAddress = .user 0x1000 ∧
        (new.initExt noMdl 4096 0x1000).1.has .lock = false ∧
          ¬ (new.initExt noMdl 4096 0x1000).1.Closed := by
  refine ⟨?_, rfl, rfl, rfl, fun hclosed => absurd hclosed.vAddr (by decide)⟩
  have htidy : (new.init .good 4096).1.Tidy := tidy_new.init rfl (.inr rfl)
  obtain ⟨k, hlost⟩ := htidy.init_lost (o := .good) 4096 (.inl rfl)
  refine ⟨((new.init .good 4096).1.init .good 4096).1, ?_, fun hsound => ?_⟩
  · have hrun : life.run new [.init .good 4096, .init .good 4096] =
        some ((new.init .good 4096).1.init .good 4096).1 := rfl
    exact System.ReachUnder.run .refl (fun _ _ _ => trivial) hrun
  · exact hlost.not_owned hsound.owned

end VioGpuMemSegment

end VirtDisplay
