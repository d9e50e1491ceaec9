/-
# Setting up one queue

A queue needs memory for its ring and for the driver's own records. If there is not enough
contiguous memory for all of its entries, half of them are tried, and so on. Then the device is
told where the ring is, a notification address is found, an interrupt is assigned and the queue
is enabled.

Whatever fails, what was allocated by then is given back, and nothing is changed that belongs to
another queue. The setup always comes to an end, with one exception: when a page is refused for
a ring of one entry and granted for a ring of none, the loop that sets up the ring runs away.
-/

import VirtDisplay.Foundation.Attempts
import VirtDisplay.Virtio.Transport

namespace VirtDisplay.Virtio

theorem le_roundUp {align : Nat} (h : 0 < align) (n : Nat) : n ≤ roundUp align n := by
  have hmod := Nat.mod_lt (n + align - 1) h
  have hdiv := Nat.div_add_mod (n + align - 1) align
  rw [Nat.mul_comm] at hdiv
  unfold roundUp
  omega

/-- How long the available ring is, or what a packed ring has in its place. -/
def availLength (packed : Bool) (num : Nat) : Nat := if packed then 4 else 6 + 2 * num

/-- How long the used ring is, or what a packed ring has in its place. -/
def usedLength (packed : Bool) (num : Nat) : Nat := if packed then 4 else 6 + 8 * num

/-- The three areas of a queue lie in a piece of memory, one behind the other. -/
structure QueueRegs.Within (regs : QueueRegs) (packed : Bool) (page : Nat × Nat) : Prop where
  desc : regs.desc.block = page.1
  avail : regs.avail.block = page.1
  used : regs.used.block = page.1
  desc_le : regs.desc.offset + 16 * regs.size ≤ regs.avail.offset
  avail_le : regs.avail.offset + availLength packed regs.size ≤ regs.used.offset
  used_le : regs.used.offset + usedLength packed regs.size ≤ page.2

/-- The registers of a queue, as the driver has written them. -/
structure QueueRegs.Tells (regs : QueueRegs) (packed : Bool) (num queue : Nat) : Prop where
  size : regs.size = num
  desc : regs.desc = ⟨queue, 0⟩
  avail : regs.avail = ⟨queue, if packed then num * 16 else availOffset num⟩
  used : regs.used = ⟨queue, if packed then num * 16 + 4 else usedOffset num smpCacheBytes⟩

/-- Write the addresses of a ring. -/
def QueueRegs.tell (packed : Bool) (num queue : Nat) (regs : QueueRegs) : QueueRegs :=
  { regs with
    size := num
    desc := ⟨queue, 0⟩
    avail := ⟨queue, if packed then num * 16 else availOffset num⟩
    used := ⟨queue, if packed then num * 16 + 4 else usedOffset num smpCacheBytes⟩ }

theorem QueueRegs.Tells.within {regs : QueueRegs} {packed : Bool} {num queue : Nat}
    (h : regs.Tells packed num queue) : regs.Within packed (queue, vringPciSize num packed) := by
  have hpage : vringSize num smpCacheBytes packed ≤ vringPciSize num packed :=
    le_roundUp (by decide) _
  refine ⟨by rw [h.desc], by rw [h.avail], by rw [h.used], ?_, ?_, ?_⟩
  all_goals rw [h.size]
  · rw [h.desc, h.avail]
    cases packed <;> simp [availOffset, Nat.mul_comm]
  · rw [h.avail, h.used]
    cases packed with
    | true => simp [availLength]
    | false =>
        have hround := le_roundUp (show 0 < smpCacheBytes by decide)
          (availOffset num + (4 + 2 * num) + 2)
        simp only [availLength, usedOffset, Bool.false_eq_true, if_false]
        omega
  · rw [h.used]
    cases packed with
    | true =>
        simp only [vringSize, vringSizePacked, if_true] at hpage
        simp only [usedLength, if_true]
        omega
    | false =>
        have harea : 16 * num + 2 * (3 + num) = availOffset num + (4 + 2 * num) + 2 := by
          unfold availOffset
          omega
        simp only [vringSize, vringSizeSplit, harea, Bool.false_eq_true, if_false] at hpage
        simp only [usedLength, usedOffset, Bool.false_eq_true, if_false]
        omega

/-- There was no page for a ring, and when it was asked for again there was one. -/
def Env.Wavers (e : Env) : Prop :=
  ∃ t, e.grants t pageSize = false ∧ e.grants (t + 1) pageSize = true

namespace Transport

variable {e : Env} {s s' s'' : Transport} {packed : Bool} {num index queue size vector : Nat}
variable {rest : List (Nat × Nat)}

/-- Only memory and what is known and told about one queue may have changed. -/
structure Touches (index : Nat) (s s' : Transport) : Prop where
  time : s.time ≤ s'.time
  status : s'.cfg.status = s.cfg.status
  regs : ∀ i ≠ index, s'.cfg.queues i = s.cfg.queues i
  vdev : s'.vdev = { s.vdev with infos := s'.vdev.infos }
  infos : ∀ i ≠ index, s'.vdev.infos i = s.vdev.infos i
  hardwareInit : s'.hardwareInit = s.hardwareInit

namespace Touches

theorem refl (index : Nat) (s : Transport) : Touches index s s :=
  ⟨le_rfl, rfl, fun _ _ => rfl, rfl, fun _ _ => rfl, rfl⟩

theorem trans (h : Touches index s s') (h' : Touches index s' s'') : Touches index s s'' where
  time := h.time.trans h'.time
  status := h'.status.trans h.status
  regs i hi := (h'.regs i hi).trans (h.regs i hi)
  vdev := by rw [h'.vdev, h.vdev]
  infos i hi := (h'.infos i hi).trans (h.infos i hi)
  hardwareInit := h'.hardwareInit.trans h.hardwareInit

theorem packedRing (h : Touches index s s') : s'.vdev.packedRing = s.vdev.packedRing := by
  rw [h.vdev]

end Touches

/-- Time passes, a queue is selected, memory is allocated or freed. -/
theorem touches_memory {t sel : Nat} {blocks : List Nat} {pages : List (Nat × Nat)}
    (h : s.time ≤ t) :
    Touches index s { s with time := t, blocks := blocks, pages := pages, cfg.select := sel } where
  time := h
  status := rfl
  regs _ _ := rfl
  vdev := rfl
  infos _ _ := rfl
  hardwareInit := rfl

/-- Besides that, memory is as it was, and of the queue itself only its vector may differ. -/
structure Aside (index : Nat) (s s' : Transport) : Prop extends Touches index s s' where
  select : s'.cfg.select = index
  blocks : s'.blocks = s.blocks
  pages : s'.pages = s.pages
  info : s'.vdev.infos index = s.vdev.infos index
  vector : ∃ v, s'.cfg.queues index = { s.cfg.queues index with vector := v }

theorem Aside.trans (h : Aside index s s') (h' : Aside index s' s'') : Aside index s s'' where
  toTouches := h.toTouches.trans h'.toTouches
  select := h'.select
  blocks := h'.blocks.trans h.blocks
  pages := h'.pages.trans h.pages
  info := h'.info.trans h.info
  vector := by
    obtain ⟨_, hv⟩ := h.vector
    obtain ⟨v, hv'⟩ := h'.vector
    exact ⟨v, by rw [hv', hv]⟩

theorem Aside.infos_eq (h : Aside index s s') : s'.vdev.infos = s.vdev.infos := by
  funext i
  by_cases hi : i = index
  · rw [hi, h.info]
  · exact h.infos i hi

theorem aside_tick (hselect : s.cfg.select = index) : Aside index s s.tick where
  toTouches := touches_memory (Nat.le_succ _)
  select := hselect
  blocks := rfl
  pages := rfl
  info := rfl
  vector := ⟨_, rfl⟩

theorem aside_mapNotify (off : Nat) (hselect : s.cfg.select = index) :
    Aside index s (s.mapNotify e off).2 := by
  unfold mapNotify
  split
  next => exact ⟨.refl index s, hselect, rfl, rfl, rfl, _, rfl⟩
  next => exact aside_tick hselect

theorem aside_assignVector (vector : Nat) (hindex : index < 2 ^ 16)
    (hselect : s.cfg.select = index) :
    Aside index s (s.assignVector e index vector).2 := by
  unfold assignVector
  split
  next =>
    have hmod : index % 2 ^ 16 = index := Nat.mod_eq_of_lt hindex
    refine ⟨⟨Nat.le_succ _, rfl, fun i hi => ?_, rfl, fun _ _ => rfl, rfl⟩, hmod, rfl, rfl, rfl,
      vector, ?_⟩
    · exact Function.update_of_ne (fun h => hi (h.trans hmod)) _ _
    · simp only [ioread16, iowriteQueue, selectQueue, tick, hmod, Function.update_self]
  next => exact ⟨.refl index s, hselect, rfl, rfl, rfl, _, rfl⟩

theorem freeQueue_pages (hpages : s.pages = (queue, size) :: rest) :
    s.freeQueue none (some queue) = some { s with pages := rest } := by
  simp [freeQueue, freeNonpagedBlock, freeContiguousPages, hpages]

theorem freeQueue_newest {vq : Nat} {blocks : List Nat} (hblocks : s.blocks = vq :: blocks)
    (hpages : s.pages = (queue, size) :: rest) :
    s.freeQueue (some vq) (some queue) = some { s with blocks := blocks, pages := rest } := by
  simp [freeQueue, freeNonpagedBlock, freeContiguousPages, hblocks, hpages]

/-- How a search for the pages of a ring ends. -/
inductive Searched (e : Env) (packed : Bool) (num : Nat) (s : Transport) :
    Option Nat × Nat × Transport → Prop
  | refused {t num' : Nat} (later : s.time ≤ t) :
      Searched e packed num s (none, num', { s with time := t })
  | granted {t num' : Nat} (later : s.time ≤ t) (le : num' ≤ num)
      (entries : num' = 0 → num = 0 ∧ e.grants s.time pageSize = true ∨ e.Wavers) :
      Searched e packed num s (some t, num', { s with
        time := t + 1
        pages := (t, vringPciSize num' packed) :: s.pages })

theorem vringPciSize_zero (packed : Bool) : vringPciSize 0 packed = pageSize := by
  cases packed <;> rfl

theorem vringPciSize_one (packed : Bool) : vringPciSize 1 packed = pageSize := by
  cases packed <;> rfl

/-- The search for a ring ends, and without an entry only if the last page was refused at first. -/
theorem allocRing_searched {blame : Prop} {fuel : Nat} (hfuel : num < fuel) :
    Attempt blame (Searched e packed num s) (allocRing e packed fuel num s) := by
  induction fuel generalizing num s with
  | zero => exact absurd hfuel (Nat.not_lt_zero num)
  | succ fuel ih =>
      unfold allocRing allocContiguousPages
      by_cases hgrants : e.grants s.time (vringPciSize num packed) = true
      · rw [if_pos hgrants]
        refine .done (.granted le_rfl le_rfl fun hzero => .inl ⟨hzero, ?_⟩)
        rw [← hgrants, hzero, vringPciSize_zero]
      · rw [if_neg hgrants]
        dsimp only
        split
        next hpos =>
          have hless : num / 2 < num := Nat.div_lt_self hpos Nat.one_lt_two
          refine (ih (s := s.tick) (Nat.lt_of_lt_of_le hless (Nat.lt_succ_iff.mp hfuel))).mono ?_
          rintro _ (⟨later⟩ | ⟨later, le, entries⟩)
          · exact .refused (Nat.le_of_succ_le later)
          · refine .granted (Nat.le_of_succ_le later) (le.trans hless.le) fun hzero => .inr ?_
            obtain ⟨hhalf, hlast⟩ | hwavers := entries hzero
            · have hone : num = 1 := by omega
              rw [hone, vringPciSize_one, Bool.not_eq_true] at hgrants
              exact ⟨s.time, hgrants, hlast⟩
            · exact hwavers
        next => exact .done (.refused (Nat.le_succ _))

theorem newVirtqueue_attempt {blame : Prop} (hnum : num < 2 ^ 16) (hzero : num = 0 → blame) :
    Attempt blame (fun _ => True) (newVirtqueue packed num) := by
  unfold newVirtqueue
  split
  next =>
    split
    next h => exact .lost (hzero h)
    next => exact .done trivial
  next =>
    apply Attempt.map
    unfold SplitRing.vringNewVirtqueueSplit
    split
    next => exact .done trivial
    next =>
      split
      next h => exact .lost (hzero (h.resolve_right (Nat.not_lt.mpr hnum.le)))
      next => exact .done trivial

theorem touches_iowriteQueue (hselect : s.cfg.select = index) (write : QueueRegs → QueueRegs) :
    Touches index s (s.iowriteQueue write) where
  time := le_rfl
  status := rfl
  regs _ hi := Function.update_of_ne (fun h => hi (h.trans hselect)) _ _
  vdev := rfl
  infos _ _ := rfl
  hardwareInit := rfl

theorem iowriteQueue_self (hselect : s.cfg.select = index) (write : QueueRegs → QueueRegs) :
    (s.iowriteQueue write).cfg.queues index = write (s.cfg.queues index) := by
  subst hselect
  exact Function.update_self ..

theorem activateQueue_eq :
    s.activateQueue num queue = s.iowriteQueue (.tell s.vdev.packedRing num queue) := by
  unfold activateQueue
  cases s.vdev.packedRing <;> rfl

/-- How the setup of a queue ends, once there are pages for its ring. -/
inductive RingSet (index num queue : Nat) (rest : List (Nat × Nat)) (s : Transport) :
    Except SetupStatus Nat × Transport → Prop
  | refused {status : SetupStatus} {s' : Transport} (fails : status ≠ .success)
      (touches : Touches index s s') (infos : s'.vdev.infos = s.vdev.infos)
      (blocks : s'.blocks = s.blocks) (pages : s'.pages = rest) :
      RingSet index num queue rest s (.error status, s')
  | done {vq : Nat} {s' : Transport} (touches : Touches index s s')
      (infos : s'.vdev.infos = s.vdev.infos) (blocks : s'.blocks = vq :: s.blocks)
      (pages : s'.pages = s.pages)
      (tells : (s'.cfg.queues index).Tells s.vdev.packedRing num queue)
      (enable : (s'.cfg.queues index).enable = true)
      (created : newVirtqueue s.vdev.packedRing num = some true) :
      RingSet index num queue rest s (.ok vq, s')

/-- A queue that is being set up has its memory. -/
structure Placed (index vq queue size : Nat) (rest : List (Nat × Nat)) (s s' : Transport) :
    Prop extends Touches index s s' where
  select : s'.cfg.select = index
  known : s'.vdev.infos = s.vdev.infos
  blocks : s'.blocks = vq :: s.blocks
  pages : s'.pages = (queue, size) :: rest

namespace Placed

variable {vq : Nat}

theorem aside (h : Placed index vq queue size rest s s') (haside : Aside index s' s'') :
    Placed index vq queue size rest s s'' where
  toTouches := h.toTouches.trans haside.toTouches
  select := haside.select
  known := haside.infos_eq.trans h.known
  blocks := haside.blocks.trans h.blocks
  pages := haside.pages.trans h.pages

theorem write (h : Placed index vq queue size rest s s') (write : QueueRegs → QueueRegs) :
    Placed index vq queue size rest s (s'.iowriteQueue write) :=
  ⟨h.toTouches.trans (touches_iowriteQueue h.select write), h.select, h.known, h.blocks, h.pages⟩

/-- What was allocated for a queue is given back if its setup fails. -/
theorem giveBack (h : Placed index vq queue size rest s s') {status : SetupStatus}
    (hfails : status ≠ .success) : Attempt e.Wavers (RingSet index num queue rest s) (do
      let s ← s'.freeQueue (some vq) (some queue)
      pure (.error status, s)) := by
  rw [freeQueue_newest h.blocks h.pages]
  exact .done (.refused hfails (h.toTouches.trans (touches_memory le_rfl)) h.known rfl rfl)

end Placed

theorem setupRing_set (off : Nat) (hindex : index < 2 ^ 16) (hselect : s.cfg.select = index)
    (hpages : s.pages = (queue, size) :: rest) (hnum : num < 2 ^ 16)
    (hzero : num = 0 → e.Wavers) :
    Attempt e.Wavers (RingSet index num queue rest s)
      (s.setupRing e index off vector num queue) := by
  unfold setupRing allocNonpagedBlock
  by_cases hgrants : e.grants s.time 0 = true
  · rw [if_pos hgrants]
    have hplaced : Placed index s.time queue size rest s
        { s.tick with blocks := s.time :: s.blocks } :=
      ⟨touches_memory (Nat.le_succ _), hselect, rfl, rfl, hpages⟩
    dsimp only
    generalize { s.tick with blocks := s.time :: s.blocks } = s₁ at hplaced ⊢
    refine (newVirtqueue_attempt hnum hzero).self.bind ?_
    intro created hcreated
    cases created with
    | false =>
        rw [if_pos Bool.false_ne_true]
        exact hplaced.giveBack nofun
    | true =>
        rw [if_neg (not_not.mpr rfl), activateQueue_eq]
        have hwritten := iowriteQueue_self hplaced.select (.tell s₁.vdev.packedRing num queue)
        have hplaced₂ := hplaced.write (.tell s₁.vdev.packedRing num queue)
        generalize s₁.iowriteQueue (.tell s₁.vdev.packedRing num queue) = s₂
          at hwritten hplaced₂ ⊢
        have hmapped := aside_mapNotify (e := e) off hplaced₂.select
        generalize s₂.mapNotify e off = mapped at hmapped ⊢
        obtain ⟨status, s₃⟩ := mapped
        dsimp only at hmapped ⊢
        by_cases hstatus : status ≠ .success
        · rw [if_pos hstatus]
          exact (hplaced₂.aside hmapped).giveBack hstatus
        · rw [if_neg hstatus]
          have hassigned := aside_assignVector (e := e) vector hindex hmapped.select
          generalize s₃.assignVector e index vector = assigned at hassigned ⊢
          obtain ⟨status', s₄⟩ := assigned
          dsimp only at hassigned ⊢
          by_cases hstatus' : status' ≠ .success
          · rw [if_pos hstatus']
            exact ((hplaced₂.aside hmapped).aside hassigned).giveBack hstatus'
          · rw [if_neg hstatus']
            have hplaced₄ := (hplaced₂.aside hmapped).aside hassigned
            have hdone := hplaced₄.write fun regs => { regs with enable := true }
            have hregs := iowriteQueue_self hplaced₄.select fun regs => { regs with enable := true }
            obtain ⟨v, hv⟩ := (hmapped.trans hassigned).vector
            have hpacked := hplaced.packedRing
            refine .done (.done hdone.toTouches hdone.known hdone.blocks
              (hdone.pages.trans hpages.symm) ?_ ?_ (hpacked ▸ hcreated))
            · rw [hregs, hv, hwritten, hpacked]
              exact ⟨rfl, rfl, rfl, rfl⟩
            · rw [hregs]
  · rw [if_neg hgrants]
    dsimp only
    rw [freeQueue_pages (s := s.tick) hpages]
    exact .done (.refused nofun (touches_memory (Nat.le_succ _)) rfl rfl rfl)

theorem touches_setInfo (info : VirtIOQueueInfo) : Touches index s (s.setInfo index info) where
  time := le_rfl
  status := rfl
  regs _ _ := rfl
  vdev := rfl
  infos _ hi := Function.update_of_ne hi _ _
  hardwareInit := rfl

theorem setInfo_self (s : Transport) (index : Nat) (info : VirtIOQueueInfo) :
    (s.setInfo index info).vdev.infos index = info := Function.update_self ..

/-- How the search for a queue and its size ends. -/
inductive Queried (index : Nat) (s : Transport) : Except SetupStatus Nat × Transport → Prop
  | refused {status : SetupStatus} {t sel : Nat} (fails : status ≠ .success)
      (later : s.time ≤ t) :
      Queried index s (.error status, { s with time := t, cfg.select := sel })
  | granted {num t : Nat} (later : s.time ≤ t) (pos : num ≠ 0) (lt : num < 2 ^ 16) :
      Queried index s (.ok num, { s with time := t, cfg.select := index })

theorem queryVqAlloc_queried (hindex : index < 2 ^ 16) :
    Queried index s (s.queryVqAlloc e index) := by
  unfold queryVqAlloc ioread16 selectQueue tick
  rw [Nat.mod_eq_of_lt hindex]
  dsimp only
  split
  next => exact .refused nofun (Nat.le_succ _)
  next =>
    split
    next => exact .refused nofun (Nat.le_add_right _ 2)
    next hnum =>
      split
      next => exact .refused nofun (Nat.le_add_right _ 2)
      next =>
        exact .granted (Nat.le_add_right _ 2) hnum (Nat.mod_lt _ (Nat.two_pow_pos 16))

/-- How the setup of a queue ends. -/
inductive VqSet (index : Nat) (s : Transport) : Except SetupStatus Nat × Transport → Prop
  | refused {status : SetupStatus} {s' : Transport} (fails : status ≠ .success)
      (touches : Touches index s s') (vq : (s'.vdev.infos index).vq = (s.vdev.infos index).vq)
      (blocks : s'.blocks = s.blocks) (pages : s'.pages = s.pages) :
      VqSet index s (.error status, s')
  | done {vq num queue : Nat} {s' : Transport} (touches : Touches index s s')
      (info : s'.vdev.infos index = { s.vdev.infos index with num := num, queue := some queue })
      (blocks : s'.blocks = vq :: s.blocks)
      (pages : s'.pages = (queue, vringPciSize num s.vdev.packedRing) :: s.pages)
      (later : s.time ≤ queue) (before : queue < s'.time)
      (tells : (s'.cfg.queues index).Tells s.vdev.packedRing num queue)
      (enable : (s'.cfg.queues index).enable = true)
      (created : newVirtqueue s.vdev.packedRing num = some true) (num_lt : num < 2 ^ 16) :
      VqSet index s (.ok vq, s')

theorem setupVq_set (vector : Nat) (hindex : index < 2 ^ 16) :
    Attempt e.Wavers (VqSet index s) (s.setupVq e index vector) := by
  unfold setupVq
  have hqueried := queryVqAlloc_queried (e := e) (s := s) hindex
  generalize s.queryVqAlloc e index = queried at hqueried ⊢
  cases hqueried with
  | refused fails later =>
      exact .done (.refused fails (touches_memory later) rfl rfl rfl)
  | @granted num t later pos lt =>
      dsimp only [ioread16]
      refine (allocRing_searched (Nat.lt_succ_self num)).bind ?_
      rintro _ (⟨later'⟩ | @⟨queue, num', later', le, entries⟩)
      · have hlater := (later.trans (Nat.le_succ t)).trans later'
        refine .done (.refused nofun ((touches_memory hlater).trans (touches_setInfo _)) ?_ rfl rfl)
        dsimp only
        rw [setInfo_self]
        rfl
      · have hlater := (later.trans (Nat.le_succ t)).trans later'
        have hfound : Touches index s { s with
            time := queue + 1
            pages := (queue, vringPciSize num' s.vdev.packedRing) :: s.pages
            cfg.select := index } := touches_memory (hlater.trans (Nat.le_succ queue))
        have hzero : num' = 0 → e.Wavers := fun h => (entries h).resolve_left fun h' => pos h'.1
        refine (setupRing_set _ hindex rfl rfl (Nat.lt_of_le_of_lt le lt) hzero).mono ?_
        rintro _ (⟨fails, touches, infos, blocks, pages⟩ |
          ⟨touches, infos, blocks, pages, tells, enable, created⟩)
        · refine .refused fails ((hfound.trans (touches_setInfo _)).trans touches) ?_ blocks pages
          rw [infos, setInfo_self]
          rfl
        · refine .done ((hfound.trans (touches_setInfo _)).trans touches) ?_ blocks pages hlater
            touches.time tells enable created (Nat.lt_of_le_of_lt le lt)
          rw [infos, setInfo_self]
          rfl

end Transport

end VirtDisplay.Virtio
