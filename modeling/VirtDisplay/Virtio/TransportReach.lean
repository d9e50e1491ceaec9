/-
# What the device may reach

The driver gives the device the addresses of rings, and lets it use them from one write to its
status on until it is reset. Meanwhile the memory behind these addresses has to stay allocated,
and once the queues are gone nothing may be left of it.

Between two calls the device is at rest and nothing is allocated, or it runs with all of its
queues. An attempt to set up the queues that fails half way leads back to the first, and so does
closing the device. In the middle of a call the device may run as well: while it is being closed
it uses its queues until it has reset itself, so that nothing of them may be freed before.

The driver gives up the wait for a reset when the device seems to be gone. Then it depends on the
device alone whether it has stopped.
-/

import VirtDisplay.Virtio.QueueSetup

namespace VirtDisplay.Virtio

/-- The memory of a queue that is set up. -/
structure Place where
  vq : Nat
  queue : Nat
  num : Nat

namespace Place

/-- The pages of its ring. -/
def page (packed : Bool) (p : Place) : Nat × Nat := (p.queue, vringPciSize p.num packed)

/-- What the driver knows about the queue. -/
def info (p : Place) : VirtIOQueueInfo := ⟨some p.vq, p.num, some p.queue⟩

/-- The device has been told of it, and the driver has a ring of that size. -/
structure Told (packed : Bool) (p : Place) (regs : QueueRegs) : Prop where
  tells : regs.Tells packed p.num p.queue
  enable : regs.enable = true
  created : newVirtqueue packed p.num = some true
  num_lt : p.num < 2 ^ 16

end Place

namespace Transport

variable {e : Env} {s s' : Transport} {p : Place} {places : List Place} {first index nvqs : Nat}

/-- The queues from `first` on that are set up have these places, and nothing else has memory. -/
structure Stocked (places : List Place) (first : Nat) (s : Transport) : Prop where
  inline : s.vdev.info = .inline
  max : s.vdev.maxQueues = maxQueuesDefault
  infos : ∀ k (h : k < places.length), s.vdev.infos (first + k) = places[k].info
  unused : ∀ i, i < first ∨ first + places.length ≤ i → (s.vdev.infos i).vq = none
  blocks : s.blocks.Perm (places.map Place.vq)
  pages : s.pages.Perm (places.map (Place.page s.vdev.packedRing))
  fresh : (s.time :: s.pages.map Prod.fst).Pairwise (· > ·)

theorem Stocked.congr (h : Stocked places first s) (hvdev : s'.vdev = s.vdev)
    (hblocks : s'.blocks = s.blocks) (hpages : s'.pages = s.pages) (htime : s'.time = s.time) :
    Stocked places first s' where
  inline := hvdev ▸ h.inline
  max := hvdev ▸ h.max
  infos k hk := hvdev ▸ h.infos k hk
  unused i hi := hvdev ▸ h.unused i hi
  blocks := hblocks ▸ h.blocks
  pages := hvdev ▸ hpages ▸ h.pages
  fresh := hpages ▸ htime ▸ h.fresh

variable (s) in
/-- The device may use its queues. -/
def isReady : Bool := s.cfg.status.getLsbD 2

/-- What is not about the first `high` queues is as it was. -/
structure Calm (high : Nat) (s s' : Transport) : Prop where
  ready : s'.isReady = s.isReady
  enable : ∀ i, high ≤ i → (s'.cfg.queues i).enable = (s.cfg.queues i).enable
  hardwareInit : s'.hardwareInit = s.hardwareInit

theorem Calm.refl (high : Nat) (s : Transport) : Calm high s s := ⟨rfl, fun _ _ => rfl, rfl⟩

theorem Calm.trans {s'' : Transport} {high : Nat} (h : Calm high s s') (h' : Calm high s' s'') :
    Calm high s s'' where
  ready := h'.ready.trans h.ready
  enable i hi := (h'.enable i hi).trans (h.enable i hi)
  hardwareInit := h'.hardwareInit.trans h.hardwareInit

theorem Touches.calm {high : Nat} (h : Touches index s s') (hlt : index < high) :
    Calm high s s' where
  ready := congrArg (BitVec.getLsbD · 2) h.status
  enable i hi := by rw [h.regs i (Nat.ne_of_gt (Nat.lt_of_lt_of_le hlt hi))]
  hardwareInit := h.hardwareInit

theorem Calm.mono {low high : Nat} (h : Calm low s s') (hle : low ≤ high) : Calm high s s' :=
  ⟨h.ready, fun i hi => h.enable i (hle.trans hi), h.hardwareInit⟩

/-- Freeing the memory of a queue leaves that of the others. -/
theorem freeQueue_perm {vq queue size : Nat} {blocks : List Nat} {pages : List (Nat × Nat)}
    (hblocks : s.blocks.Perm (vq :: blocks)) (hpages : s.pages.Perm ((queue, size) :: pages))
    (hfresh : (s.pages.map Prod.fst).Pairwise (· > ·)) :
    ∃ blocks' pages', s.freeQueue (some vq) (some queue) =
        some { s with blocks := blocks', pages := pages' } ∧
      blocks'.Perm blocks ∧ pages'.Perm pages ∧ pages'.Sublist s.pages := by
  have hvq : vq ∈ s.blocks := hblocks.mem_iff.mpr List.mem_cons_self
  have hqueue : (s.pages.any fun page => page.1 == queue) = true :=
    List.any_eq_true.mpr ⟨_, hpages.mem_iff.mpr List.mem_cons_self, beq_self_eq_true queue⟩
  refine ⟨s.blocks.erase vq, s.pages.eraseP fun page => page.1 == queue, ?_, ?_, ?_,
    List.eraseP_sublist⟩
  · simp [freeQueue, freeNonpagedBlock, freeContiguousPages, hvq, hqueue]
  · exact (hblocks.erase vq).trans (.of_eq (List.erase_cons_head ..))
  · refine (hpages.eraseP _ ?_).trans (.of_eq (List.eraseP_cons_of_pos (beq_self_eq_true queue)))
    refine (List.pairwise_map.mp hfresh).imp fun hgt ha hb => ?_
    rw [beq_iff_eq] at ha hb
    omega

/-- Before a queue is deleted its vector is taken away. -/
theorem calm_unassign (index : Nat) (s : Transport) :
    Calm 0 s ((s.selectQueue index).iowriteQueue fun regs => { regs with
      vector := msiNoVector }) where
  ready := rfl
  enable i _ := by
    by_cases hi : i = (s.selectQueue index).cfg.select
    · subst hi
      rw [iowriteQueue_self rfl]
      rfl
    · exact congrArg QueueRegs.enable (Function.update_of_ne hi _ _)
  hardwareInit := rfl

/-- What is said of the next queue is taken back with its memory. -/
theorem Stocked.drop {blocks : List Nat} {pages : List (Nat × Nat)}
    (h : Stocked (p :: places) index s) (hblocks : blocks.Perm (places.map Place.vq))
    (hpages : pages.Perm (places.map (Place.page s.vdev.packedRing)))
    (hsub : pages.Sublist s.pages) :
    Stocked places (index + 1)
      ({ s with blocks := blocks, pages := pages }.setInfo index { p.info with vq := none }) := by
  have hself := setInfo_self { s with blocks := blocks, pages := pages } index
    { p.info with vq := none }
  have hother : ∀ i ≠ index, ({ s with blocks := blocks, pages := pages }.setInfo index
      { p.info with vq := none }).vdev.infos i = s.vdev.infos i := fun i hi =>
    Function.update_of_ne hi _ _
  refine ⟨h.inline, h.max, fun k hk => ?_, fun i hi => ?_, hblocks, hpages, ?_⟩
  · rw [hother _ (by omega), Nat.add_right_comm]
    exact h.infos (k + 1) (Nat.succ_lt_succ hk)
  · by_cases hi' : i = index
    · rw [hi', hself]
    · rw [hother i hi']
      refine h.unused i ?_
      rw [List.length_cons]
      omega
  · exact h.fresh.sublist ((hsub.map Prod.fst).cons_cons _)

/-- The next queue is deleted. -/
theorem Stocked.delVq (h : Stocked (p :: places) index s) :
    ∃ s', s.delVq index = some s' ∧ Stocked places (index + 1) s' ∧ Calm 0 s s' := by
  obtain ⟨s₁, hs₁, hstocked, hcalm⟩ : ∃ s₁,
      (if (s.selectQueue index).vdev.msixUsed then
        (s.selectQueue index).iowriteQueue fun regs => { regs with vector := msiNoVector }
        else s.selectQueue index) = s₁ ∧ Stocked (p :: places) index s₁ ∧ Calm 0 s s₁ := by
    split
    next => exact ⟨_, rfl, h.congr rfl rfl rfl rfl, calm_unassign index s⟩
    next => exact ⟨_, rfl, h.congr rfl rfl rfl rfl, rfl, fun _ _ => rfl, rfl⟩
  have hinfo : s₁.vdev.infos index = p.info := hstocked.infos 0 (Nat.succ_pos _)
  obtain ⟨blocks, pages, hfree, hblocks, hpages, hsub⟩ :=
    freeQueue_perm hstocked.blocks hstocked.pages (List.pairwise_cons.mp hstocked.fresh).2
  refine ⟨{ s₁ with blocks := blocks, pages := pages }.setInfo index { p.info with vq := none },
    ?_, hstocked.drop hblocks hpages hsub, ⟨hcalm.ready, hcalm.enable, hcalm.hardwareInit⟩⟩
  unfold Transport.delVq
  dsimp only
  rw [hs₁, hinfo]
  show (s₁.freeQueue (some p.vq) (some p.queue)).bind _ = _
  rw [hfree, Option.bind_some, hinfo]
  rfl

/-- The first queues are set up, and the device has been told of them. -/
structure Ready (places : List Place) (s : Transport) : Prop where
  stocked : Stocked places 0 s
  told : ∀ k (h : k < places.length), places[k].Told s.vdev.packedRing (s.cfg.queues k)

theorem Ready.congr (h : Ready places s) (hvdev : s'.vdev = s.vdev)
    (hblocks : s'.blocks = s.blocks) (hpages : s'.pages = s.pages) (htime : s'.time = s.time)
    (hqueues : s'.cfg.queues = s.cfg.queues) : Ready places s' where
  stocked := h.stocked.congr hvdev hblocks hpages htime
  told k hk := hvdev ▸ hqueues ▸ h.told k hk

/-- How the setup of the next queue ends. -/
inductive NextSet (places : List Place) (s : Transport) : SetupStatus × Transport → Prop
  | refused {status : SetupStatus} {s' : Transport} (fails : status ≠ .success)
      (ready : Ready places s') (calm : Calm (places.length + 1) s s') :
      NextSet places s (status, s')
  | done {s' : Transport} (p : Place) (ready : Ready (places ++ [p]) s')
      (calm : Calm (places.length + 1) s s') : NextSet places s (.success, s')

theorem fresh_mono {t t' : Nat} {keys : List Nat} (h : (t :: keys).Pairwise (· > ·))
    (hle : t ≤ t') : (t' :: keys).Pairwise (· > ·) :=
  List.pairwise_cons.mpr ⟨fun key hkey =>
    Nat.lt_of_lt_of_le ((List.pairwise_cons.mp h).1 key hkey) hle, (List.pairwise_cons.mp h).2⟩

/-- A queue that could not be set up leaves those before it as they are. -/
theorem Ready.kept (h : Ready places s) (htouches : Touches places.length s s')
    (hvq : (s'.vdev.infos places.length).vq = (s.vdev.infos places.length).vq)
    (hblocks : s'.blocks = s.blocks) (hpages : s'.pages = s.pages) : Ready places s' where
  stocked := {
    inline := by
      rw [htouches.vdev]
      exact h.stocked.inline
    max := by
      rw [htouches.vdev]
      exact h.stocked.max
    infos := fun k hk => by
      rw [htouches.infos _ (by omega)]
      exact h.stocked.infos k hk
    unused := fun i hi => by
      by_cases hi' : i = places.length
      · subst hi'
        rw [hvq]
        exact h.stocked.unused _ hi
      · rw [htouches.infos i hi']
        exact h.stocked.unused i hi
    blocks := hblocks ▸ h.stocked.blocks
    pages := by
      rw [htouches.packedRing, hpages]
      exact h.stocked.pages
    fresh := by
      rw [hpages]
      exact fresh_mono h.stocked.fresh htouches.time }
  told k hk := by
    rw [htouches.packedRing, htouches.regs k (Nat.ne_of_lt hk)]
    exact h.told k hk

/-- One more queue is set up, in memory that is newer than all other. -/
theorem Ready.concat (h : Ready places s) (p : Place) (htouches : Touches places.length s s')
    (hinfo : s'.vdev.infos places.length = p.info) (hblocks : s'.blocks = p.vq :: s.blocks)
    (hpages : s'.pages = p.page s.vdev.packedRing :: s.pages) (hlater : s.time ≤ p.queue)
    (hbefore : p.queue < s'.time)
    (htold : p.Told s.vdev.packedRing (s'.cfg.queues places.length)) :
    Ready (places ++ [p]) s' where
  stocked := {
    inline := by
      rw [htouches.vdev]
      exact h.stocked.inline
    max := by
      rw [htouches.vdev]
      exact h.stocked.max
    infos := fun k hk => by
      rw [Nat.zero_add]
      by_cases hk' : k < places.length
      · rw [htouches.infos k (Nat.ne_of_lt hk'), List.getElem_append_left hk']
        exact (congrArg s.vdev.infos (Nat.zero_add k)).symm.trans (h.stocked.infos k hk')
      · rw [List.length_append, List.length_singleton] at hk
        obtain rfl : k = places.length := by omega
        rw [hinfo, List.getElem_concat_length rfl]
    unused := fun i hi => by
      rw [List.length_append, List.length_singleton] at hi
      rw [htouches.infos i (by omega)]
      exact h.stocked.unused i (by omega)
    blocks := by
      rw [hblocks, List.map_append]
      exact (h.stocked.blocks.cons p.vq).trans (List.perm_append_singleton ..).symm
    pages := by
      rw [htouches.packedRing, hpages, List.map_append]
      exact (h.stocked.pages.cons _).trans (List.perm_append_singleton ..).symm
    fresh := by
      rw [hpages, List.map_cons]
      refine List.pairwise_cons.mpr ⟨fun key hkey => ?_, fresh_mono h.stocked.fresh hlater⟩
      rcases List.mem_cons.mp hkey with rfl | hkey
      · exact hbefore
      · exact ((List.pairwise_cons.mp h.stocked.fresh).1 key hkey).trans_le htouches.time }
  told k hk := by
    rw [htouches.packedRing]
    by_cases hk' : k < places.length
    · rw [htouches.regs k (Nat.ne_of_lt hk'), List.getElem_append_left hk']
      exact h.told k hk'
    · rw [List.length_append, List.length_singleton] at hk
      obtain rfl : k = places.length := by omega
      rw [List.getElem_concat_length rfl]
      exact htold

theorem Ready.vpSetupVq (h : Ready places s) (vector : Nat) (hindex : places.length < 2 ^ 16) :
    Attempt e.Wavers (NextSet places s) (s.vpSetupVq e places.length vector) := by
  unfold Transport.vpSetupVq
  refine (setupVq_set vector hindex).bind ?_
  rintro _ (⟨fails, touches, hvq, hblocks, hpages⟩ |
    @⟨vq, num, queue, s', touches, hinfo, hblocks, hpages, later, before, tells, enable, created,
      num_lt⟩)
  · exact .done (.refused fails (h.kept touches hvq hblocks hpages)
      (touches.calm (Nat.lt_succ_self _)))
  · have hset := touches.trans (touches_setInfo { s'.vdev.infos places.length with vq := some vq })
    refine .done (.done ⟨vq, queue, num⟩ ?_ (hset.calm (Nat.lt_succ_self _)))
    refine h.concat _ hset ?_ hblocks hpages later before ⟨tells, enable, created, num_lt⟩
    rw [setInfo_self, hinfo]
    rfl

/-- How the setup of the next queues ends. -/
inductive Found (rounds : Nat) (places : List Place) (s : Transport) :
    SetupStatus → Transport → Prop
  | refused {status : SetupStatus} {places' : List Place} {s' : Transport}
      (fails : status ≠ .success) (length : places'.length ≤ places.length + rounds)
      (ready : Ready places' s') (calm : Calm (places.length + rounds) s s') :
      Found rounds places s status s'
  | done {places' : List Place} {s' : Transport} (length : places'.length = places.length + rounds)
      (ready : Ready places' s') (calm : Calm (places.length + rounds) s s') :
      Found rounds places s .success s'

/-- No queue is set up. -/
structure Blank (s : Transport) : Prop where
  inline : s.vdev.info = .inline
  max : s.vdev.maxQueues = maxQueuesDefault
  unused : ∀ i, (s.vdev.infos i).vq = none
  blocks : s.blocks = []
  pages : s.pages = []

theorem Blank.congr (h : Blank s) (hinfo : s'.vdev.info = s.vdev.info)
    (hmax : s'.vdev.maxQueues = s.vdev.maxQueues) (hinfos : s'.vdev.infos = s.vdev.infos)
    (hblocks : s'.blocks = s.blocks) (hpages : s'.pages = s.pages) : Blank s' where
  inline := hinfo.trans h.inline
  max := hmax.trans h.max
  unused i := hinfos ▸ h.unused i
  blocks := hblocks.trans h.blocks
  pages := hpages.trans h.pages

theorem Blank.ready (h : Blank s) : Ready [] s where
  stocked := {
    inline := h.inline, max := h.max, infos := nofun, unused := fun i _ => h.unused i
    blocks := .of_eq h.blocks, pages := .of_eq h.pages
    fresh := by
      rw [h.pages]
      exact List.pairwise_singleton .. }
  told := nofun

/-- Everything about the queues has been given back. -/
structure Emptied (s s' : Transport) : Prop where
  blocks : s'.blocks = []
  pages : s'.pages = []
  inline : s'.vdev.info = .inline
  calm : Calm 0 s s'

/-- How setting up all queues ends. -/
inductive QueuesFound (nvqs : Nat) (s : Transport) : SetupStatus → Transport → Prop
  | refused {status : SetupStatus} {s' : Transport} (fails : status ≠ .success)
      (blocks : s'.blocks = []) (pages : s'.pages = []) (calm : Calm nvqs s s') :
      QueuesFound nvqs s status s'
  | done {places : List Place} {s' : Transport} (length : places.length = nvqs)
      (ready : Ready places s') (calm : Calm nvqs s s') : QueuesFound nvqs s .success s'

theorem QueuesFound.calm {status : SetupStatus} (h : QueuesFound nvqs s status s') :
    Calm nvqs s s' := by
  cases h with
  | refused _ _ _ calm => exact calm
  | done _ _ calm => exact calm

theorem QueuesFound.after {s₁ : Transport} {status : SetupStatus}
    (h : QueuesFound nvqs s₁ status s') (hcalm : Calm nvqs s s₁) :
    QueuesFound nvqs s status s' := by
  cases h with
  | refused fails blocks pages calm => exact .refused fails blocks pages (hcalm.trans calm)
  | done length ready calm => exact .done length ready (hcalm.trans calm)

theorem isReady_addStatus {status : BitVec 8} (h : status.getLsbD 2 = false) :
    (s.addStatus status).isReady = s.isReady := by
  show (s.cfg.status ||| status).getLsbD 2 = _
  rw [BitVec.getLsbD_or, h, Bool.or_false]
  rfl

theorem Blank.ackFeatures (h : Blank s) (e : Env) (nvqs : Nat) :
    Blank (s.ackFeatures e).2 ∧ Calm nvqs s (s.ackFeatures e).2 := by
  unfold Transport.ackFeatures Transport.virtioSetFeatures
  dsimp only
  split
  next => exact ⟨h.congr rfl rfl rfl rfl rfl, rfl, fun _ _ => rfl, rfl⟩
  next =>
    split
    next => exact ⟨h.congr rfl rfl rfl rfl rfl, isReady_addStatus rfl, fun _ _ => rfl, rfl⟩
    next => exact ⟨h.congr rfl rfl rfl rfl rfl, rfl, fun _ _ => rfl, rfl⟩

/-- The queues that the device has enabled are those of the driver, and their areas lie in memory
that is allocated, one behind the other, with no piece of it for two queues. -/
structure Confined (nvqs : Nat) (s : Transport) : Prop where
  enabled : ∀ i, (s.cfg.queues i).enable = true ↔ i < nvqs
  within : ∀ i < nvqs, newVirtqueue s.vdev.packedRing (s.cfg.queues i).size = some true ∧
    ∃ page ∈ s.pages, (s.cfg.queues i).Within s.vdev.packedRing page
  apart : ∀ i < nvqs, ∀ j < nvqs,
    (s.cfg.queues i).desc.block = (s.cfg.queues j).desc.block → i = j

theorem Ready.confined (h : Ready places s)
    (hidle : ∀ i, places.length ≤ i → (s.cfg.queues i).enable = false) :
    Confined places.length s where
  enabled i := by
    refine ⟨fun henable => ?_, fun hi => (h.told i hi).enable⟩
    by_contra hi
    exact absurd ((hidle i (Nat.not_lt.mp hi)).symm.trans henable) nofun
  within i hi := by
    have htold := h.told i hi
    refine ⟨htold.tells.size.symm ▸ htold.created, _, ?_, htold.tells.within⟩
    exact h.stocked.pages.mem_iff.mpr (List.mem_map.mpr ⟨_, List.getElem_mem hi, rfl⟩)
  apart i hi j hj hblock := by
    have hkeys : (places.map Place.queue).Nodup := by
      have hperm := h.stocked.pages.map Prod.fst
      rw [List.map_map] at hperm
      exact hperm.nodup_iff.mp ((List.pairwise_cons.mp h.stocked.fresh).2.imp Nat.ne_of_gt)
    rw [(h.told i hi).tells.desc, (h.told j hj).tells.desc] at hblock
    have hi' : i < (places.map Place.queue).length := by rwa [List.length_map]
    have hj' : j < (places.map Place.queue).length := by rwa [List.length_map]
    have hsame : (places.map Place.queue)[i] = (places.map Place.queue)[j] := by
      rw [List.getElem_map, List.getElem_map]
      exact hblock
    exact hkeys.getElem_inj_iff.mp hsame

/-- The device does not show out of itself that it may use its queues, and has stopped if the
driver gives up waiting for its reset. -/
structure Honest (s : Transport) (read : ResetRead) : Prop where
  shown : read.status.getLsbD 2 = true → s.isReady = true
  stopped : read.readable = false → read.status.getLsbD 2 = false

variable {trusts : Prop}

/-- The device may not use its queues, if it is to be trusted. -/
def Quiet (trusts : Prop) (s : Transport) : Prop := trusts → s.isReady = false

theorem Quiet.shows (h : Quiet trusts s) : trusts → s.isReady = true → Confined nvqs s :=
  fun htrusts hready => absurd ((h htrusts).symm.trans hready) nofun

theorem Quiet.calm {high : Nat} (h : Quiet trusts s) (hcalm : Calm high s s') :
    Quiet trusts s' := fun htrusts => hcalm.ready.trans (h htrusts)

theorem Quiet.addStatus (h : Quiet trusts s) {status : BitVec 8}
    (hstatus : status.getLsbD 2 = false) : Quiet trusts (s.addStatus status) :=
  fun htrusts => (isReady_addStatus hstatus).trans (h htrusts)

/-- The device is not in use, and no queue but the first `nvqs` has ever been enabled. -/
structure Closed (trusts : Prop) (nvqs : Nat) (s : Transport) : Prop where
  off : s.hardwareInit = false
  blocks : s.blocks = []
  pages : s.pages = []
  quiet : Quiet trusts s
  idle : ∀ i, nvqs ≤ i → (s.cfg.queues i).enable = false

theorem Closed.congr (h : Closed trusts nvqs s) (hoff : s'.hardwareInit = s.hardwareInit)
    (hblocks : s'.blocks = s.blocks) (hpages : s'.pages = s.pages) (hquiet : Quiet trusts s')
    (hqueues : s'.cfg.queues = s.cfg.queues) : Closed trusts nvqs s' where
  off := hoff.trans h.off
  blocks := hblocks.trans h.blocks
  pages := hpages.trans h.pages
  quiet := hquiet
  idle i hi := hqueues ▸ h.idle i hi

/-- Between two calls the device is at rest, or it runs with all of its queues. -/
inductive Steady (trusts : Prop) (nvqs : Nat) (s : Transport) : Prop
  | rest (h : Closed trusts nvqs s)
  | running {places : List Place} (on : s.hardwareInit = true) (length : places.length = nvqs)
      (ready : Ready places s) (idle : ∀ i, nvqs ≤ i → (s.cfg.queues i).enable = false)

theorem Steady.shows (h : Steady trusts nvqs s) :
    trusts → s.isReady = true → Confined nvqs s := by
  cases h with
  | rest h => exact h.quiet.shows
  | running _ length ready idle =>
      subst length
      exact fun _ _ => ready.confined idle

end Transport

namespace Driver

open Transition Transport

variable {e : Env} {s : Transport} {p : Place} {places : List Place} {index nvqs : Nat}
variable {trusts : Prop}

/-- If the device is to be trusted, what it may use is confined, whenever it can be seen. -/
abbrev Keeps (trusts : Prop) (e : Env) (nvqs : Nat) {Value : Type}
    (post : Value → Transport → Prop) : Driver Value → Transport → Prop :=
  Program.Keeps (fun s read => trusts → Honest s read) e.Wavers
    (fun s => trusts → s.isReady = true → Confined nvqs s) post

/-- All queues that are set up are deleted. -/
theorem deleteFrom_keeps {rounds : Nat} (h : Stocked places index s) (hquiet : Quiet trusts s)
    (hlength : places.length ≤ rounds) :
    Keeps trusts e nvqs (fun _ => Emptied s) (deleteFrom rounds index) s := by
  induction rounds generalizing places index s with
  | zero =>
      obtain rfl := List.eq_nil_of_length_eq_zero (Nat.le_zero.mp hlength)
      exact .done hquiet.shows ⟨h.blocks.eq_nil, h.pages.eq_nil, h.inline, .refl 0 s⟩
  | succ rounds ih =>
      have hround : Attempt e.Wavers (fun r : Unit × Transport => ∃ places' : List Place,
          places'.length ≤ rounds ∧ Stocked places' (index + 1) r.2 ∧ Calm 0 s r.2)
          (if (s.vdev.infos index).vq.isSome then (s.delVq index).map ((), ·)
            else some ((), s)) := by
        cases places with
        | nil =>
            have hnone : (s.vdev.infos index).vq = none := h.unused index (.inr (Nat.le_refl _))
            have hskip : Stocked [] (index + 1) s := {
              inline := h.inline, max := h.max, infos := nofun
              unused := fun i _ => h.unused i (by rw [List.length_nil]; omega)
              blocks := h.blocks, pages := h.pages, fresh := h.fresh }
            rw [hnone]
            exact .done ⟨[], Nat.zero_le _, hskip, .refl 0 s⟩
        | cons p places =>
            have hsome : (s.vdev.infos index).vq = some p.vq :=
              congrArg VirtIOQueueInfo.vq (h.infos 0 (Nat.succ_pos _))
            obtain ⟨s₁, hdel, hstocked, hcalm⟩ := h.delVq
            rw [hsome, Option.isSome_some, if_pos rfl, hdel]
            exact .done ⟨places, Nat.le_of_succ_le_succ hlength, hstocked, hcalm⟩
      have hstep : Keeps trusts e nvqs (fun (_ : Unit) s₁ => ∃ places' : List Place,
          places'.length ≤ rounds ∧ Stocked places' (index + 1) s₁ ∧ Calm 0 s s₁)
          (Program.step fun s =>
            if (s.vdev.infos index).vq.isSome then (s.delVq index).map ((), ·)
            else some ((), s)) s := by
        refine .step hquiet.shows (fun _ s₁ h => ?_) hround
        obtain ⟨_, _, _, hcalm⟩ := h
        exact (hquiet.calm hcalm).shows
      refine hstep.bind ?_
      rintro - s₁ ⟨places', hlength', hstocked, hcalm⟩
      refine (ih hstocked (hquiet.calm hcalm) hlength').mono fun _ s' hemptied => ?_
      exact ⟨hemptied.blocks, hemptied.pages, hemptied.inline, hcalm.trans hemptied.calm⟩

theorem virtioDeleteQueues_keeps (h : Stocked places 0 s) (hquiet : Quiet trusts s)
    (hlength : places.length ≤ maxQueuesDefault) :
    Keeps trusts e nvqs (fun _ => Emptied s) virtioDeleteQueues s := by
  have hlook : Keeps trusts e nvqs (fun vdev s₁ => s.vdev = vdev ∧ s = s₁)
      (Program.gets Transport.vdev) s := .gets hquiet.shows ⟨rfl, rfl⟩
  refine hlook.bind ?_
  rintro _ _ ⟨rfl, rfl⟩
  rw [h.inline, h.max, if_neg nofun]
  exact deleteFrom_keeps h hquiet hlength

/-- The next queues are set up one after the other. -/
theorem findFrom_keeps (h : Ready places s) (hquiet : Quiet trusts s) (rounds : Nat)
    (hrounds : places.length + rounds ≤ 2 ^ 16) :
    Keeps trusts e nvqs (Found rounds places s) (findFrom e rounds places.length) s := by
  induction rounds generalizing places s with
  | zero => exact .done hquiet.shows (.done rfl h (.refl _ s))
  | succ rounds ih =>
      have hstep : Keeps trusts e nvqs (fun status s₁ => NextSet places s (status, s₁))
          (Program.step fun s => s.vpSetupVq e places.length (msixVector e places.length)) s := by
        refine .step hquiet.shows (fun status s₁ hset => ?_) (h.vpSetupVq _ (by omega))
        cases hset with
        | refused _ _ calm => exact (hquiet.calm calm).shows
        | done _ _ calm => exact (hquiet.calm calm).shows
      refine hstep.bind fun status s₁ hset => ?_
      cases hset with
      | refused fails ready calm =>
          rw [if_pos fails]
          exact .done (hquiet.calm calm).shows
            (.refused fails (Nat.le_add_right ..) ready (calm.mono (by omega)))
      | done p ready calm =>
          rw [if_neg (not_not.mpr rfl)]
          have hlength : (places ++ [p]).length = places.length + 1 := by simp
          have hrest := ih ready (hquiet.calm calm) (by omega)
          rw [hlength] at hrest
          refine hrest.mono fun _ _ hfound => ?_
          cases hfound with
          | refused fails length ready' calm' =>
              exact .refused fails (by omega) ready' ((calm.mono (by omega)).trans
                (calm'.mono (by omega)))
          | done length ready' calm' =>
              exact .done (by omega) ready' ((calm.mono (by omega)).trans (calm'.mono (by omega)))

/-- What was set up of the queues is deleted. -/
theorem giveUp_keeps {s' : Transport} {status : SetupStatus} (h : Stocked places 0 s')
    (hfails : status ≠ .success) (hlength : places.length ≤ maxQueuesDefault)
    (hquiet : Quiet trusts s') (hcalm : Calm nvqs s s') :
    Keeps trusts e nvqs (QueuesFound nvqs s) (do
      virtioDeleteQueues
      pure status) s' := by
  refine (virtioDeleteQueues_keeps h hquiet hlength).bind fun _ s'' hemptied => ?_
  exact .done (hquiet.calm hemptied.calm).shows (.refused hfails hemptied.blocks hemptied.pages
    (hcalm.trans (hemptied.calm.mono (Nat.zero_le _))))

theorem findReserved_keeps (h : Blank s) (hquiet : Quiet trusts s)
    (hmax : nvqs ≤ maxQueuesDefault) :
    Keeps trusts e nvqs (QueuesFound nvqs s) (findReserved e nvqs) s := by
  have hsmall : maxQueuesDefault ≤ 2 ^ 16 := by decide
  have hconfig : Keeps trusts e nvqs (fun _ s₁ => Blank s₁ ∧ Calm nvqs s s₁)
      (Program.step fun s => some (s.assignConfigVector e)) s :=
    .step hquiet.shows (fun _ _ h => (hquiet.calm h.2).shows)
      (.done ⟨h.congr rfl rfl rfl rfl rfl, rfl, fun _ _ => rfl, rfl⟩)
  refine hconfig.bind ?_
  rintro status s₁ ⟨hblank, hcalm⟩
  have hquiet₁ := hquiet.calm hcalm
  have hfound : Keeps trusts e nvqs (fun status s' => ∃ places, places.length ≤ nvqs ∧
      Ready places s' ∧ Calm nvqs s s' ∧ (status = .success → places.length = nvqs))
      (if status ≠ .success then pure status else findFrom e nvqs 0) s₁ := by
    by_cases hstatus : status ≠ .success
    · rw [if_pos hstatus]
      exact .done hquiet₁.shows ⟨[], Nat.zero_le _, hblank.ready, hcalm, fun h => absurd h hstatus⟩
    · rw [if_neg hstatus]
      refine (findFrom_keeps hblank.ready hquiet₁ nvqs (by rw [List.length_nil]; omega)).mono ?_
      rintro status s' (⟨fails, length, ready, calm⟩ | ⟨length, ready, calm⟩)
      all_goals rw [List.length_nil, Nat.zero_add] at length calm
      · exact ⟨_, length, ready, hcalm.trans calm, fun h => absurd h fails⟩
      · exact ⟨_, length.le, ready, hcalm.trans calm, fun _ => length⟩
  refine hfound.bind ?_
  rintro status' s' ⟨places, length, ready, calm, hall⟩
  by_cases hstatus : status' ≠ .success
  · rw [if_pos hstatus]
    exact giveUp_keeps ready.stocked hstatus (length.trans hmax) (hquiet.calm calm) calm
  · rw [if_neg hstatus]
    exact .done (hquiet.calm calm).shows (.done (hall (not_not.mp hstatus)) ready calm)

theorem virtioFindQueues_keeps (h : Blank s) (hquiet : Quiet trusts s)
    (hmax : nvqs ≤ maxQueuesDefault) :
    Keeps trusts e nvqs (QueuesFound nvqs s) (virtioFindQueues e nvqs) s := by
  have hreserve : s.reserveQueueMemory e nvqs = some (.success, s) :=
    if_neg (Nat.not_lt.mpr (h.max.symm ▸ hmax))
  have hstep : Keeps trusts e nvqs (fun status s₁ => .success = status ∧ s = s₁)
      (Program.step fun s => s.reserveQueueMemory e nvqs) s :=
    .step hquiet.shows (fun _ _ h => h.2 ▸ hquiet.shows) (.of_eq hreserve ⟨rfl, rfl⟩)
  refine hstep.bind ?_
  rintro _ _ ⟨rfl, rfl⟩
  rw [if_neg (not_not.mpr rfl)]
  exact findReserved_keeps h hquiet hmax

theorem negotiate_keeps (h : Blank s) (hquiet : Quiet trusts s) (hmax : nvqs ≤ maxQueuesDefault) :
    Keeps trusts e nvqs (QueuesFound nvqs s) (negotiate e nvqs) s := by
  obtain ⟨hblank, hcalm⟩ := h.ackFeatures e nvqs
  have hstep : Keeps trusts e nvqs (fun _ s₁ => Blank s₁ ∧ Calm nvqs s s₁)
      (Program.step fun s => some (s.ackFeatures e)) s :=
    .step hquiet.shows (fun _ _ h => (hquiet.calm h.2).shows) (.done ⟨hblank, hcalm⟩)
  refine hstep.bind ?_
  rintro status s₁ ⟨hblank₁, hcalm₁⟩
  by_cases hstatus : status ≠ .success
  · rw [if_pos hstatus]
    exact .done (hquiet.calm hcalm₁).shows
      (.refused hstatus hblank₁.blocks hblank₁.pages hcalm₁)
  · rw [if_neg hstatus]
    exact (virtioFindQueues_keeps hblank₁ (hquiet.calm hcalm₁) hmax).mono fun _ _ hfound =>
      hfound.after hcalm₁

/-- A device that does not run cannot show that it does, however long its reset takes. -/
theorem vioModernReset_blank (h : Closed trusts nvqs s ∧ Blank s) :
    Keeps trusts e nvqs (fun _ s' => Closed trusts nvqs s' ∧ Blank s') vioModernReset s := by
  have hround : ∀ s read, Closed trusts nvqs s ∧ Blank s → (trusts → Honest s read) →
      Closed trusts nvqs { s with cfg.status := read.status } ∧
        Blank { s with cfg.status := read.status } := by
    rintro s read ⟨hclosed, hblank⟩ hhonest
    have hquiet : Quiet trusts { s with cfg.status := read.status } := by
      intro htrusts
      refine eq_false_of_ne_true fun hshown => ?_
      exact absurd ((hclosed.quiet htrusts).symm.trans ((hhonest htrusts).shown hshown)) nofun
    exact ⟨hclosed.congr rfl rfl rfl hquiet rfl, hblank.congr rfl rfl rfl rfl rfl⟩
  exact .wait h (fun _ h => h.1.quiet.shows) (fun _ _ h => h.1.quiet.shows)
    (fun s read h hok _ => hround s read h hok) fun s read h hok _ => hround s read h hok

theorem addStatus_blank {status : BitVec 8} (hstatus : status.getLsbD 2 = false)
    (h : Closed trusts nvqs s ∧ Blank s) :
    Keeps trusts e nvqs (fun _ s' => Closed trusts nvqs s' ∧ Blank s')
      (Program.modify (Transport.addStatus · status)) s := by
  obtain ⟨hclosed, hblank⟩ := h
  exact .modify hclosed.quiet.shows (fun _ _ h => h.1.quiet.shows)
    ⟨hclosed.congr rfl rfl rfl (hclosed.quiet.addStatus hstatus) rfl,
      hblank.congr rfl rfl rfl rfl rfl⟩

/-- A device at rest has no queues. -/
theorem virtioDeviceInitialize_keeps (h : Closed trusts nvqs s) :
    Keeps trusts e nvqs
      (fun status s' => Closed trusts nvqs s' ∧ (status = .success → Blank s'))
      (virtioDeviceInitialize e) s := by
  have hzeroed : Keeps trusts e nvqs (fun _ s' => Closed trusts nvqs s' ∧ Blank s')
      (Program.modify fun s => { s with
        vdev := ⟨e.msi, false, ⟨false, 0, 0⟩, maxQueuesDefault, .inline,
          fun _ => ⟨none, 0, none⟩⟩ }) s :=
    .modify h.quiet.shows (fun _ _ h => h.1.quiet.shows)
      ⟨h.congr rfl rfl rfl h.quiet rfl, rfl, rfl, fun _ => rfl, h.blocks, h.pages⟩
  refine hzeroed.bind ?_
  rintro - s₁ ⟨hclosed₁, hblank₁⟩
  have hasked : Keeps trusts e nvqs (fun _ s' => Closed trusts nvqs s' ∧ Blank s')
      (Program.step fun s => some (e.initializes s.time, s.tick)) s₁ :=
    .step hclosed₁.quiet.shows (fun _ _ h => h.1.quiet.shows)
      (.done ⟨hclosed₁.congr rfl rfl rfl hclosed₁.quiet rfl, hblank₁.congr rfl rfl rfl rfl rfl⟩)
  refine hasked.bind ?_
  rintro (_ | notify) s₂ ⟨hclosed₂, hblank₂⟩
  · exact .done hclosed₂.quiet.shows ⟨hclosed₂, nofun⟩
  · have hnotify : Keeps trusts e nvqs (fun _ s' => Closed trusts nvqs s' ∧ Blank s')
        (Program.modify fun s => { s with vdev.notify := notify }) s₂ :=
      .modify hclosed₂.quiet.shows (fun _ _ h => h.1.quiet.shows)
        ⟨hclosed₂.congr rfl rfl rfl hclosed₂.quiet rfl, hblank₂.congr rfl rfl rfl rfl rfl⟩
    refine hnotify.bind fun _ s₃ hready₃ => ?_
    refine (vioModernReset_blank hready₃).bind fun _ s₄ hready₄ => ?_
    refine (addStatus_blank rfl hready₄).bind fun _ s₅ hready₅ => ?_
    refine (addStatus_blank rfl hready₅).bind fun _ s₆ hready₆ => ?_
    exact .done hready₆.1.quiet.shows ⟨hready₆.1, fun _ => hready₆.2⟩

/-- The device is told that it may use its queues when it knows all of them. -/
theorem bringUp_keeps (h : Closed trusts nvqs s) (hblank : Blank s)
    (hmax : nvqs ≤ maxQueuesDefault) :
    Keeps trusts e nvqs (fun _ => Steady trusts nvqs) (bringUp e nvqs) s := by
  refine (negotiate_keeps hblank h.quiet hmax).bind fun status s₁ hfound => ?_
  have hquiet := h.quiet.calm hfound.calm
  have hidle : ∀ i, nvqs ≤ i → (s₁.cfg.queues i).enable = false := fun i hi =>
    (hfound.calm.enable i hi).trans (h.idle i hi)
  have hoff : s₁.hardwareInit = false := hfound.calm.hardwareInit.trans h.off
  cases hfound with
  | refused fails blocks pages calm =>
      rw [if_neg fails]
      have hfailed : Closed trusts nvqs (s₁.addStatus statusFailed) :=
        ⟨hoff, blocks, pages, hquiet.addStatus rfl, hidle⟩
      have hadd : Keeps trusts e nvqs (fun _ => Closed trusts nvqs)
          (Program.modify (Transport.addStatus · statusFailed)) s₁ :=
        .modify hquiet.shows (fun _ _ h => h.quiet.shows) hfailed
      exact hadd.bind fun _ s' hclosed => .done hclosed.quiet.shows (.rest hclosed)
  | @done places _ length ready calm =>
      rw [if_pos rfl]
      subst length
      have hgo : Keeps trusts e places.length
          (fun _ s' => Ready places s' ∧ s'.cfg.queues = s₁.cfg.queues)
          (Program.modify (Transport.addStatus · statusDriverOk)) s₁ :=
        .modify hquiet.shows (fun _ _ h _ _ => h.1.confined (h.2 ▸ hidle))
          ⟨ready.congr rfl rfl rfl rfl rfl, rfl⟩
      refine hgo.bind ?_
      rintro - s₂ ⟨hready₂, hqueues⟩
      have hidle₂ : ∀ i, places.length ≤ i → (s₂.cfg.queues i).enable = false := hqueues ▸ hidle
      have hrunning : Steady trusts places.length { s₂ with hardwareInit := true } :=
        .running rfl rfl (hready₂.congr rfl rfl rfl rfl rfl) hidle₂
      have hset : Keeps trusts e places.length (fun _ => Steady trusts places.length)
          (Program.modify fun s => { s with hardwareInit := true }) s₂ :=
        .modify (fun _ _ => hready₂.confined hidle₂) (fun _ _ h => h.shows) hrunning
      exact hset.bind fun _ s' hsteady => .done hsteady.shows hsteady

theorem adapterLiteInit_keeps (h : Steady trusts nvqs s) (hmax : nvqs ≤ maxQueuesDefault) :
    Keeps trusts e nvqs (fun _ => Steady trusts nvqs) (adapterLiteInit e nvqs) s := by
  have hlook : Keeps trusts e nvqs (fun on s₁ => s.hardwareInit = on ∧ s = s₁)
      (Program.gets Transport.hardwareInit) s := .gets h.shows ⟨rfl, rfl⟩
  refine hlook.bind ?_
  rintro _ _ ⟨rfl, rfl⟩
  cases h with
  | running on length ready idle =>
      rw [if_pos on]
      exact .done (Steady.running on length ready idle).shows (.running on length ready idle)
  | rest h =>
      rw [if_neg (ne_true_of_eq_false h.off)]
      refine (virtioDeviceInitialize_keeps h).bind ?_
      rintro status s₁ ⟨hclosed, hblank⟩
      by_cases hstatus : status ≠ .success
      · rw [if_pos hstatus]
        exact .done hclosed.quiet.shows (.rest hclosed)
      · rw [if_neg hstatus]
        exact bringUp_keeps hclosed (hblank (not_not.mp hstatus)) hmax

/-- A running device has stopped when its reset has been waited for. -/
theorem vioModernReset_stops (h : Ready places s)
    (hidle : ∀ i, places.length ≤ i → (s.cfg.queues i).enable = false)
    (hoff : s.hardwareInit = false) :
    Keeps trusts e places.length
      (fun _ s' => Stocked places 0 s' ∧ Quiet trusts s' ∧ s'.cfg.queues = s.cfg.queues ∧
        s'.hardwareInit = false) vioModernReset s := by
  have hround : ∀ (s' : Transport) (read : ResetRead),
      Ready places s' ∧ s'.cfg.queues = s.cfg.queues ∧ s'.hardwareInit = false →
      Ready places { s' with cfg.status := read.status } ∧
        s'.cfg.queues = s.cfg.queues ∧ s'.hardwareInit = false :=
    fun _ _ h => ⟨h.1.congr rfl rfl rfl rfl rfl, h.2⟩
  refine .wait ⟨h, rfl, hoff⟩ (fun _ h _ _ => h.1.confined (h.2.1 ▸ hidle))
    (fun _ _ h => h.2.1.shows) (fun s' read h _ _ => hround s' read h)
    fun s' read h hok hlast => ?_
  have hquiet : Quiet trusts { s' with cfg.status := read.status } := by
    intro htrusts
    rcases Bool.or_eq_true_iff.mp hlast with hzero | hgone
    · show read.status.getLsbD 2 = false
      rw [of_decide_eq_true hzero]
      rfl
    · exact (hok htrusts).stopped (Bool.not_eq_true' _ |>.mp hgone)
  obtain ⟨hready, hqueues, hoff⟩ := hround s' read h
  exact ⟨hready.stocked, hquiet, hqueues, hoff⟩

/-- The queues are only deleted when the device has stopped. -/
theorem adapterLiteClose_keeps (h : Steady trusts nvqs s) (hmax : nvqs ≤ maxQueuesDefault) :
    Keeps trusts e nvqs (fun _ => Steady trusts nvqs) adapterLiteClose s := by
  have hlook : Keeps trusts e nvqs (fun on s₁ => s.hardwareInit = on ∧ s = s₁)
      (Program.gets Transport.hardwareInit) s := .gets h.shows ⟨rfl, rfl⟩
  refine hlook.bind ?_
  rintro _ _ ⟨rfl, rfl⟩
  cases h with
  | rest h =>
      rw [if_neg (ne_true_of_eq_false h.off)]
      exact .done h.quiet.shows (.rest h)
  | @running places on length ready idle =>
      rw [if_pos on]
      subst length
      have hoff : Keeps trusts e places.length
          (fun _ s' => Ready places s' ∧ s'.cfg.queues = s.cfg.queues ∧ s'.hardwareInit = false)
          (Program.modify fun s => { s with hardwareInit := false }) s := by
        have hready : Ready places { s with hardwareInit := false } :=
          ready.congr rfl rfl rfl rfl rfl
        exact .modify (fun _ _ => ready.confined idle)
          (fun _ _ h _ _ => h.1.confined (h.2.1 ▸ idle)) ⟨hready, rfl, rfl⟩
      refine hoff.bind ?_
      rintro - s₁ ⟨hready₁, hqueues₁, hoff₁⟩
      refine (vioModernReset_stops hready₁ (hqueues₁ ▸ idle) hoff₁).bind ?_
      rintro - s₂ ⟨hstocked, hquiet, hqueues, hoff₂⟩
      refine (virtioDeleteQueues_keeps hstocked hquiet hmax).bind fun _ s₃ hemptied => ?_
      have hclosed : Closed trusts places.length s₃ := by
        refine ⟨hemptied.calm.hardwareInit.trans hoff₂, hemptied.blocks, hemptied.pages,
          hquiet.calm hemptied.calm, fun i hi => ?_⟩
        rw [hemptied.calm.enable i (Nat.zero_le i), hqueues, hqueues₁]
        exact idle i hi
      have hshutdown : s₃.virtioDeviceShutdown = some s₃ := by
        unfold Transport.virtioDeviceShutdown
        rw [hemptied.inline]
      refine .step hclosed.quiet.shows (fun _ _ h => h.shows) ?_
      rw [hshutdown]
      exact .done (.rest hclosed)

theorem body_keeps (hmax : nvqs ≤ maxQueuesDefault) (call : Call) (s : Transport)
    (h : Steady trusts nvqs s) :
    Keeps trusts e nvqs (fun _ => Steady trusts nvqs) (body e nvqs call) s := by
  cases call with
  | init =>
      exact (adapterLiteInit_keeps h hmax).bind fun _ _ hsteady => .done hsteady.shows hsteady
  | close => exact adapterLiteClose_keeps h hmax

/-- Nothing is allocated, the device may not use any queue, and no queue but the first `nvqs` has
ever been enabled. -/
structure AtRest (nvqs : Nat) (s : Transport) : Prop where
  off : s.hardwareInit = false
  blocks : s.blocks = []
  pages : s.pages = []
  ready : s.isReady = false
  idle : ∀ i, nvqs ≤ i → (s.cfg.queues i).enable = false

/-- The driver as a system: its calls, one after the other, and the device that watches. -/
def system (e : Env) (nvqs : Nat) :
    System (Program.Thread Transport ResetRead) (Program.Move Call ResetRead) :=
  Program.thread (body e nvqs)

variable {s₀ : Transport} {t : Program.Thread Transport ResetRead}

theorem keeps_of_reach (hmax : nvqs ≤ maxQueuesDefault) (hstart : AtRest nvqs s₀)
    (hreach : (system e nvqs).ReachUnder (Program.Answered fun s read => trusts → Honest s read)
      ⟨.done (), s₀⟩ t) :
    Keeps trusts e nvqs (fun _ => Steady trusts nvqs) t.todo t.state := by
  refine Program.Keeps.reach (body_keeps hmax) ?_ hreach
  have hclosed : Closed trusts nvqs s₀ :=
    ⟨hstart.off, hstart.blocks, hstart.pages, fun _ => hstart.ready, hstart.idle⟩
  exact .done hclosed.quiet.shows (.rest hclosed)

theorem keeps_of_reach_any (hmax : nvqs ≤ maxQueuesDefault) (hstart : AtRest nvqs s₀)
    (hreach : (system e nvqs).Reach ⟨.done (), s₀⟩ t) :
    Keeps False e nvqs (fun _ => Steady False nvqs) t.todo t.state :=
  keeps_of_reach hmax hstart (hreach.mono fun _ move _ =>
    Program.answered_of_forall (fun _ _ => False.elim) move)

/-- Between any two calls, whatever the device and the memory have answered and whichever calls
have failed, there is exactly one block and one piece of contiguous memory for each queue if the
device runs, and none at all if it does not. -/
theorem reach_memory (hmax : nvqs ≤ maxQueuesDefault) (hstart : AtRest nvqs s₀)
    (hreach : (system e nvqs).Reach ⟨.done (), s₀⟩ t) (hidle : t.Idle) :
    ∃ places : List Place, places.length = (if t.state.hardwareInit then nvqs else 0) ∧
      t.state.blocks.Perm (places.map Place.vq) ∧
      t.state.pages.Perm (places.map (Place.page t.state.vdev.packedRing)) ∧
      ∀ k (h : k < places.length), t.state.vdev.infos k = places[k].info := by
  have hkeeps := keeps_of_reach_any hmax hstart hreach
  rw [hidle] at hkeeps
  cases hkeeps.ends with
  | rest h => exact ⟨[], by rw [h.off]; rfl, .of_eq h.blocks, .of_eq h.pages, nofun⟩
  | @running places on length ready idle =>
      refine ⟨places, by rw [on, if_pos rfl, length], ready.stocked.blocks, ready.stocked.pages,
        fun k hk => ?_⟩
      exact (congrArg t.state.vdev.infos (Nat.zero_add k)).symm.trans (ready.stocked.infos k hk)

/-- There is memory for everything, and the device answers every question with a four. -/
def plentiful : Env where
  grants _ _ := true
  reads _ := 4
  maps _ := true
  initializes _ := some ⟨true, 4, 4096⟩
  offers _ _ := true
  accepts _ := true
  msi := true

/-- Nothing has been asked for. -/
def untouched : Transport where
  time := 0
  blocks := []
  pages := []
  cfg := ⟨0, 0, 0, fun _ => ⟨0, ⟨0, 0⟩, ⟨0, 0⟩, ⟨0, 0⟩, 0, false⟩⟩
  vdev := ⟨false, false, ⟨false, 0, 0⟩, 0, .null, fun _ => ⟨none, 0, none⟩⟩
  hardwareInit := false

theorem atRest_untouched : AtRest 2 untouched := ⟨rfl, rfl, rfl, rfl, fun _ _ => rfl⟩

/-- The device resets itself when it is told to, and the adapter sets it up. -/
def settingUp : List (Program.Move Call ResetRead) :=
  .call .init :: List.replicate 4 .act ++ .answer ⟨0, true⟩ :: List.replicate 9 .act

/-- The adapter is closed, and the device takes its time to reset. -/
def closing : List (Program.Move Call ResetRead) :=
  .call .close :: List.replicate 2 .act ++ [.answer ⟨15, true⟩]

theorem reach_memory_running : ∃ s : Transport, s.hardwareInit = true ∧ s.blocks.length = 2 := by
  obtain ⟨t, hrun, hidle, hon⟩ : ∃ t,
      (system plentiful 2).run ⟨.done (), untouched⟩ settingUp = some t ∧ t.Idle ∧
        t.state.hardwareInit = true := ⟨_, rfl, rfl, rfl⟩
  obtain ⟨places, hlength, hblocks, -⟩ :=
    reach_memory (by decide) atRest_untouched (System.Reach.run .refl hrun) hidle
  rw [if_pos hon] at hlength
  exact ⟨t.state, hon, by rw [hblocks.length_eq, List.length_map, hlength]⟩

/-- At any time in any call the device only uses what the driver has set up and still holds, as
long as it shows what it does. -/
theorem reach_confined (hmax : nvqs ≤ maxQueuesDefault) (hstart : AtRest nvqs s₀)
    (hreach : (system e nvqs).ReachUnder (Program.Answered Honest) ⟨.done (), s₀⟩ t)
    (hready : t.state.isReady = true) : Confined nvqs t.state := by
  refine (keeps_of_reach hmax hstart (hreach.mono fun t move hok => ?_)).now trivial hready
  cases move with
  | answer read => exact fun _ => hok
  | call c => trivial
  | act => trivial

instance (s : Transport) (read : ResetRead) : Decidable (Honest s read) :=
  decidable_of_iff ((read.status.getLsbD 2 = true → s.isReady = true) ∧
      (read.readable = false → read.status.getLsbD 2 = false))
    ⟨fun h => ⟨h.1, h.2⟩, fun h => ⟨h.shown, h.stopped⟩⟩

/-- A device that still uses its queues while it is being closed. -/
theorem reach_confined_closing : ∃ s : Transport, s.isReady = true ∧ s.hardwareInit = false ∧
    Confined 2 s := by
  have hrun : ((system plentiful 2).checkedRun
      (fun t move => decide (Program.Answered Honest t move)) ⟨.done (), untouched⟩
      (settingUp ++ closing)).any (fun t => t.state.isReady && !t.state.hardwareInit) = true := rfl
  obtain ⟨t, hreach, htest⟩ := System.exists_reachUnder (fun _ _ => of_decide_eq_true) hrun
  obtain ⟨hready, hoff⟩ := Bool.and_eq_true_iff.mp htest
  exact ⟨t.state, hready, Bool.not_eq_true' _ |>.mp hoff,
    reach_confined (by decide) atRest_untouched hreach hready⟩

/-- If the driver gives up and the device does not stop, it goes on with memory that is freed. -/
theorem exists_unconfined : ∃ t, (system plentiful 2).Reach ⟨.done (), untouched⟩ t ∧
    t.state.isReady = true ∧ (t.state.cfg.queues 0).enable = true ∧ t.state.pages = [] := by
  let moves : List (Program.Move Call ResetRead) := settingUp ++
    .call .close :: List.replicate 2 .act ++ .answer ⟨15, false⟩ :: List.replicate 10 .act
  obtain ⟨t, hrun, hready, henable, hpages⟩ : ∃ t,
      (system plentiful 2).run ⟨.done (), untouched⟩ moves = some t ∧ t.state.isReady = true ∧
        (t.state.cfg.queues 0).enable = true ∧ t.state.pages = [] := ⟨_, rfl, rfl, rfl, rfl⟩
  exact ⟨t, System.Reach.run .refl hrun, hready, henable, hpages⟩

end Driver

end VirtDisplay.Virtio
