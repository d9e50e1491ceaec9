/-
# The initialisation of the hardware

`HWInit` finds the PCI resources, initialises the virtio device and its two queues, fills
the pool of command buffers and hands it to both queues, and sets up the allocator of
resource ids. Only then it should start the worker thread and ask the host for EDIDs.

The steps stand in one block, and a step that fails leaves the block. What is looked at
behind the block is a status, though, and of the steps only `VioGpuAdapterLiteInit` sets
it. Where another step fails, `HWInit` goes on with what there is.
-/

import Mathlib.Data.List.TakeWhile
import VirtDisplay.Adapter.Runs
import VirtDisplay.Lifecycle.Machine
import VirtDisplay.Queue.VBuffers

namespace VirtDisplay

namespace HardwareInit

/-- A descriptor of the resource list. -/
inductive ResDescriptor
  /-- `WdfCmResourceListGetDescriptor` answers `NULL`. -/
  | missing
  | interrupt
  /-- Memory, with the index of the BAR that starts there. -/
  | memory (bar : Option Nat)
  | other
  deriving DecidableEq

/-- The local variables of `CPciResources::Init`. -/
structure PciScan where
  bar : Option Nat
  interruptFound : Bool

/-- One round of the loop over the descriptors. -/
def scanDescriptor (scan : PciScan) : ResDescriptor → Option PciScan
  | .missing => none
  | .interrupt => some { scan with interruptFound := true }
  -- the last memory descriptor decides, also if it belongs to no BAR
  | .memory bar => some { scan with bar := bar }
  | .other => some scan

/-- What `CPciResources::Init` reads. -/
structure PciAnswers where
  /-- `GetBusData` reads the whole header. -/
  header : Bool
  descriptors : List ResDescriptor

/-- `CPciResources::Init`. -/
def PciAnswers.init (pci : PciAnswers) : Bool :=
  pci.header && (pci.descriptors.foldlM scanDescriptor ⟨none, false⟩).any fun scan =>
    scan.bar.isSome && scan.interruptFound

/-- What the environment answers to the steps of `HWInit`. -/
structure InitAnswers where
  /-- `pResList` and `pDispInfo` are given. -/
  arguments : Bool
  pci : PciAnswers
  /-- `virtio_device_initialize` -/
  deviceInitialize : NtStatus
  /-- The host offers `VIRTIO_F_VERSION_1`. -/
  version1 : Bool
  setFeatures : NtStatus
  findQueues : NtStatus
  /-- `virtio_find_queues` answers a queue. -/
  vqs : QueueId → Bool
  /-- The entries of a queue, if `virtio_query_queue_allocation` succeeds. -/
  numEntries : QueueId → Option Nat
  /-- Whether the allocation of a buffer of the pool succeeds. -/
  allocates : Nat → Bool
  /-- The allocation of the id bitmap succeeds. -/
  idrAllocates : Bool
  createSystemThread : NtStatus
  /-- What the rest comes to if the queues have no pool to read: it need not come back. -/
  stranded : Option NtStatus
  boot : BootConfig

/-- What `HWInit` sets up. -/
structure Device where
  hardwareInit : Bool
  /-- `m_pVirtQueue` is not null. -/
  virtQueue : QueueId → Bool
  numScanouts : Nat
  gpuBuf : VioGpuBuf
  /-- `m_pBuf` is the pool. -/
  hasBuf : QueueId → Bool
  /-- `m_IdBitMap` has its buffer. -/
  idBitMap : Bool

/-- The device of an adapter just constructed. -/
def Device.fresh : Device where
  hardwareInit := false
  virtQueue := fun _ => false
  numScanouts := 0
  gpuBuf := .init 0 fun _ => false
  hasBuf := fun _ => false
  idBitMap := false

/-- The block of `VioGpuAdapterLiteInit`. -/
def negotiate (x : InitAnswers) (d : Device) : Device × NtStatus :=
  if ¬ x.version1 then (d, .unsuccessful)
  else if x.setFeatures ≠ .success then (d, x.setFeatures)
  else if x.findQueues ≠ .success then (d, x.findQueues)
  else if ¬ x.vqs .ctrl then (d, .insufficientResources)
  else
    let d := { d with virtQueue := Function.update d.virtQueue .ctrl true }
    if ¬ x.vqs .cursor then (d, .insufficientResources)
    else ({ d with virtQueue := fun _ => true, numScanouts := maxScanOut }, .success)

/-- `VioGpuAdapterLiteInit`. -/
def vioGpuAdapterLiteInit (x : InitAnswers) (d : Device) : Device × NtStatus :=
  if d.hardwareInit then (d, .success)
  else if x.deviceInitialize ≠ .success then (d, x.deviceInitialize)
  else
    let (d, status) := negotiate x d
    (if status = .success then { d with hardwareInit := true } else d, status)

/-- `QueryAllocation`. -/
def InitAnswers.queryAllocation (x : InitAnswers) (queue : QueueId) : Nat :=
  (x.numEntries queue).getD 0

/-- The size of the pool. -/
def InitAnswers.size (x : InitAnswers) : Nat := x.queryAllocation .ctrl + x.queryAllocation .cursor

/-- The block of `HWInit`, left where a step fails, with the status at that point. -/
def initDevice (x : InitAnswers) (d : Device) : Device × NtStatus :=
  let status := NtStatus.success
  if ¬ x.pci.init then (d, status)
  else
    let (d, status) := vioGpuAdapterLiteInit x d
    if status ≠ .success then (d, status)
    else
      let d := { d with gpuBuf := .init x.size x.allocates }
      -- `VioGpuBuf::Init` answers whether it could allocate anything at all
      if ¬ 0 < d.gpuBuf.uCount then (d, status)
      else ({ d with hasBuf := fun _ => true, idBitMap := x.idrAllocates }, status)

/-- What can follow the block. -/
inductive InitCall
  /-- `virtio_add_status` with `VIRTIO_CONFIG_S_FAILED`. -/
  | addStatusFailed
  | adapterClose
  | createSystemThread
  | getModeList
  deriving DecidableEq

/-- What a screen answers if there is no buffer to ask it with. -/
def starved (reply : ScreenReply) : ScreenReply :=
  { reply with edidAllocated := false, display := .noMemory }

/-- `GetModeList` and the segments, for queues that have their pool. -/
def bootStatus (cfg : BootConfig) : Option NtStatus :=
  (getModeList cfg.edidFeature cfg.replies (.initial cfg.behindGpuEdid)).map
    fun ⟨st, status⟩ =>
      if (∀ i, (bootFrameSegment cfg st.displayInfo i).ok) ∧ ∀ i, (bootCursorSegment cfg i).ok then
        status
      else .insufficientResources

/-- `VioGpuAdapterLiteClose` -/
def adapterClose (d : Device) : Device :=
  if d.hardwareInit then { d with hardwareInit := false, virtQueue := fun _ => false } else d

/-- What `HWInit` returns once it has its thread, or `none` where it does not come back. -/
def goOn (x : InitAnswers) (d : Device) : Option NtStatus :=
  -- without screens there is nothing to ask and nothing to allocate
  if d.numScanouts = 0 then some .success
  else if ¬ d.hasBuf .ctrl then x.stranded
  else if d.gpuBuf.freeBufs = [] then
    bootStatus { x.boot with replies := fun i => starved (x.boot.replies i) }
  else bootStatus x.boot

/-- What a run of `HWInit` leaves. -/
structure Run where
  device : Device
  calls : List InitCall
  status : Option NtStatus

/-- `HWInit` of a new adapter. -/
def hwInit (x : InitAnswers) : Run :=
  if ¬ x.arguments then ⟨.fresh, [], some .unsuccessful⟩
  else
    let (d, status) := initDevice x .fresh
    if status ≠ .success then
      ⟨adapterClose d, [.addStatusFailed, .adapterClose], some status⟩
    else if x.createSystemThread ≠ .success then
      ⟨d, [.createSystemThread], some x.createSystemThread⟩
    else ⟨d, [.createSystemThread, .getModeList], goOn x d⟩

/-- Every call in `VioGpuAdapterLiteInit` succeeds. -/
structure AdapterInits (x : InitAnswers) : Prop where
  deviceInitialize : x.deviceInitialize = .success
  version1 : x.version1 = true
  setFeatures : x.setFeatures = .success
  findQueues : x.findQueues = .success
  vqs : ∀ queue, x.vqs queue = true

/-- The queues want buffers, and each of them can be allocated. -/
structure PoolFills (x : InitAnswers) : Prop where
  pos : 0 < x.size
  allocates : ∀ k < x.size, x.allocates k = true

/-- Every step of the block succeeds. -/
structure Succeeds (x : InitAnswers) : Prop where
  pci : x.pci.init = true
  adapter : AdapterInits x
  pool : PoolFills x
  idr : x.idrAllocates = true

/-- A device that is set up, with a pool of the size the queues want. -/
structure Equipped (size : Nat) (d : Device) : Prop where
  hardwareInit : d.hardwareInit = true
  virtQueue : ∀ queue, d.virtQueue queue = true
  filled : 0 < size ∧ d.gpuBuf.freeBufs.length = size
  hasBuf : ∀ queue, d.hasBuf queue = true
  idBitMap : d.idBitMap = true

variable {x : InitAnswers}

theorem vioGpuAdapterLiteInit_of_inits (hinits : AdapterInits x) :
    vioGpuAdapterLiteInit x .fresh =
      ({ Device.fresh with
          hardwareInit := true, virtQueue := fun _ => true, numScanouts := maxScanOut },
        .success) := by
  obtain ⟨hdevice, hversion, hfeatures, hfind, hvqs⟩ := hinits
  simp [vioGpuAdapterLiteInit, negotiate, Device.fresh, hdevice, hversion, hfeatures, hfind, hvqs]

theorem vioGpuAdapterLiteInit_status :
    (vioGpuAdapterLiteInit x .fresh).2 = .success ↔ AdapterInits x := by
  constructor
  · intro hsuccess
    unfold vioGpuAdapterLiteInit at hsuccess
    rw [if_neg (by simp [Device.fresh])] at hsuccess
    by_cases hdevice : x.deviceInitialize = .success
    · rw [if_neg (not_not.mpr hdevice)] at hsuccess
      have hblock : (negotiate x .fresh).2 = .success := hsuccess
      unfold negotiate at hblock
      split at hblock
      next => cases hblock
      next hversion =>
        split at hblock
        next hfeatures => exact absurd hblock hfeatures
        next hfeatures =>
          split at hblock
          next hfind => exact absurd hblock hfind
          next hfind =>
            split at hblock
            next => cases hblock
            next hctrl =>
              dsimp only at hblock
              split at hblock
              next => cases hblock
              next hcursor =>
                refine ⟨hdevice, not_not.mp hversion, not_not.mp hfeatures, not_not.mp hfind, ?_⟩
                intro queue
                cases queue with
                | ctrl => exact not_not.mp hctrl
                | cursor => exact not_not.mp hcursor
    · rw [if_pos hdevice] at hsuccess
      exact absurd hsuccess hdevice
  · intro hinits
    rw [vioGpuAdapterLiteInit_of_inits hinits]

/-- The pool has the size asked for exactly if no allocation fails. -/
theorem length_init_freeBufs {cnt : Nat} {allocates : Nat → Bool} (hpos : 0 < cnt) :
    (VioGpuBuf.init cnt allocates).freeBufs.length = cnt ↔ ∀ k < cnt, allocates k = true := by
  have hall :
      ((List.range cnt).takeWhile allocates).length = cnt ↔ ∀ k < cnt, allocates k = true := by
    constructor
    · intro hlength k hlt
      have hwhole : (List.range cnt).takeWhile allocates = List.range cnt :=
        (List.takeWhile_prefix _).eq_of_length (by rw [hlength, List.length_range])
      exact List.takeWhile_eq_self_iff.mp hwhole k (List.mem_range.mpr hlt)
    · intro hallocates
      rw [List.takeWhile_eq_self_iff.mpr fun k hk => hallocates k (List.mem_range.mp hk),
        List.length_range]
  rw [← hall]
  unfold VioGpuBuf.init
  dsimp only
  split
  next => exact Iff.rfl
  next hshort => exact ⟨fun hnil => absurd hnil.symm (Nat.ne_of_gt hpos), fun h => absurd h hshort⟩

/-- What is on the free list was counted. -/
theorem length_init_freeBufs_le (cnt : Nat) (allocates : Nat → Bool) :
    (VioGpuBuf.init cnt allocates).freeBufs.length ≤ (VioGpuBuf.init cnt allocates).uCount := by
  unfold VioGpuBuf.init
  dsimp only
  split
  next => exact Nat.le_refl _
  next => exact Nat.zero_le _

/-- Without PCI resources the block is left at once, and nothing has said so. -/
theorem initDevice_of_not_pci (hpci : ¬ x.pci.init = true) :
    initDevice x .fresh = (.fresh, .success) := by
  rw [initDevice, if_pos hpci]

/-- The failure of `VioGpuAdapterLiteInit` is the one the status tells. -/
theorem initDevice_of_not_inits (hpci : x.pci.init = true) (hfails : ¬ AdapterInits x) :
    (initDevice x .fresh).2 ≠ .success := by
  have hstatus : (vioGpuAdapterLiteInit x .fresh).2 ≠ .success :=
    fun h => hfails (vioGpuAdapterLiteInit_status.mp h)
  unfold initDevice
  rw [if_neg (not_not.mpr hpci)]
  dsimp only
  rw [if_pos hstatus]
  exact hstatus

/-- Behind `VioGpuAdapterLiteInit` the status is success, whatever happens, and the device
is set up if the pool is filled and the id bitmap allocated. -/
theorem initDevice_of_inits (hpci : x.pci.init = true) (hinits : AdapterInits x) :
    (initDevice x .fresh).2 = .success ∧
      (Equipped x.size (initDevice x .fresh).1 ↔ PoolFills x ∧ x.idrAllocates = true) := by
  unfold initDevice
  rw [if_neg (not_not.mpr hpci), vioGpuAdapterLiteInit_of_inits hinits]
  dsimp only
  rw [if_neg (not_not.mpr rfl)]
  split
  next hnone =>
    refine ⟨rfl, fun hequipped => absurd hequipped.idBitMap Bool.false_ne_true, ?_⟩
    rintro ⟨hfills, -⟩
    have hlength := (length_init_freeBufs hfills.pos).mpr hfills.allocates
    have hcounted := length_init_freeBufs_le x.size x.allocates
    rw [hlength] at hcounted
    exact absurd (Nat.lt_of_lt_of_le hfills.pos hcounted) hnone
  next =>
    refine ⟨rfl, fun hequipped => ?_, ?_⟩
    · obtain ⟨hpos, hlength⟩ := hequipped.filled
      exact ⟨⟨hpos, (length_init_freeBufs hpos).mp hlength⟩, hequipped.idBitMap⟩
    · rintro ⟨hfills, hidr⟩
      exact ⟨rfl, fun _ => rfl,
        ⟨hfills.pos, (length_init_freeBufs hfills.pos).mpr hfills.allocates⟩, fun _ => rfl, hidr⟩

/-- A block that ended with a success status is followed by the thread. -/
theorem hwInit_of_success (harguments : x.arguments = true)
    (hstatus : (initDevice x .fresh).2 = .success) :
    (hwInit x).device = (initDevice x .fresh).1 ∧ .createSystemThread ∈ (hwInit x).calls := by
  unfold hwInit
  rw [if_neg (not_not.mpr harguments)]
  dsimp only
  rw [if_neg (not_not.mpr hstatus)]
  split
  next => exact ⟨rfl, List.mem_cons_self⟩
  next => exact ⟨rfl, List.mem_cons_self⟩

/-- A block that ended with a failure status is followed by closing the adapter. -/
theorem hwInit_of_failure (harguments : x.arguments = true)
    (hstatus : (initDevice x .fresh).2 ≠ .success) :
    (hwInit x).calls = [.addStatusFailed, .adapterClose] ∧
      (hwInit x).status = some (initDevice x .fresh).2 := by
  unfold hwInit
  rw [if_neg (not_not.mpr harguments)]
  dsimp only
  rw [if_pos hstatus]
  exact ⟨rfl, rfl⟩

/-- `HWInit` only goes on, and only succeeds, with all that is to be set up, and returns a
failure if a step failed. -/
structure Guarded (x : InitAnswers) : Prop where
  goesOn : .createSystemThread ∈ (hwInit x).calls ∨ .getModeList ∈ (hwInit x).calls ∨
    (hwInit x).status = some .success → x.pci.init = true ∧ Equipped x.size (hwInit x).device
  fails : ¬ Succeeds x → ∃ status, (hwInit x).status = some status ∧ status ≠ .success

/-- Which outcomes of its steps `HWInit` is guarded against. -/
theorem guarded_iff (x : InitAnswers) :
    Guarded x ↔ x.arguments = false ∨
      x.pci.init = true ∧ (AdapterInits x → PoolFills x ∧ x.idrAllocates = true) := by
  cases harguments : x.arguments with
  | false =>
      have hrun : hwInit x = ⟨.fresh, [], some .unsuccessful⟩ := by
        rw [hwInit, if_pos (by simp [harguments])]
      refine ⟨fun _ => .inl rfl, fun _ => ⟨?_, fun _ => ⟨.unsuccessful, ?_, by decide⟩⟩⟩
      · rw [hrun]
        rintro (h | h | h)
        · exact absurd h List.not_mem_nil
        · exact absurd h List.not_mem_nil
        · cases h
      · rw [hrun]
  | true =>
      simp only [Bool.true_eq_false, false_or]
      constructor
      · intro hguarded
        by_cases hpci : x.pci.init = true
        · refine ⟨hpci, fun hinits => ?_⟩
          obtain ⟨hstatus, hequipped⟩ := initDevice_of_inits hpci hinits
          obtain ⟨hdevice, hthread⟩ := hwInit_of_success harguments hstatus
          exact hequipped.mp (hdevice ▸ (hguarded.goesOn (.inl hthread)).2)
        · have hstatus : (initDevice x .fresh).2 = .success := by rw [initDevice_of_not_pci hpci]
          obtain ⟨-, hthread⟩ := hwInit_of_success harguments hstatus
          exact absurd (hguarded.goesOn (.inl hthread)).1 hpci
      · rintro ⟨hpci, hrest⟩
        by_cases hinits : AdapterInits x
        · obtain ⟨hstatus, hequipped⟩ := initDevice_of_inits hpci hinits
          obtain ⟨hdevice, -⟩ := hwInit_of_success harguments hstatus
          obtain ⟨hfills, hidr⟩ := hrest hinits
          refine ⟨fun _ => ⟨hpci, hdevice ▸ hequipped.mpr ⟨hfills, hidr⟩⟩, fun hfailed => ?_⟩
          exact absurd ⟨hpci, hinits, hfills, hidr⟩ hfailed
        · have hstatus := initDevice_of_not_inits hpci hinits
          obtain ⟨hcalls, hresult⟩ := hwInit_of_failure harguments hstatus
          refine ⟨?_, fun _ => ⟨_, hresult, hstatus⟩⟩
          rw [hcalls, hresult]
          rintro (h | h | h)
          · exact absurd h (by decide)
          · exact absurd h (by decide)
          · exact absurd (Option.some.inj h) hstatus

/-- A device without PCI resources gets a worker thread, and success. -/
theorem not_guarded : ∃ x, ¬ Guarded x := by
  let x : InitAnswers := ⟨true, ⟨false, []⟩, .success, true, .success, .success, fun _ => true,
    fun _ => some 64, fun _ => true, true, .success, none, .plain true⟩
  refine ⟨x, fun hguarded => ?_⟩
  have hthread : .createSystemThread ∈ (hwInit x).calls := List.mem_cons_self
  exact absurd (hguarded.goesOn (.inl hthread)).1 Bool.false_ne_true

/-- `HWInit` ends with success where it leaves an adapter that can be worked with. -/
theorem bootStatus_eq_success (cfg : BootConfig) :
    bootStatus cfg = some .success ↔ (VirtDisplay.hwInit cfg).isSome = true := by
  unfold bootStatus VirtDisplay.hwInit
  cases getModeList cfg.edidFeature cfg.replies (.initial cfg.behindGpuEdid) with
  | none => simp
  | some result =>
      obtain ⟨st, status⟩ := result
      dsimp only
      by_cases hok : (∀ i, (bootFrameSegment cfg st.displayInfo i).ok = true) ∧
          ∀ i, (bootCursorSegment cfg i).ok = true
      · cases status <;> simp [if_pos hok]
      · cases status <;> simp [if_neg hok]

/-- The outcomes as the life of an adapter sees them. -/
def InitAnswers.outcome (x : InitAnswers) (referenceThread : Bool) : HWInitOutcome where
  pciResources := x.pci.init
  adapterInit := decide ((vioGpuAdapterLiteInit x .fresh).2 = .success)
  createThread := decide (x.createSystemThread = .success)
  referenceThread := referenceThread
  modeList := decide (goOn x (initDevice x .fresh).1 = some .success)
  segments := true

/-- `HWInit` succeeds exactly where it does in the life of an adapter. -/
theorem lifecycle_hwInit (s : Lifecycle) (x : InitAnswers) (referenceThread : Bool)
    (harguments : x.arguments = true) (hinit : s.hardwareInit = false)
    (hscreens : s.numScanouts = 0) :
    (s.hwInit (x.outcome referenceThread)).1 = true ↔ (hwInit x).status = some .success := by
  have hdone : (hwInit x).status = some .success ↔ (initDevice x .fresh).2 = .success ∧
      x.createSystemThread = .success ∧ goOn x (initDevice x .fresh).1 = some .success := by
    unfold hwInit
    rw [if_neg (not_not.mpr harguments)]
    dsimp only
    by_cases hstatus : (initDevice x .fresh).2 = .success
    · by_cases hthread : x.createSystemThread = .success
      · simp [hstatus, hthread]
      · simp [hstatus, hthread]
    · simp [hstatus]
  rw [hdone]
  unfold Lifecycle.hwInit
  cases hpci : x.pci.init with
  | false =>
      rw [initDevice_of_not_pci (by simp [hpci])]
      by_cases hthread : x.createSystemThread = .success
      · simp [InitAnswers.outcome, hpci, hthread, hscreens, goOn, Device.fresh]
      · simp [InitAnswers.outcome, hpci, hthread]
  | true =>
      by_cases hinits : AdapterInits x
      · have hadapter := vioGpuAdapterLiteInit_status.mpr hinits
        obtain ⟨hstatus, -⟩ := initDevice_of_inits hpci hinits
        by_cases hthread : x.createSystemThread = .success
        · simp [InitAnswers.outcome, hpci, hadapter, hthread, hstatus, Lifecycle.adapterInit, hinit]
        · simp [InitAnswers.outcome, hpci, hadapter, hthread]
      · have hadapter := mt vioGpuAdapterLiteInit_status.mp hinits
        have hstatus := initDevice_of_not_inits hpci hinits
        simp [InitAnswers.outcome, hpci, hadapter, hstatus]

end HardwareInit

end VirtDisplay
