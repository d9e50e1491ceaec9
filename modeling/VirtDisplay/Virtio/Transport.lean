/-
# Setting up the device

Between the adapter and its virtqueues stands the transport: it resets the device and
acknowledges it, allocates two pieces of memory for each queue, tells the device where its rings
are and enables them, and gives everything back when it is told to delete the queues. Any of
this can fail half way, and what was done by then is undone.

What the driver cannot foresee is what the device answers and whether there is memory. The
registers of the device keep what is written to them, also over a reset: there are devices that
do not disable their queues then. A function that does not return, or that frees what is not
allocated, has no result here.

The device is reset by a write to its status, and the driver waits until it reads that this has
worked, or finds that the device is gone. From one read to the next, and from one statement of
the calls at the end of this module to the next, the device may use whatever it has been told of.
Setting up or deleting one queue is one such statement: nothing in it writes the status.
-/

import VirtDisplay.Foundation.Programs
import VirtDisplay.Virtio.SplitRing

namespace VirtDisplay.Virtio

/-- `PAGE_SIZE` -/
def pageSize : Nat := 4096

/-- `SMP_CACHE_BYTES` -/
def smpCacheBytes : Nat := 64

/-- `n` rounded up to a multiple of `align`, which is a power of two. -/
def roundUp (align n : Nat) : Nat := (n + align - 1) / align * align

/-- Where `vring_init` has the available ring, with the ring at 0. -/
def availOffset (num : Nat) : Nat := num * 16

/-- Where `vring_init` has the used ring, behind the used event of the available ring. -/
def usedOffset (num align : Nat) : Nat := roundUp align (availOffset num + (4 + 2 * num) + 2)

/-- `vring_size_split` -/
def vringSizeSplit (num align : Nat) : Nat :=
  roundUp align (16 * num + 2 * (3 + num)) + 2 * 3 + 8 * num

/-- `vring_size_packed` -/
def vringSizePacked (num : Nat) : Nat := num * 16 + 2 * 4

/-- `vring_size` -/
def vringSize (num align : Nat) (packed : Bool) : Nat :=
  if packed then vringSizePacked num else vringSizeSplit num align

/-- `vring_pci_size` -/
def vringPciSize (num : Nat) (packed : Bool) : Nat :=
  roundUp pageSize (vringSize num smpCacheBytes packed)

/-- Whether `vring_new_virtqueue_split` or `vring_new_virtqueue_packed` returns a queue. With no
entries neither of them returns. -/
def newVirtqueue (packed : Bool) (num : Nat) : Option Bool :=
  if packed then if num = 0 then none else some true
  else
    (SplitRing.vringNewVirtqueueSplit
      (SplitRing.zeroPages num fun _ _ => ⟨0, 0, ⟨false, false, false⟩, 0⟩) false :
        Option (Option (SplitRing.VirtqueueSplit Unit))).map Option.isSome

/-- An address in memory that was allocated in one piece. -/
structure Address where
  block : Nat
  offset : Nat
  deriving DecidableEq

/-- The registers of a queue. -/
structure QueueRegs where
  size : Nat
  desc : Address
  avail : Address
  used : Address
  vector : Nat
  enable : Bool

/-- The registers in `virtio_pci_common_cfg` that the driver writes. -/
structure CommonCfg where
  status : BitVec 8
  configVector : Nat
  select : Nat
  queues : Nat → QueueRegs

/-- `VirtIOQueueInfo` -/
structure VirtIOQueueInfo where
  vq : Option Nat
  num : Nat
  queue : Option Nat

/-- Where `info` points to. -/
inductive InfoMemory
  | null
  | inline
  | block (address : Nat)
  deriving DecidableEq

/-- What `vio_modern_initialize` learns about notifications. -/
structure NotifyCfg where
  /-- `notify_base` is there. -/
  base : Bool
  offsetMultiplier : Nat
  len : Nat

/-- `VirtIODevice` -/
structure VirtIODevice where
  msixUsed : Bool
  packedRing : Bool
  notify : NotifyCfg
  maxQueues : Nat
  info : InfoMemory
  infos : Nat → VirtIOQueueInfo

/-- The driver, its memory and its device. -/
structure Transport where
  /-- How often the driver has asked for something. -/
  time : Nat
  /-- Nonpaged blocks that are allocated. -/
  blocks : List Nat
  /-- Contiguous pages that are, with their sizes. -/
  pages : List (Nat × Nat)
  cfg : CommonCfg
  vdev : VirtIODevice
  /-- `IsHardwareInit` -/
  hardwareInit : Bool

/-- What the driver is answered, whenever it asks. -/
structure Env where
  /-- There is memory of this size. -/
  grants : (time size : Nat) → Bool
  /-- What is read from a register. -/
  reads : (time : Nat) → Nat
  /-- A queue's own notification address can be mapped. -/
  maps : (time : Nat) → Bool
  /-- The outcome of `vio_modern_initialize`. -/
  initializes : (time : Nat) → Option NotifyCfg
  /-- The device offers a feature. -/
  offers : (time feature : Nat) → Bool
  /-- It accepts the features. -/
  accepts : (time : Nat) → Bool
  /-- `IsMSIEnabled` -/
  msi : Bool

/-- `VIRTIO_MSI_NO_VECTOR` -/
def msiNoVector : Nat := 0xFFFF

/-- `MAX_QUEUES_PER_DEVICE_DEFAULT` -/
def maxQueuesDefault : Nat := 8

/-- `VIRTIO_CONFIG_S_ACKNOWLEDGE` -/
def statusAcknowledge : BitVec 8 := 1

/-- `VIRTIO_CONFIG_S_DRIVER` -/
def statusDriver : BitVec 8 := 2

/-- `VIRTIO_CONFIG_S_DRIVER_OK` -/
def statusDriverOk : BitVec 8 := 4

/-- `VIRTIO_CONFIG_S_FEATURES_OK` -/
def statusFeaturesOk : BitVec 8 := 8

/-- `VIRTIO_CONFIG_S_FAILED` -/
def statusFailed : BitVec 8 := 0x80

/-- The status codes of setting up. -/
inductive SetupStatus
  | success
  | unsuccessful
  | notFound
  | invalidParameter
  | insufficientResources
  | deviceBusy
  deriving DecidableEq

namespace Transport

variable (e : Env) (s : Transport)

/-- One thing was asked for. -/
def tick : Transport := { s with time := s.time + 1 }

/-- Read a register that the device decides on. -/
def ioread16 : Nat × Transport := (e.reads s.time % 2 ^ 16, s.tick)

/-- `mem_alloc_contiguous_pages`; nothing has the address yet. -/
def allocContiguousPages (size : Nat) : Option Nat × Transport :=
  if e.grants s.time size then
    (some s.time, { s.tick with pages := (s.time, size) :: s.pages })
  else (none, s.tick)

/-- `mem_alloc_nonpaged_block` -/
def allocNonpagedBlock (size : Nat) : Option Nat × Transport :=
  if e.grants s.time size then (some s.time, { s.tick with blocks := s.time :: s.blocks })
  else (none, s.tick)

/-- `mem_free_contiguous_pages` -/
def freeContiguousPages : Option Nat → Option Transport
  | none => some s
  | some address =>
      if s.pages.any fun page => page.1 == address then
        some { s with pages := s.pages.eraseP fun page => page.1 == address }
      else none

/-- `mem_free_nonpaged_block` -/
def freeNonpagedBlock : Option Nat → Option Transport
  | none => some s
  | some address =>
      if address ∈ s.blocks then some { s with blocks := s.blocks.erase address } else none

/-- Write to the registers of the queue that is selected. -/
def iowriteQueue (write : QueueRegs → QueueRegs) : Transport :=
  { s with cfg.queues :=
      Function.update s.cfg.queues s.cfg.select (write (s.cfg.queues s.cfg.select)) }

/-- Write to `queue_select`. -/
def selectQueue (index : Nat) : Transport := { s with cfg.select := index % 2 ^ 16 }

/-- Write what is known about a queue. -/
def setInfo (index : Nat) (info : VirtIOQueueInfo) : Transport :=
  { s with vdev.infos := Function.update s.vdev.infos index info }

/-- `virtio_add_status` -/
def addStatus (status : BitVec 8) : Transport := { s with cfg.status := s.cfg.status ||| status }

/-- `vio_modern_query_vq_alloc`, of which the sizes follow from the number of entries. -/
def queryVqAlloc (index : Nat) : Except SetupStatus Nat × Transport :=
  let (numQueues, s) := s.ioread16 e
  if numQueues ≤ index then (.error .notFound, s)
  else
    let (num, s) := (s.selectQueue index).ioread16 e
    if num = 0 then (.error .notFound, s)
    else if num &&& (num - 1) ≠ 0 then (.error .invalidParameter, s)
    else (.ok num, s)

/-- Try to allocate pages for a ring, and go on with half as many entries. -/
def allocRing (packed : Bool) : (fuel num : Nat) → Transport → Option (Option Nat × Nat × Transport)
  | 0, _, _ => none
  | fuel + 1, num, s =>
      match s.allocContiguousPages e (vringPciSize num packed) with
      | (some queue, s) => some (some queue, num, s)
      | (none, s) => if 0 < num then allocRing packed fuel (num / 2) s else some (none, num, s)

/-- The device is told where the ring is. -/
def activateQueue (num queue : Nat) : Transport :=
  let (avail, used) :=
    if s.vdev.packedRing then (num * 16, num * 16 + 4)
    else (availOffset num, usedOffset num smpCacheBytes)
  s.iowriteQueue fun regs => { regs with
    size := num, desc := ⟨queue, 0⟩, avail := ⟨queue, avail⟩, used := ⟨queue, used⟩ }

/-- The notification address of a queue, whose offset the device has given. -/
def mapNotify (off : Nat) : SetupStatus × Transport :=
  if s.vdev.notify.base then
    (if s.vdev.notify.len < off * s.vdev.notify.offsetMultiplier + 2 then .invalidParameter
      else .success, s)
  else (if e.maps s.time then .success else .insufficientResources, s.tick)

/-- `vio_modern_set_queue_vector`, where a vector is to be set, and whether it was. -/
def assignVector (index vector : Nat) : SetupStatus × Transport :=
  if vector ≠ msiNoVector then
    let (vector, s) :=
      ((s.selectQueue index).iowriteQueue fun regs => { regs with vector := vector }).ioread16 e
    (if vector = msiNoVector then .deviceBusy else .success, s)
  else (.success, s)

/-- Give the memory of a queue back. -/
def freeQueue (vq queue : Option Nat) : Option Transport := do
  let s ← s.freeNonpagedBlock vq
  s.freeContiguousPages queue

/-- `vio_modern_setup_vq` from where the pages are allocated. -/
def setupRing (index off vector num queue : Nat) :
    Option (Except SetupStatus Nat × Transport) :=
  let (block, s) := s.allocNonpagedBlock e 0
  match block with
  | none => (s.freeQueue none (some queue)).map fun s => (.error .insufficientResources, s)
  | some vq => do
      let created ← newVirtqueue s.vdev.packedRing num
      if ¬ created then
        let s ← s.freeQueue (some vq) (some queue)
        pure (.error .insufficientResources, s)
      else
        let (status, s) := (s.activateQueue num queue).mapNotify e off
        if status ≠ .success then
          let s ← s.freeQueue (some vq) (some queue)
          pure (.error status, s)
        else
          let (status, s) := s.assignVector e index vector
          if status ≠ .success then
            let s ← s.freeQueue (some vq) (some queue)
            pure (.error status, s)
          else pure (.ok vq, s.iowriteQueue fun regs => { regs with enable := true })

/-- `vio_modern_setup_vq` -/
def setupVq (index vector : Nat) : Option (Except SetupStatus Nat × Transport) :=
  match s.queryVqAlloc e index with
  | (.error status, s) => some (.error status, s)
  | (.ok num, s) => do
      let (off, s) := s.ioread16 e
      let (queue, num, s) ← allocRing e s.vdev.packedRing (num + 1) num s
      let s := s.setInfo index { s.vdev.infos index with num := num, queue := queue }
      match queue with
      | none => pure (.error .insufficientResources, s)
      | some queue => s.setupRing e index off vector num queue

/-- `vp_setup_vq` -/
def vpSetupVq (index vector : Nat) : Option (SetupStatus × Transport) := do
  let (result, s) ← s.setupVq e index vector
  match result with
  | .error status => pure (status, s)
  | .ok vq => pure (.success, s.setInfo index { s.vdev.infos index with vq := some vq })

/-- `vio_modern_del_vq`, after which the entry in `info` is cleared. -/
def delVq (index : Nat) : Option Transport := do
  let s := s.selectQueue index
  let s := if s.vdev.msixUsed then s.iowriteQueue fun regs => { regs with vector := msiNoVector }
    else s
  let s ← s.freeQueue (s.vdev.infos index).vq (s.vdev.infos index).queue
  pure (s.setInfo index { s.vdev.infos index with vq := none })

/-- `virtio_reserve_queue_memory` -/
def reserveQueueMemory (nvqs : Nat) : Option (SetupStatus × Transport) :=
  if s.vdev.maxQueues < nvqs then
    match s.allocNonpagedBlock e 0 with
    | (none, s) => some (.insufficientResources, s)
    | (some info, s) => do
        let s ←
          match s.vdev.info with
          | .block old => s.freeNonpagedBlock (some old)
          | _ => some s
        pure (.success, { s with
          vdev.info := .block info
          vdev.infos := fun _ => ⟨none, 0, none⟩
          vdev.maxQueues := nvqs })
  else some (.success, s)

/-- `vdev_get_msix_vector` of a queue. -/
def msixVector (index : Nat) : Nat := if e.msi then (index + 1) % 2 ^ 16 else msiNoVector

/-- `vio_modern_set_config_vector` with `VIRTIO_GPU_MSIX_CONFIG_VECTOR`, and whether it is set. -/
def assignConfigVector : SetupStatus × Transport :=
  let (vector, s) := ({ s with cfg.configVector := 0 }).ioread16 e
  (if vector = msiNoVector then .deviceBusy else .success, s)

/-- `virtio_set_features` of features that include `VIRTIO_F_VERSION_1`. -/
def virtioSetFeatures (features : List Nat) : SetupStatus × Transport :=
  let s := { s with vdev.packedRing := features.contains 34 }
  if e.accepts s.time then (.success, s.tick.addStatus statusFeaturesOk)
  else (.invalidParameter, s.tick)

/-- The features are acknowledged that the driver knows of, and set. -/
def ackFeatures : SetupStatus × Transport :=
  if ¬ e.offers s.time 32 then (.unsuccessful, s.tick)
  else s.tick.virtioSetFeatures e (32 :: if e.offers s.time 33 then [33] else [])

/-- `virtio_device_shutdown` -/
def virtioDeviceShutdown : Option Transport :=
  match s.vdev.info with
  | .block info => (s.freeNonpagedBlock (some info)).map fun s => { s with vdev.info := .null }
  | _ => some s

end Transport

/-- What a round of the wait for a reset reads. -/
structure ResetRead where
  /-- `device_status` -/
  status : BitVec 8
  /-- The PCI configuration space can be read, and is not all ones. -/
  readable : Bool

/-- The driver, which the device watches. -/
abbrev Driver (Value : Type) : Type 1 := Transition.Program Transport ResetRead Value

namespace Driver

open Transition.Program (step gets modify wait)

variable (e : Env)

/-- `vio_modern_reset`. That 0 has been written is seen when the status is read. -/
def vioModernReset : Driver Unit :=
  wait fun read s => ({ s with cfg.status := read.status }, read.status = 0 || !read.readable)

/-- The loop of `virtio_delete_queues`, over the next so many queues. -/
def deleteFrom : (rounds index : Nat) → Driver Unit
  | 0, _ => pure ()
  | rounds + 1, index => do
      step fun s =>
        if (s.vdev.infos index).vq.isSome then (s.delVq index).map ((), ·) else some ((), s)
      deleteFrom rounds (index + 1)

/-- `virtio_delete_queues` -/
def virtioDeleteQueues : Driver Unit := do
  let vdev ← gets Transport.vdev
  if vdev.info = .null then pure () else deleteFrom vdev.maxQueues 0

/-- The loop of `virtio_find_queues`, over the next so many queues. -/
def findFrom : (rounds index : Nat) → Driver SetupStatus
  | 0, _ => pure .success
  | rounds + 1, index => do
      let status ← step fun s => s.vpSetupVq e index (Transport.msixVector e index)
      if status ≠ .success then pure status else findFrom rounds (index + 1)

/-- What is left of `virtio_find_queues` when there is memory for what is known about the
queues. -/
def findReserved (nvqs : Nat) : Driver SetupStatus := do
  let status ← step fun s => some (s.assignConfigVector e)
  let status ← (if status ≠ .success then pure status else findFrom e nvqs 0)
  if status ≠ .success then do
    virtioDeleteQueues
    pure status
  else pure .success

/-- `virtio_find_queues` -/
def virtioFindQueues (nvqs : Nat) : Driver SetupStatus := do
  let status ← step fun s => s.reserveQueueMemory e nvqs
  if status ≠ .success then pure status else findReserved e nvqs

/-- `virtio_device_initialize` of a modern device. -/
def virtioDeviceInitialize : Driver SetupStatus := do
  modify fun s => { s with vdev := ⟨e.msi, false, ⟨false, 0, 0⟩, maxQueuesDefault, .inline,
    fun _ => ⟨none, 0, none⟩⟩ }
  match ← step fun s => some (e.initializes s.time, s.tick) with
  | none => pure .invalidParameter
  | some notify => do
      modify fun s => { s with vdev.notify := notify }
      vioModernReset
      modify (Transport.addStatus · statusAcknowledge)
      modify (Transport.addStatus · statusDriver)
      pure .success

/-- The block of `VioGpuAdapterLiteInit` that can be left; it asks for `nvqs` queues. -/
def negotiate (nvqs : Nat) : Driver SetupStatus := do
  let status ← step fun s => some (s.ackFeatures e)
  if status ≠ .success then pure status else virtioFindQueues e nvqs

/-- What is left of `VioGpuAdapterLiteInit` when the device is there. -/
def bringUp (nvqs : Nat) : Driver SetupStatus := do
  let status ← negotiate e nvqs
  if status = .success then do
    modify (Transport.addStatus · statusDriverOk)
    modify fun s => { s with hardwareInit := true }
    pure status
  else do
    modify (Transport.addStatus · statusFailed)
    pure status

/-- `VioGpuAdapterLiteInit` -/
def adapterLiteInit (nvqs : Nat) : Driver SetupStatus := do
  if ← gets Transport.hardwareInit then pure .success
  else do
    let status ← virtioDeviceInitialize e
    if status ≠ .success then pure status else bringUp e nvqs

/-- `VioGpuAdapterLiteClose` -/
def adapterLiteClose : Driver Unit := do
  if ← gets Transport.hardwareInit then do
    modify fun s => { s with hardwareInit := false }
    vioModernReset
    virtioDeleteQueues
    step fun s => s.virtioDeviceShutdown.map ((), ·)
  else pure ()

/-- What the driver is asked to do. -/
inductive Call
  | init
  | close

/-- The program of a call, with `nvqs` queues. -/
def body (nvqs : Nat) : Call → Driver Unit
  | .init => do
      let _ ← adapterLiteInit e nvqs
  | .close => adapterLiteClose

end Driver

end VirtDisplay.Virtio
