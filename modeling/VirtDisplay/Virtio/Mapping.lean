/-
# Mapping the structures of the device

A vendor capability says in which BAR a structure of the device lies, where it begins there and
how long it is. `vio_modern_initialize` turns what the capabilities say into pointers, and the
address at which a queue is notified is derived from them later.

A pointer is into a mapping of a whole BAR. The driver insists on a part of a structure, and
checks that this part lies in the BAR; the length that it asks for may be greater, and nobody
looks at it. So what it reaches of the notifications and of the configuration lies in the BAR
if the capability does, while the rest lies there in any case.
-/

import VirtDisplay.Lifecycle.PciResources
import VirtDisplay.Virtio.Capabilities
import VirtDisplay.Virtio.Transport

namespace VirtDisplay.Virtio

open PciResources (CPciResources pciType0Addresses)

/-- An address in a BAR that is mapped. -/
structure BarPointer where
  bar : Nat
  offset : Nat
  deriving DecidableEq

section

variable (r : CPciResources) (maps : Fin pciType0Addresses → Bool)

/-- `GetBarSize` -/
def getBarSize (bar : Nat) : Nat :=
  if h : bar < pciType0Addresses then (r.bars ⟨bar, h⟩).size.toNat else 0

/-- `GetMappedAddress` of a BAR in memory; `maps` says for which BARs `GetVA` gives an address. -/
def getMappedAddress (bar uOffset : Nat) : Option BarPointer :=
  if h : bar < pciType0Addresses then
    if uOffset < getBarSize r bar ∧ maps ⟨bar, h⟩ then some ⟨bar, uOffset⟩ else none
  else none

end

/-- `pci_read_config_dword` -/
def ConfigSpace.readDword (c : ConfigSpace) (i : Nat) : Option (BitVec 32) := do
  let low ← c.readWord i
  let high ← c.readWord (i + 2)
  pure (.ofNat 32 (low + 2 ^ 16 * high))

/-- What is read of a `virtio_pci_cap`. -/
structure PciCap where
  bar : Nat
  offset : BitVec 32
  length : BitVec 32

/-- Read a capability; what cannot be read stays as it is in the variables. -/
def capAt (c : ConfigSpace) (stale : PciCap) (offset : Nat) : PciCap where
  bar := capBar c stale.bar offset
  offset := (c.readDword (offset + 8)).getD stale.offset
  length := (c.readDword (offset + 12)).getD stale.length

/-- The structure lies in its BAR. -/
def PciCap.Fits (cap : PciCap) (r : CPciResources) : Prop :=
  cap.offset.toNat + cap.length.toNat ≤ getBarSize r cap.bar

instance (cap : PciCap) (r : CPciResources) : Decidable (cap.Fits r) :=
  inferInstanceAs (Decidable (_ ≤ _))

section

variable (r : CPciResources) (maps : Fin pciType0Addresses → Bool) (cap : PciCap)

/-- `vio_modern_map_capability`, with what it writes to `len`. `pci_map_address_range` ignores
the length that it is given. -/
def mapCapability (minlen : Nat) (alignment start size : BitVec 32) :
    Option (BarPointer × BitVec 32) :=
  if pciType0Addresses ≤ cap.bar then none
  else if cap.length.toNat < start.toNat + minlen then none
  else
    let length := cap.length - start
    let offset := cap.offset + start
    if offset &&& (alignment - 1) ≠ 0 then none
    else
      let length := if size < length then size else length
      if getBarSize r cap.bar < offset.toNat + minlen then none
      else (getMappedAddress r maps cap.bar offset.toNat).map fun p => (p, length)

/-- `vio_modern_map_simple_capability` -/
def mapSimpleCapability (length : Nat) (alignment : BitVec 32) : Option BarPointer :=
  (mapCapability r maps cap length alignment 0#32 (.ofNat 32 length)).map Prod.fst

end

variable {r : CPciResources} {maps : Fin pciType0Addresses → Bool} {cap : PciCap}
variable {minlen : Nat} {alignment start size length : BitVec 32} {p : BarPointer}

theorem eq_of_getMappedAddress {bar uOffset : Nat}
    (h : getMappedAddress r maps bar uOffset = some p) : p = ⟨bar, uOffset⟩ := by
  unfold getMappedAddress at h
  split at h
  next =>
    rw [Option.ite_none_right_eq_some] at h
    exact (Option.some.inj h.2).symm
  next => cases h

/-- The driver has what it insists on, in the BAR and aligned, and never more than there is. -/
theorem mapCapability_spec
    (h : mapCapability r maps cap minlen alignment start size = some (p, length)) :
    p = ⟨cap.bar, (cap.offset + start).toNat⟩ ∧ start.toNat + minlen ≤ cap.length.toNat ∧
      (cap.offset + start) &&& (alignment - 1) = 0 ∧
      length.toNat = min size.toNat (cap.length.toNat - start.toNat) ∧
      (cap.offset + start).toNat + minlen ≤ getBarSize r cap.bar := by
  unfold mapCapability at h
  rw [Option.ite_none_left_eq_some, Option.ite_none_left_eq_some] at h
  obtain ⟨-, hlength, h⟩ := h
  dsimp only at h
  rw [Option.ite_none_left_eq_some, Option.ite_none_left_eq_some, not_not] at h
  obtain ⟨haligned, hbar, h⟩ := h
  obtain ⟨p', hmapped, hpair⟩ := Option.map_eq_some_iff.mp h
  obtain ⟨rfl, rfl⟩ := Prod.mk.inj hpair
  have hsub : (cap.length - start).toNat = cap.length.toNat - start.toNat := by
    rw [BitVec.toNat_sub_of_le]
    rw [BitVec.le_def]
    omega
  refine ⟨eq_of_getMappedAddress hmapped, by omega, haligned, ?_, by omega⟩
  rw [← hsub]
  split
  next hless => exact (Nat.min_eq_left (Nat.le_of_lt hless)).symm
  next hle => exact (Nat.min_eq_right (Nat.le_of_not_lt hle)).symm

theorem mapSimpleCapability_within {n : Nat}
    (h : mapSimpleCapability r maps cap n alignment = some p) :
    p.offset + n ≤ getBarSize r p.bar := by
  obtain ⟨⟨p', length⟩, hmap, rfl⟩ := Option.map_eq_some_iff.mp h
  obtain ⟨rfl, -, -, -, hbar⟩ := mapCapability_spec hmap
  exact hbar

/-- If the capability lies in its BAR, so does all that has been asked for from its start. -/
theorem PciCap.Fits.mapped (hfits : cap.Fits r)
    (h : mapCapability r maps cap minlen alignment 0#32 size = some (p, length)) :
    p.offset + length.toNat ≤ getBarSize r p.bar := by
  obtain ⟨rfl, -, -, hlength, -⟩ := mapCapability_spec h
  rw [BitVec.add_zero, hlength]
  exact Nat.le_trans (Nat.add_le_add_left (Nat.min_le_right ..) _) hfits

/-- Why `vio_modern_initialize` fails. -/
inductive InitFailure
  | deviceNotConnected
  | invalidParameter
  deriving DecidableEq

/-- What `vio_modern_initialize` learns about the device. -/
structure Modern where
  common : BarPointer
  isr : BarPointer
  /-- `notify_base`; where there is none, each queue is mapped by itself. -/
  notifyBase : Option BarPointer
  notifyLen : Nat
  notifyOffsetMultiplier : BitVec 32
  config : Option BarPointer
  configLen : Nat

/-- `sizeof(struct virtio_pci_common_cfg)` -/
def commonCfgSize : Nat := 56

/-- A pointer that initialization fails without. -/
def needed {α : Type} : Option α → Except InitFailure α
  | none => .error .invalidParameter
  | some a => .ok a

section

variable (r : CPciResources) (maps : Fin pciType0Addresses → Bool)
variable (c : ConfigSpace) (stale : Nat → PciCap) (offsets : Nat → Nat)

/-- The capability for structures of type `t`. -/
def capOf (t : Nat) : PciCap := capAt c (stale t) (offsets t)

/-- Map the notify capability if it is small enough. The sum has 32 bits. The variables of
`vio_modern_initialize` itself are at 0 in `stale`. -/
def mapNotifyBase : Except InitFailure (Option BarPointer × Nat) :=
  let noted := capAt c (stale 0) (offsets 2)
  if noted.length + .ofNat 32 (noted.offset.toNat % pageSize) ≤ .ofNat 32 pageSize then do
    let (base, len) ← needed (mapCapability r maps (capOf c stale offsets 2) 2 2 0#32 noted.length)
    pure (some base, len.toNat)
  else pure (none, 0)

/-- Map the device configuration, if there is one. -/
def mapConfig : Except InitFailure (Option BarPointer × Nat) :=
  if offsets 4 = 0 then pure (none, 0)
  else do
    let (config, len) ←
      needed (mapCapability r maps (capOf c stale offsets 4) 0 4 0#32 (.ofNat 32 pageSize))
    pure (some config, len.toNat)

/-- `vio_modern_initialize`, once the capabilities have been found at these offsets. -/
def vioModernInitialize : Except InitFailure Modern :=
  if offsets 1 = 0 then .error .deviceNotConnected
  else if offsets 3 = 0 ∨ offsets 2 = 0 then .error .invalidParameter
  else do
    let common ← needed (mapSimpleCapability r maps (capOf c stale offsets 1) commonCfgSize 4)
    let isr ← needed (mapSimpleCapability r maps (capOf c stale offsets 3) 1 1)
    let (notifyBase, notifyLen) ← mapNotifyBase r maps c stale offsets
    let (config, configLen) ← mapConfig r maps c stale offsets
    pure {
      common, isr, notifyBase, notifyLen, config, configLen
      notifyOffsetMultiplier := (c.readDword (offsets 2 + 16)).getD 0 }

end

namespace Modern

variable (m : Modern)

/-- The part of the notification structure that the setup of a queue reads. -/
def notify : NotifyCfg := ⟨m.notifyBase.isSome, m.notifyOffsetMultiplier.toNat, m.notifyLen⟩

section

variable (r : CPciResources) (maps : Fin pciType0Addresses → Bool) (cap : PciCap)

/-- Map the notification address of one queue. The product has 32 bits. -/
def mapQueue (off : Nat) : Option BarPointer :=
  (mapCapability r maps cap 2 2 (.ofNat 32 off * m.notifyOffsetMultiplier) 2).map Prod.fst

/-- `notification_addr` in `vio_modern_setup_vq`, for the offset that the device has given. -/
def notificationAddr (off : Nat) : Except SetupStatus BarPointer :=
  match m.notifyBase with
  | some base =>
      if m.notifyLen < off * m.notifyOffsetMultiplier.toNat + 2 then .error .invalidParameter
      else .ok { base with
        offset := base.offset + (BitVec.ofNat 32 off * m.notifyOffsetMultiplier).toNat }
  | none =>
      match m.mapQueue r maps cap off with
      | none => .error .insufficientResources
      | some p => .ok p

end

/-- The address that `vio_modern_get_config` reads at, and `vio_modern_set_config` writes to. -/
def configAddr (offset len : BitVec 32) : Option BarPointer :=
  m.config.bind fun config =>
    if m.configLen < (offset + len).toNat then none
    else if len = 1 ∨ len = 2 ∨ len = 4 then
      some { config with offset := config.offset + offset.toNat }
    else none

/-- `sizeof(GPU_CONFIG)` -/
def gpuConfigSize : Nat := 16

/-- The driver reads and writes so many bytes from a pointer. -/
inductive Accesses (r : CPciResources) (cap : PciCap) : BarPointer → Nat → Prop
  | common : Accesses r cap m.common commonCfgSize
  | isr : Accesses r cap m.isr 1
  /-- A queue is notified by its number. -/
  | notify {maps : Fin pciType0Addresses → Bool} {off : Nat} {p : BarPointer}
      (h : m.notificationAddr r maps cap off = .ok p) : Accesses r cap p 2
  /-- A field of the configuration. -/
  | config {offset len : BitVec 32} {p : BarPointer}
      (field : offset.toNat + len.toNat ≤ gpuConfigSize) (h : m.configAddr offset len = some p) :
      Accesses r cap p len.toNat

end Modern

variable {c : ConfigSpace} {stale : Nat → PciCap} {offsets : Nat → Nat} {m : Modern}

theorem eq_some_of_needed {α : Type} {o : Option α} {a : α} (h : needed o = .ok a) :
    o = some a := by
  cases o with
  | none => cases h
  | some b =>
      cases h
      rfl

theorem ok_of_bind {α β : Type} {x : Except InitFailure α} {f : α → Except InitFailure β} {b : β}
    (h : x >>= f = .ok b) : ∃ a, x = .ok a ∧ f a = .ok b := by
  cases x with
  | error failure => cases h
  | ok a => exact ⟨a, rfl, h⟩

theorem mapNotifyBase_spec {base : Option BarPointer} {len : Nat}
    (h : mapNotifyBase r maps c stale offsets = .ok (base, len)) :
    len < 2 ^ 32 ∧ ∀ p, base = some p → (capOf c stale offsets 2).Fits r →
      p.offset + len ≤ getBarSize r p.bar := by
  unfold mapNotifyBase at h
  dsimp only at h
  split at h
  next =>
    obtain ⟨⟨p, length⟩, hmap, h⟩ := ok_of_bind h
    obtain ⟨rfl, rfl⟩ := Prod.mk.inj (Except.ok.inj h)
    refine ⟨length.isLt, ?_⟩
    rintro _ ⟨⟩ hfits
    exact hfits.mapped (eq_some_of_needed hmap)
  next =>
    obtain ⟨rfl, rfl⟩ := Prod.mk.inj (Except.ok.inj h)
    exact ⟨Nat.two_pow_pos 32, nofun⟩

theorem mapConfig_spec {config : Option BarPointer} {len : Nat}
    (h : mapConfig r maps c stale offsets = .ok (config, len)) :
    ∀ p, config = some p → (capOf c stale offsets 4).Fits r →
      p.offset + len ≤ getBarSize r p.bar := by
  unfold mapConfig at h
  split at h
  next =>
    obtain ⟨rfl, rfl⟩ := Prod.mk.inj (Except.ok.inj h)
    exact nofun
  next =>
    obtain ⟨⟨p, length⟩, hmap, h⟩ := ok_of_bind h
    obtain ⟨rfl, rfl⟩ := Prod.mk.inj (Except.ok.inj h)
    rintro _ ⟨⟩ hfits
    exact hfits.mapped (eq_some_of_needed hmap)

namespace Modern

/-- How far its pointers are good. -/
structure Good (m : Modern) (r : CPciResources) (notify config : PciCap) : Prop where
  common : m.common.offset + commonCfgSize ≤ getBarSize r m.common.bar
  isr : m.isr.offset + 1 ≤ getBarSize r m.isr.bar
  notifyLen_lt : m.notifyLen < 2 ^ 32
  notify_le : ∀ p, m.notifyBase = some p → notify.Fits r →
    p.offset + m.notifyLen ≤ getBarSize r p.bar
  config_le : ∀ p, m.config = some p → config.Fits r →
    p.offset + m.configLen ≤ getBarSize r p.bar

theorem good_of_initialize (h : vioModernInitialize r maps c stale offsets = .ok m) :
    m.Good r (capOf c stale offsets 2) (capOf c stale offsets 4) := by
  unfold vioModernInitialize at h
  split at h
  next => cases h
  next =>
    split at h
    next => cases h
    next =>
      obtain ⟨common, hcommon, h⟩ := ok_of_bind h
      obtain ⟨isr, hisr, h⟩ := ok_of_bind h
      obtain ⟨⟨base, len⟩, hnotify, h⟩ := ok_of_bind h
      obtain ⟨⟨config, configLen⟩, hconfig, h⟩ := ok_of_bind h
      obtain rfl := Except.ok.inj h
      obtain ⟨hlt, hle⟩ := mapNotifyBase_spec hnotify
      exact {
        common := mapSimpleCapability_within (eq_some_of_needed hcommon)
        isr := mapSimpleCapability_within (eq_some_of_needed hisr)
        notifyLen_lt := hlt, notify_le := hle, config_le := mapConfig_spec hconfig }

/-- The setup of a queue maps its notification address as `notificationAddr` does. -/
theorem mapNotify_eq {e : Env} {s : Transport} {off : Nat} (hnotify : s.vdev.notify = m.notify)
    (hmaps : e.maps s.time = (m.mapQueue r maps cap off).isSome) :
    (s.mapNotify e off).1 =
      match m.notificationAddr r maps cap off with
      | .ok _ => .success
      | .error status => status := by
  unfold Transport.mapNotify notificationAddr
  rw [hnotify, hmaps]
  cases hbase : m.notifyBase with
  | some base =>
      simp only [notify, hbase, Option.isSome_some, if_true]
      split
      next => rfl
      next => rfl
  | none =>
      simp only [notify, hbase, Option.isSome_none, Bool.false_eq_true, if_false]
      cases m.mapQueue r maps cap off with
      | none => rfl
      | some p => rfl

/-- Notifying through the base takes the whole of it, as far as it may be used, to lie in the BAR.
A queue that is mapped by itself is always notified in its BAR. -/
theorem notificationAddr_within {off : Nat} (hlt : m.notifyLen < 2 ^ 32)
    (hle : ∀ base, m.notifyBase = some base → base.offset + m.notifyLen ≤ getBarSize r base.bar)
    (h : m.notificationAddr r maps cap off = .ok p) : p.offset + 2 ≤ getBarSize r p.bar := by
  unfold notificationAddr at h
  cases hbase : m.notifyBase with
  | some base =>
      rw [hbase] at h
      dsimp only at h
      split at h
      next => cases h
      next hfits =>
        obtain rfl := Except.ok.inj h
        have hbar := hle base hbase
        -- the product does not wrap, since it is less than the length
        have hproduct : (BitVec.ofNat 32 off * m.notifyOffsetMultiplier).toNat =
            off * m.notifyOffsetMultiplier.toNat := by
          rw [BitVec.toNat_mul, BitVec.toNat_ofNat, Nat.mod_mul_mod]
          exact Nat.mod_eq_of_lt (by omega)
        dsimp only
        omega
  | none =>
      rw [hbase] at h
      dsimp only at h
      cases hmap : m.mapQueue r maps cap off with
      | none =>
          rw [hmap] at h
          cases h
      | some q =>
          rw [hmap] at h
          obtain rfl := Except.ok.inj h
          obtain ⟨⟨q', length⟩, hqueue, rfl⟩ := Option.map_eq_some_iff.mp hmap
          obtain ⟨rfl, -, -, -, hbar⟩ := mapCapability_spec hqueue
          exact hbar

theorem configAddr_within {offset len : BitVec 32} (hsum : offset.toNat + len.toNat < 2 ^ 32)
    (hle : ∀ base, m.config = some base → base.offset + m.configLen ≤ getBarSize r base.bar)
    (h : m.configAddr offset len = some p) : p.offset + len.toNat ≤ getBarSize r p.bar := by
  obtain ⟨base, hconfig, h⟩ := Option.bind_eq_some_iff.mp h
  rw [Option.ite_none_left_eq_some, Option.ite_none_right_eq_some] at h
  obtain ⟨hfits, -, h⟩ := h
  obtain rfl := Option.some.inj h
  rw [BitVec.toNat_add, Nat.mod_eq_of_lt hsum] at hfits
  have hbar := hle base hconfig
  dsimp only
  omega

end Modern

/-- Whatever the capabilities say, and however the mappings come out: if the driver initializes
the device, then all that it reads and writes lies in a BAR. For the notifications through a
common base and for the configuration this takes a capability that lies in its BAR; without it,
they may be outside. -/
theorem accesses_within (hinit : vioModernInitialize r maps c stale offsets = .ok m)
    (hnotify : m.notifyBase.isSome = true → (capOf c stale offsets 2).Fits r)
    (hconfig : m.config.isSome = true → (capOf c stale offsets 4).Fits r) {n : Nat}
    (haccess : m.Accesses r cap p n) : p.offset + n ≤ getBarSize r p.bar := by
  have hgood := Modern.good_of_initialize hinit
  cases haccess with
  | common => exact hgood.common
  | isr => exact hgood.isr
  | notify haddr =>
      refine Modern.notificationAddr_within hgood.notifyLen_lt (fun base hbase => ?_) haddr
      exact hgood.notify_le base hbase (hnotify (Option.isSome_of_eq_some hbase))
  | config hfield haddr =>
      refine Modern.configAddr_within (Nat.lt_of_le_of_lt hfield (by decide)) (fun base hbase => ?_)
        haddr
      exact hgood.config_le base hbase (hconfig (Option.isSome_of_eq_some hbase))

/-- Four structures of 4096 bytes each, one behind the other in BAR 4. -/
def fourStructures : ConfigSpace := fun i => some <| BitVec.toFin <|
  match i with
  | 0x44 | 0x54 | 0x64 | 0x74 => 0x04#8
  | 0x59 => 0x10#8
  | 0x69 => 0x20#8
  | 0x79 => 0x30#8
  | 0x4D | 0x5D | 0x6D | 0x7D => 0x10#8
  | 0x80 => 0x04#8
  | _ => 0x00#8

/-- Where the capabilities of the four structures are. -/
def fourOffsets : Nat → Nat
  | 1 => 0x40
  | 2 => 0x70
  | 3 => 0x50
  | 4 => 0x60
  | _ => 0

/-- A BAR that has that size. -/
def barOf (size : BitVec 32) : CPciResources :=
  { CPciResources.fresh with bars := fun bar => .ofMemory 0 (if bar = 4 then size else 0) }

theorem accesses_within_four : ∃ m, vioModernInitialize (barOf 0x4000) (fun _ => true)
      fourStructures (fun _ => ⟨0, 0, 0⟩) fourOffsets = .ok m ∧
    ∀ p n, m.Accesses (barOf 0x4000) ⟨0, 0, 0⟩ p n →
      p.offset + n ≤ getBarSize (barOf 0x4000) p.bar := by
  obtain ⟨m, hinit⟩ : ∃ m, vioModernInitialize (barOf 0x4000) (fun _ => true) fourStructures
    (fun _ => ⟨0, 0, 0⟩) fourOffsets = .ok m := ⟨_, rfl⟩
  exact ⟨m, hinit, fun p n => accesses_within hinit (fun _ => by decide) (fun _ => by decide)⟩

end VirtDisplay.Virtio
