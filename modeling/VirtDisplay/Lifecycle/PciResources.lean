/-
# The PCI resources of the device

`CPciResources::Init` walks the resource descriptors of the device. Memory belongs to the BAR
that starts at its address, if there is one, and is recorded there.

The device can be used if it has an interrupt, and memory in a BAR. The walk keeps the answer to
the second question in a variable that every descriptor of memory overwrites. So memory in no BAR
can take back what the memory before it has shown, and the verdict depends on the order.
-/

import Mathlib.Data.List.ReduceOption
import Mathlib.Logic.Function.Basic
import VirtDisplay.Lifecycle.HardwareInit

namespace VirtDisplay

namespace PciResources

/-- `PCI_TYPE0_ADDRESSES` -/
abbrev pciType0Addresses : Nat := 6

/-- `sizeof(PCI_COMMON_HEADER)` -/
abbrev pciCommonHeaderSize : Nat := 64

/-- The part of the header that BARs are looked up in. -/
structure PciCommonHeader where
  baseAddresses : Vector (BitVec 32) pciType0Addresses
  /-- The word behind them. -/
  cis : BitVec 32

namespace PciCommonHeader

variable (header : PciCommonHeader)

/-- `BaseAddresses[i]`, which is also read one past the last. -/
def baseAddress (i : Nat) : BitVec 32 :=
  if h : i < pciType0Addresses then header.baseAddresses[i] else header.cis

/-- The address of the BAR that begins at word `i`, and the last word that it takes. -/
def bar (i : Nat) : BitVec 64 × Nat :=
  let low := header.baseAddress i
  if low &&& 0x1#32 ≠ 0 then (0#32 ++ (low &&& 0xFFFFFFFC#32), i)
  else if low &&& 0x6#32 = 0x4#32 then
    (header.baseAddress (i + 1) ++ (low &&& 0xFFFFFFF0#32), i + 1)
  else (0#32 ++ (low &&& 0xFFFFFFF0#32), i)

/-- The loop of `virtio_get_bar_index`. -/
def barIndexFrom (basePA : BitVec 64) : (rounds i : Nat) → Option (Fin pciType0Addresses)
  | 0, _ => none
  | rounds + 1, i =>
      if h : i < pciType0Addresses then
        if (header.bar i).1 = basePA then some ⟨i, h⟩
        else barIndexFrom basePA rounds ((header.bar i).2 + 1)
      else none

/-- `virtio_get_bar_index`, where `none` is −1. -/
def virtioGetBarIndex (basePA : BitVec 64) : Option (Fin pciType0Addresses) :=
  header.barIndexFrom basePA pciType0Addresses 0

variable {header} {basePA basePA' : BitVec 64} {rounds i : Nat} {bar : Fin pciType0Addresses}

theorem le_bar_snd : i ≤ (header.bar i).2 := by
  dsimp only [PciCommonHeader.bar]
  split
  next => exact Nat.le_refl i
  next =>
    split
    next => exact Nat.le_succ i
    next => exact Nat.le_refl i

/-- There are at most as many rounds as words. -/
theorem barIndexFrom_succ (hrounds : pciType0Addresses ≤ i + rounds) :
    header.barIndexFrom basePA (rounds + 1) i = header.barIndexFrom basePA rounds i := by
  induction rounds generalizing i with
  | zero => exact dif_neg (Nat.not_lt.mpr hrounds)
  | succ rounds ih =>
      have hle : i ≤ (header.bar i).2 := le_bar_snd
      have hrest := @ih ((header.bar i).2 + 1) (by omega)
      exact congrArg (fun next => if h : i < pciType0Addresses then
        if (header.bar i).1 = basePA then some ⟨i, h⟩ else next else none) hrest

/-- The loop over the BARs ends by itself. -/
theorem virtioGetBarIndex_eq (hrounds : pciType0Addresses ≤ rounds) :
    header.virtioGetBarIndex basePA = header.barIndexFrom basePA rounds 0 := by
  induction rounds, hrounds using Nat.le_induction with
  | base => rfl
  | succ rounds hrounds ih => rw [ih, barIndexFrom_succ (by omega)]

theorem bar_of_barIndexFrom (hbar : header.barIndexFrom basePA rounds i = some bar) :
    (header.bar bar).1 = basePA := by
  induction rounds generalizing i with
  | zero => cases hbar
  | succ rounds ih =>
      unfold barIndexFrom at hbar
      split at hbar
      next =>
        split at hbar
        next hfound =>
          obtain rfl := Option.some.inj hbar
          exact hfound
        next => exact ih hbar
      next => cases hbar

/-- No two addresses are that of the same BAR. -/
theorem virtioGetBarIndex_inj (hbar : header.virtioGetBarIndex basePA = some bar)
    (hbar' : header.virtioGetBarIndex basePA' = some bar) : basePA = basePA' :=
  (bar_of_barIndexFrom hbar).symm.trans (bar_of_barIndexFrom hbar')

end PciCommonHeader

/-- `CM_PARTIAL_RESOURCE_DESCRIPTOR` -/
inductive CmDescriptor
  | port
  | interrupt (flags : BitVec 16)
  | memory (start : BitVec 64) (length : BitVec 32)
  | dma
  | deviceSpecific
  | busNumber
  | unsupported (type : BitVec 8)
  deriving DecidableEq

/-- `CPciBar` -/
structure CPciBar where
  basePA : BitVec 64
  size : BitVec 32
  baseVA : Option (BitVec 64)
  portSpace : Bool
  ioMapped : Bool
  deriving DecidableEq

/-- What a descriptor of memory is recorded as. -/
def CPciBar.ofMemory (start : BitVec 64) (length : BitVec 32) : CPciBar :=
  ⟨start, length, none, false, true⟩

/-- `CPciResources` -/
structure CPciResources where
  interruptFlags : BitVec 16
  bars : Fin pciType0Addresses → CPciBar

/-- A `CPciResources` just constructed. -/
def CPciResources.fresh : CPciResources := ⟨0, fun _ => ⟨0, 0, none, false, true⟩⟩

/-- The object and the local variables of `Init`. -/
structure PciScan where
  resources : CPciResources
  bar : Option (Fin pciType0Addresses)
  interruptFound : Bool

/-- What the bus answers. -/
structure BusAnswers where
  /-- `pvDeviceContext` is given. -/
  deviceContext : Bool
  bytesRead : Nat
  header : PciCommonHeader

section

variable (header : PciCommonHeader)

/-- Record memory in its BAR. -/
def recordBar (bars : Fin pciType0Addresses → CPciBar) :
    CmDescriptor → Fin pciType0Addresses → CPciBar
  | .memory start length =>
      match header.virtioGetBarIndex start with
      | none => bars
      | some bar => Function.update bars bar (.ofMemory start length)
  | _ => bars

/-- One round of the loop over the descriptors. -/
def recordDescriptor (scan : PciScan) : CmDescriptor → PciScan
  | .interrupt flags =>
      { scan with resources.interruptFlags := flags, interruptFound := true }
  | .memory start length =>
      { scan with
        resources.bars := recordBar header scan.resources.bars (.memory start length)
        -- also where it is in no BAR
        bar := header.virtioGetBarIndex start }
  | _ => scan

/-- The loop, and whether it gets to its end: it stops at a descriptor that cannot be fetched. -/
def enumerate : List (Option CmDescriptor) → PciScan → PciScan × Bool
  | [], scan => (scan, true)
  | none :: _, scan => (scan, false)
  | some d :: rest, scan => enumerate rest (recordDescriptor header scan d)

end

/-- `CPciResources::Init`. -/
def init (bus : BusAnswers) (descriptors : List (Option CmDescriptor)) (s : CPciResources) :
    Bool × CPciResources :=
  if ¬ bus.deviceContext then (false, s)
  else if bus.bytesRead ≠ pciCommonHeaderSize then (false, s)
  else
    let (scan, complete) := enumerate bus.header descriptors ⟨s, none, false⟩
    if ¬ complete then (false, scan.resources)
    else if scan.bar = none ∨ ¬ scan.interruptFound then (false, scan.resources)
    else (true, scan.resources)

/-- The bus can read the header of the device. -/
structure BusAnswers.Readable (bus : BusAnswers) : Prop where
  deviceContext : bus.deviceContext = true
  bytesRead : bus.bytesRead = pciCommonHeaderSize

section

variable (header : PciCommonHeader) (descriptors : List (Option CmDescriptor))

/-- Memory in different BARs, or in none. -/
def DistinctBars : Prop :=
  ∀ start length start' length' bar, some (.memory start length) ∈ descriptors →
    some (.memory start' length') ∈ descriptors → header.virtioGetBarIndex start = some bar →
    header.virtioGetBarIndex start' = some bar → start = start' ∧ length = length'

/-- One of the descriptors is an interrupt. -/
def HasInterrupt : Prop := ∃ flags, some (.interrupt flags) ∈ descriptors

/-- One of the descriptors is memory in a BAR. -/
def HasBar : Prop := ∃ start length, some (.memory start length) ∈ descriptors ∧
  (header.virtioGetBarIndex start).isSome

/-- All memory is in BARs. -/
def AllInBars : Prop := ∀ start length, some (.memory start length) ∈ descriptors →
  (header.virtioGetBarIndex start).isSome

/-- All memory in BARs is recorded already. -/
def AllRecorded (s : CPciResources) : Prop := ∀ start length bar,
  some (.memory start length) ∈ descriptors → header.virtioGetBarIndex start = some bar →
  s.bars bar = .ofMemory start length

end

/-- What makes a device usable. -/
structure Usable (bus : BusAnswers) (descriptors : List (Option CmDescriptor)) : Prop where
  readable : bus.Readable
  fetched : none ∉ descriptors
  interrupt : HasInterrupt descriptors
  bar : HasBar bus.header descriptors

/-- `Init` tells whether the device is usable, and neither its verdict nor what it records depends
on the order of the descriptors. -/
structure OrderFree (bus : BusAnswers) (descriptors : List (Option CmDescriptor))
    (s : CPciResources) : Prop where
  verdict : ∀ order, order.Perm descriptors →
    ((init bus order s).1 = true ↔ Usable bus descriptors)
  same : ∀ order, order.Perm descriptors → (init bus order s).1 = (init bus descriptors s).1
  bars : ∀ order, order.Perm descriptors →
    (init bus order s).2.bars = (init bus descriptors s).2.bars

/-- The descriptors before the first that cannot be fetched. -/
def fetched (descriptors : List (Option CmDescriptor)) : List CmDescriptor :=
  (descriptors.takeWhile Option.isSome).reduceOption

variable {header : PciCommonHeader} {bus : BusAnswers} {descriptors : List (Option CmDescriptor)}
  {ds : List CmDescriptor} {d d' : CmDescriptor} {s : CPciResources} {scan : PciScan}
  {bars : Fin pciType0Addresses → CPciBar}

theorem some_mem_of_mem_fetched (hmem : d ∈ fetched descriptors) : some d ∈ descriptors :=
  (List.takeWhile_sublist _).subset (List.reduceOption_mem_iff.mp hmem)

theorem fetched_of_complete (hcomplete : none ∉ descriptors) :
    fetched descriptors = descriptors.reduceOption := by
  refine congrArg List.reduceOption (List.takeWhile_eq_self_iff.mpr fun d hmem => ?_)
  cases d with
  | none => exact absurd hmem hcomplete
  | some d => rfl

theorem enumerate_eq : enumerate header descriptors scan =
    ((fetched descriptors).foldl (recordDescriptor header) scan,
      decide (none ∉ descriptors)) := by
  induction descriptors generalizing scan with
  | nil => rfl
  | cons d rest ih =>
      cases d with
      | none => exact congrArg (Prod.mk scan) (decide_eq_false (by simp)).symm
      | some d =>
          rw [enumerate, ih]
          refine congrArg (Prod.mk _) (decide_eq_decide.mpr ?_)
          simp

theorem init_of_not_readable (hunreadable : ¬ bus.Readable) :
    init bus descriptors s = (false, s) := by
  unfold init
  split
  next => rfl
  next hcontext =>
    rw [if_pos fun hbytes => hunreadable ⟨by simpa using hcontext, hbytes⟩]

/-- The walk over the descriptors of a device. -/
def walk (header : PciCommonHeader) (descriptors : List (Option CmDescriptor))
    (s : CPciResources) : PciScan :=
  (fetched descriptors).foldl (recordDescriptor header) ⟨s, none, false⟩

theorem init_of_readable (hreadable : bus.Readable) : init bus descriptors s =
    (decide (none ∉ descriptors ∧ (walk bus.header descriptors s).bar ≠ none ∧
      (walk bus.header descriptors s).interruptFound = true),
      (walk bus.header descriptors s).resources) := by
  rw [init, if_neg (not_not.mpr hreadable.deviceContext), if_neg (not_not.mpr hreadable.bytesRead),
    enumerate_eq, ← walk]
  generalize walk bus.header descriptors s = scan
  dsimp only
  by_cases hmissing : none ∈ descriptors
  · rw [if_pos (by simpa using hmissing), decide_eq_false fun h => h.1 hmissing]
  · rw [if_neg (by simpa using hmissing)]
    by_cases hfailed : scan.bar = none ∨ ¬ scan.interruptFound = true
    · rw [if_pos hfailed,
        decide_eq_false fun h => hfailed.elim h.2.1 fun hnot => hnot h.2.2]
    · rw [not_or, not_not] at hfailed
      rw [if_neg (by simpa using hfailed), decide_eq_true ⟨hmissing, hfailed⟩]

theorem walk_bars : (walk header descriptors s).resources.bars =
    (fetched descriptors).foldl (recordBar header) s.bars := by
  refine (List.foldl_hom (fun scan : PciScan => scan.resources.bars) fun scan d => ?_).symm
  cases d <;> rfl

theorem interruptFound_foldl :
    (ds.foldl (recordDescriptor header) scan).interruptFound = true ↔
      scan.interruptFound = true ∨ ∃ flags, .interrupt flags ∈ ds := by
  induction ds generalizing scan with
  | nil => simp
  | cons d ds ih =>
      rw [List.foldl_cons, ih]
      cases d <;> simp [recordDescriptor]

/-- The BAR of a descriptor counts until the next descriptor of memory. -/
theorem hasBar_of_bar_foldl (hbar : (ds.foldl (recordDescriptor header) scan).bar ≠ none) :
    scan.bar ≠ none ∨
      ∃ start length, .memory start length ∈ ds ∧ (header.virtioGetBarIndex start).isSome := by
  induction ds generalizing scan with
  | nil => exact .inl hbar
  | cons d ds ih =>
      rcases ih hbar with hscan | ⟨start, length, hmem, hsome⟩
      · cases d with
        | memory start length =>
            exact .inr ⟨start, length, List.mem_cons_self, Option.isSome_iff_ne_none.mpr hscan⟩
        | _ => exact .inl hscan
      · exact .inr ⟨start, length, List.mem_cons_of_mem d hmem, hsome⟩

theorem bar_foldl_ne_none
    (hall : ∀ start length, .memory start length ∈ ds → (header.virtioGetBarIndex start).isSome)
    (hmemory : scan.bar ≠ none ∨ ∃ start length, .memory start length ∈ ds) :
    (ds.foldl (recordDescriptor header) scan).bar ≠ none := by
  induction ds generalizing scan with
  | nil => exact hmemory.resolve_right fun ⟨_, _, hmem⟩ => nomatch hmem
  | cons d ds ih =>
      refine ih (fun start length hmem => hall start length (List.mem_cons_of_mem d hmem)) ?_
      cases d with
      | memory start length =>
          exact .inl (Option.isSome_iff_ne_none.mp (hall start length List.mem_cons_self))
      | _ =>
          refine hmemory.imp_right fun ⟨start, length, hmem⟩ => ⟨start, length, ?_⟩
          exact (List.mem_cons.mp hmem).resolve_left nofun

theorem recordBar_memory {start : BitVec 64} {length : BitVec 32} {bar : Fin pciType0Addresses}
    (hbar : header.virtioGetBarIndex start = some bar) :
    recordBar header bars (.memory start length) =
      Function.update bars bar (.ofMemory start length) := by
  rw [recordBar, hbar]

/-- A descriptor that is memory in a BAR, or one that is not recorded. -/
theorem recorded_cases (header : PciCommonHeader) (d : CmDescriptor) :
    (∃ start length bar, d = .memory start length ∧ header.virtioGetBarIndex start = some bar) ∨
      ∀ bars, recordBar header bars d = bars := by
  cases d with
  | memory start length =>
      cases hbar : header.virtioGetBarIndex start with
      | none =>
          refine .inr fun bars => ?_
          rw [recordBar, hbar]
      | some bar => exact .inl ⟨start, length, bar, rfl, hbar⟩
  | _ => exact .inr fun bars => rfl

/-- Descriptors can be recorded in any order. -/
theorem recordBar_comm (hdistinct : DistinctBars header descriptors)
    (hd : some d ∈ descriptors) (hd' : some d' ∈ descriptors) :
    recordBar header (recordBar header bars d) d' =
      recordBar header (recordBar header bars d') d := by
  rcases recorded_cases header d with ⟨start, length, bar, rfl, hbar⟩ | hnot
  · rcases recorded_cases header d' with ⟨start', length', bar', rfl, hbar'⟩ | hnot'
    · rw [recordBar_memory hbar, recordBar_memory hbar', recordBar_memory hbar,
        recordBar_memory hbar']
      by_cases hsame : bar = bar'
      · subst hsame
        obtain ⟨rfl, rfl⟩ := hdistinct _ _ _ _ _ hd hd' hbar hbar'
        rfl
      · exact Function.update_comm hsame _ _ _
    · rw [hnot', hnot']
  · rw [hnot, hnot]

/-- The records of a walk that gets to its end do not depend on the order. -/
theorem bars_perm {order : List (Option CmDescriptor)} (hdistinct : DistinctBars header descriptors)
    (hcomplete : none ∉ descriptors) (horder : order.Perm descriptors) :
    (walk header order s).resources.bars = (walk header descriptors s).resources.bars := by
  have hcomplete' : none ∉ order := fun hmem => hcomplete (horder.mem_iff.mp hmem)
  have hfetched : (fetched order).Perm (fetched descriptors) := by
    rw [fetched_of_complete hcomplete, fetched_of_complete hcomplete']
    exact horder.filterMap id
  rw [walk_bars, walk_bars]
  refine hfetched.foldl_eq' (fun d hd d' hd' bars => ?_) s.bars
  exact recordBar_comm hdistinct (some_mem_of_mem_fetched (hfetched.mem_iff.mp hd))
    (some_mem_of_mem_fetched (hfetched.mem_iff.mp hd'))

theorem foldl_recordBar_fixed (hfixed : ∀ d ∈ ds, recordBar header bars d = bars) :
    ds.foldl (recordBar header) bars = bars := by
  induction ds with
  | nil => rfl
  | cons d ds ih =>
      rw [List.foldl_cons, hfixed d List.mem_cons_self]
      exact ih fun d hmem => hfixed d (List.mem_cons_of_mem _ hmem)

/-- The BARs of a walk that stops do not depend on the order exactly if all of them are recorded
already. -/
theorem bars_perm_iff (hmissing : none ∈ descriptors) :
    (∀ order : List (Option CmDescriptor), order.Perm descriptors →
      (walk header order s).resources.bars = (walk header descriptors s).resources.bars) ↔
        AllRecorded header descriptors s := by
  constructor
  · intro hsame start length bar hmem hbar
    have hrest := List.perm_cons_erase hmissing
    have hmem' : some (.memory start length) ∈ descriptors.erase none :=
      (List.mem_erase_of_ne (Option.some_ne_none _)).mpr hmem
    -- one order stops at once, the other behind this descriptor
    have hstop := hsame _ hrest.symm
    have hrecord := hsame _ ((List.Perm.swap none (some (.memory start length)) _).trans
      (((List.perm_cons_erase hmem').symm.cons none).trans hrest.symm))
    have hupdate : Function.update s.bars bar (.ofMemory start length) = s.bars := by
      rw [← recordBar_memory hbar]
      exact (walk_bars.symm.trans (hrecord.trans hstop.symm)).trans walk_bars
    rw [← congrFun hupdate bar, Function.update_self]
  · intro hall order horder
    have hkept : ∀ order : List (Option CmDescriptor), order.Perm descriptors →
        (walk header order s).resources.bars = s.bars := by
      intro order horder
      rw [walk_bars]
      refine foldl_recordBar_fixed fun d hmem => ?_
      rcases recorded_cases header d with ⟨start, length, bar, rfl, hbar⟩ | hnot
      · have hmem' := horder.mem_iff.mp (some_mem_of_mem_fetched hmem)
        rw [recordBar_memory hbar, ← hall start length bar hmem' hbar, Function.update_eq_self]
      · exact hnot s.bars
    rw [hkept order horder, hkept descriptors (List.Perm.refl _)]

/-- The routine accepts usable devices only. -/
theorem usable_of_init (haccepts : (init bus descriptors s).1 = true) :
    Usable bus descriptors := by
  by_cases hreadable : bus.Readable
  · rw [init_of_readable hreadable, decide_eq_true_eq] at haccepts
    obtain ⟨hcomplete, hbar, hinterrupt⟩ := haccepts
    refine ⟨hreadable, hcomplete, ?_, ?_⟩
    · rcases interruptFound_foldl.mp hinterrupt with hnot | ⟨flags, hmem⟩
      · cases hnot
      · exact ⟨flags, some_mem_of_mem_fetched hmem⟩
    · rcases hasBar_of_bar_foldl hbar with hnot | ⟨start, length, hmem, hsome⟩
      · exact absurd rfl hnot
      · exact ⟨start, length, some_mem_of_mem_fetched hmem, hsome⟩
  · rw [init_of_not_readable hreadable] at haccepts
    cases haccepts

/-- A usable device is accepted if all its memory is in BARs. -/
theorem init_of_usable (husable : Usable bus descriptors)
    (hall : AllInBars bus.header descriptors) : (init bus descriptors s).1 = true := by
  obtain ⟨hreadable, hcomplete, ⟨flags, hinterrupt⟩, start, length, hmemory, -⟩ := husable
  have hfetched : ∀ d, some d ∈ descriptors → d ∈ fetched descriptors := fun d hmem => by
    rw [fetched_of_complete hcomplete]
    exact List.reduceOption_mem_iff.mpr hmem
  rw [init_of_readable hreadable, decide_eq_true_eq]
  refine ⟨hcomplete, bar_foldl_ne_none (fun start length hmem => ?_) (.inr ?_), ?_⟩
  · exact hall start length (some_mem_of_mem_fetched hmem)
  · exact ⟨start, length, hfetched _ hmemory⟩
  · exact interruptFound_foldl.mpr (.inr ⟨flags, hfetched _ hinterrupt⟩)

/-- A device whose last descriptor is memory in no BAR is not accepted. -/
theorem init_concat {start : BitVec 64} {length : BitVec 32}
    (hbar : bus.header.virtioGetBarIndex start = none) :
    (init bus (descriptors ++ [some (.memory start length)]) s).1 = false := by
  rw [Bool.eq_false_iff]
  intro haccepts
  have husable := usable_of_init haccepts
  have hlast : walk bus.header (descriptors ++ [some (.memory start length)]) s =
      recordDescriptor bus.header
        (descriptors.reduceOption.foldl (recordDescriptor bus.header) ⟨s, none, false⟩)
        (.memory start length) := by
    rw [walk, fetched_of_complete husable.fetched, List.reduceOption_append, List.foldl_append]
    rfl
  rw [init_of_readable husable.readable, decide_eq_true_eq, hlast] at haccepts
  exact haccepts.2.1 hbar

/-- Usability does not depend on the order. -/
theorem Usable.perm {order : List (Option CmDescriptor)} (husable : Usable bus descriptors)
    (horder : order.Perm descriptors) : Usable bus order := by
  obtain ⟨hreadable, hcomplete, ⟨flags, hinterrupt⟩, start, length, hmemory, hsome⟩ := husable
  exact ⟨hreadable, fun hmem => hcomplete (horder.mem_iff.mp hmem),
    ⟨flags, horder.mem_iff.mpr hinterrupt⟩, start, length, horder.mem_iff.mpr hmemory, hsome⟩

/-- The verdict is right in every order exactly if all memory of a usable device is in BARs. -/
theorem verdict_iff : (∀ order : List (Option CmDescriptor), order.Perm descriptors →
    ((init bus order s).1 = true ↔ Usable bus descriptors)) ↔
      (Usable bus descriptors → AllInBars bus.header descriptors) := by
  constructor
  · intro hverdict husable start length hmem
    rw [Option.isSome_iff_ne_none]
    intro hbar
    have horder : (descriptors.erase (some (CmDescriptor.memory start length)) ++
        [some (CmDescriptor.memory start length)]).Perm descriptors :=
      (List.perm_append_singleton _ _).trans (List.perm_cons_erase hmem).symm
    have haccepts := (hverdict _ horder).mpr husable
    rw [init_concat hbar] at haccepts
    cases haccepts
  · intro hall order horder
    constructor
    · exact fun haccepts => (usable_of_init haccepts).perm horder.symm
    · intro husable
      exact init_of_usable (husable.perm horder) fun start length hmem =>
        hall husable start length (horder.mem_iff.mp hmem)

/-- The order does not matter exactly if all memory of a usable device is in BARs, and nothing new
is recorded of a device some of whose descriptors cannot be fetched. -/
theorem orderFree_iff (hdistinct : DistinctBars bus.header descriptors) :
    OrderFree bus descriptors s ↔
      (Usable bus descriptors → AllInBars bus.header descriptors) ∧
        (bus.Readable → none ∈ descriptors → AllRecorded bus.header descriptors s) := by
  constructor
  · intro hfree
    refine ⟨verdict_iff.mp hfree.verdict, fun hreadable hmissing => ?_⟩
    refine (bars_perm_iff hmissing).mp fun order horder => ?_
    have hbars := hfree.bars order horder
    rwa [init_of_readable hreadable, init_of_readable hreadable] at hbars
  · rintro ⟨hall, hrecorded⟩
    have hverdict := verdict_iff (s := s).mpr hall
    refine ⟨hverdict, fun order horder => ?_, fun order horder => ?_⟩
    · rw [Bool.eq_iff_iff, hverdict order horder, hverdict descriptors (List.Perm.refl _)]
    · by_cases hreadable : bus.Readable
      · rw [init_of_readable hreadable, init_of_readable hreadable]
        by_cases hmissing : none ∈ descriptors
        · exact (bars_perm_iff hmissing).mpr (hrecorded hreadable hmissing) order horder
        · exact bars_perm hdistinct hmissing horder
      · rw [init_of_not_readable hreadable, init_of_not_readable hreadable]

/-- Memory is in different BARs if its address determines its length. -/
theorem distinctBars_of_lengths (hlengths : ∀ start length length',
    some (.memory start length) ∈ descriptors → some (.memory start length') ∈ descriptors →
      length = length') : DistinctBars header descriptors := by
  intro start length start' length' bar hmem hmem' hbar hbar'
  obtain rfl := PciCommonHeader.virtioGetBarIndex_inj hbar hbar'
  exact ⟨rfl, hlengths start length length' hmem hmem'⟩

/-- A device with a BAR at `0xFE000000`, whose header can be read. -/
def displayBus : BusAnswers where
  deviceContext := true
  bytesRead := pciCommonHeaderSize
  header := ⟨#v[0xFE000000, 0, 0, 0, 0, 0], 0⟩

/-- The interrupt and the BAR of the display. -/
def displayDescriptors : List (Option CmDescriptor) :=
  [some (.interrupt 0), some (.memory 0xFE000000 0x1000)]

/-- The memory of a VGA display, which is in no BAR. -/
def vgaMemory : CmDescriptor := .memory 0xA0000 0x20000

theorem usable_display : Usable displayBus (displayDescriptors ++ [some vgaMemory]) :=
  ⟨⟨rfl, rfl⟩, by decide, ⟨0, by decide⟩, 0xFE000000, 0x1000, by decide, by decide +kernel⟩

/-- The order of the descriptors does not matter for a display without VGA memory. -/
theorem orderFree_display : OrderFree displayBus displayDescriptors .fresh := by
  have hmemory : ∀ start length, some (.memory start length) ∈ displayDescriptors →
      start = 0xFE000000 ∧ length = 0x1000 := by
    intro start length hmem
    simpa [displayDescriptors] using hmem
  refine (orderFree_iff (distinctBars_of_lengths fun start length length' hmem hmem' => ?_)).mpr
    ⟨fun _ start length hmem => ?_, fun _ hmissing => absurd hmissing (by decide)⟩
  · rw [(hmemory start length hmem).2, (hmemory start length' hmem').2]
  · rw [(hmemory start length hmem).1]
    decide +kernel

/-- The display is rejected if the VGA memory is its last descriptor. -/
theorem not_orderFree_vga :
    DistinctBars displayBus.header (displayDescriptors ++ [some vgaMemory]) ∧
      ¬ OrderFree displayBus (displayDescriptors ++ [some vgaMemory]) .fresh := by
  have hmemory : ∀ start length,
      some (.memory start length) ∈ displayDescriptors ++ [some vgaMemory] →
        start = 0xFE000000 ∧ length = 0x1000 ∨ start = 0xA0000 ∧ length = 0x20000 := by
    intro start length hmem
    simpa [displayDescriptors, vgaMemory] using hmem
  refine ⟨distinctBars_of_lengths fun start length length' hmem hmem' => ?_, fun hfree => ?_⟩
  · rcases hmemory start length hmem with ⟨rfl, rfl⟩ | ⟨rfl, rfl⟩
    · rcases hmemory _ length' hmem' with ⟨-, rfl⟩ | ⟨hstart, -⟩
      · rfl
      · exact absurd hstart (by decide)
    · rcases hmemory _ length' hmem' with ⟨hstart, -⟩ | ⟨-, rfl⟩
      · exact absurd hstart (by decide)
      · rfl
  · have haccepts := (hfree.verdict _ (List.Perm.refl _)).mpr usable_display
    rw [vgaMemory, init_concat (by decide +kernel)] at haccepts
    cases haccepts

/-- What `HWInit` looks at of a descriptor. -/
def answerOf (header : PciCommonHeader) : Option CmDescriptor → HardwareInit.ResDescriptor
  | none => .missing
  | some (.interrupt _) => .interrupt
  | some (.memory start _) => .memory ((header.virtioGetBarIndex start).map Fin.val)
  | some _ => .other

/-- What `HWInit` looks at of the whole device. -/
def answers (bus : BusAnswers) (descriptors : List (Option CmDescriptor)) :
    HardwareInit.PciAnswers where
  header := bus.deviceContext && bus.bytesRead == pciCommonHeaderSize
  descriptors := descriptors.map (answerOf bus.header)

/-- The local variables of the walk. -/
def PciScan.locals (scan : PciScan) : HardwareInit.PciScan :=
  ⟨scan.bar.map Fin.val, scan.interruptFound⟩

theorem scanDescriptor_answerOf : HardwareInit.scanDescriptor scan.locals (answerOf header (some d))
    = some (recordDescriptor header scan d).locals := by
  cases d <;> rfl

theorem foldlM_scanDescriptor : (descriptors.map (answerOf header)).foldlM
    HardwareInit.scanDescriptor scan.locals =
      if (enumerate header descriptors scan).2 then
        some (enumerate header descriptors scan).1.locals
      else none := by
  induction descriptors generalizing scan with
  | nil => rfl
  | cons d rest ih =>
      cases d with
      | none => rfl
      | some d =>
          rw [List.map_cons, List.foldlM_cons, scanDescriptor_answerOf, Option.bind_eq_bind,
            Option.bind_some, ih, enumerate]

/-- The verdict is the one that `HWInit` goes by. -/
theorem init_answers : (answers bus descriptors).init = (init bus descriptors s).1 := by
  have hfold := @foldlM_scanDescriptor bus.header descriptors ⟨s, none, false⟩
  change (bus.deviceContext && bus.bytesRead == pciCommonHeaderSize &&
    ((descriptors.map (answerOf bus.header)).foldlM HardwareInit.scanDescriptor
      (PciScan.locals ⟨s, none, false⟩)).any fun scan => scan.bar.isSome && scan.interruptFound) = _
  rw [hfold, init]
  cases bus.deviceContext with
  | false => rfl
  | true =>
      rw [if_neg (not_not.mpr rfl), Bool.true_and]
      by_cases hbytes : bus.bytesRead = pciCommonHeaderSize
      · rw [if_neg (not_not.mpr hbytes), beq_iff_eq.mpr hbytes, Bool.true_and]
        generalize enumerate bus.header descriptors ⟨s, none, false⟩ = result
        obtain ⟨⟨resources, bar, interruptFound⟩, complete⟩ := result
        cases complete with
        | false => rfl
        | true => cases bar <;> cases interruptFound <;> rfl
      · rw [if_pos hbytes, beq_eq_false_iff_ne.mpr hbytes, Bool.false_and]

end PciResources

end VirtDisplay
