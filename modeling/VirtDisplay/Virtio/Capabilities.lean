/-
# The capabilities of the device

A virtio device says where its structures are in vendor capabilities, which are entries of the
list of capabilities in the PCI configuration space. The driver goes through that list from one
vendor capability to the next, and notes for each type of structure where the capability is.

The search for the next vendor capability gives up after 48 entries. There are no more places
for one, so the bound never ends the search early. The loop around it has no bound. It ends
exactly if the list does not come back to a vendor capability.
-/

import Mathlib.Algebra.Ring.Nat
import VirtDisplay.Foundation.Trails

namespace VirtDisplay.Virtio

open Relation Trails

/-- The PCI configuration space, byte by byte. A byte may be out of reach. -/
abbrev ConfigSpace : Type := Nat → Option (Fin 256)

namespace ConfigSpace

variable (c : ConfigSpace)

/-- `pci_read_config_byte` -/
def readByte (i : Nat) : Option Nat := (c i).map Fin.val

/-- `pci_read_config_word` -/
def readWord (i : Nat) : Option Nat := do
  let low ← c.readByte i
  let high ← c.readByte (i + 1)
  pure (low + 2 ^ 8 * high)

end ConfigSpace

/-- `PCI_CAPABILITY_ID_VENDOR_SPECIFIC` -/
def vendorSpecific : Nat := 9

/-- `PCI_TYPE0_ADDRESSES` -/
def type0Addresses : Nat := 6

section

variable (c : ConfigSpace)

/-- The loop of `find_next_pci_vendor_capability`. -/
def findVendorFrom : (iterations offset : Nat) → Nat
  | 0, _ => 0
  | iterations + 1, offset =>
      if offset < 0x40 then 0
      else
        let offset := offset / 4 * 4
        match c.readByte offset with
        | none => 0
        | some id =>
            if id = 0xFF then 0
            else if id = vendorSpecific then offset
            else
              match c.readByte (offset + 1) with
              | none => 0
              | some next => findVendorFrom iterations next

/-- `find_next_pci_vendor_capability` -/
def findNextPciVendorCapability (offset : Nat) : Nat :=
  match c.readByte offset with
  | none => 0
  | some offset => findVendorFrom c 48 offset

/-- Where the header has its `CapabilitiesPtr`. -/
def capabilitiesPtr (hdrType : Nat) : Nat :=
  match hdrType % 2 ^ 7 with
  | 1 => 0x34
  | 2 => 0x14
  | _ => 0x34

/-- `find_first_pci_vendor_capability` -/
def findFirstPciVendorCapability : Nat :=
  match c.readByte 0x0E with
  | none => 0
  | some hdrType =>
      match c.readWord 0x06 with
      | none => 0
      | some status =>
          if status / 2 ^ 4 % 2 = 0 then 0
          else findNextPciVendorCapability c (capabilitiesPtr hdrType)

/-- The type of the structure; a local variable where it cannot be read. -/
def cfgType (stale offset : Nat) : Nat := (c.readByte (offset + 3)).getD stale

/-- The BAR that the structure of a capability is in. -/
def capBar (stale offset : Nat) : Nat := (c.readByte (offset + 4)).getD stale

variable (stale : Nat → Nat × Nat) (barLen : Nat → Nat) (nOffsets : Nat)

/-- The capability is one that the driver can use. -/
def usable (offset : Nat) : Bool :=
  capBar c (stale offset).2 offset < type0Addresses ∧
    cfgType c (stale offset).1 offset < nOffsets ∧
      0 < barLen (capBar c (stale offset).2 offset)

/-- Note the capability at `offset` under its type, if its BAR can be used. -/
def noteCapability (offsets : Nat → Nat) (offset : Nat) : Nat → Nat :=
  if usable c stale barLen nOffsets offset then
    Function.update offsets (cfgType c (stale offset).1 offset) offset
  else offsets

/-- The loop of `find_pci_vendor_capabilities`. -/
def noteVendorCapabilities : (fuel offset : Nat) → (offsets : Nat → Nat) → Option (Nat → Nat)
  | 0, _, _ => none
  | fuel + 1, offset, offsets =>
      if 0 < offset then
        noteVendorCapabilities fuel (findNextPciVendorCapability c (offset + 1))
          (noteCapability c stale barLen nOffsets offsets offset)
      else some offsets

/-- `find_pci_vendor_capabilities`, which is given zeroes. The variables `cfg_type` and `bar` may
be anything where they cannot be read. -/
def findPciVendorCapabilities (fuel : Nat) : Option (Nat → Nat) :=
  noteVendorCapabilities c stale barLen nOffsets fuel (findFirstPciVendorCapability c) fun _ => 0

end

section

variable (c : ConfigSpace)

/-- The entry that a pointer leads to. -/
def entryAt (pointer : Nat) : Option Nat := if pointer < 0x40 then none else some (pointer / 4 * 4)

/-- The entry behind the one at `offset`. -/
def nextEntry (offset : Nat) : Option Nat :=
  (c.readByte offset).bind fun id =>
    if id = 0xFF then none else (c.readByte (offset + 1)).bind entryAt

/-- An entry that is a vendor capability. -/
def isVendor (offset : Nat) : Bool := c.readByte offset = some vendorSpecific

/-- The entry that the header leads to, if there is a list at all. -/
def firstEntry : Option Nat := do
  let hdrType ← c.readByte 0x0E
  let status ← c.readWord 0x06
  if status / 2 ^ 4 % 2 = 0 then none else (c.readByte (capabilitiesPtr hdrType)).bind entryAt

/-- An entry of the list. -/
def Listed (offset : Nat) : Prop :=
  ∃ first, firstEntry c = some first ∧ ReflTransGen (Leads (nextEntry c)) first offset

/-- The places where an entry can be. -/
def places : List Nat := (List.range' 16 48).map (4 * ·)

/-- The vendor capability behind the entry at `offset`. -/
def nextVendor (offset : Nat) : Option Nat :=
  (nextEntry c offset).bind (seek (nextEntry c) (isVendor c) 48)

variable {c} {offset pointer first n : Nat}

theorem readByte_lt (h : c.readByte offset = some n) : n < 256 := by
  obtain ⟨byte, -, rfl⟩ := Option.map_eq_some_iff.mp h
  exact byte.isLt

theorem entryAt_mem (h : (c.readByte n).bind entryAt = some offset) : offset ∈ places := by
  obtain ⟨pointer, hread, hentry⟩ := Option.bind_eq_some_iff.mp h
  have hlt := readByte_lt hread
  obtain ⟨hge, hoffset⟩ := Option.ite_none_left_eq_some.mp hentry
  obtain rfl := Option.some.inj hoffset
  refine List.mem_map.mpr ⟨pointer / 4, List.mem_range'_1.mpr ?_, Nat.mul_comm ..⟩
  omega

theorem nextEntry_mem (h : nextEntry c n = some offset) : offset ∈ places := by
  obtain ⟨id, -, hnext⟩ := Option.bind_eq_some_iff.mp h
  exact entryAt_mem (Option.ite_none_left_eq_some.mp hnext).2

/-- What an entry leads to is among the places, and so is all that follows. -/
theorem reach_mem (hfirst : first ∈ places)
    (hreach : ReflTransGen (Leads (nextEntry c)) first offset) : offset ∈ places := by
  rcases ReflTransGen.cases_tail hreach with rfl | ⟨mid, -, hlead⟩
  · exact hfirst
  · exact nextEntry_mem hlead

/-- A search of 48 entries misses no vendor capability. -/
theorem seek_iff (hfirst : first ∈ places) :
    seek (nextEntry c) (isVendor c) 48 first = some offset ↔
      Finds (nextEntry c) (isVendor c) first offset :=
  seek_eq_some_iff (fun _ hreach => reach_mem hfirst hreach) (Nat.le_refl 48)

theorem firstEntry_mem (h : firstEntry c = some first) : first ∈ places := by
  obtain ⟨hdrType, -, hrest⟩ := Option.bind_eq_some_iff.mp h
  obtain ⟨status, -, hfirst⟩ := Option.bind_eq_some_iff.mp hrest
  exact entryAt_mem (Option.ite_none_left_eq_some.mp hfirst).2

theorem hops_nextVendor : Hops (nextEntry c) (isVendor c) (nextVendor c) := by
  intro x z
  rw [nextVendor, Option.bind_eq_some_iff]
  refine exists_congr fun y => and_congr_right fun hnext => ?_
  exact seek_iff (nextEntry_mem hnext)

theorem findVendorFrom_eq (c : ConfigSpace) (n pointer : Nat) :
    findVendorFrom c n pointer =
      ((entryAt pointer).bind (seek (nextEntry c) (isVendor c) n)).getD 0 := by
  induction n generalizing pointer with
  | zero =>
      cases entryAt pointer with
      | none => rfl
      | some offset => rfl
  | succ n ih =>
      rw [findVendorFrom, entryAt]
      by_cases hlow : pointer < 0x40
      · rw [if_pos hlow, if_pos hlow]
        rfl
      · rw [if_neg hlow, if_neg hlow, Option.bind_some, seek, isVendor, nextEntry]
        dsimp only
        cases hread : c.readByte (pointer / 4 * 4) with
        | none => rfl
        | some id =>
            dsimp only
            rw [Option.bind_some]
            by_cases hnone : id = 0xFF
            · subst hnone
              rfl
            · rw [if_neg hnone, if_neg hnone]
              by_cases hvendor : id = vendorSpecific
              · rw [if_pos hvendor, if_pos (decide_eq_true (congrArg some hvendor))]
                rfl
              · have hnot : ¬ decide (some id = some vendorSpecific) = true := by
                  rwa [decide_eq_true_iff, Option.some.injEq]
                rw [if_neg hvendor, if_neg hnot]
                cases c.readByte (pointer / 4 * 4 + 1) with
                | none => rfl
                | some next => exact ih next

theorem findNextPciVendorCapability_eq (c : ConfigSpace) (offset : Nat) :
    findNextPciVendorCapability c offset =
      (((c.readByte offset).bind entryAt).bind (seek (nextEntry c) (isVendor c) 48)).getD 0 := by
  rw [findNextPciVendorCapability]
  cases c.readByte offset with
  | none => rfl
  | some pointer => exact findVendorFrom_eq c 48 pointer

theorem findFirstPciVendorCapability_eq (c : ConfigSpace) :
    findFirstPciVendorCapability c =
      ((firstEntry c).bind (seek (nextEntry c) (isVendor c) 48)).getD 0 := by
  rw [findFirstPciVendorCapability, firstEntry]
  cases c.readByte 0x0E with
  | none => rfl
  | some hdrType =>
      cases c.readWord 0x06 with
      | none => rfl
      | some status =>
          show (if _ then _ else _) = ((if _ then _ else _ : Option Nat).bind _).getD 0
          split
          next => rfl
          next => exact findNextPciVendorCapability_eq c (capabilitiesPtr hdrType)

/-- From a vendor capability the search goes on to the next one. -/
theorem findNext_of_vendor (hvendor : isVendor c offset = true) :
    findNextPciVendorCapability c (offset + 1) = (nextVendor c offset).getD 0 := by
  have hid : c.readByte offset = some vendorSpecific := of_decide_eq_true hvendor
  rw [findNextPciVendorCapability_eq, nextVendor, nextEntry, hid]
  rfl

theorem places_pos (h : offset ∈ places) : 0 < offset := by
  obtain ⟨i, hi, rfl⟩ := List.mem_map.mp h
  have := List.mem_range'_1.mp hi
  omega

variable {stale : Nat → Nat × Nat} {barLen : Nat → Nat} {nOffsets fuel : Nat}
variable {offsets found : Nat → Nat} {caps entries : List Nat}

/-- The loop goes through the vendor capabilities, and ends if they do. -/
theorem noteVendorCapabilities_eq_some_iff (hvendor : isVendor c offset = true)
    (hpos : 0 < offset) :
    noteVendorCapabilities c stale barLen nOffsets fuel offset offsets = some found ↔
      ∃ caps, Trail (nextVendor c) offset caps ∧ caps.length < fuel ∧
        caps.foldl (noteCapability c stale barLen nOffsets) offsets = found := by
  induction fuel generalizing offset offsets with
  | zero => exact iff_of_false nofun fun ⟨_, _, hlength, _⟩ => Nat.not_lt_zero _ hlength
  | succ fuel ih =>
      rw [noteVendorCapabilities, if_pos hpos, findNext_of_vendor hvendor]
      cases hnext : nextVendor c offset with
      | none =>
          rw [Option.getD_none]
          constructor
          · intro h
            cases fuel with
            | zero => cases h
            | succ fuel =>
                rw [noteVendorCapabilities, if_neg (Nat.lt_irrefl 0)] at h
                exact ⟨_, .last hnext, by simp, Option.some.inj h⟩
          · rintro ⟨caps, htrail, hlength, rfl⟩
            cases htrail with
            | last _ =>
                obtain ⟨fuel, rfl⟩ := Nat.exists_eq_add_of_lt (Nat.lt_of_succ_lt_succ hlength)
                exact if_neg (Nat.lt_irrefl 0)
            | cons hnext' _ => exact absurd (hnext.symm.trans hnext') nofun
      | some next =>
          obtain ⟨first, hfirst, hfinds⟩ := (hops_nextVendor _ _).mp hnext
          have hmem : next ∈ places := reach_mem (nextEntry_mem hfirst) hfinds.reach
          rw [Option.getD_some, ih hfinds.satisfies (places_pos hmem)]
          constructor
          · rintro ⟨caps, htrail, hlength, hfound⟩
            exact ⟨_, .cons hnext htrail, Nat.succ_lt_succ hlength, hfound⟩
          · rintro ⟨caps, htrail, hlength, hfound⟩
            cases htrail with
            | last hlast => exact absurd (hlast.symm.trans hnext) nofun
            | cons hnext' rest =>
                obtain rfl := Option.some.inj (hnext.symm.trans hnext')
                exact ⟨_, rest, Nat.lt_of_succ_lt_succ hlength, hfound⟩

/-- `find_pci_vendor_capabilities` returns if and only if the list comes back to no vendor
capability. -/
theorem findPciVendorCapabilities_ends_iff :
    (∃ fuel offsets, findPciVendorCapabilities c stale barLen nOffsets fuel = some offsets) ↔
      ∀ offset, Listed c offset → isVendor c offset = true →
        ¬ TransGen (Leads (nextEntry c)) offset offset := by
  have hdone : findFirstPciVendorCapability c = 0 →
      ∃ fuel offsets, findPciVendorCapabilities c stale barLen nOffsets fuel = some offsets := by
    intro hzero
    refine ⟨1, fun _ => 0, ?_⟩
    rw [findPciVendorCapabilities, hzero]
    rfl
  cases hfirst : firstEntry c with
  | none =>
      refine iff_of_true (hdone ?_) ?_
      · rw [findFirstPciVendorCapability_eq, hfirst]
        rfl
      · rintro offset ⟨first, hfirst', -⟩
        exact absurd (hfirst.symm.trans hfirst') nofun
  | some first =>
      have hplaces := firstEntry_mem hfirst
      cases hseek : seek (nextEntry c) (isVendor c) 48 first with
      | none =>
          refine iff_of_true (hdone ?_) ?_
          · rw [findFirstPciVendorCapability_eq, hfirst, Option.bind_some, hseek]
            rfl
          · rintro offset ⟨first', hfirst', hreach⟩ hvendor
            obtain rfl := Option.some.inj (hfirst.symm.trans hfirst')
            obtain ⟨z, hfinds, -⟩ := finds_of_reach hreach hvendor
            exact absurd (hseek.symm.trans ((seek_iff hplaces).mpr hfinds)) nofun
      | some vendor =>
          have hfinds := (seek_iff hplaces).mp hseek
          have hmem := reach_mem hplaces hfinds.reach
          have hsearch : ∀ fuel found,
              findPciVendorCapabilities c stale barLen nOffsets fuel = some found ↔
                ∃ caps, Trail (nextVendor c) vendor caps ∧ caps.length < fuel ∧
                  caps.foldl (noteCapability c stale barLen nOffsets) (fun _ => 0) = found := by
            intro fuel found
            rw [findPciVendorCapabilities, findFirstPciVendorCapability_eq, hfirst,
              Option.bind_some, hseek, Option.getD_some]
            exact noteVendorCapabilities_eq_some_iff hfinds.satisfies (places_pos hmem)
          have htrail : (∃ fuel found,
              findPciVendorCapabilities c stale barLen nOffsets fuel = some found) ↔
                ∃ caps, Trail (nextVendor c) vendor caps := by
            constructor
            · rintro ⟨fuel, found, h⟩
              obtain ⟨caps, htrail, -⟩ := (hsearch fuel found).mp h
              exact ⟨caps, htrail⟩
            · rintro ⟨caps, htrail⟩
              exact ⟨_, _, (hsearch _ _).mpr ⟨caps, htrail, Nat.lt_succ_self _, rfl⟩⟩
          rw [htrail, hops_nextVendor.exists_trail_iff (fun _ hreach => reach_mem hmem hreach)
            hfinds.satisfies]
          constructor
          · rintro hall offset ⟨first', hfirst', hreach⟩ hvendor
            obtain rfl := Option.some.inj (hfirst.symm.trans hfirst')
            obtain ⟨z, hfinds', hreach'⟩ := finds_of_reach hreach hvendor
            exact hall offset (hfinds'.unique hfinds ▸ hreach') hvendor
          · intro hall offset hreach hvendor
            exact hall offset ⟨first, hfirst, hfinds.reach.trans hreach⟩ hvendor

/-- The entries of the list, if it ends. -/
def Entries (c : ConfigSpace) (entries : List Nat) : Prop :=
  match firstEntry c with
  | none => entries = []
  | some first => Trail (nextEntry c) first entries

/-- The entry is a capability that the driver can use for structures of type `t`. -/
def describes (c : ConfigSpace) (stale : Nat → Nat × Nat) (barLen : Nat → Nat)
    (nOffsets t offset : Nat) : Bool :=
  isVendor c offset &&
    (usable c stale barLen nOffsets offset && cfgType c (stale offset).1 offset == t)

/-- Of the usable capabilities of one type, the last one is kept. -/
theorem foldl_noteCapability (caps : List Nat) (offsets : Nat → Nat) (t : Nat) :
    caps.foldl (noteCapability c stale barLen nOffsets) offsets t =
      (caps.filter fun offset => usable c stale barLen nOffsets offset &&
        cfgType c (stale offset).1 offset == t).getLast?.getD (offsets t) := by
  induction caps generalizing offsets with
  | nil => rfl
  | cons offset caps ih =>
      rw [List.foldl_cons, ih, noteCapability, List.filter_cons]
      cases usable c stale barLen nOffsets offset with
      | false => rfl
      | true =>
          rw [if_pos rfl, Bool.true_and]
          by_cases ht : cfgType c (stale offset).1 offset = t
          · rw [ht, Function.update_self, beq_self_eq_true, if_pos rfl, List.getLast?_cons,
              Option.getD_some]
          · rw [Function.update_of_ne (Ne.symm ht), beq_false_of_ne ht,
              if_neg Bool.false_ne_true]

/-- On a list that ends, `find_pci_vendor_capabilities` returns after at most 48 capabilities,
and finds for each type the last one on the list that can be used. -/
theorem findPciVendorCapabilities_eq (hentries : Entries c entries) (hfuel : 48 < fuel) :
    ∃ offsets, findPciVendorCapabilities c stale barLen nOffsets fuel = some offsets ∧
      ∀ t, offsets t =
        (entries.filter (describes c stale barLen nOffsets t)).getLast?.getD 0 := by
  have hsplit : ∀ t, entries.filter (describes c stale barLen nOffsets t) =
      (entries.filter (isVendor c)).filter fun offset =>
        usable c stale barLen nOffsets offset && cfgType c (stale offset).1 offset == t := by
    intro t
    rw [List.filter_filter]
    refine List.filter_congr fun offset _ => ?_
    rw [describes, Bool.and_comm]
  have hnone : findFirstPciVendorCapability c = 0 → entries.filter (isVendor c) = [] →
      ∃ offsets, findPciVendorCapabilities c stale barLen nOffsets fuel = some offsets ∧
        ∀ t, offsets t =
          (entries.filter (describes c stale barLen nOffsets t)).getLast?.getD 0 := by
    intro hzero hempty
    obtain ⟨fuel, rfl⟩ := Nat.exists_eq_add_of_lt hfuel
    refine ⟨fun _ => 0, ?_, fun t => ?_⟩
    · rw [findPciVendorCapabilities, hzero]
      exact if_neg (Nat.lt_irrefl 0)
    · rw [hsplit, hempty]
      rfl
  unfold Entries at hentries
  cases hfirst : firstEntry c with
  | none =>
      rw [hfirst] at hentries
      refine hnone ?_ (by rw [hentries]; rfl)
      rw [findFirstPciVendorCapability_eq, hfirst]
      rfl
  | some first =>
      rw [hfirst] at hentries
      have hplaces := firstEntry_mem hfirst
      cases hseek : seek (nextEntry c) (isVendor c) 48 first with
      | none =>
          refine hnone ?_ (List.filter_eq_nil_iff.mpr fun offset hmem hvendor => ?_)
          · rw [findFirstPciVendorCapability_eq, hfirst, Option.bind_some, hseek]
            rfl
          · obtain ⟨z, hfinds, -⟩ := finds_of_reach (hentries.mem_iff.mp hmem) hvendor
            exact absurd (hseek.symm.trans ((seek_iff hplaces).mpr hfinds)) nofun
      | some vendor =>
          have hfinds := (seek_iff hplaces).mp hseek
          have hmem := reach_mem hplaces hfinds.reach
          have htrail := hops_nextVendor.trail_filter hentries hfinds
          have hreach : ∀ offset, ReflTransGen (Leads (nextVendor c)) vendor offset →
              offset ∈ places := by
            intro offset hreach
            rcases reflTransGen_iff_eq_or_transGen.mp hreach with rfl | hcomes
            · exact hmem
            · exact reach_mem hmem (hops_nextVendor.comes hcomes).to_reflTransGen
          have hlength : (entries.filter (isVendor c)).length ≤ 48 := htrail.length_le hreach
          refine ⟨(entries.filter (isVendor c)).foldl
            (noteCapability c stale barLen nOffsets) fun _ => 0, ?_, fun t => ?_⟩
          · rw [findPciVendorCapabilities, findFirstPciVendorCapability_eq, hfirst,
              Option.bind_some, hseek, Option.getD_some]
            exact (noteVendorCapabilities_eq_some_iff hfinds.satisfies (places_pos hmem)).mpr
              ⟨_, htrail, Nat.lt_of_le_of_lt hlength hfuel, rfl⟩
          · rw [hsplit, foldl_noteCapability]

end

/-- One vendor capability, for the common configuration, and one of another kind behind it. -/
def twoCapabilities : ConfigSpace := fun i => some <|
  match i with
  | 0x06 => 0x10
  | 0x34 => 0x40
  | 0x40 => 9
  | 0x41 => 0x50
  | 0x43 => 1
  | 0x50 => 5
  | _ => 0

theorem findPciVendorCapabilities_eq_two : ∃ offsets,
    findPciVendorCapabilities twoCapabilities (fun _ => (0, 0)) (fun _ => 4096) 5 49 =
      some offsets ∧ offsets 1 = 0x40 ∧ offsets 2 = 0 := by
  have hentries : Entries twoCapabilities [0x40, 0x50] :=
    Trail.cons (show nextEntry twoCapabilities 0x40 = some 0x50 from rfl) (.last rfl)
  obtain ⟨offsets, hfind, hoffsets⟩ :=
    findPciVendorCapabilities_eq hentries (Nat.lt_succ_self 48)
  exact ⟨offsets, hfind, (hoffsets 1).trans (by decide), (hoffsets 2).trans (by decide)⟩

end VirtDisplay.Virtio
