/-
# The sizes of a present

From a frame that was accepted, the present computes a handful of sizes in 32-bit numbers: the
bytes of the frame, its pages, the lists that describe them to Windows and to the host, and
two products with the stride. The statements are repeated here as a program in which a number
that its type does not hold would be a fault.

None is, since the checks at the boundary keep a frame within the largest mode. For the same
reason the entries of a frame take at most thirty-two pages of descriptors, of the sixty-two
there are.
-/

import VirtDisplay.Adapter.EntryBytes
import VirtDisplay.Queue.Descriptors

namespace VirtDisplay

/-- `sizeof(SCATTER_GATHER_LIST)` without its elements. -/
abbrev sgListHeaderSize : Nat := 16
/-- `sizeof(SCATTER_GATHER_ELEMENT)`. -/
abbrev sgElementSize : Nat := 24
/-- `sizeof(GPU_MEM_ENTRY)`. -/
abbrev memEntrySize : Nat := 16
/-- `sizeof(GPU_CTRL_HDR)`, the response of every command that `AllocCmd` prepares. -/
abbrev ctrlHdrSize : Nat := 24

/-- The size of a command's structure. -/
def GpuCmd.structSize : GpuCmd → Nat
  | .resourceCreate2D .. => 40
  | .resourceCreateBlob .. => 56
  | .resourceAttachBacking .. => 32
  | .resourceDetachBacking .. => 32
  | .resourceUnref .. => 32
  | .setScanout .. => 48
  | .setScanoutBlob .. => 96
  | .transferToHost2D .. => 56
  | .resourceFlush .. => 48

/-- Every command fits the part of a buffer that is kept for it. -/
theorem GpuCmd.structSize_le (cmd : GpuCmd) : cmd.structSize ≤ 96 := by
  cases cmd <;> simp [structSize]

/-- The buffer carries the command: its structure, its entries and the usual response. -/
structure CommandMemory.Carries (v : CommandMemory) (cmd : GpuCmd) : Prop where
  size : v.size = cmd.structSize
  dataSize : v.dataSize = memEntrySize * cmd.entries.length
  respSize : v.respSize = ctrlHdrSize

/-- What the present computes. -/
structure PresentSizes where
  /-- `size` in `CreateFrameBufferObj`. -/
  frame : Nat
  /-- `pages` in `InitExt`. -/
  pages : Nat
  /-- `sglsize` in `InitExt`. -/
  sgl : Nat
  /-- `size` in `InitExt`, once rounded, and in `VioGpuObj::Init`. -/
  rounded : Nat
  /-- `size` in `GpuObjectAttach`, and `data_size` of the command. -/
  entries : Nat
  /-- `stride * height * 4` in `CreateResourceBlob`. -/
  blob : Nat
  /-- `stride * 4` in `SetScanoutBlob`. -/
  strides : Nat

namespace PresentProgram

open Checked

/-- `BYTES_TO_PAGES`. -/
def bytesToPages (size : Nat) : Checked Empty Nat :=
  uint (size / pageSize + if size % pageSize = 0 then 0 else 1)

/-- The sizes along `CreateFrameBufferObj`, over a segment that lists so many entries for its
pages. -/
def sizes (info : VideoModeInfo) (mode : CurrentMode) (listed : Nat → Nat) :
    Checked Empty PresentSizes := do
  let size ← uint (mode.pitch * info.visScreenHeight)
  let pages ← bytesToPages size
  let elements ← uint (sgElementSize * pages)
  let sgl ← uint (sgListHeaderSize + elements)
  let rounded ← uint (pages * pageSize)
  let entries ← uint (memEntrySize * listed pages)
  let area ← uint (mode.stride * info.visScreenHeight)
  let blob ← uint (area * 4)
  let strides ← uint (mode.stride * 4)
  return ⟨size, pages, sgl, rounded, entries, blob, strides⟩

/-- The sizes of a present, computed without bounds. -/
def exactSizes (info : VideoModeInfo) (mode : CurrentMode) (listed : Nat → Nat) : PresentSizes :=
  let size := mode.pitch * info.visScreenHeight
  let pages := Pages.count pageSize size
  ⟨size, pages, sgListHeaderSize + sgElementSize * pages, pages * pageSize,
    memEntrySize * listed pages, mode.stride * info.visScreenHeight * 4, mode.stride * 4⟩

end PresentProgram

/-- The pages of the largest mode. -/
abbrev maxFramePages : Nat := 8100

section

variable {f : AcceptedFrame} {info : VideoModeInfo}

theorem AcceptedFrame.stride_mul_height_le (f : AcceptedFrame) :
    f.frame.stride * f.frame.height ≤ maxFrameSize := by
  obtain ⟨-, -, -, -, -, -, hstride, -⟩ := (validateFrame_eq_success_iff f.frame).mp f.accepted
  exact (Nat.mul_le_mul_right _ hstride).trans (Nat.div_mul_le_self _ _)

theorem AcceptedFrame.stride_le (f : AcceptedFrame) : f.frame.stride ≤ maxFrameSize :=
  (Nat.le_mul_of_pos_right _ f.height_pos).trans f.stride_mul_height_le

theorem AcceptedFrame.pages_le (f : AcceptedFrame) :
    Pages.count pageSize (f.frame.pitch * f.frame.height) ≤ maxFramePages := by
  have hround : Pages.roundUp pageSize (f.frame.pitch * f.frame.height) ≤
      maxFramePages * pageSize := Pages.roundUp_le_mul (by decide)
        (f.pitch_mul_height_le.trans (by norm_num))
  exact Nat.le_of_mul_le_mul_right hround (by decide)

theorem length_scatterGather_le (phys : Nat → Nat) (vAddr pages : Nat) :
    (Segment.scatterGather phys vAddr pages).length ≤ pages := by
  rw [Segment.scatterGather, List.length_map]
  refine (List.takeWhile_prefix _).length_le.trans ?_
  rw [List.length_map, List.length_range]

theorem height_of_isSameMode {mode : CurrentMode} (hsame : isSameMode (some info) mode = true) :
    info.visScreenHeight = mode.height := by
  simp only [isSameMode, Bool.and_eq_true, beq_iff_eq] at hsame
  exact hsame.2

/-- No size is cut down to its type. -/
theorem sizes_eq_exactSizes (hsame : isSameMode (some info) f.presentRequest = true)
    {listed : Nat → Nat} (hlisted : ∀ pages, listed pages ≤ pages) :
    PresentProgram.sizes info f.presentRequest listed =
      pure (PresentProgram.exactSizes info f.presentRequest listed) := by
  have hheight : info.visScreenHeight = f.frame.height := height_of_isSameMode hsame
  have hframe := f.pitch_mul_height_le
  have harea := f.stride_mul_height_le
  have hstride := f.stride_le
  have hentries := hlisted (Pages.count pageSize (f.frame.pitch * f.frame.height))
  have hcount : ∀ n, (n / pageSize + if n % pageSize = 0 then 0 else 1) =
    Pages.count pageSize n := fun _ => rfl
  have hlargest : maxFrameSize = 33177600 := by norm_num
  have hpages := f.pages_le
  rw [maxFramePages] at hpages
  unfold PresentProgram.sizes PresentProgram.bytesToPages PresentProgram.exactSizes
    sgListHeaderSize sgElementSize memEntrySize
  rw [hheight]
  simp only [AcceptedFrame.presentRequest, hcount]
  generalize hpagesOf : Pages.count pageSize (f.frame.pitch * f.frame.height) = pages at *
  have hrounded : pages * pageSize < 2 ^ 32 := by
    rw [pageSize]
    omega
  rw [Checked.uint_of_lt (by omega), Logged.ok_bind, hpagesOf, Checked.uint_of_lt (by omega),
    Logged.ok_bind, Checked.uint_of_lt (by omega), Logged.ok_bind, Checked.uint_of_lt (by omega),
    Logged.ok_bind, Checked.uint_of_lt hrounded, Logged.ok_bind, Checked.uint_of_lt (by omega),
    Logged.ok_bind, Checked.uint_of_lt (by omega), Logged.ok_bind, Checked.uint_of_lt (by omega),
    Logged.ok_bind, Checked.uint_of_lt (by omega), Logged.ok_bind]

/-- A command with the entries of at most the largest mode is never refused. -/
theorem handOver_of_carries {cmd : GpuCmd} {v : CommandMemory} (hcarries : v.Carries cmd)
    (hentries : cmd.entries.length ≤ maxFramePages) :
    1 + Pages.count pageSize v.dataSize + 1 < sgListSize ∧
      ∀ (space : AddressSpace) (handed : Option Handed), handOver space v = some handed →
        ∃ h, handed = some h ∧ h.out.length + h.inn.length < sgListSize := by
  have hslots : sgListSize = 64 := rfl
  have hdata : v.dataSize ≤ 32 * pageSize := by
    rw [hcarries.dataSize]
    calc memEntrySize * cmd.entries.length ≤ memEntrySize * maxFramePages :=
          Nat.mul_le_mul_left _ hentries
      _ ≤ 32 * pageSize := by norm_num
  have hcount : Pages.count pageSize v.dataSize ≤ 32 :=
    Nat.le_of_mul_le_mul_right (Pages.roundUp_le_mul (by decide) hdata) (by decide)
  have hsize : v.size ≤ pageSize := by
    rw [hcarries.size]
    exact cmd.structSize_le.trans (by decide)
  have hresp : v.respSize ≤ pageSize := by
    rw [hcarries.respSize]
    decide
  refine ⟨by omega, fun space handed hhanded => ?_⟩
  obtain ⟨h, rfl, hlength⟩ := length_handOver hsize hresp (by omega) hhanded
  exact ⟨h, rfl, by omega⟩

variable {o : Outcomes} {blob : Bool} {i : ScreenId} {c : Ctx}

/-- The list of a segment over the frame has an entry for at most each page. -/
theorem length_frameEntries_le (haddr : f.frame.addr ≠ 0)
    (hheight : info.visScreenHeight = f.frame.height)
    (hok : (updatedSegment o info f.presentRequest c).ok = true) :
    (frameEntries (updatedSegment o info f.presentRequest c).segment).length ≤ maxFramePages := by
  have haddress : f.presentRequest.ptr ≠ 0 := haddr
  have hsegment := (updateFrameSegment_of_addr haddress hok).1
  have hsize : frameSize info f.presentRequest = f.frame.pitch * f.frame.height := by
    rw [frameSize, hheight]
    exact f.pitch_mul_height_mod
  rw [frameEntries, updatedSegment, hsegment, hsize]
  exact (length_scatterGather_le _ _ _).trans f.pages_le

/-- The commands of a creation carry no more entries than the largest mode has pages. -/
theorem length_entries_of_create (haddr : f.frame.addr ≠ 0)
    (hheight : info.visScreenHeight = f.frame.height) {resid : Nat} {cmd : GpuCmd}
    {backing : Option Nat}
    (hmem : .submit ⟨cmd, backing⟩ ∈ prepareActions o blob info f.presentRequest c resid ++
      if Buildable o info f.presentRequest c then
        installActions o blob i info f.presentRequest c resid
      else []) :
    cmd.entries.length ≤ maxFramePages := by
  rcases List.mem_append.mp hmem with hprepare | hinstall
  · rcases List.mem_append.mp hprepare with hcreate | hpages
    · split at hcreate
      next => cases hcreate
      next =>
        obtain ⟨rfl, -⟩ := Submission.mk.inj (Action.submit.inj (mem_submitted.mp hcreate).2)
        exact Nat.zero_le _
    · obtain ⟨event, -, heq⟩ := List.mem_map.mp hpages
      cases heq
  · split at hinstall
    next hbuild =>
      rcases List.mem_append.mp hinstall with hattached | hflush
      · rcases List.mem_append.mp hattached with hattach | hscanout
        · split at hattach
          next =>
            obtain ⟨rfl, -⟩ := Submission.mk.inj (Action.submit.inj (mem_submitted.mp hattach).2)
            have hlength := length_frameEntries_le haddr hheight hbuild.1
            cases blob with
            | true => exact hlength
            | false => exact hlength
          next => cases hattach
        · unfold scanoutActions at hscanout
          split at hscanout
          next =>
            obtain ⟨rfl, -⟩ := Submission.mk.inj (Action.submit.inj (mem_submitted.mp hscanout).2)
            exact Nat.zero_le _
          next =>
            rcases List.mem_append.mp hscanout with hset | htransfer
            · obtain ⟨rfl, -⟩ := Submission.mk.inj (Action.submit.inj (mem_submitted.mp hset).2)
              exact Nat.zero_le _
            · obtain ⟨rfl, -⟩ :=
                Submission.mk.inj (Action.submit.inj (mem_submitted.mp htransfer).2)
              exact Nat.zero_le _
      · cases List.mem_singleton.mp hflush
    next => cases hinstall

end

/-- Every size of the present path is exact, and each command of the creation needs fewer
descriptors than there are, so that `QueueBuffer` does not refuse it, however the addresses
are mapped. -/
structure PresentFits (o : Outcomes) (blob : Bool) (i : ScreenId) (info : VideoModeInfo)
    (mode : CurrentMode) (c : Ctx) : Prop where
  sizes : let listed := fun pages => (Segment.scatterGather o.phys mode.ptr pages).length
    PresentProgram.sizes info mode listed = pure (PresentProgram.exactSizes info mode listed)
  commands : ∃ actions, (createFrameBufferObj o blob i info mode c).actions = c.actions ++ actions ∧
    ∀ cmd backing, .submit ⟨cmd, backing⟩ ∈ actions → ∀ v : CommandMemory, v.Carries cmd →
      1 + Pages.count pageSize v.dataSize + 1 < sgListSize ∧
        ∀ (space : AddressSpace) (handed : Option Handed), handOver space v = some handed →
          ∃ h, handed = some h ∧ h.out.length + h.inn.length < sgListSize

/-- An accepted frame with an address, of the size of a mode, has sizes that fit. -/
theorem present_sizes_fit (o : Outcomes) (blob : Bool) (i : ScreenId) (c : Ctx) {f : AcceptedFrame}
    {info : VideoModeInfo} (haddr : f.frame.addr ≠ 0)
    (hsame : isSameMode (some info) f.presentRequest = true) :
    PresentFits o blob i info f.presentRequest c where
  sizes := sizes_eq_exactSizes hsame fun pages => length_scatterGather_le _ _ pages
  commands := by
    refine ⟨_, (createFrameBufferObj_actions o blob i info _ c).trans (List.append_assoc _ _ _), ?_⟩
    intro cmd backing hmem v hcarries
    exact handOver_of_carries hcarries
      (length_entries_of_create haddr (height_of_isSameMode hsame) hmem)

/-- The largest mode, with four bytes a pixel, on a screen that has shown nothing. -/
theorem present_sizes_fit_largest :
    let f : AcceptedFrame := ⟨.sized 3840 2160 15360 3840 0x100000, by decide⟩
    let x : ScreenInfo := ⟨.initial, .closed, none, 0, 0, 0, 0, 0, none, .closed⟩
    PresentFits .good true 0 ⟨0, 3840, 2160⟩ f.presentRequest ⟨x, .initial, 0, []⟩ :=
  present_sizes_fit .good true 0 _ (by decide) rfl

end VirtDisplay
