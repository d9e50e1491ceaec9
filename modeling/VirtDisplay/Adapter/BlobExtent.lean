/-
# The memory behind a blob resource

A blob resource over a user's frame is described to the host three times: by its
memory entries, which cover the pages of `pitch * height` bytes, by its declared size,
computed from `stride * height * 4`, and by the stride of the scanout on it. Pitch and
stride come from the user independently of each other, and validation bounds each of
them by a limit of its own.

The host stays within the memory it was given exactly when `stride * 4 * height` bytes
fit into the pages of the frame.
-/

import Mathlib.Data.List.TakeWhile
import VirtDisplay.Adapter.Runs

namespace VirtDisplay

open Transition

/-- The bytes a list of memory entries covers. -/
def entriesLength (entries : List MemEntry) : Nat := (entries.map MemEntry.length).sum

/-- The actions build a blob resource: its create command is queued. -/
def BuildsBlob (actions : List Action) : Prop :=
  ∃ resid entries size backing, .submit ⟨.resourceCreateBlob resid entries size, backing⟩ ∈ actions

/-- Every blob resource the actions build is as large as declared, and large enough for
every scanout they configure on it. -/
def BlobFits (actions : List Action) : Prop :=
  ∀ resid entries size backing,
    .submit ⟨.resourceCreateBlob resid entries size, backing⟩ ∈ actions →
      size ≤ entriesLength entries ∧
      ∀ scanout width height format stride backing',
        .submit ⟨.setScanoutBlob scanout resid width height format stride, backing'⟩ ∈ actions →
          stride * height ≤ entriesLength entries

/-- When every page has a physical address, the scatter-gather list has an entry for each. -/
theorem scatterGather_eq {phys : Nat → Nat} {vAddr pages : Nat}
    (hphys : ∀ k < pages, phys (vAddr / pageSize * pageSize + k * pageSize) ≠ 0) :
    Segment.scatterGather phys vAddr pages = (List.range pages).map fun k =>
      ⟨phys (vAddr / pageSize * pageSize + k * pageSize), pageSize⟩ := by
  have hall : ∀ pa ∈ (List.range pages).map
      fun k => phys (vAddr / pageSize * pageSize + k * pageSize),
      decide (pa ≠ 0) = true := by
    intro pa hmem
    obtain ⟨k, hk, rfl⟩ := List.mem_map.mp hmem
    exact decide_eq_true (hphys k (List.mem_range.mp hk))
  rw [Segment.scatterGather, List.takeWhile_eq_self_iff.mpr hall, List.map_map]
  rfl

/-- The entries of a segment without missing pages cover all of its pages. -/
theorem entriesLength_scatterGather {phys : Nat → Nat} {vAddr pages : Nat}
    (hphys : ∀ k < pages, phys (vAddr / pageSize * pageSize + k * pageSize) ≠ 0) :
    entriesLength (Segment.scatterGather phys vAddr pages) = pages * pageSize := by
  rw [entriesLength, scatterGather_eq hphys, List.map_map]
  calc ((List.range pages).map fun _ => pageSize).sum = pages * pageSize := by
        rw [List.map_const', List.length_range, List.sum_replicate, Nat.nsmul_eq_mul]

/-- The command describes a blob resource or a scanout on one. -/
def GpuCmd.describesBlob : GpuCmd → Bool
  | .resourceCreateBlob .. | .setScanoutBlob .. => true
  | _ => false

/-- The action queues a command that describes a blob. -/
def Action.describesBlob : Action → Bool
  | .submit submission => submission.cmd.describesBlob
  | _ => false

/-- The blob commands among some actions. -/
def blobActions (actions : List Action) : List Action := actions.filter Action.describesBlob

/-- Whether a blob resource is built depends on the blob commands alone, and so does
whether it fits. -/
theorem buildsBlob_blobActions (actions : List Action) :
    BuildsBlob (blobActions actions) ↔ BuildsBlob actions := by
  simp only [BuildsBlob, blobActions, List.mem_filter, Action.describesBlob,
    GpuCmd.describesBlob, and_true]

theorem blobFits_blobActions (actions : List Action) :
    BlobFits (blobActions actions) ↔ BlobFits actions := by
  simp only [BlobFits, blobActions, List.mem_filter, Action.describesBlob,
    GpuCmd.describesBlob, and_true]

section

variable (o : Outcomes) (blob : Bool) (i : ScreenId) (info : VideoModeInfo) (mode : CurrentMode)
  (c : Ctx)

@[simp] theorem blobActions_nil : blobActions [] = [] := rfl

@[simp]
theorem blobActions_append (xs ys : List Action) :
    blobActions (xs ++ ys) = blobActions xs ++ blobActions ys := List.filter_append ..

@[simp]
theorem blobActions_submitted (cmd : GpuCmd) (backing : Option Nat) :
    blobActions (submitted o cmd backing) =
      if cmd.describesBlob then submitted o cmd backing else [] := by
  unfold submitted
  split
  next => simp only [blobActions, List.filter_singleton, Action.describesBlob, cond_eq_ite]
  next => rw [blobActions_nil, ite_self]

@[simp]
theorem blobActions_pages (events : List PageEvent) : blobActions (events.map .pages) = [] := by
  simp [blobActions, Action.describesBlob]

@[simp]
theorem blobActions_resetActions (flushCount : Nat) :
    blobActions (resetActions i flushCount) = [] := by
  unfold resetActions
  split <;> rfl

@[simp]
theorem blobActions_flushAction (serial resid width height : Nat) :
    blobActions [flushAction o i serial resid width height] = [] := rfl

@[simp]
theorem blobActions_destroyFrontActions : blobActions (destroyFrontActions o c) = [] := by
  unfold destroyFrontActions
  split
  next => rfl
  next => simp [destroyActions, GpuCmd.describesBlob]

@[simp]
theorem blobActions_prepareActions (resid : Nat) :
    blobActions (prepareActions o blob info mode c resid) = [] := by
  cases blob <;> simp [prepareActions, GpuCmd.describesBlob]

/-- The blob commands of installing an object: its creation, if the array of entries
could be allocated, and its scanout. -/
theorem blobActions_installActions (resid : Nat) :
    blobActions (installActions o true i info mode c resid) =
      (if o.newEnts then
        submitted o (attachCmd true info mode resid (updatedSegment o info mode c).segment)
          (updatedSegment o info mode c).segment.mdl
      else []) ++ scanoutActions o true i info mode resid := by
  cases hents : o.newEnts <;>
    simp [installActions, hents, scanoutActions, attachCmd, GpuCmd.describesBlob]

@[simp]
theorem blobActions_installActions_of_not_blob (resid : Nat) :
    blobActions (installActions o false i info mode c resid) = [] := by
  cases hents : o.newEnts <;>
    simp [installActions, hents, scanoutActions, attachCmd, GpuCmd.describesBlob]

end

variable {o : Outcomes} {blob : Bool} {i : ScreenId} {flushCount : Nat} {mode : CurrentMode}
  {c c' : Ctx} {status : NtStatus} {path : PresentPath}

/-- A mode-set call that builds a blob resource installs an object, and these are its
blob commands. -/
theorem ModeStep.blobActions (hmode : ModeStep o blob i flushCount mode c c' status path)
    (hempty : c.actions = []) (hbuilds : BuildsBlob c'.actions) :
    ∃ info c₁ resid, info.visScreenHeight = mode.height ∧ Buildable o info mode c₁ ∧
      VirtDisplay.blobActions c'.actions =
        submitted o (attachCmd true info mode resid (updatedSegment o info mode c₁).segment)
            (updatedSegment o info mode c₁).segment.mdl ++
          scanoutActions o true i info mode resid := by
  have hnone : VirtDisplay.blobActions c'.actions ≠ [] := by
    intro hnil
    rw [← buildsBlob_blobActions, hnil] at hbuilds
    obtain ⟨_, _, _, _, hmem⟩ := hbuilds
    cases hmem
  cases hmode with
  | noMode => exact absurd (by rw [hempty]; rfl) hnone
  | dropped => exact absurd (by rw [hempty]; rfl) hnone
  | @rebuild c₁ forced info hfound hpass hchanged =>
      have hactions : VirtDisplay.blobActions (rebuildFront o blob i info mode c₁).actions =
          VirtDisplay.blobActions (if Buildable o info mode c₁ then
            installActions o blob i info mode c₁ (rebuildId o c₁) else []) := by
        rw [rebuildFront_actions, hpass.actions, hempty]
        simp
      rw [hactions] at hnone ⊢
      split at hnone
      next hbuild =>
        cases blob with
        | true =>
            refine ⟨info, c₁, rebuildId o c₁, (size_of_searchModes hfound).2, hbuild, ?_⟩
            rw [if_pos hbuild, blobActions_installActions]
            cases hents : o.newEnts with
            | true => rfl
            | false =>
                -- the array of entries could not be allocated, and nothing was built
                rw [← buildsBlob_blobActions, hactions, if_pos hbuild,
                  blobActions_installActions, hents] at hbuilds
                obtain ⟨_, _, _, _, hmem⟩ := hbuilds
                simp [scanoutActions, mem_submitted] at hmem
        | false => exact absurd (blobActions_installActions_of_not_blob ..) hnone
      next => exact absurd rfl hnone
  | reuse info obj hfound hpass hfront hsame =>
      refine absurd ?_ hnone
      rw [flushFrameBufferObj_eq _ _ _ _ _ hfront, hpass.actions, hempty]
      cases blob <;> simp [GpuCmd.describesBlob]

/-- The blob commands of an installation fit when the frame, counted by its stride, fits
the entries of its segment. -/
theorem blobFits_install_iff {info : VideoModeInfo} {segment : Segment} {resid : Nat}
    (hbuilds : BuildsBlob (submitted o (attachCmd true info mode resid segment) segment.mdl ++
      scanoutActions o true i info mode resid)) :
    BlobFits (submitted o (attachCmd true info mode resid segment) segment.mdl ++
        scanoutActions o true i info mode resid) ↔
      roundToPages (mode.stride * info.visScreenHeight * 4) ≤
        entriesLength (frameEntries segment) := by
  have haccepts : o.accepts (attachCmd true info mode resid segment) = true := by
    obtain ⟨_, _, _, _, hmem⟩ := hbuilds
    rcases List.mem_append.mp hmem with hmem | hmem
    · exact (mem_submitted.mp hmem).1
    · simp [scanoutActions, mem_submitted] at hmem
  constructor
  · intro hfits
    exact (hfits resid _ _ _ (List.mem_append_left _ (mem_submitted.mpr ⟨haccepts, rfl⟩))).1
  · intro hle resid' entries size backing hmem
    have hcreate : Action.submit ⟨.resourceCreateBlob resid' entries size, backing⟩ =
        .submit ⟨attachCmd true info mode resid segment, segment.mdl⟩ := by
      rcases List.mem_append.mp hmem with hmem | hmem
      · exact (mem_submitted.mp hmem).2
      · simp [scanoutActions, mem_submitted] at hmem
    cases hcreate
    refine ⟨hle, fun scanout width height format stride backing' hscanout => ?_⟩
    rcases List.mem_append.mp hscanout with hscanout | hscanout
    · cases (mem_submitted.mp hscanout).2
    · cases (mem_submitted.mp hscanout).2
      calc mode.stride * 4 % 2 ^ 32 * info.visScreenHeight
          ≤ mode.stride * 4 * info.visScreenHeight := Nat.mul_le_mul_right _ (Nat.mod_le _ _)
        _ = mode.stride * info.visScreenHeight * 4 := by ring
        _ ≤ roundToPages (mode.stride * info.visScreenHeight * 4) := Pages.le_roundUp (by decide)
        _ ≤ entriesLength (frameEntries segment) := hle

/-- For every accepted frame with a user address, in whatever state it arrives: the blob
resource a mode-set call builds over it fits its memory just when the bytes its stride
describes fit the pages its pitch describes. The hypothesis on `phys` says that the pages
of a locked frame have physical addresses. -/
theorem blobFits_iff {a : Adapter} {r : Request} (haddr : r.frame.frame.addr ≠ 0)
    (hphys : ∀ k < Pages.count pageSize (r.frame.frame.pitch * r.frame.frame.height),
      r.outcomes.phys (r.frame.frame.addr / pageSize * pageSize + k * pageSize) ≠ 0)
    (hcall : setCurrentModeExt r.outcomes a.blobSupported r.screen flushCount r.mode
      (a.ctx r.screen) = some (c', status, path))
    (hbuilds : BuildsBlob c'.actions) :
    BlobFits c'.actions ↔ r.frame.frame.stride * 4 * r.frame.frame.height ≤
      roundToPages (r.frame.frame.pitch * r.frame.frame.height) := by
  obtain ⟨info, c₁, resid, hheight, hbuild, hactions⟩ :=
    (setCurrentModeExt_spec hcall).blobActions rfl hbuilds
  have hsegment := (updateFrameSegment_of_addr (r.mode_ptr ▸ haddr) hbuild.1).1
  have hentries : entriesLength (frameEntries (updatedSegment r.outcomes info r.mode c₁).segment) =
      roundToPages (r.frame.frame.pitch * r.frame.frame.height) := by
    have hframe : frameSize info r.mode = r.frame.frame.pitch * r.frame.frame.height := by
      rw [frameSize, hheight, r.mode_height, r.mode_pitch, r.frame.pitch_mul_height_mod]
    rw [updatedSegment, hsegment, hframe, r.mode_ptr]
    exact entriesLength_scatterGather hphys
  rw [← buildsBlob_blobActions, hactions] at hbuilds
  rw [← blobFits_blobActions, hactions, blobFits_install_iff hbuilds, hentries, hheight,
    r.mode_height, r.mode_stride, roundToPages, roundToPages,
    Pages.roundUp_le_roundUp_iff (by decide), Nat.mul_right_comm]

/-- The sizes of the blob resources some actions build: what their entries cover and what
is declared. -/
def blobSizes (actions : List Action) : List (Nat × Nat) :=
  actions.filterMap fun
    | .submit ⟨.resourceCreateBlob _ entries size, _⟩ => some (entriesLength entries, size)
    | _ => none

theorem exists_of_mem_blobSizes {actions : List Action} {sizes : Nat × Nat}
    (hmem : sizes ∈ blobSizes actions) : ∃ resid entries size backing,
      .submit ⟨.resourceCreateBlob resid entries size, backing⟩ ∈ actions ∧
      sizes = (entriesLength entries, size) := by
  obtain ⟨action, hmem, heq⟩ := List.mem_filterMap.mp hmem
  split at heq
  next resid entries size backing =>
    exact ⟨resid, entries, size, backing, hmem, (Option.some.inj heq).symm⟩
  next => cases heq

/-- A stride that validation accepts and with which four times the frame's memory is
declared, and more. -/
theorem blobFits_fails : ¬ ∀ (a : Adapter) (r : Request) (flushCount : Nat) (c' : Ctx)
    (status : NtStatus) (path : PresentPath), r.frame.frame.addr ≠ 0 →
    (∀ addr, r.outcomes.phys addr ≠ 0) →
    setCurrentModeExt r.outcomes a.blobSupported r.screen flushCount r.mode (a.ctx r.screen) =
      some (c', status, path) →
    BuildsBlob c'.actions → BlobFits c'.actions := by
  let r : Request := ⟨⟨.sized 1024 768 4096 4800 0x1000, by decide⟩, true, .good⟩
  have hresult : ((hwInit (.plain true)).bind fun a =>
      (setCurrentModeExt r.outcomes a.blobSupported r.screen 0 r.mode (a.ctx r.screen)).map
        fun returned => blobSizes returned.1.actions) = some [(3145728, 14745600)] := by
    decide +kernel
  obtain ⟨a, -, hresult⟩ := Option.bind_eq_some_iff.mp hresult
  obtain ⟨⟨c', status, path⟩, hcall, hsizes⟩ := Option.map_eq_some_iff.mp hresult
  obtain ⟨resid, entries, size, backing, hmem, heq⟩ :=
    exists_of_mem_blobSizes (hsizes ▸ List.mem_singleton_self (3145728, 14745600))
  intro hclaim
  have hfits := hclaim a r 0 c' status path (by decide) (fun addr => Nat.succ_ne_zero addr) hcall
    ⟨resid, entries, size, backing, hmem⟩ resid entries size backing hmem
  obtain ⟨hlength, hsize⟩ := Prod.mk.inj heq
  rw [← hlength, ← hsize] at hfits
  exact absurd hfits.1 (by decide)

/-- The condition at the first mode-set after a start, for a frame without padding. -/
theorem blobFits_iff_first_setMode : ∃ c' : Ctx, blobSizes c'.actions = [(3145728, 3145728)] ∧
    (BlobFits c'.actions ↔ 1024 * 4 * 768 ≤ roundToPages (4096 * 768)) := by
  let r : Request := ⟨⟨.sized 1024 768 4096 1024 0x1000, by decide⟩, true, .good⟩
  have hresult : ((hwInit (.plain true)).bind fun a =>
      (setCurrentModeExt r.outcomes a.blobSupported r.screen 0 r.mode (a.ctx r.screen)).map
        fun returned => blobSizes returned.1.actions) = some [(3145728, 3145728)] := by
    decide +kernel
  obtain ⟨a, -, hresult⟩ := Option.bind_eq_some_iff.mp hresult
  obtain ⟨⟨c', status, path⟩, hcall, hsizes⟩ := Option.map_eq_some_iff.mp hresult
  obtain ⟨resid, entries, size, backing, hmem, -⟩ :=
    exists_of_mem_blobSizes (hsizes ▸ List.mem_singleton_self (3145728, 3145728))
  exact ⟨c', hsizes, blobFits_iff (r := r) (by decide) (fun k _ => Nat.succ_ne_zero _) hcall
    ⟨resid, entries, size, backing, hmem⟩⟩

end VirtDisplay
