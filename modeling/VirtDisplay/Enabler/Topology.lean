/-
# The display topology that the enabler sets

While the displays of the driver are attached, the display that the system provides of itself
should be off. So the enabler asks for the active paths, clears the flags of those that do not go
to an indirect display, and gives the list back with `SetDisplayConfig`.

The loop over the paths stops clearing once it has seen a path of each kind. It would be enough if
there were only one path to clear, and the number of paths is compared with the number of displays
that the driver has published before the list is given back. But the driver may have published
more displays than have a path, and then the comparison also fits a list with several.
-/

import Mathlib.Algebra.Ring.Nat
import Mathlib.Data.List.Forall2
import VirtDisplay.Foundation.Splits

namespace VirtDisplay

namespace Enabler

/-- `DISPLAYCONFIG_VIDEO_OUTPUT_TECHNOLOGY` -/
inductive OutputTechnology
  | indirectWired
  | other (value : BitVec 32)
  deriving DecidableEq

/-- `DISPLAYCONFIG_PATH_INFO` -/
structure PathInfo where
  flags : BitVec 32
  /-- The mode of its source. -/
  modeInfoIdx : BitVec 32
  /-- What `DisplayConfigGetDeviceInfo` answers about its target, unless it fails. -/
  baseOutputTechnology : Option OutputTechnology
  deriving DecidableEq

/-- The position of a source mode. -/
structure Position where
  x : BitVec 32
  y : BitVec 32
  deriving DecidableEq

/-- The path goes to an indirect display. -/
def PathInfo.isIdPath (p : PathInfo) : Bool := p.baseOutputTechnology == some .indirectWired

/-- The path goes to another one. -/
def PathInfo.isNonIdPath (p : PathInfo) : Bool :=
  p.baseOutputTechnology.any fun technology => technology ≠ .indirectWired

/-- The path, turned off. -/
def PathInfo.clear (p : PathInfo) : PathInfo := { p with flags := 0 }

/-- The variables of the loop over the paths. -/
structure Sweep where
  /-- The paths that it has come by, as it has left them. -/
  pathList : List PathInfo
  modeList : List Position
  foundIdPath : Bool
  foundNonIdPath : Bool

/-- Move a source to the origin, if the list has its mode. -/
def moveSource (modeList : List Position) (i : Nat) : Option (List Position) :=
  if i < modeList.length then some (modeList.set i ⟨0, 0⟩) else none

/-- One round of the loop. It fails where it writes behind the modes. -/
def visit (s : Sweep) (p : PathInfo) : Option Sweep :=
  match p.baseOutputTechnology with
  | none => some { s with pathList := s.pathList ++ [p] }
  | some technology =>
      if s.foundNonIdPath && s.foundIdPath then some { s with pathList := s.pathList ++ [p] }
      else if technology ≠ .indirectWired then
        some { s with pathList := s.pathList ++ [p.clear], foundNonIdPath := true }
      else do
        let modeList ← if s.foundNonIdPath && !s.foundIdPath then
          moveSource s.modeList p.modeInfoIdx.toNat else some s.modeList
        return { s with
          pathList := s.pathList ++ [p], modeList := modeList, foundIdPath := true }

/-- `disp_info` -/
structure DispInfo where
  dispCount : BitVec 32

/-- What `GetDisplayCount` meets. -/
structure SharedMemory where
  openFileMapping : Bool
  mapViewOfFile : Bool
  openMutex : Bool
  info : DispInfo

/-- `GetDisplayCount`: `none` is `INTELVIRTDISPLAYENABLER_FAILURE`. -/
def getDisplayCount (memory : SharedMemory) : Option DispInfo :=
  if ¬ memory.openFileMapping then none
  else if ¬ memory.mapViewOfFile then none
  else if ¬ memory.openMutex then none
  else some memory.info

/-- What the system answers in an iteration. -/
structure Answers where
  isSystemLocked : Int
  /-- `GetDisplayConfigBufferSizes`: the numbers of paths and of modes. -/
  bufferSizes : Option (BitVec 32 × BitVec 32)
  sharedMemory : SharedMemory
  /-- `QueryDisplayConfig`: the active paths and their modes. -/
  active : Option (List PathInfo × List Position)
  /-- What `DisplayConfigGetDeviceInfo` answers about an entry behind the active paths. -/
  blank : Nat → Option OutputTechnology
  setDisplayConfig : Bool
  setEvent : Bool

/-- The arguments of `SetDisplayConfig`. -/
structure Config where
  pathCount : BitVec 32
  pathList : List PathInfo
  modeCount : BitVec 32
  modeList : List Position
  deriving DecidableEq

/-- How an iteration ends. -/
inductive Ending
  | again
  /-- It waits for the driver. -/
  | wait
  | outOfBounds
  deriving DecidableEq

/-- What an iteration does. -/
structure Iteration where
  /-- The call of `SetDisplayConfig`. -/
  call : Option Config
  /-- Whether it sets the event. -/
  event : Bool
  ending : Ending

section

variable (x : Answers)

/-- `QueryDisplayConfig` into buffers of these sizes, whose entries are zero. -/
def queryDisplayConfig (pathCount modeCount : BitVec 32) : Option Config :=
  x.active.bind fun (paths, modes) =>
    if paths.length ≤ pathCount.toNat ∧ modes.length ≤ modeCount.toNat then
      some
        { pathCount := BitVec.ofNat 32 paths.length
          pathList := paths ++ (List.range (pathCount.toNat - paths.length)).map
            fun k => ⟨0, 0, x.blank k⟩
          modeCount := BitVec.ofNat 32 modes.length
          modeList := modes ++ List.replicate (modeCount.toNat - modes.length) ⟨0, 0⟩ }
    else none

/-- The end of an iteration that gets so far. -/
def signal (call : Option Config) : Iteration :=
  ⟨call, true, if x.setEvent then .wait else .again⟩

/-- What follows the loop over the paths. -/
def setTopology (dinfo : DispInfo) (config : Config) (s : Sweep) : Iteration :=
  if s.foundNonIdPath = true ∧ config.pathCount ≠ dinfo.dispCount + 1 ∨
      ¬ s.foundNonIdPath = true ∧ config.pathCount ≠ dinfo.dispCount then ⟨none, false, .again⟩
  else if s.foundNonIdPath && s.foundIdPath then
    let call := { config with pathList := s.pathList, modeList := s.modeList }
    if x.setDisplayConfig then signal x (some call) else ⟨some call, false, .again⟩
  else signal x none

/-- An iteration of `intelvirtdisplayenabler_init`. -/
def iteration : Iteration :=
  if x.isSystemLocked ≠ 0 then ⟨none, false, .again⟩
  else
    match x.bufferSizes with
    | none => ⟨none, false, .again⟩
    | some (pathCount, modeCount) =>
        match getDisplayCount x.sharedMemory with
        | none => ⟨none, false, .wait⟩
        | some dinfo =>
            match queryDisplayConfig x pathCount modeCount with
            | none => ⟨none, false, .again⟩
            | some config =>
                match config.pathList.foldlM visit ⟨[], config.modeList, false, false⟩ with
                | none => ⟨none, false, .outOfBounds⟩
                | some s => setTopology x dinfo config s

end

/-- A path that the loop was to handle, and what it has made of it. -/
structure Handled (p p' : PathInfo) : Prop where
  cleared : p.isNonIdPath = true → p'.flags = 0
  kept : p.isIdPath = true → p'.flags = p.flags

/-- The lists of an iteration, once `QueryDisplayConfig` has filled them. -/
def queried (x : Answers) : Option Config :=
  x.bufferSizes.bind fun (pathCount, modeCount) => queryDisplayConfig x pathCount modeCount

/-- If the iteration calls `SetDisplayConfig`, it has handled every path. -/
def AllHandled (x : Answers) : Prop :=
  ∀ config call, queried x = some config → (iteration x).call = some call →
    List.Forall₂ Handled config.pathList call.pathList

section

variable (paths : List PathInfo)

/-- The paths that are to be cleared, but come after one of each kind, are off already. -/
def LatePathsOff : Prop := ∀ before p after, paths = before ++ p :: after →
  before.any PathInfo.isIdPath = true → before.any PathInfo.isNonIdPath = true →
    p.isNonIdPath = true → p.flags = 0

/-- The list of modes has that of the first path to an indirect display, if it is to be moved. -/
def SourceInRange (modes : Nat) : Prop := ∀ before p after, paths = before ++ p :: after →
  p.isIdPath = true → before.any PathInfo.isNonIdPath = true →
    before.any PathInfo.isIdPath = false → p.modeInfoIdx.toNat < modes

end

/-- What leads to the call of `SetDisplayConfig`. -/
structure Reaches (x : Answers) (config : Config) : Prop where
  unlocked : x.isSystemLocked = 0
  queried : queried x = some config
  count : ∃ dinfo, getDisplayCount x.sharedMemory = some dinfo ∧
    config.pathCount = dinfo.dispCount + 1
  idPath : config.pathList.any PathInfo.isIdPath = true
  nonIdPath : config.pathList.any PathInfo.isNonIdPath = true
  inRange : SourceInRange config.pathList config.modeList.length

variable {s s' : Sweep} {p : PathInfo} {paths : List PathInfo} {x : Answers}
  {config call : Config} {id nonId : Bool}

/-- What the loop leaves of the paths, if it has found these kinds before. -/
def swept (id nonId : Bool) : List PathInfo → List PathInfo
  | [] => []
  | p :: rest =>
      (if p.isNonIdPath && !(nonId && id) then p.clear else p) ::
        swept (id || p.isIdPath) (nonId || p.isNonIdPath) rest

/-- The modes after a path. -/
def modesAfter (s : Sweep) (p : PathInfo) : Option (List Position) :=
  if p.isIdPath && (s.foundNonIdPath && !s.foundIdPath) then
    moveSource s.modeList p.modeInfoIdx.toNat
  else some s.modeList

theorem visit_eq : visit s p = (modesAfter s p).map fun modeList =>
    { pathList := s.pathList ++
        [if p.isNonIdPath && !(s.foundNonIdPath && s.foundIdPath) then p.clear else p]
      modeList := modeList
      foundIdPath := s.foundIdPath || p.isIdPath
      foundNonIdPath := s.foundNonIdPath || p.isNonIdPath } := by
  obtain ⟨pathList, modeList, foundIdPath, foundNonIdPath⟩ := s
  obtain ⟨flags, modeInfoIdx, technology⟩ := p
  match technology with
  | none => cases foundIdPath <;> cases foundNonIdPath <;> rfl
  | some (.other value) => cases foundIdPath <;> cases foundNonIdPath <;> rfl
  | some .indirectWired =>
      cases foundIdPath <;> cases foundNonIdPath
      case false.true => exact (Option.map_eq_bind ..).symm
      all_goals rfl

/-- The loop over the paths, from any of its states on. -/
theorem foldlM_visit (hsweep : paths.foldlM visit s = some s') :
    s'.pathList = s.pathList ++ swept s.foundIdPath s.foundNonIdPath paths ∧
      s'.foundIdPath = (s.foundIdPath || paths.any PathInfo.isIdPath) ∧
      s'.foundNonIdPath = (s.foundNonIdPath || paths.any PathInfo.isNonIdPath) := by
  induction paths generalizing s with
  | nil =>
      obtain rfl := Option.some.inj hsweep
      simp [swept]
  | cons p paths ih =>
      rw [List.foldlM_cons, visit_eq, Option.bind_eq_bind, Option.bind_eq_some_iff] at hsweep
      obtain ⟨next, hnext, hrest⟩ := hsweep
      obtain ⟨modeList, -, rfl⟩ := Option.map_eq_some_iff.mp hnext
      obtain ⟨hpaths, hid, hnonId⟩ := ih hrest
      refine ⟨?_, ?_, ?_⟩
      · rw [hpaths, List.append_assoc]
        rfl
      · rw [hid, List.any_cons, Bool.or_assoc]
      · rw [hnonId, List.any_cons, Bool.or_assoc]

theorem length_modesAfter {modeList : List Position} (hmodes : modesAfter s p = some modeList) :
    modeList.length = s.modeList.length := by
  unfold modesAfter at hmodes
  split at hmodes
  next =>
    unfold moveSource at hmodes
    split at hmodes
    next =>
      obtain rfl := Option.some.inj hmodes
      exact List.length_set
    next => cases hmodes
  next => rw [Option.some.inj hmodes]

theorem exists_modesAfter_iff : (∃ modeList, modesAfter s p = some modeList) ↔
    (p.isIdPath = true → s.foundNonIdPath = true → s.foundIdPath = false →
      p.modeInfoIdx.toNat < s.modeList.length) := by
  unfold modesAfter
  split
  next hmoves =>
    simp only [Bool.and_eq_true, Bool.not_eq_true'] at hmoves
    obtain ⟨hid, hnonId, hfirst⟩ := hmoves
    unfold moveSource
    split
    next hrange => exact ⟨fun _ _ _ _ => hrange, fun _ => ⟨_, rfl⟩⟩
    next hrange => exact ⟨nofun, fun h => absurd (h hid hnonId hfirst) hrange⟩
  next hstays =>
    refine ⟨fun _ hid hnonId hfirst => absurd ?_ hstays, fun _ => ⟨_, rfl⟩⟩
    rw [hid, hnonId, hfirst]
    rfl

/-- The loop gets to its end if the mode that it writes to is there. -/
theorem exists_foldlM_visit_iff : (∃ s', paths.foldlM visit s = some s') ↔
    ∀ before p after, paths = before ++ p :: after → p.isIdPath = true →
      (s.foundNonIdPath || before.any PathInfo.isNonIdPath) = true →
      (s.foundIdPath || before.any PathInfo.isIdPath) = false →
        p.modeInfoIdx.toNat < s.modeList.length := by
  induction paths generalizing s with
  | nil => exact iff_of_true ⟨s, rfl⟩ Splits.forall_nil
  | cons p paths ih =>
      rw [Splits.forall_cons_iff, List.any_nil, List.any_nil, Bool.or_false, Bool.or_false,
        ← exists_modesAfter_iff, List.foldlM_cons, visit_eq]
      cases hmodes : modesAfter s p with
      | none => exact ⟨nofun, fun h => nomatch h.1⟩
      | some modeList =>
          refine Iff.trans ih ?_
          rw [and_iff_right ⟨modeList, rfl⟩, length_modesAfter hmodes]
          simp only [List.any_cons, Bool.or_assoc]

theorem isNonIdPath_of_isIdPath (hid : p.isIdPath = true) : p.isNonIdPath = false := by
  rw [PathInfo.isNonIdPath, beq_iff_eq.mp hid]
  rfl

/-- A path is handled unless it is to be cleared and comes too late. -/
theorem handled_iff : Handled p (if p.isNonIdPath && !(nonId && id) then p.clear else p) ↔
    (id = true → nonId = true → p.isNonIdPath = true → p.flags = 0) := by
  split
  next hclears =>
    rw [Bool.and_eq_true, Bool.not_eq_true', Bool.and_eq_false_iff] at hclears
    obtain ⟨hnonIdPath, hnot⟩ := hclears
    refine ⟨fun _ hid hnonId => ?_, fun _ => ⟨fun _ => rfl, fun hidPath => ?_⟩⟩
    · rw [hid, hnonId] at hnot
      cases hnot <;> contradiction
    · rw [isNonIdPath_of_isIdPath hidPath] at hnonIdPath
      cases hnonIdPath
  next hstays =>
    refine ⟨fun h _ _ => h.cleared, fun h => ⟨fun hnonIdPath => ?_, fun _ => rfl⟩⟩
    rw [hnonIdPath, Bool.true_and, Bool.not_eq_true', Bool.not_eq_false, Bool.and_eq_true]
      at hstays
    exact h hstays.2 hstays.1 hnonIdPath

theorem forall₂_handled_iff : List.Forall₂ Handled paths (swept id nonId paths) ↔
    ∀ before p after, paths = before ++ p :: after →
      (id || before.any PathInfo.isIdPath) = true →
      (nonId || before.any PathInfo.isNonIdPath) = true → p.isNonIdPath = true →
        p.flags = 0 := by
  induction paths generalizing id nonId with
  | nil => exact iff_of_true List.Forall₂.nil Splits.forall_nil
  | cons p paths ih =>
      rw [swept, List.forall₂_cons, Splits.forall_cons_iff, handled_iff, ih, List.any_nil,
        List.any_nil, Bool.or_false, Bool.or_false]
      simp only [List.any_cons, Bool.or_assoc]

/-- An iteration that gets as far as the loop. -/
theorem iteration_eq {dinfo : DispInfo} (hunlocked : x.isSystemLocked = 0)
    (hdinfo : getDisplayCount x.sharedMemory = some dinfo) (hqueried : queried x = some config) :
    iteration x = match config.pathList.foldlM visit ⟨[], config.modeList, false, false⟩ with
      | none => ⟨none, false, .outOfBounds⟩
      | some s => setTopology x dinfo config s := by
  obtain ⟨⟨pathCount, modeCount⟩, hsizes, hquery⟩ := Option.bind_eq_some_iff.mp hqueried
  dsimp only at hquery
  rw [iteration, if_neg (not_not.mpr hunlocked), hsizes]
  dsimp only
  rw [hdinfo]
  dsimp only
  rw [hquery]

theorem getDisplayCount_of_call (hcall : (iteration x).call = some call) :
    x.isSystemLocked = 0 ∧ ∃ dinfo, getDisplayCount x.sharedMemory = some dinfo := by
  unfold iteration at hcall
  split at hcall
  next => cases hcall
  next hunlocked =>
    refine ⟨not_not.mp hunlocked, ?_⟩
    split at hcall
    next => cases hcall
    next =>
      split at hcall
      next => cases hcall
      next dinfo hdinfo => exact ⟨dinfo, hdinfo⟩

@[simp]
theorem signal_call (given : Option Config) : (signal x given).call = given := rfl

theorem setTopology_call {dinfo : DispInfo} : (setTopology x dinfo config s).call =
    if s.foundNonIdPath = true ∧ s.foundIdPath = true ∧ config.pathCount = dinfo.dispCount + 1 then
      some { config with pathList := s.pathList, modeList := s.modeList }
    else none := by
  unfold setTopology
  split
  next hstale =>
    rw [if_neg]
    rintro ⟨hnonId, -, hcount⟩
    rcases hstale with ⟨-, hne⟩ | ⟨hnot, -⟩
    · exact hne hcount
    · exact hnot hnonId
  next hfits =>
    rw [not_or, not_and, not_not] at hfits
    by_cases hboth : (s.foundNonIdPath && s.foundIdPath) = true
    · obtain ⟨hnonId, hid⟩ := (Bool.and_eq_true _ _).mp hboth
      have hcall : s.foundNonIdPath = true ∧ s.foundIdPath = true ∧
          config.pathCount = dinfo.dispCount + 1 := ⟨hnonId, hid, hfits.1 hnonId⟩
      rw [if_pos hboth, if_pos hcall]
      split <;> rfl
    · rw [if_neg hboth, if_neg fun h => hboth (by rw [h.1, h.2.1]; rfl)]
      rfl

/-- What is given back are the paths as the loop leaves them. -/
theorem call_of_reaches (hreaches : Reaches x config) :
    ∃ call, (iteration x).call = some call ∧ call.pathList = swept false false config.pathList := by
  obtain ⟨dinfo, hdinfo, hcount⟩ := hreaches.count
  obtain ⟨s, hsweep⟩ : ∃ s, config.pathList.foldlM visit ⟨[], config.modeList, false, false⟩ =
      some s := exists_foldlM_visit_iff.mpr hreaches.inRange
  obtain ⟨hlist, hid, hnonId⟩ := foldlM_visit hsweep
  refine ⟨{ config with pathList := s.pathList, modeList := s.modeList }, ?_, hlist⟩
  rw [iteration_eq hreaches.unlocked hdinfo hreaches.queried, hsweep]
  dsimp only
  rw [setTopology_call, if_pos ⟨hnonId.trans hreaches.nonIdPath, hid.trans hreaches.idPath, hcount⟩]

/-- The call is made on nothing less. -/
theorem reaches_of_call (hqueried : queried x = some config)
    (hcall : (iteration x).call = some call) :
    Reaches x config ∧ call.pathList = swept false false config.pathList := by
  obtain ⟨hunlocked, dinfo, hdinfo⟩ := getDisplayCount_of_call hcall
  rw [iteration_eq hunlocked hdinfo hqueried] at hcall
  cases hsweep : config.pathList.foldlM visit ⟨[], config.modeList, false, false⟩ with
  | none =>
      rw [hsweep] at hcall
      cases hcall
  | some s =>
      rw [hsweep] at hcall
      dsimp only at hcall
      rw [setTopology_call] at hcall
      obtain ⟨hlist, hid, hnonId⟩ := foldlM_visit hsweep
      split at hcall
      next hfits =>
        obtain ⟨hfound_nonId, hfound_id, hcount⟩ := hfits
        obtain rfl := Option.some.inj hcall
        exact ⟨⟨hunlocked, hqueried, ⟨dinfo, hdinfo, hcount⟩, hid.symm.trans hfound_id,
          hnonId.symm.trans hfound_nonId, exists_foldlM_visit_iff.mp ⟨s, hsweep⟩⟩, hlist⟩
      next => cases hcall

theorem allHandled_of_latePathsOff
    (hlate : ∀ config, Reaches x config → LatePathsOff config.pathList) : AllHandled x := by
  intro config call hqueried hcall
  obtain ⟨hreaches, hlist⟩ := reaches_of_call hqueried hcall
  rw [hlist]
  exact forall₂_handled_iff.mpr (hlate config hreaches)

/-- Every path is handled exactly if those that come too late to be cleared are off. -/
theorem allHandled_iff (x : Answers) :
    AllHandled x ↔ ∀ config, Reaches x config → LatePathsOff config.pathList := by
  refine ⟨fun hall config hreaches => ?_, allHandled_of_latePathsOff⟩
  obtain ⟨call, hcall, hlist⟩ := call_of_reaches hreaches
  have hhandled := hall config call hreaches.queried hcall
  rw [hlist] at hhandled
  exact forall₂_handled_iff.mp hhandled

/-- The active paths of an iteration. -/
def activePaths (x : Answers) : List PathInfo := (x.active.map Prod.fst).getD []

/-- The driver has published as many displays as have a path, and the system has answered about
every path. -/
structure Counted (x : Answers) : Prop where
  answered : ∀ p ∈ activePaths x, p.baseOutputTechnology ≠ none
  count : ∀ dinfo, getDisplayCount x.sharedMemory = some dinfo →
    dinfo.dispCount.toNat = (activePaths x).countP PathInfo.isIdPath

theorem isIdPath_eq_not (hanswered : p.baseOutputTechnology ≠ none) :
    p.isNonIdPath = !p.isIdPath := by
  obtain ⟨technology, htechnology⟩ := Option.ne_none_iff_exists'.mp hanswered
  rw [PathInfo.isNonIdPath, PathInfo.isIdPath, htechnology]
  cases technology <;> rfl

/-- The list holds the active paths, and then entries that are off. -/
theorem queried_pathList (hqueried : queried x = some config) :
    ∃ blanks, config.pathList = activePaths x ++ blanks ∧ (∀ p ∈ blanks, p.flags = 0) ∧
      config.pathCount.toNat = (activePaths x).length := by
  obtain ⟨⟨pathCount, modeCount⟩, -, hquery⟩ := Option.bind_eq_some_iff.mp hqueried
  obtain ⟨⟨paths, modes⟩, hactive, hfill⟩ := Option.bind_eq_some_iff.mp hquery
  have hpaths : activePaths x = paths := by
    rw [activePaths, hactive]
    rfl
  dsimp only at hfill
  split at hfill
  next hfits =>
    obtain rfl := Option.some.inj hfill
    have hbound := pathCount.isLt
    refine ⟨_, by rw [hpaths], fun p hmem => ?_, ?_⟩
    · obtain ⟨k, -, rfl⟩ := List.mem_map.mp hmem
      rfl
    · rw [hpaths, BitVec.toNat_ofNat, Nat.mod_eq_of_lt (by omega)]
  next => cases hfill

/-- A count that fits leaves one path to be cleared. -/
theorem countP_isNonIdPath_le_one {dinfo : DispInfo} (hcounted : Counted x)
    (hqueried : queried x = some config) (hdinfo : getDisplayCount x.sharedMemory = some dinfo)
    (hcount : config.pathCount = dinfo.dispCount + 1) :
    (activePaths x).countP PathInfo.isNonIdPath ≤ 1 := by
  have hboth : (activePaths x).length = (activePaths x).countP PathInfo.isIdPath +
      (activePaths x).countP PathInfo.isNonIdPath := by
    rw [List.length_eq_countP_add_countP PathInfo.isIdPath]
    refine congrArg _ (List.countP_congr fun q hmem => ?_)
    rw [isIdPath_eq_not (hcounted.answered q hmem)]
    simp
  have hdisplays := hcounted.count dinfo hdinfo
  obtain ⟨-, -, -, hlength⟩ := queried_pathList hqueried
  have htotal := congrArg BitVec.toNat hcount
  rw [hlength, BitVec.toNat_add] at htotal
  have hmod := Nat.mod_le (dinfo.dispCount.toNat + (1 : BitVec 32).toNat) (2 ^ 32)
  have hone : (1 : BitVec 32).toNat = 1 := rfl
  omega

/-- If the driver has published what there is, every path is handled. -/
theorem allHandled_of_counted (hcounted : Counted x) : AllHandled x := by
  refine allHandled_of_latePathsOff fun config hreaches before p after hsplit _ hnonId hlate => ?_
  obtain ⟨dinfo, hdinfo, hcount⟩ := hreaches.count
  obtain ⟨blanks, hlist, hblanks, -⟩ := queried_pathList hreaches.queried
  rw [hlist] at hsplit
  -- an entry behind the active paths is off, and of these there is only one to be cleared
  rcases List.append_eq_append_iff.mp hsplit with ⟨rest, -, hrest⟩ | ⟨rest, hactive, hrest⟩
  · exact hblanks p (hrest ▸ List.mem_append_right rest List.mem_cons_self)
  · cases rest with
    | nil =>
        obtain rfl : p :: after = blanks := hrest
        exact hblanks p List.mem_cons_self
    | cons q rest =>
        obtain ⟨rfl, -⟩ := List.cons.inj hrest
        have hone := countP_isNonIdPath_le_one hcounted hreaches.queried hdinfo hcount
        have hbefore : 0 < before.countP PathInfo.isNonIdPath := by
          rwa [List.countP_pos_iff, ← List.any_eq_true]
        rw [hactive, List.countP_append, List.countP_cons_of_pos hlate] at hone
        omega

/-- The driver has published two displays, of which one has a path. The other two active paths go
to displays of the system. -/
def earlyAnswers : Answers where
  isSystemLocked := 0
  bufferSizes := some (3, 1)
  sharedMemory := ⟨true, true, true, ⟨2⟩⟩
  active := some ([⟨1, 0, some (.other 0)⟩, ⟨1, 0, some .indirectWired⟩,
    ⟨1, 0, some (.other 0)⟩], [⟨0, 0⟩])
  blank := fun _ => none
  setDisplayConfig := true
  setEvent := true

/-- The last path is given back as it was. -/
theorem not_allHandled_early : ¬ AllHandled earlyAnswers := by
  intro hall
  have hqueried : queried earlyAnswers = some
      ⟨3, [⟨1, 0, some (.other 0)⟩, ⟨1, 0, some .indirectWired⟩, ⟨1, 0, some (.other 0)⟩], 1,
        [⟨0, 0⟩]⟩ := rfl
  have hcall : (iteration earlyAnswers).call = some
      ⟨3, [⟨0, 0, some (.other 0)⟩, ⟨1, 0, some .indirectWired⟩, ⟨1, 0, some (.other 0)⟩], 1,
        [⟨0, 0⟩]⟩ := by decide +kernel
  have hhandled := hall _ _ hqueried hcall
  simp only [List.forall₂_cons] at hhandled
  have hlast := hhandled.2.2.1.cleared rfl
  revert hlast
  decide

end Enabler

end VirtDisplay
