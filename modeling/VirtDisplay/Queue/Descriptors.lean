/-
# The descriptors of a control command

`QueueBuffer` fills an array of sixty-four descriptors on its stack. Here its statements run
on that array with the counters the source keeps, so an index outside the array would be a
fault, and a page of the data that is not valid keeps the loop from ending.

Where the loop ends, the array holds what the list functions of `Queue.QueueBuffer` build.
For valid addresses that is a description of the command, of the data cut into pages, and of
the response: nothing is left out or described twice.
-/

import VirtDisplay.Foundation.Checked
import VirtDisplay.Foundation.Stretches
import VirtDisplay.Queue.QueueBuffer

namespace VirtDisplay

/-- What `AddBuf` is called with: the device-readable descriptors and the writable ones. -/
structure Handed where
  out : List SgElement
  inn : List SgElement

/-- What `queueBuffer` puts together for the ring, if anything. -/
def handOver (space : AddressSpace) (v : CommandMemory) : Option (Option Handed) :=
  if pageSize < v.size then some none
  else
    let command := (buildSGElement space v.buf v.size).toList
    match addData space (sgListSize - command.length) v.dataBuf v.dataSize command with
    | .endless => none
    | .full => some none
    | .built out sgleft =>
        if pageSize < v.respSize then some none
        else
          let response :=
            if 0 < sgleft then (buildSGElement space v.respBuf v.respSize).toList else []
          some (some ⟨out, response⟩)

/-- The descriptors that the ring makes of a command. -/
theorem queueBuffer_eq_handOver (space : AddressSpace) (numUnused : Nat) (v : CommandMemory) :
    queueBuffer space numUnused v = (handOver space v).map fun handed =>
      match handed with
      | none => ⟨0, none⟩
      | some handed => queuePieces numUnused handed.out handed.inn := by
  unfold queueBuffer handOver
  split
  next => rfl
  next =>
    dsimp only
    cases addData space (sgListSize - (buildSGElement space v.buf v.size).toList.length) v.dataBuf
        v.dataSize (buildSGElement space v.buf v.size).toList with
    | endless => rfl
    | full => rfl
    | built out sgleft =>
        dsimp only
        split
        next => rfl
        next => rfl

namespace QueueProgram

open Checked

/-- The local variables of `QueueBuffer`. -/
structure SgState where
  sg : Vector SgElement sgListSize
  outcnt : Nat
  incnt : Nat
  sgleft : Nat

/-- The descriptor that was built is counted among the readable ones. -/
def SgState.countOut (s : SgState) (sg : Vector SgElement sgListSize) :
    Checked Handed SgState := do
  let outcnt ← uint (s.outcnt + 1)
  let sgleft ← minus s.sgleft 1
  return { s with sg := sg, outcnt := outcnt, sgleft := sgleft }

/-- The descriptor that was built is counted among the writable ones. -/
def SgState.countIn (s : SgState) (sg : Vector SgElement sgListSize) : Checked Handed SgState := do
  let incnt ← uint (s.incnt + 1)
  let sgleft ← minus s.sgleft 1
  return { s with sg := sg, incnt := incnt, sgleft := sgleft }

/-- The variables of the loop over the data. -/
structure DataState where
  s : SgState
  dataBuf : Nat
  dataSize : Nat
  /-- The loop returned from the function. -/
  full : Bool

section

variable (space : AddressSpace)

/-- `BuildSGElement(&sg[outcnt + incnt], buf, size)`: the array with the element, if there is
one. -/
def buildNext (s : SgState) (buf size : Nat) :
    Checked Handed (Option (Vector SgElement sgListSize)) :=
  if h : s.outcnt + s.incnt < sgListSize then
    pure ((buildSGElement space buf size).map fun element =>
      s.sg.set (s.outcnt + s.incnt) element h)
  else fault .outOfBounds

/-- A round of the loop over the data. Without an element it is the same again. -/
def dataRound (d : DataState) : Checked Handed (Turn DataState) := do
  match ← buildNext space d.s d.dataBuf d.dataSize with
  | none => return .next d
  | some sg =>
      let dataSize ← minus d.dataSize (min d.dataSize pageSize)
      let s ← d.s.countOut sg
      if s.sgleft = 0 then return .leave ⟨s, d.dataBuf + pageSize, dataSize, true⟩
      else return .next ⟨s, d.dataBuf + pageSize, dataSize, false⟩

/-- `while (data_size)`. -/
def dataLoop (fuel : Nat) (d : DataState) : Checked Handed DataState :=
  loop (fun d => decide (d.dataSize ≠ 0)) (dataRound space) fuel d

/-- The descriptor of the command. -/
def addCommand (s : SgState) (v : CommandMemory) : Checked Handed SgState := do
  match ← buildNext space s v.buf v.size with
  | none => return s
  | some sg => s.countOut sg

/-- The descriptors of the data. -/
def addPages (fuel : Nat) (s : SgState) (v : CommandMemory) : Checked Handed DataState :=
  let d : DataState := ⟨s, v.dataBuf, v.dataSize, false⟩
  if v.dataSize ≠ 0 then dataLoop space fuel d else pure d

/-- The descriptor of the response. -/
def addResponse (s : SgState) (v : CommandMemory) : Checked Handed SgState := do
  if v.respSize ≠ 0 ∧ 0 < s.sgleft then
    match ← buildNext space s v.respBuf v.respSize with
    | none => return s
    | some sg => s.countIn sg
  else return s

/-- `QueueBuffer` up to the call of `AddBuf`, over whatever the array held before. -/
def queueBuffer (sg : Vector SgElement sgListSize) (fuel : Nat) (v : CommandMemory) :
    Checked Handed Unit := do
  if pageSize < v.size then return ()
  else
    let s ← addCommand space ⟨sg, 0, 0, sgListSize⟩ v
    let d ← addPages space fuel s v
    if d.full then return ()
    else if pageSize < v.respSize then return ()
    else
      let s ← addResponse space d.s v
      Logged.emit ⟨s.sg.toList.take s.outcnt, (s.sg.toList.drop s.outcnt).take s.incnt⟩

end

/-- The array holds this list of readable descriptors, and the slots behind it are free. -/
structure Holds (s : SgState) (out : List SgElement) : Prop where
  outcnt : s.outcnt = out.length
  incnt : s.incnt = 0
  sgleft : s.sgleft + out.length = sgListSize
  listed : s.sg.toList.take out.length = out

section

variable {space : AddressSpace} {s : SgState} {out : List SgElement} {buf size : Nat}

/-- Writing the slot behind a prefix makes the prefix longer by that element. -/
theorem take_toList_set {i : Nat} {sg : Vector SgElement sgListSize} (element : SgElement)
    (h : i < sgListSize) (htake : sg.toList.take i = out) :
    (sg.set i element h).toList.take (i + 1) = out ++ [element] := by
  have hlength : i < (sg.toList.set i element).length := by
    rw [List.length_set, Vector.length_toList]
    exact h
  rw [Vector.toList_set, List.take_add_one, List.take_set_of_le (Nat.le_refl i), htake,
    List.getElem?_eq_getElem hlength, List.getElem_set_self]
  rfl

variable (space buf size) in
theorem buildNext_eq (hholds : Holds s out) (hleft : 0 < s.sgleft) :
    ∃ h, buildNext space s buf size = pure ((buildSGElement space buf size).map fun element =>
      s.sg.set out.length element h) := by
  have hlt : s.outcnt + s.incnt < sgListSize := by
    have := hholds.outcnt
    have := hholds.incnt
    have := hholds.sgleft
    omega
  have heq : s.outcnt + s.incnt = out.length := by rw [hholds.outcnt, hholds.incnt, Nat.add_zero]
  refine ⟨heq ▸ hlt, ?_⟩
  rw [buildNext, dif_pos hlt]
  simp only [heq]

theorem countOut_eq (hholds : Holds s out) (hleft : 0 < s.sgleft) (element : SgElement)
    (h : out.length < sgListSize) :
    s.countOut (s.sg.set out.length element h) =
        pure { s with
          sg := s.sg.set out.length element h
          outcnt := s.outcnt + 1
          sgleft := s.sgleft - 1 } ∧
      Holds { s with
          sg := s.sg.set out.length element h
          outcnt := s.outcnt + 1
          sgleft := s.sgleft - 1 } (out ++ [element]) := by
  have hsgleft := hholds.sgleft
  have houtcnt := hholds.outcnt
  have hsize : sgListSize = 64 := rfl
  refine ⟨?_, ?_, hholds.incnt, ?_, ?_⟩
  · rw [SgState.countOut, uint_of_lt (by omega), minus_of_le (by omega)]
    rfl
  · rw [List.length_append, List.length_singleton, houtcnt]
  · dsimp only
    rw [List.length_append, List.length_singleton]
    omega
  · rw [List.length_append, List.length_singleton]
    exact take_toList_set element h hholds.listed

variable (space) in
/-- The descriptor of the command, if there is one. -/
theorem addCommand_eq (v : CommandMemory) (sg : Vector SgElement sgListSize) :
    ∃ s, addCommand space ⟨sg, 0, 0, sgListSize⟩ v = pure s ∧
      Holds s (buildSGElement space v.buf v.size).toList := by
  have hholds : Holds ⟨sg, 0, 0, sgListSize⟩ [] := ⟨rfl, rfl, rfl, rfl⟩
  obtain ⟨h, hbuild⟩ := buildNext_eq space v.buf v.size hholds
    (show 0 < sgListSize by decide)
  cases hcommand : buildSGElement space v.buf v.size with
  | none =>
      refine ⟨_, ?_, hholds⟩
      rw [addCommand, hbuild, hcommand]
      rfl
  | some element =>
      obtain ⟨hcount, hnext⟩ := countOut_eq hholds (show 0 < sgListSize by decide) element h
      refine ⟨_, ?_, hnext⟩
      rw [addCommand, hbuild, hcommand]
      exact hcount

/-- The loop over the array and the one over the list end alike. -/
def Agrees : DataLoop → DataState → Prop
  | .built out sgleft, d => d.full = false ∧ Holds d.s out ∧ d.s.sgleft = sgleft
  | .full, d => d.full = true
  | .endless, _ => False

/-- A round takes a page off the data and fills a slot, and the last slot ends the function. -/
theorem dataRound_eq {d : DataState} {out : List SgElement} {element : SgElement}
    (hholds : Holds d.s out) (hleft : 0 < d.s.sgleft)
    (hsome : buildSGElement space d.dataBuf d.dataSize = some element) :
    ∃ s, Holds s (out ++ [element]) ∧ s.sgleft = d.s.sgleft - 1 ∧
      dataRound space d = pure (if s.sgleft = 0 then
        .leave ⟨s, d.dataBuf + pageSize, d.dataSize - min d.dataSize pageSize, true⟩
      else .next ⟨s, d.dataBuf + pageSize, d.dataSize - min d.dataSize pageSize, false⟩) := by
  obtain ⟨h, hbuild⟩ := buildNext_eq space d.dataBuf d.dataSize hholds hleft
  obtain ⟨hcount, hnext⟩ := countOut_eq hholds hleft element h
  refine ⟨_, hnext, rfl, ?_⟩
  unfold dataRound
  rw [hbuild, hsome]
  simp only [Option.map_some, Logged.ok_bind, minus_of_le (Nat.min_le_left _ _), hcount]
  split
  · rfl
  · rfl

/-- The loop over the array builds what the loop over the list builds. -/
theorem dataLoop_eq {fuel sgleft dataBuf dataSize : Nat} {out : List SgElement}
    (hholds : Holds s out) (hleft : s.sgleft = sgleft) (hpos : 0 < sgleft)
    (hfuel : dataSize < fuel)
    (hends : addData space sgleft dataBuf dataSize out ≠ .endless) :
    ∃ d, dataLoop space fuel ⟨s, dataBuf, dataSize, false⟩ = pure d ∧
      Agrees (addData space sgleft dataBuf dataSize out) d := by
  induction sgleft, dataBuf, dataSize, out using addData.induct space generalizing s fuel with
  | case1 sgleft dataBuf out =>
      obtain ⟨fuel, rfl⟩ := Nat.exists_eq_succ_of_ne_zero (Nat.pos_iff_ne_zero.mp hfuel)
      rw [addData]
      exact ⟨_, loop_stop rfl, rfl, hholds, hleft⟩
  | case2 dataBuf dataSize out => exact absurd hpos (Nat.lt_irrefl 0)
  | case3 sgleft dataBuf dataSize out hnone => exact absurd (by rw [addData, hnone]) hends
  | case4 dataBuf dataSize out element hsome =>
      obtain ⟨fuel, rfl⟩ := Nat.exists_eq_succ_of_ne_zero (Nat.ne_zero_of_lt hfuel)
      obtain ⟨s', -, hleft', hround⟩ := dataRound_eq
        (d := ⟨s, dataBuf, dataSize + 1, false⟩) hholds (hleft ▸ hpos) hsome
      rw [if_pos (by rw [hleft', hleft])] at hround
      rw [addData, hsome]
      exact ⟨_, loop_leave rfl hround, rfl⟩
  | case5 sgleft dataBuf dataSize out element hsome hmore ih =>
      obtain ⟨fuel, rfl⟩ := Nat.exists_eq_succ_of_ne_zero (Nat.ne_zero_of_lt hfuel)
      obtain ⟨s', hholds', hleft', hround⟩ := dataRound_eq
        (d := ⟨s, dataBuf, dataSize + 1, false⟩) hholds (hleft ▸ hpos) hsome
      have hsgleft : s'.sgleft = sgleft := hleft'.trans (congrArg (· - 1) hleft)
      rw [if_neg (hsgleft ▸ hmore)] at hround
      have hturn : addData space (sgleft + 1) dataBuf (dataSize + 1) out =
          addData space sgleft (dataBuf + pageSize)
            (dataSize + 1 - min (dataSize + 1) pageSize) (out ++ [element]) := by
        rw [addData, hsome]
        exact if_neg hmore
      rw [hturn] at hends ⊢
      have hshrinks : dataSize + 1 - min (dataSize + 1) pageSize < fuel := by
        have hpage : 0 < min (dataSize + 1) pageSize := Nat.lt_min.mpr ⟨Nat.succ_pos _, by decide⟩
        omega
      obtain ⟨d, hloop, hagrees⟩ := ih hholds' hsgleft (Nat.pos_of_ne_zero hmore) hshrinks hends
      refine ⟨d, ?_, hagrees⟩
      rw [dataLoop, loop_next rfl hround]
      exact hloop

variable (space) in
/-- Without data the loop is left out, with the same end. -/
theorem addPages_eq {fuel sgleft : Nat} (v : CommandMemory) (hholds : Holds s out)
    (hleft : s.sgleft = sgleft) (hpos : 0 < sgleft) (hfuel : v.dataSize < fuel)
    (hends : addData space sgleft v.dataBuf v.dataSize out ≠ .endless) :
    ∃ d, addPages space fuel s v = pure d ∧
      Agrees (addData space sgleft v.dataBuf v.dataSize out) d := by
  unfold addPages
  split
  next => exact dataLoop_eq hholds hleft hpos hfuel hends
  next hnone =>
    rw [not_not.mp hnone, addData]
    exact ⟨_, rfl, rfl, hholds, hleft⟩

variable (space) in
/-- The descriptor of the response, if there is one. -/
theorem addResponse_eq (v : CommandMemory) (hholds : Holds s out) :
    ∃ s', addResponse space s v = pure s' ∧ s'.sg.toList.take s'.outcnt = out ∧
      (s'.sg.toList.drop s'.outcnt).take s'.incnt =
        if 0 < s.sgleft then (buildSGElement space v.respBuf v.respSize).toList else [] := by
  have hkept : s.sg.toList.take s.outcnt = out ∧ (s.sg.toList.drop s.outcnt).take s.incnt = [] := by
    rw [hholds.outcnt, hholds.incnt]
    exact ⟨hholds.listed, List.take_zero⟩
  unfold addResponse
  by_cases hleft : 0 < s.sgleft
  · rw [if_pos hleft]
    by_cases hsize : v.respSize = 0
    · have hnone : buildSGElement space v.respBuf v.respSize = none := if_neg fun h => h.1 hsize
      rw [if_neg fun h => h.1 hsize, hnone]
      exact ⟨s, rfl, hkept⟩
    · rw [if_pos ⟨hsize, hleft⟩]
      obtain ⟨h, hbuild⟩ := buildNext_eq space v.respBuf v.respSize hholds hleft
      rw [hbuild]
      cases hresponse : buildSGElement space v.respBuf v.respSize with
      | none => exact ⟨s, rfl, hkept⟩
      | some element =>
          have hcount : s.countIn (s.sg.set out.length element h) =
              pure { s with
                sg := s.sg.set out.length element h
                incnt := s.incnt + 1
                sgleft := s.sgleft - 1 } := by
            rw [SgState.countIn, hholds.incnt, uint_of_lt (by decide), minus_of_le hleft]
            rfl
          have hnext : (s.sg.set out.length element h).toList.take (out.length + 1) =
              out ++ [element] := take_toList_set element h hholds.listed
          refine ⟨_, hcount, ?_, ?_⟩
          · dsimp only
            rw [hholds.outcnt, Vector.toList_set, List.take_set_of_le (Nat.le_refl _),
              hholds.listed]
          · dsimp only
            rw [hholds.outcnt, hholds.incnt, ← Nat.add_sub_cancel_left out.length (0 + 1),
              ← List.drop_take, Nat.zero_add, hnext, List.drop_left]
            rfl
  · rw [if_neg fun h => hleft h.2, if_neg hleft]
    exact ⟨s, rfl, hkept⟩

/-- Where the list function comes back, the statements run without a fault and hand over the
same. -/
theorem queueBuffer_eq {fuel : Nat} {v : CommandMemory} {handed : Option Handed}
    (sg : Vector SgElement sgListSize) (hfuel : v.dataSize < fuel)
    (hqueue : handOver space v = some handed) :
    queueBuffer space sg fuel v = ⟨handed.toList, .ok ()⟩ := by
  unfold handOver at hqueue
  unfold queueBuffer
  split at hqueue
  next hsize =>
    obtain rfl := Option.some.inj hqueue
    rw [if_pos hsize]
    rfl
  next hsize =>
    rw [if_neg hsize]
    obtain ⟨s, hcommand, hholds⟩ := addCommand_eq space v sg
    rw [hcommand, Logged.ok_bind]
    dsimp only at hqueue
    have hleft : s.sgleft = sgListSize - (buildSGElement space v.buf v.size).toList.length :=
      Nat.eq_sub_of_add_eq hholds.sgleft
    have hpos : 0 < sgListSize - (buildSGElement space v.buf v.size).toList.length := by
      have hone := @pieces_le_one space v.buf v.size
      rw [length_buildSGElement, show sgListSize = 64 from rfl]
      omega
    have hdata := addPages_eq space v hholds hleft hpos hfuel
    split at hqueue
    next => cases hqueue
    next hfull =>
      obtain ⟨d, hloop, hagrees⟩ := hdata (by rw [hfull]; nofun)
      rw [hfull] at hagrees
      obtain rfl := Option.some.inj hqueue
      rw [hloop, Logged.ok_bind, if_pos (show d.full = true from hagrees)]
      rfl
    next out sgleft hbuilt =>
      obtain ⟨d, hloop, hagrees⟩ := hdata (by rw [hbuilt]; nofun)
      rw [hbuilt] at hagrees
      obtain ⟨hnot, hholds', hsgleft⟩ := hagrees
      rw [hloop, Logged.ok_bind, if_neg (by rw [hnot]; exact Bool.false_ne_true)]
      split at hqueue
      next hresp =>
        obtain rfl := Option.some.inj hqueue
        rw [if_pos hresp]
        rfl
      next hresp =>
        obtain rfl := Option.some.inj hqueue
        rw [if_neg hresp]
        obtain ⟨s', hresponse, hout, hinn⟩ := addResponse_eq space v hholds'
        rw [hresponse, Logged.ok_bind, hout, hinn, hsgleft]
        rfl

end

end QueueProgram

/-! ## What the descriptors describe -/

/-- The descriptor of a stretch of memory. -/
def AddressSpace.describe (space : AddressSpace) (s : Stretch) : SgElement :=
  ⟨space.phys s.start, s.length⟩

/-- The physical addresses a descriptor names. -/
def SgElement.bytes (element : SgElement) : List Nat := List.range' element.physAddr element.length

namespace CommandMemory

variable (v : CommandMemory)

/-- The bytes of the command, of the data and of the response. -/
def command : Stretch := ⟨v.buf, v.size⟩
def data : Stretch := ⟨v.dataBuf, v.dataSize⟩
def response : Stretch := ⟨v.respBuf, v.respSize⟩

/-- Every address of the memory is valid. -/
structure Valid (space : AddressSpace) : Prop where
  command : ∀ a ∈ v.command.addresses, space.valid a = true
  data : ∀ a ∈ v.data.addresses, space.valid a = true
  response : ∀ a ∈ v.response.addresses, space.valid a = true

/-- The descriptors describe the memory. The readable ones are for the command and then for
the pieces of the data, which name its bytes in order; the writable one is for the response.
A stretch within a page is described by its physical bytes. -/
structure Described (space : AddressSpace) (out inn : List SgElement) : Prop where
  readable : ∃ pieces, out = (v.command :: pieces).map space.describe ∧
    pieces.flatMap Stretch.addresses = v.data.addresses
  writable : inn = if v.respSize = 0 then [] else [space.describe v.response]
  lengths : ∀ element ∈ out ++ inn, 0 < element.length ∧ element.length ≤ pageSize
  commandBytes : v.command.Within pageSize →
    (out.take 1).flatMap SgElement.bytes = v.command.addresses.map space.phys
  dataBytes : (out.drop 1).flatMap SgElement.bytes = v.data.addresses.map space.phys
  responseBytes : v.response.Within pageSize →
    inn.flatMap SgElement.bytes = v.response.addresses.map space.phys

/-- The memory does not fit the descriptors: the command or the response is longer than a
page, or the data needs more pieces than there are slots beside these two. -/
def TooLarge : Prop :=
  pageSize < v.size ∨ pageSize < v.respSize ∨
    sgListSize - 2 < Pages.count pageSize v.dataSize

end CommandMemory

section

variable {space : AddressSpace} {v : CommandMemory}

theorem buildSGElement_of_valid {buf size : Nat} (hsize : size ≠ 0)
    (hvalid : space.valid buf = true) :
    buildSGElement space buf size = some (space.describe ⟨buf, min size pageSize⟩) :=
  if_pos ⟨hsize, hvalid⟩

/-- Over valid pages the loop describes the pieces of the data, if it does not run out of
slots. -/
theorem addData_of_valid (sgleft dataBuf dataSize : Nat) (sg : List SgElement)
    (hvalid : ∀ a ∈ List.range' dataBuf dataSize, space.valid a = true) :
    addData space sgleft dataBuf dataSize sg =
      if dataSize = 0 ∨ Pages.count pageSize dataSize < sgleft then
        .built (sg ++ (Stretch.cut pageSize dataBuf dataSize).map space.describe)
          (sgleft - Pages.count pageSize dataSize)
      else .full := by
  have hpage : 0 < pageSize := by decide
  induction sgleft, dataBuf, dataSize, sg using addData.induct space with
  | case1 sgleft dataBuf sg => simp [addData]
  | case2 dataBuf dataSize sg => simp [addData]
  | case3 sgleft dataBuf dataSize sg hnone =>
      have hfirst := hvalid dataBuf (List.mem_range'_1.mpr ⟨Nat.le_refl _, by omega⟩)
      rw [buildSGElement_of_valid (Nat.succ_ne_zero _) hfirst] at hnone
      cases hnone
  | case4 dataBuf dataSize sg element hsome =>
      rw [addData, hsome, if_neg]
      · rfl
      · rw [Pages.count_sub_page hpage (Nat.succ_pos _)]
        omega
  | case5 sgleft dataBuf dataSize sg element hsome hmore ih =>
      have hfirst := hvalid dataBuf (List.mem_range'_1.mpr ⟨Nat.le_refl _, by omega⟩)
      rw [buildSGElement_of_valid (Nat.succ_ne_zero _) hfirst] at hsome
      obtain rfl := Option.some.inj hsome
      have hturn : addData space (sgleft + 1) dataBuf (dataSize + 1) sg =
          addData space sgleft (dataBuf + pageSize) (dataSize + 1 - min (dataSize + 1) pageSize)
            (sg ++ [space.describe ⟨dataBuf, min (dataSize + 1) pageSize⟩]) := by
        rw [addData, buildSGElement_of_valid (Nat.succ_ne_zero _) hfirst]
        exact if_neg hmore
      have hrest : ∀ a ∈ List.range' (dataBuf + pageSize)
          (dataSize + 1 - min (dataSize + 1) pageSize), space.valid a = true := by
        intro a ha
        rw [List.mem_range'_1] at ha
        exact hvalid a (List.mem_range'_1.mpr (by omega))
      have hcount : Pages.count pageSize (dataSize + 1) =
          Pages.count pageSize (dataSize + 1 - min (dataSize + 1) pageSize) + 1 :=
        Pages.count_sub_page hpage (Nat.succ_pos _)
      rw [hturn, ih hrest, hcount, Stretch.cut_of_pos hpage (Nat.succ_pos dataSize),
        List.map_cons, List.append_assoc, Nat.succ_sub_succ]
      congr 1
      -- without a rest there is a slot left, with or without the first alternative
      have hzero : dataSize + 1 - min (dataSize + 1) pageSize = 0 →
          Pages.count pageSize (dataSize + 1 - min (dataSize + 1) pageSize) = 0 := by
        intro hnone
        rw [hnone, Pages.count_zero]
      simp only [eq_iff_iff]
      omega

/-- A descriptor of a stretch within a page names its physical bytes. -/
theorem bytes_describe {s : Stretch} (hlinear : Stretch.PageLinear pageSize space.phys)
    (hwithin : s.Within pageSize) : (space.describe s).bytes = s.addresses.map space.phys :=
  (hwithin.map_addresses hlinear).symm

theorem flatMap_bytes_describe {pieces : List Stretch}
    (hlinear : Stretch.PageLinear pageSize space.phys)
    (hwithin : ∀ s ∈ pieces, s.Within pageSize) :
    (pieces.map space.describe).flatMap SgElement.bytes =
      (pieces.flatMap Stretch.addresses).map space.phys := by
  rw [List.flatMap_map, List.map_flatMap]
  exact List.flatMap_congr fun s hs => bytes_describe hlinear (hwithin s hs)

/-- The pieces of data that starts a page, or stays within one, stay within theirs. -/
theorem within_of_mem_cut_data (hdata : v.dataBuf % pageSize = 0 ∨ v.data.Within pageSize)
    {s : Stretch} (hmem : s ∈ Stretch.cut pageSize v.dataBuf v.dataSize) : s.Within pageSize := by
  rcases hdata with haligned | hwithin
  · exact Stretch.within_of_mem_cut haligned hmem
  · have hle : v.dataSize ≤ pageSize := by
      unfold Stretch.Within CommandMemory.data at hwithin
      dsimp only at hwithin
      omega
    rcases Nat.eq_zero_or_pos v.dataSize with hzero | hpos
    · rw [hzero, Stretch.cut_zero] at hmem
      cases hmem
    · rw [Stretch.cut_of_le hpos hle, List.mem_singleton] at hmem
      exact hmem ▸ hwithin

/-- What the list function hands over, where the addresses are valid. -/
theorem handOver_of_valid (hvalid : v.Valid space) (hsize : v.size ≠ 0) :
    (v.TooLarge ∧ handOver space v = some none) ∨
      ¬ v.TooLarge ∧ handOver space v = some (some
        ⟨(v.command :: Stretch.cut pageSize v.dataBuf v.dataSize).map space.describe,
          if v.respSize = 0 then [] else [space.describe v.response]⟩) := by
  have hbuf := hvalid.command v.buf (List.mem_range'_1.mpr ⟨Nat.le_refl _,
    Nat.lt_add_of_pos_right (Nat.pos_of_ne_zero hsize)⟩)
  have hslots : sgListSize = 64 := rfl
  unfold handOver CommandMemory.TooLarge
  split
  next hlong => exact .inl ⟨.inl hlong, rfl⟩
  next hlong =>
    have hcommand : buildSGElement space v.buf v.size = some (space.describe v.command) := by
      rw [buildSGElement_of_valid hsize hbuf, Nat.min_eq_left (Nat.not_lt.mp hlong)]
      rfl
    rw [hcommand]
    dsimp only [Option.toList_some, List.length_singleton]
    rw [addData_of_valid (sgListSize - 1) v.dataBuf v.dataSize [space.describe v.command]
      hvalid.data]
    split
    next hbuilt => split at hbuilt <;> cases hbuilt
    next hfull =>
      split at hfull
      next => cases hfull
      next hcount =>
        refine .inl ⟨.inr (.inr ?_), rfl⟩
        omega
    next out sgleft hbuilt =>
      split at hbuilt
      next hcount =>
        obtain ⟨rfl, rfl⟩ := DataLoop.built.inj hbuilt
        have hfits : Pages.count pageSize v.dataSize < sgListSize - 1 := by
          rcases hcount with hzero | hlt
          · rw [hzero, Pages.count_zero]
            decide
          · exact hlt
        split
        next hresp => exact .inl ⟨.inr (.inl hresp), rfl⟩
        next hresp =>
          refine .inr ⟨by omega, ?_⟩
          rw [if_pos (by omega)]
          congr 2
          unfold buildSGElement
          by_cases hnone : v.respSize = 0
          · rw [if_neg fun h => h.1 hnone, if_pos hnone]
            rfl
          · have hanswer := hvalid.response v.respBuf (List.mem_range'_1.mpr ⟨Nat.le_refl _,
              Nat.lt_add_of_pos_right (Nat.pos_of_ne_zero hnone)⟩)
            rw [if_pos ⟨hnone, hanswer⟩, if_neg hnone, Nat.min_eq_left (Nat.not_lt.mp hresp)]
            rfl
      next => cases hbuilt

/-- A command that fits the slots is never refused, whatever the addresses are. -/
theorem length_handOver {handed : Option Handed} (hsize : v.size ≤ pageSize)
    (hresp : v.respSize ≤ pageSize)
    (hcount : Pages.count pageSize v.dataSize + 2 ≤ sgListSize)
    (hhanded : handOver space v = some handed) :
    ∃ h, handed = some h ∧
      h.out.length + h.inn.length ≤ Pages.count pageSize v.dataSize + 2 := by
  have hone := @pieces_le_one space v.buf v.size
  have hspec := @addData_spec space (sgListSize - pieces space v.buf v.size) v.dataBuf v.dataSize
    (buildSGElement space v.buf v.size).toList
  have hslots : sgListSize = 64 := rfl
  unfold handOver at hhanded
  rw [if_neg (Nat.not_lt.mpr hsize)] at hhanded
  dsimp only at hhanded
  rw [length_buildSGElement] at hhanded
  split at hhanded
  next => cases hhanded
  next hfull =>
    rw [hfull] at hspec
    rcases hspec nofun with ⟨-, hnone, -⟩ | ⟨-, _, heq, -⟩
    · omega
    · cases heq
  next out sgleft hbuilt =>
    rw [hbuilt] at hspec
    rcases hspec nofun with ⟨-, -, heq⟩ | ⟨-, out', heq, hlength⟩
    · cases heq
    · obtain ⟨rfl, -⟩ := DataLoop.built.inj heq
      rw [if_neg (Nat.not_lt.mpr hresp)] at hhanded
      refine ⟨_, (Option.some.inj hhanded).symm, ?_⟩
      have hanswer := @pieces_le_one space v.respBuf v.respSize
      rw [length_buildSGElement] at hlength
      dsimp only
      split
      next =>
        rw [length_buildSGElement]
        omega
      next =>
        rw [List.length_nil]
        omega

/-- The command, the pieces of the data and the response are described by their bytes. -/
theorem described_of_fits (hlinear : Stretch.PageLinear pageSize space.phys) (hsize : v.size ≠ 0)
    (hdata : v.dataBuf % pageSize = 0 ∨ v.data.Within pageSize) (hfits : ¬ v.TooLarge) :
    v.Described space ((v.command :: Stretch.cut pageSize v.dataBuf v.dataSize).map space.describe)
      (if v.respSize = 0 then [] else [space.describe v.response]) where
  readable := ⟨_, rfl, Stretch.flatMap_addresses_cut (by decide)⟩
  writable := rfl
  lengths := by
    unfold CommandMemory.TooLarge at hfits
    intro element hmem
    rw [List.map_cons, List.mem_append, List.mem_cons] at hmem
    rcases hmem with (rfl | hpiece) | hresponse
    · exact ⟨Nat.pos_of_ne_zero hsize, Nat.not_lt.mp fun h => hfits (.inl h)⟩
    · obtain ⟨s, hs, rfl⟩ := List.mem_map.mp hpiece
      exact ⟨Stretch.length_pos_of_mem_cut (by decide) hs, Stretch.length_le_of_mem_cut hs⟩
    · split at hresponse
      next => cases hresponse
      next hnone =>
        rw [List.mem_singleton.mp hresponse]
        exact ⟨Nat.pos_of_ne_zero hnone, Nat.not_lt.mp fun h => hfits (.inr (.inl h))⟩
  commandBytes hwithin := by
    rw [List.map_cons, List.take_succ_cons, List.take_zero, List.flatMap_singleton]
    exact bytes_describe hlinear hwithin
  dataBytes := by
    rw [List.map_cons, List.drop_succ_cons, List.drop_zero,
      flatMap_bytes_describe hlinear fun s hs => within_of_mem_cut_data hdata hs,
      Stretch.flatMap_addresses_cut (by decide)]
    rfl
  responseBytes hwithin := by
    split
    next hnone => rw [Stretch.addresses, CommandMemory.response, hnone]; rfl
    next => rw [List.flatMap_singleton, bytes_describe hlinear hwithin]

end

/-- Over valid addresses `QueueBuffer` runs without a fault, and so without an index outside
its array. It hands over a description of the command, the data and the response, or nothing
because they are too large. -/
theorem queueBuffer_describes {space : AddressSpace} {v : CommandMemory} {fuel : Nat}
    (sg : Vector SgElement sgListSize) (hlinear : Stretch.PageLinear pageSize space.phys)
    (hvalid : v.Valid space) (hsize : v.size ≠ 0)
    (hdata : v.dataBuf % pageSize = 0 ∨ v.data.Within pageSize) (hfuel : v.dataSize < fuel) :
    (∃ out inn, QueueProgram.queueBuffer space sg fuel v = ⟨[⟨out, inn⟩], .ok ()⟩ ∧
        v.Described space out inn) ∨
      QueueProgram.queueBuffer space sg fuel v = pure () ∧ v.TooLarge := by
  rcases handOver_of_valid hvalid hsize with ⟨hlarge, hhanded⟩ | ⟨hfits, hhanded⟩
  · exact .inr ⟨QueueProgram.queueBuffer_eq sg hfuel hhanded, hlarge⟩
  · exact .inl ⟨_, _, QueueProgram.queueBuffer_eq sg hfuel hhanded,
      described_of_fits hlinear hsize hdata hfits⟩

/-- A command of 32 bytes with two pages of data, the second partly used. -/
theorem queueBuffer_describes_twoPages :
    let space : AddressSpace := ⟨fun _ => true, fun a => a⟩
    let v : CommandMemory := ⟨0x1000, 32, 0x4000, 5000, 0x2000, 24⟩
    let sg := Vector.replicate sgListSize ⟨0, 0⟩
    ∃ out inn, QueueProgram.queueBuffer space sg 5001 v = ⟨[⟨out, inn⟩], .ok ()⟩ ∧
      v.Described space out inn := by
  intro space v sg
  have hvalid : v.Valid space := ⟨fun _ _ => rfl, fun _ _ => rfl, fun _ _ => rfl⟩
  have hfits : ¬ v.TooLarge := by
    unfold CommandMemory.TooLarge
    decide
  rcases queueBuffer_describes sg (fun _ _ _ => rfl) hvalid (by decide) (.inl (by decide))
    (Nat.lt_succ_self _) with hdescribed | ⟨-, hlarge⟩
  · exact hdescribed
  · exact absurd hlarge hfits

end VirtDisplay
