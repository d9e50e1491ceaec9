/-
# What an EDID query leaves

`GetEdids` asks the host for the EDID of a screen, waits a second for the answer, and
copies what is then in the response memory to `m_EDIDs`. Two things should keep it from
taking over what is not an EDID: the wait, which can time out, and the type of the
response. The time-out is only reported, and the type is only looked at for screens
that do not exist.

A rebuild of the mode list queries one screen after the other. The answers of the host
are recorded beside the state, to say where the bytes of an `m_EDIDs` came from.
-/

import VirtDisplay.Foundation.Transition
import VirtDisplay.Modes.ModeTable

namespace VirtDisplay

open Transition

/-- `VIRTIO_GPU_RESP_OK_EDID` -/
def virtioGpuRespOkEdid : Nat := 0x1104

/-- What `GetEdidInfo` reads of a response: its type, and the first block of the EDID. -/
structure EdidResponse where
  type : Nat
  edid : Edid

/-- What the environment answers to one query. -/
structure EdidQuery where
  /-- The response memory could be allocated. -/
  respAllocated : Bool
  /-- The pool had a buffer. -/
  bufAvailable : Bool
  /-- The host's answer, if there was one before the time-out. -/
  answer : Option EdidResponse
  /-- What is in the response memory if there was none. -/
  memory : EdidResponse

/-- A command whose wait is over: the scanout it names, and its response memory. -/
structure EdidCommand where
  scanout : Nat
  resp : EdidResponse

namespace EdidQuery

/-- The query finds memory for its response and a buffer for its command. -/
def Allocates (q : EdidQuery) : Prop := q.respAllocated = true ∧ q.bufAvailable = true

instance (q : EdidQuery) : Decidable q.Allocates := inferInstanceAs (Decidable (_ ∧ _))

/-- What is in the response memory when it is read. -/
def read (q : EdidQuery) : EdidResponse := q.answer.getD q.memory

/-- The EDIDs that the host sent with an OK response before the time-out. -/
def received (q : EdidQuery) : List Edid :=
  ((q.answer.filter fun resp => resp.type = virtioGpuRespOkEdid).map EdidResponse.edid).toList

end EdidQuery

/-- `AskEdidInfo`, whose result is the command unless an allocation failed. -/
def askEdidInfo (q : EdidQuery) (id : Nat) : Option EdidCommand :=
  if ¬ q.respAllocated then none
  else if ¬ q.bufAvailable then none
  else some ⟨id, q.read⟩

/-- `CtrlQueue::GetEdidInfo`. -/
def getEdidInfo (buf : EdidCommand) (id : Nat) : Option Edid :=
  if buf.resp.type ≠ virtioGpuRespOkEdid ∧ id ≥ maxScanOut then none
  else if buf.scanout ≠ id then none
  else some buf.resp.edid

/-- A screen's `m_EDIDs` written, and `m_bEDID` set. -/
def storeEdid (i : ScreenId) (edid : Edid) (st : ModeState) : ModeState :=
  { st with
    tables := Function.update st.tables i { st.tables i with edids := edid }
    bEdid := true }

/-- `GetEdids`, which does not come back from releasing a null buffer. -/
def getEdids (q : EdidQuery) (i : ScreenId) (st : ModeState) : Option ModeState :=
  match askEdidInfo q i with
  | none => none
  | some buf =>
      match getEdidInfo buf i with
      | none => some st
      | some edid => some (storeEdid i edid st)

variable {q : EdidQuery} {i j : ScreenId} {st st' : ModeState}

/-- Every query that finds its memory ends with the bytes of the response memory in
`m_EDIDs`. -/
theorem getEdids_eq (q : EdidQuery) (i : ScreenId) (st : ModeState) :
    getEdids q i st = if q.Allocates then some (storeEdid i q.read.edid st) else none := by
  have hscreen : ¬ (q.read.type ≠ virtioGpuRespOkEdid ∧ i.val ≥ maxScanOut) :=
    fun h => absurd i.isLt (Nat.not_lt.mpr h.2)
  unfold getEdids askEdidInfo EdidQuery.Allocates
  by_cases hresp : q.respAllocated = true
  · by_cases hbuf : q.bufAvailable = true
    · simp [hresp, hbuf, getEdidInfo, hscreen]
    · simp [hbuf]
  · simp [hresp]

/-- What the environment answers in the round of a rebuild for one screen. -/
structure RoundAnswers where
  query : EdidQuery
  display : DisplayReply
  modeInfoAllocated : Bool
  modeNumbersAllocated : Bool

/-- The round's answers as the rebuild reads them. -/
def RoundAnswers.reply (a : RoundAnswers) : ScreenReply where
  edidAllocated := decide a.query.Allocates
  edid := a.query.read.edid
  display := a.display
  modeInfoAllocated := a.modeInfoAllocated
  modeNumbersAllocated := a.modeNumbersAllocated

/-- `ProcessEdid` is `GetEdids` and then `AddEdidModes`. -/
theorem processEdid_eq (a : RoundAnswers) (st : ModeState) (i : ScreenId) :
    processEdid true a.reply st i = (getEdids a.query i st).map fun st =>
      { st with
        tables := Function.update st.tables i
          (addEdidModes st.bEdid st.behindGpuEdid (st.tables i)) } := by
  rw [getEdids_eq, processEdid, if_pos rfl, RoundAnswers.reply]
  by_cases hallocates : a.query.Allocates
  · simp [hallocates, storeEdid]
  · simp [hallocates]

/-- Behind its EDID query a round leaves the EDIDs alone. -/
theorem finishScreen_edids (reply : ScreenReply) (st : ModeState) (i : ScreenId) :
    (finishScreen reply st i).1.bEdid = st.bEdid ∧
      ∀ j, ((finishScreen reply st i).1.tables j).edids = (st.tables j).edids := by
  have hupdate : ∀ {table : ModeTable}, table.edids = (st.tables i).edids →
      ∀ j, (Function.update st.tables i table j).edids = (st.tables j).edids := by
    intro table hsame j
    by_cases heq : j = i
    · subst heq
      rw [Function.update_self]
      exact hsame
    · rw [Function.update_of_ne heq]
  have hdisplay : ∀ (display : DisplayReply) (table : ModeTable),
      (getDisplayInfo display table).edids = table.edids := by
    intro display table
    cases display with
    | noMemory => rfl
    | disabled => rfl
    | enabled xres yres =>
        unfold getDisplayInfo
        dsimp only
        split <;> rfl
  unfold finishScreen
  dsimp only
  split
  next => exact ⟨rfl, fun _ => rfl⟩
  next =>
    split
    next => exact ⟨rfl, hupdate rfl⟩
    next => exact ⟨rfl, hupdate (hdisplay _ _)⟩

/-- With the EDID feature, a round does to the EDIDs what its query does. -/
theorem rebuildScreen_edids {a : RoundAnswers} {result : ModeState × NtStatus}
    (hround : rebuildScreen true a.reply st i = some result) :
    ∃ after, getEdids a.query i st = some after ∧ result.1.bEdid = after.bEdid ∧
      ∀ j, (result.1.tables j).edids = (after.tables j).edids := by
  obtain ⟨mid, hprocess, rfl⟩ := Option.map_eq_some_iff.mp hround
  obtain ⟨hbEdid, hedids⟩ := finishScreen_edids a.reply mid i
  rw [processEdid_eq, getEdids_eq] at hprocess
  rw [getEdids_eq]
  by_cases hallocates : a.query.Allocates
  · rw [if_pos hallocates, Option.map_some, Option.some.injEq] at hprocess
    subst hprocess
    refine ⟨_, if_pos hallocates, hbEdid, fun j => (hedids j).trans ?_⟩
    by_cases heq : j = i
    · subst heq
      simp [storeEdid, addEdidModes]
    · simp [storeEdid, Function.update_of_ne heq]
  · rw [if_neg hallocates] at hprocess
    cases hprocess

/-- A round without the EDID feature leaves the EDIDs alone. -/
theorem rebuildScreen_edids_of_not {reply : ScreenReply} {result : ModeState × NtStatus}
    (hround : rebuildScreen false reply st i = some result) :
    result.1.bEdid = st.bEdid ∧ ∀ j, (result.1.tables j).edids = (st.tables j).edids := by
  rw [rebuildScreen] at hround
  obtain ⟨mid, hprocess, rfl⟩ := Option.map_eq_some_iff.mp hround
  obtain ⟨hbEdid, hedids⟩ := finishScreen_edids reply mid i
  rw [processEdid, if_neg Bool.false_ne_true, Option.some.injEq] at hprocess
  subst hprocess
  refine ⟨hbEdid, fun j => (hedids j).trans ?_⟩
  by_cases heq : j = i
  · subst heq
    simp [ModeTable.reset]
  · simp [Function.update_of_ne heq]

/-- The query takes over an EDID only from an OK response to it, and only with one does it
say that there is an EDID. -/
def TakesOver (q : EdidQuery) (i : ScreenId) (st : ModeState) : Prop :=
  ∀ after, getEdids q i st = some after →
    ((after.tables i).edids = (st.tables i).edids ∨ (after.tables i).edids ∈ q.received) ∧
      (after.bEdid = true → st.bEdid = true ∨ q.received ≠ [])

/-- The query finds no memory, or the host answers it with an OK response before the
time-out, or there is an EDID already and the response memory happens to have the same. -/
def Answered (q : EdidQuery) (i : ScreenId) (st : ModeState) : Prop :=
  q.Allocates → q.received ≠ [] ∨ (st.bEdid = true ∧ q.read.edid = (st.tables i).edids)

/-- What is received is what is read. -/
theorem EdidQuery.read_mem_received (hreceived : q.received ≠ []) : q.read.edid ∈ q.received := by
  unfold received at hreceived ⊢
  unfold read
  cases hanswer : q.answer with
  | none => simp [hanswer] at hreceived
  | some resp =>
      by_cases htype : resp.type = virtioGpuRespOkEdid
      · simp [Option.filter, htype]
      · simp [hanswer, Option.filter, htype] at hreceived

theorem takesOver_iff : TakesOver q i st ↔ Answered q i st := by
  have hstored : ((storeEdid i q.read.edid st).tables i).edids = q.read.edid := by simp [storeEdid]
  unfold TakesOver Answered
  rw [getEdids_eq]
  constructor
  · intro htakes hallocates
    rw [if_pos hallocates] at htakes
    obtain ⟨hedids, hflag⟩ := htakes _ rfl
    rw [hstored] at hedids
    rcases hflag rfl with hbEdid | hreceived
    · rcases hedids with hsame | hmem
      · exact .inr ⟨hbEdid, hsame⟩
      · exact .inl (List.ne_nil_of_mem hmem)
    · exact .inl hreceived
  · intro hanswered after hafter
    split at hafter
    next hallocates =>
      obtain rfl := Option.some.inj hafter
      rw [hstored]
      rcases hanswered hallocates with hreceived | ⟨hbEdid, hsame⟩
      · exact ⟨.inr (EdidQuery.read_mem_received hreceived), fun _ => .inr hreceived⟩
      · exact ⟨.inl hsame, fun _ => .inl hbEdid⟩
    next => cases hafter

/-- The adapter's modes, and the EDIDs that were received for each screen. -/
structure EdidHistory where
  modes : ModeState
  received : List (ScreenId × Edid)

namespace EdidHistory

/-- No screen queried yet. -/
def start (behind : Edid) : EdidHistory := ⟨.initial behind, []⟩

/-- The rounds of the rebuilds, for a host with or without the EDID feature. -/
def system (edidFeature : Bool) : System EdidHistory (ScreenId × RoundAnswers) where
  step s round :=
    (rebuildScreen edidFeature round.2.reply s.modes round.1).map fun result =>
      { modes := result.1
        received :=
          (if edidFeature then round.2.query.received.map fun edid => (round.1, edid) else []) ++
            s.received }

/-- Each `m_EDIDs` is zero still, or was received for its screen, and `m_bEDID` says that
something was received. -/
structure Genuine (s : EdidHistory) : Prop where
  edids : ∀ i, (s.modes.tables i).edids = ModeTable.initial.edids ∨
    (i, (s.modes.tables i).edids) ∈ s.received
  bEdid : s.modes.bEdid = true → s.received ≠ []

variable {edidFeature : Bool}

/-- The round of a screen that can be rebuilt. -/
theorem system_step {s : EdidHistory} {a : RoundAnswers} {result : ModeState × NtStatus}
    (hround : rebuildScreen edidFeature a.reply s.modes i = some result) :
    (system edidFeature).step s (i, a) = some
      ⟨result.1, (if edidFeature then a.query.received.map fun edid => (i, edid) else []) ++
        s.received⟩ :=
  Option.map_eq_some_iff.mpr ⟨result, hround, rfl⟩

theorem genuine_start (behind : Edid) : Genuine (start behind) := ⟨fun _ => .inl rfl, nofun⟩

/-- One round, whose query is answered if there is one. -/
theorem Genuine.step {s after : EdidHistory} {round : ScreenId × RoundAnswers}
    (hgenuine : Genuine s)
    (hanswered : edidFeature = true → Answered round.2.query round.1 s.modes)
    (hstep : (system edidFeature).step s round = some after) : Genuine after := by
  obtain ⟨i, a⟩ := round
  obtain ⟨result, hround, rfl⟩ := Option.map_eq_some_iff.mp hstep
  cases edidFeature with
  | false =>
      obtain ⟨hbEdid, hedids⟩ := rebuildScreen_edids_of_not hround
      refine ⟨fun j => ?_, fun hset => ?_⟩
      · rw [hedids j]
        exact hgenuine.edids j
      · exact hgenuine.bEdid (hbEdid.symm.trans hset)
  | true =>
      obtain ⟨mid, hget, hbEdid, hedids⟩ := rebuildScreen_edids hround
      obtain ⟨hown, hflag⟩ := takesOver_iff.mpr (hanswered rfl) mid hget
      have hothers : ∀ j, j ≠ i → (mid.tables j).edids = (s.modes.tables j).edids := by
        intro j hne
        rw [getEdids_eq] at hget
        split at hget
        next =>
          obtain rfl := Option.some.inj hget
          simp [storeEdid, Function.update_of_ne hne]
        next => cases hget
      have hkept : ∀ j, (mid.tables j).edids = (s.modes.tables j).edids →
          (result.1.tables j).edids = ModeTable.initial.edids ∨
            (j, (result.1.tables j).edids) ∈
              (a.query.received.map fun edid => (i, edid)) ++ s.received := by
        intro j hsame
        rw [hedids j, hsame]
        exact (hgenuine.edids j).imp_right (List.mem_append_right _)
      refine ⟨fun j => ?_, fun hset => ?_⟩
      · by_cases heq : j = i
        · subst heq
          rcases hown with hsame | hmem
          · exact hkept j hsame
          · rw [hedids j]
            exact .inr (List.mem_append_left _ (List.mem_map_of_mem hmem))
        · exact hkept j (hothers j heq)
      · rcases hflag (hbEdid.symm.trans hset) with hbefore | hreceived
        · exact List.append_ne_nil_of_right_ne_nil _ (hgenuine.bEdid hbefore)
        · exact List.append_ne_nil_of_left_ne_nil (by simpa using hreceived) _

/-- What a rebuild does it does in rounds. -/
theorem reach_rebuildScreens {answers : ScreenId → RoundAnswers} {todo : List ScreenId}
    {status out : NtStatus} {first s : EdidHistory} {st : ModeState}
    (hreach : (system edidFeature).Reach first s)
    (hrebuild : rebuildScreens edidFeature (fun i => (answers i).reply) todo status s.modes =
      some (st, out)) :
    ∃ after, (system edidFeature).Reach first after ∧ after.modes = st := by
  induction todo generalizing s status with
  | nil =>
      obtain ⟨rfl, -⟩ := Prod.mk.inj (Option.some.inj hrebuild)
      exact ⟨s, hreach, rfl⟩
  | cons i todo ih =>
      rw [rebuildScreens] at hrebuild
      cases hround : rebuildScreen edidFeature (answers i).reply s.modes i with
      | none =>
          rw [hround] at hrebuild
          cases hrebuild
      | some result =>
          obtain ⟨mid, outcome⟩ := result
          rw [hround] at hrebuild
          have hmid := System.ReachUnder.next hreach trivial (system_step hround)
          cases outcome with
          | noMemory =>
              obtain ⟨rfl, -⟩ := Prod.mk.inj (Option.some.inj hrebuild)
              exact ⟨_, hmid, rfl⟩
          | _ => exact ih hmid hrebuild

theorem reach_getModeList {answers : ScreenId → RoundAnswers} {out : NtStatus}
    {first s : EdidHistory} {st : ModeState} (hreach : (system edidFeature).Reach first s)
    (hrebuild : getModeList edidFeature (fun i => (answers i).reply) s.modes = some (st, out)) :
    ∃ after, (system edidFeature).Reach first after ∧ after.modes = st :=
  reach_rebuildScreens hreach hrebuild

/-- Whatever the rebuilds and their answers, the EDIDs are genuine as long as each query is
answered; and a query takes over what it should exactly if it is answered. -/
theorem genuine_of_reachUnder (edidFeature : Bool) :
    (∀ behind s, (system edidFeature).ReachUnder
      (fun s round => edidFeature = true → Answered round.2.query round.1 s.modes)
        (start behind) s → Genuine s) ∧
      ∀ q i st, TakesOver q i st ↔ Answered q i st := by
  refine ⟨fun behind s hreach => ?_, fun q i st => takesOver_iff⟩
  apply hreach.invariant (genuine_start behind)
  exact fun _ _ _ hgenuine hanswered hstep => hgenuine.step hanswered hstep

/-- A round whose query is answered with this response. -/
def respondsWith (resp : EdidResponse) : RoundAnswers :=
  ⟨⟨true, true, some resp, resp⟩, .disabled, true, true⟩

theorem genuine_of_reachUnder_ok : ∃ s, Genuine s ∧ s.modes.bEdid = true := by
  let edid : Edid := gGpuEdid fun _ => 0
  let start : EdidHistory := start edid
  have hround : rebuildScreen true (respondsWith ⟨virtioGpuRespOkEdid, edid⟩).reply
      start.modes 0 = some _ := rfl
  have hanswered : Answered (respondsWith ⟨virtioGpuRespOkEdid, edid⟩).query 0 start.modes :=
    fun _ => .inl (List.cons_ne_nil _ _)
  have hreach : (system true).ReachUnder
      (fun s round => true = true → Answered round.2.query round.1 s.modes) start _ :=
    .next .refl (fun _ => hanswered) (system_step hround)
  refine ⟨_, (genuine_of_reachUnder true).1 _ _ hreach, ?_⟩
  obtain ⟨after, hget, hbEdid, -⟩ := rebuildScreen_edids hround
  rw [getEdids_eq, if_pos (by decide), Option.some.injEq] at hget
  exact hbEdid.trans (hget ▸ rfl)

/-- An error response is taken over as an EDID. -/
theorem not_takesOver : ∃ q i, ¬ TakesOver q i (start fun _ => 0).modes := by
  refine ⟨⟨true, true, some ⟨0x1200, fun _ => 0xFF⟩, ⟨0, fun _ => 0⟩⟩, 0, fun htakes => ?_⟩
  rcases (htakes _ rfl).2 rfl with hset | hreceived
  · cases hset
  · exact hreceived rfl

end EdidHistory

end VirtDisplay
