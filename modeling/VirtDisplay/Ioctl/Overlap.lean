/-
# Where a frame's response may lie

`IoctlRequestPresentFb` answers at an address the user chose, and the frame it presents lies
in user memory too. The handler looks for two overlaps of the response, with the frame before
the present and with the input at the very end.

`BuffersOverlap` is exact for ranges that end within the address space, and answers no for
the others. The length it is given for the frame is `stride * height`, while the adapter
locks `pitch * height` bytes. And the input is compared after the response was written. So
the property that a response never lands in the frame or in the input has an exact
condition: what the first test finds, or something else that stops the handler.
-/

import VirtDisplay.Foundation.ByteRange
import VirtDisplay.Ioctl.Effects

namespace VirtDisplay.Ioctl

open Logged

/-- The bytes at an address of a request. -/
def bytesAt (address length : Nat) : ByteRange := ⟨BitVec.ofNat 64 address, length⟩

theorem straight_bytesAt {address length : Nat} (hends : address + length ≤ maxSizeT) :
    (bytesAt address length).Straight := by
  have hle : (BitVec.ofNat 64 address).toNat ≤ address := Nat.mod_le _ _
  rw [maxSizeT] at hends
  simp only [ByteRange.Straight, bytesAt]
  omega

/-- `BuffersOverlap` finds the common bytes of two ranges that end within the address space,
and none if one of them does not. -/
theorem buffersOverlap_iff {a b n m : Nat} : buffersOverlap a n b m = true ↔
    a ≠ 0 ∧ b ≠ 0 ∧ a + n ≤ maxSizeT ∧ b + m ≤ maxSizeT ∧
      (bytesAt a n).Meets (bytesAt b m) := by
  have hmeets : a + n ≤ maxSizeT → b + m ≤ maxSizeT →
      ((bytesAt a n).Meets (bytesAt b m) ↔ 0 < n ∧ 0 < m ∧ a < b + m ∧ b < a + n) := by
    intro ha hb
    rw [(straight_bytesAt ha).meets_iff (straight_bytesAt hb)]
    rw [maxSizeT] at ha hb
    simp only [bytesAt, BitVec.toNat_ofNat]
    rw [Nat.mod_eq_of_lt (by omega), Nat.mod_eq_of_lt (by omega)]
  unfold buffersOverlap
  split
  next hnull =>
    refine iff_of_false nofun ?_
    rintro ⟨ha, hb, hn, hm, hcommon⟩
    obtain ⟨hnpos, hmpos, -⟩ := (hmeets hn hm).mp hcommon
    omega
  next hnull =>
    split
    next hwraps =>
      refine iff_of_false nofun ?_
      rintro ⟨ha, hb, hn, hm, -⟩
      omega
    next hwraps =>
      have hn : a + n ≤ maxSizeT := by omega
      have hm : b + m ≤ maxSizeT := by omega
      rw [hmeets hn hm]
      simp only [Bool.and_eq_true, decide_eq_true_eq]
      omega

/-- A completion that says the request was served. -/
def IoEvent.completesWell : IoEvent → Bool
  | .complete status _ => status.ntSuccess
  | .adapter _ | .write _ | .information _ => false

/-- A part of a handler that completes the request with failures only. -/
abbrev OnlyFails {α : Type} (handler : Handler α) : Prop :=
  handler.Avoids fun event => event.completesWell = true

section

variable {α : Type} {status : NtCode} {cause : Cause} {env : Env} {req : IoRequest}

theorem onlyFails_fail (hfailure : status.ntSuccess = false) :
    OnlyFails (fail status cause : Handler α) :=
  Avoids.stop (by simp [IoEvent.completesWell, hfailure])

theorem onlyFails_demand {condition : Prop} [Decidable condition]
    (hfailure : status.ntSuccess = false) : OnlyFails (demand condition status cause) :=
  Avoids.ite (Avoids.pure ()) (onlyFails_fail hfailure)

theorem onlyFails_guarded (fault : Option Fault) : OnlyFails (guarded fault) := by
  cases fault with
  | none => exact Avoids.pure ()
  | some fault => exact onlyFails_fail fault.failure

theorem onlyFails_emit {event : IoEvent} (hevent : event.completesWell = false) :
    OnlyFails (emit event) := by
  intro event' hmem
  obtain rfl := List.mem_singleton.mp hmem
  exact Bool.eq_false_iff.mp hevent

theorem onlyFails_validateFrame (frame : FrameMetaData) :
    OnlyFails (validateIoctl admitFrame true frame) := by
  apply Avoids.ite (Avoids.stop (by decide))
  split
  next refusal hrefused =>
    refine onlyFails_fail ?_
    have hfailure : refusal ≠ .success := by
      rintro rfl
      unfold admitFrame at hrefused
      split at hrefused
      next => cases hrefused
      next hnot => exact hnot (Except.error.inj hrefused)
    cases refusal with
    | success => exact absurd rfl hfailure
    | unsuccessful => rfl
    | invalidParameter => rfl
    | notSupported => rfl
    | noMemory => rfl
    | insufficientResources => rfl
  next => exact Avoids.pure _

theorem onlyFails_receiveFrame (frame : FrameMetaData) :
    OnlyFails (receiveFrame env req frame) := by
  have hcapture : OnlyFails (captureInput env req frameMetaDataSize .insufficientResources) := by
    apply (onlyFails_demand rfl).bind
    intro _
    apply (onlyFails_demand rfl).bind
    intro _
    apply (onlyFails_demand rfl).bind
    intro _
    apply (onlyFails_demand rfl).bind
    intro _
    apply (onlyFails_demand rfl).bind
    intro _
    exact (onlyFails_demand rfl).bind fun _ => onlyFails_guarded _
  apply hcapture.bind
  intro _
  apply (onlyFails_validateFrame frame).bind
  intro f
  apply (onlyFails_demand rfl).bind
  intro _
  apply (onlyFails_demand rfl).bind
  intro _
  exact (onlyFails_guarded _).bind fun _ => Avoids.pure f

theorem onlyFails_respondToUser : OnlyFails (respondToUser env req) := by
  apply (onlyFails_demand rfl).bind
  intro _
  apply (onlyFails_demand rfl).bind
  intro _
  apply (onlyFails_guarded _).bind
  intro _
  apply (onlyFails_emit rfl).bind
  intro _
  exact (onlyFails_demand rfl).bind fun _ => onlyFails_emit rfl

theorem onlyFails_requestPresentFb (returns : Returns) (frame : FrameMetaData) :
    OnlyFails (requestPresentFb env returns req frame) := by
  apply (onlyFails_receiveFrame frame).bind
  intro f
  apply ((onlyFails_emit rfl).bind fun _ => Avoids.pure _).bind
  intro status
  exact (onlyFails_demand rfl).bind fun _ => onlyFails_respondToUser

/-- A handler that stops has completed the request with a failure. -/
theorem OnlyFails.completes {handler : Handler α} {code : NtCode} (honly : OnlyFails handler)
    (hconvention : Convention handler) (hresult : handler.result = .error code) :
    ∃ status cause, .complete status cause ∈ handler.log ∧ status.ntSuccess = false := by
  have honce := (hconvention.stopped code hresult).1
  have hcompleted : 0 < handler.log.countP IoEvent.isCompletion := by omega
  obtain ⟨event, hmem, hevent⟩ := List.countP_pos_iff.mp hcompleted
  cases event with
  | complete status cause =>
      exact ⟨status, cause, hmem, Bool.eq_false_iff.mpr (honly _ hmem)⟩
  | adapter call => cases hevent
  | write reply => cases hevent
  | information bytes => cases hevent

end

/-- The frame's memory, which the adapter locks. -/
def frameBytes (frame : FrameMetaData) : ByteRange :=
  bytesAt frame.addr (frame.pitch * frame.height)

section

variable (env : Env) (returns : Returns) (req : IoRequest)

/-- The response buffer shares a byte with the frame or with the input. -/
def ResponseClashes (frame : FrameMetaData) : Prop :=
  (bytesAt req.outBuffer req.outputBufferLength).Meets (frameBytes frame) ∨
    (bytesAt req.outBuffer req.outputBufferLength).Meets
      (bytesAt req.inputBuffer req.inputBufferLength)

/-- The request is failed, and its response was not written. -/
structure FailsUnwritten (handler : Handler Unit) : Prop where
  failed : ∃ status cause, .complete status cause ∈ handler.log ∧ status.ntSuccess = false
  stopped : ∃ code, handler.result = .error code
  unwritten : ∀ reply, .write reply ∉ handler.log

/-- What keeps a response from being written, on a request whose frame is accepted: the
first test finds it to overlap `stride * height` bytes of the frame, or the input cannot be
captured, the frame cannot be probed, the adapter refuses, or there is nowhere to write. -/
def ResponseStopped (f : AcceptedFrame) : Prop :=
  buffersOverlap f.frame.addr (f.frame.height * f.frame.stride) req.outBuffer
      req.outputBufferLength = true ∨
    ¬ Captured env req frameMetaDataSize ∨ env.probeFault ≠ none ∨
    returns (.executePresentDisplayZeroCopy f) ≠ .success ∨ ¬ Writable env req

end

section

variable {env : Env} {returns : Returns} {req : IoRequest} {f : AcceptedFrame}

theorem admitFrame_accepted (f : AcceptedFrame) : admitFrame f.frame = .ok f := by
  rw [admitFrame, dif_pos f.accepted]

/-- The size by the stride never overflows, so its check always passes. -/
theorem stride_size (f : AcceptedFrame) :
    f.frame.stride ≠ 0 ∧ f.frame.height ≤ maxSizeT / f.frame.stride := by
  obtain ⟨-, -, hheight, -, hmax, hstride, hle, -⟩ :=
    (validateFrame_eq_success_iff f.frame).mp f.accepted
  refine ⟨hstride.ne', (Nat.le_div_iff_mul_le hstride).mpr ?_⟩
  calc f.frame.height * f.frame.stride ≤ f.frame.height * (maxFrameSize / f.frame.height) :=
        Nat.mul_le_mul_left _ hle
    _ ≤ maxFrameSize := Nat.mul_div_le _ _
    _ ≤ maxSizeT := by norm_num

theorem frameReceived_iff : FrameReceived env req f.frame f ↔
    Captured env req frameMetaDataSize ∧
      buffersOverlap f.frame.addr (f.frame.height * f.frame.stride) req.outBuffer
        req.outputBufferLength = false ∧ env.probeFault = none := by
  constructor
  · rintro ⟨hcaptured, -, -, hapart, hreadable⟩
    exact ⟨hcaptured, hapart, hreadable⟩
  · rintro ⟨hcaptured, hapart, hreadable⟩
    exact ⟨hcaptured, admitFrame_accepted f, stride_size f, hapart, hreadable⟩

/-- The frame that goes on to the present is the one that was accepted. -/
theorem receiveFrame_result_accepted {f' : AcceptedFrame}
    (hresult : (receiveFrame env req f.frame).result = .ok f') : f' = f := by
  have haccepted := (receiveFrame_result_eq_ok.mp hresult).accepted
  rw [admitFrame_accepted] at haccepted
  exact (Except.ok.inj haccepted).symm

theorem exists_write_respondToUser :
    (∃ reply, .write reply ∈ (respondToUser env req).log) ↔ Writable env req := by
  rw [respondToUser_log, writable_iff]
  split
  next hlength =>
    split
    next haddress =>
      split
      next fault hfault => simp [hfault]
      next hfault =>
        refine iff_of_true ⟨.response, .head _⟩ ⟨hlength, haddress, hfault⟩
    next haddress => simp [haddress]
  next hlength => simp [hlength]

/-- The response is written exactly if nothing stops it. -/
theorem exists_write_requestPresentFb :
    (∃ reply, .write reply ∈ (requestPresentFb env returns req f.frame).log) ↔
      ¬ ResponseStopped env returns req f := by
  have hchecks : OnlyChecks (receiveFrame env req f.frame) := onlyChecks_receiveFrame f.frame
  unfold requestPresentFb ResponseStopped
  simp only [not_or, not_not, ne_eq, Bool.not_eq_true]
  cases hresult : (receiveFrame env req f.frame).result with
  | error code =>
      rw [bind_of_error hresult]
      refine iff_of_false ?_ ?_
      · rintro ⟨reply, hmem⟩
        exact hchecks _ hmem rfl
      · rintro ⟨hapart, hcaptured, hreadable, -, -⟩
        have hok := receiveFrame_result_eq_ok.mpr (frameReceived_iff.mpr
          ⟨hcaptured, hapart, hreadable⟩)
        rw [hresult] at hok
        cases hok
  | ok f' =>
      obtain rfl := receiveFrame_result_accepted hresult
      obtain ⟨hcaptured, hapart, hreadable⟩ :=
        frameReceived_iff.mp (receiveFrame_result_eq_ok.mp hresult)
      rw [bind_of_ok hresult]
      simp only [log_eq_nil (convention_receiveFrame env req f'.frame) hchecks hresult,
        List.nil_append, call_bind_log, demand_bind]
      simp only [hapart, hcaptured, hreadable, true_and]
      split
      next hsuccess => simp [hsuccess, exists_write_respondToUser]
      next hrefused => simp [hrefused]

/-- A handler that goes on to the end has written the response. -/
theorem exists_write_of_result_ok
    (hresult : (requestPresentFb env returns req f.frame).result = .ok ()) :
    ∃ reply, .write reply ∈ (requestPresentFb env returns req f.frame).log := by
  rw [exists_write_requestPresentFb]
  simp only [requestPresentFb, respondToUser, call, bind_result_eq_ok, demand_result_eq_ok,
    guarded_result_eq_ok, receiveFrame_result_eq_ok, pure_result, emit_result,
    exists_const, true_and] at hresult
  obtain ⟨f', hreceived, status, hstatus, hsuccess, hlength, haddress, hwritable, -⟩ := hresult
  obtain rfl := receiveFrame_result_accepted (receiveFrame_result_eq_ok.mpr hreceived)
  obtain rfl := Except.ok.inj hstatus
  obtain ⟨hcaptured, hapart, hreadable⟩ := frameReceived_iff.mp hreceived
  simp only [ResponseStopped, hapart, hcaptured, hreadable, hsuccess, Bool.false_eq_true, ne_eq,
    not_true_eq_false, false_or, not_not]
  exact ⟨hlength, haddress, hwritable⟩

theorem failsUnwritten_requestPresentFb_iff :
    FailsUnwritten (requestPresentFb env returns req f.frame) ↔
      ResponseStopped env returns req f := by
  constructor
  · rintro ⟨-, -, hunwritten⟩
    by_contra hnot
    obtain ⟨reply, hmem⟩ := exists_write_requestPresentFb.mpr hnot
    exact hunwritten reply hmem
  · intro hstopped
    have hunwritten : ¬ ∃ reply, .write reply ∈ (requestPresentFb env returns req f.frame).log :=
      fun hwritten => exists_write_requestPresentFb.mp hwritten hstopped
    cases hresult : (requestPresentFb env returns req f.frame).result with
    | ok value => exact absurd (exists_write_of_result_ok hresult) hunwritten
    | error code =>
        exact ⟨(onlyFails_requestPresentFb returns f.frame).completes
          (convention_requestPresentFb env returns req f.frame) hresult, ⟨code, hresult⟩,
          not_exists.mp hunwritten⟩

end

/-- A response that would land in the frame or in the input is kept from it exactly if the
first test finds it, or something else stops the handler. -/
theorem clash_failsUnwritten_iff (env : Env) (returns : Returns) (req : IoRequest)
    (f : AcceptedFrame) :
    (ResponseClashes req f.frame →
        FailsUnwritten (requestPresentFb env returns req f.frame)) ↔
      ¬ ResponseClashes req f.frame ∨ ResponseStopped env returns req f := by
  rw [failsUnwritten_requestPresentFb_iff, imp_iff_not_or]

/-- A frame whose rows are longer than its stride, with the response behind the last row by
the stride: the response is written into the frame. -/
theorem clash_written : ¬ ∀ (env : Env) (returns : Returns) (req : IoRequest) (f : AcceptedFrame),
    ResponseClashes req f.frame → FailsUnwritten (requestPresentFb env returns req f.frame) := by
  let frame : FrameMetaData := .sized 640 480 2560 640 0x100000
  let f : AcceptedFrame := ⟨frame, by decide⟩
  let env : Env :=
    { irp := true, irpStack := true, adapter := true, passiveLevel := true
      input := ⟨.success, true⟩, output := ⟨.success, true⟩
      captureFault := none, probeFault := none, writeFault := none
      fbVAddr := 0, modes := .initial fun _ => 0, numScreens := maxScanOut }
  let req : IoRequest := ⟨.frameData frame, frameMetaDataSize, responseSize, 0x1000, 0x14B000⟩
  intro hclaim
  have hclashes : ResponseClashes req frame := .inl ⟨0x14B000#64, by decide, by decide⟩
  have hstopped := failsUnwritten_requestPresentFb_iff.mp
    (hclaim env (fun _ => .success) req f hclashes)
  have hcaptured : Captured env req frameMetaDataSize :=
    ⟨rfl, rfl, rfl, by decide, by decide, rfl, rfl⟩
  have hwritable : Writable env req := ⟨by decide, by decide, rfl⟩
  obtain hfound | huncaptured | hfault | hrefused | hunwritable := hstopped
  · exact absurd hfound (by decide)
  · exact huncaptured hcaptured
  · exact hfault rfl
  · exact hrefused rfl
  · exact hunwritable hwritable

end VirtDisplay.Ioctl
