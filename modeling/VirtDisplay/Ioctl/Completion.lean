/-
# Every request is completed once

The convention between the three layers, that a status other than `STATUS_SUCCESS` means
completed, is what `Settles` says of a computation. Each of the small checks keeps it, and
it composes, so every handler keeps it however its checks are strung together. The
dispatcher adds the one completion that is left when nothing stopped.
-/

import VirtDisplay.Ioctl.Handlers

namespace VirtDisplay.Ioctl

open Logged

/-- A completion. -/
def IoEvent.isCompletion : IoEvent → Bool
  | .complete _ _ => true
  | .adapter _ | .write _ | .information _ => false

/-- The convention: whoever stops has completed the request, once, and returns a status
other than `STATUS_SUCCESS`; whoever goes on has not. -/
abbrev Convention {α : Type} (handler : Handler α) : Prop :=
  handler.Settles IoEvent.isCompletion (· ≠ .success)

variable {α : Type} {status : NtCode} {cause : Cause}

theorem convention_fail (hstatus : status ≠ .success) :
    Convention (fail status cause : Handler α) := Settles.stop rfl hstatus

theorem convention_demand {condition : Prop} [Decidable condition] (hstatus : status ≠ .success) :
    Convention (demand condition status cause) :=
  Settles.ite (fun _ => Settles.pure ()) fun _ => convention_fail hstatus

/-- A failure status is not `STATUS_SUCCESS`. -/
theorem ne_success_of_failure {code : NtCode} (hfailure : code.ntSuccess = false) :
    code ≠ .success := by
  rintro rfl
  exact absurd hfailure (by decide)

theorem convention_guarded (fault : Option Fault) : Convention (guarded fault) := by
  cases fault with
  | none => exact Settles.pure ()
  | some fault => exact convention_fail (ne_success_of_failure fault.failure)

theorem convention_emit {event : IoEvent} (hevent : event.isCompletion = false) :
    Convention (emit event) := Settles.emit hevent

theorem convention_call (returns : Returns) (adapterCall : AdapterCall) :
    Convention (call returns adapterCall) :=
  (convention_emit rfl).bind fun _ => Settles.pure _

/-- The statuses of failed checks. -/
theorem statusCode_eq_success_iff {status : NtStatus} :
    statusCode status = .success ↔ status = .success := by
  cases status <;> decide

/-- `ValidateIoctl` completes what it refuses, with whatever checks it is used. -/
theorem convention_validateIoctl {δ : Type} {checks : δ → Except NtStatus α} {mapped : Bool}
    {data : δ}
    (hrefuses : ∀ status, checks data = .error status → status ≠ .success) :
    Convention (validateIoctl checks mapped data) := by
  apply Settles.ite (fun _ => Settles.stop rfl (by decide))
  intro _
  split
  next status hrefused =>
    exact convention_fail fun heq => hrefuses status hrefused (statusCode_eq_success_iff.mp heq)
  next => exact Settles.pure _

theorem admitFrame_refuses {frame : FrameMetaData} {status : NtStatus}
    (hrefused : admitFrame frame = .error status) : status ≠ .success := by
  unfold admitFrame at hrefused
  split at hrefused
  next => cases hrefused
  next hne =>
    obtain rfl := Except.error.inj hrefused
    exact hne

theorem admitScreen_refuses {screenNum : Nat} {status : NtStatus}
    (hrefused : admitScreen screenNum = .error status) : status ≠ .success := by
  unfold admitScreen at hrefused
  split at hrefused
  next => cases hrefused
  next =>
    obtain rfl := Except.error.inj hrefused
    decide

theorem admitCursor_refuses {cursor : CursorData} {status : NtStatus}
    (hrefused : admitCursor cursor = .error status) : status ≠ .success := by
  unfold admitCursor at hrefused
  split at hrefused
  next status' hscreen =>
    obtain rfl := Except.error.inj hrefused
    exact admitScreen_refuses hscreen
  next =>
    split at hrefused
    next =>
      obtain rfl := Except.error.inj hrefused
      decide
    next => cases hrefused

theorem admitTotalScreens_refuses {totalScreens : Nat} {status : NtStatus}
    (hrefused : admitTotalScreens totalScreens = .error status) : status ≠ .success := by
  unfold admitTotalScreens at hrefused
  split at hrefused
  next =>
    obtain rfl := Except.error.inj hrefused
    decide
  next => cases hrefused

theorem admitHpEvent_refuses {event : Nat} {status : NtStatus}
    (hrefused : admitHpEvent event = .error status) : status ≠ .success := by
  unfold admitHpEvent at hrefused
  split at hrefused
  next =>
    obtain rfl := Except.error.inj hrefused
    decide
  next => cases hrefused

section

variable (env : Env) (returns : Returns) (req : IoRequest)

theorem convention_captureInput (size : Nat) {nullStatus : NtCode} (hnull : nullStatus ≠ .success) :
    Convention (captureInput env req size nullStatus) := by
  apply (convention_demand (by decide)).bind
  intro _
  apply (convention_demand (by decide)).bind
  intro _
  apply (convention_demand (by decide)).bind
  intro _
  apply (convention_demand (by decide)).bind
  intro _
  apply (convention_demand hnull).bind
  intro _
  apply (convention_demand (by decide)).bind
  intro _
  exact convention_guarded _

theorem convention_respondToUser : Convention (respondToUser env req) := by
  apply (convention_demand (by decide)).bind
  intro _
  apply (convention_demand (by decide)).bind
  intro _
  apply (convention_guarded _).bind
  intro _
  apply (convention_emit rfl).bind
  intro _
  apply (convention_demand (by decide)).bind
  intro _
  exact convention_emit rfl

theorem convention_retrieveInput (size : Nat) : Convention (retrieveInput env req size) :=
  (convention_demand (by decide)).bind fun _ => convention_demand (by decide)

theorem convention_retrieveOutput (size : Nat) : Convention (retrieveOutput env req size) :=
  (convention_demand (by decide)).bind fun _ => convention_demand (by decide)

theorem convention_respond : Convention (respond env req) := by
  apply (convention_retrieveOutput env req _).bind
  intro _
  exact (convention_emit rfl).bind fun _ => convention_emit rfl

theorem convention_demandFrameSize (frame : FrameMetaData) : Convention (demandFrameSize frame) :=
  convention_demand (by decide)

theorem convention_receiveMode (frame : FrameMetaData) :
    Convention (receiveMode env req frame) := by
  apply (convention_demand (by decide)).bind
  intro _
  apply (convention_retrieveInput env req _).bind
  intro _
  apply (convention_validateIoctl fun _ => admitFrame_refuses).bind
  intro f
  refine Settles.ite (fun _ => ?_) fun _ => Settles.pure f
  apply (convention_demandFrameSize frame).bind
  intro _
  exact (convention_guarded _).bind fun _ => Settles.pure f

theorem convention_requestSetMode (frame : FrameMetaData) :
    Convention (requestSetMode env returns req frame) := by
  apply (convention_receiveMode env req frame).bind
  intro f
  apply (convention_call returns _).bind
  intro status
  exact (convention_demand (by decide)).bind fun _ => convention_emit rfl

theorem convention_receiveFrame (frame : FrameMetaData) :
    Convention (receiveFrame env req frame) := by
  apply (convention_captureInput env req _ (by decide)).bind
  intro _
  apply (convention_validateIoctl fun _ => admitFrame_refuses).bind
  intro f
  apply (convention_demandFrameSize frame).bind
  intro _
  apply (convention_demand (by decide)).bind
  intro _
  exact (convention_guarded _).bind fun _ => Settles.pure f

theorem convention_requestPresentFb (frame : FrameMetaData) :
    Convention (requestPresentFb env returns req frame) := by
  apply (convention_receiveFrame env req frame).bind
  intro f
  apply (convention_call returns _).bind
  intro status
  exact (convention_demand (by decide)).bind fun _ => convention_respondToUser env req

theorem convention_requestEdid (screenNum : Nat) : Convention (requestEdid env req screenNum) := by
  apply (convention_demand (by decide)).bind
  intro _
  apply (convention_retrieveInput env req _).bind
  intro _
  apply (convention_validateIoctl fun _ => admitScreen_refuses).bind
  intro i
  apply (convention_retrieveOutput env req _).bind
  intro _
  exact (convention_emit rfl).bind fun _ => convention_emit rfl

theorem convention_requestTotalScreens (totalScreens : Nat) :
    Convention (requestTotalScreens env req totalScreens) := by
  apply (convention_demand (by decide)).bind
  intro _
  apply (convention_retrieveOutput env req _).bind
  intro _
  apply (convention_validateIoctl fun _ => admitTotalScreens_refuses).bind
  intro _
  exact (convention_emit rfl).bind fun _ => convention_emit rfl

theorem convention_requestHPEventInfo (event : Nat) :
    Convention (requestHPEventInfo env req event) := by
  apply (convention_retrieveInput env req _).bind
  intro _
  apply (convention_demand (by decide)).bind
  intro _
  apply (convention_retrieveOutput env req _).bind
  intro _
  apply (convention_validateIoctl fun _ => admitHpEvent_refuses).bind
  intro _
  apply (convention_emit rfl).bind
  intro _
  exact (convention_emit rfl).bind fun _ => convention_emit rfl

theorem convention_receiveShape (cursor : CursorData) :
    Convention (receiveShape env req cursor) := by
  apply (convention_captureInput env req _ (by decide)).bind
  intro _
  apply (convention_validateIoctl fun _ => admitCursor_refuses).bind
  intro i
  apply (convention_demand (by decide)).bind
  intro _
  apply (convention_demand (by decide)).bind
  intro _
  exact (convention_guarded _).bind fun _ => Settles.pure i

theorem convention_setPointerShape (cursor : CursorData) :
    Convention (setPointerShape env returns req cursor) := by
  apply (convention_receiveShape env req cursor).bind
  intro i
  apply (convention_call returns _).bind
  intro status
  exact (convention_demand (by decide)).bind fun _ => convention_respondToUser env req

theorem convention_receivePosition (cursor : CursorData) :
    Convention (receivePosition env req cursor) := by
  apply (convention_demand (by decide)).bind
  intro _
  apply (convention_retrieveInput env req _).bind
  intro _
  exact convention_validateIoctl fun _ => admitScreen_refuses

theorem convention_setPointerPosition (cursor : CursorData) :
    Convention (setPointerPosition env returns req cursor) := by
  apply (convention_receivePosition env req cursor).bind
  intro i
  exact (convention_call returns _).bind fun status => convention_demand (by decide)

/-- A handler that keeps the convention keeps it inside the dispatcher: its status tells
whether it stopped. -/
theorem handled_eq {handler : Handler Unit} (hconvention : Convention handler) :
    handled handler = handler := by
  unfold handled
  split
  next => rfl
  next status hstopped => rw [if_neg (hconvention.stopped status hstopped).2]

theorem convention_releaseFb (screenNum : Nat) :
    Convention (releaseFb env returns req screenNum) := by
  apply (convention_retrieveInput env req _).bind
  intro _
  apply (convention_demand (by decide)).bind
  intro _
  apply (convention_call returns _).bind
  intro status
  refine Settles.ite (fun _ => Settles.pure ()) fun hfailure => convention_fail ?_
  exact ne_success_of_failure (Bool.eq_false_iff.mpr hfailure)

theorem convention_handled {handler : Handler Unit} (hconvention : Convention handler) :
    Convention (handled handler) := by
  rwa [handled_eq hconvention]

theorem convention_dispatch : Convention (dispatch env returns req) := by
  unfold dispatch
  cases req.code with
  | frameData frame => exact convention_handled (convention_requestPresentFb env returns req frame)
  | testImage frame => exact convention_handled (convention_requestPresentFb env returns req frame)
  | cursorData cursor =>
      exact convention_handled (convention_setPointerShape env returns req cursor)
  | cursorPos cursor =>
      exact (convention_handled (convention_setPointerPosition env returns req cursor)).bind
        fun _ => convention_respond env req
  | getEdidData screenNum => exact convention_handled (convention_requestEdid env req screenNum)
  | setMode frame =>
      exact (convention_handled (convention_requestSetMode env returns req frame)).bind
        fun _ => convention_respond env req
  | getTotalScreens totalScreens =>
      exact convention_handled (convention_requestTotalScreens env req totalScreens)
  | hpEvent event => exact convention_handled (convention_requestHPEventInfo env req event)
  | releaseFb screenNum => exact convention_releaseFb env returns req screenNum
  | other => exact Settles.pure ()

/-- Whatever the request and whatever the framework and the adapter answer, the request is
completed exactly once. -/
theorem completed_once : (evtIoDeviceControl env returns req).countP IoEvent.isCompletion = 1 := by
  unfold evtIoDeviceControl
  have hlengths : Convention (demand (req.outputBufferLength ≠ 0 ∧ req.inputBufferLength ≠ 0)
      .invalidParameter .buffers) := convention_demand (by decide)
  have hserved := hlengths.bind fun _ => convention_dispatch env returns req
  dsimp only
  split
  next hok =>
    rw [List.countP_append, hserved.ok () hok]
    rfl
  next status hstopped => exact (hserved.stopped status hstopped).1

end

end VirtDisplay.Ioctl
