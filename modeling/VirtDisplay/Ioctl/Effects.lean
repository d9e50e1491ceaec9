/-
# Requests that fail because of their buffers

A request whose buffers are no good should be completed before anything is done for it.
Five codes do not keep to that order. The two handlers that answer at a user's address
present the frame, or set the pointer, before they look at the output, and they look for
an overlap with the input after they have written it. The dispatcher looks at the output
of a pointer position or a mode set after its handler has returned.

`HarmlessWhen` is when that does no harm: the output is good, or nothing has been done
because the adapter refused or found nothing to do. The handlers of the other codes check
both buffers first.
-/

import VirtDisplay.Ioctl.AdapterCalls
import VirtDisplay.Ioctl.Completion

namespace VirtDisplay.Ioctl

open Logged

/-- What the handlers see of the adapter's calls. -/
def returned (meets : ∀ call, Meeting call) : Returns := fun call => statusCode (meets call).status

/-- The request is completed with a failure status because of its buffers. -/
def RefusedForBuffers (log : List IoEvent) : Prop :=
  ∃ status, .complete status .buffers ∈ log ∧ status.ntSuccess = false

/-- A call has changed the adapter or reached the host, or the output has been written. -/
def LeavesTrace (meets : ∀ call, Meeting call) (log : List IoEvent) : Prop :=
  (∃ call, .adapter call ∈ log ∧ ¬ (meets call).Untouched) ∨ ∃ reply, .write reply ∈ log

/-- If the request is refused because of its buffers, it has left no trace. -/
def HarmlessLog (meets : ∀ call, Meeting call) (log : List IoEvent) : Prop :=
  RefusedForBuffers log → ¬ LeavesTrace meets log

/-- A request that is refused because of its buffers has queued no command, changed no
screen and no pointer, and written no output. -/
def Harmless (env : Env) (meets : ∀ call, Meeting call) (req : IoRequest) : Prop :=
  HarmlessLog meets (evtIoDeviceControl env (returned meets) req)

section

variable (env : Env) (meets : ∀ call, Meeting call) (req : IoRequest)

/-- The input could be captured. -/
structure Captured (size : Nat) : Prop where
  irp : env.irp = true
  irpStack : env.irpStack = true
  adapter : env.adapter = true
  length : size ≤ req.inputBufferLength
  address : req.inputBuffer ≠ 0
  passive : env.passiveLevel = true
  readable : env.captureFault = none

/-- The input of a buffered request could be retrieved. -/
structure Retrieved (size : Nat) : Prop where
  adapter : env.adapter = true
  length : size ≤ req.inputBufferLength
  retrieved : env.input.status.ntSuccess = true
  mapped : env.input.mapped = true

/-- `IoctlRequestPresentFb` goes on to the present. -/
structure FrameReceived (frame : FrameMetaData) (f : AcceptedFrame) : Prop where
  captured : Captured env req frameMetaDataSize
  accepted : admitFrame frame = .ok f
  size : frame.stride ≠ 0 ∧ frame.height ≤ maxSizeT / frame.stride
  apart : buffersOverlap frame.addr (frame.height * frame.stride) req.outBuffer
    req.outputBufferLength = false
  readable : env.probeFault = none

/-- `IoctlRequestSetMode` goes on to the mode set. -/
structure ModeReceived (frame : FrameMetaData) (f : AcceptedFrame) : Prop where
  retrieved : Retrieved env req frameMetaDataSize
  accepted : admitFrame frame = .ok f
  readable : frame.addr ≠ 0 →
    (frame.stride ≠ 0 ∧ frame.height ≤ maxSizeT / frame.stride) ∧ env.probeFault = none

/-- `IoctlSetPointerShape` goes on to the pointer. -/
structure ShapeReceived (cursor : CursorData) (i : ScreenId) : Prop where
  captured : Captured env req cursorDataSize
  accepted : admitCursor cursor = .ok i
  visible : cursor.width ≠ 0 ∧ cursor.height ≠ 0
  size : cursor.height ≤ maxSizeT / (cursor.width * 4)
  readable : env.probeFault = none

/-- `IoctlSetPointerPosition` goes on to the pointer. -/
structure PositionReceived (cursor : CursorData) (i : ScreenId) : Prop where
  retrieved : Retrieved env req cursorDataSize
  accepted : admitCursorPosition cursor = .ok i

/-- The response can be written to the user's address. -/
@[mk_iff]
structure Writable : Prop where
  length : responseSize ≤ req.outputBufferLength
  address : req.outBuffer ≠ 0
  writable : env.writeFault = none

/-- The output of the request is writable, and apart from the input. -/
@[mk_iff]
structure Answerable : Prop extends Writable env req where
  apart : buffersOverlap req.inputBuffer req.inputBufferLength req.outBuffer
    req.outputBufferLength = false

/-- The output of a buffered request can be retrieved for the response. -/
@[mk_iff]
structure Retrievable : Prop where
  length : responseSize ≤ req.outputBufferLength
  retrieved : env.output.status.ntSuccess = true

/-- A frame that is presented does no harm: the response can be given, or there is no mode
to present it in, or the present leaves no trace and the output is not written. -/
def FrameHarmless (f : AcceptedFrame) : Prop :=
  let met := meets (.executePresentDisplayZeroCopy f)
  Answerable env req ∨ (met.before.screens f.screen).modes.modeCount = 0 ∨
    LeavesNoTrace met.outcomes met.before.blobSupported (met.flushCount f.screen) f.presentRequest
      (met.before.ctx f.screen) ∧ ¬ Writable env req

/-- A mode set does no harm: likewise, and the black-out behind it has nothing to show. -/
def ModeHarmless (f : AcceptedFrame) : Prop :=
  let met := meets (.setCurrentModeExt f)
  Retrievable env req ∨ (met.before.screens f.screen).modes.modeCount = 0 ∨
    LeavesNoTrace met.outcomes met.before.blobSupported (met.flushCount f.screen) f.setModeRequest
      (met.before.ctx f.screen) ∧
    ((meets (.blackOutScreen f env.fbVAddr)).before.screens f.screen).front = none

/-- A pointer does no harm: the response can be given, or there will be no pointer. -/
def ShapeHarmless (cursor : CursorData) (i : ScreenId) : Prop :=
  let met := meets (.setPointerShape i cursor.shape cursor.colorFormat)
  Answerable env req ∨
    ¬ (CursorBuildable met.outcomes (met.before.ctx i) ∧ met.outcomes.allocCursor = true)

/-- A pointer's move does no harm: the response can be given, or the host will not be told. -/
def PositionHarmless (cursor : CursorData) (i : ScreenId) : Prop :=
  let met := meets (.setPointerPosition i cursor.cursorX.toNat cursor.cursorY.toNat)
  Retrievable env req ∨ (met.before.screens i).cursorBuf = none ∨ met.outcomes.allocCursor = false ∨
    met.outcomes.addCursor = false

/-- When a request is harmless. -/
def HarmlessWhen : Prop :=
  req.outputBufferLength ≠ 0 →
    match req.code with
    | .frameData frame | .testImage frame =>
        ∀ f, FrameReceived env req frame f → FrameHarmless env meets req f
    | .setMode frame => ∀ f, ModeReceived env req frame f → ModeHarmless env meets req f
    | .cursorData cursor => ∀ i, ShapeReceived env req cursor i →
        ShapeHarmless env meets req cursor i
    | .cursorPos cursor =>
        ∀ i, PositionReceived env req cursor i → PositionHarmless env meets req cursor i
    | _ => True

end

/-- A part of a handler that leaves no mark but a completion. -/
abbrev OnlyChecks {α : Type} (handler : Handler α) : Prop :=
  handler.Avoids fun event => event.isCompletion = false

section

variable {α : Type} {status : NtCode} {cause : Cause}

theorem onlyChecks_fail : OnlyChecks (fail status cause : Handler α) := Avoids.stop nofun

theorem onlyChecks_demand {condition : Prop} [Decidable condition] :
    OnlyChecks (demand condition status cause) := Avoids.ite (Avoids.pure ()) onlyChecks_fail

theorem onlyChecks_guarded (fault : Option Fault) : OnlyChecks (guarded fault) := by
  cases fault with
  | none => exact Avoids.pure ()
  | some fault => exact onlyChecks_fail

theorem onlyChecks_validateIoctl {δ : Type} {checks : δ → Except NtStatus α} {mapped : Bool}
    {data : δ} : OnlyChecks (validateIoctl checks mapped data) := by
  apply Avoids.ite (Avoids.stop nofun)
  split
  next => exact onlyChecks_fail
  next => exact Avoids.pure _

/-- A check that goes on has left nothing. -/
theorem log_eq_nil {handler : Handler α} {value : α} (hconvention : Convention handler)
    (hchecks : OnlyChecks handler) (hresult : handler.result = .ok value) : handler.log = [] := by
  refine List.eq_nil_iff_forall_not_mem.mpr fun event hmem => hchecks event hmem ?_
  have hnone := List.countP_eq_zero.mp (hconvention.ok value hresult) event hmem
  exact Bool.eq_false_iff.mpr hnone

@[simp]
theorem fail_result : (fail status cause : Handler α).result = .error status := rfl

@[simp]
theorem demand_result_eq_ok {condition : Prop} [Decidable condition] {value : Unit} :
    (demand condition status cause).result = .ok value ↔ condition := by
  unfold demand
  split
  next h => simp [h]
  next h => simp [h]

@[simp]
theorem guarded_result_eq_ok {fault : Option Fault} {value : Unit} :
    (guarded fault).result = .ok value ↔ fault = none := by
  cases fault <;> simp [guarded]

@[simp]
theorem validateIoctl_result_eq_ok {δ : Type} {checks : δ → Except NtStatus α} {mapped : Bool}
    {data : δ} {value : α} : (validateIoctl checks mapped data).result = .ok value ↔
      mapped = true ∧ checks data = .ok value := by
  unfold validateIoctl
  cases mapped with
  | false => simp
  | true => cases checks data <;> simp

end

section

variable {env : Env} {req : IoRequest}

theorem onlyChecks_captureInput (size : Nat) (nullStatus : NtCode) :
    OnlyChecks (captureInput env req size nullStatus) := by
  apply onlyChecks_demand.bind
  intro _
  apply onlyChecks_demand.bind
  intro _
  apply onlyChecks_demand.bind
  intro _
  apply onlyChecks_demand.bind
  intro _
  apply onlyChecks_demand.bind
  intro _
  exact onlyChecks_demand.bind fun _ => onlyChecks_guarded _

theorem onlyChecks_retrieveInput (size : Nat) : OnlyChecks (retrieveInput env req size) :=
  onlyChecks_demand.bind fun _ => onlyChecks_demand

theorem onlyChecks_retrieveOutput (size : Nat) : OnlyChecks (retrieveOutput env req size) :=
  onlyChecks_demand.bind fun _ => onlyChecks_demand

theorem onlyChecks_receiveFrame (frame : FrameMetaData) :
    OnlyChecks (receiveFrame env req frame) := by
  apply (onlyChecks_captureInput _ _).bind
  intro _
  apply onlyChecks_validateIoctl.bind
  intro f
  apply onlyChecks_demand.bind
  intro _
  apply onlyChecks_demand.bind
  intro _
  exact (onlyChecks_guarded _).bind fun _ => Avoids.pure f

theorem onlyChecks_receiveMode (frame : FrameMetaData) :
    OnlyChecks (receiveMode env req frame) := by
  apply onlyChecks_demand.bind
  intro _
  apply (onlyChecks_retrieveInput _).bind
  intro _
  apply onlyChecks_validateIoctl.bind
  intro f
  refine Avoids.ite ?_ (Avoids.pure f)
  apply onlyChecks_demand.bind
  intro _
  exact (onlyChecks_guarded _).bind fun _ => Avoids.pure f

theorem onlyChecks_receiveShape (cursor : CursorData) :
    OnlyChecks (receiveShape env req cursor) := by
  apply (onlyChecks_captureInput _ _).bind
  intro _
  apply onlyChecks_validateIoctl.bind
  intro i
  apply onlyChecks_demand.bind
  intro _
  apply onlyChecks_demand.bind
  intro _
  exact (onlyChecks_guarded _).bind fun _ => Avoids.pure i

theorem onlyChecks_receivePosition (cursor : CursorData) :
    OnlyChecks (receivePosition env req cursor) := by
  apply onlyChecks_demand.bind
  intro _
  exact (onlyChecks_retrieveInput _).bind fun _ => onlyChecks_validateIoctl

theorem captureInput_result_eq_ok {size : Nat} {nullStatus : NtCode} {value : Unit} :
    (captureInput env req size nullStatus).result = .ok value ↔ Captured env req size := by
  simp only [captureInput, bind_result_eq_ok, demand_result_eq_ok, guarded_result_eq_ok,
    exists_const]
  constructor
  · rintro ⟨hirp, hstack, hadapter, hlength, haddress, hpassive, hreadable⟩
    exact ⟨hirp, hstack, hadapter, hlength, haddress, hpassive, hreadable⟩
  · rintro ⟨hirp, hstack, hadapter, hlength, haddress, hpassive, hreadable⟩
    exact ⟨hirp, hstack, hadapter, hlength, haddress, hpassive, hreadable⟩

theorem retrieveInput_result_eq_ok {size : Nat} {value : Unit} :
    (retrieveInput env req size).result = .ok value ↔
      size ≤ req.inputBufferLength ∧ env.input.status.ntSuccess = true := by
  simp only [retrieveInput, bind_result_eq_ok, demand_result_eq_ok, exists_const]

theorem receiveFrame_result_eq_ok {frame : FrameMetaData} {f : AcceptedFrame} :
    (receiveFrame env req frame).result = .ok f ↔ FrameReceived env req frame f := by
  simp only [receiveFrame, demandFrameSize, bind_result_eq_ok, demand_result_eq_ok,
    guarded_result_eq_ok, validateIoctl_result_eq_ok, captureInput_result_eq_ok, exists_const,
    pure_result, Except.ok.injEq, true_and]
  constructor
  · rintro ⟨hcaptured, f', haccepted, hsize, hapart, hreadable, rfl⟩
    exact ⟨hcaptured, haccepted, hsize, hapart, hreadable⟩
  · rintro ⟨hcaptured, haccepted, hsize, hapart, hreadable⟩
    exact ⟨hcaptured, f, haccepted, hsize, hapart, hreadable, rfl⟩

theorem receiveMode_result_eq_ok {frame : FrameMetaData} {f : AcceptedFrame} :
    (receiveMode env req frame).result = .ok f ↔ ModeReceived env req frame f := by
  have hprobed : ∀ f' : AcceptedFrame, (if frame.addr ≠ 0 then do
        demandFrameSize frame
        guarded env.probeFault
        pure f'
      else pure f' : Handler AcceptedFrame).result = .ok f ↔
        (frame.addr ≠ 0 → (frame.stride ≠ 0 ∧ frame.height ≤ maxSizeT / frame.stride) ∧
          env.probeFault = none) ∧ f' = f := by
    intro f'
    split
    next haddr =>
      simp only [demandFrameSize, bind_result_eq_ok, demand_result_eq_ok, guarded_result_eq_ok,
        exists_const, pure_result, Except.ok.injEq, haddr, true_implies, and_assoc, ne_eq,
        not_false_eq_true]
    next haddr =>
      simp only [pure_result, Except.ok.injEq, haddr, false_implies, true_and]
  simp only [receiveMode, bind_result_eq_ok, demand_result_eq_ok, validateIoctl_result_eq_ok,
    retrieveInput_result_eq_ok, exists_const, hprobed]
  constructor
  · rintro ⟨hadapter, ⟨hlength, hretrieved⟩, f', ⟨hmapped, haccepted⟩, hreadable, rfl⟩
    exact ⟨⟨hadapter, hlength, hretrieved, hmapped⟩, haccepted, hreadable⟩
  · rintro ⟨⟨hadapter, hlength, hretrieved, hmapped⟩, haccepted, hreadable⟩
    exact ⟨hadapter, ⟨hlength, hretrieved⟩, f, ⟨hmapped, haccepted⟩, hreadable, rfl⟩

theorem receiveShape_result_eq_ok {cursor : CursorData} {i : ScreenId} :
    (receiveShape env req cursor).result = .ok i ↔ ShapeReceived env req cursor i := by
  simp only [receiveShape, bind_result_eq_ok, demand_result_eq_ok, guarded_result_eq_ok,
    validateIoctl_result_eq_ok, captureInput_result_eq_ok, exists_const, pure_result,
    Except.ok.injEq, true_and]
  constructor
  · rintro ⟨hcaptured, i', haccepted, hvisible, hsize, hreadable, rfl⟩
    exact ⟨hcaptured, haccepted, hvisible, hsize, hreadable⟩
  · rintro ⟨hcaptured, haccepted, hvisible, hsize, hreadable⟩
    exact ⟨hcaptured, i, haccepted, hvisible, hsize, hreadable, rfl⟩

theorem receivePosition_result_eq_ok {cursor : CursorData} {i : ScreenId} :
    (receivePosition env req cursor).result = .ok i ↔ PositionReceived env req cursor i := by
  simp only [receivePosition, bind_result_eq_ok, demand_result_eq_ok, validateIoctl_result_eq_ok,
    retrieveInput_result_eq_ok, exists_const]
  constructor
  · rintro ⟨hadapter, ⟨hlength, hretrieved⟩, hmapped, haccepted⟩
    exact ⟨⟨hadapter, hlength, hretrieved, hmapped⟩, haccepted⟩
  · rintro ⟨⟨hadapter, hlength, hretrieved, hmapped⟩, haccepted⟩
    exact ⟨hadapter, ⟨hlength, hretrieved⟩, hmapped, haccepted⟩

end

/-! ## Logs -/

section

variable {meets : ∀ call, Meeting call} {log : List IoEvent}

/-- Completions are no trace. -/
theorem harmlessLog_of_completions (honly : ∀ event ∈ log, ¬ event.isCompletion = false) :
    HarmlessLog meets log := by
  rintro - (⟨call, hmem, -⟩ | ⟨reply, hmem⟩)
  · exact honly _ hmem rfl
  · exact honly _ hmem rfl

/-- The completion of a request that was served is no refusal. -/
theorem harmlessLog_append_served :
    HarmlessLog meets (log ++ [.complete .success .served]) ↔ HarmlessLog meets log := by
  simp [HarmlessLog, RefusedForBuffers, LeavesTrace]

theorem harmlessLog_of_not_refused (hnot : ¬ RefusedForBuffers log) : HarmlessLog meets log :=
  fun hrefused => absurd hrefused hnot

/-- Checks that come first do no harm. -/
theorem harmlessLog_bind {α : Type} {first : Handler α} {next : α → Handler Unit}
    (hconvention : Convention first) (hchecks : OnlyChecks first)
    (hnext : ∀ value, HarmlessLog meets (next value).log) :
      HarmlessLog meets (first >>= next).log := by
  cases hresult : first.result with
  | ok value =>
      rw [bind_of_ok hresult, log_eq_nil hconvention hchecks hresult]
      exact hnext value
  | error code =>
      rw [bind_of_error hresult]
      exact harmlessLog_of_completions hchecks

theorem refusedForBuffers_cons {call : AdapterCall} :
    RefusedForBuffers (.adapter call :: log) ↔ RefusedForBuffers log := by
  simp [RefusedForBuffers]

theorem leavesTrace_cons {call : AdapterCall} :
    LeavesTrace meets (.adapter call :: log) ↔
      ¬ (meets call).Untouched ∨ LeavesTrace meets log := by
  simp [LeavesTrace, or_and_right, exists_or, or_assoc]

theorem call_bind_log {α : Type} {returns : Returns} {adapterCall : AdapterCall}
    {next : NtCode → Handler α} : (call returns adapterCall >>= next).log =
      .adapter adapterCall :: (next (returns adapterCall)).log := rfl

theorem emit_bind_log {α : Type} {event : IoEvent} {next : Unit → Handler α} :
    ((emit event : Handler Unit) >>= next).log = event :: (next ()).log := rfl

theorem demand_bind {α : Type} {condition : Prop} [Decidable condition] {status : NtCode}
    {cause : Cause} {next : Unit → Handler α} : demand condition status cause >>= next =
      if condition then next () else ⟨[.complete status cause], .error status⟩ := by
  unfold demand
  split
  · rfl
  · rfl

theorem guarded_bind {α : Type} {fault : Option Fault} {next : Unit → Handler α} :
    guarded fault >>= next =
      match fault with
      | some fault => ⟨[.complete fault.code .buffers], .error fault.code⟩
      | none => next () := by
  cases fault with
  | some fault => rfl
  | none => rfl

/-- A handler that calls the adapter once it has received its input, and then goes on if
the call succeeded, is harmless if what comes after the call is. -/
theorem harmlessLog_call_iff {α : Type} {receive : Handler α} {adapterCall : α → AdapterCall}
    {tail : α → Handler Unit} (hconvention : Convention receive) (hchecks : OnlyChecks receive) :
    HarmlessLog meets (receive >>= fun value => call (returned meets) (adapterCall value) >>=
        fun status => demand (status = .success) .unsuccessful .device >>= fun _ =>
          tail value).log ↔
      ∀ value, receive.result = .ok value → (meets (adapterCall value)).status = .success →
        RefusedForBuffers (tail value).log →
        (meets (adapterCall value)).Untouched ∧ ¬ LeavesTrace meets (tail value).log := by
  cases hresult : receive.result with
  | error code =>
      rw [bind_of_error hresult]
      exact iff_of_true (harmlessLog_of_completions hchecks) nofun
  | ok value =>
      rw [bind_of_ok hresult]
      simp only [log_eq_nil hconvention hchecks hresult, List.nil_append, call_bind_log,
        demand_bind, Except.ok.injEq, forall_eq', HarmlessLog, refusedForBuffers_cons,
        leavesTrace_cons, returned, statusCode_eq_success_iff]
      by_cases hsuccess : (meets (adapterCall value)).status = .success
      · simp only [hsuccess, if_true, true_implies, not_or, not_not]
      · simp [hsuccess, RefusedForBuffers]

end

section

variable {env : Env} {req : IoRequest} {meets : ∀ call, Meeting call}

/-- The ways the response ends. -/
theorem respondToUser_log : (respondToUser env req).log =
    if responseSize ≤ req.outputBufferLength then
      if req.outBuffer ≠ 0 then
        match env.writeFault with
        | some fault => [.complete fault.code .buffers]
        | none =>
            .write .response ::
              if buffersOverlap req.inputBuffer req.inputBufferLength req.outBuffer
                req.outputBufferLength = false then [.information responseSize]
              else [.complete .invalidParameter .buffers]
      else [.complete .invalidParameter .buffers]
    else [.complete .bufferTooSmall .buffers] := by
  simp only [respondToUser, demand_bind, guarded_bind]
  split
  · split
    · cases env.writeFault with
      | some fault => rfl
      | none =>
          simp only [emit_bind_log]
          split
          · rfl
          · rfl
    · rfl
  · rfl

theorem refusedForBuffers_respondToUser :
    RefusedForBuffers (respondToUser env req).log ↔ ¬ Answerable env req := by
  rw [respondToUser_log, answerable_iff, writable_iff]
  split
  next hlength =>
    split
    next haddress =>
      split
      next fault hfault => simp [RefusedForBuffers, hfault, fault.failure]
      next hfault =>
        split
        next hapart => simp [RefusedForBuffers, hlength, haddress, hfault, hapart]
        next hoverlap =>
          exact iff_of_true ⟨.invalidParameter, .tail _ (.head _), rfl⟩ fun h => hoverlap h.2
    next haddress => exact iff_of_true ⟨.invalidParameter, .head _, rfl⟩ fun h => haddress h.1.2.1
  next hlength => exact iff_of_true ⟨.bufferTooSmall, .head _, rfl⟩ fun h => hlength h.1.1

/-- The response is written before the overlap is looked for. -/
theorem leavesTrace_respondToUser :
    LeavesTrace meets (respondToUser env req).log ↔ Writable env req := by
  rw [respondToUser_log, writable_iff]
  split
  next hlength =>
    split
    next haddress =>
      split
      next fault hfault => simp [LeavesTrace, hfault]
      next hfault => simp [LeavesTrace, hlength, haddress, hfault]
    next haddress => simp [LeavesTrace, haddress]
  next hlength => simp [LeavesTrace, hlength]

theorem respond_log : (respond env req).log =
    if responseSize ≤ req.outputBufferLength then
      if env.output.status.ntSuccess = true then [.write .response, .information responseSize]
      else [.complete .insufficientResources .buffers]
    else [.complete .bufferTooSmall .buffers] := by
  rw [respond, retrieveOutput, Logged.bind_assoc]
  simp only [demand_bind]
  split
  · split
    · rfl
    · rfl
  · rfl

theorem refusedForBuffers_respond :
    RefusedForBuffers (respond env req).log ↔ ¬ Retrievable env req := by
  rw [respond_log, retrievable_iff]
  split
  next hlength =>
    split
    next hretrieved => simp [RefusedForBuffers, hlength, hretrieved]
    next hfailed => exact iff_of_true ⟨.insufficientResources, .head _, rfl⟩ fun h => hfailed h.2
  next hlength => exact iff_of_true ⟨.bufferTooSmall, .head _, rfl⟩ fun h => hlength h.1

/-- The dispatcher's response is only written once its output has been retrieved. -/
theorem leavesTrace_respond : LeavesTrace meets (respond env req).log ↔ Retrievable env req := by
  rw [respond_log, retrievable_iff]
  split
  next hlength =>
    split
    next hretrieved => simp [LeavesTrace, hlength, hretrieved]
    next hretrieved => simp [LeavesTrace, hretrieved]
  next hlength => simp [LeavesTrace, hlength]

end

section

variable {env : Env} {req : IoRequest} {meets : ∀ call, Meeting call}

theorem harmlessLog_requestEdid (screenNum : Nat) :
    HarmlessLog meets (requestEdid env req screenNum).log := by
  apply harmlessLog_bind (convention_demand (by decide)) onlyChecks_demand
  intro _
  apply harmlessLog_bind (convention_retrieveInput env req _) (onlyChecks_retrieveInput _)
  intro _
  refine harmlessLog_bind (convention_validateIoctl fun _ => admitScreen_refuses)
    onlyChecks_validateIoctl fun i => ?_
  refine harmlessLog_bind (convention_retrieveOutput env req _) (onlyChecks_retrieveOutput _)
    fun _ => ?_
  exact harmlessLog_of_not_refused (by simp [RefusedForBuffers, emit_bind_log])

theorem harmlessLog_requestTotalScreens (totalScreens : Nat) :
    HarmlessLog meets (requestTotalScreens env req totalScreens).log := by
  apply harmlessLog_bind (convention_demand (by decide)) onlyChecks_demand
  intro _
  refine harmlessLog_bind (convention_retrieveOutput env req _) (onlyChecks_retrieveOutput _)
    fun _ => ?_
  refine harmlessLog_bind (convention_validateIoctl fun _ => admitTotalScreens_refuses)
    onlyChecks_validateIoctl fun _ => ?_
  exact harmlessLog_of_not_refused (by simp [RefusedForBuffers, emit_bind_log])

theorem harmlessLog_requestHPEventInfo (event : Nat) :
    HarmlessLog meets (requestHPEventInfo env req event).log := by
  apply harmlessLog_bind (convention_retrieveInput env req _) (onlyChecks_retrieveInput _)
  intro _
  apply harmlessLog_bind (convention_demand (by decide)) onlyChecks_demand
  intro _
  refine harmlessLog_bind (convention_retrieveOutput env req _) (onlyChecks_retrieveOutput _)
    fun _ => ?_
  refine harmlessLog_bind (convention_validateIoctl fun _ => admitHpEvent_refuses)
    onlyChecks_validateIoctl fun _ => ?_
  exact harmlessLog_of_not_refused (by simp [RefusedForBuffers, emit_bind_log])

/-- A release fails for its input before the adapter is called, and after that for the
adapter's reasons. -/
theorem harmlessLog_releaseFb (screenNum : Nat) :
    HarmlessLog meets (releaseFb env (returned meets) req screenNum).log := by
  apply harmlessLog_bind (convention_retrieveInput env req _) (onlyChecks_retrieveInput _)
  intro _
  apply harmlessLog_bind (convention_demand (by decide)) onlyChecks_demand
  intro _
  apply harmlessLog_of_not_refused
  rw [call_bind_log, refusedForBuffers_cons, demand]
  split
  · simp [RefusedForBuffers]
  · simp [RefusedForBuffers, fail]

end

section

variable {env : Env} {req : IoRequest} {meets : ∀ call, Meeting call}

theorem harmlessLog_requestPresentFb_iff {frame : FrameMetaData} :
    HarmlessLog meets (requestPresentFb env (returned meets) req frame).log ↔
      ∀ f, FrameReceived env req frame f →
        (meets (.executePresentDisplayZeroCopy f)).status = .success → ¬ Answerable env req →
        (meets (.executePresentDisplayZeroCopy f)).Untouched ∧ ¬ Writable env req := by
  simp only [← receiveFrame_result_eq_ok, ← refusedForBuffers_respondToUser,
    ← @leavesTrace_respondToUser env req meets]
  exact harmlessLog_call_iff (convention_receiveFrame env req frame) (onlyChecks_receiveFrame frame)

theorem harmlessLog_setPointerShape_iff {cursor : CursorData} :
    HarmlessLog meets (setPointerShape env (returned meets) req cursor).log ↔
      ∀ i, ShapeReceived env req cursor i →
        (meets (.setPointerShape i cursor.shape cursor.colorFormat)).status = .success →
        ¬ Answerable env req →
        (meets (.setPointerShape i cursor.shape cursor.colorFormat)).Untouched ∧
          ¬ Writable env req := by
  simp only [← receiveShape_result_eq_ok, ← refusedForBuffers_respondToUser,
    ← @leavesTrace_respondToUser env req meets]
  exact harmlessLog_call_iff (convention_receiveShape env req cursor)
    (onlyChecks_receiveShape cursor)

theorem harmlessLog_cursorPos_iff {cursor : CursorData} :
    HarmlessLog meets
        (setPointerPosition env (returned meets) req cursor >>= fun _ => respond env req).log ↔
      ∀ i, PositionReceived env req cursor i →
        (meets (.setPointerPosition i cursor.cursorX.toNat cursor.cursorY.toNat)).status =
          .success →
        ¬ Retrievable env req →
        (meets (.setPointerPosition i cursor.cursorX.toNat cursor.cursorY.toNat)).Untouched := by
  simp only [setPointerPosition, Logged.bind_assoc]
  rw [harmlessLog_call_iff (convention_receivePosition env req cursor)
    (onlyChecks_receivePosition cursor)]
  simp only [receivePosition_result_eq_ok, refusedForBuffers_respond, leavesTrace_respond]
  exact forall_congr' fun i => by tauto

theorem harmlessLog_setMode_iff {frame : FrameMetaData} :
    HarmlessLog meets
      (requestSetMode env (returned meets) req frame >>= fun _ => respond env req).log ↔
      ∀ f, ModeReceived env req frame f → (meets (.setCurrentModeExt f)).status = .success →
        ¬ Retrievable env req →
        (meets (.setCurrentModeExt f)).Untouched ∧
          (meets (.blackOutScreen f env.fbVAddr)).Untouched := by
  simp only [requestSetMode, Logged.bind_assoc]
  rw [harmlessLog_call_iff (convention_receiveMode env req frame) (onlyChecks_receiveMode frame)]
  simp only [receiveMode_result_eq_ok, emit_bind_log, refusedForBuffers_cons, leavesTrace_cons,
    refusedForBuffers_respond, leavesTrace_respond]
  exact forall_congr' fun f => by tauto

end

/-! ## The dispatcher -/

section

variable {env : Env} {req : IoRequest} {meets : ∀ call, Meeting call}

/-- A request with an empty buffer is refused at once. -/
theorem harmless_iff_dispatch : Harmless env meets req ↔
    (req.outputBufferLength ≠ 0 ∧ req.inputBufferLength ≠ 0 →
      HarmlessLog meets (dispatch env (returned meets) req).log) := by
  rw [Harmless, evtIoDeviceControl]
  simp only [demand_bind]
  by_cases hlengths : req.outputBufferLength ≠ 0 ∧ req.inputBufferLength ≠ 0
  · rw [imp_iff_right hlengths]
    simp only [if_pos hlengths]
    split
    · exact harmlessLog_append_served
    · rfl
  · simp only [if_neg hlengths]
    refine iff_of_true (harmlessLog_of_completions fun event hmem => ?_) fun h => absurd h hlengths
    obtain rfl := List.mem_singleton.mp hmem
    nofun

/-- An input that was received was not empty, so that only the output needs to be asked
about. -/
theorem lengths_imp_iff {Input : Type} {Received Goal Goal' : Input → Prop}
    (hlength : ∀ input, Received input → req.inputBufferLength ≠ 0)
    (hgoal : ∀ input, Goal input ↔ Goal' input) :
    (req.outputBufferLength ≠ 0 ∧ req.inputBufferLength ≠ 0 →
      ∀ input, Received input → Goal input) ↔
      (req.outputBufferLength ≠ 0 → ∀ input, Received input → Goal' input) := by
  constructor
  · intro h hout input hreceived
    exact (hgoal input).mp (h ⟨hout, hlength input hreceived⟩ input hreceived)
  · intro h hlengths input hreceived
    exact (hgoal input).mpr (h hlengths.1 input hreceived)

theorem Captured.inputBufferLength_ne_zero {size : Nat} (hcaptured : Captured env req size)
    (hsize : 0 < size) : req.inputBufferLength ≠ 0 := by
  have := hcaptured.length
  omega

theorem Retrieved.inputBufferLength_ne_zero {size : Nat} (hretrieved : Retrieved env req size)
    (hsize : 0 < size) : req.inputBufferLength ≠ 0 := by
  have := hretrieved.length
  omega

/-- What a present has to satisfy, in terms of what it meets. -/
theorem frameHarmless_iff {f : AcceptedFrame} :
    ((meets (.executePresentDisplayZeroCopy f)).status = .success → ¬ Answerable env req →
      (meets (.executePresentDisplayZeroCopy f)).Untouched ∧ ¬ Writable env req) ↔
      FrameHarmless env meets req f := by
  rw [Meeting.present_success_iff, Meeting.present_untouched_iff, FrameHarmless]
  tauto

theorem modeHarmless_iff {f : AcceptedFrame} :
    ((meets (.setCurrentModeExt f)).status = .success → ¬ Retrievable env req →
      (meets (.setCurrentModeExt f)).Untouched ∧
        (meets (.blackOutScreen f env.fbVAddr)).Untouched) ↔ ModeHarmless env meets req f := by
  rw [Meeting.setMode_success_iff, Meeting.setMode_untouched_iff, Meeting.blackOut_untouched_iff,
    ModeHarmless]
  tauto

theorem shapeHarmless_iff {cursor : CursorData} {i : ScreenId} :
    ((meets (.setPointerShape i cursor.shape cursor.colorFormat)).status = .success →
      ¬ Answerable env req →
      (meets (.setPointerShape i cursor.shape cursor.colorFormat)).Untouched ∧
        ¬ Writable env req) ↔ ShapeHarmless env meets req cursor i := by
  have htouched := (meets (.setPointerShape i cursor.shape cursor.colorFormat)).pointerShape_touched
  have hsuccess :=
    (meets (.setPointerShape i cursor.shape cursor.colorFormat)).pointerShape_success_iff
  unfold ShapeHarmless
  dsimp only
  rw [← hsuccess]
  tauto

theorem positionHarmless_iff {cursor : CursorData} {i : ScreenId} :
    ((meets (.setPointerPosition i cursor.cursorX.toNat cursor.cursorY.toNat)).status = .success →
      ¬ Retrievable env req →
      (meets (.setPointerPosition i cursor.cursorX.toNat cursor.cursorY.toNat)).Untouched) ↔
      PositionHarmless env meets req cursor i := by
  rw [Meeting.pointerPosition_success_iff, Meeting.pointerPosition_untouched_iff, PositionHarmless]
  grind

end

/-- A request is harmless just when `HarmlessWhen` says so, whatever the environment and the
adapter answer. -/
theorem harmless_iff (env : Env) (meets : ∀ call, Meeting call) (req : IoRequest) :
    Harmless env meets req ↔ HarmlessWhen env meets req := by
  rw [harmless_iff_dispatch, HarmlessWhen, dispatch]
  cases req.code with
  | frameData frame | testImage frame =>
      dsimp only
      rw [handled_eq (convention_requestPresentFb ..), harmlessLog_requestPresentFb_iff]
      exact lengths_imp_iff (fun f hf => hf.captured.inputBufferLength_ne_zero (by decide))
        fun f => frameHarmless_iff
  | cursorData cursor =>
      dsimp only
      rw [handled_eq (convention_setPointerShape ..), harmlessLog_setPointerShape_iff]
      exact lengths_imp_iff (fun i hi => hi.captured.inputBufferLength_ne_zero (by decide))
        fun i => shapeHarmless_iff
  | cursorPos cursor =>
      dsimp only
      rw [handled_eq (convention_setPointerPosition ..), harmlessLog_cursorPos_iff]
      exact lengths_imp_iff (fun i hi => hi.retrieved.inputBufferLength_ne_zero (by decide))
        fun i => positionHarmless_iff
  | setMode frame =>
      dsimp only
      rw [handled_eq (convention_requestSetMode ..), harmlessLog_setMode_iff]
      exact lengths_imp_iff (fun f hf => hf.retrieved.inputBufferLength_ne_zero (by decide))
        fun f => modeHarmless_iff
  | getEdidData screenNum =>
      dsimp only
      rw [handled_eq (convention_requestEdid ..)]
      exact iff_of_true (fun _ => harmlessLog_requestEdid screenNum) fun _ => trivial
  | getTotalScreens totalScreens =>
      dsimp only
      rw [handled_eq (convention_requestTotalScreens ..)]
      exact iff_of_true (fun _ => harmlessLog_requestTotalScreens totalScreens) fun _ => trivial
  | hpEvent event =>
      dsimp only
      rw [handled_eq (convention_requestHPEventInfo ..)]
      exact iff_of_true (fun _ => harmlessLog_requestHPEventInfo event) fun _ => trivial
  | releaseFb screenNum =>
      exact iff_of_true (fun _ => harmlessLog_releaseFb screenNum) fun _ => trivial
  | other code =>
      refine iff_of_true (fun _ => harmlessLog_of_not_refused ?_) fun _ => trivial
      rintro ⟨status, hmem, -⟩
      cases hmem

/-- A present with one byte of output reaches the host and then fails for that byte. -/
theorem not_harmless : ¬ ∀ env meets req, Harmless env meets req := by
  let frame : FrameMetaData := .sized 1024 768 4096 1024 0x1000
  let f : AcceptedFrame := ⟨frame, by decide⟩
  let env : Env :=
    { irp := true, irpStack := true, adapter := true, passiveLevel := true
      input := ⟨.success, true⟩, output := ⟨.success, true⟩
      captureFault := none, probeFault := none, writeFault := none
      fbVAddr := 0, modes := .initial fun _ => 0, numScreens := maxScanOut }
  let req : IoRequest := ⟨.frameData frame, frameMetaDataSize, 1, 0x100000, 0x200000⟩
  -- the device has just started
  have hresult : ((hwInit (.plain true)).bind fun a =>
      (perform .good (fun _ => 0) a (.executePresentDisplayZeroCopy f)).map
        fun result => (result.2.1.length, result.2.2)) = some (5, .success) := by
    decide +kernel
  obtain ⟨a, hinit, hresult⟩ := Option.bind_eq_some_iff.mp hresult
  obtain ⟨⟨a', actions, status⟩, hperformed, hvalues⟩ := Option.map_eq_some_iff.mp hresult
  obtain ⟨hactions, hstatus⟩ := Prod.mk.inj hvalues
  have hnumbered := objectsNumbered ⟨.plain true, a, hinit, .refl⟩
  let meeting : Meeting (.executePresentDisplayZeroCopy f) :=
    ⟨.good, fun _ => 0, a, a', actions, status, hnumbered.1, hnumbered.2, hperformed⟩
  classical
  let meets : ∀ call, Meeting call := Function.update (fun _ => Classical.ofNonempty) _ meeting
  have hmeets : meets (.executePresentDisplayZeroCopy f) = meeting := Function.update_self _ _ _
  intro hclaim
  have hharmless := harmless_iff_dispatch.mp (hclaim env meets req) (by decide)
  have hframe : HarmlessLog meets (requestPresentFb env (returned meets) req frame).log := by
    rwa [← handled_eq (convention_requestPresentFb env (returned meets) req frame)]
  have hreceived : FrameReceived env req frame f :=
    ⟨⟨rfl, rfl, rfl, by decide, by decide, rfl, rfl⟩, dif_pos _, by decide, by decide, rfl⟩
  have huntouched := (harmlessLog_requestPresentFb_iff.mp hframe f hreceived
    (hmeets ▸ hstatus) fun hanswerable => absurd hanswerable.length (by decide)).1
  rw [hmeets] at huntouched
  have hnone : actions = [] := huntouched.actions
  rw [hnone] at hactions
  cases hactions

end VirtDisplay.Ioctl
