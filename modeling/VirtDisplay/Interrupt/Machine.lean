/-
# Interrupts

The interrupt service routine only notes why it was called: it ORs the reasons into
`m_PendingWorks` and queues the DPC. The DPC takes the word with an exchange, does what
it says, and looks again, until it finds nothing. The framework runs the DPC at least
once after each request; more runs do no harm, and several may overlap, so here a run
may begin at any time and clears the request.

Every step of a routine that touches something shared is a step of its own. The device
moves in between: it puts completions into the used rings and changes its
configuration. Without message-signalled interrupts both events latch a bit of one
status register, which is cleared as it is read.

The clock counts the calls and the OR operations of the service routine. It is not in
the source: it says which drain of a queue came after which interrupt.
-/

import Mathlib.Data.Finset.Insert
import VirtDisplay.Foundation.Transition
import VirtDisplay.Queue.VBuffers

namespace VirtDisplay

open Transition

/-- The bits of `m_PendingWorks`. -/
inductive IsrReason
  | display
  | cursor
  | change
  deriving DecidableEq

/-- The status register: bit 0 for the queues, bit 1 for the configuration. -/
structure IsrStatus where
  queue : Bool
  config : Bool
  deriving DecidableEq

/-- No bit set. -/
def IsrStatus.clear : IsrStatus := ⟨false, false⟩

/-- The reasons `InterruptRoutine` reads off the status: the values 1 and 3 are the only
ones it serves. -/
def statusReasons : IsrStatus → Option (Finset IsrReason)
  | ⟨true, false⟩ => some {.display, .cursor}
  | ⟨true, true⟩ => some {.change}
  | ⟨false, _⟩ => none

/-- The reasons `InterruptRoutine` reads off a message number. -/
def messageReasons : Nat → Option (Finset IsrReason)
  | 0 => some {.change}
  | 1 => some {.display}
  | 2 => some {.cursor}
  | _ => none

/-- The reason for which the DPC drains a queue. -/
def QueueId.reason : QueueId → IsrReason
  | .ctrl => .display
  | .cursor => .cursor

/-- A call of the service routine: it knows its reasons, or has noted them and has yet to
queue the DPC. -/
inductive IsrPhase
  | decoded (reasons : Finset IsrReason)
  | noted
  deriving DecidableEq

/-- A run of `DpcRoutine`, with the word it took. -/
inductive DpcPhase
  | exchange
  /-- In the loop that drains a queue. -/
  | drain (id : QueueId) (reasons : Finset IsrReason)
  /-- With a buffer it dequeued in that loop. -/
  | holding (id : QueueId) (reasons : Finset IsrReason) (ticket : Nat)
  /-- Behind both loops. -/
  | change (reasons : Finset IsrReason)
  deriving DecidableEq

/-- The device, the service routine and the DPC. -/
structure Interrupts where
  msi : Bool
  status : IsrStatus
  /-- The completions in the used rings. -/
  used : QueueId → List Nat
  posted : Nat
  /-- `m_PendingWorks`. -/
  pending : Finset IsrReason
  isrs : List IsrPhase
  dpcQueued : Bool
  dpcs : List DpcPhase
  /-- The completions the DPC has handled. -/
  handled : QueueId → List Nat
  clock : Nat
  /-- The status values read, and when. -/
  reads : List (IsrStatus × Nat)
  /-- The words ORed, and when. -/
  ors : List (Finset IsrReason × Nat)
  /-- The completions that were in a used ring when their interrupt was served. -/
  served : List (QueueId × Nat)
  /-- When the DPC last took a reason. -/
  lastTaken : IsrReason → Nat
  /-- When the DPC last finished the work for a reason: found a queue empty, or set
  `m_ConfigUpdateEvent`. -/
  lastDone : IsrReason → Nat

/-- Where a run of the DPC goes once it is done with a queue. -/
def QueueId.next (reasons : Finset IsrReason) : QueueId → DpcPhase
  | .ctrl => .drain .cursor reasons
  | .cursor => .change reasons

namespace Interrupts

variable (s : Interrupts)

/-- What can happen. -/
inductive Label
  /-- The device completes a buffer. -/
  | post (id : QueueId)
  /-- The device changes its configuration. -/
  | configure
  /-- The service routine is called. -/
  | interrupt (message : Nat)
  /-- A call of the service routine goes on. -/
  | isr (k : Nat)
  /-- A run of the DPC begins. -/
  | startDpc
  /-- A run of the DPC goes on. -/
  | dpc (k : Nat)
  deriving DecidableEq

/-- The device latches an event, where it has no messages to send. -/
def latch (f : IsrStatus → IsrStatus) : Interrupts :=
  if s.msi then s else { s with status := f s.status }

/-- What the service routine reads off the device, and what that leaves in the register. -/
def decode (message : Nat) : Option (Finset IsrReason) × IsrStatus :=
  if s.msi then (messageReasons message, s.status) else (statusReasons s.status, .clear)

/-- Whether a call of the service routine is for the interrupt of a queue. -/
def isFor (message : Nat) (id : QueueId) : Bool :=
  if s.msi then messageReasons message = some {id.reason} else s.status.queue

/-- The completions whose interrupt a call of the service routine is for. -/
def announced (message : Nat) : List (QueueId × Nat) :=
  [QueueId.ctrl, .cursor].flatMap fun id =>
    if s.isFor message id then (s.used id).map (id, ·) else []

/-- The next step of a call of the service routine. -/
def isrAct : IsrPhase → List IsrPhase × Interrupts
  | .decoded reasons =>
      ([.noted],
        { s with
          pending := s.pending ∪ reasons
          ors := (reasons, s.clock) :: s.ors
          clock := s.clock + 1 })
  | .noted => ([], { s with dpcQueued := true })

/-- The next step of a run of the DPC. -/
def dpcAct : DpcPhase → List DpcPhase × Interrupts
  | .exchange =>
      if s.pending = ∅ then ([], s)
      else
        ([.drain .ctrl s.pending],
          { s with
            pending := ∅
            lastTaken := fun r => if r ∈ s.pending then s.clock else s.lastTaken r })
  | .drain id reasons =>
      if id.reason ∉ reasons then ([id.next reasons], s)
      else
        match s.used id with
        | [] =>
            ([id.next reasons],
              { s with lastDone := Function.update s.lastDone id.reason s.clock })
        | ticket :: rest =>
            ([.holding id reasons ticket], { s with used := Function.update s.used id rest })
  | .holding id reasons ticket =>
      ([.drain id reasons],
        { s with handled := Function.update s.handled id (ticket :: s.handled id) })
  | .change reasons =>
      ([.exchange],
        if .change ∈ reasons then
          { s with lastDone := Function.update s.lastDone .change s.clock }
        else s)

/-- One step. -/
def step : Label → Option Interrupts
  | .post id =>
      some ({ s with
        used := Function.update s.used id (s.used id ++ [s.posted])
        posted := s.posted + 1 }.latch fun status => { status with queue := true })
  | .configure => some (s.latch fun status => { status with config := true })
  | .interrupt message =>
      let after : Interrupts :=
        { s with
          status := (s.decode message).2
          reads := if s.msi then s.reads else (s.status, s.clock) :: s.reads
          clock := s.clock + 1 }
      match (s.decode message).1 with
      | none => some after
      | some reasons =>
          some { after with
            isrs := .decoded reasons :: s.isrs
            served := s.announced message ++ s.served }
  | .isr k =>
      (s.isrs[k]?).map fun phase =>
        let (next, after) := { s with isrs := s.isrs.eraseIdx k }.isrAct phase
        { after with isrs := next ++ after.isrs }
  | .startDpc => some { s with dpcQueued := false, dpcs := .exchange :: s.dpcs }
  | .dpc k =>
      (s.dpcs[k]?).map fun phase =>
        let (next, after) := { s with dpcs := s.dpcs.eraseIdx k }.dpcAct phase
        { after with dpcs := next ++ after.dpcs }

/-- Interrupts as a system. -/
def system : System Interrupts Label := ⟨step⟩

/-- Before the first interrupt, with or without message-signalled interrupts. -/
def start (msi : Bool) : Interrupts where
  msi := msi
  status := .clear
  used := fun _ => []
  posted := 0
  pending := ∅
  isrs := []
  dpcQueued := false
  dpcs := []
  handled := fun _ => []
  clock := 0
  reads := []
  ors := []
  served := []
  lastTaken := fun _ => 0
  lastDone := fun _ => 0

/-- No call of the service routine and no run of the DPC is under way or asked for. -/
def Quiet : Prop := s.isrs = [] ∧ s.dpcQueued = false ∧ s.dpcs = []

/-- A run of the DPC is under way, asked for, or about to be. -/
def DpcToCome : Prop := s.dpcQueued = true ∨ .noted ∈ s.isrs ∨ s.dpcs ≠ []

end Interrupts

end VirtDisplay
