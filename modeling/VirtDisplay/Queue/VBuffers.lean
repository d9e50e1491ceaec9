/-
# Buffers on their way through the queues

Threads take buffers from the pool and queue them, the host completes them in any
order, the DPC dequeues and handles them, and a thread that asked for an answer waits
for its event and gives the buffer back itself. The threads that ask do so under
`m_screen_mutex`, so there is one of them at a time; those that only send a command
hold no common lock, and neither do the DPCs, which may overlap.

Each command has a number, given when its buffer is queued or, for a call that waits,
when the call begins. The numbers are not in the source: they say which completion
belongs to which call.
-/

import VirtDisplay.Foundation.Transition
import VirtDisplay.Queue.Pool

namespace VirtDisplay

open Transition

/-- A buffer on a queue. -/
structure Entry where
  buf : BufId
  ticket : Nat
  /-- The event its sender waits on. -/
  waitsOn : Option EventId
  deriving DecidableEq

/-- A virtqueue, with the buffers that a DPC has taken from it and not handled yet. -/
structure VirtQueue where
  avail : List Entry
  used : List Entry
  taken : List Entry

/-- The two queues. -/
inductive QueueId
  | ctrl
  | cursor
  deriving DecidableEq

namespace VirtQueue

/-- A queue that was just set up. -/
def empty : VirtQueue := ⟨[], [], []⟩

/-- Every entry the queue still accounts for. -/
def entries (q : VirtQueue) : List Entry := q.avail ++ q.used ++ q.taken

/-- The buffers queued and not dequeued. -/
def outstanding (q : VirtQueue) : List Entry := q.avail ++ q.used

/-- `AddBuf`. -/
def push (e : Entry) (q : VirtQueue) : VirtQueue := { q with avail := q.avail ++ [e] }

/-- The host is done with the `k`-th buffer. -/
def complete (k : Nat) (q : VirtQueue) : Option (Entry × VirtQueue) :=
  (q.avail[k]?).map fun e => (e, { q with avail := q.avail.eraseIdx k, used := q.used ++ [e] })

/-- `DequeueBuffer` and `DequeueCursor`. -/
def dequeue (q : VirtQueue) : Option (Entry × VirtQueue) :=
  match q.used with
  | [] => none
  | e :: rest => some (e, { q with used := rest, taken := q.taken ++ [e] })

/-- A DPC finishes with the `k`-th buffer it took. -/
def finish (k : Nat) (q : VirtQueue) : Option (Entry × VirtQueue) :=
  (q.taken[k]?).map fun e => (e, { q with taken := q.taken.eraseIdx k })

end VirtQueue

/-- How far a call that waits has got: it has its buffer, it has named its event in
it, it has queued it and waits, its wait has ended. -/
inductive Stage
  | filling
  | armed
  | waiting
  | woken
  deriving DecidableEq

/-- `AskDisplayInfo`, `AskEdidInfo` or `ResFlush` from the buffer it got to its
`ReleaseBuffer`. -/
structure Asker where
  stage : Stage
  buf : BufId
  event : EventId
  ticket : Nat
  deriving DecidableEq

/-- A call of `FreeBuf`: its argument and where that was. -/
structure FreeCall where
  buf : Option BufId
  inUse : Bool
  outstanding : Bool
  deriving DecidableEq

/-- A wait that ended because its event was signalled: whose it was, and whether the
completion of its buffer had been dequeued. -/
structure Wake where
  ticket : Nat
  dequeued : Bool
  deriving DecidableEq

/-- The pool, the events, the queues and the threads. -/
structure VBuffers where
  pool : VioGpuBuf
  signalled : EventId → Bool
  ctrl : VirtQueue
  cursor : VirtQueue
  /-- Buffers of commands that nobody waits for, taken and not queued yet. -/
  drafts : List BufId
  /-- The call that holds `m_screen_mutex`, if it has a buffer. -/
  asker : Option Asker
  nextTicket : Nat
  /-- The commands the DPC has dequeued. -/
  dequeued : List Nat
  frees : List FreeCall
  wakes : List Wake
  /-- A call of `FreeBuf` did not come back, with the pool's spin lock held. -/
  hung : Bool

namespace VBuffers

variable (s : VBuffers)

def queue : QueueId → VirtQueue
  | .ctrl => s.ctrl
  | .cursor => s.cursor

def setQueue (id : QueueId) (q : VirtQueue) : VBuffers :=
  match id with
  | .ctrl => { s with ctrl := q }
  | .cursor => { s with cursor := q }

/-- Every entry of either queue. -/
def entries : List Entry := s.ctrl.entries ++ s.cursor.entries

/-- The buffers that the host or a used ring still holds. -/
def outstanding : List BufId := (s.ctrl.outstanding ++ s.cursor.outstanding).map Entry.buf

/-- `ReleaseBuffer`. -/
def release (b : Option BufId) : VBuffers :=
  let call : FreeCall :=
    ⟨b, b.any (· ∈ s.pool.inUseBufs), b.any (· ∈ s.outstanding)⟩
  match s.pool.freeBuf b with
  | none => { s with frees := call :: s.frees, hung := true }
  | some pool => { s with pool := pool, frees := call :: s.frees }

/-- What can happen, with the environment's answers. -/
inductive Label
  /-- A call that waits begins; `allocates` answers its allocation of response memory. -/
  | ask (event : EventId) (allocates : Bool)
  /-- It initialises its event and names it in the buffer. -/
  | arm
  /-- It queues the buffer; the queue may be full. -/
  | queueAsk (accepted : Bool)
  /-- Its wait ends with the event. -/
  | wake
  /-- Its wait expires. -/
  | timeout
  /-- It releases its buffer. -/
  | releaseAsk
  /-- A command that nobody waits for takes a buffer and, for an attach, its data. -/
  | alloc (respSize dataSize : Nat)
  /-- The `k`-th of these is queued. -/
  | send (k : Nat) (id : QueueId) (accepted : Bool)
  /-- The host completes the `k`-th buffer of a queue. -/
  | complete (id : QueueId) (k : Nat)
  /-- A DPC dequeues a buffer. -/
  | dequeue (id : QueueId)
  /-- A DPC handles the `k`-th buffer taken from a queue. -/
  | handle (id : QueueId) (k : Nat)
  /-- The device leaves D0 and comes back: the queues are deleted and made anew. -/
  | powerCycle
  deriving DecidableEq

/-- Only `ResFlush` needs no response memory of its own. -/
def needsMemory : EventId → Bool
  | .flush _ => false
  | _ => true

/-- A call that could not get its buffer. `GetEdids` releases the buffer all the same. -/
def askFailed : EventId → VBuffers
  | .edid _ => s.release none
  | _ => s

/-- The host writes its response to a command of the control queue; a cursor command
has no response. -/
def respond (id : QueueId) (e : Entry) : VBuffers :=
  match id with
  | .ctrl => { s with pool := s.pool.write e.buf fun v => { v with response := some e.ticket } }
  | .cursor => s

/-- What `DpcRoutine` does with a buffer: it releases one that names no event, and sets
the event of one that does. It releases every cursor command. -/
def handleEntry (id : QueueId) (e : Entry) : VBuffers :=
  match id, (s.pool.mem e.buf).event with
  | .ctrl, some event => { s with signalled := Function.update s.signalled event true }
  | _, _ => s.release (some e.buf)

/-- One step. -/
def step : Label → Option VBuffers
  | .ask event allocates =>
      if s.asker ≠ none then none
      else
        match if allocates || !needsMemory event then s.pool.getBuf event.respSize else none with
        | none => some (s.askFailed event)
        | some (b, pool) =>
            some { s with
              pool := pool
              asker := some ⟨.filling, b, event, s.nextTicket⟩
              nextTicket := s.nextTicket + 1 }
  | .arm =>
      match s.asker with
      | some ⟨.filling, b, event, ticket⟩ =>
          some { s with
            pool := s.pool.write b fun v => { v with event := some event }
            signalled := Function.update s.signalled event false
            asker := some ⟨.armed, b, event, ticket⟩ }
      | _ => none
  | .queueAsk accepted =>
      match s.asker with
      | some ⟨.armed, b, event, ticket⟩ =>
          some { s with
            ctrl := if accepted then s.ctrl.push ⟨b, ticket, some event⟩ else s.ctrl
            asker := some ⟨.waiting, b, event, ticket⟩ }
      | _ => none
  | .wake =>
      match s.asker with
      | some ⟨.waiting, b, event, ticket⟩ =>
          if s.signalled event then
            some { s with
              asker := some ⟨.woken, b, event, ticket⟩
              wakes := ⟨ticket, ticket ∈ s.dequeued⟩ :: s.wakes }
          else none
      | _ => none
  | .timeout =>
      match s.asker with
      | some ⟨.waiting, b, event, ticket⟩ =>
          if s.signalled event then none
          else some { s with asker := some ⟨.woken, b, event, ticket⟩ }
      | _ => none
  | .releaseAsk =>
      match s.asker with
      | some ⟨.woken, b, _, _⟩ => some ({ s with asker := none }.release (some b))
      | _ => none
  | .alloc respSize dataSize =>
      match s.pool.getBuf respSize with
      | none => some s
      | some (b, pool) =>
          some { s with
            pool := pool.write b fun v => { v with dataSize := dataSize }
            drafts := s.drafts ++ [b] }
  | .send k id accepted =>
      (s.drafts[k]?).map fun b =>
        let q := if accepted then (s.queue id).push ⟨b, s.nextTicket, none⟩ else s.queue id
        { s.setQueue id q with drafts := s.drafts.eraseIdx k, nextTicket := s.nextTicket + 1 }
  | .complete id k => ((s.queue id).complete k).map fun (e, q) => (s.setQueue id q).respond id e
  | .dequeue id =>
      (s.queue id).dequeue.map fun (e, q) =>
        { s.setQueue id q with dequeued := e.ticket :: s.dequeued }
  | .handle id k => ((s.queue id).finish k).map fun (e, q) => (s.setQueue id q).handleEntry id e
  | .powerCycle =>
      if s.ctrl.taken = [] ∧ s.cursor.taken = [] then
        some { s with ctrl := .empty, cursor := .empty }
      else none

/-- The buffers of the adapter as a system, which stands still once a `FreeBuf` hangs. -/
def system : System VBuffers Label := ⟨fun s label => if s.hung then none else s.step label⟩

/-- The start: nothing queued, no event set, the pool as `Init` leaves it. -/
def start (pool : VioGpuBuf) : VBuffers where
  pool := pool
  signalled := fun _ => false
  ctrl := .empty
  cursor := .empty
  drafts := []
  asker := none
  nextTicket := 0
  dequeued := []
  frees := []
  wakes := []
  hung := false

end VBuffers

end VirtDisplay
