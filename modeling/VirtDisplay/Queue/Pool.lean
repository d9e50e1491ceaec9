/-
# The pool of command buffers

Every command travels in a `GPU_VBUFFER`, and `VioGpuBuf` keeps each of them on one
of two lists: the free ones and the ones in use. `GetBuf` moves a buffer from the
first to the second and `FreeBuf` moves it back. `FreeBuf` looks for its argument by
walking the circular list of the buffers in use until it meets it, so it only comes
back if the argument is there, or if the list is empty and there is no walk.
-/

import Mathlib.Data.List.Nodup
import VirtDisplay.Contract

namespace VirtDisplay

/-- The events a command can name: three of each screen. The command that names one is
the `GET_DISPLAY_INFO`, the `GET_EDID` or the `RESOURCE_FLUSH` of that screen. -/
inductive EventId
  | displayInfo (i : ScreenId)
  | edid (i : ScreenId)
  | flush (i : ScreenId)
  deriving DecidableEq

/-- `MAX_INLINE_RESP_SIZE`: a longer response has memory of its own. -/
def maxInlineRespSize : Nat := 24

/-- The size of the response to the command that names an event. -/
def EventId.respSize : EventId → Nat
  | .displayInfo _ => 408
  | .edid _ => 1056
  | .flush _ => 24

/-- A `GPU_VBUFFER`, as far as the pool and the DPC read it. -/
structure GpuVBuffer where
  respSize : Nat
  dataSize : Nat
  event : Option EventId
  /-- The command whose response is in the response memory. -/
  response : Option Nat
  deriving DecidableEq

/-- A buffer just handed out: `memset` and the response size. -/
def GpuVBuffer.cleared (respSize : Nat) : GpuVBuffer := ⟨respSize, 0, none, none⟩

/-- The memory a buffer refers to is deleted. The event stays. -/
def GpuVBuffer.strip (v : GpuVBuffer) : GpuVBuffer :=
  { v with respSize := if maxInlineRespSize < v.respSize then 0 else v.respSize, dataSize := 0 }

@[simp] theorem GpuVBuffer.cleared_event (respSize : Nat) : (cleared respSize).event = none := rfl
@[simp] theorem GpuVBuffer.strip_event (v : GpuVBuffer) : v.strip.event = v.event := rfl
@[simp] theorem GpuVBuffer.strip_response (v : GpuVBuffer) : v.strip.response = v.response := rfl

/-- A buffer, by its address. -/
abbrev BufId : Type := Nat

/-- `VioGpuBuf`, with the memory of its buffers. -/
structure VioGpuBuf where
  freeBufs : List BufId
  inUseBufs : List BufId
  uCount : Nat
  mem : BufId → GpuVBuffer

namespace VioGpuBuf

/-- `Init`, which stops at the first allocation that fails and then deletes the rest. -/
def init (cnt : Nat) (allocates : Nat → Bool) : VioGpuBuf :=
  let got := (List.range cnt).takeWhile allocates
  ⟨if got.length = cnt then got else [], [], got.length, fun _ => .cleared 0⟩

/-- `GetBuf`. -/
def getBuf (respSize : Nat) (pool : VioGpuBuf) : Option (BufId × VioGpuBuf) :=
  match pool.freeBufs with
  | [] => none
  | b :: rest =>
      some (b,
        { pool with
          freeBufs := rest
          inUseBufs := pool.inUseBufs ++ [b]
          mem := Function.update pool.mem b (.cleared respSize) })

/-- `FreeBuf`, or `none` where it does not come back: the walk over the buffers in use
has no end but its argument, and a null argument is read behind it. -/
def freeBuf (pool : VioGpuBuf) : Option BufId → Option VioGpuBuf
  | none => none
  | some b =>
      if pool.inUseBufs ≠ [] ∧ b ∉ pool.inUseBufs then none
      else
        some { pool with
          freeBufs := pool.freeBufs ++ [b]
          inUseBufs := pool.inUseBufs.erase b
          mem := Function.update pool.mem b (pool.mem b).strip }

/-- Write to a buffer. -/
def write (b : BufId) (f : GpuVBuffer → GpuVBuffer) (pool : VioGpuBuf) : VioGpuBuf :=
  { pool with mem := Function.update pool.mem b (f (pool.mem b)) }

variable {pool pool' : VioGpuBuf} {b b' : BufId} {f : GpuVBuffer → GpuVBuffer}

@[simp] theorem write_freeBufs : (pool.write b f).freeBufs = pool.freeBufs := rfl
@[simp] theorem write_inUseBufs : (pool.write b f).inUseBufs = pool.inUseBufs := rfl
@[simp] theorem write_mem_self : (pool.write b f).mem b = f (pool.mem b) := Function.update_self ..

theorem write_mem_of_ne (hne : b' ≠ b) : (pool.write b f).mem b' = pool.mem b' :=
  Function.update_of_ne hne ..

/-- A write that leaves the event of its buffer leaves every event. -/
theorem write_event (hf : ∀ v, (f v).event = v.event) (b' : BufId) :
    ((pool.write b f).mem b').event = (pool.mem b').event := by
  by_cases heq : b' = b
  · subst heq
    rw [write_mem_self, hf]
  · rw [write_mem_of_ne heq]

/-- No buffer is on two lists, or twice on one. -/
def Apart (pool : VioGpuBuf) : Prop := (pool.freeBufs ++ pool.inUseBufs).Nodup

theorem apart_init (cnt : Nat) (allocates : Nat → Bool) : (init cnt allocates).Apart := by
  unfold Apart init
  dsimp only
  rw [List.append_nil]
  split
  next => exact (List.takeWhile_prefix _).sublist.nodup List.nodup_range
  next => exact List.nodup_nil

/-- A free buffer is not in use. -/
theorem Apart.not_mem (hapart : pool.Apart) (hfree : b ∈ pool.freeBufs) : b ∉ pool.inUseBufs :=
  fun hused => (List.nodup_append.mp hapart).2.2 b hfree b hused rfl

/-- What `GetBuf` does where it finds a buffer. -/
structure Gets (respSize : Nat) (pool : VioGpuBuf) (b : BufId) (pool' : VioGpuBuf) : Prop where
  free : pool.freeBufs = b :: pool'.freeBufs
  inUse : pool'.inUseBufs = pool.inUseBufs ++ [b]
  mem_self : pool'.mem b = .cleared respSize
  mem_of_ne : ∀ {b'}, b' ≠ b → pool'.mem b' = pool.mem b'

theorem getBuf_gets {respSize : Nat} (hget : pool.getBuf respSize = some (b, pool')) :
    Gets respSize pool b pool' := by
  unfold getBuf at hget
  split at hget
  next => cases hget
  next first rest hfree =>
    obtain ⟨rfl, rfl⟩ := Prod.mk.inj (Option.some.inj hget)
    exact ⟨hfree, rfl, Function.update_self .., fun hne => Function.update_of_ne hne ..⟩

theorem Gets.apart {respSize : Nat} (hgets : Gets respSize pool b pool') (hapart : pool.Apart) :
    pool'.Apart := by
  unfold Apart at *
  rw [hgets.free] at hapart
  rw [hgets.inUse, ← List.append_assoc]
  exact (List.perm_append_singleton b _).nodup_iff.mpr hapart

theorem Gets.not_inUse {respSize : Nat} (hgets : Gets respSize pool b pool')
    (hapart : pool.Apart) : b ∉ pool.inUseBufs :=
  hapart.not_mem (by rw [hgets.free]; exact List.mem_cons_self)

/-- What `FreeBuf` does with a buffer in use. -/
structure Frees (pool : VioGpuBuf) (b : BufId) (pool' : VioGpuBuf) : Prop where
  free : pool'.freeBufs = pool.freeBufs ++ [b]
  inUse : pool'.inUseBufs = pool.inUseBufs.erase b
  event : ∀ b', (pool'.mem b').event = (pool.mem b').event
  response : ∀ b', (pool'.mem b').response = (pool.mem b').response

theorem freeBuf_frees (hfree : pool.freeBuf (some b) = some pool') : Frees pool b pool' := by
  rw [freeBuf] at hfree
  split at hfree
  next => cases hfree
  next =>
    obtain rfl := Option.some.inj hfree
    refine ⟨rfl, rfl, fun b' => ?_, fun b' => ?_⟩
    all_goals
      by_cases heq : b' = b
      · subst heq
        simp
      · simp [Function.update_of_ne heq]

/-- A buffer in use can be freed. -/
theorem exists_freeBuf (hused : b ∈ pool.inUseBufs) : ∃ pool', pool.freeBuf (some b) = some pool' :=
  ⟨_, if_neg fun h => h.2 hused⟩

theorem Frees.apart (hfrees : Frees pool b pool') (hapart : pool.Apart)
    (hused : b ∈ pool.inUseBufs) : pool'.Apart := by
  unfold Apart at *
  rw [hfrees.free, hfrees.inUse, List.append_assoc]
  exact ((List.perm_cons_erase hused).append_left pool.freeBufs).nodup_iff.mp hapart

/-- Only the freed buffer leaves the list of the buffers in use. -/
theorem Frees.inUse_of_ne (hfrees : Frees pool b pool') (hne : b' ≠ b)
    (hused : b' ∈ pool.inUseBufs) : b' ∈ pool'.inUseBufs := by
  rw [hfrees.inUse]
  exact (List.mem_erase_of_ne hne).mpr hused

end VioGpuBuf

end VirtDisplay
