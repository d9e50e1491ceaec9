/-
# Programs that check what they touch

A C program that reads past an array, lets a number outgrow its type, divides by zero or
loops for ever does not say so. The programs here are built from operations that stop with
a fault instead, so a program that returns has done none of these things.

Numbers are natural. An operation whose C counterpart would go below zero faults as well,
which asks more of a program than C does.

Loops run on fuel. A rule for them says what a loop returns when its rounds are known in
advance: it follows a given sequence of states, and the number of rounds is below the fuel.
-/

import Mathlib.Algebra.Ring.Nat
import VirtDisplay.Foundation.Logged

/-- What a program can do wrong. -/
inductive Fault
  | outOfBounds
  | overflow
  | divisionByZero
  /-- The fuel ran out. -/
  | endless
  deriving DecidableEq

/-- A program that leaves marks and stops at its first fault. -/
abbrev Checked (Event : Type) (Value : Type) : Type := Logged Event Fault Value

/-- How a round of a loop ends. -/
inductive Turn (State : Type)
  | next (s : State)
  /-- `break`. -/
  | leave (s : State)

namespace Checked

variable {Event α State : Type}

/-- Stop. -/
def fault (f : Fault) : Checked Event α := ⟨[], .error f⟩

/-- `xs[i]`. -/
def fetch (xs : List α) (i : Nat) : Checked Event α :=
  if h : i < xs.length then pure xs[i] else fault .outOfBounds

/-- `xs[i] = x` in an array of fixed size. -/
def store {n : Nat} (xs : Vector α n) (i : Nat) (x : α) : Checked Event (Vector α n) :=
  if h : i < n then pure (xs.set i x h) else fault .outOfBounds

/-- `xs[i] = x` in an array that was allocated. -/
def put (xs : List α) (i : Nat) (x : α) : Checked Event (List α) :=
  if i < xs.length then pure (xs.set i x) else fault .outOfBounds

/-- A result of type `unsigned short`. -/
def ushort (n : Nat) : Checked Event Nat := if n < 2 ^ 16 then pure n else fault .overflow

/-- A result of type `int`. -/
def int (n : Nat) : Checked Event Nat := if n < 2 ^ 31 then pure n else fault .overflow

/-- A result of type `unsigned int`. -/
def uint (n : Nat) : Checked Event Nat := if n < 2 ^ 32 then pure n else fault .overflow

/-- `a - b`, which is not to go below zero. -/
def minus (a b : Nat) : Checked Event Nat := if b ≤ a then pure (a - b) else fault .overflow

/-- `a / b` of unsigned numbers. -/
def quotient (a b : Nat) : Checked Event Nat :=
  if b = 0 then fault .divisionByZero else pure (a / b)

section

variable {xs : List α} {i n a b : Nat}

theorem fetch_of_lt (h : i < xs.length) : (fetch xs i : Checked Event α) = pure xs[i] := dif_pos h

theorem store_of_lt {ys : Vector α n} {x : α} (h : i < n) :
    (store ys i x : Checked Event (Vector α n)) = pure (ys.set i x h) := dif_pos h

theorem put_of_lt {x : α} (h : i < xs.length) :
    (put xs i x : Checked Event (List α)) = pure (xs.set i x) := if_pos h

theorem ushort_of_lt (h : n < 2 ^ 16) : (ushort n : Checked Event Nat) = pure n := if_pos h

theorem int_of_lt (h : n < 2 ^ 31) : (int n : Checked Event Nat) = pure n := if_pos h

theorem uint_of_lt (h : n < 2 ^ 32) : (uint n : Checked Event Nat) = pure n := if_pos h

theorem minus_of_le (h : b ≤ a) : (minus a b : Checked Event Nat) = pure (a - b) := if_pos h

theorem quotient_of_ne (h : b ≠ 0) : (quotient a b : Checked Event Nat) = pure (a / b) := if_neg h

end

variable (continues : State → Bool) (body : State → Checked Event (Turn State))

/-- `while (continues) body`, for fewer than `fuel` rounds. -/
def loop : Nat → State → Checked Event State
  | 0, _ => fault .endless
  | fuel + 1, s =>
      if continues s then
        body s >>= fun turn =>
          match turn with
          | .next s => loop fuel s
          | .leave s => pure s
      else pure s

variable {continues body} {s s' : State} {log : List Event} {fuel : Nat}

theorem loop_stop (hstop : continues s = false) : loop continues body (fuel + 1) s = pure s :=
  if_neg (Bool.eq_false_iff.mp hstop)

theorem loop_leave (hgo : continues s = true) (hround : body s = ⟨log, .ok (.leave s')⟩) :
    loop continues body (fuel + 1) s = ⟨log, .ok s'⟩ := by
  rw [loop, if_pos hgo, Logged.bind_of_ok (congrArg Logged.result hround), hround]
  exact congrArg (Logged.mk · _) (List.append_nil log)

theorem loop_next (hgo : continues s = true) (hround : body s = ⟨log, .ok (.next s')⟩) :
    loop continues body (fuel + 1) s =
      ⟨log ++ (loop continues body fuel s').log, (loop continues body fuel s').result⟩ := by
  rw [loop, if_pos hgo, Logged.bind_of_ok (congrArg Logged.result hround), hround]

/-- The loop takes `n` rounds through these states, and then the rest of it. -/
theorem loop_rounds (states : Nat → State) (logs : Nat → List Event) (n : Nat)
    (hgo : ∀ k < n, continues (states k) = true)
    (hround : ∀ k < n, body (states k) = ⟨logs k, .ok (.next (states (k + 1)))⟩) :
    loop continues body (fuel + n) (states 0) =
      ⟨(List.range n).flatMap logs ++ (loop continues body fuel (states n)).log,
        (loop continues body fuel (states n)).result⟩ := by
  induction n generalizing states logs with
  | zero => rfl
  | succ n ih =>
      have hrest := ih (fun k => states (k + 1)) (fun k => logs (k + 1))
        (fun k hk => hgo (k + 1) (Nat.succ_lt_succ hk))
        (fun k hk => hround (k + 1) (Nat.succ_lt_succ hk))
      rw [← Nat.add_assoc, loop_next (hgo 0 (Nat.succ_pos n)) (hround 0 (Nat.succ_pos n)), hrest,
        List.range_succ_eq_map, List.flatMap_cons, List.flatMap_map, List.append_assoc]

/-- A loop that takes `n` rounds and stops. -/
theorem loop_eq (states : Nat → State) (logs : Nat → List Event) (n : Nat)
    (hgo : ∀ k < n, continues (states k) = true)
    (hround : ∀ k < n, body (states k) = ⟨logs k, .ok (.next (states (k + 1)))⟩)
    (hstop : continues (states n) = false) (hfuel : n < fuel) :
    loop continues body fuel (states 0) = ⟨(List.range n).flatMap logs, .ok (states n)⟩ := by
  obtain ⟨spare, rfl⟩ := Nat.exists_eq_add_of_lt hfuel
  rw [show n + spare + 1 = spare + 1 + n by omega, loop_rounds states logs n hgo hround,
    loop_stop hstop]
  exact congrArg (Logged.mk · _) (List.append_nil _)

/-- A loop that takes `n` rounds and leaves in the next. -/
theorem loop_eq_leave (states : Nat → State) (logs : Nat → List Event) {last : State} (n : Nat)
    (hgo : ∀ k ≤ n, continues (states k) = true)
    (hround : ∀ k < n, body (states k) = ⟨logs k, .ok (.next (states (k + 1)))⟩)
    (hleave : body (states n) = ⟨log, .ok (.leave last)⟩) (hfuel : n < fuel) :
    loop continues body fuel (states 0) = ⟨(List.range n).flatMap logs ++ log, .ok last⟩ := by
  obtain ⟨spare, rfl⟩ := Nat.exists_eq_add_of_lt hfuel
  rw [show n + spare + 1 = spare + 1 + n by omega,
    loop_rounds states logs n (fun k hk => hgo k (Nat.le_of_lt hk)) hround,
    loop_leave (hgo n (Nat.le_refl n)) hleave]

theorem flatMap_nil_marks (n : Nat) : ((List.range n).flatMap fun _ => ([] : List Event)) = [] :=
  List.flatMap_eq_nil_iff.mpr fun _ _ => rfl

/-- A loop without marks that takes `n` rounds and stops. -/
theorem loop_pure (states : Nat → State) (n : Nat)
    (hgo : ∀ k < n, continues (states k) = true)
    (hround : ∀ k < n, body (states k) = pure (.next (states (k + 1))))
    (hstop : continues (states n) = false) (hfuel : n < fuel) :
    loop continues body fuel (states 0) = pure (states n) := by
  rw [loop_eq states (fun _ => []) n hgo hround hstop hfuel, flatMap_nil_marks]
  rfl

/-- A loop without marks that takes `n` rounds and leaves in the next. -/
theorem loop_pure_leave (states : Nat → State) {last : State} (n : Nat)
    (hgo : ∀ k ≤ n, continues (states k) = true)
    (hround : ∀ k < n, body (states k) = pure (.next (states (k + 1))))
    (hleave : body (states n) = pure (.leave last)) (hfuel : n < fuel) :
    loop continues body fuel (states 0) = pure last := by
  rw [loop_eq_leave states (fun _ => []) n hgo hround hleave hfuel, flatMap_nil_marks]
  rfl

/-- A round of a counting loop, which counts on unless it leaves. -/
def counting (stride : Nat) (body : Nat → State → Checked Event (Turn State)) (p : Nat × State) :
    Checked Event (Turn (Nat × State)) :=
  body p.1 p.2 >>= fun turn =>
    match turn with
    | .next s => int (p.1 + stride) >>= fun i => pure (.next (i, s))
    | .leave s => pure (.leave (p.1, s))

/-- `for (i = start; continues; i += stride) body`. -/
def forLoop (continues : Nat → Bool) (stride : Nat)
    (body : Nat → State → Checked Event (Turn State)) (fuel start : Nat) (s : State) :
    Checked Event State :=
  loop (fun p => continues p.1) (counting stride body) fuel (start, s) >>= fun p => pure p.2

variable {continues : Nat → Bool} {body : Nat → State → Checked Event (Turn State)}
  {stride start i : Nat}

theorem counting_next (hround : body i s = ⟨log, .ok (.next s')⟩) (hfit : i + stride < 2 ^ 31) :
    counting stride body (i, s) = ⟨log, .ok (.next (i + stride, s'))⟩ := by
  rw [counting, Logged.bind_of_ok (congrArg Logged.result hround), hround]
  simp only [int_of_lt hfit]
  exact congrArg (Logged.mk · _) (List.append_nil log)

theorem counting_leave (hround : body i s = ⟨log, .ok (.leave s')⟩) :
    counting stride body (i, s) = ⟨log, .ok (.leave (i, s'))⟩ := by
  rw [counting, Logged.bind_of_ok (congrArg Logged.result hround), hround]
  exact congrArg (Logged.mk · _) (List.append_nil log)

/-- The rounds of a counting loop, with the counter in the state. -/
theorem counting_round (states : Nat → State) (logs : Nat → List Event) {n k : Nat} (hk : k < n)
    (hround : body (start + k * stride) (states k) = ⟨logs k, .ok (.next (states (k + 1)))⟩)
    (hfit : start + n * stride < 2 ^ 31) :
    counting stride body (start + k * stride, states k) =
      ⟨logs k, .ok (.next (start + (k + 1) * stride, states (k + 1)))⟩ := by
  have hle : (k + 1) * stride ≤ n * stride := Nat.mul_le_mul_right stride hk
  rw [Nat.succ_mul] at hle
  rw [counting_next hround (by omega), Nat.succ_mul, Nat.add_assoc]

/-- A counting loop that takes `n` rounds and stops. -/
theorem forLoop_eq (states : Nat → State) (logs : Nat → List Event) (n : Nat)
    (hgo : ∀ k < n, continues (start + k * stride) = true)
    (hround : ∀ k < n, body (start + k * stride) (states k) =
      ⟨logs k, .ok (.next (states (k + 1)))⟩)
    (hstop : continues (start + n * stride) = false) (hfit : start + n * stride < 2 ^ 31)
    (hfuel : n < fuel) :
    forLoop continues stride body fuel start (states 0) =
      ⟨(List.range n).flatMap logs, .ok (states n)⟩ := by
  have hloop : loop (fun p => continues p.1) (counting stride body) fuel
      (start + 0 * stride, states 0) = _ :=
    loop_eq (fun k => (start + k * stride, states k)) logs n hgo
      (fun k hk => counting_round states logs hk (hround k hk) hfit) hstop hfuel
  rw [Nat.zero_mul, Nat.add_zero] at hloop
  rw [forLoop, hloop]
  exact congrArg (Logged.mk · _) (List.append_nil _)

/-- A counting loop without marks. -/
theorem forLoop_pure (states : Nat → State) (n : Nat)
    (hgo : ∀ k < n, continues (start + k * stride) = true)
    (hround : ∀ k < n, body (start + k * stride) (states k) = pure (.next (states (k + 1))))
    (hstop : continues (start + n * stride) = false) (hfit : start + n * stride < 2 ^ 31)
    (hfuel : n < fuel) :
    forLoop continues stride body fuel start (states 0) = pure (states n) := by
  rw [forLoop_eq states (fun _ => []) n hgo hround hstop hfit hfuel, flatMap_nil_marks]
  rfl

/-- A counting loop that takes `n` rounds without effect and leaves in the next. -/
theorem forLoop_leave {last : State} (n : Nat)
    (hgo : ∀ k ≤ n, continues (start + k * stride) = true)
    (hround : ∀ k < n, body (start + k * stride) s = pure (.next s))
    (hleave : body (start + n * stride) s = ⟨log, .ok (.leave last)⟩)
    (hfit : start + n * stride < 2 ^ 31) (hfuel : n < fuel) :
    forLoop continues stride body fuel start s = ⟨log, .ok last⟩ := by
  have hloop : loop (fun p => continues p.1) (counting stride body) fuel
      (start + 0 * stride, s) = _ :=
    loop_eq_leave (fun k => (start + k * stride, s)) (fun _ => []) n hgo
      (fun k hk => counting_round (fun _ => s) (fun _ => []) hk (hround k hk) hfit)
      (counting_leave hleave) hfuel
  rw [Nat.zero_mul, Nat.add_zero, flatMap_nil_marks, List.nil_append] at hloop
  rw [forLoop, hloop]
  exact congrArg (Logged.mk · _) (List.append_nil _)

/-- A search: the round of the first number that qualifies leaves, and no other has an effect. -/
theorem forLoop_find {qualifies : Nat → Bool} (logs : Nat → List Event) (last : Nat → State)
    (n : Nat) (hgo : ∀ k < n, continues (start + k) = true)
    (hround : ∀ k < n, body (start + k) s =
      if qualifies (start + k) then ⟨logs (start + k), .ok (.leave (last (start + k)))⟩
      else pure (.next s))
    (hstop : continues (start + n) = false) (hfit : start + n < 2 ^ 31) (hfuel : n < fuel) :
    forLoop continues 1 body fuel start s =
      ((List.range' start n).find? qualifies).elim (pure s) fun i => ⟨logs i, .ok (last i)⟩ := by
  cases hfound : (List.range' start n).find? qualifies with
  | none =>
      rw [List.find?_range'_eq_none] at hfound
      refine forLoop_pure (fun _ => s) n (fun k hk => ?_) (fun k hk => ?_) ?_ ?_ hfuel
      · rw [Nat.mul_one]
        exact hgo k hk
      · have hnot := hfound (start + k) (Nat.le_add_right start k) (Nat.add_lt_add_left hk start)
        rw [Nat.mul_one, hround k hk, if_neg (by simpa using hnot)]
      · rwa [Nat.mul_one]
      · rwa [Nat.mul_one]
  | some i =>
      rw [List.find?_range'_eq_some] at hfound
      obtain ⟨hqualifies, hmem, hbefore⟩ := hfound
      obtain ⟨k, hk, rfl⟩ : ∃ k < n, i = start + k := by
        rw [List.mem_range'_1] at hmem
        exact ⟨i - start, by omega, by omega⟩
      refine forLoop_leave k (fun j hj => ?_) (fun j hj => ?_) ?_ (by omega) (by omega)
      · rw [Nat.mul_one]
        exact hgo j (by omega)
      · have hnot := hbefore (start + j) (Nat.le_add_right start j) (Nat.add_lt_add_left hj start)
        rw [Nat.mul_one, hround j (by omega), if_neg (by simpa using hnot)]
      · rw [Nat.mul_one, hround k hk, if_pos hqualifies]

end Checked
