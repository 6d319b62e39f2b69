import GpuFleet.Proofs.Retry.Backoff
import Mathlib.Data.Rat.Floor
import Mathlib.Tactic.Linarith

/-!
Delays in any course of calls. A caller takes delays from a backoff and sets it back as it likes;
what it gets is told by the number of delays that it has taken since it last set the backoff back,
and by the two durations that the backoff was made of.
-/
namespace GpuFleet

namespace Duration

/-- The length of the duration in seconds. -/
def inSeconds (d : Duration) : ℚ := d.seconds + d.nanos / 1000000000

theorem floor_inSeconds (d : Duration) : ⌊d.inSeconds⌋₊ = d.seconds := by
  have hnanos : (d.nanos : ℚ) < 1000000000 := by exact_mod_cast d.nanos_lt
  have hfraction : (d.nanos : ℚ) / 1000000000 < 1 := (div_lt_one (by norm_num)).mpr hnanos
  have hnonneg : (0 : ℚ) ≤ d.nanos / 1000000000 := by positivity
  rw [inSeconds, Nat.floor_eq_iff (by positivity)]
  constructor <;> linarith

end Duration

namespace Retry.Backoff

/-- What a caller asks of a backoff. -/
inductive Call where
  /-- The delay that is due. -/
  | next
  /-- A new start. -/
  | reset
deriving DecidableEq, Repr

/-- The backoff after a call. -/
def call (b : Backoff) : Call → Backoff
  | .next => b.next.2
  | .reset => b.reset

/-- The backoff after calls one after another. -/
def callAll (b : Backoff) (calls : List Call) : Backoff := calls.foldl call b

/-- The delays taken since the last new start. -/
def taken (calls : List Call) : Nat := (calls.reverse.takeWhile (· = .next)).length

/-- The first delay of a backoff: the whole seconds of the duration, at least one. -/
def first (least : Duration) : Nat := max 1 ⌊least.inSeconds⌋₊

/-- The delay that is not exceeded: the whole seconds of the duration, at least the first delay. -/
def limit (least greatest : Duration) : Nat := max (first least) ⌊greatest.inSeconds⌋₊

/-- The delay that the next call for one gets, when some calls have been made. -/
def delayAfter (least greatest : Duration) (calls : List Call) : Nat :=
  ((between least greatest).callAll calls).next.1

variable {least greatest : Duration} {calls : List Call}

theorem callAll_concat (b : Backoff) (calls : List Call) (c : Call) :
    b.callAll (calls ++ [c]) = (b.callAll calls).call c := List.foldl_concat ..

theorem taken_concat (calls : List Call) (c : Call) :
    taken (calls ++ [c]) = if c = .next then taken calls + 1 else 0 := by
  cases c <;> simp [taken]

theorem taken_append_replicate (calls : List Call) (n : Nat) :
    taken (calls ++ List.replicate n .next) = taken calls + n := by
  induction n with
  | zero => simp
  | succ n ih => rw [List.replicate_succ', ← List.append_assoc, taken_concat, ih]; rfl

theorem first_le_limit (least greatest : Duration) : first least ≤ limit least greatest :=
  Nat.le_max_left _ _

/-- Durations are counted in 64 bits, and so is the greatest delay. -/
theorem limit_le (least greatest : Duration) : limit least greatest ≤ maxSeconds := by
  have hleast := least.seconds_lt
  have hgreatest := greatest.seconds_lt
  have hone : 1 ≤ maxSeconds := by decide
  simp only [limit, first, Duration.floor_inSeconds]
  unfold maxSeconds at hone ⊢
  omega

theorem between_eq_after (least greatest : Duration) :
    between least greatest = after (first least) (limit least greatest) 0 := by
  rw [between, new_eq_after, limit, first, Duration.floor_inSeconds, Duration.floor_inSeconds,
    Nat.max_comm 1, Nat.max_comm greatest.seconds]

/-- A call leads from one backoff of the sequence to another. -/
theorem call_after {l g : Nat} (hle : l ≤ g) (hg : g ≤ maxSeconds) (n : Nat) (c : Call) :
    (after l g n).call c = after l g (if c = .next then n + 1 else 0) := by
  cases c with
  | next => rw [call, next_after hg, if_pos rfl]
  | reset => rw [call, reset_after hle, if_neg (by decide)]

/-- So does a whole course of calls: to the one that is told by the delays taken since the last new
start. -/
theorem callAll_between (least greatest : Duration) (calls : List Call) :
    (between least greatest).callAll calls =
      after (first least) (limit least greatest) (taken calls) := by
  induction calls using List.reverseRecOn with
  | nil => exact between_eq_after least greatest
  | append_singleton calls c ih =>
    rw [callAll_concat, ih, taken_concat, call_after (first_le_limit _ _) (limit_le _ _)]

theorem delayAfter_eq (least greatest : Duration) (calls : List Call) :
    delayAfter least greatest calls =
      min (first least * Nat.fib (taken calls + 1)) (limit least greatest) := by
  rw [delayAfter, callAll_between, next_after (limit_le _ _)]

/-- Whatever has been asked of a backoff before, the delays since the last new start follow the
Fibonacci sequence, in whole numbers without bound, times the first delay, as far as the limit. They
never decrease, never exceed the limit, and with it always fit in 64 bits. -/
theorem delays_follow_fibonacci (least greatest : Duration) (calls : List Call) :
    delayAfter least greatest calls =
        min (first least * Nat.fib (taken calls + 1)) (limit least greatest) ∧
      (∀ n, delayAfter least greatest calls ≤
        delayAfter least greatest (calls ++ List.replicate n .next)) ∧
      delayAfter least greatest calls ≤ limit least greatest ∧
      limit least greatest < Number.capacity 64 := by
  refine ⟨delayAfter_eq _ _ _, fun n => ?_, ?_, ?_⟩
  · rw [delayAfter_eq, delayAfter_eq, taken_append_replicate]
    have hfib : Nat.fib (taken calls + 1) ≤ Nat.fib (taken calls + n + 1) :=
      Nat.fib_mono (by omega)
    exact min_le_min_right _ (Nat.mul_le_mul_left _ hfib)
  · rw [delayAfter_eq]
    exact Nat.min_le_right _ _
  · have hle := limit_le least greatest
    have hpos : 0 < Number.capacity 64 := by decide
    unfold maxSeconds at hle
    omega

/-- Twice the first delay is more than 64 bits hold; what counts of the limit is whole seconds. -/
example : delayAfter ⟨9223372036854775809, 0, by decide, by decide⟩
    ⟨18446744073709551615, 999999999, by decide, by decide⟩ [.next, .reset, .next, .next] =
      18446744073709551615 := by decide

end Retry.Backoff

end GpuFleet
