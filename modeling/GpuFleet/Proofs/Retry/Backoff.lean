import GpuFleet.Retry.Backoff
import Mathlib.Data.Nat.Fib.Basic

/-!
Delays in closed form. The delays since the start follow the Fibonacci sequence, times the least
delay, as far as the greatest one. That a delay which has been cut off goes into the next sum makes
no difference: the next one is cut off as well.
-/
namespace GpuFleet.Retry.Backoff

/-- The backoff from which `n` delays have been taken since the start. -/
def after (least greatest n : Nat) : Backoff where
  least := least
  greatest := greatest
  previous := min (least * Nat.fib n) greatest
  current := min (least * Nat.fib (n + 1)) greatest

variable {least greatest : Nat}

theorem after_zero (h : least ≤ greatest) :
    after least greatest 0 = ⟨least, greatest, 0, least⟩ := by
  simp [after, h]

theorem new_eq_after (least greatest : Nat) :
    new least greatest = after (max least 1) (max greatest (max least 1)) 0 := by
  rw [after_zero (Nat.le_max_right _ _), new]

theorem default_eq_after : default = after 5 300 0 := new_eq_after 5 300

theorem reset_after (h : least ≤ greatest) (n : Nat) :
    (after least greatest n).reset = after least greatest 0 := by
  rw [after_zero h]
  rfl

/-- A sum of two numbers that have been cut off is cut off as the sum of the numbers is. -/
private theorem min_add_min (a b m : Nat) : min (min a m + min b m) m = min (a + b) m := by
  omega

/-- A delay is the next one of the sequence. It never overflows, if the greatest one does not. -/
theorem next_after (hgreatest : greatest ≤ maxSeconds) (n : Nat) :
    (after least greatest n).next =
      (min (least * Nat.fib (n + 1)) greatest, after least greatest (n + 1)) := by
  have hsum : min (min (min (least * Nat.fib n) greatest + min (least * Nat.fib (n + 1)) greatest)
      maxSeconds) greatest = min (least * Nat.fib (n + 1 + 1)) greatest := by
    rw [Nat.min_assoc, Nat.min_eq_right hgreatest, min_add_min, Nat.fib_add_two, Nat.mul_add]
  simp only [next, after, hsum]

end GpuFleet.Retry.Backoff
