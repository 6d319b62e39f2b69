import GpuFleet.Number.Width

/-!
Lengths of time, to the nanosecond.
-/
namespace GpuFleet

/-- Whole seconds, counted in 64 bits, and nanoseconds that make up less than one more. -/
structure Duration where
  seconds : Nat
  nanos : Nat := 0
  seconds_lt : seconds < Number.capacity 64 := by decide
  nanos_lt : nanos < 1000000000 := by decide
deriving DecidableEq, Repr

namespace Duration

/-- The duration of so many seconds and nanoseconds, if they make one. -/
def ofParts? (seconds nanos : Nat) : Option Duration :=
  if h : seconds < Number.capacity 64 ∧ nanos < 1000000000 then
    some ⟨seconds, nanos, h.1, h.2⟩
  else none

end Duration

end GpuFleet
