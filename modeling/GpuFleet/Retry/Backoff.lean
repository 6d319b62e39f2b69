import GpuFleet.Time.Duration

/-!
Delays between attempts, in whole seconds. They grow along the Fibonacci sequence, from a least
delay up to a greatest one.
-/
namespace GpuFleet.Retry

/-- Seconds are counted in 64 bits. -/
def maxSeconds : Nat := Number.capacity 64 - 1

/-- The delay of the next attempt, and that of the attempt before. -/
structure Backoff where
  least : Nat
  greatest : Nat
  previous : Nat
  current : Nat
deriving DecidableEq, Repr

namespace Backoff

/-- Starts at `least`, which counts as one where it is zero, and stays below `greatest`, unless that
is the lesser of the two. -/
def new (least greatest : Nat) : Backoff :=
  let least := max least 1
  ⟨least, max greatest least, 0, least⟩

/-- Starts at one duration and stays below another. Of either only the whole seconds count. -/
def between (least greatest : Duration) : Backoff := new least.seconds greatest.seconds

/-- From five seconds to five minutes. -/
def default : Backoff := new 5 300

/-- The delay that is due, and the backoff after it: the next delay is the sum of the last two. -/
def next (b : Backoff) : Nat × Backoff :=
  let sum := min (b.previous + b.current) maxSeconds
  (b.current, { b with previous := b.current, current := min sum b.greatest })

/-- Back to the start. -/
def reset (b : Backoff) : Backoff := { b with previous := 0, current := b.least }

end Backoff

end GpuFleet.Retry
