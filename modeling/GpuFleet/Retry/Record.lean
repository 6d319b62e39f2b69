import GpuFleet.Retry.Backoff
import Std.Data.ExtTreeMap

/-!
What is remembered of failed passes, for each policy on its own.
-/
namespace GpuFleet.Retry

/-- The failures since the last success, counted in 32 bits, and the delay that is due after the
next one. -/
structure Entry where
  backoff : Backoff := .default
  errors : UInt32 := 0
deriving DecidableEq, Repr

/-- Entries by policy name. -/
abbrev Record := Std.ExtTreeMap String Entry

namespace Record

/-- A policy without an entry has not failed. -/
def entry (r : Record) (key : String) : Entry := r.getD key {}

/-- Counts a failure. -/
def noteError (r : Record) (key : String) : Record :=
  let e := r.entry key
  r.insert key { e with errors := e.errors + 1 }

/-- Forgets the failures of a policy after a success. -/
def forgive (r : Record) (key : String) : Record :=
  match r[key]? with
  | some e => r.insert key { backoff := e.backoff.reset, errors := 0 }
  | none => r

/-- The delay that is due for the policy, in seconds, with the failures that have led to it. -/
def delay (r : Record) (key : String) : (Nat × UInt32) × Record :=
  let e := r.entry key
  let (seconds, backoff) := e.backoff.next
  ((seconds, e.errors), r.insert key { e with backoff })

end Record

end GpuFleet.Retry
