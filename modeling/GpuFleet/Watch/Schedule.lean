import Std.Data.ExtTreeMap

/-!
When policies are due for a pass. A pass waits for a quiet period after the request for it; requests
that come in before it is due move it, while those for a later time are dropped.
-/
namespace GpuFleet.Watch

/-- Seconds from a request to its pass. -/
def quietPeriod : Nat := 5

/-- The time at which each policy is due; a policy that awaits a change has none. -/
abbrev Schedule := Std.ExtTreeMap String Nat

namespace Schedule

/-- Asks for a pass at a time. -/
def request (key : String) (time : Nat) (s : Schedule) : Schedule :=
  match s[key]? with
  | some due => if due < time then s else s.insert key (time + quietPeriod)
  | none => s.insert key (time + quietPeriod)

/-- Asks for a pass for each of several policies. -/
def requestAll (keys : List String) (time : Nat) (s : Schedule) : Schedule :=
  keys.foldl (fun s key => s.request key time) s

/-- The policies that are due at a time. -/
def dueAt (time : Nat) (s : Schedule) : List String :=
  (s.toList.filter (·.2 = time)).map (·.1)

end Schedule

end GpuFleet.Watch
