import GpuFleet.Time.Rfc3339

/-!
The status of a cluster policy, and when it is written anew.
-/
namespace GpuFleet.Policy

/-- The overall state of a policy. -/
inductive State where
  /-- Everything that is enabled has been applied. -/
  | ready
  /-- A pass did not complete. -/
  | notReady
  /-- Another policy is in charge. -/
  | ignored
deriving DecidableEq, Repr

namespace State

def all : List State := [.ready, .notReady, .ignored]

def name : State → String
  | .ready => "ready"
  | .notReady => "notReady"
  | .ignored => "ignored"

def ofName? (s : String) : Option State := all.find? (·.name = s)

end State

structure Status where
  state : State
  /-- The namespace of the operands. -/
  ns : Option String := none
  error : Option String := none
  lastTransition : Option Instant := none
deriving DecidableEq, Repr

/-- The time of a transition as a report gives it: the time of writing, or one that is known. -/
inductive Stamp where
  | now
  | kept (time : Option Instant)
deriving DecidableEq, Repr

/-- What a pass has to say about a policy. -/
structure Report where
  state : State
  ns : String
  error : Option String
  transition : Stamp
deriving DecidableEq, Repr

/-- The status that a report leaves when it is written at `time`. -/
def Report.written (r : Report) (time : Instant) : Status where
  state := r.state
  ns := some r.ns
  error := r.error
  lastTransition := match r.transition with
    | .now => some time
    | .kept t => t

namespace Status

/-- The stored status says something else than `state`, `ns` and `error`. -/
def isOutdated (current : Option Status) (state : State) (ns : String) (error : Option String) :
    Bool :=
  match current with
  | none => true
  | some s => s.state != state || s.ns != some ns || s.error != error

/-- The report that is due, if one is. The time of the last transition moves only with the state. -/
def report? (current : Option Status) (state : State) (ns : String) (error : Option String) :
    Option Report :=
  if isOutdated current state ns error then
    some {
      state, ns, error
      transition := match current with
        | some s => if s.state = state then .kept s.lastTransition else .now
        | none => .now }
  else none

end Status

end GpuFleet.Policy
