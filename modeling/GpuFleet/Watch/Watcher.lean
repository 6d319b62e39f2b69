import GpuFleet.Cluster.Rehearsal
import GpuFleet.Operator.Pass
import GpuFleet.Retry.Record
import GpuFleet.Watch.Schedule

/-!
The operator in operation: it hears of nodes and policies that come, change or go, and makes its
passes, one at a time. Time is counted in seconds, and work takes none.

A pass sees the copy of its policy that the last event brought, so that it does not see the status
that earlier passes have written.
-/
namespace GpuFleet.Watch

open Cluster (Run Server Store Rehearsal Write)
open Kube (Node)
open Policy (ClusterPolicy State)

/-- A state around a store in memory, on which what happens outside the operator can be played. -/
class InMemory (σ : Type) extends Server σ where
  store : σ → Store
  mapStore : (Store → Store) → σ → σ

instance : InMemory Store where
  store := id
  mapStore f := f

instance : InMemory Rehearsal where
  store := Rehearsal.store
  mapStore := Rehearsal.mapStore

/-- What the operator hears of. -/
inductive Event where
  /-- A node has come or changed. -/
  | nodeSeen (node : Node)
  | nodeGone (node : Node)
  /-- A policy has come or changed. -/
  | policySeen (policy : ClusterPolicy)
  | policyGone (policy : ClusterPolicy)

/-- What an event does to the cluster. -/
def Event.effect : Event → Store → Store
  | .nodeSeen n => Store.putNode n
  | .nodeGone n => Store.removeNode (n.metadata.name.getD "")
  | .policySeen p => Store.putPolicy p
  | .policyGone p => Store.removePolicy p.name

/-- What the operator has done. -/
inductive Entry where
  | pass (time : Nat)
  | write (write : Write)

namespace Entry

def toJson : Entry → Json
  | .pass time => .object [("write", .string "pass"), ("at", .int time)]
  | .write w => w.toJson

end Entry

/-- An operator in operation. -/
structure Watcher (σ : Type) where
  operator : Operator
  /-- Seconds from a pass that did not fail to the request for the next one. -/
  interval : Nat
  cluster : σ
  retries : Retry.Record := ∅
  /-- The policies as the last events have brought them. -/
  copies : Std.ExtTreeMap String ClusterPolicy := ∅
  schedule : Schedule := ∅
  /-- What is going to happen, in order. -/
  ahead : List (Nat × Event) := []
  log : List Entry := []

namespace Watcher

variable {σ : Type} [InMemory σ]

/-- At the start every policy that is there asks for a pass. -/
def start (operator : Operator) (interval : Nat) (cluster : σ) (retries : Retry.Record)
    (events : List (Nat × Event)) : Watcher σ :=
  let copies := (InMemory.store cluster).policies
  { operator, interval, cluster, retries, copies
    schedule := Schedule.requestAll copies.keys 0 ∅
    ahead := events.mergeSort fun a b => a.1 ≤ b.1 }

/-- An event happens. One of a policy asks for a pass for it, unless it is gone; one of a node asks
for a pass for every policy. -/
def hear (time : Nat) (e : Event) (w : Watcher σ) : Watcher σ :=
  let w := { w with cluster := InMemory.mapStore e.effect w.cluster }
  match e with
  | .policySeen p =>
    { w with copies := w.copies.insert p.name p, schedule := w.schedule.request p.name time }
  | .policyGone p => { w with copies := w.copies.erase p.name }
  | .nodeSeen _ | .nodeGone _ => { w with schedule := w.schedule.requestAll w.copies.keys time }

/-- What follows from the outcome of a pass, for which the policy is no longer due: a policy that is
ignored awaits a change, a failure is followed by another attempt, and any other policy is looked at
again after the interval. -/
def settle (time : Nat) (key : String) (outcome : Except Cluster.Failure State)
    (w : Watcher σ) : Watcher σ :=
  let w := { w with schedule := w.schedule.erase key }
  match outcome with
  | .ok .ignored => { w with retries := w.retries.forgive key }
  | .ok .ready | .ok .notReady =>
    { w with
      retries := w.retries.forgive key
      schedule := w.schedule.request key (time + w.interval) }
  | .error _ =>
    let ((delay, _), retries) := (w.retries.noteError key).delay key
    { w with retries, schedule := w.schedule.request key (time + delay) }

/-- A pass for a policy that is due, if it is still there. A policy without a name fails before it
does anything. -/
def runPass (time : Nat) (w : Watcher σ) (key : String) : Watcher σ :=
  match w.copies[key]? with
  | none => { w with schedule := w.schedule.erase key }
  | some policy =>
    let (outcome, cluster) := (w.operator.pass policy).run.run w.cluster
    let heading := if policy.metadata.name.isSome then [Entry.pass time] else []
    let writes := (InMemory.store cluster).log.map Entry.write
    let cluster := InMemory.mapStore (fun s => s.takeLog.2) cluster
    { w with cluster, log := w.log ++ heading ++ writes }.settle time key outcome

/-- The next time at which anything happens. -/
def next? (w : Watcher σ) : Option Nat :=
  ((w.ahead.head?.map (·.1)).toList ++ w.schedule.values).min?

/-- Everything that happens at a time: first the events, then the passes. -/
def advance (time : Nat) (w : Watcher σ) : Watcher σ :=
  let (now, later) := w.ahead.span (·.1 ≤ time)
  let w := now.foldl (fun w (_, e) => w.hear time e) { w with ahead := later }
  (w.schedule.dueAt time).foldl (runPass time) w

/-- Everything that happens up to the horizon. Whatever happens at a time asks for passes after it
only, so that there are no more steps than seconds. -/
def runFor : (steps : Nat) → (horizon : Nat) → Watcher σ → Watcher σ
  | 0, _, w => w
  | steps + 1, horizon, w =>
    match w.next? with
    | none => w
    | some time => if horizon < time then w else runFor steps horizon (w.advance time)

/-- What the operator does up to the horizon. -/
def runUntil (horizon : Nat) (w : Watcher σ) : List Entry :=
  (w.runFor (horizon + 1) horizon).log

end Watcher

end GpuFleet.Watch
