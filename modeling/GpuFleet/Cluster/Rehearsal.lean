import GpuFleet.Cluster.Store

/-!
A cluster in memory that fails on demand: for each call there is a number of times that it goes
unanswered from now on.
-/
namespace GpuFleet.Cluster

structure Rehearsal where
  store : Store := {}
  /-- How often a call fails before it is answered again. -/
  outages : Call → Nat := fun _ => 0
  /-- What is said of a call that fails. -/
  complaint : Call → String := fun _ => ""

namespace Rehearsal

/-- The rehearsal in which the next `times` calls of a kind fail. -/
def fail (call : Call) (times : Nat) (r : Rehearsal) : Rehearsal :=
  { r with outages := fun c => if c = call then times else r.outages c }

/-- The rehearsal with another store. -/
def mapStore (f : Store → Store) (r : Rehearsal) : Rehearsal := { r with store := f r.store }

/-- A call to the store, if it is answered. -/
def guarded (call : Call) (act : Run Store α) : Run Rehearsal α := do
  let r ← get
  match r.outages call with
  | times + 1 =>
    set (r.fail call times)
    throw (.outage call (r.complaint call))
  | 0 =>
    let (result, store) := act.run.run r.store
    set { r with store }
    match result with
    | .ok v => return v
    | .error e => throw e

instance : Server Rehearsal where
  listNodes := guarded .listNodes Server.listNodes
  patchNodeLabels name patch := guarded .patchNodeLabels (Server.patchNodeLabels name patch)
  getDaemonSet? ns name := guarded .getDaemonSet (Server.getDaemonSet? ns name)
  applyDaemonSet d := guarded .applyDaemonSet (Server.applyDaemonSet d)
  deleteDaemonSet ns name := guarded .deleteDaemonSet (Server.deleteDaemonSet ns name)
  listPolicies := guarded .listPolicies Server.listPolicies
  writeStatus name report := guarded .writeStatus (Server.writeStatus name report)

end Rehearsal

end GpuFleet.Cluster
