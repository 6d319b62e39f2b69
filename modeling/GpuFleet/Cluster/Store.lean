import GpuFleet.Cluster.Server
import GpuFleet.Cluster.Write
import Std.Data.ExtTreeMap

/-!
A cluster in memory: its objects by name, and a log of what has been written. Lists are in the order
of the names.
-/
namespace GpuFleet.Cluster

open Kube (DaemonSet Node)
open Policy (ClusterPolicy Report)

/-- The name of an object in a namespace. -/
structure ObjectKey where
  ns : String
  name : String
deriving DecidableEq, Repr

namespace ObjectKey

instance : Ord ObjectKey := ⟨compareLex (compareOn (·.ns)) (compareOn (·.name))⟩

instance : Std.TransOrd ObjectKey :=
  inferInstanceAs (Std.TransCmp (compareLex (compareOn ObjectKey.ns) (compareOn ObjectKey.name)))

instance : Std.LawfulEqOrd ObjectKey where
  eq_of_compare {a b} h := by
    have h : (compare a.ns b.ns).then (compare a.name b.name) = .eq := h
    rw [Ordering.then_eq_eq, Std.LawfulEqOrd.compare_eq_iff_eq,
      Std.LawfulEqOrd.compare_eq_iff_eq] at h
    cases a
    cases b
    simp_all

/-- The key of a DaemonSet; what is unset counts as empty. -/
def ofDaemonSet (d : DaemonSet) : ObjectKey := ⟨d.metadata.ns.getD "", d.metadata.name.getD ""⟩

end ObjectKey

structure Store where
  nodes : Std.ExtTreeMap String Node := ∅
  daemonSets : Std.ExtTreeMap ObjectKey DaemonSet := ∅
  policies : Std.ExtTreeMap String ClusterPolicy := ∅
  /-- The number of transitions stamped so far, which is the store's clock. -/
  stamps : Nat := 0
  /-- What has been written, the latest last. -/
  log : List Write := []

namespace Store

def putNode (n : Node) (s : Store) : Store :=
  { s with nodes := s.nodes.insert (n.metadata.name.getD "") n }

def putDaemonSet (d : DaemonSet) (s : Store) : Store :=
  { s with daemonSets := s.daemonSets.insert (.ofDaemonSet d) d }

def putPolicy (p : ClusterPolicy) (s : Store) : Store :=
  { s with policies := s.policies.insert p.name p }

def removeNode (name : String) (s : Store) : Store := { s with nodes := s.nodes.erase name }

def removePolicy (name : String) (s : Store) : Store :=
  { s with policies := s.policies.erase name }

def note (w : Write) (s : Store) : Store := { s with log := s.log ++ [w] }

/-- The start of 2001, at which the clock is zero. -/
def epoch : Instant := ⟨978307200, 0⟩

/-- The reading of the clock. -/
def time (s : Store) : Instant := ⟨epoch.seconds + s.stamps, 0⟩

/-- A report of a transition moves the clock on. -/
def tick (report : Report) (s : Store) : Store :=
  match report.transition with
  | .now => { s with stamps := s.stamps + 1 }
  | .kept _ => s

/-- The log, and the store with an empty one. -/
def takeLog (s : Store) : List Write × Store := (s.log, { s with log := [] })

instance : Server Store where
  listNodes := do return (← get).nodes.values
  patchNodeLabels name patch := do
    match (← get).nodes[name]? with
    | none => throw (.misconfigured (.unknownNode name))
    | some n =>
      modify fun s =>
        { s with nodes := s.nodes.insert name (n.mapLabels patch.apply) }.note
          (.nodeLabels name patch)
  getDaemonSet? ns name := do return (← get).daemonSets[ObjectKey.mk ns name]?
  applyDaemonSet d := modify fun s => (s.putDaemonSet d).note (.apply d)
  deleteDaemonSet ns name :=
    modify fun s =>
      { s with daemonSets := s.daemonSets.erase ⟨ns, name⟩ }.note (.delete ns name)
  listPolicies := do return (← get).policies.values
  writeStatus name report := do
    modify (tick report)
    let s ← get
    match s.policies[name]? with
    | none => throw (.misconfigured (.unknownPolicy name))
    | some p =>
      let p := { p with status := some (report.written s.time) }
      set ({ s with policies := s.policies.insert name p }.note (.status name report))

end Store

end GpuFleet.Cluster
