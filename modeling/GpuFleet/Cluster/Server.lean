import GpuFleet.Cluster.Failure
import GpuFleet.Kube.DaemonSet
import GpuFleet.Kube.Node
import GpuFleet.NodeLabels.Patch
import GpuFleet.Policy.Wire

/-!
What the operator needs of a cluster. It works on any state that offers these calls.
-/
namespace GpuFleet.Cluster

open Kube (DaemonSet Node)
open Policy (ClusterPolicy Report)

/-- A computation on a cluster, which may fail; what it has written before stays. -/
abbrev Run (σ : Type) := ExceptT Failure (StateM σ)

/-- The calls to a cluster. -/
class Server (σ : Type) where
  listNodes : Run σ (List Node)
  patchNodeLabels (name : String) (patch : NodeLabels.Patch) : Run σ Unit
  /-- Nothing where there is no such DaemonSet. -/
  getDaemonSet? (ns name : String) : Run σ (Option DaemonSet)
  /-- Creates the DaemonSet, or replaces the one of its name. -/
  applyDaemonSet (d : DaemonSet) : Run σ Unit
  deleteDaemonSet (ns name : String) : Run σ Unit
  listPolicies : Run σ (List ClusterPolicy)
  writeStatus (name : String) (report : Report) : Run σ Unit

end GpuFleet.Cluster
