import GpuFleet.Kube.DaemonSet
import GpuFleet.NodeLabels.Patch
import GpuFleet.Policy.Wire

/-!
What the operator writes to a cluster.
-/
namespace GpuFleet.Cluster

inductive Write where
  | nodeLabels (node : String) (patch : NodeLabels.Patch)
  | apply (daemonSet : Kube.DaemonSet)
  | delete (ns name : String)
  | status (policy : String) (report : Policy.Report)
deriving DecidableEq, Repr

end GpuFleet.Cluster

namespace GpuFleet.Policy

/-- A report as its status is written; the time of writing stands as a word. -/
def Report.toJson (r : Report) : Json :=
  .object [
    ("state", .string r.state.name),
    ("namespace", .string r.ns),
    ("error", Status.textOrNull r.error),
    ("lastTransition", match r.transition with
      | .now => .string "<now>"
      | .kept t => Status.textOrNull (t.map Instant.text))]

end GpuFleet.Policy

namespace GpuFleet.Cluster.Write

def toJson : Write → Json
  | .nodeLabels node patch => .object [
      ("write", .string "node_labels"), ("node", .string node), ("patch", patch.toJson)]
  | .apply d => .object [("write", .string "apply_daemonset"), ("daemonset", d.toJson)]
  | .delete ns name => .object [
      ("write", .string "delete_daemonset"), ("namespace", .string ns), ("name", .string name)]
  | .status policy report => .object [
      ("write", .string "policy_status"), ("name", .string policy), ("status", report.toJson)]

end GpuFleet.Cluster.Write
