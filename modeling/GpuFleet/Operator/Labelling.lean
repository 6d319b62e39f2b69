import GpuFleet.Cluster.Server
import GpuFleet.NodeLabels.Update

/-!
Labelling of nodes: every node's deploy labels are brought in line with the plan. A node is written
only if its labels change.
-/
namespace GpuFleet.Operator

open Cluster (Run Server)

/-- The patch that a node is due. A node without a name, and one whose settings are rejected, gets
none. -/
def duePatch? (plan : Plan) (node : Kube.Node) : Option (String × NodeLabels.Patch) := do
  let name ← node.metadata.name
  let old := node.metadata.labelMap
  let new ← (NodeLabels.update plan old).change?
  some (name, ← NodeLabels.Patch.between? old new)

/-- Patches one node after another, and counts those that were due a patch. -/
def labelNodes [Server σ] (plan : Plan) (nodes : List Kube.Node) : Run σ Nat := do
  let due := nodes.filterMap (duePatch? plan)
  due.forM fun (name, patch) => Server.patchNodeLabels name patch
  return due.length

end GpuFleet.Operator
