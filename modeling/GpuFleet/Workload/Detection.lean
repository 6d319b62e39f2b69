import GpuFleet.Kube.Node
import GpuFleet.NodeLabels.Traits
import GpuFleet.Policy.Spec

/-!
The container runtime of the cluster, as the GPU nodes report it.
-/
namespace GpuFleet.Workload

open Policy (Runtime)

/-- What stands before the first `://`, if there is one. -/
def beforeSeparator? : List Char → Option (List Char)
  | ':' :: '/' :: '/' :: _ => some []
  | c :: cs => (beforeSeparator? cs).map (c :: ·)
  | [] => none

/-- The runtime that a version text such as `containerd://1.7.2` names. -/
def runtimeOfVersion? (version : String) : Option Runtime := do
  match String.ofList (← beforeSeparator? version.toList) with
  | "docker" => some .docker
  | "containerd" => some .containerd
  | "cri-o" => some .crio
  | _ => none

/-- The runtime that the node reports, if it is a known one. -/
def reportedRuntime? (node : Kube.Node) : Option Runtime := do
  runtimeOfVersion? (← (← node.status).nodeInfo).containerRuntimeVersion

/-- Discovery or the operator counts the node among the GPU nodes. -/
def isGpuNode (node : Kube.Node) : Bool :=
  NodeLabels.hasGpu node.metadata.labelMap || NodeLabels.isMarkedGpu node.metadata.labelMap

/-- The runtime of the first GPU node that reports a known one. -/
def clusterRuntime (nodes : List Kube.Node) (default : Runtime) : Runtime :=
  ((nodes.filter isGpuNode).findSome? reportedRuntime?).getD default

end GpuFleet.Workload
