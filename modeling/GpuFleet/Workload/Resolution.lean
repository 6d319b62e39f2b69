import GpuFleet.Kube.Labels
import GpuFleet.Policy.Rejection
import GpuFleet.Workload.Basic

/-!
The workload that is in force on a node.
-/
namespace GpuFleet.Workload

open Policy (Rejection WorkloadSource)

/-- The workload of a name; a name that is none is rejected, never replaced by a default. -/
def named (name : String) (source : WorkloadSource) : Except Rejection Workload :=
  match ofName? name with
  | some w => .ok w
  | none => .error (.unknownWorkload name source)

/-- Containers where sandbox workloads are off. Otherwise the node's label decides, and the policy's
setting where the node has no such label. -/
def resolve (labels : Kube.Labels) (sandbox : Policy.SandboxWorkloads) (sandboxEnabled : Bool) :
    Except Rejection Workload :=
  if sandboxEnabled then
    match labels[NodeLabels.workloadKey]? with
    | some name => named name .nodeLabel
    | none => named sandbox.workloadName .policyDefault
  else .ok .container

end GpuFleet.Workload
