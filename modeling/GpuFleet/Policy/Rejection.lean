import GpuFleet.NodeLabels.Vocabulary
import GpuFleet.Policy.Spec
import GpuFleet.Text.Quoted

/-!
Why the settings of a policy or of a node are rejected.
-/
namespace GpuFleet.Policy

/-- Where the name of a workload was given. -/
inductive WorkloadSource where
  /-- A name that stands for itself. -/
  | argument
  | nodeLabel
  | policyDefault
deriving DecidableEq, Repr

def WorkloadSource.description : WorkloadSource → String
  | .argument => "workload config"
  | .nodeLabel => "node label " ++ NodeLabels.workloadKey
  | .policyDefault => "ClusterPolicy sandboxWorkloads.defaultWorkload"

inductive Rejection where
  /-- The NRI plugin works through CDI. -/
  | nriPluginWithoutCdi
  | unknownWorkload (value : String) (source : WorkloadSource)
deriving DecidableEq, Repr

def Rejection.message : Rejection → String
  | .nriPluginWithoutCdi => "the NRI Plugin cannot be enabled when CDI is disabled"
  | .unknownWorkload value source =>
    "invalid workload config " ++ Text.quoted value ++ " from " ++ source.description

namespace Spec

/-- The reason for which the settings cannot be deployed, if there is one. -/
def rejection? (spec : Spec) : Option Rejection :=
  if spec.cdi.isNriPluginEnabled && !spec.cdi.isEnabled then some .nriPluginWithoutCdi else none

end Spec

end GpuFleet.Policy
