import GpuFleet.Manifest.Error
import GpuFleet.Misconfiguration

/-!
Why a pass of the operator fails.
-/
namespace GpuFleet.Cluster

/-- The calls that the operator makes to the cluster. -/
inductive Call where
  | listNodes
  | patchNodeLabels
  | getDaemonSet
  | applyDaemonSet
  | deleteDaemonSet
  | listPolicies
  | writeStatus
deriving DecidableEq, Repr

inductive Failure where
  | manifest (cause : Manifest.Error)
  | misconfigured (cause : Misconfiguration)
  /-- The cluster did not answer a call; the message is what it said instead. -/
  | outage (call : Call) (message : String)
deriving DecidableEq, Repr

namespace Failure

def message : Failure → String
  | .manifest cause => "Manifest error: " ++ cause.message
  | .misconfigured cause => "Invalid configuration: " ++ cause.message
  | .outage _ message => message

end Failure

end GpuFleet.Cluster
