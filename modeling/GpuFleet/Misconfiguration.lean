import GpuFleet.Text.Quoted

/-!
Faults of configuration: of the operator's environment, of a manifest, or of an object that is named
but not there.
-/
namespace GpuFleet

inductive Misconfiguration where
  | badInterval (text : String)
  | policyWithoutName
  | daemonSetWithoutName
  | daemonSetWithoutNamespace (name : String)
  | unknownNode (name : String)
  | unknownPolicy (name : String)
deriving DecidableEq, Repr

namespace Misconfiguration

def message : Misconfiguration → String
  | .badInterval text =>
    "RECONCILE_INTERVAL_SECS must be a positive integer, got " ++ Text.quoted text
  | .policyWithoutName => "ClusterPolicy missing name"
  | .daemonSetWithoutName => "DaemonSet manifest without a name"
  | .daemonSetWithoutNamespace name => "DaemonSet " ++ name ++ " without a namespace"
  | .unknownNode name => "node " ++ name ++ " not found"
  | .unknownPolicy name => "ClusterPolicy " ++ name ++ " not found"

end Misconfiguration

end GpuFleet
