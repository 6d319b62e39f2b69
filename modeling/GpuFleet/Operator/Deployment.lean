import GpuFleet.Cluster.Server
import GpuFleet.Drift.Fingerprint
import GpuFleet.Manifest.Source
import GpuFleet.Operand.Plan

/-!
Deployment of the operands. The DaemonSets of an enabled operand are applied where they have
changed; those of a disabled operand are deleted where they are the operator's own.
-/
namespace GpuFleet

/-- The operator: the namespace in which it works, and its manifests. -/
structure Operator where
  ns : String
  manifests : Manifest.Source

namespace Operator

open Cluster (Run Server)
open Kube (DaemonSet)

/-- Applies a DaemonSet unless the live one carries its fingerprint already; says whether it has. -/
def applyIfChanged [Server σ] (op : Operator) (d : DaemonSet) : Run σ Bool := do
  match d.metadata.name with
  | none => throw (.misconfigured .daemonSetWithoutName)
  | some name =>
    let live ← Server.getDaemonSet? op.ns name
    match Drift.decision (Drift.fingerprint d) (live.bind (·.metadata.annotations)) with
    | .skip => return false
    | .apply =>
      Server.applyDaemonSet (Drift.stamp d)
      return true

/-- The operator has made the object. -/
def isManaged (d : DaemonSet) : Bool :=
  d.metadata.labelMap[Manifest.managedByKey]? == some Manifest.managedByValue

/-- Deletes the live DaemonSet of the name if the operator has made it; says whether it has. -/
def deleteIfPresent [Server σ] (op : Operator) (d : DaemonSet) : Run σ Bool := do
  match d.metadata.name with
  | none => return false
  | some name =>
    match ← Server.getDaemonSet? op.ns name with
    | none => return false
    | some live =>
      if isManaged live then
        Server.deleteDaemonSet op.ns name
        return true
      else return false

/-- What the manifests of an operand are rendered with. -/
def context (op : Operator) (plan : Plan) (runtime : Policy.Runtime) (o : Operand) :
    Manifest.Context :=
  ⟨op.ns, runtime, o.component?.map plan.spec.component⟩

/-- The rendered DaemonSets of an operand. -/
def desired [Server σ] (op : Operator) (plan : Plan) (runtime : Policy.Runtime) (o : Operand) :
    Run σ (List DaemonSet) :=
  match op.manifests.desired o (op.context plan runtime o) with
  | .ok ds => return ds
  | .error e => throw (.manifest e)

/-- Applies a DaemonSet that is wanted, and deletes one that is not. -/
def settle [Server σ] (op : Operator) (wanted : Bool) (d : DaemonSet) : Run σ Unit := do
  let _ ← if wanted then op.applyIfChanged d else op.deleteIfPresent d

/-- Deploys an operand, or takes it down. -/
def deployOperand [Server σ] (op : Operator) (plan : Plan) (runtime : Policy.Runtime)
    (o : Operand) : Run σ Unit := do
  let ds ← op.desired plan runtime o
  ds.forM (op.settle (plan.isEnabled o))

/-- Deploys every operand in its turn. -/
def deploy [Server σ] (op : Operator) (plan : Plan) (runtime : Policy.Runtime) : Run σ Unit :=
  Operand.all.forM (op.deployOperand plan runtime)

end Operator

end GpuFleet
