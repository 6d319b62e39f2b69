import GpuFleet.NodeLabels.Edit
import GpuFleet.NodeLabels.Traits
import GpuFleet.Operand.Plan
import GpuFleet.Workload.Resolution

/-!
The labels that a node should carry. The operator adds the deploy labels that the node's workload
calls for and takes the others away. It never overwrites the value of a deploy label that is there,
so that an administrator can keep an operand off a node.
-/
namespace GpuFleet.NodeLabels

open Kube (Labels)
open Policy (Rejection)

/-- The keys of the deploy labels. -/
def deployKeys : List String := DeployLabel.all.map DeployLabel.key

/-- The labels without any deploy label. -/
def withoutDeploy (labels : Labels) : Edit := (Edit.mk labels false).removeAll deployKeys

/-- How an update ends: the labels as it leaves them, and whether that is a change. Where the
settings are rejected the labels are those of a half-done update, and not to be used. -/
structure Outcome where
  labels : Labels
  verdict : Except Rejection Bool

namespace Outcome

def ofEdit (e : Edit) : Outcome := ⟨e.labels, .ok e.changed⟩

/-- The new labels of a node whose labels have to change. -/
def change? (o : Outcome) : Option Labels :=
  match o.verdict with
  | .ok true => some o.labels
  | .ok false | .error _ => none

end Outcome

/-- The deploy labels of a workload, that of the MIG manager apart: those it calls for added, the
others removed. -/
def settleDeploy (e : Edit) (wanted : List DeployLabel) : Edit :=
  let surplus := DeployLabel.all.filter fun l => l != .migManager && !wanted.contains l
  (e.removeAll (surplus.map DeployLabel.key)).addAllMissing (wanted.map DeployLabel.key) "true"

/-- The labels of the MIG manager: it runs where containers use a GPU that can be partitioned. Where
it is pinned off nobody would act on a partitioning, so none is asked for. -/
def settleMig (e : Edit) (workload : Workload) : Edit :=
  if workload = .container ∧ isMigCapable e.labels then
    let e := e.addMissing DeployLabel.migManager.key "true"
    if hasMigManager e.labels then e.addMissing migConfigKey migConfigDefault else e
  else e.remove DeployLabel.migManager.key

/-- The mark of a GPU node, if it is missing. -/
def mark (labels : Labels) : Edit :=
  if isMarkedGpu labels then ⟨labels, false⟩ else (Edit.mk labels false).set gpuPresentKey "true"

/-- Brings a node's labels in line with its hardware and the plan. A node whose GPU has gone keeps
the mark, as false, so that nothing selects the node by it any more. -/
def update (plan : Plan) (labels : Labels) : Outcome :=
  if hasGpu labels then
    let marked := mark labels
    if areOperandsDisabled marked.labels then .ofEdit (marked.removeAll deployKeys)
    else match Workload.resolve marked.labels plan.spec.sandbox plan.sandboxEnabled with
      | .error r => ⟨marked.labels, .error r⟩
      | .ok w => .ofEdit (settleMig (settleDeploy marked (w.deployLabels plan.sandboxMode)) w)
  else if isMarkedGpu labels then
    .ofEdit (((Edit.mk labels false).set gpuPresentKey "false").removeAll deployKeys)
  else ⟨labels, .ok false⟩

end GpuFleet.NodeLabels
