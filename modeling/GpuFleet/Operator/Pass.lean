import GpuFleet.Operator.Deployment
import GpuFleet.Operator.Labelling
import GpuFleet.Policy.Authority
import GpuFleet.Policy.Rejection
import GpuFleet.Workload.Detection

/-!
A pass of the operator for one policy. The policy in charge is carried out: nodes are labelled, the
operands deployed, and the outcome is reported in its status. Every other policy is only told that
it is ignored.
-/
namespace GpuFleet.Operator

open Cluster (Run Server Failure)
open Policy (ClusterPolicy State)

/-- Reports on a policy, if its status says something else. -/
def report [Server σ] (op : Operator) (policy : ClusterPolicy) (state : State)
    (error : Option String) : Run σ Unit :=
  match Policy.Status.report? policy.status state op.ns error with
  | none => return ()
  | some report => Server.writeStatus policy.name report

/-- Reports a failure on a policy, and fails with it, whether it could be reported or not. -/
def reportFailure [Server σ] (op : Operator) (policy : ClusterPolicy) (e : Failure) :
    Run σ Unit := do
  tryCatch (op.report policy .notReady (some e.message)) fun _ => return ()
  throw e

/-- Carries out a policy. -/
def carryOut [Server σ] (op : Operator) (policy : ClusterPolicy) : Run σ Unit := do
  let plan := Plan.ofSpec policy.spec
  let nodes ← Server.listNodes
  let _ ← labelNodes plan nodes
  let runtime := Workload.clusterRuntime nodes policy.spec.defaultRuntime
  tryCatch (op.deploy plan runtime) (op.reportFailure policy)

/-- A pass for a policy, and the state that it reports. A policy whose settings are rejected is not
ready, and nothing is done for it. -/
def pass [Server σ] (op : Operator) (policy : ClusterPolicy) : Run σ State := do
  match policy.metadata.name with
  | none => throw (.misconfigured .policyWithoutName)
  | some name =>
    let policies ← Server.listPolicies
    let inCharge := (Policy.oldest? policies).all (·.metadata.name == some name)
    let (state, error) ←
      if !inCharge then pure (State.ignored, none)
      else match policy.spec.rejection? with
        | some r => pure (State.notReady, some r.message)
        | none => do
          op.carryOut policy
          pure (State.ready, none)
    op.report policy state error
    return state

end GpuFleet.Operator
