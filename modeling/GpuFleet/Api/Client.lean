import GpuFleet.Api.Exchange
import GpuFleet.Api.Objects

/-!
The calls of the operator as requests to the API server.
-/
namespace GpuFleet.Api

open Kube (DaemonSet Node)
open Policy (ClusterPolicy)

def nodesPath : String := "/api/v1/nodes"

def policiesPath : String := "/apis/nvidia.com/v1/clusterpolicies"

def daemonSetPath (ns name : String) : String :=
  "/apis/apps/v1/namespaces/" ++ ns ++ "/daemonsets/" ++ name

/-- The name under which the operator owns the fields that it applies. -/
def fieldManager : String := "gpu-operator"

/-- The content type of a merge patch. -/
def mergePatchType : String := "application/merge-patch+json"

def listNodes (t : Transport) : Exchange (List Node) :=
  .send t (listForm nodeForm).ofText? { method := .get, target := nodesPath ++ "?" }

def patchNode (t : Transport) (name : String) (patch : Json) : Exchange Unit :=
  .sendNamed t nodeForm.check? name {
    method := .patch
    target := nodesPath ++ "/" ++ name ++ "?"
    contentType := some mergePatchType
    body := some patch }

/-- The DaemonSet, or nothing where the server does not find it. -/
def getDaemonSet? (t : Transport) (ns name : String) : Exchange (Option DaemonSet) :=
  ((Exchange.sendNamed t daemonSetForm.ofText? name
    { method := .get, target := daemonSetPath ns name }).map some).accept
    fun r => if r.reason = "NotFound" then some none else none

/-- Applies a DaemonSet on the server's side, over the fields of others. -/
def applyDaemonSet (t : Transport) (d : DaemonSet) : Exchange Unit :=
  match d.metadata.name, d.metadata.ns with
  | none, _ => .fail (.misconfigured .daemonSetWithoutName)
  | some name, none => .fail (.misconfigured (.daemonSetWithoutNamespace name))
  | some name, some ns =>
    .sendNamed t daemonSetForm.check? name {
      method := .patch
      target := daemonSetPath ns name ++ "?&force=true&fieldManager=" ++ fieldManager
      contentType := some "application/apply-patch+yaml"
      body := some d.toJson }

/-- Deletes a DaemonSet; it is no error if it is gone already. -/
def deleteDaemonSet (t : Transport) (ns name : String) : Exchange Unit :=
  (Exchange.sendNamed t Deletion.read? name {
    method := .delete
    target := daemonSetPath ns name ++ "?"
    contentType := some "application/json"
    body := some (.object []) }).accept
    fun r => if r.code = 404 then some () else none

def listPolicies (t : Transport) : Exchange (List ClusterPolicy) :=
  .send t (listForm policyForm).ofText? { method := .get, target := policiesPath ++ "?" }

def writeStatus (t : Transport) (name : String) (status : Policy.Status) : Exchange Unit :=
  .sendNamed t policyForm.check? name {
    method := .patch
    target := policiesPath ++ "/" ++ name ++ "/status?"
    contentType := some mergePatchType
    body := some status.patch }

end GpuFleet.Api
