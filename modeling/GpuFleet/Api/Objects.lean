import GpuFleet.Api.Form
import GpuFleet.Kube.DaemonSet
import GpuFleet.Kube.Node
import GpuFleet.Policy.Schema

/-!
The forms of the objects that the API server answers with: DaemonSets, nodes and policies, lists of
them, and what follows a deletion.
-/
namespace GpuFleet.Api

open Kube (DaemonSet Node)
open Policy (ClusterPolicy)

def daemonSetForm : Form DaemonSet := ⟨Kube.Catalog.daemonSet.extent, DaemonSet.ofJson?⟩

def nodeForm : Form Node := ⟨Kube.Catalog.node.extent, Node.ofJson?⟩

def policyForm : Form ClusterPolicy := ⟨ClusterPolicy.extent, ClusterPolicy.ofJson?⟩

/-- The metadata of a list. -/
def listMeta : Kube.Shape := .record [
  .optional "continue" .text, .optional "remainingItemCount" .int64,
  .optional "resourceVersion" .text, .optional "selfLink" .text]

/-- The items of a list object; null for none. -/
def readList? (read : Json → Option α) (v : Json) : Option (List α) := do
  let m ← v.object?
  let _ ← m.strictD listMeta.normal? .null "metadata"
  let items ← m.need? (Json.orNull? (·.list? read)) "items"
  some (items.getD [])

/-- A list object. Members that it should not have need a value all the same. -/
def listForm (form : Form α) : Form (List α) where
  extent := .openRecord [("metadata", listMeta.extent), ("items", .list form.extent)]
  read := readList? form.read

namespace Deletion

/-- The outcome that a status object states, if it states one. -/
def outcome? (v : Json) : Option String :=
  v.choice? fun s => if s = "Success" ∨ s = "Failure" then some s else none

/-- One of several causes. -/
def cause : Form Unit :=
  .ofFields [("reason", .whole), ("message", .whole), ("field", .whole)] fun m => do
    let _ ← m.strictD Json.string? "" "reason"
    let _ ← m.strictD Json.string? "" "message"
    let _ ← m.strictD Json.string? "" "field"
    some ()

/-- The details of a status object. -/
def details : Form Unit :=
  .ofFields [
    ("name", .whole), ("group", .whole), ("kind", .whole), ("uid", .whole),
    ("causes", .list cause.extent), ("retryAfterSeconds", .whole)] fun m => do
    let _ ← m.strictD Json.string? "" "name"
    let _ ← m.strictD Json.string? "" "group"
    let _ ← m.strictD Json.string? "" "kind"
    let _ ← m.strictD Json.string? "" "uid"
    let _ ← m.strictD (·.list? cause.read) [] "causes"
    let _ ← m.strictD (unsigned? 32) 0 "retryAfterSeconds"
    some ()

/-- A status object. What it says is not needed. -/
def status : Form Unit :=
  .ofFields [
    ("status", .dict .whole), ("code", .whole), ("message", .whole), ("reason", .whole),
    ("details", details.extent)] fun m => do
    let _ ← m.strict? outcome? "status"
    let _ ← m.strictD (unsigned? 16) 0 "code"
    let _ ← m.strictD Json.string? "" "message"
    let _ ← m.strictD Json.string? "" "reason"
    let _ ← m.strict? details.read "details"
    some ()

/-- What a deletion is answered with: a status object, or the object that goes. -/
def read? (text : String) : Option Unit := do
  let v ← Json.parse? text
  if v.get "kind" = .string "Status" then status.ofText? text
  else daemonSetForm.check? text

end Deletion

end GpuFleet.Api
