import GpuFleet.Json.Basic
import GpuFleet.Kube.Labels

/-!
Patches of a node's labels: exactly the labels that change, each with its new value or none. A label
that a patch does not name keeps what somebody else has written in the meantime.
-/
namespace GpuFleet.NodeLabels

open Kube (Labels)

/-- Keys with their new values; none stands for removal. -/
structure Patch where
  changes : List (String × Option String)
deriving DecidableEq, Repr

namespace Patch

/-- The labels that are new or have a new value, then those that are gone. -/
def differences (old new : Labels) : List (String × Option String) :=
  (new.toList.filter fun (k, v) => old[k]? ≠ some v).map (fun (k, v) => (k, some v))
    ++ (old.keys.filter (· ∉ new)).map (·, none)

/-- The patch that makes `new` of `old`; nothing where they are equal. -/
def between? (old new : Labels) : Option Patch :=
  match differences old new with
  | [] => none
  | changes => some ⟨changes⟩

/-- The labels as the patch leaves them. -/
def apply (p : Patch) (labels : Labels) : Labels :=
  p.changes.foldl (fun labels (k, v) => labels.alterTo k v) labels

/-- The merge patch of a node object; null removes. -/
def toJson (p : Patch) : Json :=
  .object [("metadata", .object [("labels", .object (p.changes.map fun
    | (k, some v) => (k, .string v)
    | (k, none) => (k, .null)))])]

end Patch

end GpuFleet.NodeLabels
