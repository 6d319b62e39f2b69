import GpuFleet.Json.Fields
import GpuFleet.Kube.Labels
import GpuFleet.Kube.Catalog.Meta

/-!
Object metadata. The members that the operator reads or sets have fields of their own; the others
are carried along in normal form.
-/
namespace GpuFleet.Kube

structure ObjectMeta where
  name : Option String := none
  /-- The namespace. -/
  ns : Option String := none
  labels : Option Labels := none
  annotations : Option Labels := none
  /-- Kept with its fraction, by which objects are ordered; written in whole seconds. -/
  creationTimestamp : Option Instant := none
  rest : Members := []
deriving DecidableEq, Repr, Inhabited

namespace ObjectMeta

def ofJson? (v : Json) : Option ObjectMeta := do
  let m ← v.object?
  some {
    name := ← m.lenient? Json.string? "name"
    ns := ← m.lenient? Json.string? "namespace"
    labels := ← m.lenient? Labels.ofJson? "labels"
    annotations := ← m.lenient? Labels.ofJson? "annotations"
    creationTimestamp := ← m.lenient? (fun v => v.string?.bind Instant.parse?) "creationTimestamp"
    rest := ← Shape.normalMembers? Catalog.objectMetaRest m }

def toJson (o : ObjectMeta) : Json :=
  .object (
    Members.put? "name" .string o.name
    ++ Members.put? "namespace" .string o.ns
    ++ Members.put? "labels" Labels.toJson o.labels
    ++ Members.put? "annotations" Labels.toJson o.annotations
    ++ Members.put? "creationTimestamp" (fun t => .string (Instant.wholeSecondText t))
        o.creationTimestamp
    ++ o.rest)

/-- The labels, none where they are unset. -/
def labelMap (o : ObjectMeta) : Labels := o.labels.getD ∅

end ObjectMeta

end GpuFleet.Kube
