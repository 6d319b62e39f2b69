import GpuFleet.Kube.Meta
import GpuFleet.Kube.Container
import GpuFleet.Kube.Volume
import GpuFleet.Kube.Catalog.Object

/-!
DaemonSets, down to the containers of their pods.

The written form carries the API version and the kind. A form that is read may leave them out, but
it may not state others.
-/
namespace GpuFleet.Kube

structure PodSpec where
  nodeSelector : Option Labels := none
  affinity : Option (Part Catalog.affinity) := none
  tolerations : Option (List (Part Catalog.toleration)) := none
  priorityClassName : Option String := none
  runtimeClassName : Option String := none
  serviceAccountName : Option String := none
  hostNetwork : Option Bool := none
  hostPID : Option Bool := none
  securityContext : Option (Part Catalog.podSecurityContext) := none
  volumes : Option (List Volume) := none
  initContainers : Option (List Container) := none
  containers : List Container := []
  rest : Members := []
deriving DecidableEq, Repr, Inhabited

namespace PodSpec

def ofJson? (v : Json) : Option PodSpec := do
  let m ← v.object?
  some {
    nodeSelector := ← m.lenient? Labels.ofJson? "nodeSelector"
    affinity := ← m.lenient? (Part.ofJson? Catalog.affinity) "affinity"
    tolerations := ← m.lenient? (·.list? (Part.ofJson? Catalog.toleration)) "tolerations"
    priorityClassName := ← m.lenient? Json.string? "priorityClassName"
    runtimeClassName := ← m.lenient? Json.string? "runtimeClassName"
    serviceAccountName := ← m.lenient? Json.string? "serviceAccountName"
    hostNetwork := ← m.lenient? Json.bool? "hostNetwork"
    hostPID := ← m.lenient? Json.bool? "hostPID"
    securityContext := ← m.lenient? (Part.ofJson? Catalog.podSecurityContext) "securityContext"
    volumes := ← m.lenient? (·.list? Volume.ofJson?) "volumes"
    initContainers := ← m.lenient? (·.list? Container.ofJson?) "initContainers"
    containers := ← m.lenientD (·.list? Container.ofJson?) [] "containers"
    rest := ← Shape.normalMembers? Catalog.podSpecRest m }

def toJson (p : PodSpec) : Json :=
  .object (
    Members.put? "nodeSelector" Labels.toJson p.nodeSelector
    ++ Members.put? "affinity" Part.json p.affinity
    ++ Members.put? "tolerations" Part.listToJson p.tolerations
    ++ Members.put? "priorityClassName" .string p.priorityClassName
    ++ Members.put? "runtimeClassName" .string p.runtimeClassName
    ++ Members.put? "serviceAccountName" .string p.serviceAccountName
    ++ Members.put? "hostNetwork" .bool p.hostNetwork
    ++ Members.put? "hostPID" .bool p.hostPID
    ++ Members.put? "securityContext" Part.json p.securityContext
    ++ Members.put? "volumes" (fun vs => .array (vs.map Volume.toJson)) p.volumes
    ++ Members.put? "initContainers" (fun cs => .array (cs.map Container.toJson)) p.initContainers
    ++ [("containers", .array (p.containers.map Container.toJson))]
    ++ p.rest)

end PodSpec

structure PodTemplate where
  metadata : Option ObjectMeta := none
  spec : Option PodSpec := none
deriving DecidableEq, Repr, Inhabited

namespace PodTemplate

def ofJson? (v : Json) : Option PodTemplate := do
  let m ← v.object?
  some {
    metadata := ← m.lenient? ObjectMeta.ofJson? "metadata"
    spec := ← m.lenient? PodSpec.ofJson? "spec" }

def toJson (t : PodTemplate) : Json :=
  .object (Members.put? "metadata" ObjectMeta.toJson t.metadata
    ++ Members.put? "spec" PodSpec.toJson t.spec)

end PodTemplate

structure DaemonSetSpec where
  updateStrategy : Option (Part Catalog.daemonSetUpdateStrategy) := none
  template : PodTemplate := {}
  rest : Members := []
deriving DecidableEq, Repr, Inhabited

namespace DaemonSetSpec

def ofJson? (v : Json) : Option DaemonSetSpec := do
  let m ← v.object?
  some {
    updateStrategy :=
      ← m.lenient? (Part.ofJson? Catalog.daemonSetUpdateStrategy) "updateStrategy"
    template := ← m.lenientD PodTemplate.ofJson? {} "template"
    rest := ← Shape.normalMembers? Catalog.daemonSetSpecRest m }

def toJson (s : DaemonSetSpec) : Json :=
  .object (Members.put? "updateStrategy" Part.json s.updateStrategy
    ++ [("template", s.template.toJson)] ++ s.rest)

end DaemonSetSpec

structure DaemonSet where
  metadata : ObjectMeta := {}
  spec : Option DaemonSetSpec := none
  rest : Members := []
deriving DecidableEq, Repr, Inhabited

namespace DaemonSet

def apiVersion : String := "apps/v1"

def kind : String := "DaemonSet"

def ofJson? (v : Json) : Option DaemonSet := do
  let m ← v.object?
  guard (m.matchesText "apiVersion" apiVersion && m.matchesText "kind" kind)
  some {
    metadata := ← m.lenientD ObjectMeta.ofJson? {} "metadata"
    spec := ← m.lenient? DaemonSetSpec.ofJson? "spec"
    rest := ← Shape.normalMembers? Catalog.daemonSetRest m }

def toJson (d : DaemonSet) : Json :=
  .object (("apiVersion", .string apiVersion) :: ("kind", .string kind)
    :: ("metadata", d.metadata.toJson)
    :: Members.put? "spec" DaemonSetSpec.toJson d.spec ++ d.rest)

/-- The DaemonSet with its pod specification, if there is one, put through `f`. -/
def mapPod (f : PodSpec → PodSpec) (d : DaemonSet) : DaemonSet :=
  { d with
    spec := d.spec.map fun s =>
      { s with template := { s.template with spec := s.template.spec.map f } } }

/-- The DaemonSet with an annotation set. -/
def annotate (key value : String) (d : DaemonSet) : DaemonSet :=
  { d with
    metadata := { d.metadata with
      annotations := some ((d.metadata.annotations.getD ∅).insert key value) } }

end DaemonSet

end GpuFleet.Kube
