import GpuFleet.Kube.Meta
import GpuFleet.Kube.Catalog.Object

/-!
Cluster nodes: their labels, and the container runtime that they report.
-/
namespace GpuFleet.Kube

/-- What a node's agent says about its software. -/
structure NodeInfo where
  containerRuntimeVersion : String := ""
  rest : Members := []
deriving DecidableEq, Repr, Inhabited

namespace NodeInfo

def ofJson? (v : Json) : Option NodeInfo := do
  let m ← v.object?
  some {
    containerRuntimeVersion := ← m.lenientD Json.string? "" "containerRuntimeVersion"
    rest := ← Shape.normalMembers? Catalog.nodeSystemInfoRest m }

def toJson (i : NodeInfo) : Json :=
  .object (("containerRuntimeVersion", .string i.containerRuntimeVersion) :: i.rest)

end NodeInfo

structure NodeStatus where
  nodeInfo : Option NodeInfo := none
  rest : Members := []
deriving DecidableEq, Repr, Inhabited

namespace NodeStatus

def ofJson? (v : Json) : Option NodeStatus := do
  let m ← v.object?
  some {
    nodeInfo := ← m.lenient? NodeInfo.ofJson? "nodeInfo"
    rest := ← Shape.normalMembers? Catalog.nodeStatusRest m }

def toJson (s : NodeStatus) : Json :=
  .object (Members.put? "nodeInfo" NodeInfo.toJson s.nodeInfo ++ s.rest)

end NodeStatus

structure Node where
  metadata : ObjectMeta := {}
  status : Option NodeStatus := none
  rest : Members := []
deriving DecidableEq, Repr, Inhabited

namespace Node

def apiVersion : String := "v1"

def kind : String := "Node"

def ofJson? (v : Json) : Option Node := do
  let m ← v.object?
  guard (m.matchesText "apiVersion" apiVersion && m.matchesText "kind" kind)
  some {
    metadata := ← m.lenientD ObjectMeta.ofJson? {} "metadata"
    status := ← m.lenient? NodeStatus.ofJson? "status"
    rest := ← Shape.normalMembers? Catalog.nodeRest m }

def toJson (n : Node) : Json :=
  .object (("apiVersion", .string apiVersion) :: ("kind", .string kind)
    :: ("metadata", n.metadata.toJson)
    :: Members.put? "status" NodeStatus.toJson n.status ++ n.rest)

/-- The node with its labels put through `f`; a node without labels gets a map of them. -/
def mapLabels (f : Labels → Labels) (n : Node) : Node :=
  { n with metadata := { n.metadata with labels := some (f n.metadata.labelMap) } }

end Node

end GpuFleet.Kube
