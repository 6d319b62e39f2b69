import GpuFleet.Json.Fields
import GpuFleet.Kube.Catalog.Volume

/-!
Pod volumes. The three sources that drift detection looks into have types of their own; every other
source is carried along.
-/
namespace GpuFleet.Kube

/-- A directory or file of the node. -/
structure HostPath where
  path : String := ""
  rest : Members := []
deriving DecidableEq, Repr, Inhabited

namespace HostPath

def ofJson? (v : Json) : Option HostPath := do
  let m ← v.object?
  some {
    path := ← m.lenientD Json.string? "" "path"
    rest := ← Shape.normalMembers? Catalog.hostPathVolumeSourceRest m }

def toJson (h : HostPath) : Json := .object (("path", .string h.path) :: h.rest)

end HostPath

/-- The entries of a ConfigMap as files. -/
structure ConfigMapVolume where
  name : String := ""
  rest : Members := []
deriving DecidableEq, Repr, Inhabited

namespace ConfigMapVolume

def ofJson? (v : Json) : Option ConfigMapVolume := do
  let m ← v.object?
  some {
    name := ← m.lenientD Json.string? "" "name"
    rest := ← Shape.normalMembers? Catalog.configMapVolumeSourceRest m }

def toJson (c : ConfigMapVolume) : Json := .object (("name", .string c.name) :: c.rest)

end ConfigMapVolume

/-- The entries of a Secret as files. -/
structure SecretVolume where
  secretName : Option String := none
  rest : Members := []
deriving DecidableEq, Repr, Inhabited

namespace SecretVolume

def ofJson? (v : Json) : Option SecretVolume := do
  let m ← v.object?
  some {
    secretName := ← m.lenient? Json.string? "secretName"
    rest := ← Shape.normalMembers? Catalog.secretVolumeSourceRest m }

def toJson (s : SecretVolume) : Json :=
  .object (Members.put? "secretName" .string s.secretName ++ s.rest)

end SecretVolume

structure Volume where
  name : String := ""
  hostPath : Option HostPath := none
  configMap : Option ConfigMapVolume := none
  secret : Option SecretVolume := none
  rest : Members := []
deriving DecidableEq, Repr, Inhabited

namespace Volume

def ofJson? (v : Json) : Option Volume := do
  let m ← v.object?
  some {
    name := ← m.lenientD Json.string? "" "name"
    hostPath := ← m.lenient? HostPath.ofJson? "hostPath"
    configMap := ← m.lenient? ConfigMapVolume.ofJson? "configMap"
    secret := ← m.lenient? SecretVolume.ofJson? "secret"
    rest := ← Shape.normalMembers? Catalog.volumeRest m }

def toJson (v : Volume) : Json :=
  .object (("name", .string v.name)
    :: Members.put? "hostPath" HostPath.toJson v.hostPath
    ++ Members.put? "configMap" ConfigMapVolume.toJson v.configMap
    ++ Members.put? "secret" SecretVolume.toJson v.secret
    ++ v.rest)

end Volume

end GpuFleet.Kube
