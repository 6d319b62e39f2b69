import GpuFleet.Json.Fields
import GpuFleet.Kube.Catalog.Container

/-!
Containers and what they mount. The members that take part in drift detection or rendering have
fields of their own; nested objects among them are parts in normal form, and all other members are
carried along.
-/
namespace GpuFleet.Kube

/-- A list of strings. -/
def texts? (v : Json) : Option (List String) := v.list? Json.string?

def textsToJson (ts : List String) : Json := .array (ts.map .string)

/-- An environment variable with a value of its own, or one taken from a source. -/
structure EnvVar where
  name : String := ""
  value : Option String := none
  valueFrom : Option Json := none
deriving DecidableEq, Repr, Inhabited

namespace EnvVar

def ofJson? (v : Json) : Option EnvVar := do
  let m ← v.object?
  some {
    name := ← m.lenientD Json.string? "" "name"
    value := ← m.lenient? Json.string? "value"
    valueFrom := ← m.lenient? Catalog.envVarSource.normal? "valueFrom" }

def toJson (e : EnvVar) : Json :=
  .object (("name", .string e.name) :: Members.put? "value" .string e.value
    ++ Members.opt "valueFrom" e.valueFrom)

end EnvVar

structure VolumeMount where
  name : String := ""
  mountPath : String := ""
  subPath : Option String := none
  readOnly : Option Bool := none
  rest : Members := []
deriving DecidableEq, Repr, Inhabited

namespace VolumeMount

def ofJson? (v : Json) : Option VolumeMount := do
  let m ← v.object?
  some {
    name := ← m.lenientD Json.string? "" "name"
    mountPath := ← m.lenientD Json.string? "" "mountPath"
    subPath := ← m.lenient? Json.string? "subPath"
    readOnly := ← m.lenient? Json.bool? "readOnly"
    rest := ← Shape.normalMembers? Catalog.volumeMountRest m }

def toJson (v : VolumeMount) : Json :=
  .object (("name", .string v.name) :: ("mountPath", .string v.mountPath)
    :: Members.put? "subPath" .string v.subPath ++ Members.put? "readOnly" .bool v.readOnly
    ++ v.rest)

end VolumeMount

structure Container where
  name : String := ""
  image : Option String := none
  imagePullPolicy : Option String := none
  command : Option (List String) := none
  args : Option (List String) := none
  env : Option (List EnvVar) := none
  ports : Option (List (Part Catalog.containerPort)) := none
  volumeMounts : Option (List VolumeMount) := none
  resources : Option (Part Catalog.resourceRequirements) := none
  securityContext : Option (Part Catalog.securityContext) := none
  rest : Members := []
deriving DecidableEq, Repr, Inhabited

namespace Container

def ofJson? (v : Json) : Option Container := do
  let m ← v.object?
  some {
    name := ← m.lenientD Json.string? "" "name"
    image := ← m.lenient? Json.string? "image"
    imagePullPolicy := ← m.lenient? Json.string? "imagePullPolicy"
    command := ← m.lenient? texts? "command"
    args := ← m.lenient? texts? "args"
    env := ← m.lenient? (·.list? EnvVar.ofJson?) "env"
    ports := ← m.lenient? (·.list? (Part.ofJson? Catalog.containerPort)) "ports"
    volumeMounts := ← m.lenient? (·.list? VolumeMount.ofJson?) "volumeMounts"
    resources := ← m.lenient? (Part.ofJson? Catalog.resourceRequirements) "resources"
    securityContext := ← m.lenient? (Part.ofJson? Catalog.securityContext) "securityContext"
    rest := ← Shape.normalMembers? Catalog.containerRest m }

def toJson (c : Container) : Json :=
  .object (("name", .string c.name)
    :: Members.put? "image" .string c.image
    ++ Members.put? "imagePullPolicy" .string c.imagePullPolicy
    ++ Members.put? "command" textsToJson c.command
    ++ Members.put? "args" textsToJson c.args
    ++ Members.put? "env" (fun es => .array (es.map EnvVar.toJson)) c.env
    ++ Members.put? "ports" Part.listToJson c.ports
    ++ Members.put? "volumeMounts" (fun vs => .array (vs.map VolumeMount.toJson)) c.volumeMounts
    ++ Members.put? "resources" Part.json c.resources
    ++ Members.put? "securityContext" Part.json c.securityContext
    ++ c.rest)

end Container

end GpuFleet.Kube
