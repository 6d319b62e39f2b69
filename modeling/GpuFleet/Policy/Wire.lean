import GpuFleet.Json.Fields
import GpuFleet.Kube.Meta
import GpuFleet.Policy.Spec
import GpuFleet.Policy.Status

/-!
The JSON form of cluster policies. A setting that may be unset is left out when it is; every other
member is always written. When reading, a member with a default may be absent but not null, a
setting that may be unset may be either, no known member may occur twice, and members that are not
known are passed over. Settings may also be written as the array of their values, in the order of
the members; the last ones may be left out.
-/
namespace GpuFleet.Policy

namespace Component

/-- The member that holds the component's settings. -/
def key : Component → String
  | .driver => "driver"
  | .toolkit => "toolkit"
  | .devicePlugin => "devicePlugin"
  | .dcgm => "dcgm"
  | .dcgmExporter => "dcgmExporter"
  | .featureDiscovery => "gfd"
  | .migManager => "migManager"
  | .nodeStatusExporter => "nodeStatusExporter"
  | .vgpuManager => "vgpuManager"
  | .vgpuDeviceManager => "vgpuDeviceManager"
  | .vfioManager => "vfioManager"
  | .sandboxDevicePlugin => "sandboxDevicePlugin"
  | .kataSandboxDevicePlugin => "kataSandboxDevicePlugin"
  | .kataManager => "kataManager"
  | .ccManager => "ccManager"

/-- A value for every component, if each has one. -/
def collect? (f : Component → Option α) : Option (Component → α) :=
  if h : ∀ c, (f c).isSome then some fun c => (f c).get (h c) else none

end Component

namespace EnvSetting

def ofJson? (v : Json) : Option EnvSetting := do
  let m ← v.placed? ["name", "value"]
  some { name := ← m.need? Json.string? "name", value := ← m.strictD Json.string? "" "value" }

def toJson (e : EnvSetting) : Json := .object [("name", .string e.name), ("value", .string e.value)]

end EnvSetting

namespace ComponentSpec

def ofJson? (v : Json) : Option ComponentSpec := do
  let m ← v.placed? ["enabled", "repository", "image", "version", "env"]
  some {
    enabled := ← m.strict? Json.bool? "enabled"
    repository := ← m.strict? Json.string? "repository"
    image := ← m.strict? Json.string? "image"
    version := ← m.strict? Json.string? "version"
    env := ← m.strict? (·.list? EnvSetting.ofJson?) "env" }

def toJson (c : ComponentSpec) : Json :=
  .object (Members.put? "enabled" .bool c.enabled
    ++ Members.put? "repository" .string c.repository
    ++ Members.put? "image" .string c.image
    ++ Members.put? "version" .string c.version
    ++ Members.put? "env" (fun es => .array (es.map EnvSetting.toJson)) c.env)

end ComponentSpec

namespace SandboxWorkloads

def ofJson? (v : Json) : Option SandboxWorkloads := do
  let m ← v.placed? ["enabled", "defaultWorkload", "mode"]
  some {
    enabled := ← m.strict? Json.bool? "enabled"
    defaultWorkload := ← m.strict? Json.string? "defaultWorkload"
    mode := ← m.strict? Json.string? "mode" }

def toJson (s : SandboxWorkloads) : Json :=
  .object (Members.put? "enabled" .bool s.enabled
    ++ Members.put? "defaultWorkload" .string s.defaultWorkload
    ++ Members.put? "mode" .string s.mode)

end SandboxWorkloads

namespace CdiConfig

def ofJson? (v : Json) : Option CdiConfig := do
  let m ← v.placed? ["enabled", "default", "nriPluginEnabled"]
  some {
    enabled := ← m.strict? Json.bool? "enabled"
    isDefault := ← m.strict? Json.bool? "default"
    nriPluginEnabled := ← m.strict? Json.bool? "nriPluginEnabled" }

def toJson (c : CdiConfig) : Json :=
  .object (Members.put? "enabled" .bool c.enabled
    ++ Members.put? "default" .bool c.isDefault
    ++ Members.put? "nriPluginEnabled" .bool c.nriPluginEnabled)

end CdiConfig

namespace Spec

/-- The runtime of the operator-wide settings. -/
def operatorRuntime? (v : Json) : Option Runtime := do
  let m ← v.placed? ["defaultRuntime"]
  m.strictD (Json.choice? Runtime.ofName?) .containerd "defaultRuntime"

/-- The strategy of the MIG settings. -/
def migStrategy? (v : Json) : Option MigStrategy := do
  let m ← v.placed? ["strategy"]
  m.strictD (Json.choice? MigStrategy.ofName?) .single "strategy"

/-- The names of the members, in their order. -/
def memberNames : List String :=
  "operator" :: Component.all.map Component.key ++ ["sandboxWorkloads", "cdi", "mig"]

def ofJson? (v : Json) : Option Spec := do
  let m ← v.placed? memberNames
  some {
    defaultRuntime := ← m.strictD operatorRuntime? .containerd "operator"
    component := ← Component.collect? fun c => m.strictD ComponentSpec.ofJson? {} c.key
    sandbox := ← m.strictD SandboxWorkloads.ofJson? {} "sandboxWorkloads"
    cdi := ← m.strictD CdiConfig.ofJson? {} "cdi"
    migStrategy := ← m.strictD migStrategy? .single "mig" }

def toJson (s : Spec) : Json :=
  .object (("operator", .object [("defaultRuntime", .string s.defaultRuntime.name)])
    :: Component.all.map (fun c => (c.key, (s.component c).toJson))
    ++ [("sandboxWorkloads", s.sandbox.toJson), ("cdi", s.cdi.toJson),
      ("mig", .object [("strategy", .string s.migStrategy.name)])])

end Spec

namespace Status

def ofJson? (v : Json) : Option Status := do
  let m ← v.placed? ["state", "namespace", "error", "lastTransition"]
  some {
    state := ← m.need? (Json.choice? State.ofName?) "state"
    ns := ← m.strict? Json.string? "namespace"
    error := ← m.strict? Json.string? "error"
    lastTransition := ← m.strict? (fun v => v.string?.bind Instant.parse?) "lastTransition" }

def toJson (s : Status) : Json :=
  .object (("state", .string s.state.name)
    :: Members.put? "namespace" .string s.ns
    ++ Members.put? "error" .string s.error
    ++ Members.put? "lastTransition" (fun t => .string (Instant.text t)) s.lastTransition)

/-- A string, or null where there is none. -/
def textOrNull : Option String → Json
  | some s => .string s
  | none => .null

/-- The merge patch that writes every field of the status: null takes a stored value away. -/
def patch (s : Status) : Json :=
  .object [("status", .object [
    ("state", .string s.state.name),
    ("namespace", textOrNull s.ns),
    ("error", textOrNull s.error),
    ("lastTransition", textOrNull (s.lastTransition.map Instant.text))])]

end Status

/-- A cluster policy as it is stored. -/
structure ClusterPolicy where
  metadata : Kube.ObjectMeta := {}
  spec : Spec := {}
  status : Option Status := none
deriving DecidableEq

namespace ClusterPolicy

def apiVersion : String := "nvidia.com/v1"

def kind : String := "ClusterPolicy"

def ofJson? (v : Json) : Option ClusterPolicy := do
  let m ← v.object?
  some {
    metadata := ← m.need? Kube.ObjectMeta.ofJson? "metadata"
    spec := ← m.need? Spec.ofJson? "spec"
    status := ← m.strict? Status.ofJson? "status" }

def toJson (p : ClusterPolicy) : Json :=
  .object (("apiVersion", .string apiVersion) :: ("kind", .string kind)
    :: ("metadata", p.metadata.toJson) :: ("spec", p.spec.toJson)
    :: Members.put? "status" Status.toJson p.status)

/-- The name, empty where it is unset. -/
def name (p : ClusterPolicy) : String := p.metadata.name.getD ""

end ClusterPolicy

end GpuFleet.Policy
