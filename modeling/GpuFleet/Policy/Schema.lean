import GpuFleet.Json.Raw
import GpuFleet.Kube.Catalog.Meta
import GpuFleet.Policy.Wire

/-!
The schema of cluster policies, as the custom resource definition publishes it: which members a
policy has, what may stand there, and what an absent one means.
-/
namespace GpuFleet.Policy

/-- What the absence of a member means. -/
inductive Presence where
  /-- The member must be there. -/
  | required
  /-- The member may be absent, or null. -/
  | nullable
  /-- An absent member has this value. -/
  | default (value : Json)
deriving DecidableEq, Repr

mutual

/-- What may stand at a place. -/
inductive Schema where
  | flag
  | text
  | moment
  | choice (names : List String)
  | list (description : String) (item : Schema)
  | record (properties : List Property)

/-- A member of a record. -/
inductive Property where
  | mk (name description : String) (presence : Presence) (schema : Schema)

end

namespace Property

def name : Property → String
  | .mk n _ _ _ => n

def isRequired : Property → Bool
  | .mk _ _ presence _ => presence == .required

/-- A truth value that may be unset. -/
def flag (name description : String) : Property := .mk name description .nullable .flag

/-- A text that may be unset. -/
def text (name description : String) : Property := .mk name description .nullable .text

end Property

namespace Presence

def members : Presence → Members
  | .required => []
  | .nullable => [("nullable", .bool true)]
  | .default v => [("default", v)]

end Presence

namespace Schema

mutual

/-- The members by which the definition describes a place. -/
def members : Schema → Members
  | .flag => [("type", .string "boolean")]
  | .text => [("type", .string "string")]
  | .moment => [("type", .string "string"), ("format", .string "date-time")]
  | .choice names => [("type", .string "string"), ("enum", .array (names.map .string))]
  | .list description item =>
    [("type", .string "array"),
      ("items", .object (("description", .string description) :: members item))]
  | .record properties =>
    ("type", .string "object") :: ("properties", .object (propertyMembers properties))
      :: match properties.filter Property.isRequired with
        | [] => []
        | required => [("required", .array (required.map fun p => .string p.name))]

def propertyMembers : List Property → Members
  | [] => []
  | .mk name description presence schema :: properties =>
    (name, .object (("description", .string description) :: members schema ++ presence.members))
      :: propertyMembers properties

end

mutual

/-- The value may stand at the place. A record has the members of the schema once at most, and may
have members that the schema does not know. -/
def accepts : Schema → Json → Bool
  | .flag => fun v => v.bool?.isSome
  | .text => fun v => v.string?.isSome
  | .moment => fun v => (v.string?.bind Instant.parse?).isSome
  | .choice names => fun v => v.string?.any names.contains
  | .list _ item => fun v => v.array?.any (·.all (accepts item))
  | .record properties => fun v => v.object?.any (acceptsMembers properties)

def acceptsMembers : List Property → Members → Bool
  | [] => fun _ => true
  | .mk name _ presence schema :: properties => fun members =>
    (match members.values name with
      | [] => presence != .required
      | [.null] => presence == .nullable
      | [v] => accepts schema v
      | _ => false)
    && acceptsMembers properties members

end

mutual

/-- The parts of a value that the schema knows. -/
def extent : Schema → Json.Extent
  | .flag | .text | .moment => .whole
  | .choice _ => .dict .whole
  | .list _ item => .list (extent item)
  | .record properties => .record (propertyExtents properties)

def propertyExtents : List Property → List (String × Json.Extent)
  | [] => []
  | .mk name _ _ schema :: properties => (name, extent schema) :: propertyExtents properties

end

end Schema

namespace Component

def description : Component → String
  | .driver => "GPU driver"
  | .toolkit => "Container toolkit"
  | .devicePlugin => "Device plugin for container workloads"
  | .dcgm => "DCGM host engine"
  | .dcgmExporter => "DCGM exporter"
  | .featureDiscovery => "GPU feature discovery"
  | .migManager => "MIG manager"
  | .nodeStatusExporter => "Node status exporter"
  | .vgpuManager => "vGPU manager (vm-vgpu workloads)"
  | .vgpuDeviceManager => "vGPU device manager (vm-vgpu workloads)"
  | .vfioManager => "VFIO manager (vm-passthrough workloads)"
  | .sandboxDevicePlugin => "KubeVirt sandbox device plugin"
  | .kataSandboxDevicePlugin => "Kata sandbox device plugin"
  | .kataManager => "Kata manager"
  | .ccManager => "Confidential computing manager"

end Component

namespace EnvSetting

def schema : Schema := .record [
  .mk "name" "Variable name" .required .text,
  .mk "value" "Variable value" (.default (.string "")) .text]

end EnvSetting

namespace ComponentSpec

def schema : Schema := .record [
  .flag "enabled" "Deploy this component. Unset means disabled.",
  .text "repository" "Image repository",
  .text "image" "Image name",
  .text "version" "Image tag",
  .mk "env" "Extra environment variables for the component's main container" .nullable
    (.list "Plain name/value environment variable" EnvSetting.schema)]

end ComponentSpec

namespace SandboxWorkloads

def schema : Schema := .record [
  .flag "enabled" "Master switch for sandbox workloads",
  .text "defaultWorkload"
    "Workload config applied to nodes without an explicit\n`nvidia.com/gpu.workload.config` label",
  .text "mode" "Sandbox technology: \"kubevirt\" or \"kata\""]

end SandboxWorkloads

namespace CdiConfig

def schema : Schema := .record [
  .flag "enabled" "Generate CDI specs for GPUs",
  .flag "default" "Make CDI the default injection mechanism",
  .flag "nriPluginEnabled" "Deploy the NRI plugin (requires CDI)"]

end CdiConfig

namespace Spec

/-- The runtime and the strategy of the default settings. -/
def defaultRuntimeName : Json := .string Runtime.containerd.name

def defaultStrategyName : Json := .string MigStrategy.single.name

def operatorSchema : Schema := .record [
  .mk "defaultRuntime"
    "Runtime assumed when no GPU node reports a recognizable container runtime"
    (.default defaultRuntimeName) (.choice (Runtime.all.map Runtime.name))]

def migSchema : Schema := .record [
  .mk "strategy" "How MIG devices are advertised" (.default defaultStrategyName)
    (.choice (MigStrategy.all.map MigStrategy.name))]

def schema : Schema := .record (
  .mk "operator" "Operator-wide settings"
    (.default (.object [("defaultRuntime", defaultRuntimeName)]))
    operatorSchema
  :: Component.all.map (fun c =>
    .mk c.key c.description (.default (.object [])) ComponentSpec.schema)
  ++ [
    .mk "sandboxWorkloads" "Sandbox (VM) workload settings" (.default (.object []))
      SandboxWorkloads.schema,
    .mk "cdi" "Container Device Interface settings" (.default (.object [])) CdiConfig.schema,
    .mk "mig" "MIG settings" (.default (.object [("strategy", defaultStrategyName)])) migSchema])

end Spec

namespace Status

def schema : Schema := .record [
  .mk "state" "Current state" .required (.choice (State.all.map State.name)),
  .text "namespace" "Namespace operands are deployed into",
  .text "error" "Error message if reconciliation failed",
  .mk "lastTransition" "Last time the state changed" .nullable .moment]

end Status

namespace ClusterPolicy

def schema : Schema := .record [
  .mk "spec" "ClusterPolicySpec defines the desired GPU stack for the whole cluster" .required
    Spec.schema,
  .mk "status" "ClusterPolicyStatus defines the observed state of a ClusterPolicy" .nullable
    Status.schema]

/-- The parts of a stored policy that are read. -/
def extent : Json.Extent := .record [
  ("metadata", Kube.Catalog.objectMeta.extent), ("spec", Spec.schema.extent),
  ("status", Status.schema.extent)]

/-- The names by which the API server serves cluster policies. -/
def resourceNames : Json := .object [
  ("categories", .array []), ("kind", .string kind), ("plural", .string "clusterpolicies"),
  ("shortNames", .array [.string "cp"]), ("singular", .string "clusterpolicy")]

/-- The schema of the whole object. -/
def objectSchema : Json := .object (
  ("description", .string "Auto-generated derived type for ClusterPolicySpec via `CustomResource`")
    :: ("title", .string kind) :: schema.members)

/-- The custom resource definition. -/
def definition : Json := .object [
  ("apiVersion", .string "apiextensions.k8s.io/v1"),
  ("kind", .string "CustomResourceDefinition"),
  ("metadata", .object [("name", .string "clusterpolicies.nvidia.com")]),
  ("spec", .object [
    ("group", .string "nvidia.com"),
    ("names", resourceNames),
    ("scope", .string "Cluster"),
    ("versions", .array [.object [
      ("additionalPrinterColumns", .array []),
      ("name", .string "v1"),
      ("served", .bool true),
      ("storage", .bool true),
      ("subresources", .object [("status", .object [])]),
      ("schema", .object [("openAPIV3Schema", objectSchema)])]])])]

end ClusterPolicy

end GpuFleet.Policy
