/-!
The settings of a cluster policy: which components are deployed, from which images, and how
workloads get at the GPUs.
-/
namespace GpuFleet.Policy

/-- A deployable component with settings of its own. -/
inductive Component where
  | driver
  | toolkit
  | devicePlugin
  | dcgm
  | dcgmExporter
  | featureDiscovery
  | migManager
  | nodeStatusExporter
  | vgpuManager
  | vgpuDeviceManager
  | vfioManager
  | sandboxDevicePlugin
  | kataSandboxDevicePlugin
  | kataManager
  | ccManager
deriving DecidableEq, Repr

namespace Component

/-- Every component, in the order of the settings. -/
def all : List Component :=
  [.driver, .toolkit, .devicePlugin, .dcgm, .dcgmExporter, .featureDiscovery, .migManager,
   .nodeStatusExporter, .vgpuManager, .vgpuDeviceManager, .vfioManager, .sandboxDevicePlugin,
   .kataSandboxDevicePlugin, .kataManager, .ccManager]

theorem mem_all (c : Component) : c ∈ all := by cases c <;> decide

instance (P : Component → Prop) [DecidablePred P] : Decidable (∀ c, P c) :=
  decidable_of_iff (∀ c ∈ all, P c) ⟨fun h c => h c (mem_all c), fun h c _ => h c⟩

end Component

/-- A plain environment variable. -/
structure EnvSetting where
  name : String
  value : String := ""
deriving DecidableEq, Repr

/-- The settings that every component has. -/
structure ComponentSpec where
  enabled : Option Bool := none
  repository : Option String := none
  image : Option String := none
  version : Option String := none
  env : Option (List EnvSetting) := none
deriving DecidableEq, Repr

namespace ComponentSpec

/-- Unset means disabled. -/
def isEnabled (c : ComponentSpec) : Bool := c.enabled.getD false

/-- The text without the slashes at its end. -/
def dropTrailingSlashes (s : String) : String :=
  String.ofList (s.toList.reverse.dropWhile (· = '/')).reverse

/-- The image with its repository in front, if that is given. -/
def located (repository : Option String) (image : String) : String :=
  match repository with
  | none => image
  | some r => if r.isEmpty then image else dropTrailingSlashes r ++ "/" ++ image

/-- What a version adds to an image: a digest follows an at sign, a tag a colon. -/
def versionSuffix (version : Option String) : String :=
  match version with
  | none => ""
  | some v =>
    if v.isEmpty then ""
    else if "sha256:".toList.isPrefixOf v.toList then "@" ++ v
    else ":" ++ v

/-- The full image reference; nothing without an image. -/
def imagePath (c : ComponentSpec) : Option String :=
  c.image.map fun image => located c.repository image ++ versionSuffix c.version

end ComponentSpec

/-- Container runtimes of nodes. -/
inductive Runtime where
  | docker
  | containerd
  | crio
deriving DecidableEq, Repr

namespace Runtime

def all : List Runtime := [.docker, .containerd, .crio]

def name : Runtime → String
  | .docker => "docker"
  | .containerd => "containerd"
  | .crio => "crio"

def ofName? (s : String) : Option Runtime := all.find? (·.name = s)

end Runtime

/-- How MIG devices are advertised. -/
inductive MigStrategy where
  | single
  | mixed
deriving DecidableEq, Repr

namespace MigStrategy

def all : List MigStrategy := [.single, .mixed]

def name : MigStrategy → String
  | .single => "single"
  | .mixed => "mixed"

def ofName? (s : String) : Option MigStrategy := all.find? (·.name = s)

end MigStrategy

/-- Settings of virtual-machine workloads. -/
structure SandboxWorkloads where
  enabled : Option Bool := none
  defaultWorkload : Option String := none
  mode : Option String := none
deriving DecidableEq, Repr

namespace SandboxWorkloads

def isEnabled (s : SandboxWorkloads) : Bool := s.enabled.getD false

/-- The workload of nodes that name none; an empty setting counts as unset. -/
def workloadName (s : SandboxWorkloads) : String :=
  match s.defaultWorkload with
  | none => "container"
  | some w => if w.isEmpty then "container" else w

def modeName (s : SandboxWorkloads) : String := s.mode.getD ""

end SandboxWorkloads

/-- Settings of the Container Device Interface. -/
structure CdiConfig where
  enabled : Option Bool := none
  isDefault : Option Bool := none
  nriPluginEnabled : Option Bool := none
deriving DecidableEq, Repr

namespace CdiConfig

def isEnabled (c : CdiConfig) : Bool := c.enabled.getD false

def isNriPluginEnabled (c : CdiConfig) : Bool := c.nriPluginEnabled.getD false

end CdiConfig

/-- The desired GPU stack of a whole cluster. -/
structure Spec where
  /-- The runtime assumed where no GPU node reports a known one. -/
  defaultRuntime : Runtime := .containerd
  component : Component → ComponentSpec := fun _ => {}
  sandbox : SandboxWorkloads := {}
  cdi : CdiConfig := {}
  migStrategy : MigStrategy := .single

instance : DecidableEq Spec := fun a b =>
  decidable_of_iff
    (a.defaultRuntime = b.defaultRuntime ∧ (∀ c, a.component c = b.component c)
      ∧ a.sandbox = b.sandbox ∧ a.cdi = b.cdi ∧ a.migStrategy = b.migStrategy) <| by
    cases a
    cases b
    simp [funext_iff]

end GpuFleet.Policy
