import GpuFleet.NodeLabels.Vocabulary

/-!
How a node's GPUs reach the workloads on it: straight into containers, whole into virtual machines,
or in shares of a virtual GPU. Each way has its deploy labels.
-/
namespace GpuFleet

inductive Workload where
  | container
  | vmPassthrough
  | vmVgpu
deriving DecidableEq, Repr

/-- The technology of virtual-machine workloads. -/
inductive SandboxMode where
  | kubeVirt
  | kata
deriving DecidableEq, Repr

namespace SandboxMode

def all : List SandboxMode := [.kubeVirt, .kata]

def name : SandboxMode → String
  | .kubeVirt => "kubevirt"
  | .kata => "kata"

/-- Any other text is no mode, and counts as unset. -/
def ofName? (s : String) : Option SandboxMode := all.find? (·.name = s)

end SandboxMode

namespace Workload

def all : List Workload := [.container, .vmPassthrough, .vmVgpu]

def name : Workload → String
  | .container => "container"
  | .vmPassthrough => "vm-passthrough"
  | .vmVgpu => "vm-vgpu"

def ofName? (s : String) : Option Workload := all.find? (·.name = s)

/-- The one device plugin of passed-through GPUs; that for KubeVirt where the mode is unset. -/
def passthroughPlugin : Option SandboxMode → NodeLabels.DeployLabel
  | some .kata => .kataDevicePlugin
  | some .kubeVirt | none => .sandboxDevicePlugin

/-- The deploy labels of a node with this workload, that of the MIG manager apart. -/
def deployLabels (w : Workload) (mode : Option SandboxMode) : List NodeLabels.DeployLabel :=
  match w with
  | .container =>
    [.driver, .featureDiscovery, .toolkit, .devicePlugin, .dcgm, .dcgmExporter,
     .nodeStatusExporter, .operatorValidator]
  | .vmPassthrough =>
    [passthroughPlugin mode, .sandboxValidator, .vfioManager, .kataManager, .ccManager]
  | .vmVgpu =>
    [.sandboxDevicePlugin, .sandboxValidator, .vgpuManager, .vgpuDeviceManager, .kataManager,
     .ccManager]

end Workload

end GpuFleet
