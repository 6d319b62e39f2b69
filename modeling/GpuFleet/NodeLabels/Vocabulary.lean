/-!
The label keys of nodes: what hardware discovery publishes, what an administrator may set, and the
deploy labels that select nodes for the operands. The deploy labels belong to the operator; it adds
and removes them.
-/
namespace GpuFleet.NodeLabels

/-- Every label of node feature discovery starts like this. -/
def discoveryStart : String := "feature.node.kubernetes.io/"

/-- The labels by which discovery reports a PCI device of the vendor: of any class, a 3D controller,
a display controller. -/
def pciKeys : List String := [
  "feature.node.kubernetes.io/pci-10de.present",
  "feature.node.kubernetes.io/pci-0302_10de.present",
  "feature.node.kubernetes.io/pci-0300_10de.present"]

/-- The operator's own mark of a node with a GPU. -/
def gpuPresentKey : String := "nvidia.com/gpu.present"

/-- Set to false where no operand may run. -/
def operandsKey : String := "nvidia.com/gpu.deploy.operands"

/-- Whether the GPU can be partitioned. -/
def migCapableKey : String := "nvidia.com/mig.capable"

/-- The partitioning that the MIG manager is asked for. -/
def migConfigKey : String := "nvidia.com/mig.config"

/-- The partitioning of a node that asks for none. -/
def migConfigDefault : String := "all-disabled"

/-- The name of the GPU model. -/
def productKey : String := "nvidia.com/gpu.product"

/-- Set where a vGPU host driver runs. -/
def vgpuHostDriverKey : String := "nvidia.com/vgpu.host-driver-version"

/-- The workload of this node, in place of the policy's. -/
def workloadKey : String := "nvidia.com/gpu.workload.config"

/-- A label that lets one operand run on a node. -/
inductive DeployLabel where
  | driver
  | featureDiscovery
  | toolkit
  | devicePlugin
  | dcgm
  | dcgmExporter
  | nodeStatusExporter
  | operatorValidator
  | sandboxValidator
  | vfioManager
  | kataManager
  | ccManager
  /-- The sandbox device plugin for KubeVirt. -/
  | sandboxDevicePlugin
  | vgpuManager
  | vgpuDeviceManager
  /-- The sandbox device plugin for Kata containers. -/
  | kataDevicePlugin
  | migManager
deriving DecidableEq, Repr

namespace DeployLabel

def all : List DeployLabel :=
  [.driver, .featureDiscovery, .toolkit, .devicePlugin, .dcgm, .dcgmExporter, .nodeStatusExporter,
   .operatorValidator, .sandboxValidator, .vfioManager, .kataManager, .ccManager,
   .sandboxDevicePlugin, .vgpuManager, .vgpuDeviceManager, .kataDevicePlugin, .migManager]

theorem mem_all (l : DeployLabel) : l ∈ all := by cases l <;> decide

def key : DeployLabel → String
  | .driver => "nvidia.com/gpu.deploy.driver"
  | .featureDiscovery => "nvidia.com/gpu.deploy.gpu-feature-discovery"
  | .toolkit => "nvidia.com/gpu.deploy.container-toolkit"
  | .devicePlugin => "nvidia.com/gpu.deploy.device-plugin"
  | .dcgm => "nvidia.com/gpu.deploy.dcgm"
  | .dcgmExporter => "nvidia.com/gpu.deploy.dcgm-exporter"
  | .nodeStatusExporter => "nvidia.com/gpu.deploy.node-status-exporter"
  | .operatorValidator => "nvidia.com/gpu.deploy.operator-validator"
  | .sandboxValidator => "nvidia.com/gpu.deploy.sandbox-validator"
  | .vfioManager => "nvidia.com/gpu.deploy.vfio-manager"
  | .kataManager => "nvidia.com/gpu.deploy.kata-manager"
  | .ccManager => "nvidia.com/gpu.deploy.cc-manager"
  | .sandboxDevicePlugin => "nvidia.com/gpu.deploy.sandbox-device-plugin"
  | .vgpuManager => "nvidia.com/gpu.deploy.vgpu-manager"
  | .vgpuDeviceManager => "nvidia.com/gpu.deploy.vgpu-device-manager"
  | .kataDevicePlugin => "nvidia.com/gpu.deploy.kata-device-plugin"
  | .migManager => "nvidia.com/gpu.deploy.mig-manager"

end DeployLabel

end GpuFleet.NodeLabels
