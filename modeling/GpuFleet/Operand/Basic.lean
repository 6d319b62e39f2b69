import GpuFleet.Policy.Spec
import GpuFleet.Text.Quoted

/-!
The operands: the parts of the GPU stack that are deployed one by one, each from a manifest
directory of its name.
-/
namespace GpuFleet

inductive Operand where
  | driver
  | toolkit
  | operatorValidation
  | devicePlugin
  | dcgm
  | dcgmExporter
  | featureDiscovery
  | migManager
  | nodeStatusExporter
  | vgpuManager
  | vgpuDeviceManager
  | sandboxValidation
  | vfioManager
  | sandboxDevicePlugin
  | kataDevicePlugin
  | kataManager
  | ccManager
deriving DecidableEq, Repr

namespace Operand

/-- Every operand, in the order of deployment. -/
def all : List Operand :=
  [.driver, .toolkit, .operatorValidation, .devicePlugin, .dcgm, .dcgmExporter, .featureDiscovery,
   .migManager, .nodeStatusExporter, .vgpuManager, .vgpuDeviceManager, .sandboxValidation,
   .vfioManager, .sandboxDevicePlugin, .kataDevicePlugin, .kataManager, .ccManager]

theorem mem_all (o : Operand) : o ∈ all := by cases o <;> decide

def name : Operand → String
  | .driver => "state-driver"
  | .toolkit => "state-container-toolkit"
  | .operatorValidation => "state-operator-validation"
  | .devicePlugin => "state-device-plugin"
  | .dcgm => "state-dcgm"
  | .dcgmExporter => "state-dcgm-exporter"
  | .featureDiscovery => "gpu-feature-discovery"
  | .migManager => "state-mig-manager"
  | .nodeStatusExporter => "state-node-status-exporter"
  | .vgpuManager => "state-vgpu-manager"
  | .vgpuDeviceManager => "state-vgpu-device-manager"
  | .sandboxValidation => "state-sandbox-validation"
  | .vfioManager => "state-vfio-manager"
  | .sandboxDevicePlugin => "state-sandbox-device-plugin"
  | .kataDevicePlugin => "state-kata-device-plugin"
  | .kataManager => "state-kata-manager"
  | .ccManager => "state-cc-manager"

def ofName? (s : String) : Option Operand := all.find? (·.name = s)

theorem ofName?_eq_none_iff {s : String} : ofName? s = none ↔ ∀ o : Operand, o.name ≠ s := by
  simp only [ofName?, List.find?_eq_none, decide_eq_true_eq, mem_all, true_implies, ne_eq]

/-- Says of a text that it names no operand. -/
def unknownMessage (s : String) : String := "unknown state " ++ Text.quoted s

/-- The component that the operand deploys; the validations deploy none. -/
def component? : Operand → Option Policy.Component
  | .driver => some .driver
  | .toolkit => some .toolkit
  | .operatorValidation | .sandboxValidation => none
  | .devicePlugin => some .devicePlugin
  | .dcgm => some .dcgm
  | .dcgmExporter => some .dcgmExporter
  | .featureDiscovery => some .featureDiscovery
  | .migManager => some .migManager
  | .nodeStatusExporter => some .nodeStatusExporter
  | .vgpuManager => some .vgpuManager
  | .vgpuDeviceManager => some .vgpuDeviceManager
  | .vfioManager => some .vfioManager
  | .sandboxDevicePlugin => some .sandboxDevicePlugin
  | .kataDevicePlugin => some .kataSandboxDevicePlugin
  | .kataManager => some .kataManager
  | .ccManager => some .ccManager

end Operand

end GpuFleet
