import GpuFleet.Operand.Basic
import GpuFleet.Workload.Basic

/-!
Which operands a policy wants. Each operand has a condition of its own; the operands of
virtual-machine workloads also need the sandbox switch, and the two sandbox device plugins the mode
that they are made for.
-/
namespace GpuFleet

/-- The settings of a policy, with the sandbox switch that is in force. -/
structure Plan where
  spec : Policy.Spec
  sandboxEnabled : Bool

namespace Plan

/-- The plan in which the policy's own switch is in force. -/
def ofSpec (spec : Policy.Spec) : Plan := ⟨spec, spec.sandbox.isEnabled⟩

def sandboxMode (p : Plan) : Option SandboxMode := SandboxMode.ofName? p.spec.sandbox.modeName

/-- The component is enabled in the settings. -/
def wants (p : Plan) (c : Policy.Component) : Bool := (p.spec.component c).isEnabled

def isEnabled (p : Plan) : Operand → Bool
  | .driver => p.wants .driver
  | .toolkit => p.wants .toolkit
  | .operatorValidation => true
  | .devicePlugin => p.wants .devicePlugin
  | .dcgm => p.wants .dcgm
  | .dcgmExporter => p.wants .dcgmExporter
  | .featureDiscovery => p.wants .featureDiscovery
  | .migManager => p.wants .migManager
  | .nodeStatusExporter => p.wants .nodeStatusExporter
  | .vgpuManager => p.sandboxEnabled && p.wants .vgpuManager
  | .vgpuDeviceManager => p.sandboxEnabled && p.wants .vgpuDeviceManager
  | .sandboxValidation => p.sandboxEnabled
  | .vfioManager => p.sandboxEnabled && p.wants .vfioManager
  | .sandboxDevicePlugin =>
    p.sandboxEnabled && p.sandboxMode == some .kubeVirt && p.wants .sandboxDevicePlugin
  | .kataDevicePlugin =>
    p.sandboxEnabled && p.sandboxMode == some .kata && p.wants .kataSandboxDevicePlugin
  | .kataManager => p.sandboxEnabled && p.wants .kataManager
  | .ccManager => p.sandboxEnabled && p.wants .ccManager

/-- The enabled operands, in the order of deployment. -/
def enabled (p : Plan) : List Operand := Operand.all.filter p.isEnabled

end Plan

end GpuFleet
