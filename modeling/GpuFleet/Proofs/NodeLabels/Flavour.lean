import GpuFleet.Proofs.NodeLabels.Result
import GpuFleet.Proofs.NodeLabels.Safety
import GpuFleet.Proofs.Operand.Wiring

/-!
The two device plugins for passed-through GPUs. Whether one is deployed is decided for the policy,
and whether it may run on a node by the labels of the node. The two decisions agree: where a plugin
is deployed, the nodes that pass their GPUs through are labelled for it and not for the other one.
-/
namespace GpuFleet

namespace SandboxMode

theorem ofName?_eq_some_iff {name : String} {mode : SandboxMode} :
    ofName? name = some mode ↔ mode.name = name := by
  constructor
  · intro h
    simpa using List.find?_some h
  · rintro rfl
    cases mode <;> rfl

end SandboxMode

namespace Policy.SandboxWorkloads

variable {sandbox : SandboxWorkloads}

theorem isEnabled_iff : sandbox.isEnabled = true ↔ sandbox.enabled = some true := by
  unfold isEnabled
  cases sandbox.enabled <;> simp

/-- A mode is only that of its exact name; an unset one is none. -/
theorem ofName?_modeName_iff {mode : SandboxMode} :
    SandboxMode.ofName? sandbox.modeName = some mode ↔ sandbox.mode = some mode.name := by
  rw [SandboxMode.ofName?_eq_some_iff, modeName]
  cases sandbox.mode with
  | none => cases mode <;> decide
  | some name => simp [eq_comm]

end Policy.SandboxWorkloads

namespace Plan

variable {plan : Plan}

theorem mode_of_sandboxDevicePlugin (h : .sandboxDevicePlugin ∈ plan.enabled) :
    plan.sandboxMode = some .kubeVirt := by
  rw [mem_enabled_iff] at h
  simp only [isEnabled, Bool.and_eq_true, beq_iff_eq] at h
  exact h.1.2

theorem mode_of_kataDevicePlugin (h : .kataDevicePlugin ∈ plan.enabled) :
    plan.sandboxMode = some .kata := by
  rw [mem_enabled_iff] at h
  simp only [isEnabled, Bool.and_eq_true, beq_iff_eq] at h
  exact h.1.2

/-- No policy deploys both plugins: each needs the mode that it is made for. -/
theorem not_both_plugins :
    ¬ (.sandboxDevicePlugin ∈ plan.enabled ∧ .kataDevicePlugin ∈ plan.enabled) := by
  rintro ⟨hsandbox, hkata⟩
  have hmode := mode_of_sandboxDevicePlugin hsandbox
  rw [mode_of_kataDevicePlugin hkata] at hmode
  cases hmode

end Plan

namespace Workload

/-- Virtual machines need the sandbox switch. -/
theorem enabled_of_resolve {w : Workload} {labels : Kube.Labels}
    {sandbox : Policy.SandboxWorkloads} {enabled : Bool}
    (h : resolve labels sandbox enabled = .ok w) (hw : w ≠ .container) : enabled = true := by
  cases enabled with
  | true => rfl
  | false => exact absurd (resolve_eq_ok_iff.mp h) hw

end Workload

namespace NodeLabels

open Kube (Labels)

variable {plan : Plan} {w : Workload} {old new : Labels}

theorem Equipped.sandboxDevicePlugin_mem_iff (h : Equipped plan w old new) :
    DeployLabel.sandboxDevicePlugin.key ∈ new ↔
      w = .vmVgpu ∨ w = .vmPassthrough ∧ plan.sandboxMode ≠ some .kata :=
  h.deploy _ (by decide)

theorem Equipped.kataDevicePlugin_mem_iff (h : Equipped plan w old new) :
    DeployLabel.kataDevicePlugin.key ∈ new ↔
      w = .vmPassthrough ∧ plan.sandboxMode = some .kata :=
  h.deploy _ (by decide)

/-- A GPU node that may run operands has a workload, and is made ready for it. -/
theorem exists_equipped {changed : Bool} (hgpu : ∃ key ∈ pciKeys, old[key]? = some "true")
    (hoperands : old[operandsKey]? ≠ some "false")
    (hok : (update plan old).verdict = .ok changed) :
    ∃ w, Workload.resolve old plan.spec.sandbox plan.sandboxEnabled = .ok w ∧
      Equipped plan w old (update plan old).labels := by
  rw [← hasGpu_iff] at hgpu
  rw [ne_eq, ← areOperandsDisabled_iff] at hoperands
  have hdecision := decision plan old
  generalize update plan old = outcome at hok hdecision
  cases hdecision with
  | unchanged hnone => simp [hnone] at hgpu
  | unmarked hnone => simp [hnone] at hgpu
  | disabled _ hdisabled => exact absurd hdisabled hoperands
  | rejected => cases hok
  | settled w _ _ hresolve => exact ⟨w, hresolve, equipped_settle plan w old⟩

/-- A policy deploys at most one of the two plugins, and the labels that an update leaves on a GPU
node that may run operands are those for the plugin that is deployed, whatever labels the node had.
Containers have neither plugin; and no node is labelled for Kata containers unless the mode says so
and sandbox workloads are on. -/
theorem plugin_labels_match_operands (spec : Policy.Spec) (old : Labels) (changed : Bool)
    (hgpu : ∃ key ∈ pciKeys, old[key]? = some "true")
    (hoperands : old[operandsKey]? ≠ some "false")
    (hok : (update (.ofSpec spec) old).verdict = .ok changed) :
    ¬ (.sandboxDevicePlugin ∈ (Plan.ofSpec spec).enabled ∧
        .kataDevicePlugin ∈ (Plan.ofSpec spec).enabled) ∧
      (DeployLabel.kataDevicePlugin.key ∈ (update (.ofSpec spec) old).labels →
        spec.sandbox.mode = some "kata" ∧ spec.sandbox.enabled = some true) ∧
      ∃ w, Workload.resolve old spec.sandbox spec.sandbox.isEnabled = .ok w ∧
        (.kataDevicePlugin ∈ (Plan.ofSpec spec).enabled → w = .vmPassthrough →
          DeployLabel.kataDevicePlugin.key ∈ (update (.ofSpec spec) old).labels ∧
            DeployLabel.sandboxDevicePlugin.key ∉ (update (.ofSpec spec) old).labels) ∧
        (.sandboxDevicePlugin ∈ (Plan.ofSpec spec).enabled → w = .vmPassthrough ∨ w = .vmVgpu →
          DeployLabel.sandboxDevicePlugin.key ∈ (update (.ofSpec spec) old).labels ∧
            DeployLabel.kataDevicePlugin.key ∉ (update (.ofSpec spec) old).labels) ∧
        (w = .container →
          DeployLabel.sandboxDevicePlugin.key ∉ (update (.ofSpec spec) old).labels ∧
            DeployLabel.kataDevicePlugin.key ∉ (update (.ofSpec spec) old).labels) := by
  obtain ⟨w, hresolve, hnew⟩ := exists_equipped hgpu hoperands hok
  rw [hnew.sandboxDevicePlugin_mem_iff, hnew.kataDevicePlugin_mem_iff]
  refine ⟨Plan.not_both_plugins, ?_, w, hresolve, ?_, ?_, ?_⟩
  · rintro ⟨rfl, hmode⟩
    refine ⟨Policy.SandboxWorkloads.ofName?_modeName_iff.mp hmode, ?_⟩
    exact Policy.SandboxWorkloads.isEnabled_iff.mp
      (Workload.enabled_of_resolve hresolve (by decide))
  · rintro hkata rfl
    have hmode := Plan.mode_of_kataDevicePlugin hkata
    simp [hmode]
  · intro hsandbox hw
    have hmode := Plan.mode_of_sandboxDevicePlugin hsandbox
    rcases hw with rfl | rfl <;> simp [hmode]
  · rintro rfl
    simp

/-- A policy for Kata containers, with their device plugin. -/
def kataSpec : Policy.Spec where
  sandbox := { enabled := some true, mode := some "kata" }
  component c := { enabled := some (c == .kataSandboxDevicePlugin) }

/-- The labels of a node that passes its GPU through, and did so for KubeVirt. -/
def formerKubeVirt : Labels :=
  (discovered.insert workloadKey "vm-passthrough").insert DeployLabel.sandboxDevicePlugin.key "true"

private theorem formerKubeVirt_run :
    (∃ key ∈ pciKeys, formerKubeVirt[key]? = some "true") ∧
      formerKubeVirt[operandsKey]? ≠ some "false" ∧
      (update (.ofSpec kataSpec) formerKubeVirt).verdict.toOption = some true ∧
      .kataDevicePlugin ∈ (Plan.ofSpec kataSpec).enabled ∧
      (Workload.resolve formerKubeVirt kataSpec.sandbox
        kataSpec.sandbox.isEnabled).toOption = some .vmPassthrough := by
  decide +kernel

/-- The label for KubeVirt gives way to that for Kata containers. -/
theorem plugin_labels_match_operands_kata :
    (∃ key ∈ pciKeys, formerKubeVirt[key]? = some "true") ∧
      formerKubeVirt[operandsKey]? ≠ some "false" ∧
      (update (.ofSpec kataSpec) formerKubeVirt).verdict = .ok true ∧
      .kataDevicePlugin ∈ (Plan.ofSpec kataSpec).enabled ∧
      DeployLabel.sandboxDevicePlugin.key ∈ formerKubeVirt ∧
      DeployLabel.kataDevicePlugin.key ∈ (update (.ofSpec kataSpec) formerKubeVirt).labels ∧
      DeployLabel.sandboxDevicePlugin.key ∉ (update (.ofSpec kataSpec) formerKubeVirt).labels := by
  obtain ⟨hgpu, hoperands, hverdict, henabled, hworkload⟩ := formerKubeVirt_run
  have hok := verdict_of_toOption hverdict
  obtain ⟨-, -, w, hresolve, hkata, -⟩ :=
    plugin_labels_match_operands kataSpec formerKubeVirt true hgpu hoperands hok
  rw [hresolve] at hworkload
  exact ⟨hgpu, hoperands, hok, henabled, by decide +kernel,
    hkata henabled (Option.some.inj hworkload)⟩

end NodeLabels

end GpuFleet
