import GpuFleet.Operand.Plan
import Mathlib.Data.List.Basic
import Mathlib.Data.List.Nodup

/-!
How operands hang on the settings. An operand is enabled by three things: by the sandbox switch if
it serves virtual machines, by the mode if it is made for one, and by the settings of its own
component if it deploys one. The settings of other components have no part in it.
-/
namespace GpuFleet

namespace Policy.Spec

/-- The two specs are the same but for the settings of some components. -/
structure SameExcept (a b : Spec) (changed : Component → Prop) : Prop where
  runtime : a.defaultRuntime = b.defaultRuntime
  sandbox : a.sandbox = b.sandbox
  cdi : a.cdi = b.cdi
  strategy : a.migStrategy = b.migStrategy
  component : ∀ c, ¬ changed c → a.component c = b.component c

/-- The settings with a component enabled. -/
def enable (spec : Spec) (c : Component) : Spec :=
  { spec with
    component := fun d =>
      if d = c then { spec.component c with enabled := some true } else spec.component d }

theorem isEnabled_component_enable {spec : Spec} {c d : Component} :
    ((spec.enable c).component d).isEnabled = true ↔
      d = c ∨ (spec.component d).isEnabled = true := by
  by_cases h : d = c <;> simp [enable, h, ComponentSpec.isEnabled]

end Policy.Spec

namespace Operand

/-- The operands of virtual-machine workloads. -/
def sandboxGroup : List Operand :=
  [.vgpuManager, .vgpuDeviceManager, .sandboxValidation, .vfioManager, .sandboxDevicePlugin,
   .kataDevicePlugin, .kataManager, .ccManager]

/-- The mode that the operand is made for. -/
def mode? : Operand → Option SandboxMode
  | .sandboxDevicePlugin => some .kubeVirt
  | .kataDevicePlugin => some .kata
  | _ => none

theorem nodup_all : all.Nodup := by decide

/-- Every component is deployed by exactly one operand. -/
theorem exists_component?_iff (c : Policy.Component) :
    ∃ o : Operand, ∀ p : Operand, p.component? = some c ↔ p = o := by
  have hfound : ∀ c : Policy.Component, ∃ o ∈ all, ∀ p ∈ all, p.component? = some c ↔ p = o := by
    decide
  obtain ⟨o, -, ho⟩ := hfound c
  exact ⟨o, fun p => ho p (mem_all p)⟩

end Operand

namespace Plan

variable {p q : Plan} {o : Operand} {c : Policy.Component}

theorem mem_enabled_iff : o ∈ p.enabled ↔ p.isEnabled o = true := by
  rw [enabled, List.mem_filter]
  exact and_iff_right (Operand.mem_all o)

/-- What it takes for an operand to be enabled. -/
theorem isEnabled_iff : p.isEnabled o = true ↔
    (o ∈ Operand.sandboxGroup → p.sandboxEnabled = true) ∧
      (∀ mode, o.mode? = some mode → p.sandboxMode = some mode) ∧
      ∀ c, o.component? = some c → p.wants c = true := by
  -- the only place where the conditions of the operands are looked at one by one
  cases o <;>
    simp [isEnabled, Operand.sandboxGroup, Operand.mode?, Operand.component?, and_assoc]

theorem wants_of_isEnabled (h : p.isEnabled o = true) (hc : o.component? = some c) :
    p.wants c = true := (isEnabled_iff.mp h).2.2 c hc

/-- Of the settings an operand sees those of its component, and those for sandbox workloads. -/
theorem isEnabled_congr (hswitch : p.sandboxEnabled = q.sandboxEnabled)
    (hsandbox : p.spec.sandbox = q.spec.sandbox)
    (hcomponent : ∀ c, o.component? = some c → p.spec.component c = q.spec.component c) :
    p.isEnabled o = q.isEnabled o := by
  have hwants : (∀ c, o.component? = some c → p.wants c = true) ↔
      ∀ c, o.component? = some c → q.wants c = true :=
    forall₂_congr fun c hc => by rw [wants, wants, hcomponent c hc]
  rw [Bool.eq_iff_iff, isEnabled_iff, isEnabled_iff, hwants, hswitch, sandboxMode, sandboxMode,
    hsandbox]

theorem isEnabled_of_sameExcept {a b : Policy.Spec} {changed : Policy.Component → Prop}
    (h : a.SameExcept b changed) (sandboxEnabled : Bool)
    (hown : ∀ c, o.component? = some c → ¬ changed c) :
    isEnabled ⟨a, sandboxEnabled⟩ o = isEnabled ⟨b, sandboxEnabled⟩ o :=
  isEnabled_congr rfl h.sandbox fun c hc => h.component c (hown c hc)

theorem nodup_enabled (p : Plan) : p.enabled.Nodup := Operand.nodup_all.filter _

/-- Two plans that agree on all operands but one deploy the same but for that one. -/
theorem erase_enabled_congr (h : ∀ r, r ≠ o → p.isEnabled r = q.isEnabled r) :
    p.enabled.erase o = q.enabled.erase o := by
  rw [p.nodup_enabled.erase_eq_filter, q.nodup_enabled.erase_eq_filter, enabled, enabled,
    List.filter_filter, List.filter_filter]
  refine List.filter_congr fun r _ => ?_
  by_cases hr : r = o
  · simp [hr]
  · simp [h r hr]

/-- To enable a component disables nothing. -/
theorem isEnabled_enable {spec : Policy.Spec} {sandboxEnabled : Bool}
    (h : isEnabled ⟨spec, sandboxEnabled⟩ o = true) :
    isEnabled ⟨spec.enable c, sandboxEnabled⟩ o = true := by
  rw [isEnabled_iff] at h ⊢
  refine ⟨h.1, h.2.1, fun d hd => ?_⟩
  exact Policy.Spec.isEnabled_component_enable.mpr (.inr (h.2.2 d hd))

theorem not_mem_enabled_of_sandboxGroup (hswitch : p.sandboxEnabled = false)
    (ho : o ∈ Operand.sandboxGroup) : o ∉ p.enabled := by
  rw [mem_enabled_iff, isEnabled_iff]
  intro h
  rw [h.1 ho] at hswitch
  cases hswitch

/-- An operand is enabled only together with its component, and the settings of all other components
make no difference to it. So settings that differ in one component differ at most in whether the one
operand of that component is enabled, and to enable a component disables nothing. The enabled
operands stand in the order of deployment, each once, and none of them is for virtual machines where
the sandbox switch is off. -/
theorem components_do_not_interfere (spec : Policy.Spec) (sandboxEnabled : Bool) :
    (∀ o, o ∈ enabled ⟨spec, sandboxEnabled⟩ ↔ isEnabled ⟨spec, sandboxEnabled⟩ o = true) ∧
      (∀ o c, o ∈ enabled ⟨spec, sandboxEnabled⟩ → o.component? = some c →
        (spec.component c).isEnabled = true) ∧
      (∀ o other, spec.SameExcept other (fun c => o.component? ≠ some c) →
        (o ∈ enabled ⟨spec, sandboxEnabled⟩ ↔ o ∈ enabled ⟨other, sandboxEnabled⟩)) ∧
      (∀ c, ∃ o : Operand, (∀ p : Operand, p.component? = some c ↔ p = o) ∧
        ∀ other, spec.SameExcept other (· = c) →
          (enabled ⟨spec, sandboxEnabled⟩).erase o = (enabled ⟨other, sandboxEnabled⟩).erase o) ∧
      (∀ c, (enabled ⟨spec, sandboxEnabled⟩).Sublist
        (enabled ⟨spec.enable c, sandboxEnabled⟩)) ∧
      (enabled ⟨spec, sandboxEnabled⟩).Sublist Operand.all ∧
      (enabled ⟨spec, sandboxEnabled⟩).Nodup ∧
      (sandboxEnabled = false →
        ∀ o ∈ Operand.sandboxGroup, o ∉ enabled ⟨spec, sandboxEnabled⟩) := by
  refine ⟨fun o => mem_enabled_iff, fun o c ho hc => ?_, fun o other hsame => ?_, fun c => ?_,
    fun c => ?_, List.filter_sublist, nodup_enabled _,
    fun hswitch o => not_mem_enabled_of_sandboxGroup hswitch⟩
  · exact wants_of_isEnabled (mem_enabled_iff.mp ho) hc
  · rw [mem_enabled_iff, mem_enabled_iff,
      isEnabled_of_sameExcept hsame sandboxEnabled fun c hc hother => hother hc]
  · obtain ⟨o, ho⟩ := Operand.exists_component?_iff c
    refine ⟨o, ho, fun other hsame => erase_enabled_congr fun r hr => ?_⟩
    refine isEnabled_of_sameExcept hsame sandboxEnabled ?_
    rintro _ hc rfl
    exact hr ((ho r).mp hc)
  · exact List.monotone_filter_right _ fun r hr => isEnabled_enable hr

/-- Everything is enabled. -/
def fullSpec : Policy.Spec where
  component _ := { enabled := some true }
  sandbox := { enabled := some true, mode := some "kata" }

/-- Everything is enabled but for one component. -/
def fullSpecBut (c : Policy.Component) : Policy.Spec :=
  { fullSpec with component := fun d => if d = c then {} else fullSpec.component d }

theorem components_do_not_interfere_dcgm :
    fullSpec.SameExcept (fullSpecBut .dcgm) (· = .dcgm) ∧
      (∃ o : Operand, o.component? = some .dcgm ∧
        (enabled ⟨fullSpec, false⟩).erase o = (enabled ⟨fullSpecBut .dcgm, false⟩).erase o) ∧
      (.driver ∈ enabled ⟨fullSpec, false⟩ ↔ .driver ∈ enabled ⟨fullSpecBut .dcgm, false⟩) ∧
      .driver ∈ enabled ⟨fullSpec, false⟩ ∧ (fullSpec.component .driver).isEnabled = true ∧
      .kataManager ∉ enabled ⟨fullSpec, false⟩ := by
  have hsame : fullSpec.SameExcept (fullSpecBut .dcgm) (· = .dcgm) :=
    ⟨rfl, rfl, rfl, rfl, fun c hc => (if_neg hc).symm⟩
  have hdriver : .driver ∈ enabled ⟨fullSpec, false⟩ := by decide
  have hother : fullSpec.SameExcept (fullSpecBut .dcgm)
      (fun c => Operand.driver.component? ≠ some c) :=
    ⟨rfl, rfl, rfl, rfl, by rintro c hc; cases not_not.mp hc; rfl⟩
  obtain ⟨-, hcomponent, hnone, hone, -, -, -, hswitch⟩ :=
    components_do_not_interfere fullSpec false
  obtain ⟨o, ho, herase⟩ := hone .dcgm
  exact ⟨hsame, ⟨o, (ho o).mpr rfl, herase _ hsame⟩, hnone .driver _ hother, hdriver,
    hcomponent .driver .driver hdriver rfl, hswitch rfl .kataManager (by decide)⟩

end Plan

end GpuFleet
