import GpuFleet.Proofs.NodeLabels.Decision

/-!
Deploy labels over the life of a node. Updates for any plans alternate with what others do to the
labels, who may change and delete deploy labels but not add them. The invariant is that the two
plugins for passed-through GPUs are never called for together, and that only a node with the mark
has deploy labels at all; by its second part an update may leave a node without the mark as it is.
-/
namespace GpuFleet.NodeLabels

open Kube (Labels)

variable {plan : Plan} {old new : Labels}

structure Safe (labels : Labels) : Prop where
  exclusive : ¬ (DeployLabel.sandboxDevicePlugin.key ∈ labels ∧
    DeployLabel.kataDevicePlugin.key ∈ labels)
  marked : ∀ key ∈ deployKeys, key ∈ labels → labels[gpuPresentKey]? = some "true"

/-- What can happen to the labels of a node. -/
inductive Step : Labels → Labels → Prop
  | updated {labels : Labels} (plan : Plan) (changed : Bool) :
      (update plan labels).verdict = .ok changed → Step labels (update plan labels).labels
  /-- The labels of a rejected update are not used. -/
  | rejected {labels : Labels} (plan : Plan) (r : Policy.Rejection) :
      (update plan labels).verdict = .error r → Step labels labels
  /-- Somebody else has set and deleted labels, but has left the mark alone and has added no deploy
  label. -/
  | edited {old new : Labels} : new[gpuPresentKey]? = old[gpuPresentKey]? →
      (∀ key ∈ deployKeys, key ∈ new → key ∈ old) → Step old new

/-- The labels that can come of others. -/
inductive Reachable (start : Labels) : Labels → Prop
  | start : Reachable start start
  | step {old new : Labels} : Reachable start old → Step old new → Reachable start new

/-! ## The invariant -/

theorem safe_of_no_deploy {labels : Labels} (h : ∀ key ∈ deployKeys, key ∉ labels) :
    Safe labels := by
  refine ⟨fun hboth => ?_, fun key hkey hmem => ?_⟩
  · exact h _ (mem_deployKeys .sandboxDevicePlugin) hboth.1
  · exact absurd hmem (h key hkey)

private theorem plugin_surplus (w : Workload) (mode : Option SandboxMode) :
    DeployLabel.sandboxDevicePlugin.key ∈ surplusKeys (w.deployLabels mode) ∨
      DeployLabel.kataDevicePlugin.key ∈ surplusKeys (w.deployLabels mode) := by
  cases w with
  | container => exact .inl (key_mem_surplusKeys (by decide) (by simp [Workload.deployLabels]))
  | vmVgpu => exact .inr (key_mem_surplusKeys (by decide) (by simp [Workload.deployLabels]))
  | vmPassthrough =>
    rcases mode with _ | _ | _
    · exact .inr (key_mem_surplusKeys (by decide) (by decide))
    · exact .inr (key_mem_surplusKeys (by decide) (by decide))
    · exact .inl (key_mem_surplusKeys (by decide) (by decide))

/-- A workload never calls for both plugins. -/
theorem exclusive_of_inLine {w : Workload} {labels : Labels} (h : InLine plan w labels) :
    ¬ (DeployLabel.sandboxDevicePlugin.key ∈ labels ∧
      DeployLabel.kataDevicePlugin.key ∈ labels) := by
  rintro ⟨hsandbox, hkata⟩
  rcases plugin_surplus w plan.sandboxMode with hsurplus | hsurplus
  · exact h.surplus _ hsurplus hsandbox
  · exact h.surplus _ hsurplus hkata

theorem safe_update {changed : Bool} (hsafe : Safe old)
    (h : (update plan old).verdict = .ok changed) : Safe (update plan old).labels := by
  have hdecision := decision plan old
  generalize update plan old = outcome at h hdecision
  cases hdecision with
  | unchanged => exact hsafe
  | unmarked => exact safe_of_no_deploy (not_mem_removeAll_deployKeys _)
  | disabled => exact safe_of_no_deploy (not_mem_removeAll_deployKeys _)
  | rejected r => cases h
  | settled w =>
    exact ⟨exclusive_of_inLine (inLine_settled plan w old), fun _ _ _ => gpuPresent_settle w⟩

theorem safe_step (hsafe : Safe old) (h : Step old new) : Safe new := by
  cases h with
  | updated plan changed hok => exact safe_update hsafe hok
  | rejected => exact hsafe
  | edited hpresent hdeploy =>
    refine ⟨fun hboth => ?_, fun key hkey hmem => ?_⟩
    · exact hsafe.exclusive ⟨hdeploy _ (mem_deployKeys _) hboth.1,
        hdeploy _ (mem_deployKeys _) hboth.2⟩
    · rw [hpresent]
      exact hsafe.marked key hkey (hdeploy key hkey hmem)

theorem safe_reachable {start labels : Labels} (hstart : ∀ key ∈ deployKeys, key ∉ start)
    (h : Reachable start labels) : Safe labels := by
  induction h with
  | start => exact safe_of_no_deploy hstart
  | step _ hstep ih => exact safe_step ih hstep

/-! ## Nodes on which nothing may run -/

theorem hasGpu_eq_false_iff {labels : Labels} :
    hasGpu labels = false ↔ ∀ key ∈ pciKeys, labels[key]? ≠ some "true" := by
  rw [← Bool.not_eq_true, hasGpu_iff]
  simp

/-- Only a marked node without a GPU need be stripped of its deploy labels. -/
theorem no_deploy_update {changed : Bool} (hsafe : Safe old)
    (h : (update plan old).verdict = .ok changed)
    (hidle : hasGpu old = false ∨ areOperandsDisabled old = true) :
    ∀ key ∈ deployKeys, key ∉ (update plan old).labels := by
  have hdecision := decision plan old
  generalize update plan old = outcome at h hdecision
  cases hdecision with
  | unchanged _ hunmarked =>
    intro key hkey hmem
    rw [isMarkedGpu_iff.mpr (hsafe.marked key hkey hmem)] at hunmarked
    cases hunmarked
  | unmarked => exact not_mem_removeAll_deployKeys _
  | disabled => exact not_mem_removeAll_deployKeys _
  | rejected r => cases h
  | settled w hgpu hdisabled => simp_all

/-- Whatever updates and edits a node without deploy labels goes through, it never carries the
labels of both plugins for passed-through GPUs, and it has the mark of a GPU node if it carries any
deploy label. An update that is not rejected leaves no deploy label on a node that has no GPU or
must not run operands. -/
theorem deploy_labels_safe (start labels : Labels) (hstart : ∀ key ∈ deployKeys, key ∉ start)
    (hreachable : Reachable start labels) :
    ¬ (DeployLabel.sandboxDevicePlugin.key ∈ labels ∧
        DeployLabel.kataDevicePlugin.key ∈ labels) ∧
      ((∃ key ∈ deployKeys, key ∈ labels) → labels[gpuPresentKey]? = some "true") ∧
      ∀ plan changed, (update plan labels).verdict = .ok changed →
        (∀ key ∈ pciKeys, labels[key]? ≠ some "true") ∨ labels[operandsKey]? = some "false" →
        ∀ key ∈ deployKeys, key ∉ (update plan labels).labels := by
  have hsafe := safe_reachable hstart hreachable
  refine ⟨hsafe.exclusive, ?_, fun plan changed hok hidle => ?_⟩
  · rintro ⟨key, hkey, hmem⟩
    exact hsafe.marked key hkey hmem
  · refine no_deploy_update hsafe hok ?_
    rcases hidle with hpci | hoperands
    · exact .inl (hasGpu_eq_false_iff.mpr hpci)
    · right
      simp [areOperandsDisabled, holds, hoperands]

/-- Virtual machines for Kata containers get the GPUs. -/
def kataPlan : Plan where
  spec := { sandbox := { defaultWorkload := some "vm-passthrough", mode := some "kata" } }
  sandboxEnabled := true

/-- The labels of a node in which a GPU has been discovered. -/
def discovered : Labels := Std.ExtTreeMap.ofList [(pciKeys[0], "true")] compare

/-- The labels after an update, when discovery finds the GPU no more. -/
def undiscovered : Labels := (update kataPlan discovered).labels.erase pciKeys[0]

/-- What the updates come to, evaluated. -/
private theorem kata_run :
    (∀ key ∈ deployKeys, key ∉ discovered) ∧
      (update kataPlan discovered).verdict.toOption = some true ∧
      DeployLabel.kataDevicePlugin.key ∈ undiscovered ∧
      undiscovered[gpuPresentKey]? = (update kataPlan discovered).labels[gpuPresentKey]? ∧
      (∀ key ∈ pciKeys, undiscovered[key]? ≠ some "true") ∧
      (update kataPlan undiscovered).verdict.toOption = some true := by
  decide +kernel

/-- A node is prepared for Kata containers, then its GPU goes, and the next update clears it. -/
theorem deploy_labels_safe_kata :
    (∀ key ∈ deployKeys, key ∉ discovered) ∧ Reachable discovered undiscovered ∧
      DeployLabel.kataDevicePlugin.key ∈ undiscovered ∧
      DeployLabel.sandboxDevicePlugin.key ∉ undiscovered ∧
      undiscovered[gpuPresentKey]? = some "true" ∧
      (update kataPlan undiscovered).verdict = .ok true ∧
      ∀ key ∈ deployKeys, key ∉ (update kataPlan undiscovered).labels := by
  obtain ⟨hstart, hprepared, hkata, hpresent, hpci, hcleared⟩ := kata_run
  have hreachable : Reachable discovered undiscovered := by
    refine .step (.step .start (.updated kataPlan true (verdict_of_toOption hprepared)))
      (.edited hpresent ?_)
    intro key _ hmem
    exact Std.ExtTreeMap.mem_of_mem_erase hmem
  obtain ⟨hexclusive, hmarked, hidle⟩ :=
    deploy_labels_safe discovered undiscovered hstart hreachable
  refine ⟨hstart, hreachable, hkata, fun h => hexclusive ⟨h, hkata⟩,
    hmarked ⟨_, mem_deployKeys .kataDevicePlugin, hkata⟩, verdict_of_toOption hcleared, ?_⟩
  exact hidle kataPlan true (verdict_of_toOption hcleared) (.inl hpci)

end GpuFleet.NodeLabels
