import GpuFleet.Proofs.NodeLabels.Decision

/-!
What an update makes of every label. It writes the mark, the deploy labels and the partitioning that
is asked for, and nothing else; and each of these is fixed by the hardware, the operands label, the
workload in force and the value that the label had before.
-/
namespace GpuFleet

namespace Workload

open Policy (Rejection WorkloadSource)

variable {labels : Kube.Labels} {sandbox : Policy.SandboxWorkloads} {enabled : Bool}

theorem ofName?_eq_some_iff {name : String} {w : Workload} :
    ofName? name = some w ↔ w.name = name := by
  constructor
  · intro h
    simpa using List.find?_some h
  · rintro rfl
    cases w <;> rfl

/-- The name that decides on the workload where sandbox workloads are on, and where it is given. -/
def nameInForce (labels : Kube.Labels) (sandbox : Policy.SandboxWorkloads) :
    String × WorkloadSource :=
  match labels[NodeLabels.workloadKey]? with
  | some name => (name, .nodeLabel)
  | none => (sandbox.workloadName, .policyDefault)

theorem resolve_eq : resolve labels sandbox enabled =
    if enabled then named (nameInForce labels sandbox).1 (nameInForce labels sandbox).2
    else .ok .container := by
  unfold resolve nameInForce
  cases labels[NodeLabels.workloadKey]? <;> rfl

theorem resolve_eq_ok_iff {w : Workload} : resolve labels sandbox enabled = .ok w ↔
    if enabled then w.name = (nameInForce labels sandbox).1 else w = .container := by
  rw [resolve_eq]
  cases enabled with
  | false => simp [eq_comm]
  | true =>
    rw [if_pos rfl, if_pos rfl, ← ofName?_eq_some_iff, named]
    cases ofName? (nameInForce labels sandbox).1 <;> simp

theorem resolve_eq_error_iff {r : Rejection} : resolve labels sandbox enabled = .error r ↔
    enabled = true ∧ (∀ w : Workload, w.name ≠ (nameInForce labels sandbox).1) ∧
      r = .unknownWorkload (nameInForce labels sandbox).1 (nameInForce labels sandbox).2 := by
  have hnone : (∀ w : Workload, w.name ≠ (nameInForce labels sandbox).1) ↔
      ofName? (nameInForce labels sandbox).1 = none := by
    simp only [Option.eq_none_iff_forall_ne_some, ne_eq, ofName?_eq_some_iff]
  rw [resolve_eq, hnone]
  cases enabled with
  | false => simp
  | true =>
    rw [if_pos rfl, named]
    cases ofName? (nameInForce labels sandbox).1 <;> simp [eq_comm]

/-- The workload, in that mode of virtual machines, calls for the label. All but the device plugins
of virtual machines are a matter of the workload alone. -/
def CallsFor (w : Workload) (mode : Option SandboxMode) : NodeLabels.DeployLabel → Prop
  | .driver | .featureDiscovery | .toolkit | .devicePlugin | .dcgm | .dcgmExporter
  | .nodeStatusExporter | .operatorValidator => w = .container
  | .sandboxValidator | .kataManager | .ccManager => w = .vmPassthrough ∨ w = .vmVgpu
  | .vfioManager => w = .vmPassthrough
  | .vgpuManager | .vgpuDeviceManager => w = .vmVgpu
  | .sandboxDevicePlugin => w = .vmVgpu ∨ w = .vmPassthrough ∧ mode ≠ some .kata
  | .kataDevicePlugin => w = .vmPassthrough ∧ mode = some .kata
  | .migManager => False

theorem mem_deployLabels_iff {w : Workload} {mode : Option SandboxMode}
    {l : NodeLabels.DeployLabel} : l ∈ w.deployLabels mode ↔ w.CallsFor mode l := by
  rcases w with _ | _ | _ <;> rcases mode with _ | _ | _ <;> cases l <;>
    simp [deployLabels, passthroughPlugin, CallsFor]

end Workload

namespace NodeLabels

open Kube (Labels)
open Policy (Rejection)

variable {plan : Plan} {w : Workload} {old new : Labels}

/-! ## The labels of a workload -/

theorem key_mem_iff {l : DeployLabel} {wanted : List DeployLabel} :
    l.key ∈ wanted.map DeployLabel.key ↔ l ∈ wanted := by
  refine ⟨fun h => ?_, List.mem_map_of_mem⟩
  obtain ⟨m, hm, hkey⟩ := List.mem_map.mp h
  exact key_inj m (DeployLabel.mem_all m) l (DeployLabel.mem_all l) hkey ▸ hm

/-- The names of the deploy labels are those of no other label that is written. -/
theorem key_ne (l : DeployLabel) : gpuPresentKey ≠ l.key ∧ migConfigKey ≠ l.key :=
  ⟨fun h => other_keys.2.1 (h ▸ mem_deployKeys l), fun h => other_keys.1 (h ▸ mem_deployKeys l)⟩

theorem getElem?_settleMig_migManager (e : Edit) (w : Workload) :
    (settleMig e w).labels[DeployLabel.migManager.key]? =
      if w = .container ∧ isMigCapable e.labels = true then
        some (e.labels[DeployLabel.migManager.key]?.getD "true")
      else none := by
  have hconfig := (key_ne .migManager).2
  unfold settleMig
  split
  · simp only
    split
    · rw [Edit.getElem?_addMissing, if_neg hconfig, Edit.getElem?_addMissing, if_pos rfl]
    · rw [Edit.getElem?_addMissing, if_pos rfl]
  · rw [Edit.getElem?_remove, if_pos rfl]

/-- A partitioning is asked for where the MIG manager may run, unless one is asked for already. -/
theorem getElem?_settleMig_migConfig (e : Edit) (w : Workload) :
    (settleMig e w).labels[migConfigKey]? = e.labels[migConfigKey]?.or
      (if hasMigManager (settleMig e w).labels = true then some migConfigDefault else none) := by
  have hkeys := (key_ne .migManager).2.symm
  unfold settleMig
  split
  · simp only
    split
    · next hmanager =>
      have hkept : hasMigManager ((e.addMissing DeployLabel.migManager.key "true").addMissing
          migConfigKey migConfigDefault).labels = true := by
        rwa [hasMigManager, holds, Edit.getElem?_addMissing, if_neg hkeys.symm]
      rw [if_pos hkept, Edit.getElem?_addMissing, if_pos rfl, Edit.getElem?_addMissing,
        if_neg hkeys]
      cases e.labels[migConfigKey]? <;> rfl
    · rw [Option.or_none, Edit.getElem?_addMissing, if_neg hkeys]
  · have hgone : hasMigManager (e.remove DeployLabel.migManager.key).labels = false := by
      rw [hasMigManager, holds, Edit.getElem?_remove, if_pos rfl]
      rfl
    rw [hgone, if_neg Bool.false_ne_true, Option.or_none, Edit.getElem?_remove, if_neg hkeys]

/-! ## What an update leaves -/

/-- No deploy label is left, and the mark says `present`. -/
structure Cleared (present : String) (old new : Labels) : Prop where
  mark : new[gpuPresentKey]? = some present
  deploy : ∀ key ∈ deployKeys, key ∉ new
  others : ∀ key, gpuPresentKey ≠ key → key ∉ deployKeys → new[key]? = old[key]?

/-- The node is ready for its workload: it has the deploy labels that the workload calls for, and
what it had before keeps its value. -/
structure Equipped (plan : Plan) (w : Workload) (old new : Labels) : Prop where
  mark : new[gpuPresentKey]? = some "true"
  deploy : ∀ l, l ≠ .migManager → (l.key ∈ new ↔ w.CallsFor plan.sandboxMode l)
  migManager : DeployLabel.migManager.key ∈ new ↔ w = .container ∧ IsPartitionable old
  kept : ∀ l : DeployLabel, l.key ∈ new → new[l.key]? = some (old[l.key]?.getD "true")
  migConfig : new[migConfigKey]? = old[migConfigKey]?.or
    (if new[DeployLabel.migManager.key]? = some "true" then some migConfigDefault else none)
  others : SameElsewhere old new

theorem cleared_removeAll {e : Edit} {present : String}
    (hmark : e.labels[gpuPresentKey]? = some present)
    (hothers : ∀ key, gpuPresentKey ≠ key → e.labels[key]? = old[key]?) :
    Cleared present old (e.removeAll deployKeys).labels where
  mark := by rw [Edit.getElem?_removeAll, if_neg other_keys.2.1, hmark]
  deploy := not_mem_removeAll_deployKeys e
  others key hkey hdeploy := by rw [Edit.getElem?_removeAll, if_neg hdeploy, hothers key hkey]

theorem cleared_unmark (labels : Labels) : Cleared "false" labels (unmark labels).labels :=
  cleared_removeAll (by rw [Edit.getElem?_set, if_pos rfl]) fun key hkey => by
    rw [Edit.getElem?_set, if_neg hkey]

theorem cleared_mark (labels : Labels) :
    Cleared "true" labels ((mark labels).removeAll deployKeys).labels :=
  cleared_removeAll (by rw [getElem?_mark, if_pos rfl]) fun key hkey => by
    rw [getElem?_mark, if_neg hkey]

/-- The deploy labels before the step of the MIG manager, that of the MIG manager apart. -/
theorem getElem?_settle {l : DeployLabel} (h : l ≠ .migManager) :
    (settle plan w old).labels[l.key]? =
      if l ∈ w.deployLabels plan.sandboxMode then some (old[l.key]?.getD "true") else none := by
  have hmanager : DeployLabel.migManager.key ≠ l.key := fun hkey =>
    h (key_inj l (DeployLabel.mem_all l) .migManager (DeployLabel.mem_all _) hkey.symm)
  rw [settle, getElem?_settleMig _ w hmanager (key_ne l).2, getElem?_settleDeploy, getElem?_mark,
    if_neg (key_ne l).1]
  simp only [key_mem_iff]
  by_cases hwanted : l ∈ w.deployLabels plan.sandboxMode
  · rw [if_pos hwanted, if_pos hwanted]
  · rw [if_neg hwanted, if_neg hwanted, if_pos (key_mem_surplusKeys h hwanted)]

/-- The step that settles the other deploy labels leaves that of the MIG manager alone. -/
theorem settleDeploy_migManager (plan : Plan) (w : Workload) (old : Labels) :
    (settleDeploy (mark old)
      (w.deployLabels plan.sandboxMode)).labels[DeployLabel.migManager.key]? =
      old[DeployLabel.migManager.key]? := by
  rw [getElem?_settleDeploy, if_neg (migManager_not_wanted w _), if_neg (migManager_not_surplus _),
    getElem?_mark, if_neg (key_ne _).1]

theorem isMigCapable_settleDeploy (plan : Plan) (w : Workload) (old : Labels) :
    isMigCapable (settleDeploy (mark old) (w.deployLabels plan.sandboxMode)).labels =
      isMigCapable old := by
  refine isMigCapable_congr fun key hkey => ?_
  obtain ⟨hpresent, -, hdeploy⟩ := not_written hkey
  rw [getElem?_settleDeploy_of_not_mem _ _ hdeploy, getElem?_mark, if_neg hpresent]

theorem getElem?_settle_migManager : (settle plan w old).labels[DeployLabel.migManager.key]? =
    if w = .container ∧ isMigCapable old = true then
      some (old[DeployLabel.migManager.key]?.getD "true")
    else none := by
  rw [settle, getElem?_settleMig_migManager, isMigCapable_settleDeploy, settleDeploy_migManager]

theorem getElem?_settle_migConfig : (settle plan w old).labels[migConfigKey]? =
    old[migConfigKey]?.or (if hasMigManager (settle plan w old).labels = true then
      some migConfigDefault else none) := by
  rw [settle, getElem?_settleMig_migConfig, getElem?_settleDeploy_of_not_mem _ _ other_keys.1,
    getElem?_mark, if_neg other_keys.2.2.symm]

theorem equipped_settle (plan : Plan) (w : Workload) (old : Labels) :
    Equipped plan w old (settle plan w old).labels where
  mark := gpuPresent_settle w
  deploy l h := by
    rw [mem_iff, getElem?_settle h, ← Workload.mem_deployLabels_iff]
    by_cases hwanted : l ∈ w.deployLabels plan.sandboxMode <;> simp [hwanted]
  migManager := by
    rw [mem_iff, getElem?_settle_migManager, ← isMigCapable_iff]
    by_cases hmig : w = .container ∧ isMigCapable old = true <;> simp [hmig]
  kept l h := by
    rw [mem_iff] at h
    by_cases hl : l = .migManager
    · rw [hl, getElem?_settle_migManager] at h ⊢
      exact if_pos (Classical.byContradiction fun hmig => h (if_neg hmig))
    · rw [getElem?_settle hl] at h ⊢
      exact if_pos (Classical.byContradiction fun hwanted => h (if_neg hwanted))
  migConfig := by
    simp only [getElem?_settle_migConfig, hasMigManager_iff]
  others key hkey := by
    obtain ⟨hpresent, hconfig, hdeploy⟩ := not_written hkey
    rw [settle, settle_sameElsewhere _ _ w hdeploy hconfig, getElem?_mark, if_neg hpresent]

/-- An update that is not rejected leaves exactly this. On a node without a GPU the mark is taken
back with all deploy labels, or, if there is none, nothing happens. On a GPU node that must not run
operands the mark is set and all deploy labels go. On any other GPU node there is a workload in
force: that of the name in force, or containers where sandbox workloads are off; and the node is
made ready for it. An update is rejected exactly if the name in force on such a node is that of no
workload. -/
theorem update_decides (plan : Plan) (old : Labels) :
    (∀ changed, (update plan old).verdict = .ok changed →
      ((¬ ∃ key ∈ pciKeys, old[key]? = some "true") →
        if old[gpuPresentKey]? = some "true" then Cleared "false" old (update plan old).labels
        else (update plan old).labels = old) ∧
      ((∃ key ∈ pciKeys, old[key]? = some "true") →
        if old[operandsKey]? = some "false" then Cleared "true" old (update plan old).labels
        else ∃ w, (if plan.sandboxEnabled then
            w.name = (Workload.nameInForce old plan.spec.sandbox).1 else w = .container) ∧
          Equipped plan w old (update plan old).labels)) ∧
    ∀ r, (update plan old).verdict = .error r ↔
      (∃ key ∈ pciKeys, old[key]? = some "true") ∧ old[operandsKey]? ≠ some "false" ∧
        plan.sandboxEnabled = true ∧
        (∀ w : Workload, w.name ≠ (Workload.nameInForce old plan.spec.sandbox).1) ∧
        r = .unknownWorkload (Workload.nameInForce old plan.spec.sandbox).1
          (Workload.nameInForce old plan.spec.sandbox).2 := by
  simp only [← hasGpu_iff, ← areOperandsDisabled_iff, ← isMarkedGpu_iff, ne_eq,
    ← Workload.resolve_eq_error_iff, ← Workload.resolve_eq_ok_iff]
  have hdecision := decision plan old
  generalize update plan old = outcome at hdecision
  cases hdecision with
  | unchanged hgpu hmarked => simp [hgpu, hmarked]
  | unmarked hgpu hmarked =>
    refine ⟨fun _ _ => ⟨fun _ => ?_, fun h => ?_⟩, fun r => ?_⟩
    · rw [if_pos hmarked]
      exact cleared_unmark old
    · simp [hgpu] at h
    · simp [Outcome.ofEdit, hgpu]
  | disabled hgpu hdisabled =>
    refine ⟨fun _ _ => ⟨fun h => absurd hgpu h, fun _ => ?_⟩, fun r => ?_⟩
    · rw [if_pos hdisabled]
      exact cleared_mark old
    · simp [Outcome.ofEdit, hdisabled]
  | rejected r hgpu hdisabled hresolve =>
    refine ⟨nofun, fun r' => ?_⟩
    simp [hgpu, hdisabled, hresolve]
  | settled w hgpu hdisabled hresolve =>
    refine ⟨fun _ _ => ⟨fun h => absurd hgpu h, fun _ => ?_⟩, fun r => ?_⟩
    · rw [if_neg (by simp [hdisabled])]
      exact ⟨w, hresolve, equipped_settle plan w old⟩
    · simp [Outcome.ofEdit, hresolve]

end NodeLabels

end GpuFleet
