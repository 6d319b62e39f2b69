import GpuFleet.Proofs.NodeLabels.Update

/-!
The ways in which an update of a node's labels can end. The labels that are read for the choice are
none of those that an update writes, so each way is told by the labels as they are before.
-/
namespace GpuFleet.NodeLabels

open Kube (Labels)
open Policy (Rejection)

variable {plan : Plan} {old : Labels}

/-! ## What is read -/

theorem isMarkedGpu_iff : isMarkedGpu old = true ↔ old[gpuPresentKey]? = some "true" := by
  simp [isMarkedGpu, holds]

theorem areOperandsDisabled_iff :
    areOperandsDisabled old = true ↔ old[operandsKey]? = some "false" := by
  simp [areOperandsDisabled, holds]

theorem hasMigManager_iff :
    hasMigManager old = true ↔ old[DeployLabel.migManager.key]? = some "true" := by
  simp [hasMigManager, holds]

theorem hasGpu_iff : hasGpu old = true ↔ ∃ key ∈ pciKeys, old[key]? = some "true" := by
  simp [hasGpu, holds]

theorem isVgpuHost_iff : isVgpuHost old = false ↔ old[vgpuHostDriverKey]?.getD "" = "" := by
  unfold isVgpuHost
  cases old[vgpuHostDriverKey]? <;> simp

theorem occursIn_iff {pattern text : List Char} :
    occursIn pattern text = true ↔ pattern <:+: text := by
  induction text with
  | nil => rw [occursIn, List.isEmpty_iff, List.infix_nil]
  | cons c text ih =>
    rw [occursIn, Bool.or_eq_true, List.isPrefixOf_iff_prefix, ih, List.infix_cons_iff]

/-- The GPU of a node can be partitioned. The label that says so decides, and without it the name of
the model, in any letter case; but a vGPU host shares its GPU in another way. -/
structure IsPartitionable (labels : Labels) : Prop where
  noVgpuHost : labels[vgpuHostDriverKey]?.getD "" = ""
  capable : labels[migCapableKey]? = some "true" ∨
    labels[migCapableKey]? = none ∧ ∃ product, labels[productKey]? = some product ∧
      ∃ model ∈ ["a100", "a30", "h100", "h200"],
        model.toList <:+: product.toList.map Char.toLower

theorem isMigCapable_iff : isMigCapable old = true ↔ IsPartitionable old := by
  constructor
  · intro h
    unfold isMigCapable at h
    split at h
    · cases h
    · next hhost =>
      refine ⟨isVgpuHost_iff.mp (Bool.eq_false_iff.mpr hhost), ?_⟩
      cases hlabel : old[migCapableKey]? with
      | some value => exact .inl (congrArg some (by simpa [hlabel] using h))
      | none =>
        cases hproduct : old[productKey]? with
        | none => simp [hlabel, hproduct] at h
        | some product =>
          simp only [hlabel, hproduct, isPartitionableModel, List.any_eq_true, occursIn_iff] at h
          exact .inr ⟨rfl, product, rfl, h⟩
  · rintro ⟨hhost, hlabel | ⟨hlabel, product, hproduct, hmodel⟩⟩
    · simp [isMigCapable, isVgpuHost_iff.mpr hhost, hlabel]
    · simp only [isMigCapable, isVgpuHost_iff.mpr hhost, hlabel, hproduct, isPartitionableModel,
        List.any_eq_true, occursIn_iff, Bool.false_eq_true, if_false]
      exact hmodel

/-! ## What is decided -/

/-- The labels of a node without a GPU whose mark is taken back. -/
def unmark (labels : Labels) : Edit :=
  ((Edit.mk labels false).set gpuPresentKey "false").removeAll deployKeys

/-- The labels of a GPU node that runs a workload. -/
def settle (plan : Plan) (w : Workload) (labels : Labels) : Edit :=
  settleMig (settleDeploy (mark labels) (w.deployLabels plan.sandboxMode)) w

/-- The outcome of an update, by what the labels say about the node. -/
inductive Decision (plan : Plan) (old : Labels) : Outcome → Prop
  /-- The node has no GPU, and is not marked. -/
  | unchanged : hasGpu old = false → isMarkedGpu old = false → Decision plan old ⟨old, .ok false⟩
  /-- The GPU of the node has gone. -/
  | unmarked : hasGpu old = false → isMarkedGpu old = true →
      Decision plan old (.ofEdit (unmark old))
  /-- No operand may run on the node. -/
  | disabled : hasGpu old = true → areOperandsDisabled old = true →
      Decision plan old (.ofEdit ((mark old).removeAll deployKeys))
  /-- The workload of the node is none. -/
  | rejected (r : Rejection) : hasGpu old = true → areOperandsDisabled old = false →
      Workload.resolve old plan.spec.sandbox plan.sandboxEnabled = .error r →
      Decision plan old ⟨(mark old).labels, .error r⟩
  | settled (w : Workload) : hasGpu old = true → areOperandsDisabled old = false →
      Workload.resolve old plan.spec.sandbox plan.sandboxEnabled = .ok w →
      Decision plan old (.ofEdit (settle plan w old))

theorem decision (plan : Plan) (old : Labels) : Decision plan old (update plan old) := by
  have hread := mark_sameElsewhere old
  unfold update
  cases hgpu : hasGpu old with
  | false =>
    cases hmarked : isMarkedGpu old with
    | false => exact .unchanged hgpu hmarked
    | true => exact .unmarked hgpu hmarked
  | true =>
    simp only [if_true, areOperandsDisabled_congr hread, resolve_congr hread]
    cases hdisabled : areOperandsDisabled old with
    | true => exact .disabled hgpu hdisabled
    | false =>
      cases hresolve : Workload.resolve old plan.spec.sandbox plan.sandboxEnabled with
      | error r => exact .rejected r hgpu hdisabled hresolve
      | ok w => exact .settled w hgpu hdisabled hresolve

theorem verdict_of_toOption {o : Outcome} {changed : Bool}
    (h : o.verdict.toOption = some changed) : o.verdict = .ok changed := by
  cases hverdict : o.verdict with
  | error r => simp [hverdict, Except.toOption] at h
  | ok b => simpa [hverdict, Except.toOption] using h

/-! ## What each way leaves -/

theorem not_mem_removeAll_deployKeys (e : Edit) :
    ∀ key ∈ deployKeys, key ∉ (e.removeAll deployKeys).labels := by
  intro key hkey
  refine not_mem_of_removed ?_
  rw [Edit.getElem?_removeAll, if_pos hkey]

theorem gpuPresent_settle (w : Workload) :
    (settle plan w old).labels[gpuPresentKey]? = some "true" := by
  rw [settle, settle_sameElsewhere _ _ w other_keys.2.1 other_keys.2.2, getElem?_mark, if_pos rfl]

theorem inLine_settled (plan : Plan) (w : Workload) (labels : Labels) :
    InLine plan w (settle plan w labels).labels := inLine_settle (mark labels) w

end GpuFleet.NodeLabels
