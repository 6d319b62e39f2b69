import GpuFleet.NodeLabels.Update

/-!
Labels brought in line stay as they are. An update reads labels that it never writes, so that a
second one comes to the same verdict on the node; and it leaves exactly the deploy labels that this
verdict calls for, so that no step of the second one has anything left to change.
-/
namespace GpuFleet.NodeLabels

open Kube (Labels)

/-! ## Steps of an edit -/

namespace Edit

variable {e : Edit} {keys : List String} {key k value : String}

theorem getElem?_set : (e.set key value).labels[k]? =
    if key = k then some value else e.labels[k]? := by
  simp [set, Std.ExtTreeMap.getElem?_insert]

theorem getElem?_remove : (e.remove key).labels[k]? = if key = k then none else e.labels[k]? := by
  unfold remove
  by_cases hmem : key ∈ e.labels
  · simp [if_pos hmem, Std.ExtTreeMap.getElem?_erase]
  · rw [if_neg hmem]
    by_cases hk : key = k
    · rw [if_pos hk, ← hk, Std.ExtTreeMap.getElem?_eq_none hmem]
    · rw [if_neg hk]

theorem getElem?_addMissing : (e.addMissing key value).labels[k]? =
    if key = k then some (e.labels[k]?.getD value) else e.labels[k]? := by
  unfold addMissing
  by_cases hmem : key ∈ e.labels
  · rw [if_pos hmem]
    by_cases hk : key = k
    · subst hk
      simp [Std.ExtTreeMap.getElem?_eq_some_getElem hmem]
    · rw [if_neg hk]
  · rw [if_neg hmem, getElem?_set]
    by_cases hk : key = k
    · rw [if_pos hk, if_pos hk, ← hk, Std.ExtTreeMap.getElem?_eq_none hmem, Option.getD_none]
    · rw [if_neg hk, if_neg hk]

theorem getElem?_removeAll :
    (e.removeAll keys).labels[k]? = if k ∈ keys then none else e.labels[k]? := by
  unfold removeAll
  induction keys generalizing e with
  | nil => simp
  | cons key keys ih =>
    rw [List.foldl_cons, ih, getElem?_remove]
    by_cases hmem : k ∈ keys
    · rw [if_pos hmem, if_pos (List.mem_cons_of_mem _ hmem)]
    · by_cases hk : key = k
      · rw [if_neg hmem, if_pos hk, hk, if_pos List.mem_cons_self]
      · rw [if_neg hmem, if_neg hk,
          if_neg (List.not_mem_cons_of_ne_of_not_mem (Ne.symm hk) hmem)]

theorem getElem?_addAllMissing : (e.addAllMissing keys value).labels[k]? =
    if k ∈ keys then some (e.labels[k]?.getD value) else e.labels[k]? := by
  unfold addAllMissing
  induction keys generalizing e with
  | nil => simp
  | cons key keys ih =>
    rw [List.foldl_cons, ih, getElem?_addMissing]
    by_cases hk : key = k
    · rw [if_pos hk, hk, if_pos List.mem_cons_self, Option.getD_some, ite_self]
    · by_cases hmem : k ∈ keys
      · rw [if_neg hk, if_pos hmem, if_pos (List.mem_cons_of_mem _ hmem)]
      · rw [if_neg hk, if_neg hmem,
          if_neg (List.not_mem_cons_of_ne_of_not_mem (Ne.symm hk) hmem)]

/-- Labels that are not there are not removed. -/
theorem removeAll_eq_self (h : ∀ key ∈ keys, key ∉ e.labels) : e.removeAll keys = e := by
  unfold removeAll
  induction keys with
  | nil => rfl
  | cons key keys ih =>
    simp only [List.forall_mem_cons] at h
    rw [List.foldl_cons, remove, if_neg h.1]
    exact ih h.2

/-- Labels that are there are not added. -/
theorem addAllMissing_eq_self (h : ∀ key ∈ keys, key ∈ e.labels) :
    e.addAllMissing keys value = e := by
  unfold addAllMissing
  induction keys with
  | nil => rfl
  | cons key keys ih =>
    simp only [List.forall_mem_cons] at h
    rw [List.foldl_cons, addMissing, if_pos h.1]
    exact ih h.2

end Edit

/-! ## What is read and what is written -/

/-- The labels that an update may change. -/
def writtenKeys : List String := gpuPresentKey :: migConfigKey :: deployKeys

/-- The labels agree but for those that an update may change. -/
def SameElsewhere (old new : Labels) : Prop := ∀ key, key ∉ writtenKeys → new[key]? = old[key]?

variable {plan : Plan} {old new : Labels}

private theorem read_keys : ∀ key ∈ [operandsKey, migCapableKey, productKey, vgpuHostDriverKey,
    workloadKey] ++ pciKeys, key ∉ writtenKeys := by
  decide +kernel

private theorem holds_congr (h : SameElsewhere old new) {key : String} (hkey : key ∉ writtenKeys)
    (value : String) : holds new key value = holds old key value := by
  rw [holds, holds, h key hkey]

theorem hasGpu_congr (h : SameElsewhere old new) : hasGpu new = hasGpu old := by
  rw [hasGpu, hasGpu, Bool.eq_iff_iff, List.any_eq_true, List.any_eq_true]
  refine exists_congr fun key => and_congr_right fun hkey => ?_
  rw [holds_congr h (read_keys key (List.mem_append_right _ hkey))]

theorem areOperandsDisabled_congr (h : SameElsewhere old new) :
    areOperandsDisabled new = areOperandsDisabled old :=
  holds_congr h (read_keys _ (by simp)) "false"

theorem isMigCapable_congr (h : SameElsewhere old new) : isMigCapable new = isMigCapable old := by
  unfold isMigCapable isVgpuHost
  rw [h _ (read_keys vgpuHostDriverKey (by simp)), h _ (read_keys migCapableKey (by simp)),
    h _ (read_keys productKey (by simp))]

theorem resolve_congr (h : SameElsewhere old new) (sandbox : Policy.SandboxWorkloads)
    (sandboxEnabled : Bool) :
    Workload.resolve new sandbox sandboxEnabled = Workload.resolve old sandbox sandboxEnabled := by
  unfold Workload.resolve
  rw [h _ (read_keys workloadKey (by simp))]

/-! ## What an update leaves -/

theorem getElem?_mark (labels : Labels) (key : String) :
    (mark labels).labels[key]? = if gpuPresentKey = key then some "true" else labels[key]? := by
  unfold mark
  split
  · next hmarked =>
    by_cases hk : gpuPresentKey = key
    · rw [if_pos hk, ← hk]
      simpa [isMarkedGpu, holds] using hmarked
    · rw [if_neg hk]
  · exact Edit.getElem?_set

/-- The keys of the deploy labels that a workload does not call for, that of the MIG manager
apart. -/
def surplusKeys (wanted : List DeployLabel) : List String :=
  (DeployLabel.all.filter fun l => l != .migManager && !wanted.contains l).map DeployLabel.key

theorem key_inj : ∀ l ∈ DeployLabel.all, ∀ m ∈ DeployLabel.all, l.key = m.key → l = m := by
  decide +kernel

theorem key_mem_surplusKeys {wanted : List DeployLabel} {l : DeployLabel} (h : l ≠ .migManager)
    (hnot : l ∉ wanted) : l.key ∈ surplusKeys wanted :=
  List.mem_map_of_mem (List.mem_filter.mpr ⟨DeployLabel.mem_all l, by simp [h, hnot]⟩)

private theorem not_wanted_of_surplus {wanted : List DeployLabel} {key : String}
    (h : key ∈ surplusKeys wanted) : key ∉ wanted.map DeployLabel.key := by
  obtain ⟨l, hl, rfl⟩ := List.mem_map.mp h
  intro hkey
  obtain ⟨m, hm, hml⟩ := List.mem_map.mp hkey
  obtain rfl := key_inj m (DeployLabel.mem_all m) l (DeployLabel.mem_all l) hml
  simp [hm] at hl

theorem getElem?_settleDeploy (e : Edit) (wanted : List DeployLabel) (key : String) :
    (settleDeploy e wanted).labels[key]? =
      if key ∈ wanted.map DeployLabel.key then some (e.labels[key]?.getD "true")
      else if key ∈ surplusKeys wanted then none
      else e.labels[key]? := by
  rw [settleDeploy, Edit.getElem?_addAllMissing, ← surplusKeys, Edit.getElem?_removeAll]
  by_cases hwanted : key ∈ wanted.map DeployLabel.key
  · rw [if_pos hwanted, if_pos hwanted, if_neg fun h => not_wanted_of_surplus h hwanted]
  · rw [if_neg hwanted, if_neg hwanted]

/-- The deploy labels are those that a workload calls for. -/
structure InLine (plan : Plan) (w : Workload) (labels : Labels) : Prop where
  surplus : ∀ key ∈ surplusKeys (w.deployLabels plan.sandboxMode), key ∉ labels
  wanted : ∀ l ∈ w.deployLabels plan.sandboxMode, l.key ∈ labels
  migManager : w = .container ∧ isMigCapable labels = true ↔ DeployLabel.migManager.key ∈ labels
  migConfig : w = .container ∧ isMigCapable labels = true → hasMigManager labels = true →
    migConfigKey ∈ labels

/-- A step that finds the deploy labels in line leaves the edit as it is. -/
theorem settle_eq_self {w : Workload} {e : Edit} (h : InLine plan w e.labels) :
    settleMig (settleDeploy e (w.deployLabels plan.sandboxMode)) w = e := by
  have hdeploy : settleDeploy e (w.deployLabels plan.sandboxMode) = e := by
    rw [settleDeploy, ← surplusKeys, Edit.removeAll_eq_self h.surplus,
      Edit.addAllMissing_eq_self]
    intro key hkey
    obtain ⟨l, hl, rfl⟩ := List.mem_map.mp hkey
    exact h.wanted l hl
  rw [hdeploy, settleMig]
  by_cases hmig : w = .container ∧ isMigCapable e.labels = true
  · simp only [if_pos hmig, Edit.addMissing, if_pos (h.migManager.mp hmig)]
    split
    · next hmanager => rw [if_pos (h.migConfig hmig hmanager)]
    · rfl
  · rw [if_neg hmig, Edit.remove, if_neg fun hmem => hmig (h.migManager.mpr hmem)]

theorem mem_iff {labels : Labels} {key : String} : key ∈ labels ↔ labels[key]? ≠ none := by
  rw [Std.ExtTreeMap.mem_iff_isSome_getElem?, Option.isSome_iff_ne_none]

theorem migManager_not_wanted (w : Workload) (mode : Option SandboxMode) :
    DeployLabel.migManager.key ∉ (w.deployLabels mode).map DeployLabel.key := by
  have hlabel : .migManager ∉ w.deployLabels mode := by
    rcases mode with _ | _ | _ <;> cases w <;> decide
  intro h
  obtain ⟨l, hl, hkey⟩ := List.mem_map.mp h
  obtain rfl := key_inj l (DeployLabel.mem_all l) .migManager (DeployLabel.mem_all _) hkey
  exact hlabel hl

theorem mem_deployKeys (l : DeployLabel) : l.key ∈ deployKeys :=
  List.mem_map_of_mem (DeployLabel.mem_all l)

private theorem mem_deployKeys_of_wanted {wanted : List DeployLabel} {key : String}
    (h : key ∈ wanted.map DeployLabel.key) : key ∈ deployKeys := by
  obtain ⟨l, -, rfl⟩ := List.mem_map.mp h
  exact mem_deployKeys l

private theorem mem_deployKeys_of_surplus {wanted : List DeployLabel} {key : String}
    (h : key ∈ surplusKeys wanted) : key ∈ deployKeys := by
  obtain ⟨l, -, rfl⟩ := List.mem_map.mp h
  exact mem_deployKeys l

theorem other_keys : migConfigKey ∉ deployKeys ∧ gpuPresentKey ∉ deployKeys ∧
    migConfigKey ≠ gpuPresentKey := by
  decide +kernel

theorem migManager_not_surplus (wanted : List DeployLabel) :
    DeployLabel.migManager.key ∉ surplusKeys wanted := by
  intro h
  obtain ⟨l, hl, hkey⟩ := List.mem_map.mp h
  obtain rfl := key_inj l (DeployLabel.mem_all l) .migManager (DeployLabel.mem_all _) hkey
  simp at hl

/-- The last step touches two labels. -/
theorem getElem?_settleMig (e : Edit) (w : Workload) {key : String}
    (hmanager : DeployLabel.migManager.key ≠ key) (hconfig : migConfigKey ≠ key) :
    (settleMig e w).labels[key]? = e.labels[key]? := by
  unfold settleMig
  split
  · simp only
    split
    · rw [Edit.getElem?_addMissing, if_neg hconfig, Edit.getElem?_addMissing, if_neg hmanager]
    · rw [Edit.getElem?_addMissing, if_neg hmanager]
  · rw [Edit.getElem?_remove, if_neg hmanager]

theorem getElem?_settleDeploy_of_not_mem (e : Edit) (wanted : List DeployLabel) {key : String}
    (h : key ∉ deployKeys) : (settleDeploy e wanted).labels[key]? = e.labels[key]? := by
  rw [getElem?_settleDeploy, if_neg fun hkey => h (mem_deployKeys_of_wanted hkey),
    if_neg fun hkey => h (mem_deployKeys_of_surplus hkey)]

theorem settle_sameElsewhere (e : Edit) (wanted : List DeployLabel) (w : Workload)
    {key : String} (hdeploy : key ∉ deployKeys) (hconfig : migConfigKey ≠ key) :
    (settleMig (settleDeploy e wanted) w).labels[key]? = e.labels[key]? := by
  have hmanager : DeployLabel.migManager.key ≠ key := by
    rintro rfl
    exact hdeploy (mem_deployKeys _)
  rw [getElem?_settleMig _ w hmanager hconfig, getElem?_settleDeploy_of_not_mem e wanted hdeploy]

private theorem migManager_settleMig (e : Edit) (w : Workload) :
    (w = .container ∧ isMigCapable e.labels = true ↔
        DeployLabel.migManager.key ∈ (settleMig e w).labels) ∧
      (w = .container ∧ isMigCapable e.labels = true →
        hasMigManager (settleMig e w).labels = true → migConfigKey ∈ (settleMig e w).labels) := by
  have hkeys : migConfigKey ≠ DeployLabel.migManager.key := by decide +kernel
  unfold settleMig
  by_cases hmig : w = .container ∧ isMigCapable e.labels = true
  · have hadded : DeployLabel.migManager.key ∈
        (e.addMissing DeployLabel.migManager.key "true").labels := by
      rw [mem_iff, Edit.getElem?_addMissing, if_pos rfl]
      exact Option.some_ne_none _
    simp only [if_pos hmig]
    by_cases hmanager : hasMigManager (e.addMissing DeployLabel.migManager.key "true").labels = true
    · simp only [if_pos hmanager]
      refine ⟨iff_of_true hmig ?_, fun _ _ => ?_⟩
      · rw [mem_iff, Edit.getElem?_addMissing, if_neg hkeys]
        exact mem_iff.mp hadded
      · rw [mem_iff, Edit.getElem?_addMissing, if_pos rfl]
        exact Option.some_ne_none _
    · simp only [if_neg hmanager]
      exact ⟨iff_of_true hmig hadded, fun _ h => absurd h hmanager⟩
  · simp only [if_neg hmig]
    refine ⟨iff_of_false hmig ?_, fun h => absurd h hmig⟩
    rw [mem_iff, Edit.getElem?_remove, if_pos rfl]
    exact fun h => h rfl

/-- The steps bring the deploy labels in line. -/
theorem inLine_settle (e : Edit) (w : Workload) :
    InLine plan w (settleMig (settleDeploy e (w.deployLabels plan.sandboxMode)) w).labels := by
  have hsame : SameElsewhere (settleDeploy e (w.deployLabels plan.sandboxMode)).labels
      (settleMig (settleDeploy e (w.deployLabels plan.sandboxMode)) w).labels := by
    intro key hkey
    refine getElem?_settleMig _ w ?_ ?_
    · rintro rfl
      exact hkey (List.mem_cons_of_mem _ (List.mem_cons_of_mem _ (mem_deployKeys _)))
    · rintro rfl
      exact hkey (List.mem_cons_of_mem _ List.mem_cons_self)
  have hmig := migManager_settleMig (settleDeploy e (w.deployLabels plan.sandboxMode)) w
  rw [← isMigCapable_congr hsame] at hmig
  have hkeep : ∀ key ∈ deployKeys, key ≠ DeployLabel.migManager.key →
      (settleMig (settleDeploy e (w.deployLabels plan.sandboxMode)) w).labels[key]? =
        (settleDeploy e (w.deployLabels plan.sandboxMode)).labels[key]? := by
    intro key hkey hne
    refine getElem?_settleMig _ w hne.symm ?_
    rintro rfl
    exact other_keys.1 hkey
  refine ⟨fun key hkey => ?_, fun l hl => ?_, hmig.1, hmig.2⟩
  · have hne : key ≠ DeployLabel.migManager.key := by
      rintro rfl
      exact migManager_not_surplus _ hkey
    rw [mem_iff, hkeep key (mem_deployKeys_of_surplus hkey) hne, getElem?_settleDeploy,
      if_neg (not_wanted_of_surplus hkey), if_pos hkey]
    exact fun h => h rfl
  · have hwanted : l.key ∈ (w.deployLabels plan.sandboxMode).map DeployLabel.key :=
      List.mem_map_of_mem hl
    have hne : l.key ≠ DeployLabel.migManager.key := by
      intro h
      exact migManager_not_wanted w plan.sandboxMode (h ▸ hwanted)
    rw [mem_iff, hkeep _ (mem_deployKeys l) hne, getElem?_settleDeploy, if_pos hwanted]
    exact Option.some_ne_none _

/-! ## A second update -/

theorem not_written {key : String} (h : key ∉ writtenKeys) :
    gpuPresentKey ≠ key ∧ migConfigKey ≠ key ∧ key ∉ deployKeys := by
  simp only [writtenKeys, List.mem_cons, not_or] at h
  exact ⟨Ne.symm h.1, Ne.symm h.2.1, h.2.2⟩

theorem not_mem_of_removed {labels : Labels} {key : String} (h : labels[key]? = none) :
    key ∉ labels := fun hmem => mem_iff.mp hmem h

private theorem mark_eq_self {labels : Labels} (h : labels[gpuPresentKey]? = some "true") :
    mark labels = ⟨labels, false⟩ := by
  have hmarked : isMarkedGpu labels = true := by
    simp [isMarkedGpu, holds, h]
  rw [mark, if_pos hmarked]

/-- A node whose GPU has gone, and whose mark says so, is left as it is. -/
private theorem update_unmarked (hgpu : hasGpu old = false) (new : Labels)
    (hnew : new = (((Edit.mk old false).set gpuPresentKey "false").removeAll deployKeys).labels) :
    update plan new = ⟨new, .ok false⟩ := by
  have hsame : SameElsewhere old new := by
    intro key hkey
    obtain ⟨hpresent, -, hdeploy⟩ := not_written hkey
    rw [hnew, Edit.getElem?_removeAll, if_neg hdeploy, Edit.getElem?_set, if_neg hpresent]
  have hpresent : new[gpuPresentKey]? = some "false" := by
    rw [hnew, Edit.getElem?_removeAll, if_neg other_keys.2.1, Edit.getElem?_set, if_pos rfl]
  have hmarked : isMarkedGpu new = false := by
    simp [isMarkedGpu, holds, hpresent]
  rw [update, hasGpu_congr hsame, hgpu, hmarked]
  rfl

theorem mark_sameElsewhere (labels : Labels) :
    SameElsewhere labels (mark labels).labels := by
  intro key hkey
  rw [getElem?_mark, if_neg (not_written hkey).1]

private theorem update_disabled (hgpu : hasGpu old = true)
    (hdisabled : areOperandsDisabled (mark old).labels = true) (new : Labels)
    (hnew : new = ((mark old).removeAll deployKeys).labels) :
    update plan new = ⟨new, .ok false⟩ := by
  have hsame : SameElsewhere (mark old).labels new := by
    intro key hkey
    rw [hnew, Edit.getElem?_removeAll, if_neg (not_written hkey).2.2]
  have hpresent : new[gpuPresentKey]? = some "true" := by
    rw [hnew, Edit.getElem?_removeAll, if_neg other_keys.2.1, getElem?_mark, if_pos rfl]
  have hremoved : ∀ key ∈ deployKeys, key ∉ new := by
    intro key hkey
    refine not_mem_of_removed ?_
    rw [hnew, Edit.getElem?_removeAll, if_pos hkey]
  rw [update, hasGpu_congr hsame, hasGpu_congr (mark_sameElsewhere old), if_pos hgpu,
    mark_eq_self hpresent]
  simp only
  rw [areOperandsDisabled_congr hsame, if_pos hdisabled, Edit.removeAll_eq_self hremoved]
  rfl

private theorem update_resolved (hgpu : hasGpu old = true)
    (hdisabled : areOperandsDisabled (mark old).labels = false) {w : Workload}
    (hresolve : Workload.resolve (mark old).labels plan.spec.sandbox plan.sandboxEnabled = .ok w)
    (new : Labels)
    (hnew : new =
      (settleMig (settleDeploy (mark old) (w.deployLabels plan.sandboxMode)) w).labels) :
    update plan new = ⟨new, .ok false⟩ := by
  have hsame : SameElsewhere (mark old).labels new := by
    intro key hkey
    obtain ⟨-, hconfig, hdeploy⟩ := not_written hkey
    rw [hnew, settle_sameElsewhere _ _ w hdeploy hconfig]
  have hpresent : new[gpuPresentKey]? = some "true" := by
    rw [hnew, settle_sameElsewhere _ _ w other_keys.2.1 other_keys.2.2, getElem?_mark, if_pos rfl]
  have hinLine : InLine plan w new := hnew ▸ inLine_settle (mark old) w
  rw [update, hasGpu_congr hsame, hasGpu_congr (mark_sameElsewhere old), if_pos hgpu,
    mark_eq_self hpresent]
  simp only
  rw [areOperandsDisabled_congr hsame, hdisabled, resolve_congr hsame, hresolve]
  simp only [Bool.false_eq_true, if_false]
  rw [settle_eq_self hinLine]
  rfl

/-- Labels that an update has changed are left as they are by the next one. -/
theorem update_again (h : (update plan old).change? = some new) :
    update plan new = ⟨new, .ok false⟩ := by
  have hlabels : ∀ {e : Edit}, (Outcome.ofEdit e).change? = some new → new = e.labels := by
    intro e he
    unfold Outcome.ofEdit Outcome.change? at he
    split at he
    · exact (Option.some.inj he).symm
    · cases he
    · cases he
  unfold update at h
  cases hgpu : hasGpu old with
  | false =>
    rw [hgpu] at h
    simp only [Bool.false_eq_true, if_false] at h
    split at h
    · exact update_unmarked hgpu new (hlabels h)
    · cases h
  | true =>
    rw [hgpu] at h
    simp only [if_true] at h
    cases hdisabled : areOperandsDisabled (mark old).labels with
    | true =>
      rw [hdisabled] at h
      exact update_disabled hgpu hdisabled new (hlabels h)
    | false =>
      rw [hdisabled] at h
      simp only [Bool.false_eq_true, if_false] at h
      cases hresolve : Workload.resolve (mark old).labels plan.spec.sandbox plan.sandboxEnabled with
      | error r =>
        rw [hresolve] at h
        cases h
      | ok w =>
        rw [hresolve] at h
        exact update_resolved hgpu hdisabled hresolve new (hlabels h)

end GpuFleet.NodeLabels
