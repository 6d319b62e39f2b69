import GpuFleet.Proofs.NodeLabels.Decision
import GpuFleet.Proofs.NodeLabels.Patch

/-!
An update says that it has changed the labels exactly if it has. That it says so where it has is a
matter of its steps, each of which notes what it does. That it does not say so where it has put back
what it took away follows from the update after it: labels that have been changed need no more
changes, and labels that are those of before would need the same ones again.
-/
namespace GpuFleet.NodeLabels

open Kube (Labels)

namespace Edit

variable {e e₁ e₂ : Edit} {keys : List String} {key value : String}

/-- Whatever has been done to the first edit is noted in the second. -/
def NotedIn (e₁ e₂ : Edit) : Prop := e₂ = e₁ ∨ e₂.changed = true

theorem NotedIn.trans {e₃ : Edit} (h : NotedIn e₁ e₂) (h' : NotedIn e₂ e₃) : NotedIn e₁ e₃ := by
  rcases h' with rfl | hchanged
  · exact h
  · exact .inr hchanged

theorem notedIn_remove : NotedIn e (e.remove key) := by
  unfold remove
  split
  · exact .inr rfl
  · exact .inl rfl

theorem notedIn_addMissing : NotedIn e (e.addMissing key value) := by
  unfold addMissing
  split
  · exact .inl rfl
  · exact .inr rfl

theorem notedIn_removeAll : NotedIn e (e.removeAll keys) := by
  unfold removeAll
  induction keys generalizing e with
  | nil => exact .inl rfl
  | cons key keys ih => exact notedIn_remove.trans ih

theorem notedIn_addAllMissing : NotedIn e (e.addAllMissing keys value) := by
  unfold addAllMissing
  induction keys generalizing e with
  | nil => exact .inl rfl
  | cons key keys ih => exact notedIn_addMissing.trans ih

/-- Several labels are taken away exactly if one of them is there. -/
theorem changed_removeAll_iff (h : e.changed = false) :
    (e.removeAll keys).changed = true ↔ ∃ key ∈ keys, key ∈ e.labels := by
  constructor
  · intro hchanged
    refine Classical.byContradiction fun hnone => ?_
    rw [removeAll_eq_self fun key hkey hmem => hnone ⟨key, hkey, hmem⟩, h] at hchanged
    cases hchanged
  · rintro ⟨key, hkey, hmem⟩
    refine notedIn_removeAll.resolve_left fun hsame => ?_
    have hgone : (e.removeAll keys).labels[key]? = none := by
      rw [getElem?_removeAll, if_pos hkey]
    rw [hsame] at hgone
    exact mem_iff.mp hmem hgone

end Edit

open Edit (NotedIn)

variable {plan : Plan} {old : Labels}

theorem notedIn_mark : NotedIn ⟨old, false⟩ (mark old) := by
  unfold mark
  split
  · exact .inl rfl
  · exact .inr rfl

theorem notedIn_settleMig {e : Edit} {w : Workload} : NotedIn e (settleMig e w) := by
  unfold settleMig
  split
  · simp only
    split
    · exact Edit.notedIn_addMissing.trans Edit.notedIn_addMissing
    · exact Edit.notedIn_addMissing
  · exact Edit.notedIn_remove

theorem notedIn_settle {w : Workload} : NotedIn ⟨old, false⟩ (settle plan w old) :=
  notedIn_mark.trans <| (Edit.notedIn_removeAll.trans Edit.notedIn_addAllMissing).trans
    notedIn_settleMig

theorem notedIn_unmark : NotedIn ⟨old, false⟩ (unmark old) :=
  NotedIn.trans (.inr rfl) Edit.notedIn_removeAll

/-- An update that reports no change leaves the labels as they were. -/
theorem labels_eq_of_unchanged (h : (update plan old).verdict = .ok false) :
    (update plan old).labels = old := by
  have hnoted : ∀ {e : Edit}, NotedIn ⟨old, false⟩ e → (Outcome.ofEdit e).verdict = .ok false →
      (Outcome.ofEdit e).labels = old := by
    intro e he hverdict
    rcases he with rfl | hchanged
    · rfl
    · simp [Outcome.ofEdit, hchanged] at hverdict
  have hdecision := decision plan old
  generalize update plan old = outcome at h hdecision
  cases hdecision with
  | unchanged => rfl
  | unmarked => exact hnoted notedIn_unmark h
  | disabled => exact hnoted (notedIn_mark.trans Edit.notedIn_removeAll) h
  | rejected r => cases h
  | settled w => exact hnoted notedIn_settle h

/-- An update that reports a change does not leave the labels as they were: another one would report
no change for them. -/
theorem labels_ne_of_changed (h : (update plan old).verdict = .ok true) :
    (update plan old).labels ≠ old := by
  intro hsame
  have hchange : (update plan old).change? = some (update plan old).labels := by
    rw [Outcome.change?, h]
  have hagain := update_again hchange
  rw [hsame] at hagain
  rw [hagain] at h
  cases h

theorem changed_iff_labels_ne {changed : Bool} (h : (update plan old).verdict = .ok changed) :
    changed = true ↔ (update plan old).labels ≠ old := by
  cases changed with
  | true => exact iff_of_true rfl (labels_ne_of_changed h)
  | false => exact iff_of_false Bool.false_ne_true fun hne => hne (labels_eq_of_unchanged h)

/-- What an update leaves is left alone by the next one. -/
theorem update_labels {changed : Bool} (h : (update plan old).verdict = .ok changed) :
    update plan (update plan old).labels = ⟨(update plan old).labels, .ok false⟩ := by
  cases changed with
  | true => exact update_again (by rw [Outcome.change?, h])
  | false =>
    have hlabels := labels_eq_of_unchanged h
    rw [hlabels]
    cases hupdate : update plan old
    rw [hupdate] at h hlabels
    exact congr (congrArg Outcome.mk hlabels) h

/-- Nothing but the mark has been written where an update is rejected. -/
theorem getElem?_of_rejected {r : Policy.Rejection} (h : (update plan old).verdict = .error r)
    {key : String} (hkey : key ≠ gpuPresentKey) : (update plan old).labels[key]? = old[key]? := by
  have hdecision := decision plan old
  generalize update plan old = outcome at h hdecision
  cases hdecision with
  | unchanged => cases h
  | unmarked => cases h
  | disabled => cases h
  | rejected r => rw [getElem?_mark, if_neg hkey.symm]
  | settled w => cases h

/-- An update that is not rejected reports a change exactly if the labels are not the same as
before, that is, exactly if there is something to patch; and what it leaves, the same update leaves
alone. A rejected update has written nothing but the mark. Taking all deploy labels away is reported
exactly if there were any, and done again it changes nothing. -/
theorem changes_are_reported (plan : Plan) (old : Labels) :
    (∀ changed, (update plan old).verdict = .ok changed →
      (changed = true ↔ (update plan old).labels ≠ old) ∧
      (changed = true ↔ (Patch.between? old (update plan old).labels).isSome) ∧
      update plan (update plan old).labels = ⟨(update plan old).labels, .ok false⟩) ∧
    (∀ r, (update plan old).verdict = .error r →
      ∀ key, key ≠ gpuPresentKey → (update plan old).labels[key]? = old[key]?) ∧
    ((withoutDeploy old).changed = true ↔ ∃ key ∈ deployKeys, key ∈ old) ∧
    withoutDeploy (withoutDeploy old).labels = ⟨(withoutDeploy old).labels, false⟩ := by
  refine ⟨fun changed h => ⟨changed_iff_labels_ne h, ?_, update_labels h⟩,
    fun r h key hkey => getElem?_of_rejected h hkey, Edit.changed_removeAll_iff rfl,
    Edit.removeAll_eq_self (not_mem_removeAll_deployKeys _)⟩
  rw [changed_iff_labels_ne h, ← Option.ne_none_iff_isSome, ne_eq, ne_eq,
    Patch.between?_eq_none_iff, eq_comm]

end GpuFleet.NodeLabels
