import GpuFleet.Json.Fields
import GpuFleet.Json.Patch

/-!
What a merge patch does to the members of an object. A patch that names each member once decides the
members that it names, each by itself, and leaves the others as they are, whatever the target is.
-/
namespace GpuFleet

namespace Members

theorem lookup_cons_eq (k l : String) (v : Json) (members : Members) :
    List.lookup l ((k, v) :: members) = if l = k then some v else members.lookup l := by
  by_cases h : l = k
  · simp [h]
  · simp [List.lookup_cons, beq_false_of_ne h, h]

theorem lookup_map_values {α : Type} (f : α → Json) (entries : List (String × α)) (key : String) :
    (entries.map fun (k, v) => (k, f v)).lookup key = (entries.lookup key).map f := by
  induction entries with
  | nil => rfl
  | cons e rest ih =>
    obtain ⟨k, v⟩ := e
    by_cases h : key = k
    · simp [h]
    · simpa [List.lookup_cons, beq_false_of_ne h] using ih

theorem lookup_put?_of_ne {α : Type} {key l : String} (h : l ≠ key) (write : α → Json)
    (v : Option α) : (put? key write v).lookup l = none := by
  cases v <;> simp [put?, opt, lookup_cons_eq, h]

theorem lookup_drop (key l : String) (members : Members) :
    (members.drop key).lookup l = if l = key then none else members.lookup l := by
  induction members with
  | nil => simp [drop]
  | cons m rest ih =>
    obtain ⟨k, w⟩ := m
    rw [drop] at ih ⊢
    by_cases hk : k = key
    · rw [List.filter_cons_of_neg (by simp [hk]), ih, lookup_cons_eq, hk]
      split <;> rfl
    · rw [List.filter_cons_of_pos (by simp [hk]), lookup_cons_eq, lookup_cons_eq, ih]
      by_cases hl : l = k
      · simp [hl, hk]
      · simp [hl]

theorem values_cons (key k : String) (v : Json) (members : Members) :
    Members.values key ((k, v) :: members) =
      if k = key then v :: members.values key else members.values key := by
  by_cases h : k = key <;> simp [values, h]

theorem values_put (key l : String) (v : Json) (members : Members) :
    (members.put key v).values l =
      if l = key then v :: (members.values key).tail else members.values l := by
  induction members with
  | nil => by_cases h : key = l <;> simp [put, values, h, @eq_comm _ l]
  | cons m rest ih =>
    obtain ⟨k, w⟩ := m
    rw [put]
    by_cases hk : k = key
    · subst hk
      by_cases hl : l = k
      · simp [values_cons, hl]
      · simp [values_cons, hl, Ne.symm hl]
    · rw [if_neg hk, values_cons, values_cons, values_cons, if_neg hk, ih]
      by_cases hl : l = key
      · simp [hl, hk]
      · simp [hl]

theorem values_drop (key l : String) (members : Members) :
    (members.drop key).values l = if l = key then [] else members.values l := by
  rw [drop, values, List.filter_filter, values]
  by_cases hl : l = key
  · simp [hl]
  · rw [if_neg hl]
    congr 1
    refine List.filter_congr fun m _ => ?_
    by_cases hm : m.1 = l <;> simp [hm, hl]

end Members

namespace Json

/-- The member of an object. -/
def member? (v : Json) (key : String) : Option Json := v.object?.bind (·.lookup key)

@[simp] theorem member?_object (members : Members) (key : String) :
    (object members).member? key = members.lookup key := rfl

@[simp] theorem member?_null (key : String) : null.member? key = none := rfl

/-- A member of the target as a change of it leaves it. -/
def changed (old : Option Json) (change : Json) : Option Json :=
  if change = .null then none else some (mergePatch (old.getD .null) change)

private theorem lookup_eq_none_of_not_mem {changes : Members} {key : String}
    (h : key ∉ changes.map Prod.fst) : changes.lookup key = none := by
  refine List.lookup_eq_none_iff.mpr fun p hp => bne_iff_ne.mpr fun hpk => ?_
  exact h (List.mem_map.mpr ⟨p, hp, hpk.symm⟩)

/-- One change leaves the other members as they are. -/
private theorem lookup_changed_of_ne {key k : String} (h : key ≠ k) (members : Members)
    (v : Json) : List.lookup key (if v = .null then members.drop k
      else members.put k (mergePatch ((members.lookup k).getD .null) v)) =
        members.lookup key := by
  split
  · rw [Members.lookup_drop, if_neg h]
  · rw [Members.lookup_put, if_neg h]

theorem lookup_mergeMembers {changes : Members} (h : (changes.map Prod.fst).Nodup)
    (members : Members) (key : String) :
    (mergeMembers members changes).lookup key =
      match changes.lookup key with
      | none => members.lookup key
      | some change => changed (members.lookup key) change := by
  induction changes generalizing members with
  | nil => rfl
  | cons c changes ih =>
    obtain ⟨k, v⟩ := c
    obtain ⟨hnew, hdistinct⟩ := List.nodup_cons.mp h
    rw [mergeMembers, ih hdistinct]
    by_cases hk : key = k
    · subst hk
      have hnone : changes.lookup key = none := lookup_eq_none_of_not_mem hnew
      simp only [hnone, List.lookup_cons_self, changed]
      split
      · rw [Members.lookup_drop, if_pos rfl]
      · rw [Members.lookup_put, if_pos rfl]
    · rw [lookup_changed_of_ne hk, List.lookup_cons, beq_false_of_ne hk]

/-- A member that occurs once at most does so afterwards too, and has the value that the change of
it leaves. -/
theorem values_mergeMembers {changes : Members} (h : (changes.map Prod.fst).Nodup)
    {members : Members} {key : String} (honce : (members.values key).length ≤ 1) :
    (mergeMembers members changes).values key =
      match changes.lookup key with
      | none => members.values key
      | some change => (changed (members.lookup key) change).toList := by
  induction changes generalizing members with
  | nil => rfl
  | cons c changes ih =>
    obtain ⟨k, v⟩ := c
    obtain ⟨hnew, hdistinct⟩ := List.nodup_cons.mp h
    rw [mergeMembers]
    by_cases hk : key = k
    · subst hk
      have hnone : changes.lookup key = none := lookup_eq_none_of_not_mem hnew
      have htail : (members.values key).tail = [] := by
        rw [← List.length_eq_zero_iff, List.length_tail]
        omega
      have hvalues : Members.values key (if v = .null then members.drop key
          else members.put key (mergePatch ((members.lookup key).getD .null) v)) =
            (changed (members.lookup key) v).toList := by
        unfold changed
        split
        · rw [Members.values_drop, if_pos rfl, Option.toList_none]
        · rw [Members.values_put, if_pos rfl, htail, Option.toList_some]
      rw [ih hdistinct, hnone, List.lookup_cons_self]
      · exact hvalues
      · rw [hvalues]
        exact Option.length_toList_le
    · have hvalues : Members.values key (if v = .null then members.drop k
          else members.put k (mergePatch ((members.lookup k).getD .null) v)) =
            members.values key := by
        split
        · rw [Members.values_drop, if_neg hk]
        · rw [Members.values_put, if_neg hk]
      rw [ih hdistinct (hvalues ▸ honce), hvalues, lookup_changed_of_ne hk, List.lookup_cons,
        beq_false_of_ne hk]

/-- A merge patch decides the members that it names, and no others. -/
theorem member?_mergePatch {changes : Members} (h : (changes.map Prod.fst).Nodup) (target : Json)
    (key : String) :
    (mergePatch target (.object changes)).member? key =
      match changes.lookup key with
      | none => target.member? key
      | some change => changed (target.member? key) change := by
  have htarget : target.member? key = (target.object?.getD []).lookup key := by
    unfold member?
    cases target.object? <;> rfl
  rw [mergePatch, member?_object, lookup_mergeMembers h, htarget]

/-- A patch of one member, which is an object, patches that member. -/
theorem member?_mergePatch_single (target : Json) (key : String) (changes : Members) :
    (mergePatch target (.object [(key, .object changes)])).member? key =
      some (mergePatch ((target.member? key).getD .null) (.object changes)) := by
  rw [member?_mergePatch (by simp)]
  simp [changed]

end Json

end GpuFleet
