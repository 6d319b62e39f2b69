import GpuFleet.NodeLabels.Patch

/-!
What a patch does to labels. A patch made of two maps names exactly the keys in which they differ,
and gives each the value of the second map. So it makes the second map of the first, and leaves
alone whatever else the labels hold by then.
-/
namespace GpuFleet.NodeLabels.Patch

open Kube (Labels)

/-- Changes that agree with a map give their keys the values of that map. -/
private theorem getElem?_foldl_alterTo {changes : List (String × Option String)} {new : Labels}
    (h : ∀ c ∈ changes, c.2 = new[c.1]?) (labels : Labels) (key : String) :
    (changes.foldl (fun labels c => labels.alterTo c.1 c.2) labels)[key]? =
      if key ∈ changes.map Prod.fst then new[key]? else labels[key]? := by
  induction changes generalizing labels with
  | nil => simp
  | cons c changes ih =>
    obtain ⟨k, v⟩ := c
    simp only [List.forall_mem_cons] at h
    obtain ⟨rfl, hchanges⟩ := h
    rw [List.foldl_cons, ih hchanges, List.map_cons, Labels.getElem?_alterTo]
    by_cases hmem : key ∈ changes.map Prod.fst
    · rw [if_pos hmem, if_pos (List.mem_cons_of_mem _ hmem)]
    by_cases hk : k = key
    · rw [if_neg hmem, if_pos hk, hk, if_pos List.mem_cons_self]
    · have hnot : key ∉ k :: changes.map Prod.fst := by
        intro hm
        rcases List.mem_cons.mp hm with rfl | hm
        · exact hk rfl
        · exact hmem hm
      rw [if_neg hmem, if_neg hk, if_neg hnot]

theorem differences_agree (old new : Labels) :
    ∀ c ∈ differences old new, c.2 = new[c.1]? := by
  intro c hc
  rcases List.mem_append.mp hc with hc | hc
  · obtain ⟨⟨k, v⟩, hkv, rfl⟩ := List.mem_map.mp hc
    exact (Std.ExtTreeMap.mem_toList_iff_getElem?_eq_some.mp (List.mem_filter.mp hkv).1).symm
  · obtain ⟨k, hk, rfl⟩ := List.mem_map.mp hc
    have hnone : k ∉ new := by
      simpa using (List.mem_filter.mp hk).2
    exact (Std.ExtTreeMap.getElem?_eq_none hnone).symm

/-- A patch names exactly the keys in which the maps differ. -/
theorem mem_differences_iff (old new : Labels) (key : String) :
    key ∈ (differences old new).map Prod.fst ↔ old[key]? ≠ new[key]? := by
  rw [differences, List.map_append, List.mem_append, List.map_map, List.map_map]
  constructor
  · rintro (h | h)
    · obtain ⟨⟨k, v⟩, hkv, rfl⟩ := List.mem_map.mp h
      obtain ⟨hmem, hne⟩ := List.mem_filter.mp hkv
      rw [Function.comp_apply, Std.ExtTreeMap.mem_toList_iff_getElem?_eq_some.mp hmem]
      simpa using hne
    · obtain ⟨k, hk, rfl⟩ := List.mem_map.mp h
      obtain ⟨hmem, hnot⟩ := List.mem_filter.mp hk
      have hold : k ∈ old := Std.ExtTreeMap.mem_keys.mp hmem
      have hnew : k ∉ new := by simpa using hnot
      rw [Function.comp_apply, Std.ExtTreeMap.getElem?_eq_none hnew,
        Std.ExtTreeMap.getElem?_eq_some_getElem hold]
      exact Option.some_ne_none _
  · intro h
    cases hnew : new[key]? with
    | some v =>
      refine .inl (List.mem_map.mpr ⟨(key, v), List.mem_filter.mpr ⟨?_, ?_⟩, rfl⟩)
      · exact Std.ExtTreeMap.mem_toList_iff_getElem?_eq_some.mpr hnew
      · simpa [hnew] using h
    | none =>
      rw [hnew] at h
      have hold : key ∈ old := Std.ExtTreeMap.mem_iff_isSome_getElem?.mpr
        (Option.isSome_iff_ne_none.mpr h)
      have hnot : key ∉ new := by
        rw [Std.ExtTreeMap.mem_iff_isSome_getElem?, hnew]
        exact Bool.false_ne_true
      refine .inr (List.mem_map.mpr ⟨key, List.mem_filter.mpr ⟨?_, by simpa using hnot⟩, rfl⟩)
      exact Std.ExtTreeMap.mem_keys.mpr hold

/-- Nothing is patched exactly where the maps are equal. -/
theorem between?_eq_none_iff (old new : Labels) : between? old new = none ↔ old = new := by
  have hnil : between? old new = none ↔ differences old new = [] := by
    unfold between?
    cases differences old new <;> simp
  rw [hnil]
  constructor
  · intro h
    refine Std.ExtTreeMap.ext_getElem? fun key => Classical.not_not.mp fun hne => ?_
    have hmem := (mem_differences_iff old new key).mpr hne
    rw [h] at hmem
    cases hmem
  · rintro rfl
    refine List.eq_nil_iff_forall_not_mem.mpr fun c hc => ?_
    exact (mem_differences_iff old old c.1).mp (List.mem_map_of_mem hc) rfl

theorem changes_of_between? {old new : Labels} {p : Patch} (h : between? old new = some p) :
    p.changes = differences old new := by
  unfold between? at h
  split at h
  · cases h
  · cases h
    rfl

/-- Wherever it is applied, a patch sets the keys in which the maps differ, and no others. -/
theorem getElem?_apply {old new : Labels} {p : Patch} (h : between? old new = some p)
    (live : Labels) (key : String) :
    (p.apply live)[key]? = if old[key]? = new[key]? then live[key]? else new[key]? := by
  rw [apply, changes_of_between? h, getElem?_foldl_alterTo (differences_agree old new)]
  simp only [mem_differences_iff, ne_eq, ite_not]

/-- A patch of the labels as they are makes the new ones of them. -/
theorem apply_old {old new : Labels} {p : Patch} (h : between? old new = some p) :
    p.apply old = new := by
  refine Std.ExtTreeMap.ext_getElem? fun key => ?_
  rw [getElem?_apply h]
  split
  · assumption
  · rfl

end GpuFleet.NodeLabels.Patch
