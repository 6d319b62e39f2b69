import GpuFleet.Kube.Labels
import GpuFleet.Proofs.Json.Merge

/-!
Labels as lists of pairs and as JSON objects. Either form gives every key the value that the map has
for it.
-/
namespace GpuFleet.Kube.Labels

theorem lookup_toList (labels : Labels) (key : String) :
    labels.toList.lookup key = labels[key]? := by
  cases h : labels[key]? with
  | none =>
    refine List.lookup_eq_none_iff.mpr fun p hp => bne_iff_ne.mpr ?_
    rintro rfl
    rw [Std.ExtTreeMap.mem_toList_iff_getElem?_eq_some.mp hp] at h
    cases h
  | some v =>
    obtain ⟨before, after, hlist⟩ :=
      List.append_of_mem (Std.ExtTreeMap.mem_toList_iff_getElem?_eq_some.mpr h)
    have hdistinct := labels.distinct_keys_toList
    rw [hlist, List.pairwise_append] at hdistinct
    refine List.lookup_eq_some_iff.mpr ⟨before, after, hlist, fun p hp => bne_iff_ne.mpr ?_⟩
    rintro rfl
    exact hdistinct.2.2 p hp (p.1, v) List.mem_cons_self Std.ReflCmp.compare_self

theorem lookup_toJson (labels : Labels) (key : String) :
    (labels.toList.map fun (k, v) => (k, Json.string v)).lookup key =
      labels[key]?.map Json.string := by
  rw [← lookup_toList, Members.lookup_map_values]

end GpuFleet.Kube.Labels
