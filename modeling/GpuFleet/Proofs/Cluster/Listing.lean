import GpuFleet.Cluster.Store

/-!
Lists of the objects of a cluster. They are the values of finite maps in the order of their keys, so
that a change of each object by itself changes the items of the list and not their order.
-/
namespace GpuFleet.Cluster

open Std (DTreeMap ExtDTreeMap ExtTreeMap TransCmp LawfulEqCmp)

variable {α β γ : Type} {cmp : α → α → Ordering} [TransCmp cmp]

private theorem foldr_snd (t : DTreeMap.Internal.Impl α (fun _ => β)) (l : List (α × β)) :
    t.foldr (fun _ v l => v :: l) (l.map Prod.snd) =
      (t.foldr (fun k v l => (k, v) :: l) l).map Prod.snd := by
  induction t generalizing l with
  | leaf => rfl
  | inner size k v left right ihl ihr =>
    change left.foldr _ (v :: right.foldr _ _) = (left.foldr _ ((k, v) :: right.foldr _ _)).map _
    rw [ihr, ← ihl, List.map_cons]

theorem values_eq (t : ExtTreeMap α β cmp) : t.values = t.toList.map Prod.snd := by
  obtain ⟨t⟩ := t
  induction t using ExtDTreeMap.inductionOn with
  | mk t => exact foldr_snd t.inner []

theorem values_map (f : β → γ) (t : ExtTreeMap α β cmp) :
    (t.map fun _ v => f v).values = t.values.map f := by
  rw [values_eq, values_eq, ExtTreeMap.toList_map, List.map_map, List.map_map]
  rfl

theorem mem_values_iff [LawfulEqCmp cmp] {t : ExtTreeMap α β cmp} {v : β} :
    v ∈ t.values ↔ ∃ k : α, t[k]? = some v := by
  rw [values_eq, List.mem_map]
  constructor
  · rintro ⟨⟨k, w⟩, hmem, rfl⟩
    exact ⟨k, ExtTreeMap.mem_toList_iff_getElem?_eq_some.mp hmem⟩
  · rintro ⟨k, hk⟩
    exact ⟨(k, v), ExtTreeMap.mem_toList_iff_getElem?_eq_some.mpr hk, rfl⟩

/-- Where every object says its key, the list of objects says all keys, each once. -/
theorem map_values_eq_keys [LawfulEqCmp cmp] {t : ExtTreeMap α β cmp} {key : β → α}
    (h : ∀ (k : α) (v : β), t[k]? = some v → key v = k) : t.values.map key = t.keys := by
  rw [values_eq, List.map_map, ← ExtTreeMap.map_fst_toList_eq_keys]
  refine List.map_congr_left fun p hp => ?_
  exact h p.1 p.2 (ExtTreeMap.mem_toList_iff_getElem?_eq_some.mp hp)

end GpuFleet.Cluster
