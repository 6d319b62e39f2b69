import GpuFleet.Proofs.Cluster.Keeps
import GpuFleet.Proofs.Cluster.Listing
import GpuFleet.Proofs.Policy.Authority

/-!
The policy in charge of a cluster. Policies are stored under their names, so that no two of them are
alike. Who is in charge is told by the metadata of the stored policies, which no pass changes.
-/
namespace GpuFleet.Cluster.Store

open Policy (ClusterPolicy Report isInCharge)

/-- Every policy is stored under its name; one without a name is stored under the empty one. -/
def PoliciesKeyed (s : Store) : Prop :=
  ∀ (key : String) p, s.policies[key]? = some p → p.name = key

/-- The policy in charge, if there is any policy. -/
def inCharge? (s : Store) : Option ClusterPolicy := Policy.oldest? s.policies.values

/-- The metadata of the stored policies. -/
def metadata (s : Store) : Std.ExtTreeMap String Kube.ObjectMeta :=
  s.policies.map fun _ p => p.metadata

variable {s t : Store} {p : ClusterPolicy} {policy : String}

theorem getElem?_metadata (s : Store) (key : String) :
    s.metadata[key]? = s.policies[key]?.map (·.metadata) := Std.ExtTreeMap.getElem?_map

theorem policiesKeyed_empty : ({} : Store).PoliciesKeyed := by
  intro key p hp
  rw [Std.ExtTreeMap.getElem?_empty] at hp
  cases hp

/-! ## Clusters with the same metadata -/

theorem exists_of_metadata {q : ClusterPolicy} {key : String} (hmeta : t.metadata = s.metadata)
    (hq : t.policies[key]? = some q) :
    ∃ p, s.policies[key]? = some p ∧ p.metadata = q.metadata := by
  have hkey : t.metadata[key]? = some q.metadata := by rw [getElem?_metadata, hq, Option.map_some]
  rw [hmeta, getElem?_metadata] at hkey
  exact Option.map_eq_some_iff.mp hkey

theorem PoliciesKeyed.congr (h : s.PoliciesKeyed) (hmeta : t.metadata = s.metadata) :
    t.PoliciesKeyed := by
  intro key q hq
  obtain ⟨p, hp, hsame⟩ := exists_of_metadata hmeta hq
  rw [ClusterPolicy.name, ← hsame, ← ClusterPolicy.name]
  exact h key p hp

theorem isInCharge_congr_metadata (hmeta : t.metadata = s.metadata) (name : String) :
    isInCharge t.policies.values name = isInCharge s.policies.values name := by
  refine Policy.isInCharge_congr ?_ name
  rw [← values_map, ← values_map]
  exact congrArg (·.values) hmeta

theorem inCharge?_congr_metadata (hmeta : t.metadata = s.metadata) :
    t.inCharge?.map (·.metadata) = s.inCharge?.map (·.metadata) := by
  refine Policy.oldest?_congr ?_
  rw [← values_map, ← values_map]
  exact congrArg (·.values) hmeta

/-- The calls of a pass change no metadata of a policy. -/
theorem keptByCalls_metadata (m : Std.ExtTreeMap String Kube.ObjectMeta) :
    KeptByCalls (fun s : Store => s.metadata = m) policy := by
  refine keptByCalls (fun s t hwork hs => ?_) fun s t htelling hs => ?_
  · cases hwork <;> exact hs
  · cases htelling with
    | missed report => rw [← hs, metadata, metadata, policies_tick]
    | written report p hp =>
      rw [← hs]
      refine Std.ExtTreeMap.ext_getElem? fun key => ?_
      rw [getElem?_metadata, getElem?_metadata]
      simp only [note, Std.ExtTreeMap.getElem?_insert]
      split
      · next hkey =>
        obtain rfl := Std.LawfulEqCmp.eq_of_compare hkey
        rw [hp]
        rfl
      · rfl

/-! ## The choice -/

theorem eq_of_mem_values (h : s.PoliciesKeyed) : ∀ p ∈ s.policies.values, ∀ q ∈ s.policies.values,
    p.metadata.name = q.metadata.name → p = q := by
  intro p hp q hq hname
  obtain ⟨key, hp⟩ := mem_values_iff.mp hp
  obtain ⟨key', hq⟩ := mem_values_iff.mp hq
  have hkeys : key = key' := by
    rw [← h key p hp, ← h key' q hq, ClusterPolicy.name, ClusterPolicy.name, hname]
  rw [hkeys, hq] at hp
  exact (Option.some.inj hp).symm

/-- The policy in charge is the one that comes before all other stored ones. -/
theorem inCharge?_eq_some_iff (h : s.PoliciesKeyed) :
    s.inCharge? = some p ↔ s.policies[p.name]? = some p ∧
      ∀ (key : String) q, s.policies[key]? = some q → key ≠ p.name → p.ageOrder q = .lt := by
  rw [inCharge?, Policy.oldest?_eq_some_iff (eq_of_mem_values h)]
  constructor
  · rintro ⟨hp, hleast⟩
    obtain ⟨key, hp⟩ := mem_values_iff.mp hp
    refine ⟨(h key p hp).symm ▸ hp, fun key q hq hne => hleast q (mem_values_iff.mpr ⟨key, hq⟩) ?_⟩
    rintro rfl
    exact hne (h key q hq).symm
  · rintro ⟨hp, hleast⟩
    refine ⟨mem_values_iff.mpr ⟨_, hp⟩, fun q hq hne => ?_⟩
    obtain ⟨key, hq⟩ := mem_values_iff.mp hq
    refine hleast key q hq ?_
    rintro rfl
    rw [hp] at hq
    exact hne (Option.some.inj hq).symm

theorem inCharge?_ne_none (hstored : s.policies[policy]? = some p) : s.inCharge? ≠ none :=
  Policy.oldest?_ne_none (mem_values_iff.mpr ⟨policy, hstored⟩)

/-- A stored policy of the name is in charge exactly if it is the choice. -/
theorem isInCharge_iff (h : s.PoliciesKeyed) {name : String}
    (hstored : s.policies[p.name]? = some p) (hname : p.metadata.name = some name) :
    isInCharge s.policies.values name = true ↔ s.inCharge? = some p := by
  obtain ⟨q, hq⟩ := Option.ne_none_iff_exists'.mp (inCharge?_ne_none hstored)
  have hmem := mem_values_iff.mpr ⟨q.name, ((inCharge?_eq_some_iff h).mp hq).1⟩
  have hp := mem_values_iff.mpr ⟨p.name, hstored⟩
  rw [isInCharge, ← inCharge?, hq, Option.all_some, beq_iff_eq, Option.some.injEq, ← hname]
  constructor
  · exact eq_of_mem_values h q hmem p hp
  · rintro rfl
    rfl

end GpuFleet.Cluster.Store
