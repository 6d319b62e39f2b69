import GpuFleet.Proofs.Operator.Pass

/-!
A pass that is repeated. The labels, the verdict and the status of the first pass stand, and the
second one deploys the same operands. But the first pass has looked for the container runtime before
it has labelled the nodes, and the labels say which nodes count; so the second one may find another
runtime, and then it applies the DaemonSets that show it.
-/
namespace GpuFleet.Operator

open Cluster (Store Write exec)
open Policy (ClusterPolicy State isInCharge)

variable {op : Operator} {p : ClusterPolicy} {s t : Store}

/-- Once a policy has been carried out, carrying it out again applies DaemonSets at most, and none
exactly if those that are wanted have the fingerprints that they had. -/
theorem carriedOut_again {q : ClusterPolicy} (hspec : q.spec = p.spec)
    (hdeployable : op.Deployable (.ofSpec p.spec))
    (hnames : op.HasDistinctNames (.ofSpec p.spec) (detected s p))
    (hnodes : t.nodes = (carriedOut op p s).nodes)
    (hdaemonSets : t.daemonSets = (carriedOut op p s).daemonSets) :
    ∃ issued, (carriedOut op q t).log = t.log ++ issued ∧
      (∀ w ∈ issued, ∃ d, w = .apply (Drift.stamp d)) ∧
      (issued = [] ↔ op.SameFingerprints (.ofSpec p.spec) (detected s p) (detected t p)) ∧
      (issued = [] → carriedOut op q t = t) := by
  have hcarried : carriedOut op q t =
      settledAll op.ns t (op.tasks (.ofSpec p.spec) (detected t p)) := by
    rw [carriedOut, detected, hspec, ← detected, labelled_again (hnodes.trans carriedOut_nodes)]
  have hdistinct : Distinct (op.tasks (.ofSpec p.spec) (detected t p)) :=
    distinct_tasks_iff.mpr (hasDistinctNames_iff.mpr (hasDistinctNames_iff.mp hnames))
  rw [hcarried]
  refine ⟨_, log_settledAll hdistinct, ?_, ?_, ?_⟩
  · intro w hw
    exact eq_apply_of_mem_due_again hdeployable hnames hdaemonSets hw
  · exact due_again_eq_nil_iff hdeployable hnames hdaemonSets
  · intro hnone
    exact settledAll_eq_self (List.flatMap_eq_nil_iff.mp hnone)

/-- Once a verdict has been reported, it is come to again. -/
private theorem verdict_again {name : String} {state : State} {error : Option String} {v : Store}
    (hstored : s.policies[p.name]? = some p)
    (hnames : op.HasDistinctNames (.ofSpec p.spec) (detected s p))
    (hverdict : Verdict op p name s state error v) (ht : t = op.reported p state error v) :
    ∃ u issued, Verdict op (op.told p state error v) name t state error u ∧
      u.log = t.log ++ issued ∧
      (∀ w ∈ issued, ∃ d, w = .apply (Drift.stamp d)) ∧
      (issued = [] ↔ (state = .ready →
        op.SameFingerprints (.ofSpec p.spec) (detected s p) (detected t p))) ∧
      (issued = [] → u = t) := by
  have hcharge : isInCharge t.policies.values name = isInCharge s.policies.values name := by
    refine Policy.isInCharge_congr ?_ name
    rw [ht, metadata_reported op p state error (hverdict.policies ▸ hstored), hverdict.policies]
  have hspec := told_spec op p state error v
  cases hverdict with
  | ignored h =>
    refine ⟨t, [], .ignored (hcharge.trans h), (List.append_nil _).symm, ?_, ?_, fun _ => rfl⟩
    · exact fun _ hw => absurd hw List.not_mem_nil
    · exact iff_of_true rfl fun h => absurd h (by decide)
  | rejected r h hr =>
    refine ⟨t, [], .rejected r (hcharge.trans h) ?_, (List.append_nil _).symm, ?_, ?_,
      fun _ => rfl⟩
    · rw [hspec, hr]
    · exact fun _ hw => absurd hw List.not_mem_nil
    · exact iff_of_true rfl fun h => absurd h (by decide)
  | carriedOut h hr hdeployable =>
    have hnodes : t.nodes = (carriedOut op p s).nodes := by
      rw [ht, reported_nodes]
    have hdaemonSets : t.daemonSets = (carriedOut op p s).daemonSets := by
      rw [ht, reported_daemonSets]
    obtain ⟨issued, hlog, happly, hnone, hself⟩ :=
      carriedOut_again hspec hdeployable hnames hnodes hdaemonSets
    refine ⟨_, issued, .carriedOut (hcharge.trans h) ?_ ?_, hlog, happly, ?_, hself⟩
    · rw [hspec, hr]
    · rw [hspec]
      exact hdeployable
    · rw [hnone]
      exact ⟨fun hsame _ => hsame, fun hsame => hsame rfl⟩

/-- After a pass that succeeds, a second one for the policy as it is stored now comes to the same
state. It patches no node, deletes no DaemonSet and writes no status; all it may do is apply
DaemonSets. It does so exactly if the policy has been carried out and some DaemonSet that is wanted
has another fingerprint with the runtime of the labelled nodes than with that of the nodes as the
first pass has found them. Otherwise it leaves the cluster as it is. -/
theorem pass_again (op : Operator) (p : ClusterPolicy) (s t : Store) (state : State)
    (hkeyed : s.NodesKeyed) (hstored : s.policies[p.name]? = some p)
    (hnames : op.HasDistinctNames (.ofSpec p.spec) (detected s p))
    (h : exec (op.pass p) s = (.ok state, t)) :
    ∃ q u issued, t.policies[p.name]? = some q ∧
      exec (op.pass q) t = (.ok state, u) ∧ u.log = t.log ++ issued ∧
      (∀ w ∈ issued, ∃ d, w = .apply (Drift.stamp d)) ∧
      (issued = [] ↔ (state = .ready →
        op.SameFingerprints (.ofSpec p.spec) (detected s p) (detected t p))) ∧
      (issued = [] → u = t) := by
  cases hname : p.metadata.name with
  | none =>
    unfold pass at h
    simp [hname] at h
  | some name =>
    obtain ⟨error, v, hverdict, ht⟩ := (exec_pass_ok_iff hkeyed hstored hname).mp h
    obtain ⟨u, issued, hverdict', hissued⟩ := verdict_again hstored hnames hverdict ht
    have hq : t.policies[p.name]? = some (op.told p state error v) := by
      rw [ht, getElem?_reported_self op p state error (hverdict.policies ▸ hstored)]
    have hkeyed' := nodesKeyed_of_exec_pass hkeyed hstored h
    refine ⟨_, u, issued, hq, (exec_pass_ok_iff hkeyed' ?_ ?_).mpr ⟨error, u, hverdict', ?_⟩,
      hissued⟩
    · rw [told_name, hq]
    · rw [told_metadata, hname]
    · rw [reported_of_not_outdated op _ state error (not_outdated_told op p state error v)]

/-- A node without a GPU that is marked as having one. -/
def sampleNode : Kube.Node where
  metadata :=
    { name := some "a"
      labels := some (Std.ExtTreeMap.ofList [(NodeLabels.gpuPresentKey, "true")] compare) }
  status := some { nodeInfo := some { containerRuntimeVersion := "docker://24.0.7" } }

def samplePolicy : ClusterPolicy := { metadata := { name := some "p" } }

def sampleStore : Store := (({} : Store).putNode sampleNode).putPolicy samplePolicy

theorem nodesKeyed_sampleStore : sampleStore.NodesKeyed :=
  Store.nodesKeyed_empty.putNode sampleNode

theorem getElem?_sampleStore :
    sampleStore.policies[samplePolicy.name]? = some samplePolicy := by
  simp [sampleStore, Store.putPolicy]

theorem isInCharge_sampleStore : isInCharge sampleStore.policies.values "p" = true := by
  decide +kernel

private theorem sample_digests :
    (sample.manifests.drafts .operatorValidation).toOption.map (·.map fun d =>
      [Policy.Runtime.docker, .containerd].map fun runtime =>
        Digest.fnv ((Digest.writeSparse [] (Json.sortedMembers (Drift.Facts.ofDaemonSet
          (Manifest.render .operatorValidation
            (sample.context (.ofSpec {}) runtime .operatorValidation) d)).members)).flatMap
              String.utf8EncodeChar)) =
      some [[3907609828, 1028713709]] := by
  decide +kernel

private theorem not_sameFingerprints_sample :
    ¬ sample.SameFingerprints (.ofSpec {}) .docker .containerd := by
  intro h
  have hdigests := sample_digests
  cases hds : sample.manifests.drafts .operatorValidation with
  | error e => simp [hds, Except.toOption] at hdigests
  | ok ds =>
    rw [hds, Except.toOption, Option.map_some, Option.some.injEq] at hdigests
    cases ds with
    | nil => cases hdigests
    | cons d ds =>
      have heq := h .operatorValidation rfl _ hds d List.mem_cons_self
      rw [Drift.fingerprint, Drift.fingerprint] at heq
      have hbytes := Digest.decimal_inj heq
      simp only [Drift.fingerprintText, Digest.sparseText, Digest.ofText_ofList] at hbytes
      simp only [List.map_cons, List.cons.injEq, hbytes] at hdigests
      have hne : (3907609828 : UInt32) ≠ 1028713709 := by decide
      exact hne (hdigests.1.1.symm.trans hdigests.1.2.1)

private theorem runtime_labelled_sample :
    Workload.clusterRuntime (sampleStore.nodes.values.map (relabelled (.ofSpec {}))) .containerd =
      .containerd := by
  decide +kernel

/-- The first pass takes the mark back, and so the second one finds the default runtime. -/
theorem pass_again_sample :
    sampleStore.NodesKeyed ∧ sampleStore.policies[samplePolicy.name]? = some samplePolicy ∧
      sample.HasDistinctNames (.ofSpec samplePolicy.spec) (detected sampleStore samplePolicy) ∧
      ∃ t q u issued, exec (sample.pass samplePolicy) sampleStore = (.ok .ready, t) ∧
        t.policies[samplePolicy.name]? = some q ∧ exec (sample.pass q) t = (.ok .ready, u) ∧
        u.log = t.log ++ issued ∧ issued ≠ [] := by
  have hkeyed := nodesKeyed_sampleStore
  have hstored := getElem?_sampleStore
  have hnames := sample_hasDistinctNames (.ofSpec samplePolicy.spec)
    (detected sampleStore samplePolicy)
  have hcharge := isInCharge_sampleStore
  have hbefore : detected sampleStore samplePolicy = .docker := by decide +kernel
  have hafter : ∀ state error, detected
      (sample.reported samplePolicy state error (carriedOut sample samplePolicy sampleStore))
      samplePolicy = .containerd := by
    intro state error
    rw [detected, reported_nodes, carriedOut_nodes, labelled, Cluster.values_map]
    exact runtime_labelled_sample
  have hpass := (exec_pass_ok_iff hkeyed hstored rfl).mpr
    ⟨none, _, .carriedOut hcharge rfl (sample_deployable _), rfl⟩
  obtain ⟨q, u, issued, hq, hagain, hlog, -, hnone, -⟩ :=
    pass_again sample samplePolicy sampleStore _ .ready hkeyed hstored hnames hpass
  refine ⟨hkeyed, hstored, hnames, _, q, u, issued, hpass, hq, hagain, hlog, fun h => ?_⟩
  have hsame := hnone.mp h rfl
  rw [hbefore, hafter] at hsame
  exact not_sameFingerprints_sample hsame

end GpuFleet.Operator
