import GpuFleet.Proofs.Operator.Deployment
import GpuFleet.Proofs.Operator.Labelling
import GpuFleet.Proofs.Operator.Report
import GpuFleet.Proofs.Policy.Authority

/-!
A pass that succeeds. It comes to a verdict on the policy, which may be to carry it out, and then
reports the verdict.
-/
namespace GpuFleet.Operator

open Cluster (Store Server exec)
open Policy (ClusterPolicy State isInCharge)

variable {op : Operator} {p : ClusterPolicy} {s t : Store}

/-- The container runtime that a pass for the policy finds in the cluster. -/
def detected (s : Store) (p : ClusterPolicy) : Policy.Runtime :=
  Workload.clusterRuntime s.nodes.values p.spec.defaultRuntime

/-- The cluster after a policy has been carried out. The runtime is that of the nodes before they
are labelled. -/
def carriedOut (op : Operator) (p : ClusterPolicy) (s : Store) : Store :=
  settledAll op.ns (labelled (.ofSpec p.spec) s) (op.tasks (.ofSpec p.spec) (detected s p))

theorem carriedOut_nodes :
    (carriedOut op p s).nodes = (labelled (.ofSpec p.spec) s).nodes := settledAll_frame.1

theorem carriedOut_policies : (carriedOut op p s).policies = s.policies := settledAll_frame.2.1

/-! ## Carrying out -/

theorem exec_carryOut (hkeyed : s.NodesKeyed) (h : op.Deployable (.ofSpec p.spec)) :
    exec (op.carryOut p) s = (.ok (), carriedOut op p s) := by
  obtain ⟨count, hlabel⟩ := exec_labelNodes (.ofSpec p.spec) hkeyed
  unfold carryOut
  simp only
  rw [Cluster.exec_bind_of_ok (Store.exec_listNodes s), Cluster.exec_bind_of_ok hlabel,
    Cluster.exec_tryCatch, exec_deploy h]
  rfl

/-- A failure that is reported stays a failure. -/
theorem exec_reportFailure (op : Operator) (p : ClusterPolicy) (e : Cluster.Failure) (s : Store) :
    (exec (op.reportFailure p e) s).1 = .error e := by
  unfold reportFailure
  rw [Cluster.exec_bind, Cluster.exec_tryCatch]
  rcases exec (op.report p .notReady (some e.message)) s with ⟨r | r, t⟩ <;> rfl

/-- A policy that has been carried out can be carried out. -/
theorem deployable_of_exec_carryOut (hkeyed : s.NodesKeyed)
    (h : exec (op.carryOut p) s = (.ok (), t)) : op.Deployable (.ofSpec p.spec) := by
  obtain ⟨count, hlabel⟩ := exec_labelNodes (.ofSpec p.spec) hkeyed
  unfold carryOut at h
  simp only at h
  rw [Cluster.exec_bind_of_ok (Store.exec_listNodes s), Cluster.exec_bind_of_ok hlabel,
    Cluster.exec_tryCatch] at h
  rcases hdeploy : exec (op.deploy (.ofSpec p.spec)
    (Workload.clusterRuntime s.nodes.values p.spec.defaultRuntime))
    (labelled (.ofSpec p.spec) s) with ⟨e | ⟨⟩, u⟩
  · simp only [hdeploy] at h
    have hfailed := exec_reportFailure op p e u
    rw [h] at hfailed
    cases hfailed
  · exact deployable_of_exec_ok hdeploy

/-! ## Verdicts -/

/-- The verdict on a stored policy of the name: a state and an error to report, and the cluster as
it is before the report. -/
inductive Verdict (op : Operator) (p : ClusterPolicy) (name : String) (s : Store) :
    State → Option String → Store → Prop
  | ignored : isInCharge s.policies.values name = false → Verdict op p name s .ignored none s
  | rejected (r : Policy.Rejection) :
      isInCharge s.policies.values name = true → p.spec.rejection? = some r →
      Verdict op p name s .notReady (some r.message) s
  | carriedOut :
      isInCharge s.policies.values name = true → p.spec.rejection? = none →
      op.Deployable (.ofSpec p.spec) → Verdict op p name s .ready none (carriedOut op p s)

/-- A verdict leaves the policies alone. -/
theorem Verdict.policies {name : String} {state : State} {error : Option String}
    (h : Verdict op p name s state error t) : t.policies = s.policies := by
  cases h with
  | ignored | rejected => rfl
  | carriedOut => exact carriedOut_policies

theorem Verdict.nodesKeyed {name : String} {state : State} {error : Option String}
    (h : Verdict op p name s state error t) (hkeyed : s.NodesKeyed) : t.NodesKeyed := by
  cases h with
  | ignored | rejected => exact hkeyed
  | carriedOut =>
    unfold Store.NodesKeyed
    rw [carriedOut_nodes]
    exact nodesKeyed_labelled hkeyed

/-- A pass for a stored policy succeeds exactly with a verdict that is then reported. -/
theorem exec_pass_ok_iff {state : State} {name : String} (hkeyed : s.NodesKeyed)
    (hstored : s.policies[p.name]? = some p) (hname : p.metadata.name = some name) :
    exec (op.pass p) s = (.ok state, t) ↔
      ∃ error u, Verdict op p name s state error u ∧ t = op.reported p state error u := by
  have hreport : ∀ (verdict : State) (error : Option String) (u : Store),
      u.policies = s.policies →
      exec (do op.report p verdict error; return verdict) u =
        (.ok verdict, op.reported p verdict error u) := by
    intro verdict error u hu
    rw [Cluster.exec_bind_of_ok (exec_report op p verdict error (hu ▸ hstored)),
      Cluster.exec_pure]
  unfold pass
  rw [hname]
  simp only
  rw [Cluster.exec_bind_of_ok (Store.exec_listPolicies s), ← isInCharge]
  cases hcharge : isInCharge s.policies.values name with
  | false =>
    simp only [Bool.not_false, if_true, pure_bind, hreport _ _ s rfl]
    constructor
    · intro h
      cases h
      exact ⟨none, s, .ignored hcharge, rfl⟩
    · rintro ⟨error, u, hverdict, rfl⟩
      cases hverdict <;> simp_all
  | true =>
    cases hrejection : p.spec.rejection? with
    | some r =>
      simp only [Bool.not_true, Bool.false_eq_true, if_false, pure_bind, hreport _ _ s rfl]
      constructor
      · intro h
        cases h
        exact ⟨some r.message, s, .rejected r hcharge hrejection, rfl⟩
      · rintro ⟨error, u, hverdict, rfl⟩
        cases hverdict <;> simp_all
    | none =>
      simp only [Bool.not_true, Bool.false_eq_true, if_false, pure_bind]
      constructor
      · intro h
        obtain ⟨⟨⟩, u, hcarry, h⟩ := Cluster.exec_bind_ok h
        have hdeployable := deployable_of_exec_carryOut hkeyed hcarry
        rw [exec_carryOut hkeyed hdeployable] at hcarry
        cases hcarry
        rw [hreport _ _ _ carriedOut_policies] at h
        cases h
        exact ⟨none, _, .carriedOut hcharge hrejection hdeployable, rfl⟩
      · rintro ⟨error, u, hverdict, rfl⟩
        cases hverdict with
        | ignored h => simp_all
        | rejected r _ h => simp_all
        | carriedOut _ _ hdeployable =>
          rw [Cluster.exec_bind_of_ok (exec_carryOut hkeyed hdeployable),
            hreport _ _ _ carriedOut_policies]

/-- A pass that succeeds keeps every node under its name. -/
theorem nodesKeyed_of_exec_pass {state : State} (hkeyed : s.NodesKeyed)
    (hstored : s.policies[p.name]? = some p) (h : exec (op.pass p) s = (.ok state, t)) :
    t.NodesKeyed := by
  cases hname : p.metadata.name with
  | none =>
    unfold pass at h
    simp [hname] at h
  | some name =>
    obtain ⟨error, v, hverdict, rfl⟩ := (exec_pass_ok_iff hkeyed hstored hname).mp h
    unfold Store.NodesKeyed
    rw [reported_nodes]
    exact hverdict.nodesKeyed hkeyed

end GpuFleet.Operator
