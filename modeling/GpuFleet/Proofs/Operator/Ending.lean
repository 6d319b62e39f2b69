import GpuFleet.Proofs.Cluster.Keeps
import GpuFleet.Proofs.Operator.Pass

/-!
How a pass ends. Where the operands cannot be deployed the pass fails, and the failure is reported
like any other verdict; so every pass for a stored policy ends with a report on it, whatever comes
of it. What a pass keeps is what its calls keep.
-/
namespace GpuFleet.Operator

open Cluster (Run Store Server Failure Keeps KeptByWork KeptByCalls exec)
open Policy (ClusterPolicy State isInCharge)

/-! ## What a pass keeps -/

section

variable {σ : Type} [Server σ] {I : σ → Prop} {op : Operator} {p : ClusterPolicy}

theorem keeps_applyIfChanged (h : KeptByWork I) (d : Kube.DaemonSet) :
    Keeps I (op.applyIfChanged d) := by
  unfold applyIfChanged
  cases d.metadata.name with
  | none => exact .throw _
  | some name =>
    refine .bind (h.getDaemonSet? op.ns name) fun live => ?_
    cases Drift.decision (Drift.fingerprint d) (live.bind (·.metadata.annotations)) with
    | skip => exact .pure _
    | apply => exact .bind (h.applyDaemonSet _) fun _ => .pure _

theorem keeps_deleteIfPresent (h : KeptByWork I) (d : Kube.DaemonSet) :
    Keeps I (op.deleteIfPresent d) := by
  unfold deleteIfPresent
  cases d.metadata.name with
  | none => exact .pure _
  | some name =>
    refine .bind (h.getDaemonSet? op.ns name) fun live => ?_
    cases live with
    | none => exact .pure _
    | some live =>
      cases hmanaged : isManaged live with
      | true =>
        simp only [hmanaged, if_true]
        exact .bind (h.deleteDaemonSet _ _) fun _ => .pure _
      | false =>
        simp only [hmanaged, Bool.false_eq_true, if_false]
        exact .pure _

theorem keeps_settle (h : KeptByWork I) (wanted : Bool) (d : Kube.DaemonSet) :
    Keeps I (op.settle wanted d) := by
  unfold settle
  cases wanted with
  | true => exact .bind (keeps_applyIfChanged h d) fun _ => .pure _
  | false => exact .bind (keeps_deleteIfPresent h d) fun _ => .pure _

theorem keeps_deployOperand (h : KeptByWork I) (plan : Plan) (runtime : Policy.Runtime)
    (o : Operand) : Keeps I (op.deployOperand plan runtime o) := by
  refine .bind ?_ fun ds => .forM fun d => keeps_settle h _ d
  unfold desired
  split
  · exact .pure _
  · exact .throw _

theorem keeps_deploy (h : KeptByWork I) (plan : Plan) (runtime : Policy.Runtime) :
    Keeps I (op.deploy plan runtime) :=
  .forM (keeps_deployOperand h plan runtime)

theorem keeps_labelNodes (h : KeptByWork I) (plan : Plan) (nodes : List Kube.Node) :
    Keeps I (labelNodes plan nodes) :=
  .bind (.forM fun due => h.patchNodeLabels due.1 due.2) fun _ => .pure _

theorem keeps_report (h : KeptByCalls I p.name) (state : State) (error : Option String) :
    Keeps I (op.report p state error) := by
  unfold report
  split
  · exact .pure _
  · exact h.writeStatus _

theorem keeps_carryOut (h : KeptByCalls I p.name) : Keeps I (op.carryOut p) := by
  refine .bind h.listNodes fun nodes => .bind (keeps_labelNodes h.toKeptByWork _ nodes) fun _ => ?_
  refine .tryCatch (keeps_deploy h.toKeptByWork _ _) fun e => ?_
  exact .bind (.tryCatch (keeps_report h _ _) fun _ => .pure _) fun _ => .throw e

theorem keeps_pass (h : KeptByCalls I p.name) : Keeps I (op.pass p) := by
  have hreport : ∀ state error, Keeps I (do op.report p state error; return state) :=
    fun state error => .bind (keeps_report h state error) fun _ => .pure _
  unfold pass
  cases p.metadata.name with
  | none => exact .throw _
  | some name =>
    refine .bind h.listPolicies fun policies => ?_
    simp only [pure_bind]
    split
    · exact hreport _ _
    · split
      · exact hreport _ _
      · exact .bind (keeps_carryOut h) fun _ => hreport _ _

end

/-! ## The ways in which a pass ends -/

variable {op : Operator} {p : ClusterPolicy} {s t : Store}

/-- What comes of a pass for a stored policy of the name: its outcome, a state and an error to
report, and the cluster as it is before the report. -/
inductive Ending (op : Operator) (p : ClusterPolicy) (name : String) (s : Store) :
    Except Failure State → State → Option String → Store → Prop
  | decided {state : State} {error : Option String} {t : Store} :
      Verdict op p name s state error t → Ending op p name s (.ok state) state error t
  | failed {e : Failure} {t : Store} :
      isInCharge s.policies.values name = true → p.spec.rejection? = none →
      exec (op.deploy (.ofSpec p.spec) (detected s p)) (labelled (.ofSpec p.spec) s) =
        (.error e, t) →
      Ending op p name s (.error e) .notReady (some e.message) t

theorem policies_deploy (op : Operator) (plan : Plan) (runtime : Policy.Runtime) (s : Store) :
    (exec (op.deploy plan runtime) s).2.policies = s.policies := by
  refine keeps_deploy (I := fun t => t.policies = s.policies)
    (Store.keptByWork ?_) plan runtime s rfl
  intro t u hwork ht
  cases hwork <;> exact ht

theorem Ending.policies {name : String} {outcome : Except Failure State} {state : State}
    {error : Option String} (h : Ending op p name s outcome state error t) :
    t.policies = s.policies := by
  cases h with
  | decided hverdict => exact hverdict.policies
  | failed _ _ hdeploy =>
    have hpolicies :=
      policies_deploy op (.ofSpec p.spec) (detected s p) (labelled (.ofSpec p.spec) s)
    rw [hdeploy] at hpolicies
    exact hpolicies

/-- A deployment that fails is reported, and the failure stays one. -/
theorem exec_carryOut_error {e : Failure} (hkeyed : s.NodesKeyed)
    (hstored : s.policies[p.name]? = some p)
    (h : exec (op.deploy (.ofSpec p.spec) (detected s p)) (labelled (.ofSpec p.spec) s) =
      (.error e, t)) :
    exec (op.carryOut p) s = (.error e, op.reported p .notReady (some e.message) t) := by
  obtain ⟨count, hlabel⟩ := exec_labelNodes (.ofSpec p.spec) hkeyed
  have hpolicies :=
    policies_deploy op (.ofSpec p.spec) (detected s p) (labelled (.ofSpec p.spec) s)
  rw [h] at hpolicies
  have hstored' : t.policies[p.name]? = some p := by
    rw [← hstored]
    exact congrArg (·[p.name]?) hpolicies
  unfold carryOut
  simp only
  rw [Cluster.exec_bind_of_ok (Store.exec_listNodes s), Cluster.exec_bind_of_ok hlabel,
    Cluster.exec_tryCatch, ← detected, h]
  simp only [reportFailure]
  rw [Cluster.exec_bind, Cluster.exec_tryCatch,
    exec_report op p .notReady (some e.message) hstored']
  rfl

/-- Every pass for a stored policy with a name ends with a report on it. -/
theorem exec_pass (op : Operator) {name : String} (hkeyed : s.NodesKeyed)
    (hstored : s.policies[p.name]? = some p) (hname : p.metadata.name = some name) :
    ∃ outcome state error t, Ending op p name s outcome state error t ∧
      exec (op.pass p) s = (outcome, op.reported p state error t) := by
  have hverdict : ∀ state error t, Verdict op p name s state error t →
      ∃ outcome state error t, Ending op p name s outcome state error t ∧
        exec (op.pass p) s = (outcome, op.reported p state error t) := by
    intro state error t h
    exact ⟨_, _, _, _, .decided h,
      (exec_pass_ok_iff hkeyed hstored hname).mpr ⟨error, t, h, rfl⟩⟩
  cases hcharge : isInCharge s.policies.values name with
  | false => exact hverdict _ _ _ (.ignored hcharge)
  | true =>
    cases hrejection : p.spec.rejection? with
    | some r => exact hverdict _ _ _ (.rejected r hcharge hrejection)
    | none =>
      rcases hdeploy : exec (op.deploy (.ofSpec p.spec) (detected s p))
        (labelled (.ofSpec p.spec) s) with ⟨e | ⟨⟩, t⟩
      · refine ⟨_, _, _, t, .failed hcharge hrejection hdeploy, ?_⟩
        unfold pass
        rw [hname]
        simp only
        rw [Cluster.exec_bind_of_ok (Store.exec_listPolicies s), ← isInCharge, hcharge, hrejection]
        simp only [Bool.not_true, Bool.false_eq_true, if_false]
        rw [Cluster.exec_bind, exec_carryOut_error hkeyed hstored hdeploy]
      · exact hverdict _ _ _ (.carriedOut hcharge hrejection (deployable_of_exec_ok hdeploy))

end GpuFleet.Operator
