import GpuFleet.Proofs.Operator.Ending

/-!
The course of a deployment, whether it succeeds or not. The manifests and the plan alone say which
DaemonSets are settled, one after another, and what stops the deployment before the others, if
anything does. So it takes the same course in every cluster.
-/
namespace GpuFleet.Operator

open Cluster (Store Failure exec)
open Kube (DaemonSet)
open Policy (ClusterPolicy State isInCharge)

variable {op : Operator} {plan : Plan} {os : List Operand} {items : List (Operand × DaemonSet)}
  {obstacle : Option Failure}

/-- The DaemonSets of an operand as its manifests have them. -/
def draftsOf (op : Operator) (o : Operand) : List (Operand × DaemonSet) :=
  match op.manifests.drafts o with
  | .ok ds => ds.map (o, ·)
  | .error _ => []

/-- The DaemonSets that are settled in the deployment of operands, and the failure that stops it. -/
inductive Course (op : Operator) (plan : Plan) :
    List Operand → List (Operand × DaemonSet) → Option Failure → Prop
  | done : Course op plan [] [] none
  /-- All DaemonSets of the operand are settled before the next one has its turn. -/
  | deployed {o : Operand} {ds : List DaemonSet} {os : List Operand}
      {items : List (Operand × DaemonSet)} {obstacle : Option Failure} :
      op.manifests.drafts o = .ok ds →
      (plan.isEnabled o = true → ∀ d ∈ ds, d.metadata.name ≠ none) →
      Course op plan os items obstacle →
      Course op plan (o :: os) (op.draftsOf o ++ items) obstacle
  /-- Nothing is done for an operand whose manifests cannot be read. -/
  | unreadable {o : Operand} {cause : Manifest.Error} (os : List Operand) :
      op.manifests.drafts o = .error cause →
      Course op plan (o :: os) [] (some (.manifest cause))
  /-- The DaemonSets before the first one without a name are settled, if the operand is wanted. -/
  | nameless {o : Operand} {named : List DaemonSet} {d : DaemonSet} {rest : List DaemonSet}
      (os : List Operand) :
      op.manifests.drafts o = .ok (named ++ d :: rest) → plan.isEnabled o = true →
      (∀ b ∈ named, b.metadata.name ≠ none) → d.metadata.name = none →
      Course op plan (o :: os) (named.map (o, ·)) (some (.misconfigured .daemonSetWithoutName))

/-- Every deployment has a course. -/
theorem exists_course (op : Operator) (plan : Plan) (os : List Operand) :
    ∃ items obstacle, Course op plan os items obstacle := by
  induction os with
  | nil => exact ⟨[], none, .done⟩
  | cons o os ih =>
    obtain ⟨items, obstacle, hcourse⟩ := ih
    cases hds : op.manifests.drafts o with
    | error cause => exact ⟨_, _, .unreadable os hds⟩
    | ok ds =>
      cases hwanted : plan.isEnabled o with
      | false => exact ⟨_, _, .deployed hds (fun h => absurd (hwanted ▸ h) (by decide)) hcourse⟩
      | true =>
        cases hfind : ds.find? (·.metadata.name.isNone) with
        | none =>
          refine ⟨_, _, .deployed hds (fun _ d hd hname => ?_) hcourse⟩
          exact List.find?_eq_none.mp hfind d hd (Option.isNone_iff_eq_none.mpr hname)
        | some d =>
          obtain ⟨hd, named, rest, rfl, hnamed⟩ := List.find?_eq_some_iff_append.mp hfind
          refine ⟨_, _, .nameless os hds hwanted (fun b hb hname => ?_)
            (Option.isNone_iff_eq_none.mp hd)⟩
          simpa [hname] using hnamed b hb

/-! ## What is done -/

/-- The tasks of DaemonSets as the manifests have them. -/
def draftTasks (op : Operator) (plan : Plan) (runtime : Policy.Runtime)
    (items : List (Operand × DaemonSet)) : List Task :=
  items.map fun (o, d) => op.draftTask plan runtime o d

theorem draftTasks_draftsOf (op : Operator) (plan : Plan) (runtime : Policy.Runtime)
    (o : Operand) :
    op.draftTasks plan runtime (op.draftsOf o) = op.operandTasks plan runtime o := by
  unfold draftTasks draftsOf operandTasks
  cases hds : op.manifests.drafts o with
  | error e => simp [rendered, Manifest.Source.desired, hds, Except.map]
  | ok ds =>
    rw [rendered_of_drafts hds, List.map_map, List.map_map]
    rfl

/-- The tasks of all operands are those of all their DaemonSets. -/
theorem draftTasks_all (op : Operator) (plan : Plan) (runtime : Policy.Runtime) :
    op.draftTasks plan runtime (Operand.all.flatMap op.draftsOf) = op.tasks plan runtime := by
  rw [draftTasks, List.map_flatMap]
  exact List.flatMap_congr fun o _ => draftTasks_draftsOf op plan runtime o

/-- What a deployment answers when it meets the obstacle, or none. -/
def answer : Option Failure → Except Failure Unit
  | none => .ok ()
  | some e => .error e

/-- A DaemonSet that is wanted but has no name stops the deployment of its operand. -/
private theorem exec_deployOperand_nameless {o : Operand} {named rest : List DaemonSet}
    {d : DaemonSet} (hds : op.manifests.drafts o = .ok (named ++ d :: rest))
    (hwanted : plan.isEnabled o = true) (hnamed : ∀ b ∈ named, b.metadata.name ≠ none)
    (hname : d.metadata.name = none) (runtime : Policy.Runtime) (s : Store) :
    exec (op.deployOperand plan runtime o) s =
      (.error (.misconfigured .daemonSetWithoutName),
        settledAll op.ns s (op.draftTasks plan runtime (named.map (o, ·)))) := by
  rw [deployOperand, Cluster.exec_bind_of_ok (exec_desired_of_drafts hds s),
    rendered_of_drafts hds, List.map_append, List.map_cons]
  have hbefore : ∀ b ∈ named.map (Manifest.render o (op.context plan runtime o)), ∀ t,
      exec (op.settle (plan.isEnabled o) b) t =
        (.ok (), settled op.ns t ⟨plan.isEnabled o, b⟩) := by
    intro b hb t
    obtain ⟨draft, hdraft, rfl⟩ := List.mem_map.mp hb
    exact exec_settle op (op.draftTask plan runtime o draft) rfl
      (fun _ => hnamed draft hdraft) t
  have htasks : op.draftTasks plan runtime (named.map (o, ·)) =
      (named.map (Manifest.render o (op.context plan runtime o))).map (⟨plan.isEnabled o, ·⟩) := by
    rw [draftTasks, List.map_map, List.map_map]
    rfl
  have hrender : (Manifest.render o (op.context plan runtime o) d).metadata.name = none := hname
  have hstop : ∀ t : Store, exec (op.settle (plan.isEnabled o)
      (Manifest.render o (op.context plan runtime o) d)) t =
        (.error (.misconfigured .daemonSetWithoutName), t) := by
    intro t
    rw [settle, if_pos hwanted, applyIfChanged, hrender]
    rfl
  rw [htasks, settledAll, List.foldl_map]
  exact Cluster.exec_forM_stops hbefore (hstop _) _

/-- A deployment does the tasks of its course, and fails at the obstacle. -/
theorem Course.exec_forM (h : Course op plan os items obstacle) (runtime : Policy.Runtime)
    (s : Store) :
    exec (os.forM (op.deployOperand plan runtime)) s =
      (answer obstacle, settledAll op.ns s (op.draftTasks plan runtime items)) := by
  induction h generalizing s with
  | done => rfl
  | @deployed o ds os items obstacle hds hnamed _ ih =>
    rw [List.forM_eq_forM, List.forM_cons,
      Cluster.exec_bind_of_ok (exec_deployOperand hds hnamed s), ← List.forM_eq_forM, ih,
      ← draftTasks_draftsOf, ← settledAll_append, draftTasks, draftTasks, ← List.map_append,
      ← draftTasks]
  | @unreadable o cause os hds =>
    have hstop : exec (op.deployOperand plan runtime o) s = (.error (.manifest cause), s) := by
      simp [deployOperand, desired, Manifest.Source.desired, hds, Except.map]
    rw [List.forM_eq_forM, List.forM_cons, Cluster.exec_bind_of_error hstop]
    rfl
  | @nameless o named d rest os hds hwanted hnamed hname =>
    have hstop := exec_deployOperand_nameless hds hwanted hnamed hname runtime s
    rw [List.forM_eq_forM, List.forM_cons, Cluster.exec_bind_of_error hstop]
    rfl

/-- A deployment that fails meets an obstacle on its course. -/
theorem course_of_exec_error {runtime : Policy.Runtime} {s t : Store} {e : Failure}
    (h : exec (op.deploy plan runtime) s = (.error e, t)) :
    ∃ items, Course op plan Operand.all items (some e) := by
  obtain ⟨items, obstacle, hcourse⟩ := exists_course op plan Operand.all
  have hexec := hcourse.exec_forM runtime s
  rw [← deploy, h, Prod.mk.injEq] at hexec
  cases obstacle with
  | none => cases hexec.1
  | some e' =>
    cases hexec.1
    exact ⟨items, hcourse⟩

/-! ## Names -/

/-- What is settled is all there is, or a part of it. -/
theorem Course.sublist (h : Course op plan os items obstacle) :
    items.Sublist (os.flatMap op.draftsOf) := by
  induction h with
  | done => exact .slnil
  | deployed _ _ _ ih => exact ih.append_left _
  | unreadable => exact List.nil_sublist _
  | nameless os hds _ _ _ =>
    rw [List.flatMap_cons, draftsOf, hds]
    simp only [List.map_append, List.append_assoc]
    exact List.sublist_append_left _ _

theorem Course.distinct {first : Policy.Runtime} (h : Course op plan Operand.all items obstacle)
    (hnames : op.HasDistinctNames plan first) (runtime : Policy.Runtime) :
    Distinct (op.draftTasks plan runtime items) := by
  have hall : Distinct (op.draftTasks plan runtime (Operand.all.flatMap op.draftsOf)) := by
    rw [draftTasks_all, distinct_tasks_iff, hasDistinctNames_iff]
    exact hasDistinctNames_iff.mp hnames
  exact hall.sublist ((h.sublist.map _).filterMap _)

/-! ## Passes -/

variable {p : ClusterPolicy} {s : Store}

/-- The cluster in which the nodes are labelled for a policy, and the DaemonSets settled as far as
its deployment gets. -/
def worked (op : Operator) (p : ClusterPolicy) (items : List (Operand × DaemonSet)) (s : Store) :
    Store :=
  settledAll op.ns (labelled (.ofSpec p.spec) s)
    (op.draftTasks (.ofSpec p.spec) (detected s p) items)

theorem worked_nodes :
    (worked op p items s).nodes = (labelled (.ofSpec p.spec) s).nodes := settledAll_frame.1

theorem worked_policies : (worked op p items s).policies = s.policies := settledAll_frame.2.1

theorem worked_congr {q : ClusterPolicy} (h : q.spec = p.spec) :
    worked op q items s = worked op p items s := by
  rw [worked, worked, detected, detected, h]

/-- A deployment that meets no obstacle makes the policy ready. -/
theorem exec_pass_done {name : String} (hkeyed : s.NodesKeyed)
    (hstored : s.policies[p.name]? = some p) (hname : p.metadata.name = some name)
    (hcharge : isInCharge s.policies.values name = true) (hrejection : p.spec.rejection? = none)
    (h : Course op (.ofSpec p.spec) Operand.all items none) :
    exec (op.pass p) s = (.ok .ready, op.reported p .ready none (worked op p items s)) := by
  have hexec := h.exec_forM (detected s p) (labelled (.ofSpec p.spec) s)
  have hdeployable : op.Deployable (.ofSpec p.spec) := deployable_of_exec_ok hexec
  rw [← deploy, exec_deploy hdeployable, Prod.mk.injEq] at hexec
  refine (exec_pass_ok_iff hkeyed hstored hname).mpr
    ⟨none, _, .carriedOut hcharge hrejection hdeployable, ?_⟩
  rw [carriedOut, hexec.2, worked]

/-- One that meets an obstacle makes the pass fail with it. -/
theorem exec_pass_stopped {name : String} {e : Failure} (hkeyed : s.NodesKeyed)
    (hstored : s.policies[p.name]? = some p) (hname : p.metadata.name = some name)
    (hcharge : isInCharge s.policies.values name = true) (hrejection : p.spec.rejection? = none)
    (h : Course op (.ofSpec p.spec) Operand.all items (some e)) :
    exec (op.pass p) s =
      (.error e, op.reported p .notReady (some e.message) (worked op p items s)) := by
  have hexec := h.exec_forM (detected s p) (labelled (.ofSpec p.spec) s)
  rw [← deploy] at hexec
  obtain ⟨outcome, state, error, t, hending, hpass⟩ := exec_pass op hkeyed hstored hname
  rw [hpass]
  cases hending with
  | failed _ _ hdeploy =>
    rw [hdeploy, Prod.mk.injEq] at hexec
    cases hexec.1
    rw [hexec.2, worked]
  | decided hverdict =>
    cases hverdict with
    | ignored hother => rw [hcharge] at hother; cases hother
    | rejected r _ hr => rw [hrejection] at hr; cases hr
    | carriedOut _ _ hdeployable =>
      rw [exec_deploy hdeployable, Prod.mk.injEq] at hexec
      cases hexec.1

end GpuFleet.Operator
