import GpuFleet.Proofs.Operator.Settlement

/-!
Deployment of the operands. Whether it succeeds hangs on the manifests and the plan only, not on the
cluster. If it succeeds, each rendered DaemonSet is settled by itself, all other objects stay as
they are, and a second deployment finds nothing to do.
-/
namespace GpuFleet.Operator

open Cluster (Store Write ObjectKey exec)
open Kube (DaemonSet)

variable {op : Operator} {plan : Plan} {runtime : Policy.Runtime}

/-- The rendered DaemonSets of an operand, none if its manifests cannot be read. -/
def rendered (op : Operator) (plan : Plan) (runtime : Policy.Runtime) (o : Operand) :
    List DaemonSet :=
  match op.manifests.desired o (op.context plan runtime o) with
  | .ok ds => ds
  | .error _ => []

/-- The tasks of an operand. -/
def operandTasks (op : Operator) (plan : Plan) (runtime : Policy.Runtime) (o : Operand) :
    List Task :=
  (op.rendered plan runtime o).map (⟨plan.isEnabled o, ·⟩)

/-- The tasks of all operands, in the order of deployment. -/
def tasks (op : Operator) (plan : Plan) (runtime : Policy.Runtime) : List Task :=
  Operand.all.flatMap (op.operandTasks plan runtime)

/-- No two of the rendered DaemonSets of all operands have one name. -/
def HasDistinctNames (op : Operator) (plan : Plan) (runtime : Policy.Runtime) : Prop :=
  ((Operand.all.flatMap (op.rendered plan runtime)).filterMap (·.metadata.name)).Nodup

/-- All manifests can be read, and every DaemonSet that is wanted has a name. -/
structure Deployable (op : Operator) (plan : Plan) : Prop where
  loads : ∀ o, ∃ ds, op.manifests.drafts o = .ok ds
  named : ∀ o, plan.isEnabled o = true → ∀ ds, op.manifests.drafts o = .ok ds →
    ∀ d ∈ ds, d.metadata.name ≠ none

/-! ## Rendered DaemonSets -/

theorem rendered_of_drafts {o : Operand} {ds : List DaemonSet}
    (h : op.manifests.drafts o = .ok ds) :
    op.rendered plan runtime o = ds.map (Manifest.render o (op.context plan runtime o)) := by
  simp [rendered, Manifest.Source.desired, h, Except.map]

theorem exec_desired_of_drafts {o : Operand} {ds : List DaemonSet}
    (h : op.manifests.drafts o = .ok ds) (s : Store) :
    exec (op.desired plan runtime o) s = (.ok (op.rendered plan runtime o), s) := by
  rw [rendered_of_drafts h]
  simp [desired, Manifest.Source.desired, h, Except.map]

/-- Rendering puts a DaemonSet into the operator's namespace. -/
theorem ns_of_mem_rendered {o : Operand} {d : DaemonSet} (h : d ∈ op.rendered plan runtime o) :
    d.metadata.ns = some op.ns := by
  cases hdrafts : op.manifests.drafts o with
  | error e => simp [rendered, Manifest.Source.desired, hdrafts, Except.map] at h
  | ok drafts =>
    rw [rendered_of_drafts hdrafts] at h
    obtain ⟨draft, -, rfl⟩ := List.mem_map.mp h
    rfl

private theorem name_ne_none (h : op.Deployable plan) {o : Operand}
    (hwanted : plan.isEnabled o = true) {d : DaemonSet} (hd : d ∈ op.rendered plan runtime o) :
    d.metadata.name ≠ none := by
  obtain ⟨ds, hds⟩ := h.loads o
  rw [rendered_of_drafts hds] at hd
  obtain ⟨draft, hdraft, rfl⟩ := List.mem_map.mp hd
  exact h.named o hwanted ds hds draft hdraft

/-- The names in the manifests of an operand. -/
def manifestNames (op : Operator) (o : Operand) : List (Option String) :=
  match op.manifests.drafts o with
  | .ok ds => ds.map (·.metadata.name)
  | .error _ => []

/-- Whether names are distinct is a matter of the manifests. -/
theorem hasDistinctNames_iff :
    op.HasDistinctNames plan runtime ↔
      ((Operand.all.flatMap op.manifestNames).filterMap id).Nodup := by
  have hnames : op.manifestNames =
      fun o => (op.rendered plan runtime o).map (·.metadata.name) := by
    funext o
    cases hdrafts : op.manifests.drafts o with
    | error e =>
      simp [rendered, Manifest.Source.desired, manifestNames, hdrafts, Except.map]
    | ok ds =>
      rw [rendered_of_drafts hdrafts, manifestNames, hdrafts, List.map_map]
      rfl
  rw [HasDistinctNames, hnames, ← List.map_flatMap, List.filterMap_map]
  rfl

theorem distinct_tasks_iff :
    Distinct (op.tasks plan runtime) ↔ op.HasDistinctNames plan runtime := by
  have hnames : ∀ os : List Operand, (os.flatMap (op.operandTasks plan runtime)).filterMap
      Task.name? = (os.flatMap (op.rendered plan runtime)).filterMap (·.metadata.name) := by
    intro os
    induction os with
    | nil => rfl
    | cons o os ih =>
      rw [List.flatMap_cons, List.flatMap_cons, List.filterMap_append, List.filterMap_append, ih,
        operandTasks, List.filterMap_map]
      rfl
  rw [Distinct, tasks, hnames, HasDistinctNames]

/-! ## Runs -/

/-- An operand whose manifests can be read, and whose DaemonSets have names if they are wanted, is
deployed by its tasks. -/
theorem exec_deployOperand {o : Operand} {ds : List DaemonSet}
    (hds : op.manifests.drafts o = .ok ds)
    (hnamed : plan.isEnabled o = true → ∀ d ∈ ds, d.metadata.name ≠ none) (s : Store) :
    exec (op.deployOperand plan runtime o) s =
      (.ok (), settledAll op.ns s (op.operandTasks plan runtime o)) := by
  rw [deployOperand, Cluster.exec_bind_of_ok (exec_desired_of_drafts hds s), operandTasks,
    settledAll, List.foldl_map]
  refine Cluster.exec_forM_eq _ s fun d hd t => ?_
  refine exec_settle op ⟨plan.isEnabled o, d⟩ (ns_of_mem_rendered hd) (fun hwanted => ?_) t
  rw [rendered_of_drafts hds] at hd
  obtain ⟨draft, hdraft, rfl⟩ := List.mem_map.mp hd
  exact hnamed hwanted draft hdraft

/-- A deployment that can succeed does its tasks. -/
theorem exec_deploy (h : op.Deployable plan) (runtime : Policy.Runtime) (s : Store) :
    exec (op.deploy plan runtime) s = (.ok (), settledAll op.ns s (op.tasks plan runtime)) := by
  rw [tasks, settledAll, List.foldl_flatMap]
  refine Cluster.exec_forM_eq _ s fun o _ t => ?_
  obtain ⟨ds, hds⟩ := h.loads o
  exact exec_deployOperand hds (fun hwanted => h.named o hwanted ds hds) t

/-- A deployment that has succeeded can succeed. -/
theorem deployable_of_exec_ok {s u : Store}
    (h : exec (op.deploy plan runtime) s = (.ok (), u)) : op.Deployable plan := by
  have hloads : ∀ o, ∃ ds, op.manifests.drafts o = .ok ds ∧
      ∀ d ∈ ds, plan.isEnabled o = true → d.metadata.name ≠ none := by
    intro o
    obtain ⟨t, v, ho⟩ := Cluster.exec_forM_ok h o (Operand.mem_all o)
    obtain ⟨ds, t', hds, hall⟩ := Cluster.exec_bind_ok ho
    cases hdrafts : op.manifests.drafts o with
    | error e =>
      simp [desired, Manifest.Source.desired, hdrafts, Except.map] at hds
    | ok drafts =>
      rw [exec_desired_of_drafts hdrafts, rendered_of_drafts hdrafts] at hds
      cases hds
      refine ⟨drafts, rfl, fun d hd hwanted hname => ?_⟩
      obtain ⟨w, x, hd⟩ := Cluster.exec_forM_ok hall _ (List.mem_map_of_mem hd)
      have hrender : (Manifest.render o (op.context plan runtime o) d).metadata.name = none := hname
      simp [settle, applyIfChanged, hwanted, hrender] at hd
  refine ⟨fun o => ?_, fun o hwanted ds hds d hd => ?_⟩
  · obtain ⟨ds, hds, -⟩ := hloads o
    exact ⟨ds, hds⟩
  · obtain ⟨ds', hds', hnamed⟩ := hloads o
    rw [hds] at hds'
    cases hds'
    exact hnamed d hd hwanted

/-! ## Names that can be listed -/

/-- The manifests can be read, and have DaemonSets of these names. -/
def HasNames (op : Operator) (names : Operand → List (Option String)) : Prop :=
  ∀ o, ∃ ds, op.manifests.drafts o = .ok ds ∧ ds.map (·.metadata.name) = names o

/-- Manifests whose names can be listed can be read. -/
theorem exists_drafts_of_names {o : Operand} {names : List (Option String)}
    (h : (op.manifests.drafts o).toOption.map (·.map (·.metadata.name)) = some names) :
    ∃ ds, op.manifests.drafts o = .ok ds ∧ ds.map (·.metadata.name) = names := by
  cases hds : op.manifests.drafts o with
  | error e => simp [hds, Except.toOption] at h
  | ok ds =>
    rw [hds, Except.toOption, Option.map_some, Option.some.injEq] at h
    exact ⟨ds, rfl, h⟩

theorem HasNames.of_all {names : Operand → List (Option String)}
    (h : ∀ o ∈ Operand.all, (op.manifests.drafts o).toOption.map (·.map (·.metadata.name)) =
      some (names o)) : op.HasNames names :=
  fun o => exists_drafts_of_names (h o (Operand.mem_all o))

theorem HasNames.hasDistinctNames {names : Operand → List (Option String)} (h : op.HasNames names)
    (hnodup : ((Operand.all.flatMap names).filterMap id).Nodup) :
    op.HasDistinctNames plan runtime := by
  have hnames : op.manifestNames = names := by
    funext o
    obtain ⟨ds, hds, hmap⟩ := h o
    rw [manifestNames, hds, ← hmap]
  rwa [hasDistinctNames_iff, hnames]

theorem HasNames.deployable {names : Operand → List (Option String)} (h : op.HasNames names)
    (hnamed : ∀ o, none ∉ names o) : op.Deployable plan := by
  refine ⟨fun o => ?_, fun o _ ds hds d hd hname => ?_⟩
  · obtain ⟨ds, hds, -⟩ := h o
    exact ⟨ds, hds⟩
  · obtain ⟨ds', hds', hmap⟩ := h o
    cases hds.symm.trans hds'
    exact hnamed o (hmap ▸ List.mem_map.mpr ⟨d, hd, hname⟩)

theorem HasNames.exists_rendered {names : Operand → List (Option String)} (h : op.HasNames names)
    {o : Operand} {name : Option String} (hname : name ∈ names o) :
    ∃ d ∈ op.rendered plan runtime o, d.metadata.name = name := by
  obtain ⟨ds, hds, hmap⟩ := h o
  rw [← hmap] at hname
  obtain ⟨draft, hdraft, hname⟩ := List.mem_map.mp hname
  rw [rendered_of_drafts hds]
  exact ⟨_, List.mem_map_of_mem hdraft, hname⟩

/-! ## What a deployment achieves -/

private theorem mem_tasks {o : Operand} {d : DaemonSet} (h : d ∈ op.rendered plan runtime o) :
    ⟨plan.isEnabled o, d⟩ ∈ op.tasks plan runtime :=
  List.mem_flatMap.mpr ⟨o, Operand.mem_all o, List.mem_map_of_mem h⟩

private theorem of_mem_tasks {t : Task} (h : t ∈ op.tasks plan runtime) :
    ∃ o, t.daemonSet ∈ op.rendered plan runtime o ∧ t.wanted = plan.isEnabled o := by
  obtain ⟨o, -, ho⟩ := List.mem_flatMap.mp h
  obtain ⟨d, hd, rfl⟩ := List.mem_map.mp ho
  exact ⟨o, hd, rfl⟩

/-- The task of a DaemonSet of an operand as the manifests have it. -/
def draftTask (op : Operator) (plan : Plan) (runtime : Policy.Runtime) (o : Operand)
    (draft : DaemonSet) : Task :=
  ⟨plan.isEnabled o, Manifest.render o (op.context plan runtime o) draft⟩

theorem mem_tasks_iff {t : Task} :
    t ∈ op.tasks plan runtime ↔
      ∃ o ds, op.manifests.drafts o = .ok ds ∧ ∃ d ∈ ds, t = op.draftTask plan runtime o d := by
  constructor
  · intro ht
    obtain ⟨o, hd, hwanted⟩ := of_mem_tasks ht
    cases hds : op.manifests.drafts o with
    | error e => simp [rendered, Manifest.Source.desired, hds, Except.map] at hd
    | ok ds =>
      rw [rendered_of_drafts hds] at hd
      obtain ⟨d, hmem, hrender⟩ := List.mem_map.mp hd
      exact ⟨o, ds, hds, d, hmem, by rw [draftTask, hrender, ← hwanted]⟩
  · rintro ⟨o, ds, hds, d, hd, rfl⟩
    refine mem_tasks ?_
    rw [rendered_of_drafts hds]
    exact List.mem_map_of_mem hd

/-- The DaemonSets that are wanted have the same fingerprints with either runtime. -/
def SameFingerprints (op : Operator) (plan : Plan) (first second : Policy.Runtime) : Prop :=
  ∀ o, plan.isEnabled o = true → ∀ ds, op.manifests.drafts o = .ok ds → ∀ d ∈ ds,
    Drift.fingerprint (Manifest.render o (op.context plan second o) d) =
      Drift.fingerprint (Manifest.render o (op.context plan first o) d)

/-- Among DaemonSets that a deployment has left, another deployment for the same plan applies those
that are wanted and have another fingerprint now, and writes nothing else. -/
theorem due_draftTask {first second : Policy.Runtime} {s u : Store}
    (hdeployable : op.Deployable plan) (hnames : op.HasDistinctNames plan first)
    (hu : u.daemonSets = (settledAll op.ns s (op.tasks plan first)).daemonSets) {o : Operand}
    {ds : List DaemonSet} (hds : op.manifests.drafts o = .ok ds) {d : DaemonSet} (hd : d ∈ ds) :
    (op.draftTask plan second o d).due op.ns u =
      if plan.isEnabled o = true ∧
          Drift.fingerprint (Manifest.render o (op.context plan second o) d) ≠
            Drift.fingerprint (Manifest.render o (op.context plan first o) d) then
        [.apply (Drift.stamp (Manifest.render o (op.context plan second o) d))]
      else [] := by
  cases hname : d.metadata.name with
  | none =>
    have hunwanted : plan.isEnabled o ≠ true := fun h => hdeployable.named o h ds hds d hd hname
    have hkey : (op.draftTask plan second o d).key? op.ns = none := congrArg (Option.map _) hname
    rw [Task.due, hkey, if_neg fun h => hunwanted h.1]
  | some name =>
    have hkey : ∀ runtime, (op.draftTask plan runtime o d).key? op.ns = some ⟨op.ns, name⟩ :=
      fun _ => congrArg (Option.map _) hname
    simp only [Task.due, hkey second, hu]
    rw [getElem?_settledAll_of_mem (distinct_tasks_iff.mpr hnames)
      (mem_tasks_iff.mpr ⟨o, ds, hds, d, hd, rfl⟩) (hkey first)]
    exact writes_effect (t := op.draftTask plan first o d) (u := op.draftTask plan second o d)
      rfl _

/-- So it finds nothing to do exactly if the fingerprints are still the same. -/
theorem due_again_eq_nil_iff {first second : Policy.Runtime} {s u : Store}
    (hdeployable : op.Deployable plan) (hnames : op.HasDistinctNames plan first)
    (hu : u.daemonSets = (settledAll op.ns s (op.tasks plan first)).daemonSets) :
    (op.tasks plan second).flatMap (Task.due op.ns u) = [] ↔
      op.SameFingerprints plan first second := by
  rw [List.flatMap_eq_nil_iff]
  constructor
  · intro h o hwanted ds hds d hd
    have hdue := h _ (mem_tasks_iff.mpr ⟨o, ds, hds, d, hd, rfl⟩)
    rw [due_draftTask hdeployable hnames hu hds hd] at hdue
    by_contra hne
    rw [if_pos ⟨hwanted, hne⟩] at hdue
    cases hdue
  · intro h t ht
    obtain ⟨o, ds, hds, d, hd, rfl⟩ := mem_tasks_iff.mp ht
    rw [due_draftTask hdeployable hnames hu hds hd]
    exact if_neg fun hne => hne.2 (h o hne.1 ds hds d hd)

/-- All that it writes is applications. -/
theorem eq_apply_of_mem_due_again {first second : Policy.Runtime} {s u : Store}
    (hdeployable : op.Deployable plan) (hnames : op.HasDistinctNames plan first)
    (hu : u.daemonSets = (settledAll op.ns s (op.tasks plan first)).daemonSets) {w : Write}
    (hw : w ∈ (op.tasks plan second).flatMap (Task.due op.ns u)) :
    ∃ d, w = .apply (Drift.stamp d) := by
  obtain ⟨t, ht, hw⟩ := List.mem_flatMap.mp hw
  obtain ⟨o, ds, hds, d, hd, rfl⟩ := mem_tasks_iff.mp ht
  rw [due_draftTask hdeployable hnames hu hds hd] at hw
  split at hw
  · exact ⟨_, List.mem_singleton.mp hw⟩
  · cases hw

/-- A second deployment finds nothing to do. -/
theorem exec_deploy_again {s u : Store} (hnames : op.HasDistinctNames plan runtime)
    (h : exec (op.deploy plan runtime) s = (.ok (), u)) :
    exec (op.deploy plan runtime) u = (.ok (), u) := by
  have hdeployable := deployable_of_exec_ok h
  rw [exec_deploy hdeployable, Prod.mk.injEq] at h
  have hnone : (op.tasks plan runtime).flatMap (Task.due op.ns u) = [] :=
    (due_again_eq_nil_iff hdeployable hnames (by rw [h.2])).mpr fun _ _ _ _ _ _ => rfl
  rw [exec_deploy hdeployable, settledAll_eq_self (List.flatMap_eq_nil_iff.mp hnone)]

private theorem key?_of_name {w : Bool} {d : DaemonSet} {ns name : String}
    (h : d.metadata.name = some name) : Task.key? ns ⟨w, d⟩ = some ⟨ns, name⟩ := by
  rw [Task.key?, Task.name?, h, Option.map_some]

private theorem ns_of_mem_tasks {t : Task} (h : t ∈ op.tasks plan runtime) :
    t.daemonSet.metadata.ns = some op.ns := by
  obtain ⟨o, hd, -⟩ := of_mem_tasks h
  exact ns_of_mem_rendered hd

/-- A DaemonSet that is wanted is applied, or left alone with its fingerprint. -/
private theorem settled_wanted (hdeployable : op.Deployable plan)
    (hdistinct : Distinct (op.tasks plan runtime)) (s : Store) {o : Operand}
    (hwanted : plan.isEnabled o = true) {d : DaemonSet} (hd : d ∈ op.rendered plan runtime o) :
    ∃ name live, d.metadata.name = some name ∧
      (settledAll op.ns s (op.tasks plan runtime)).daemonSets[ObjectKey.mk op.ns name]? =
        some live ∧
      carried (some live) = some (Drift.fingerprint d) ∧
      (carried s.daemonSets[ObjectKey.mk op.ns name]? ≠ some (Drift.fingerprint d) ∧
          live = Drift.stamp d ∧
          ((op.tasks plan runtime).flatMap (Task.due op.ns s)).filter
            (·.key? = some ⟨op.ns, name⟩) = [.apply (Drift.stamp d)] ∨
        s.daemonSets[ObjectKey.mk op.ns name]? = some live ∧
          ((op.tasks plan runtime).flatMap (Task.due op.ns s)).filter
            (·.key? = some ⟨op.ns, name⟩) = []) := by
  have ht := mem_tasks hd
  obtain ⟨name, hname⟩ := Option.ne_none_iff_exists'.mp (name_ne_none hdeployable hwanted hd)
  have hkey : Task.key? op.ns ⟨plan.isEnabled o, d⟩ = some ⟨op.ns, name⟩ := key?_of_name hname
  have hafter := getElem?_settledAll_of_mem (s := s) hdistinct ht hkey
  have hissued := filter_due_of_mem (s := s) (fun _ => ns_of_mem_tasks) hdistinct ht hkey
  simp only [Task.due, hkey] at hissued
  cases hdec : decided d s.daemonSets[ObjectKey.mk op.ns name]? with
  | skip =>
    have hcarried := decided_eq_skip_iff.mp hdec
    cases hlive : s.daemonSets[ObjectKey.mk op.ns name]? with
    | none =>
      rw [hlive] at hcarried
      cases hcarried
    | some live =>
      rw [hlive] at hdec hcarried hafter hissued
      refine ⟨name, live, hname, hafter.trans ?_, hcarried, .inr ⟨hlive, hissued.trans ?_⟩⟩
      · simp [Task.effect, hwanted, hdec]
      · simp [Task.writes, hwanted, hdec]
  | apply =>
    refine ⟨name, Drift.stamp d, hname, hafter.trans ?_, carried_stamp d,
      .inl ⟨fun hcarried => ?_, rfl, hissued.trans ?_⟩⟩
    · simp [Task.effect, hwanted, hdec]
    · rw [decided_eq_skip_iff.mpr hcarried] at hdec
      cases hdec
    · simp [Task.writes, hwanted, hdec]

theorem isManaged_iff {d : DaemonSet} : isManaged d = true ↔
    d.metadata.labelMap[Manifest.managedByKey]? = some Manifest.managedByValue := by
  rw [isManaged, beq_iff_eq]

/-- A DaemonSet that is not wanted is gone if it has the operator's label, and only then. -/
private theorem settled_unwanted (hdistinct : Distinct (op.tasks plan runtime)) (s : Store)
    {o : Operand} (hwanted : plan.isEnabled o = false) {d : DaemonSet}
    (hd : d ∈ op.rendered plan runtime o) {name : String} (hname : d.metadata.name = some name) :
    (settledAll op.ns s (op.tasks plan runtime)).daemonSets[ObjectKey.mk op.ns name]? = none ∧
        (∀ live, s.daemonSets[ObjectKey.mk op.ns name]? = some live →
          live.metadata.labelMap[Manifest.managedByKey]? = some Manifest.managedByValue) ∨
      ∃ live, s.daemonSets[ObjectKey.mk op.ns name]? = some live ∧
        live.metadata.labelMap[Manifest.managedByKey]? ≠ some Manifest.managedByValue ∧
        (settledAll op.ns s (op.tasks plan runtime)).daemonSets[ObjectKey.mk op.ns name]? =
          some live := by
  rw [getElem?_settledAll_of_mem hdistinct (mem_tasks hd) (key?_of_name hname)]
  simp only [← isManaged_iff, ne_eq, Bool.not_eq_true]
  cases hlive : s.daemonSets[ObjectKey.mk op.ns name]? with
  | none => exact .inl ⟨by simp [Task.effect, hwanted], by simp⟩
  | some live =>
    cases hmanaged : isManaged live with
    | true => exact .inl ⟨by simp [Task.effect, hwanted, hmanaged], by simp [hmanaged]⟩
    | false => exact .inr ⟨live, rfl, hmanaged, by simp [Task.effect, hwanted, hmanaged]⟩

/-- After a deployment that succeeds, every DaemonSet of an enabled operand is live with its
fingerprint: either it has just been applied, or the object that was there carried the fingerprint
and has been left alone. A DaemonSet of a disabled operand is not there, unless an object of its
name was there without the operator's label, which is left alone. No other object in any namespace
has changed, and a second deployment writes nothing. -/
theorem deploy_settles (op : Operator) (plan : Plan) (runtime : Policy.Runtime) (s u : Store)
    (hnames : op.HasDistinctNames plan runtime)
    (h : exec (op.deploy plan runtime) s = (.ok (), u)) :
    ∃ issued, u.log = s.log ++ issued ∧
      (∀ o, plan.isEnabled o = true → ∀ d ∈ op.rendered plan runtime o,
        ∃ name live, d.metadata.name = some name ∧
          u.daemonSets[ObjectKey.mk op.ns name]? = some live ∧
          carried (some live) = some (Drift.fingerprint d) ∧
          (carried s.daemonSets[ObjectKey.mk op.ns name]? ≠ some (Drift.fingerprint d) ∧
              live = Drift.stamp d ∧
              issued.filter (·.key? = some ⟨op.ns, name⟩) = [.apply (Drift.stamp d)] ∨
            s.daemonSets[ObjectKey.mk op.ns name]? = some live ∧
              issued.filter (·.key? = some ⟨op.ns, name⟩) = [])) ∧
      (∀ o, plan.isEnabled o = false → ∀ d ∈ op.rendered plan runtime o,
        ∀ name, d.metadata.name = some name →
          u.daemonSets[ObjectKey.mk op.ns name]? = none ∧
              (∀ live, s.daemonSets[ObjectKey.mk op.ns name]? = some live →
                live.metadata.labelMap[Manifest.managedByKey]? = some Manifest.managedByValue) ∨
            ∃ live, s.daemonSets[ObjectKey.mk op.ns name]? = some live ∧
              live.metadata.labelMap[Manifest.managedByKey]? ≠ some Manifest.managedByValue ∧
              u.daemonSets[ObjectKey.mk op.ns name]? = some live) ∧
      (∀ key, (∀ o, ∀ d ∈ op.rendered plan runtime o, ∀ name, d.metadata.name = some name →
          key ≠ ⟨op.ns, name⟩) →
        u.daemonSets[key]? = s.daemonSets[key]? ∧ issued.filter (·.key? = some key) = []) ∧
      exec (op.deploy plan runtime) u = (.ok (), u) := by
  have hagain := exec_deploy_again hnames h
  have hdeployable := deployable_of_exec_ok h
  have hdistinct := distinct_tasks_iff.mpr hnames
  rw [exec_deploy hdeployable, Prod.mk.injEq] at h
  obtain rfl := h.2
  refine ⟨_, log_settledAll hdistinct, ?_, ?_, ?_, hagain⟩
  · intro o hwanted d hd
    exact settled_wanted hdeployable hdistinct s hwanted hd
  · intro o hwanted d hd name hname
    exact settled_unwanted hdistinct s hwanted hd hname
  · intro key hother
    have hne : ∀ t ∈ op.tasks plan runtime, t.key? op.ns ≠ some key := by
      intro t ht hkey
      obtain ⟨o, hd, -⟩ := of_mem_tasks ht
      obtain ⟨name, hname, rfl⟩ := Option.map_eq_some_iff.mp hkey
      exact hother o t.daemonSet hd name hname rfl
    exact ⟨getElem?_settledAll_of_ne hne, filter_due_of_ne (fun _ => ns_of_mem_tasks) hne⟩

/-- An operator with a DaemonSet of the validation, always wanted, and two of the driver. -/
def crowded : Operator where
  ns := "gpu-operator"
  manifests := ⟨"manifests", .dir [
    ("state-driver", .dir [("driver.yaml",
      .file ("kind: DaemonSet\nmetadata:\n  name: driver\n" ++
        "---\nkind: DaemonSet\nmetadata:\n  name: driver-legacy\n").toUTF8)]),
    ("state-operator-validation", .dir [("validator.yaml",
      .file "kind: DaemonSet\nmetadata:\n  name: validator\n".toUTF8)])],
    fun text => "no manifest: " ++ text⟩

def crowdedNames : Operand → List (Option String)
  | .driver => [some "driver", some "driver-legacy"]
  | .operatorValidation => [some "validator"]
  | _ => []

private theorem hasNames_crowded : crowded.HasNames crowdedNames := .of_all (by decide +kernel)

/-- A driver with the operator's label. -/
def ownDriver : DaemonSet where
  metadata :=
    { name := "driver", ns := "gpu-operator"
      labels := some ((∅ : Kube.Labels).insert Manifest.managedByKey Manifest.managedByValue) }

/-- A driver that somebody else has put there. -/
def foreignDriver : DaemonSet where
  metadata := { name := "driver-legacy", ns := "gpu-operator" }

/-- A cluster with both drivers, and a validator as the operator applies it. -/
def crowdedStore (validator : DaemonSet) : Store :=
  (({} : Store).putDaemonSet (Drift.stamp validator)).putDaemonSet ownDriver
    |>.putDaemonSet foreignDriver

private theorem getElem?_crowdedStore {d : DaemonSet}
    (hkey : ObjectKey.ofDaemonSet (Drift.stamp d) = ⟨"gpu-operator", "validator"⟩) :
    (crowdedStore d).daemonSets[ObjectKey.mk "gpu-operator" "validator"]? = some (Drift.stamp d) ∧
      (crowdedStore d).daemonSets[ObjectKey.mk "gpu-operator" "driver"]? = some ownDriver ∧
      (crowdedStore d).daemonSets[ObjectKey.mk "gpu-operator" "driver-legacy"]? =
        some foreignDriver := by
  have hown : ObjectKey.ofDaemonSet ownDriver = ⟨"gpu-operator", "driver"⟩ := rfl
  have hforeign : ObjectKey.ofDaemonSet foreignDriver = ⟨"gpu-operator", "driver-legacy"⟩ := rfl
  simp only [crowdedStore, Store.putDaemonSet, Std.ExtTreeMap.getElem?_insert, hkey, hown, hforeign,
    Std.LawfulEqOrd.compare_eq_iff_eq]
  simp

/-- Where the driver is not wanted, the operator's own goes and the other one stays. The validator
is left alone. -/
theorem deploy_settles_crowded : crowded.HasDistinctNames ⟨{}, false⟩ .containerd ∧
    ∃ d ∈ crowded.rendered ⟨{}, false⟩ .containerd .operatorValidation, ∃ u,
      exec (crowded.deploy ⟨{}, false⟩ .containerd) (crowdedStore d) = (.ok (), u) ∧
        (u.daemonSets[ObjectKey.mk "gpu-operator" "validator"]? = some (Drift.stamp d) ∧
          u.log.filter (·.key? = some ⟨"gpu-operator", "validator"⟩) = []) ∧
        u.daemonSets[ObjectKey.mk "gpu-operator" "driver"]? = none ∧
        u.daemonSets[ObjectKey.mk "gpu-operator" "driver-legacy"]? = some foreignDriver ∧
        exec (crowded.deploy ⟨{}, false⟩ .containerd) u = (.ok (), u) := by
  have hnames : crowded.HasDistinctNames ⟨{}, false⟩ .containerd :=
    hasNames_crowded.hasDistinctNames (by decide)
  have hdeployable : crowded.Deployable ⟨{}, false⟩ :=
    hasNames_crowded.deployable fun o => by cases o <;> simp [crowdedNames]
  obtain ⟨d, hd, hname⟩ : ∃ d ∈ crowded.rendered ⟨{}, false⟩ .containerd .operatorValidation,
      d.metadata.name = some "validator" :=
    hasNames_crowded.exists_rendered (by simp [crowdedNames])
  obtain ⟨own, hown, hownName⟩ : ∃ d ∈ crowded.rendered ⟨{}, false⟩ .containerd .driver,
      d.metadata.name = some "driver" := hasNames_crowded.exists_rendered (by simp [crowdedNames])
  obtain ⟨foreign, hforeign, hforeignName⟩ : ∃ d ∈ crowded.rendered ⟨{}, false⟩ .containerd .driver,
      d.metadata.name = some "driver-legacy" :=
    hasNames_crowded.exists_rendered (by simp [crowdedNames])
  obtain ⟨hvalidator, hdriver, hlegacy⟩ :=
    getElem?_crowdedStore (ofDaemonSet_stamp (ns_of_mem_rendered hd) hname)
  have hdeploy := exec_deploy hdeployable .containerd (crowdedStore d)
  obtain ⟨issued, hlog, henabled, hdisabled, -, hagain⟩ := deploy_settles _ _ _ _ _ hnames hdeploy
  refine ⟨hnames, d, hd, _, hdeploy, ?validator, ?own, ?foreign, hagain⟩
  case validator =>
    obtain ⟨name, live, hname', hlive, -, happlied | ⟨hkept, hsilent⟩⟩ :=
      henabled .operatorValidation rfl d hd
    · obtain rfl := Option.some.inj (hname.symm.trans hname')
      exact absurd (hvalidator ▸ carried_stamp d) happlied.1
    · obtain rfl := Option.some.inj (hname.symm.trans hname')
      rw [hlog]
      exact ⟨hlive.trans (hkept.symm.trans hvalidator), hsilent⟩
  case own =>
    rcases hdisabled .driver rfl own hown "driver" hownName with
      ⟨hgone, -⟩ | ⟨live, hlive, hlabel, -⟩
    · exact hgone
    · obtain rfl := Option.some.inj (hdriver.symm.trans hlive)
      exact absurd (by simp [ownDriver, Kube.ObjectMeta.labelMap]) hlabel
  case foreign =>
    rcases hdisabled .driver rfl foreign hforeign "driver-legacy" hforeignName with
      ⟨-, hlabel⟩ | ⟨live, hlive, -, hkept⟩
    · have hnone := hlabel _ hlegacy
      simp [foreignDriver, Kube.ObjectMeta.labelMap] at hnone
    · exact hkept.trans (hlive.symm.trans hlegacy)

/-! ## Two operands -/

/-- A file with a DaemonSet of the name and one container. -/
def sampleManifest (name : String) : Manifest.Tree :=
  .file ("kind: DaemonSet\nmetadata:\n  name: " ++ name ++
    "\nspec:\n  template:\n    spec:\n      containers:\n      - name: main\n").toUTF8

/-- An operator with a DaemonSet of the validation, which is always wanted, and one of the
driver. -/
def sample : Operator where
  ns := "gpu-operator"
  manifests := ⟨"manifests", .dir [
    ("state-driver", .dir [("driver.yaml", sampleManifest "driver")]),
    ("state-operator-validation", .dir [("validator.yaml", sampleManifest "validator")])],
    fun text => "no manifest: " ++ text⟩

/-- The names in the manifests of the sample. -/
def sampleNames : Operand → List (Option String)
  | .driver => [some "driver"]
  | .operatorValidation => [some "validator"]
  | _ => []

private theorem hasNames_sample : sample.HasNames sampleNames := .of_all (by decide +kernel)

theorem sample_hasDistinctNames (plan : Plan) (runtime : Policy.Runtime) :
    sample.HasDistinctNames plan runtime := hasNames_sample.hasDistinctNames (by decide)

theorem sample_deployable (plan : Plan) : sample.Deployable plan :=
  hasNames_sample.deployable fun o => by cases o <;> simp [sampleNames]

end GpuFleet.Operator
