import GpuFleet.Proofs.Operator.Course
import GpuFleet.Proofs.Operator.Repetition
import GpuFleet.Proofs.Operator.Turns

/-!
Passes that stop. A pass that fails has labelled the nodes and settled the DaemonSets before the
obstacle, and none after it; one whose settings are rejected has done neither. In both cases the
policy is told that it is not ready, and why.
-/
namespace GpuFleet.Operator

open Cluster (Store Write Failure exec)
open Kube (DaemonSet Node)
open Policy (ClusterPolicy isInCharge)

variable {op : Operator} {p : ClusterPolicy} {s t u : Store}

/-! ## Blame -/

/-- The policy of the name is not ready for a reason, says its status; and no more than that status
has been written since. -/
structure Blamed (op : Operator) (name reason : String) (since : List Write) (t : Store) :
    Prop where
  stored : ∃ q status, t.policies[name]? = some q ∧ q.status = some status ∧
    status.state = .notReady ∧ status.ns = some op.ns ∧ status.error = some reason
  written : t.log = since ∨ ∃ r, t.log = since ++ [.status name r] ∧
    r.state = .notReady ∧ r.error = some reason

theorem blamed_reported (op : Operator) (hstored : u.policies[p.name]? = some p)
    (reason : String) :
    Blamed op p.name reason u.log (op.reported p .notReady (some reason) u) := by
  obtain ⟨status, hstatus⟩ := status_told op p .notReady (some reason) u
  exact ⟨⟨_, status, getElem?_reported_self op p .notReady (some reason) hstored, hstatus⟩,
    log_reported op p .notReady (some reason) u⟩

/-! ## Work is no report -/

theorem isStatus_of_mem_labelWrites {plan : Plan} {nodes : List Node} {w : Write}
    (h : w ∈ labelWrites plan nodes) : w.isStatus = false := by
  obtain ⟨due, -, rfl⟩ := List.mem_map.mp h
  rfl

theorem isStatus_of_mem_due {ns : String} {task : Task} {w : Write} (h : w ∈ task.due ns s) :
    w.isStatus = false := by
  unfold Task.due at h
  cases hkey : task.key? ns with
  | none => simp [hkey] at h
  | some key =>
    simp only [hkey] at h
    unfold Task.writes at h
    split at h
    · split at h
      · cases h
      · rw [List.mem_singleton.mp h, Write.isStatus]
    · split at h
      · rw [List.mem_singleton.mp h, Write.isStatus]
      · cases h

theorem isStatus_of_mem_dueAll {ns : String} {tasks : List Task} {w : Write}
    (h : w ∈ dueAll ns s tasks) : w.isStatus = false := by
  induction tasks generalizing s with
  | nil => cases h
  | cons task tasks ih =>
    rcases List.mem_append.mp h with h | h
    · exact isStatus_of_mem_due h
    · exact ih h

/-- Where work is followed by blame, all that is told is blame. -/
theorem Blamed.told {name reason : String} {since work : List Write}
    (h : Blamed op name reason (since ++ work) t) (hwork : ∀ w ∈ work, w.isStatus = false) :
    ∃ issued, t.log = since ++ issued ∧
      ∀ policy r, .status policy r ∈ issued → r.state = .notReady := by
  have hsilent : ∀ policy r, .status policy r ∉ work := by
    intro policy r hr
    cases hwork _ hr
  rcases h.written with hlog | ⟨r, hlog, hstate, -⟩
  · exact ⟨work, hlog, fun policy r hr => absurd hr (hsilent policy r)⟩
  · refine ⟨work ++ [.status name r], by rw [hlog, List.append_assoc], fun policy r' hr => ?_⟩
    rcases List.mem_append.mp hr with hr | hr
    · exact absurd hr (hsilent policy r')
    · cases List.mem_singleton.mp hr
      exact hstate

/-! ## Passes -/

/-- A pass for the policy in charge whose deployment fails, fails with the same failure. The nodes
have been labelled as ever. The DaemonSets before the obstacle on the course of the deployment have
been settled one after another, and no others; so nothing is done for an operand whose manifests
cannot be read, nor for any operand after the one that stops the deployment. The policy is told that
it is not ready and why, and no policy is told that it is ready.

A pass for the policy in charge whose settings are rejected does not fail. It tells the policy that
it is not ready and why, and touches neither nodes nor DaemonSets. -/
theorem failing_pass_stops (op : Operator) (p : ClusterPolicy) (s : Store) (name : String)
    (hkeyed : s.NodesKeyed) (hstored : s.policies[p.name]? = some p)
    (hname : p.metadata.name = some name) (hcharge : isInCharge s.policies.values name = true) :
    (∀ (e : Failure) (runtime : Policy.Runtime) (u v : Store), p.spec.rejection? = none →
      exec (op.deploy (.ofSpec p.spec) runtime) u = (.error e, v) →
      ∃ items count l t, Course op (.ofSpec p.spec) Operand.all items (some e) ∧
        exec (labelNodes (.ofSpec p.spec) s.nodes.values) s = (.ok count, l) ∧
        exec (op.pass p) s = (.error e, t) ∧
        t.nodes = l.nodes ∧
        t.daemonSets = (settledAll op.ns l
          (op.draftTasks (.ofSpec p.spec) (detected s p) items)).daemonSets ∧
        Blamed op p.name e.message (l.log ++ dueAll op.ns l
          (op.draftTasks (.ofSpec p.spec) (detected s p) items)) t ∧
        ∃ issued, t.log = s.log ++ issued ∧
          ∀ policy r, .status policy r ∈ issued → r.state = .notReady) ∧
    ∀ r, p.spec.rejection? = some r →
      ∃ t, exec (op.pass p) s = (.ok .notReady, t) ∧
        t.nodes = s.nodes ∧ t.daemonSets = s.daemonSets ∧ Blamed op p.name r.message s.log t := by
  constructor
  · intro e runtime u v hrejection hfails
    obtain ⟨items, hcourse⟩ := course_of_exec_error hfails
    obtain ⟨count, hlabel⟩ := exec_labelNodes (.ofSpec p.spec) hkeyed
    have hpass := exec_pass_stopped hkeyed hstored hname hcharge hrejection hcourse
    have hblamed := blamed_reported op (u := worked op p items s)
      (by rw [worked_policies, hstored]) e.message
    rw [worked, log_settledAll_dueAll] at hblamed
    refine ⟨items, count, _, _, hcourse, hlabel, hpass, ?_, ?_, hblamed, ?_⟩
    · rw [reported_nodes, worked_nodes]
    · rw [reported_daemonSets, worked]
    · rw [labelled, List.append_assoc] at hblamed
      refine hblamed.told fun w hw => ?_
      rcases List.mem_append.mp hw with hw | hw
      · exact isStatus_of_mem_labelWrites hw
      · exact isStatus_of_mem_dueAll hw
  · intro r hrejection
    exact ⟨_, (exec_pass_ok_iff hkeyed hstored hname).mpr
      ⟨some r.message, s, .rejected r hcharge hrejection, rfl⟩, reported_nodes ..,
      reported_daemonSets .., blamed_reported op hstored r.message⟩

/-- An operator with a DaemonSet of the driver, and two of the validation, one of them without a
name. -/
def stumbling : Operator where
  ns := "gpu-operator"
  manifests := ⟨"manifests", .dir [
    ("state-driver", .dir [("driver.yaml", sampleManifest "driver")]),
    ("state-operator-validation", .dir [("validator.yaml",
      .file "kind: DaemonSet\nmetadata:\n  name: validator\n---\nkind: DaemonSet\n".toUTF8)])],
    fun text => "no manifest: " ++ text⟩

private theorem stumbling_drafts :
    [Operand.driver, .toolkit, .operatorValidation].map (fun o =>
      (stumbling.manifests.drafts o).toOption.map (·.map (·.metadata.name))) =
      [some [some "driver"], some [], some [some "validator", none]] := by
  decide +kernel

/-- Its deployment stops at the second DaemonSet of the validation. -/
theorem course_stumbling : ∃ items, Course stumbling (.ofSpec {}) Operand.all items
    (some (.misconfigured .daemonSetWithoutName)) := by
  have hnames := stumbling_drafts
  simp only [List.map_cons, List.map_nil, List.cons.injEq, and_true] at hnames
  obtain ⟨drivers, hdriver, hdrivers⟩ := exists_drafts_of_names hnames.1
  obtain ⟨toolkits, htoolkit, htoolkits⟩ := exists_drafts_of_names hnames.2.1
  obtain ⟨validators, hvalidation, hvalidators⟩ := exists_drafts_of_names hnames.2.2
  obtain ⟨first, second, rfl⟩ : ∃ first second, validators = [first, second] :=
    List.length_eq_two.mp (by rw [← List.length_map, hvalidators]; rfl)
  simp only [List.map_cons, List.map_nil, List.cons.injEq, and_true] at hvalidators
  have hnamed : ∀ {names : List (Option String)} {ds : List DaemonSet},
      ds.map (·.metadata.name) = names → none ∉ names → ∀ d ∈ ds, d.metadata.name ≠ none := by
    rintro names ds rfl hnone d hd hname
    exact hnone (List.mem_map.mpr ⟨d, hd, hname⟩)
  have hstop : stumbling.manifests.drafts .operatorValidation = .ok ([first] ++ second :: []) :=
    hvalidation
  exact ⟨_, .deployed hdriver (fun _ => hnamed hdrivers (by decide))
    (.deployed htoolkit (fun _ => hnamed htoolkits (by decide))
      (.nameless _ hstop rfl (by simp [hvalidators.1]) hvalidators.2))⟩

/-- A pass with it for a policy without settings fails, and the policy is told so. -/
theorem failing_pass_stops_stumbling :
    sampleStore.NodesKeyed ∧ sampleStore.policies[samplePolicy.name]? = some samplePolicy ∧
      isInCharge sampleStore.policies.values "p" = true ∧
      ∃ items l t, Course stumbling (.ofSpec {}) Operand.all items
          (some (.misconfigured .daemonSetWithoutName)) ∧
        exec (stumbling.pass samplePolicy) sampleStore =
          (.error (.misconfigured .daemonSetWithoutName), t) ∧
        Blamed stumbling "p" "Invalid configuration: DaemonSet manifest without a name"
          (l.log ++ dueAll stumbling.ns l (stumbling.draftTasks (.ofSpec {})
            (detected sampleStore samplePolicy) items)) t := by
  have hkeyed := nodesKeyed_sampleStore
  have hstored := getElem?_sampleStore
  have hcharge := isInCharge_sampleStore
  obtain ⟨items, hcourse⟩ := course_stumbling
  obtain ⟨items, count, l, t, hcourse, -, hpass, -, -, hblamed, -⟩ :=
    (failing_pass_stops stumbling samplePolicy sampleStore "p" hkeyed hstored rfl hcharge).1
      _ .containerd sampleStore _ rfl (hcourse.exec_forM .containerd sampleStore)
  exact ⟨hkeyed, hstored, hcharge, items, l, t, hcourse, hpass, hblamed⟩

end GpuFleet.Operator
