import GpuFleet.Proofs.NodeLabels.Decision
import GpuFleet.Workload.Detection

/-!
The container runtime of a cluster is that of the first node which tells one: a node that counts as
a GPU node, and whose version text starts as those of a known runtime do. Nodes that tell none make
no difference, wherever they stand.
-/
namespace GpuFleet.Workload

open Kube (Node)
open Policy (Runtime)

/-! ## Version texts -/

/-- How a version text of the runtime starts. -/
def versionStart : Runtime → String
  | .docker => "docker://"
  | .containerd => "containerd://"
  | .crio => "cri-o://"

/-- What stands before the separator in a version text of the runtime. -/
def versionName : Runtime → String
  | .docker => "docker"
  | .containerd => "containerd"
  | .crio => "cri-o"

variable {cs name rest : List Char} {version : String} {r : Runtime}

theorem toList_versionStart (r : Runtime) :
    (versionStart r).toList = (versionName r).toList ++ [':', '/', '/'] := by
  cases r <;> decide

/-- A name has no part of the separator in it, so that the first separator ends it. -/
theorem colon_not_mem_versionName (r : Runtime) : ':' ∉ (versionName r).toList := by
  cases r <;> decide

theorem versionName_injective : versionName.Injective := by
  intro r s
  cases r <;> cases s <;> decide

theorem exists_of_beforeSeparator? (h : beforeSeparator? cs = some name) :
    ∃ rest, cs = name ++ ':' :: '/' :: '/' :: rest := by
  induction cs using beforeSeparator?.induct generalizing name with
  | case1 rest =>
    cases h
    exact ⟨rest, rfl⟩
  | case2 c cs hnot ih =>
    -- no separator here, so that one stands further on
    rw [beforeSeparator?.eq_2 _ _ hnot, Option.map_eq_some_iff] at h
    obtain ⟨before, hbefore, rfl⟩ := h
    obtain ⟨rest, rfl⟩ := ih hbefore
    exact ⟨rest, rfl⟩
  | case3 => cases h

theorem beforeSeparator?_append (h : ':' ∉ name) :
    beforeSeparator? (name ++ ':' :: '/' :: '/' :: rest) = some name := by
  induction name with
  | nil => rfl
  | cons c name ih =>
    rw [List.mem_cons, not_or] at h
    have hc : c ≠ ':' := Ne.symm h.1
    simp [beforeSeparator?, hc, ih h.2]

theorem beforeSeparator?_eq_some_iff (h : ':' ∉ name) :
    beforeSeparator? cs = some name ↔ name ++ [':', '/', '/'] <+: cs := by
  constructor
  · intro hcs
    obtain ⟨rest, rfl⟩ := exists_of_beforeSeparator? hcs
    exact ⟨rest, by simp⟩
  · rintro ⟨rest, rfl⟩
    simpa using beforeSeparator?_append h

theorem runtimeOfVersion?_eq_some_iff :
    runtimeOfVersion? version = some r ↔ (versionStart r).toList <+: version.toList := by
  rw [toList_versionStart, ← beforeSeparator?_eq_some_iff (colon_not_mem_versionName r)]
  unfold runtimeOfVersion?
  cases hname : beforeSeparator? version.toList with
  | none => simp
  | some name =>
    -- the names of the runtimes differ, so that each decides for its own runtime
    have hknown (s : Runtime) (hs : String.ofList name = versionName s) :
        some s = some r ↔ some name = some (versionName r).toList := by
      have hchars : name = (versionName s).toList := by rw [← hs, String.toList_ofList]
      simp [hchars, String.toList_inj, versionName_injective.eq_iff]
    simp only [Option.bind_eq_bind, Option.bind_some]
    split
    case h_1 hs => exact hknown .docker hs
    case h_2 hs => exact hknown .containerd hs
    case h_3 hs => exact hknown .crio hs
    case h_4 hdocker hcontainerd hcrio =>
      have hunknown : String.ofList name ≠ versionName r := by
        cases r <;> assumption
      have hchars : name ≠ (versionName r).toList := by
        rintro rfl
        exact hunknown String.ofList_toList
      simp [hchars]

/-! ## Nodes -/

/-- Discovery or the operator has labelled the node as one with a GPU. -/
def IsCounted (node : Node) : Prop :=
  (∃ key ∈ NodeLabels.pciKeys, node.metadata.labelMap[key]? = some "true") ∨
    node.metadata.labelMap[NodeLabels.gpuPresentKey]? = some "true"

/-- The node reports a version text that starts as those of the runtime do. -/
def Reports (node : Node) (r : Runtime) : Prop :=
  ∃ status info, node.status = some status ∧ status.nodeInfo = some info ∧
    (versionStart r).toList <+: info.containerRuntimeVersion.toList

/-- The node counts as a GPU node, and reports the runtime. -/
def Tells (node : Node) (r : Runtime) : Prop := IsCounted node ∧ Reports node r

/-- The node fails one of the two tests. -/
def Silent (node : Node) : Prop := ∀ r, ¬ Tells node r

/-- The runtime is that of the first node which tells one, or the default where none does. -/
inductive FirstTold (default : Runtime) : List Node → Runtime → Prop
  | told (before : List Node) (node : Node) (behind : List Node) (r : Runtime) :
      (∀ n ∈ before, Silent n) → Tells node r →
        FirstTold default (before ++ node :: behind) r
  | untold (nodes : List Node) : (∀ n ∈ nodes, Silent n) → FirstTold default nodes default

/-- The two lists have the same nodes in the same order, but for some that tell nothing; these may
stand anywhere in either. -/
inductive SameTellers : List Node → List Node → Prop
  | nil : SameTellers [] []
  | both (node : Node) {xs ys : List Node} : SameTellers xs ys →
      SameTellers (node :: xs) (node :: ys)
  | left {node : Node} {xs ys : List Node} : Silent node → SameTellers xs ys →
      SameTellers (node :: xs) ys
  | right {node : Node} {xs ys : List Node} : Silent node → SameTellers xs ys →
      SameTellers xs (node :: ys)

variable {node : Node} {nodes more others : List Node} {default : Runtime}

theorem isGpuNode_iff : isGpuNode node = true ↔ IsCounted node := by
  rw [isGpuNode, Bool.or_eq_true, NodeLabels.hasGpu_iff, NodeLabels.isMarkedGpu_iff, IsCounted]

theorem reportedRuntime?_eq_some_iff : reportedRuntime? node = some r ↔ Reports node r := by
  simp only [reportedRuntime?, Option.bind_eq_bind, Option.bind_eq_some_iff, Reports,
    runtimeOfVersion?_eq_some_iff]
  constructor
  · rintro ⟨status, hstatus, info, hinfo, hversion⟩
    exact ⟨status, info, hstatus, hinfo, hversion⟩
  · rintro ⟨status, info, hstatus, hinfo, hversion⟩
    exact ⟨status, hstatus, info, hinfo, hversion⟩

theorem clusterRuntime_of_tells (h : Tells node r) :
    clusterRuntime (node :: nodes) default = r := by
  rw [clusterRuntime, List.filter_cons_of_pos (isGpuNode_iff.mpr h.1),
    List.findSome?_cons, reportedRuntime?_eq_some_iff.mpr h.2, Option.getD_some]

theorem clusterRuntime_of_silent (h : Silent node) :
    clusterRuntime (node :: nodes) default = clusterRuntime nodes default := by
  unfold clusterRuntime
  by_cases hcounted : isGpuNode node = true
  · have hnone : reportedRuntime? node = none := by
      rw [Option.eq_none_iff_forall_ne_some]
      intro r hr
      exact h r ⟨isGpuNode_iff.mp hcounted, reportedRuntime?_eq_some_iff.mp hr⟩
    rw [List.filter_cons_of_pos hcounted, List.findSome?_cons, hnone]
  · rw [List.filter_cons_of_neg hcounted]

theorem tells_or_silent (node : Node) : (∃ r, Tells node r) ∨ Silent node := by
  rw [Silent, ← not_exists]
  exact Classical.em _

theorem clusterRuntime_append (nodes more : List Node) (default : Runtime) :
    clusterRuntime (nodes ++ more) default =
      clusterRuntime nodes (clusterRuntime more default) := by
  induction nodes with
  | nil => rfl
  | cons node nodes ih =>
    rw [List.cons_append]
    obtain ⟨r, hr⟩ | hsilent := tells_or_silent node
    · rw [clusterRuntime_of_tells hr, clusterRuntime_of_tells hr]
    · rw [clusterRuntime_of_silent hsilent, clusterRuntime_of_silent hsilent, ih]

theorem SameTellers.clusterRuntime_eq (h : SameTellers nodes others) (default : Runtime) :
    clusterRuntime others default = clusterRuntime nodes default := by
  induction h with
  | nil => rfl
  | both node _ ih =>
    obtain ⟨r, hr⟩ | hsilent := tells_or_silent node
    · rw [clusterRuntime_of_tells hr, clusterRuntime_of_tells hr]
    · rw [clusterRuntime_of_silent hsilent, clusterRuntime_of_silent hsilent, ih]
  | left hsilent _ ih => rw [clusterRuntime_of_silent hsilent, ih]
  | right hsilent _ ih => rw [clusterRuntime_of_silent hsilent, ih]

theorem firstTold_clusterRuntime (nodes : List Node) (default : Runtime) :
    FirstTold default nodes (clusterRuntime nodes default) := by
  induction nodes with
  | nil => exact .untold [] (by simp)
  | cons node nodes ih =>
    obtain ⟨r, hr⟩ | hsilent := tells_or_silent node
    · rw [clusterRuntime_of_tells hr]
      exact .told [] node nodes r (by simp) hr
    · rw [clusterRuntime_of_silent hsilent]
      generalize clusterRuntime nodes default = s at ih
      cases ih with
      | told before teller behind r hbefore htells =>
        exact .told (node :: before) teller behind s (by simpa using ⟨hsilent, hbefore⟩) htells
      | untold _ hall => exact .untold _ (by simpa using ⟨hsilent, hall⟩)

theorem clusterRuntime_of_all_silent (h : ∀ n ∈ nodes, Silent n) :
    clusterRuntime (nodes ++ more) default = clusterRuntime more default := by
  induction nodes with
  | nil => rfl
  | cons node nodes ih =>
    rw [List.forall_mem_cons] at h
    rw [List.cons_append, clusterRuntime_of_silent h.1, ih h.2]

theorem clusterRuntime_eq_iff : clusterRuntime nodes default = r ↔ FirstTold default nodes r := by
  constructor
  · rintro rfl
    exact firstTold_clusterRuntime nodes default
  · intro h
    cases h with
    | told before node behind r hbefore htells =>
      rw [clusterRuntime_of_all_silent hbefore, clusterRuntime_of_tells htells]
    | untold nodes hall =>
      rw [← List.append_nil nodes, clusterRuntime_of_all_silent hall]
      rfl

/-- The runtime of a cluster is that of the first node which counts and reports a known one, and the
default if there is none. So the nodes of a second list only count where those of the first tell
nothing, and nodes that tell nothing may come and go anywhere. -/
theorem runtime_of_first_teller (nodes : List Node) (default : Runtime) :
    (∀ r, clusterRuntime nodes default = r ↔ FirstTold default nodes r) ∧
      (∀ more, clusterRuntime (nodes ++ more) default =
        clusterRuntime nodes (clusterRuntime more default)) ∧
      ∀ others, SameTellers nodes others →
        clusterRuntime others default = clusterRuntime nodes default :=
  ⟨fun _ => clusterRuntime_eq_iff, fun more => clusterRuntime_append nodes more default,
    fun _ hsame => hsame.clusterRuntime_eq default⟩

theorem silent_of_detected (h : isGpuNode node = true → reportedRuntime? node = none) :
    Silent node := by
  rintro r ⟨hcounted, hreports⟩
  have hnone := h (isGpuNode_iff.mpr hcounted)
  rw [reportedRuntime?_eq_some_iff.mpr hreports] at hnone
  cases hnone

theorem sameTellers_append {silent : List Node} (h : ∀ n ∈ silent, Silent n) (node : Node) :
    SameTellers [node] (silent ++ [node]) := by
  induction silent with
  | nil => exact .both node .nil
  | cons n silent ih =>
    rw [List.forall_mem_cons] at h
    exact .right h.1 (ih h.2)

/-- The labels of a node that the operator has marked. -/
def markedLabels : Kube.Labels := (∅ : Kube.Labels).insert NodeLabels.gpuPresentKey "true"

/-- A node with these labels that reports this version text. -/
def reporting (labels : Kube.Labels) (version : String) : Node where
  metadata := { labels := some labels }
  status := some { nodeInfo := some { containerRuntimeVersion := version } }

/-- A node without a GPU, one whose version text names no known runtime, and one that reports
nothing. -/
def silentNodes : List Node :=
  [reporting ∅ "docker://24.0.0", reporting markedLabels "unknown://docker://1.0",
    { metadata := { labels := some markedLabels } }]

theorem runtime_of_first_teller_behind_silent :
    SameTellers [reporting markedLabels "cri-o://1.29://x"]
        (silentNodes ++ [reporting markedLabels "cri-o://1.29://x"]) ∧
      clusterRuntime (silentNodes ++ [reporting markedLabels "cri-o://1.29://x"]) .containerd =
        .crio := by
  have hdetected : ∀ n ∈ silentNodes, isGpuNode n = true → reportedRuntime? n = none := by
    decide +kernel
  have hsame := sameTellers_append (fun n hn => silent_of_detected (hdetected n hn))
    (reporting markedLabels "cri-o://1.29://x")
  obtain ⟨-, -, hignored⟩ :=
    runtime_of_first_teller [reporting markedLabels "cri-o://1.29://x"] .containerd
  refine ⟨hsame, (hignored _ hsame).trans ?_⟩
  decide +kernel

end GpuFleet.Workload
