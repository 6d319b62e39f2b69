import GpuFleet.Proofs.NodeLabels.Safety
import GpuFleet.Proofs.Operator.Labelling
import Mathlib.Data.List.Forall2

/-!
Nodes are labelled independently. What labelling makes of a node, and the patch that is written for
it, are told by the plan and by the node's own labels: no other node has a part in it, nor has the
order in which the nodes are listed.
-/
namespace GpuFleet.Operator

open Cluster (Store Write exec)
open Kube (Labels Node)
open NodeLabels (Patch)

variable {plan : Plan}

/-- The labels that an update of a node's own labels gives; its own where the update is rejected or
reports no change. -/
def dueLabels (plan : Plan) (n : Node) : Labels :=
  (NodeLabels.update plan n.metadata.labelMap).change?.getD n.metadata.labelMap

/-- A node with a name whose labels change. -/
def isDue (plan : Plan) (n : Node) : Bool :=
  n.metadata.name.isSome && decide (dueLabels plan n ≠ n.metadata.labelMap)

/-- What labelling makes of a node. -/
structure Relabelled (plan : Plan) (before after : Node) : Prop where
  labels : before.metadata.name.isSome = true → after.metadata.labelMap = dueLabels plan before
  unchanged : ¬ isDue plan before = true → after = before
  others : after =
    { before with metadata := { before.metadata with labels := after.metadata.labels } }

/-- What is written for a node that is due: the patch that makes its new labels of its own. -/
def IsPatchFor (plan : Plan) (n : Node) (w : Write) : Prop :=
  ∃ name patch, n.metadata.name = some name ∧
    Patch.between? n.metadata.labelMap (dueLabels plan n) = some patch ∧ w = .nodeLabels name patch

/-! ## One node -/

theorem duePatch?_eq (plan : Plan) (n : Node) :
    duePatch? plan n = n.metadata.name.bind fun name =>
      (Patch.between? n.metadata.labelMap (dueLabels plan n)).map (name, ·) := by
  simp only [duePatch?, dueLabels, Option.bind_eq_bind]
  cases n.metadata.name with
  | none => rfl
  | some name =>
    cases hnew : (NodeLabels.update plan n.metadata.labelMap).change? with
    | none =>
      rw [Option.getD_none, (Patch.between?_eq_none_iff _ _).mpr rfl]
      rfl
    | some new =>
      rw [Option.getD_some]
      cases hpatch : Patch.between? n.metadata.labelMap new <;> simp [hpatch]

theorem isDue_iff {n : Node} :
    isDue plan n = true ↔
      n.metadata.name.isSome = true ∧ dueLabels plan n ≠ n.metadata.labelMap := by
  rw [isDue, Bool.and_eq_true, decide_eq_true_iff]

theorem duePatch?_eq_none_iff {n : Node} : duePatch? plan n = none ↔ ¬ isDue plan n = true := by
  rw [duePatch?_eq, isDue_iff]
  cases n.metadata.name with
  | none => exact iff_of_true rfl (fun h => Bool.false_ne_true h.1)
  | some name =>
    rw [Option.bind_some, Option.map_eq_none_iff, Patch.between?_eq_none_iff]
    exact ⟨fun h hdue => hdue.2 h.symm, fun h => Classical.not_not.mp fun hne =>
      h ⟨rfl, Ne.symm hne⟩⟩

theorem isPatchFor_of_duePatch? {n : Node} {name : String} {patch : Patch}
    (h : duePatch? plan n = some (name, patch)) :
    IsPatchFor plan n (.nodeLabels name patch) := by
  rw [duePatch?_eq, Option.bind_eq_some_iff] at h
  obtain ⟨name', hname, hpatch⟩ := h
  obtain ⟨patch', hbetween, heq⟩ := Option.map_eq_some_iff.mp hpatch
  cases heq
  exact ⟨name, patch, hname, hbetween, rfl⟩

theorem relabelled_spec (plan : Plan) (n : Node) : Relabelled plan n (relabelled plan n) := by
  unfold relabelled
  cases hdue : duePatch? plan n with
  | none =>
    refine ⟨fun hname => ?_, fun _ => rfl, rfl⟩
    have hnot := duePatch?_eq_none_iff.mp hdue
    rw [isDue_iff] at hnot
    exact Classical.not_not.mp fun hne => hnot ⟨hname, Ne.symm hne⟩
  | some due =>
    obtain ⟨name, patch⟩ := due
    obtain ⟨name', patch', -, hbetween, hwrite⟩ := isPatchFor_of_duePatch? hdue
    cases hwrite
    refine ⟨fun _ => Patch.apply_old hbetween, fun hnot => ?_, rfl⟩
    rw [duePatch?_eq_none_iff.mpr hnot] at hdue
    cases hdue

/-! ## All nodes -/

theorem forall₂_labelWrites (plan : Plan) (nodes : List Node) :
    List.Forall₂ (IsPatchFor plan) (nodes.filter (isDue plan)) (labelWrites plan nodes) := by
  rw [labelWrites]
  induction nodes with
  | nil => exact .nil
  | cons n nodes ih =>
    cases hdue : duePatch? plan n with
    | none =>
      rw [List.filterMap_cons_none hdue,
        List.filter_cons_of_neg (duePatch?_eq_none_iff.mp hdue)]
      exact ih
    | some due =>
      have hisDue : isDue plan n = true := by
        refine Classical.not_not.mp fun hnot => ?_
        rw [duePatch?_eq_none_iff.mpr hnot] at hdue
        cases hdue
      rw [List.filterMap_cons_some hdue, List.filter_cons_of_pos hisDue, List.map_cons]
      exact .cons (isPatchFor_of_duePatch? hdue) ih

/-- Labelling the nodes of a cluster, listed in any order, leaves each with the labels that an
update of its own labels gives, and touches nothing else. One patch is written for each node whose
labels change, in the order of the list, and the patches are counted. A node that is the same in
another cluster, labelled in any order, becomes the same there, whatever the other nodes are. -/
theorem nodes_labelled_independently (plan : Plan) (s : Store) (nodes : List Node)
    (hkeyed : s.NodesKeyed) (hlisted : nodes.Perm s.nodes.values) :
    ∃ t writes, exec (labelNodes plan nodes) s = (.ok writes.length, t) ∧
      (∀ key : String, Option.Rel (Relabelled plan) s.nodes[key]? t.nodes[key]?) ∧
      t = { s with nodes := t.nodes, log := s.log ++ writes } ∧
      List.Forall₂ (IsPatchFor plan) (nodes.filter (isDue plan)) writes ∧
      ∀ (s' t' : Store) (nodes' : List Node) (result : Except Cluster.Failure Nat),
        s'.NodesKeyed → nodes'.Perm s'.nodes.values →
        exec (labelNodes plan nodes') s' = (result, t') →
        ∀ key : String, s'.nodes[key]? = s.nodes[key]? → t'.nodes[key]? = t.nodes[key]? := by
  have hlabelled : ∀ key : String,
      (labelled plan s).nodes[key]? = s.nodes[key]?.map (relabelled plan) :=
    fun key => Std.ExtTreeMap.getElem?_map
  refine ⟨{ labelled plan s with log := s.log ++ labelWrites plan nodes }, labelWrites plan nodes,
    exec_labelNodes_of_perm plan hkeyed hlisted, fun key => ?_, rfl,
    forall₂_labelWrites plan nodes, ?_⟩
  · rw [hlabelled key]
    cases s.nodes[key]? with
    | none => exact .none
    | some n => exact .some (relabelled_spec plan n)
  · intro s' t' nodes' result hkeyed' hlisted' hexec' key hsame
    rw [exec_labelNodes_of_perm plan hkeyed' hlisted'] at hexec'
    cases hexec'
    rw [hlabelled key, ← hsame]
    exact Std.ExtTreeMap.getElem?_map

/-- A node to be labelled. -/
def freshNode : Node where
  metadata := { name := some "a", labels := some NodeLabels.discovered }

/-- A node that asks for no workload that there is. -/
def misledNode : Node where
  metadata :=
    { name := some "b"
      labels := some (NodeLabels.discovered.insert NodeLabels.workloadKey "none") }

def namelessNode : Node where
  metadata := { labels := some NodeLabels.discovered }

def mixedStore : Store :=
  ((({} : Store).putNode freshNode).putNode misledNode).putNode namelessNode

theorem nodesKeyed_mixedStore : mixedStore.NodesKeyed :=
  ((Store.nodesKeyed_empty.putNode freshNode).putNode misledNode).putNode namelessNode

private theorem mixed_run :
    [misledNode, freshNode, namelessNode].Perm mixedStore.nodes.values ∧
      isDue ⟨{}, true⟩ misledNode = false ∧ isDue ⟨{}, true⟩ freshNode = true ∧
      isDue ⟨{}, true⟩ namelessNode = false := by
  decide +kernel

/-- One node of three is written; the others stay as they are. -/
theorem nodes_labelled_independently_mixed :
    mixedStore.NodesKeyed ∧ [misledNode, freshNode, namelessNode].Perm mixedStore.nodes.values ∧
      ∃ t, exec (labelNodes ⟨{}, true⟩ [misledNode, freshNode, namelessNode]) mixedStore =
          (.ok 1, t) ∧
        t.nodes["b"]? = some misledNode ∧ t.nodes[""]? = some namelessNode ∧
        ∃ n, t.nodes["a"]? = some n ∧ n.metadata.labelMap = dueLabels ⟨{}, true⟩ freshNode := by
  obtain ⟨hlisted, hmisled, hfresh, hnameless⟩ := mixed_run
  obtain ⟨t, writes, hexec, hnodes, -, hwrites, -⟩ :=
    nodes_labelled_independently ⟨{}, true⟩ mixedStore _ nodesKeyed_mixedStore hlisted
  have hcount : writes.length = 1 := by
    rw [← hwrites.length_eq, List.filter_cons_of_neg (by simp [hmisled]),
      List.filter_cons_of_pos hfresh, List.filter_cons_of_neg (by simp [hnameless]),
      List.filter_nil, List.length_singleton]
  have hleft : ∀ n ∈ [misledNode, freshNode, namelessNode],
      ∃ m, t.nodes[Store.nodeKey n]? = some m ∧ Relabelled ⟨{}, true⟩ n m := by
    intro n hn
    have hkey := hnodes (Store.nodeKey n)
    rw [stored_of_listed nodesKeyed_mixedStore hlisted hn] at hkey
    cases hm : t.nodes[Store.nodeKey n]? with
    | none => rw [hm] at hkey; cases hkey
    | some m =>
      rw [hm] at hkey
      cases hkey with
      | some h => exact ⟨m, rfl, h⟩
  obtain ⟨a, ha, haspec⟩ := hleft freshNode (by simp)
  obtain ⟨b, hb, hbspec⟩ := hleft misledNode (by simp)
  obtain ⟨c, hc, hcspec⟩ := hleft namelessNode (by simp)
  rw [show Store.nodeKey freshNode = "a" from rfl] at ha
  rw [show Store.nodeKey misledNode = "b" from rfl, hbspec.unchanged (by simp [hmisled])] at hb
  rw [show Store.nodeKey namelessNode = "" from rfl, hcspec.unchanged (by simp [hnameless])] at hc
  rw [hcount] at hexec
  exact ⟨nodesKeyed_mixedStore, hlisted, t, hexec, hb, hc, a, ha, haspec.labels rfl⟩

end GpuFleet.Operator
