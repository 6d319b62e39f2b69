import GpuFleet.Operator.Labelling
import GpuFleet.Proofs.Cluster.Listing
import GpuFleet.Proofs.Cluster.Run
import GpuFleet.Proofs.NodeLabels.Patch
import GpuFleet.Proofs.NodeLabels.Update

/-!
Labelling of nodes. Each node of the cluster gets the labels that it is due, by itself, and once it
has them it is due no further patch.
-/
namespace GpuFleet

namespace Cluster.Store

/-- The key that a node is stored under. -/
def nodeKey (n : Kube.Node) : String := n.metadata.name.getD ""

/-- Every node is stored under its name. -/
def NodesKeyed (s : Store) : Prop :=
  ∀ (key : String) n, s.nodes[key]? = some n → nodeKey n = key

theorem nodesKeyed_empty : ({} : Store).NodesKeyed := by
  intro key n h
  simp at h

theorem NodesKeyed.putNode {s : Store} (h : s.NodesKeyed) (n : Kube.Node) :
    (s.putNode n).NodesKeyed := by
  intro key m hm
  rw [Store.putNode, Std.ExtTreeMap.getElem?_insert] at hm
  split at hm
  · next hkey =>
    cases hm
    exact Std.LawfulEqCmp.eq_of_compare hkey
  · exact h key m hm

theorem NodesKeyed.removeNode {s : Store} (h : s.NodesKeyed) (name : String) :
    (s.removeNode name).NodesKeyed := by
  intro key m hm
  rw [Store.removeNode, Std.ExtTreeMap.getElem?_erase] at hm
  split at hm
  · cases hm
  · exact h key m hm

end Cluster.Store

namespace Operator

open Cluster (Store Server Write exec)
open Cluster.Store (nodeKey)
open Kube (Node)

variable {plan : Plan}

/-- The node with the labels that it is due. -/
def relabelled (plan : Plan) (n : Node) : Node :=
  match duePatch? plan n with
  | some (_, patch) => n.mapLabels patch.apply
  | none => n

/-- What is known of a patch that is due. -/
theorem duePatch?_eq_some {n : Node} {name : String} {patch : NodeLabels.Patch}
    (h : duePatch? plan n = some (name, patch)) :
    n.metadata.name = some name ∧ ∃ new,
      (NodeLabels.update plan n.metadata.labelMap).change? = some new ∧
        NodeLabels.Patch.between? n.metadata.labelMap new = some patch := by
  simp only [duePatch?, Option.bind_eq_bind, Option.bind_eq_some_iff, Option.some.injEq] at h
  obtain ⟨name', hname, new, hnew, patch', hpatch, heq⟩ := h
  cases heq
  exact ⟨hname, new, hnew, hpatch⟩

/-- A node with the labels that it was due is due no patch. -/
theorem duePatch?_relabelled (n : Node) : duePatch? plan (relabelled plan n) = none := by
  unfold relabelled
  split
  · next name patch h =>
    obtain ⟨hname, new, hnew, hpatch⟩ := duePatch?_eq_some h
    have hlabels : (n.mapLabels patch.apply).metadata.labelMap = new :=
      NodeLabels.Patch.apply_old hpatch
    have hagain : (NodeLabels.update plan new).change? = none := by
      rw [NodeLabels.update_again hnew]
      rfl
    simp only [duePatch?, hlabels, hagain]
    cases (n.mapLabels patch.apply).metadata.name <;> rfl
  · next h => exact h

theorem relabelled_relabelled (n : Node) :
    relabelled plan (relabelled plan n) = relabelled plan n := by
  rw [relabelled, duePatch?_relabelled]

/-! ## Runs -/

/-- The patches that nodes are due, as they are written. -/
def labelWrites (plan : Plan) (nodes : List Node) : List Write :=
  (nodes.filterMap (duePatch? plan)).map fun (name, patch) => .nodeLabels name patch

/-- The cluster in which every node has the labels that it is due. -/
def labelled (plan : Plan) (s : Store) : Store :=
  { s with
    nodes := s.nodes.map fun _ n => relabelled plan n
    log := s.log ++ labelWrites plan s.nodes.values }

/-- Each node of a list, all of them stored as they are listed, gets the labels that it is due. -/
private theorem exec_patches (nodes : List Node) (s : Store)
    (hstored : ∀ n ∈ nodes, s.nodes[nodeKey n]? = some n)
    (hdistinct : (nodes.map nodeKey).Nodup) :
    ∃ us : Std.ExtTreeMap String Node,
      exec ((nodes.filterMap (duePatch? plan)).forM fun (name, patch) =>
          Server.patchNodeLabels name patch) s =
        (.ok (), { s with nodes := us, log := s.log ++ labelWrites plan nodes }) ∧
      ∀ key : String, us[key]? =
        if key ∈ nodes.map nodeKey then s.nodes[key]?.map (relabelled plan) else s.nodes[key]? := by
  induction nodes generalizing s with
  | nil => exact ⟨s.nodes, by simp [labelWrites, List.forM_eq_forM], fun _ => rfl⟩
  | cons n nodes ih =>
    simp only [List.forall_mem_cons] at hstored
    obtain ⟨hn, hnodes⟩ := hstored
    obtain ⟨hnew, hdistinct⟩ := List.nodup_cons.mp hdistinct
    cases hdue : duePatch? plan n with
    | none =>
      obtain ⟨us, hexec, hus⟩ := ih s hnodes hdistinct
      refine ⟨us, ?_, fun key => ?_⟩
      · rw [labelWrites, List.filterMap_cons_none hdue]
        exact hexec
      · rw [hus key]
        by_cases hkey : key = nodeKey n
        · rw [hkey, if_neg hnew, List.map_cons, if_pos List.mem_cons_self, hn, Option.map_some,
            relabelled, hdue]
        · simp only [List.map_cons, List.mem_cons, hkey, false_or]
    | some due =>
      obtain ⟨name, patch⟩ := due
      obtain rfl : nodeKey n = name := by
        rw [nodeKey, (duePatch?_eq_some hdue).1, Option.getD_some]
      have hrelabelled : relabelled plan n = n.mapLabels patch.apply := by
        rw [relabelled, hdue]
      have hinsert : ∀ key : String,
          (s.nodes.insert (nodeKey n) (n.mapLabels patch.apply))[key]? =
            if nodeKey n = key then some (relabelled plan n) else s.nodes[key]? := by
        intro key
        rw [hrelabelled, Std.ExtTreeMap.getElem?_insert]
        by_cases hkey : nodeKey n = key <;> simp [hkey]
      have hrest : ∀ m ∈ nodes,
          (s.nodes.insert (nodeKey n) (n.mapLabels patch.apply))[nodeKey m]? = some m := by
        intro m hm
        have hne : nodeKey n ≠ nodeKey m := fun h => hnew (List.mem_map.mpr ⟨m, hm, h.symm⟩)
        rw [hinsert, if_neg hne, hnodes m hm]
      obtain ⟨us, hexec, hus⟩ := ih
        ({ s with nodes := s.nodes.insert (nodeKey n) (n.mapLabels patch.apply) }.note
          (.nodeLabels (nodeKey n) patch)) hrest hdistinct
      refine ⟨us, ?_, fun key => ?_⟩
      · rw [labelWrites, List.filterMap_cons_some hdue, List.forM_eq_forM, List.forM_cons,
          Cluster.exec_bind_of_ok (Store.exec_patchNodeLabels hn patch), ← List.forM_eq_forM, hexec]
        simp only [Store.note, labelWrites, List.map_cons, List.append_assoc, List.singleton_append]
      · rw [hus key]
        simp only [Store.note, hinsert key]
        by_cases hkey : nodeKey n = key
        · subst hkey
          rw [if_pos rfl, if_neg hnew, List.map_cons, if_pos List.mem_cons_self, hn,
            Option.map_some]
        · simp only [if_neg hkey, List.map_cons, List.mem_cons, Ne.symm hkey, false_or]

/-- A node that is listed is stored, under its name. -/
theorem stored_of_listed {s : Store} (hkeyed : s.NodesKeyed) {nodes : List Node}
    (hlisted : nodes.Perm s.nodes.values) {n : Node} (hn : n ∈ nodes) :
    s.nodes[nodeKey n]? = some n := by
  obtain ⟨key, hkey⟩ := Cluster.mem_values_iff.mp (hlisted.mem_iff.mp hn)
  rw [hkeyed key n hkey, hkey]

/-- In whatever order the nodes of the cluster are listed, each gets the labels that it is due, and
nothing else is touched. The patches are written in the order of the list. -/
theorem exec_labelNodes_of_perm (plan : Plan) {s : Store} (hkeyed : s.NodesKeyed)
    {nodes : List Node} (hlisted : nodes.Perm s.nodes.values) :
    exec (labelNodes plan nodes) s =
      (.ok (labelWrites plan nodes).length,
        { labelled plan s with log := s.log ++ labelWrites plan nodes }) := by
  have hkeys : (nodes.map nodeKey).Perm s.nodes.keys :=
    Cluster.map_values_eq_keys hkeyed ▸ hlisted.map nodeKey
  obtain ⟨us, hexec, hus⟩ := @exec_patches plan nodes s
    (fun _ hn => stored_of_listed hkeyed hlisted hn) (hkeys.nodup_iff.mpr s.nodes.nodup_keys)
  have hmap : us = s.nodes.map fun _ n => relabelled plan n := by
    refine Std.ExtTreeMap.ext_getElem? fun key => ?_
    rw [hus key, Std.ExtTreeMap.getElem?_map]
    split
    · rfl
    · next hnot =>
      rw [Std.ExtTreeMap.getElem?_eq_none fun h => hnot (hkeys.mem_iff.mpr
        (Std.ExtTreeMap.mem_keys.mpr h))]
      rfl
  rw [labelNodes, Cluster.exec_bind_of_ok hexec, hmap, labelWrites, List.length_map]
  rfl

/-- Labelling gives every node of the cluster the labels it is due, and touches nothing else. -/
theorem exec_labelNodes (plan : Plan) {s : Store} (hkeyed : s.NodesKeyed) :
    ∃ count, exec (labelNodes plan s.nodes.values) s = (.ok count, labelled plan s) :=
  ⟨_, exec_labelNodes_of_perm plan hkeyed (.refl _)⟩

/-! ## Labelled clusters -/

theorem nodeKey_relabelled (n : Node) : nodeKey (relabelled plan n) = nodeKey n := by
  unfold relabelled
  split <;> rfl

theorem nodesKeyed_labelled {s : Store} (h : s.NodesKeyed) : (labelled plan s).NodesKeyed := by
  intro key m hm
  rw [labelled, Std.ExtTreeMap.getElem?_map] at hm
  obtain ⟨n, hn, rfl⟩ := Option.map_eq_some_iff.mp hm
  rw [nodeKey_relabelled, h key n hn]

/-- In a cluster with the nodes of a labelled one, labelling has nothing to do. -/
theorem labelled_again {s t : Store} (h : t.nodes = (labelled plan s).nodes) :
    labelled plan t = t := by
  have hnodes : (t.nodes.map fun _ n => relabelled plan n) = t.nodes := by
    rw [h]
    refine Std.ExtTreeMap.ext_getElem? fun key => ?_
    simp only [labelled, Std.ExtTreeMap.getElem?_map, Option.map_map]
    congr 1
    funext n
    exact relabelled_relabelled n
  have hwrites : labelWrites plan t.nodes.values = [] := by
    have hnone : ∀ n ∈ s.nodes.values.map (relabelled plan), duePatch? plan n = none := by
      intro n hn
      obtain ⟨m, -, rfl⟩ := List.mem_map.mp hn
      exact duePatch?_relabelled m
    rw [labelWrites, h, labelled, Cluster.values_map, List.filterMap_eq_nil_iff.mpr hnone,
      List.map_nil]
  rw [labelled, hnodes, hwrites, List.append_nil]

end Operator

end GpuFleet
