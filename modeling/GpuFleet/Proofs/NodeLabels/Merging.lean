import GpuFleet.Kube.Node
import GpuFleet.NodeLabels.Vocabulary
import GpuFleet.Proofs.Json.Merge
import GpuFleet.Proofs.Kube.Labels
import GpuFleet.Proofs.NodeLabels.Patch

/-!
Patches of labels that others are writing at the same time. A patch is made from the labels as they
were read, and meets the labels as they are by then. As a JSON merge patch of the node it does the
same to its labels as it does to the map of them.
-/
namespace GpuFleet.NodeLabels

open Kube (Labels)

/-- The value of a label in the JSON of a node. -/
def label? (node : Json) (key : String) : Option Json :=
  (node.member? "metadata").bind fun m => (m.member? "labels").bind (·.member? key)

/-- The JSON of a node carries exactly these labels. -/
def Carries (node : Json) (labels : Labels) : Prop :=
  ∀ key, label? node key = labels[key]?.map Json.string

/-- The JSON of a node with labels carries them. -/
theorem carries_toJson {n : Kube.Node} {labels : Labels} (h : n.metadata.labels = some labels) :
    Carries n.toJson labels := by
  intro key
  have hmetadata : n.toJson.member? "metadata" = some n.metadata.toJson := by
    simp [Kube.Node.toJson, Members.lookup_cons_eq]
  have hlabels : n.metadata.toJson.member? "labels" = some labels.toJson := by
    rw [Kube.ObjectMeta.toJson, Json.member?_object, h]
    simp only [List.lookup_append]
    rw [Members.lookup_put?_of_ne (by decide), Members.lookup_put?_of_ne (by decide)]
    simp [Members.put?, Members.opt]
  rw [label?, hmetadata, Option.bind_some, hlabels, Option.bind_some]
  exact Labels.lookup_toJson labels key

namespace Patch

variable {old new : Labels} {p : Patch}

/-! ## Patches as JSON -/

private theorem nodup_differences (old new : Labels) :
    ((differences old new).map Prod.fst).Nodup := by
  rw [differences, List.map_append, List.map_map, List.map_map]
  refine List.nodup_append.mpr ⟨?_, ?_, ?_⟩
  · have hkeys : (new.toList.map Prod.fst).Nodup := by
      rw [Std.ExtTreeMap.map_fst_toList_eq_keys]
      exact new.nodup_keys
    exact hkeys.sublist (List.filter_sublist.map _)
  · have hid : (Prod.fst ∘ fun k : String => (k, (none : Option String))) = id := rfl
    rw [hid, List.map_id]
    exact old.nodup_keys.sublist List.filter_sublist
  · intro k hk l hl
    simp only [List.mem_map, List.mem_filter, Function.comp_apply] at hk hl
    obtain ⟨⟨k', v⟩, ⟨hmem, -⟩, rfl⟩ := hk
    obtain ⟨l', ⟨-, hgone⟩, rfl⟩ := hl
    rintro rfl
    have hnew := Std.ExtTreeMap.mem_toList_iff_getElem?_eq_some.mp hmem
    have hnone := Std.ExtTreeMap.getElem?_eq_none (of_decide_eq_true hgone)
    rw [hnone] at hnew
    cases hnew

/-- A patch gives a new value to the keys in which the maps differ, and says nothing of others. -/
theorem lookup_changes (h : between? old new = some p) (key : String) :
    p.changes.lookup key = if old[key]? = new[key]? then none else some new[key]? := by
  rw [changes_of_between? h]
  cases hlookup : (differences old new).lookup key with
  | none =>
    rw [if_pos]
    refine Classical.byContradiction fun hne => ?_
    obtain ⟨c, hc, rfl⟩ := List.mem_map.mp ((mem_differences_iff old new key).mpr hne)
    have hnot := List.lookup_eq_none_iff.mp hlookup c hc
    simp at hnot
  | some v =>
    obtain ⟨before, after, hlist, -⟩ := List.lookup_eq_some_iff.mp hlookup
    have hmem : (key, v) ∈ differences old new := by simp [hlist]
    rw [if_neg ((mem_differences_iff old new key).mp (List.mem_map_of_mem hmem)),
      ← differences_agree old new _ hmem]

/-- The value of a label as a patch writes it; null takes the label away. -/
def valueJson : Option String → Json
  | some v => .string v
  | none => .null

theorem toJson_eq (p : Patch) :
    p.toJson = .object [("metadata", .object [("labels",
      .object (p.changes.map fun (k, v) => (k, valueJson v)))])] := by
  refine congrArg (fun ms => Json.object [("metadata", .object [("labels", .object ms)])])
    (List.map_congr_left ?_)
  rintro ⟨k, _ | v⟩ - <;> rfl

/-- A label of a node that has no labels, or no metadata. -/
private theorem label?_eq (node : Json) (key : String) :
    label? node key =
      ((((node.member? "metadata").getD .null).member? "labels").getD .null).member? key := by
  unfold label?
  cases node.member? "metadata" with
  | none => rfl
  | some m => cases hlabels : m.member? "labels" <;> simp [hlabels]

/-- What a merge patch does to a label. -/
theorem label?_mergePatch (h : between? old new = some p) (node : Json) (key : String) :
    label? (node.mergePatch p.toJson) key =
      if old[key]? = new[key]? then label? node key else new[key]?.map Json.string := by
  have hdistinct :
      ((p.changes.map fun (k, v) => (k, valueJson v)).map Prod.fst).Nodup := by
    rw [List.map_map, changes_of_between? h]
    exact nodup_differences old new
  rw [toJson_eq, label?, Json.member?_mergePatch_single, Option.bind_some,
    Json.member?_mergePatch_single, Option.bind_some, Json.member?_mergePatch hdistinct,
    Members.lookup_map_values, lookup_changes h, ← label?_eq]
  by_cases hsame : old[key]? = new[key]?
  · rw [if_pos hsame, if_pos hsame]
    rfl
  · rw [if_neg hsame, if_neg hsame]
    cases new[key]? with
    | none => rfl
    | some v => simp [Json.changed, valueJson, Json.mergePatch]

/-- The labels as a patch leaves them, if there is one. -/
def applied (p : Option Patch) (labels : Labels) : Labels :=
  match p with
  | none => labels
  | some p => p.apply labels

/-- The JSON of a node as a patch leaves it, if there is one. -/
def merged (p : Option Patch) (node : Json) : Json :=
  match p with
  | none => node
  | some p => node.mergePatch p.toJson

/-- A patch, if there is one, changes the keys in which the maps differ, and no others. -/
theorem getElem?_applied (old new live : Labels) (key : String) :
    (applied (between? old new) live)[key]? =
      if old[key]? = new[key]? then live[key]? else new[key]? := by
  cases h : between? old new with
  | none =>
    obtain rfl := (between?_eq_none_iff old new).mp h
    simp [applied]
  | some p => exact getElem?_apply h live key

/-- A merge patch of the JSON of a node does to its labels what the patch does to the map. -/
theorem carries_merged {old new live : Labels} {node : Json} (h : Carries node live) :
    Carries (merged (between? old new) node) (applied (between? old new) live) := by
  intro key
  rw [getElem?_applied]
  cases hpatch : between? old new with
  | none =>
    obtain rfl := (between?_eq_none_iff old new).mp hpatch
    rw [if_pos rfl]
    exact h key
  | some p =>
    rw [merged, label?_mergePatch hpatch]
    split
    · exact h key
    · rfl

/-- Whatever the labels have become since they were read, the patch sets the keys in which the map
that was decided on differs from the one that was read, and leaves every other key as it is; as a
merge patch of a node it does the same. On the labels that were read it makes those that were
decided on, and where these are the same there is no patch. Two patches of the same labels that
change different keys may come in either order. -/
theorem patch_keeps_other_edits (old new live : Labels) :
    (∀ key : String, (applied (between? old new) live)[key]? =
        if old[key]? = new[key]? then live[key]? else new[key]?) ∧
      (∀ node, Carries node live →
        Carries (merged (between? old new) node) (applied (between? old new) live)) ∧
      applied (between? old new) old = new ∧
      (between? old new = none ↔ old = new) ∧
      ∀ other : Labels, (∀ key : String, old[key]? = new[key]? ∨ old[key]? = other[key]?) →
        applied (between? old other) (applied (between? old new) live) =
          applied (between? old new) (applied (between? old other) live) := by
  refine ⟨getElem?_applied old new live, fun node h => carries_merged h, ?_,
    between?_eq_none_iff old new, fun other hdisjoint => ?_⟩
  · refine Std.ExtTreeMap.ext_getElem? fun key => ?_
    rw [getElem?_applied]
    split
    · assumption
    · rfl
  · refine Std.ExtTreeMap.ext_getElem? fun key => ?_
    simp only [getElem?_applied]
    rcases hdisjoint key with hsame | hsame <;> simp [hsame]

/-- Labels as they were read. -/
def snapshot : Labels := .ofList [(operandsKey, "false"), (migConfigKey, "all-1g.5gb")] compare

/-- What was decided on: a label is new, and one is gone. -/
def decided : Labels := (snapshot.erase operandsKey).insert gpuPresentKey "true"

/-- What somebody else has decided on. -/
def alternative : Labels := snapshot.insert workloadKey "vm-vgpu"

/-- What has become of the labels: one has another value, and one is new. -/
def current : Labels := (snapshot.insert migConfigKey "all-2g.10gb").insert productKey "A100"

def currentNode : Kube.Node := { metadata := { labels := some current } }

theorem patch_keeps_other_edits_sample :
    Carries currentNode.toJson current ∧
      (∀ key : String, snapshot[key]? = decided[key]? ∨ snapshot[key]? = alternative[key]?) ∧
      ∃ labels : Labels,
        Carries (merged (between? snapshot decided) currentNode.toJson) labels ∧
        labels[operandsKey]? = none ∧ labels[gpuPresentKey]? = some "true" ∧
        labels[migConfigKey]? = some "all-2g.10gb" ∧ labels[productKey]? = some "A100" ∧
        applied (between? snapshot alternative) labels =
          applied (between? snapshot decided)
            (applied (between? snapshot alternative) current) := by
  have hcarries : Carries currentNode.toJson current := carries_toJson rfl
  have hdisjoint : ∀ key : String,
      snapshot[key]? = decided[key]? ∨ snapshot[key]? = alternative[key]? := by
    intro key
    by_cases hkey : workloadKey = key
    · left
      subst hkey
      decide +kernel
    · right
      simp [alternative, Std.ExtTreeMap.getElem?_insert, hkey]
  obtain ⟨hkeys, hjson, -, -, hcomm⟩ := patch_keeps_other_edits snapshot decided current
  refine ⟨hcarries, hdisjoint, _, hjson _ hcarries, ?_, ?_, ?_, ?_, hcomm _ hdisjoint⟩
  all_goals
    rw [hkeys]
    decide +kernel

end Patch

end GpuFleet.NodeLabels
