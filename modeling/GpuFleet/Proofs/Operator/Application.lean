import GpuFleet.Proofs.Operator.Settlement

/-!
Applying DaemonSets of one name one after another. A call applies its DaemonSet exactly if the live
object does not carry the fingerprint, and leaves an object that does. So from the second call on
only the fingerprint of the call before counts, whether that one has applied its object or not.
-/
namespace GpuFleet

namespace Drift

open Kube (DaemonSet)

/-- The annotations are not among the tracked fields. -/
theorem fingerprint_annotations (d : DaemonSet) (annotations : Option Kube.Labels) :
    fingerprint { d with metadata := { d.metadata with annotations } } = fingerprint d := rfl

theorem fingerprint_stamp (d : DaemonSet) : fingerprint (stamp d) = fingerprint d :=
  fingerprint_annotations d _

theorem getElem?_annotations_stamp (d : DaemonSet) (key : String) :
    ((stamp d).metadata.annotations.getD ∅)[key]? =
      if key = fingerprintKey then some (fingerprint d)
      else (d.metadata.annotations.getD ∅)[key]? := by
  by_cases h : key = fingerprintKey
  · simp [stamp, DaemonSet.annotate, h]
  · simp [stamp, DaemonSet.annotate, Std.ExtTreeMap.getElem?_insert, h, Ne.symm h]

end Drift

namespace Operator

open Cluster (Store ObjectKey exec)
open Kube (DaemonSet)

variable {op : Operator} {name : String}

/-- A DaemonSet of the name in the operator's namespace. -/
structure HasKey (op : Operator) (name : String) (d : DaemonSet) : Prop where
  ns_eq : d.metadata.ns = some op.ns
  name_eq : d.metadata.name = some name

/-- The cluster after an application. -/
def applied (s : Store) (d : DaemonSet) : Store :=
  (s.putDaemonSet (Drift.stamp d)).note (.apply (Drift.stamp d))

/-- One call applies the DaemonSet exactly if the live object does not carry its fingerprint. After
it the live object does. -/
theorem exec_applyIfChanged_iff {d : DaemonSet} (hd : op.HasKey name d) (s : Store) :
    ∃ changed,
      exec (op.applyIfChanged d) s = (.ok changed, if changed then applied s d else s) ∧
      (changed = true ↔
        carried s.daemonSets[ObjectKey.mk op.ns name]? ≠ some (Drift.fingerprint d)) ∧
      carried (if changed then applied s d else s).daemonSets[ObjectKey.mk op.ns name]? =
        some (Drift.fingerprint d) := by
  have hexec := exec_applyIfChanged op hd.name_eq s
  cases hdec : decided d s.daemonSets[ObjectKey.mk op.ns name]? with
  | skip =>
    have hcarried := decided_eq_skip_iff.mp hdec
    rw [hdec] at hexec
    exact ⟨false, hexec, by simp [hcarried], hcarried⟩
  | apply =>
    have hcarried : carried s.daemonSets[ObjectKey.mk op.ns name]? ≠
        some (Drift.fingerprint d) := by
      intro h
      rw [decided_eq_skip_iff.mpr h] at hdec
      cases hdec
    rw [hdec] at hexec
    refine ⟨true, hexec, by simp [hcarried], ?_⟩
    have hlive : (applied s d).daemonSets[ObjectKey.mk op.ns name]? = some (Drift.stamp d) := by
      simp [applied, Store.putDaemonSet, Store.note, ofDaemonSet_stamp hd.ns_eq hd.name_eq]
    rw [if_pos rfl, hlive, carried_stamp]

/-- After any calls the live object carries the fingerprint of the DaemonSet passed last. -/
theorem exec_mapM_applyIfChanged {ds : List DaemonSet} (h : ∀ d ∈ ds, op.HasKey name d)
    (s : Store) :
    ∃ flags t, exec (ds.mapM op.applyIfChanged) s = (.ok flags, t) ∧
      carried t.daemonSets[ObjectKey.mk op.ns name]? =
        (ds.getLast?.map Drift.fingerprint).or
          (carried s.daemonSets[ObjectKey.mk op.ns name]?) := by
  induction ds generalizing s with
  | nil => exact ⟨[], s, rfl, rfl⟩
  | cons d ds ih =>
    obtain ⟨changed, hfirst, -, hcarried⟩ := exec_applyIfChanged_iff (h d List.mem_cons_self) s
    obtain ⟨flags, t, hrest, hlast⟩ := ih (fun e he => h e (List.mem_cons_of_mem _ he)) _
    refine ⟨changed :: flags, t, ?_, ?_⟩
    · rw [List.mapM_cons, Cluster.exec_bind_of_ok hfirst, Cluster.exec_bind_of_ok hrest,
        Cluster.exec_pure]
    · rw [hlast, hcarried, List.getLast?_cons]
      cases ds.getLast? <;> rfl

/-- DaemonSets of one name are passed one after another. The first one is applied exactly if there
is no live object or it carries another fingerprint, and each later one exactly if its fingerprint
is not that of the one before; after every call the live object carries the fingerprint of the one
just passed. Stamping sets one annotation, whatever it was, leaves everything else as it is, and
does not change the fingerprint. -/
theorem applications_follow_fingerprints (op : Operator) (name : String) (s : Store)
    (earlier : List DaemonSet) (d : DaemonSet) (h : ∀ e ∈ earlier ++ [d], op.HasKey name e) :
    (∃ flags t changed u,
      exec (earlier.mapM op.applyIfChanged) s = (.ok flags, t) ∧
      exec (op.applyIfChanged d) t = (.ok changed, u) ∧
      u = (if changed then applied t d else t) ∧
      (earlier = [] →
        (changed = true ↔ s.daemonSets[ObjectKey.mk op.ns name]? = none ∨
          ∃ live, s.daemonSets[ObjectKey.mk op.ns name]? = some live ∧
            carried (some live) ≠ some (Drift.fingerprint d))) ∧
      (∀ previous, earlier.getLast? = some previous →
        (changed = true ↔ Drift.fingerprint d ≠ Drift.fingerprint previous)) ∧
      ∃ live, u.daemonSets[ObjectKey.mk op.ns name]? = some live ∧
        carried (some live) = some (Drift.fingerprint d)) ∧
    ∀ e : DaemonSet, Drift.fingerprint (Drift.stamp e) = Drift.fingerprint e ∧
      { Drift.stamp e with
        metadata := { (Drift.stamp e).metadata with annotations := e.metadata.annotations } } = e ∧
      ∀ key, ((Drift.stamp e).metadata.annotations.getD ∅)[key]? =
        if key = Drift.fingerprintKey then some (Drift.fingerprint e)
        else (e.metadata.annotations.getD ∅)[key]? := by
  refine ⟨?_, fun e => ⟨Drift.fingerprint_stamp e, rfl, Drift.getElem?_annotations_stamp e⟩⟩
  simp only [List.forall_mem_append, List.forall_mem_singleton] at h
  obtain ⟨flags, t, hearlier, hlast⟩ := exec_mapM_applyIfChanged h.1 s
  obtain ⟨changed, hexec, hchanged, hcarried⟩ := exec_applyIfChanged_iff h.2 t
  refine ⟨flags, t, changed, _, hearlier, hexec, rfl, ?_, ?_, ?_⟩
  · rintro rfl
    rw [hchanged, hlast]
    cases s.daemonSets[ObjectKey.mk op.ns name]? <;> simp [carried]
  · intro previous hprevious
    rw [hchanged, hlast, hprevious, Option.map_some, Option.some_or, ne_eq, Option.some.injEq,
      eq_comm]
  · cases hlive : (if changed then applied t d else t).daemonSets[ObjectKey.mk op.ns name]? with
    | none => simp [hlive, carried] at hcarried
    | some live => exact ⟨live, rfl, hlive ▸ hcarried⟩

/-- A fingerprint written by hand does not count: the object is left alone the second time. -/
theorem applications_follow_fingerprints_handwritten :
    let op : Operator := ⟨"gpu-operator", "manifests", .emptyDir, id⟩
    let d : DaemonSet := { metadata := { name := "validator", ns := "gpu-operator" } }
    let byHand := d.annotate Drift.fingerprintKey "0"
    (∀ e ∈ [d] ++ [byHand], op.HasKey "validator" e) ∧
      ∃ flags t u, exec ([d].mapM op.applyIfChanged) ({} : Store) = (.ok flags, t) ∧
        exec (op.applyIfChanged byHand) t = (.ok false, u) := by
  intro op d byHand
  have hkey : ∀ e ∈ [d] ++ [byHand], op.HasKey "validator" e := by
    intro e he
    simp only [List.cons_append, List.nil_append, List.mem_cons, List.not_mem_nil, or_false] at he
    rcases he with rfl | rfl <;> exact ⟨rfl, rfl⟩
  obtain ⟨⟨flags, t, changed, u, hearlier, hexec, -, -, hchanged, -⟩, -⟩ :=
    applications_follow_fingerprints op "validator" {} [d] byHand hkey
  have hsame : Drift.fingerprint byHand = Drift.fingerprint d := Drift.fingerprint_annotations d _
  cases changed with
  | true => exact absurd hsame ((hchanged d rfl).mp rfl)
  | false => exact ⟨hkey, flags, t, u, hearlier, hexec⟩

end Operator

end GpuFleet
