import GpuFleet.Operator.Deployment
import GpuFleet.Proofs.Cluster.Run
import GpuFleet.Proofs.Drift.Agreement

/-!
Settling DaemonSets one after another. A task is to have a DaemonSet in the cluster, or not to have
it. What it does depends on the live object of its key only, and it touches no other one; so tasks
with distinct names do not get in one another's way. A task that is done has nothing left to do.
-/
namespace GpuFleet

namespace Cluster

open Kube (DaemonSet)

/-- The key of the DaemonSet that is written. -/
def Write.key? : Write → Option ObjectKey
  | .apply d => some (.ofDaemonSet d)
  | .delete ns name => some ⟨ns, name⟩
  | .nodeLabels _ _ | .status _ _ => none

end Cluster

namespace Operator

open Cluster (Run Store Server Write ObjectKey exec exec_pure)
open Kube (DaemonSet)

/-- What is decided about a DaemonSet, given the live one. -/
def decided (d : DaemonSet) (live : Option DaemonSet) : Drift.Decision :=
  Drift.decision (Drift.fingerprint d) (live.bind (·.metadata.annotations))

/-- A DaemonSet that is wanted, or one that is not. -/
structure Task where
  wanted : Bool
  daemonSet : DaemonSet

namespace Task

def name? (t : Task) : Option String := t.daemonSet.metadata.name

/-- The key of the DaemonSet, if it has a name. -/
def key? (ns : String) (t : Task) : Option ObjectKey := t.name?.map (⟨ns, ·⟩)

/-- The live object under the key as the task leaves it. -/
def effect (t : Task) (live : Option DaemonSet) : Option DaemonSet :=
  if t.wanted then
    match decided t.daemonSet live with
    | .skip => live
    | .apply => some (Drift.stamp t.daemonSet)
  else live.filter (!isManaged ·)

/-- What the task writes. -/
def writes (key : ObjectKey) (t : Task) (live : Option DaemonSet) : List Write :=
  if t.wanted then
    match decided t.daemonSet live with
    | .skip => []
    | .apply => [.apply (Drift.stamp t.daemonSet)]
  else if live.any isManaged then [.delete key.ns key.name] else []

/-- What the task writes in a cluster as it is. -/
def due (ns : String) (s : Store) (t : Task) : List Write :=
  match t.key? ns with
  | some key => t.writes key s.daemonSets[key]?
  | none => []

end Task

/-- The cluster after a task. -/
def settled (ns : String) (s : Store) (t : Task) : Store :=
  match t.key? ns with
  | some key =>
    { s with
      daemonSets := s.daemonSets.alter key t.effect
      log := s.log ++ t.due ns s }
  | none => s

/-! ## One task -/

private theorem alter_eq_insert {s : Store} {key : ObjectKey}
    {f : Option DaemonSet → Option DaemonSet} {d : DaemonSet}
    (h : f s.daemonSets[key]? = some d) :
    s.daemonSets.alter key f = s.daemonSets.insert key d := by
  refine Std.ExtTreeMap.ext_getElem? fun k => ?_
  rw [Std.ExtTreeMap.getElem?_alter, Std.ExtTreeMap.getElem?_insert, h]

private theorem alter_eq_erase {s : Store} {key : ObjectKey}
    {f : Option DaemonSet → Option DaemonSet} (h : f s.daemonSets[key]? = none) :
    s.daemonSets.alter key f = s.daemonSets.erase key := by
  refine Std.ExtTreeMap.ext_getElem? fun k => ?_
  rw [Std.ExtTreeMap.getElem?_alter, Std.ExtTreeMap.getElem?_erase, h]

private theorem alter_eq_self {s : Store} {key : ObjectKey}
    {f : Option DaemonSet → Option DaemonSet} (h : f s.daemonSets[key]? = s.daemonSets[key]?) :
    s.daemonSets.alter key f = s.daemonSets := by
  refine Std.ExtTreeMap.ext_getElem? fun k => ?_
  rw [Std.ExtTreeMap.getElem?_alter, h]
  split
  · next hk => rw [Std.LawfulEqCmp.eq_of_compare hk]
  · rfl

/-- A task that leaves the live object as it is and writes nothing does nothing. -/
theorem settled_eq_self {ns : String} {s : Store} {t : Task}
    (h : ∀ key, t.key? ns = some key →
      t.effect s.daemonSets[key]? = s.daemonSets[key]? ∧ t.writes key s.daemonSets[key]? = []) :
    settled ns s t = s := by
  unfold settled Task.due
  cases hkey : t.key? ns with
  | none => rfl
  | some key =>
    obtain ⟨heffect, hwrites⟩ := h key hkey
    simp only [alter_eq_self heffect, hwrites, List.append_nil]

theorem ofDaemonSet_stamp {d : DaemonSet} {ns name : String}
    (hns : d.metadata.ns = some ns) (hname : d.metadata.name = some name) :
    ObjectKey.ofDaemonSet (Drift.stamp d) = ⟨ns, name⟩ := by
  simp [ObjectKey.ofDaemonSet, Drift.stamp, DaemonSet.annotate, hns, hname]

/-! ## The calls of a task -/

theorem exec_applyIfChanged (op : Operator) {d : DaemonSet} {name : String}
    (hname : d.metadata.name = some name) (s : Store) :
    exec (op.applyIfChanged d) s =
      match decided d s.daemonSets[ObjectKey.mk op.ns name]? with
      | .skip => (.ok false, s)
      | .apply => (.ok true, (s.putDaemonSet (Drift.stamp d)).note (.apply (Drift.stamp d))) := by
  unfold applyIfChanged decided
  rw [hname]
  simp only
  rw [Cluster.exec_bind_of_ok (Store.exec_getDaemonSet? s op.ns name)]
  cases Drift.decision (Drift.fingerprint d)
    (s.daemonSets[ObjectKey.mk op.ns name]?.bind (·.metadata.annotations)) with
  | skip => rfl
  | apply => exact Cluster.exec_bind_of_ok (Store.exec_applyDaemonSet s (Drift.stamp d)) _

theorem exec_deleteIfPresent (op : Operator) {d : DaemonSet} {name : String}
    (hname : d.metadata.name = some name) (s : Store) :
    exec (op.deleteIfPresent d) s =
      if s.daemonSets[ObjectKey.mk op.ns name]?.any isManaged then
        (.ok true, { s with daemonSets := s.daemonSets.erase ⟨op.ns, name⟩ }.note
          (.delete op.ns name))
      else (.ok false, s) := by
  unfold deleteIfPresent
  rw [hname]
  simp only
  rw [Cluster.exec_bind_of_ok (Store.exec_getDaemonSet? s op.ns name)]
  cases s.daemonSets[ObjectKey.mk op.ns name]? with
  | none => rfl
  | some live =>
    cases h : isManaged live with
    | false => simp [h]
    | true =>
      simp only [h, if_true, Option.any_some]
      exact Cluster.exec_bind_of_ok (Store.exec_deleteDaemonSet s op.ns name) _

private theorem exec_settle_wanted (op : Operator) {d : DaemonSet} {name : String}
    (hns : d.metadata.ns = some op.ns) (hname : d.metadata.name = some name) (s : Store) :
    exec (op.settle true d) s = (.ok (), settled op.ns s ⟨true, d⟩) := by
  have hkey : Task.key? op.ns ⟨true, d⟩ = some ⟨op.ns, name⟩ := by
    simp [Task.key?, Task.name?, hname]
  unfold settle
  rw [if_pos rfl, Cluster.exec_bind, exec_applyIfChanged op hname]
  cases hdec : decided d s.daemonSets[ObjectKey.mk op.ns name]? with
  | skip =>
    rw [settled_eq_self fun key hk => ?_]
    · rfl
    · cases hkey.symm.trans hk
      simp [Task.effect, Task.writes, hdec]
  | apply =>
    have heffect : Task.effect ⟨true, d⟩ s.daemonSets[ObjectKey.mk op.ns name]? =
        some (Drift.stamp d) := by
      simp [Task.effect, hdec]
    have hwrites : Task.writes ⟨op.ns, name⟩ ⟨true, d⟩
        s.daemonSets[ObjectKey.mk op.ns name]? = [.apply (Drift.stamp d)] := by
      simp [Task.writes, hdec]
    simp only [settled, Task.due, hkey, hwrites, alter_eq_insert heffect, Store.putDaemonSet,
      Store.note, ofDaemonSet_stamp hns hname, exec_pure]

private theorem exec_settle_unwanted (op : Operator) {d : DaemonSet} {name : String}
    (hname : d.metadata.name = some name) (s : Store) :
    exec (op.settle false d) s = (.ok (), settled op.ns s ⟨false, d⟩) := by
  have hkey : Task.key? op.ns ⟨false, d⟩ = some ⟨op.ns, name⟩ := by
    simp [Task.key?, Task.name?, hname]
  unfold settle
  rw [if_neg Bool.false_ne_true, Cluster.exec_bind, exec_deleteIfPresent op hname]
  cases hlive : s.daemonSets[ObjectKey.mk op.ns name]? with
  | none =>
    rw [settled_eq_self fun key hk => ?_]
    · rfl
    · cases hkey.symm.trans hk
      simp [Task.effect, Task.writes, hlive]
  | some live =>
    cases hmanaged : isManaged live with
    | true =>
      have heffect : Task.effect ⟨false, d⟩ s.daemonSets[ObjectKey.mk op.ns name]? = none := by
        simp [Task.effect, hlive, hmanaged]
      have hwrites : Task.writes ⟨op.ns, name⟩ ⟨false, d⟩
          s.daemonSets[ObjectKey.mk op.ns name]? = [.delete op.ns name] := by
        simp [Task.writes, hlive, hmanaged]
      simp only [settled, Task.due, hkey, hwrites, alter_eq_erase heffect, Option.any_some,
        hmanaged, if_true, Store.note, exec_pure]
    | false =>
      rw [settled_eq_self fun key hk => ?_]
      · simp [hmanaged]
      · cases hkey.symm.trans hk
        simp [Task.effect, Task.writes, hlive, hmanaged]

/-- A task in the operator's namespace does what it says, if a wanted DaemonSet has a name. -/
theorem exec_settle (op : Operator) (t : Task) (hns : t.daemonSet.metadata.ns = some op.ns)
    (hname : t.wanted = true → t.daemonSet.metadata.name ≠ none) (s : Store) :
    exec (op.settle t.wanted t.daemonSet) s = (.ok (), settled op.ns s t) := by
  obtain ⟨wanted, d⟩ := t
  simp only at hns hname
  cases hd : d.metadata.name with
  | none =>
    cases wanted with
    | true => exact absurd hd (hname rfl)
    | false => simp [settle, deleteIfPresent, settled, Task.key?, Task.name?, hd]
  | some name =>
    cases wanted with
    | true => exact exec_settle_wanted op hns hd s
    | false => exact exec_settle_unwanted op hd s

/-! ## Many tasks -/

/-- The cluster after tasks in their order. -/
def settledAll (ns : String) (s : Store) (ts : List Task) : Store := ts.foldl (settled ns) s

/-- Every key is named by one task at most. -/
def Distinct (ts : List Task) : Prop := (ts.filterMap Task.name?).Nodup

variable {ns : String} {s : Store} {t : Task} {ts : List Task} {key : ObjectKey}

theorem settledAll_append (us : List Task) :
    settledAll ns s (ts ++ us) = settledAll ns (settledAll ns s ts) us := List.foldl_append

theorem getElem?_settled_of_eq (h : t.key? ns = some key) :
    (settled ns s t).daemonSets[key]? = t.effect s.daemonSets[key]? := by
  simp [settled, h]

theorem getElem?_settled_of_ne (h : t.key? ns ≠ some key) :
    (settled ns s t).daemonSets[key]? = s.daemonSets[key]? := by
  unfold settled
  cases hkey : t.key? ns with
  | none => rfl
  | some k =>
    have hne : k ≠ key := by
      rintro rfl
      exact h hkey
    simp [Std.ExtTreeMap.getElem?_alter, hne]

theorem log_settled : (settled ns s t).log = s.log ++ t.due ns s := by
  unfold settled Task.due
  cases t.key? ns with
  | none => simp
  | some k => rfl

/-- A key that no task names keeps its object. -/
theorem getElem?_settledAll_of_ne (h : ∀ t ∈ ts, t.key? ns ≠ some key) :
    (settledAll ns s ts).daemonSets[key]? = s.daemonSets[key]? := by
  induction ts generalizing s with
  | nil => rfl
  | cons t ts ih =>
    rw [settledAll, List.foldl_cons, ← settledAll,
      ih fun u hu => h u (List.mem_cons_of_mem _ hu),
      getElem?_settled_of_ne (h t List.mem_cons_self)]

private theorem key?_ne_of_distinct (h : Distinct (t :: ts)) (hkey : t.key? ns = some key) :
    ∀ u ∈ ts, u.key? ns ≠ some key := by
  intro u hu hkey'
  obtain ⟨name, hname, rfl⟩ := Option.map_eq_some_iff.mp hkey
  obtain ⟨name', hname', heq⟩ := Option.map_eq_some_iff.mp hkey'
  cases heq
  rw [Distinct, List.filterMap_cons_some hname] at h
  exact (List.nodup_cons.mp h).1 (List.mem_filterMap.mpr ⟨u, hu, hname'⟩)

private theorem distinct_tail (h : Distinct (t :: ts)) : Distinct ts := by
  unfold Distinct at *
  rw [List.filterMap_cons] at h
  split at h
  · exact h
  · exact (List.nodup_cons.mp h).2

/-- A key that a task names gets what the task makes of its object. -/
theorem getElem?_settledAll_of_mem (hdistinct : Distinct ts) (ht : t ∈ ts)
    (hkey : t.key? ns = some key) :
    (settledAll ns s ts).daemonSets[key]? = t.effect s.daemonSets[key]? := by
  induction ts generalizing s with
  | nil => cases ht
  | cons u ts ih =>
    rw [settledAll, List.foldl_cons, ← settledAll]
    rcases List.mem_cons.mp ht with rfl | ht
    · rw [getElem?_settledAll_of_ne (key?_ne_of_distinct hdistinct hkey),
        getElem?_settled_of_eq hkey]
    · have hne : u.key? ns ≠ some key := fun hu => key?_ne_of_distinct hdistinct hu t ht hkey
      rw [ih (distinct_tail hdistinct) ht, getElem?_settled_of_ne hne]

/-- What is due to a task does not hang on tasks of other names. -/
private theorem due_settled (hdistinct : Distinct (t :: ts)) :
    ∀ u ∈ ts, u.due ns (settled ns s t) = u.due ns s := by
  intro u hu
  unfold Task.due
  cases hkey : u.key? ns with
  | none => rfl
  | some k =>
    have hne : t.key? ns ≠ some k := fun ht => key?_ne_of_distinct hdistinct ht u hu hkey
    simp only [getElem?_settled_of_ne hne]

/-- The tasks write what is due to each in the cluster as they find it. -/
theorem log_settledAll (hdistinct : Distinct ts) :
    (settledAll ns s ts).log = s.log ++ ts.flatMap (Task.due ns s) := by
  induction ts generalizing s with
  | nil => simp [settledAll]
  | cons t ts ih =>
    rw [settledAll, List.foldl_cons, ← settledAll, ih (distinct_tail hdistinct), log_settled,
      List.flatMap_cons, List.append_assoc, List.flatMap_congr (due_settled hdistinct)]

/-- What tasks write one after another: what is due to each in the cluster as those before it leave
it. -/
def dueAll (ns : String) (s : Store) : List Task → List Write
  | [] => []
  | t :: ts => t.due ns s ++ dueAll ns (settled ns s t) ts

theorem log_settledAll_dueAll (ts : List Task) :
    (settledAll ns s ts).log = s.log ++ dueAll ns s ts := by
  induction ts generalizing s with
  | nil => exact (List.append_nil _).symm
  | cons t ts ih =>
    rw [settledAll, List.foldl_cons, ← settledAll, ih, log_settled, dueAll, List.append_assoc]

private theorem key?_of_mem_due {w : Write} (hns : t.daemonSet.metadata.ns = some ns)
    (hw : w ∈ t.due ns s) : w.key? = t.key? ns := by
  unfold Task.due at hw
  cases hkey : t.key? ns with
  | none => simp [hkey] at hw
  | some k =>
    obtain ⟨name, hname, rfl⟩ := Option.map_eq_some_iff.mp hkey
    simp only [hkey] at hw
    unfold Task.writes at hw
    split at hw
    · split at hw
      · cases hw
      · rw [List.mem_singleton.mp hw, Write.key?, ofDaemonSet_stamp hns hname]
    · split at hw
      · rw [List.mem_singleton.mp hw, Write.key?]
      · cases hw

/-- Nothing is written under a key that no task names. -/
theorem filter_due_of_ne (hns : ∀ t ∈ ts, t.daemonSet.metadata.ns = some ns)
    (h : ∀ t ∈ ts, t.key? ns ≠ some key) :
    (ts.flatMap (Task.due ns s)).filter (·.key? = some key) = [] := by
  refine List.filter_eq_nil_iff.mpr fun w hw => ?_
  obtain ⟨t, ht, hw⟩ := List.mem_flatMap.mp hw
  rw [key?_of_mem_due (hns t ht) hw, decide_eq_true_iff]
  exact h t ht

/-- Under a key that a task names, exactly what is due to that task is written. -/
theorem filter_due_of_mem (hns : ∀ t ∈ ts, t.daemonSet.metadata.ns = some ns)
    (hdistinct : Distinct ts) (ht : t ∈ ts) (hkey : t.key? ns = some key) :
    (ts.flatMap (Task.due ns s)).filter (·.key? = some key) = t.due ns s := by
  induction ts with
  | nil => cases ht
  | cons u ts ih =>
    simp only [List.forall_mem_cons] at hns
    rw [List.flatMap_cons, List.filter_append]
    by_cases hu : u.key? ns = some key
    · have htu : t = u := by
        rcases List.mem_cons.mp ht with rfl | ht
        · rfl
        · exact absurd hkey (key?_ne_of_distinct hdistinct hu t ht)
      subst htu
      rw [filter_due_of_ne hns.2 (key?_ne_of_distinct hdistinct hu), List.append_nil]
      refine List.filter_eq_self.mpr fun w hw => ?_
      rw [key?_of_mem_due hns.1 hw, decide_eq_true_iff]
      exact hu
    · have htail : t ∈ ts := by
        rcases List.mem_cons.mp ht with rfl | ht
        · exact absurd hkey hu
        · exact ht
      have hnone : (u.due ns s).filter (·.key? = some key) = [] := by
        refine List.filter_eq_nil_iff.mpr fun w hw => ?_
        rw [key?_of_mem_due hns.1 hw, decide_eq_true_iff]
        exact hu
      rw [ih hns.2 (distinct_tail hdistinct) htail, hnone, List.nil_append]

theorem settled_frame (ns : String) (s : Store) (t : Task) :
    (settled ns s t).nodes = s.nodes ∧ (settled ns s t).policies = s.policies ∧
      (settled ns s t).stamps = s.stamps := by
  unfold settled
  cases t.key? ns <;> exact ⟨rfl, rfl, rfl⟩

/-- The tasks leave everything but DaemonSets alone. -/
theorem settledAll_frame :
    (settledAll ns s ts).nodes = s.nodes ∧ (settledAll ns s ts).policies = s.policies ∧
      (settledAll ns s ts).stamps = s.stamps := by
  induction ts generalizing s with
  | nil => exact ⟨rfl, rfl, rfl⟩
  | cons t ts ih =>
    obtain ⟨hnodes, hpolicies, hstamps⟩ := settled_frame ns s t
    rw [← hnodes, ← hpolicies, ← hstamps]
    exact ih

/-! ## Tasks done before -/

/-- The fingerprint that a live object carries. -/
def carried (live : Option DaemonSet) : Option String :=
  (live.bind (·.metadata.annotations)).bind (·[Drift.fingerprintKey]?)

theorem decided_eq_skip_iff {d : DaemonSet} {live : Option DaemonSet} :
    decided d live = .skip ↔ carried live = some (Drift.fingerprint d) := by
  unfold decided Drift.decision carried
  split <;> simp_all

theorem carried_stamp (d : DaemonSet) :
    carried (some (Drift.stamp d)) = some (Drift.fingerprint d) := by
  simp [carried, Drift.stamp, DaemonSet.annotate]

/-- Once a wanted DaemonSet is settled, the live object carries its fingerprint. -/
theorem carried_effect (h : t.wanted = true) (live : Option DaemonSet) :
    carried (t.effect live) = some (Drift.fingerprint t.daemonSet) := by
  rw [Task.effect, if_pos h]
  cases hdec : decided t.daemonSet live with
  | skip => exact decided_eq_skip_iff.mp hdec
  | apply => exact carried_stamp t.daemonSet

/-- A task after another one of the same kind and name applies its DaemonSet where that is wanted
and has another fingerprint, and writes nothing else. -/
theorem writes_effect {u : Task} (hwanted : u.wanted = t.wanted) (live : Option DaemonSet) :
    u.writes key (t.effect live) =
      if t.wanted = true ∧ Drift.fingerprint u.daemonSet ≠ Drift.fingerprint t.daemonSet then
        [.apply (Drift.stamp u.daemonSet)]
      else [] := by
  cases ht : t.wanted with
  | true =>
    have hcarried := carried_effect ht live
    rw [Task.writes, hwanted, if_pos ht]
    cases hdec : decided u.daemonSet (t.effect live) with
    | skip =>
      have hskip := decided_eq_skip_iff.mp hdec
      rw [hcarried, Option.some.injEq] at hskip
      simp [hskip]
    | apply =>
      have hne : Drift.fingerprint u.daemonSet ≠ Drift.fingerprint t.daemonSet := by
        intro heq
        rw [decided_eq_skip_iff.mpr (hcarried.trans (congrArg some heq.symm))] at hdec
        cases hdec
      simp [hne]
  | false =>
    have hlive : (t.effect live).any isManaged = false := by
      simp only [Task.effect, ht, Bool.false_eq_true, if_false]
      cases live with
      | none => rfl
      | some d => cases isManaged d <;> simp
    simp [Task.writes, hwanted, ht, hlive]

/-- Where a task writes nothing, it changes nothing. -/
theorem effect_of_writes_eq_nil {live : Option DaemonSet} (h : t.writes key live = []) :
    t.effect live = live := by
  unfold Task.writes at h
  unfold Task.effect
  split at h
  · next hwanted =>
    rw [if_pos hwanted]
    cases hdec : decided t.daemonSet live with
    | skip => rfl
    | apply => simp [hdec] at h
  · next hwanted =>
    rw [if_neg hwanted]
    cases live with
    | none => rfl
    | some d =>
      cases hd : isManaged d with
      | true => simp [hd] at h
      | false => simp [hd]

/-- Tasks to which nothing is due do nothing. -/
theorem settledAll_eq_self (h : ∀ t ∈ ts, t.due ns s = []) : settledAll ns s ts = s := by
  induction ts with
  | nil => rfl
  | cons t ts ih =>
    have hself : settled ns s t = s := by
      refine settled_eq_self fun key hkey => ?_
      have hdue := h t List.mem_cons_self
      simp only [Task.due, hkey] at hdue
      exact ⟨effect_of_writes_eq_nil hdue, hdue⟩
    rw [settledAll, List.foldl_cons, hself]
    exact ih fun u hu => h u (List.mem_cons_of_mem _ hu)

/-- In a cluster with the DaemonSets that tasks have left, the same tasks do nothing. -/
theorem settledAll_again {u : Store} (hdistinct : Distinct ts)
    (hu : u.daemonSets = (settledAll ns s ts).daemonSets) : settledAll ns u ts = u := by
  refine settledAll_eq_self fun t ht => ?_
  unfold Task.due
  cases hkey : t.key? ns with
  | none => rfl
  | some key =>
    simp only [hu, getElem?_settledAll_of_mem hdistinct ht hkey]
    rw [writes_effect rfl, if_neg fun h => h.2 rfl]

end Operator

end GpuFleet
