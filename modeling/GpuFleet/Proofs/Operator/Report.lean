import GpuFleet.Operator.Pass
import GpuFleet.Proofs.Cluster.Listing
import GpuFleet.Proofs.Cluster.Run

/-!
Reports on policies. A report changes nothing but the status of its policy, and once it is written
the same report is not due again.
-/
namespace GpuFleet

namespace Policy.Status

/-- A status that has been written for a report is up to date with it. -/
theorem isOutdated_written {current : Option Status} {state : State} {ns : String}
    {error : Option String} {r : Report} (h : report? current state ns error = some r)
    (time : Instant) : isOutdated (some (r.written time)) state ns error = false := by
  unfold report? at h
  split at h
  · cases h
    simp [isOutdated, Report.written]
  · cases h

theorem isOutdated_eq_false_iff {current : Option Status} {state : State} {ns : String}
    {error : Option String} :
    isOutdated current state ns error = false ↔
      ∃ status, current = some status ∧ status.state = state ∧ status.ns = some ns ∧
        status.error = error := by
  cases current with
  | none => simp [isOutdated]
  | some status => simp [isOutdated, and_assoc]

theorem report?_eq_none_iff {current : Option Status} {state : State} {ns : String}
    {error : Option String} :
    report? current state ns error = none ↔ isOutdated current state ns error = false := by
  unfold report?
  cases isOutdated current state ns error <;> simp

end Policy.Status

namespace Operator

open Cluster (Store exec)
open Policy (ClusterPolicy State Status)

variable (op : Operator) (p : ClusterPolicy) (state : State) (error : Option String) (s : Store)

/-- The policy as a report on it leaves it. -/
def told : ClusterPolicy :=
  match Status.report? p.status state op.ns error with
  | none => p
  | some r => { p with status := some (r.written (s.tick r).time) }

/-- The cluster after a report on a policy. -/
def reported : Store :=
  match Status.report? p.status state op.ns error with
  | none => s
  | some r =>
    { s.tick r with policies := s.policies.insert p.name (op.told p state error s) }.note
      (.status p.name r)

theorem exec_report {s : Store} (hstored : s.policies[p.name]? = some p) :
    exec (op.report p state error) s = (.ok (), op.reported p state error s) := by
  unfold report reported told
  cases hreport : Status.report? p.status state op.ns error with
  | none => rfl
  | some r => exact Store.exec_writeStatus hstored r

/-! ## The policy -/

theorem told_metadata : (op.told p state error s).metadata = p.metadata := by
  unfold told
  split <;> rfl

theorem told_spec : (op.told p state error s).spec = p.spec := by
  unfold told
  split <;> rfl

theorem told_name : (op.told p state error s).name = p.name := by
  rw [ClusterPolicy.name, told_metadata, ← ClusterPolicy.name]

/-- A policy that has been told something need not be told so again. -/
theorem not_outdated_told :
    Status.isOutdated (op.told p state error s).status state op.ns error = false := by
  unfold told
  cases hreport : Status.report? p.status state op.ns error with
  | some r => exact Status.isOutdated_written hreport _
  | none => exact Status.report?_eq_none_iff.mp hreport

/-- A policy that has been told something has it in its status. -/
theorem status_told : ∃ status, (op.told p state error s).status = some status ∧
    status.state = state ∧ status.ns = some op.ns ∧ status.error = error :=
  Status.isOutdated_eq_false_iff.mp (not_outdated_told op p state error s)

/-! ## The cluster -/

theorem reported_nodes : (op.reported p state error s).nodes = s.nodes := by
  unfold reported Store.tick
  split
  · rfl
  · split <;> rfl

theorem reported_daemonSets : (op.reported p state error s).daemonSets = s.daemonSets := by
  unfold reported Store.tick
  split
  · rfl
  · split <;> rfl

theorem reported_of_not_outdated {s : Store}
    (h : Status.isOutdated p.status state op.ns error = false) :
    op.reported p state error s = s := by
  rw [reported, Status.report?_eq_none_iff.mpr h]

variable {s}

theorem getElem?_reported_self (hstored : s.policies[p.name]? = some p) :
    (op.reported p state error s).policies[p.name]? = some (op.told p state error s) := by
  unfold reported told
  cases hreport : Status.report? p.status state op.ns error with
  | none => exact hstored
  | some r => simp [Store.note]

theorem getElem?_reported_of_ne {key : String} (h : key ≠ p.name) :
    (op.reported p state error s).policies[key]? = s.policies[key]? := by
  unfold reported
  split
  · rfl
  · simp [Store.note, Std.ExtTreeMap.getElem?_insert, Ne.symm h]

/-- The metadata of the listed policies stay the same. -/
theorem metadata_reported (hstored : s.policies[p.name]? = some p) :
    (op.reported p state error s).policies.values.map (·.metadata) =
      s.policies.values.map (·.metadata) := by
  rw [← Cluster.values_map, ← Cluster.values_map]
  congr 1
  refine Std.ExtTreeMap.ext_getElem? fun key => ?_
  rw [Std.ExtTreeMap.getElem?_map, Std.ExtTreeMap.getElem?_map]
  by_cases hkey : key = p.name
  · rw [hkey, getElem?_reported_self op p state error hstored, hstored, Option.map_some,
      Option.map_some, told_metadata]
  · rw [getElem?_reported_of_ne op p state error hkey]

end Operator

end GpuFleet
