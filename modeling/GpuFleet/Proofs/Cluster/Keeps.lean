import GpuFleet.Cluster.Rehearsal
import GpuFleet.Proofs.Cluster.Run

/-!
What a computation on a cluster keeps, whether it succeeds or fails. An invariant that each call
keeps is kept by whatever is composed of calls, so that nothing need be known of the order in which
they are made. For a cluster in memory it is enough to look at the few things that a call can do.
-/
namespace GpuFleet.Cluster

open Kube (DaemonSet Node)
open Policy (ClusterPolicy Report)

variable {σ α β : Type} {I : σ → Prop}

/-- The invariant holds after the computation if it has held before, however it has ended. -/
def Keeps (I : σ → Prop) (act : Run σ α) : Prop := ∀ s, I s → I (exec act s).2

namespace Keeps

theorem pure (a : α) : Keeps I (Pure.pure a : Run σ α) := fun _ h => h

theorem throw (e : Failure) : Keeps I (MonadExcept.throw e : Run σ α) := fun _ h => h

theorem bind {act : Run σ α} {next : α → Run σ β} (hact : Keeps I act)
    (hnext : ∀ a, Keeps I (next a)) : Keeps I (act >>= next) := by
  intro s hs
  rw [exec_bind]
  have ht := hact s hs
  rcases hexec : exec act s with ⟨e | a, t⟩ <;> rw [hexec] at ht
  · exact ht
  · exact hnext a t ht

theorem tryCatch {act : Run σ α} {handler : Failure → Run σ α} (hact : Keeps I act)
    (hhandler : ∀ e, Keeps I (handler e)) : Keeps I (tryCatch act handler) := by
  intro s hs
  rw [exec_tryCatch]
  have ht := hact s hs
  rcases hexec : exec act s with ⟨e | a, t⟩ <;> rw [hexec] at ht
  · exact hhandler e t ht
  · exact ht

theorem forM {items : List α} {f : α → Run σ PUnit} (h : ∀ a, Keeps I (f a)) :
    Keeps I (items.forM f) := by
  induction items with
  | nil => exact pure ()
  | cons a items ih => exact bind (h a) fun _ => ih

end Keeps

/-! ## Calls -/

/-- The invariant is kept by every call that is made to carry out a policy. -/
structure KeptByWork [Server σ] (I : σ → Prop) : Prop where
  listNodes : Keeps I (Server.listNodes : Run σ (List Node))
  patchNodeLabels : ∀ name patch, Keeps I (Server.patchNodeLabels name patch : Run σ Unit)
  getDaemonSet? : ∀ ns name, Keeps I (Server.getDaemonSet? ns name : Run σ (Option DaemonSet))
  applyDaemonSet : ∀ d, Keeps I (Server.applyDaemonSet d : Run σ Unit)
  deleteDaemonSet : ∀ ns name, Keeps I (Server.deleteDaemonSet ns name : Run σ Unit)

/-- The invariant is kept by every call that is made in a pass for a policy. -/
structure KeptByCalls [Server σ] (I : σ → Prop) (policy : String) : Prop extends KeptByWork I where
  listPolicies : Keeps I (Server.listPolicies : Run σ (List ClusterPolicy))
  writeStatus : ∀ report, Keeps I (Server.writeStatus policy report : Run σ Unit)

namespace Store

/-- What a call that is made to carry out a policy can do to a cluster in memory. -/
inductive Work (s : Store) : Store → Prop
  | idle : Work s s
  | patched (name : String) (n : Node) (patch : NodeLabels.Patch) : s.nodes[name]? = some n →
      Work s ({ s with nodes := s.nodes.insert name (n.mapLabels patch.apply) }.note
        (.nodeLabels name patch))
  | applied (d : DaemonSet) : Work s ((s.putDaemonSet d).note (.apply d))
  | deleted (ns name : String) :
      Work s ({ s with daemonSets := s.daemonSets.erase ⟨ns, name⟩ }.note (.delete ns name))

/-- What a report on a policy can do to a cluster in memory. -/
inductive Telling (policy : String) (s : Store) : Store → Prop
  /-- There is no such policy. -/
  | missed (report : Report) : Telling policy s (s.tick report)
  | written (report : Report) (p : ClusterPolicy) : s.policies[policy]? = some p →
      Telling policy s ({ s.tick report with
        policies := s.policies.insert policy
          { p with status := some (report.written (s.tick report).time) } }.note
            (.status policy report))

theorem policies_tick (s : Store) (report : Report) : (s.tick report).policies = s.policies := by
  unfold tick
  split <;> rfl

theorem log_tick (s : Store) (report : Report) : (s.tick report).log = s.log := by
  unfold tick
  split <;> rfl

theorem exec_patchNodeLabels_work (s : Store) (name : String) (patch : NodeLabels.Patch) :
    s.Work (exec (Server.patchNodeLabels name patch) s).2 := by
  cases h : s.nodes[name]? with
  | none =>
    have hexec : exec (Server.patchNodeLabels name patch) s =
        (.error (.misconfigured (.unknownNode name)), s) := by
      simp only [Server.patchNodeLabels, exec_bind, exec_get, h, exec_throw]
    rw [hexec]
    exact .idle
  | some n =>
    rw [exec_patchNodeLabels h]
    exact .patched name n patch h

theorem exec_writeStatus_telling (s : Store) (policy : String) (report : Report) :
    s.Telling policy (exec (Server.writeStatus policy report) s).2 := by
  cases h : s.policies[policy]? with
  | none =>
    have hexec : exec (Server.writeStatus policy report) s =
        (.error (.misconfigured (.unknownPolicy policy)), s.tick report) := by
      simp only [Server.writeStatus, exec_bind, exec_get, exec_modify, policies_tick, h, exec_throw]
    rw [hexec]
    exact .missed report
  | some p =>
    rw [exec_writeStatus h]
    exact .written report p h

variable {I : Store → Prop} {policy : String}

theorem keptByWork (h : ∀ s t, s.Work t → I s → I t) : KeptByWork I where
  listNodes _ hs := hs
  patchNodeLabels name patch s hs := h s _ (exec_patchNodeLabels_work s name patch) hs
  getDaemonSet? _ _ _ hs := hs
  applyDaemonSet d s hs := h s _ (.applied d) hs
  deleteDaemonSet ns name s hs := h s _ (.deleted ns name) hs

theorem keptByCalls (hwork : ∀ s t, s.Work t → I s → I t)
    (htelling : ∀ s t, s.Telling policy t → I s → I t) : KeptByCalls I policy where
  toKeptByWork := keptByWork hwork
  listPolicies _ hs := hs
  writeStatus report s hs := htelling s _ (exec_writeStatus_telling s policy report) hs

end Store

/-! ## Calls that may go unanswered -/

namespace Rehearsal

variable {I : Store → Prop} {policy : String}

/-- A call that is answered is one to the store. -/
theorem exec_guarded {act : Run Store α} {call : Call} {r : Rehearsal}
    (h : r.outages call = 0) : exec (guarded call act) r =
      ((exec act r.store).1, { r with store := (exec act r.store).2 }) := by
  unfold guarded
  rw [exec_bind_of_ok (exec_get r), h]
  unfold exec
  rcases act.run.run r.store with ⟨e | a, t⟩ <;> rfl

theorem keeps_guarded {act : Run Store α} (h : Keeps I act) (call : Call) :
    Keeps (fun r : Rehearsal => I r.store) (guarded call act) := by
  intro r hr
  cases houtages : r.outages call with
  | zero =>
    rw [exec_guarded houtages]
    exact h r.store hr
  | succ times =>
    unfold guarded
    rw [exec_bind_of_ok (exec_get r), houtages]
    exact hr

/-- What calls to the store keep, calls to it that may fail keep as well. -/
theorem keptByCalls (h : KeptByCalls I policy) :
    KeptByCalls (fun r : Rehearsal => I r.store) policy where
  listNodes := keeps_guarded h.listNodes _
  patchNodeLabels name patch := keeps_guarded (h.patchNodeLabels name patch) _
  getDaemonSet? ns name := keeps_guarded (h.getDaemonSet? ns name) _
  applyDaemonSet d := keeps_guarded (h.applyDaemonSet d) _
  deleteDaemonSet ns name := keeps_guarded (h.deleteDaemonSet ns name) _
  listPolicies := keeps_guarded h.listPolicies _
  writeStatus report := keeps_guarded (h.writeStatus report) _

/-- Policies are listed as they are stored, if the call is answered. -/
theorem eq_of_exec_listPolicies {r t : Rehearsal} {ps : List ClusterPolicy}
    (h : exec Server.listPolicies r = (.ok ps, t)) : ps = r.store.policies.values := by
  change exec (guarded .listPolicies Server.listPolicies) r = (.ok ps, t) at h
  cases houtages : r.outages .listPolicies with
  | zero =>
    rw [exec_guarded houtages] at h
    cases h
    rfl
  | succ times =>
    rw [guarded, exec_bind_of_ok (exec_get r), houtages] at h
    cases h

end Rehearsal

end GpuFleet.Cluster
