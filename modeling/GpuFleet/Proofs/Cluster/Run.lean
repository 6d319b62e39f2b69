import GpuFleet.Cluster.Store

/-!
Computations on a cluster, run step by step. A computation that succeeds is taken apart into its
steps, each with the state that it starts from.
-/
namespace GpuFleet.Cluster

open Kube (DaemonSet)

variable {σ α β : Type}

/-- The result of a computation, and the state that it leaves. -/
def exec (act : Run σ α) (s : σ) : Except Failure α × σ := act.run.run s

@[simp] theorem exec_pure (a : α) (s : σ) : exec (pure a) s = (.ok a, s) := rfl

@[simp] theorem exec_throw (e : Failure) (s : σ) :
    exec (throw e : Run σ α) s = (.error e, s) := rfl

@[simp] theorem exec_get (s : σ) : exec (get : Run σ σ) s = (.ok s, s) := rfl

@[simp] theorem exec_modify (f : σ → σ) (s : σ) :
    exec (modify f : Run σ PUnit) s = (.ok (), f s) := rfl

theorem exec_bind (act : Run σ α) (next : α → Run σ β) (s : σ) :
    exec (act >>= next) s =
      match exec act s with
      | (.ok a, t) => exec (next a) t
      | (.error e, t) => (.error e, t) := by
  change (match exec act s with
    | (r, t) => (ExceptT.bindCont next r).run t) = _
  obtain ⟨r, t⟩ := exec act s
  cases r <;> rfl

theorem exec_tryCatch (act : Run σ α) (handler : Failure → Run σ α) (s : σ) :
    exec (tryCatch act handler) s =
      match exec act s with
      | (.ok a, t) => (.ok a, t)
      | (.error e, t) => exec (handler e) t := by
  simp only [exec, tryCatch, tryCatchThe, MonadExceptOf.tryCatch, ExceptT.tryCatch, ExceptT.run_mk,
    StateT.run_bind]
  rw [show StateT.run act s = act.run.run s from rfl]
  rcases act.run.run s with ⟨_ | _, t⟩ <;> rfl

/-- A step that succeeds is followed by the rest. -/
theorem exec_bind_of_ok {act : Run σ α} {s t : σ} {a : α} (h : exec act s = (.ok a, t))
    (next : α → Run σ β) : exec (act >>= next) s = exec (next a) t := by
  rw [exec_bind, h]

/-- A step that fails is the last one. -/
theorem exec_bind_of_error {act : Run σ α} {s t : σ} {e : Failure}
    (h : exec act s = (.error e, t)) (next : α → Run σ β) :
    exec (act >>= next) s = (.error e, t) := by
  rw [exec_bind, h]

/-- Where the whole succeeds, every step does. -/
theorem exec_bind_ok {act : Run σ α} {next : α → Run σ β} {s u : σ} {b : β}
    (h : exec (act >>= next) s = (.ok b, u)) :
    ∃ a t, exec act s = (.ok a, t) ∧ exec (next a) t = (.ok b, u) := by
  rw [exec_bind] at h
  rcases hact : exec act s with ⟨a | e, t⟩
  · simp [hact] at h
  · exact ⟨_, t, rfl, by simpa [hact] using h⟩

/-- A computation for each item succeeds exactly as the composition of its effects does. -/
theorem exec_forM_eq {f : α → Run σ PUnit} {effect : α → σ → σ} (items : List α) (s : σ)
    (h : ∀ a ∈ items, ∀ t, exec (f a) t = (.ok (), effect a t)) :
    exec (items.forM f) s = (.ok (), items.foldl (fun t a => effect a t) s) := by
  induction items generalizing s with
  | nil => rfl
  | cons a items ih =>
    rw [List.forM_eq_forM, List.forM_cons, exec_bind_of_ok (h a List.mem_cons_self s)]
    exact ih _ fun b hb => h b (List.mem_cons_of_mem _ hb)

/-- A computation for each item fails at the first item for which it does, in the state that those
before it leave. -/
theorem exec_forM_stops {f : α → Run σ PUnit} {effect : α → σ → σ} {before : List α} {a : α}
    {s t : σ} {e : Failure} (h : ∀ b ∈ before, ∀ t, exec (f b) t = (.ok (), effect b t))
    (hstop : exec (f a) (before.foldl (fun t b => effect b t) s) = (.error e, t))
    (rest : List α) : exec ((before ++ a :: rest).forM f) s = (.error e, t) := by
  rw [List.forM_eq_forM, List.forM_append, ← List.forM_eq_forM,
    exec_bind_of_ok (exec_forM_eq before s h), List.forM_eq_forM, List.forM_cons,
    exec_bind_of_error hstop]

/-- Where the computations for all items succeed, each does in some state. -/
theorem exec_forM_ok {f : α → Run σ PUnit} {items : List α} {s u : σ}
    (h : exec (items.forM f) s = (.ok (), u)) :
    ∀ a ∈ items, ∃ t v, exec (f a) t = (.ok (), v) := by
  induction items generalizing s with
  | nil => exact fun _ ha => absurd ha List.not_mem_nil
  | cons a items ih =>
    rw [List.forM_eq_forM, List.forM_cons] at h
    obtain ⟨⟨⟩, t, hfirst, hrest⟩ := exec_bind_ok h
    intro b hb
    rcases List.mem_cons.mp hb with rfl | hb
    · exact ⟨s, t, hfirst⟩
    · exact ih hrest b hb

/-! ## Calls to a cluster in memory -/

namespace Store

variable (s : Store)

theorem exec_listNodes : exec Server.listNodes s = (.ok s.nodes.values, s) := rfl

theorem exec_listPolicies : exec Server.listPolicies s = (.ok s.policies.values, s) := rfl

theorem exec_patchNodeLabels {s : Store} {name : String} {n : Kube.Node}
    (h : s.nodes[name]? = some n) (patch : NodeLabels.Patch) :
    exec (Server.patchNodeLabels name patch) s =
      (.ok (), { s with nodes := s.nodes.insert name (n.mapLabels patch.apply) }.note
        (.nodeLabels name patch)) := by
  simp only [Server.patchNodeLabels, exec_bind, exec_get, h, exec_modify]

theorem exec_getDaemonSet? (ns name : String) :
    exec (Server.getDaemonSet? ns name) s = (.ok s.daemonSets[ObjectKey.mk ns name]?, s) := rfl

theorem exec_applyDaemonSet (d : DaemonSet) :
    exec (Server.applyDaemonSet d) s = (.ok (), (s.putDaemonSet d).note (.apply d)) := rfl

theorem exec_deleteDaemonSet (ns name : String) :
    exec (Server.deleteDaemonSet ns name) s =
      (.ok (), { s with daemonSets := s.daemonSets.erase ⟨ns, name⟩ }.note (.delete ns name)) := rfl

theorem exec_writeStatus {s : Store} {name : String} {p : Policy.ClusterPolicy}
    (h : s.policies[name]? = some p) (report : Policy.Report) :
    exec (Server.writeStatus name report) s =
      (.ok (),
        { s.tick report with
          policies := s.policies.insert name
            { p with status := some (report.written (s.tick report).time) } }.note
          (.status name report)) := by
  have hpolicies : (s.tick report).policies = s.policies := by
    unfold tick
    split <;> rfl
  simp only [Server.writeStatus, exec_bind, exec_get, exec_modify, hpolicies, h]
  rfl

end Store

end GpuFleet.Cluster
