import GpuFleet.Proofs.Operator.Turns
import GpuFleet.Proofs.Watch.Acts

/-!
The policy that the operator ought to attend to. A policy that is ignored awaits a change of its
own, or of a node. That another policy goes is neither; so the one that comes to be in charge then
is left as it is, with no pass ahead.
-/
namespace GpuFleet

namespace Operator

open Cluster (Rehearsal exec)
open Policy (ClusterPolicy isInCharge)

/-- A pass that ends with its policy ignored has found another one in charge. -/
theorem not_isInCharge_of_exec_pass {op : Operator} {p : ClusterPolicy} {r t : Rehearsal}
    (h : exec (op.pass p) r = (.ok .ignored, t)) :
    ∃ name, p.metadata.name = some name ∧ isInCharge r.store.policies.values name = false := by
  unfold pass at h
  cases hname : p.metadata.name with
  | none =>
    rw [hname] at h
    cases h
  | some name =>
    rw [hname] at h
    refine ⟨name, rfl, Bool.not_eq_true _ ▸ fun hcharge => ?_⟩
    simp only at h
    obtain ⟨ps, s, hlist, h⟩ := Cluster.exec_bind_ok h
    rw [Rehearsal.eq_of_exec_listPolicies hlist, ← isInCharge, hcharge] at h
    simp only [Bool.not_true, Bool.false_eq_true, if_false] at h
    cases hrejection : p.spec.rejection? with
    | some reason =>
      rw [hrejection] at h
      simp only [pure_bind] at h
      obtain ⟨_, u, _, h⟩ := Cluster.exec_bind_ok h
      cases h
    | none =>
      rw [hrejection] at h
      simp only [pure_bind] at h
      obtain ⟨_, u, _, h⟩ := Cluster.exec_bind_ok h
      obtain ⟨_, v, _, h⟩ := Cluster.exec_bind_ok h
      cases h

/-- A pass ignores a policy while another one is in charge, if its calls are answered. -/
theorem exec_pass_of_not_isInCharge {op : Operator} {p : ClusterPolicy} {r : Rehearsal}
    {name : String} (hanswered : ∀ call, r.outages call = 0)
    (hstored : r.store.policies[p.name]? = some p) (hname : p.metadata.name = some name)
    (hcharge : isInCharge r.store.policies.values name = false) :
    exec (op.pass p) r =
      (.ok .ignored, { r with store := op.reported p .ignored none r.store }) := by
  have hlist : exec Cluster.Server.listPolicies r = (.ok r.store.policies.values, r) :=
    Rehearsal.exec_guarded (hanswered _)
  have hreport : exec (op.report p .ignored none) r =
      (.ok (), { r with store := op.reported p .ignored none r.store }) := by
    unfold report reported told
    cases Policy.Status.report? p.status .ignored op.ns none with
    | none => rfl
    | some report =>
      refine (Rehearsal.exec_guarded (hanswered _)).trans ?_
      rw [Cluster.Store.exec_writeStatus hstored report]
  unfold pass
  rw [hname]
  simp only
  rw [Cluster.exec_bind_of_ok hlist, ← isInCharge, hcharge]
  simp only [Bool.not_false, if_true, pure_bind]
  rw [Cluster.exec_bind_of_ok hreport, Cluster.exec_pure]

end Operator

namespace Watch.Watcher

open Cluster (Store Rehearsal exec)
open Policy (ClusterPolicy isInCharge)

variable {w v u : Watcher Rehearsal} {act : Act} {acts : List Act} {key : String}

/-! ## Policies that nothing asks for -/

theorem Step.not_mem_schedule (h : Step w act v) (hquiet : act.asksFor key = false)
    (hkey : key ∉ w.schedule) : key ∉ v.schedule := by
  cases h with
  | event time e =>
    rw [mem_schedule_hear, not_or]
    exact ⟨hkey, fun hasks => Bool.false_ne_true (hquiet.symm.trans hasks.1)⟩
  | outage call times => exact hkey
  | pass time hother =>
    rwa [mem_schedule_runPass_of_ne (ne_of_mem_of_not_mem hother hkey).symm]

theorem Run.not_mem_schedule (h : Run w acts v) (hquiet : ∀ act ∈ acts, act.asksFor key = false)
    (hkey : key ∉ w.schedule) : key ∉ v.schedule :=
  h.keeps (fun _ _ _ hstep => hstep.not_mem_schedule) hquiet hkey

/-- No act brings a policy without asking for it. -/
theorem Step.not_mem_copies (h : Step w act v) (hquiet : act.asksFor key = false)
    (hcopy : key ∉ w.copies) : key ∉ v.copies := by
  cases h with
  | event time e => exact fun hmem => hcopy (mem_copies_of_hear hquiet hmem)
  | outage call times => exact hcopy
  | pass time _ =>
    rw [copies_runPass]
    exact hcopy

theorem Run.not_mem_copies (h : Run w acts v) (hquiet : ∀ act ∈ acts, act.asksFor key = false)
    (hcopy : key ∉ w.copies) : key ∉ v.copies :=
  h.keeps (fun _ _ _ hstep => hstep.not_mem_copies) hquiet hcopy

/-- A policy that is there in the end, and that no act has asked for, has not been touched. -/
theorem Run.not_touched (h : Run w acts v) (hquiet : ∀ act ∈ acts, act.asksFor key = false)
    (hcopy : key ∈ v.copies) : ∀ act ∈ acts, act.touches key = false := by
  induction h with
  | nil w => exact List.forall_mem_nil _
  | @cons w v u act acts hstep hrest ih =>
    rw [List.forall_mem_cons] at hquiet ⊢
    refine ⟨?_, ih hquiet.2 hcopy⟩
    cases hstep with
    | event time e =>
      cases e with
      | nodeSeen n | nodeGone n => rfl
      | policySeen p => exact hquiet.1
      | policyGone p =>
        refine beq_eq_false_iff_ne.mpr fun hname => hrest.not_mem_copies hquiet.2 ?_ hcopy
        simp [hear, ← hname]
    | outage call times => rfl
    | pass time _ => rfl

theorem Step.metadata (h : Step w act v) (htouched : act.touches key = false) :
    v.cluster.store.metadata[key]? = w.cluster.store.metadata[key]? := by
  cases h with
  | event time e =>
    rw [store_hear, Store.getElem?_metadata, Event.policies_effect htouched,
      ← Store.getElem?_metadata]
  | outage call times => rfl
  | pass time _ => rw [metadata_runPass]

theorem Run.metadata (h : Run w acts v) (htouched : ∀ act ∈ acts, act.touches key = false) :
    v.cluster.store.metadata[key]? = w.cluster.store.metadata[key]? :=
  h.keeps (I := fun u => u.cluster.store.metadata[key]? = w.cluster.store.metadata[key]?)
    (fun _ _ _ hstep hact => (hstep.metadata hact).trans) htouched rfl

/-! ## Policies that are not scheduled -/

/-- A policy that is there without being scheduled has been so before the act, unless the act is the
pass by which it is ignored. -/
theorem Step.unscheduled (h : Step w act v) (hcopy : key ∈ v.copies) (hkey : key ∉ v.schedule) :
    (key ∈ w.copies ∧ key ∉ w.schedule ∧ act.asksFor key = false) ∨
      ∃ time, act = .pass time key ∧ v = w.runPass time key ∧
        w.outcome? key = some (.ok .ignored) := by
  cases h with
  | event time e =>
    rw [mem_schedule_hear, not_or] at hkey
    have hquiet : e.asksFor key = false := Bool.not_eq_true _ ▸ fun hasks => hkey.2 ⟨hasks, hcopy⟩
    exact .inl ⟨mem_copies_of_hear hquiet hcopy, hkey.1, hquiet⟩
  | outage call times => exact .inl ⟨hcopy, hkey, rfl⟩
  | @pass time other hother =>
    rw [copies_runPass] at hcopy
    by_cases hself : key = other
    · subst hself
      rw [Std.ExtTreeMap.mem_iff_isSome_getElem?, Option.isSome_iff_exists] at hcopy
      obtain ⟨p, hp⟩ := hcopy
      refine .inr ⟨time, rfl, rfl, Classical.byContradiction fun hne => hkey ?_⟩
      have houtcome : w.outcome? key = some (exec (w.operator.pass p) w.cluster).1 := by
        rw [outcome?, hp, Option.map_some]
      rw [houtcome, Option.some.injEq] at hne
      exact mem_schedule_runPass_self.mpr ⟨_, houtcome, hne⟩
    · rw [mem_schedule_runPass_of_ne hself] at hkey
      exact .inl ⟨hcopy, hkey, rfl⟩

/-- The last that has been done for the policy is a pass by which it was ignored, and nothing has
asked for it since. -/
def Dismissed (w : Watcher Rehearsal) (acts : List Act) (key : String) (u : Watcher Rehearsal) :
    Prop :=
  ∃ before time after v, acts = before ++ .pass time key :: after ∧ Run w before v ∧
    v.outcome? key = some (.ok .ignored) ∧ Run (v.runPass time key) after u ∧
    ∀ act ∈ after, act.asksFor key = false

theorem Run.unscheduled (h : Run w acts u) (hcopy : key ∈ u.copies) (hkey : key ∉ u.schedule) :
    (key ∈ w.copies ∧ key ∉ w.schedule ∧ ∀ act ∈ acts, act.asksFor key = false) ∨
      Dismissed w acts key u := by
  induction h with
  | nil w => exact .inl ⟨hcopy, hkey, List.forall_mem_nil _⟩
  | @cons w v u act acts hstep hrest ih =>
    -- the first act matters only if the rest holds no later dismissal
    rcases ih hcopy hkey with ⟨hcopy', hkey', hquiet⟩ | hdismissed
    · rcases hstep.unscheduled hcopy' hkey' with
        ⟨hcopy'', hkey'', hact⟩ | ⟨time, rfl, rfl, houtcome⟩
      · exact .inl ⟨hcopy'', hkey'', List.forall_mem_cons.mpr ⟨hact, hquiet⟩⟩
      · exact .inr ⟨[], time, acts, w, rfl, .nil w, houtcome, hrest, hquiet⟩
    · obtain ⟨before, time, after, x, rfl, hbefore, houtcome, hafter, hquiet⟩ := hdismissed
      exact .inr ⟨act :: before, time, after, x, rfl, .cons hstep hbefore, houtcome, hafter, hquiet⟩

theorem Dismissed.not_mem_schedule (h : Dismissed w acts key u) : key ∉ u.schedule := by
  obtain ⟨before, time, after, v, -, -, houtcome, hafter, hquiet⟩ := h
  refine hafter.not_mem_schedule hquiet fun hmem => ?_
  obtain ⟨outcome, hsame, hne⟩ := mem_schedule_runPass_self.mp hmem
  rw [houtcome, Option.some.injEq] at hsame
  exact hne hsame.symm

/-- At the start every policy is scheduled; later a policy that is there is not so exactly if it has
been dismissed. -/
theorem not_mem_schedule_iff {op : Operator} {interval : Nat} {r : Rehearsal}
    {retries : Retry.Record} {events : List (Nat × Event)}
    (h : Run (start op interval r retries events) acts u) (hcopy : key ∈ u.copies) :
    key ∉ u.schedule ↔ Dismissed (start op interval r retries events) acts key u := by
  refine ⟨fun hkey => (h.unscheduled hcopy hkey).resolve_left ?_, Dismissed.not_mem_schedule⟩
  rintro ⟨hcopy', hkey', -⟩
  refine hkey' (Schedule.mem_requestAll.mpr (.inl ?_))
  exact Std.ExtTreeMap.mem_keys.mpr hcopy'

/-! ## The policy in charge -/

/-- A policy is ignored because another one is in charge. -/
theorem inCharge_of_ignored (h : w.Tidy) (houtcome : w.outcome? key = some (.ok .ignored)) :
    ∃ q, w.cluster.store.inCharge? = some q ∧ q.name ≠ key := by
  obtain ⟨copy, hcopy, hpass⟩ := Option.map_eq_some_iff.mp houtcome
  obtain ⟨name, hname, hcharge⟩ := Operator.not_isInCharge_of_exec_pass (Prod.ext hpass rfl)
  obtain ⟨p, hp, hmeta⟩ : ∃ p, w.cluster.store.policies[key]? = some p ∧
      p.metadata = copy.metadata := by
    have hcopied := h.copied key
    rw [hcopy, Option.map_some] at hcopied
    exact Option.map_eq_some_iff.mp hcopied.symm
  obtain rfl := h.keyed key p hp
  rw [← hmeta] at hname
  obtain ⟨q, hq⟩ := Option.ne_none_iff_exists'.mp (Store.inCharge?_ne_none hp)
  refine ⟨q, hq, fun hsame => ?_⟩
  have hstored := ((Store.inCharge?_eq_some_iff h.keyed).mp hq).1
  rw [hsame, hp, Option.some.injEq] at hstored
  rw [← hstored, ← Store.isInCharge_iff h.keyed hp hname, hcharge] at hq
  cases hq

/-- The choice passes from one policy to another only if the former is touched or the latter is. -/
theorem Run.touched (h : Run w acts u) (hkeyed : w.cluster.store.PoliciesKeyed)
    (hkeyed' : u.cluster.store.PoliciesKeyed) {p q : ClusterPolicy}
    (hq : w.cluster.store.inCharge? = some q) (hp : u.cluster.store.inCharge? = some p)
    (hne : q.name ≠ p.name) (huntouched : ∀ act ∈ acts, act.touches p.name = false) :
    ∃ act ∈ acts, act.touches q.name = true := by
  refine Classical.byContradiction fun hnone => ?_
  simp only [not_exists, not_and, Bool.not_eq_true] at hnone
  obtain ⟨hqstored, hqleast⟩ := (Store.inCharge?_eq_some_iff hkeyed).mp hq
  obtain ⟨hpstored, hpleast⟩ := (Store.inCharge?_eq_some_iff hkeyed').mp hp
  have hpmeta := h.metadata huntouched
  have hqmeta := h.metadata hnone
  rw [Store.getElem?_metadata, Store.getElem?_metadata, hpstored, Option.map_some] at hpmeta
  rw [Store.getElem?_metadata, Store.getElem?_metadata, hqstored, Option.map_some] at hqmeta
  obtain ⟨p', hp', hpsame⟩ := Option.map_eq_some_iff.mp hpmeta.symm
  obtain ⟨q', hq', hqsame⟩ := Option.map_eq_some_iff.mp hqmeta
  have hbefore : q.ageOrder p' = .lt := hqleast p.name p' hp' hne.symm
  have hafter : p.ageOrder q' = .lt := hpleast q.name q' hq' hne
  rw [Policy.ageOrder_congr hqsame.symm hpsame] at hbefore
  rw [Std.OrientedCmp.gt_of_lt hafter] at hbefore
  cases hbefore

/-- A pass for the policy has found another one in charge, which has been replaced or taken away
since, while nothing has asked for another pass. -/
def Overlooked (w : Watcher Rehearsal) (acts : List Act) (key : String) (u : Watcher Rehearsal) :
    Prop :=
  ∃ before time after v q, acts = before ++ .pass time key :: after ∧ Run w before v ∧
    v.cluster.store.inCharge? = some q ∧ q.name ≠ key ∧ v.outcome? key = some (.ok .ignored) ∧
    Run (v.runPass time key) after u ∧ (∃ act ∈ after, act.touches q.name = true) ∧
    ∀ act ∈ after, act.asksFor key = false

/-- However the operator has come so far, there is a pass ahead for the policy in charge, unless it
has been overlooked: a pass has ignored it while another policy was in charge, and nothing has asked
for it again, though that other policy has been replaced or taken away. -/
theorem not_scheduled_iff_overlooked (op : Operator) (interval : Nat) (r : Rehearsal)
    (retries : Retry.Record) (events : List (Nat × Event)) (hkeyed : r.store.PoliciesKeyed)
    {p : ClusterPolicy}
    (hrun : Run (start op interval r retries events) acts u)
    (hcharge : u.cluster.store.inCharge? = some p) :
    p.name ∉ u.schedule ↔ Overlooked (start op interval r retries events) acts p.name u := by
  have hstart : (start op interval r retries events).Tidy := tidy_start hkeyed
  have htidy := hstart.run hrun
  have hcopy : p.name ∈ u.copies := by
    rw [htidy.mem_copies_iff, ((Store.inCharge?_eq_some_iff htidy.keyed).mp hcharge).1]
    rfl
  rw [not_mem_schedule_iff hrun hcopy]
  constructor
  · rintro ⟨before, time, after, v, hacts, hbefore, houtcome, hafter, hquiet⟩
    have htidy' := hstart.run hbefore
    obtain ⟨q, hq, hne⟩ := inCharge_of_ignored htidy' houtcome
    -- the pass leaves the choice as it is, up to a status
    obtain ⟨q', hq', hmeta⟩ := Option.map_eq_some_iff.mp
      ((Store.inCharge?_congr_metadata metadata_runPass).trans (congrArg _ hq))
    have hname : q'.name = q.name := by rw [ClusterPolicy.name, hmeta, ← ClusterPolicy.name]
    have htouched := hafter.touched (htidy'.keyed.congr metadata_runPass) htidy.keyed hq' hcharge
      (hname ▸ hne) (hafter.not_touched hquiet hcopy)
    exact ⟨before, time, after, v, q, hacts, hbefore, hq, hne, houtcome, hafter,
      hname ▸ htouched, hquiet⟩
  · rintro ⟨before, time, after, v, q, hacts, hbefore, -, -, houtcome, hafter, -, hquiet⟩
    exact ⟨before, time, after, v, hacts, hbefore, houtcome, hafter, hquiet⟩

/-! ## A policy that is overlooked -/

open Operator (elder younger twoPolicies)

private theorem inCharge?_twoPolicies : twoPolicies.inCharge? = some elder := by
  refine (Store.inCharge?_eq_some_iff Operator.policiesNamed_twoPolicies.keyed).mpr ⟨?_, ?_⟩
  · exact Operator.getElem?_twoPolicies "b"
  · intro key q hq hne
    have hother : key ≠ "b" := hne
    rw [Operator.getElem?_twoPolicies, if_neg hother] at hq
    split at hq
    · cases hq
      decide
    · cases hq

private theorem getElem?_younger : twoPolicies.policies["a"]? = some younger :=
  Operator.getElem?_twoPolicies "a"

/-- The younger policy once it has been ignored. -/
def dismissed : ClusterPolicy := Operator.sample.told younger .ignored none twoPolicies

/-- A cluster in which every call is answered. -/
def answering (s : Store) : Rehearsal := { store := s }

private theorem exec_pass_younger :
    exec (Operator.sample.pass younger) (answering twoPolicies) =
      (.ok .ignored, answering (Operator.sample.reported younger .ignored none twoPolicies)) := by
  have hcharge : isInCharge twoPolicies.policies.values "a" = false := by
    rw [isInCharge, ← Store.inCharge?, inCharge?_twoPolicies]
    decide
  refine Operator.exec_pass_of_not_isInCharge (fun _ => rfl) ?_ rfl hcharge
  exact getElem?_younger

/-- Without the elder policy, the younger one is in charge. -/
private theorem inCharge?_dismissed {s : Store} (hkeyed : s.PoliciesKeyed) (hs : s.policies =
      (Operator.sample.reported younger .ignored none twoPolicies).policies.erase "b") :
    s.inCharge? = some dismissed := by
  have hname : dismissed.name = younger.name := Operator.told_name ..
  refine (Store.inCharge?_eq_some_iff hkeyed).mpr ⟨?_, fun key q hq hne => ?_⟩
  · rw [hs, hname, Std.ExtTreeMap.getElem?_erase]
    exact Operator.getElem?_reported_self _ _ _ _ getElem?_younger
  · rw [hname] at hne
    have hother : key ≠ "a" := hne
    rw [hs, Std.ExtTreeMap.getElem?_erase] at hq
    split at hq
    · cases hq
    · next helder =>
      rw [Std.LawfulEqOrd.compare_eq_iff_eq, eq_comm] at helder
      rw [Operator.getElem?_reported_of_ne _ _ _ _ hne, Operator.getElem?_twoPolicies,
        if_neg hother, if_neg helder] at hq
      cases hq

/-- At the start the elder policy is there. -/
def elderStart : Watcher Rehearsal :=
  start Operator.sample 300 (answering (({} : Store).putPolicy elder)) ∅ []

/-- The younger policy comes and is ignored, and then the elder one goes. -/
def handover : List Act :=
  [.event 10 (.policySeen younger), .pass 15 "a", .event 20 (.policyGone elder)]

theorem overlooked_after_handover : ∃ u p, Run elderStart handover u ∧
    u.cluster.store.inCharge? = some p ∧ p.status.map (·.state) = some .ignored ∧
    p.name ∉ u.schedule := by
  have hkeyed : (({} : Store).putPolicy elder).PoliciesKeyed :=
    Event.policiesKeyed_effect Store.policiesKeyed_empty (.policySeen elder)
  -- the younger policy comes
  obtain ⟨w, hw⟩ : ∃ w, w = elderStart.hear 10 (.policySeen younger) := ⟨_, rfl⟩
  have hseen : Run elderStart [.event 10 (.policySeen younger)] w := hw ▸ .cons (.event ..) (.nil _)
  have hcluster : w.cluster = answering twoPolicies := hw ▸ rfl
  have hoperator : w.operator = Operator.sample := hw ▸ rfl
  have hcopy : w.copies["a"]? = some younger := hw ▸ Std.ExtTreeMap.getElem?_insert_self
  have hdue : "a" ∈ w.schedule := hw ▸ Schedule.mem_request.mpr (.inl rfl)
  -- it is ignored
  have hexec : exec (w.operator.pass younger) w.cluster = (.ok .ignored,
      answering (Operator.sample.reported younger .ignored none twoPolicies)) := by
    rw [hcluster, hoperator, exec_pass_younger]
  have houtcome : w.outcome? "a" = some (.ok .ignored) := by
    rw [outcome?, hcopy, Option.map_some, hexec]
  obtain ⟨log, hpass⟩ := runPass_of_some 15 hcopy
  rw [hexec] at hpass
  -- the elder policy goes
  obtain ⟨u, hu⟩ : ∃ u, u = (w.runPass 15 "a").hear 20 (.policyGone elder) := ⟨_, rfl⟩
  have hgone : Run (w.runPass 15 "a") [.event 20 (.policyGone elder)] u :=
    hu ▸ .cons (.event ..) (.nil _)
  have hrun : Run elderStart handover u := hseen.append (.cons (.pass 15 hdue) hgone)
  have hcharge : u.cluster.store.inCharge? = some dismissed := by
    refine inCharge?_dismissed ((tidy_start hkeyed).run hrun).keyed ?_
    rw [hu, store_hear, hpass]
    rfl
  refine ⟨u, dismissed, hrun, hcharge, Operator.state_told .., ?_⟩
  refine (not_scheduled_iff_overlooked _ _ _ _ _ hkeyed hrun hcharge).mpr
    ⟨[.event 10 (.policySeen younger)], 15, [.event 20 (.policyGone elder)], w, elder, rfl, hseen,
      hcluster ▸ inCharge?_twoPolicies, by decide, houtcome, hgone, ?_, ?_⟩
  · exact ⟨_, List.mem_singleton_self _, beq_self_eq_true "b"⟩
  · rintro act hact
    rw [List.mem_singleton.mp hact]
    rfl

end Watch.Watcher

end GpuFleet
