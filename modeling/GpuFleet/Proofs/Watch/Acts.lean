import GpuFleet.Proofs.Cluster.Charge
import GpuFleet.Proofs.Operator.Ending
import GpuFleet.Watch.Watcher

/-!
The operator in operation, act by act. Something happens in the cluster, a call begins to fail, or a
pass is made for a policy that is scheduled. Acts follow one another in any order and at any time;
what the operator does when it is left running is one such run.
-/
namespace GpuFleet.Watch

open Cluster (Store Rehearsal Failure Call Keeps KeptByCalls exec)
open Policy (ClusterPolicy State)

variable {key k : String} {time : Nat}

/-! ## Requests -/

namespace Schedule

theorem mem_request {s : Schedule} : k ∈ s.request key time ↔ k = key ∨ k ∈ s := by
  have hinsert : ∀ due : Nat, k ∈ s.insert key due ↔ k = key ∨ k ∈ s := by
    intro due
    rw [Std.ExtTreeMap.mem_insert, Std.LawfulEqOrd.compare_eq_iff_eq, eq_comm]
  unfold request
  cases hdue : s[key]? with
  | none => exact hinsert _
  | some due =>
    simp only
    split
    · refine ⟨.inr, fun h => h.elim ?_ id⟩
      rintro rfl
      rw [Std.ExtTreeMap.mem_iff_isSome_getElem?, hdue]
      rfl
    · exact hinsert _

/-- A policy that is off the schedule gets the time that is asked for. -/
theorem request_erase (s : Schedule) (key : String) (time : Nat) :
    Schedule.request key time (s.erase key) = s.insert key (time + quietPeriod) := by
  have hnone : (s.erase key)[key]? = none := Std.ExtTreeMap.getElem?_erase_self
  rw [request, hnone]
  refine Std.ExtTreeMap.ext_getElem? fun k => ?_
  rw [Std.ExtTreeMap.getElem?_insert, Std.ExtTreeMap.getElem?_insert, Std.ExtTreeMap.getElem?_erase]
  split <;> rfl

theorem mem_requestAll {keys : List String} {s : Schedule} :
    k ∈ s.requestAll keys time ↔ k ∈ keys ∨ k ∈ s := by
  unfold requestAll
  induction keys generalizing s with
  | nil => simp
  | cons key keys ih =>
    rw [List.foldl_cons, ih, mem_request, List.mem_cons, ← or_assoc, or_comm (a := k ∈ keys)]

theorem mem_dueAt {s : Schedule} : k ∈ s.dueAt time ↔ s[k]? = some time := by
  simp [dueAt, Std.ExtTreeMap.mem_toList_iff_getElem?_eq_some]

theorem nodup_dueAt (s : Schedule) : (s.dueAt time).Nodup := by
  have hkeys : (s.dueAt time).Sublist s.keys := by
    rw [← Std.ExtTreeMap.map_fst_toList_eq_keys]
    exact List.filter_sublist.map _
  exact hkeys.nodup Std.ExtTreeMap.nodup_keys

end Schedule

/-! ## Events -/

namespace Event

/-- The event asks for a pass for the policy of the name, if it is there. -/
def asksFor (key : String) : Event → Bool
  | .nodeSeen _ | .nodeGone _ => true
  | .policySeen p => p.name == key
  | .policyGone _ => false

/-- The event brings the policy of the name, or takes it away. -/
def touches (key : String) : Event → Bool
  | .nodeSeen _ | .nodeGone _ => false
  | .policySeen p | .policyGone p => p.name == key

theorem policies_effect {e : Event} (h : e.touches key = false) (s : Store) :
    (e.effect s).policies[key]? = s.policies[key]? := by
  cases e with
  | nodeSeen n | nodeGone n => rfl
  | policySeen p =>
    have hne : p.name ≠ key := beq_eq_false_iff_ne.mp h
    simp [effect, Store.putPolicy, Std.ExtTreeMap.getElem?_insert, hne]
  | policyGone p =>
    have hne : p.name ≠ key := beq_eq_false_iff_ne.mp h
    simp [effect, Store.removePolicy, Std.ExtTreeMap.getElem?_erase, hne]

theorem policiesKeyed_effect {s : Store} (h : s.PoliciesKeyed) (e : Event) :
    (e.effect s).PoliciesKeyed := by
  cases e with
  | nodeSeen n | nodeGone n => exact h
  | policySeen p =>
    intro key q hq
    simp only [effect, Store.putPolicy, Std.ExtTreeMap.getElem?_insert] at hq
    split at hq
    · next hkey =>
      cases hq
      exact Std.LawfulEqCmp.eq_of_compare hkey
    · exact h key q hq
  | policyGone p =>
    intro key q hq
    simp only [effect, Store.removePolicy, Std.ExtTreeMap.getElem?_erase] at hq
    split at hq
    · cases hq
    · exact h key q hq

end Event

namespace Watcher

variable {w v u : Watcher Rehearsal}

/-- After an event a policy is scheduled if it has been so before, or if it is there and the event
asks for it. -/
theorem mem_schedule_hear (e : Event) : key ∈ (w.hear time e).schedule ↔
    key ∈ w.schedule ∨ (e.asksFor key = true ∧ key ∈ (w.hear time e).copies) := by
  cases e with
  | nodeSeen n | nodeGone n =>
    simp only [hear, Event.asksFor, true_and]
    rw [Schedule.mem_requestAll, Std.ExtTreeMap.mem_keys, or_comm]
  | policySeen p =>
    simp only [hear, Event.asksFor, beq_iff_eq]
    rw [Schedule.mem_request, Std.ExtTreeMap.mem_insert, Std.LawfulEqOrd.compare_eq_iff_eq,
      eq_comm (a := key), or_comm]
    refine or_congr_right ⟨fun h => ⟨h, .inl h⟩, And.left⟩
  | policyGone p => simp [hear, Event.asksFor]

/-- An event that does not ask for a policy does not bring it. -/
theorem mem_copies_of_hear {e : Event} (h : e.asksFor key = false)
    (hmem : key ∈ (w.hear time e).copies) : key ∈ w.copies := by
  cases e with
  | nodeSeen n | nodeGone n => exact hmem
  | policySeen p =>
    simp only [hear, Std.ExtTreeMap.mem_insert, Std.LawfulEqOrd.compare_eq_iff_eq] at hmem
    exact hmem.resolve_left (beq_eq_false_iff_ne.mp h)
  | policyGone p =>
    simp only [hear, Std.ExtTreeMap.mem_erase] at hmem
    exact hmem.2

theorem store_hear (e : Event) : (w.hear time e).cluster.store = e.effect w.cluster.store := by
  cases e <;> rfl

/-! ## Passes -/

/-- What comes of a pass for a policy, if it is still there. -/
def outcome? (w : Watcher Rehearsal) (key : String) : Option (Except Failure State) :=
  w.copies[key]?.map fun p => (exec (w.operator.pass p) w.cluster).1

/-- What has come of a pass tells whether its policy is scheduled after it. -/
theorem mem_schedule_settle_self (outcome : Except Failure State) :
    key ∈ (w.settle time key outcome).schedule ↔ outcome ≠ .ok .ignored := by
  rcases outcome with e | ⟨_ | _ | _⟩ <;> simp [settle, Schedule.mem_request]

theorem mem_schedule_erase (hne : k ≠ key) : k ∈ w.schedule.erase key ↔ k ∈ w.schedule := by
  rw [Std.ExtTreeMap.mem_erase, ne_eq, Std.LawfulEqOrd.compare_eq_iff_eq]
  exact and_iff_right hne.symm

theorem mem_schedule_settle_of_ne (hne : k ≠ key) (outcome : Except Failure State) :
    k ∈ (w.settle time key outcome).schedule ↔ k ∈ w.schedule := by
  refine Iff.trans ?_ (mem_schedule_erase hne)
  rcases outcome with e | ⟨_ | _ | _⟩
  case ok.ignored => exact .rfl
  all_goals exact Schedule.mem_request.trans (or_iff_right hne)

theorem copies_settle (outcome : Except Failure State) :
    (w.settle time key outcome).copies = w.copies := by
  rcases outcome with e | ⟨_ | _ | _⟩ <;> rfl

theorem cluster_settle (outcome : Except Failure State) :
    (w.settle time key outcome).cluster = w.cluster := by
  rcases outcome with e | ⟨_ | _ | _⟩ <;> rfl

theorem runPass_of_none (h : w.copies[key]? = none) :
    w.runPass time key = { w with schedule := w.schedule.erase key } := by
  unfold runPass
  simp only [h]

theorem runPass_of_some (time : Nat) {p : ClusterPolicy} (h : w.copies[key]? = some p) :
    ∃ log, w.runPass time key =
      settle time key (exec (w.operator.pass p) w.cluster).1
        { w with
          cluster := (exec (w.operator.pass p) w.cluster).2.mapStore (·.takeLog.2)
          log } := by
  unfold runPass
  simp only [h]
  exact ⟨_, rfl⟩

theorem copies_runPass : (w.runPass time key).copies = w.copies := by
  cases hcopy : w.copies[key]? with
  | none => rw [runPass_of_none hcopy]
  | some p =>
    obtain ⟨log, hpass⟩ := runPass_of_some time hcopy
    rw [hpass, copies_settle]

/-- A pass leaves its policy scheduled unless that is gone or ignored. -/
theorem mem_schedule_runPass_self : key ∈ (w.runPass time key).schedule ↔
    ∃ outcome, w.outcome? key = some outcome ∧ outcome ≠ .ok .ignored := by
  unfold outcome?
  cases hcopy : w.copies[key]? with
  | none => simp [runPass_of_none hcopy]
  | some p =>
    obtain ⟨log, hpass⟩ := runPass_of_some time hcopy
    rw [hpass, mem_schedule_settle_self]
    simp

/-- A pass leaves the other policies scheduled as they are. -/
theorem mem_schedule_runPass_of_ne (hne : k ≠ key) :
    k ∈ (w.runPass time key).schedule ↔ k ∈ w.schedule := by
  cases hcopy : w.copies[key]? with
  | none =>
    rw [runPass_of_none hcopy]
    exact mem_schedule_erase hne
  | some p =>
    obtain ⟨log, hpass⟩ := runPass_of_some time hcopy
    rw [hpass, mem_schedule_settle_of_ne hne]

/-- A pass changes no metadata of a policy. -/
theorem metadata_runPass :
    (w.runPass time key).cluster.store.metadata = w.cluster.store.metadata := by
  cases hcopy : w.copies[key]? with
  | none => rw [runPass_of_none hcopy]
  | some p =>
    obtain ⟨log, hpass⟩ := runPass_of_some time hcopy
    rw [hpass, cluster_settle]
    have hcalls : KeptByCalls (fun r : Rehearsal => r.store.metadata = w.cluster.store.metadata)
        p.name := Rehearsal.keptByCalls (Store.keptByCalls_metadata _)
    exact (Operator.keeps_pass hcalls : Keeps _ (w.operator.pass p)) w.cluster rfl

end Watcher

/-! ## Acts -/

/-- What can happen to the operator, or be done by it. -/
inductive Act where
  | event (time : Nat) (e : Event)
  /-- From now on, a call fails so many times. -/
  | outage (call : Call) (times : Nat)
  | pass (time : Nat) (key : String)

namespace Act

def asksFor (key : String) : Act → Bool
  | .event _ e => e.asksFor key
  | .outage .. | .pass .. => false

def touches (key : String) : Act → Bool
  | .event _ e => e.touches key
  | .outage .. | .pass .. => false

end Act

namespace Watcher

inductive Step : Watcher Rehearsal → Act → Watcher Rehearsal → Prop
  | event (w : Watcher Rehearsal) (time : Nat) (e : Event) : Step w (.event time e) (w.hear time e)
  | outage (w : Watcher Rehearsal) (call : Call) (times : Nat) :
      Step w (.outage call times) { w with cluster := w.cluster.fail call times }
  /-- A pass is made for a policy that is scheduled. -/
  | pass {w : Watcher Rehearsal} (time : Nat) {key : String} :
      key ∈ w.schedule → Step w (.pass time key) (w.runPass time key)

/-- Acts one after another. -/
inductive Run : Watcher Rehearsal → List Act → Watcher Rehearsal → Prop
  | nil (w : Watcher Rehearsal) : Run w [] w
  | cons {w v u : Watcher Rehearsal} {act : Act} {acts : List Act} :
      Step w act v → Run v acts u → Run w (act :: acts) u

variable {w v u : Watcher Rehearsal} {act : Act} {acts : List Act}

theorem Run.append {after : List Act} (h : Run w acts v) (hafter : Run v after u) :
    Run w (acts ++ after) u := by
  induction h with
  | nil w => exact hafter
  | cons hstep _ ih => exact .cons hstep (ih hafter)

/-- What each of some acts keeps is kept by a run of them. -/
theorem Run.keeps {I : Watcher Rehearsal → Prop} {P : Act → Prop} (h : Run w acts v)
    (hstep : ∀ w act v, Step w act v → P act → I w → I v) (hacts : ∀ act ∈ acts, P act)
    (hw : I w) : I v := by
  induction h with
  | nil w => exact hw
  | cons hfirst _ ih =>
    rw [List.forall_mem_cons] at hacts
    exact ih hacts.2 (hstep _ _ _ hfirst hacts.1 hw)

/-! ## What acts keep -/

/-- The policies are stored under their names, and the operator has a copy of each, which differs in
the status at most. -/
structure Tidy (w : Watcher Rehearsal) : Prop where
  keyed : w.cluster.store.PoliciesKeyed
  copied : ∀ key : String,
    w.copies[key]?.map (·.metadata) = w.cluster.store.policies[key]?.map (·.metadata)

theorem tidy_start {op : Operator} {interval : Nat} {r : Rehearsal} {retries : Retry.Record}
    {events : List (Nat × Event)} (h : r.store.PoliciesKeyed) :
    (start op interval r retries events).Tidy := ⟨h, fun _ => rfl⟩

theorem Tidy.mem_copies_iff (h : w.Tidy) :
    key ∈ w.copies ↔ (w.cluster.store.policies[key]?).isSome := by
  rw [Std.ExtTreeMap.mem_iff_isSome_getElem?, ← Option.isSome_map, h.copied, Option.isSome_map]

theorem Tidy.step (h : w.Tidy) (hstep : Step w act v) : v.Tidy := by
  cases hstep with
  | outage call times => exact ⟨h.keyed, h.copied⟩
  | event time e =>
    constructor
    · rw [store_hear]
      exact Event.policiesKeyed_effect h.keyed e
    · intro key
      have hcopied := h.copied key
      rw [store_hear]
      cases e with
      | nodeSeen n | nodeGone n => exact hcopied
      | policySeen p =>
        simp only [hear, Event.effect, Store.putPolicy, Std.ExtTreeMap.getElem?_insert]
        split
        · rfl
        · exact hcopied
      | policyGone p =>
        simp only [hear, Event.effect, Store.removePolicy, Std.ExtTreeMap.getElem?_erase]
        split
        · rfl
        · exact hcopied
  | @pass time key hkey =>
    refine ⟨h.keyed.congr metadata_runPass, fun k => ?_⟩
    rw [copies_runPass, h.copied, ← Store.getElem?_metadata, ← Store.getElem?_metadata,
      metadata_runPass]

theorem Tidy.run (h : w.Tidy) (hrun : Run w acts v) : v.Tidy :=
  hrun.keeps (P := fun _ => True) (fun _ _ _ hstep _ htidy => htidy.step hstep)
    (fun _ _ => trivial) h

/-! ## The operator left running -/

/-- What is still ahead has no part in an act. -/
theorem Run.withAhead (h : Run w acts v) (ahead : List (Nat × Event)) :
    Run { w with ahead } acts { v with ahead } := by
  induction h with
  | nil w => exact .nil _
  | @cons w v u act acts hstep _ ih =>
    refine .cons ?_ ih
    cases hstep with
    | event time e =>
      have hsame : { w.hear time e with ahead } = { w with ahead }.hear time e := by
        cases e <;> rfl
      rw [hsame]
      exact .event _ time e
    | outage call times => exact .outage _ call times
    | @pass time key hkey =>
      have hsame : { w.runPass time key with ahead } = { w with ahead }.runPass time key := by
        unfold runPass
        cases w.copies[key]? with
        | none => rfl
        | some p =>
          simp only
          rcases (w.operator.pass p).run.run w.cluster with ⟨e | ⟨_ | _ | _⟩, r⟩ <;> rfl
      rw [hsame]
      exact .pass time hkey

/-- Events that happen at a time are acts. -/
theorem exists_run_hear (time : Nat) (now : List (Nat × Event)) (w : Watcher Rehearsal) :
    ∃ acts, Run w acts (now.foldl (fun w (_, e) => w.hear time e) w) := by
  induction now generalizing w with
  | nil => exact ⟨[], .nil w⟩
  | cons event now ih =>
    obtain ⟨acts, hrun⟩ := ih (w.hear time event.2)
    exact ⟨_, .cons (.event w time event.2) hrun⟩

/-- Passes for several policies that are scheduled are acts: none of them takes another policy off
the schedule. -/
theorem exists_run_passes (time : Nat) {due : List String} (hnodup : due.Nodup)
    (hdue : ∀ key ∈ due, key ∈ w.schedule) : ∃ acts, Run w acts (due.foldl (runPass time) w) := by
  induction due generalizing w with
  | nil => exact ⟨[], .nil w⟩
  | cons key due ih =>
    rw [List.nodup_cons] at hnodup
    obtain ⟨acts, hrun⟩ := ih (w := w.runPass time key) hnodup.2 fun other hother => by
      rw [mem_schedule_runPass_of_ne (ne_of_mem_of_not_mem hother hnodup.1)]
      exact hdue other (List.mem_cons_of_mem _ hother)
    exact ⟨_, .cons (.pass time (hdue key List.mem_cons_self)) hrun⟩

theorem exists_run_advance (time : Nat) (w : Watcher Rehearsal) :
    ∃ acts, Run w acts { w.advance time with ahead := w.ahead } := by
  obtain ⟨before, hhear⟩ := exists_run_hear time (w.ahead.span (·.1 ≤ time)).1
    { w with ahead := (w.ahead.span (·.1 ≤ time)).2 }
  obtain ⟨after, hpasses⟩ := exists_run_passes time (Schedule.nodup_dueAt _) fun key hkey => by
    rw [Std.ExtTreeMap.mem_iff_isSome_getElem?, Schedule.mem_dueAt.mp hkey]
    rfl
  exact ⟨_, (hhear.append hpasses).withAhead w.ahead⟩

/-- What the operator does when it is left running is a run of acts. -/
theorem exists_run_runFor (steps horizon : Nat) (w : Watcher Rehearsal) :
    ∃ acts, Run w acts { w.runFor steps horizon with ahead := w.ahead } := by
  induction steps generalizing w with
  | zero => exact ⟨[], .nil w⟩
  | succ steps ih =>
    unfold runFor
    cases w.next? with
    | none => exact ⟨[], .nil w⟩
    | some time =>
      simp only
      split
      · exact ⟨[], .nil w⟩
      · obtain ⟨acts, hrun⟩ := exists_run_advance time w
        obtain ⟨after, hafter⟩ := ih (w.advance time)
        exact ⟨_, hrun.append (hafter.withAhead w.ahead)⟩

end Watcher

end GpuFleet.Watch
