import GpuFleet.Proofs.Operator.Course
import GpuFleet.Proofs.Operator.Repetition
import GpuFleet.Proofs.Operator.Turns

/-!
Passes that are repeated, whatever they come to. The first pass gives the nodes the labels that they
are due, the second one settles the DaemonSets for the runtime that these labels show, and a third
one finds nothing to do. A pass that fails gets as far each time, and is no exception.
-/
namespace GpuFleet.Operator

open Cluster (Store Failure exec)
open Kube (DaemonSet)
open Policy (ClusterPolicy State isInCharge)

variable {op : Operator} {p : ClusterPolicy} {s u : Store} {name : String} {n : Nat}
  {outcome : Except Failure State} {items : List (Operand × DaemonSet)}
  {obstacle : Option Failure}

/-- Passes for the policy of the name come to the outcome, and after `n` of them at most they change
nothing any more. -/
inductive Settles (op : Operator) (name : String) (outcome : Except Failure State) :
    Nat → Store → Prop
  | now {n : Nat} {s : Store} {p : ClusterPolicy} :
      s.policies[name]? = some p → exec (op.pass p) s = (outcome, s) → Settles op name outcome n s
  | later {n : Nat} {s t : Store} {p : ClusterPolicy} :
      s.policies[name]? = some p → exec (op.pass p) s = (outcome, t) →
      Settles op name outcome n t → Settles op name outcome (n + 1) s

/-- In turns of the one policy, all come to the outcome, and those after the first `n` write
nothing. -/
theorem Settles.turns {turns : List Turn} (h : Settles op name outcome n s)
    (hturns : Turns op s turns u) (hname : ∀ turn ∈ turns, turn.policy = name) :
    (∀ turn ∈ turns, turn.outcome = outcome) ∧ ∀ turn ∈ turns.drop n, turn.issued = [] := by
  induction hturns generalizing n with
  | nil s => simp
  | @cons s t u p turn turns hp hpass hlog _ ih =>
    obtain ⟨hpolicy, hrest⟩ := List.forall_mem_cons.mp hname
    rw [hpolicy] at hp
    cases h with
    | @now _ _ q hq hself =>
      obtain rfl : q = p := Option.some.inj (hq.symm.trans hp)
      rw [hself, Prod.mk.injEq] at hpass
      obtain ⟨houtcome, rfl⟩ := hpass
      obtain ⟨houtcomes, hissued⟩ := ih (.now (n := 0) hq hself) hrest
      rw [List.self_eq_append_right] at hlog
      refine ⟨List.forall_mem_cons.mpr ⟨houtcome.symm, houtcomes⟩, fun other hother => ?_⟩
      rcases List.mem_cons.mp (List.mem_of_mem_drop hother) with rfl | hother
      · exact hlog
      · exact hissued other hother
    | @later n _ v q hq hfirst hsettles =>
      obtain rfl : q = p := Option.some.inj (hq.symm.trans hp)
      rw [hfirst, Prod.mk.injEq] at hpass
      obtain ⟨houtcome, rfl⟩ := hpass
      obtain ⟨houtcomes, hissued⟩ := ih hsettles hrest
      exact ⟨List.forall_mem_cons.mpr ⟨houtcome.symm, houtcomes⟩, hissued⟩

/-! ## Work -/

/-- Once the nodes are labelled, work that is done is not done again. -/
theorem worked_worked {first : Policy.Runtime}
    (hcourse : Course op (.ofSpec p.spec) Operand.all items obstacle)
    (hnames : op.HasDistinctNames (.ofSpec p.spec) first)
    (hnodes : u.nodes = (worked op p items s).nodes) :
    worked op p items (worked op p items u) = worked op p items u := by
  have hlabelled : labelled (.ofSpec p.spec) u = u := labelled_again (hnodes.trans worked_nodes)
  have hsame : (worked op p items u).nodes = u.nodes := by rw [worked_nodes, hlabelled]
  have hruntime : detected (worked op p items u) p = detected u p := by
    rw [detected, hsame, detected]
  rw [worked, hruntime, labelled_again worked_nodes]
  exact settledAll_again (s := labelled (.ofSpec p.spec) u) (hcourse.distinct hnames _) rfl

/-- Passes that do some work and report on it settle after two, if the work is such that it is not
done again. -/
theorem settles_of_pass (state : State) (error : Option String) (work : Store → Store)
    (hkeyed : s.NodesKeyed) (hstored : s.policies[p.name]? = some p)
    (hpolicies : ∀ t, (work t).policies = t.policies)
    (hwork : ∀ t u, u.nodes = (work t).nodes → work (work u) = work u)
    (hpass : ∀ t q, t.NodesKeyed → t.metadata = s.metadata → q.metadata = p.metadata →
      q.spec = p.spec → t.policies[q.name]? = some q →
      exec (op.pass q) t = (outcome, op.reported q state error (work t))) :
    Settles op p.name outcome 2 s := by
  have hfirst := hpass s p hkeyed rfl rfl rfl hstored
  have hmeta := metadata_of_exec_pass hfirst
  have hkeyed' := nodesKeyed_of_pass hkeyed hfirst
  have hq := getElem?_reported_self op p state error
    (show (work s).policies[p.name]? = some p by rw [hpolicies, hstored])
  have hname := told_name op p state error (work s)
  have hcurrent := not_outdated_told op p state error (work s)
  -- the report of the first pass stands, so the later ones leave the policy as it is
  have hagain : ∀ t : Store, t.NodesKeyed → t.metadata = s.metadata →
      t.policies[p.name]? = some (op.told p state error (work s)) →
      exec (op.pass (op.told p state error (work s))) t = (outcome, work t) := by
    intro t hkeyed hmeta hq
    rw [hpass t _ hkeyed hmeta (told_metadata ..) (told_spec ..) (hname ▸ hq),
      reported_of_not_outdated op _ state error hcurrent]
  have hsecond := hagain _ hkeyed' hmeta hq
  have hq' := hq
  rw [← hpolicies] at hq'
  have hthird := hagain _ (nodesKeyed_of_pass hkeyed' hsecond)
    ((metadata_of_exec_pass hsecond).trans hmeta) hq'
  rw [hwork s _ (reported_nodes ..)] at hthird
  exact .later hstored hfirst (.later hq hsecond (.now hq' hthird))

/-- Passes for a stored policy settle after two. -/
theorem exists_settles (op : Operator) (hkeyed : s.NodesKeyed)
    (hstored : s.policies[p.name]? = some p)
    (hnames : op.HasDistinctNames (.ofSpec p.spec) (detected s p)) :
    ∃ outcome, Settles op p.name outcome 2 s := by
  cases hname : p.metadata.name with
  | none =>
    refine ⟨.error (.misconfigured .policyWithoutName), .now hstored ?_⟩
    rw [pass, hname]
    rfl
  | some name =>
    have hsame : ∀ t : Store, t.metadata = s.metadata →
        isInCharge t.policies.values name = isInCharge s.policies.values name :=
      fun t hmeta => Store.isInCharge_congr_metadata hmeta name
    cases hcharge : isInCharge s.policies.values name with
    | false =>
      refine ⟨.ok .ignored, settles_of_pass .ignored none id hkeyed hstored (fun _ => rfl)
        (fun _ _ _ => rfl) fun t q ht hmeta hq _ hstored => ?_⟩
      exact (exec_pass_ok_iff ht hstored (hq ▸ hname)).mpr
        ⟨none, t, .ignored ((hsame t hmeta).trans hcharge), rfl⟩
    | true =>
      cases hrejection : p.spec.rejection? with
      | some r =>
        refine ⟨.ok .notReady, settles_of_pass .notReady (some r.message) id hkeyed hstored
          (fun _ => rfl) (fun _ _ _ => rfl) fun t q ht hmeta hq hspec hstored => ?_⟩
        exact (exec_pass_ok_iff ht hstored (hq ▸ hname)).mpr
          ⟨some r.message, t, .rejected r ((hsame t hmeta).trans hcharge) (hspec ▸ hrejection),
            rfl⟩
      | none =>
        obtain ⟨items, obstacle, hcourse⟩ := exists_course op (.ofSpec p.spec) Operand.all
        have hwork : ∀ t u : Store, u.nodes = (worked op p items t).nodes →
            worked op p items (worked op p items u) = worked op p items u :=
          fun t u hnodes => worked_worked hcourse hnames hnodes
        cases obstacle with
        | none =>
          refine ⟨.ok .ready, settles_of_pass .ready none (worked op p items) hkeyed hstored
            (fun _ => worked_policies) hwork fun t q ht hmeta hq hspec hstored => ?_⟩
          rw [exec_pass_done ht hstored (hq ▸ hname) ((hsame t hmeta).trans hcharge)
            (hspec ▸ hrejection) (hspec ▸ hcourse), worked_congr hspec]
        | some e =>
          refine ⟨.error e, settles_of_pass .notReady (some e.message) (worked op p items) hkeyed
            hstored (fun _ => worked_policies) hwork fun t q ht hmeta hq hspec hstored => ?_⟩
          rw [exec_pass_stopped ht hstored (hq ▸ hname) ((hsame t hmeta).trans hcharge)
            (hspec ▸ hrejection) (hspec ▸ hcourse), worked_congr hspec]

/-- Passes for a stored policy, one after another, each for the policy as it is then stored, can
always be made and all come to the same: a state, or a failure. From the third one on, none of them
writes anything. -/
theorem passes_settle (op : Operator) (p : ClusterPolicy) (s : Store) (hkeyed : s.NodesKeyed)
    (hstored : s.policies[p.name]? = some p)
    (hnames : op.HasDistinctNames (.ofSpec p.spec) (detected s p)) :
    (∀ n, ∃ turns u, turns.map (·.policy) = List.replicate n p.name ∧ Turns op s turns u) ∧
      ∃ outcome, ∀ turns u, Turns op s turns u → (∀ turn ∈ turns, turn.policy = p.name) →
        (∀ turn ∈ turns, turn.outcome = outcome) ∧ ∀ turn ∈ turns.drop 2, turn.issued = [] := by
  refine ⟨fun n => exists_turns op _ fun name hname => ?_, ?_⟩
  · rw [(List.mem_replicate.mp hname).2, Store.getElem?_metadata, hstored]
    rfl
  · obtain ⟨outcome, hsettles⟩ := exists_settles op hkeyed hstored hnames
    exact ⟨outcome, fun turns u hturns hname => hsettles.turns hturns hname⟩

/-- The node of the sample loses its mark in the first pass, and the second one deploys for another
runtime; then there is rest. -/
theorem passes_settle_sample :
    sampleStore.NodesKeyed ∧ sampleStore.policies[samplePolicy.name]? = some samplePolicy ∧
      sample.HasDistinctNames (.ofSpec samplePolicy.spec) (detected sampleStore samplePolicy) ∧
      ∃ outcome turns u, turns.map (·.policy) = ["p", "p", "p", "p"] ∧
        Turns sample sampleStore turns u ∧ (∀ turn ∈ turns, turn.outcome = outcome) ∧
        ∀ turn ∈ turns.drop 2, turn.issued = [] := by
  have hkeyed := nodesKeyed_sampleStore
  have hstored := getElem?_sampleStore
  have hnames := sample_hasDistinctNames (.ofSpec samplePolicy.spec)
    (detected sampleStore samplePolicy)
  obtain ⟨hruns, outcome, hall⟩ :=
    passes_settle sample samplePolicy sampleStore hkeyed hstored hnames
  obtain ⟨turns, u, hpolicies, hturns⟩ := hruns 4
  have hpolicy : ∀ turn ∈ turns, turn.policy = samplePolicy.name := fun turn hturn =>
    (List.mem_replicate.mp (hpolicies ▸ List.mem_map_of_mem hturn)).2
  obtain ⟨houtcomes, hissued⟩ := hall turns u hturns hpolicy
  exact ⟨hkeyed, hstored, hnames, outcome, turns, u, hpolicies, hturns, houtcomes, hissued⟩

end GpuFleet.Operator
