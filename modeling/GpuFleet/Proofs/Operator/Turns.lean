import GpuFleet.Proofs.Cluster.Charge
import GpuFleet.Proofs.Operator.Ending

/-!
Passes for several policies. They follow one another in any order, each for a policy as it is then
stored. No pass changes who is in charge, and a pass for any other policy writes nothing but its
status; so a single policy acts on the cluster in the whole run.
-/
namespace GpuFleet

namespace Cluster.Store

/-- Every policy has a name, under which it is stored. -/
def PoliciesNamed (s : Store) : Prop :=
  ∀ (key : String) p, s.policies[key]? = some p → p.metadata.name = some key

theorem PoliciesNamed.keyed {s : Store} (h : s.PoliciesNamed) : s.PoliciesKeyed :=
  fun key p hp => Policy.ClusterPolicy.name_of_metadata (h key p hp)

theorem PoliciesNamed.congr {s t : Store} (h : s.PoliciesNamed) (hmeta : t.metadata = s.metadata) :
    t.PoliciesNamed := by
  intro key q hq
  obtain ⟨p, hp, hsame⟩ := exists_of_metadata hmeta hq
  rw [← hsame]
  exact h key p hp

end Cluster.Store

/-- The write tells of a policy, and changes neither nodes nor DaemonSets. -/
def Cluster.Write.isStatus : Cluster.Write → Bool
  | .status .. => true
  | .nodeLabels .. | .apply .. | .delete .. => false

namespace Operator

open Cluster (Store Write Failure KeptByCalls Keeps exec)
open Policy (ClusterPolicy State isInCharge)

variable {op : Operator} {p : ClusterPolicy} {s t u : Store} {outcome : Except Failure State}

/-! ## What a pass leaves alone -/

/-- What the calls of a pass keep, holds after it. -/
theorem kept_of_exec_pass {I : Store → Prop} (hcalls : KeptByCalls I p.name) (hs : I s)
    (h : exec (op.pass p) s = (outcome, t)) : I t := by
  have hkeeps : Keeps I (op.pass p) := keeps_pass hcalls
  have ht := hkeeps s hs
  rw [h] at ht
  exact ht

theorem metadata_of_exec_pass (h : exec (op.pass p) s = (outcome, t)) :
    t.metadata = s.metadata :=
  kept_of_exec_pass (Store.keptByCalls_metadata s.metadata) rfl h

theorem nodesKeyed_of_pass (hkeyed : s.NodesKeyed) (h : exec (op.pass p) s = (outcome, t)) :
    t.NodesKeyed := by
  refine kept_of_exec_pass
    (Store.keptByCalls (fun s t hwork hs => ?_) fun s t htelling hs => ?_) hkeyed h
  · cases hwork with
    | patched name n patch hn =>
      intro key m hm
      simp only [Store.note, Std.ExtTreeMap.getElem?_insert] at hm
      split at hm
      · next hkey =>
        obtain rfl := Std.LawfulEqCmp.eq_of_compare hkey
        cases hm
        exact hs name n hn
      · exact hs key m hm
    | _ => exact hs
  · cases htelling with
    | missed report =>
      unfold Store.tick
      split <;> exact hs
    | written report q _ =>
      unfold Store.note Store.tick
      split <;> exact hs

/-- The policies other than that of the pass are left as they are. -/
theorem policies_of_exec_pass {key : String} (hne : key ≠ p.name)
    (h : exec (op.pass p) s = (outcome, t)) : t.policies[key]? = s.policies[key]? := by
  have hcalls : KeptByCalls (fun t : Store => t.policies[key]? = s.policies[key]?) p.name := by
    refine Store.keptByCalls (fun t u hwork ht => ?_) fun t u htelling ht => ?_
    · cases hwork <;> exact ht
    · cases htelling with
      | missed report =>
        rw [Store.policies_tick]
        exact ht
      | written report q _ =>
        rw [← ht]
        simp [Store.note, Std.ExtTreeMap.getElem?_insert, hne.symm]
  exact kept_of_exec_pass hcalls rfl h

/-- What has been written stays written. -/
theorem log_of_exec_pass (h : exec (op.pass p) s = (outcome, t)) :
    ∃ issued, t.log = s.log ++ issued := by
  have hnote : ∀ (t : Store) (w : Write), (∃ issued, t.log = s.log ++ issued) →
      ∃ issued, t.log ++ [w] = s.log ++ issued := by
    rintro t w ⟨issued, hlog⟩
    exact ⟨issued ++ [w], by rw [hlog, List.append_assoc]⟩
  have hcalls : KeptByCalls (fun t : Store => ∃ issued, t.log = s.log ++ issued) p.name := by
    refine Store.keptByCalls (fun t u hwork ht => ?_) fun t u htelling ht => ?_
    · cases hwork with
      | idle => exact ht
      | _ => exact hnote t _ ht
    · cases htelling with
      | missed report =>
        rw [Store.log_tick]
        exact ht
      | written report q _ =>
        simp only [Store.note, Store.log_tick]
        exact hnote t _ ht
  exact kept_of_exec_pass hcalls ⟨[], (List.append_nil _).symm⟩ h

/-! ## Being ignored -/

/-- A pass ends with the policy ignored exactly if another one is in charge. -/
theorem Ending.ignored_iff {name : String} {state : State} {error : Option String}
    (h : Ending op p name s outcome state error t) :
    (outcome = .ok .ignored ↔ isInCharge s.policies.values name = false) ∧
      (state = .ignored ↔ isInCharge s.policies.values name = false) := by
  cases h with
  | decided hverdict => cases hverdict <;> simp_all
  | failed hcharge => simp_all

/-- Nothing is done for a policy that is ignored. -/
theorem Ending.eq_of_ignored {name : String} {state : State} {error : Option String}
    (h : Ending op p name s outcome state error t)
    (hcharge : isInCharge s.policies.values name = false) : t = s := by
  cases h with
  | decided hverdict => cases hverdict <;> simp_all
  | failed hcharge' => simp_all

/-- A policy that has been told a state has that state. -/
theorem state_told (op : Operator) (p : ClusterPolicy) (state : State) (error : Option String)
    (s : Store) : (op.told p state error s).status.map (·.state) = some state := by
  obtain ⟨status, hstatus, hstate, -⟩ := status_told op p state error s
  rw [hstatus, Option.map_some, hstate]

/-- A report writes the status of its policy at most, and nothing but what it reports. -/
theorem log_reported (op : Operator) (p : ClusterPolicy) (state : State) (error : Option String)
    (s : Store) : (op.reported p state error s).log = s.log ∨
      ∃ r, (op.reported p state error s).log = s.log ++ [.status p.name r] ∧
        r.state = state ∧ r.error = error := by
  unfold reported
  cases hreport : Policy.Status.report? p.status state op.ns error with
  | none => exact .inl rfl
  | some r =>
    unfold Policy.Status.report? at hreport
    split at hreport
    · cases hreport
      exact .inr ⟨_, congrArg (· ++ _) (Store.log_tick s _), rfl, rfl⟩
    · cases hreport

/-- The status of the stored policy of the name says that it is ignored exactly if another one is in
charge. -/
def ToldRight (s : Store) (name : String) : Prop :=
  ∀ q, s.policies[name]? = some q →
    (q.status.map (·.state) = some .ignored ↔ isInCharge s.policies.values name = false)

/-- However a pass for a stored policy has ended, its ending is what has been reported. -/
theorem ending_of_exec_pass {name : String} (hkeyed : s.NodesKeyed)
    (hstored : s.policies[p.name]? = some p) (hname : p.metadata.name = some name)
    (h : exec (op.pass p) s = (outcome, t)) :
    ∃ state error u, Ending op p name s outcome state error u ∧
      t = op.reported p state error u := by
  obtain ⟨outcome', state, error, u, hending, hexec⟩ := exec_pass op hkeyed hstored hname
  rw [h, Prod.mk.injEq] at hexec
  obtain ⟨rfl, rfl⟩ := hexec
  exact ⟨state, error, u, hending, rfl⟩

theorem toldRight_of_exec_pass {name : String} (hkeyed : s.NodesKeyed)
    (hstored : s.policies[name]? = some p) (hname : p.metadata.name = some name)
    (h : exec (op.pass p) s = (outcome, t)) : ToldRight t name := by
  obtain rfl := ClusterPolicy.name_of_metadata hname
  have hmeta := metadata_of_exec_pass h
  obtain ⟨state, error, u, hending, rfl⟩ := ending_of_exec_pass hkeyed hstored hname h
  have hstored' : u.policies[p.name]? = some p := by
    rw [hending.policies]
    exact hstored
  intro q hq
  rw [getElem?_reported_self op p state error hstored', Option.some.injEq] at hq
  rw [← hq, state_told, Option.some.injEq, hending.ignored_iff.2,
    Store.isInCharge_congr_metadata hmeta]

/-- A pass for another policy leaves what a policy has been told. -/
theorem ToldRight.of_exec_pass {name : String} (htold : ToldRight s name) (hne : name ≠ p.name)
    (h : exec (op.pass p) s = (outcome, t)) : ToldRight t name := by
  intro q hq
  rw [policies_of_exec_pass hne h] at hq
  rw [htold q hq, Store.isInCharge_congr_metadata (metadata_of_exec_pass h)]

/-- What a pass for a policy comes to by its being in charge. -/
theorem ignored_of_exec_pass {name : String} {issued : List Write} (hkeyed : s.NodesKeyed)
    (hstored : s.policies[name]? = some p) (hname : p.metadata.name = some name)
    (h : exec (op.pass p) s = (outcome, t)) (hlog : t.log = s.log ++ issued) :
    (outcome = .ok .ignored ↔ isInCharge s.policies.values name = false) ∧
      (isInCharge s.policies.values name = false →
        issued = [] ∨ ∃ r, issued = [.status name r]) := by
  obtain rfl := ClusterPolicy.name_of_metadata hname
  obtain ⟨state, error, u, hending, rfl⟩ := ending_of_exec_pass hkeyed hstored hname h
  refine ⟨hending.ignored_iff.1, fun hcharge => ?_⟩
  obtain rfl := hending.eq_of_ignored hcharge
  rcases log_reported op p state error u with hsame | ⟨r, hwritten, -⟩
  · rw [hlog, List.append_right_eq_self] at hsame
    exact .inl hsame
  · rw [hlog, List.append_cancel_left_eq] at hwritten
    exact .inr ⟨r, hwritten⟩

/-! ## Turns of several policies -/

/-- A pass for the policy that is stored under a name: what has come of it, and what it has
written. -/
structure Turn where
  policy : String
  outcome : Except Failure State
  issued : List Write

/-- Turns one after another, each for its policy as it is then stored. -/
inductive Turns (op : Operator) : Store → List Turn → Store → Prop
  | nil (s : Store) : Turns op s [] s
  | cons {s t u : Store} {p : ClusterPolicy} {turn : Turn} {turns : List Turn} :
      s.policies[turn.policy]? = some p → exec (op.pass p) s = (turn.outcome, t) →
      t.log = s.log ++ turn.issued → Turns op t turns u → Turns op s (turn :: turns) u

variable {turn : Turn} {turns : List Turn}

theorem Turns.metadata (h : Turns op s turns u) : u.metadata = s.metadata := by
  induction h with
  | nil s => rfl
  | cons _ hpass _ _ ih => exact ih.trans (metadata_of_exec_pass hpass)

/-- There are turns for any stored policies in any order. -/
theorem exists_turns (op : Operator) (names : List String)
    (hstored : ∀ name ∈ names, s.metadata[name]?.isSome) :
    ∃ turns u, turns.map (·.policy) = names ∧ Turns op s turns u := by
  induction names generalizing s with
  | nil => exact ⟨[], s, rfl, .nil s⟩
  | cons name names ih =>
    have hname := hstored name List.mem_cons_self
    rw [Store.getElem?_metadata, Option.isSome_map] at hname
    obtain ⟨p, hp⟩ := Option.isSome_iff_exists.mp hname
    rcases hpass : exec (op.pass p) s with ⟨outcome, t⟩
    obtain ⟨issued, hlog⟩ := log_of_exec_pass hpass
    obtain ⟨turns, u, hnames, hturns⟩ := ih (s := t) fun name hmem => by
      rw [metadata_of_exec_pass hpass]
      exact hstored name (List.mem_cons_of_mem _ hmem)
    exact ⟨⟨name, outcome, issued⟩ :: turns, u, by rw [List.map_cons, hnames],
      .cons hp hpass hlog hturns⟩

/-- In a run of turns, those for policies that are not in charge write no more than a status of
theirs. -/
theorem Turns.ignored (hkeyed : s.NodesKeyed) (hnamed : s.PoliciesNamed)
    (h : Turns op s turns u) : ∀ turn ∈ turns,
      (turn.outcome = .ok .ignored ↔ isInCharge s.policies.values turn.policy = false) ∧
      (isInCharge s.policies.values turn.policy = false →
        turn.issued = [] ∨ ∃ r, turn.issued = [.status turn.policy r]) := by
  induction h with
  | nil s => nofun
  | @cons s t u p turn turns hp hpass hlog _ ih =>
    have hmeta := metadata_of_exec_pass hpass
    intro other hother
    -- who is in charge when a later turn begins has been so from the start
    rcases List.mem_cons.mp hother with rfl | hother
    · exact ignored_of_exec_pass hkeyed hp (hnamed _ p hp) hpass hlog
    · rw [← Store.isInCharge_congr_metadata hmeta]
      exact ih (nodesKeyed_of_pass hkeyed hpass) (hnamed.congr hmeta) other hother

/-- In a run of turns, a policy has been told right after it has had a turn. -/
theorem Turns.toldRight {name : String} (hkeyed : s.NodesKeyed) (hnamed : s.PoliciesNamed)
    (h : Turns op s turns u) (hname : ToldRight s name ∨ name ∈ turns.map (·.policy)) :
    ToldRight u name := by
  induction h with
  | nil s => exact hname.resolve_right List.not_mem_nil
  | @cons s t u p turn turns hp hpass _ _ ih =>
    have hpname := hnamed _ p hp
    refine ih (nodesKeyed_of_pass hkeyed hpass) (hnamed.congr (metadata_of_exec_pass hpass)) ?_
    by_cases hself : name = turn.policy
    · subst hself
      exact .inl (toldRight_of_exec_pass hkeyed hp hpname hpass)
    · refine hname.imp (fun htold => ?_) fun hmem => ?_
      · refine htold.of_exec_pass ?_ hpass
        rwa [ClusterPolicy.name_of_metadata hpname]
      · exact (List.mem_cons.mp hmem).resolve_left hself

/-! ## The only one that acts -/

/-- In the turns that lead from one cluster to the other, only the policy of the name acts. -/
structure ActsAlone (name : String) (s : Store) (turns : List Turn) (u : Store) : Prop where
  /-- It is the choice in whatever order the policies are listed. -/
  choice : ∀ listing, listing.Perm u.policies.values →
    (Policy.oldest? listing).map (·.metadata.name) = some (some name)
  /-- Nodes and DaemonSets are written in its turns only. -/
  work : ∀ turn ∈ turns, ∀ w ∈ turn.issued, w.isStatus = false → turn.policy = name
  /-- A turn for another policy writes that policy's status at most. -/
  others : ∀ turn ∈ turns, turn.policy ≠ name → turn.outcome = .ok .ignored ∧
    (turn.issued = [] ∨ ∃ r, turn.issued = [.status turn.policy r])
  /-- Once every policy has had a turn, exactly the others are stored as ignored. -/
  told : (∀ key ∈ s.policies, key ∈ turns.map (·.policy)) →
    ∀ (key : String) q, u.policies[key]? = some q →
      (q.status.map (·.state) = some .ignored ↔ key ≠ name)

theorem Turns.actsAlone (hkeyed : s.NodesKeyed) (hnamed : s.PoliciesNamed)
    (hcharge : s.inCharge? = some p) (h : Turns op s turns u) : ActsAlone p.name s turns u := by
  have hmeta := h.metadata
  have hnamed' := hnamed.congr hmeta
  have hchosen := ((Store.inCharge?_eq_some_iff hnamed.keyed).mp hcharge).1
  have hpname : p.metadata.name = some p.name := hnamed _ p hchosen
  have hignored : ∀ name, isInCharge s.policies.values name = false ↔ name ≠ p.name := by
    intro name
    rw [isInCharge, ← Store.inCharge?, hcharge, Option.all_some, hpname, beq_eq_false_iff_ne,
      ne_eq, Option.some.injEq, eq_comm]
  refine ⟨fun listing hperm => ?_, fun turn hturn w hw hstatus => ?_, fun turn hturn hne => ?_,
    fun hall key q hq => ?_⟩
  · rw [Policy.oldest?_perm hperm (Store.eq_of_mem_values hnamed'.keyed), ← Store.inCharge?]
    have hsame := congrArg (·.map (·.name)) (Store.inCharge?_congr_metadata hmeta)
    simpa [hcharge, hpname, Function.comp_def] using hsame
  · refine Classical.byContradiction fun hne => ?_
    rcases (h.ignored hkeyed hnamed turn hturn).2 ((hignored _).mpr hne) with hnone | ⟨r, hone⟩
    · rw [hnone] at hw
      cases hw
    · rw [hone, List.mem_singleton] at hw
      rw [hw] at hstatus
      cases hstatus
  · obtain ⟨houtcome, hissued⟩ := h.ignored hkeyed hnamed turn hturn
    exact ⟨houtcome.mpr ((hignored _).mpr hne), hissued ((hignored _).mpr hne)⟩
  · have hkey : key ∈ s.policies := by
      rw [Std.ExtTreeMap.mem_iff_isSome_getElem?, ← Option.isSome_map, ← Store.getElem?_metadata,
        ← hmeta, Store.getElem?_metadata, hq]
      rfl
    rw [h.toldRight hkeyed hnamed (.inr (hall key hkey)) q hq,
      Store.isInCharge_congr_metadata hmeta, hignored]

/-- Of the policies of a cluster only the one that is older than all others ever acts. There are
turns for any stored policies in any order, and none of them changes that. -/
theorem only_oldest_acts (op : Operator) (hkeyed : s.NodesKeyed) (hnamed : s.PoliciesNamed)
    (hsome : s.policies ≠ ∅) :
    ∃ name p, s.policies[name]? = some p ∧
      (∀ (key : String) q, s.policies[key]? = some q → key ≠ name → Policy.IsOlder p q) ∧
      (∀ names : List String, (∀ key ∈ names, key ∈ s.policies) →
        ∃ turns u, turns.map (·.policy) = names ∧ Turns op s turns u) ∧
      ∀ turns u, Turns op s turns u → ActsAlone name s turns u := by
  have hcharge : s.inCharge? ≠ none := by
    intro hnone
    refine hsome (Std.ExtTreeMap.ext_getElem? fun key => ?_)
    cases hp : s.policies[key]? with
    | none => rfl
    | some p => exact absurd hnone (Store.inCharge?_ne_none hp)
  obtain ⟨p, hp⟩ := Option.ne_none_iff_exists'.mp hcharge
  obtain ⟨hstored, hleast⟩ := (Store.inCharge?_eq_some_iff hnamed.keyed).mp hp
  refine ⟨p.name, p, hstored, fun key q hq hne => ?_, fun names hnames => ?_,
    fun turns u h => h.actsAlone hkeyed hnamed hp⟩
  · exact Policy.ageOrder_eq_lt_iff.mp (hleast key q hq hne)
  refine exists_turns op names fun key hkey => ?_
  rw [Store.getElem?_metadata, Option.isSome_map]
  exact Std.ExtTreeMap.mem_iff_isSome_getElem?.mp (hnames key hkey)

/-! ## An older and a newer policy

Their names are the other way round. -/

def elder : ClusterPolicy where
  metadata := { name := some "b", creationTimestamp := some ⟨1, 0⟩ }

def younger : ClusterPolicy where
  metadata := { name := some "a", creationTimestamp := some ⟨2, 0⟩ }

def twoPolicies : Store := (({} : Store).putPolicy elder).putPolicy younger

theorem getElem?_twoPolicies (key : String) : twoPolicies.policies[key]? =
    if key = "a" then some younger else if key = "b" then some elder else none := by
  have hnames : elder.name = "b" ∧ younger.name = "a" := ⟨rfl, rfl⟩
  simp only [twoPolicies, Store.putPolicy, Std.ExtTreeMap.getElem?_insert, hnames,
    Std.ExtTreeMap.getElem?_empty, Std.LawfulEqOrd.compare_eq_iff_eq, @eq_comm _ _ key]

theorem policiesNamed_twoPolicies : twoPolicies.PoliciesNamed := by
  intro key p hp
  rw [getElem?_twoPolicies] at hp
  split at hp
  · next hkey =>
    cases hp
    rw [hkey]
    rfl
  · split at hp
    · next hkey =>
      cases hp
      rw [hkey]
      rfl
    · cases hp

theorem only_oldest_acts_two : ∃ turns u, turns.map (·.policy) = ["a", "b", "a"] ∧
    Turns sample twoPolicies turns u ∧ ActsAlone "b" twoPolicies turns u := by
  have helder : twoPolicies.policies[("b" : String)]? = some elder := getElem?_twoPolicies "b"
  have hsome : twoPolicies.policies ≠ ∅ := by
    intro hempty
    rw [hempty] at helder
    cases helder
  obtain ⟨name, p, hp, hleast, hturns, halone⟩ :=
    only_oldest_acts (s := twoPolicies) sample Store.nodesKeyed_empty policiesNamed_twoPolicies
      hsome
  have hname : name = "b" := by
    refine Classical.byContradiction fun hne => ?_
    have holder := Policy.ageOrder_eq_lt_iff.mpr (hleast "b" elder helder (Ne.symm hne))
    rw [getElem?_twoPolicies, if_neg hne] at hp
    split at hp
    · cases hp
      revert holder
      decide
    · cases hp
  subst hname
  obtain ⟨turns, u, hnames, hrun⟩ := hturns ["a", "b", "a"] fun key hkey => by
    rw [Std.ExtTreeMap.mem_iff_isSome_getElem?, getElem?_twoPolicies]
    revert key
    decide
  exact ⟨turns, u, hnames, hrun, halone turns u hrun⟩

end Operator

end GpuFleet
