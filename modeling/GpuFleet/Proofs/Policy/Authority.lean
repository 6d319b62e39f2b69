import GpuFleet.Policy.Authority

/-!
The choice of the policy in charge. It is made by the metadata of the policies, so that no report in
a status can change it. Age and name order policies of different names in one way, so that the
choice does not hang on the order of the list either.
-/
namespace GpuFleet

namespace Instant

instance : Std.TransOrd Instant :=
  inferInstanceAs (Std.TransCmp (compareLex (compareOn Instant.seconds) (compareOn Instant.nanos)))

/-- One instant is before another, by their seconds and then by their nanoseconds. -/
def Before (s t : Instant) : Prop :=
  s.seconds < t.seconds ∨ s.seconds = t.seconds ∧ s.nanos < t.nanos

theorem compare_eq_lt_iff (s t : Instant) : compare s t = .lt ↔ s.Before t := by
  change (compare s.seconds t.seconds).then (compare s.nanos t.nanos) = .lt ↔ s.Before t
  rw [Ordering.then_eq_lt, Int.compare_eq_lt, Int.compare_eq_eq, Nat.compare_eq_lt, Before]

instance : Std.LawfulEqOrd Instant where
  eq_of_compare {s t} h := by
    obtain ⟨hseconds, hnanos⟩ := Ordering.then_eq_eq.mp h
    cases s
    cases t
    rw [Instant.mk.injEq]
    exact ⟨Int.compare_eq_eq.mp hseconds, Nat.compare_eq_eq.mp hnanos⟩

end Instant

namespace Policy

theorem oldest?_cons (p : ClusterPolicy) (ps : List ClusterPolicy) :
    oldest? (p :: ps) =
      match oldest? ps with
      | none => some p
      | some q => if (q.ageOrder p).isLT then some q else some p := by
  unfold oldest?
  rw [oldestBy?]
  cases oldestBy? id ps <;> rfl

theorem ageOrder_congr {p p' q q' : ClusterPolicy} (hp : p.metadata = p'.metadata)
    (hq : q.metadata = q'.metadata) : p.ageOrder q = p'.ageOrder q' := by
  unfold ClusterPolicy.ageOrder
  rw [hp, hq]

/-- Lists with the same metadata have the same metadata in charge. -/
theorem oldest?_congr {ps qs : List ClusterPolicy}
    (h : ps.map (·.metadata) = qs.map (·.metadata)) :
    (oldest? ps).map (·.metadata) = (oldest? qs).map (·.metadata) := by
  induction ps generalizing qs with
  | nil =>
    rw [List.map_nil] at h
    rw [List.map_eq_nil_iff.mp h.symm]
  | cons p ps ih =>
    cases qs with
    | nil => cases h
    | cons q qs =>
      obtain ⟨hhead, htail⟩ := List.cons.inj h
      have hrest := ih htail
      rw [oldest?_cons, oldest?_cons]
      cases hp : oldest? ps with
      | none =>
        cases hq : oldest? qs with
        | none => exact congrArg some hhead
        | some y => simp [hp, hq] at hrest
      | some x =>
        cases hq : oldest? qs with
        | none => simp [hp, hq] at hrest
        | some y =>
          rw [hp, hq, Option.map_some, Option.map_some, Option.some.injEq] at hrest
          simp only [ageOrder_congr hrest hhead]
          split
          · exact congrArg some hrest
          · exact congrArg some hhead

/-! ## Age -/

namespace ClusterPolicy

instance : Std.TransCmp ageOrder :=
  inferInstanceAs (Std.TransCmp (compareLex
    (compareOn fun p : ClusterPolicy => p.metadata.creationTimestamp)
    (compareOn fun p : ClusterPolicy => p.metadata.name)))

theorem name_of_metadata {p : ClusterPolicy} {name : String} (h : p.metadata.name = some name) :
    p.name = name := by
  rw [ClusterPolicy.name, h, Option.getD_some]

/-- Policies of different names are never alike. -/
theorem name_eq_of_ageOrder {p q : ClusterPolicy} (h : p.ageOrder q = .eq) :
    p.metadata.name = q.metadata.name :=
  Std.LawfulEqCmp.eq_of_compare (Ordering.then_eq_eq.mp h).2

end ClusterPolicy

/-- One policy is older than another. Age is a matter of creation, and a policy whose creation is
unset is older than all that have one. Between policies of one age the names decide, and there a
policy without a name comes first. -/
inductive IsOlder (p q : ClusterPolicy) : Prop
  | unset {t : Instant} (hp : p.metadata.creationTimestamp = none)
      (hq : q.metadata.creationTimestamp = some t) : IsOlder p q
  | created {s t : Instant} (hp : p.metadata.creationTimestamp = some s)
      (hq : q.metadata.creationTimestamp = some t) (hbefore : s.Before t) : IsOlder p q
  | unnamed {b : String} (hage : p.metadata.creationTimestamp = q.metadata.creationTimestamp)
      (hp : p.metadata.name = none) (hq : q.metadata.name = some b) : IsOlder p q
  | named {a b : String} (hage : p.metadata.creationTimestamp = q.metadata.creationTimestamp)
      (hp : p.metadata.name = some a) (hq : q.metadata.name = some b) (hlt : a < b) : IsOlder p q

/-- What is unset comes before all that is set. -/
private theorem compare_option_eq_lt_iff {α : Type} [Ord α] {a b : Option α} :
    compare a b = .lt ↔
      a = none ∧ (∃ y, b = some y) ∨ ∃ x y, a = some x ∧ b = some y ∧ compare x y = .lt := by
  cases a <;> cases b <;> simp [compare]

theorem ageOrder_eq_lt_iff {p q : ClusterPolicy} : p.ageOrder q = .lt ↔ IsOlder p q := by
  rw [ClusterPolicy.ageOrder, Ordering.then_eq_lt, compare_option_eq_lt_iff,
    compare_option_eq_lt_iff, Std.LawfulEqOrd.compare_eq_iff_eq]
  constructor
  · rintro ((⟨hp, t, hq⟩ | ⟨s, t, hp, hq, hlt⟩) | ⟨hage, ⟨hp, b, hq⟩ | ⟨a, b, hp, hq, hlt⟩⟩)
    · exact .unset hp hq
    · exact .created hp hq ((Instant.compare_eq_lt_iff s t).mp hlt)
    · exact .unnamed hage hp hq
    · exact .named hage hp hq (compareOfLessAndEq_eq_lt.mp hlt)
  · rintro (⟨hp, hq⟩ | ⟨hp, hq, hbefore⟩ | ⟨hage, hp, hq⟩ | ⟨hage, hp, hq, hlt⟩)
    · exact .inl (.inl ⟨hp, _, hq⟩)
    · exact .inl (.inr ⟨_, _, hp, hq, (Instant.compare_eq_lt_iff _ _).mpr hbefore⟩)
    · exact .inr ⟨hage, .inl ⟨hp, _, hq⟩⟩
    · exact .inr ⟨hage, .inr ⟨_, _, hp, hq, compareOfLessAndEq_eq_lt.mpr hlt⟩⟩

/-! ## The least policy -/

variable {ps qs : List ClusterPolicy} {p q : ClusterPolicy}

theorem mem_of_oldest? (h : oldest? ps = some p) : p ∈ ps := by
  induction ps with
  | nil => cases h
  | cons q ps ih =>
    rw [oldest?_cons] at h
    cases hrest : oldest? ps with
    | none =>
      rw [hrest] at h
      cases h
      exact List.mem_cons_self
    | some r =>
      simp only [hrest] at h
      split at h
      · exact List.mem_cons_of_mem _ (ih (hrest.trans h))
      · cases h
        exact List.mem_cons_self

theorem oldest?_ne_none (h : q ∈ ps) : oldest? ps ≠ none := by
  cases ps with
  | nil => cases h
  | cons r ps =>
    rw [oldest?_cons]
    cases oldest? ps with
    | none => exact Option.some_ne_none _
    | some x =>
      simp only
      split <;> exact Option.some_ne_none _

/-- The choice is one of the least policies. -/
theorem isLE_of_oldest? (h : oldest? ps = some p) : ∀ q ∈ ps, (p.ageOrder q).isLE := by
  induction ps generalizing p with
  | nil => cases h
  | cons r ps ih =>
    rw [oldest?_cons] at h
    intro q hq
    cases hrest : oldest? ps with
    | none =>
      rw [hrest] at h
      cases h
      rcases List.mem_cons.mp hq with rfl | hq
      · exact Std.ReflCmp.isLE_rfl
      · exact absurd hrest (oldest?_ne_none hq)
    | some x =>
      have hx := ih hrest
      simp only [hrest] at h
      split at h
      · next hlt =>
        cases h
        rcases List.mem_cons.mp hq with rfl | hq
        · exact Ordering.isLE_of_eq_lt (Ordering.isLT_iff_eq_lt.mp hlt)
        · exact hx q hq
      · next hnot =>
        obtain rfl := Option.some.inj h
        have hle : (r.ageOrder x).isLE := by
          have hswap : r.ageOrder x = (x.ageOrder r).swap := Std.OrientedCmp.eq_swap
          rw [hswap]
          cases hcmp : x.ageOrder r <;> simp_all
        rcases List.mem_cons.mp hq with rfl | hq
        · exact Std.ReflCmp.isLE_rfl
        · exact Std.TransCmp.isLE_trans hle (hx q hq)

/-- Among policies of different names, the choice is the one that comes before all others. -/
theorem oldest?_eq_some_iff
    (hnames : ∀ p ∈ ps, ∀ q ∈ ps, p.metadata.name = q.metadata.name → p = q) :
    oldest? ps = some p ↔ p ∈ ps ∧ ∀ q ∈ ps, q ≠ p → p.ageOrder q = .lt := by
  constructor
  · intro h
    have hp := mem_of_oldest? h
    refine ⟨hp, fun q hq hne => ?_⟩
    have hle := isLE_of_oldest? h q hq
    cases hcmp : p.ageOrder q with
    | lt => rfl
    | eq => exact absurd (hnames p hp q hq (ClusterPolicy.name_eq_of_ageOrder hcmp)).symm hne
    | gt => simp [hcmp] at hle
  · rintro ⟨hp, hleast⟩
    obtain ⟨r, hr⟩ := Option.ne_none_iff_exists'.mp (oldest?_ne_none hp)
    by_cases hrp : r = p
    · rw [hr, hrp]
    · have hlt := hleast r (mem_of_oldest? hr) hrp
      have hle := isLE_of_oldest? hr p hp
      have hswap : r.ageOrder p = (p.ageOrder r).swap := Std.OrientedCmp.eq_swap
      rw [hswap, hlt] at hle
      cases hle

/-- The choice does not hang on the order of the list. -/
theorem oldest?_perm (hperm : qs.Perm ps)
    (hnames : ∀ p ∈ ps, ∀ q ∈ ps, p.metadata.name = q.metadata.name → p = q) :
    oldest? qs = oldest? ps := by
  have hnames' : ∀ p ∈ qs, ∀ q ∈ qs, p.metadata.name = q.metadata.name → p = q :=
    fun p hp q hq => hnames p (hperm.mem_iff.mp hp) q (hperm.mem_iff.mp hq)
  refine Option.ext fun p => ?_
  rw [oldest?_eq_some_iff hnames, oldest?_eq_some_iff hnames', hperm.mem_iff]
  simp only [hperm.mem_iff]

/-! ## Being in charge -/

/-- The policy of the name is in charge of the listed ones. -/
def isInCharge (policies : List ClusterPolicy) (name : String) : Bool :=
  (oldest? policies).all (·.metadata.name == some name)

theorem isInCharge_congr {ps qs : List ClusterPolicy}
    (h : ps.map (·.metadata) = qs.map (·.metadata)) (name : String) :
    isInCharge ps name = isInCharge qs name := by
  have hall : ∀ o : Option ClusterPolicy, o.all (·.metadata.name == some name) =
      (o.map (·.metadata)).all (·.name == some name) := by
    intro o
    cases o <;> rfl
  rw [isInCharge, isInCharge, hall, hall, oldest?_congr h]

end Policy

end GpuFleet
