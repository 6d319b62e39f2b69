import GpuFleet.Kube.Shape
import GpuFleet.Proofs.Json.Canonical

/-!
Normal forms of typed objects. A normal form has its members in the order of the shape, and for
every name at most one. So it can be told from every other normal form at its shape by its canonical
text, which does not show the order.
-/
namespace GpuFleet.Kube

namespace Shape

mutual

/-- A shape without a place for any value, whose records have distinct names. -/
def isClosed : Shape → Bool
  | .any => false
  | .list s | .dict s => isClosed s
  | .record fields => areClosed fields
  | .text | .flag | .int32 | .int64 | .intOrText | .quantity | .moment => true

def areClosed : List Field → Bool
  | [] => true
  | .optional name s :: fields | .required name s :: fields =>
    isClosed s && !(fields.map Field.name).contains name && areClosed fields

end

/-- What may stand at a place of the shape: a normal form, or the zero value. -/
def IsNormal (s : Shape) (v : Json) : Prop := (∃ x, s.normal? x = some v) ∨ v = s.zero

/-- The members of a record in normal form: some of the optional ones, and all that are required. -/
inductive NormalMembers : List Field → Members → Prop where
  | nil : NormalMembers [] []
  | unset {name s fields members} : NormalMembers fields members →
      NormalMembers (.optional name s :: fields) members
  | optional {name s v fields members} : IsNormal s v → NormalMembers fields members →
      NormalMembers (.optional name s :: fields) ((name, v) :: members)
  | required {name s v fields members} : IsNormal s v → NormalMembers fields members →
      NormalMembers (.required name s :: fields) ((name, v) :: members)

/-! ## What normal forms are made of -/

private theorem mem_of_mapM {α β : Type} {f : α → Option β} {as : List α} {bs : List β}
    (h : as.mapM f = some bs) : ∀ b ∈ bs, ∃ a ∈ as, f a = some b := by
  induction as generalizing bs with
  | nil =>
    cases h
    simp
  | cons a as ih =>
    simp only [List.mapM_cons, Option.bind_eq_bind, Option.bind_eq_some_iff, Option.pure_def,
      Option.some.injEq] at h
    obtain ⟨b, hb, rest, hrest, rfl⟩ := h
    intro c hc
    rcases List.mem_cons.mp hc with rfl | hc
    · exact ⟨a, List.mem_cons_self, hb⟩
    · obtain ⟨a', ha', hac⟩ := ih hrest c hc
      exact ⟨a', List.mem_cons_of_mem _ ha', hac⟩

private theorem exists_of_foldlM {f : Json → Option (Option Json)} {vs : List Json}
    {start last : Option Json} (h : vs.foldlM (fun _ v => f v) start = some last) :
    last = start ∨ ∃ v ∈ vs, f v = some last := by
  induction vs generalizing start with
  | nil =>
    cases h
    exact .inl rfl
  | cons v vs ih =>
    simp only [List.foldlM_cons, Option.bind_eq_bind, Option.bind_eq_some_iff] at h
    obtain ⟨next, hnext, h⟩ := h
    rcases ih h with rfl | ⟨w, hw, hlast⟩
    · exact .inr ⟨v, List.mem_cons_self, hnext⟩
    · exact .inr ⟨w, List.mem_cons_of_mem _ hw, hlast⟩

private theorem exists_of_lenient? {read : Json → Option Json} {key : String} {members : Members}
    {v : Json} (h : members.lenient? read key = some (some v)) : ∃ x, read x = some v := by
  rcases exists_of_foldlM h with h | ⟨x, -, hx⟩
  · cases h
  · refine ⟨x, ?_⟩
    cases x with
    | null => cases hx
    | _ => simpa [Json.orNull?] using hx

theorem isAtom_of_signed? {bits : Nat} {x v : Json} (h : signed? bits x = some v) :
    v.isAtom = true := by
  simp only [signed?, Option.bind_eq_bind, Option.bind_eq_some_iff] at h
  obtain ⟨n, hn, h⟩ := h
  split at h
  · cases h
    cases x with
    | number m =>
      cases m with
      | int m => rfl
      | real x => cases hn
    | _ => cases hn
  · cases h

private theorem isAtom_of_intOrText? {x v : Json} (h : intOrText? x = some v) :
    v.isAtom = true := by
  cases x with
  | string s =>
    cases h
    rfl
  | _ => exact isAtom_of_signed? h

private theorem isAtom_of_quantity? {x v : Json} (h : quantity? x = some v) :
    v.isAtom = true := by
  cases x with
  | string s =>
    cases h
    rfl
  | number n =>
    cases n with
    | int n =>
      cases h
      rfl
    | real x => cases h
  | _ => cases h

private theorem isAtom_of_moment? {x v : Json} (h : moment? x = some v) : v.isAtom = true := by
  simp only [moment?, Option.bind_eq_bind, Option.bind_eq_some_iff] at h
  obtain ⟨s, -, t, -, h⟩ := h
  cases h
  rfl

private theorem isNormal_list {s : Shape} {v : Json} (h : (Shape.list s).IsNormal v) :
    ∃ items, v = .array items ∧ ∀ i ∈ items, s.IsNormal i := by
  rcases h with ⟨x, h⟩ | rfl
  · simp only [normal?, Option.bind_eq_bind, Option.bind_eq_some_iff] at h
    obtain ⟨xs, -, items, hitems, h⟩ := h
    cases h
    refine ⟨items, rfl, fun i hi => ?_⟩
    obtain ⟨x, -, hx⟩ := mem_of_mapM hitems i hi
    exact .inl ⟨x, hx⟩
  · exact ⟨[], rfl, by simp⟩

private theorem sortMembers_spec (p : Json → Prop) {ms done : Members} (hdone : done.Ascending)
    (hp : ∀ m ∈ done, p m.2) (hms : ∀ m ∈ ms, p m.2) :
    (ms.foldl (fun done (k, v) => Json.insertSorted k v done) done).Pairwise (·.1 < ·.1) ∧
      ∀ m ∈ ms.foldl (fun done (k, v) => Json.insertSorted k v done) done, p m.2 := by
  induction ms generalizing done with
  | nil => exact ⟨hdone, hp⟩
  | cons m ms ih =>
    refine ih (Json.ascending_insertSorted m.1 m.2 hdone) (fun n hn => ?_)
      (fun n hn => hms n (List.mem_cons_of_mem _ hn))
    rcases Json.mem_insertSorted hn with rfl | hn
    · exact hms m List.mem_cons_self
    · exact hp n hn

private theorem isNormal_dict {s : Shape} {v : Json} (h : (Shape.dict s).IsNormal v) :
    ∃ members : Members, v = .object members ∧ members.Ascending ∧
      ∀ m ∈ members, s.IsNormal m.2 := by
  rcases h with ⟨x, h⟩ | rfl
  · simp only [normal?, Option.bind_eq_bind, Option.bind_eq_some_iff] at h
    obtain ⟨xs, -, members, hmembers, h⟩ := h
    cases h
    have hvalues : ∀ m ∈ members, s.IsNormal m.2 := by
      intro m hm
      obtain ⟨x, -, hx⟩ := mem_of_mapM hmembers m hm
      obtain ⟨w, hw, rfl⟩ := Option.map_eq_some_iff.mp hx
      exact .inl ⟨x.2, hw⟩
    exact ⟨_, rfl, sortMembers_spec s.IsNormal .nil (by simp) hvalues⟩
  · exact ⟨[], rfl, .nil, by simp⟩

private theorem normalMembers_zero (fields : List Field) :
    NormalMembers fields (zeroMembers fields) := by
  induction fields with
  | nil => exact .nil
  | cons f fields ih =>
    cases f with
    | optional name s => exact .unset ih
    | required name s => exact .required (.inr rfl) ih

theorem normalMembers_of_eq {fields : List Field} {x members : Members}
    (h : normalMembers? fields x = some members) : NormalMembers fields members := by
  induction fields generalizing members with
  | nil =>
    cases h
    exact .nil
  | cons f fields ih =>
    cases f with
    | optional name s =>
      simp only [normalMembers?, Option.bind_eq_bind, Option.bind_eq_some_iff] at h
      obtain ⟨v, hv, rest, hrest, h⟩ := h
      cases h
      cases v with
      | none => exact .unset (ih hrest)
      | some v => exact .optional (.inl (exists_of_lenient? hv)) (ih hrest)
    | required name s =>
      simp only [normalMembers?, Members.lenientD, Option.bind_eq_bind, Option.bind_eq_some_iff,
        Option.map_eq_some_iff] at h
      obtain ⟨v, ⟨o, ho, rfl⟩, rest, hrest, h⟩ := h
      cases h
      cases o with
      | none => exact .required (.inr rfl) (ih hrest)
      | some v => exact .required (.inl (exists_of_lenient? ho)) (ih hrest)

theorem isNormal_record {fields : List Field} {v : Json}
    (h : (Shape.record fields).IsNormal v) :
    ∃ members, v = .object members ∧ NormalMembers fields members := by
  rcases h with ⟨x, h⟩ | rfl
  · simp only [normal?, Option.bind_eq_bind, Option.bind_eq_some_iff] at h
    obtain ⟨xs, -, members, hmembers, h⟩ := h
    cases h
    exact ⟨members, rfl, normalMembers_of_eq hmembers⟩
  · exact ⟨_, rfl, normalMembers_zero fields⟩

private theorem lookup_normalMembers {fields : List Field} {members : Members} {key : String}
    (h : NormalMembers fields members) (hkey : key ∉ fields.map Field.name) :
    members.lookup key = none := by
  induction h with
  | nil => rfl
  | unset _ ih => exact ih fun hm => hkey (List.mem_cons_of_mem _ hm)
  | optional _ _ ih | required _ _ ih =>
    have hne := beq_false_of_ne (List.ne_of_not_mem_cons hkey)
    rw [List.lookup_cons]
    simp only [Field.name] at hne
    rw [hne]
    exact ih fun hm => hkey (List.mem_cons_of_mem _ hm)

/-! ## Uniqueness -/

/-- Removing the same first name leaves lookups alike. -/
private theorem lookup_tail_eq {fields : List Field} {name : String} {v w : Json}
    {ms ns : Members} (hms : NormalMembers fields ms) (hns : NormalMembers fields ns)
    (hname : name ∉ fields.map Field.name)
    (h : ∀ key, (List.lookup key ((name, v) :: ms)).map Json.canonical =
      (List.lookup key ((name, w) :: ns)).map Json.canonical) :
    v.canonical = w.canonical ∧
      ∀ key, (ms.lookup key).map Json.canonical = (ns.lookup key).map Json.canonical := by
  constructor
  · have hv := h name
    rw [List.lookup_cons_self, List.lookup_cons_self] at hv
    exact Option.some.inj hv
  · intro key
    by_cases hkey : key = name
    · rw [hkey, lookup_normalMembers hms hname, lookup_normalMembers hns hname]
    · simpa [List.lookup_cons, beq_false_of_ne hkey] using h key

private theorem eq_of_forall₂ {α : Type} {p : α → Prop} {r : α → α → Prop} {as bs : List α}
    (h : List.Forall₂ r as bs) (ha : ∀ a ∈ as, p a) (hb : ∀ b ∈ bs, p b)
    (hr : ∀ a b, p a → p b → r a b → a = b) : as = bs := by
  induction h with
  | nil => rfl
  | cons hab _ ih =>
    simp only [List.forall_mem_cons] at ha hb
    rw [hr _ _ ha.1 hb.1 hab, ih ha.2 hb.2]

private theorem isAtom_normal {s : Shape} {v : Json} (h : s.IsNormal v)
    (hzero : s.zero.isAtom = true) (hread : ∀ x w, s.normal? x = some w → w.isAtom = true) :
    v.isAtom = true := by
  rcases h with ⟨x, hx⟩ | rfl
  · exact hread x v hx
  · exact hzero

mutual

/-- At a closed shape, a canonical text belongs to one normal form only. -/
theorem isNormal_unique : ∀ (s : Shape) {v w : Json}, s.isClosed = true → s.IsNormal v →
    s.IsNormal w → v.canonical = w.canonical → v = w
  | .text, v, w, _, hv, hw, h => by
    have hread : ∀ x u, Shape.text.normal? x = some u → u.isAtom = true := by
      intro x u hx
      obtain ⟨s, -, rfl⟩ := Option.map_eq_some_iff.mp hx
      rfl
    exact Json.eq_of_canonical_eq (isAtom_normal hv rfl hread) (isAtom_normal hw rfl hread) h
  | .flag, v, w, _, hv, hw, h => by
    have hread : ∀ x u, Shape.flag.normal? x = some u → u.isAtom = true := by
      intro x u hx
      obtain ⟨b, -, rfl⟩ := Option.map_eq_some_iff.mp hx
      rfl
    exact Json.eq_of_canonical_eq (isAtom_normal hv rfl hread) (isAtom_normal hw rfl hread) h
  | .int32, v, w, _, hv, hw, h =>
    Json.eq_of_canonical_eq (isAtom_normal hv rfl fun _ _ => isAtom_of_signed?)
      (isAtom_normal hw rfl fun _ _ => isAtom_of_signed?) h
  | .int64, v, w, _, hv, hw, h =>
    Json.eq_of_canonical_eq (isAtom_normal hv rfl fun _ _ => isAtom_of_signed?)
      (isAtom_normal hw rfl fun _ _ => isAtom_of_signed?) h
  | .intOrText, v, w, _, hv, hw, h =>
    Json.eq_of_canonical_eq (isAtom_normal hv rfl fun _ _ => isAtom_of_intOrText?)
      (isAtom_normal hw rfl fun _ _ => isAtom_of_intOrText?) h
  | .quantity, v, w, _, hv, hw, h =>
    Json.eq_of_canonical_eq (isAtom_normal hv rfl fun _ _ => isAtom_of_quantity?)
      (isAtom_normal hw rfl fun _ _ => isAtom_of_quantity?) h
  | .moment, v, w, _, hv, hw, h =>
    Json.eq_of_canonical_eq (isAtom_normal hv rfl fun _ _ => isAtom_of_moment?)
      (isAtom_normal hw rfl fun _ _ => isAtom_of_moment?) h
  | .any, v, w, hs, _, _, _ => by cases hs
  | .list s, v, w, hs, hv, hw, h => by
    obtain ⟨vs, rfl, hvs⟩ := isNormal_list hv
    obtain ⟨ws, rfl, hws⟩ := isNormal_list hw
    rw [eq_of_forall₂ (Json.canonical_array_iff.mp h) hvs hws
      fun a b ha hb hab => isNormal_unique s hs ha hb hab]
  | .dict s, v, w, hs, hv, hw, h => by
    obtain ⟨ms, rfl, hasc, hms⟩ := isNormal_dict hv
    obtain ⟨ns, rfl, hasc', hns⟩ := isNormal_dict hw
    have halike := (Members.forall₂_iff_lookup Json.canonical hasc hasc').mpr
      (Json.canonical_object_iff.mp h)
    rw [eq_of_forall₂ halike hms hns fun a b ha hb hab =>
      Prod.ext hab.1 (isNormal_unique s hs ha hb hab.2)]
  | .record fields, v, w, hs, hv, hw, h => by
    obtain ⟨ms, rfl, hms⟩ := isNormal_record hv
    obtain ⟨ns, rfl, hns⟩ := isNormal_record hw
    rw [normalMembers_unique fields hs hms hns (Json.canonical_object_iff.mp h)]

theorem normalMembers_unique : ∀ (fields : List Field) {ms ns : Members},
    areClosed fields = true → NormalMembers fields ms → NormalMembers fields ns →
    (∀ key, (ms.lookup key).map Json.canonical = (ns.lookup key).map Json.canonical) → ms = ns
  | [], ms, ns, _, hms, hns, _ => by
    cases hms
    cases hns
    rfl
  | .optional name s :: fields, ms, ns, hf, hms, hns, h => by
    simp only [areClosed, Bool.and_eq_true, Bool.not_eq_true', List.contains_eq_mem,
      decide_eq_false_iff_not] at hf
    obtain ⟨⟨hs, hname⟩, hfields⟩ := hf
    cases hms with
    | unset hms =>
      cases hns with
      | unset hns => exact normalMembers_unique fields hfields hms hns h
      | optional hw hns =>
        have hnone := h name
        rw [lookup_normalMembers hms hname, List.lookup_cons_self] at hnone
        cases hnone
    | optional hv hms =>
      cases hns with
      | unset hns =>
        have hnone := h name
        rw [lookup_normalMembers hns hname, List.lookup_cons_self] at hnone
        cases hnone
      | optional hw hns =>
        obtain ⟨hhead, htail⟩ := lookup_tail_eq hms hns hname h
        rw [isNormal_unique s hs hv hw hhead, normalMembers_unique fields hfields hms hns htail]
  | .required name s :: fields, ms, ns, hf, hms, hns, h => by
    simp only [areClosed, Bool.and_eq_true, Bool.not_eq_true', List.contains_eq_mem,
      decide_eq_false_iff_not] at hf
    obtain ⟨⟨hs, hname⟩, hfields⟩ := hf
    cases hms with
    | required hv hms =>
      cases hns with
      | required hw hns =>
        obtain ⟨hhead, htail⟩ := lookup_tail_eq hms hns hname h
        rw [isNormal_unique s hs hv hw hhead, normalMembers_unique fields hfields hms hns htail]

end

end Shape

end GpuFleet.Kube
