import GpuFleet.Proofs.Policy.Published

/-!
The places of a value that a document describes: which forms stand there that only the decoder
knows, and where an absent property could be written out with its default.
-/
namespace GpuFleet.Policy

/-! ## Places -/

/-- Where the first document describes the first value, the second one describes the second value,
which is a part of it. -/
inductive Part : Json → Json → Json → Json → Prop
  | here {doc v : Json} : Part doc v doc v
  | member {doc sub v w : Json} {p : String × Json} {members : Members} : p ∈ properties doc →
      v ∈ members.values p.1 → Part p.2 v sub w → Part doc (.object members) sub w
  | item {doc sub v w : Json} {items : List Json} : v ∈ items → Part (doc.get "items") v sub w →
      Part doc (.array items) sub w

/-- No array stands where an object belongs. -/
def NoListForRecord (doc v : Json) : Prop :=
  ∀ sub w, Part doc v sub w → sub.get "type" = .string "object" → w.array? = none

/-- No object stands where the name of a constant belongs. -/
def NoObjectForName (doc v : Json) : Prop :=
  ∀ sub w, Part doc v sub w → sub.get "enum" ≠ .null → w.object? = none

/-- Neither of the forms that only the decoder knows occurs. -/
def Plain (doc v : Json) : Prop := NoListForRecord doc v ∧ NoObjectForName doc v

namespace Plain

variable {doc doc' v w : Json} {members : Members} {items : List Json}

theorem iff_parts : Plain doc v ↔ ∀ sub w, Part doc v sub w →
    (sub.get "type" = .string "object" → w.array? = none) ∧
      (sub.get "enum" ≠ .null → w.object? = none) :=
  ⟨fun h sub w hpart => ⟨h.1 sub w hpart, h.2 sub w hpart⟩,
    fun h => ⟨fun sub w hpart => (h sub w hpart).1, fun sub w hpart => (h sub w hpart).2⟩⟩

theorem object_iff : Plain doc (.object members) ↔ doc.get "enum" = .null ∧
    ∀ p ∈ properties doc, ∀ v ∈ members.values p.1, Plain p.2 v := by
  simp only [iff_parts]
  constructor
  · intro h
    refine ⟨Decidable.byContradiction fun henum => ?_, fun p hp v hv sub w hpart =>
      h sub w (.member hp hv hpart)⟩
    exact absurd ((h _ _ .here).2 henum) (Option.some_ne_none _)
  · rintro ⟨henum, hmembers⟩ sub w hpart
    cases hpart with
    | here => exact ⟨fun _ => rfl, fun hne => absurd henum hne⟩
    | member hp hv hpart => exact hmembers _ hp _ hv sub w hpart

theorem array_iff : Plain doc (.array items) ↔ doc.get "type" ≠ .string "object" ∧
    ∀ v ∈ items, Plain (doc.get "items") v := by
  simp only [iff_parts]
  constructor
  · intro h
    refine ⟨fun htype => ?_, fun v hv sub w hpart => h sub w (.item hv hpart)⟩
    exact absurd ((h _ _ .here).1 htype) (Option.some_ne_none _)
  · rintro ⟨htype, hitems⟩ sub w hpart
    cases hpart with
    | here => exact ⟨fun hobject => absurd hobject htype, fun _ => rfl⟩
    | item hv hpart => exact hitems _ hv sub w hpart

theorem of_atom (hobject : v.object? = none) (harray : v.array? = none) : Plain doc v := by
  rw [iff_parts]
  intro sub w hpart
  cases hpart with
  | here => exact ⟨fun _ => harray, fun _ => hobject⟩
  | member => cases hobject
  | item => cases harray

theorem null : Plain doc .null := of_atom rfl rfl

theorem of_sameRules (h : SameRules doc doc') (hplain : Plain doc v) : Plain doc' v := by
  cases v with
  | object members =>
    rw [object_iff] at hplain ⊢
    rwa [← h "enum" (by decide), ← h.properties_eq]
  | array items =>
    rw [array_iff] at hplain ⊢
    rwa [← h "type" (by decide), ← h "items" (by decide)]
  | _ => exact of_atom rfl rfl

end Plain

theorem Property.plain_document_iff {p : Property} {v : Json} :
    Plain p.document v ↔ Plain p.schema.document v :=
  ⟨.of_sameRules p.sameRules, .of_sameRules p.sameRules.symm⟩

/-! ## Defaults -/

/-- The second value is the first one with the published default written out at one place where the
property was absent. -/
inductive Filled : Json → Json → Json → Prop
  | default {doc value : Json} {p : String × Json} {before after : Members} : p ∈ properties doc →
      p.2.get "default" = value → value ≠ .null → p.1 ∉ (before ++ after).map Prod.fst →
      Filled doc (.object (before ++ after)) (.object (before ++ (p.1, value) :: after))
  | member {doc v w : Json} {p : String × Json} {before after : Members} : p ∈ properties doc →
      Filled p.2 v w →
      Filled doc (.object (before ++ (p.1, v) :: after)) (.object (before ++ (p.1, w) :: after))
  | item {doc v w : Json} {before after : List Json} : Filled (doc.get "items") v w →
      Filled doc (.array (before ++ v :: after)) (.array (before ++ w :: after))

namespace Filled

variable {doc doc' v w : Json}

theorem of_sameRules (h : SameRules doc doc') (hfilled : Filled doc v w) : Filled doc' v w := by
  cases hfilled with
  | default hp hvalue hne habsent => exact .default (h.properties_eq ▸ hp) hvalue hne habsent
  | member hp hfilled => exact .member (h.properties_eq ▸ hp) hfilled
  | item hfilled => exact .item (h "items" (by decide) ▸ hfilled)

/-- Nothing lies below a place that is not described. -/
theorem doc_ne_null (h : Filled doc v w) : doc ≠ .null := by
  induction h with
  | default hp _ _ _ | member hp _ _ =>
    rintro rfl
    cases hp
  | item _ ih =>
    rintro rfl
    exact ih rfl

end Filled

/-- What filling in a default does to the values of one property. -/
inductive Property.FilledIn (p : Property) (m n : Members) : Prop
  | same : n.values p.name = m.values p.name → FilledIn p m n
  | default {value : Json} : p.presence = .default value → m.values p.name = [] →
      n.values p.name = [value] → FilledIn p m n
  | member {before after : List Json} {v w : Json} : m.values p.name = before ++ v :: after →
      n.values p.name = before ++ w :: after → Filled p.document v w → FilledIn p m n

theorem Property.filledIn_of_others {props : List Property} {p q : Property} {m n : Members}
    (hdistinct : (props.map Property.name).Nodup) (hp : p ∈ props) (hq : q ∈ props)
    (hfilled : q.FilledIn m n) (hothers : ∀ key, q.name ≠ key → n.values key = m.values key) :
    p.FilledIn m n := by
  by_cases hname : q.name = p.name
  · rwa [← List.inj_on_of_nodup_map hdistinct hq hp hname]
  · exact .same (hothers _ hname)

/-- An object with a default filled in, as the properties of its schema see it. -/
theorem Filled.filledIn {props : List Property} {members : Members} {w : Json}
    (hdistinct : (props.map Property.name).Nodup)
    (h : Filled (Schema.record props).document (.object members) w) :
    ∃ members' : Members, w = .object members' ∧ ∀ p ∈ props, p.FilledIn members members' := by
  generalize hdoc : (Schema.record props).document = doc at h
  generalize hv : Json.object members = v at h
  cases h with
  | default hentry hvalue hne habsent =>
    cases hv
    rw [← hdoc, Schema.properties_record] at hentry
    obtain ⟨q, hq, rfl⟩ := List.mem_map.mp hentry
    refine ⟨_, rfl, fun p hp => Property.filledIn_of_others hdistinct hp hq ?_ fun key hkey => ?_⟩
    · have hnone := Members.values_eq_nil_iff.mpr habsent
      refine .default ((Property.get_default_eq_iff hne).mp hvalue) hnone ?_
      rw [Members.values_append, List.append_eq_nil_iff] at hnone
      rw [Members.values_append, Members.values_cons, if_pos rfl, hnone.1, hnone.2,
        List.nil_append]
    · rw [Members.values_append, Members.values_cons, if_neg hkey, Members.values_append]
  | @member _ v w entry before after hentry hfilled =>
    cases hv
    rw [← hdoc, Schema.properties_record] at hentry
    obtain ⟨q, hq, rfl⟩ := List.mem_map.mp hentry
    refine ⟨_, rfl, fun p hp => Property.filledIn_of_others hdistinct hp hq ?_ fun key hkey => ?_⟩
    · have hvalues (x : Json) : Members.values q.name (before ++ (q.name, x) :: after) =
          before.values q.name ++ x :: after.values q.name := by
        rw [Members.values_append, Members.values_cons, if_pos rfl]
      exact .member (hvalues v) (hvalues w) hfilled
    · simp only [Members.values_append, Members.values_cons, if_neg hkey]
  | item _ => cases hv

end GpuFleet.Policy
