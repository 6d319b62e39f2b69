import GpuFleet.Policy.Schema
import GpuFleet.Proofs.Json.Fields

/-!
Schemas as they are published: JSON documents, by which the API server checks what is written. What
such a document lets pass is stated for any document; where a schema has been printed, it is what
the schema accepts.
-/
namespace GpuFleet.Policy

/-- The properties that a document describes, each with the document of its own. -/
def properties (doc : Json) : Members := (doc.get "properties").object?.getD []

/-- The names of the properties that must be there. -/
def required (doc : Json) : List Json := (doc.get "required").array?.getD []

/-- What may stand at a place that a document describes. An object may have members that are not
described; one that is described it has once at most. -/
inductive Validates : Json → Json → Prop
  | null {doc : Json} : doc.get "nullable" = .bool true → Validates doc .null
  | bool {doc : Json} (b : Bool) : doc.get "type" = .string "boolean" → Validates doc (.bool b)
  | string {doc : Json} (s : String) : doc.get "type" = .string "string" →
      (∀ names, doc.get "enum" = .array names → .string s ∈ names) →
      (doc.get "format" = .string "date-time" → (Instant.parse? s).isSome) →
      Validates doc (.string s)
  | array {doc : Json} {items : List Json} : doc.get "type" = .string "array" →
      (∀ v ∈ items, Validates (doc.get "items") v) → Validates doc (.array items)
  | object {doc : Json} {members : Members} : doc.get "type" = .string "object" →
      (∀ name, .string name ∈ required doc → members.values name ≠ []) →
      (∀ p ∈ properties doc, (members.values p.1).length ≤ 1) →
      (∀ p ∈ properties doc, ∀ v ∈ members.values p.1, Validates p.2 v) →
      Validates doc (.object members)

section Types

variable {doc v : Json}

/-! ## What the type of a place says -/

theorem validates_boolean_iff (htype : doc.get "type" = .string "boolean")
    (hnull : doc.get "nullable" = .null) : Validates doc v ↔ ∃ b, v = .bool b := by
  constructor
  · intro h
    cases h with
    | bool b _ => exact ⟨b, rfl⟩
    | _ => simp_all
  · rintro ⟨b, rfl⟩
    exact .bool b htype

theorem validates_string_iff (htype : doc.get "type" = .string "string")
    (hnull : doc.get "nullable" = .null) :
    Validates doc v ↔ ∃ s, v = .string s ∧
      (∀ names, doc.get "enum" = .array names → .string s ∈ names) ∧
      (doc.get "format" = .string "date-time" → (Instant.parse? s).isSome) := by
  constructor
  · intro h
    cases h with
    | string s _ henum hformat => exact ⟨s, rfl, henum, hformat⟩
    | _ => simp_all
  · rintro ⟨s, rfl, henum, hformat⟩
    exact .string s htype henum hformat

theorem validates_array_iff (htype : doc.get "type" = .string "array")
    (hnull : doc.get "nullable" = .null) :
    Validates doc v ↔ ∃ items, v = .array items ∧ ∀ w ∈ items, Validates (doc.get "items") w := by
  constructor
  · intro h
    cases h with
    | array _ hitems => exact ⟨_, rfl, hitems⟩
    | _ => simp_all
  · rintro ⟨items, rfl, hitems⟩
    exact .array htype hitems

theorem validates_object_iff (htype : doc.get "type" = .string "object")
    (hnull : doc.get "nullable" = .null) :
    Validates doc v ↔ ∃ members : Members, v = .object members ∧
      (∀ name, .string name ∈ required doc → members.values name ≠ []) ∧
      ∀ p ∈ properties doc, (members.values p.1).length ≤ 1 ∧
        ∀ w ∈ members.values p.1, Validates p.2 w := by
  constructor
  · intro h
    cases h with
    | object _ hrequired honce hmembers =>
      exact ⟨_, rfl, hrequired, fun p hp => ⟨honce p hp, hmembers p hp⟩⟩
    | _ => simp_all
  · rintro ⟨members, rfl, hrequired, hmembers⟩
    exact .object htype hrequired (fun p hp => (hmembers p hp).1) fun p hp => (hmembers p hp).2

end Types

/-! ## Printed schemas -/

/-- The members of a document that say what may stand at the place, null apart. -/
def ruleNames : List String := ["type", "format", "enum", "items", "properties", "required"]

/-- The documents say the same about every value but null. -/
def SameRules (doc doc' : Json) : Prop := ∀ key ∈ ruleNames, doc.get key = doc'.get key

namespace SameRules

variable {doc doc' v : Json}

theorem symm (h : SameRules doc doc') : SameRules doc' doc := fun key hkey => (h key hkey).symm

theorem properties_eq (h : SameRules doc doc') : properties doc = properties doc' := by
  rw [properties, h "properties" (by decide), properties]

theorem required_eq (h : SameRules doc doc') : required doc = required doc' := by
  rw [required, h "required" (by decide), required]

theorem validates (h : SameRules doc doc') (hv : v ≠ .null) (hval : Validates doc v) :
    Validates doc' v := by
  have htype := h "type" (by decide)
  cases hval with
  | null _ => exact absurd rfl hv
  | bool b hbool => exact .bool b (htype ▸ hbool)
  | string s hstring henum hformat =>
    exact .string s (htype ▸ hstring) (h "enum" (by decide) ▸ henum)
      (h "format" (by decide) ▸ hformat)
  | array harray hitems => exact .array (htype ▸ harray) (h "items" (by decide) ▸ hitems)
  | object hobject hrequired honce hmembers =>
    exact .object (htype ▸ hobject) (h.required_eq ▸ hrequired) (h.properties_eq ▸ honce)
      (h.properties_eq ▸ hmembers)

end SameRules

namespace Property

def presence : Property → Presence
  | .mk _ _ presence _ => presence

def schema : Property → Schema
  | .mk _ _ _ schema => schema

/-- What the definition says about the property. -/
def document : Property → Json
  | .mk _ description presence schema =>
    .object (("description", .string description) :: schema.members ++ presence.members)

end Property

namespace Schema

/-- What the definition says about a place, apart from what it is for. -/
def document (schema : Schema) : Json := .object schema.members

theorem lookup_members_of_not_mem {key : String} (h : key ∉ ruleNames) (schema : Schema) :
    schema.members.lookup key = none := by
  simp only [ruleNames, List.mem_cons, List.not_mem_nil, not_or] at h
  cases schema with
  | record props =>
    rw [members]
    split <;> simp [List.lookup_cons, h, beq_false_of_ne]
  | _ => simp [members, List.lookup_cons, h, beq_false_of_ne]

theorem get_nullable_document (schema : Schema) : schema.document.get "nullable" = .null := by
  rw [document, Json.get, lookup_members_of_not_mem (by decide), Option.getD_none]

theorem not_validates_null (schema : Schema) : ¬ Validates schema.document .null := by
  intro h
  cases h with
  | null hnull => simp [get_nullable_document] at hnull

theorem propertyMembers_eq (props : List Property) :
    propertyMembers props = props.map fun p => (p.name, p.document) := by
  induction props with
  | nil => rfl
  | cons p props ih =>
    obtain ⟨name, description, presence, schema⟩ := p
    rw [propertyMembers, ih, List.map_cons]
    rfl

theorem properties_record (props : List Property) :
    properties (Schema.record props).document = props.map fun p => (p.name, p.document) :=
  propertyMembers_eq props

theorem required_record (props : List Property) :
    required (Schema.record props).document =
      (props.filter Property.isRequired).map fun p => .string p.name := by
  unfold required document members Json.get
  cases props.filter Property.isRequired <;> rfl

theorem get_enum_record (props : List Property) :
    (Schema.record props).document.get "enum" = .null := by
  unfold document members Json.get
  cases props.filter Property.isRequired <;> rfl

theorem get_items_record (props : List Property) :
    (Schema.record props).document.get "items" = .null := by
  unfold document members Json.get
  cases props.filter Property.isRequired <;> rfl

end Schema

namespace Property

variable {p : Property} {v d : Json}

theorem get_document_of_rule {key : String} (h : key ∈ ruleNames) (p : Property) :
    p.document.get key = p.schema.document.get key := by
  obtain ⟨name, description, presence, schema⟩ := p
  have hne : (key == "description") = false := by revert key; decide
  have hpresence : presence.members.lookup key = none := by
    revert key
    cases presence <;> simp [Presence.members, ruleNames, List.lookup_cons]
  simp only [document, Property.schema, Schema.document, Json.get, List.lookup_cons, hne,
    List.cons_append, List.lookup_append, hpresence, Option.or_none]

theorem sameRules (p : Property) : SameRules p.document p.schema.document :=
  fun _ h => get_document_of_rule h p

theorem get_document_of_presence {key : String} (h : key ∉ "description" :: ruleNames)
    (p : Property) : p.document.get key = (p.presence.members.lookup key).getD .null := by
  obtain ⟨name, description, presence, schema⟩ := p
  rw [List.mem_cons, not_or] at h
  simp only [document, Property.presence, Json.get, List.cons_append, List.lookup_cons,
    beq_false_of_ne h.1, List.lookup_append, Schema.lookup_members_of_not_mem h.2, Option.none_or]

theorem get_nullable_eq_true_iff :
    p.document.get "nullable" = .bool true ↔ p.presence = .nullable := by
  rw [get_document_of_presence (by decide)]
  cases p.presence <;> simp [Presence.members, List.lookup_cons]

/-- The document gives a default exactly if the absent property has a value. -/
theorem get_default_eq_iff (hd : d ≠ .null) :
    p.document.get "default" = d ↔ p.presence = .default d := by
  rw [get_document_of_presence (by decide)]
  cases p.presence <;> simp [Presence.members, List.lookup_cons, hd.symm]

/-- Null may stand at a property that may be null; all else is decided by its schema. -/
theorem validates_document_iff : Validates p.document v ↔
    v = .null ∧ p.presence = .nullable ∨ Validates p.schema.document v := by
  by_cases hv : v = .null
  · subst hv
    constructor
    · intro h
      cases h with
      | null hnull => exact .inl ⟨rfl, get_nullable_eq_true_iff.mp hnull⟩
    · rintro (⟨-, hnull⟩ | hnull)
      · exact .null (get_nullable_eq_true_iff.mpr hnull)
      · exact absurd hnull p.schema.not_validates_null
  · simp only [hv, false_and, false_or]
    exact ⟨p.sameRules.validates hv, p.sameRules.symm.validates hv⟩

/-- What the document says about the members of an object. -/
def Allows (p : Property) (members : Members) : Prop :=
  (p.isRequired = true → members.values p.name ≠ []) ∧ (members.values p.name).length ≤ 1 ∧
    ∀ v ∈ members.values p.name, Validates p.document v

theorem isRequired_iff : p.isRequired = true ↔ p.presence = .required := by
  cases p
  simp [isRequired, presence]

end Property

namespace Schema

/-- An item is described as a property that must be there. -/
theorem get_items_list (description : String) (item : Schema) :
    (Schema.list description item).document.get "items" =
      (Property.mk "" description .required item).document := by
  rw [Property.document, Presence.members, List.append_nil]
  rfl

theorem validates_record_iff {props : List Property} {v : Json} :
    Validates (Schema.record props).document v ↔
      ∃ members : Members, v = .object members ∧ ∀ p ∈ props, p.Allows members := by
  rw [validates_object_iff rfl (get_nullable_document _), properties_record, required_record]
  refine exists_congr fun members => and_congr_right fun _ => ?_
  rw [List.forall_mem_map]
  constructor
  · rintro ⟨hrequired, hmembers⟩ p hp
    refine ⟨fun h => hrequired p.name ?_, hmembers p hp⟩
    exact List.mem_map.mpr ⟨p, List.mem_filter.mpr ⟨hp, h⟩, rfl⟩
  · intro h
    refine ⟨fun name hname => ?_, fun p hp => (h p hp).2⟩
    obtain ⟨p, hp, hname⟩ := List.mem_map.mp hname
    cases hname
    exact (h p (List.mem_filter.mp hp).1).1 (List.mem_filter.mp hp).2

mutual

/-- A printed schema lets pass what the schema accepts. -/
theorem validates_document_iff :
    ∀ (schema : Schema) (v : Json), Validates schema.document v ↔ schema.accepts v = true
  | .flag, v => by
    rw [validates_boolean_iff rfl (get_nullable_document _), accepts]
    cases v <;> simp [Json.bool?]
  | .text, v => by
    rw [validates_string_iff rfl (get_nullable_document _), accepts]
    cases v <;> simp [Json.string?, document, members, Json.get, List.lookup_cons]
  | .moment, v => by
    rw [validates_string_iff rfl (get_nullable_document _), accepts]
    cases v <;> simp [Json.string?, document, members, Json.get, List.lookup_cons]
  | .choice names, v => by
    rw [validates_string_iff rfl (get_nullable_document _), accepts]
    cases v <;> simp [Json.string?, document, members, Json.get, List.lookup_cons]
  | .list description item, v => by
    rw [validates_array_iff rfl (get_nullable_document _), get_items_list, accepts]
    cases v <;> simp [Json.array?, Property.validates_document_iff, Property.presence,
      Property.schema, validates_document_iff item]
  | .record props, v => by
    rw [validates_record_iff, accepts]
    cases v <;> simp [Json.object?, acceptsMembers_iff props]

theorem acceptsMembers_iff : ∀ (props : List Property) (members : Members),
    acceptsMembers props members = true ↔ ∀ p ∈ props, p.Allows members
  | [], members => by simp [acceptsMembers]
  | .mk name description presence schema :: props, members => by
    rw [acceptsMembers, Bool.and_eq_true, acceptsMembers_iff props members, List.forall_mem_cons]
    refine and_congr_left fun _ => ?_
    simp only [Property.Allows, Property.isRequired_iff, Property.validates_document_iff,
      Property.presence, Property.schema, Property.name, validates_document_iff schema]
    match members.values name with
    | [] => cases presence <;> simp
    | [v] =>
      cases v with
      | null =>
        have hnull := mt (validates_document_iff schema .null).mpr schema.not_validates_null
        cases presence <;> simp [hnull]
      | _ => simp
    | _ :: _ :: _ => simp

end

end Schema

end GpuFleet.Policy
