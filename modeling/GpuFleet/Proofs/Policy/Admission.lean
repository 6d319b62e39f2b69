import GpuFleet.Json.Pointer
import GpuFleet.Proofs.Policy.Places

/-!
What the API server lets pass and what the decoder reads. The decoder reads more than the published
schema lets pass, in two ways: the array of its values for a record, and an object for the name of a
constant. Where neither stands, they agree, and an absent property is read as its published default.

A reader is compared with its schema part by part: a record is read by one reader for each property,
and each of these agrees with what the schema says about that property.
-/
namespace GpuFleet.Policy

/-! ## Readers -/

variable {α β : Type}

/-- The reader agrees with the schema. -/
structure Reads (schema : Schema) (read : Json → Option α) : Prop where
  accepts_iff (v : Json) :
    schema.accepts v = true ↔ (read v).isSome = true ∧ Plain schema.document v
  filled {v w : Json} : Filled schema.document v w → read w = read v

/-- The reader agrees with the properties. -/
structure ReadsMembers (props : List Property) (read : Members → Option α) : Prop where
  allows_iff (members : Members) : (∀ p ∈ props, p.Allows members) ↔
    (read members).isSome = true ∧ ∀ p ∈ props, ∀ v ∈ members.values p.name, Plain p.document v
  filled {m n : Members} : (∀ p ∈ props, p.FilledIn m n) → read n = read m

/-- A list can be read if every item can. -/
theorem isSome_list?_iff {read : Json → Option α} {items : List Json} :
    ((Json.array items).list? read).isSome = true ↔ ∀ v ∈ items, (read v).isSome = true := by
  induction items with
  | nil => simp [Json.list?, Json.array?]
  | cons v items ih =>
    simp only [Json.list?, Json.array?, Option.bind_eq_bind, Option.bind_some] at ih ⊢
    rw [List.mapM_cons, List.forall_mem_cons, ← ih]
    cases read v <;> cases items.mapM read <;> simp

theorem Component.isSome_collect?_iff {f : Component → Option α} :
    (collect? f).isSome = true ↔ ∀ c, (f c).isSome = true := by
  unfold collect?
  split
  · next h => exact iff_of_true rfl h
  · next h => exact iff_of_false nofun h

namespace Reads

variable {schema : Schema} {read : Json → Option α} {name description : String}

/-- A reader that reads neither objects nor arrays has nothing to tell apart. -/
theorem atom (haccepts : ∀ v, schema.accepts v = (read v).isSome)
    (hobject : ∀ members, read (.object members) = none)
    (harray : ∀ items, read (.array items) = none) : Reads schema read where
  accepts_iff v := by
    rw [haccepts]
    cases v with
    | object members => simp [hobject]
    | array items => simp [harray]
    | _ => exact (and_iff_left (.of_atom rfl rfl)).symm
  filled hfilled := by
    cases hfilled with
    | item _ => rw [harray, harray]
    | _ => rw [hobject, hobject]

theorem flag : Reads .flag Json.bool? :=
  atom (fun _ => by rw [Schema.accepts]) (fun _ => rfl) fun _ => rfl

theorem text : Reads .text Json.string? :=
  atom (fun _ => by rw [Schema.accepts]) (fun _ => rfl) fun _ => rfl

theorem moment : Reads .moment fun v => v.string?.bind Instant.parse? :=
  atom (fun _ => by rw [Schema.accepts]) (fun _ => rfl) fun _ => rfl

theorem choice {ofName? : String → Option α} {names : List String}
    (hnames : ∀ s, (ofName? s).isSome = true ↔ s ∈ names) :
    Reads (.choice names) (Json.choice? ofName?) where
  accepts_iff v := by
    rw [Schema.accepts]
    cases v with
    | string s =>
      have hplain : Plain (Schema.choice names).document (.string s) := .of_atom rfl rfl
      simp [Json.string?, Json.choice?, hnames, hplain]
    | object members =>
      have henum : (Schema.choice names).document.get "enum" ≠ .null := nofun
      simp [Json.string?, Plain.object_iff, henum]
    | _ => simp [Json.string?, Json.choice?]
  filled hfilled := by
    cases hfilled with
    | default hp _ _ _ | member hp _ => cases hp
    | item _ => rfl

theorem list {item : Schema} (h : Reads item read) :
    Reads (.list description item) (·.list? read) where
  accepts_iff v := by
    rw [Schema.accepts]
    cases v with
    | array items =>
      have htype : (Schema.list description item).document.get "type" = .string "array" := rfl
      simp only [Json.array?, Option.any_some, List.all_eq_true, h.accepts_iff, Plain.array_iff,
        htype, Schema.get_items_list, Property.plain_document_iff, Property.schema,
        isSome_list?_iff]
      simp [forall_and]
    | _ => simp [Json.array?, Json.list?]
  filled hfilled := by
    cases hfilled with
    | default hp _ _ _ | member hp _ => cases hp
    | item hfilled =>
      rw [Schema.get_items_list] at hfilled
      have hread := h.filled (hfilled.of_sameRules (Property.sameRules _))
      simp [Json.list?, Json.array?, hread]

theorem record {props : List Property} {read : Members → Option α} {names : List String}
    (hnames : props.map Property.name = names) (hdistinct : names.Nodup)
    (h : ReadsMembers props read) :
    Reads (.record props) fun v => (v.placed? names).bind read where
  accepts_iff v := by
    rw [Schema.accepts]
    cases v with
    | object members =>
      have henum := Schema.get_enum_record props
      rw [Plain.object_iff, Schema.properties_record, List.forall_mem_map]
      simp [Json.object?, Json.placed?, henum, Schema.acceptsMembers_iff, h.allows_iff]
    | array items =>
      have htype : (Schema.record props).document.get "type" = .string "object" := rfl
      simp [Json.object?, Plain.array_iff, htype]
    | _ => simp [Json.object?, Json.placed?]
  filled {v w} hfilled := by
    cases v with
    | object members =>
      obtain ⟨members', rfl, hmembers⟩ := Filled.filledIn (hnames ▸ hdistinct) hfilled
      exact h.filled hmembers
    | array items =>
      cases hfilled with
      | item hfilled => exact absurd (Schema.get_items_record props) hfilled.doc_ne_null
    | _ => cases hfilled

end Reads

/-- What is made of the values of a member that may occur once. -/
def sole (absent : Option α) (one : Json → Option α) : List Json → Option α
  | [] => absent
  | [v] => one v
  | _ => none

namespace ReadsMembers

variable {schema : Schema} {read : Json → Option α} {name description : String}

theorem done (a : α) : ReadsMembers [] fun _ => some a where
  allows_iff _ := by simp
  filled _ := rfl

theorem append {ps qs : List Property} {f : Members → Option β} {g : β → Members → Option α}
    (hf : ReadsMembers ps f) (hg : ∀ b, ReadsMembers qs (g b)) :
    ReadsMembers (ps ++ qs) fun m => (f m).bind fun b => g b m where
  allows_iff members := by
    rw [List.forall_mem_append, List.forall_mem_append, hf.allows_iff]
    cases hread : f members with
    | none => simp
    | some b =>
      rw [(hg b).allows_iff, Option.bind_some]
      simp only [Option.isSome_some, true_and]
      exact and_left_comm
  filled {m n} h := by
    rw [List.forall_mem_append] at h
    rw [hf.filled h.1]
    exact congrArg _ (funext fun b => (hg b).filled h.2)

theorem cons {p : Property} {ps : List Property} {f : Members → Option β}
    {g : β → Members → Option α} (hf : ReadsMembers [p] f) (hg : ∀ b, ReadsMembers ps (g b)) :
    ReadsMembers (p :: ps) fun m => (f m).bind fun b => g b m :=
  append hf hg

/-- What the document says about a property, by the number of its values. -/
theorem allows_iff_values {p : Property} {members : Members} : p.Allows members ↔
    members.values p.name = [] ∧ p.presence ≠ .required ∨ ∃ v, members.values p.name = [v] ∧
      (v = .null ∧ p.presence = .nullable ∨ p.schema.accepts v = true) := by
  rw [Property.Allows, Property.isRequired_iff]
  simp only [Property.validates_document_iff, Schema.validates_document_iff]
  rcases members.values p.name with _ | ⟨v, _ | ⟨w, rest⟩⟩ <;> simp

/-- A member that is read by itself, if it occurs once. -/
theorem single {p : Property} {f : Members → Option α} (absent : Option α)
    (one : Json → Option α) (hf : ∀ members, f members = sole absent one (members.values p.name))
    (habsent : absent.isSome = true ↔ p.presence ≠ .required)
    (hone : ∀ v, v = .null ∧ p.presence = .nullable ∨ p.schema.accepts v = true ↔
      (one v).isSome = true ∧ Plain p.schema.document v)
    (hdefault : ∀ value, p.presence = .default value → one value = absent)
    (hfilled : ∀ v w, Filled p.schema.document v w → one w = one v) : ReadsMembers [p] f where
  allows_iff members := by
    rw [List.forall_mem_singleton, List.forall_mem_singleton, allows_iff_values, hf]
    rcases members.values p.name with _ | ⟨v, _ | ⟨w, rest⟩⟩
    · simp [sole, habsent]
    · simp [sole, hone, Property.plain_document_iff]
    · simp [sole]
  filled {m n} h := by
    rw [hf m, hf n]
    cases List.forall_mem_singleton.mp h with
    | same hsame => rw [hsame]
    | default hvalue hm hn =>
      rw [hm, hn]
      exact hdefault _ hvalue
    | @member before after v w hm hn hbelow =>
      rw [hm, hn]
      have hread := hfilled v w (hbelow.of_sameRules p.sameRules)
      -- Beside another value neither of the two is read.
      rcases before with _ | ⟨_, _ | ⟨_, _⟩⟩
      · cases after with
        | nil => exact hread
        | cons _ _ => rfl
      · rfl
      · rfl

theorem required (h : Reads schema read) :
    ReadsMembers [.mk name description .required schema] (Members.need? read name) := by
  refine single none read (fun members => ?_) ?_ (fun v => ?_) ?_
    fun _ _ => h.filled
  · rw [Members.need?, Property.name]
    rcases members.values name with _ | ⟨_, _ | ⟨_, _⟩⟩ <;> rfl
  · simp [Property.presence]
  · simp [Property.presence, Property.schema, h.accepts_iff]
  · simp [Property.presence]

theorem default {value : Json} {a : α} (h : Reads schema read) (hvalue : read value = some a) :
    ReadsMembers [.mk name description (.default value) schema]
      (Members.strictD read a name) := by
  refine single (some a) read (fun _ => rfl) ?_ (fun v => ?_) ?_
    fun _ _ => h.filled
  · simp [Property.presence]
  · simp [Property.presence, Property.schema, h.accepts_iff]
  · rintro _ ⟨⟩
    exact hvalue

theorem nullable (h : Reads schema read) :
    ReadsMembers [.mk name description .nullable schema] (Members.strict? read name) := by
  refine single (some none) (Json.orNull? read) (fun _ => rfl) ?_ (fun v => ?_) ?_
    fun v w hfilled => ?_
  · simp [Property.presence]
  · by_cases hv : v = .null
    · subst hv
      simp [Property.presence, Json.orNull?, Plain.null]
    · simp [Property.presence, Property.schema, h.accepts_iff, hv, Json.orNull?]
  · simp [Property.presence]
  · have hread := h.filled hfilled
    cases hfilled <;> exact congrArg (Option.map some) hread

theorem collect {prop : Component → Property} {f : Component → Members → Option α}
    (h : ∀ c, ReadsMembers [prop c] (f c)) :
    ReadsMembers (Component.all.map prop) fun m => Component.collect? fun c => f c m where
  allows_iff members := by
    have hone c := (h c).allows_iff members
    simp only [List.forall_mem_singleton] at hone
    rw [List.forall_mem_map, List.forall_mem_map]
    simp only [hone, Component.isSome_collect?_iff, Component.mem_all, true_imp_iff, forall_and]
  filled hfilled := by
    refine congrArg _ (funext fun c => (h c).filled ?_)
    rw [List.forall_mem_singleton]
    exact hfilled _ (List.mem_map_of_mem (Component.mem_all c))

end ReadsMembers

/-! ## The readers of policies -/

theorem EnvSetting.reads : Reads EnvSetting.schema EnvSetting.ofJson? :=
  .record rfl (by decide) <|
    .cons (.required .text) fun _ =>
    .cons (.default .text rfl) fun _ => .done _

theorem ComponentSpec.reads : Reads ComponentSpec.schema ComponentSpec.ofJson? :=
  .record rfl (by decide) <|
    .cons (.nullable .flag) fun _ =>
    .cons (.nullable .text) fun _ =>
    .cons (.nullable .text) fun _ =>
    .cons (.nullable .text) fun _ =>
    .cons (.nullable (.list EnvSetting.reads)) fun _ => .done _

theorem SandboxWorkloads.reads : Reads SandboxWorkloads.schema SandboxWorkloads.ofJson? :=
  .record rfl (by decide) <|
    .cons (.nullable .flag) fun _ =>
    .cons (.nullable .text) fun _ =>
    .cons (.nullable .text) fun _ => .done _

theorem CdiConfig.reads : Reads CdiConfig.schema CdiConfig.ofJson? :=
  .record rfl (by decide) <|
    .cons (.nullable .flag) fun _ =>
    .cons (.nullable .flag) fun _ =>
    .cons (.nullable .flag) fun _ => .done _

theorem Runtime.isSome_ofName?_iff {s : String} :
    (ofName? s).isSome = true ↔ s ∈ all.map name := by
  simp [ofName?, List.find?_isSome]

theorem MigStrategy.isSome_ofName?_iff {s : String} :
    (ofName? s).isSome = true ↔ s ∈ all.map name := by
  simp [ofName?, List.find?_isSome]

theorem State.isSome_ofName?_iff {s : String} :
    (ofName? s).isSome = true ↔ s ∈ all.map name := by
  simp [ofName?, List.find?_isSome]

theorem Spec.reads_runtime : Reads Spec.operatorSchema Spec.operatorRuntime? :=
  .record rfl (by decide) <| .default (.choice fun _ => Runtime.isSome_ofName?_iff) rfl

theorem Spec.reads_strategy : Reads Spec.migSchema Spec.migStrategy? :=
  .record rfl (by decide) <| .default (.choice fun _ => MigStrategy.isSome_ofName?_iff) rfl

theorem Spec.reads : Reads Spec.schema Spec.ofJson? :=
  .record rfl (by decide) <|
    .cons (.default reads_runtime rfl) fun _ =>
    .append (.collect fun _ => .default ComponentSpec.reads rfl) fun _ =>
    .cons (.default SandboxWorkloads.reads rfl) fun _ =>
    .cons (.default CdiConfig.reads rfl) fun _ =>
    .cons (.default reads_strategy rfl) fun _ => .done _

theorem Status.reads : Reads Status.schema Status.ofJson? :=
  .record rfl (by decide) <|
    .cons (.required (.choice fun _ => State.isSome_ofName?_iff)) fun _ =>
    .cons (.nullable .text) fun _ =>
    .cons (.nullable .text) fun _ =>
    .cons (.nullable .moment) fun _ => .done _

/-! ## The published schema -/

/-- The schema of the settings in the published definition. -/
def published : Json :=
  (ClusterPolicy.definition.pointer?
    "/spec/versions/0/schema/openAPIV3Schema/properties/spec").getD .null

/-- The settings, as a property of the policy. -/
def specProperty : Property :=
  .mk "spec" "ClusterPolicySpec defines the desired GPU stack for the whole cluster" .required
    Spec.schema

theorem published_eq : published = specProperty.document := by
  have htokens : Json.pointerTokens? "/spec/versions/0/schema/openAPIV3Schema/properties/spec" =
      some ["spec", "versions", "0", "schema", "openAPIV3Schema", "properties", "spec"] := by
    decide +kernel
  rw [published, Json.pointer?, htokens]
  rfl

theorem validates_published_iff {v : Json} :
    Validates published v ↔ Spec.schema.accepts v = true := by
  rw [published_eq, Property.validates_document_iff, Schema.validates_document_iff]
  simp [specProperty, Property.presence, Property.schema]

/-- The published schema lets pass what can be read as the settings of a policy and has neither an
array in place of an object nor an object in place of the name of a constant. Writing out a
published default does not change what is read. -/
theorem published_schema_agrees (v : Json) :
    (Validates published v ↔
      (Spec.ofJson? v).isSome = true ∧ NoListForRecord published v ∧ NoObjectForName published v) ∧
    ∀ w, Filled published v w → Spec.ofJson? w = Spec.ofJson? v := by
  rw [validates_published_iff, Spec.reads.accepts_iff, published_eq, ← Plain,
    Property.plain_document_iff]
  exact ⟨Iff.rfl, fun w hfilled => Spec.reads.filled (hfilled.of_sameRules specProperty.sameRules)⟩

example : Filled published (.object []) (.object [("cdi", .object [])]) := by
  have hcdi : ("cdi", (Property.mk "cdi" "Container Device Interface settings"
      (.default (.object [])) CdiConfig.schema).document) ∈ properties published := by
    decide +kernel
  exact @Filled.default _ _ _ [] [] hcdi rfl nofun (by simp)

/-! ## An object for a name -/

/-- Settings whose strategy is written as an object. -/
def strategyAsObject : Json :=
  .object [("mig", .object [("strategy", .object [("mixed", .null)])])]

theorem Part.of_single {doc sub v w : Json} {name : String}
    (h : Part doc (.object [(name, v)]) sub w) :
    w = .object [(name, v)] ∨ ∃ doc', Part doc' v sub w := by
  cases h with
  | here => exact .inl rfl
  | member _ hv hpart =>
    rw [Members.mem_values_iff, List.mem_singleton] at hv
    cases hv
    exact .inr ⟨_, hpart⟩

/-- The strategy is read from an object, without any array, but the published schema does not let it
pass. -/
theorem published_schema_lacks_object_names : NoListForRecord published strategyAsObject ∧
    (Spec.ofJson? strategyAsObject).isSome = true ∧ ¬ Validates published strategyAsObject := by
  refine ⟨fun sub w hpart _ => ?_, by decide +kernel, ?_⟩
  · obtain rfl | ⟨_, hpart⟩ := hpart.of_single
    · rfl
    obtain rfl | ⟨_, hpart⟩ := hpart.of_single
    · rfl
    obtain rfl | ⟨_, hpart⟩ := hpart.of_single
    · rfl
    cases hpart
    rfl
  · rw [validates_published_iff]
    decide +kernel

end GpuFleet.Policy
