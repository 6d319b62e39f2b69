import GpuFleet.Policy.Wire
import GpuFleet.Proofs.Json.Fields
import GpuFleet.Proofs.Time.Legible

/-!
Settings and statuses are read back as they have been written. What is unset is left out and nothing
else is, so that an unset setting, an empty one and a false one stay apart.
-/
namespace GpuFleet

variable {α : Type}

/-- A list is read back if each of its items is. -/
theorem Json.list?_map {read : Json → Option α} {write : α → Json}
    (h : ∀ a, read (write a) = some a) (as : List α) :
    (Json.array (as.map write)).list? read = some as := by
  induction as with
  | nil => rfl
  | cons a as ih =>
    simp only [list?, array?, Option.bind_eq_bind, Option.bind_some] at ih ⊢
    rw [List.map_cons, List.mapM_cons, ih, h]
    rfl

namespace Members

variable {members : Members} {key : String} {v : Json}

theorem strict?_bool {x : Option Bool} (h : members.values key = (x.map Json.bool).toList) :
    members.strict? Json.bool? key = some x :=
  strict?_of_values .bool h fun _ _ => ⟨by simp, rfl⟩

theorem strict?_string {x : Option String} (h : members.values key = (x.map Json.string).toList) :
    members.strict? Json.string? key = some x :=
  strict?_of_values .string h fun _ _ => ⟨by simp, rfl⟩

/-- A value that is set has been read. -/
theorem exists_of_strict? {read : Json → Option α} {a : α}
    (h : members.strict? read key = some (some a)) : ∃ v, read v = some a := by
  unfold strict? strictD at h
  split at h
  · cases h
  · next v _ =>
    unfold Json.orNull? at h
    split at h
    · cases h
    · exact ⟨v, by simpa using h⟩
  · cases h

theorem strictD_of_values {read : Json → Option α} {default : α} (h : members.values key = [v]) :
    members.strictD read default key = read v := by
  rw [strictD, h]

end Members

namespace Policy

/-! ## Names -/

theorem Runtime.ofName?_name (runtime : Runtime) : ofName? runtime.name = some runtime := by
  cases runtime <;> decide

theorem MigStrategy.ofName?_name (strategy : MigStrategy) :
    ofName? strategy.name = some strategy := by
  cases strategy <;> decide

theorem State.ofName?_name (state : State) : ofName? state.name = some state := by
  cases state <;> decide

/-! ## Settings -/

theorem EnvSetting.ofJson?_toJson (e : EnvSetting) : ofJson? e.toJson = some e := by
  rfl

namespace ComponentSpec

variable {c : ComponentSpec} {members : Members}

/-- The settings of a component are read from members that say each of them once. -/
theorem ofJson?_of_values
    (henabled : members.values "enabled" = (c.enabled.map Json.bool).toList)
    (hrepository : members.values "repository" = (c.repository.map Json.string).toList)
    (himage : members.values "image" = (c.image.map Json.string).toList)
    (hversion : members.values "version" = (c.version.map Json.string).toList)
    (henv : members.values "env" =
      (c.env.map fun es => Json.array (es.map EnvSetting.toJson)).toList) :
    ofJson? (.object members) = some c := by
  have henv : members.strict? (·.list? EnvSetting.ofJson?) "env" = some c.env :=
    Members.strict?_of_values _ henv fun es _ =>
      ⟨by simp, Json.list?_map EnvSetting.ofJson?_toJson es⟩
  simp only [ofJson?, Json.placed?, Option.bind_eq_bind, Option.bind_some,
    Members.strict?_bool henabled, Members.strict?_string hrepository,
    Members.strict?_string himage, Members.strict?_string hversion, henv]

theorem ofJson?_toJson (c : ComponentSpec) : ofJson? c.toJson = some c := by
  apply ofJson?_of_values <;> simp [Members.values_append, Members.values_put?]

end ComponentSpec

theorem SandboxWorkloads.ofJson?_toJson (s : SandboxWorkloads) : ofJson? s.toJson = some s := by
  simp only [ofJson?, toJson, Json.placed?, Option.bind_eq_bind, Option.bind_some]
  rw [Members.strict?_bool (x := s.enabled), Members.strict?_string (x := s.defaultWorkload),
    Members.strict?_string (x := s.mode)]
  · rfl
  all_goals simp [Members.values_append, Members.values_put?]

theorem CdiConfig.ofJson?_toJson (c : CdiConfig) : ofJson? c.toJson = some c := by
  simp only [ofJson?, toJson, Json.placed?, Option.bind_eq_bind, Option.bind_some]
  rw [Members.strict?_bool (x := c.enabled), Members.strict?_bool (x := c.isDefault),
    Members.strict?_bool (x := c.nriPluginEnabled)]
  · rfl
  all_goals simp [Members.values_append, Members.values_put?]

theorem Component.collect?_some (f : Component → α) : (collect? fun c => some (f c)) = some f :=
  dif_pos fun _ => rfl

namespace Spec

theorem operatorRuntime?_write (runtime : Runtime) :
    operatorRuntime? (.object [("defaultRuntime", .string runtime.name)]) = some runtime := by
  rw [operatorRuntime?, Json.placed?, Option.bind_eq_bind, Option.bind_some,
    Members.strictD_of_values rfl]
  exact Runtime.ofName?_name runtime

theorem migStrategy?_write (strategy : MigStrategy) :
    migStrategy? (.object [("strategy", .string strategy.name)]) = some strategy := by
  rw [migStrategy?, Json.placed?, Option.bind_eq_bind, Option.bind_some,
    Members.strictD_of_values rfl]
  exact MigStrategy.ofName?_name strategy

/-- The members that settings are written as. -/
def written (s : Spec) : Members :=
  ("operator", .object [("defaultRuntime", .string s.defaultRuntime.name)])
    :: Component.all.map (fun c => (c.key, (s.component c).toJson))
    ++ [("sandboxWorkloads", s.sandbox.toJson), ("cdi", s.cdi.toJson),
      ("mig", .object [("strategy", .string s.migStrategy.name)])]

theorem names_written (s : Spec) : s.written.map Prod.fst = memberNames := rfl

theorem ofJson?_toJson (s : Spec) : ofJson? s.toJson = some s := by
  have hdistinct : (s.written.map Prod.fst).Nodup := by
    rw [names_written]
    decide
  have hread {β : Type} {read : Json → Option β} {default : β} {key : String} {v : Json}
      (h : (key, v) ∈ s.written) : s.written.strictD read default key = read v :=
    Members.strictD_of_values (Members.values_of_mem hdistinct h)
  have hoperator : s.written.strictD operatorRuntime? .containerd "operator" =
      some s.defaultRuntime :=
    (hread (by simp [written])).trans (operatorRuntime?_write _)
  have hcomponent (c : Component) :
      s.written.strictD ComponentSpec.ofJson? {} c.key = some (s.component c) := by
    have hmem := List.mem_map_of_mem (f := fun c => (c.key, (s.component c).toJson))
      (Component.mem_all c)
    rw [hread (List.mem_append_left _ (List.mem_cons_of_mem _ hmem)), ComponentSpec.ofJson?_toJson]
  have hsandbox : s.written.strictD SandboxWorkloads.ofJson? {} "sandboxWorkloads" =
      some s.sandbox :=
    (hread (by simp [written])).trans (SandboxWorkloads.ofJson?_toJson _)
  have hcdi : s.written.strictD CdiConfig.ofJson? {} "cdi" = some s.cdi :=
    (hread (by simp [written])).trans (CdiConfig.ofJson?_toJson _)
  have hmig : s.written.strictD migStrategy? .single "mig" = some s.migStrategy :=
    (hread (by simp [written])).trans (migStrategy?_write _)
  have hobject : s.toJson = .object s.written := rfl
  simp only [hobject, ofJson?, Json.placed?, Option.bind_eq_bind, Option.bind_some, hoperator,
    hcomponent, Component.collect?_some, hsandbox, hcdi, hmig]

end Spec

/-! ## Statuses -/

namespace Status

variable {next : Status}

/-- A status is read from members that say each of its fields once. -/
theorem ofJson?_of_values {members : Members}
    (hread : ∀ t, next.lastTransition = some t → t.IsLegible)
    (hstate : members.values "state" = [.string next.state.name])
    (hns : members.values "namespace" = (next.ns.map Json.string).toList)
    (herror : members.values "error" = (next.error.map Json.string).toList)
    (htime : members.values "lastTransition" =
      (next.lastTransition.map (Json.string ∘ Instant.text)).toList) :
    ofJson? (.object members) = some next := by
  have hstate : members.need? (Json.choice? State.ofName?) "state" = some next.state := by
    rw [Members.need?, hstate]
    exact State.ofName?_name next.state
  have htime : members.strict? (fun v => v.string?.bind Instant.parse?) "lastTransition" =
      some next.lastTransition := by
    refine Members.strict?_of_values (Json.string ∘ Instant.text) htime fun t ht => ⟨by simp, ?_⟩
    rw [Function.comp, Json.string?, Option.bind_some, hread t ht]
  simp only [ofJson?, Json.placed?, Option.bind_eq_bind, Option.bind_some, hstate,
    Members.strict?_string hns, Members.strict?_string herror, htime]

theorem ofJson?_toJson (hread : ∀ t, next.lastTransition = some t → t.IsLegible) :
    ofJson? next.toJson = some next := by
  apply ofJson?_of_values hread <;>
    simp [Members.values_append, Members.values_put?, Members.values_cons, Function.comp_def]

/-- The time of a status that has been read can be read back. -/
theorem legible_of_ofJson? {j : Json} (h : ofJson? j = some next) :
    ∀ t, next.lastTransition = some t → t.IsLegible := by
  obtain ⟨members, -, h⟩ := Option.bind_eq_some_iff.mp h
  obtain ⟨state, -, h⟩ := Option.bind_eq_some_iff.mp h
  obtain ⟨ns, -, h⟩ := Option.bind_eq_some_iff.mp h
  obtain ⟨error, -, h⟩ := Option.bind_eq_some_iff.mp h
  obtain ⟨lastTransition, htime, h⟩ := Option.bind_eq_some_iff.mp h
  cases h
  rintro t rfl
  obtain ⟨v, hv⟩ := Members.exists_of_strict? htime
  obtain ⟨s, -, hparse⟩ := Option.bind_eq_some_iff.mp hv
  exact (Instant.isProper_of_parse? hparse).isLegible

end Status

/-! ## Round trips -/

/-- Settings and statuses are read back as they have been written, if the time can be read back.
What has been read from anything is written so that it is read back, and written the same way
again. -/
theorem wire_round_trip :
    (∀ s : Spec, Spec.ofJson? s.toJson = some s) ∧
    (∀ t : Status, (∀ i, t.lastTransition = some i → i.IsLegible) →
      Status.ofJson? t.toJson = some t) ∧
    (∀ j s, Spec.ofJson? j = some s → Spec.ofJson? s.toJson = some s ∧
      (Spec.ofJson? s.toJson).map Spec.toJson = some s.toJson) ∧
    (∀ j t, Status.ofJson? j = some t → Status.ofJson? t.toJson = some t ∧
      (Status.ofJson? t.toJson).map Status.toJson = some t.toJson) := by
  refine ⟨Spec.ofJson?_toJson, fun t => Status.ofJson?_toJson, fun j s _ => ?_, fun j t hread => ?_⟩
  · rw [Spec.ofJson?_toJson]
    exact ⟨rfl, rfl⟩
  · rw [Status.ofJson?_toJson (Status.legible_of_ofJson? hread)]
    exact ⟨rfl, rfl⟩

end Policy

end GpuFleet
