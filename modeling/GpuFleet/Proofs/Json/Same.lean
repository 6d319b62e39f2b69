import GpuFleet.Proofs.Json.Canonical

/-!
When two values are the same: they have one constructor and the same parts, items place by place and
members name by name, so that the order in which members are written does not count. Numbers are the
same where they are printed alike. The canonical text says this and nothing more.
-/
namespace GpuFleet.Json

/-- Values that are equal up to the order of members. -/
inductive Same : Json → Json → Prop
  | null : Same .null .null
  | bool (b : Bool) : Same (.bool b) (.bool b)
  | number {m n : Number} : m.chars = n.chars → Same (.number m) (.number n)
  | string (s : String) : Same (.string s) (.string s)
  | array {vs ws : List Json} : List.Forall₂ Same vs ws → Same (.array vs) (.array ws)
  | object {ms ns : Members} :
      (∀ key, Option.Rel Same (ms.lookup key) (ns.lookup key)) → Same (.object ms) (.object ns)

private theorem kind_sorted (v : Json) : kind v.sorted = kind v := by
  cases v with
  | bool b => cases b <;> rfl
  | _ => rfl

private theorem kind_eq_of_canonical_eq {v w : Json} (h : v.canonical = w.canonical) :
    kind v = kind w := by
  have hkind := kind_eq (text_eq_iff.mp h)
  rwa [kind_sorted, kind_sorted] at hkind

private theorem Same.kind_eq {v w : Json} (h : Same v w) : kind v = kind w := by
  cases h <;> rfl

private theorem array_iff {vs ws : List Json} :
    Same (.array vs) (.array ws) ↔ List.Forall₂ Same vs ws := by
  constructor
  · intro h
    cases h with
    | array h => exact h
  · exact .array

private theorem object_iff {ms ns : Members} :
    Same (.object ms) (.object ns) ↔
      ∀ key, Option.Rel Same (ms.lookup key) (ns.lookup key) := by
  constructor
  · intro h
    cases h with
    | object h => exact h
  · exact .object

private theorem forall₂_iff_of_mem {r s : Json → Json → Prop} {vs : List Json} (ws : List Json)
    (h : ∀ v ∈ vs, ∀ w, r v w ↔ s v w) : List.Forall₂ r vs ws ↔ List.Forall₂ s vs ws := by
  induction vs generalizing ws with
  | nil => rw [List.forall₂_nil_left_iff, List.forall₂_nil_left_iff]
  | cons v vs ih =>
    obtain ⟨hv, hvs⟩ := List.forall_mem_cons.mp h
    cases ws with
    | nil => simp
    | cons w ws => rw [List.forall₂_cons, List.forall₂_cons, hv, ih ws hvs]

private theorem map_canonical_iff_of_mem {x y : Option Json}
    (h : ∀ v ∈ x, ∀ w, v.canonical = w.canonical ↔ Same v w) :
    x.map canonical = y.map canonical ↔ Option.Rel Same x y := by
  cases x with
  | none => cases y <;> simp
  | some v =>
    cases y with
    | none => simp
    | some w => simp [h v rfl w]

/-- Values of two kinds have two texts and are not the same. -/
private theorem iff_of_kind {v w : Json}
    (h : kind v = kind w → (v.canonical = w.canonical ↔ Same v w)) :
    v.canonical = w.canonical ↔ Same v w :=
  ⟨fun htext => (h (kind_eq_of_canonical_eq htext)).mp htext, fun hsame =>
    (h hsame.kind_eq).mpr hsame⟩

private theorem canonical_number_iff {m n : Number} :
    (number m).canonical = (number n).canonical ↔ Same (.number m) (.number n) := by
  rw [canonical, canonical, sorted, sorted, text_eq_iff, write, write, List.append_nil,
    List.append_nil]
  constructor
  · exact .number
  · intro h
    cases h with
    | number h => exact h

private theorem canonical_string_iff {s t : String} :
    (string s).canonical = (string t).canonical ↔ Same (.string s) (.string t) := by
  constructor
  · intro h
    rw [canonical, canonical, sorted, sorted, text_eq_iff, write, write] at h
    exact (writeString_inj h).1 ▸ .string s
  · intro h
    cases h
    rfl

-- By recursion on the first value. The second has the same constructor, on either side of the
-- equivalence, and then the parts are compared.
mutual

/-- Two values are the same exactly if they have one canonical text. -/
theorem canonical_eq_iff : ∀ v w : Json, v.canonical = w.canonical ↔ Same v w
  | .null, w => by
    refine iff_of_kind fun hkind => ?_
    cases w with
    | null => exact iff_of_true rfl .null
    | bool b => cases b <;> cases hkind
    | _ => cases hkind
  | .bool true, w => by
    refine iff_of_kind fun hkind => ?_
    cases w with
    | bool b => cases b with
      | true => exact iff_of_true rfl (.bool true)
      | false => cases hkind
    | _ => cases hkind
  | .bool false, w => by
    refine iff_of_kind fun hkind => ?_
    cases w with
    | bool b => cases b with
      | true => cases hkind
      | false => exact iff_of_true rfl (.bool false)
    | _ => cases hkind
  | .number m, w => by
    refine iff_of_kind fun hkind => ?_
    cases w with
    | number n => exact canonical_number_iff
    | bool b => cases b <;> cases hkind
    | _ => cases hkind
  | .string s, w => by
    refine iff_of_kind fun hkind => ?_
    cases w with
    | string t => exact canonical_string_iff
    | bool b => cases b <;> cases hkind
    | _ => cases hkind
  | .array vs, w => by
    refine iff_of_kind fun hkind => ?_
    cases w with
    | array ws =>
      rw [canonical_array_iff, array_iff]
      exact forall₂_iff_of_mem ws (canonical_eq_iff_of_mem vs)
    | bool b => cases b <;> cases hkind
    | _ => cases hkind
  | .object ms, w => by
    refine iff_of_kind fun hkind => ?_
    cases w with
    | object ns =>
      rw [canonical_object_iff, object_iff]
      refine forall_congr' fun key => map_canonical_iff_of_mem fun v hv => ?_
      obtain ⟨before, after, hms, -⟩ := List.lookup_eq_some_iff.mp hv
      exact canonical_eq_iff_of_mem_members ms (key, v) (by simp [hms])
    | bool b => cases b <;> cases hkind
    | _ => cases hkind

private theorem canonical_eq_iff_of_mem :
    ∀ vs : List Json, ∀ v ∈ vs, ∀ w, v.canonical = w.canonical ↔ Same v w
  | [] => fun _ h => absurd h List.not_mem_nil
  | v :: vs => List.forall_mem_cons.mpr ⟨canonical_eq_iff v, canonical_eq_iff_of_mem vs⟩

private theorem canonical_eq_iff_of_mem_members :
    ∀ ms : List (String × Json), ∀ m ∈ ms, ∀ w, m.2.canonical = w.canonical ↔ Same m.2 w
  | [] => fun _ h => absurd h List.not_mem_nil
  | (_, v) :: ms =>
    List.forall_mem_cons.mpr ⟨canonical_eq_iff v, canonical_eq_iff_of_mem_members ms⟩

end

theorem map_canonical_eq_iff {x y : Option Json} :
    x.map canonical = y.map canonical ↔ Option.Rel Same x y :=
  map_canonical_iff_of_mem fun v _ => canonical_eq_iff v

end GpuFleet.Json
