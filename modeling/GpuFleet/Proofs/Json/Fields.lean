import GpuFleet.Proofs.Json.Merge
import Mathlib.Data.List.Nodup

/-!
What the readers of members find in a list of members: the values under a name, which are taken
together from the parts of the list.
-/
namespace GpuFleet.Members

variable {α : Type} {read : Json → Option α} {key : String} {v : Json} {members : Members}

theorem values_append (key : String) (ms ns : Members) :
    values key (ms ++ ns) = values key ms ++ values key ns := by
  rw [values, List.filter_append, List.map_append, values, values]

theorem values_put? (key name : String) (write : α → Json) (x : Option α) :
    values key (put? name write x) = if name = key then (x.map write).toList else [] := by
  by_cases h : name = key <;> cases x <;> simp [values, put?, opt, h]

/-- Where no two members have one name, none occurs twice. -/
theorem length_values_le_one (h : (members.map Prod.fst).Nodup) (key : String) :
    (members.values key).length ≤ 1 := by
  have hcount := List.nodup_iff_count_le_one.mp h key
  rw [List.count, List.countP_map] at hcount
  rw [values, List.length_map, ← List.countP_eq_length_filter]
  exact hcount

theorem mem_values_iff : v ∈ members.values key ↔ (key, v) ∈ members := by
  simp [values]

theorem values_eq_nil_iff : members.values key = [] ↔ key ∉ members.map Prod.fst := by
  rw [List.eq_nil_iff_forall_not_mem]
  simp [mem_values_iff]

/-- Where no two members have one name, a member is the only one with its name. -/
theorem values_of_mem (hdistinct : (members.map Prod.fst).Nodup) (h : (key, v) ∈ members) :
    members.values key = [v] := by
  have hmem := mem_values_iff.mpr h
  have hlength := length_values_le_one hdistinct key
  match hvalues : members.values key with
  | [] => simp [hvalues] at hmem
  | [w] => simpa [hvalues, eq_comm] using hmem
  | _ :: _ :: _ => simp [hvalues] at hlength

/-- A value that is written under the name, or nothing, is read back. -/
theorem strict?_of_values (write : α → Json) {x : Option α}
    (hvalues : members.values key = (x.map write).toList)
    (hread : ∀ a, x = some a → write a ≠ .null ∧ read (write a) = some a) :
    members.strict? read key = some x := by
  rw [strict?, strictD, hvalues]
  cases x with
  | none => rfl
  | some a =>
    obtain ⟨hnull, ha⟩ := hread a rfl
    simp only [Option.map_some, Option.toList_some, Json.orNull?, ha]

end GpuFleet.Members
