import GpuFleet.Proofs.Json.Reading
import Mathlib.Data.String.Basic

/-!
Canonical texts. Sorting puts the members of an object in ascending order and keeps what each name
stands for. So the canonical text of an object says for every name the canonical text of its value,
and nothing about the order in which the members were written.
-/
namespace GpuFleet

namespace Members

/-- The members stand in the order of their names, one for each name. -/
def Ascending (members : Members) : Prop := members.Pairwise fun m n => m.1 < n.1

theorem lookup_eq_none_of_lt {members : Members} {key : String}
    (h : ∀ m ∈ members, key < m.1) : members.lookup key = none := by
  rw [List.lookup_eq_none_iff]
  intro m hm
  exact bne_iff_ne.mpr (h m hm).ne

private theorem not_lt_head {α : Type} {f : Json → α} {k l : String} {v w : Json}
    {ms ns : Members} (hns : Ascending ((l, w) :: ns))
    (h : ∀ key, (List.lookup key ((k, v) :: ms)).map f = (List.lookup key ((l, w) :: ns)).map f) :
    ¬ k < l := by
  intro hlt
  have hnone : List.lookup k ((l, w) :: ns) = none := by
    refine lookup_eq_none_of_lt fun m hm => ?_
    rcases List.mem_cons.mp hm with rfl | hm
    · exact hlt
    · exact hlt.trans (List.rel_of_pairwise_cons hns hm)
  have hk := h k
  rw [hnone, List.lookup_cons_self] at hk
  cases hk

/-- Ascending members that give every name values alike agree one by one. -/
theorem forall₂_iff_lookup {α : Type} (f : Json → α) {ms ns : Members}
    (hms : ms.Ascending) (hns : ns.Ascending) :
    List.Forall₂ (fun m n => m.1 = n.1 ∧ f m.2 = f n.2) ms ns ↔
      ∀ key, (ms.lookup key).map f = (ns.lookup key).map f := by
  constructor
  · intro h key
    clear hms hns
    induction h with
    | nil => rfl
    | @cons m n ms ns hm _ ih =>
      obtain ⟨k, v⟩ := m
      obtain ⟨l, w⟩ := n
      obtain ⟨rfl, hv⟩ := hm
      by_cases hk : key = k
      · simpa [List.lookup_cons, hk] using hv
      · simpa [List.lookup_cons, beq_false_of_ne hk] using ih
  · intro h
    induction ms generalizing ns with
    | nil =>
      cases ns with
      | nil => exact .nil
      | cons n ns =>
        have hn := h n.1
        rw [List.lookup_cons_self] at hn
        cases hn
    | cons m ms ih =>
      obtain ⟨k, v⟩ := m
      cases ns with
      | nil =>
        have hk := h k
        rw [List.lookup_cons_self] at hk
        cases hk
      | cons n ns =>
        obtain ⟨l, w⟩ := n
        obtain rfl : k = l := le_antisymm
          (not_lt.mp (not_lt_head hms fun key => (h key).symm)) (not_lt.mp (not_lt_head hns h))
        have hhead := h k
        rw [List.lookup_cons_self, List.lookup_cons_self] at hhead
        refine .cons ⟨rfl, Option.some.inj hhead⟩ (ih hms.of_cons hns.of_cons fun key => ?_)
        by_cases hkey : key = k
        · rw [hkey, lookup_eq_none_of_lt fun m hm => List.rel_of_pairwise_cons hms hm,
            lookup_eq_none_of_lt fun m hm => List.rel_of_pairwise_cons hns hm]
        · simpa [List.lookup_cons, beq_false_of_ne hkey] using h key

end Members

namespace Json

theorem sortedItems_eq_map (items : List Json) : sortedItems items = items.map sorted := by
  induction items with
  | nil => rfl
  | cons v items ih => rw [sortedItems, ih, List.map_cons]

/-! ## Sorting members -/

theorem lookup_insertSorted (key l : String) (v : Json) (members : Members) :
    (insertSorted key v members).lookup l = if l = key then some v else members.lookup l := by
  induction members with
  | nil => by_cases h : l = key <;> simp [insertSorted, List.lookup_cons, h, beq_false_of_ne]
  | cons m rest ih =>
    obtain ⟨k, w⟩ := m
    rw [insertSorted]
    by_cases hlt : key < k
    · rw [if_pos hlt]
      by_cases h : l = key <;> simp [List.lookup_cons, h, beq_false_of_ne]
    by_cases hk : k = key
    · rw [if_neg hlt, if_pos hk, hk]
      by_cases h : l = key <;> simp [List.lookup_cons, h, beq_false_of_ne]
    · rw [if_neg hlt, if_neg hk]
      by_cases h : l = k
      · subst h
        simp [hk]
      · simp [List.lookup_cons, beq_false_of_ne h, ih]

theorem mem_insertSorted {key : String} {v : Json} {members : Members}
    {m : String × Json} (h : m ∈ insertSorted key v members) : m = (key, v) ∨ m ∈ members := by
  induction members with
  | nil => exact .inl (List.mem_singleton.mp h)
  | cons n rest ih =>
    obtain ⟨k, w⟩ := n
    rw [insertSorted] at h
    split_ifs at h with hlt hk
    · exact List.mem_cons.mp h
    · rcases List.mem_cons.mp h with h | h
      · exact .inl h
      · exact .inr (List.mem_cons_of_mem _ h)
    · rcases List.mem_cons.mp h with h | h
      · exact .inr (h ▸ List.mem_cons_self)
      · exact (ih h).imp_right (List.mem_cons_of_mem _)

theorem ascending_insertSorted (key : String) (v : Json) {members : Members}
    (h : members.Ascending) : Members.Ascending (insertSorted key v members) := by
  induction members with
  | nil => exact List.pairwise_singleton _ _
  | cons n rest ih =>
    obtain ⟨k, w⟩ := n
    obtain ⟨hk, hrest⟩ := List.pairwise_cons.mp h
    rw [insertSorted]
    split_ifs with hlt heq
    · refine List.pairwise_cons.mpr ⟨fun m hm => ?_, h⟩
      rcases List.mem_cons.mp hm with rfl | hm
      · exact hlt
      · exact hlt.trans (hk m hm)
    · subst heq
      exact List.pairwise_cons.mpr ⟨hk, hrest⟩
    · refine List.pairwise_cons.mpr ⟨fun m hm => ?_, ih hrest⟩
      rcases mem_insertSorted hm with rfl | hm
      · exact lt_of_le_of_ne (not_lt.mp hlt) heq
      · exact hk m hm

theorem ascending_sortedMembers (members : Members) :
    Members.Ascending (sortedMembers members) := by
  induction members with
  | nil => exact .nil
  | cons m rest ih => exact ascending_insertSorted m.1 _ ih

theorem lookup_sortedMembers (key : String) (members : Members) :
    (sortedMembers members).lookup key = (members.lookup key).map sorted := by
  induction members with
  | nil => rfl
  | cons m rest ih =>
    obtain ⟨k, v⟩ := m
    rw [sortedMembers, lookup_insertSorted, ih]
    by_cases h : key = k <;> simp [List.lookup_cons, h, beq_false_of_ne]

/-! ## Values of one canonical text -/

theorem canonical_array_iff {vs ws : List Json} :
    (array vs).canonical = (array ws).canonical ↔
      List.Forall₂ (fun v w => v.canonical = w.canonical) vs ws := by
  rw [canonical, canonical, sorted, sorted, text_array_iff, sortedItems_eq_map,
    sortedItems_eq_map, List.forall₂_map_left_iff, List.forall₂_map_right_iff]
  rfl

/-- Objects have one canonical text exactly if every name stands for values of one canonical text in
both, or for nothing in both. -/
theorem canonical_object_iff {ms ns : Members} :
    (object ms).canonical = (object ns).canonical ↔
      ∀ key, (ms.lookup key).map canonical = (ns.lookup key).map canonical := by
  rw [canonical, canonical, sorted, sorted, text_object_iff,
    Members.forall₂_iff_lookup text (ascending_sortedMembers ms) (ascending_sortedMembers ns)]
  simp only [lookup_sortedMembers, Option.map_map]
  rfl

theorem sorted_of_isAtom {v : Json} (h : v.isAtom = true) : v.sorted = v := by
  cases v with
  | array items => cases h
  | object members => cases h
  | _ => rw [sorted]

theorem eq_null_of_canonical_eq {v : Json} (h : v.canonical = Json.null.canonical) : v = .null := by
  have hsorted : v.sorted = .null := eq_null_of_text_eq h
  cases v with
  | null => rfl
  | _ => rw [sorted] at hsorted; cases hsorted

/-- A value without parts is told from every other one by its canonical text. -/
theorem eq_of_canonical_eq {v w : Json} (hv : v.isAtom = true) (hw : w.isAtom = true)
    (h : v.canonical = w.canonical) : v = w := by
  rw [canonical, canonical, sorted_of_isAtom hv, sorted_of_isAtom hw] at h
  exact eq_of_text_eq hv hw h

end Json

end GpuFleet
