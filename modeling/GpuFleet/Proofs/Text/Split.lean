/-!
Lists that are split where a member first, or last, fails a test.
-/
namespace GpuFleet.Text

variable {α : Type} {P : α → Prop} {a b r s : List α}

/-- The first member that fails a test splits a list in one way. -/
theorem split_at_first (ha : ∀ x ∈ a, P x) (hb : ∀ x ∈ b, P x) (hr : ∀ x ∈ r.head?, ¬ P x)
    (hs : ∀ x ∈ s.head?, ¬ P x) (h : a ++ r = b ++ s) : a = b ∧ r = s := by
  induction a generalizing b with
  | nil =>
    cases b with
    | nil => exact ⟨rfl, h⟩
    | cons y b =>
      obtain rfl : r = y :: b ++ s := h
      exact absurd (hb y List.mem_cons_self) (hr y rfl)
  | cons x a ih =>
    cases b with
    | nil =>
      obtain rfl : x :: a ++ r = s := h
      exact absurd (ha x List.mem_cons_self) (hs x rfl)
    | cons y b =>
      rw [List.forall_mem_cons] at ha hb
      rw [List.cons_append, List.cons_append, List.cons.injEq] at h
      obtain ⟨hab, hrs⟩ := ih ha.2 hb.2 h.2
      exact ⟨by rw [h.1, hab], hrs⟩

/-- The last member that fails a test splits a list in one way. -/
theorem split_at_last (hr : ∀ x ∈ r, P x) (hs : ∀ x ∈ s, P x) (ha : ∀ x ∈ a.getLast?, ¬ P x)
    (hb : ∀ x ∈ b.getLast?, ¬ P x) (h : a ++ r = b ++ s) : a = b ∧ r = s := by
  have hreverse : r.reverse ++ a.reverse = s.reverse ++ b.reverse := by
    rw [← List.reverse_append, h, List.reverse_append]
  obtain ⟨hrs, hab⟩ := split_at_first (by simpa using hr) (by simpa using hs)
    (by simpa using ha) (by simpa using hb) hreverse
  exact ⟨List.reverse_inj.mp hab, List.reverse_inj.mp hrs⟩

end GpuFleet.Text
