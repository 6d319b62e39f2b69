import GpuFleet.Text.Blank
import Mathlib.Logic.Basic

/-!
Trimming takes away the white space at the two ends of a text, all of it and nothing else.
-/
namespace GpuFleet.Text

variable {text core before behind rest : List Char}

/-- The text without the white space at its two ends. -/
structure IsCore (text core : List Char) : Prop where
  split : ∃ before behind, text = before ++ core ++ behind ∧
    (∀ c ∈ before, isBlank c = true) ∧ ∀ c ∈ behind, isBlank c = true
  first : ∀ c ∈ core.head?, isBlank c = false
  last : ∀ c ∈ core.getLast?, isBlank c = false

theorem trimStart_append (h : ∀ c ∈ before, isBlank c = true) :
    trimStart (before ++ rest) = trimStart rest := List.dropWhile_append_of_pos h

theorem trimStart_of_first (h : ∀ c ∈ rest.head?, isBlank c = false) : trimStart rest = rest := by
  cases rest with
  | nil => rfl
  | cons c rest => simp [trimStart, h c rfl]

theorem first_trimStart (text : List Char) : ∀ c ∈ (trimStart text).head?, isBlank c = false := by
  induction text with
  | nil => simp [trimStart]
  | cons c text ih =>
    cases hc : isBlank c with
    | true => simpa [trimStart, hc] using ih
    | false => simp [trimStart, hc]

theorem exists_trimStart (text : List Char) :
    ∃ before, text = before ++ trimStart text ∧ ∀ c ∈ before, isBlank c = true :=
  ⟨text.takeWhile isBlank, List.takeWhile_append_dropWhile.symm,
    fun _ hc => List.all_eq_true.mp List.all_takeWhile _ hc⟩

theorem isCore_trim (text : List Char) : IsCore text (trim text) := by
  obtain ⟨before, hbefore, hblank⟩ := exists_trimStart text
  obtain ⟨behind, hbehind, hblank'⟩ := exists_trimStart (trimStart text).reverse
  have hrest : trimStart text = trim text ++ behind.reverse := by
    rw [trim, ← List.reverse_append, ← hbehind, List.reverse_reverse]
  constructor
  · exact ⟨before, behind.reverse, by rw [List.append_assoc, ← hrest, ← hbefore], hblank,
      by simpa using hblank'⟩
  · intro c hc
    refine first_trimStart text c ?_
    rw [hrest, List.head?_append, Option.mem_def.mp hc]
    rfl
  · intro c hc
    rw [trim, List.getLast?_reverse] at hc
    exact first_trimStart _ c hc

theorem IsCore.eq_trim (h : IsCore text core) : core = trim text := by
  obtain ⟨⟨before, behind, rfl, hbefore, hbehind⟩, hfirst, hlast⟩ := h
  rw [trim, List.append_assoc, trimStart_append hbefore]
  cases core with
  | nil =>
    rw [List.nil_append, ← List.append_nil behind, trimStart_append hbehind]
    rfl
  | cons c core =>
    have hbehind' : ∀ c ∈ behind.reverse, isBlank c = true := by simpa using hbehind
    have hfirst' : trimStart (c :: core ++ behind) = c :: core ++ behind :=
      trimStart_of_first (by simpa using hfirst)
    have hlast' : trimStart (c :: core).reverse = (c :: core).reverse :=
      trimStart_of_first (by rwa [List.head?_reverse])
    rw [hfirst', List.reverse_append, trimStart_append hbehind', hlast', List.reverse_reverse]

theorem isCore_iff : IsCore text core ↔ core = trim text :=
  ⟨IsCore.eq_trim, fun h => h ▸ isCore_trim text⟩

end GpuFleet.Text
