import GpuFleet.Number.Numeral
import Mathlib.Logic.Basic

/-!
Numerals and the numbers that are read of them. Reading takes up digit after digit and gives up at
the first that makes the number too large; that is to read all digits and give up if the number is
too large, because a number never gets less by another digit.
-/
namespace GpuFleet.Number

variable {bits n m : Nat} {text digits : List Char}

/-- The text consists of decimal digits, at least one, which make the number. -/
def IsDigits (text : List Char) (n : Nat) : Prop :=
  text ≠ [] ∧ (∀ c ∈ text, '0' ≤ c ∧ c ≤ '9') ∧ Nat.ofDigitChars 10 text 0 = n

/-- The text is a numeral of the number: digits, or digits behind one plus sign. -/
def IsNumeral (text : List Char) (n : Nat) : Prop :=
  IsDigits text n ∨ ∃ digits, text = '+' :: digits ∧ IsDigits digits n

theorem isDigit_iff {c : Char} : c.isDigit = true ↔ '0' ≤ c ∧ c ≤ '9' := by
  simp only [Char.isDigit, Bool.and_eq_true, decide_eq_true_eq]
  exact Iff.rfl

/-- More digits never make a number less. -/
theorem le_ofDigitChars (digits : List Char) (n : Nat) : n ≤ Nat.ofDigitChars 10 digits n := by
  rw [Nat.ofDigitChars_eq_ofDigitChars_zero]
  have hpos : 0 < 10 ^ digits.length := Nat.pow_pos (by decide)
  have hle : n ≤ 10 ^ digits.length * n := Nat.le_mul_of_pos_left n hpos
  omega

/-- Digits that are taken up one by one, each as long as the number fits, are all taken up exactly
if the number of all of them fits. -/
theorem takeUp?_eq_some_iff (hn : n < capacity bits) :
    takeUp? bits n digits = some m ↔
      (∀ c ∈ digits, '0' ≤ c ∧ c ≤ '9') ∧ Nat.ofDigitChars 10 digits n = m ∧ m < capacity bits := by
  induction digits generalizing n with
  | nil =>
    simp only [takeUp?, Option.some.injEq, List.not_mem_nil, false_implies, implies_true, true_and,
      Nat.ofDigitChars_nil]
    exact ⟨fun h => ⟨h, h ▸ hn⟩, And.left⟩
  | cons c digits ih =>
    have hnext : Nat.ofDigitChars 10 (c :: digits) n =
        Nat.ofDigitChars 10 digits (n * 10 + digitValue c) := by
      rw [Nat.ofDigitChars_cons, Nat.mul_comm, digitValue]
    rw [takeUp?, hnext, List.forall_mem_cons, ← isDigit_iff]
    by_cases hdigit : c.isDigit = true
    · by_cases hfits : n * 10 + digitValue c < capacity bits
      · simp [hdigit, hfits, ih hfits]
      · have hle := le_ofDigitChars digits (n * 10 + digitValue c)
        simp [hdigit, hfits]
        omega
    · simp [hdigit]

theorem isNumeral_plus : IsNumeral ('+' :: digits) n ↔ IsDigits digits n := by
  constructor
  · rintro (⟨-, hall, -⟩ | ⟨_, ⟨⟩, hdigits⟩)
    · exact absurd (hall '+' List.mem_cons_self) (by decide)
    · exact hdigits
  · exact fun h => .inr ⟨digits, rfl, h⟩

theorem isNumeral_of_no_plus (h : ∀ digits, text ≠ '+' :: digits) :
    IsNumeral text n ↔ IsDigits text n := by
  constructor
  · rintro (hdigits | ⟨digits, hplus, -⟩)
    · exact hdigits
    · exact absurd hplus (h digits)
  · exact .inl

theorem unsigned?_eq_some_iff :
    unsigned? bits text = some n ↔ IsNumeral text n ∧ n < capacity bits := by
  have hzero : 0 < capacity bits := Nat.pow_pos (by decide)
  have hread (digits : List Char) :
      (if digits.isEmpty then none else takeUp? bits 0 digits) = some n ↔
        IsDigits digits n ∧ n < capacity bits := by
    cases digits with
    | nil => simp [IsDigits]
    | cons c digits => simp [takeUp?_eq_some_iff hzero, IsDigits, and_assoc]
  unfold unsigned?
  split
  next digits => rw [hread, isNumeral_plus]
  next hplus => rw [hread, isNumeral_of_no_plus hplus]

end GpuFleet.Number
