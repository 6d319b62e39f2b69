import GpuFleet.Json.Text
import Mathlib.Tactic.SplitIfs
import Std.Data.String.ToInt

/-!
What the text of a number is made of: it is not empty and has only digits, signs, points and
exponent marks, and a sign behind every exponent mark. So the end of a number can be seen from the
two characters that follow.
-/
namespace GpuFleet

namespace Number

/-- A character that may stand in the text of a number. -/
def isTextChar (c : Char) : Bool := c.isDigit || ['-', '+', '.', 'e'].contains c

/-- The text might go on with a number that stands before it. An exponent mark only does so with a
sign behind it. -/
def goesOn : List Char → Bool
  | [] => false
  | c :: rest => if c = 'e' then rest.head?.any ['-', '+'].contains else isTextChar c

/-- From every place of it on, the text goes on with a number. -/
inductive IsText : List Char → Prop
  | nil : IsText []
  | cons {c : Char} {rest : List Char} : goesOn (c :: rest) = true → IsText rest →
      IsText (c :: rest)

theorem isTextChar_of_goesOn {c : Char} {rest : List Char} (h : goesOn (c :: rest) = true) :
    isTextChar c = true := by
  rw [goesOn] at h
  split_ifs at h with he
  · subst he
    decide
  · exact h

/-- What follows a text that goes on does not matter. -/
theorem goesOn_append {cs : List Char} (h : goesOn cs = true) (r : List Char) :
    goesOn (cs ++ r) = true := by
  cases cs with
  | nil => cases h
  | cons c rest =>
    rw [goesOn] at h
    rw [List.cons_append, goesOn]
    split_ifs at h ⊢ with he
    · cases rest with
      | nil => cases h
      | cons d rest => exact h
    · exact h

/-- A character that numbers do not have ends what goes on. -/
theorem goesOn_append_cons {c : Char} (h : isTextChar c = false) (cs r : List Char) :
    goesOn (cs ++ c :: r) = goesOn cs := by
  have hne : ∀ d, isTextChar d = true → c ≠ d := by
    rintro d hd rfl
    rw [h] at hd
    cases hd
  cases cs with
  | nil => simp [goesOn, hne 'e' rfl, h]
  | cons d rest =>
    cases rest with
    | nil => simp [goesOn, hne '-' rfl, hne '+' rfl]
    | cons e rest => rfl

theorem IsText.isTextChar {cs : List Char} (h : IsText cs) : ∀ c ∈ cs, isTextChar c = true := by
  induction h with
  | nil => simp
  | cons hfirst _ ih => exact List.forall_mem_cons.mpr ⟨isTextChar_of_goesOn hfirst, ih⟩

/-- A digit, a sign or a point. -/
def isPlainChar (c : Char) : Bool := isTextChar c && c != 'e'

/-- Digits, signs and points may stand before the text of a number. -/
theorem IsText.append {cs ds : List Char} (hc : ∀ c ∈ cs, isPlainChar c = true) (hd : IsText ds) :
    IsText (cs ++ ds) := by
  induction cs with
  | nil => exact hd
  | cons c rest ih =>
    obtain ⟨hfirst, hrest⟩ := List.forall_mem_cons.mp hc
    simp only [isPlainChar, Bool.and_eq_true, bne_iff_ne] at hfirst
    refine .cons ?_ (ih hrest)
    rw [goesOn, if_neg hfirst.2]
    exact hfirst.1

theorem isText_of_plain {cs : List Char} (h : ∀ c ∈ cs, isPlainChar c = true) : IsText cs :=
  List.append_nil cs ▸ IsText.append h .nil

theorem isPlainChar_of_mem_digits {n : Nat} {c : Char} (h : c ∈ Nat.toDigits 10 n) :
    isPlainChar c = true := by
  have hdigit := Nat.isDigit_of_mem_toDigits (by decide) (by decide) h
  have hne : c ≠ 'e' := by
    rintro rfl
    revert hdigit
    decide
  simp [isPlainChar, isTextChar, hdigit, hne]

end Number

namespace Binary64

open Number (IsText isPlainChar isText_of_plain isPlainChar_of_mem_digits)

private theorem plain_point : isPlainChar '.' = true := by decide

private theorem plain_zero : isPlainChar '0' = true := by decide

private theorem plain_replicate (n : Nat) : ∀ c ∈ List.replicate n '0', isPlainChar c = true := by
  intro c hc
  rw [List.eq_of_mem_replicate hc]
  exact plain_zero

/-- The part of a text behind its digits: an exponent. -/
private theorem isText_exponent (exponent : Int) :
    IsText ('e' :: (if exponent < 0 then '-' else '+') :: Nat.toDigits 10 exponent.natAbs) := by
  have hdigits := isText_of_plain fun _ => isPlainChar_of_mem_digits (n := exponent.natAbs)
  split <;> exact .cons rfl (.cons rfl hdigits)

private theorem isText_layout {digits : List Char} {scale : Int}
    (hd : ∀ c ∈ digits, isPlainChar c = true) : IsText (layout digits scale) := by
  simp only [layout]
  by_cases h1 : 0 ≤ scale ∧ (digits.length : Int) + scale ≤ 16
  · rw [if_pos h1]
    refine isText_of_plain ?_
    simp only [List.forall_mem_append, List.forall_mem_cons, plain_point, plain_zero]
    exact ⟨⟨hd, plain_replicate _⟩, trivial, trivial, by simp⟩
  by_cases h2 : 0 < (digits.length : Int) + scale ∧ (digits.length : Int) + scale ≤ 16
  · rw [if_neg h1, if_pos h2]
    refine isText_of_plain ?_
    simp only [List.forall_mem_append, List.forall_mem_cons, plain_point]
    exact ⟨fun c hc => hd c (List.mem_of_mem_take hc), trivial,
      fun c hc => hd c (List.mem_of_mem_drop hc)⟩
  by_cases h3 : -5 < (digits.length : Int) + scale ∧ (digits.length : Int) + scale ≤ 0
  · rw [if_neg h1, if_neg h2, if_pos h3]
    refine isText_of_plain ?_
    simp only [List.cons_append, List.forall_mem_append, List.forall_mem_cons, plain_point,
      plain_zero]
    exact ⟨trivial, trivial, plain_replicate _, hd⟩
  · rw [if_neg h1, if_neg h2, if_neg h3]
    refine IsText.append ?_ (isText_exponent _)
    match digits, hd with
    | [], _ => simp
    | [d], hd => exact hd
    | d :: e :: rest, hd =>
      simp only [List.forall_mem_cons, plain_point] at hd ⊢
      exact ⟨hd.1, trivial, hd.2⟩

private theorem isText_chars (x : Binary64) : IsText x.chars := by
  have hsign : ∀ c ∈ if x.negative then ['-'] else [], isPlainChar c = true := by
    split
    · simp only [List.forall_mem_singleton]
      decide
    · simp
  simp only [chars]
  split
  · refine IsText.append hsign (isText_of_plain ?_)
    simp only [List.forall_mem_cons, plain_zero, plain_point]
    exact ⟨trivial, trivial, trivial, by simp⟩
  · exact IsText.append hsign (isText_layout fun _ => isPlainChar_of_mem_digits)

private theorem layout_ne_nil (digits : List Char) (scale : Int) : layout digits scale ≠ [] := by
  simp only [layout]
  split_ifs <;> simp

private theorem chars_ne_nil (x : Binary64) : x.chars ≠ [] := by
  simp only [chars]
  split
  · simp
  · simp [layout_ne_nil]

end Binary64

namespace Number

theorem chars_int (n : Int) : (Number.int n).chars = n.repr.toList := by
  rw [chars]
  rfl

private theorem isText_repr (n : Int) : IsText n.repr.toList := by
  have hnat : ∀ m : Nat, IsText m.repr.toList := by
    intro m
    rw [Nat.toList_repr]
    exact isText_of_plain fun _ => isPlainChar_of_mem_digits
  cases n with
  | ofNat m => exact hnat m
  | negSucc m =>
    rw [show (Int.negSucc m).repr = "-" ++ (m + 1).repr from rfl, String.toList_append]
    refine IsText.append ?_ (hnat _)
    simp only [String.reduceToList, List.forall_mem_singleton]
    decide

private theorem repr_ne_nil (n : Int) : n.repr.toList ≠ [] := by
  cases n with
  | ofNat m =>
    rw [show (Int.ofNat m).repr = m.repr from rfl, Nat.toList_repr]
    exact Nat.toDigits_ne_nil
  | negSucc m =>
    rw [show (Int.negSucc m).repr = "-" ++ (m + 1).repr from rfl, String.toList_append]
    simp

theorem isText_chars (n : Number) : IsText n.chars := by
  cases n with
  | int n =>
    rw [chars_int]
    exact isText_repr n
  | real x =>
    rw [chars]
    exact Binary64.isText_chars x

theorem isTextChar_of_mem_chars {n : Number} {c : Char} (h : c ∈ n.chars) :
    isTextChar c = true := n.isText_chars.isTextChar c h

theorem chars_ne_nil (n : Number) : n.chars ≠ [] := by
  cases n with
  | int n =>
    rw [chars_int]
    exact repr_ne_nil n
  | real x =>
    rw [chars]
    exact Binary64.chars_ne_nil x

/-- Integers of one text are equal. -/
theorem int_of_chars_eq {m n : Int} (h : (Number.int m).chars = (Number.int n).chars) : m = n := by
  rw [chars_int, chars_int] at h
  exact Int.repr_injective (String.toList_inj.mp h)

end Number

end GpuFleet
