import GpuFleet.Json.Reader
import GpuFleet.Json.Text
import Mathlib.Tactic.SplitIfs

/-!
The text of a string is read back as that string, and reading ends where the text does. So a string
and what stands behind it can be told from the text of both.
-/
namespace GpuFleet.Json

open Number (hexValue?)

private theorem hexValue?_hexDigit : ∀ n < 16, hexValue? (hexDigit n) = some n := by decide

private theorem unicodeEscape?_control {c : Char} (h : c.toNat < 0x20) (r : List Char) :
    unicodeEscape? ('0' :: '0' :: hexDigit (c.toNat / 16) :: hexDigit (c.toNat % 16) :: r) =
      some (some c, r) := by
  have hzero : hexValue? '0' = some 0 := by decide
  have hhigh := hexValue?_hexDigit (c.toNat / 16) (by omega)
  have hlow := hexValue?_hexDigit (c.toNat % 16) (by omega)
  have hcode : ((0 * 16 + 0) * 16 + c.toNat / 16) * 16 + c.toNat % 16 = c.toNat := by omega
  have hunit : hexUnit? ('0' :: '0' :: hexDigit (c.toNat / 16) :: hexDigit (c.toNat % 16) :: r) =
      some (c.toNat, r) := by
    simp only [hexUnit?, hzero, hhigh, hlow, Option.bind_eq_bind, Option.bind_some, hcode]
  have h1 : ¬ (0xd800 ≤ c.toNat ∧ c.toNat < 0xdc00) := by omega
  have h2 : ¬ (0xdc00 ≤ c.toNat ∧ c.toNat < 0xe000) := by omega
  simp only [unicodeEscape?, hunit, Option.bind_eq_bind, Option.bind_some, if_neg h1, if_neg h2,
    Char.ofNat_toNat]

/-- One step of the reader takes the text of one character. -/
private theorem readChars_escaped (fuel : Nat) (done : List Char) (c : Char) (r : List Char) :
    readChars (fuel + 1) (some done) (escaped c ++ r) = readChars fuel (some (c :: done)) r := by
  unfold escaped
  split_ifs with h1 h2 h3 h4 h5 h6 h7 h8
  · subst h1
    rfl
  · subst h2
    rfl
  · subst h3
    rfl
  · subst h4
    rfl
  · subst h5
    rfl
  · subst h6
    rfl
  · subst h7
    rfl
  · simp only [List.cons_append, List.nil_append, readChars, unicodeEscape?_control h8,
      Option.bind_eq_bind, Option.bind_some]
  · simp only [List.cons_append, List.nil_append]
    rw [readChars]
    · simp only [if_neg h8, Option.map_some]
    · intro h
      exact h1 h
    · rintro rest h -
      exact h2 h
    · rintro d rest h -
      exact h2 h

theorem readChars_writeChars {fuel : Nat} {done cs r : List Char} (h : cs.length < fuel) :
    readChars fuel (some done) (writeChars r cs) =
      some (some (String.ofList (done.reverse ++ cs)), r) := by
  induction cs generalizing fuel done with
  | nil =>
    obtain ⟨fuel, rfl⟩ := Nat.exists_eq_add_one_of_ne_zero (Nat.ne_zero_of_lt h)
    simp [writeChars, readChars]
  | cons c cs ih =>
    obtain ⟨fuel, rfl⟩ := Nat.exists_eq_add_one_of_ne_zero (Nat.ne_zero_of_lt h)
    have hlen : cs.length < fuel := by
      simpa using h
    rw [writeChars, readChars_escaped, ih hlen]
    simp

private theorem length_escaped_pos (c : Char) : 0 < (escaped c).length := by
  unfold escaped
  split_ifs <;> simp

private theorem length_writeChars (r cs : List Char) : cs.length < (writeChars r cs).length := by
  induction cs with
  | nil => simp [writeChars]
  | cons c cs ih =>
    have hpos := length_escaped_pos c
    simp only [writeChars, List.length_cons, List.length_append]
    omega

/-- Behind its opening quote, the text of a string is read back with what follows it. -/
theorem readString_writeString (s : String) (r : List Char) :
    readString (writeString s r).tail = some (some s, r) := by
  have hlen := length_writeChars r s.toList
  rw [writeString, List.tail_cons, readString, readChars_writeChars (by omega)]
  simp

/-- Two strings of one text are equal, and so is what follows them. -/
theorem writeString_inj {s t : String} {r q : List Char} (h : writeString s r = writeString t q) :
    s = t ∧ r = q := by
  have hs := readString_writeString s r
  rw [h, readString_writeString t q] at hs
  simp only [Option.some.injEq, Prod.mk.injEq] at hs
  exact ⟨hs.1.symm, hs.2.symm⟩

end GpuFleet.Json
