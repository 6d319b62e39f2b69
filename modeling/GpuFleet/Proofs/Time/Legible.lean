import GpuFleet.Proofs.Time.Calendar
import GpuFleet.Time.Rfc3339

/-!
Instants are read back as they have been written, if they have a date and a time of day at all, and
every instant that is read has.
-/
namespace GpuFleet

theorem Date.daysInMonth_le (year : Int) (month : Nat) : daysInMonth year month ≤ 31 := by
  unfold daysInMonth
  repeat' split
  all_goals decide

/-! ## Digits -/

namespace Number

theorem digitsValue_eq (ds : List Char) : digitsValue ds = Nat.ofDigitChars 10 ds 0 := by
  simp only [digitsValue, Nat.ofDigitChars_eq_foldl, digitValue, Nat.mul_comm]

theorem digitValue_le {c : Char} (h : c.isDigit = true) : digitValue c ≤ 9 := by
  have hc := h
  simp only [Char.isDigit, Bool.and_eq_true, decide_eq_true_eq] at hc
  have hle : c.toNat ≤ 57 := hc.2
  simp only [digitValue]
  have hzero : '0'.toNat = 48 := rfl
  omega

theorem digitsValue_lt {ds : List Char} (h : ∀ c ∈ ds, c.isDigit = true) :
    digitsValue ds < Nat.pow 10 ds.length := by
  induction ds with
  | nil => decide
  | cons c ds ih =>
    rw [List.forall_mem_cons] at h
    have hc := digitValue_le h.1
    have hds := ih h.2
    rw [digitsValue_eq, Nat.pow_eq] at hds ⊢
    rw [Nat.ofDigitChars_cons, Nat.ofDigitChars_eq_ofDigitChars_zero, List.length_cons,
      Nat.pow_succ]
    have hmul := Nat.mul_le_mul_left (10 ^ ds.length) hc
    simp only [digitValue, Nat.mul_zero, Nat.zero_add] at hmul ⊢
    omega

end Number

namespace Text

theorem isBlank_of_isDigit {c : Char} (h : c.isDigit = true) : isBlank c = false := by
  simp only [Char.isDigit, Bool.and_eq_true, decide_eq_true_eq] at h
  have hge : 48 ≤ c.toNat := h.1
  have hle : c.toNat ≤ 57 := h.2
  simp [isBlank]
  omega

theorem trimStart_append_of_digits {ds : List Char} (h : ∀ c ∈ ds, c.isDigit = true)
    (hne : ds ≠ []) (rest : List Char) : trimStart (ds ++ rest) = ds ++ rest := by
  cases ds with
  | nil => exact absurd rfl hne
  | cons c ds =>
    have hc := isBlank_of_isDigit (h c List.mem_cons_self)
    rw [trimStart, List.cons_append, List.dropWhile_cons, hc]
    rfl

end Text

namespace Instant

variable {n width limit : Nat} {c : Char} {ds rest : List Char}

theorem isDigit_of_mem_padded (h : c ∈ padded width n) : c.isDigit = true := by
  rw [padded, List.mem_append, List.mem_replicate] at h
  obtain ⟨-, rfl⟩ | h := h
  · rfl
  · exact Nat.isDigit_of_mem_toDigits (by decide) (by decide) h

theorem padded_ne_nil : padded width n ≠ [] := by
  simp [padded, Nat.toDigits_ne_nil]

theorem digitsValue_padded : Number.digitsValue (padded width n) = n := by
  rw [Number.digitsValue_eq, padded, Nat.ofDigitChars_append, Nat.ofDigitChars_replicate_zero,
    Nat.mul_zero, Nat.ofDigitChars_ten_toDigits]

theorem length_padded (hwidth : 0 < width) (h : n < Nat.pow 10 width) :
    (padded width n).length = width := by
  have hle := (Nat.length_toDigits_le_iff (by decide) hwidth).mpr h
  simp only [padded, List.length_append, List.length_replicate]
  omega

/-- Digits that something else follows are read to their end. -/
theorem readDigits?_append (hds : ∀ c ∈ ds, c.isDigit = true) (hne : ds ≠ [])
    (hlimit : ds.length ≤ limit) (hc : c.isDigit = false) :
    readDigits? limit (ds ++ c :: rest) =
      some (Number.digitsValue ds, ds.length, c :: rest) := by
  have htake : ((ds ++ c :: rest).take limit).takeWhile Char.isDigit = ds := by
    rw [List.take_append, List.take_of_length_le hlimit, List.takeWhile_append_of_pos hds]
    cases limit - ds.length with
    | zero => simp
    | succ k => simp [hc]
  rw [readDigits?, htake]
  simp [hne]

/-- Digits do not begin with a mark. -/
theorem append_ne_mark {cs : List Char} (hds : ∀ c ∈ ds, c.isDigit = true) (hne : ds ≠ [])
    (hc : c.isDigit = false) : ds ++ rest ≠ c :: cs := by
  cases ds with
  | nil => exact absurd rfl hne
  | cons d ds =>
    rintro ⟨⟩
    simp [hc] at hds

/-! ## Reading what has been written -/

theorem readPart?_padded (hn : n < 100) (hc : c.isDigit = false) :
    readPart? (padded 2 n ++ c :: rest) = some (n, c :: rest) := by
  have hlength : (padded 2 n).length ≤ 2 := Nat.le_of_eq (length_padded (by decide) hn)
  rw [readPart?, Text.trimStart_append_of_digits (fun _ => isDigit_of_mem_padded) padded_ne_nil,
    readDigits?_append (fun _ => isDigit_of_mem_padded) padded_ne_nil hlength hc,
    digitsValue_padded]
  rfl

theorem readMark?_dash : readMark? '-' ('-' :: rest) = some rest := rfl

theorem readMark?_colon : readMark? ':' (':' :: rest) = some rest := rfl

theorem readYear?_yearChars {year : Int} (hlow : -262143 ≤ year) (hhigh : year ≤ 262142) :
    readYear? (yearChars year ++ '-' :: rest) = some (year, '-' :: rest) := by
  have hdigits (n : Nat) : ∀ c ∈ padded 4 n, c.isDigit = true := fun _ => isDigit_of_mem_padded
  unfold yearChars
  split
  · next hfour =>
    have hlength : (padded 4 year.toNat).length ≤ 4 :=
      Nat.le_of_eq (length_padded (by decide) (show year.toNat < 10000 by omega))
    rw [readYear?, Text.trimStart_append_of_digits (hdigits _) padded_ne_nil]
    split
    · next heq => exact absurd heq (append_ne_mark (hdigits _) padded_ne_nil rfl)
    · next heq => exact absurd heq (append_ne_mark (hdigits _) padded_ne_nil rfl)
    · rw [readDigits?_append (hdigits _) padded_ne_nil hlength rfl, digitsValue_padded]
      simp only [Option.bind_eq_bind, Option.bind_some, Int.toNat_of_nonneg hfour.1]
  · have hread : readDigits? (padded 4 year.natAbs ++ '-' :: rest).length
        (padded 4 year.natAbs ++ '-' :: rest) = some _ :=
      readDigits?_append (hdigits _) padded_ne_nil (by simp) rfl
    have hfits : Number.fitsSigned 64 year.natAbs = true := by
      have hcapacity : 262144 ≤ Number.capacity (64 - 1) := by decide
      rw [Number.fitsSigned, Bool.and_eq_true, decide_eq_true_eq, decide_eq_true_eq]
      omega
    rw [digitsValue_padded] at hread
    by_cases hneg : year < 0
    · rw [if_pos hneg, List.cons_append]
      have hback : some (-(year.natAbs : Int), '-' :: rest) = some (year, '-' :: rest) := by
        rw [show -(year.natAbs : Int) = year by omega]
      exact Option.bind_eq_some_iff.mpr ⟨_, hread, (if_pos hfits).trans hback⟩
    · rw [if_neg hneg, List.cons_append]
      have hback : some ((year.natAbs : Int), '-' :: rest) = some (year, '-' :: rest) := by
        rw [show (year.natAbs : Int) = year by omega]
      exact Option.bind_eq_some_iff.mpr ⟨_, hread, (if_pos hfits).trans hback⟩

theorem readDate?_written {date : Date} (h : date.isValid = true) :
    readDate? (yearChars date.year ++ '-' :: (padded 2 date.month ++ '-' ::
      (padded 2 date.day ++ 'T' :: rest))) = some (date, 'T' :: rest) := by
  simp only [Date.isValid, Bool.and_eq_true, decide_eq_true_eq] at h
  obtain ⟨⟨⟨⟨⟨hlow, hhigh⟩, -⟩, hmonth⟩, -⟩, hday⟩ := h
  have hmonth : date.month < 100 := by omega
  have hday : date.day < 100 := by
    have := Date.daysInMonth_le date.year date.month
    omega
  simp only [readDate?, readYear?_yearChars hlow hhigh, readMark?_dash,
    readPart?_padded hmonth (show '-'.isDigit = false from rfl),
    readPart?_padded hday (show 'T'.isDigit = false from rfl), Option.bind_eq_bind,
    Option.bind_some]

theorem readFraction?_fractionChars {nanos : Nat} (h : nanos < 1000000000) :
    readFraction? (fractionChars nanos ++ ['Z']) = some (nanos, ['Z']) := by
  have hread {width n : Nat} (hwidth : 0 < width ∧ width ≤ 9) (hn : n < Nat.pow 10 width) :
      readFraction? ('.' :: padded width n ++ ['Z']) =
        some (n * Nat.pow 10 (9 - width), ['Z']) := by
    have hlength := length_padded hwidth.1 hn
    rw [List.cons_append, readFraction?, readDigits?_append (fun _ => isDigit_of_mem_padded)
      padded_ne_nil (by omega) rfl, digitsValue_padded, hlength]
    rfl
  unfold fractionChars
  split
  · next hzero =>
    rw [hzero]
    rfl
  split
  · next hmilli =>
    rw [@hread 3 _ (by decide) (show nanos / 1000000 < 1000 by omega)]
    have hback : nanos / 1000000 * Nat.pow 10 (9 - 3) = nanos :=
      Nat.div_mul_cancel (Nat.dvd_of_mod_eq_zero hmilli)
    rw [hback]
  split
  · next hmicro =>
    rw [@hread 6 _ (by decide) (show nanos / 1000 < 1000000 by omega)]
    have hback : nanos / 1000 * Nat.pow 10 (9 - 6) = nanos :=
      Nat.div_mul_cancel (Nat.dvd_of_mod_eq_zero hmicro)
    rw [hback]
  · rw [@hread 9 _ (by decide) h]
    have hback : nanos * Nat.pow 10 (9 - 9) = nanos := Nat.mul_one nanos
    rw [hback]

theorem readTime?_written {hour minute second nanos : Nat} (hhour : hour < 24)
    (hminute : minute < 60) (hsecond : second ≤ 60) (hnanos : nanos < 1000000000) :
    readTime? (padded 2 hour ++ ':' :: (padded 2 minute ++ ':' ::
      (padded 2 second ++ (fractionChars nanos ++ ['Z'])))) =
      some (if second = 60 then (hour * 3600 + minute * 60 + 59, 1000000000 + nanos)
        else (hour * 3600 + minute * 60 + second, nanos), ['Z']) := by
  have hend : ∃ c cs, fractionChars nanos ++ ['Z'] = c :: cs ∧ c.isDigit = false := by
    unfold fractionChars
    repeat' split
    all_goals exact ⟨_, _, rfl, rfl⟩
  obtain ⟨c, cs, hcs, hc⟩ := hend
  have hfraction := readFraction?_fractionChars hnanos
  have hcolon : ':'.isDigit = false := rfl
  have hrange : hour < 24 ∧ minute < 60 ∧ second ≤ 60 := ⟨hhour, hminute, hsecond⟩
  rw [hcs] at hfraction ⊢
  simp only [readTime?, readPart?_padded (show hour < 100 by omega) hcolon,
    readPart?_padded (show minute < 100 by omega) hcolon,
    readPart?_padded (show second < 100 by omega) hc, readMark?_colon, hfraction,
    Option.bind_eq_bind, Option.bind_some, if_pos hrange]
  split <;> rfl

/-! ## Legible instants -/

/-- The instant is read back as it has been written. -/
def IsLegible (t : Instant) : Prop := parse? t.text = some t

instance (t : Instant) : Decidable t.IsLegible :=
  inferInstanceAs (Decidable (parse? t.text = some t))

/-- The instant has a date, and its leap second, if it is in one, ends a minute. -/
structure IsProper (t : Instant) : Prop where
  date : (Date.ofDays (t.seconds.fdiv 86400)).isValid = true
  nanos : t.nanos < 2000000000
  leap : 1000000000 ≤ t.nanos → t.seconds % 60 = 59

/-- The time of day that is written is the one that is read. -/
theorem IsProper.time_eq {t : Instant} (h : t.IsProper) {second : Nat}
    (hsecond : (second : Int) = t.seconds - t.seconds.fdiv 86400 * 86400) :
    (if second % 60 + (if 1000000000 ≤ t.nanos then 1 else 0) = 60 then
        (second / 3600 * 3600 + second / 60 % 60 * 60 + 59, 1000000000 + t.nanos % 1000000000)
      else (second / 3600 * 3600 + second / 60 % 60 * 60 +
        (second % 60 + (if 1000000000 ≤ t.nanos then 1 else 0)), t.nanos % 1000000000)) =
      (second, t.nanos) := by
  have hnanos := h.nanos
  -- A leap second is written as second 60, and read as the second before with a long fraction.
  by_cases hleap : 1000000000 ≤ t.nanos
  · have hlast : second % 60 = 59 := by
      have := h.leap hleap
      omega
    rw [if_pos hleap, if_pos (by omega), Prod.mk.injEq]
    omega
  · rw [if_neg hleap, if_neg (by omega), Prod.mk.injEq]
    omega

theorem IsProper.isLegible {t : Instant} (h : t.IsProper) : t.IsLegible := by
  have hdays : t.seconds.fdiv 86400 = t.seconds / 86400 :=
    Int.fdiv_eq_ediv_of_nonneg _ (by decide)
  have hsecond : ((t.seconds - t.seconds.fdiv 86400 * 86400).toNat : Int) =
      t.seconds - t.seconds.fdiv 86400 * 86400 := by omega
  have hday : (t.seconds - t.seconds.fdiv 86400 * 86400).toNat < 86400 := by omega
  have htime := h.time_eq hsecond
  rw [IsLegible, parse?, text, String.toList_ofList, secondChars]
  simp only [List.append_assoc, List.cons_append]
  generalize (t.seconds - t.seconds.fdiv 86400 * 86400).toNat = second at *
  refine Option.bind_eq_some_iff.mpr ⟨_, readDate?_written h.date, ?_⟩
  refine Option.bind_eq_some_iff.mpr ⟨_, rfl, ?_⟩
  have hleap : (if 1000000000 ≤ t.nanos then 1 else 0) ≤ 1 := by split <;> decide
  have hread := @readTime?_written (second / 3600) (second / 60 % 60)
    (second % 60 + (if 1000000000 ≤ t.nanos then 1 else 0)) (t.nanos % 1000000000)
    (by omega) (by omega) (by omega) (by omega)
  rw [htime] at hread
  refine Option.bind_eq_some_iff.mpr ⟨_, hread, ?_⟩
  refine Option.bind_eq_some_iff.mpr ⟨(0, []), rfl, (if_pos ⟨h.date, rfl⟩).trans ?_⟩
  have hseconds : (Date.ofDays (t.seconds.fdiv 86400)).toDays * 86400 + (second : Int) - 0 =
      t.seconds := by
    rw [Date.toDays_ofDays]
    omega
  simp only [hseconds]
  exact if_pos h.date

theorem readDigits?_lt {cs : List Char} (h : readDigits? limit cs = some (n, width, rest)) :
    n < Nat.pow 10 width ∧ width ≤ limit := by
  rw [readDigits?] at h
  split at h
  · cases h
  · cases h
    refine ⟨Number.digitsValue_lt fun c hc => ?_, ?_⟩
    · exact List.all_eq_true.mp List.all_takeWhile c hc
    · exact Nat.le_trans (List.takeWhile_sublist _).length_le (List.length_take_le _ _)

theorem readFraction?_lt {cs : List Char} (h : readFraction? cs = some (n, rest)) :
    n < 1000000000 := by
  unfold readFraction? at h
  split at h
  · obtain ⟨⟨m, width, rest⟩, hread, h⟩ := Option.bind_eq_some_iff.mp h
    cases h
    obtain ⟨hm, hwidth⟩ := readDigits?_lt hread
    calc m * Nat.pow 10 (9 - width)
      _ < Nat.pow 10 width * Nat.pow 10 (9 - width) :=
        Nat.mul_lt_mul_of_pos_right hm (Nat.pow_pos (by decide))
      _ = Nat.pow 10 (width + (9 - width)) := (Nat.pow_add 10 width (9 - width)).symm
      _ = 1000000000 := by rw [Nat.add_sub_cancel' hwidth]
  · cases h
    decide

theorem readTime?_leap {cs : List Char} {second nanos : Nat}
    (h : readTime? cs = some ((second, nanos), rest)) :
    nanos < 2000000000 ∧ (1000000000 ≤ nanos → second % 60 = 59) := by
  unfold readTime? at h
  obtain ⟨⟨hour, _⟩, -, h⟩ := Option.bind_eq_some_iff.mp h
  obtain ⟨_, -, h⟩ := Option.bind_eq_some_iff.mp h
  obtain ⟨⟨minute, _⟩, -, h⟩ := Option.bind_eq_some_iff.mp h
  obtain ⟨_, -, h⟩ := Option.bind_eq_some_iff.mp h
  obtain ⟨⟨s, _⟩, -, h⟩ := Option.bind_eq_some_iff.mp h
  obtain ⟨⟨fraction, _⟩, hfraction, h⟩ := Option.bind_eq_some_iff.mp h
  have hlt := readFraction?_lt hfraction
  dsimp only at h
  split at h
  · split at h
    · cases h
      omega
    · cases h
      omega
  · cases h

theorem readMinutes_minutes {sign : Int} {cs : List Char} {offset : Int}
    (h : readOffset?.readMinutes sign cs = some (offset, rest)) : offset % 60 = 0 := by
  unfold readOffset?.readMinutes at h
  obtain ⟨⟨hours, _⟩, -, h⟩ := Option.bind_eq_some_iff.mp h
  obtain ⟨⟨minutes, _⟩, -, h⟩ := Option.bind_eq_some_iff.mp h
  dsimp only at h
  split at h
  · cases h
    exact Int.emod_eq_zero_of_dvd (Int.dvd_mul_of_dvd_right (by omega))
  · cases h

/-- Offsets are whole minutes. -/
theorem readOffset?_minutes {cs : List Char} {offset : Int}
    (h : readOffset? cs = some (offset, rest)) : offset % 60 = 0 := by
  have hsigned {cs : List Char} (h : readOffset?.readSigned cs = some (offset, rest)) :
      offset % 60 = 0 := by
    unfold readOffset?.readSigned at h
    split at h
    · cases h
      rfl
    · cases h
      rfl
    · exact readMinutes_minutes h
    · exact readMinutes_minutes h
    · exact readMinutes_minutes h
    · cases h
  unfold readOffset? at h
  split at h
  · split at h
    · cases h
      rfl
    · exact hsigned h
  · exact hsigned h

/-- What is read is a proper instant. -/
theorem isProper_of_parse? {s : String} {t : Instant} (h : parse? s = some t) : t.IsProper := by
  unfold parse? at h
  obtain ⟨⟨date, _⟩, -, h⟩ := Option.bind_eq_some_iff.mp h
  dsimp only at h
  -- However the date and the time are joined, the rest is read the same way.
  split at h
  all_goals
    obtain ⟨_, -, h⟩ := Option.bind_eq_some_iff.mp h
    obtain ⟨⟨⟨second, nanos⟩, _⟩, htime, h⟩ := Option.bind_eq_some_iff.mp h
    obtain ⟨⟨offset, _⟩, hoffset, h⟩ := Option.bind_eq_some_iff.mp h
    obtain ⟨hnanos, hleap⟩ := readTime?_leap htime
    have hminutes := readOffset?_minutes hoffset
    dsimp only at h
    split at h
    · split at h
      · next hvalid =>
        cases h
        refine ⟨hvalid, hnanos, fun hge => ?_⟩
        have := hleap hge
        dsimp only
        omega
      · cases h
    · cases h

/-- Exactly the proper instants are read back as they have been written. -/
theorem isLegible_iff {t : Instant} : t.IsLegible ↔ t.IsProper :=
  ⟨isProper_of_parse?, IsProper.isLegible⟩

end Instant

end GpuFleet
