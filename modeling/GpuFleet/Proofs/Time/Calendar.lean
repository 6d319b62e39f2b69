import GpuFleet.Time.Instant

/-!
Days counted from the start of 1970 and days of the calendar: the calendar day of a count has that
count. A year is taken to begin in March; its days before it are `365 * y + y / 4 - y / 100`, within
an era of 400 years.
-/
namespace GpuFleet.Date

/-- The year of a day in an era, and the day in that year. A year has 365 days, or 366. -/
theorem yearOfEra_bounds {dayOfEra yearOfEra dayOfYear : Int} (h0 : 0 ≤ dayOfEra)
    (h1 : dayOfEra ≤ 146096)
    (hyear : yearOfEra =
      (dayOfEra - dayOfEra / 1460 + dayOfEra / 36524 - dayOfEra / 146096) / 365)
    (hday : dayOfYear = dayOfEra - (365 * yearOfEra + yearOfEra / 4 - yearOfEra / 100)) :
    0 ≤ yearOfEra ∧ yearOfEra ≤ 399 ∧ 0 ≤ dayOfYear ∧ dayOfYear ≤ 365 := by
  -- The last day of the era is the leap day of its last century, which has one year day more.
  by_cases hlast : dayOfEra = 146096
  · subst hlast hyear hday
    decide
  have hera : dayOfEra / 146096 = 0 := by omega
  have hcentury : yearOfEra / 100 = dayOfEra / 36524 := by omega
  rw [hcentury] at hday
  rw [hera] at hyear
  omega

theorem toDays_ofDays (days : Int) : (ofDays days).toDays = days := by
  unfold toDays ofDays
  simp only [Int.fdiv_eq_ediv_of_nonneg _ (show (0 : Int) ≤ 146097 by decide),
    Int.fdiv_eq_ediv_of_nonneg _ (show (0 : Int) ≤ 400 by decide)]
  generalize hera : (days + 719468) / 146097 = era
  generalize hdayOfEra : days + 719468 - era * 146097 = dayOfEra
  generalize hyear : (dayOfEra - dayOfEra / 1460 + dayOfEra / 36524 - dayOfEra / 146096) / 365 =
    yearOfEra
  generalize hday : dayOfEra - (365 * yearOfEra + yearOfEra / 4 - yearOfEra / 100) = dayOfYear
  obtain ⟨h0, h399, hday0, hday365⟩ :=
    yearOfEra_bounds (by omega) (by omega) hyear.symm hday.symm
  generalize hmonth : (5 * dayOfYear + 2) / 153 = month
  have hmonth0 : 0 ≤ month := by omega
  have hmonth11 : month ≤ 11 := by omega
  have hstart : ((dayOfYear - (153 * month + 2) / 5 + 1).toNat : Int) =
      dayOfYear - (153 * month + 2) / 5 + 1 := by omega
  have heraBack : (yearOfEra + era * 400) / 400 = era := by omega
  have hyearBack : yearOfEra + era * 400 - era * 400 = yearOfEra := by omega
  -- January and February belong to the calendar year after the one that began in March.
  by_cases hspring : month < 10
  · have hcalendar : ¬ (month + 3).toNat ≤ 2 := by omega
    have hcalendar' : ¬ month + 3 ≤ 2 := by omega
    have hmonthBack : ((month + 3).toNat : Int) - 3 = month := by omega
    simp only [if_pos hspring, if_neg hcalendar, if_neg hcalendar', Int.add_zero, heraBack,
      hyearBack, hmonthBack, hstart]
    omega
  · have hcalendar : (month - 9).toNat ≤ 2 := by omega
    have hcalendar' : month - 9 ≤ 2 := by omega
    have hmonthBack : ((month - 9).toNat : Int) + 9 = month := by omega
    simp only [if_neg hspring, if_pos hcalendar, if_pos hcalendar', Int.add_sub_cancel, heraBack,
      hyearBack, hmonthBack, hstart]
    omega

end GpuFleet.Date
