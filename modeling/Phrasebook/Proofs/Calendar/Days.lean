import Phrasebook.Calendar.Moment

/-!
# Counting days

Days are numbered without gaps from the first day of year 1 on. The day after has the next number,
the day before has the one before it, and no two days share a number.
-/

namespace Phrasebook

namespace Date

open Calendar

/-- The number of a day; the first day of year 1 has number 1. -/
def dayNumber (d : Date) : Int :=
  daysBeforeYear d.year + daysBeforeMonth d.year d.month + d.day

/-! ## Years -/

def daysInYear (year : Int) : Int := if isLeap year then 366 else 365

theorem isLeap_iff (year : Int) :
    isLeap year = true ↔ year % 4 = 0 ∧ (year % 100 ≠ 0 ∨ year % 400 = 0) := by
  simp [isLeap]

theorem daysBeforeYear_add_one (year : Int) :
    daysBeforeYear (year + 1) = daysBeforeYear year + daysInYear year := by
  have hleap := isLeap_iff year
  unfold daysBeforeYear daysInYear
  split
  · next h =>
      have hparts := hleap.1 h
      omega
  · next h =>
      have hparts := mt hleap.2 h
      omega

theorem daysBeforeYear_mono {year other : Int} (h : year ≤ other) :
    daysBeforeYear year ≤ daysBeforeYear other := by
  unfold daysBeforeYear
  omega

/-! ## Months -/

theorem daysInMonth_congr {year other : Int} (h : isLeap year = isLeap other) :
    daysInMonth year = daysInMonth other := by
  funext month
  simp only [daysInMonth, h]

theorem daysBeforeMonth_congr {year other : Int} (h : isLeap year = isLeap other) :
    daysBeforeMonth year = daysBeforeMonth other := by
  funext month
  simp only [daysBeforeMonth, daysInMonth_congr h]

/-- What holds of the months of a common year and of a leap year holds of those of all years. -/
theorem months_cases {P : (Fin 12 → Nat) → (Fin 12 → Nat) → Int → Prop}
    (common : P (daysInMonth 2001) (daysBeforeMonth 2001) 365)
    (leap : P (daysInMonth 2000) (daysBeforeMonth 2000) 366) (year : Int) :
    P (daysInMonth year) (daysBeforeMonth year) (daysInYear year) := by
  cases h : isLeap year with
  | true =>
      have hlike : isLeap year = isLeap 2000 := h
      rw [daysInMonth_congr hlike, daysBeforeMonth_congr hlike, daysInYear, if_pos h]
      exact leap
  | false =>
      have hlike : isLeap year = isLeap 2001 := h
      rw [daysInMonth_congr hlike, daysBeforeMonth_congr hlike, daysInYear, if_neg (by simp [h])]
      exact common

theorem daysInMonth_le (year : Int) : ∀ month, daysInMonth year month ≤ 31 :=
  months_cases (P := fun days _ _ => ∀ month, days month ≤ 31) (by decide) (by decide) year

theorem daysBeforeMonth_zero (year : Int) : daysBeforeMonth year 0 = 0 := rfl

theorem daysBeforeMonth_add_one (year : Int) : ∀ month : Fin 12, month ≠ 11 →
    daysBeforeMonth year (month + 1) = daysBeforeMonth year month + daysInMonth year month :=
  months_cases (P := fun days before _ => ∀ month : Fin 12, month ≠ 11 →
    before (month + 1) = before month + days month) (by decide) (by decide) year

theorem daysBeforeMonth_add_le (year : Int) : ∀ month other : Fin 12, month < other →
    daysBeforeMonth year month + daysInMonth year month ≤ daysBeforeMonth year other :=
  months_cases (P := fun days before _ => ∀ month other : Fin 12, month < other →
    before month + days month ≤ before other) (by decide) (by decide) year

theorem daysBeforeMonth_december (year : Int) :
    (daysBeforeMonth year 11 + daysInMonth year 11 : Int) = daysInYear year :=
  months_cases (P := fun days before all => (before 11 + days 11 : Int) = all)
    (by decide) (by decide) year

theorem daysBeforeMonth_add_le_daysInYear (year : Int) (month : Fin 12) :
    (daysBeforeMonth year month + daysInMonth year month : Int) ≤ daysInYear year := by
  rw [← daysBeforeMonth_december]
  by_cases h : month = 11
  · subst h
    exact Int.le_refl _
  · have hbelow := daysBeforeMonth_add_le year month 11 (by omega)
    omega

/-! ## Neighbours -/

theorem dayNumber_next (d : Date) : d.next.dayNumber = d.dayNumber + 1 := by
  have hday := d.day_le
  unfold next
  split
  · simp only [dayNumber]
    omega
  · next hlast =>
      split
      · next hmonth =>
          have hyear := daysBeforeYear_add_one d.year
          have hdecember := daysBeforeMonth_december d.year
          have hzero := daysBeforeMonth_zero (d.year + 1)
          rw [hmonth] at hday hlast
          simp only [dayNumber, firstOf, hmonth, hyear, hzero]
          omega
      · next hmonth =>
          have hnext := daysBeforeMonth_add_one d.year d.month hmonth
          simp only [dayNumber, firstOf, hnext]
          omega

theorem dayNumber_previous (d : Date) : d.previous.dayNumber = d.dayNumber - 1 := by
  have hday := d.day_pos
  unfold previous
  split
  · simp only [dayNumber]
    omega
  · next hfirst =>
      split
      · next hmonth =>
          have hyear := daysBeforeYear_add_one (d.year - 1)
          have hdecember := daysBeforeMonth_december (d.year - 1)
          have hzero := daysBeforeMonth_zero d.year
          rw [Int.sub_add_cancel] at hyear
          simp only [dayNumber, lastOf, hmonth, hyear, hzero]
          omega
      · next hmonth =>
          have hback : d.month - 1 + 1 = d.month := by omega
          have hnext := daysBeforeMonth_add_one d.year (d.month - 1) (by omega)
          rw [hback] at hnext
          simp only [dayNumber, lastOf, hnext]
          omega

/-! ## Numbers tell days apart -/

theorem dayNumber_lt_of_month_lt {d e : Date} (hyear : d.year = e.year)
    (hmonth : d.month < e.month) : d.dayNumber < e.dayNumber := by
  have hbelow := daysBeforeMonth_add_le e.year d.month e.month hmonth
  have hday := d.day_le
  have hpos := e.day_pos
  rw [hyear] at hday
  simp only [dayNumber, hyear]
  omega

theorem dayNumber_lt_of_year_lt {d e : Date} (hyear : d.year < e.year) :
    d.dayNumber < e.dayNumber := by
  have hend := daysBeforeMonth_add_le_daysInYear d.year d.month
  have hnext := daysBeforeYear_add_one d.year
  have hmono := daysBeforeYear_mono (by omega : d.year + 1 ≤ e.year)
  have hday := d.day_le
  have hpos := e.day_pos
  simp only [dayNumber]
  omega

theorem dayNumber_inj {d e : Date} (h : d.dayNumber = e.dayNumber) : d = e := by
  have hyear : d.year = e.year := by
    rcases Int.lt_trichotomy d.year e.year with hlt | heq | hgt
    · exact absurd h (Int.ne_of_lt (dayNumber_lt_of_year_lt hlt))
    · exact heq
    · exact absurd h.symm (Int.ne_of_lt (dayNumber_lt_of_year_lt hgt))
  have hmonth : d.month = e.month := by
    rcases Nat.lt_trichotomy d.month e.month with hlt | heq | hgt
    · exact absurd h (Int.ne_of_lt (dayNumber_lt_of_month_lt hyear hlt))
    · exact Fin.ext heq
    · exact absurd h.symm (Int.ne_of_lt (dayNumber_lt_of_month_lt hyear.symm hgt))
  have hday : d.day = e.day := by
    simp only [dayNumber, hyear, hmonth] at h
    omega
  obtain ⟨year, month, day, hpos, hle⟩ := d
  obtain ⟨year', month', day', hpos', hle'⟩ := e
  obtain rfl : year = year' := hyear
  obtain rfl : month = month' := hmonth
  obtain rfl : day = day' := hday
  rfl

end Date

end Phrasebook
