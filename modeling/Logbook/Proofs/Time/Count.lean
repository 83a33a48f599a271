import Logbook.Proofs.Time.Calendar
import Logbook.Time.Moment

/-! The count of days. Every day has a date, later days have later dates, and the number of a date is
its count less the days before 1970. -/

namespace Logbook.Time.Date

/-! ### Years and months -/

theorem daysOfMonths_succ (year : Int) {month : Nat} (h : 1 ≤ month) :
    daysOfMonths year (month + 1) = daysOfMonths year month + monthLength year month := by
  obtain ⟨m, rfl⟩ : ∃ m, month = m + 1 := ⟨month - 1, by omega⟩
  rfl

/-- Every fourth year is a leap year, but of the full centuries only every fourth. -/
theorem daysOfYears_eq (year : Nat) : (daysOfYears year : Int) =
    365 * year + (year + 3) / 4 - (year + 99) / 100 + (year + 399) / 400 := by
  induction year with
  | zero => rfl
  | succ year ih =>
    -- a quotient grows by one behind each multiple
    have hfour : ((year + 1 : Nat) + 3 : Int) / 4 =
        (year + 3) / 4 + if (year : Int) % 4 = 0 then 1 else 0 := by
      split <;> omega
    have hcentury : ((year + 1 : Nat) + 99 : Int) / 100 =
        (year + 99) / 100 + if (year : Int) % 100 = 0 then 1 else 0 := by
      split <;> omega
    have hera : ((year + 1 : Nat) + 399 : Int) / 400 =
        (year + 399) / 400 + if (year : Int) % 400 = 0 then 1 else 0 := by
      split <;> omega
    rw [daysOfYears, yearLength, Int.natCast_add, ih, hfour, hcentury, hera]
    by_cases hleap : isLeapYear year = true
    · rw [if_pos hleap]
      obtain ⟨h₁, h₂ | h₂⟩ := isLeapYear_iff.mp hleap
      · rw [if_pos h₁, if_neg h₂, if_neg (by omega)]
        omega
      · rw [if_pos h₁, if_pos h₂, if_pos (by omega)]
        omega
    · rw [if_neg hleap]
      rw [isLeapYear_iff, not_and_or, not_or, not_not] at hleap
      obtain h | ⟨h₁, h₂⟩ := hleap
      · rw [if_neg h, if_neg (by omega), if_neg (by omega)]
        omega
      · rw [if_pos h₁, if_pos (by omega), if_neg h₂]
        omega

theorem daysOfMonths_year (year : Int) : daysOfMonths year 13 = yearLength year := by
  simp [daysOfMonths, monthLength, yearLength]
  split <;> rfl

theorem daysOfYears_mono {year year' : Nat} (h : year ≤ year') :
    daysOfYears year ≤ daysOfYears year' := by
  induction h with
  | refl => exact Nat.le_refl _
  | step _ ih => exact Nat.le_trans ih (by rw [daysOfYears]; omega)

theorem daysOfYears_add_le {year year' : Nat} (h : year < year') :
    daysOfYears year + 365 ≤ daysOfYears year' := by
  refine Nat.le_trans ?_ (daysOfYears_mono h)
  rw [daysOfYears, yearLength]
  split <;> omega

theorem daysOfMonths_mono (year : Int) {month month' : Nat} (h : month ≤ month') :
    daysOfMonths year month ≤ daysOfMonths year month' := by
  induction h with
  | refl => exact Nat.le_refl _
  | @step m _ ih =>
    refine Nat.le_trans ih ?_
    by_cases hm : 1 ≤ m
    · rw [daysOfMonths_succ year hm]
      omega
    · obtain rfl : m = 0 := by omega
      exact Nat.le_refl _

/-- The months of a year fill it. -/
theorem count_lt_of_isDate {d : Date} (h : IsDate d) :
    d.count < daysOfYears d.year.toNat + daysOfMonths d.year (d.month + 1) ∧
      daysOfMonths d.year (d.month + 1) ≤ yearLength d.year := by
  obtain ⟨hmonth, hday⟩ := h
  have hyear := daysOfMonths_mono d.year (Nat.succ_le_succ hmonth.2)
  rw [daysOfMonths_year] at hyear
  refine ⟨?_, hyear⟩
  rw [count, daysOfMonths_succ d.year hmonth.1]
  omega

theorem count_lt_daysOfYears {d : Date} (h : IsDate d) (hyear : 0 ≤ d.year) :
    d.count < daysOfYears (d.year.toNat + 1) := by
  obtain ⟨hcount, hmonths⟩ := count_lt_of_isDate h
  rw [daysOfYears, Int.toNat_of_nonneg hyear]
  omega

/-! ### Dates in order -/

/-- Dates from the year 0 on. -/
structure IsCounted (d : Date) : Prop extends IsDate d where
  year : 0 ≤ d.year

variable {d d' : Date}

/-- The order of dates by year, month and day. -/
def Precedes (d d' : Date) : Prop :=
  d.year < d'.year ∨ d.year = d'.year ∧ (d.month < d'.month ∨ d.month = d'.month ∧ d.day < d'.day)

theorem Precedes.count_lt (h : d.Precedes d') (hd : IsCounted d) : d.count < d'.count := by
  obtain ⟨hbefore, -⟩ := count_lt_of_isDate hd.toIsDate
  have hafter : d'.count =
    daysOfYears d'.year.toNat + daysOfMonths d'.year d'.month + (d'.day - 1) := rfl
  rcases h with hyear | ⟨hyear, hmonth | ⟨hmonth, hday⟩⟩
  · have hyears : daysOfYears (d.year.toNat + 1) ≤ daysOfYears d'.year.toNat :=
      daysOfYears_mono (by have := hd.year; omega)
    have hlt := count_lt_daysOfYears hd.toIsDate hd.year
    omega
  · have hmonths' := daysOfMonths_mono d'.year (show d.month + 1 ≤ d'.month from hmonth)
    rw [hyear] at hbefore
    omega
  · have hday' := hd.day.1
    rw [hafter, count, hyear, hmonth]
    omega

theorem eq_iff : d = d' ↔ d.year = d'.year ∧ d.month = d'.month ∧ d.day = d'.day := by
  cases d
  cases d'
  simp

theorem trichotomy (d d' : Date) : d.Precedes d' ∨ d = d' ∨ d'.Precedes d := by
  obtain ⟨year, month, day⟩ := d
  obtain ⟨year', month', day'⟩ := d'
  rcases lt_trichotomy year year' with hyear | rfl | hyear
  · exact .inl (.inl hyear)
  · rcases lt_trichotomy month month' with hmonth | rfl | hmonth
    · exact .inl (.inr ⟨rfl, .inl hmonth⟩)
    · rcases lt_trichotomy day day' with hday | rfl | hday
      · exact .inl (.inr ⟨rfl, .inr ⟨rfl, hday⟩⟩)
      · exact .inr (.inl rfl)
      · exact .inr (.inr (.inr ⟨rfl, .inr ⟨rfl, hday⟩⟩))
    · exact .inr (.inr (.inr ⟨rfl, .inl hmonth⟩))
  · exact .inr (.inr (.inl hyear))

theorem count_lt_iff (hd : IsCounted d) (hd' : IsCounted d') : d.count < d'.count ↔ d.Precedes d' := by
  refine ⟨fun hlt => ?_, fun h => h.count_lt hd⟩
  rcases trichotomy d d' with h | rfl | h
  · exact h
  · omega
  · have hgt := h.count_lt hd'
    omega

theorem count_inj (hd : IsCounted d) (hd' : IsCounted d') (h : d.count = d'.count) : d = d' := by
  rcases trichotomy d d' with hlt | heq | hgt
  · have := hlt.count_lt hd
    omega
  · exact heq
  · have := hgt.count_lt hd'
    omega

/-! ### Every day has a date -/

theorem monthLength_pos (year : Int) (month : Nat) : 1 ≤ monthLength year month := by
  rw [monthLength]
  split
  · split <;> decide
  · split <;> decide

theorem monthLength_le (year : Int) (month : Nat) : monthLength year month ≤ 31 := by
  rw [monthLength]
  split
  · split <;> decide
  · split <;> decide

/-- The day after a date. -/
theorem IsCounted.exists_next (h : IsCounted d) : ∃ d', IsCounted d' ∧ d'.count = d.count + 1 := by
  obtain ⟨⟨hmonth, hday⟩, hyear⟩ := h
  by_cases hlast : d.day < monthLength d.year d.month
  · have hnext : IsCounted ⟨d.year, d.month, d.day + 1⟩ :=
      ⟨⟨hmonth, Nat.succ_le_succ (Nat.zero_le _), hlast⟩, hyear⟩
    refine ⟨_, hnext, ?_⟩
    simp only [count]
    omega
  · have hdays : d.count + 1 = daysOfYears d.year.toNat + daysOfMonths d.year (d.month + 1) := by
      rw [count, daysOfMonths_succ d.year hmonth.1]
      omega
    have hfirst {year : Int} {month : Nat} (hyear : 0 ≤ year) (hmonth : 1 ≤ month ∧ month ≤ 12) :
        IsCounted ⟨year, month, 1⟩ :=
      ⟨⟨hmonth, Nat.le_refl 1, monthLength_pos year month⟩, hyear⟩
    by_cases hdecember : d.month = 12
    · have hyears : (d.year + 1).toNat = d.year.toNat + 1 := by omega
      refine ⟨⟨d.year + 1, 1, 1⟩, hfirst (by omega) (by decide), ?_⟩
      rw [hdays, hdecember, daysOfMonths_year, count, hyears, daysOfYears,
        Int.toNat_of_nonneg hyear]
      rfl
    · exact ⟨⟨d.year, d.month + 1, 1⟩, hfirst hyear (by omega), hdays.symm⟩

theorem exists_count (n : Nat) : ∃ d, IsCounted d ∧ d.count = n := by
  induction n with
  | zero => exact ⟨⟨0, 1, 1⟩, ⟨⟨by decide, by decide⟩, by decide⟩, rfl⟩
  | succ n ih =>
    obtain ⟨d, hd, rfl⟩ := ih
    exact hd.exists_next

/-! ### Numbers of days -/

/-- The years are counted from March on, and the year 0 was a leap year. -/
theorem daysBeforeYear_eq_daysOfYears (year : Nat) :
    daysBeforeYear ((year : Int) - 1) = daysOfYears year - 366 := by
  rw [daysOfYears_eq, daysBeforeYear]
  omega

theorem daysOfMonths_early (year : Int) {month : Nat} (h : 1 ≤ month ∧ month ≤ 2) :
    (daysOfMonths year month : Int) = daysBeforeMonth (month + 9) - 306 := by
  obtain ⟨hlow, hhigh⟩ := h
  interval_cases month <;> rfl

theorem daysOfMonths_late (year : Int) {month : Nat} (h : 3 ≤ month ∧ month ≤ 12) :
    (daysOfMonths year month : Int) = daysBeforeMonth (month - 3) + yearLength year - 306 := by
  obtain ⟨hlow, hhigh⟩ := h
  by_cases hleap : isLeapYear year <;> interval_cases month <;>
    simp [daysOfMonths, monthLength, daysBeforeMonth, yearLength, hleap]

/-- From the first of January of the year 0 to that of 1970 there are 719528 days. -/
theorem toDays_eq_count (h : IsCounted d) : d.toDays = d.count - 719528 := by
  obtain ⟨⟨hmonth, hday⟩, hyear⟩ := h
  have hnat : ((d.year.toNat : Nat) : Int) = d.year := Int.toNat_of_nonneg hyear
  rw [toDays_eq, dayOfYear, epochDay, count]
  by_cases hearly : d.month ≤ 2
  · have hyears := daysBeforeYear_eq_daysOfYears d.year.toNat
    have hmonths := daysOfMonths_early d.year ⟨hmonth.1, hearly⟩
    rw [hnat] at hyears
    rw [marchYear, marchMonth, if_pos hearly, if_pos hearly]
    omega
  · have hyears := daysBeforeYear_eq_daysOfYears (d.year.toNat + 1)
    have hmonths := daysOfMonths_late d.year ⟨by omega, hmonth.2⟩
    rw [daysOfYears, Int.natCast_succ, hnat, Int.add_sub_cancel] at hyears
    rw [marchYear, marchMonth, if_neg hearly, if_neg hearly]
    omega

end Logbook.Time.Date
