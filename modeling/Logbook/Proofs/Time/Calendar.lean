import Logbook.Time.Date
import Mathlib.Tactic.IntervalCases

/-! Dates and their numbers: the number of a date that exists leads back to the date. -/

namespace Logbook.Time.Date

/-! ### Years -/

/-- A year of an era by its century, its fourth year and the rest, and a day of it. Only a year that
ends with a leap day has a day 365. -/
structure Place where
  century : Int
  fourth : Int
  rest : Int
  day : Int
  century_range : 0 ≤ century ∧ century ≤ 3
  fourth_range : 0 ≤ fourth ∧ fourth ≤ 24
  rest_range : 0 ≤ rest ∧ rest ≤ 3
  day_range : 0 ≤ day ∧ day ≤ 365
  leap : day = 365 → rest = 3 ∧ (fourth = 24 → century = 3)

namespace Place

def year (p : Place) : Int := 100 * p.century + 4 * p.fourth + p.rest

def dayOfEra (p : Place) : Int := 36524 * p.century + 1461 * p.fourth + 365 * p.rest + p.day

theorem dayOfEra_range (p : Place) : 0 ≤ p.dayOfEra ∧ p.dayOfEra < 146097 := by
  obtain ⟨c, q, r, d, hc, hq, hr, hd, hleap⟩ := p
  simp only [dayOfEra]
  omega

theorem yearOfEra_eq (p : Place) :
    (p.dayOfEra - p.dayOfEra / 1460 + p.dayOfEra / 36524 - p.dayOfEra / 146096) / 365 = p.year := by
  obtain ⟨c, q, r, d, hc, hq, hr, hd, hleap⟩ := p
  simp only [dayOfEra, year]
  obtain ⟨n, hn⟩ : ∃ n, n = 36524 * c + 1461 * q + 365 * r + d := ⟨_, rfl⟩
  rw [← hn]
  -- the last day of an era alone lies behind four whole centuries
  have hcentury : n / 36524 - n / 146096 = c := by
    by_cases hlast : n = 146096
    · have hc3 : c = 3 := by omega
      rw [hlast, hc3]
      decide
    · have hlt : n < 36524 * (c + 1) := by
        by_cases hday : d = 365
        · obtain ⟨hr3, hq24⟩ := hleap hday
          by_cases hq' : q = 24
          · have hc3 := hq24 hq'
            omega
          · omega
        · omega
      have hzero : n / 146096 = 0 := by omega
      omega
  have hfourth : n / 1460 = 25 * c + q ∨ n / 1460 = 25 * c + q + 1 := by omega
  rcases hfourth with h | h
  · have hd' : d ≤ 364 := by omega
    omega
  · have hd' : 1 ≤ d := by omega
    omega

end Place

theorem isLeapYear_iff {year : Int} :
    isLeapYear year = true ↔ year % 4 = 0 ∧ (year % 100 ≠ 0 ∨ year % 400 = 0) := by
  simp [isLeapYear]

/-- Eras have four hundred years. -/
theorem exists_place {year day : Int} (hday : 0 ≤ day ∧ day ≤ 365)
    (hleap : day = 365 → isLeapYear (year + 1) = true) :
    ∃ (era : Int) (p : Place), year = 400 * era + p.year ∧ p.day = day := by
  have hrange : day = 365 → year % 4 = 3 ∧ (year % 400 % 100 / 4 = 24 → year % 400 / 100 = 3) := by
    intro h
    obtain ⟨h4, h400⟩ := isLeapYear_iff.mp (hleap h)
    constructor
    · omega
    · rcases h400 with h | h <;> omega
  refine ⟨year / 400, ⟨year % 400 / 100, year % 400 % 100 / 4, year % 4, day, ?_, ?_, ?_, hday, hrange⟩,
    ?_, rfl⟩
  · omega
  · omega
  · omega
  · simp only [Place.year]
    omega

theorem daysBeforeYear_eq (era : Int) (p : Place) :
    daysBeforeYear (400 * era + p.year) + p.day = 146097 * era + p.dayOfEra := by
  obtain ⟨c, q, r, d, hc, hq, hr, hd, hleap⟩ := p
  simp only [daysBeforeYear, Place.year, Place.dayOfEra]
  omega

/-! ### Months -/

/-- The month, March being month 0, and the year that begins with this March. -/
def marchMonth (d : Date) : Int := if d.month ≤ 2 then d.month + 9 else d.month - 3

def marchYear (d : Date) : Int := if d.month ≤ 2 then d.year - 1 else d.year

/-- The days since the first of March. -/
def dayOfYear (d : Date) : Int := daysBeforeMonth d.marchMonth + d.day - 1

theorem toDays_eq (d : Date) : d.toDays = daysBeforeYear d.marchYear + d.dayOfYear - epochDay := by
  simp only [toDays, dayOfYear, marchYear, marchMonth]
  omega

structure IsDate (d : Date) : Prop where
  month : 1 ≤ d.month ∧ d.month ≤ 12
  day : 1 ≤ d.day ∧ d.day ≤ monthLength d.year d.month

theorem isValid_iff {d : Date} : d.isValid = true ↔ IsDate d := by
  simp only [isValid, Bool.and_eq_true, decide_eq_true_eq]
  exact ⟨fun ⟨⟨⟨h₁, h₂⟩, h₃⟩, h₄⟩ => ⟨⟨h₁, h₂⟩, ⟨h₃, h₄⟩⟩, fun ⟨⟨h₁, h₂⟩, ⟨h₃, h₄⟩⟩ => ⟨⟨⟨h₁, h₂⟩, h₃⟩, h₄⟩⟩

theorem monthLength_february (year : Int) :
    monthLength year 2 = if isLeapYear year then 29 else 28 := rfl

/-- No other month is longer than what lies between its first day and that of the next month; none of
them ends a year that begins in March. -/
theorem daysBeforeMonth_add_monthLength {d : Date} (h : 1 ≤ d.month ∧ d.month ≤ 12)
    (hmonth : d.month ≠ 2) :
    daysBeforeMonth d.marchMonth + monthLength d.year d.month ≤ daysBeforeMonth (d.marchMonth + 1) ∧
      daysBeforeMonth d.marchMonth + monthLength d.year d.month ≤ 337 ∧
      0 ≤ daysBeforeMonth d.marchMonth := by
  obtain ⟨year, month, day⟩ := d
  obtain ⟨hlow, hhigh⟩ := h
  simp only at hlow hhigh hmonth
  interval_cases month
  all_goals first
    | exact absurd rfl hmonth
    | simp [monthLength, marchMonth, daysBeforeMonth]

theorem dayOfYear_range {d : Date} (h : IsDate d) :
    0 ≤ d.dayOfYear ∧ d.dayOfYear ≤ 365 ∧ d.dayOfYear < daysBeforeMonth (d.marchMonth + 1) ∧
      (d.dayOfYear = 365 → isLeapYear (d.marchYear + 1) = true) := by
  obtain ⟨hmonth, hday, hlength⟩ := h
  by_cases hfebruary : d.month = 2
  · have hmarch : d.marchMonth = 11 := by simp [marchMonth, hfebruary]
    have hyear : d.marchYear + 1 = d.year := by simp [marchYear, hfebruary]
    have hbefore : daysBeforeMonth 11 = 337 := rfl
    have hafter : daysBeforeMonth (11 + 1) = 367 := rfl
    rw [dayOfYear, hmarch, hyear, hbefore, hafter]
    rw [hfebruary, monthLength_february] at hlength
    by_cases hleap : isLeapYear d.year
    · rw [if_pos hleap] at hlength
      exact ⟨by omega, by omega, by omega, fun _ => hleap⟩
    · rw [if_neg hleap] at hlength
      omega
  · obtain ⟨hnext, hyear, hfirst⟩ := daysBeforeMonth_add_monthLength hmonth hfebruary
    rw [dayOfYear]
    omega

theorem month_of_dayOfYear {d : Date} (h : IsDate d) :
    (5 * d.dayOfYear + 2) / 153 = d.marchMonth := by
  have hlast := (dayOfYear_range h).2.2.1
  have hfirst : 1 ≤ d.day := h.day.1
  simp only [dayOfYear, daysBeforeMonth] at hlast ⊢
  omega

/-! ### Dates -/

/-- The date of a day of a year that begins in March. -/
theorem ofDays_eq (era : Int) (p : Place) :
    ofDays (146097 * era + p.dayOfEra - epochDay) =
      let month := (5 * p.day + 2) / 153
      let day := (p.day - daysBeforeMonth month + 1).toNat
      if month < 10 then ⟨400 * era + p.year, (month + 3).toNat, day⟩
      else ⟨400 * era + p.year + 1, (month - 9).toNat, day⟩ := by
  obtain ⟨hlow, hhigh⟩ := p.dayOfEra_range
  have hera : (146097 * era + p.dayOfEra) / 146097 = era := by omega
  have hday : (146097 * era + p.dayOfEra) % 146097 = p.dayOfEra := by omega
  have hrest : p.dayOfEra - (365 * p.year + p.year / 4 - p.year / 100) = p.day := by
    obtain ⟨c, q, r, d, hc, hq, hr, hd, hleap⟩ := p
    simp only [Place.dayOfEra, Place.year]
    omega
  simp only [ofDays, Int.sub_add_cancel, hera, hday, p.yearOfEra_eq, hrest]

/-- The number of a date that exists leads back to the date. -/
theorem ofDays_toDays {d : Date} (h : d.isValid = true) : ofDays d.toDays = d := by
  have hdate := isValid_iff.mp h
  obtain ⟨hlow, hhigh, -, hleap⟩ := dayOfYear_range hdate
  obtain ⟨era, p, hyear, hday⟩ := exists_place ⟨hlow, hhigh⟩ hleap
  rw [toDays_eq, ← hday, hyear, daysBeforeYear_eq, ofDays_eq, ← hyear, hday, month_of_dayOfYear hdate]
  have hmonth : 1 ≤ d.month ∧ d.month ≤ 12 := hdate.month
  have hnumber : (d.dayOfYear - daysBeforeMonth d.marchMonth + 1).toNat = d.day := by
    rw [dayOfYear]
    omega
  simp only [hnumber]
  by_cases hearly : d.month ≤ 2
  · have hlate : ¬ d.marchMonth < 10 := by
      rw [marchMonth, if_pos hearly]
      omega
    have hmarch : (d.marchMonth - 9).toNat = d.month := by
      rw [marchMonth, if_pos hearly]
      omega
    rw [if_neg hlate, hmarch, marchYear, if_pos hearly, Int.sub_add_cancel]
  · have hlate : d.marchMonth < 10 := by
      rw [marchMonth, if_neg hearly]
      omega
    have hmarch : (d.marchMonth + 3).toNat = d.month := by
      rw [marchMonth, if_neg hearly]
      omega
    rw [if_pos hlate, hmarch, marchYear, if_neg hearly]

end Logbook.Time.Date
