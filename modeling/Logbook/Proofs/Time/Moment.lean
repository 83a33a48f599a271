import Logbook.Proofs.Text.Digits
import Logbook.Proofs.Time.Count
import Logbook.Proofs.Time.Instant
import Mathlib.Data.String.Basic

/-! Seconds and their texts. Every second of the years 0 to 9999 is a moment, the texts of moments are in
the order of time, and an instant on a full second is written as its moment. -/

namespace Logbook.Time.Moment

open Text (padded_append_lt_iff padded_mark_lt_iff)

variable {u u' : Moment}

theorem IsValid.isCounted (h : u.IsValid) : Date.IsCounted u.date :=
  ⟨Date.isValid_iff.mp h.date, h.year.1⟩

theorem IsValid.clock_lt (h : u.IsValid) : u.clock < 86400 := by
  obtain ⟨-, -, hhour, hminute, hsecond⟩ := h
  rw [clock]
  omega

/-! ### The order of time -/

theorem seconds_lt_iff (h : u.IsValid) (h' : u'.IsValid) :
    u.seconds < u'.seconds ↔ u.date.Precedes u'.date ∨ u.date = u'.date ∧ u.clock < u'.clock := by
  have hclock := h.clock_lt
  have hclock' := h'.clock_lt
  rw [← Date.count_lt_iff h.isCounted h'.isCounted, seconds, seconds]
  constructor
  · intro hlt
    by_cases hcount : u.date.count < u'.date.count
    · exact .inl hcount
    · exact .inr ⟨Date.count_inj h.isCounted h'.isCounted (by omega), by omega⟩
  · rintro (hlt | ⟨heq, hlt⟩)
    · omega
    · rw [heq]
      omega

theorem chars_lt_iff (h : u.IsValid) (h' : u'.IsValid) :
    u.chars < u'.chars ↔ u.date.Precedes u'.date ∨ u.date = u'.date ∧ u.clock < u'.clock := by
  obtain ⟨hdate, hyear, hhour, hminute, hsecond⟩ := h
  obtain ⟨hdate', hyear', hhour', hminute', hsecond'⟩ := h'
  obtain ⟨⟨-, hmonth⟩, -, hday⟩ := Date.isValid_iff.mp hdate
  obtain ⟨⟨-, hmonth'⟩, -, hday'⟩ := Date.isValid_iff.mp hdate'
  have hlength := Date.monthLength_le u.date.year u.date.month
  have hlength' := Date.monthLength_le u'.date.year u'.date.month
  have hzero : ¬ ".000Z".toList < ".000Z".toList := lt_irrefl _
  rw [chars, chars, padded_mark_lt_iff (by omega) (by omega), padded_mark_lt_iff (by omega) (by omega),
    padded_mark_lt_iff (by omega) (by omega), padded_mark_lt_iff (by omega) (by omega),
    padded_mark_lt_iff (by omega) (by omega), padded_append_lt_iff (by omega) (by omega),
    Date.Precedes, Date.eq_iff, clock, clock]
  simp only [hzero, and_false, or_false]
  omega

/-- Texts of moments are in the order of time. -/
theorem text_lt_iff (h : u.IsValid) (h' : u'.IsValid) : u.text < u'.text ↔ u.seconds < u'.seconds := by
  rw [seconds_lt_iff h h', ← chars_lt_iff h h', text, text, String.lt_iff_toList_lt,
    String.toList_ofList, String.toList_ofList]

theorem text_inj (h : u.IsValid) (h' : u'.IsValid) : u.text = u'.text ↔ u.seconds = u'.seconds := by
  have hlt := text_lt_iff h h'
  have hgt := text_lt_iff h' h
  constructor
  · intro heq
    rw [heq] at hlt hgt
    have hle := mt hlt.mpr (lt_irrefl u'.text)
    have hge := mt hgt.mpr (lt_irrefl u'.text)
    omega
  · intro heq
    refine le_antisymm (not_lt.mp ?_) (not_lt.mp ?_)
    · rw [hgt]
      omega
    · rw [hlt]
      omega

/-! ### Every second -/

theorem exists_seconds {n : Int} (hlow : 0 ≤ n) (hhigh : n < Date.daysOfYears 10000 * 86400) :
    ∃ u : Moment, u.IsValid ∧ u.seconds = n := by
  obtain ⟨d, hd, hcount⟩ := Date.exists_count (n / 86400).toNat
  have hyear : d.year ≤ 9999 := by
    by_contra hlate
    have hyears : Date.daysOfYears 10000 ≤ Date.daysOfYears d.year.toNat :=
      Date.daysOfYears_mono (by omega)
    rw [Date.count] at hcount
    omega
  refine ⟨⟨d, (n % 86400 / 3600).toNat, (n % 86400 / 60 % 60).toNat, (n % 60).toNat⟩,
    ⟨Date.isValid_iff.mpr hd.toIsDate, ⟨hd.year, hyear⟩, ?_, ?_, ?_⟩, ?_⟩
  · change (n % 86400 / 3600).toNat ≤ 23
    omega
  · change (n % 86400 / 60 % 60).toNat ≤ 59
    omega
  · change (n % 60).toNat ≤ 59
    omega
  · simp only [seconds, clock, hcount]
    omega

/-! ### Instants -/

/-- The fields of a moment as they are read. -/
def stamp (u : Moment) : Stamp :=
  ⟨u.date.year, u.date.month, u.date.day, u.hour, u.minute, u.second, 0, 0⟩

theorem utcChars_stamp (h : u.IsValid) : u.stamp.utcChars = u.chars := by
  have hyear : Instant.yearText u.date.year = Text.padded 4 u.date.year.toNat := if_pos h.year
  have hmillis : Text.padded 3 0 = ['0', '0', '0'] := by decide
  simp [Stamp.utcChars, stamp, chars, hyear, hmillis]

/-- The first of January 1970 lies 719528 days behind that of the year 0. -/
theorem text_instant (h : u.IsValid) (n : Int) (hn : n = u.seconds - 719528 * 86400) :
    Instant.text ⟨n, 0⟩ = u.text := by
  have htime : u.stamp.IsTime := ⟨h.date, h.hour, h.minute⟩
  have hinstant : u.stamp.instant? = some ⟨n, 0⟩ := by
    have hdays : u.stamp.date.toDays = u.date.count - 719528 := Date.toDays_eq_count h.isCounted
    have hclock : u.stamp.clock = u.clock := rfl
    have hseconds : ((u.date.count : Int) - 719528) * 86400 + u.clock = n := by
      rw [hn, seconds]
      omega
    have hoffset : u.stamp.offset = 0 := rfl
    rw [Stamp.instant?_eq htime h.second (by omega), hoffset, hdays, hclock, hseconds, Int.sub_zero]
    rfl
  rw [Stamp.text_instant htime h.second (Nat.zero_lt_succ _) rfl hinstant, utcChars_stamp h, text]

end Logbook.Time.Moment
