import Logbook.Proofs.Time.Calendar
import Logbook.Time.Layout

/-! The text of the instant that a valid stamp names: the fields of the stamp. -/

namespace Logbook.Time.Stamp

open Text (padded)

/-- The fields as a text in UTC. -/
def utcChars (s : Stamp) : List Char :=
  Instant.yearText s.year ++ '-' :: padded 2 s.month ++ '-' :: padded 2 s.day ++
    'T' :: padded 2 s.hour ++ ':' :: padded 2 s.minute ++ ':' :: padded 2 s.second ++
    '.' :: padded 3 s.millis ++ ['Z']

/-- The seconds since midnight, for a time that exists. -/
def clock (s : Stamp) : Nat := s.hour * 3600 + s.minute * 60 + s.second

variable {s : Stamp}

structure IsTime (s : Stamp) : Prop where
  date : s.date.isValid = true
  hour : s.hour ≤ 23
  minute : s.minute ≤ 59

theorem isValid_iff (hsecond : s.second ≤ 59) (hoffset : s.offset.natAbs < 86400) :
    s.isValid = true ↔ IsTime s := by
  have hleap : s.second ≤ 60 := by omega
  simp only [isValid, Bool.and_eq_true, decide_eq_true_eq]
  exact ⟨fun ⟨⟨⟨⟨h₁, h₂⟩, h₃⟩, _⟩, _⟩ => ⟨h₁, h₂, h₃⟩,
    fun ⟨h₁, h₂, h₃⟩ => ⟨⟨⟨⟨h₁, h₂⟩, h₃⟩, hleap⟩, hoffset⟩⟩

theorem instant?_eq (h : IsTime s) (hsecond : s.second ≤ 59) (hoffset : s.offset.natAbs < 86400) :
    s.instant? = some ⟨s.date.toDays * 86400 + s.clock - s.offset, s.millis⟩ := by
  have hmin : min s.second 59 = s.second := by omega
  have hmillis : s.millis + 1000 * (s.second - 59) = s.millis := by omega
  rw [instant?, if_pos ((isValid_iff hsecond hoffset).mpr h), hmin, hmillis, clock]
  simp

theorem text_instant {t : Instant} (h : IsTime s) (hsecond : s.second ≤ 59) (hmillis : s.millis < 1000)
    (hoffset : s.offset = 0) (ht : s.instant? = some t) : t.text = String.ofList s.utcChars := by
  rw [instant?_eq h hsecond (by omega), hoffset, Int.sub_zero] at ht
  obtain rfl := Option.some.inj ht
  have hhour := h.hour
  have hminute := h.minute
  have hlt : s.clock < 86400 := by
    rw [clock]
    omega
  have hdays : (s.date.toDays * 86400 + s.clock) / 86400 = s.date.toDays := by omega
  have hseconds : ((s.date.toDays * 86400 + s.clock) % 86400).toNat = s.clock := by omega
  have hdate : Instant.date ⟨s.date.toDays * 86400 + s.clock, s.millis⟩ = s.date := by
    rw [Instant.date, hdays, Date.ofDays_toDays h.date]
  have hclockHour : s.clock / 3600 = s.hour := by
    rw [clock]
    omega
  have hclockMinute : s.clock / 60 % 60 = s.minute := by
    rw [clock]
    omega
  have hclockSecond : s.clock % 60 + s.millis / 1000 = s.second := by
    rw [clock]
    omega
  have hclockMillis : s.millis % 1000 = s.millis := Nat.mod_eq_of_lt hmillis
  rw [Instant.text, Instant.chars, hdate, Instant.secondOfDay]
  simp only [hseconds, hclockHour, hclockMinute, hclockSecond, hclockMillis]
  rfl

/-- A time that does not exist names no instant. -/
theorem instant?_eq_none (h : ¬ IsTime s) (hsecond : s.second ≤ 59)
    (hoffset : s.offset.natAbs < 86400) :
    s.instant? = none := by
  rw [instant?, if_neg (mt (isValid_iff hsecond hoffset).mp h)]

end Logbook.Time.Stamp
