import Logbook.Proofs.Rule.Timestamps
import Logbook.Proofs.Time.Moment

/-! The times of access logs. In UTC they are written in the order of the seconds they name, wherever the
lines were written; a time that does not exist stands as it is. -/

namespace Logbook.Rule.AccessTime

open Text (isBlank)
open Time (IsNumber Moment Stamp)

variable {t t' : AccessTime}

/-! ### Reading -/

/-- What is read of the time. -/
def stamp (t : AccessTime) : Stamp :=
  ⟨value t.year, t.month.val + 1, value t.day, value t.hour, value t.minute, value t.second, 0, t.offset⟩

theorem offset?_zone (h : t.IsWritten) :
    Time.offset? (t.sign :: (t.zoneHour.toList ++ t.zoneMinute.toList)) =
      if 59 < value t.zoneMinute then none else some (t.offset, []) := by
  obtain ⟨h₁, h₂, hhours⟩ := List.length_eq_two.mp h.zoneHour.length
  obtain ⟨m₁, m₂, hminutes⟩ := List.length_eq_two.mp h.zoneMinute.length
  have hhour := Text.nat?_of_isDigit h.zoneHour.isRun.ne_nil h.zoneHour.all
  have hminute := Text.nat?_of_isDigit h.zoneMinute.isRun.ne_nil h.zoneMinute.all
  rw [hhours] at hhour
  rw [hminutes] at hminute
  rw [hhours, hminutes, offset, value, value, hhours, hminutes]
  rcases h.sign with hsign | hsign <;> simp [Time.offset?, hsign, hhour, hminute]

theorem readStamp?_text (h : t.IsWritten) : Time.readStamp? Access.layout (.ofYear 0) t.text.toList =
    if 59 < value t.zoneMinute then none else some t.stamp := by
  have hsign : isBlank t.sign = false := by
    rcases h.sign with hsign | hsign <;> rw [hsign] <;> decide
  have htext : t.text.toList = t.day.toList ++ '/' :: (monthAbbreviations[t.month].toList ++ '/' ::
      (t.year.toList ++ ':' :: (t.hour.toList ++ ':' :: (t.minute.toList ++ ':' ::
      (t.second.toList ++ ' ' :: t.sign :: (t.zoneHour.toList ++ t.zoneMinute.toList)))))) := by
    simp [text]
  rw [htext, Access.layout, Time.readStamp?_field rfl (h.day.isNumber _), Time.readStamp?_literal,
    readStamp?_monthName, Time.readStamp?_literal, Time.readStamp?_field rfl (h.year.isNumber _),
    Time.readStamp?_literal, Time.readStamp?_field rfl (h.hour.1.isNumber _), Time.readStamp?_literal,
    Time.readStamp?_field rfl (h.minute.1.isNumber _), Time.readStamp?_literal,
    Time.readStamp?_field rfl (h.second.1.isNumber _), Time.readStamp?_space (by simpa using hsign)]
  simp only [Time.readStamp?, Time.Item.read?, Text.trimStart_of_head _ hsign, offset?_zone h]
  split
  · rfl
  · rfl

/-! ### Instants -/

theorem natAbs_offset_lt (h : t.IsActual) : t.offset.natAbs < 86400 := by
  obtain ⟨-, hhour, hminute⟩ := h
  rw [offset]
  split <;> omega

/-- Two digits can write an hour that no clock has. -/
theorem le_natAbs_offset (h : 23 < value t.zoneHour) : 86400 ≤ t.offset.natAbs := by
  rw [offset]
  split <;> omega

theorem isCounted_date (h : t.IsActual) : Time.Date.IsCounted t.moment.date :=
  ⟨Time.Date.isValid_iff.mp h.date, Int.natCast_nonneg _⟩

theorem isTime_stamp (h : t.IsWritten) (hactual : t.IsActual) : t.stamp.IsTime :=
  ⟨hactual.date, h.hour.2, h.minute.2⟩

theorem read?_text (h : t.IsWritten) (hactual : t.IsActual) :
    Time.read? Access.layout (.ofYear 0) t.text.toList =
      some ⟨t.instant - 719528 * 86400, 0⟩ := by
  have hdays : t.stamp.date.toDays = t.moment.date.count - 719528 :=
    Time.Date.toDays_eq_count (isCounted_date hactual)
  have hclock : t.stamp.clock = t.moment.clock := rfl
  have hseconds : ((t.moment.date.count : Int) - 719528) * 86400 + t.moment.clock - t.offset =
      t.instant - 719528 * 86400 := by
    rw [instant, Moment.seconds]
    omega
  rw [Time.read?, readStamp?_text h, if_neg (by have := hactual.zoneMinute; omega), Option.bind_some,
    Stamp.instant?_eq (isTime_stamp h hactual) h.second.2 (natAbs_offset_lt hactual), hdays, hclock]
  exact congrArg some (congrArg (Time.Instant.mk · 0) hseconds)

theorem read?_text_eq_none (h : t.IsWritten) (hactual : ¬ t.IsActual) :
    Time.read? Access.layout (.ofYear 0) t.text.toList = none := by
  rw [Time.read?, readStamp?_text h]
  split
  · rfl
  · rename_i hminute
    rw [Option.bind_some, Stamp.instant?, if_neg]
    intro hvalid
    simp only [Stamp.isValid, Bool.and_eq_true, decide_eq_true_eq] at hvalid
    obtain ⟨⟨⟨⟨hdate, -⟩, -⟩, -⟩, hoffset⟩ := hvalid
    refine hactual ⟨hdate, ?_, by omega⟩
    by_contra hhour
    have hle := le_natAbs_offset (Nat.lt_of_not_le hhour)
    have hlt : t.offset.natAbs < 86400 := hoffset
    omega

/-- The day before or after is in a year of four digits as well. -/
theorem instant_range (h : t.IsWritten) (hactual : t.IsActual) (hinner : t.IsInner) :
    0 ≤ t.instant ∧ t.instant < Time.Date.daysOfYears 10000 * 86400 := by
  obtain ⟨hfirst, hlast⟩ := hinner
  have hcounted := isCounted_date hactual
  have hlow : Time.Date.daysOfYears 1 ≤ t.moment.date.count :=
    (Time.Date.daysOfYears_mono hfirst).trans (Nat.le_add_right_of_le (Nat.le_add_right _ _))
  have hhigh : t.moment.date.count < Time.Date.daysOfYears 9999 := by
    have hyear : t.moment.date.year.toNat = value t.year := rfl
    have hyears : Time.Date.daysOfYears (t.moment.date.year.toNat + 1) ≤ Time.Date.daysOfYears 9999 :=
      Time.Date.daysOfYears_mono (by omega)
    exact Nat.lt_of_lt_of_le (Time.Date.count_lt_daysOfYears hcounted.toIsDate hcounted.year) hyears
  have hone : Time.Date.daysOfYears 1 = 366 := rfl
  have hafter : Time.Date.daysOfYears 9999 + 365 ≤ Time.Date.daysOfYears 10000 :=
    Time.Date.daysOfYears_add_le (by decide)
  have hclock : t.moment.clock < 86400 := by
    have hhour : t.moment.hour ≤ 23 := h.hour.2
    have hminute : t.moment.minute ≤ 59 := h.minute.2
    have hsecond : t.moment.second ≤ 59 := h.second.2
    rw [Moment.clock]
    omega
  have hoffset := natAbs_offset_lt hactual
  rw [instant, Moment.seconds]
  omega

theorem exists_moment (h : t.IsWritten) (hactual : t.IsActual) (hinner : t.IsInner) :
    ∃ u : Moment, u.IsValid ∧ Access.timestamp t.text.toList = u.text ∧ u.seconds = t.instant := by
  obtain ⟨hlow, hhigh⟩ := instant_range h hactual hinner
  obtain ⟨u, hu, hseconds⟩ := Moment.exists_seconds hlow hhigh
  refine ⟨u, hu, ?_, hseconds⟩
  rw [Access.timestamp, read?_text h hactual]
  exact Moment.text_instant hu _ (by rw [hseconds])

/-- Times that exist are written in UTC, one text behind the other where the one second is behind the
other; all else stays as it was written. -/
theorem timestamps_in_order (h : t.IsWritten) (h' : t'.IsWritten) :
    (t.IsActual → t.IsInner →
      (∃ u : Moment, u.IsValid ∧ Access.timestamp t.text.toList = u.text ∧ u.seconds = t.instant) ∧
      (t'.IsActual → t'.IsInner →
        (Access.timestamp t.text.toList < Access.timestamp t'.text.toList ↔ t.instant < t'.instant) ∧
        (Access.timestamp t.text.toList = Access.timestamp t'.text.toList ↔
          t.instant = t'.instant))) ∧
    (¬ t.IsActual → Access.timestamp t.text.toList = t.text) := by
  refine ⟨fun hactual hinner => ?_, fun hactual => ?_⟩
  · obtain ⟨u, hu, htext, hseconds⟩ := exists_moment h hactual hinner
    refine ⟨⟨u, hu, htext, hseconds⟩, fun hactual' hinner' => ?_⟩
    obtain ⟨u', hu', htext', hseconds'⟩ := exists_moment h' hactual' hinner'
    rw [htext, htext', ← hseconds, ← hseconds']
    exact ⟨Moment.text_lt_iff hu hu', Moment.text_inj hu hu'⟩
  · rw [Access.timestamp, read?_text_eq_none h hactual]
    exact String.ofList_toList

/-- Half an hour before the year 2000, one hour behind UTC. -/
def eveTime : AccessTime := ⟨"31", ⟨11, by decide⟩, "1999", "23", "30", "00", '-', "01", "00"⟩

/-- The same second, half an hour ahead of UTC. -/
def newYearTime : AccessTime := ⟨"01", ⟨0, by decide⟩, "2000", "01", "00", "00", '+', "00", "30"⟩

/-- The day behind the last one of April. -/
def missingTime : AccessTime := ⟨"31", ⟨3, by decide⟩, "2001", "12", "00", "00", '+', "00", "00"⟩

theorem timestamps_in_order_newYear :
    (eveTime.IsWritten ∧ newYearTime.IsWritten ∧ missingTime.IsWritten) ∧
      (∃ u : Moment, u.IsValid ∧ Access.timestamp "31/Dec/1999:23:30:00 -0100".toList = u.text ∧
        u.seconds = eveTime.instant) ∧
      Access.timestamp "31/Dec/1999:23:30:00 -0100".toList =
        Access.timestamp "01/Jan/2000:01:00:00 +0030".toList ∧
      Access.timestamp "31/Apr/2001:12:00:00 +0000".toList = "31/Apr/2001:12:00:00 +0000" := by
  have heve : eveTime.IsWritten := by constructor <;> decide
  have hnewYear : newYearTime.IsWritten := by constructor <;> decide
  have hmissing : missingTime.IsWritten := by constructor <;> decide
  have heveActual : eveTime.IsActual := by constructor <;> decide
  have hnewYearActual : newYearTime.IsActual := by constructor <;> decide
  have hnone : ¬ missingTime.IsActual := fun h => absurd h.date (by decide)
  have hinstant : eveTime.instant = newYearTime.instant := by decide +kernel
  obtain ⟨hmoment, horder⟩ := (timestamps_in_order heve hnewYear).1 heveActual
    ⟨by decide, by decide⟩
  obtain ⟨-, hequal⟩ := horder hnewYearActual ⟨by decide, by decide⟩
  have heveText : eveTime.text = "31/Dec/1999:23:30:00 -0100" := by decide
  have hnewYearText : newYearTime.text = "01/Jan/2000:01:00:00 +0030" := by decide
  have hmissingText : missingTime.text = "31/Apr/2001:12:00:00 +0000" := by decide
  have hkept := (timestamps_in_order hmissing heve).2 hnone
  rw [heveText, hnewYearText] at hequal
  rw [heveText] at hmoment
  rw [hmissingText] at hkept
  exact ⟨⟨heve, hnewYear, hmissing⟩, hmoment, hequal.mpr hinstant, hkept⟩

end Logbook.Rule.AccessTime
