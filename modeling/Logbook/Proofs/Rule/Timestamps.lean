import Logbook.Proofs.Rule.Parts
import Logbook.Proofs.Time.Instant
import Logbook.Proofs.Time.Layout

/-! The timestamps of lines that are written: the time in UTC where there is such a time, otherwise the
text as it stands in the line. -/

namespace Logbook.Rule

open Text (IsToken isBlank padded)
open Time (IsNumber Stamp)

theorem IsDigits.isNumber {n : Nat} {s : String} (h : IsDigits (n + 1) s) (rest : List Char) :
    IsNumber (n + 1) s.toList rest :=
  ⟨h.isRun.ne_nil, h.all, h.length.le, .inl h.length⟩

theorem IsDigits.isToken {n : Nat} {s : String} (h : IsDigits (n + 1) s) : IsToken s.toList :=
  ⟨h.isRun.ne_nil, fun c hc => Text.isBlank_of_isDigit (h.all c hc)⟩

/-- A number is written again as it was. -/
theorem IsDigits.padded {n : Nat} {s : String} (h : IsDigits (n + 1) s) :
    padded (n + 1) (value s) = s.toList := by
  have hpadded := Text.padded_digitsValue h.isRun.ne_nil h.all
  rwa [h.length] at hpadded

/-- Single digits are joined by marks that are no white space. -/
theorem IsDigits.join {n : Nat} {s : String} (h : IsDigits (n + 1) s) {mark : Char} {rest : List Char}
    (hmark : isBlank mark = false) (hrest : ∀ c ∈ rest, isBlank c = false) :
    IsToken (s.toList ++ mark :: rest) :=
  h.isToken.append (List.forall_mem_cons.mpr ⟨hmark, hrest⟩)

theorem monthName?_abbreviation (month : Fin 12) (rest : List Char) :
    Time.monthName? (monthAbbreviations[month].toList ++ rest) = some (month.val + 1, rest) := by
  have hall : ∀ i : Fin 12, monthAbbreviations[i].toList.length = 3 ∧ Time.monthNames.findIdx?
      (· == String.ofList (monthAbbreviations[i].toList.map Char.toLower)) = some i.val := by
    decide
  obtain ⟨hlength, hindex⟩ := hall month
  rw [Time.monthName?, List.take_left' hlength, List.drop_left' hlength]
  exact congrArg (Option.map _) hindex

theorem readStamp?_monthName (month : Fin 12) (items : List Time.Item) (stamp : Stamp)
    (rest : List Char) :
    Time.readStamp? (.monthName :: items) stamp (monthAbbreviations[month].toList ++ rest) =
      Time.readStamp? items { stamp with month := month.val + 1 } rest := by
  simp only [Time.readStamp?, Time.Item.read?, monthName?_abbreviation]
  rfl

namespace SyslogLine

variable {l : SyslogLine}

/-- What is read of the time. -/
def stamp (l : SyslogLine) (year : Int) : Stamp :=
  ⟨year, l.month.val + 1, value l.day, value l.hour, value l.minute, value l.second, 0, 0⟩

def clockChars (l : SyslogLine) : List Char :=
  l.hour.toList ++ ':' :: (l.minute.toList ++ ':' :: l.second.toList)

theorem isToken_clock (h : l.IsWritten) : IsToken l.clockChars := by
  have hcolon : isBlank ':' = false := by decide
  exact h.hour.1.join hcolon (h.minute.1.join hcolon h.second.1.isToken.notBlank).notBlank

theorem isNumber_day (h : l.IsWritten) (rest : List Char) :
    IsNumber 2 l.day.toList (' ' :: rest) := by
  rcases h.day with hday | hday
  · exact ⟨hday.isRun.ne_nil, hday.all, by simp [hday.length], .inr (by simp)⟩
  · exact hday.isNumber _

theorem isToken_day (h : l.IsWritten) : IsToken l.day.toList := by
  rcases h.day with hday | hday <;> exact hday.isToken

theorem isToken_monthName (l : SyslogLine) : IsToken l.monthName.toList := by
  obtain ⟨hlength, hword⟩ := l.monthName_spec
  refine ⟨List.ne_nil_of_length_eq_add_one hlength, fun c hc => ?_⟩
  exact not_isBlank_of_isWord (isWord_of_ascii (hword c hc))

theorem time_eq (l : SyslogLine) :
    l.time.toList = [' '].intercalate [l.monthName.toList, l.day.toList, l.clockChars] := by
  simp [time, clockChars, List.intercalate_cons_cons]

theorem collapse_time (h : l.IsWritten) : Text.collapse l.time.toList = l.time.toList := by
  rw [time_eq]
  refine Text.collapse_intercalate ?_
  simpa using ⟨l.isToken_monthName, isToken_day h, isToken_clock h⟩

theorem readStamp?_time (h : l.IsWritten) (year : Int) :
    Time.readStamp? Syslog.layout (.ofYear year) l.time.toList = some (l.stamp year) := by
  have hdigit {s : String} (hs : IsToken s.toList) (rest : List Char) :
      ∀ c ∈ (s.toList ++ rest).head?, isBlank c = false := by
    intro c hc
    rw [List.head?_append_of_ne_nil _ hs.ne_nil] at hc
    exact hs.notBlank c (List.mem_of_mem_head? hc)
  have htime : l.time.toList = monthAbbreviations[l.month].toList ++ ' ' :: (l.day.toList ++ ' ' ::
      (l.hour.toList ++ ':' :: (l.minute.toList ++ ':' :: (l.second.toList ++ [])))) := by
    simp [time, monthName]
  rw [htime, Syslog.layout, readStamp?_monthName, Time.readStamp?_space (hdigit (isToken_day h) _),
    Time.readStamp?_field rfl (isNumber_day h _),
    Time.readStamp?_space (hdigit h.hour.1.isToken _), Time.readStamp?_field rfl (h.hour.1.isNumber _),
    Time.readStamp?_literal, Time.readStamp?_field rfl (h.minute.1.isNumber _),
    Time.readStamp?_literal, Time.readStamp?_field rfl (h.second.1.isNumber _)]
  rfl

theorem isTime_stamp_iff (h : l.IsWritten) (year : Int) :
    (l.stamp year).IsTime ↔ (l.date year).isValid = true :=
  ⟨fun htime => htime.date, fun hdate => ⟨hdate, h.hour.2, h.minute.2⟩⟩

theorem utcChars_stamp (h : l.IsWritten) (year : Int) :
    String.ofList (l.stamp year).utcChars = l.utc year := by
  have hmillis : padded 3 0 = ['0', '0', '0'] := by decide
  rw [← String.toList_inj, String.toList_ofList]
  simp [Stamp.utcChars, stamp, utc, h.hour.1.padded, h.minute.1.padded, h.second.1.padded, hmillis]

/-- The clock gives the year. -/
theorem timestamp_time (h : l.IsWritten) (now : Time.Instant) :
    Syslog.timestamp now l.time.toList =
      if (l.date now.date.year).isValid then l.utc now.date.year else l.time := by
  have hsecond : (l.stamp now.date.year).second ≤ 59 := h.second.2
  rw [Syslog.timestamp, collapse_time h, Time.read?, readStamp?_time h, Option.bind_some]
  by_cases hdate : (l.date now.date.year).isValid = true
  · have htime := (isTime_stamp_iff h _).mpr hdate
    have hinstant := Stamp.instant?_eq htime hsecond (Nat.zero_lt_succ _)
    rw [if_pos hdate, hinstant]
    exact (Stamp.text_instant htime hsecond (Nat.zero_lt_succ _) rfl hinstant).trans (utcChars_stamp h _)
  · have htime := mt (isTime_stamp_iff h _).mp hdate
    rw [if_neg hdate, Stamp.instant?_eq_none htime hsecond (Nat.zero_lt_succ _)]
    exact String.ofList_toList

end SyslogLine

namespace Log4jLine

variable {l : Log4jLine}

/-- What is read of the time. -/
def stamp (l : Log4jLine) : Stamp :=
  ⟨value l.year, value l.month, value l.day, value l.hour, value l.minute, value l.second,
    value l.millis, 0⟩

def dateChars (l : Log4jLine) : List Char :=
  l.year.toList ++ '-' :: (l.month.toList ++ '-' :: l.day.toList)

def clockChars (l : Log4jLine) : List Char :=
  l.hour.toList ++ ':' :: (l.minute.toList ++ ':' :: (l.second.toList ++ ',' :: l.millis.toList))

theorem isToken_date (h : l.IsWritten) : IsToken l.dateChars := by
  have hdash : isBlank '-' = false := by decide
  exact h.year.join hdash (h.month.join hdash h.day.isToken.notBlank).notBlank

theorem isToken_clock (h : l.IsWritten) : IsToken l.clockChars := by
  have hcolon : isBlank ':' = false := by decide
  have hcomma : isBlank ',' = false := by decide
  exact h.hour.join hcolon (h.minute.join hcolon
    (h.second.1.join hcomma h.millis.isToken.notBlank).notBlank).notBlank

theorem time_eq (l : Log4jLine) : l.time.toList = [' '].intercalate [l.dateChars, l.clockChars] := by
  simp [time, dateChars, clockChars, List.intercalate_cons_cons]

theorem collapse_time (h : l.IsWritten) : Text.collapse l.time.toList = l.time.toList := by
  rw [time_eq]
  exact Text.collapse_intercalate (by simpa using ⟨isToken_date h, isToken_clock h⟩)

theorem readStamp?_millis (h : IsDigits 3 l.millis) (stamp : Stamp) :
    Time.readStamp? [.millis] stamp l.millis.toList = some { stamp with millis := value l.millis } := by
  have htake : l.millis.toList.take 3 = l.millis.toList := List.take_of_length_le h.length.le
  have hdrop : l.millis.toList.drop 3 = [] := List.drop_of_length_le h.length.le
  simp [Time.readStamp?, Time.Item.read?, htake, hdrop, Text.nat?_of_isDigit h.isRun.ne_nil h.all, value]

theorem readStamp?_time (h : l.IsWritten) :
    Time.readStamp? Leveled.layout (.ofYear 0) l.time.toList = some l.stamp := by
  have hhour : ∀ c ∈ (l.hour.toList ++ ':' :: (l.minute.toList ++ ':' :: (l.second.toList ++ ',' ::
      l.millis.toList))).head?, isBlank c = false := by
    intro c hc
    rw [List.head?_append_of_ne_nil _ h.hour.isRun.ne_nil] at hc
    exact h.hour.isToken.notBlank c (List.mem_of_mem_head? hc)
  have htime : l.time.toList = l.year.toList ++ '-' :: (l.month.toList ++ '-' :: (l.day.toList ++ ' ' ::
      (l.hour.toList ++ ':' :: (l.minute.toList ++ ':' :: (l.second.toList ++ ',' ::
      l.millis.toList))))) := by
    simp [time]
  rw [htime, Leveled.layout, Time.readStamp?_field rfl (h.year.isNumber _), Time.readStamp?_literal,
    Time.readStamp?_field rfl (h.month.isNumber _), Time.readStamp?_literal,
    Time.readStamp?_field rfl (h.day.isNumber _), Time.readStamp?_space hhour,
    Time.readStamp?_field rfl (h.hour.isNumber _), Time.readStamp?_literal,
    Time.readStamp?_field rfl (h.minute.isNumber _), Time.readStamp?_literal,
    Time.readStamp?_field rfl (h.second.1.isNumber _), Time.readStamp?_literal,
    readStamp?_millis h.millis]
  rfl

theorem isTime_stamp_iff (l : Log4jLine) : l.stamp.IsTime ↔ l.isTime = true := by
  simp only [isTime, Bool.and_eq_true, decide_eq_true_eq]
  exact ⟨fun h => ⟨⟨h.date, h.hour⟩, h.minute⟩, fun ⟨⟨hdate, hhour⟩, hminute⟩ => ⟨hdate, hhour, hminute⟩⟩

/-- Years of four digits are written without a sign. -/
theorem yearText_year (h : l.IsWritten) : Time.Instant.yearText (value l.year) = l.year.toList := by
  have hlt : value l.year < 10 ^ 4 := h.year.value_lt
  have hrange : (0 : Int) ≤ value l.year ∧ (value l.year : Int) ≤ 9999 := by omega
  rw [Time.Instant.yearText, if_pos hrange, Int.toNat_natCast, h.year.padded]

theorem utcChars_stamp (h : l.IsWritten) : String.ofList l.stamp.utcChars = l.utc := by
  rw [← String.toList_inj, String.toList_ofList]
  simp [Stamp.utcChars, stamp, utc, yearText_year h, h.month.padded, h.day.padded, h.hour.padded,
    h.minute.padded, h.second.1.padded, h.millis.padded]

theorem timestamp_time (h : l.IsWritten) :
    Leveled.timestamp l.time.toList = if l.isTime then l.utc else l.time := by
  have hsecond : l.stamp.second ≤ 59 := h.second.2
  have hmillis : l.stamp.millis < 1000 := h.millis.value_lt
  rw [Leveled.timestamp, collapse_time h, Time.read?, readStamp?_time h, Option.bind_some]
  by_cases htime : l.isTime = true
  · have hstamp := (isTime_stamp_iff l).mpr htime
    have hinstant := Stamp.instant?_eq hstamp hsecond (Nat.zero_lt_succ _)
    rw [if_pos htime, hinstant]
    exact (Stamp.text_instant hstamp hsecond hmillis rfl hinstant).trans (utcChars_stamp h)
  · rw [if_neg htime, Stamp.instant?_eq_none (mt (isTime_stamp_iff l).mp htime) hsecond
      (Nat.zero_lt_succ _)]
    exact String.ofList_toList

end Log4jLine

end Logbook.Rule
