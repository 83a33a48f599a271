import Logbook.Proofs.Normalizer.Unstructured
import Logbook.Proofs.Rule.Exclusive

/-! Lines of syslog become the records of their fields. No object begins like them, and none of them is a
line of an access log. -/

namespace Logbook.Normalizer

open Rule (SyslogLine)
open Rule.Access (apache nginx)

variable {l : SyslogLine}

theorem lineObject?_syslogText (l : SyslogLine) : lineObject? l.text = none := by
  cases hpriority : l.priority with
  | some p =>
    have hhead : l.text.toList.head? = some '<' := by simp [SyslogLine.text, hpriority]
    exact lineObject?_eq_none_of_head? hhead (by decide) (by decide)
  | none =>
    obtain ⟨hlength, hword⟩ := l.monthName_spec
    obtain ⟨c, month, hmonth⟩ := List.exists_cons_of_length_eq_add_one hlength
    have htext : l.text.toList = c :: (l.text.toList.drop 1) := by
      simp [SyslogLine.text, SyslogLine.time, hpriority, hmonth]
    exact lineObject?_eq_none_of_word htext (hword c (by simp [hmonth]))

theorem syslogTimestamp_ne_empty (l : SyslogLine) (year : Int) :
    (if (l.date year).isValid then l.utc year else l.time) ≠ "" := by
  split
  · intro hempty
    simpa [SyslogLine.utc] using congrArg String.toList hempty
  · intro hempty
    simpa [SyslogLine.time] using congrArg String.toList hempty

/-- The clock gives the year of the date. -/
theorem normalize_syslogLine (custom : List Rule) (now : Time.Instant) (h : l.IsWritten) :
    (builtin.extend custom).normalize now l.text =
      { level := l.level
        message := l.message
        service := l.host
        timestamp := if (l.date now.date.year).isValid then l.utc now.date.year else l.time
        metadata := l.metadata } := by
  obtain ⟨m, hm, hdraft⟩ := l.draft_text h now
  have hmatches : Rule.Syslog.rule.Matches l.text.toList := Option.isSome_iff_exists.mpr ⟨m, hm⟩
  have haccess : ∀ r ∈ [nginx, apache], ¬ r.Matches l.text.toList := by
    simpa using Rule.syslog_not_access hmatches
  rw [normalize_of_first custom now _ (lineObject?_syslogText l) rfl haccess hm, hdraft,
    Rule.SyslogLine.timestamp_time h, complete_of_ne_empty now _ _ h.message.nonempty h.host.nonempty
      (syslogTimestamp_ne_empty l _)]

/-- A leap day, a host that begins like a time, and blanks in the message. -/
def leapLine : SyslogLine where
  priority := "013"
  month := ⟨1, by decide⟩
  day := "29"
  hour := "23"
  minute := "59"
  second := "09"
  host := "[\"x:"
  process := "sshd"
  pid := "0012"
  message := "a: [b] <c> "

theorem normalize_syslogLine_leap :
    leapLine.IsWritten ∧
      (builtin.extend [taggedRule "any" ""]).normalize ⟨951782400, 0⟩ leapLine.text =
        { level := .info
          message := "a: [b] <c> "
          service := "[\"x:"
          timestamp := "2000-02-29T23:59:09.000Z"
          metadata := [("facility", .integer 1), ("pid", .integer 12), ("priority", .integer 13),
            ("process", .string "sshd")] } ∧
      ((builtin.extend []).normalize ⟨0, 0⟩ leapLine.text).timestamp = "Feb 29 23:59:09" := by
  have hwritten : leapLine.IsWritten := by constructor <;> decide
  have hlevel : leapLine.level = .info := by decide
  have hleap : (if (leapLine.date (Time.Instant.date ⟨951782400, 0⟩).year).isValid then
      leapLine.utc (Time.Instant.date ⟨951782400, 0⟩).year else leapLine.time) =
      "2000-02-29T23:59:09.000Z" := by
    decide
  have hplain : (if (leapLine.date (Time.Instant.date ⟨0, 0⟩).year).isValid then
      leapLine.utc (Time.Instant.date ⟨0, 0⟩).year else leapLine.time) = "Feb 29 23:59:09" := by
    decide
  have hmetadata : leapLine.metadata = [("facility", .integer 1), ("pid", .integer 12),
      ("priority", .integer 13), ("process", .string "sshd")] := rfl
  have hrecord := normalize_syslogLine [taggedRule "any" ""] ⟨951782400, 0⟩ hwritten
  rw [hlevel, hleap, hmetadata] at hrecord
  have hother := normalize_syslogLine [] ⟨0, 0⟩ hwritten
  rw [hplain] at hother
  exact ⟨hwritten, hrecord, congrArg Record.timestamp hother⟩

end Logbook.Normalizer
