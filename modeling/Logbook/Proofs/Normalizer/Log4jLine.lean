import Logbook.Proofs.Normalizer.Unstructured
import Logbook.Proofs.Rule.Exclusive

/-! Lines of Log4j become the records of their fields. No object begins like them, none of them is a line
of syslog, and one of an access log only those are whose context could be the time there. -/

namespace Logbook.Normalizer

open Rule (Log4jLine)
open Rule.Access (apache nginx)
open Pattern (isWord)

variable {l : Log4jLine}

theorem lineObject?_log4jText (h : l.IsWritten) : lineObject? l.text = none := by
  obtain ⟨c, year, hyear⟩ := List.exists_cons_of_length_eq_add_one h.year.length
  have hdigit : c.isDigit = true := h.year.all c (by simp [hyear])
  have htext : l.text.toList = c :: (l.text.toList.drop 1) := by
    simp [Log4jLine.text, Log4jLine.time, hyear]
  exact lineObject?_eq_none_of_word htext (by simp [isWord, Char.isAlphanum, hdigit])

theorem log4jTimestamp_ne_empty (l : Log4jLine) : (if l.isTime then l.utc else l.time) ≠ "" := by
  split
  · intro hempty
    simpa [Log4jLine.utc] using congrArg String.toList hempty
  · intro hempty
    simpa [Log4jLine.time] using congrArg String.toList hempty

theorem normalize_log4jLine (custom : List Rule) (now : Time.Instant) (h : l.IsWritten) :
    (builtin.extend custom).normalize now l.text =
      { level := Level.ofWord l.level.toList
        message := l.message
        service := "unknown"
        timestamp := if l.isTime then l.utc else l.time
        metadata := [("context", .string l.context)] } := by
  obtain ⟨m, hm, hdraft⟩ := l.draft_text h now
  have hmatches : Rule.Leveled.log4j.Matches l.text.toList := Option.isSome_iff_exists.mpr ⟨m, hm⟩
  obtain ⟨hnginx, hapache⟩ := Rule.Log4jLine.not_access h
  have hsyslog : ¬ Rule.Syslog.rule.Matches l.text.toList :=
    fun hsyslog => Rule.syslog_not_log4j hsyslog hmatches
  have hbefore : ∀ r ∈ [nginx, apache, Rule.Syslog.rule], ¬ r.Matches l.text.toList := by
    simpa using ⟨hnginx, hapache, hsyslog⟩
  rw [normalize_of_first custom now _ (lineObject?_log4jText h) rfl hbefore hm, hdraft,
    Rule.Log4jLine.timestamp_time h, Draft.complete, Record.filled_some h.message.nonempty,
    Record.filled_some (log4jTimestamp_ne_empty l)]
  rfl

/-- A word that names a level in capitals, and a context with two blanks in front of what could be an
offset. -/
def spacedLine : Log4jLine where
  year := "0000"
  month := "02"
  day := "29"
  hour := "23"
  minute := "00"
  second := "59"
  millis := "007"
  level := "WARNING"
  context := "a  +0100"
  message := "] b"

theorem not_isAccessTime_spaced : ¬ Rule.IsAccessTime spacedLine.context.toList := by
  rintro ⟨clock, b, sign, zone, heq, -, hclock, -, -, hlength, -⟩
  have hsize : clock.length = 2 := by
    have hwhole := congrArg List.length heq
    have height : spacedLine.context.toList.length = 8 := by decide
    rw [height, List.length_append, List.length_cons, List.length_cons, hlength] at hwhole
    omega
  have hfirst : clock = ['a', ' '] := by
    have htake := congrArg (List.take 2) heq
    rw [← hsize, List.take_left, hsize] at htake
    exact htake.symm
  have hblank := hclock ' ' (by simp [hfirst])
  exact absurd hblank (by decide)

theorem normalize_log4jLine_spaced :
    spacedLine.IsWritten ∧
      (builtin.extend [taggedRule "any" ""]).normalize ⟨0, 0⟩ spacedLine.text =
        { level := .warn
          message := "] b"
          service := "unknown"
          timestamp := "0000-02-29T23:00:59.007Z"
          metadata := [("context", .string "a  +0100")] } := by
  have hwritten : spacedLine.IsWritten :=
    { year := by decide
      month := by decide
      day := by decide
      hour := by decide
      minute := by decide
      second := by decide
      millis := by decide
      level := by decide
      context := by decide
      notAccessTime := not_isAccessTime_spaced
      message := by decide }
  have hlevel : Level.ofWord spacedLine.level.toList = .warn := by decide
  have htime : (if spacedLine.isTime then spacedLine.utc else spacedLine.time) =
      "0000-02-29T23:00:59.007Z" := by
    decide
  have hrecord := normalize_log4jLine [taggedRule "any" ""] ⟨0, 0⟩ hwritten
  rw [hlevel, htime] at hrecord
  exact ⟨hwritten, hrecord⟩

end Logbook.Normalizer
