import Logbook.Rule.Basic
import Logbook.Time.Layout

/-!
Syslog lines: an optional priority, a time without year, host, process and message.
-/

namespace Logbook.Rule.Syslog

open Json (Value)

/-- `Oct 11 22:14:15` -/
def layout : List Time.Item :=
  [.monthName, .blanks, .day, .blanks, .hour, .literal ':', .minute, .literal ':', .second]

/-- The time in the year of the clock. A text that names no time stays as it is. -/
def timestamp (now : Time.Instant) (written : List Char) : String :=
  match Time.read? layout (.ofYear now.date.year) (Text.collapse written) with
  | some t => t.text
  | none => String.ofList written

/-- The severity is the priority modulo eight. -/
def levelOfPriority (priority : Nat) : Level :=
  match priority % 8 with
  | 0 | 1 | 2 | 3 => .error
  | 4 => .warn
  | 5 | 6 => .info
  | _ => .debug

def metadata (m : Pattern.Match) (priority : Option Nat) : Json.Members :=
  [("process", .string (m.groupText 4))] ++
    ((number? m 5 UInt64.size).map fun pid => ("pid", Value.integer pid)).toList ++
    (priority.elim [] fun p =>
      [("priority", Value.integer p), ("facility", Value.integer (p / 8 : Nat))])

def draft (now : Time.Instant) (m : Pattern.Match) : Draft :=
  let priority := number? m 1 UInt8.size
  { level := some ((priority.map levelOfPriority).getD .info)
    message := m.groupText 6
    service := m.groupText 3
    timestamp := timestamp now (m.group 2)
    metadata := Keyed.ofList (metadata m priority) }

def rule : Rule where
  name := "Syslog"
  pattern := .ofText <|
    r"^(?:<(\d{1,3})>)?(\w{3}\s+\d{1,2}\s+\d{2}:\d{2}:\d{2})" ++
    r"\s+(\S+)\s+(\w+)(?:\[(\d+)\])?:\s+(.+)"
  draft := draft

end Logbook.Rule.Syslog
