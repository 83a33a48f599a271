import Logbook.Rule.Basic
import Logbook.Time.Layout

/-!
Lines that carry a word for their level.
-/

namespace Logbook.Rule.Leveled

/-- `2024-02-08 10:30:00,123` -/
def layout : List Time.Item :=
  [.year, .literal '-', .month, .literal '-', .day, .blanks, .hour, .literal ':', .minute,
    .literal ':', .second, .literal ',', .millis]

/-- The time, taken to be in UTC. A text that names no time stays as it is. -/
def timestamp (written : List Char) : String :=
  match Time.read? layout (.ofYear 0) (Text.collapse written) with
  | some t => t.text
  | none => String.ofList written

/-- `2024-02-08 10:30:00,123 ERROR [main] message` -/
def log4j : Rule where
  name := "Log4j/Winston"
  pattern := .ofText
    r"^(\d{4}-\d{2}-\d{2}\s+\d{2}:\d{2}:\d{2},\d{3})\s+(\w+)\s+\[(.+?)\]\s+(.+)"
  draft := fun _ m =>
    { level := Level.ofWord (m.group 2)
      message := m.groupText 4
      service := none
      timestamp := timestamp (m.group 1)
      metadata := [("context", .string (m.groupText 3))] }

/-- `"level": "x"` and behind it `"message": "y"`, inside any text. -/
def jsonLike : Rule where
  name := "JSON-like"
  pattern := .ofText r#""level":\s*"(\w+)".*?"message":\s*"([^"]+)""#
  draft := fun _ m =>
    { Draft.empty with level := Level.ofWord (m.group 1), message := m.groupText 2 }

def isBracket (c : Char) : Bool := c == '[' || c == ']'

def withoutBrackets (s : List Char) : List Char :=
  ((s.dropWhile isBracket).reverse.dropWhile isBracket).reverse

/-- `[ERROR] - message`, `warn: message` -/
def simple : Rule where
  name := "Simple Level-Message"
  pattern := .ofText r"(?i)^(\[?(?:ERROR|WARN|INFO|DEBUG)\]?)\s*[-:]\s*(.+)"
  draft := fun _ m =>
    { Draft.empty with
      level := Level.ofWord (withoutBrackets (m.group 1)), message := m.groupText 2 }

end Logbook.Rule.Leveled
