import Logbook.Pattern.Basic
import Logbook.Record.Basic
import Logbook.Text.Digits

/-!
Rules: a pattern, and what a match of it says about a record.
-/

namespace Logbook

structure Rule where
  name : String
  pattern : Pattern
  draft : Time.Instant → Pattern.Match → Draft

/-- The pattern of a fixed text. A text that is no pattern matches nothing. -/
def Pattern.ofText (text : String) : Pattern :=
  match Pattern.compile text with
  | .ok p => p
  | .error _ => ⟨text, .chars .empty, []⟩

/-- The text of a group; empty if it took no part. -/
def Pattern.Match.groupText (m : Pattern.Match) (i : Nat) : String := String.ofList (m.group i)

namespace Rule

/-- What the rule makes of a line, if its pattern matches. -/
def apply (r : Rule) (now : Time.Instant) (line : List Char) : Option Draft :=
  (r.pattern.find? line).map (r.draft now)

/-- The number that a group writes in ASCII digits, if it is below a bound. -/
def number? (m : Pattern.Match) (i bound : Nat) : Option Nat :=
  ((m.group? i).bind Text.nat?).filter (· < bound)

end Rule

end Logbook
