import Logbook.Json.Value
import Logbook.Record.Level
import Logbook.Time.Instant

/-!
Records, and the drafts that become records when what is missing is filled in.
-/

namespace Logbook

structure Record where
  level : Level
  message : String
  service : String
  timestamp : String
  /-- In the order of keys, each key once. -/
  metadata : Json.Members
deriving BEq, Repr

/-- What could be told from a line. -/
structure Draft where
  level : Option Level
  message : Option String
  service : Option String
  timestamp : Option String
  metadata : Json.Members
deriving BEq, Repr

namespace Draft

def empty : Draft := ⟨none, none, none, none, []⟩

/-- Stands for the message of a line without text. -/
def emptyMessage : String := "(empty)"

/-- Stands for a service that nothing names. -/
def unknownService : String := "unknown"

/-- An empty text counts as missing. -/
def filled (text : Option String) (otherwise : String) : String :=
  (text.filter (· != "")).getD otherwise

def complete (now : Time.Instant) (d : Draft) : Record where
  level := d.level.getD .info
  message := filled d.message emptyMessage
  service := filled d.service unknownService
  timestamp := filled d.timestamp now.text
  metadata := d.metadata

end Draft

end Logbook
