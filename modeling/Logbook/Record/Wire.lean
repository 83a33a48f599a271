import Logbook.Json.Shape
import Logbook.Record.Basic

/-!
Records and drafts as JSON.
-/

namespace Logbook

open Json (Shape Value Fault)

namespace Record

def fields : List (String × Json.Presence × Shape) :=
  [("level", .needed, .choice (Level.all.map Level.name)), ("message", .needed, .text),
    ("service", .needed, .text), ("timestamp", .needed, .text),
    ("metadata", .orElse (.object []), .dict .any)]

def shape : Shape := .record fields

def toJson (r : Record) : Value :=
  .object [("level", .string r.level.name), ("message", .string r.message),
    ("service", .string r.service), ("timestamp", .string r.timestamp),
    ("metadata", .object r.metadata)]

def ofJson? : Value → Option Record
  | .object [(_, .string level), (_, .string message), (_, .string service),
      (_, .string timestamp), (_, .object metadata)] =>
    (Level.ofName? level).map fun level => ⟨level, message, service, timestamp, metadata⟩
  | _ => none

def read (text : String) : Except Fault Record := do
  (ofJson? (← shape.read text)).elim (throw .mismatch) pure

end Record

def Draft.toJson (d : Draft) : Value :=
  .object [("level", d.level.elim .null fun level => .string level.name),
    ("message", d.message.elim .null .string), ("service", d.service.elim .null .string),
    ("timestamp", d.timestamp.elim .null .string), ("metadata", .object d.metadata)]

end Logbook
