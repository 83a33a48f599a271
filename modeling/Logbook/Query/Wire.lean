import Logbook.Json.Shape
import Logbook.Query.Search

/-!
Commands, filters and requests as JSON.
-/

namespace Logbook.Query

open Json (Shape Value Fault)

def strings? : Value → Option (List String)
  | .array items => items.mapM Value.string?
  | _ => none

def word? : Value → Option Nat
  | .number (.integer n) => some n.toNat
  | _ => none

/-- Fields that must all be there. -/
def neededFields (fields : List (String × Shape)) : List (String × Json.Presence × Shape) :=
  fields.map fun (name, shape) => (name, .needed, shape)

namespace Filter

def shape : Shape :=
  .record (neededFields [("field", .text),
    ("operator", .choice (Operator.scanOrder.map Operator.token)), ("value", .text)])

def toJson (f : Filter) : Value :=
  .object [("field", .string f.field), ("operator", .string f.operator.token),
    ("value", .string f.value)]

def ofJson? : Value → Option Filter
  | .object [(_, .string field), (_, .string token), (_, .string value)] =>
    (Operator.ofToken? token).map fun operator => ⟨field, operator, value⟩
  | _ => none

end Filter

namespace Stats

def shape : Shape :=
  .record (neededFields [("function", .text), ("field", .text), ("groupBy", .list .text)])

def toJson (s : Stats) : Value :=
  .object [("function", .string s.function), ("field", .string s.field),
    ("groupBy", .ofStrings s.groupBy)]

def ofJson? : Value → Option Stats
  | .object [(_, .string function), (_, .string field), (_, groups)] =>
    (strings? groups).map fun groupBy => ⟨function, field, groupBy⟩
  | _ => none

end Stats

namespace Sorting

def shape : Shape := .record (neededFields [("field", .text), ("direction", .text)])

def toJson (s : Sorting) : Value :=
  .object [("field", .string s.field), ("direction", .string s.direction)]

def ofJson? : Value → Option Sorting
  | .object [(_, .string field), (_, .string direction)] => some ⟨field, direction⟩
  | _ => none

end Sorting

namespace Extraction

def shape : Shape :=
  .record (neededFields [("field", .text), ("pattern", .text), ("alias", .text)] ++
    [("regex", .orElse (.bool false), .flag)])

/-- The mark of a pattern between slashes is written only where it is set. -/
def toJson (e : Extraction) : Value :=
  .object ([("field", .string e.field), ("pattern", .string e.pattern),
    ("alias", .string e.nameList)] ++ if e.isRegex then [("regex", .bool true)] else [])

def ofJson? : Value → Option Extraction
  | .object [(_, .string field), (_, .string pattern), (_, .string names), (_, .bool isRegex)] =>
    some ⟨field, pattern, names, isRegex⟩
  | _ => none

def read (text : String) : Except Fault Extraction := do
  (ofJson? (← shape.read text)).elim (throw .mismatch) pure

end Extraction

namespace Command

/-- The shape of the parameters of each kind. -/
def parameterShapes : List (String × Shape) :=
  [("fields", .record (neededFields [("fields", .list .text)])), ("filter", Filter.shape),
    ("stats", Stats.shape), ("sort", Sorting.shape),
    ("limit", .record (neededFields [("limit", .word32)])), ("parse", Extraction.shape)]

def shape : Shape := .tagged parameterShapes

def parameters : Command → Value
  | fields names => .object [("fields", .ofStrings names)]
  | filter f => f.toJson
  | stats s => s.toJson
  | sort s => s.toJson
  | limit count => .object [("limit", .integer count)]
  | parse e => e.toJson

def toJson (c : Command) : Value := Shape.taggedValue c.kind c.parameters

def ofParameters? (kind : String) (v : Value) : Option Command :=
  match kind, v with
  | "fields", .object [(_, names)] => (strings? names).map fields
  | "filter", v => (Filter.ofJson? v).map filter
  | "stats", v => (Stats.ofJson? v).map stats
  | "sort", v => (Sorting.ofJson? v).map sort
  | "limit", .object [(_, count)] => (word? count).map limit
  | "parse", v => (Extraction.ofJson? v).map parse
  | _, _ => none

def ofJson? : Value → Option Command
  | .object [(_, .string kind), (_, v)] => ofParameters? kind v
  | _ => none

def read (text : String) : Except Fault Command := do
  (ofJson? (← shape.read text)).elim (throw .mismatch) pure

/-- The command that a value stands for. -/
def ofValue? (v : Value) : Option Command := (shape.fit v).bind ofJson?

end Command

def Parsed.toJson (p : Parsed) : Value :=
  .object ([("commands", .array (p.commands.map Command.toJson))] ++
    (p.error.map fun err => ("error", Value.string err.message)).toList)

namespace SearchFilter

def toJson (s : SearchFilter) : Value :=
  .object ([("searchMessages", .ofStrings s.messages), ("selectedLevels", .ofStrings s.levels)] ++
    (s.service.map fun service => ("selectedService", Value.string service)).toList ++
    [("metadata", .ofLabels s.metadata), ("page", .integer s.page), ("limit", .integer s.limit),
      ("sortOrder", .string s.order.name)])

end SearchFilter

namespace SearchRequest

def shape : Shape :=
  .record [("service", .orNull, .optional .text), ("levels", .orNull, .optional (.list .text)),
    ("message_contains", .needed, .list .text), ("metadata", .orNull, .optional (.dict .text)),
    ("sort", .needed, .text), ("order", .needed, .choice ["asc", "desc"]),
    ("page", .needed, .word32), ("limit", .needed, .word32)]

def toJson (r : SearchRequest) : Value :=
  .object ((r.service.map fun service => ("service", Value.string service)).toList ++
    (r.levels.map fun levels => ("levels", Value.ofStrings levels)).toList ++
    [("message_contains", .ofStrings r.messageContains)] ++
    (r.metadata.map fun labels => ("metadata", Value.ofLabels labels)).toList ++
    [("sort", .string r.sort), ("order", .string r.order.name), ("page", .integer r.page),
      ("limit", .integer r.limit)])

/-- Null is absent. -/
def optional? {α : Type} (ofJson? : Value → Option α) : Value → Option (Option α)
  | .null => some none
  | v => (ofJson? v).map some

def ofJson? : Value → Option SearchRequest
  | .object [(_, service), (_, levels), (_, messages), (_, metadata), (_, .string sort),
      (_, .string order), (_, page), (_, limit)] => do
    return { service := ← optional? Value.string? service
             levels := ← optional? strings? levels
             messageContains := ← strings? messages
             metadata := ← optional? Value.labels? metadata
             sort
             order := ← SortOrder.ofName? order
             page := ← word? page
             limit := ← word? limit }
  | _ => none

def read (text : String) : Except Fault SearchRequest := do
  (ofJson? (← shape.read text)).elim (throw .mismatch) pure

end SearchRequest

end Logbook.Query
