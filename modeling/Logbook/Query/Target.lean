import Logbook.Query.Search

/-!
What the parts of a search request are made of: for every part, the commands of the pipeline that
set it, in order.
-/

namespace Logbook.Query

/-- A part of a request that commands set. -/
inductive Target where
  | level
  | service
  | message
  | metadata (key : String)
  | order
  | limit
deriving DecidableEq, Repr

namespace Command

def value? : Command → Option String
  | filter f => some f.value
  | _ => none

def order? : Command → Option SortOrder
  | sort s => some s.order
  | _ => none

def count? : Command → Option Nat
  | limit n => some n
  | _ => none

/-- Stages that only say how the found lines are shown. -/
def isDisplay : Command → Bool
  | fields _ | stats _ | parse _ => true
  | filter _ | sort _ | limit _ => false

end Command

namespace Target

/-- Whether a command sets the target. -/
def accepts : Target → Command → Bool
  | level, .filter f => f.field = "level" ∧ f.operator = .equal
  | service, .filter f => f.field = "service" ∧ f.operator = .equal
  | message, .filter f => f.field ∈ ["message", "@message"] ∧ f.operator ∈ [.equal, .like]
  | metadata key, .filter f =>
    f.field = key ∧ key ≠ "" ∧ key.toList.head? ≠ some '@' ∧
      key ∉ ["level", "service", "message"]
  | order, .sort s => s.field ∈ ["timestamp", "@timestamp"]
  | limit, .limit _ => true
  | _, _ => false

/-- The commands that set the target. -/
def restrict (t : Target) (commands : List Command) : List Command := commands.filter t.accepts

/-- The values of the filters that set the target. -/
def values (t : Target) (commands : List Command) : List String :=
  (t.restrict commands).filterMap Command.value?

end Target

def absentIfEmpty {α : Type} (l : List α) : Option (List α) := if l.isEmpty then none else some l

/-- What the commands of a pipeline say about the request, part by part. -/
structure SearchRequest.IsMeaningOf (r : SearchRequest) (commands : List Command) : Prop where
  levels : r.levels = absentIfEmpty
    ((Target.level.values commands).map fun v => String.ofList (Text.upper v.toList)).eraseDups
  service : r.service = (Target.service.values commands).getLast?.filter (· != "all")
  messages : r.messageContains = Target.message.values commands
  metadata : ∃ labels, r.metadata = absentIfEmpty labels ∧ Keyed.IsOrdered labels ∧
    ∀ key, labels.lookup key = ((Target.metadata key).values commands).getLast?
  sort : r.sort = "timestamp"
  order : r.order =
    ((Target.order.restrict commands).filterMap Command.order?).getLast?.getD .desc
  page : r.page = 1
  limit : r.limit = ((Target.limit.restrict commands).filterMap Command.count?).getLast?.getD 20

end Logbook.Query
