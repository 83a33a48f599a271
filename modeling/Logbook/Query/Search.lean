import Logbook.Keyed
import Logbook.Query.Pipeline

/-!
What a query asks of the log search: the filter that its commands add up to, and the request
that carries the filter. Stages that only concern display leave no trace.
-/

namespace Logbook.Query

/-- Texts under keys, in the order of the keys. -/
abbrev Labels := List (String × String)

structure SearchFilter where
  messages : List String
  levels : List String
  service : Option String
  metadata : Labels
  page : Nat
  limit : Nat
  order : SortOrder
deriving DecidableEq, Repr

namespace SearchFilter

def initial : SearchFilter := ⟨[], [], none, [], 1, defaultLimit, .desc⟩

/-- A level is kept once, in upper case. -/
def addLevel (s : SearchFilter) (level : String) : SearchFilter :=
  let level := String.ofList (Text.upper level.toList)
  if s.levels.contains level then s else { s with levels := s.levels ++ [level] }

/-- A key that can be asked for as metadata. -/
def isMetadataKey (field : String) : Bool :=
  field != "" && field.toList.head? != some '@' && field ∉ ["level", "service", "message"]

def applyFilter (s : SearchFilter) (f : Filter) : SearchFilter :=
  if f.field = "level" ∧ f.operator = .equal then s.addLevel f.value
  else if f.field = "service" ∧ f.operator = .equal then { s with service := some f.value }
  else if f.field ∈ ["message", "@message"] ∧ f.operator ∈ [.equal, .like] then
    { s with messages := s.messages ++ [f.value] }
  else if isMetadataKey f.field then
    { s with metadata := Keyed.insert f.field f.value s.metadata }
  else s

def apply (s : SearchFilter) : Command → SearchFilter
  | .filter f => s.applyFilter f
  | .sort c => if c.field ∈ ["timestamp", "@timestamp"] then { s with order := c.order } else s
  | .limit n => { s with limit := n }
  | .fields _ | .stats _ | .parse _ => s

end SearchFilter

/-- The filter of a query that has commands and no error. -/
def Parsed.translate (p : Parsed) : Except Error SearchFilter :=
  match p.error with
  | some err => .error err
  | none =>
    if p.commands.isEmpty then .error .invalidQuery
    else .ok (p.commands.foldl SearchFilter.apply .initial)

/-- The body of a search request; what does not restrict the search is absent. -/
structure SearchRequest where
  service : Option String
  levels : Option (List String)
  messageContains : List String
  metadata : Option Labels
  sort : String
  order : SortOrder
  page : Nat
  limit : Nat
deriving DecidableEq, Repr

/-- The service `all` is no restriction. -/
def SearchFilter.request (s : SearchFilter) : SearchRequest where
  service := s.service.filter (· != "all")
  levels := (some s.levels).filter (!·.isEmpty)
  messageContains := s.messages
  metadata := (some s.metadata).filter (!·.isEmpty)
  sort := "timestamp"
  order := s.order
  page := s.page
  limit := s.limit

def compileToRequest (query : String) : Except Error SearchRequest := do
  let filter ← (compile query).translate
  return filter.request

end Logbook.Query
