/-!
The commands of a query, one for each stage of its pipeline.
-/

namespace Logbook.Query

inductive Operator where
  | equal
  | notEqual
  | greater
  | less
  | greaterOrEqual
  | lessOrEqual
  | like
  | notLike
deriving DecidableEq, Repr

namespace Operator

def token : Operator → String
  | equal => "="
  | notEqual => "!="
  | greater => ">"
  | less => "<"
  | greaterOrEqual => ">="
  | lessOrEqual => "<="
  | like => "like"
  | notLike => "not like"

/-- In a filter an operator counts only between spaces. -/
def spaced (op : Operator) : List Char := ' ' :: op.token.toList ++ [' ']

/-- The order in which a filter is searched for its operator. -/
def scanOrder : List Operator :=
  [equal, notEqual, greaterOrEqual, lessOrEqual, greater, less, notLike, like]

def ofToken? (s : String) : Option Operator := scanOrder.find? fun op => op.token == s

end Operator

/-- `filter level = "ERROR"` -/
structure Filter where
  field : String
  operator : Operator
  value : String
deriving DecidableEq, Repr

/-- `stats count(*) by level, service` -/
structure Stats where
  function : String
  field : String
  groupBy : List String
deriving DecidableEq, Repr

inductive SortOrder where
  | asc
  | desc
deriving DecidableEq, Repr

namespace SortOrder

def name : SortOrder → String
  | asc => "asc"
  | desc => "desc"

def ofName? (s : String) : Option SortOrder := [asc, desc].find? fun order => order.name == s

/-- `desc` in any mixture of cases is descending, every other word ascending. -/
def ofDirection (direction : String) : SortOrder :=
  if direction.toList.map Char.toLower = ['d', 'e', 's', 'c'] then desc else asc

end SortOrder

/-- `sort @timestamp desc` -/
structure Sorting where
  field : String
  /-- The word written, in lower case. -/
  direction : String
deriving DecidableEq, Repr

def Sorting.order (s : Sorting) : SortOrder := .ofDirection s.direction

/-- `parse @message "user: *" as user`: the pattern is a glob, in which every star captures,
or, if `isRegex`, a pattern written between slashes. -/
structure Extraction where
  field : String
  pattern : String
  /-- The names of what is captured, in order, separated by commas. -/
  nameList : String
  isRegex : Bool
deriving DecidableEq, Repr

inductive Command where
  | fields (names : List String)
  | filter (f : Filter)
  | stats (s : Stats)
  | sort (s : Sorting)
  | limit (count : Nat)
  | parse (e : Extraction)
deriving DecidableEq, Repr

namespace Command

/-- The word that begins the stage. -/
def kind : Command → String
  | fields _ => "fields"
  | filter _ => "filter"
  | stats _ => "stats"
  | sort _ => "sort"
  | limit _ => "limit"
  | parse _ => "parse"

end Command

end Logbook.Query
