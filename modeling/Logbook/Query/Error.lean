/-!
What can go wrong with a query, as it is told to its author.
-/

namespace Logbook.Query

inductive Error where
  | empty
  | unknownCommand (keyword : String)
  | invalidPattern (pattern reason : String)
  /-- A stage whose command is known could not be read. -/
  | internal (text : String)
  | invalidQuery
deriving DecidableEq, Repr

namespace Error

def message : Error → String
  | empty => "Empty query"
  | unknownCommand keyword => "Unknown command type: " ++ keyword
  | invalidPattern pattern reason => "Invalid parse pattern '" ++ pattern ++ "': " ++ reason
  | internal text => "Failed to parse query: " ++ text
  | invalidQuery => "Invalid query"

end Error

end Logbook.Query
