/-!
TOML values. Tables keep their members in the order of keys.
-/

namespace Logbook.Toml

inductive Value where
  | string (s : String)
  | integer (n : Int)
  /-- Absent if it is too large for a double. -/
  | double (x : Option Float)
  | boolean (b : Bool)
  /-- A date, a time or both, as text. -/
  | datetime (text : String)
  | array (items : List Value)
  | table (members : List (String × Value))
deriving Repr, Inhabited

end Logbook.Toml
