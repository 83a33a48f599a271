import Logbook.Keyed

/-!
JSON values. A number is an integer of 64 bits, signed or not, or else a double. The members of
an object are as written until `sorted` puts them in the order of their keys, each key once.
-/

namespace Logbook.Json

inductive Number where
  | integer (n : Int)
  | double (x : Float)
deriving DecidableEq, Repr

inductive Value where
  | null
  | bool (b : Bool)
  | number (n : Number)
  | string (s : String)
  | array (items : List Value)
  | object (members : List (String × Value))
deriving BEq, Repr, Inhabited

abbrev Members := List (String × Value)

namespace Members

def get? (members : Members) (key : String) : Option Value := members.lookup key

end Members

namespace Value

mutual

/-- The value with the members of every object in order, each key once. -/
def sorted : Value → Value
  | array items => array (sortedItems items)
  | object members => object (Keyed.ofList (sortedMembers members))
  | v => v

def sortedItems : List Value → List Value
  | [] => []
  | v :: rest => v.sorted :: sortedItems rest

def sortedMembers : List (String × Value) → List (String × Value)
  | [] => []
  | (k, v) :: rest => (k, v.sorted) :: sortedMembers rest

end

end Value

namespace Value

def integer (n : Int) : Value := number (.integer n)

def string? : Value → Option String
  | string s => some s
  | _ => none

def ofStrings (items : List String) : Value := array (items.map string)

def ofLabels (labels : List (String × String)) : Value :=
  object (labels.map fun (k, s) => (k, string s))

def labels? : Value → Option (List (String × String))
  | object members => members.mapM fun (m : String × Value) => m.2.string?.map fun s => (m.1, s)
  | _ => none

end Value

end Logbook.Json
