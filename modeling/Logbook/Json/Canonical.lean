import Logbook.Json.Value
import Mathlib.Algebra.Group.Int.Defs

/-!
The numbers inside a value, and how deep it nests. A canonical value is one that values in memory
take: the members of every object in order, and no integer out of range.
-/

namespace Logbook.Json

namespace Number

/-- Integers have 64 bits, with a sign or without. -/
def Fits : Number → Prop
  | integer n => -2 ^ 63 ≤ n ∧ n < 2 ^ 64
  | double _ => True

def IsInteger : Number → Prop
  | integer _ => True
  | double _ => False

instance : DecidablePred Fits
  | integer n => inferInstanceAs (Decidable (-2 ^ 63 ≤ n ∧ n < 2 ^ 64))
  | double _ => inferInstanceAs (Decidable True)

instance : DecidablePred IsInteger
  | integer _ => inferInstanceAs (Decidable True)
  | double _ => inferInstanceAs (Decidable False)

end Number

namespace Value

mutual

def numbers : Value → List Number
  | number n => [n]
  | array items => itemNumbers items
  | object members => memberNumbers members
  | _ => []

def itemNumbers : List Value → List Number
  | [] => []
  | v :: rest => v.numbers ++ itemNumbers rest

def memberNumbers : List (String × Value) → List Number
  | [] => []
  | (_, v) :: rest => v.numbers ++ memberNumbers rest

end

mutual

/-- How many arrays and objects lie around the innermost one, itself counted. -/
def depth : Value → Nat
  | array items => itemDepth items + 1
  | object members => memberDepth members + 1
  | _ => 0

def itemDepth : List Value → Nat
  | [] => 0
  | v :: rest => max v.depth (itemDepth rest)

def memberDepth : List (String × Value) → Nat
  | [] => 0
  | (_, v) :: rest => max v.depth (memberDepth rest)

end

structure IsCanonical (v : Value) : Prop where
  sorted : v.sorted = v
  fits : ∀ n ∈ v.numbers, n.Fits

/-- No number is a double. -/
def FloatFree (v : Value) : Prop := ∀ n ∈ v.numbers, n.IsInteger

instance (v : Value) : Decidable v.FloatFree :=
  inferInstanceAs (Decidable (∀ n ∈ v.numbers, n.IsInteger))

end Value

/-- Members in order, each key once, with canonical values. -/
structure Members.IsCanonical (members : Members) : Prop where
  ordered : Keyed.IsOrdered members
  values : ∀ m ∈ members, m.2.IsCanonical

end Logbook.Json
