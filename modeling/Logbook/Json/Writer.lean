import Logbook.Decimal.Shortest
import Logbook.Json.Value
import Logbook.Text.Digits

/-!
Writing JSON, on one line or spread over many. Only quotes, backslashes and control characters
are escaped. Doubles are written with the fewest digits and are never mistaken for integers:
they have a point or an exponent.
-/

namespace Logbook.Json

def escaped (c : Char) : List Char :=
  match c with
  | '"' => ['\\', '"']
  | '\\' => ['\\', '\\']
  | '\x08' => ['\\', 'b']
  | '\t' => ['\\', 't']
  | '\n' => ['\\', 'n']
  | '\x0C' => ['\\', 'f']
  | '\r' => ['\\', 'r']
  | c =>
    if c.toNat < 0x20 then
      ['\\', 'u', '0', '0', Text.hexChar (c.toNat / 16), Text.hexChar (c.toNat % 16)]
    else [c]

def quote (s : String) : List Char := '"' :: s.toList.flatMap escaped ++ ['"']

/-- A positive decimal; only moderate sizes are written without an exponent. -/
def decimal (d : Decimal) : List Char :=
  if -5 ≤ d.power ∧ d.power < 16 then d.positional else d.scientific

def doubleText (x : Float) : List Char :=
  let sign := if x.toBits.toNat < 0x8000000000000000 then [] else ['-']
  sign ++ (if x == 0.0 then ['0', '.', '0'] else decimal (Decimal.shortest x.abs))

def Number.text : Number → List Char
  | .integer n => (if n < 0 then ['-'] else []) ++ Nat.toDigits 10 n.natAbs
  | .double x => doubleText x

namespace Value

def boolText (b : Bool) : List Char := (if b then "true" else "false").toList

mutual

/-- On one line. -/
def compactChars : Value → List Char
  | null => ['n', 'u', 'l', 'l']
  | bool b => boolText b
  | number n => n.text
  | string s => quote s
  | array items => '[' :: compactItems items ++ [']']
  | object members => '\x7b' :: compactMembers members ++ ['\x7d']

def compactItems : List Value → List Char
  | [] => []
  | [v] => v.compactChars
  | v :: rest => v.compactChars ++ ',' :: compactItems rest

def compactMembers : List (String × Value) → List Char
  | [] => []
  | [(k, v)] => quote k ++ ':' :: v.compactChars
  | (k, v) :: rest => quote k ++ ':' :: v.compactChars ++ ',' :: compactMembers rest

end

def compact (v : Value) : String := String.ofList v.compactChars

/-- A new line at a level. -/
def newLine (level : Nat) : List Char := '\n' :: List.replicate (2 * level) ' '

mutual

/-- Over many lines, two spaces deeper at every level; what is empty stays on its line. -/
def prettyChars (level : Nat) : Value → List Char
  | null => ['n', 'u', 'l', 'l']
  | bool b => boolText b
  | number n => n.text
  | string s => quote s
  | array [] => ['[', ']']
  | array (v :: rest) => '[' :: prettyItems (level + 1) (v :: rest) ++ newLine level ++ [']']
  | object [] => ['\x7b', '\x7d']
  | object (m :: rest) =>
    '\x7b' :: prettyMembers (level + 1) (m :: rest) ++ newLine level ++ ['\x7d']

def prettyItems (level : Nat) : List Value → List Char
  | [] => []
  | [v] => newLine level ++ v.prettyChars level
  | v :: rest => newLine level ++ v.prettyChars level ++ ',' :: prettyItems level rest

def prettyMembers (level : Nat) : List (String × Value) → List Char
  | [] => []
  | [(k, v)] => newLine level ++ quote k ++ ':' :: ' ' :: v.prettyChars level
  | (k, v) :: rest =>
    newLine level ++ quote k ++ ':' :: ' ' :: v.prettyChars level ++ ',' ::
      prettyMembers level rest

end

def pretty (v : Value) : String := String.ofList (v.prettyChars 0)

end Value

end Logbook.Json
