import Logbook.Query.Extraction
import Logbook.Text.Case
import Logbook.Text.Offset

/-!
Reading one stage of a pipeline. A known command is read as well as its arguments allow; only
an unknown word and a pattern that does not compile are errors.
-/

namespace Logbook.Query

open Text (trim cut? cutAt? cutLast? isBlank)

/-- Takes off one pair of quotes of the same kind around a text. -/
def stripQuotes (s : List Char) : List Char :=
  match s with
  | q :: rest =>
    if (q = '"' ∨ q = '\'') ∧ rest.getLast? = some q then rest.dropLast else s
  | [] => s

def readFields (rest : List Char) : List String := (listItems rest).map String.ofList

/-- An operator with what stands on its two sides. -/
def comparison? (rest : List Char) (op : Operator) : Option (Operator × List Char × List Char) :=
  (cut? op.spaced rest).map fun (field, value) => (op, trim field, value)

/-- The first operator in scan order decides, at its first occurrence. -/
def readFilter (rest : List Char) : Filter :=
  match Operator.scanOrder.findSome? (comparison? rest) with
  | some (op, field, value) =>
    ⟨String.ofList field, op, String.ofList (stripQuotes (trim value))⟩
  | none =>
    let (field, value) := (cutAt? (· == ' ') rest).getD (rest, [])
    ⟨String.ofList field, .equal, String.ofList (stripQuotes (trim value))⟩

/-- A step that has no result: a counter is taken below zero, or a text is cut at an offset that is no
place to cut at. -/
inductive Overrun where
  | counter
  | slice
deriving DecidableEq, Repr

/-- The part of a text between two offsets. -/
def slice (start stop : Nat) (s : List Char) : Except Overrun (List Char) :=
  match Text.slice? start stop s with
  | some part => .ok part
  | none => .error .slice

/-- The offset of the parenthesis that closes the last one that is open, where `depth` are open and
`offset` is that of the text. -/
def closesAt (depth offset : Nat) : List Char → Except Overrun (Option Nat)
  | [] => .ok none
  | c :: rest =>
    if c = '(' then closesAt (depth + 1) (offset + c.utf8Size) rest
    else if c = ')' then
      match depth with
      | 0 => .error .counter
      | 1 => .ok (some offset)
      | depth + 1 => closesAt depth (offset + c.utf8Size) rest
    else closesAt depth (offset + c.utf8Size) rest

/-- The offset of the parenthesis that closes the one at `opening`. -/
def matchingParen (s : List Char) (opening : Nat) : Except Overrun (Option Nat) := do
  let behind ← slice opening (Text.byteLength s) s
  closesAt 0 opening behind

/-- The parts of a call: what stands before the first parenthesis, and between it and the one that
closes it, if there are both. -/
def callParts (aggregation : List Char) : Except Overrun (Option (List Char × List Char)) :=
  match Text.offsetOf? '(' aggregation with
  | none => .ok none
  | some opening => do
    match ← matchingParen aggregation opening with
    | none => return none
    | some closing =>
      let function ← slice 0 opening aggregation
      let field ← slice (opening + 1) closing aggregation
      return some (trim function, trim field)

/-- A function and its argument; all of the text is the function if it is no call. -/
def readCall (aggregation : List Char) : String × String :=
  match callParts aggregation with
  | .ok (some (function, field)) => (String.ofList function, String.ofList field)
  | .ok none | .error _ => (String.ofList aggregation, "")

def readStats (rest : List Char) : Stats :=
  let (aggregation, groups) :=
    match cut? " by ".toList rest with
    | some (aggregation, groups) => (trim aggregation, readFields groups)
    | none => (rest, [])
  let (function, field) := readCall aggregation
  ⟨function, field, groups⟩

def readSort (rest : List Char) : Sorting :=
  match Text.words rest with
  | [] => ⟨"", "asc"⟩
  | [field] => ⟨String.ofList field, "asc"⟩
  | field :: direction :: _ => ⟨String.ofList field, String.ofList (Text.lower direction)⟩

/-- The page size where none is asked for, or none that can be used. -/
def defaultLimit : Nat := 20

/-- A text without the plus sign that it may begin with. -/
def unsigned : List Char → List Char
  | '+' :: rest => rest
  | rest => rest

/-- The digits at the front count, after at most one plus sign. A number that 32 bits do not hold
is none, and neither is zero. -/
def readLimit (rest : List Char) : Nat :=
  let count := Text.nat32? ((unsigned rest).takeWhile Char.isDigit)
  (count.filter (0 < ·)).getD defaultLimit

/-- The names stand behind the last ` as `, so a pattern in quotes may hold the word. -/
def readParse (rest : List Char) : Extraction :=
  let (main, names) :=
    match cutLast? " as ".toList rest with
    | some (main, names) => (trim main, trim names)
    | none => (rest, [])
  let (field, written) :=
    match cutAt? (· == ' ') main with
    | some (field, written) => (trim field, trim written)
    | none => (main, [])
  let pattern := stripQuotes written
  ⟨String.ofList field, String.ofList pattern, String.ofList names,
    pattern == written && (regexLiteral? written).isSome⟩

/-- The keyword of a trimmed stage and what follows it. -/
def cutKeyword (stage : List Char) : List Char × List Char :=
  match cutAt? isBlank stage with
  | some (keyword, rest) => (keyword, trim rest)
  | none => (stage, [])

/-- The command that a keyword in lower case makes of its arguments. -/
def readArguments (keyword : String) (rest : List Char) : Except Error Command :=
  match keyword with
  | "fields" => .ok (.fields (readFields rest))
  | "filter" => .ok (.filter (readFilter rest))
  | "stats" => .ok (.stats (readStats rest))
  | "sort" => .ok (.sort (readSort rest))
  | "limit" => .ok (.limit (readLimit rest))
  | "parse" =>
    let e := readParse rest
    match e.compile with
    | .ok _ => .ok (.parse e)
    | .error err => .error err
  | other => .error (.unknownCommand other)

/-- The command of a trimmed stage. -/
def readStage (stage : List Char) : Except Error Command :=
  let (keyword, rest) := cutKeyword stage
  readArguments (String.ofList (Text.lower keyword)) rest

end Logbook.Query
