import Logbook.Decimal.Shortest
import Logbook.Rule.Settings
import Logbook.Text.Quoted
import Logbook.Toml.Document

/-!
Rules files: TOML with an array `rules`. What is wrong with a file is told by the first value
that does not fit, in the order of keys.
-/

namespace Logbook.Rule

open Toml (Value)

/-- What a rules file may hold at a place. -/
inductive Expected where
  | text
  | flag
  | sequence
  | map
  | rule
deriving DecidableEq, Repr

inductive FileFault where
  | wrongType (found : Value) (expected : Expected)
  | wrongLength (found : Nat)
  | missingField (name : String)
  | integerTooLarge
  | doubleTooLarge
deriving Repr

namespace Expected

def name : Expected → String
  | text => "a string"
  | flag => "a boolean"
  | sequence => "a sequence"
  | map => "a map"
  | rule => "struct RuleConfig"

end Expected

/-- A double without an exponent, with a point in any case. -/
def doubleText (x : Float) : String :=
  if x.isNaN then "NaN"
  else
    let sign := if x.toBits.toNat < 0x8000000000000000 then "" else "-"
    if x.isInf then sign ++ "inf"
    else if x == 0.0 then sign ++ "0.0"
    else sign ++ String.ofList (Decimal.shortest x.abs).positional

/-- Bounds of integers. -/
def twoTo (n : Nat) : Int := Nat.pow 2 n

def integerText (n : Int) : String :=
  let text := toString n
  if -twoTo 63 ≤ n ∧ n < twoTo 64 then "integer `" ++ text ++ "`"
  else if n < twoTo 127 then "integer `" ++ text ++ "` as i128"
  else "integer `" ++ text ++ "` as u128"

/-- How a value is named in a report. -/
def foundText : Value → String
  | .string s => "string " ++ Text.quoted s
  | .integer n => integerText n
  | .double x => "floating point `" ++ (x.map doubleText).getD "" ++ "`"
  | .boolean b => "boolean `" ++ (if b then "true" else "false") ++ "`"
  | .datetime _ | .table _ => "map"
  | .array _ => "sequence"

def FileFault.message : FileFault → String
  | wrongType found expected =>
    "invalid type: " ++ foundText found ++ ", expected " ++ expected.name
  | wrongLength n =>
    "invalid length " ++ toString n ++ ", expected struct RuleConfig with 8 elements"
  | missingField name => "missing field `" ++ name ++ "`"
  | integerTooLarge => "integer number overflowed"
  | doubleTooLarge => "floating-point number overflowed"

/-- A number that is too large is a fault wherever it stands. -/
def sized (v : Value) : Except FileFault Unit :=
  match v with
  | .integer n => if -twoTo 127 ≤ n ∧ n < twoTo 128 then .ok () else .error .integerTooLarge
  | .double none => .error .doubleTooLarge
  | _ => .ok ()

def wrong {α : Type} (v : Value) (expected : Expected) : Except FileFault α := do
  sized v
  throw (.wrongType v expected)

def readText : Value → Except FileFault String
  | .string s => .ok s
  | v => wrong v .text

def readFlag : Value → Except FileFault Bool
  | .boolean b => .ok b
  | v => wrong v .flag

/-- Where a table is asked for, a date or time passes for one with a single member. -/
def readTexts : Value → Except FileFault (List (String × String))
  | .table ms => ms.mapM fun (m : String × Value) => do return (m.1, ← readText m.2)
  | .datetime text => .ok [("$__toml_private_datetime", text)]
  | v => wrong v .map

mutual

/-- What means nothing may hold anything but numbers that are too large. -/
def passOver : Value → Except FileFault Unit
  | .array items => passOverItems items
  | .table ms => passOverMembers ms
  | v => sized v

def passOverItems : List Value → Except FileFault Unit
  | [] => .ok ()
  | v :: rest => do
    passOver v
    passOverItems rest

def passOverMembers : List (String × Value) → Except FileFault Unit
  | [] => .ok ()
  | (_, v) :: rest => do
    passOver v
    passOverMembers rest

end

/-- The fields of a rule as far as they are known. -/
structure Fields where
  name : Option String
  pattern : Option String
  rest : Settings

namespace Fields

def start : Fields := ⟨none, none, ⟨"", "", true, none, none, none, none, []⟩⟩

def fieldNames : List String :=
  ["name", "pattern", "enabled", "level", "message", "service", "timestamp", "metadata"]

def read (s : Fields) (field : String) (v : Value) : Except FileFault Fields :=
  match field with
  | "name" => do return { s with name := some (← readText v) }
  | "pattern" => do return { s with pattern := some (← readText v) }
  | "enabled" => do return { s with rest.enabled := ← readFlag v }
  | "level" => do return { s with rest.level := some (← readText v) }
  | "message" => do return { s with rest.message := some (← readText v) }
  | "service" => do return { s with rest.service := some (← readText v) }
  | "timestamp" => do return { s with rest.timestamp := some (← readText v) }
  | "metadata" => do return { s with rest.metadata := ← readTexts v }
  | _ => do
    passOver v
    return s

def finish (s : Fields) : Except FileFault Settings :=
  match s.name, s.pattern with
  | some name, some pattern => .ok { s.rest with name, pattern }
  | none, _ => .error (.missingField "name")
  | _, none => .error (.missingField "pattern")

end Fields

/-- A rule is a table, or an array of the fields in order, of which only the first two must be
there. -/
def readRule : Value → Except FileFault Settings
  | .table ms => do
    let s ← ms.foldlM (fun (s : Fields) (m : String × Value) => s.read m.1 m.2) Fields.start
    s.finish
  | .datetime _ => Fields.start.finish
  | .array items => do
    let s ← (Fields.fieldNames.zip items).foldlM
      (fun (s : Fields) (m : String × Value) => s.read m.1 m.2) Fields.start
    if items.length < 2 then throw (.wrongLength items.length)
    s.finish
  | v => wrong v .rule

def readMember (rules : List Settings) (m : String × Value) : Except FileFault (List Settings) :=
  if m.1 = "rules" then
    match m.2 with
    | .array items => items.mapM readRule
    | v => wrong v .sequence
  else do
    passOver m.2
    return rules

inductive FileError where
  | notToml
  | fault (f : FileFault)
deriving Repr

/-- The rules that a file defines, in order. -/
def readRules (text : String) : Except FileError (List Settings) :=
  match Toml.read? text with
  | none => .error .notToml
  | some members => (members.foldlM readMember []).mapError .fault

end Logbook.Rule
