import Logbook.Text.Blank
import Logbook.Text.CaseRanges
import Logbook.Text.Property.Binary
import Logbook.Text.Property.Category
import Logbook.Text.Property.Script
import Logbook.Text.Property.ScriptExtension
import Logbook.Text.WordRanges

/-!
Properties of characters by their normalized names: yes-or-no properties, general categories,
scripts, and the scripts that use a character.
-/

namespace Logbook.Text.Property

def hexDigit (c : Char) : Nat := if c.isDigit then c.toNat - 48 else c.toNat - 55

def hexNumber (s : List Char) : Nat := s.foldl (fun n c => 16 * n + hexDigit c) 0

/-- Reads ranges such as `41-5A 61-7A AA`. -/
def rangesOf (text : String) : Ranges :=
  (words text.toList).map fun word =>
    match word.splitOn '-' with
    | [lo, hi] => (hexNumber lo, hexNumber hi)
    | _ => (hexNumber word, hexNumber word)

/-- The entry that has `name` among its names. -/
def named? {α : Type} (table : List (List String × α)) (name : String) : Option α :=
  (table.find? fun (names, _) => names.contains name).map (·.2)

def binary? (name : String) : Option Ranges :=
  if name ∈ ["alpha", "alphabetic"] then some alphabeticRanges
  else if name ∈ ["wspace", "whitespace", "space"] then some blankRanges
  else if name = "cased" then some casedRanges
  else if name ∈ ["ci", "caseignorable"] then some caseIgnorableRanges
  else (named? binaries name).map rangesOf

def category? (name : String) : Option Ranges := (named? categories name).map rangesOf

def categoryGroup? (name : String) : Option (List String) := named? categoryGroups name

def script? (name : String) : Option Ranges := (named? scripts name).map rangesOf

/-- The characters that a script uses, in two parts: its own, and those it shares. -/
def scriptExtension? (name : String) : Option (Ranges × Ranges) := do
  let (names, text) ← scripts.find? fun (names, _) => names.contains name
  let short := names.head?.getD name
  match unshared.lookup short with
  | some text => return (rangesOf text, [])
  | none => return (rangesOf text, ((sharedByScript.lookup short).map rangesOf).getD [])

end Logbook.Text.Property
