import Logbook.Rule.Basic

/-!
Templates: texts that refer to groups of a match by number or name, as `$1`, `$name` or
`${name}`, with `$$` for a dollar sign. Without braces a reference is as long as it can be.
-/

namespace Logbook.Rule

open Pattern (Match)

/-- A character of a reference without braces. -/
def isReferenceChar (c : Char) : Bool := c.isAlphanum || c == '_'

/-- A reference is a number if it is one of 64 bits, maybe with a plus sign, and else a name. -/
def groupNumber? (reference : List Char) : Option Nat :=
  let digits :=
    match reference with
    | '+' :: digits => digits
    | _ => reference
  (Text.nat? digits).filter (· < UInt64.size)

/-- The text of the group that is referred to; empty if there is none or it took no part. -/
def referenced (p : Pattern) (m : Match) (reference : List Char) : List Char :=
  match groupNumber? reference with
  | some i => m.group i
  | none =>
    match p.groupNamed? (String.ofList reference) with
    | some i => m.group i
    | none => []

/-- The reference behind a dollar sign, and what follows it. -/
def reference? : List Char → Option (List Char × List Char)
  | '\x7b' :: rest =>
    let (name, rest) := rest.span (· != '\x7d')
    match rest with
    | _ :: rest => some (name, rest)
    | [] => none
  | rest =>
    let name := rest.takeWhile isReferenceChar
    if name.isEmpty then none else some (name, rest.drop name.length)

/-- Puts the groups in; `n` bounds the number of steps. -/
def expandSteps (p : Pattern) (m : Match) : Nat → List Char → List Char
  | 0, _ => []
  | _ + 1, [] => []
  | n + 1, c :: rest =>
    if c != '$' then c :: expandSteps p m n rest
    else if rest.head? = some '$' then '$' :: expandSteps p m n (rest.drop 1)
    else
      match reference? rest with
      | some (name, rest) => referenced p m name ++ expandSteps p m n rest
      | none => '$' :: expandSteps p m n rest

def expand (p : Pattern) (m : Match) (template : List Char) : List Char :=
  expandSteps p m (template.length + 1) template

/-- What a template supplies: nothing if it is missing or expands to nothing. -/
def supplied (p : Pattern) (m : Match) (template : Option String) : Option String :=
  (template.map fun t => String.ofList (expand p m t.toList)).filter (· != "")

end Logbook.Rule
