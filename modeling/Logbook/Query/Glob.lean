import Logbook.Query.Extraction

/-!
What a glob says, apart from the pattern that it is read as: which texts its stars may stand for,
and which of them they are.
-/

namespace Logbook.Query

namespace Glob

/-- The pieces of a glob, with texts in the gaps between them. -/
def fill : List (List Char) → List (List Char) → List Char
  | p :: pieces, c :: fills => p ++ (c ++ fill pieces fills)
  | p :: _, [] => p
  | [], _ => []

/-- A text for each gap between the pieces, none of which goes over the end of a line. -/
structure IsFilling (pieces fills : List (List Char)) : Prop where
  length_eq : fills.length + 1 = pieces.length
  inLine : ∀ c ∈ fills, '\n' ∉ c

/-- The glob, filled like this, stands at the start of the text. -/
def Stands (pieces fills : List (List Char)) (text : List Char) : Prop :=
  IsFilling pieces fills ∧ fill pieces fills <+: text

/-- The glob, filled somehow, stands somewhere in the text. -/
def Occurs (pieces : List (List Char)) (text : List Char) : Prop :=
  ∃ fills, IsFilling pieces fills ∧ fill pieces fills <:+: text

/-- Of all texts but the last, the first whose lengths differ decides, and the shorter is taken;
after that the last decides, and the longer is taken. -/
def Precedes (fills others : List (List Char)) : Prop :=
  fills.dropLast.map List.length < others.dropLast.map List.length ∨
    fills.dropLast.map List.length = others.dropLast.map List.length ∧
      ∃ c ∈ fills.getLast?, ∃ d ∈ others.getLast?, d.length < c.length

/-- Where the glob stands first, and how it is filled there. -/
structure Chosen (pieces fills : List (List Char)) (text : List Char) (start : Nat) : Prop where
  start_le : start ≤ text.length
  stands : Stands pieces fills (text.drop start)
  leftmost : ∀ n < start, ∀ others, ¬ Stands pieces others (text.drop n)
  first : ∀ others, Stands pieces others (text.drop start) → others ≠ fills → Precedes fills others

end Glob

namespace Extraction

/-- The pattern is not one written between slashes. -/
def IsGlob (e : Extraction) : Prop := e.isRegex = true → regexLiteral? e.pattern.toList = none

instance (e : Extraction) : Decidable e.IsGlob :=
  inferInstanceAs (Decidable (e.isRegex = true → regexLiteral? e.pattern.toList = none))

/-- The texts around the stars of the glob. -/
def pieces (e : Extraction) : List (List Char) := e.pattern.toList.splitOn '*'

/-- What a glob with a name for each of its stars captures in a text. -/
structure CapturesGlob (e : Extraction) (text : List Char) (values : List (String × String)) :
    Prop where
  complete : (∀ name ∈ e.names, (values.lookup name).isSome) ↔ Glob.Occurs e.pieces text
  nothing : ¬ Glob.Occurs e.pieces text → values = []
  /-- Each name has the text of its star. A star at the end of the glob takes the rest of the line. -/
  chosen : Glob.Occurs e.pieces text → ∃ start fills, Glob.Chosen e.pieces fills text start ∧
    values.map Prod.fst = e.names ∧
    e.names.map (values.lookup ·) = fills.map (fun c => some (String.ofList c)) ∧
    (e.pattern.toList.getLast? = some '*' →
      ∀ c ∈ (text.drop (start + (Glob.fill e.pieces fills).length)).head?, c = '\n')

end Extraction

end Logbook.Query
