import Logbook.Query.Pipeline
import Mathlib.Algebra.Group.Nat.Defs
import Mathlib.Data.List.Infix

/-!
Commands as they are written in a query: the keyword, then the arguments, with values and
patterns in quotes. A command can be written if none of its parts could be mistaken for one of
the marks between them.
-/

namespace Logbook.Query

open Text (IsTrimmed)

namespace Command

def writtenList (names : List String) : List Char :=
  [',', ' '].intercalate (names.map String.toList)

def inQuotes (s : String) : List Char := '"' :: s.toList ++ ['"']

def arguments : Command → List Char
  | fields names => writtenList names
  | filter f => f.field.toList ++ (f.operator.spaced ++ inQuotes f.value)
  | stats s =>
    s.function.toList ++ '(' :: (s.field.toList ++ [')']) ++
      if s.groupBy.isEmpty then [] else " by ".toList ++ writtenList s.groupBy
  | sort s => s.field.toList ++ ' ' :: s.direction.toList
  | limit count => Nat.toDigits 10 count
  | parse e => e.field.toList ++ ' ' :: inQuotes e.pattern ++ (" as ".toList ++ e.nameList.toList)

def written (c : Command) : List Char := c.kind.toList ++ ' ' :: c.arguments

end Command

/-- The query that has these commands for its stages. -/
def writtenQuery (commands : List Command) : String :=
  String.ofList ([' ', '|', ' '].intercalate (commands.map Command.written))

/-- An extraction by a pattern in quotation marks, with no names behind it. -/
def unnamedArguments (field pattern : String) : List Char :=
  field.toList ++ ' ' :: Command.inQuotes pattern

def unnamedQuery (field pattern : String) : String :=
  String.ofList ("parse".toList ++ ' ' :: unnamedArguments field pattern)

/-- An item of a list: not empty, trimmed, and without commas. -/
structure IsItem (name : String) : Prop where
  nonempty : name ≠ ""
  trimmed : IsTrimmed name.toList
  noComma : ',' ∉ name.toList

instance (name : String) : Decidable (IsItem name) :=
  decidable_of_iff (name ≠ "" ∧ IsTrimmed name.toList ∧ ',' ∉ name.toList)
    ⟨fun ⟨h₁, h₂, h₃⟩ => ⟨h₁, h₂, h₃⟩, fun ⟨h₁, h₂, h₃⟩ => ⟨h₁, h₂, h₃⟩⟩

/-- A word: not empty and without white space. -/
structure IsWord (name : String) : Prop where
  nonempty : name ≠ ""
  noBlank : ∀ c ∈ name.toList, Text.isBlank c = false

instance (name : String) : Decidable (IsWord name) :=
  decidable_of_iff (name ≠ "" ∧ name.toList.all fun c => !Text.isBlank c)
    ⟨fun ⟨h₁, h₂⟩ => ⟨h₁, by simpa using h₂⟩, fun ⟨h₁, h₂⟩ => ⟨h₁, by simpa using h₂⟩⟩

/-- Every parenthesis that closes has one before it that it closes, and none stays open. -/
structure IsBalanced (s : List Char) : Prop where
  opened : ∀ t, t <+: s → t.count ')' ≤ t.count '('
  closed : s.count ')' = s.count '('

instance (s : List Char) : Decidable (IsBalanced s) :=
  decidable_of_iff ((∀ t ∈ s.inits, t.count ')' ≤ t.count '(') ∧ s.count ')' = s.count '(')
    ⟨fun ⟨h₁, h₂⟩ => ⟨fun t ht => h₁ t ((List.mem_inits t s).mpr ht), h₂⟩,
      fun ⟨h₁, h₂⟩ => ⟨fun t ht => h₁ t ((List.mem_inits t s).mp ht), h₂⟩⟩

/-- From one offset through the byte at a later one as many parentheses close as open. -/
def ClosesThrough (s : List Char) (opening closing : Nat) : Prop :=
  opening < closing ∧ ∃ part, Text.slice? opening (closing + 1) s = some part ∧
    part.count ')' = part.count '('

/-- No operator that is looked for earlier stands in the value. -/
structure Filter.IsWritable (f : Filter) : Prop where
  field : IsWord f.field
  value : ∀ op ∈ Operator.scanOrder.takeWhile (· ≠ f.operator), ¬ op.spaced <:+: f.value.toList

instance (f : Filter) : Decidable f.IsWritable :=
  decidable_of_iff (IsWord f.field ∧ ∀ op ∈ Operator.scanOrder.takeWhile (· ≠ f.operator),
      ¬ op.spaced <:+: f.value.toList)
    ⟨fun ⟨h₁, h₂⟩ => ⟨h₁, h₂⟩, fun ⟨h₁, h₂⟩ => ⟨h₁, h₂⟩⟩

structure Stats.IsWritable (s : Stats) : Prop where
  function : IsTrimmed s.function.toList
  functionNoBy : ¬ " by ".toList <:+: s.function.toList
  functionNoParen : '(' ∉ s.function.toList
  field : IsTrimmed s.field.toList
  fieldNoBy : ¬ " by ".toList <:+: s.field.toList
  fieldBalanced : IsBalanced s.field.toList
  groups : ∀ g ∈ s.groupBy, IsItem g

instance (s : Stats) : Decidable s.IsWritable :=
  decidable_of_iff (IsTrimmed s.function.toList ∧ ¬ " by ".toList <:+: s.function.toList ∧
      '(' ∉ s.function.toList ∧ IsTrimmed s.field.toList ∧ ¬ " by ".toList <:+: s.field.toList ∧
      IsBalanced s.field.toList ∧ ∀ g ∈ s.groupBy, IsItem g)
    ⟨fun ⟨h₁, h₂, h₃, h₄, h₅, h₆, h₇⟩ => ⟨h₁, h₂, h₃, h₄, h₅, h₆, h₇⟩,
      fun ⟨h₁, h₂, h₃, h₄, h₅, h₆, h₇⟩ => ⟨h₁, h₂, h₃, h₄, h₅, h₆, h₇⟩⟩

/-- The direction is in lower case already. -/
structure Sorting.IsWritable (s : Sorting) : Prop where
  field : IsWord s.field
  direction : IsWord s.direction
  lower : Text.lower s.direction.toList = s.direction.toList

instance (s : Sorting) : Decidable s.IsWritable :=
  decidable_of_iff (IsWord s.field ∧ IsWord s.direction ∧
      Text.lower s.direction.toList = s.direction.toList)
    ⟨fun ⟨h₁, h₂, h₃⟩ => ⟨h₁, h₂, h₃⟩, fun ⟨h₁, h₂, h₃⟩ => ⟨h₁, h₂, h₃⟩⟩

/-- A glob whose pattern is not too large, with names behind which no further ` as ` stands. -/
structure Extraction.IsWritable (e : Extraction) : Prop where
  field : IsWord e.field
  glob : e.isRegex = false
  fits : Pattern.compile e.source ≠ .error .tooBig
  nonempty : e.nameList ≠ ""
  trimmed : IsTrimmed e.nameList.toList
  noAs : ¬ " as ".toList <:+: ' ' :: e.nameList.toList

instance (e : Extraction) : Decidable e.IsWritable :=
  decidable_of_iff (IsWord e.field ∧ e.isRegex = false ∧
      Pattern.compile e.source ≠ .error .tooBig ∧ e.nameList ≠ "" ∧ IsTrimmed e.nameList.toList ∧
      ¬ " as ".toList <:+: ' ' :: e.nameList.toList)
    ⟨fun ⟨h₁, h₂, h₃, h₄, h₅, h₆⟩ => ⟨h₁, h₂, h₃, h₄, h₅, h₆⟩,
      fun ⟨h₁, h₂, h₃, h₄, h₅, h₆⟩ => ⟨h₁, h₂, h₃, h₄, h₅, h₆⟩⟩

def Command.HasWritableParts : Command → Prop
  | fields names => ∀ name ∈ names, IsItem name
  | filter f => f.IsWritable
  | stats s => s.IsWritable
  | sort s => s.IsWritable
  | limit count => 1 ≤ count ∧ count < 2 ^ 32
  | parse e => e.IsWritable

instance : (c : Command) → Decidable c.HasWritableParts
  | .fields names => inferInstanceAs (Decidable (∀ name ∈ names, IsItem name))
  | .filter f => inferInstanceAs (Decidable f.IsWritable)
  | .stats s => inferInstanceAs (Decidable s.IsWritable)
  | .sort s => inferInstanceAs (Decidable s.IsWritable)
  | .limit count => inferInstanceAs (Decidable (1 ≤ count ∧ count < 2 ^ 32))
  | .parse e => inferInstanceAs (Decidable e.IsWritable)

/-- No part holds a vertical bar, and each fits in its place. -/
structure Command.IsWritable (c : Command) : Prop where
  noBar : '|' ∉ c.written
  parts : c.HasWritableParts

instance (c : Command) : Decidable c.IsWritable :=
  decidable_of_iff ('|' ∉ c.written ∧ c.HasWritableParts)
    ⟨fun ⟨h₁, h₂⟩ => ⟨h₁, h₂⟩, fun ⟨h₁, h₂⟩ => ⟨h₁, h₂⟩⟩

end Logbook.Query
