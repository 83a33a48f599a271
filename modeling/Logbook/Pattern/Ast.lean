import Logbook.Pattern.Fault

/-!
Patterns as they are written: the tree of a pattern's text, with the places that a fault
found later may have to point at.
-/

namespace Logbook.Pattern

inductive Flag where
  | caseless
  | multiline
  | dotAll
  | swapGreed
  | unicode
  | crlf
  | verbose
deriving DecidableEq, Repr

/-- Flags switched on or off, in the order written; the first word on a flag counts. -/
abbrev FlagChange := List (Flag × Bool)

inductive Look where
  | lineStart
  | lineEnd
  | textStart
  | textEnd
  | word
  | notWord
  | wordStart
  | wordEnd
  | wordStartHalf
  | wordEndHalf
deriving DecidableEq, Repr

/-- A character; `isByte` when it was written with exactly two hexadecimal digits. -/
structure Literal where
  span : Span
  char : Char
  isByte : Bool
deriving DecidableEq, Repr

/-- The classes `\d`, `\s` and `\w`. -/
inductive Shorthand where
  | digit
  | space
  | word
deriving DecidableEq, Repr

/-- The classes that are named inside brackets, as in `[[:alpha:]]`. -/
inductive PosixClass where
  | alnum | alpha | ascii | blank | cntrl | digit | graph
  | lower | print | punct | space | upper | word | xdigit
deriving DecidableEq, Repr

/-- A property of characters as asked for by `\p`. -/
inductive PropertyQuery where
  | letter (c : Char)
  | named (name : List Char)
  | valued (name value : List Char)
deriving DecidableEq, Repr

inductive SetOperation where
  | intersection
  | difference
  | symmetricDifference
deriving DecidableEq, Repr

mutual

inductive ClassItem where
  | empty (span : Span)
  | literal (l : Literal)
  | range (span : Span) (lo hi : Literal)
  | posix (span : Span) (negated : Bool) (kind : PosixClass)
  | property (span : Span) (negated : Bool) (query : PropertyQuery)
  | shorthand (span : Span) (negated : Bool) (kind : Shorthand)
  | bracketed (span : Span) (negated : Bool) (set : ClassSet)
  | union (span : Span) (items : List ClassItem)

inductive ClassSet where
  | item (i : ClassItem)
  | operation (span : Span) (op : SetOperation) (lhs rhs : ClassSet)

end

inductive GroupKind where
  | capture (index : Nat) (name : Option (List Char))
  | plain (flags : FlagChange)
deriving DecidableEq, Repr

inductive Ast where
  | empty
  | flags (change : FlagChange)
  | literal (l : Literal)
  | dot (span : Span)
  | look (span : Span) (kind : Look)
  | property (span : Span) (negated : Bool) (query : PropertyQuery)
  | shorthand (span : Span) (negated : Bool) (kind : Shorthand)
  | bracketed (span : Span) (negated : Bool) (set : ClassSet)
  | repetition (span : Span) (least : Nat) (most : Option Nat) (greedy : Bool) (body : Ast)
  | group (span : Span) (kind : GroupKind) (body : Ast)
  | alternation (span : Span) (branches : List Ast)
  | concat (span : Span) (parts : List Ast)

end Logbook.Pattern
