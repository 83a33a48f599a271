import Logbook.Text.Utf8

/-!
The lines of a sequence of bytes. A line ends at a line feed, and a carriage return right before
it belongs to the end; text behind the last line feed is a line as well.
-/

namespace Logbook.Text

/-- The byte of a line feed. -/
def lineFeed : UInt8 := 10

def carriageReturn : UInt8 := 13

def withoutReturn (line : List UInt8) : List UInt8 :=
  if line.getLast? = some carriageReturn then line.dropLast else line

/-- Given the pieces between line feeds: only the last of them has no end of line. -/
def endLines : List (List UInt8) → List (List UInt8)
  | [] => []
  | [last] => if last.isEmpty then [] else [last]
  | line :: rest => withoutReturn line :: endLines rest

def byteLines (bytes : List UInt8) : List (List UInt8) := endLines (bytes.splitOn lineFeed)

/-- The texts of the lines, `none` for a line that is not UTF-8. -/
def lines (bytes : List UInt8) : List (Option String) := (byteLines bytes).map Utf8.decode?

/-- Bytes as the pieces between their line feeds: those that a line feed ends, and the last one. -/
structure Framing where
  ended : List (List UInt8)
  last : List UInt8
  noFeed_ended : ∀ piece ∈ ended, lineFeed ∉ piece
  noFeed_last : lineFeed ∉ last

namespace Framing

def bytes (f : Framing) : List UInt8 := f.ended.flatMap (· ++ [lineFeed]) ++ f.last

/-- The pieces without a carriage return at an end of line; a last one that is empty does not
count. -/
def segments (f : Framing) : List (List UInt8) :=
  f.ended.map withoutReturn ++ if f.last = [] then [] else [f.last]

end Framing

/-- Bytes that encode no text. -/
def IsBroken (segment : List UInt8) : Prop := ∀ text, Utf8.encode text ≠ segment

/-- A text that is one line with either end of line behind it. -/
structure IsLine (text : String) : Prop where
  noFeed : '\n' ∉ text.toList
  noReturn : text.toList.getLast? ≠ some '\r'

instance (text : String) : Decidable (IsLine text) :=
  decidable_of_iff ('\n' ∉ text.toList ∧ text.toList.getLast? ≠ some '\r')
    ⟨fun ⟨h₁, h₂⟩ => ⟨h₁, h₂⟩, fun ⟨h₁, h₂⟩ => ⟨h₁, h₂⟩⟩

end Logbook.Text
