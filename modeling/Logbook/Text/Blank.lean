import Logbook.Text.Ranges

/-!
White space: the 25 characters of the property White_Space, seven of them ends of lines. Trimming
removes them from the ends of a text, `pieces` does so between separators, and `words` cuts a text at every
run of them.
-/

namespace Logbook.Text

def blankRanges : Ranges :=
  [(0x09, 0x0D), (0x20, 0x20), (0x85, 0x85), (0xA0, 0xA0), (0x1680, 0x1680), (0x2000, 0x200A),
   (0x2028, 0x2029), (0x202F, 0x202F), (0x205F, 0x205F), (0x3000, 0x3000)]

def isBlank (c : Char) : Bool := blankRanges.has c.toNat

/-- The characters that end a line. -/
def lineBreakRanges : Ranges := [(0x0A, 0x0D), (0x85, 0x85), (0x2028, 0x2029)]

def isLineBreak (c : Char) : Bool := lineBreakRanges.has c.toNat

/-- Nothing in the text ends a line. -/
def IsOneLine (s : List Char) : Prop := ∀ c ∈ s, isLineBreak c = false

instance (s : List Char) : Decidable (IsOneLine s) := List.decidableBAll _ s

def trimStart (s : List Char) : List Char := s.dropWhile isBlank

def trimEnd (s : List Char) : List Char := (s.reverse.dropWhile isBlank).reverse

def trim (s : List Char) : List Char := trimEnd (trimStart s)

/-- No white space stands at either end. -/
def IsTrimmed (s : List Char) : Prop := trim s = s

instance (s : List Char) : Decidable (IsTrimmed s) := inferInstanceAs (Decidable (trim s = s))

/-- The trimmed texts between the occurrences of a character, without blank ones. -/
def pieces (sep : Char) (s : List Char) : List (List Char) :=
  ((s.splitOn sep).map trim).filter fun piece => !piece.isEmpty

/-- The runs of characters between white space, none of them empty. -/
def words (s : List Char) : List (List Char) :=
  (s.splitOnP isBlank).filter (fun w => !w.isEmpty)

/-- The words joined by single spaces. -/
def collapse (s : List Char) : List Char := [' '].intercalate (words s)

end Logbook.Text
