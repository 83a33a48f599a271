import Logbook.Text.Ranges
import Logbook.Text.CaseVariants

/-!
Sets of characters as patterns build them: ranges, complements, unions, intersections, and the
closure of a set under change of case. A set is only ever asked whether it has a character.
-/

namespace Logbook.Pattern

open Text (Ranges)

inductive CharSet where
  | ranges (r : Ranges)
  | complement (s : CharSet)
  | union (s t : CharSet)
  | inter (s t : CharSet)
  /-- With every character all that differ from it in case only. -/
  | folded (s : CharSet)
  /-- The same for ASCII letters alone. -/
  | asciiFolded (s : CharSet)
deriving DecidableEq, Repr

namespace CharSet

def empty : CharSet := ranges []

def just (c : Char) : CharSet := ranges [(c.toNat, c.toNat)]

def all : CharSet := complement empty

def asciiVariant (c : Char) : Char :=
  if c.isUpper then c.toLower else if c.isLower then c.toUpper else c

def has : CharSet → Char → Bool
  | ranges r, c => r.has c.toNat
  | complement s, c => !s.has c
  | union s t, c => s.has c || t.has c
  | inter s t, c => s.has c && t.has c
  | folded s, c => s.has c || (Text.variants c).any s.has
  | asciiFolded s, c => s.has c || s.has (asciiVariant c)

def difference (s t : CharSet) : CharSet := inter s (complement t)

def symmetricDifference (s t : CharSet) : CharSet := union (difference s t) (difference t s)

def complementIf (negated : Bool) (s : CharSet) : CharSet := if negated then complement s else s

/-- No character from U+0080 to U+00FF belongs to the set. -/
def avoidsHighBytes (s : CharSet) : Bool :=
  (List.range 128).all fun i => !s.has (Char.ofNat (128 + i))

end CharSet

end Logbook.Pattern
