import Logbook.Pattern.Basic

/-!
What a pattern reads, apart from how it is searched for: the texts that some way through it spells,
and what its groups capture on that way.
-/

namespace Logbook.Pattern

/-- Texts under the numbers of the groups that captured them, the latest first. -/
abbrev Captured := List (Nat × List Char)

/-- A number of rounds one behind the other, each of which reads and captures as `round` says. -/
inductive Rounds (round : List Char → Captured → Prop) : Nat → List Char → Captured → Prop where
  | zero : Rounds round 0 [] []
  | succ {n : Nat} {w w' : List Char} {t t' : Captured} (first : round w t)
      (others : Rounds round n w' t') : Rounds round (n + 1) (w ++ w') (t' ++ t)

namespace Node

/-- Some way through the node reads the text and makes the captures. Assertions read nothing, and
what they ask of the text around them is left open. -/
def Spells : Node → List Char → Captured → Prop
  | empty, w, t => w = [] ∧ t = []
  | chars s, w, t => ∃ c, s.has c = true ∧ w = [c] ∧ t = []
  | assertion _, w, t => w = [] ∧ t = []
  | group i body, w, t => ∃ t', body.Spells w t' ∧ t = (i, w) :: t'
  | seq a b, w, t => ∃ w₁ w₂ t₁ t₂,
    a.Spells w₁ t₁ ∧ b.Spells w₂ t₂ ∧ w = w₁ ++ w₂ ∧ t = t₂ ++ t₁
  | alt a b, w, t => a.Spells w t ∨ b.Spells w t
  | loop least most _ body, w, t =>
    ∃ n, least ≤ n ∧ (∀ m ∈ most, n ≤ max least m) ∧ Rounds body.Spells n w t

/-- Some way through the node reads the text. -/
def Reads (node : Node) (w : List Char) : Prop := ∃ t, node.Spells w t

end Node

/-- The texts of captures that were made in a text. -/
def capturedIn (text : List Char) (captures : List Capture) : Captured :=
  captures.map fun c => (c.index, (text.drop c.start).take (c.stop - c.start))

/-- What the groups of a match captured. -/
def Match.captured (m : Match) : Captured := capturedIn m.text m.captures

end Logbook.Pattern
