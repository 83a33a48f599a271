import Logbook.Pattern.Program
import Logbook.Text.ByteRanges

/-!
The room that a pattern needs, in bytes, when it is laid out over the bytes of the text: a state
takes 32, an edge of a state that has several takes 4 or 8. A counted loop is laid out once for
each round it may have.
-/

namespace Logbook.Pattern

open Text (Ranges ByteRanges)

namespace CharSet

/-- The ranges of a set, ascending and apart. -/
def toRanges : CharSet → Ranges
  | ranges r => r
  | complement s => s.toRanges.complement
  | union s t => s.toRanges.union t.toRanges
  | inter s t => s.toRanges.inter t.toRanges
  | folded s =>
    let r := s.toRanges
    let more := Text.variantPairs.flatMap fun (a, b) =>
      (if r.has a then [(b, b)] else []) ++ (if r.has b then [(a, a)] else [])
    r.union more
  | asciiFolded s =>
    let r := s.toRanges
    let more := (List.range 26).flatMap fun i =>
      (if r.has (0x41 + i) then [(0x61 + i, 0x61 + i)] else []) ++
        (if r.has (0x61 + i) then [(0x41 + i, 0x41 + i)] else [])
    r.union more

end CharSet

/-- The room of one state. -/
def stateRoom : Nat := 32

/-- The room of a state with two ways on. -/
def forkRoom : Nat := stateRoom + 8

/-- A single character is a chain of states, a set of ASCII characters one state with an edge for
each range, and any other set a tree of states over the bytes. -/
def rangesRoom (r : Ranges) : Nat :=
  let sequences := ByteRanges.ofRanges r
  let tree := stateRoom * ByteRanges.edges sequences
  if r.isEmpty then stateRoom
  else if r.isSingle then tree
  else if r.all fun (_, hi) => hi < 0x80 then 2 * stateRoom + 8 * r.length
  else 2 * stateRoom + tree + 4 * sequences.length

namespace Node

def weight : Node → Nat
  | empty | assertion _ => stateRoom
  | chars s => rangesRoom s.toRanges
  | group _ body => 2 * stateRoom + body.weight
  | seq a b => a.weight + b.weight
  | alt a b => 2 * stateRoom + 8 + a.weight + b.weight
  | loop least most _ body =>
    match most, least with
    | some most, least =>
      least * body.weight + (most - least) * (forkRoom + body.weight) + stateRoom
    | none, least => max least 1 * body.weight + forkRoom

end Node

end Logbook.Pattern
