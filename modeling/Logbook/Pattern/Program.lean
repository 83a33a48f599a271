import Logbook.Pattern.Node
import Std.Data.HashSet

/-!
Patterns as programs. A program is a list of steps that name their successors; where a step has
two, the first is tried first. A step that was taken at a place is never taken there again, so a
search needs no more steps than the program has, times the places in the text. Loops inside loops
are matched in this way, since their rounds could be shared out in too many ways.
-/

namespace Logbook.Pattern

inductive Step where
  | accept
  | chars (s : CharSet) (next : Nat)
  | assertion (a : Assertion) (next : Nat)
  | opening (index next : Nat)
  | closing (index next : Nat)
  | fork (first second : Nat)
deriving DecidableEq, Repr

abbrev Program := Array Step

namespace Node

/-- The node may match without reading. -/
def nullable : Node → Bool
  | empty | assertion _ => true
  | chars _ => false
  | group _ body => body.nullable
  | seq a b => a.nullable && b.nullable
  | alt a b => a.nullable || b.nullable
  | loop least _ _ body => least == 0 || body.nullable

/-- From some place the node may match in more than one way. -/
def branches : Node → Bool
  | empty | chars _ | assertion _ => false
  | group _ body => body.branches
  | seq a b => a.branches || b.branches
  | alt _ _ => true
  | loop least most _ body => most != some least || body.branches

/-- Some loop of several rounds can match each of them in more than one way. -/
def nests : Node → Bool
  | empty | chars _ | assertion _ => false
  | group _ body => body.nests
  | seq a b | alt a b => a.nests || b.nests
  | loop _ most _ body => (most != some 1 && body.branches) || body.nests

end Node

namespace Program

/-- Adds a step and answers with its number. -/
def add (s : Step) (p : Program) : Nat × Program := (p.size, p.push s)

def forkStep (greedy : Bool) (round leave : Nat) : Step :=
  if greedy then .fork round leave else .fork leave round

/-- Adds steps that may run on into `next`; the answer is the first of them. -/
abbrev Emit := Nat → Program → Nat × Program

def repeats (emit : Emit) : Nat → Emit
  | 0, next, p => (next, p)
  | n + 1, next, p =>
    let (entry, p) := emit next p
    repeats emit n entry p

/-- Up to `n` rounds, each of which may be the one to leave for `leave`. -/
def options (greedy : Bool) (emit : Emit) (leave : Nat) : Nat → Emit
  | 0, next, p => (next, p)
  | n + 1, next, p =>
    let (entry, p) := emit next p
    let (fork, p) := add (forkStep greedy entry leave) p
    options greedy emit leave n fork p

/-- One round or more: the first of them, and the fork behind each. -/
def rounds (greedy : Bool) (emit : Emit) (next : Nat) (p : Program) : Nat × Nat × Program :=
  let (fork, p) := add (.fork next next) p
  let (entry, p) := emit fork p
  (entry, fork, p.setIfInBounds fork (forkStep greedy entry next))

/-- Any number of rounds. If a round may read nothing the first one has a fork of its own. -/
def anyRounds (greedy nullable : Bool) (emit : Emit) (next : Nat) (p : Program) :
    Nat × Program :=
  let (entry, fork, p) := rounds greedy emit next p
  if nullable then add (forkStep greedy entry next) p else (fork, p)

def emit : Node → Emit
  | .empty, next, p => (next, p)
  | .chars s, next, p => add (.chars s next) p
  | .assertion a, next, p => add (.assertion a next) p
  | .group i body, next, p =>
    let (last, p) := add (.closing i next) p
    let (entry, p) := emit body last p
    add (.opening i entry) p
  | .seq a b, next, p =>
    let (entry, p) := emit b next p
    emit a entry p
  | .alt a b, next, p =>
    let (first, p) := emit a next p
    let (second, p) := emit b next p
    add (.fork first second) p
  | .loop least most greedy body, next, p =>
    match most, least with
    | some most, least =>
      let (entry, p) := options greedy (emit body) next (most - least) next p
      repeats (emit body) least entry p
    | none, 0 => anyRounds greedy body.nullable (emit body) next p
    | none, n + 1 =>
      let (entry, _, p) := rounds greedy (emit body) next p
      repeats (emit body) n entry p

/-- The program of a node and the number of its first step. -/
def ofNode (node : Node) : Nat × Program := emit node 0 #[.accept]

/-- A step to be taken, at a place, with the groups that were opened on the way. -/
structure Thread where
  step : Nat
  cursor : Cursor
  opened : List (Nat × Nat)

def Thread.close (t : Thread) (i next : Nat) : Thread :=
  let start := (t.opened.lookup i).getD t.cursor.pos
  let capture : Capture := ⟨i, start, t.cursor.pos⟩
  { t with step := next, cursor.captures := capture :: t.cursor.captures }

/-- Where a thread goes on, the preferred thread first. -/
def advance (s : Step) (t : Thread) : List Thread :=
  match s with
  | .accept => []
  | .chars s next =>
    match t.cursor.rest with
    | [] => []
    | c :: rest =>
      if s.has c then [{ t with step := next, cursor := ⟨t.cursor.pos + 1, some c, rest,
        t.cursor.captures⟩ }]
      else []
  | .assertion a next => if a.holds t.cursor then [{ t with step := next }] else []
  | .opening i next => [{ t with step := next, opened := (i, t.cursor.pos) :: t.opened }]
  | .closing i next => [t.close i next]
  | .fork first second => [{ t with step := first }, { t with step := second }]

/-- Takes the threads in turn, and after each the ones it goes on as. The steps taken are
remembered as `seen`. -/
def run (p : Program) : Nat → Std.HashSet (Nat × Nat) → List Thread →
    Option Cursor × Std.HashSet (Nat × Nat)
  | 0, seen, _ => (none, seen)
  | _ + 1, seen, [] => (none, seen)
  | fuel + 1, seen, t :: rest =>
    let place := (t.step, t.cursor.pos)
    if seen.contains place then run p fuel seen rest
    else
      match p[t.step]? with
      | none => run p fuel seen rest
      | some .accept => (some t.cursor, seen)
      | some s => run p fuel (seen.insert place) (advance s t ++ rest)

/-- Each step at each place adds two threads at most. -/
def fuel (p : Program) (rest : List Char) : Nat := 2 * p.size * (rest.length + 1) + 2

/-- The leftmost match at or after a place, with the place where it starts. What failed from an
earlier start fails from a later one. -/
def search (p : Program) (entry : Nat) (seen : Std.HashSet (Nat × Nat)) (pos : Nat)
    (before : Option Char) (rest : List Char) : Option (Nat × Cursor) :=
  match run p (fuel p rest) seen [⟨entry, ⟨pos, before, rest, []⟩, []⟩] with
  | (some cur, _) => some (pos, cur)
  | (none, seen) =>
    match rest with
    | [] => none
    | c :: rest => search p entry seen (pos + 1) (some c) rest

end Program

end Logbook.Pattern
