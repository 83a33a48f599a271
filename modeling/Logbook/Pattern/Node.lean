import Logbook.Pattern.CharSet
import Logbook.Pattern.Ast
import Logbook.Text.WordRanges

/-!
Patterns as they are matched. A match is searched by trying alternatives in order and taking
the first that lets the rest of the pattern match; a greedy loop tries one more round first, a
lazy one tries to leave first. Of all places where a match can begin the leftmost is taken.
-/

namespace Logbook.Pattern

inductive Assertion where
  | textStart
  | textEnd
  /-- At the start, or behind a line feed; with `crlf`, behind a carriage return as well. -/
  | lineStart (crlf : Bool)
  | lineEnd (crlf : Bool)
  /-- A boundary of words, over ASCII letters alone if `ascii`. -/
  | boundary (kind : Look) (ascii : Bool)
deriving DecidableEq, Repr

inductive Node where
  | empty
  | chars (s : CharSet)
  | assertion (a : Assertion)
  | group (index : Nat) (body : Node)
  | seq (a b : Node)
  | alt (a b : Node)
  | loop (least : Nat) (most : Option Nat) (greedy : Bool) (body : Node)
deriving DecidableEq, Repr

/-- A capture: the group, and the places where it starts and stops. -/
structure Capture where
  index : Nat
  start : Nat
  stop : Nat
deriving DecidableEq, Repr

/-- A place in the text: how many characters lie before it, the last of them, those that
follow, and the captures made on the way, the latest first. -/
structure Cursor where
  pos : Nat
  before : Option Char
  rest : List Char
  captures : List Capture
deriving DecidableEq, Repr

def isWord (ascii : Bool) (c : Char) : Bool :=
  if ascii then c.isAlphanum || c == '_' else Text.wordRanges.has c.toNat

namespace Assertion

def holds (a : Assertion) (cur : Cursor) : Bool :=
  let next := cur.rest.head?
  match a with
  | textStart => cur.before.isNone
  | textEnd => next.isNone
  | lineStart false => cur.before.all (· == '\n')
  | lineStart true =>
    cur.before.all (· == '\n') || (cur.before == some '\r' && next != some '\n')
  | lineEnd false => next.all (· == '\n')
  | lineEnd true =>
    next.all (· == '\r') || (next == some '\n' && cur.before != some '\r')
  | boundary kind ascii =>
    let inside := cur.before.any (isWord ascii)
    let ahead := next.any (isWord ascii)
    match kind with
    | .word => inside != ahead
    | .notWord => inside == ahead
    | .wordStart => !inside && ahead
    | .wordEnd => inside && !ahead
    | .wordStartHalf => !inside
    | .wordEndHalf => !ahead
    | _ => true

end Assertion

/-- What remains to be matched after a part of a pattern. -/
abbrev Next := Cursor → Option Cursor

/-- Further rounds of a loop. A round that reads nothing is given up. -/
def again (greedy : Bool) (body : Next → Next) (k : Next) : Nat → Next
  | 0, cur => k cur
  | n + 1, cur =>
    let round := fun _ : Unit =>
      body (fun cur' => if cur'.pos = cur.pos then none else again greedy body k n cur') cur
    if greedy then (round ()).or (k cur) else (k cur).or (round ())

/-- One round or more. A first round that reads nothing ends the loop. -/
def onceOrMore (greedy : Bool) (body : Next → Next) (k : Next) : Next := fun cur =>
  body (fun cur' =>
    if cur'.pos = cur.pos then k cur' else again greedy body k (cur'.rest.length + 1) cur') cur

def anyTimes (greedy : Bool) (body : Next → Next) (k : Next) : Next := fun cur =>
  if greedy then (onceOrMore greedy body k cur).or (k cur)
  else (k cur).or (onceOrMore greedy body k cur)

def exactly (body : Next → Next) : Nat → Next → Next
  | 0, k => k
  | n + 1, k => body (exactly body n k)

def upTo (greedy : Bool) (body : Next → Next) : Nat → Next → Next
  | 0, k => k
  | n + 1, k => fun cur =>
    if greedy then (body (upTo greedy body n k) cur).or (k cur)
    else (k cur).or (body (upTo greedy body n k) cur)

def repeated (least : Nat) (most : Option Nat) (greedy : Bool) (body : Next → Next) :
    Next → Next :=
  match most, least with
  | some most, least => fun k => exactly body least (upTo greedy body (most - least) k)
  | none, 0 => anyTimes greedy body
  | none, n + 1 => fun k => exactly body n (onceOrMore greedy body k)

namespace Node

/-- The first way to match the pattern from the cursor on, followed by `k`. -/
def run : Node → Next → Next
  | empty, k => k
  | chars s, k => fun cur =>
    match cur.rest with
    | [] => none
    | c :: rest =>
      if s.has c then k ⟨cur.pos + 1, some c, rest, cur.captures⟩ else none
  | assertion a, k => fun cur => if a.holds cur then k cur else none
  | group i body, k => fun cur =>
    body.run (fun cur' => k { cur' with captures := ⟨i, cur.pos, cur'.pos⟩ :: cur'.captures }) cur
  | seq a b, k => a.run (b.run k)
  | alt a b, k => fun cur => (a.run k cur).or (b.run k cur)
  | loop least most greedy body, k => repeated least most greedy body.run k

/-- The leftmost match at or after a place, with the place where it starts. -/
def search (node : Node) (pos : Nat) (before : Option Char) (rest : List Char) :
    Option (Nat × Cursor) :=
  match node.run some ⟨pos, before, rest, []⟩ with
  | some cur => some (pos, cur)
  | none =>
    match rest with
    | [] => none
    | c :: rest => search node (pos + 1) (some c) rest

def ofList : List Node → Node
  | [] => empty
  | [a] => a
  | a :: rest => seq a (ofList rest)

def ofBranches : List Node → Node
  | [] => empty
  | [a] => a
  | a :: rest => alt a (ofBranches rest)

/-- The highest number among the groups that occur. -/
def lastGroup : Node → Nat
  | empty | chars _ | assertion _ => 0
  | group i body => max i body.lastGroup
  | seq a b | alt a b => max a.lastGroup b.lastGroup
  | loop _ _ _ body => body.lastGroup

def hasGroup (i : Nat) : Node → Bool
  | empty | chars _ | assertion _ => false
  | group j body => i == j || body.hasGroup i
  | seq a b | alt a b => a.hasGroup i || b.hasGroup i
  | loop _ _ _ body => body.hasGroup i

end Node

end Logbook.Pattern
