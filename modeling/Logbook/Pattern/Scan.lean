import Logbook.Pattern.Ast
import Logbook.Text.Blank

/-!
Walking over the text of a pattern: the characters left, the place reached, and what has been
learnt on the way (whether white space is skipped, how many groups capture, which names they
have). Steps that read one kind of item are in `ReadM`, which may stop with a fault.
-/

namespace Logbook.Pattern

structure Scan where
  rest : List Char
  place : Place
  verbose : Bool
  captures : Nat
  names : List (List Char × Span)

namespace Scan

def start (pattern : List Char) : Scan := ⟨pattern, .origin, false, 0, []⟩

def bump (s : Scan) : Scan :=
  match s.rest with
  | [] => s
  | c :: rest => { s with rest, place := s.place.after c }

/-- Passes over white space and over comments, which run from `#` to the end of the line. -/
def passOver (inComment : Bool) (p : Place) : List Char → Place × List Char
  | [] => (p, [])
  | c :: rest =>
    if inComment then passOver (c != '\n') (p.after c) rest
    else if Text.isBlank c then passOver false (p.after c) rest
    else if c = '#' then passOver true (p.after c) rest
    else (p, c :: rest)

def skipBlank (s : Scan) : Scan :=
  if s.verbose then
    let (place, rest) := passOver false s.place s.rest
    { s with rest, place }
  else s

/-- One character on, and over the white space behind it. -/
def advance (s : Scan) : Scan := s.bump.skipBlank

def here (s : Scan) : Span := ⟨s.place, s.place⟩

def charSpan (s : Scan) : Span := ⟨s.place, s.bump.place⟩

def since (s : Scan) (start : Place) : Span := ⟨start, s.place⟩

/-- The first character behind blanks, where a `#` is passed over once. -/
def firstBehind (inComment : Bool) : List Char → Option Char
  | [] => none
  | c :: rest =>
    if Text.isBlank c then firstBehind inComment rest
    else if !inComment && c = '#' then firstBehind true rest
    else some c

/-- The character after the current one, seen past white space where that is skipped. -/
def peekBehind (s : Scan) : Option Char :=
  match s.rest with
  | [] => none
  | _ :: rest => if s.verbose then firstBehind false rest <|> rest.head? else rest.head?

end Scan

abbrev ReadM := StateT Scan (Except Fault)

def fail {α : Type} (cause : Cause) (span : Span) : ReadM α := throw ⟨cause, span⟩

def current : ReadM (Option Char) := return (← get).rest.head?

def atEnd : ReadM Bool := return (← get).rest.isEmpty

def place : ReadM Place := return (← get).place

def bump : ReadM Unit := modify Scan.bump

def advance : ReadM Unit := modify Scan.advance

def skipBlank : ReadM Unit := modify Scan.skipBlank

def here : ReadM Span := return (← get).here

def charSpan : ReadM Span := return (← get).charSpan

def since (start : Place) : ReadM Span := return (← get).since start

/-- Passes over `text` if it comes next. -/
def accept (text : List Char) : ReadM Bool := do
  if text.isPrefixOf (← get).rest then
    modify fun s => text.foldl (fun s _ => s.bump) s
    return true
  else return false

/-- A bound on the steps that a loop over the rest of the pattern can take. -/
def bound : ReadM Nat := return (← get).rest.length + 1

/-- Collects the characters that `p` accepts, going on by `step` after each. -/
def collect (p : Char → Bool) (step : Scan → Scan) : Nat → ReadM (List Char)
  | 0 => return []
  | n + 1 => do
    match (← get).rest with
    | c :: _ =>
      if p c then
        modify step
        return c :: (← collect p step n)
      else return []
    | [] => return []

end Logbook.Pattern
