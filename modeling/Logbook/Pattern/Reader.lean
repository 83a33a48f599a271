import Logbook.Pattern.Bracket
import Logbook.Text.WordRanges

/-!
Reading a pattern. The text is read from left to right; what is still open is kept on a stack
of groups and alternations, the innermost first. A pattern nests at most 250 levels deep.
-/

namespace Logbook.Pattern

namespace Ast

def span : Ast → Span
  | empty | flags _ => ⟨.origin, .origin⟩
  | literal l => l.span
  | dot s | look s _ | property s _ _ | shorthand s _ _ | bracketed s _ _ | repetition s _ _ _ _
  | group s _ _ | alternation s _ | concat s _ => s

/-- Nothing that could be repeated. -/
def isBare : Ast → Bool
  | empty | flags _ => true
  | _ => false

end Ast

/-- Items standing one after another, the last one first. -/
structure Sequence where
  start : Place
  parts : List Ast

def Sequence.ast (s : Sequence) (stop : Place) : Ast :=
  match s.parts with
  | [] => .empty
  | [a] => a
  | parts => .concat ⟨s.start, stop⟩ parts.reverse

inductive Level where
  /-- An open group, with the items before it and whether white space was skipped there. -/
  | group (before : Sequence) (span : Span) (kind : GroupKind) (verbose : Bool)
  /-- The finished branches of an alternation, the last one first. -/
  | alternation (start : Place) (branches : List Ast)

/-- Counts the new group and gives its number. -/
def nextCapture : ReadM Nat := do
  modify fun s => { s with captures := s.captures + 1 }
  return (← get).captures

def isAlphabetic (c : Char) : Bool := Text.alphabeticRanges.has c.toNat

def isAlphanumeric (c : Char) : Bool := isAlphabetic c || Text.numericRanges.has c.toNat

def isNameStart (c : Char) : Bool := c == '_' || isAlphabetic c

def isNamePart (c : Char) : Bool := c ∈ ['_', '.', '[', ']'] || isAlphanumeric c

/-- The name of a group, up to and with the closing angle bracket. -/
def captureName : ReadM (List Char) := do
  if ← atEnd then fail .groupNameUnexpectedEnd (← here)
  let start ← place
  let first ← current
  let name ←
    if first.any isNameStart then collect (fun c => c != '>' && isNamePart c) Scan.bump (← bound)
    else pure []
  match ← current with
  | none => fail .groupNameUnexpectedEnd (← here)
  | some '>' =>
    let span ← since start
    bump
    if name.isEmpty then fail .groupNameEmpty ⟨start, start⟩
    match (← get).names.lookup name with
    | some earlier => fail (.groupNameDuplicate earlier) span
    | none =>
      modify fun s => { s with names := (name, span) :: s.names }
      return name
  | some _ => fail .groupNameInvalid (← charSpan)

def flag? (c : Char) : Option Flag :=
  match c with
  | 'i' => some .caseless
  | 'm' => some .multiline
  | 's' => some .dotAll
  | 'U' => some .swapGreed
  | 'u' => some .unicode
  | 'R' => some .crlf
  | 'x' => some .verbose
  | _ => none

/-- Flags up to a colon or a closing parenthesis, which is left in place. `minus` is the span
of the minus sign if there was one, `seen` the flags so far, the last one first. -/
def flagItems (minus : Option Span) (dangling : Bool) (seen : List (Flag × Bool × Span)) :
    Nat → ReadM FlagChange
  | 0 => return []
  | n + 1 => do
    match ← current with
    | none => fail .flagUnexpectedEnd (← here)
    | some c =>
      if c = ':' ∨ c = ')' then
        match minus, dangling with
        | some span, true => fail .flagDanglingNegation span
        | _, _ => return seen.reverse.map fun (f, on, _) => (f, on)
      else
        let span ← charSpan
        if c = '-' then
          if let some first := minus then fail (.flagRepeatedNegation first) span
          bump
          flagItems (some span) true seen n
        else
          match flag? c with
          | none => fail .flagUnrecognized span
          | some f =>
            match seen.find? fun (g, _, _) => g == f with
            | some (_, _, first) => fail (.flagDuplicate first) span
            | none =>
              bump
              flagItems minus false ((f, minus.isNone, span) :: seen) n

/-- From an opening parenthesis to the first item of its group, or over a change of flags. -/
def openGroup : ReadM (FlagChange ⊕ (Span × GroupKind)) := do
  let start ← place
  let opening ← charSpan
  bump
  skipBlank
  for lookAround in ["?=", "?!", "?<=", "?<!"] do
    if ← accept lookAround.toList then fail .lookAround (← since start)
  let inner ← here
  if (← accept "?P<".toList) || (← accept "?<".toList) then
    let index ← nextCapture
    let name ← captureName
    return .inr (opening, .capture index (some name))
  else if ← accept ['?'] then
    if ← atEnd then fail .groupUnclosed opening
    let change ← flagItems none false [] (← bound)
    let last ← current
    bump
    if last == some ')' then
      if change.isEmpty then fail .repetitionMissing inner
      return .inl change
    else return .inr (opening, .plain change)
  else return .inr (opening, .capture (← nextCapture) none)

def setVerbose (change : FlagChange) : ReadM Unit :=
  match change.lookup .verbose with
  | some on => modify fun s => { s with verbose := on }
  | none => return ()

/-- A decimal number, with white space allowed around it; `none` if there is no digit. -/
def decimal : ReadM (Except Fault Nat) := do
  discard <| collect Text.isBlank Scan.bump (← bound)
  let start ← place
  let digits ← collect Char.isDigit Scan.advance (← bound)
  let span ← since start
  discard <| collect Text.isBlank Scan.advance (← bound)
  if digits.isEmpty then return .error ⟨.repetitionCountEmpty, span⟩
  let n := Text.digitsValue digits
  return if n < UInt32.size then .ok n else .error ⟨.decimalInvalid, span⟩

def liftRead {α : Type} (r : Except Fault α) : ReadM α := r

/-- The bounds between braces. -/
def repetitionBounds (start : Place) : ReadM (Nat × Option Nat) := do
  let least ← decimal
  if ← atEnd then fail .repetitionCountUnclosed (← since start)
  if (← current) = some ',' then
    advance
    if ← atEnd then fail .repetitionCountUnclosed (← since start)
    if (← current) = some '}' then return (← liftRead least, none)
    return (← liftRead least, some (← liftRead (← decimal)))
  else
    let n ← liftRead least
    return (n, some n)

/-- The item that a repetition applies to is the last of the sequence. -/
def repeatable (s : Sequence) : ReadM (Ast × Sequence) := do
  match s.parts with
  | a :: parts =>
    if a.isBare then fail .repetitionMissing (← here)
    return (a, { s with parts })
  | [] => fail .repetitionMissing (← here)

/-- A question mark after a repetition makes it lazy. -/
def greediness : ReadM Bool := do
  if (← current) = some '?' then
    bump
    return false
  else return true

def countedRepetition (s : Sequence) : ReadM Sequence := do
  let start ← place
  let (body, s) ← repeatable s
  advance
  if ← atEnd then fail .repetitionCountUnclosed (← since start)
  let (least, most) ← repetitionBounds start
  if (← current) != some '}' then fail .repetitionCountUnclosed (← since start)
  advance
  let greedy ← greediness
  if most.any (· < least) then fail .repetitionCountInvalid (← since start)
  let span ← since body.span.start
  return { s with parts := .repetition span least most greedy body :: s.parts }

def simpleRepetition (s : Sequence) (least : Nat) (most : Option Nat) : ReadM Sequence := do
  let (body, s) ← repeatable s
  bump
  let greedy ← greediness
  let span ← since body.span.start
  return { s with parts := .repetition span least most greedy body :: s.parts }

/-- Ends a branch at a vertical bar. -/
def closeBranch (s : Sequence) (stop : Place) : List Level → List Level
  | .alternation start branches :: stack => .alternation start (s.ast stop :: branches) :: stack
  | stack => .alternation s.start [s.ast stop] :: stack

/-- The alternation that `s` ends, or `s` alone, and the levels around it. -/
def closeAlternation (s : Sequence) (stop : Place) : List Level → Ast × List Level
  | .alternation start branches :: stack =>
    (.alternation ⟨start, stop⟩ (s.ast stop :: branches).reverse, stack)
  | stack => (s.ast stop, stack)

def closeGroup (s : Sequence) (stack : List Level) : ReadM (Sequence × List Level) := do
  match closeAlternation s (← place) stack with
  | (body, .group before span kind verbose :: stack) =>
    modify fun s => { s with verbose }
    bump
    let span := ⟨span.start, ← place⟩
    return ({ before with parts := .group span kind body :: before.parts }, stack)
  | _ => fail .groupUnopened (← here)

/-- The rest of a pattern, with the items and the levels read so far. -/
def items : Nat → Sequence → List Level → ReadM (Sequence × List Level)
  | 0, s, stack => return (s, stack)
  | n + 1, s, stack => do
    skipBlank
    match ← current with
    | none => return (s, stack)
    | some '(' =>
      let verbose := (← get).verbose
      match ← openGroup with
      | .inl change =>
        setVerbose change
        items n { s with parts := .flags change :: s.parts } stack
      | .inr (span, kind) =>
        if let .plain change := kind then setVerbose change
        items n ⟨← place, []⟩ (.group s span kind verbose :: stack)
    | some ')' =>
      let (s, stack) ← closeGroup s stack
      items n s stack
    | some '|' =>
      let stack := closeBranch s (← place) stack
      bump
      items n ⟨← place, []⟩ stack
    | some '[' =>
      let a ← bracketed
      items n { s with parts := a :: s.parts } stack
    | some '?' => items n (← simpleRepetition s 0 (some 1)) stack
    | some '*' => items n (← simpleRepetition s 0 none) stack
    | some '+' => items n (← simpleRepetition s 1 none) stack
    | some '{' => items n (← countedRepetition s) stack
    | some _ =>
      let a ← single
      items n { s with parts := a.ast :: s.parts } stack

def whole : ReadM Ast := do
  let (s, stack) ← items (← bound) ⟨← place, []⟩ []
  match closeAlternation s (← place) stack with
  | (a, []) => return a
  | (_, .group _ span _ _ :: _) => fail .groupUnclosed span
  | (_, .alternation _ _ :: _) => fail .groupUnclosed (← here)

mutual

def ClassItem.nestFault? (depth : Nat) : ClassItem → Option Fault
  | .bracketed span _ set =>
    if depth = 0 then some ⟨.nestLimitExceeded 250, span⟩ else set.nestFault? (depth - 1)
  | .union span items =>
    if depth = 0 then some ⟨.nestLimitExceeded 250, span⟩ else itemsNestFault? (depth - 1) items
  | _ => none

def ClassSet.nestFault? (depth : Nat) : ClassSet → Option Fault
  | .item i => i.nestFault? depth
  | .operation span _ lhs rhs =>
    if depth = 0 then some ⟨.nestLimitExceeded 250, span⟩
    else lhs.nestFault? (depth - 1) <|> rhs.nestFault? (depth - 1)

def itemsNestFault? (depth : Nat) : List ClassItem → Option Fault
  | [] => none
  | i :: rest => i.nestFault? depth <|> itemsNestFault? depth rest

end

mutual

/-- The first place that lies more than `depth` levels deep. -/
def Ast.nestFault? (depth : Nat) : Ast → Option Fault
  | .bracketed span _ set =>
    if depth = 0 then some ⟨.nestLimitExceeded 250, span⟩ else set.nestFault? (depth - 1)
  | .repetition span _ _ _ body | .group span _ body =>
    if depth = 0 then some ⟨.nestLimitExceeded 250, span⟩ else body.nestFault? (depth - 1)
  | .alternation span parts | .concat span parts =>
    if depth = 0 then some ⟨.nestLimitExceeded 250, span⟩ else partsNestFault? (depth - 1) parts
  | _ => none

def partsNestFault? (depth : Nat) : List Ast → Option Fault
  | [] => none
  | a :: rest => a.nestFault? depth <|> partsNestFault? depth rest

end

/-- The tree of a pattern's text. -/
def read (pattern : List Char) : Except Fault Ast := do
  let (a, _) ← whole.run (Scan.start pattern)
  match a.nestFault? 250 with
  | some fault => throw fault
  | none => return a

end Logbook.Pattern
