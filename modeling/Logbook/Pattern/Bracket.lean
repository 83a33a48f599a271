import Logbook.Pattern.Escape

/-!
Classes in brackets. The text is read from left to right with a stack of what is still open:
a bracket, or an operation that waits for its right side.
-/

namespace Logbook.Pattern

namespace ClassItem

def span : ClassItem → Span
  | empty s | range s _ _ | posix s _ _ | property s _ _ | shorthand s _ _
  | bracketed s _ _ | union s _ => s
  | literal l => l.span

end ClassItem

def ClassSet.span : ClassSet → Span
  | .item i => i.span
  | .operation s _ _ _ => s

/-- The members of a class so far, the last one first, and the span they cover. -/
structure Members where
  span : Span
  items : List ClassItem

namespace Members

def none (at_ : Span) : Members := ⟨at_, []⟩

def push (m : Members) (i : ClassItem) : Members :=
  ⟨⟨if m.items.isEmpty then i.span.start else m.span.start, i.span.stop⟩, i :: m.items⟩

def set (m : Members) : ClassSet :=
  .item <|
    match m.items with
    | [] => .empty m.span
    | [i] => i
    | items => .union m.span items.reverse

end Members

inductive Pending where
  /-- A bracket, and the members that stood before it. -/
  | bracket (outer : Members) (span : Span) (negated : Bool)
  | operation (op : SetOperation) (lhs : ClassSet)

/-- Gives a finished right side to the operation that waits for it, if one does. -/
def settle (rhs : ClassSet) : List Pending → ClassSet × List Pending
  | .operation op lhs :: stack =>
    (.operation ⟨lhs.span.start, rhs.span.stop⟩ op lhs rhs, stack)
  | stack => (rhs, stack)

/-- A class is unclosed at the innermost open bracket. -/
def failUnclosed {α : Type} : List Pending → ReadM α
  | .bracket _ span _ :: _ => fail .classUnclosed span
  | .operation _ _ :: stack => failUnclosed stack
  | [] => do fail .classUnclosed (← here)

/-- Hyphens at the front of a class stand for themselves. -/
def leadingHyphens (start : Place) (m : Members) : Nat → ReadM Members
  | 0 => return m
  | n + 1 => do
    if (← current) = some '-' then
      let m := m.push (.literal ⟨← charSpan, '-', false⟩)
      advance
      if ← atEnd then fail .classUnclosed ⟨start, start⟩
      leadingHyphens start m n
    else return m

/-- From a bracket up to its first member; a closing bracket there stands for itself. -/
def openBracket : ReadM (Span × Bool × Members) := do
  let start ← place
  advance
  if ← atEnd then fail .classUnclosed (← since start)
  let negated := (← current) == some '^'
  if negated then
    advance
    if ← atEnd then fail .classUnclosed (← since start)
  let m ← leadingHyphens start (.none (← here)) (← bound)
  let m ←
    if m.items.isEmpty ∧ (← current) = some ']' then
      let m := m.push (.literal ⟨← charSpan, ']', false⟩)
      advance
      if ← atEnd then fail .classUnclosed (← since start)
      pure m
    else pure m
  return (← since start, negated, m)

def posixNamed? (name : List Char) : Option PosixClass :=
  [("alnum", PosixClass.alnum), ("alpha", .alpha), ("ascii", .ascii), ("blank", .blank),
    ("cntrl", .cntrl), ("digit", .digit), ("graph", .graph), ("lower", .lower),
    ("print", .print), ("punct", .punct), ("space", .space), ("upper", .upper),
    ("word", .word), ("xdigit", .xdigit)].lookup (String.ofList name)

/-- A class such as `[:alpha:]`; anything else leaves the text where it was. -/
def posix? : ReadM (Option ClassItem) := do
  let before ← get
  let start := before.place
  bump
  if ← accept [':'] then
    let negated ← accept ['^']
    let name ← collect (· != ':') Scan.bump (← bound)
    if ← accept [':', ']'] then
      match posixNamed? name with
      | some kind => return some (.posix (← since start) negated kind)
      | none => pure ()
  set before
  return none

def classSingle : ReadM Single := do
  match ← current with
  | some '\\' => escape
  | some c =>
    let span ← charSpan
    bump
    return .literal ⟨span, c, false⟩
  | none => fail .classUnclosed (← here)

/-- One member of a class, or a range of two. -/
def member (stack : List Pending) : ReadM ClassItem := do
  let first ← classSingle
  skipBlank
  if ← atEnd then failUnclosed stack
  let behind := (← get).peekBehind
  if (← current) != some '-' || behind == some ']' || behind == some '-' then
    first.classItem
  else
    advance
    if ← atEnd then failUnclosed stack
    let second ← classSingle
    let span : Span := ⟨first.span.start, second.span.stop⟩
    let lo ← first.boundary
    let hi ← second.boundary
    if hi.char < lo.char then fail .classRangeInvalid span
    return .range span lo hi

def operation? : ReadM (Option SetOperation) := do
  if ← accept ['&', '&'] then return some .intersection
  else if ← accept ['-', '-'] then return some .difference
  else if ← accept ['~', '~'] then return some .symmetricDifference
  else return none

/-- The rest of a class whose brackets so far are on the stack. -/
def classBody : Nat → List Pending → Members → ReadM Ast
  | 0, stack, _ => failUnclosed stack
  | n + 1, stack, m => do
    skipBlank
    match ← current with
    | none => failUnclosed stack
    | some '[' =>
      match ← (if stack.isEmpty then pure none else posix?) with
      | some i => classBody n stack (m.push i)
      | none =>
        let (span, negated, inner) ← openBracket
        classBody n (.bracket m span negated :: stack) inner
    | some ']' =>
      let (set, stack) := settle m.set stack
      match stack with
      | .bracket outer span negated :: stack =>
        bump
        let span := ⟨span.start, ← place⟩
        if stack.isEmpty then return .bracketed span negated set
        else classBody n stack (outer.push (.bracketed span negated set))
      | stack => failUnclosed stack
    | some _ =>
      match ← operation? with
      | some op =>
        let (lhs, stack) := settle m.set stack
        classBody n (.operation op lhs :: stack) (.none (← here))
      | none => classBody n stack (m.push (← member stack))

/-- From a bracket to the one that closes it. -/
def bracketed : ReadM Ast := do
  classBody (← bound) [] (.none (← here))

end Logbook.Pattern
