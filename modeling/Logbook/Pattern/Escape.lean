import Logbook.Pattern.Scan
import Logbook.Text.Digits

/-!
Escapes: what may follow a backslash, and the single items of a pattern that stand for one
character, one class of characters or one assertion.
-/

namespace Logbook.Pattern

/-- An item that is complete in itself. -/
inductive Single where
  | literal (l : Literal)
  | look (span : Span) (kind : Look)
  | dot (span : Span)
  | shorthand (span : Span) (negated : Bool) (kind : Shorthand)
  | property (span : Span) (negated : Bool) (query : PropertyQuery)

namespace Single

def span : Single → Span
  | literal l => l.span
  | look s _ | dot s | shorthand s _ _ | property s _ _ => s

def ast : Single → Ast
  | literal l => .literal l
  | look s kind => .look s kind
  | dot s => .dot s
  | shorthand s negated kind => .shorthand s negated kind
  | property s negated query => .property s negated query

/-- As a member of a class; assertions and dots are none. -/
def classItem : Single → ReadM ClassItem
  | literal l => return .literal l
  | shorthand s negated kind => return .shorthand s negated kind
  | property s negated query => return .property s negated query
  | look s _ | dot s => fail .classEscapeInvalid s

/-- As the end of a range, which only a character can be. -/
def boundary : Single → ReadM Literal
  | literal l => return l
  | other => fail .classRangeLiteral other.span

end Single

/-- The character whose code point has these hexadecimal digits. -/
def scalar? (digits : List Nat) : Option Char :=
  let n := digits.foldl (fun n d => 16 * n + d) 0
  if n.isValidChar then some (Char.ofNat n) else none

/-- Exactly `n` more hexadecimal digits. -/
def hexDigits : Nat → ReadM (List Nat)
  | 0 => return []
  | n + 1 => do
    match ← current with
    | none => fail .escapeUnexpectedEnd (← here)
    | some c =>
      match Text.hexValue? c with
      | none => fail .escapeHexInvalidDigit (← charSpan)
      | some d =>
        advance
        return d :: (← hexDigits n)

def hexFixed (start : Place) (count : Nat) : ReadM Single := do
  let first ← place
  let digits ← hexDigits count
  match scalar? digits with
  | none => fail .escapeHexInvalid (← since first)
  | some c => return .literal ⟨← since start, c, count == 2⟩

/-- Hexadecimal digits up to a closing brace, which is left in place. -/
def hexBraced (opening : Place) : Nat → ReadM (List Nat)
  | 0 => return []
  | n + 1 => do
    match ← current with
    | none => fail .escapeUnexpectedEnd (← since opening)
    | some c =>
      if c = '}' then return []
      else
        match Text.hexValue? c with
        | none => fail .escapeHexInvalidDigit (← charSpan)
        | some d =>
          advance
          return d :: (← hexBraced opening n)

def hexBrace (start : Place) : ReadM Single := do
  let opening ← place
  let first := (← charSpan).stop
  advance
  let digits ← hexBraced opening (← bound)
  let last ← place
  advance
  if digits.isEmpty then fail .escapeHexEmpty (← since opening)
  match scalar? digits with
  | none => fail .escapeHexInvalid ⟨first, last⟩
  | some c => return .literal ⟨← since start, c, false⟩

/-- After `\x`, `\u` or `\U`: two, four or eight digits, or any number of them in braces. -/
def hex (start : Place) (count : Nat) : ReadM Single := do
  advance
  match ← current with
  | none => fail .escapeUnexpectedEnd (← here)
  | some '{' => hexBrace start
  | some _ => hexFixed start count

/-- Splits `name=value`, `name:value` and `name!=value`. -/
def PropertyQuery.ofText (text : List Char) : PropertyQuery :=
  let at? (p : Char → Bool) (skip : Nat) : Option PropertyQuery :=
    (text.findIdx? p).map fun i => .valued (text.take i) (text.drop (i + skip))
  let unequal : Option PropertyQuery :=
    ((List.range text.length).find? fun i => ['!', '='].isPrefixOf (text.drop i)).map
      fun i => .valued (text.take i) (text.drop (i + 2))
  (unequal <|> at? (· == ':') 1 <|> at? (· == '=') 1).getD (.named text)

/-- After `\p` or `\P`: one letter, or a query in braces. -/
def property (start : Place) (negated : Bool) : ReadM Single := do
  advance
  match ← current with
  | none => fail .escapeUnexpectedEnd (← here)
  | some '{' =>
    advance
    let text ← collect (· != '}') Scan.advance (← bound)
    if ← atEnd then fail .escapeUnexpectedEnd (← here)
    bump
    return .property (← since start) negated (.ofText text)
  | some c =>
    if c = '\\' then fail .unicodeClassInvalid (← charSpan)
    advance
    return .property (← since start) negated (.letter c)

def isMeta (c : Char) : Bool :=
  c ∈ ['\\', '.', '+', '*', '?', '(', ')', '|', '[', ']', '{', '}', '^', '$', '#', '&', '-', '~']

/-- ASCII characters that may be escaped though they stand for themselves. -/
def isEscapable (c : Char) : Bool :=
  c.toNat < 128 && !c.isAlphanum && c != '<' && c != '>'

def boundaryNamed? (name : List Char) : Option Look :=
  [("start", Look.wordStart), ("end", .wordEnd), ("start-half", .wordStartHalf),
    ("end-half", .wordEndHalf)].lookup (String.ofList name)

/-- After `\b`: a named boundary in braces, or nothing if the brace begins a repetition. -/
def namedBoundary (start : Place) : ReadM (Option Look) := do
  let before ← get
  let isLetter (c : Char) : Bool := c.isAlpha || c == '-'
  advance
  match ← current with
  | none => fail .boundaryOrRepetitionUnexpectedEnd (← since start)
  | some c =>
    if !isLetter c then
      set before
      return none
    else
      let first ← place
      let name ← collect isLetter Scan.advance (← bound)
      if (← current) != some '}' then fail .boundaryUnclosed (← since before.place)
      let last ← place
      bump
      match boundaryNamed? name with
      | none => fail .boundaryUnrecognized ⟨first, last⟩
      | some look => return some look

def shorthand? (c : Char) : Option (Bool × Shorthand) :=
  match c with
  | 'd' => some (false, .digit)
  | 'D' => some (true, .digit)
  | 's' => some (false, .space)
  | 'S' => some (true, .space)
  | 'w' => some (false, .word)
  | 'W' => some (true, .word)
  | _ => none

def control? (c : Char) : Option Char :=
  match c with
  | 'a' => some '\x07'
  | 'f' => some '\x0C'
  | 't' => some '\t'
  | 'n' => some '\n'
  | 'r' => some '\r'
  | 'v' => some '\x0B'
  | _ => none

def assertion? (c : Char) : Option Look :=
  match c with
  | 'A' => some .textStart
  | 'z' => some .textEnd
  | 'b' => some .word
  | 'B' => some .notWord
  | '<' => some .wordStart
  | '>' => some .wordEnd
  | _ => none

/-- From a backslash to the end of its escape. -/
def escape : ReadM Single := do
  let start ← place
  bump
  match ← current with
  | none => fail .escapeUnexpectedEnd (← since start)
  | some c =>
    if c.isDigit then fail .backreference ⟨start, (← charSpan).stop⟩
    else if c = 'x' then hex start 2
    else if c = 'u' then hex start 4
    else if c = 'U' then hex start 8
    else if c = 'p' then property start false
    else if c = 'P' then property start true
    else
      bump
      let span ← since start
      match shorthand? c with
      | some (negated, kind) => return .shorthand span negated kind
      | none =>
        if isMeta c || isEscapable c then return .literal ⟨span, c, false⟩
        else
          match control? c with
          | some d => return .literal ⟨span, d, false⟩
          | none =>
            match assertion? c with
            | none => fail .escapeUnrecognized span
            | some look =>
              if c = 'b' ∧ (← current) = some '{' then
                match ← namedBoundary start with
                | some named => return .look (← since start) named
                | none => return .look span look
              else return .look span look

/-- One item that is neither a group nor a class in brackets nor a repetition. -/
def single : ReadM Single := do
  match ← current with
  | none => fail .escapeUnexpectedEnd (← here)
  | some '\\' => escape
  | some c =>
    let span ← charSpan
    bump
    match c with
    | '.' => return .dot span
    | '^' => return .look span .lineStart
    | '$' => return .look span .lineEnd
    | c => return .literal ⟨span, c, false⟩

end Logbook.Pattern
