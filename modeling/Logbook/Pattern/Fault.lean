/-!
What can be wrong with the text of a pattern, where, and how it is reported. A report shows
the pattern with carets under the places at fault and ends in a line that names the cause.
A pattern of several lines is shown between rulers with its lines numbered.
-/

namespace Logbook.Pattern

/-- A place in a pattern: both numbers start at one and count characters. -/
structure Place where
  line : Nat
  column : Nat
deriving DecidableEq, Repr

def Place.origin : Place := ⟨1, 1⟩

def Place.after (p : Place) (c : Char) : Place :=
  if c = '\n' then ⟨p.line + 1, 1⟩ else ⟨p.line, p.column + 1⟩

def Place.before (p q : Place) : Bool :=
  p.line < q.line || (p.line == q.line && p.column < q.column)

/-- From `start` up to, but without, `stop`. -/
structure Span where
  start : Place
  stop : Place
deriving DecidableEq, Repr

def Span.before (s t : Span) : Bool :=
  s.start.before t.start || (s.start == t.start && s.stop.before t.stop)

inductive Cause where
  | classEscapeInvalid
  | classRangeInvalid
  | classRangeLiteral
  | classUnclosed
  | decimalInvalid
  | escapeHexEmpty
  | escapeHexInvalid
  | escapeHexInvalidDigit
  | escapeUnexpectedEnd
  | escapeUnrecognized
  | flagDanglingNegation
  | flagDuplicate (first : Span)
  | flagRepeatedNegation (first : Span)
  | flagUnexpectedEnd
  | flagUnrecognized
  | groupNameDuplicate (first : Span)
  | groupNameEmpty
  | groupNameInvalid
  | groupNameUnexpectedEnd
  | groupUnclosed
  | groupUnopened
  | nestLimitExceeded (limit : Nat)
  | repetitionCountInvalid
  | repetitionCountEmpty
  | repetitionCountUnclosed
  | repetitionMissing
  | boundaryUnclosed
  | boundaryUnrecognized
  | boundaryOrRepetitionUnexpectedEnd
  | unicodeClassInvalid
  | backreference
  | lookAround
  | unicodeNotAllowed
  | invalidUtf8
  | propertyNotFound
  | propertyValueNotFound
deriving DecidableEq, Repr

namespace Cause

def text : Cause → String
  | classEscapeInvalid => "invalid escape sequence found in character class"
  | classRangeInvalid => "invalid character class range, the start must be <= the end"
  | classRangeLiteral => "invalid range boundary, must be a literal"
  | classUnclosed => "unclosed character class"
  | decimalInvalid => "decimal literal invalid"
  | escapeHexEmpty => "hexadecimal literal empty"
  | escapeHexInvalid => "hexadecimal literal is not a Unicode scalar value"
  | escapeHexInvalidDigit => "invalid hexadecimal digit"
  | escapeUnexpectedEnd => "incomplete escape sequence, reached end of pattern prematurely"
  | escapeUnrecognized => "unrecognized escape sequence"
  | flagDanglingNegation => "dangling flag negation operator"
  | flagDuplicate _ => "duplicate flag"
  | flagRepeatedNegation _ => "flag negation operator repeated"
  | flagUnexpectedEnd => "expected flag but got end of regex"
  | flagUnrecognized => "unrecognized flag"
  | groupNameDuplicate _ => "duplicate capture group name"
  | groupNameEmpty => "empty capture group name"
  | groupNameInvalid => "invalid capture group character"
  | groupNameUnexpectedEnd => "unclosed capture group name"
  | groupUnclosed => "unclosed group"
  | groupUnopened => "unopened group"
  | nestLimitExceeded limit =>
    "exceed the maximum number of nested parentheses/brackets (" ++ toString limit ++ ")"
  | repetitionCountInvalid =>
    "invalid repetition count range, the start must be <= the end"
  | repetitionCountEmpty => "repetition quantifier expects a valid decimal"
  | repetitionCountUnclosed => "unclosed counted repetition"
  | repetitionMissing => "repetition operator missing expression"
  | boundaryUnclosed =>
    "special word boundary assertion is either unclosed or contains an invalid character"
  | boundaryUnrecognized =>
    "unrecognized special word boundary assertion, valid choices are: " ++
      "start, end, start-half or end-half"
  | boundaryOrRepetitionUnexpectedEnd =>
    "found either the beginning of a special word boundary or a bounded repetition on a \\b " ++
      "with an opening brace, but no closing brace"
  | unicodeClassInvalid => "invalid Unicode character class"
  | backreference => "backreferences are not supported"
  | lookAround => "look-around, including look-ahead and look-behind, is not supported"
  | unicodeNotAllowed => "Unicode not allowed here"
  | invalidUtf8 => "pattern can match invalid UTF-8"
  | propertyNotFound => "Unicode property not found"
  | propertyValueNotFound => "Unicode property value not found"

/-- The earlier place that a repeated item repeats. -/
def first? : Cause → Option Span
  | flagDuplicate s | flagRepeatedNegation s | groupNameDuplicate s => some s
  | _ => none

end Cause

structure Fault where
  cause : Cause
  span : Span
deriving DecidableEq, Repr

namespace Fault

/-- The places at fault in the order of the text. -/
def spans (f : Fault) : List Span :=
  match f.cause.first? with
  | none => [f.span]
  | some s => if f.span.before s then [f.span, s] else [s, f.span]

/-- The lines of a pattern; a line loses the carriage return at its end. -/
def lines (pattern : List Char) : List (List Char) :=
  let pieces := pattern.splitOn '\n'
  (if pieces.getLast? = some [] then pieces.dropLast else pieces).map fun line =>
    if line.getLast? = some '\r' then line.dropLast else line

def spaces (n : Nat) : List Char := List.replicate n ' '

/-- Carets under the spans, starting in the column after `pos` characters. -/
def carets (pos : Nat) : List Span → List Char
  | [] => []
  | s :: rest =>
    let gap := s.start.column - 1 - pos
    let width := max 1 (s.stop.column - s.start.column)
    spaces gap ++ List.replicate width '^' ++ carets (pos + gap + width) rest

def padded (width n : Nat) : List Char :=
  let digits := (toString n).toList
  spaces (width - digits.length) ++ digits

/-- The pattern's lines, each followed by its carets if any. -/
def notated (f : Fault) (numberWidth : Nat) (pattern : List Char) : List Char :=
  let here := f.spans.filter fun s => s.start.line == s.stop.line
  ((lines pattern).zipIdx 1).flatMap fun (line, n) =>
    let marks := here.filter fun s => s.start.line == n
    let label := if numberWidth = 0 then spaces 4 else padded numberWidth n ++ [':', ' ']
    let under :=
      if marks.isEmpty then []
      else spaces (if numberWidth = 0 then 4 else 2 + numberWidth) ++ carets 0 marks ++ ['\n']
    label ++ line ++ ['\n'] ++ under

/-- One note for each place that runs over several lines. -/
def notes (f : Fault) : List Char :=
  let wide := f.spans.filter fun s => s.start.line != s.stop.line
  wide.flatMap fun s =>
    ("on line " ++ toString s.start.line ++ " (column " ++ toString s.start.column
      ++ ") through line " ++ toString s.stop.line ++ " (column "
      ++ toString (s.stop.column - 1) ++ ")\n").toList

/-- The whole report. -/
def report (f : Fault) (pattern : List Char) : String :=
  let ruler := List.replicate 79 '~' ++ ['\n']
  let count := (lines pattern).length + (if pattern.getLast? = some '\n' then 1 else 0)
  let width := if count ≤ 1 then 0 else (toString count).length
  let body :=
    if pattern.contains '\n' then ruler ++ f.notated width pattern ++ ruler ++ f.notes
    else f.notated width pattern
  "regex parse error:\n" ++ String.ofList body ++ "error: " ++ f.cause.text

end Fault

end Logbook.Pattern
