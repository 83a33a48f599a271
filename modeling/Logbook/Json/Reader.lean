import Logbook.Json.Value
import Logbook.Text.Digits

/-!
Reading JSON. A text nests at most 127 arrays and objects. A number outside the integers is
read as a double from its first digits, as many as fit 64 bits; the others only move the
exponent, and one multiplication or division by a power of ten ends the reading.
-/

namespace Logbook.Json

inductive Fault where
  /-- The text is not JSON. -/
  | malformed
  /-- The text is JSON, but not of the kind asked for. -/
  | mismatch
  /-- The text ends too early. -/
  | truncated
deriving DecidableEq, Repr

/-- How values are read: to be used, or only to pass over them, when neither depth nor the size
of numbers nor escapes of half characters matter. -/
inductive Mode where
  | use
  | pass
deriving DecidableEq, Repr

def isSpace (c : Char) : Bool := c == ' ' || c == '\n' || c == '\t' || c == '\r'

def skipSpace (s : List Char) : List Char := s.dropWhile isSpace

/-- Passes over the rest of a word. -/
def word : List Char → List Char → Except Fault (List Char)
  | [], s => .ok s
  | _ :: _, [] => .error .truncated
  | c :: rest, d :: s => if c = d then word rest s else .error .malformed

/-- How many bytes a text takes. -/
def byteCount (s : List Char) : Nat := (String.ofList s).utf8ByteSize

/-- Four hexadecimal digits; fewer than four bytes are too few. -/
def hex4 (s : List Char) : Except Fault (Nat × List Char) :=
  match s with
  | a :: b :: c :: d :: rest =>
    match [a, b, c, d].mapM Text.hexValue? with
    | some digits => .ok (digits.foldl (fun n d => 16 * n + d) 0, rest)
    | none => .error .malformed
  | _ => .error (if byteCount s < 4 then .truncated else .malformed)

def isHighSurrogate (n : Nat) : Bool := 0xD800 ≤ n && n ≤ 0xDBFF

def isLowSurrogate (n : Nat) : Bool := 0xDC00 ≤ n && n ≤ 0xDFFF

/-- Passes over one expected character. -/
def expect (c : Char) : List Char → Except Fault (List Char)
  | [] => .error .truncated
  | d :: rest => if c = d then .ok rest else .error .malformed

/-- The character of an escape after `\u`: characters beyond U+FFFF take two in a row. -/
def unicodeEscape (mode : Mode) (s : List Char) : Except Fault (Char × List Char) := do
  let (n, s) ← hex4 s
  if mode = .pass then return (Char.ofNat n, s)
  if isLowSurrogate n then throw .malformed
  if !isHighSurrogate n then return (Char.ofNat n, s)
  let s ← expect '\\' s
  let s ← expect 'u' s
  let (m, s) ← hex4 s
  if !isLowSurrogate m then throw .malformed
  return (Char.ofNat (0x10000 + (n - 0xD800) * 0x400 + (m - 0xDC00)), s)

/-- The character of an escape after its backslash. -/
def escape (mode : Mode) : List Char → Except Fault (Char × List Char)
  | [] => .error .truncated
  | c :: s =>
    match c with
    | '"' => .ok ('"', s)
    | '\\' => .ok ('\\', s)
    | '/' => .ok ('/', s)
    | 'b' => .ok ('\x08', s)
    | 'f' => .ok ('\x0C', s)
    | 'n' => .ok ('\n', s)
    | 'r' => .ok ('\r', s)
    | 't' => .ok ('\t', s)
    | 'u' => unicodeEscape mode s
    | _ => .error .malformed

/-- The characters up to the closing quote. -/
def stringBody (mode : Mode) : Nat → List Char → Except Fault (List Char × List Char)
  | 0, _ => .error .truncated
  | _ + 1, [] => .error .truncated
  | n + 1, c :: s =>
    if c = '"' then .ok ([], s)
    else if c = '\\' then do
      let (d, s) ← escape mode s
      let (rest, s) ← stringBody mode n s
      return (d :: rest, s)
    else if c.toNat < 0x20 then .error .malformed
    else do
      let (rest, s) ← stringBody mode n s
      return (c :: rest, s)

/-- The rest of a string after its opening quote. -/
def quoted (mode : Mode) (s : List Char) : Except Fault (String × List Char) := do
  let (chars, s) ← stringBody mode (s.length + 1) s
  return (String.ofList chars, s)

/-- Adds digits to a number as long as it stays below 2⁶⁴, and gives those left over. -/
def absorb (n : Nat) : List Char → Nat × List Char
  | [] => (n, [])
  | d :: rest =>
    let m := 10 * n + Text.digitValue d
    if m < UInt64.size then absorb m rest else (n, d :: rest)

def powerOfTen (k : Nat) : Float := Float.ofScientific 1 false k

/-- `significand · 10 ^ exponent`; too large a value is no number. -/
def scale (significand : Nat) (exponent : Int) : Except Fault Float :=
  let f := significand.toUInt64.toFloat
  if 0 ≤ exponent then
    if exponent ≤ 308 then
      let g := f * powerOfTen exponent.toNat
      if g.isInf then .error .malformed else .ok g
    else if significand = 0 then .ok f
    else .error .malformed
  else
    let k := exponent.natAbs
    if k ≤ 308 then .ok (f / powerOfTen k)
    else if k ≤ 616 then .ok (f / powerOfTen 308 / powerOfTen (k - 308))
    else .ok 0.0

/-- The digits in front, which must be there. At the end of the text they are missing; where
a value is only passed over that counts as malformed. -/
def digits (mode : Mode) (s : List Char) : Except Fault (List Char × List Char) :=
  match s.takeWhile Char.isDigit with
  | [] => .error (if s.isEmpty && mode != .pass then .truncated else .malformed)
  | ds => .ok (ds, s.dropWhile Char.isDigit)

/-- The exponent after its mark, with whether it is positive. -/
def exponentPart (mode : Mode) (s : List Char) : Except Fault ((Bool × Nat) × List Char) := do
  let (positive, s) :=
    match s with
    | '+' :: s => (true, s)
    | '-' :: s => (false, s)
    | s => (true, s)
  let (ds, s) ← digits mode s
  return ((positive, Text.digitsValue ds), s)

def isExponentMark (s : List Char) : Bool := s.head? == some 'e' || s.head? == some 'E'

/-- A double from its significand, the power of ten so far, and the text from where an
exponent may stand. -/
def double (mode : Mode) (significand : Nat) (power : Int) (s : List Char) :
    Except Fault (Float × List Char) := do
  let finish (r : Except Fault Float) (s : List Char) : Except Fault (Float × List Char) :=
    if mode = .pass then .ok (0.0, s) else r.map fun x => (x, s)
  if isExponentMark s then
    let ((positive, e), s) ← exponentPart mode (s.drop 1)
    if 0x80000000 ≤ e then
      finish (if positive && significand != 0 then .error .malformed else .ok 0.0) s
    else finish (scale significand (if positive then power + e else power - e)) s
  else finish (scale significand power) s

/-- A number after its sign. -/
def number (mode : Mode) (negative : Bool) (s : List Char) :
    Except Fault (Number × List Char) := do
  let (ds, s) ← digits mode s
  if ds.head? == some '0' && 1 < ds.length then throw .malformed
  let (significand, surplus) := absorb 0 ds
  let signed (x : Float) : Number := .double (if negative then -x else x)
  match s with
  | '.' :: s =>
    let (fraction, s) ← digits mode s
    let (significand', unread) := absorb significand fraction
    let power : Int := surplus.length - (fraction.length - unread.length : Nat)
    let (x, s) ← double mode significand' power s
    return (signed x, s)
  | s =>
    if isExponentMark s || !surplus.isEmpty then
      let (x, s) ← double mode significand surplus.length s
      return (signed x, s)
    else if !negative then return (.integer significand, s)
    else if 0 < significand ∧ significand ≤ 0x8000000000000000 then return (.integer (-significand), s)
    else return (signed significand.toUInt64.toFloat, s)

/-- A value that is no array or object: `none` if the text goes on with something else. -/
def scalar? (mode : Mode) (c : Char) (s : List Char) : Option (Except Fault (Value × List Char)) :=
  if c = 'n' then some ((word ['u', 'l', 'l'] s).map fun s => (.null, s))
  else if c = 't' then some ((word ['r', 'u', 'e'] s).map fun s => (.bool true, s))
  else if c = 'f' then some ((word ['a', 'l', 's', 'e'] s).map fun s => (.bool false, s))
  else if c = '-' then some ((number mode true s).map fun (n, s) => (.number n, s))
  else if c.isDigit then some ((number mode false (c :: s)).map fun (n, s) => (.number n, s))
  else if c = '"' then some ((quoted mode s).map fun (t, s) => (.string t, s))
  else none

/-- What stands behind a member of an array or object: `true` if another one follows. -/
def following (close : Char) (s : List Char) : Except Fault (Bool × List Char) :=
  match skipSpace s with
  | [] => .error .truncated
  | c :: s =>
    if c = close then .ok (false, s)
    else if c = ',' then
      match skipSpace s with
      | [] => .error .truncated
      | d :: s => if d = close then .error .malformed else .ok (true, d :: s)
    else .error .malformed

def key (mode : Mode) (s : List Char) : Except Fault (String × List Char) := do
  quoted mode (← expect '"' s)

def colon (s : List Char) : Except Fault (List Char) := expect ':' (skipSpace s)

/-- Whether an array or object is empty, after its opening bracket. -/
def opened (close : Char) (s : List Char) : Except Fault (Bool × List Char) :=
  match skipSpace s with
  | [] => .error .truncated
  | c :: s => if c = close then .ok (true, s) else .ok (false, c :: s)

mutual

/-- A value; `room` is one more than the number of levels that may still be entered. -/
def value (mode : Mode) : Nat → Nat → List Char → Except Fault (Value × List Char)
  | 0, _, _ => .error .truncated
  | n + 1, room, s =>
    match skipSpace s with
    | [] => .error .truncated
    | c :: s =>
      match scalar? mode c s with
      | some r => r
      | none =>
        if c = '[' then
          if room ≤ 1 then .error .malformed
          else do
            let (isEmpty, s) ← opened ']' s
            if isEmpty then return (.array [], s)
            let (items, s) ← elements mode n (room - 1) s
            return (.array items, s)
        else if c = '\x7b' then
          if room ≤ 1 then .error .malformed
          else do
            let (isEmpty, s) ← opened '\x7d' s
            if isEmpty then return (.object [], s)
            let (ms, s) ← members mode n (room - 1) s
            return (.object ms, s)
        else .error .malformed

def elements (mode : Mode) : Nat → Nat → List Char → Except Fault (List Value × List Char)
  | 0, _, _ => .error .truncated
  | n + 1, room, s => do
    let (v, s) ← value mode n room s
    let (more, s) ← following ']' s
    if more then
      let (rest, s) ← elements mode n room s
      return (v :: rest, s)
    else return ([v], s)

def members (mode : Mode) : Nat → Nat → List Char → Except Fault (Members × List Char)
  | 0, _, _ => .error .truncated
  | n + 1, room, s => do
    let (k, s) ← key mode s
    let (v, s) ← value mode n room (← colon s)
    let (more, s) ← following '\x7d' s
    if more then
      let (rest, s) ← members mode n room s
      return ((k, v) :: rest, s)
    else return ([(k, v)], s)

end

/-- The number of levels, and one more. -/
def depthRoom : Nat := 128

/-- Nothing but white space may follow. -/
def finished (s : List Char) : Except Fault Unit :=
  if (skipSpace s).isEmpty then .ok () else .error .malformed

/-- The value that a text writes. -/
def read (text : String) : Except Fault Value := do
  let s := text.toList
  let (v, s) ← value .use (2 * s.length + 1) depthRoom s
  finished s
  return v.sorted

/-- Passes over a value of any depth. -/
def passOver (s : List Char) : Except Fault (List Char) :=
  (value .pass (2 * s.length + 1) (s.length + 2) s).map (·.2)

end Logbook.Json
