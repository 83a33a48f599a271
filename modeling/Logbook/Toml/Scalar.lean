import Logbook.Text.Digits
import Logbook.Time.Date
import Logbook.Toml.Value

/-!
TOML values that stand without quotes: numbers, truth values, dates and times. Underscores may
stand between digits.
-/

namespace Logbook.Toml

/-- Digits behind others, without the underscores between them. -/
def moreDigits (ok : Char → Bool) : List Char → List Char × List Char
  | [] => ([], [])
  | '_' :: c :: rest =>
    if ok c then
      let (ds, rest) := moreDigits ok rest
      (c :: ds, rest)
    else ([], '_' :: c :: rest)
  | c :: rest =>
    if ok c then
      let (ds, rest) := moreDigits ok rest
      (c :: ds, rest)
    else ([], c :: rest)

/-- At least one digit. -/
def digits? (ok : Char → Bool) : List Char → Option (List Char × List Char)
  | [] => none
  | c :: rest =>
    if ok c then
      let (ds, rest) := moreDigits ok rest
      some (c :: ds, rest)
    else none

def valueIn (base : Nat) (ds : List Char) : Nat :=
  ds.foldl (fun n c => base * n + (Text.hexValue? c).getD 0) 0

def integerIn? (base : Nat) (s : List Char) : Option Value := do
  let (ds, rest) ← digits? (fun c => (Text.hexValue? c).any (· < base)) s
  if rest.isEmpty then some (.integer (valueIn base ds)) else none

/-- `significand · 10 ^ exponent` rounded to a double, if it is not too large for one. -/
def double? (significand : Nat) (exponent : Int) : Option Float :=
  let size := exponent + (Nat.toDigits 10 significand).length
  if significand = 0 ∨ size < -400 then some 0.0
  else if 400 < size then none
  else
    let x :=
      if 0 ≤ exponent then Float.ofScientific (significand * Nat.pow 10 exponent.toNat) false 0
      else Float.ofScientific significand true exponent.natAbs
    if x.isInf then none else some x

/-- The digits behind a point, if there is one. -/
def fraction? : List Char → Option (List Char × List Char)
  | '.' :: rest => digits? Char.isDigit rest
  | rest => some ([], rest)

/-- The exponent behind its mark, if there is one. -/
def exponent? : List Char → Option (Int × List Char)
  | c :: rest =>
    if c = 'e' ∨ c = 'E' then
      let (negative, rest) :=
        match rest with
        | '+' :: rest => (false, rest)
        | '-' :: rest => (true, rest)
        | rest => (false, rest)
      (digits? Char.isDigit rest).map fun (ds, rest) =>
        let n : Int := Text.digitsValue ds
        (if negative then -n else n, rest)
    else some (0, c :: rest)
  | [] => some (0, [])

/-- A decimal number after its sign: an integer unless it has a point or an exponent. -/
def decimal? (negative : Bool) (s : List Char) : Option Value := do
  let (whole, rest) ← digits? Char.isDigit s
  if whole.head? = some '0' ∧ 1 < whole.length then none
  if rest.isEmpty then
    let n : Int := Text.digitsValue whole
    return .integer (if negative then -n else n)
  let (fraction, rest) ← fraction? rest
  let (exponent, rest) ← exponent? rest
  if !rest.isEmpty then none
  let x := double? (Text.digitsValue (whole ++ fraction)) (exponent - fraction.length)
  return .double (x.map fun x => if negative then -x else x)

def signed? (negative : Bool) (s : List Char) : Option Value :=
  if s = ['i', 'n', 'f'] then some (.double (some (if negative then -1.0 / 0.0 else 1.0 / 0.0)))
  else if s = ['n', 'a', 'n'] then some (.double (some (0.0 / 0.0)))
  else decimal? negative s

/-- Two digits, which write a number of at most `most`, and what follows them. -/
def twoDigits? (most : Nat) : List Char → Option (Nat × List Char)
  | a :: b :: rest => do
    let n ← Text.nat? [a, b]
    if n ≤ most then some (n, rest) else none
  | _ => none

def skip? (c : Char) : List Char → Option (List Char)
  | d :: rest => if c = d then some rest else none
  | [] => none

/-- The text of a date in front, and what follows it. -/
def date? (s : List Char) : Option (List Char × List Char) := do
  let year ← Text.nat? (s.take 4)
  let rest ← skip? '-' (s.drop 4)
  let (month, rest) ← twoDigits? 12 rest
  let rest ← skip? '-' rest
  let (day, rest) ← twoDigits? 31 rest
  if (s.take 4).length = 4 ∧ (Time.Date.mk year month day).isValid then some (s.take 10, rest)
  else none

/-- The text of seconds, which may be missing, with at most nine digits behind the point. -/
def seconds? : List Char → Option (List Char × List Char)
  | ':' :: rest => do
    let (second, rest) ← twoDigits? 60 rest
    let text := ':' :: Text.padded 2 second
    match rest with
    | '.' :: rest =>
      let ds := rest.takeWhile Char.isDigit
      if ds.isEmpty then none
      let kept := ((ds.take 9).reverse.dropWhile (· == '0')).reverse
      return (text ++ (if kept.isEmpty then [] else '.' :: kept), rest.drop ds.length)
    | rest => return (text, rest)
  | rest => some ([], rest)

/-- The text of a time of day in front, and what follows it. -/
def timeOfDay? (s : List Char) : Option (List Char × List Char) := do
  let (hour, rest) ← twoDigits? 23 s
  let rest ← skip? ':' rest
  let (minute, rest) ← twoDigits? 59 rest
  let (seconds, rest) ← seconds? rest
  return (Text.padded 2 hour ++ ':' :: Text.padded 2 minute ++ seconds, rest)

/-- The distance to UTC, which ends the text if it is there. -/
def zone? : List Char → Option (List Char)
  | [] => some []
  | ['Z'] | ['z'] => some ['Z']
  | sign :: rest => do
    let (hour, rest) ← twoDigits? 23 rest
    let rest ← skip? ':' rest
    let (minute, rest) ← twoDigits? 59 rest
    if (sign = '+' ∨ sign = '-') ∧ rest.isEmpty then
      some (sign :: Text.padded 2 hour ++ ':' :: Text.padded 2 minute)
    else none

def datetime? (s : List Char) : Option Value := do
  match date? s with
  | some (date, []) => return .datetime (String.ofList date)
  | some (date, mark :: rest) =>
    if mark ∉ ['T', 't', ' '] then none
    let (time, rest) ← timeOfDay? rest
    let zone ← zone? rest
    return .datetime (String.ofList (date ++ 'T' :: time ++ zone))
  | none =>
    let (time, rest) ← timeOfDay? s
    if rest.isEmpty then some (.datetime (String.ofList time)) else none

/-- The value of a text without quotes. -/
def scalar? (s : List Char) : Option Value :=
  match s with
  | ['t', 'r', 'u', 'e'] => some (.boolean true)
  | ['f', 'a', 'l', 's', 'e'] => some (.boolean false)
  | '+' :: rest => signed? false rest
  | '-' :: rest => signed? true rest
  | '0' :: 'x' :: rest => integerIn? 16 rest
  | '0' :: 'o' :: rest => integerIn? 8 rest
  | '0' :: 'b' :: rest => integerIn? 2 rest
  | s => (signed? false s).or (datetime? s)

end Logbook.Toml
