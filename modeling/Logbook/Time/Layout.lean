import Logbook.Text.Blank
import Logbook.Text.Digits
import Logbook.Time.Instant

/-!
Reading times that are laid out in a known order. Numbers may be shorter than their width, and
white space in front of them does not matter.
-/

namespace Logbook.Time

inductive Item where
  | literal (c : Char)
  | blanks
  | year
  | month
  | monthName
  | day
  | hour
  | minute
  | second
  /-- Exactly three digits. -/
  | millis
  /-- A sign, hours and minutes: how far the time is ahead of UTC. -/
  | offset
deriving DecidableEq, Repr

/-- What has been read of a time; `offset` is in seconds. -/
structure Stamp where
  year : Int
  month : Nat
  day : Nat
  hour : Nat
  minute : Nat
  second : Nat
  millis : Nat
  offset : Int
deriving DecidableEq, Repr

namespace Stamp

/-- Midnight at the start of a year. -/
def ofYear (year : Int) : Stamp := ⟨year, 1, 1, 0, 0, 0, 0, 0⟩

def date (s : Stamp) : Date := ⟨s.year, s.month, s.day⟩

def isValid (s : Stamp) : Bool :=
  s.date.isValid && s.hour ≤ 23 && s.minute ≤ 59 && s.second ≤ 60 && s.offset.natAbs < 86400

/-- Second 60 lies in the leap second after second 59. -/
def instant? (s : Stamp) : Option Instant :=
  if s.isValid then
    let clock : Int := s.hour * 3600 + s.minute * 60 + min s.second 59
    some ⟨s.date.toDays * 86400 + clock - s.offset, s.millis + 1000 * (s.second - 59)⟩
  else none

end Stamp

/-- A number of at most `width` digits. -/
def number? (width : Nat) (s : List Char) : Option (Nat × List Char) :=
  let digits := (s.take width).takeWhile Char.isDigit
  if digits.isEmpty then none else some (Text.digitsValue digits, s.drop digits.length)

def monthNames : List String :=
  ["jan", "feb", "mar", "apr", "may", "jun", "jul", "aug", "sep", "oct", "nov", "dec"]

/-- A month by the first three letters of its name. -/
def monthName? (s : List Char) : Option (Nat × List Char) :=
  let name := String.ofList ((s.take 3).map Char.toLower)
  (monthNames.findIdx? (· == name)).map fun i => (i + 1, s.drop 3)

def offset? (s : List Char) : Option (Int × List Char) :=
  match s with
  | sign :: h₁ :: h₂ :: m₁ :: m₂ :: rest => do
    let hours ← Text.nat? [h₁, h₂]
    let minutes ← Text.nat? [m₁, m₂]
    if 59 < minutes then none
    let seconds : Int := hours * 3600 + minutes * 60
    if sign = '+' then some (seconds, rest)
    else if sign = '-' then some (-seconds, rest)
    else none
  | _ => none

namespace Item

def read? (item : Item) (stamp : Stamp) (s : List Char) : Option (Stamp × List Char) := do
  match item with
  | literal c => if s.head? = some c then return (stamp, s.drop 1) else none
  | blanks => return (stamp, Text.trimStart s)
  | year => let (n, s) ← number? 4 (Text.trimStart s); return ({ stamp with year := n }, s)
  | month => let (n, s) ← number? 2 (Text.trimStart s); return ({ stamp with month := n }, s)
  | monthName => let (n, s) ← monthName? s; return ({ stamp with month := n }, s)
  | day => let (n, s) ← number? 2 (Text.trimStart s); return ({ stamp with day := n }, s)
  | hour => let (n, s) ← number? 2 (Text.trimStart s); return ({ stamp with hour := n }, s)
  | minute => let (n, s) ← number? 2 (Text.trimStart s); return ({ stamp with minute := n }, s)
  | second => let (n, s) ← number? 2 (Text.trimStart s); return ({ stamp with second := n }, s)
  | millis => let n ← Text.nat? (s.take 3); return ({ stamp with millis := n }, s.drop 3)
  | offset => let (n, s) ← offset? (Text.trimStart s); return ({ stamp with offset := n }, s)

end Item

def readStamp? : List Item → Stamp → List Char → Option Stamp
  | [], stamp, s => if s.isEmpty then some stamp else none
  | item :: rest, stamp, s => do
    let (stamp, s) ← item.read? stamp s
    readStamp? rest stamp s

/-- The instant that a text names, if it follows the layout and there is such a time. What the
layout leaves open is taken from `stamp`. -/
def read? (layout : List Item) (stamp : Stamp) (s : List Char) : Option Instant :=
  (readStamp? layout stamp s).bind Stamp.instant?

end Logbook.Time
