import Logbook.Text.Digits
import Logbook.Time.Date

/-!
Points in time, to the millisecond, and their text: `2024-02-08T10:30:00.000Z`.
-/

namespace Logbook.Time

/-- Seconds since 1970 in UTC, and milliseconds on top of them: a thousand of them or more lie in
the leap second that follows. -/
structure Instant where
  seconds : Int
  millis : Nat
deriving DecidableEq, Repr

namespace Instant

def ofMillis (n : Int) : Instant := ⟨n / 1000, (n % 1000).toNat⟩

/-- From the first second of the year -262143 to the last one of the year 262142. -/
def isRepresentable (t : Instant) : Bool :=
  -8334601228800 ≤ t.seconds && t.seconds ≤ 8210266876799

def date (t : Instant) : Date := .ofDays (t.seconds / 86400)

def secondOfDay (t : Instant) : Nat := (t.seconds % 86400).toNat

/-- Four digits; other years have a sign and at least four. -/
def yearText (year : Int) : List Char :=
  if 0 ≤ year ∧ year ≤ 9999 then Text.padded 4 year.toNat
  else (if year < 0 then '-' else '+') :: Text.padded 4 year.natAbs

def chars (t : Instant) : List Char :=
  let d := t.date
  let s := t.secondOfDay
  yearText d.year ++ '-' :: Text.padded 2 d.month ++ '-' :: Text.padded 2 d.day ++
    'T' :: Text.padded 2 (s / 3600) ++ ':' :: Text.padded 2 (s / 60 % 60) ++
    ':' :: Text.padded 2 (s % 60 + t.millis / 1000) ++
    '.' :: Text.padded 3 (t.millis % 1000) ++ ['Z']

def text (t : Instant) : String := String.ofList t.chars

end Instant

end Logbook.Time
