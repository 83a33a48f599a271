/-!
Decimals and their two ways of being written, with a point or with an exponent.
-/

namespace Logbook

/-- `digits · 10 ^ exponent` -/
structure Decimal where
  digits : Nat
  exponent : Int
deriving DecidableEq, Repr

namespace Decimal

def digitChars (d : Decimal) : List Char := Nat.toDigits 10 d.digits

/-- The exponent of the first digit. -/
def power (d : Decimal) : Int := d.exponent + (d.digitChars.length - 1 : Nat)

/-- Digits with a point `places` digits from the left, which are at least one; zeros fill up. -/
def pointed (ds : List Char) (places : Nat) : List Char :=
  let fraction := ds.drop places
  ds.take places ++ List.replicate (places - ds.length) '0' ++ ['.'] ++
    (if fraction.isEmpty then ['0'] else fraction)

/-- With a point and a digit on either side of it. -/
def positional (d : Decimal) : List Char :=
  if 0 ≤ d.power then pointed d.digitChars (d.power.toNat + 1)
  else '0' :: '.' :: List.replicate (d.power.natAbs - 1) '0' ++ d.digitChars

/-- With an exponent that has a sign, and a point behind the first of several digits. -/
def scientific (d : Decimal) : List Char :=
  let significand := if d.digitChars.length ≤ 1 then d.digitChars else pointed d.digitChars 1
  significand ++ ['e', if d.power < 0 then '-' else '+'] ++ Nat.toDigits 10 d.power.natAbs

end Decimal

end Logbook
