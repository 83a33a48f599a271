/-!
Digits and the numbers they write, in bases ten and sixteen.
-/

namespace Logbook.Text

def hexValue? (c : Char) : Option Nat :=
  if '0' ≤ c ∧ c ≤ '9' then some (c.toNat - '0'.toNat)
  else if 'a' ≤ c ∧ c ≤ 'f' then some (c.toNat - 'a'.toNat + 10)
  else if 'A' ≤ c ∧ c ≤ 'F' then some (c.toNat - 'A'.toNat + 10)
  else none

def digitValue (c : Char) : Nat := c.toNat - '0'.toNat

/-- The value of a run of ASCII digits. -/
def digitsValue (s : List Char) : Nat := s.foldl (fun n c => 10 * n + digitValue c) 0

def hexChar (d : Nat) : Char :=
  if d < 10 then Char.ofNat ('0'.toNat + d) else Char.ofNat ('a'.toNat + (d - 10))

/-- The digits of `n`, at least `width` of them. -/
def padded (width n : Nat) : List Char :=
  let digits := Nat.toDigits 10 n
  List.replicate (width - digits.length) '0' ++ digits

/-- The number that ASCII digits write, if there is at least one and nothing else. -/
def nat? (s : List Char) : Option Nat :=
  if !s.isEmpty && s.all Char.isDigit then some (digitsValue s) else none

/-- A number that 32 bits hold. -/
def held32? (n : Nat) : Option Nat := if n < UInt32.size then some n else none

/-- Reads one more digit behind a number. Ten times the number has to fit, and then the sum. -/
def appendDigit? (n : Nat) (c : Char) : Option Nat := do
  let tens ← held32? (10 * n)
  held32? (tens + digitValue c)

/-- The number that ASCII digits write, read digit by digit into 32 bits. -/
def nat32? (s : List Char) : Option Nat :=
  if s.isEmpty then none else s.foldlM appendDigit? 0

end Logbook.Text
