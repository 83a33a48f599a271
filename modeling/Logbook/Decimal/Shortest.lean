import Logbook.Decimal.Basic

/-!
The shortest decimal of a double: the fewest digits that lie among the reals which round to it,
of these the nearest to it, and of two equally near ones the even one. The search goes from a
grid of powers of ten above the value to finer ones, and on every grid looks at the two
neighbours of the value.
-/

namespace Logbook.Decimal

/-- A positive double `mantissa · 2 ^ exponent`. -/
structure Binary where
  mantissa : Nat
  exponent : Int
deriving DecidableEq, Repr

namespace Binary

/-- The least exponent of a double. -/
def leastExponent : Int := -1074

/-- The bit of the mantissa that is not written. -/
def hiddenBit : Nat := 0x10000000000000

def ofFloat (x : Float) : Binary :=
  let bits := x.toBits.toNat
  let fraction := bits % hiddenBit
  let e : Nat := bits / hiddenBit % 0x800
  if e = 0 then ⟨fraction, leastExponent⟩
  else ⟨hiddenBit + fraction, leastExponent + (e - 1 : Nat)⟩

/-- Below a power of two the doubles lie twice as close. -/
def gapBelow (b : Binary) : Nat :=
  if b.mantissa = hiddenBit ∧ b.exponent ≠ leastExponent then 1 else 2

/-- A power of ten above the value. -/
def magnitude (b : Binary) : Int :=
  Int.fdiv ((b.exponent + b.mantissa.log2 + 1) * 30103) 100000 + 1

/-- The multiple of `10 ^ k` that stands for `b`, if there is one: all lengths are in quarters of
the last place of `b`, times `num` over `den`. -/
def onGrid? (b : Binary) (k : Int) : Option Nat :=
  let num := Nat.pow 2 (b.exponent - 2).toNat * Nat.pow 10 (-k).toNat
  let den := Nat.pow 2 (2 - b.exponent).toNat * Nat.pow 10 k.toNat
  let value := 4 * b.mantissa * num
  let low := (4 * b.mantissa - b.gapBelow) * num
  let high := (4 * b.mantissa + 2) * num
  let fits (c : Nat) : Bool :=
    if b.mantissa % 2 = 0 then low ≤ c * den && c * den ≤ high
    else low < c * den && c * den < high
  let below := value / den
  let nearer : Nat :=
    let twice := 2 * (value % den)
    if twice < den ∨ (twice = den ∧ below % 2 = 0) then below else below + 1
  let other : Nat := if nearer = below then below + 1 else below
  [nearer, other].find? fun c => 0 < c && fits c

def search (b : Binary) (k : Int) : Nat → Decimal
  | 0 => ⟨0, 0⟩
  | n + 1 =>
    match b.onGrid? k with
    | some c => ⟨c, k⟩
    | none => search b (k - 1) n

end Binary

/-- The shortest decimal of a positive double. -/
def shortest (x : Float) : Decimal :=
  let b := Binary.ofFloat x
  b.search b.magnitude 20

end Logbook.Decimal
