/-!
Sets of characters given as closed ranges of code points in ascending order.
Membership stops at the first range that begins above the code point, so small
code points are decided after a few comparisons however long the table is.
-/

namespace Logbook.Text

/-- Closed ranges of code points, ascending and apart. -/
abbrev Ranges := List (Nat × Nat)

namespace Ranges

def has : Ranges → Nat → Bool
  | [], _ => false
  | (lo, hi) :: rest, n => if n < lo then false else n ≤ hi || has rest n

/-- The set has one character. -/
def isSingle : Ranges → Bool
  | [(lo, hi)] => lo == hi
  | _ => false

/-- Joins a range with those behind it that overlap it or follow on it. -/
def joinFrom (lo hi : Nat) : Ranges → Ranges
  | [] => [(lo, hi)]
  | (lo', hi') :: rest =>
    if lo' ≤ hi + 1 then joinFrom lo (max hi hi') rest else (lo, hi) :: joinFrom lo' hi' rest

/-- Puts a range in front of those that do not begin below it. -/
def insert (range : Nat × Nat) : Ranges → Ranges
  | [] => [range]
  | next :: rest =>
    if range.1 ≤ next.1 then range :: next :: rest else next :: insert range rest

/-- The same set with its ranges ascending and apart. -/
def normalize (r : Ranges) : Ranges :=
  match r.foldr insert [] with
  | [] => []
  | (lo, hi) :: rest => joinFrom lo hi rest

def union (r s : Ranges) : Ranges := normalize (r ++ s)

/-- The code points from `start` on that the set lacks. -/
def gapsFrom (start : Nat) : Ranges → Ranges
  | [] => if start ≤ 0x10FFFF then [(start, 0x10FFFF)] else []
  | (lo, hi) :: rest =>
    if start < lo then (start, lo - 1) :: gapsFrom (hi + 1) rest
    else gapsFrom (max start (hi + 1)) rest

def complement (r : Ranges) : Ranges := gapsFrom 0 r

def inter (r s : Ranges) : Ranges := complement (union (complement r) (complement s))

end Ranges

end Logbook.Text
