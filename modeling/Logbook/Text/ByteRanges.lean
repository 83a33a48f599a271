import Logbook.Text.Ranges

/-!
The encodings of a range of characters in UTF-8, as the fewest sequences of ranges of bytes. The
sequences ascend, so those that begin alike stand together.
-/

namespace Logbook.Text

/-- A sequence of ranges of bytes: one byte from each. -/
abbrev ByteRanges := List (Nat × Nat)

namespace ByteRanges

/-- The bytes behind a first one, each with six bits. -/
def anyFollowing (n : Nat) : ByteRanges := List.replicate n (0x80, 0xBF)

/-- The values from `lo` to `hi`, written as a first byte above `base` and `n` bytes behind it. -/
def spread (base : Nat) : Nat → Nat → Nat → List ByteRanges
  | 0, lo, hi => [[(base + lo, base + hi)]]
  | n + 1, lo, hi =>
    let size := Nat.pow 0x40 (n + 1)
    let first := lo / size
    let last := hi / size
    let startsWith := fun lead lo hi =>
      (spread 0x80 n lo hi).map fun s => (base + lead, base + lead) :: s
    if first = last then startsWith first (lo % size) (hi % size)
    else
      let whole := lo % size = 0
      let full := hi % size = size - 1
      let low := if whole then first else first + 1
      let high := if full then last + 1 else last
      (if whole then [] else startsWith first (lo % size) (size - 1)) ++
        (if low < high then [(base + low, base + high - 1) :: anyFollowing (n + 1)] else []) ++
        (if full then [] else startsWith last 0 (hi % size))

/-- The characters with encodings of one length and the first byte that the length adds to. The
surrogates, which are no characters, lie between two of them. -/
def planes : List (Nat × Nat × Nat × Nat) :=
  [(0, 0x7F, 0, 0), (0x80, 0x7FF, 0xC0, 1), (0x800, 0xD7FF, 0xE0, 2), (0xE000, 0xFFFF, 0xE0, 2),
   (0x10000, 0x10FFFF, 0xF0, 3)]

/-- The encodings of the characters from `lo` to `hi`. -/
def ofRange (lo hi : Nat) : List ByteRanges :=
  planes.flatMap fun (low, high, base, count) =>
    let lo := max lo low
    let hi := min hi high
    if lo ≤ hi then spread base count lo hi else []

def ofRanges (r : Ranges) : List ByteRanges := r.flatMap fun (lo, hi) => ofRange lo hi

/-- How many ranges of a sequence come before it parts from another. -/
def shared : ByteRanges → ByteRanges → Nat
  | a :: s, b :: t => if a = b then shared s t + 1 else 0
  | _, _ => 0

/-- The edges of the tree of sequences that ascend, below a sequence that is in it. -/
def edgesAfter (previous : ByteRanges) : List ByteRanges → Nat
  | [] => 0
  | s :: rest => s.length - shared previous s + edgesAfter s rest

def edges (sequences : List ByteRanges) : Nat := edgesAfter [] sequences

end ByteRanges

end Logbook.Text
