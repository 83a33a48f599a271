/-!
Offsets into a text, counted in the bytes that encode what stands before them. An offset between the
bytes of one character, or beyond the text, is no place to cut at.
-/

namespace Logbook.Text

/-- The number of bytes that encode a text. -/
def byteLength : List Char → Nat
  | [] => 0
  | c :: rest => c.utf8Size + byteLength rest

/-- What stands before and behind an offset. -/
def cutOffset? (offset : Nat) : List Char → Option (List Char × List Char)
  | [] => if offset = 0 then some ([], []) else none
  | c :: rest =>
    if offset = 0 then some ([], c :: rest)
    else if c.utf8Size ≤ offset then
      (cutOffset? (offset - c.utf8Size) rest).map fun (before, after) => (c :: before, after)
    else none

/-- What stands from one offset to another. -/
def slice? (start stop : Nat) (s : List Char) : Option (List Char) := do
  let (before, _) ← cutOffset? stop s
  let (_, part) ← cutOffset? start before
  return part

/-- The offset of the first occurrence of a character. -/
def offsetOf? (c : Char) : List Char → Option Nat
  | [] => none
  | d :: rest => if d = c then some 0 else (offsetOf? c rest).map (d.utf8Size + ·)

end Logbook.Text
