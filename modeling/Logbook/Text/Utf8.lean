/-!
UTF-8: what characters a sequence of bytes encodes, and which parts of it encode none. A part
that encodes none is a byte that begins no character, or as much of the encoding of a character
as there is.
-/

namespace Logbook.Text.Utf8

/-- The bytes that encode a text. -/
def encode (text : String) : List UInt8 := text.toUTF8.data.toList

/-- What a first byte asks for: how many bytes follow, the bits of the character it holds, and
the range of the byte behind it. -/
structure Lead where
  count : Nat
  bits : Nat
  low : Nat
  high : Nat
deriving DecidableEq, Repr

/-- Ranges are narrower where the encoding would be too long, a surrogate or beyond U+10FFFF. -/
def lead? (b : Nat) : Option Lead :=
  if b < 0x80 then some ⟨0, b, 0, 0⟩
  else if b < 0xC2 then none
  else if b < 0xE0 then some ⟨1, b - 0xC0, 0x80, 0xBF⟩
  else if b = 0xE0 then some ⟨2, 0, 0xA0, 0xBF⟩
  else if b = 0xED then some ⟨2, 0xD, 0x80, 0x9F⟩
  else if b < 0xF0 then some ⟨2, b - 0xE0, 0x80, 0xBF⟩
  else if b = 0xF0 then some ⟨3, 0, 0x90, 0xBF⟩
  else if b < 0xF4 then some ⟨3, b - 0xF0, 0x80, 0xBF⟩
  else if b = 0xF4 then some ⟨3, 4, 0x80, 0x8F⟩
  else none

/-- Reads the bytes behind the first one: the character, if they are all there, and the rest. -/
def follow : Nat → Nat → Nat → Nat → List UInt8 → Option Char × List UInt8
  | 0, bits, _, _, bytes => (some (Char.ofNat bits), bytes)
  | _ + 1, _, _, _, [] => (none, [])
  | n + 1, bits, low, high, b :: rest =>
    if low ≤ b.toNat ∧ b.toNat ≤ high then
      follow n (0x40 * bits + b.toNat % 0x40) 0x80 0xBF rest
    else (none, b :: rest)

/-- The first character of a sequence, and what follows it. -/
def step (b : UInt8) (rest : List UInt8) : Option Char × List UInt8 :=
  match lead? b.toNat with
  | none => (none, rest)
  | some lead => follow lead.count lead.bits lead.low lead.high rest

def decodeSteps : Nat → List UInt8 → List (Option Char)
  | 0, _ => []
  | _ + 1, [] => []
  | n + 1, b :: rest =>
    let (c, rest) := step b rest
    c :: decodeSteps n rest

/-- The characters in order, `none` for a part that encodes none. -/
def decode (bytes : List UInt8) : List (Option Char) := decodeSteps bytes.length bytes

/-- The text, if all of it is encoded. -/
def decode? (bytes : List UInt8) : Option String := ((decode bytes).mapM id).map String.ofList

/-- The text with a replacement character for every part that encodes none. -/
def decodeLossy (bytes : List UInt8) : String :=
  String.ofList ((decode bytes).map fun c => c.getD '\uFFFD')

end Logbook.Text.Utf8
