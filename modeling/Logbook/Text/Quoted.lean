import Logbook.Text.Property

/-!
Texts in quotes, with escapes for quotes, backslashes and what cannot be shown or would change
the character before it.
-/

namespace Logbook.Text

/-- The categories of characters that show nothing. -/
def unshownCategories : List String := ["cc", "cf", "cn", "co", "zl", "zp", "zs"]

/-- Whether a set that may be missing has a character. -/
def belongs (c : Char) (r : Option Ranges) : Bool := r.any (·.has c.toNat)

/-- Whether a character stands for itself between quotes. -/
def isShown (c : Char) : Bool :=
  if c.toNat < 0x7F then 0x20 ≤ c.toNat
  else !(unshownCategories.any fun name => belongs c (Property.category? name)) &&
    !belongs c (Property.binary? "graphemeextend")

def hexDigits (n : Nat) : List Char := Nat.toDigits 16 n

def quotedChar (c : Char) : List Char :=
  match c with
  | '\x00' => ['\\', '0']
  | '\t' => ['\\', 't']
  | '\n' => ['\\', 'n']
  | '\r' => ['\\', 'r']
  | '"' => ['\\', '"']
  | '\\' => ['\\', '\\']
  | c =>
    if isShown c then [c] else ['\\', 'u', '\x7b'] ++ hexDigits c.toNat ++ ['\x7d']

def quoted (s : String) : String := String.ofList ('"' :: s.toList.flatMap quotedChar ++ ['"'])

end Logbook.Text
