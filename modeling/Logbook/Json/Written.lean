import Logbook.Json.Reader
import Logbook.Json.Writer

/-!
The texts that write a value. White space may stand around every value, key and mark, a character
of a string is written as it is or as any escape for it, and members come in any order. How deep
values nest does not matter here.
-/

namespace Logbook.Json

/-- White space between what counts. -/
def IsLayout (s : List Char) : Prop := ∀ c ∈ s, isSpace c = true

instance (s : List Char) : Decidable (IsLayout s) :=
  List.decidableBAll (fun c => isSpace c = true) s

/-- The characters that have a letter, or themselves, behind a backslash. -/
def lettered : List (Char × Char) :=
  [('"', '"'), ('\\', '\\'), ('/', '/'), ('b', '\x08'), ('f', '\x0C'), ('n', '\n'), ('r', '\r'),
    ('t', '\t')]

/-- Four hexadecimal digits and their number. -/
inductive WritesUnit : Nat → List Char → Prop where
  | digits {a b c d : Char} {i j k l : Nat} (ha : Text.hexValue? a = some i)
      (hb : Text.hexValue? b = some j) (hc : Text.hexValue? c = some k)
      (hd : Text.hexValue? d = some l) :
      WritesUnit (16 * (16 * (16 * i + j) + k) + l) [a, b, c, d]

/-- A character inside a string. -/
inductive WritesChar : Char → List Char → Prop where
  | plain {c : Char} (hquote : c ≠ '"') (hslash : c ≠ '\\') (hcontrol : 0x20 ≤ c.toNat) :
      WritesChar c [c]
  | letter {letter c : Char} (h : (letter, c) ∈ lettered) : WritesChar c ['\\', letter]
  | unit {c : Char} {t : List Char} (h : WritesUnit c.toNat t) : WritesChar c ('\\' :: 'u' :: t)
  /-- A character beyond U+FFFF takes two numbers. -/
  | pair {c : Char} {high low : Nat} {t u : List Char} (h : WritesUnit high t)
      (hlow : WritesUnit low u) (hhigh : isHighSurrogate high = true)
      (hsecond : isLowSurrogate low = true)
      (hc : c.toNat = 0x10000 + (high - 0xD800) * 0x400 + (low - 0xDC00)) :
      WritesChar c ('\\' :: 'u' :: (t ++ '\\' :: 'u' :: u))

inductive WritesChars : List Char → List Char → Prop where
  | nil : WritesChars [] []
  | cons {c : Char} {cs t u : List Char} (hc : WritesChar c t) (h : WritesChars cs u) :
      WritesChars (c :: cs) (t ++ u)

/-- A string in its quotes. -/
inductive WritesString : String → List Char → Prop where
  | quoted {s : String} {t : List Char} (h : WritesChars s.toList t) :
      WritesString s ('"' :: t ++ ['"'])

/-- A number is what it is read as when nothing follows. -/
inductive WritesNumber : Number → List Char → Prop where
  | unsigned {m : Number} {t : List Char} (h : number .use false t = .ok (m, [])) :
      WritesNumber m t
  | negative {m : Number} {t : List Char} (h : number .use true t = .ok (m, [])) :
      WritesNumber m ('-' :: t)

/-- A key and the colon behind it. -/
inductive WritesKey : String → List Char → Prop where
  | key {k : String} {a t b c : List Char} (ha : IsLayout a) (hk : WritesString k t)
      (hb : IsLayout b) (hc : IsLayout c) : WritesKey k (a ++ t ++ b ++ ':' :: c)

/-- What a stretch of text can write: a value, or all that is inside an array or object. -/
inductive Part where
  | value (v : Value)
  | items (vs : List Value)
  | members (ms : Members)

/-- The texts of a value, and those of what is inside an array or object that is not empty. -/
inductive Writes : Part → List Char → Prop where
  | null : Writes (.value .null) ['n', 'u', 'l', 'l']
  | bool (b : Bool) : Writes (.value (.bool b)) (Value.boolText b)
  | number {m : Number} {t : List Char} (h : WritesNumber m t) : Writes (.value (.number m)) t
  | string {s : String} {t : List Char} (h : WritesString s t) : Writes (.value (.string s)) t
  | emptyArray {a : List Char} (ha : IsLayout a) : Writes (.value (.array [])) ('[' :: a ++ [']'])
  | array {vs : List Value} {t : List Char} (h : Writes (.items vs) t) :
      Writes (.value (.array vs)) ('[' :: t ++ [']'])
  | emptyObject {a : List Char} (ha : IsLayout a) :
      Writes (.value (.object [])) ('\x7b' :: a ++ ['\x7d'])
  | object {ms : Members} {t : List Char} (h : Writes (.members ms) t) :
      Writes (.value (.object ms)) ('\x7b' :: t ++ ['\x7d'])
  | item {v : Value} {a t b : List Char} (ha : IsLayout a) (hv : Writes (.value v) t)
      (hb : IsLayout b) : Writes (.items [v]) (a ++ t ++ b)
  | items {v : Value} {vs : List Value} {a t b u : List Char} (ha : IsLayout a)
      (hv : Writes (.value v) t) (hb : IsLayout b) (hvs : Writes (.items vs) u) :
      Writes (.items (v :: vs)) (a ++ t ++ b ++ ',' :: u)
  | member {k : String} {v : Value} {s t b : List Char} (hk : WritesKey k s)
      (hv : Writes (.value v) t) (hb : IsLayout b) : Writes (.members [(k, v)]) (s ++ t ++ b)
  | members {k : String} {v : Value} {ms : Members} {s t b u : List Char} (hk : WritesKey k s)
      (hv : Writes (.value v) t) (hb : IsLayout b) (hms : Writes (.members ms) u) :
      Writes (.members ((k, v) :: ms)) (s ++ t ++ b ++ ',' :: u)

/-- A text that holds one value and nothing else. -/
inductive IsTextOf (v : Value) (text : String) : Prop where
  | around {a t b : List Char} (ha : IsLayout a) (hv : Writes (.value v) t) (hb : IsLayout b)
      (h : text.toList = a ++ t ++ b)

end Logbook.Json
