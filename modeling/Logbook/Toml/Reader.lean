import Logbook.Toml.Scalar

/-!
Reading TOML as a sequence of statements: headers of tables, and keys with their values.
-/

namespace Logbook.Toml

/-- A value as written: keys in an inline table are paths. -/
inductive Written where
  | scalar (v : Value)
  | array (items : List Written)
  | inline (entries : List (List String × Written))

inductive Statement where
  | header (path : List String)
  | arrayHeader (path : List String)
  | entry (path : List String) (value : Written)

def isBlank (c : Char) : Bool := c == ' ' || c == '\t'

def skipBlanks (s : List Char) : List Char := s.dropWhile isBlank

/-- Control characters other than tabs stand nowhere in a line. -/
def isPlain (c : Char) : Bool := c == '\t' || (0x20 ≤ c.toNat && c.toNat != 0x7F)

def newline? : List Char → Option (List Char)
  | '\n' :: rest => some rest
  | '\r' :: '\n' :: rest => some rest
  | _ => none

def skipComment (s : List Char) : List Char :=
  if s.head? = some '#' then s.dropWhile isPlain else s

/-- The next line, if only blanks and a comment are left of this one. -/
def nextLine? (s : List Char) : Option (List Char) :=
  match skipComment (skipBlanks s) with
  | [] => some []
  | s => newline? s

/-- Passes over blanks, comments and ends of lines; `n` bounds the number of lines. -/
def skipLines : Nat → List Char → List Char
  | 0, s => s
  | n + 1, s =>
    let s := skipBlanks s
    match newline? (skipComment s) with
    | some rest => skipLines n rest
    | none => if (skipComment s).isEmpty then [] else s

def hexChar? (s : List Char) (count : Nat) : Option (Char × List Char) := do
  let ds ← (s.take count).mapM Text.hexValue?
  let n := ds.foldl (fun n d => 16 * n + d) 0
  if ds.length = count ∧ n.isValidChar then some (Char.ofNat n, s.drop count) else none

/-- The character of an escape, after its backslash. -/
def escape? : List Char → Option (Char × List Char)
  | 'b' :: s => some ('\x08', s)
  | 't' :: s => some ('\t', s)
  | 'n' :: s => some ('\n', s)
  | 'f' :: s => some ('\x0C', s)
  | 'r' :: s => some ('\r', s)
  | 'e' :: s => some ('\x1B', s)
  | '"' :: s => some ('"', s)
  | '\\' :: s => some ('\\', s)
  | 'x' :: s => hexChar? s 2
  | 'u' :: s => hexChar? s 4
  | 'U' :: s => hexChar? s 8
  | _ => none

/-- The rest of a text on one line, up to its closing quote. -/
def singleLine? (quote : Char) : Nat → List Char → Option (List Char × List Char)
  | 0, _ => none
  | _ + 1, [] => none
  | n + 1, c :: s =>
    if c = quote then some ([], s)
    else do
      let (d, s) ←
        if c = '\\' ∧ quote = '"' then escape? s else if isPlain c then some (c, s) else none
      let (ds, s) ← singleLine? quote n s
      return (d :: ds, s)

/-- Behind a backslash that ends a line, all white space is left out. -/
def joined? (n : Nat) (s : List Char) : Option (List Char) :=
  (newline? (skipBlanks s)).map fun rest => skipSpace n rest
where
  skipSpace : Nat → List Char → List Char
    | 0, s => s
    | n + 1, s =>
      match newline? (skipBlanks s) with
      | some rest => skipSpace n rest
      | none => skipBlanks s

/-- The rest of a text over many lines. One or two quotes may stand inside or before the end. -/
def multiLine? (quote : Char) : Nat → List Char → Option (List Char × List Char)
  | 0, _ => none
  | _ + 1, [] => none
  | n + 1, c :: s =>
    if c = quote ∧ [quote, quote].isPrefixOf s then
      let quotes := (s.takeWhile (· == quote)).length + 1
      if 5 < quotes then none
      else some (List.replicate (quotes - 3) quote, s.drop (quotes - 1))
    else if let some s := newline? (c :: s) then
      (multiLine? quote n s).map fun (ds, s) => ('\n' :: ds, s)
    else
      let isEscape := c = '\\' ∧ quote = '"'
      let afterJoin := if isEscape then joined? n s else none
      match afterJoin with
      | some s => multiLine? quote n s
      | none => do
        let (d, s) ← if isEscape then escape? s else if isPlain c then some (c, s) else none
        let (ds, s) ← multiLine? quote n s
        return (d :: ds, s)

/-- The rest of a text after its first quote. -/
def quoted? (quote : Char) (s : List Char) : Option (String × List Char) := do
  let (ds, s) ←
    match s with
    | a :: b :: rest =>
      if a = quote ∧ b = quote then
        multiLine? quote (s.length + 1) ((newline? rest).getD rest)
      else singleLine? quote (s.length + 1) s
    | _ => singleLine? quote (s.length + 1) s
  return (String.ofList ds, s)

def isBare (c : Char) : Bool := c.isAlphanum || c == '_' || c == '-'

def simpleKey? (s : List Char) : Option (String × List Char) :=
  match s with
  | [] => none
  | c :: rest =>
    if c = '"' ∨ c = '\'' then
      (singleLine? c (rest.length + 1) rest).map fun (ds, s) => (String.ofList ds, s)
    else
      let name := s.takeWhile isBare
      if name.isEmpty then none else some (String.ofList name, s.drop name.length)

/-- Keys with points between them. -/
def path? : Nat → List Char → Option (List String × List Char)
  | 0, _ => none
  | n + 1, s => do
    let (key, s) ← simpleKey? (skipBlanks s)
    match skipBlanks s with
    | '.' :: s =>
      let (keys, s) ← path? n s
      return (key :: keys, s)
    | s => return ([key], s)

def isScalarChar (c : Char) : Bool := c.isAlphanum || c ∈ ['+', '-', '_', '.', ':']

/-- A value without quotes. A blank may divide a date from a time. -/
def unquoted? (s : List Char) : Option (Value × List Char) :=
  let run := s.takeWhile isScalarChar
  let rest := s.drop run.length
  let time := (rest.drop 1).takeWhile isScalarChar
  if (date? run).any (·.2.isEmpty) ∧ rest.head? = some ' ' ∧ time.head?.any Char.isDigit then
    (scalar? (run ++ ' ' :: time)).map fun v => (v, rest.drop (time.length + 1))
  else (scalar? run).map fun v => (v, rest)

/-- How deep arrays and inline tables may nest. -/
def depthLimit : Nat := 80

mutual

def value? : Nat → Nat → List Char → Option (Written × List Char)
  | 0, _, _ => none
  | n + 1, room, s =>
    match s with
    | [] => none
    | c :: rest =>
      if c = '"' ∨ c = '\'' then
        (quoted? c rest).map fun (t, s) => (.scalar (.string t), s)
      else if c = '[' then
        if room = 0 then none
        else (items? n (room - 1) rest).map fun (items, s) => (.array items, s)
      else if c = '\x7b' then
        if room = 0 then none
        else (entries? n (room - 1) rest).map fun (entries, s) => (.inline entries, s)
      else (unquoted? s).map fun (v, s) => (.scalar v, s)

/-- The items of an array up to its end. -/
def items? : Nat → Nat → List Char → Option (List Written × List Char)
  | 0, _, _ => none
  | n + 1, room, s =>
    match skipLines s.length s with
    | ']' :: s => some ([], s)
    | s => do
      let (v, s) ← value? n room s
      match skipLines s.length s with
      | ',' :: s =>
        let (vs, s) ← items? n room s
        return (v :: vs, s)
      | ']' :: s => return ([v], s)
      | _ => none

/-- The entries of an inline table up to its end. -/
def entries? : Nat → Nat → List Char → Option (List (List String × Written) × List Char)
  | 0, _, _ => none
  | n + 1, room, s =>
    match skipLines s.length s with
    | '\x7d' :: s => some ([], s)
    | s => do
      let (path, s) ← path? s.length s
      let s ← skip? '=' s
      let (v, s) ← value? n room (skipBlanks s)
      match skipLines s.length s with
      | ',' :: s =>
        let (es, s) ← entries? n room s
        return ((path, v) :: es, s)
      | '\x7d' :: s => return ([(path, v)], s)
      | _ => none

end

def statement? (s : List Char) : Option (Statement × List Char) :=
  match s with
  | '[' :: '[' :: s => do
    let (path, s) ← path? s.length s
    return (.arrayHeader path, ← skip? ']' (← skip? ']' s))
  | '[' :: s => do
    let (path, s) ← path? s.length s
    return (.header path, ← skip? ']' s)
  | s => do
    let (path, s) ← path? s.length s
    let s := skipBlanks (← skip? '=' s)
    let (v, s) ← value? (2 * s.length + 2) depthLimit s
    return (.entry path v, s)

def statementSteps : Nat → List Char → Option (List Statement)
  | 0, _ => none
  | n + 1, s =>
    match skipBlanks s with
    | [] => some []
    | s =>
      match nextLine? s with
      | some s => statementSteps n s
      | none => do
        let (statement, s) ← statement? s
        return statement :: (← statementSteps n (← nextLine? s))

/-- The statements of a text, which may begin with a byte order mark. -/
def statements? (s : List Char) : Option (List Statement) :=
  let s := if s.head? = some '\uFEFF' then s.drop 1 else s
  statementSteps (s.length + 1) s

end Logbook.Toml
