/-!
Cutting a text at a separator: around its first occurrence, or around its last.
-/

namespace Logbook.Text

/-- What stands before and after the first occurrence of `sep`. -/
def cut? (sep : List Char) (s : List Char) : Option (List Char × List Char) :=
  match sep.isPrefixOf? s with
  | some after => some ([], after)
  | none =>
    match s with
    | [] => none
    | c :: rest => (cut? sep rest).map fun (before, after) => (c :: before, after)

/-- What stands before and after the last occurrence of `sep`. -/
def cutLast? (sep : List Char) : List Char → Option (List Char × List Char)
  | [] => none
  | c :: rest =>
    match cutLast? sep rest with
    | some (before, after) => some (c :: before, after)
    | none => (sep.isPrefixOf? (c :: rest)).map fun after => ([], after)

/-- What stands before and after the first character that `p` accepts. -/
def cutAt? (p : Char → Bool) : List Char → Option (List Char × List Char)
  | [] => none
  | c :: rest =>
    if p c then some ([], rest)
    else (cutAt? p rest).map fun (before, after) => (c :: before, after)

def occurs (sep s : List Char) : Bool := (cut? sep s).isSome

end Logbook.Text
