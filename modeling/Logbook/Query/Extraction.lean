import Logbook.Pattern.Basic
import Logbook.Query.Command
import Logbook.Query.Error
import Logbook.Text.Blank
import Logbook.Text.Cut

/-!
Extraction: the pattern that a `parse` stage stands for, and the texts it captures. In a glob
every star captures; all but the last take as little as they can, the last as much.
-/

namespace Logbook.Query

open Text (cutLast?)

/-- The body and the flags of a pattern written as `/body/flags`; flags are ASCII letters. -/
def regexLiteral? : List Char → Option (List Char × List Char)
  | '/' :: rest =>
    match cutLast? ['/'] rest with
    | some (body, flags) => if flags.all Char.isAlpha then some (body, flags) else none
    | none => none
  | _ => none

/-- The text of the pattern for the pieces between the stars of a glob. -/
def globPieces : List (List Char) → List Char
  | [] => []
  | [last] => Pattern.quote last
  | [p, last] => Pattern.quote p ++ "(.*)".toList ++ Pattern.quote last
  | p :: rest => Pattern.quote p ++ "(.*?)".toList ++ globPieces rest

def globSource (glob : List Char) : List Char := globPieces (glob.splitOn '*')

/-- The items of a list separated by commas, without blank ones. -/
def listItems (s : List Char) : List (List Char) := Text.pieces ',' s

namespace Extraction

def names (e : Extraction) : List String := (listItems e.nameList.toList).map String.ofList

/-- The text of the pattern that is matched. -/
def source (e : Extraction) : String :=
  let literal := if e.isRegex then regexLiteral? e.pattern.toList else none
  String.ofList <|
    match literal with
    | some (body, []) => body
    | some (body, flags) => ['(', '?'] ++ flags ++ [')'] ++ body
    | none => globSource e.pattern.toList

def compile (e : Extraction) : Except Error Pattern :=
  match Pattern.compile e.source with
  | .ok p => .ok p
  | .error refusal => .error (.invalidPattern e.pattern refusal.reason)

/-- A group is stored under its own name, or else under the name at its place in the list. -/
def keys (e : Extraction) (p : Pattern) : List (Option String) :=
  p.groups.zipIdx.map fun (name, i) => name <|> e.names[i]?

/-- Name and text of every group that has a name and took part. -/
def captured (keys : List (Option String)) (m : Pattern.Match) : List (String × String) :=
  (keys.zipIdx 1).filterMap fun (key, i) => do
    return (← key, String.ofList (← m.group? i))

/-- The texts captured, in the order of the groups; nothing if the pattern does not match. -/
def extract (e : Extraction) (text : String) : Except Error (List (String × String)) := do
  let p ← e.compile
  match p.find? text.toList with
  | none => return []
  | some m => return captured (e.keys p) m

end Extraction

end Logbook.Query
