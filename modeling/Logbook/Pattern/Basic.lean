import Logbook.Pattern.Meaning
import Logbook.Pattern.Program
import Logbook.Pattern.Reader
import Logbook.Pattern.Weight

/-!
Patterns ready to match, and what a match captures. A text that is no pattern is refused with
a report; so is a pattern that would need too much room.
-/

namespace Logbook

structure Pattern where
  text : String
  node : Pattern.Node
  /-- The names of groups 1, 2, … in order. -/
  groups : List (Option String)
deriving DecidableEq, Repr

namespace Pattern

inductive Refusal where
  | fault (pattern : String) (f : Fault)
  | tooBig
deriving DecidableEq, Repr

namespace Refusal

def limit : Nat := 10485760

def tooBigText : String :=
  "Compiled regex exceeds size limit of " ++ toString limit ++ " bytes."

/-- The whole report, which may run over several lines. -/
def report : Refusal → String
  | fault pattern f => f.report pattern.toList
  | tooBig => tooBigText

/-- The cause alone, on one line. -/
def reason : Refusal → String
  | fault _ f => f.cause.text
  | tooBig => tooBigText

end Refusal

/-- The names of the groups up to the last one that occurs in the node. -/
def groupList (node : Node) (names : List (Nat × String)) : List (Option String) :=
  (List.range node.lastGroup).map fun i =>
    if node.hasGroup (i + 1) then names.lookup (i + 1) else none

def compile (text : String) : Except Refusal Pattern :=
  match read text.toList with
  | .error f => .error (.fault text f)
  | .ok tree =>
    match tree.node .initial with
    | .error f => .error (.fault text f)
    | .ok (node, _) =>
      if Refusal.limit < node.weight then .error .tooBig
      else .ok ⟨text, node, groupList node tree.groupNames⟩

/-- A match: the text searched, where the match lies, and the captures, the latest first. -/
structure Match where
  text : List Char
  start : Nat
  stop : Nat
  captures : List Capture
deriving DecidableEq, Repr

namespace Match

def slice (m : Match) (start stop : Nat) : List Char := (m.text.drop start).take (stop - start)

def whole (m : Match) : List Char := m.slice m.start m.stop

/-- What a group captured last; group zero is the whole match. -/
def group? (m : Match) (i : Nat) : Option (List Char) :=
  if i = 0 then some m.whole
  else (m.captures.find? fun c => c.index == i).map fun c => m.slice c.start c.stop

/-- The text of a group, empty if the group took no part. -/
def group (m : Match) (i : Nat) : List Char := (m.group? i).getD []

end Match

/-- The leftmost match. Where rounds of loops could be shared out in many ways it is searched by
the program of the pattern. -/
def find? (p : Pattern) (text : List Char) : Option Match :=
  let found :=
    if p.node.nests then
      let (entry, program) := Program.ofNode p.node
      program.search entry ∅ 0 none text
    else p.node.search 0 none text
  found.map fun (start, cur) => ⟨text, start, cur.pos, cur.captures⟩

/-- The number of the group with a name. -/
def groupNamed? (p : Pattern) (name : String) : Option Nat :=
  (p.groups.findIdx? (· == some name)).map (· + 1)

/-- Writes a text so that it is a pattern for itself. -/
def quote (text : List Char) : List Char :=
  text.flatMap fun c => if isMeta c then ['\\', c] else [c]

end Pattern

end Logbook
