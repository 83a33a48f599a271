import Logbook.Toml.Reader

/-!
The tables that statements build up. A table has one header at most; a header may still open a
table that only paths of other headers have mentioned. Keys with points add to tables that such
keys have made, and inline tables stay as they are.
-/

namespace Logbook.Toml

/-- How a table came to be. -/
inductive Origin where
  | header
  /-- Mentioned on the way to another header. -/
  | implied
  /-- Made by keys with points. -/
  | dotted
  | inline
deriving DecidableEq, Repr

inductive Node where
  | scalar (v : Value)
  | array (items : List Node)
  | table (origin : Origin) (members : List (String × Node))
  /-- An array of tables: those that are finished, the last one first, and the current one. -/
  | tables (finished : List (List (String × Node))) (current : List (String × Node))

abbrev Members := List (String × Node)

namespace Members

def set (key : String) (node : Node) : Members → Members
  | [] => [(key, node)]
  | (k, v) :: rest => if key = k then (k, node) :: rest else (k, v) :: Members.set key node rest

/-- Adds a key that must be new. -/
def add? (key : String) (node : Node) (ms : Members) : Option Members :=
  if (ms.lookup key).isSome then none else some (Members.set key node ms)

/-- Changes the table at the end of a path; tables on the way are made where they are missing.
On the way of a key with points stand only tables without a header, or current ones in arrays. -/
def change? (isDotted : Bool) (f : Origin → Members → Option Members) :
    Origin → List String → Members → Option Members
  | origin, [], ms => f origin ms
  | _, key :: path, ms =>
    match ms.lookup key with
    | none => do
      let origin := if isDotted then Origin.dotted else .implied
      let sub ← change? isDotted f origin path []
      return Members.set key (.table origin sub) ms
    | some (.table origin sub) => do
      if origin = .inline ∨ (isDotted ∧ origin = .header) then none
      let sub ← change? isDotted f origin path sub
      return Members.set key (.table origin sub) ms
    | some (.tables finished current) => do
      let current ← change? isDotted f .header path current
      return Members.set key (.tables finished current) ms
    | some _ => none

/-- Adds a key with points. -/
def enter? (path : List String) (node : Node) (ms : Members) : Option Members := do
  let key ← path.getLast?
  let way := path.dropLast
  change? true
    (fun origin ms => if !way.isEmpty ∧ origin ≠ .dotted then none else add? key node ms)
    .header way ms

/-- The header of a table. -/
def openTable? (key : String) (ms : Members) : Option Members :=
  match ms.lookup key with
  | none => some (Members.set key (.table .header []) ms)
  | some (.table .implied sub) => some (Members.set key (.table .header sub) ms)
  | some _ => none

/-- The header of a table in an array of tables. -/
def openItem? (key : String) (ms : Members) : Option Members :=
  match ms.lookup key with
  | none => some (Members.set key (.tables [] []) ms)
  | some (.tables finished current) =>
    some (Members.set key (.tables (current :: finished) []) ms)
  | some _ => none

end Members

mutual

def Written.node? : Written → Option Node
  | .scalar v => some (.scalar v)
  | .array items => (itemNodes? items).map .array
  | .inline entries => (entryNodes? [] entries).map (.table .inline)

def itemNodes? : List Written → Option (List Node)
  | [] => some []
  | v :: rest => do return (← v.node?) :: (← itemNodes? rest)

def entryNodes? (ms : Members) : List (List String × Written) → Option Members
  | [] => some ms
  | (path, v) :: rest => do entryNodes? (← Members.enter? path (← v.node?) ms) rest

end

/-- All tables, and the path of the one whose header came last. -/
structure Document where
  root : Members
  current : List String

namespace Document

def step? (d : Document) : Statement → Option Document
  | .header path => do
    let key ← path.getLast?
    let root ← Members.change? false (fun _ => Members.openTable? key) .header path.dropLast d.root
    return ⟨root, path⟩
  | .arrayHeader path => do
    let key ← path.getLast?
    let root ← Members.change? false (fun _ => Members.openItem? key) .header path.dropLast d.root
    return ⟨root, path⟩
  | .entry path v => do
    let node ← v.node?
    let root ← Members.change? false (fun _ => Members.enter? path node) .header d.current d.root
    return { d with root }

end Document

/-- Puts a member in the order of keys. -/
def insertSorted (key : String) (v : Value) : List (String × Value) → List (String × Value)
  | [] => [(key, v)]
  | (k, w) :: rest =>
    if key < k then (key, v) :: (k, w) :: rest else (k, w) :: insertSorted key v rest

mutual

def Node.value : Node → Value
  | .scalar v => v
  | .array items => .array (itemValues items)
  | .table _ ms => .table (memberValues ms)
  | .tables finished current =>
    .array (tableValues [.table (memberValues current)] finished)

def itemValues : List Node → List Value
  | [] => []
  | node :: rest => node.value :: itemValues rest

def memberValues : List (String × Node) → List (String × Value)
  | [] => []
  | (k, node) :: rest => insertSorted k node.value (memberValues rest)

def tableValues (later : List Value) : List (List (String × Node)) → List Value
  | [] => later
  | ms :: rest => tableValues (.table (memberValues ms) :: later) rest

end

/-- The members of the root table, if the text is a document. -/
def read? (text : String) : Option (List (String × Value)) := do
  let statements ← statements? text.toList
  let d ← statements.foldlM Document.step? ⟨[], []⟩
  return memberValues d.root

end Logbook.Toml
