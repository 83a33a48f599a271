import Logbook.Query.Stage

/-!
Compiling a whole query: its stages stand between vertical bars, and blank ones are left out.
An unknown command ends the reading and keeps the stages before it; any other failure discards
the query.
-/

namespace Logbook.Query

/-- The commands read before an error, if there was one. -/
structure Parsed where
  commands : List Command
  error : Option Error
deriving DecidableEq, Repr

def Parsed.result (p : Parsed) : Except Error (List Command) :=
  match p.error with
  | some err => .error err
  | none => .ok p.commands

def stages (query : List Char) : List (List Char) := Text.pieces '|' query

/-- Reads stages in order; `done` holds the commands so far, the last one first. -/
def readStages (done : List Command) : List (List Char) → Parsed
  | [] => ⟨done.reverse, none⟩
  | stage :: rest =>
    match readStage stage with
    | .ok command => readStages (command :: done) rest
    | .error (.unknownCommand keyword) => ⟨done.reverse, some (.unknownCommand keyword)⟩
    | .error err => ⟨[], some (.internal err.message)⟩

def compile (query : String) : Parsed :=
  if (Text.trim query.toList).isEmpty then ⟨[], some .empty⟩
  else readStages [] (stages query.toList)

end Logbook.Query
