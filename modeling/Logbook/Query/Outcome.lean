import Logbook.Query.Search
import Mathlib.Algebra.Group.Nat.Defs
import Mathlib.Data.List.Forall2

/-!
How compiling a query comes out, from its stages. The first stage that cannot be read decides: an
unknown word keeps the commands before it, a refused pattern discards them. Behind a bar the
commands of a second text are added in the same way.
-/

namespace Logbook.Query

open Text (isBlank trim)

/-- The word that a stage begins with, in lower case. -/
def leadingWord (stage : List Char) : String :=
  String.ofList (Text.lower (stage.takeWhile fun c => !isBlank c))

/-- What stands behind the first word. -/
def behindWord (stage : List Char) : List Char := trim (stage.dropWhile fun c => !isBlank c)

/-- The first word is the keyword of no command. -/
def IsUnknown (stage : List Char) : Prop := ∀ c : Command, c.kind ≠ leadingWord stage

/-- The stage asks for an extraction whose pattern is refused. -/
structure IsRefused (stage : List Char) (e : Extraction) (cause : Pattern.Refusal) : Prop where
  word : leadingWord stage = "parse"
  arguments : readParse (behindWord stage) = e
  pattern : Pattern.compile e.source = .error cause

/-- The commands are those of the stages, one for each, in order. -/
def Reads (stages : List (List Char)) (commands : List Command) : Prop :=
  List.Forall₂ (fun stage c => readStage stage = .ok c) stages commands

/-- Nothing but white space. -/
def IsBlankText (query : String) : Prop := ∀ c ∈ query.toList, isBlank c = true

instance (query : String) : Decidable (IsBlankText query) :=
  List.decidableBAll _ query.toList

inductive Outcome (query : String) : Parsed → Prop where
  | empty : IsBlankText query → Outcome query ⟨[], some .empty⟩
  | complete {commands : List Command} :
      ¬ IsBlankText query → Reads (stages query.toList) commands → Outcome query ⟨commands, none⟩
  | unknown {before after : List (List Char)} {stage : List Char} {commands : List Command} :
      stages query.toList = before ++ stage :: after → Reads before commands → IsUnknown stage →
      Outcome query ⟨commands, some (.unknownCommand (leadingWord stage))⟩
  | refused {before after : List (List Char)} {stage : List Char} {commands : List Command}
      {e : Extraction} {cause : Pattern.Refusal} :
      stages query.toList = before ++ stage :: after → Reads before commands →
      IsRefused stage e cause →
      Outcome query ⟨[], some (.internal (Error.invalidPattern e.pattern cause.reason).message)⟩

/-- A number of lines that a page can have. -/
def IsPageSize (n : Nat) : Prop := 1 ≤ n ∧ n < 2 ^ 32

instance (n : Nat) : Decidable (IsPageSize n) := inferInstanceAs (Decidable (1 ≤ n ∧ n < 2 ^ 32))

/-- The query fails for the pattern of this extraction. -/
def IsRefusedFor (query : String) (e : Extraction) : Prop :=
  ∃ before stage after commands cause, stages query.toList = before ++ stage :: after ∧
    Reads before commands ∧ IsRefused stage e cause

/-- Compiling the query, or its request, ends in this error. -/
def Reports (query : String) (err : Error) : Prop :=
  (compile query).error = some err ∨ compileToRequest query = .error err

/-- The result of a text as a part of a longer query: a blank text has no commands and no error. -/
def part (query : String) : Parsed := if IsBlankText query then ⟨[], none⟩ else compile query

/-- An error ends the reading. One behind the commands of `p` discards them, unless it is an
unknown command. -/
def Parsed.followedBy (p q : Parsed) : Parsed :=
  match p.error, q.error with
  | some _, _ => p
  | none, none => ⟨p.commands ++ q.commands, none⟩
  | none, some (.unknownCommand keyword) =>
    ⟨p.commands ++ q.commands, some (.unknownCommand keyword)⟩
  | none, some err => ⟨[], some err⟩

end Logbook.Query
