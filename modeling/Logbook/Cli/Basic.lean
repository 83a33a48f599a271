import Logbook.Cli.Arguments
import Logbook.Cli.Table
import Logbook.Normalizer
import Logbook.Query.Wire
import Logbook.Rule.File
import Logbook.Text.Quoted

/-!
The command line: normalizing lines, compiling a query, listing rules. What it prints is a
function of the arguments, the files and the clock.
-/

namespace Logbook.Cli

open Json (Value)

/-- What a command line can see. -/
structure Setting where
  /-- The bytes of a file, if it can be read. -/
  file? : String → Option (List UInt8)
  input : List UInt8
  /-- The value of the variable that names a rules file. -/
  rulesVariable : Option String
  coloured : Bool
  now : Time.Instant

/-- What it prints, and whether it succeeds. -/
structure Outcome where
  exit : Nat
  stdout : String
  stderr : String
deriving DecidableEq, Repr

namespace Outcome

def success (stdout : String) : Outcome := ⟨0, stdout, ""⟩

def failure (stdout stderr : String) : Outcome := ⟨1, stdout, stderr⟩

end Outcome

/-- A text in a colour or another style, by its code. -/
def Setting.styled (s : Setting) (code text : String) : String :=
  if s.coloured then "\x1b[" ++ code ++ "m" ++ text ++ "\x1b[0m" else text

def lines (texts : List String) : String := String.join (texts.map (· ++ "\n"))

/-- The rules in force: none is an error. -/
def Setting.normalizer? (s : Setting) : Option String → Option Normalizer
  | none => some .builtin
  | some file => do
    let text ← Text.Utf8.decode? (← s.file? file)
    let settings ← (Rule.readRules text).toOption
    (Normalizer.ofSettings settings).toOption

/-- How many characters of a message a table shows. -/
def messageWidth : Nat := 80

def shortened (message : String) : String :=
  let chars := message.toList
  if messageWidth < chars.length then String.ofList (chars.take messageWidth) ++ "..." else message

def levelColour : Level → String
  | .error => "31"
  | .warn => "33"
  | .info => "32"
  | .debug => "2"

def Setting.recordRow (s : Setting) (r : Record) : List String :=
  [s.styled (levelColour r.level) r.level.name, r.service, r.timestamp, shortened r.message]

def Setting.recordTable (s : Setting) (records : List Record) : String :=
  lines [Table.render ["Level", "Service", "Time", "Message"] (records.map s.recordRow), "",
    s.styled "2" "Records:" ++ " " ++ s.styled "32" (toString records.length)]

/-- Prints records as they come, behind what is printed already, up to the first line that cannot be
read. -/
def printEach (printed : String) : List (Option Record) → Outcome
  | [] => .success printed
  | none :: _ => .failure printed ""
  | some r :: rest => printEach (printed ++ r.toJson.compact ++ "\n") rest

/-- JSON is printed record by record, a table only when all lines have been read. -/
def Setting.printRecords (s : Setting) (records : List (Option Record)) : Output → Outcome
  | .json => printEach "" records
  | .table =>
    match records.mapM id with
    | some records => .success (s.recordTable records)
    | none => .failure "" ""

def Setting.normalize (s : Setting) (file rules : Option String) (output : Output) : Outcome :=
  match s.normalizer? rules, file.elim (some s.input) s.file? with
  | some n, some bytes => s.printRecords (n.normalizeBytesLines s.now bytes) output
  | _, _ => .failure "" ""

/-- The parameters of a command in a table. -/
def described : Query.Command → String
  | .fields names => ", ".intercalate names
  | .filter f => f.field ++ " " ++ f.operator.token ++ " " ++ Text.quoted f.value
  | .stats s =>
    s.function ++ "(" ++ s.field ++ ")" ++
      if s.groupBy.isEmpty then "" else " by " ++ ", ".intercalate s.groupBy
  | .sort c => c.field ++ " " ++ c.direction
  | .limit count => toString count
  | .parse e => e.field ++ " " ++ Text.quoted e.pattern ++ " as " ++ e.nameList

def Setting.commandRow (s : Setting) (command : Query.Command) (i : Nat) : List String :=
  [toString (i + 1), s.styled "36" command.kind, described command]

def Setting.query (s : Setting) (text : String) (output : Output) : Outcome :=
  let parsed := Query.compile text
  match parsed.translate with
  | .error err => .failure "" (lines [s.styled "1;31" "Error:" ++ " " ++ err.message])
  | .ok filter =>
    match output with
    | .json =>
      let body := Value.object [("commands", .array (parsed.commands.map (·.toJson))),
        ("filter", filter.toJson), ("request", filter.request.toJson)]
      .success (lines [body.sorted.pretty])
    | .table =>
      let rows := parsed.commands.zipIdx.map fun (command, i) => s.commandRow command i
      .success (lines [Table.render ["#", "Command", "Parameters"] rows, "",
        s.styled "1;32" "Search request:", filter.request.toJson.pretty])

def ruleRow (r : Rule) (i : Nat) : List String := [toString (i + 1), r.name, r.pattern.text]

def Setting.listRules (s : Setting) (file : Option String) : Outcome :=
  match s.normalizer? file with
  | some n =>
    let rows := n.rules.zipIdx.map fun (r, i) => ruleRow r i
    .success (lines [Table.render ["#", "Rule", "Pattern"] rows])
  | none => .failure "" ""

def versionText : String := "logify 0.1.0"

def helpText : String :=
  "Normalize raw logs and compile log queries\n\nUsage: logify [OPTIONS] <COMMAND>"

def Setting.perform (s : Setting) : Action → Outcome
  | .normalize file rules output => s.normalize file rules output
  | .query text output => s.query text output
  | .rules file => s.listRules file

/-- Runs a command line. -/
def run (s : Setting) (args : List String) : Outcome :=
  match readArguments s.rulesVariable args with
  | .ok action => s.perform action
  | .error .version => .success (lines [versionText])
  | .error .help => .success (lines [helpText])
  | .error .usage => ⟨2, "", lines [helpText]⟩

end Logbook.Cli
