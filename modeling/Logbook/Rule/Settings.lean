import Logbook.Json.Shape
import Logbook.Rule.Template
import Logbook.Text.Blank

/-!
Rules that users define. All but the name and the pattern are templates, and what a template
does not supply is missing, except that the message is then the whole match.
-/

namespace Logbook.Rule

open Json (Shape Value)

structure Settings where
  name : String
  pattern : String
  enabled : Bool
  level : Option String
  message : Option String
  service : Option String
  timestamp : Option String
  metadata : List (String × String)
deriving DecidableEq, Repr

/-- The pattern of a rule was refused. -/
structure Refused where
  rule : String
  cause : Pattern.Refusal
deriving DecidableEq, Repr

def Refused.message (r : Refused) : String :=
  "rule '" ++ r.rule ++ "' has an invalid pattern: " ++ r.cause.report

namespace Settings

def draft (s : Settings) (p : Pattern) (m : Pattern.Match) : Draft where
  level := (supplied p m s.level).map fun word => Level.ofWord word.toList
  message := some ((supplied p m s.message).getD (String.ofList (Text.trim m.whole)))
  service := supplied p m s.service
  timestamp := supplied p m s.timestamp
  metadata := Keyed.ofList <| s.metadata.filterMap fun (key, template) =>
    (supplied p m (some template)).map fun text => (key, Value.string text)

def build (s : Settings) : Except Refused Rule :=
  match Pattern.compile s.pattern with
  | .ok p => .ok ⟨s.name, p, fun _ m => s.draft p m⟩
  | .error cause => .error ⟨s.name, cause⟩

/-- The enabled rules, up to the first whose pattern is refused. -/
def buildAll (settings : List Settings) : Except Refused (List Rule) :=
  (settings.filter (·.enabled)).mapM build

def optionalText : Json.Presence × Shape := (.orElse .null, .optional .text)

def shape : Shape :=
  .record [("name", .needed, .text), ("pattern", .needed, .text),
    ("enabled", .orElse (.bool true), .flag), ("level", optionalText), ("message", optionalText),
    ("service", optionalText), ("timestamp", optionalText),
    ("metadata", .orElse (.object []), .dict .text)]

def ofJson? : Value → Option Settings
  | .object [(_, .string name), (_, .string pattern), (_, .bool enabled), (_, level),
      (_, message), (_, service), (_, timestamp), (_, metadata)] =>
    metadata.labels?.map fun metadata =>
      { name, pattern, enabled, level := level.string?, message := message.string?
        service := service.string?, timestamp := timestamp.string?, metadata }
  | _ => none

def read (text : String) : Except Json.Fault Settings := do
  (ofJson? (← shape.read text)).elim (throw .mismatch) pure

end Settings

end Logbook.Rule
