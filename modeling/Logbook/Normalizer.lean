import Logbook.Json.Reader
import Logbook.Json.Writer
import Logbook.Record.Wire
import Logbook.Rule.Access
import Logbook.Rule.Leveled
import Logbook.Rule.Settings
import Logbook.Rule.Syslog
import Logbook.Text.Lines

/-!
Normalizing: every line becomes one record. A JSON object that has a level and a message is a
record already; other lines go to the first rule that matches; what no rule matches becomes a
message whose level is guessed.
-/

namespace Logbook

open Json (Value Members)

namespace Record

/-- Keys with a meaning of their own. -/
def reservedKeys : List String := ["level", "message", "service", "timestamp", "metadata"]

/-- A member that is a text and not empty. -/
def textMember? (members : Members) (key : String) : Option String :=
  ((members.get? key).bind Value.string?).filter (· != "")

/-- The members of the metadata object, if there is one. -/
def ownMetadata (members : Members) : Members :=
  match members.get? "metadata" with
  | some (.object own) => own
  | _ => []

/-- Takes a member in, unless its key has a meaning of its own or is there already. -/
def foldMember (found : Members) (m : String × Value) : Members :=
  if m.1 ∈ reservedKeys ∨ (found.get? m.1).isSome then found else Keyed.insert m.1 m.2 found

/-- The members of the metadata object, and all others without a meaning of their own that it
does not have. -/
def foldedMetadata (members : Members) : Members := members.foldl foldMember (ownMetadata members)

/-- The record that an object is, if it has a level and a message. -/
def ofMembers? (now : Time.Instant) (members : Members) : Option Record := do
  let level ← textMember? members "level"
  let message ← textMember? members "message"
  return Draft.complete now
    { level := Level.ofWord level.toList
      message
      service := textMember? members "service"
      timestamp := textMember? members "timestamp"
      metadata := foldedMetadata members }

end Record

/-- The rules in the order in which they are tried. -/
structure Normalizer where
  rules : List Rule

namespace Normalizer

def builtinRules : List Rule :=
  [Rule.Access.nginx, Rule.Access.apache, Rule.Syslog.rule, Rule.Leveled.log4j,
    Rule.Leveled.jsonLike, Rule.Leveled.simple]

def builtin : Normalizer := ⟨builtinRules⟩

/-- Adds rules behind those there are. -/
def extend (n : Normalizer) (rules : List Rule) : Normalizer := ⟨n.rules ++ rules⟩

/-- Adds one rule behind those there are. -/
def addRule (n : Normalizer) (rule : Rule) : Normalizer := ⟨n.rules ++ [rule]⟩

def ofSettings (settings : List Rule.Settings) : Except Rule.Refused Normalizer :=
  (Rule.Settings.buildAll settings).map builtin.extend

/-- For a line that no rule matches. -/
def guessed (line : List Char) : Draft :=
  { Draft.empty with level := Level.guess line, message := String.ofList (Text.trim line) }

def matchRules (n : Normalizer) (now : Time.Instant) (line : List Char) : Record :=
  ((n.rules.findSome? fun rule => rule.apply now line).getD (guessed line)).complete now

def normalize (n : Normalizer) (now : Time.Instant) (line : String) : Record :=
  match Json.read line with
  | .ok (.object members) =>
    (Record.ofMembers? now members).getD (n.matchRules now line.toList)
  | _ => n.matchRules now line.toList

/-- Bytes that encode no character are replaced. -/
def normalizeBytes (n : Normalizer) (now : Time.Instant) (bytes : List UInt8) : Record :=
  n.normalize now (Text.Utf8.decodeLossy bytes)

/-- A value that is no record goes to the rules as its text. -/
def normalizeValue (n : Normalizer) (now : Time.Instant) (v : Value) : Record :=
  match v with
  | .object members => (Record.ofMembers? now members).getD (n.matchRules now v.compactChars)
  | .string line => n.normalize now line
  | v => n.matchRules now v.compactChars

def normalizeLines (n : Normalizer) (now : Time.Instant) (lines : List String) : List Record :=
  lines.map (n.normalize now)

/-- All lines at once. -/
def normalizeBatch (n : Normalizer) (now : Time.Instant) (lines : List String) : List Record :=
  n.normalizeLines now lines

/-- Chunks as they arrive, `none` as long as there is nothing: one record for every chunk. -/
def normalizeStream (n : Normalizer) (now : Time.Instant) (arrivals : List (Option String)) :
    List (Option Record) :=
  arrivals.map fun chunk => chunk.map (n.normalize now)

/-- What is said of a line that is not UTF-8. -/
def notUtf8 : String := "stream did not contain valid UTF-8"

/-- One record for every line, `none` for a line that is not UTF-8. -/
def normalizeBytesLines (n : Normalizer) (now : Time.Instant) (bytes : List UInt8) :
    List (Option Record) :=
  (Text.lines bytes).map fun line => line.map (n.normalize now)

end Normalizer

end Logbook
