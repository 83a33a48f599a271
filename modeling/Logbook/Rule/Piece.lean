import Logbook.Rule.Settings

/-!
Templates that are put together from texts and references, and the settings of a rule that has only
such templates.
-/

namespace Logbook.Rule

open Pattern (Match)

inductive Piece where
  | literal (text : String)
  /-- A group, by its number or name. -/
  | group (reference : String)
deriving DecidableEq, Repr

namespace Piece

/-- Dollar signs of a text are doubled, and a reference stands in braces. -/
def chars : Piece → List Char
  | literal text => text.toList.flatMap fun c => if c = '$' then ['$', '$'] else [c]
  | group reference => '$' :: '\x7b' :: reference.toList ++ ['\x7d']

/-- The text itself, or what the group captured: nothing for one that is unknown or took no part. -/
def value (p : Pattern) (m : Match) : Piece → List Char
  | literal text => text.toList
  | group reference =>
    (((groupNumber? reference.toList).or (p.groupNamed? reference)).bind m.group?).getD []

def IsWritten : Piece → Prop
  | literal _ => True
  | group reference => reference ≠ "" ∧ '\x7d' ∉ reference.toList

instance : DecidablePred IsWritten
  | literal _ => inferInstanceAs (Decidable True)
  | group _ => inferInstanceAs (Decidable (_ ∧ _))

end Piece

/-- The template that pieces are written as, one behind the other. -/
def template (pieces : List Piece) : String := String.ofList (pieces.flatMap Piece.chars)

/-- What pieces stand for, one behind the other. -/
def substituted (p : Pattern) (m : Match) (pieces : List Piece) : String :=
  String.ofList (pieces.flatMap (Piece.value p m))

/-- The templates of a rule, each as pieces. -/
structure Templates where
  level : Option (List Piece)
  message : Option (List Piece)
  service : Option (List Piece)
  timestamp : Option (List Piece)
  metadata : List (String × List Piece)

namespace Templates

def settings (t : Templates) (name pattern : String) (enabled : Bool) : Settings where
  name
  pattern
  enabled
  level := t.level.map template
  message := t.message.map template
  service := t.service.map template
  timestamp := t.timestamp.map template
  metadata := t.metadata.map fun (key, pieces) => (key, template pieces)

def all (t : Templates) : List (List Piece) :=
  t.level.toList ++ t.message.toList ++ t.service.toList ++ t.timestamp.toList ++ t.metadata.map Prod.snd

/-- Every reference can be written, and no key of the metadata comes twice. -/
structure IsWritten (t : Templates) : Prop where
  pieces : ∀ pieces ∈ t.all, ∀ piece ∈ pieces, piece.IsWritten
  keys : (t.metadata.map Prod.fst).Nodup

/-- A text for a match, if it is not empty. Without a template there is none. -/
def text? (p : Pattern) (m : Match) (pieces : Option (List Piece)) : Option String :=
  let text := substituted p m (pieces.getD [])
  if text = "" then none else some text

/-- What a match supplies: the texts that are not empty, and the whole match for a message. -/
structure Fills (t : Templates) (p : Pattern) (m : Match) (d : Draft) : Prop where
  level : d.level = (text? p m t.level).map fun word => Level.ofWord word.toList
  message : d.message = some ((text? p m t.message).getD (String.ofList (Text.trim m.whole)))
  service : d.service = text? p m t.service
  timestamp : d.timestamp = text? p m t.timestamp
  ordered : Keyed.IsOrdered d.metadata
  metadata : ∀ key v, (key, v) ∈ d.metadata ↔ ∃ pieces, (key, pieces) ∈ t.metadata ∧
    ∃ text, text? p m (some pieces) = some text ∧ v = .string text

end Templates

end Logbook.Rule
