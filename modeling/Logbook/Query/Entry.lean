import Logbook.Query.Target
import Mathlib.Data.List.Infix

/-!
Entries of the log, as a query speaks of them: which entries satisfy a filter that was written, and
which ones pass the search filter that a pipeline adds up to.
-/

namespace Logbook.Query

structure Entry where
  level : String
  service : String
  message : String
  metadata : Labels
deriving DecidableEq, Repr

namespace Entry

/-- The text under a field. Only metadata can be missing. -/
def text? (e : Entry) (field : String) : Option String :=
  if field = "level" then some e.level
  else if field = "service" then some e.service
  else if field ∈ ["message", "@message"] then some e.message
  else e.metadata.lookup field

/-- Levels are compared in upper case, all else as it is. -/
def compared (field text : String) : String :=
  if field = "level" then String.ofList (Text.upper text.toList) else text

def Equals (e : Entry) (field value : String) : Prop :=
  (e.text? field).map (compared field) = some (compared field value)

instance (e : Entry) (field value : String) : Decidable (e.Equals field value) :=
  inferInstanceAs (Decidable (_ = _))

def Contains (e : Entry) (field value : String) : Prop :=
  ∃ text ∈ e.text? field, value.toList <:+: text.toList

instance (e : Entry) (field value : String) : Decidable (e.Contains field value) :=
  inferInstanceAs (Decidable (∃ _ ∈ _, _))

/-- Equality and containment and their negations, which hold also where metadata is missing. The
operators that order values are not read as statements about texts: nothing satisfies them. -/
def Satisfies (e : Entry) (f : Filter) : Prop :=
  match f.operator with
  | .equal => e.Equals f.field f.value
  | .notEqual => ¬ e.Equals f.field f.value
  | .like => e.Contains f.field f.value
  | .notLike => ¬ e.Contains f.field f.value
  | .greater | .less | .greaterOrEqual | .lessOrEqual => False

instance (e : Entry) : (f : Filter) → Decidable (e.Satisfies f)
  | ⟨field, .equal, value⟩ => inferInstanceAs (Decidable (e.Equals field value))
  | ⟨field, .notEqual, value⟩ => inferInstanceAs (Decidable (¬ e.Equals field value))
  | ⟨field, .like, value⟩ => inferInstanceAs (Decidable (e.Contains field value))
  | ⟨field, .notLike, value⟩ => inferInstanceAs (Decidable (¬ e.Contains field value))
  | ⟨_, .greater, _⟩ | ⟨_, .less, _⟩ | ⟨_, .greaterOrEqual, _⟩ | ⟨_, .lessOrEqual, _⟩ =>
    inferInstanceAs (Decidable False)

end Entry

/-- What a search filter lets through: one of its levels, its service, one of its messages inside
the message, and all of its metadata, as far as it has any. -/
structure SearchFilter.Accepts (s : SearchFilter) (e : Entry) : Prop where
  level : s.levels = [] ∨ String.ofList (Text.upper e.level.toList) ∈ s.levels
  service : ∀ service ∈ s.service, e.service = service
  message : s.messages = [] ∨ ∃ part ∈ s.messages, part.toList <:+: e.message.toList
  metadata : ∀ key value, s.metadata.lookup key = some value → e.metadata.lookup key = some value

/-- The filter that decides which metadata is asked for under a key: the last one on it. -/
def deciding (key : String) (filters : List Filter) : Option Filter :=
  (filters.filter fun f => (Target.metadata key).accepts (.filter f)).getLast?

end Logbook.Query
