import Logbook.Query.Outcome

/-!
Patterns between slashes, as they are written in a stage: behind the field and before the names.
In quotation marks the same text is a glob.
-/

namespace Logbook.Query

open Text (trim)

/-- What stands before the last ` as `, or everything. -/
inductive HasMain : List Char → List Char → Prop where
  | whole {rest : List Char} (h : ¬ " as ".toList <:+: rest) : HasMain rest rest
  | before {main names : List Char} (h : ¬ " as ".toList <:+: "as ".toList ++ names) :
      HasMain (main ++ (" as ".toList ++ names)) (trim main)

/-- The pattern stands behind the first space. -/
inductive WritesPattern : List Char → List Char → Prop where
  | missing {rest main : List Char} (h : HasMain rest main) (hspace : ' ' ∉ main) :
      WritesPattern rest []
  | behind {rest field written : List Char} (h : HasMain rest (field ++ ' ' :: written))
      (hspace : ' ' ∉ field) : WritesPattern rest (trim written)

/-- A text between slashes. Behind the last slash stand ASCII letters, or nothing. -/
structure IsLiteral (written body flags : List Char) : Prop where
  slashes : written = '/' :: (body ++ '/' :: flags)
  letters : ∀ c ∈ flags, c.isAlpha = true

/-- The text of the pattern that a literal stands for. -/
def literalSource (body flags : List Char) : String :=
  String.ofList (if flags = [] then body else ['(', '?'] ++ flags ++ [')'] ++ body)

/-- The stage asks for an extraction by a literal whose pattern is refused. -/
inductive IsRefusedLiteral (stage : List Char) : Prop where
  | refused {written body flags : List Char} {cause : Pattern.Refusal}
      (hword : leadingWord stage = "parse") (hwritten : WritesPattern (behindWord stage) written)
      (hliteral : IsLiteral written body flags)
      (hcause : Pattern.compile (literalSource body flags) = .error cause) :
      IsRefusedLiteral stage

end Logbook.Query
