import Logbook.Rule.Basic
import Logbook.Text.Quoted

/-!
How a rule is shown to someone who inspects it.
-/

namespace Logbook.Rule

def inspected (r : Rule) : String :=
  "FormatRule \x7b name: " ++ Text.quoted r.name ++ ", pattern: " ++
    Text.quoted r.pattern.text ++ " \x7d"

end Logbook.Rule
