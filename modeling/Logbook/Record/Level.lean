import Logbook.Text.Case
import Logbook.Text.Cut

/-!
Severities, from the lowest to the highest, and the words for them.
-/

namespace Logbook

inductive Level where
  | debug
  | info
  | warn
  | error
deriving DecidableEq, Repr

namespace Level

def name : Level → String
  | debug => "debug"
  | info => "info"
  | warn => "warn"
  | error => "error"

def all : List Level := [debug, info, warn, error]

def ofName? (s : String) : Option Level := all.find? fun level => level.name == s

def rank : Level → Nat
  | debug => 0
  | info => 1
  | warn => 2
  | error => 3

instance : LE Level := ⟨fun a b => a.rank ≤ b.rank⟩

instance : DecidableLE Level := fun a b => inferInstanceAs (Decidable (a.rank ≤ b.rank))

/-- The words for a level. -/
def words : Level → List String
  | debug => ["debug", "trace"]
  | info => ["info", "information"]
  | warn => ["warn", "warning"]
  | error => ["error", "err", "fatal"]

/-- The level that a word names, in any mixture of cases. -/
def parse? (s : List Char) : Option Level :=
  let word := String.ofList (Text.lower s)
  all.find? fun level => level.words.contains word

/-- Other words stand for the level `info`. -/
def ofWord (s : List Char) : Level := (parse? s).getD info

/-- The level that a line hints at by words inside it. -/
def guess (line : List Char) : Level :=
  let line := Text.lower line
  let mentions (word : String) : Bool := Text.occurs word.toList line
  if mentions "error" || mentions "fatal" || mentions "fail" then error
  else if mentions "warn" then warn
  else if mentions "debug" then debug
  else info

def sort (levels : List Level) : List Level := levels.mergeSort fun a b => a ≤ b

def max? (levels : List Level) : Option Level := (sort levels).getLast?

end Level

end Logbook
