/-!
Lists of values under keys, in the order of the keys and each key once.
-/

namespace Logbook.Keyed

variable {α : Type}

/-- Puts a value under a key, in place of an earlier one. -/
def insert (key : String) (value : α) : List (String × α) → List (String × α)
  | [] => [(key, value)]
  | (k, v) :: rest =>
    if key < k then (key, value) :: (k, v) :: rest
    else if key = k then (key, value) :: rest
    else (k, v) :: insert key value rest

/-- Members as they come, in the order of keys; of equal keys the last one counts. -/
def ofList (members : List (String × α)) : List (String × α) :=
  members.foldl (fun sorted (k, v) => insert k v sorted) []

def IsOrdered (members : List (String × α)) : Prop :=
  members.Pairwise fun m₁ m₂ => m₁.1 < m₂.1

instance (members : List (String × α)) : Decidable (IsOrdered members) :=
  inferInstanceAs (Decidable (members.Pairwise _))

end Logbook.Keyed
