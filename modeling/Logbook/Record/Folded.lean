import Logbook.Json.Value

/-!
What the members of an object say of the record that it is: the text under a key, the value of the
metadata under a key, and the order that does not matter.
-/

namespace Logbook.Record

open Json (Value Members)

/-- The text that an object has under a key. Something else stands for one that is missing or empty. -/
inductive Says (members : Members) (key otherwise : String) : String → Prop where
  | text {s : String} (h : (key, Value.string s) ∈ members) (hne : s ≠ "") : Says members key otherwise s
  | missing (h : ∀ s, (key, Value.string s) ∈ members → s = "") : Says members key otherwise otherwise

/-- The value of the metadata under a key, with the members inside it in order. The metadata object of
the record comes first. All other members of the record are metadata too unless they have a meaning
of their own. -/
inductive Folds (members : Members) (key : String) : Option Value → Prop where
  | own {own : Members} {v : Value} (hown : ("metadata", Value.object own) ∈ members)
      (h : (key, v) ∈ own) : Folds members key v.sorted
  | extra {v : Value}
      (hown : ∀ own, ("metadata", Value.object own) ∈ members → key ∉ own.map Prod.fst)
      (hkey : key ∉ ["level", "message", "service", "timestamp", "metadata"])
      (h : (key, v) ∈ members) : Folds members key v.sorted
  | absent (hown : ∀ own, ("metadata", Value.object own) ∈ members → key ∉ own.map Prod.fst)
      (h : key ∈ ["level", "message", "service", "timestamp", "metadata"] ∨
        key ∉ members.map Prod.fst) : Folds members key none

/-- The same members in another order, and those of the metadata object too. -/
inductive Rearranged (members : Members) : Members → Prop where
  | outside {members' : Members} (h : members.Perm members') : Rearranged members members'
  | inside {own own' others members' : Members} (h : members.Perm (("metadata", .object own) :: others))
      (hown : own.Perm own') (h' : members'.Perm (("metadata", .object own') :: others)) :
      Rearranged members members'

/-- No key comes twice, in the object or in its metadata object. -/
structure HasUniqueKeys (members : Members) : Prop where
  keys : (members.map Prod.fst).Nodup
  own : ∀ own, ("metadata", Value.object own) ∈ members → (own.map Prod.fst).Nodup

end Logbook.Record
