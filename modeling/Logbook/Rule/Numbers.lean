import Logbook.Rule.Access
import Logbook.Rule.Syslog
import Logbook.Text.DigitRanges

/-!
The numbers in lines of access logs and of syslog. The patterns take digits of any script, and as
many as stand there for a size or a process; a number is read from ASCII digits only, and below a
bound.
-/

namespace Logbook

namespace Text

/-- A decimal digit of any script. -/
def isDecimal (c : Char) : Bool := digitRanges.has c.toNat

/-- The digits of a script stand in order, from zero on. -/
def decimalValue (c : Char) : Nat :=
  match digitRanges.find? fun range => c.toNat ≤ range.2 with
  | some range => (c.toNat - range.1) % 10
  | none => 0

/-- The value of a run of decimal digits. -/
def decimalsValue (s : List Char) : Nat := s.foldl (fun n c => 10 * n + decimalValue c) 0

end Text

namespace Rule

open Json (Value)
open Text (isDecimal decimalsValue)

def IsAscii (digits : List Char) : Prop := ∀ c ∈ digits, c.isDigit = true

instance (digits : List Char) : Decidable (IsAscii digits) := List.decidableBAll _ digits

/-- ASCII digits with a value below a bound. -/
structure IsReadable (bound : Nat) (digits : List Char) : Prop where
  ascii : IsAscii digits
  below : decimalsValue digits < bound

instance (bound : Nat) (digits : List Char) : Decidable (IsReadable bound digits) :=
  decidable_of_iff (IsAscii digits ∧ decimalsValue digits < bound)
    ⟨fun ⟨h₁, h₂⟩ => ⟨h₁, h₂⟩, fun ⟨h₁, h₂⟩ => ⟨h₁, h₂⟩⟩

/-- What is captured as status and size, and what is recorded of it. -/
structure Access.HasNumbers (status bytes : List Char) (d : Draft) : Prop where
  status_length : status.length = 3
  status_decimal : ∀ c ∈ status, isDecimal c = true
  bytes_decimal : bytes = ['-'] ∨ bytes ≠ [] ∧ ∀ c ∈ bytes, isDecimal c = true
  status_recorded : d.metadata.get? "status" =
    some (.integer (if IsAscii status then decimalsValue status else 0 : Nat))
  bytes_recorded : d.metadata.get? "bytes" =
    some (.integer (if IsReadable UInt64.size bytes then decimalsValue bytes else 0 : Nat))

/-- What is captured as process and priority, if these take part, and what is recorded of it. -/
structure Syslog.HasNumbers (pid priority : Option (List Char)) (d : Draft) : Prop where
  pid_decimal : ∀ digits ∈ pid, digits ≠ [] ∧ ∀ c ∈ digits, isDecimal c = true
  priority_decimal : ∀ digits ∈ priority,
    1 ≤ digits.length ∧ digits.length ≤ 3 ∧ ∀ c ∈ digits, isDecimal c = true
  pid_recorded : d.metadata.get? "pid" =
    (pid.filter (IsReadable UInt64.size ·)).map fun digits => .integer (decimalsValue digits)
  priority_recorded : d.metadata.get? "priority" =
    (priority.filter (IsReadable 256 ·)).map fun digits => .integer (decimalsValue digits)
  facility_recorded : d.metadata.get? "facility" =
    (priority.filter (IsReadable 256 ·)).map fun digits => .integer (decimalsValue digits / 8 : Nat)
  level_recorded : d.level = some
    (((priority.filter (IsReadable 256 ·)).map fun digits =>
      levelOfPriority (decimalsValue digits)).getD .info)

end Rule

end Logbook
