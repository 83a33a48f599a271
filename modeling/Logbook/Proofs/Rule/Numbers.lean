import Logbook.Proofs.Keyed
import Logbook.Proofs.Rule.Access
import Logbook.Rule.Numbers

/-! What becomes of the numbers in a line. A group that takes part has captured decimal digits, and
they are recorded with their value if they are ASCII digits and the value is below the bound. -/

namespace Logbook

namespace Text

theorem decimalValue_of_isDigit {c : Char} (h : c.isDigit = true) :
    decimalValue c = digitValue c := by
  obtain ⟨hlo, hhi⟩ := isDigit_iff_toNat.mp h
  have hranges : digitRanges = (0x30, 0x39) :: digitRanges.tail := rfl
  have hrange : c.toNat ≤ 0x39 := hhi
  have hzero : '0'.toNat = 0x30 := rfl
  rw [decimalValue, hranges, List.find?_cons_of_pos (by simpa using hrange), digitValue, hzero]
  exact Nat.mod_eq_of_lt (by omega)

theorem decimalsValue_of_isDigit {s : List Char} (h : ∀ c ∈ s, c.isDigit = true) :
    decimalsValue s = digitsValue s := by
  refine List.foldl_ext _ _ 0 fun n c hc => ?_
  rw [decimalValue_of_isDigit (h c hc)]

end Text

namespace Rule

open Json (Value)
open Pattern (CharSet Node)
open Text (isDecimal decimalsValue)

variable {i bound : Nat} {m : Pattern.Match} {digits : List Char}

theorem number?_of_isReadable (h : m.group? i = some digits) (hne : digits ≠ [])
    (hreadable : IsReadable bound digits) : number? m i bound = some (decimalsValue digits) := by
  have hbelow := hreadable.below
  rw [Text.decimalsValue_of_isDigit hreadable.ascii] at hbelow ⊢
  rw [number?, h, Option.bind_some, Text.nat?_of_isDigit hne hreadable.ascii,
    Option.filter_some_pos (by simpa using hbelow)]

theorem number?_of_not_isReadable (h : m.group? i = some digits)
    (hreadable : ¬ IsReadable bound digits) : number? m i bound = none := by
  rw [number?, h, Option.bind_some, Text.nat?]
  split
  · next hdigits =>
    simp only [Bool.and_eq_true, List.all_eq_true] at hdigits
    have hbound : ¬ Text.digitsValue digits < bound := by
      rw [← Text.decimalsValue_of_isDigit hdigits.2]
      exact fun hlt => hreadable ⟨hdigits.2, hlt⟩
    rw [Option.filter_some_neg (by simpa using hbound)]
  · rfl

theorem filter_of_not_isReadable (h : ¬ IsReadable bound digits) :
    (some digits).filter (IsReadable bound ·) = none :=
  Option.filter_some_neg (by simpa using h)

/-- A group that captures digits if it takes part at all. -/
theorem number?_eq (hne : ∀ digits ∈ m.group? i, digits ≠ []) :
    number? m i bound = ((m.group? i).filter (IsReadable bound ·)).map decimalsValue := by
  cases h : m.group? i with
  | none => simp [number?, h]
  | some digits =>
    by_cases hreadable : IsReadable bound digits
    · rw [number?_of_isReadable h (hne digits h) hreadable,
        Option.filter_some_pos (by simpa using hreadable), Option.map_some]
    · rw [number?_of_not_isReadable h hreadable, filter_of_not_isReadable hreadable, Option.map_none]

theorem getD_number? (h : m.group? i = some digits) (hne : digits ≠ []) :
    (number? m i bound).getD 0 = if IsReadable bound digits then decimalsValue digits else 0 := by
  by_cases hreadable : IsReadable bound digits
  · rw [number?_of_isReadable h hne hreadable, if_pos hreadable, Option.getD_some]
  · rw [number?_of_not_isReadable h hreadable, if_neg hreadable, Option.getD_none]

/-! ### Access logs -/

namespace Access

/-- Three digits are below the bound. -/
theorem isReadable_status_iff (h : digits.length = 3) :
    IsReadable UInt16.size digits ↔ IsAscii digits := by
  refine ⟨IsReadable.ascii, fun hascii => ⟨hascii, ?_⟩⟩
  have hlt := Text.digitsValue_lt hascii
  rw [h] at hlt
  rw [Text.decimalsValue_of_isDigit hascii]
  exact Nat.lt_trans hlt (by decide)

theorem requestNodes_eq (more : List Node) : requestNodes more = requestNodes [] ++ more := by
  simp [requestNodes]

theorem groups_of_spells {more : List Node} {w : List Char}
    (h : (Node.ofList (.assertion .textStart :: requestNodes more)).Spells w m.captured)
    (hsix : more.filter (·.hasGroup 6) = []) (hseven : more.filter (·.hasGroup 7) = []) :
    ∃ status bytes, m.group? 6 = some status ∧ m.group? 7 = some bytes ∧
      (exactly 3 decimal).Reads status ∧
      (Node.alt (many decimal) (.chars (.just '-'))).Reads bytes := by
  have hstatus : (Node.assertion .textStart :: requestNodes more).filter (·.hasGroup 6) =
      [.group 6 (exactly 3 decimal)] := by
    rw [requestNodes_eq, ← List.cons_append, List.filter_append, hsix]
    rfl
  have hbytes : (Node.assertion .textStart :: requestNodes more).filter (·.hasGroup 7) =
      [.group 7 (.alt (many decimal) (.chars (.just '-')))] := by
    rw [requestNodes_eq, ← List.cons_append, List.filter_append, hseven]
    rfl
  obtain ⟨status, hreads, hlookup⟩ := h.lookup_of_group hstatus
  obtain ⟨bytes, hreads', hlookup'⟩ := h.lookup_of_group hbytes
  rw [← Pattern.Match.group?_eq_lookup (by decide)] at hlookup hlookup'
  exact ⟨status, bytes, hlookup, hlookup', hreads, hreads'⟩

theorem hasNumbers {status bytes : List Char} {d : Draft} (hsix : m.group? 6 = some status)
    (hseven : m.group? 7 = some bytes) (hstatus : (exactly 3 decimal).Reads status)
    (hbytes : (Node.alt (many decimal) (.chars (.just '-'))).Reads bytes)
    (hstatusMember : d.metadata.get? "status" = some (.integer ((number? m 6 UInt16.size).getD 0)))
    (hbytesMember : d.metadata.get? "bytes" = some (.integer ((number? m 7 UInt64.size).getD 0))) :
    HasNumbers status bytes d := by
  obtain ⟨hlength, hdecimal⟩ := reads_exactly hstatus
  have hne : status ≠ [] := List.ne_nil_of_length_pos (by omega)
  have hkind := bytes_of_reads hbytes
  have hne' : bytes ≠ [] := by
    rcases hkind with rfl | ⟨hne', -⟩
    · simp
    · exact hne'
  refine ⟨hlength, hdecimal, hkind, ?_, ?_⟩
  · rw [hstatusMember, getD_number? hsix hne]
    simp only [isReadable_status_iff hlength]
  · rw [hbytesMember, getD_number? hseven hne']

theorem hasNumbers_nginx {line : List Char} (h : nginx.pattern.find? line = some m)
    (now : Time.Instant) : ∃ status bytes, m.group? 6 = some status ∧ m.group? 7 = some bytes ∧
      HasNumbers status bytes (nginx.draft now m) := by
  obtain ⟨w, later, -, hspells⟩ := Pattern.find?_spells h
  obtain ⟨status, bytes, hsix, hseven, hstatus, hbytes⟩ := groups_of_spells hspells rfl rfl
  have hmember (key : String) : (nginx.draft now m).metadata.get? key =
      (clientFields m ++ agentFields m).reverse.lookup key := Keyed.lookup_ofList _ key
  exact ⟨status, bytes, hsix, hseven,
    hasNumbers hsix hseven hstatus hbytes (hmember "status") (hmember "bytes")⟩

theorem hasNumbers_apache {line : List Char} (h : apache.pattern.find? line = some m)
    (now : Time.Instant) : ∃ status bytes, m.group? 6 = some status ∧ m.group? 7 = some bytes ∧
      HasNumbers status bytes (apache.draft now m) := by
  obtain ⟨w, later, -, hspells⟩ := Pattern.find?_spells h
  obtain ⟨status, bytes, hsix, hseven, hstatus, hbytes⟩ := groups_of_spells hspells rfl rfl
  have hmember (key : String) : (apache.draft now m).metadata.get? key =
      (clientFields m).reverse.lookup key := Keyed.lookup_ofList _ key
  exact ⟨status, bytes, hsix, hseven,
    hasNumbers hsix hseven hstatus hbytes (hmember "status") (hmember "bytes")⟩

end Access

/-! ### Syslog -/

namespace Syslog

theorem pid_of_spells {w : List Char}
    (h : (Node.ofList (.assertion .textStart :: nodes)).Spells w m.captured) :
    ∀ digits ∈ m.group? 5, digits ≠ [] ∧ ∀ c ∈ digits, isDecimal c = true := by
  have hnodes : (Node.assertion .textStart :: nodes).filter (·.hasGroup 5) = [optional pidNode] := rfl
  have hparts : (Node.literal "[" ++ (.group 5 (many decimal) :: Node.literal "]")).filter
      (·.hasGroup 5) = [.group 5 (many decimal)] := rfl
  intro digits hdigits
  rw [Pattern.Match.group?_eq_lookup (by decide)] at hdigits
  exact reads_many (h.lookup_of_optional hnodes hparts digits hdigits)

theorem priority_of_spells {w : List Char}
    (h : (Node.ofList (.assertion .textStart :: nodes)).Spells w m.captured) :
    ∀ digits ∈ m.group? 1,
      1 ≤ digits.length ∧ digits.length ≤ 3 ∧ ∀ c ∈ digits, isDecimal c = true := by
  have hnodes : (Node.assertion .textStart :: nodes).filter (·.hasGroup 1) =
      [optional priorityNode] := rfl
  have hparts : (Node.literal "<" ++ (.group 1 (.loop 1 (some 3) true (.chars decimal)) ::
      Node.literal ">")).filter (·.hasGroup 1) =
        [.group 1 (.loop 1 (some 3) true (.chars decimal))] := rfl
  intro digits hdigits
  rw [Pattern.Match.group?_eq_lookup (by decide)] at hdigits
  obtain ⟨hdecimal, hleast, hmost⟩ := (h.lookup_of_optional hnodes hparts digits hdigits).loop_chars
  exact ⟨hleast, hmost 3 rfl, hdecimal⟩

theorem get?_metadata (m : Pattern.Match) (priority : Option Nat) :
    Json.Members.get? (Keyed.ofList (metadata m priority)) "pid" =
        (number? m 5 UInt64.size).map (fun pid => .integer pid) ∧
      Json.Members.get? (Keyed.ofList (metadata m priority)) "priority" =
        priority.map (fun p => .integer p) ∧
      Json.Members.get? (Keyed.ofList (metadata m priority)) "facility" =
        priority.map fun p => .integer (p / 8 : Nat) := by
  simp only [Json.Members.get?, Keyed.lookup_ofList, metadata]
  cases number? m 5 UInt64.size <;> cases priority <;> exact ⟨rfl, rfl, rfl⟩

theorem hasNumbers {line : List Char} (h : rule.pattern.find? line = some m) (now : Time.Instant) :
    HasNumbers (m.group? 5) (m.group? 1) (rule.draft now m) := by
  obtain ⟨w, later, -, hspells⟩ := Pattern.find?_spells h
  have hpid := pid_of_spells hspells
  have hpriority := priority_of_spells hspells
  have hpidNumber : number? m 5 UInt64.size =
      ((m.group? 5).filter (IsReadable UInt64.size ·)).map decimalsValue :=
    number?_eq fun digits hdigits => (hpid digits hdigits).1
  have hpriorityNumber : number? m 1 UInt8.size =
      ((m.group? 1).filter (IsReadable 256 ·)).map decimalsValue :=
    number?_eq fun digits hdigits => List.ne_nil_of_length_pos (hpriority digits hdigits).1
  obtain ⟨hpidMember, hpriorityMember, hfacilityMember⟩ := get?_metadata m (number? m 1 UInt8.size)
  refine ⟨hpid, hpriority, hpidMember.trans ?_, hpriorityMember.trans ?_, hfacilityMember.trans ?_, ?_⟩
  · rw [hpidNumber, Option.map_map]
    rfl
  · rw [hpriorityNumber, Option.map_map]
    rfl
  · rw [hpriorityNumber, Option.map_map]
    rfl
  · change some (((number? m 1 UInt8.size).map levelOfPriority).getD .info) = _
    rw [hpriorityNumber, Option.map_map]
    rfl

end Syslog

/-! ### All of them -/

/-- Whatever an access log's rule or the rule for syslog matches: a number in ASCII digits below the
bound is recorded with its value. Of any other a zero is recorded as status or size, and nothing as
process or priority. -/
theorem hasNumbers_of_match (now : Time.Instant) (line : List Char) (m : Pattern.Match) :
    (∀ rule ∈ [Access.nginx, Access.apache], rule.pattern.find? line = some m →
      ∃ status bytes, m.group? 6 = some status ∧ m.group? 7 = some bytes ∧
        Access.HasNumbers status bytes (rule.draft now m)) ∧
    (Syslog.rule.pattern.find? line = some m →
      Syslog.HasNumbers (m.group? 5) (m.group? 1) (Syslog.rule.draft now m)) := by
  refine ⟨?_, fun h => Syslog.hasNumbers h now⟩
  simp only [List.forall_mem_cons]
  exact ⟨fun h => Access.hasNumbers_nginx h now, fun h => Access.hasNumbers_apache h now, by simp⟩

/-- A line of each kind. -/
theorem hasNumbers_of_match_lines :
    (∃ m, Access.apache.pattern.find?
        "h - - [10/Oct/2000:13:55:36 -0700] \"r\" 404 -".toList = some m ∧
      Access.HasNumbers "404".toList ['-'] (Access.apache.draft ⟨0, 0⟩ m)) ∧
    ∃ m, Syslog.rule.pattern.find? "<99>Oct 11 22:14:15 host app[7]: m".toList = some m ∧
      Syslog.HasNumbers (some ['7']) (some ['9', '9']) (Syslog.rule.draft ⟨0, 0⟩ m) := by
  have hapache : (Access.apache.pattern.find?
      "h - - [10/Oct/2000:13:55:36 -0700] \"r\" 404 -".toList).map
        (fun m => (m.group? 6, m.group? 7)) = some (some "404".toList, some ['-']) := by
    rw [Pattern.find?_eq_run]
    decide +kernel
  have hsyslog : (Syslog.rule.pattern.find? "<99>Oct 11 22:14:15 host app[7]: m".toList).map
        (fun m => (m.group? 5, m.group? 1)) = some (some ['7'], some ['9', '9']) := by
    rw [Pattern.find?_eq_run]
    decide +kernel
  obtain ⟨m, hm, hgroups⟩ := Option.map_eq_some_iff.mp hapache
  obtain ⟨hsix, hseven⟩ := Prod.mk.inj hgroups
  obtain ⟨m', hm', hgroups'⟩ := Option.map_eq_some_iff.mp hsyslog
  obtain ⟨hfive, hone⟩ := Prod.mk.inj hgroups'
  refine ⟨⟨m, hm, ?_⟩, m', hm', ?_⟩
  · obtain ⟨status, bytes, hstatus, hbytes, hnumbers⟩ :=
      (hasNumbers_of_match ⟨0, 0⟩ _ m).1 Access.apache (by simp) hm
    rw [← Option.some.inj (hstatus.symm.trans hsix), ← Option.some.inj (hbytes.symm.trans hseven)]
    exact hnumbers
  · rw [← hfive, ← hone]
    exact (hasNumbers_of_match ⟨0, 0⟩ _ m').2 hm'

/-- A priority above the bound, a process and a size that are too large, and digits of another script
that write 404. -/
theorem numbers_lost :
    (∃ m, Syslog.rule.pattern.find?
        "<999>Oct 11 22:14:15 host app[18446744073709551616]: m".toList = some m ∧
      m.group? 1 = some "999".toList ∧ m.group? 5 = some "18446744073709551616".toList ∧
      (Syslog.rule.draft ⟨0, 0⟩ m).metadata.get? "priority" = none ∧
      (Syslog.rule.draft ⟨0, 0⟩ m).metadata.get? "pid" = none) ∧
    ∃ m, Access.apache.pattern.find?
        "h - - [10/Oct/2000:13:55:36 -0700] \"r\" ٤٠٤ 18446744073709551616".toList = some m ∧
      m.group? 6 = some "٤٠٤".toList ∧ decimalsValue "٤٠٤".toList = 404 ∧
      m.group? 7 = some "18446744073709551616".toList ∧
      (Access.apache.draft ⟨0, 0⟩ m).metadata.get? "status" = some (.integer 0) ∧
      (Access.apache.draft ⟨0, 0⟩ m).metadata.get? "bytes" = some (.integer 0) := by
  have hsyslog : (Syslog.rule.pattern.find?
      "<999>Oct 11 22:14:15 host app[18446744073709551616]: m".toList).map
        (fun m => (m.group? 1, m.group? 5)) =
      some (some "999".toList, some "18446744073709551616".toList) := by
    rw [Pattern.find?_eq_run]
    decide +kernel
  have hapache : (Access.apache.pattern.find?
      "h - - [10/Oct/2000:13:55:36 -0700] \"r\" ٤٠٤ 18446744073709551616".toList).map
        (fun m => (m.group? 6, m.group? 7)) =
      some (some "٤٠٤".toList, some "18446744073709551616".toList) := by
    rw [Pattern.find?_eq_run]
    decide +kernel
  obtain ⟨m, hm, hgroups⟩ := Option.map_eq_some_iff.mp hsyslog
  obtain ⟨hone, hfive⟩ := Prod.mk.inj hgroups
  obtain ⟨m', hm', hgroups'⟩ := Option.map_eq_some_iff.mp hapache
  obtain ⟨hsix, hseven⟩ := Prod.mk.inj hgroups'
  have hnumbers := Syslog.hasNumbers hm ⟨0, 0⟩
  obtain ⟨status, bytes, hstatus, hbytes, hnumbers'⟩ := Access.hasNumbers_apache hm' ⟨0, 0⟩
  obtain rfl : status = "٤٠٤".toList := Option.some.inj (hstatus.symm.trans hsix)
  obtain rfl : bytes = "18446744073709551616".toList := Option.some.inj (hbytes.symm.trans hseven)
  have hlong : ¬ IsReadable UInt64.size "18446744073709551616".toList := by decide
  have hpriority : ¬ IsReadable 256 "999".toList := by decide
  have hscript : ¬ IsAscii "٤٠٤".toList := by decide
  refine ⟨⟨m, hm, hone, hfive, ?_, ?_⟩, m', hm', hsix, by decide, hseven, ?_, ?_⟩
  · rw [hnumbers.priority_recorded, hone, filter_of_not_isReadable hpriority, Option.map_none]
  · rw [hnumbers.pid_recorded, hfive, filter_of_not_isReadable hlong, Option.map_none]
  · rw [hnumbers'.status_recorded, if_neg hscript]
    rfl
  · rw [hnumbers'.bytes_recorded, if_neg hlong]
    rfl

end Rule

end Logbook
