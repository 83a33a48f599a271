import Logbook.Proofs.Json.Braces
import Logbook.Proofs.Normalizer.Extension
import Logbook.Proofs.Record.Structured

/-! Lines that write no object. The first and the last character often tell: an object stands between
braces, with white space around it at most. Such a line goes to the rules. -/

namespace Logbook.Normalizer

open Json (Members isSpace)
open Pattern (isWord)

variable {line : String} {c : Char}

theorem exists_read_of_lineObject? (h : lineObject? line ≠ none) :
    ∃ members, Json.read line = .ok (.object members) := by
  rw [lineObject?] at h
  split at h
  · next members hread => exact ⟨members, hread⟩
  · exact absurd rfl h

theorem lineObject?_eq_none_of_head? (h : line.toList.head? = some c) (hbrace : c ≠ '\x7b')
    (hspace : isSpace c = false) : lineObject? line = none := by
  by_contra hobject
  obtain ⟨members, hread⟩ := exists_read_of_lineObject? hobject
  obtain ⟨inner, trail, hskip, -⟩ := Json.read_object_eq hread
  obtain ⟨rest, hline⟩ := List.head?_eq_some_iff.mp h
  have hkept : Json.skipSpace line.toList = line.toList := by
    rw [hline, Json.skipSpace, List.dropWhile_cons_of_neg (by simp [hspace])]
  rw [hkept, hline] at hskip
  exact hbrace (List.cons.inj hskip).1

theorem lineObject?_eq_none_of_word {rest : List Char} (h : line.toList = c :: rest)
    (hc : isWord true c = true) : lineObject? line = none := by
  have hhead : line.toList.head? = some c := by rw [h]; rfl
  refine lineObject?_eq_none_of_head? hhead ?_ ?_
  · rintro rfl
    cases hc
  · by_contra hspace
    simp only [Bool.not_eq_false, isSpace, Bool.or_eq_true, beq_iff_eq] at hspace
    rcases hspace with ((rfl | rfl) | rfl) | rfl <;> cases hc

theorem lineObject?_eq_none_of_getLast? (h : line.toList.getLast? = some c) (hbrace : c ≠ '\x7d')
    (hspace : isSpace c = false) : lineObject? line = none := by
  by_contra hobject
  obtain ⟨members, hread⟩ := exists_read_of_lineObject? hobject
  obtain ⟨inner, trail, hskip, htrail⟩ := Json.read_object_eq hread
  obtain ⟨front, hfront⟩ := Json.skipSpace_suffix line.toList
  rw [← hfront, hskip] at h
  cases trail using List.reverseRecOn with
  | nil =>
    have hc : '\x7d' = c := by simpa [List.getLast?_append, List.getLast?_cons] using h
    exact hbrace hc.symm
  | append_singleton trail d =>
    have hc : d = c := by simpa [List.getLast?_append, List.getLast?_cons] using h
    rw [← hc, htrail d (by simp)] at hspace
    cases hspace

/-- Nothing is missing from a draft whose texts are all there. -/
theorem complete_of_ne_empty (now : Time.Instant) (level : Level) {message service timestamp : String}
    (metadata : Members) (hmessage : message ≠ "") (hservice : service ≠ "")
    (htimestamp : timestamp ≠ "") :
    Draft.complete now ⟨level, message, service, timestamp, metadata⟩ =
      ⟨level, message, service, timestamp, metadata⟩ := by
  rw [Draft.complete, Record.filled_some hmessage, Record.filled_some hservice,
    Record.filled_some htimestamp, Option.getD_some]

/-- The first of the built-in rules that matches decides, whatever is registered behind them. -/
theorem normalize_of_first (custom : List Rule) (now : Time.Instant) (before : List Rule)
    {after : List Rule} {rule : Rule} {m : Pattern.Match} (hobject : lineObject? line = none)
    (hrules : builtinRules = before ++ rule :: after)
    (hbefore : ∀ r ∈ before, ¬ r.Matches line.toList)
    (hm : rule.pattern.find? line.toList = some m) :
    (builtin.extend custom).normalize now line = (rule.draft now m).complete now := by
  have hextend : builtin.extend custom = ⟨before ++ rule :: (after ++ custom)⟩ := by
    simp [extend, builtin, hrules]
  rw [normalize_eq, hobject, Option.bind_none, Option.getD_none, hextend,
    matchRules_of_first now hbefore hm]

end Logbook.Normalizer
