import Logbook.Normalizer

/-! What the record of a line can be: the object that the line writes, what the first matching rule
makes of it, or a guess. Whatever it is, none of its texts is empty. -/

namespace Logbook

open Json (Members)

/-- None of the three texts is empty. -/
structure Record.IsFilled (r : Record) : Prop where
  message : r.message ≠ ""
  service : r.service ≠ ""
  timestamp : r.timestamp ≠ ""

namespace Normalizer

/-- A line goes to the rules, or is a record already. -/
theorem normalize_cases (n : Normalizer) (now : Time.Instant) (line : String) :
    n.normalize now line = n.matchRules now line.toList ∨
      ∃ members, Json.read line = .ok (.object members) ∧
        Record.ofMembers? now members = some (n.normalize now line) := by
  rw [normalize]
  split
  · next members hread =>
    cases hrecord : Record.ofMembers? now members with
    | none => exact .inl rfl
    | some r => exact .inr ⟨members, hread, hrecord⟩
  · exact .inl rfl

theorem ofMembers?_eq_some {now : Time.Instant} {members : Members} {r : Record}
    (h : Record.ofMembers? now members = some r) :
    ∃ d : Draft, d.metadata = Record.foldedMetadata members ∧ d.complete now = r := by
  rw [Record.ofMembers?] at h
  obtain ⟨level, -, h⟩ := Option.bind_eq_some_iff.mp h
  obtain ⟨message, -, h⟩ := Option.bind_eq_some_iff.mp h
  exact ⟨_, rfl, Option.some.inj h⟩

theorem matchRules_cases (n : Normalizer) (now : Time.Instant) (line : List Char) :
    n.matchRules now line = (guessed line).complete now ∨
      ∃ rule ∈ n.rules, ∃ m, n.matchRules now line = (rule.draft now m).complete now := by
  rw [matchRules]
  cases h : n.rules.findSome? fun rule => rule.apply now line with
  | none => exact .inl rfl
  | some d =>
    obtain ⟨rule, hrule, happly⟩ := List.exists_of_findSome?_eq_some h
    obtain ⟨m, -, rfl⟩ := Option.map_eq_some_iff.mp happly
    exact .inr ⟨rule, hrule, m, rfl⟩

theorem filled_ne_empty (text : Option String) {otherwise : String} (h : otherwise ≠ "") :
    Draft.filled text otherwise ≠ "" := by
  rw [Draft.filled]
  cases hfilter : text.filter (· != "") with
  | none => exact h
  | some t => simpa using (Option.filter_eq_some_iff.mp hfilter).2

theorem text_ne_empty (now : Time.Instant) : now.text ≠ "" := by
  simp [Time.Instant.text, Time.Instant.chars]

theorem isFilled_complete (now : Time.Instant) (d : Draft) : (d.complete now).IsFilled where
  message := filled_ne_empty d.message (by decide)
  service := filled_ne_empty d.service (by decide)
  timestamp := filled_ne_empty d.timestamp (text_ne_empty now)

theorem isFilled_normalize (n : Normalizer) (now : Time.Instant) (line : String) :
    (n.normalize now line).IsFilled := by
  rcases n.normalize_cases now line with h | ⟨members, -, hrecord⟩
  · rw [h, matchRules]
    exact isFilled_complete now _
  · obtain ⟨d, -, hcomplete⟩ := ofMembers?_eq_some hrecord
    rw [← hcomplete]
    exact isFilled_complete now d

end Normalizer

end Logbook
