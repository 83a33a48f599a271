import Logbook.Normalizer
import Logbook.Proofs.Json.Compact

/-! A value and the line that writes it. The line is read back to the value unless it is too deep,
so both are a record already or none is, and what is none goes to the rules as the same text. -/

namespace Logbook.Normalizer

open Json (Value)

variable {n : Normalizer} {now : Time.Instant} {v : Value}

theorem normalize_of_read {line : String} (hv : ∀ s, v ≠ .string s)
    (hline : line.toList = v.compactChars) (h : Json.read line = .ok v) :
    n.normalize now line = n.normalizeValue now v := by
  rw [normalize, h, hline]
  cases v with
  | string s => exact absurd rfl (hv s)
  | _ => rfl

theorem normalize_of_read_error {line : String} {e : Json.Fault} (h : Json.read line = .error e) :
    n.normalize now line = n.matchRules now line.toList := by
  rw [normalize, h]

/-- The depth alone decides whether the line is more than a text for the rules. -/
theorem normalize_value_compact (h : v.IsCanonical) (hfree : v.FloatFree)
    (hv : ∀ s, v ≠ .string s) :
    n.normalize now v.compact =
      if v.depth ≤ 127 then n.normalizeValue now v else n.matchRules now v.compactChars := by
  have hread := Json.read_compact (h.isExact hfree)
  have hline : v.compact.toList = v.compactChars := String.toList_ofList
  by_cases hdepth : v.depth ≤ 127
  · rw [if_pos hdepth, h.sorted] at hread
    rw [if_pos hdepth, normalize_of_read hv hline hread]
  · rw [if_neg hdepth] at hread
    rw [if_neg hdepth, normalize_of_read_error hread, hline]

/-- A value that is no text gets the record of the line that writes it, and so does the text that
holds this line; every text gets the record of the line that it is. -/
theorem normalizeValue_compact (n : Normalizer) (now : Time.Instant) :
    (∀ v : Value, v.IsCanonical → v.FloatFree → v.depth ≤ 127 → (∀ s, v ≠ .string s) →
      n.normalize now v.compact = n.normalizeValue now v ∧
        n.normalizeValue now (.string v.compact) = n.normalizeValue now v) ∧
      ∀ s, n.normalizeValue now (.string s) = n.normalize now s := by
  have htext (s : String) : n.normalizeValue now (.string s) = n.normalize now s := rfl
  refine ⟨fun v h hfree hdepth hv => ?_, htext⟩
  have hline : n.normalize now v.compact = n.normalizeValue now v := by
    rw [normalize_value_compact h hfree hv, if_pos hdepth]
  exact ⟨hline, by rw [htext, hline]⟩

/-- An object that has a level but no message. -/
def unsentValue : Value :=
  .object [("level", .string "warn"), ("retries", .array [.integer 3, .object [], .null])]

theorem normalizeValue_compact_unsent :
    (unsentValue.IsCanonical ∧ unsentValue.FloatFree ∧ unsentValue.depth ≤ 127 ∧
        ∀ s, unsentValue ≠ .string s) ∧
      builtin.normalize ⟨0, 0⟩ unsentValue.compact = builtin.normalizeValue ⟨0, 0⟩ unsentValue ∧
      builtin.normalizeValue ⟨0, 0⟩ (.string unsentValue.compact) =
        builtin.normalizeValue ⟨0, 0⟩ unsentValue := by
  have hcanonical : unsentValue.IsCanonical := ⟨rfl, by decide⟩
  have hfree : unsentValue.FloatFree := by decide
  have hdepth : unsentValue.depth ≤ 127 := by decide
  have hv : ∀ s, unsentValue ≠ .string s := by simp [unsentValue]
  exact ⟨⟨hcanonical, hfree, hdepth, hv⟩,
    (normalizeValue_compact builtin ⟨0, 0⟩).1 unsentValue hcanonical hfree hdepth hv⟩

end Logbook.Normalizer
