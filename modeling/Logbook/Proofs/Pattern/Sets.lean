import Logbook.Pattern.Meaning
import Logbook.Proofs.Text.Blank

/-! The sets that the built-in patterns are made of, and which of them have characters in common:
digits belong to words, and neither has white space. -/

namespace Logbook

namespace Text

/-- All code points of a set. -/
def Ranges.toList (r : Ranges) : List Nat := r.flatMap fun p => List.range' p.1 (p.2 + 1 - p.1)

theorem Ranges.mem_toList {r : Ranges} {n : Nat} (h : r.has n = true) : n ∈ r.toList := by
  induction r with
  | nil => simp [has] at h
  | cons p r ih =>
    obtain ⟨lo, hi⟩ := p
    rw [toList, List.flatMap_cons, List.mem_append]
    simp only [has] at h
    split at h
    · cases h
    · rcases Bool.or_eq_true_iff.mp h with hn | hn
      · have hle : n ≤ hi := by simpa using hn
        exact .inl (List.mem_range'_1.mpr ⟨by omega, by omega⟩)
      · exact .inr (ih hn)

theorem not_isWord_of_isBlank {c : Char} (h : isBlank c = true) :
    wordRanges.has c.toNat = false := by
  have hall : ∀ n ∈ blankRanges.toList, wordRanges.has n = false := by decide +kernel
  exact hall _ (Ranges.mem_toList h)

theorem not_isDecimal_of_isBlank {c : Char} (h : isBlank c = true) :
    digitRanges.has c.toNat = false := by
  have hall : ∀ n ∈ blankRanges.toList, digitRanges.has n = false := by decide
  exact hall _ (Ranges.mem_toList h)

end Text

namespace Pattern.CharSet

variable {c d : Char}

@[simp] theorem has_just_iff : (just d).has c = true ↔ c = d := by
  rw [← Char.toNat_inj]
  simp [just, has, Text.Ranges.has]
  omega

@[simp] theorem has_complement_iff {s : CharSet} : (complement s).has c = true ↔ s.has c = false := by
  simp [has]

theorem has_complement_just_iff : (complement (just d)).has c = true ↔ c ≠ d := by
  rw [has_complement_iff, Bool.eq_false_iff, Ne, has_just_iff]

@[simp] theorem has_union_iff {s t : CharSet} :
    (union s t).has c = true ↔ s.has c = true ∨ t.has c = true := by
  simp [has]

@[simp] theorem has_empty : empty.has c = false := rfl

/-- A run of the set cannot go on. -/
def Stops (s : CharSet) (later : List Char) : Prop := ∀ c ∈ later.head?, s.has c = false

theorem stops_nil (s : CharSet) : s.Stops [] := by simp [Stops]

theorem stops_cons {s : CharSet} {later : List Char} : s.Stops (c :: later) ↔ s.has c = false := by
  simp [Stops]

end Pattern.CharSet

end Logbook
