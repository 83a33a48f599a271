import Logbook.Pattern.CharSet
import Logbook.Proofs.Pattern.Sets
import Logbook.Proofs.Text.Case
import Mathlib.Tactic.Common

/-! Variants of ASCII letters. Apart from K and S, which have a third form each, a capital letter
differs in case from its small letter only. -/

namespace Logbook

namespace Text

theorem shiftedTo_eq_some {runs : List CaseRun} {n m : Nat} (h : shiftedTo runs n = some m) :
    ∃ run ∈ runs, run.first ≤ m ∧ m = n - run.shift.toNat ∧ run.shift ≤ n := by
  induction runs with
  | nil => cases h
  | cons run runs ih =>
    rw [shiftedTo] at h
    split_ifs at h with hrun
    · obtain rfl := Option.some.inj h
      exact ⟨run, by simp, hrun.2.1, rfl, hrun.1⟩
    · obtain ⟨run', hrun', hfirst, hm⟩ := ih h
      exact ⟨run', by simp [hrun'], hfirst, hm⟩

/-- The runs that begin among the capital letters move them to the small ones. -/
theorem variantRuns_first : ∀ run ∈ variantRuns,
    0x41 ≤ run.first ∧ 0 ≤ run.shift ∧ (run.first ≤ 0x5A → run.shift = 32) := by
  decide +kernel

theorem variantSets_capital : ∀ set ∈ variantSets, ∀ n ∈ set,
    n = 0x4B ∨ n = 0x53 ∨ 0x5A < n := by
  decide

/-- A capital letter with a single variant. -/
structure IsPlainCapital (d : Char) : Prop where
  lower : 0x41 ≤ d.toNat
  upper : d.toNat ≤ 0x5A
  notK : d.toNat ≠ 0x4B
  notS : d.toNat ≠ 0x53

instance (d : Char) : Decidable (IsPlainCapital d) :=
  decidable_of_iff (0x41 ≤ d.toNat ∧ d.toNat ≤ 0x5A ∧ d.toNat ≠ 0x4B ∧ d.toNat ≠ 0x53)
    ⟨fun ⟨h₁, h₂, h₃, h₄⟩ => ⟨h₁, h₂, h₃, h₄⟩, fun ⟨h₁, h₂, h₃, h₄⟩ => ⟨h₁, h₂, h₃, h₄⟩⟩

theorem toNat_of_mem_variants {c d : Char} (hd : IsPlainCapital d) (h : d ∈ variants c) :
    c.toNat = d.toNat + 32 := by
  obtain ⟨hlower, hupper, hk, hs⟩ := hd
  rw [variants] at h
  obtain ⟨n, hn, rfl⟩ := List.mem_map.mp h
  have hvalid : (Char.ofNat n).toNat = n := by
    by_cases hvalid : n.isValidChar
    · rw [Char.ofNat, dif_pos hvalid]
      rfl
    · rw [Char.ofNat, dif_neg hvalid] at hlower
      exact absurd hlower (by decide)
  rw [hvalid] at hlower hupper hk hs ⊢
  split at hn
  · next set hset =>
    have hcapital := variantSets_capital set (List.mem_of_find?_eq_some hset) n
      (List.mem_of_mem_filter hn)
    omega
  · simp only [List.mem_append, Option.mem_toList] at hn
    rcases hn with hn | hn
    · obtain ⟨run, hrun, hfirst, -, hm⟩ := shiftBy_eq_some hn
      obtain ⟨hlow, hshift, h32⟩ := variantRuns_first run hrun
      omega
    · obtain ⟨run, hrun, hfirst, hm, hle⟩ := shiftedTo_eq_some hn
      obtain ⟨hlow, hshift, h32⟩ := variantRuns_first run hrun
      omega

end Text

namespace Pattern.CharSet

theorem toNat_of_has_folded_just {c d : Char} (hd : Text.IsPlainCapital d)
    (h : (folded (just d)).has c = true) : c.toNat = d.toNat ∨ c.toNat = d.toNat + 32 := by
  rw [has, Bool.or_eq_true, has_just_iff, List.any_eq_true] at h
  rcases h with rfl | ⟨e, he, hjust⟩
  · exact .inl rfl
  · obtain rfl := has_just_iff.mp hjust
    exact .inr (Text.toNat_of_mem_variants hd he)

end Pattern.CharSet

end Logbook
