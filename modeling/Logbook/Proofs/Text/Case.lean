import Logbook.Proofs.Text.Cut
import Logbook.Proofs.Text.Utf8
import Logbook.Text.Case
import Mathlib.Tactic.Common

/-! Lower case and ASCII. Beyond ASCII the table moves one character into it, the Kelvin sign, and
gives one an ASCII letter with a mark behind it. So a word without `k` that does not end in `i` is found
in a text in lower case where it is found up to the case of ASCII letters. -/

namespace Logbook.Text

/-! ### The table -/

/-- What a table moves lies in one of its runs. -/
theorem shiftBy_eq_some {runs : List CaseRun} {n m : Nat} (h : shiftBy runs n = some m) :
    ∃ run ∈ runs, run.first ≤ n ∧ n ≤ run.last ∧ m = (n + run.shift).toNat := by
  induction runs with
  | nil => cases h
  | cons run runs ih =>
    rw [shiftBy] at h
    split_ifs at h with hlt hle hstep
    · exact ⟨run, by simp, by omega, hle, (Option.some.inj h).symm⟩
    · obtain ⟨run', hrun', hfirst, hlast, hm⟩ := ih h
      exact ⟨run', by simp [hrun'], hfirst, hlast, hm⟩

set_option maxRecDepth 2000 in
/-- The run of the capital ASCII letters is the only one that begins in ASCII. -/
theorem lowerRuns_ascii : ∀ run ∈ lowerRuns, run.first < 0x80 → run.last < 0x80 := by
  decide

set_option maxRecDepth 4000 in
/-- The other runs move no character into ASCII, the Kelvin sign apart, and none among what is no
character. -/
theorem lowerRuns_foreign : ∀ run ∈ lowerRuns, 0x80 ≤ run.first →
    (run.first = 0x212A ∧ run.last = 0x212A ∧ run.shift = 0x6B - 0x212A) ∨
      0x80 ≤ run.first + run.shift ∧
        (run.last + run.shift < 0xD800 ∨
          0xDFFF < run.first + run.shift ∧ run.last + run.shift < 0x110000) := by
  decide

theorem lowerChar_ascii {c : Char} (h : c.toNat < 0x80) : lowerChar c = [c.toLower] := by
  have hall : ∀ n < 0x80, lowerChar (Char.ofNat n) = [(Char.ofNat n).toLower] := by decide
  simpa using hall c.toNat h

/-- What lower case makes of a character beyond ASCII: no ASCII letter but `k`, and none in front of it
but `i`. -/
structure IsForeign (front : List Char) (c : Char) : Prop where
  front : front = [] ∨ front = ['i']
  last : c = 'k' ∨ 0x80 ≤ c.toNat

theorem isForeign_of_shift {n m : Nat} (hn : 0x80 ≤ n) (h : shiftBy lowerRuns n = some m) :
    IsForeign [] (Char.ofNat m) := by
  obtain ⟨run, hrun, hfirst, hlast, hshift⟩ := shiftBy_eq_some h
  have hforeign : 0x80 ≤ run.first := by
    by_contra hascii
    have hend := lowerRuns_ascii run hrun (by omega)
    omega
  refine ⟨.inl rfl, ?_⟩
  rcases lowerRuns_foreign run hrun hforeign with ⟨hfirst', hlast', hk⟩ | ⟨hlow, hvalid⟩
  · obtain rfl : m = 0x6B := by omega
    exact .inl rfl
  · have hm : (Char.ofNat m).toNat = m := Utf8.toNat_ofNat (by omega)
    rw [hm]
    omega

theorem exists_lowerChar {c : Char} (h : 0x80 ≤ c.toNat) :
    ∃ front d, IsForeign front d ∧ lowerChar c = front ++ [d] := by
  rw [lowerChar, mapCase]
  split
  · next n hn => exact ⟨[], _, isForeign_of_shift h hn, rfl⟩
  · split
    · next ns hns =>
      obtain ⟨l, l', htable, -⟩ := List.lookup_eq_some_iff.mp hns
      have hdotted : ∀ entry ∈ lowerExpansions, entry.2 = [0x69, 0x307] := by decide
      obtain rfl : ns = [0x69, 0x307] := hdotted (c.toNat, ns) (by simp [htable])
      exact ⟨['i'], Char.ofNat 0x307, ⟨.inr rfl, .inr (by decide)⟩, rfl⟩
    · exact ⟨[], c, ⟨.inl rfl, .inr h⟩, rfl⟩

/-! ### Texts -/

variable {before s w : List Char} {c : Char}

theorem lowerFrom_ascii (h : c.toNat < 0x80) (before s : List Char) :
    lowerFrom before (c :: s) = c.toLower :: lowerFrom (c :: before) s := by
  have hsigma : c ≠ 'Σ' := by
    rintro rfl
    exact absurd h (by decide)
  rw [lowerFrom, if_neg hsigma, lowerChar_ascii h, List.singleton_append]

theorem exists_lowerFrom (h : 0x80 ≤ c.toNat) (before s : List Char) :
    ∃ front d, IsForeign front d ∧
      lowerFrom before (c :: s) = front ++ d :: lowerFrom (c :: before) s := by
  rw [lowerFrom]
  split
  · split
    · exact ⟨[], 'ς', ⟨.inl rfl, .inr (by decide)⟩, rfl⟩
    · exact ⟨[], 'σ', ⟨.inl rfl, .inr (by decide)⟩, rfl⟩
  · obtain ⟨front, d, hforeign, heq⟩ := exists_lowerChar h
    exact ⟨front, d, hforeign, by rw [heq, List.append_assoc, List.singleton_append]⟩

theorem toLower_of_foreign (h : 0x80 ≤ c.toNat) : c.toLower = c := by
  have hupper : ¬ (c.val ≥ 'A'.val ∧ c.val ≤ 'Z'.val) := by
    rintro ⟨-, hz⟩
    have hz : c.toNat ≤ 0x5A := UInt32.le_iff_toNat_le.mp hz
    omega
  exact dif_neg hupper

/-- A word in small letters, of which nothing can come from beyond ASCII. -/
structure IsPlain (w : List Char) : Prop where
  ascii : ∀ c ∈ w, c.toNat < 0x80
  small : w.map Char.toLower = w
  noK : 'k' ∉ w
  last : w.getLast? ≠ some 'i'

instance (w : List Char) : Decidable (IsPlain w) :=
  decidable_of_iff ((w.all fun c => c.toNat < 0x80) ∧ w.map Char.toLower = w ∧ 'k' ∉ w ∧
      w.getLast? ≠ some 'i')
    ⟨fun ⟨h₁, h₂, h₃, h₄⟩ => ⟨by simpa using h₁, h₂, h₃, h₄⟩,
      fun ⟨h₁, h₂, h₃, h₄⟩ => ⟨by simpa using h₁, h₂, h₃, h₄⟩⟩

theorem IsPlain.tail (h : IsPlain (c :: w)) : IsPlain w where
  ascii := (List.forall_mem_cons.mp h.ascii).2
  small := (List.cons.inj h.small).2
  noK hk := h.noK (List.mem_cons_of_mem c hk)
  last hi := h.last (by rw [List.getLast?_cons, hi]; rfl)

namespace IsForeign

variable {front : List Char}

theorem of_toNat (h : 0x80 ≤ c.toNat) : IsForeign [] c := ⟨.inl rfl, .inr h⟩

theorem notMem (h : IsForeign front c) (hw : IsPlain w) : c ∉ w := by
  rcases h.last with rfl | hc
  · exact hw.noK
  · intro hm
    have hascii := hw.ascii c hm
    omega

theorem prefix_iff (h : IsForeign front c) (hw : IsPlain w) (s : List Char) :
    w <+: front ++ c :: s ↔ w = [] := by
  have hnil {w : List Char} (hw : IsPlain w) : w <+: c :: s ↔ w = [] := by
    rw [List.prefix_cons_iff, or_iff_left]
    rintro ⟨t, rfl, -⟩
    exact h.notMem hw (by simp)
  rcases h.front with rfl | rfl
  · exact hnil hw
  · rw [List.singleton_append, List.prefix_cons_iff, or_iff_left]
    rintro ⟨t, rfl, ht⟩
    obtain rfl := (hnil hw.tail).mp ht
    exact hw.last rfl

theorem infix_iff (h : IsForeign front c) (hw : IsPlain w) (s : List Char) :
    w <:+: front ++ c :: s ↔ w <:+: s := by
  rw [infix_append_cons_iff_of_notMem (h.notMem hw), or_iff_right_iff_imp]
  intro hfront
  have hnil : w = [] := by
    rcases h.front with rfl | rfl
    · exact List.infix_nil.mp hfront
    · refine (List.sublist_singleton.mp hfront.sublist).resolve_right ?_
      rintro rfl
      exact hw.last rfl
  rw [hnil]
  exact List.nil_infix

theorem ne_plain (h : IsForeign front c) (hw : IsPlain w) (s : List Char) : front ++ c :: s ≠ w := by
  rintro rfl
  exact h.notMem hw (by simp)

theorem map_toLower (h : IsForeign front c) : (front ++ [c]).map Char.toLower = front ++ [c] := by
  have hlast : c.toLower = c := by
    rcases h.last with rfl | hc
    · rfl
    · exact toLower_of_foreign hc
  rcases h.front with rfl | rfl
  · simp [hlast]
  · simp [hlast]

end IsForeign

theorem prefix_lowerFrom_iff (hw : IsPlain w) (before s : List Char) :
    w <+: lowerFrom before s ↔ w <+: s.map Char.toLower := by
  induction s generalizing before w with
  | nil => exact Iff.rfl
  | cons c s ih =>
    rw [List.map_cons]
    rcases Nat.lt_or_ge c.toNat 0x80 with hc | hc
    · rw [lowerFrom_ascii hc]
      cases w with
      | nil => simp
      | cons d w => rw [List.cons_prefix_cons, List.cons_prefix_cons, ih hw.tail]
    · obtain ⟨front, d, hforeign, heq⟩ := exists_lowerFrom hc before s
      rw [heq, hforeign.prefix_iff hw, toLower_of_foreign hc]
      exact ((IsForeign.of_toNat hc).prefix_iff hw _).symm

theorem infix_lowerFrom_iff (hw : IsPlain w) (before s : List Char) :
    w <:+: lowerFrom before s ↔ w <:+: s.map Char.toLower := by
  induction s generalizing before with
  | nil => exact Iff.rfl
  | cons c s ih =>
    rcases Nat.lt_or_ge c.toNat 0x80 with hc | hc
    · have hhere := prefix_lowerFrom_iff hw before (c :: s)
      rw [lowerFrom_ascii hc, List.map_cons] at hhere
      rw [lowerFrom_ascii hc, List.map_cons, List.infix_cons_iff, List.infix_cons_iff, hhere, ih]
    · obtain ⟨front, d, hforeign, heq⟩ := exists_lowerFrom hc before s
      rw [heq, hforeign.infix_iff hw, ih, List.map_cons, toLower_of_foreign hc]
      exact ((IsForeign.of_toNat hc).infix_iff hw _).symm

theorem lowerFrom_eq_iff (hw : IsPlain w) (before s : List Char) :
    lowerFrom before s = w ↔ s.map Char.toLower = w := by
  induction s generalizing before w with
  | nil => exact Iff.rfl
  | cons c s ih =>
    rw [List.map_cons]
    rcases Nat.lt_or_ge c.toNat 0x80 with hc | hc
    · rw [lowerFrom_ascii hc]
      cases w with
      | nil => simp
      | cons d w => rw [List.cons.injEq, List.cons.injEq, ih hw.tail]
    · obtain ⟨front, d, hforeign, heq⟩ := exists_lowerFrom hc before s
      rw [heq, toLower_of_foreign hc]
      exact iff_of_false (hforeign.ne_plain hw _) ((IsForeign.of_toNat hc).ne_plain hw _)

theorem map_toLower_lowerFrom (before s : List Char) :
    (lowerFrom before s).map Char.toLower = lowerFrom before s := by
  have hascii : ∀ n < 0x80, (Char.ofNat n).toLower.toLower = (Char.ofNat n).toLower := by
    decide
  induction s generalizing before with
  | nil => rfl
  | cons c s ih =>
    rcases Nat.lt_or_ge c.toNat 0x80 with hc | hc
    · have hsmall := hascii c.toNat hc
      rw [Char.ofNat_toNat] at hsmall
      rw [lowerFrom_ascii hc, List.map_cons, hsmall, ih]
    · obtain ⟨front, d, hforeign, heq⟩ := exists_lowerFrom hc before s
      rw [heq, List.append_cons, List.map_append, hforeign.map_toLower, ih]

/-! ### Plain words -/

theorem lower_eq_iff (hw : IsPlain w) : lower s = w ↔ SameLetters s w := by
  rw [lower, lowerFrom_eq_iff hw, SameLetters, hw.small]

theorem map_toLower_lower_eq_iff (hw : IsPlain w) :
    (lower s).map Char.toLower = w ↔ SameLetters s w := by
  rw [lower, map_toLower_lowerFrom, ← lower, lower_eq_iff hw]

theorem ofList_lower_eq_iff {word : String} (hw : IsPlain word.toList) :
    String.ofList (lower s) = word ↔ SameLetters s word.toList := by
  rw [← lower_eq_iff hw, ← String.toList_inj, String.toList_ofList]

theorem mentions_iff : Mentions s w ↔ w.map Char.toLower <:+: s.map Char.toLower := by
  rw [List.infix_map_iff, Mentions]
  exact exists_congr fun part => and_congr_right fun _ => eq_comm

instance (line word : List Char) : Decidable (Mentions line word) :=
  decidable_of_iff (word.map Char.toLower <:+: line.map Char.toLower) mentions_iff.symm

theorem occurs_lower_iff (hw : IsPlain w) : occurs w (lower s) = true ↔ Mentions s w := by
  rw [occurs_iff, lower, infix_lowerFrom_iff hw, mentions_iff, hw.small]

end Logbook.Text
