import Logbook.Proofs.Text.Digits
import Logbook.Text.Blank
import Mathlib.Data.List.DropRight

/-! Trimming and words. A text is trimmed when no white space stands at either end of it; blank
margins never show in what trimming leaves. -/

namespace Logbook.Text

theorem trimEnd_eq_rdropWhile (s : List Char) : trimEnd s = s.rdropWhile isBlank := rfl

@[simp] theorem isBlank_space : isBlank ' ' = true := by decide

theorem trimStart_append {b : List Char} (s : List Char) (hb : ∀ c ∈ b, isBlank c = true) :
    trimStart (b ++ s) = trimStart s := by
  simp [trimStart, List.dropWhile_append, List.dropWhile_eq_nil_iff.mpr hb]

theorem trimEnd_append {b : List Char} (s : List Char) (hb : ∀ c ∈ b, isBlank c = true) :
    trimEnd (s ++ b) = trimEnd s := by
  have hr : ∀ c ∈ b.reverse, isBlank c = true := by simpa using hb
  simp [trimEnd, List.dropWhile_append, List.dropWhile_eq_nil_iff.mpr hr]

theorem trim_eq_nil_iff {s : List Char} : trim s = [] ↔ ∀ c ∈ s, isBlank c = true := by
  rw [trim, trimEnd_eq_rdropWhile, List.rdropWhile_eq_nil_iff, trimStart]
  constructor
  · intro h c hc
    rw [← List.takeWhile_append_dropWhile (p := isBlank) (l := s), List.mem_append] at hc
    obtain ht | hd := hc
    · exact List.mem_takeWhile_imp ht
    · exact h c hd
  · intro h c hc
    exact h c (List.dropWhile_subset _ hc)

theorem trim_append_blank (s : List Char) {b : List Char} (hb : ∀ c ∈ b, isBlank c = true) :
    trim (s ++ b) = trim s := by
  by_cases hs : ∀ c ∈ s, isBlank c = true
  · rw [trim_eq_nil_iff.mpr hs, trim_eq_nil_iff]
    intro c hc
    obtain h | h := List.mem_append.mp hc
    · exact hs c h
    · exact hb c h
  · have hd : ¬ (s.dropWhile isBlank).isEmpty := by
      simpa [List.isEmpty_iff, List.dropWhile_eq_nil_iff] using hs
    have ht : trimStart (s ++ b) = trimStart s ++ b := by
      simp [trimStart, List.dropWhile_append, hd]
    rw [trim, ht, trimEnd_append _ hb, trim]

theorem trim_blank_append (s : List Char) {b : List Char} (hb : ∀ c ∈ b, isBlank c = true) :
    trim (b ++ s) = trim s := by
  rw [trim, trimStart_append s hb, trim]

theorem exists_trim_margins (s : List Char) : ∃ front back, s = front ++ (trim s ++ back) ∧
    (∀ c ∈ front, isBlank c = true) ∧ ∀ c ∈ back, isBlank c = true := by
  refine ⟨s.takeWhile isBlank, (trimStart s).rtakeWhile isBlank, ?_,
    fun c hc => List.mem_takeWhile_imp hc, fun c hc => List.mem_rtakeWhile_imp hc⟩
  rw [trim, trimEnd_eq_rdropWhile, List.rdropWhile_append_rtakeWhile, trimStart,
    List.takeWhile_append_dropWhile]

theorem trim_subset (s : List Char) : trim s ⊆ s := by
  rw [trim, trimEnd_eq_rdropWhile]
  exact List.Subset.trans (List.rdropWhile_prefix isBlank _).subset (List.dropWhile_subset _)

theorem isTrimmed_iff {s : List Char} :
    IsTrimmed s ↔ (∀ c ∈ s.head?, isBlank c = false) ∧ ∀ c ∈ s.getLast?, isBlank c = false := by
  constructor
  · intro h
    have hlen : (trimStart s).length = s.length := by
      have h₁ : (trim s).length ≤ (trimStart s).length := by
        rw [trim, trimEnd_eq_rdropWhile]
        exact (List.rdropWhile_prefix isBlank (trimStart s)).length_le
      have h₂ : (trimStart s).length ≤ s.length := (List.dropWhile_suffix isBlank).length_le
      rw [h] at h₁
      omega
    have hs : trimStart s = s := (List.dropWhile_suffix isBlank).eq_of_length hlen
    constructor
    · cases s with
      | nil => simp
      | cons c s =>
        have hc := List.dropWhile_eq_self_iff.mp hs (by simp)
        simpa using hc
    · rw [IsTrimmed, trim, hs, trimEnd_eq_rdropWhile, List.rdropWhile_eq_self_iff] at h
      intro c hc
      obtain ⟨hne, rfl⟩ := List.mem_getLast?_eq_getLast hc
      simpa using h hne
  · rintro ⟨hh, hl⟩
    have hs : trimStart s = s := by
      cases s with
      | nil => rfl
      | cons c s => simp [trimStart, hh c rfl]
    rw [IsTrimmed, trim, hs, trimEnd_eq_rdropWhile, List.rdropWhile_eq_self_iff]
    intro hne
    simpa using hl _ (List.getLast?_eq_getLast_of_ne_nil hne)

/-- White space inside does not matter. -/
theorem IsTrimmed.append {a b : List Char} (ha : IsTrimmed a) (hb : IsTrimmed b) (hane : a ≠ [])
    (hbne : b ≠ []) (inside : List Char) : IsTrimmed (a ++ inside ++ b) := by
  rw [isTrimmed_iff] at ha hb ⊢
  constructor
  · intro c hc
    rw [List.append_assoc, List.head?_append, List.head?_eq_some_head hane] at hc
    exact ha.1 c (by simpa [List.head?_eq_some_head hane] using hc)
  · intro c hc
    rw [List.getLast?_append, List.getLast?_eq_some_getLast hbne] at hc
    exact hb.2 c (by simpa [List.getLast?_eq_some_getLast hbne] using hc)

theorem isTrimmed_of_not_blank {s : List Char} (h : ∀ c ∈ s, isBlank c = false) :
    IsTrimmed s := by
  rw [isTrimmed_iff]
  exact ⟨fun c hc => h c (List.mem_of_mem_head? hc), fun c hc => h c (List.mem_of_getLast? hc)⟩

theorem isBlank_of_isDigit {c : Char} (h : c.isDigit = true) : isBlank c = false := by
  have hn : 48 ≤ c.toNat ∧ c.toNat ≤ 57 := isDigit_iff_toNat.mp h
  have h₁ : ¬ c.toNat < 0x09 := by omega
  have h₂ : ¬ c.toNat ≤ 0x0D := by omega
  have h₃ : ¬ c.toNat < 0x20 := by omega
  have h₄ : ¬ c.toNat ≤ 0x20 := by omega
  have h₅ : c.toNat < 0x85 := by omega
  simp [isBlank, blankRanges, Ranges.has, h₁, h₂, h₃, h₄, h₅]

theorem isOneLine_append {s t : List Char} : IsOneLine (s ++ t) ↔ IsOneLine s ∧ IsOneLine t :=
  List.forall_mem_append

theorem words_append_cons (x y : List Char) {c : Char} (hc : isBlank c = true) :
    words (x ++ c :: y) = words x ++ words y := by
  rw [words, List.splitOnP_append_cons x y hc, List.filter_append, words, words]

theorem words_of_not_blank {s : List Char} (hne : s ≠ []) (h : ∀ c ∈ s, isBlank c = false) :
    words s = [s] := by
  rw [words, List.splitOnP_eq_singleton h]
  simp [hne]

/-- A word: not empty and without white space. -/
structure IsToken (w : List Char) : Prop where
  ne_nil : w ≠ []
  notBlank : ∀ c ∈ w, isBlank c = false

/-- White space between words. -/
structure IsGap (b : List Char) : Prop where
  ne_nil : b ≠ []
  blank : ∀ c ∈ b, isBlank c = true

theorem isGap_space : IsGap [' '] := ⟨by simp, by simp⟩

theorem IsToken.append {a b : List Char} (ha : IsToken a) (hb : ∀ c ∈ b, isBlank c = false) :
    IsToken (a ++ b) where
  ne_nil := by simp [ha.ne_nil]
  notBlank := List.forall_mem_append.mpr ⟨ha.notBlank, hb⟩

theorem words_blank_append {b : List Char} (hb : ∀ c ∈ b, isBlank c = true) (s : List Char) :
    words (b ++ s) = words s := by
  induction b with
  | nil => rfl
  | cons c b ih =>
    have hrest := ih fun d hd => hb d (by simp [hd])
    rw [List.cons_append, ← List.nil_append (c :: (b ++ s)), words_append_cons _ _ (hb c (by simp)),
      hrest]
    rfl

theorem words_token_append {w b : List Char} (hw : IsToken w) (hb : IsGap b) (s : List Char) :
    words (w ++ (b ++ s)) = w :: words s := by
  obtain ⟨hne, hblank⟩ := hb
  obtain ⟨c, b, rfl⟩ := List.exists_cons_of_ne_nil hne
  rw [List.cons_append, words_append_cons _ _ (hblank c (by simp)),
    words_of_not_blank hw.ne_nil hw.notBlank, words_blank_append fun d hd => hblank d (by simp [hd])]
  rfl

/-- The first word begins where the text does. -/
theorem exists_words_cons {c : Char} (hc : isBlank c = false) (s : List Char) :
    ∃ w ws, words (c :: s) = (c :: w) :: ws := by
  have hsplit := List.takeWhile_append_dropWhile (p := fun d => !isBlank d) (l := s)
  have htoken : ∀ d ∈ c :: s.takeWhile (fun d => !isBlank d), isBlank d = false := by
    refine List.forall_mem_cons.mpr ⟨hc, fun d hd => ?_⟩
    simpa using List.mem_takeWhile_imp hd
  cases hrest : s.dropWhile fun d => !isBlank d with
  | nil =>
    rw [hrest, List.append_nil] at hsplit
    exact ⟨s, [], words_of_not_blank (by simp) (hsplit ▸ htoken)⟩
  | cons b rest =>
    have hb : isBlank b = true := by
      have hhead := List.head?_dropWhile_not (fun d => !isBlank d) s
      simpa [hrest] using hhead
    have hcut : c :: s = c :: (s.takeWhile fun d => !isBlank d) ++ b :: rest := by
      rw [List.cons_append, ← hrest, hsplit]
    refine ⟨s.takeWhile fun d => !isBlank d, words rest, ?_⟩
    rw [hcut, words_append_cons _ _ hb, words_of_not_blank (by simp) htoken]
    rfl

end Logbook.Text
