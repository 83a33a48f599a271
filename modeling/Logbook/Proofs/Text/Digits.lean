import Logbook.Text.Digits
import Mathlib.Algebra.Group.Nat.Defs
import Mathlib.Data.List.Induction
import Mathlib.Tactic.Ring

/-! Decimal digits of a number: reading them gives the number back, only zero begins with a zero, and
a number that was read from digits is written with the same digits again, zeros in front included. -/

namespace Logbook.Text

theorem digitsValue_eq_ofDigitChars (s : List Char) : digitsValue s = Nat.ofDigitChars 10 s 0 :=
  rfl

theorem digitsValue_toDigits (n : Nat) : digitsValue (Nat.toDigits 10 n) = n := by
  rw [digitsValue_eq_ofDigitChars, Nat.ofDigitChars_ten_toDigits]

theorem isDigit_of_mem_toDigits {n : Nat} {c : Char} (h : c ∈ Nat.toDigits 10 n) :
    c.isDigit = true :=
  Nat.isDigit_of_mem_toDigits (by decide) (by decide) h

theorem digitChar_ne_zero {d : Nat} (hpos : 0 < d) (hlt : d < 10) : d.digitChar ≠ '0' := by
  have h : ∀ d : Fin 10, 0 < d.val → d.val.digitChar ≠ '0' := by decide
  exact h ⟨d, hlt⟩ hpos

/-- A number is written without zeros in front. -/
theorem head?_toDigits_ne_zero {n : Nat} (hn : 0 < n) : (Nat.toDigits 10 n).head? ≠ some '0' := by
  induction n using Nat.strongRecOn with
  | ind n ih =>
    by_cases hlt : n < 10
    · rw [Nat.toDigits_of_lt_base hlt]
      simpa using digitChar_ne_zero hn hlt
    · have hq := ih (n / 10) (by omega) (by omega)
      obtain ⟨c, s, hs⟩ := List.exists_cons_of_ne_nil (Nat.toDigits_ne_nil (n := n / 10) (b := 10))
      rw [hs] at hq
      rw [Nat.toDigits_of_base_le (by decide) (by omega), hs]
      simpa using hq

theorem le_ofDigitChars (s : List Char) (n : Nat) : n ≤ Nat.ofDigitChars 10 s n := by
  induction s generalizing n with
  | nil => simp
  | cons c s ih =>
    rw [Nat.ofDigitChars_cons]
    exact Nat.le_trans (by omega) (ih _)

/-! ### Digits as they are written -/

variable {c : Char} {s : List Char}

theorem isDigit_iff_toNat : c.isDigit = true ↔ 48 ≤ c.toNat ∧ c.toNat ≤ 57 := by
  simp [Char.isDigit, UInt32.le_iff_toNat_le]

theorem digitValue_lt (h : c.isDigit = true) : digitValue c < 10 := by
  have hc : 48 ≤ c.toNat ∧ c.toNat ≤ 57 := isDigit_iff_toNat.mp h
  have hzero : '0'.toNat = 48 := rfl
  rw [digitValue, hzero]
  omega

theorem digitChar_digitValue (h : c.isDigit = true) : (digitValue c).digitChar = c := by
  have hall : ∀ d < 10, ∀ n < 58, 48 ≤ n → n - 48 = d → d.digitChar.toNat = n := by decide
  have hc : 48 ≤ c.toNat ∧ c.toNat ≤ 57 := isDigit_iff_toNat.mp h
  apply Char.toNat_inj.mp
  exact hall _ (digitValue_lt h) c.toNat (by omega) hc.1 rfl

theorem digitsValue_concat (s : List Char) (c : Char) :
    digitsValue (s ++ [c]) = 10 * digitsValue s + digitValue c := by
  simp [digitsValue]

/-- The number that ASCII digits write, each of them counted by its place. -/
def placeValue : List Char → Nat
  | [] => 0
  | c :: rest => digitValue c * 10 ^ rest.length + placeValue rest

theorem digitsValue_eq_placeValue (s : List Char) : digitsValue s = placeValue s := by
  have hfold (n : Nat) :
      s.foldl (fun n c => 10 * n + digitValue c) n = n * 10 ^ s.length + placeValue s := by
    induction s generalizing n with
    | nil => simp [placeValue]
    | cons c s ih =>
      rw [List.foldl_cons, ih, placeValue, List.length_cons, Nat.pow_succ]
      ring
  simpa [digitsValue] using hfold 0

theorem nat?_of_isDigit (hne : s ≠ []) (h : ∀ c ∈ s, c.isDigit = true) :
    nat? s = some (digitsValue s) := by
  simp [nat?, hne, List.all_eq_true.mpr h]

theorem digitsValue_lt (h : ∀ c ∈ s, c.isDigit = true) : digitsValue s < 10 ^ s.length := by
  induction s using List.reverseRecOn with
  | nil => simp [digitsValue]
  | append_singleton s c ih =>
    have hs := ih fun d hd => h d (by simp [hd])
    have hc := digitValue_lt (h c (by simp))
    rw [digitsValue_concat, List.length_append, List.length_singleton, Nat.pow_succ]
    omega

/-- A digit behind a number that 32 bits do not hold changes nothing. -/
theorem held32?_bind_appendDigit? (n : Nat) (c : Char) :
    (held32? n).bind (appendDigit? · c) = held32? (10 * n + digitValue c) := by
  by_cases hn : n < UInt32.size
  · rw [held32?, if_pos hn, Option.bind_some, appendDigit?]
    by_cases htens : 10 * n < UInt32.size
    · rw [held32?, if_pos htens]
      rfl
    · have hsum : ¬ 10 * n + digitValue c < UInt32.size := by omega
      rw [held32?, if_neg htens, held32?, if_neg hsum]
      rfl
  · have hsum : ¬ 10 * n + digitValue c < UInt32.size := by omega
    rw [held32?, if_neg hn, held32?, if_neg hsum, Option.bind_none]

theorem foldlM_appendDigit? (s : List Char) :
    s.foldlM appendDigit? 0 = held32? (digitsValue s) := by
  induction s using List.reverseRecOn with
  | nil => rfl
  | append_singleton s c ih =>
    calc
      (s ++ [c]).foldlM appendDigit? 0 = (s.foldlM appendDigit? 0).bind (appendDigit? · c) := by
        simp [List.foldlM_append]
      _ = held32? (digitsValue (s ++ [c])) := by
        rw [ih, held32?_bind_appendDigit?, digitsValue_concat]

/-- Reading digit by digit fails just where 32 bits do not hold the number. -/
theorem nat32?_eq (hne : s ≠ []) : nat32? s = held32? (digitsValue s) := by
  rw [nat32?, if_neg (by simpa using hne), foldlM_appendDigit?]

theorem padded_concat {width : Nat} (hwidth : 0 < width) (n : Nat) {d : Nat} (hd : d < 10) :
    padded (width + 1) (10 * n + d) = padded width n ++ [d.digitChar] := by
  by_cases hn : n = 0
  · subst hn
    obtain ⟨w, rfl⟩ : ∃ w, width = w + 1 := ⟨width - 1, by omega⟩
    simp [padded, Nat.toDigits_of_lt_base hd, List.replicate_succ']
  · have hdiv : (10 * n + d) / 10 = n := by omega
    have hmod : (10 * n + d) % 10 = d := by omega
    rw [padded, padded, Nat.toDigits_of_base_le (by decide) (by omega), hdiv, hmod]
    simp

/-- Digits are written again as they were. -/
theorem padded_digitsValue (hne : s ≠ []) (h : ∀ c ∈ s, c.isDigit = true) :
    padded s.length (digitsValue s) = s := by
  induction s using List.reverseRecOn with
  | nil => exact absurd rfl hne
  | append_singleton s c ih =>
    have hc := h c (by simp)
    rw [digitsValue_concat, List.length_append, List.length_singleton]
    by_cases hs : s = []
    · subst hs
      simp [padded, digitsValue, Nat.toDigits_of_lt_base (digitValue_lt hc), digitChar_digitValue hc]
    · rw [padded_concat (List.length_pos_iff.mpr hs) _ (digitValue_lt hc), digitChar_digitValue hc,
        ih hs fun d hd => h d (by simp [hd])]

theorem digitChar_lt_iff {d e : Nat} (hd : d < 10) (he : e < 10) :
    d.digitChar < e.digitChar ↔ d < e := by
  have h : ∀ d e : Fin 10, d.val.digitChar < e.val.digitChar ↔ d.val < e.val := by decide
  exact h ⟨d, hd⟩ ⟨e, he⟩

theorem digitChar_inj {d e : Nat} (hd : d < 10) (he : e < 10) :
    d.digitChar = e.digitChar ↔ d = e := by
  have h : ∀ d e : Fin 10, d.val.digitChar = e.val.digitChar ↔ d.val = e.val := by decide
  exact h ⟨d, hd⟩ ⟨e, he⟩

/-- Texts that begin with numbers of one width are in the order of the numbers, and then of what
follows. -/
theorem padded_append_lt_iff {width m n : Nat} (hm : m < 10 ^ (width + 1)) (hn : n < 10 ^ (width + 1))
    (s t : List Char) :
    padded (width + 1) m ++ s < padded (width + 1) n ++ t ↔ m < n ∨ m = n ∧ s < t := by
  induction width generalizing m n s t with
  | zero =>
    have hone {d : Nat} (hd : d < 10) : padded 1 d = [d.digitChar] := by
      simp [padded, Nat.toDigits_of_lt_base hd]
    rw [hone (by simpa using hm), hone (by simpa using hn), List.singleton_append,
      List.singleton_append, List.cons_lt_cons_iff, digitChar_lt_iff (by simpa using hm)
      (by simpa using hn), digitChar_inj (by simpa using hm) (by simpa using hn)]
  | succ width ih =>
    have hsplit (k : Nat) : padded (width + 1 + 1) k =
        padded (width + 1) (k / 10) ++ [(k % 10).digitChar] := by
      conv_lhs => rw [← Nat.div_add_mod k 10]
      exact padded_concat (Nat.succ_pos width) _ (Nat.mod_lt _ (by decide))
    have hlt {k : Nat} : k % 10 < 10 := Nat.mod_lt _ (by decide)
    rw [Nat.pow_succ] at hm hn
    rw [hsplit, hsplit, List.append_assoc, List.append_assoc, ih (by omega) (by omega),
      List.singleton_append, List.singleton_append, List.cons_lt_cons_iff,
      digitChar_lt_iff hlt hlt, digitChar_inj hlt hlt]
    by_cases hst : s < t <;> simp only [hst, and_true, and_false, or_false] <;> omega

/-- The same mark behind both numbers does not matter. -/
theorem padded_mark_lt_iff {width m n : Nat} (hm : m < 10 ^ (width + 1)) (hn : n < 10 ^ (width + 1))
    (mark : Char) (s t : List Char) :
    padded (width + 1) m ++ mark :: s < padded (width + 1) n ++ mark :: t ↔ m < n ∨ m = n ∧ s < t := by
  rw [padded_append_lt_iff hm hn, List.cons_lt_cons_iff]
  simp

end Logbook.Text
