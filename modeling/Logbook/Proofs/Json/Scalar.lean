import Logbook.Json.Canonical
import Logbook.Json.Written
import Logbook.Proofs.Result
import Logbook.Proofs.Text.Digits
import Mathlib.Data.List.TakeWhile

/-! Scalars read as they were written: whichever way a character of a string is written, it comes
back, and a number is the same whatever stands behind it, as long as that does not carry it on. -/

namespace Logbook.Json

variable {rest : List Char}

/-! ### Strings -/

theorem hex4_append {n : Nat} {t : List Char} (h : WritesUnit n t) (rest : List Char) :
    hex4 (t ++ rest) = .ok (n, rest) := by
  cases h with
  | digits ha hb hc hd => simp [hex4, ha, hb, hc, hd]

theorem toNat_not_surrogate (c : Char) :
    isLowSurrogate c.toNat = false ∧ isHighSurrogate c.toNat = false := by
  have hvalid : c.toNat < 0xD800 ∨ 0xDFFF < c.toNat ∧ c.toNat < 0x110000 := c.valid
  simp only [isLowSurrogate, isHighSurrogate, Bool.and_eq_false_iff, decide_eq_false_iff_not]
  omega

theorem unicodeEscape_unit {c : Char} {t : List Char} (h : WritesUnit c.toNat t)
    (rest : List Char) : unicodeEscape .use (t ++ rest) = .ok (c, rest) := by
  obtain ⟨hlow, hhigh⟩ := toNat_not_surrogate c
  rw [unicodeEscape, hex4_append h]
  simp [hlow, hhigh]

theorem not_isLowSurrogate_of_isHighSurrogate {n : Nat} (h : isHighSurrogate n = true) :
    isLowSurrogate n = false := by
  simp only [isHighSurrogate, Bool.and_eq_true, decide_eq_true_eq] at h
  simp only [isLowSurrogate, Bool.and_eq_false_iff, decide_eq_false_iff_not]
  omega

theorem unicodeEscape_pair {c : Char} {high low : Nat} {t u : List Char} (ht : WritesUnit high t)
    (hu : WritesUnit low u) (hhigh : isHighSurrogate high = true)
    (hlow : isLowSurrogate low = true)
    (hc : c.toNat = 0x10000 + (high - 0xD800) * 0x400 + (low - 0xDC00)) (rest : List Char) :
    unicodeEscape .use (t ++ '\\' :: 'u' :: (u ++ rest)) = .ok (c, rest) := by
  have hfirst := not_isLowSurrogate_of_isHighSurrogate hhigh
  rw [unicodeEscape, hex4_append ht]
  simp [hfirst, hhigh, hlow, expect, hex4_append hu, ← hc]

theorem escape_letter {letter c : Char} (h : (letter, c) ∈ lettered) (s : List Char) :
    escape .use (letter :: s) = .ok (c, s) := by
  have hall : ∀ m ∈ lettered, ∀ s, escape .use (m.1 :: s) = .ok (m.2, s) := by
    simp [lettered, escape]
  exact hall _ h s

theorem stringBody_escape {n : Nat} {c : Char} {t s : List Char}
    (h : escape .use (t ++ s) = .ok (c, s)) :
    stringBody .use (n + 1) ('\\' :: t ++ s) =
      (stringBody .use n s).map fun (chars, s) => (c :: chars, s) := by
  rw [List.cons_append, stringBody, if_neg (by decide), if_pos rfl, h]
  simp only [ok_bind]
  cases stringBody .use n s <;> rfl

/-- One character is read, however it is written. -/
theorem stringBody_append {c : Char} {t : List Char} (h : WritesChar c t) (n : Nat)
    (s : List Char) :
    stringBody .use (n + 1) (t ++ s) =
      (stringBody .use n s).map fun (chars, s) => (c :: chars, s) := by
  cases h with
  | plain hquote hslash hcontrol =>
    rw [List.singleton_append, stringBody, if_neg hquote, if_neg hslash,
      if_neg (Nat.not_lt.mpr hcontrol)]
    cases stringBody .use n s <;> rfl
  | letter hletter => exact stringBody_escape (escape_letter hletter s)
  | unit hunit => exact stringBody_escape (unicodeEscape_unit hunit s)
  | pair hhigh hlow hfirst hsecond hc =>
    apply stringBody_escape
    rw [List.cons_append, List.append_assoc]
    exact unicodeEscape_pair hhigh hlow hfirst hsecond hc s

/-- No character is written like the end of a string. -/
theorem WritesChar.exists_cons {c : Char} {t : List Char} (h : WritesChar c t) :
    ∃ d s, t = d :: s ∧ d ≠ '"' := by
  cases h with
  | plain hquote => exact ⟨c, [], rfl, hquote⟩
  | letter => exact ⟨'\\', _, rfl, by decide⟩
  | unit => exact ⟨'\\', _, rfl, by decide⟩
  | pair => exact ⟨'\\', _, rfl, by decide⟩

theorem WritesChars.length_le {cs t : List Char} (h : WritesChars cs t) :
    cs.length ≤ t.length := by
  induction h with
  | nil => exact Nat.le_refl 0
  | cons hc _ ih =>
    obtain ⟨d, s, rfl, -⟩ := hc.exists_cons
    simp only [List.length_append, List.length_cons]
    omega

theorem stringBody_chars {cs t : List Char} (h : WritesChars cs t) {n : Nat}
    (hn : cs.length < n) : stringBody .use n (t ++ '"' :: rest) = .ok (cs, rest) := by
  induction h generalizing n with
  | nil =>
    obtain ⟨n, rfl⟩ := Nat.exists_eq_add_one_of_ne_zero (Nat.ne_of_gt hn)
    simp [stringBody]
  | cons hc _ ih =>
    obtain ⟨n, rfl⟩ := Nat.exists_eq_add_one_of_ne_zero (Nat.ne_of_gt (Nat.zero_lt_of_lt hn))
    rw [List.append_assoc, stringBody_append hc, ih (by simpa using hn)]
    rfl

theorem quoted_chars {s : String} {t : List Char} (h : WritesChars s.toList t) :
    quoted .use (t ++ '"' :: rest) = .ok (s, rest) := by
  have hle := h.length_le
  have hlen : s.toList.length < (t ++ '"' :: rest).length + 1 := by
    rw [List.length_append]
    omega
  rw [quoted, stringBody_chars h hlen]
  simp

theorem key_append {k : String} {t : List Char} (h : WritesString k t) (rest : List Char) :
    key .use (t ++ rest) = .ok (k, rest) := by
  cases h with
  | quoted h =>
    rw [List.append_assoc, List.cons_append, key, expect, if_pos rfl]
    exact quoted_chars h

/-! ### Numbers -/

/-- What stands behind a number must not carry it on. -/
def Stops (rest : List Char) : Prop :=
  ∀ c ∈ rest.head?, c.isDigit = false ∧ c ≠ '.' ∧ c ≠ 'e' ∧ c ≠ 'E'

theorem stops_nil : Stops [] := by
  simp [Stops]

theorem Stops.isExponentMark_eq (h : Stops rest) : isExponentMark rest = false := by
  cases rest with
  | nil => rfl
  | cons c rest => simp [isExponentMark, (h c rfl).2.2]

theorem takeWhile_append_stops (h : Stops rest) (t : List Char) :
    (t ++ rest).takeWhile Char.isDigit = t.takeWhile Char.isDigit := by
  induction t with
  | nil =>
    cases rest with
    | nil => rfl
    | cons c rest => simp [(h c rfl).1]
  | cons c t ih => by_cases hc : c.isDigit <;> simp [hc, ih]

theorem dropWhile_append_stops (h : Stops rest) (t : List Char) :
    (t ++ rest).dropWhile Char.isDigit = t.dropWhile Char.isDigit ++ rest := by
  induction t with
  | nil =>
    cases rest with
    | nil => rfl
    | cons c rest => simp [(h c rfl).1]
  | cons c t ih => by_cases hc : c.isDigit <;> simp [hc, ih]

theorem isExponentMark_append (hrest : Stops rest) (t : List Char) :
    isExponentMark (t ++ rest) = isExponentMark t := by
  cases t with
  | nil => exact hrest.isExponentMark_eq
  | cons c t => rfl

/-- What is read from a text is read as well when more stands behind it. -/
structure IsLocal {α : Type} (read : List Char → Except Fault (α × List Char)) : Prop where
  append : ∀ {t u a rest}, read t = .ok (a, u) → Stops rest → read (t ++ rest) = .ok (a, u ++ rest)

namespace IsLocal

variable {α β : Type} {read read' : List Char → Except Fault (α × List Char)}

theorem ok (a : α) : IsLocal fun s => .ok (a, s) where
  append h _ := by
    obtain ⟨rfl, rfl⟩ := pair_eq_of_ok h
    rfl

theorem error (e : Fault) : IsLocal fun _ => (.error e : Except Fault (α × List Char)) where
  append h _ := nomatch h

theorem result (r : Except Fault α) : IsLocal fun s => r.map fun a => (a, s) := by
  cases r with
  | error e => exact error e
  | ok a => exact ok a

theorem bind {next : α × List Char → Except Fault (β × List Char)} (hread : IsLocal read)
    (hnext : ∀ a, IsLocal fun s => next (a, s)) : IsLocal fun s => read s >>= next where
  append h hrest := by
    obtain ⟨⟨a, v⟩, ha, hb⟩ := bind_eq_ok_iff.mp h
    simp only [hread.append ha hrest, ok_bind]
    exact (hnext a).append hb hrest

theorem ite {p : Prop} [Decidable p] (h : IsLocal read) (h' : IsLocal read') :
    IsLocal fun s => if p then read s else read' s := by
  by_cases hp : p
  · simpa only [if_pos hp] using h
  · simpa only [if_neg hp] using h'

/-- Whether there is a point cannot depend on what stands behind. -/
theorem point {f : List Char → Except Fault (α × List Char)} (hread : IsLocal read)
    (hread' : IsLocal read') (h : ∀ s, f ('.' :: s) = read s)
    (h' : ∀ s, s.head? ≠ some '.' → f s = read' s) : IsLocal f where
  append {t u a rest} ha hrest := by
    cases t with
    | nil =>
      have hhead : ([] ++ rest).head? ≠ some '.' := fun hpoint => (hrest '.' hpoint).2.1 rfl
      rw [h' [] (by simp)] at ha
      rw [h' _ hhead]
      exact hread'.append ha hrest
    | cons c t =>
      by_cases hc : c = '.'
      · subst hc
        rw [h] at ha
        rw [List.cons_append, h]
        exact hread.append ha hrest
      · rw [h' _ (by simpa using hc)] at ha
        rw [h' _ (by simpa using hc)]
        exact hread'.append ha hrest

theorem mark {b : Bool} (h : IsLocal read) (h' : IsLocal read') :
    IsLocal fun s => if isExponentMark s || b then read s else read' s where
  append {t u a rest} ha hrest := by
    rw [isExponentMark_append hrest]
    exact (h.ite h').append ha hrest

end IsLocal

theorem isLocal_digits : IsLocal (digits .use) where
  append {t u ds rest} h hrest := by
    rw [digits, takeWhile_append_stops hrest, dropWhile_append_stops hrest]
    rw [digits] at h
    cases hds : t.takeWhile Char.isDigit with
    | nil => simp [hds] at h
    | cons c cs =>
      rw [hds] at h
      obtain ⟨rfl, rfl⟩ := pair_eq_of_ok h
      rfl

theorem isLocal_exponentPart : IsLocal (exponentPart .use) where
  append {t u e rest} h hrest := by
    have hsigned (positive : Bool) : IsLocal fun s => do
        let (ds, s) ← digits .use s
        return ((positive, Text.digitsValue ds), s) :=
      isLocal_digits.bind fun ds => IsLocal.ok (positive, Text.digitsValue ds)
    cases t with
    | nil => simp [exponentPart, digits] at h
    | cons c t =>
      by_cases hplus : c = '+'
      · subst hplus
        exact (hsigned true).append h hrest
      · by_cases hminus : c = '-'
        · subst hminus
          exact (hsigned false).append h hrest
        · rw [exponentPart.eq_3 _ _ (by simp [hplus]) (by simp [hminus])] at h
          rw [List.cons_append, exponentPart.eq_3 _ _ (by simp [hplus]) (by simp [hminus])]
          exact (hsigned true).append h hrest

theorem isLocal_double (significand : Nat) (power : Int) :
    IsLocal (double .use significand power) where
  append {t u x rest} h hrest := by
    rw [double] at h ⊢
    rw [isExponentMark_append hrest]
    by_cases hmark : isExponentMark t
    · rw [if_pos hmark] at h ⊢
      cases t with
      | nil => cases hmark
      | cons c t =>
        refine IsLocal.append (isLocal_exponentPart.bind fun e => ?_) h hrest
        exact (IsLocal.result _).ite (IsLocal.result _)
    · rw [if_neg hmark] at h ⊢
      exact (IsLocal.result _).append h hrest

theorem isLocal_number (negative : Bool) : IsLocal (number .use negative) := by
  have hdouble (significand : Nat) (power : Int) : IsLocal fun s =>
      double .use significand power s >>= fun r =>
        .ok (Number.double (if negative then -r.1 else r.1), r.2) :=
    (isLocal_double significand power).bind fun x =>
      IsLocal.ok (Number.double (if negative then -x else x))
  refine isLocal_digits.bind fun ds => ?_
  dsimp only
  by_cases hzero : (ds.head? == some '0' && decide (1 < ds.length)) = true
  · simp only [if_pos hzero]
    exact IsLocal.error .malformed
  · simp only [if_neg hzero]
    apply IsLocal.point
    case h => exact fun s => rfl
    case h' =>
      intro s hs
      split
      · exact absurd rfl hs
      · rfl
    case hread =>
      refine isLocal_digits.bind fun fraction => ?_
      dsimp only
      exact hdouble _ _
    case hread' =>
      refine IsLocal.mark (hdouble _ _) ?_
      by_cases hsmall : 0 < (absorb 0 ds).1 ∧ (absorb 0 ds).1 ≤ 0x8000000000000000
      · simp only [if_pos hsmall]
        exact (IsLocal.ok _).ite (IsLocal.ok _)
      · simp only [if_neg hsmall]
        exact (IsLocal.ok _).ite (IsLocal.ok _)

theorem exists_digit {m : Number} {t u : List Char} {negative : Bool}
    (h : number .use negative t = .ok (m, u)) : ∃ c s, t = c :: s ∧ c.isDigit = true := by
  obtain ⟨⟨ds, u⟩, hds, -⟩ := bind_eq_ok_iff.mp h
  cases t with
  | nil => simp [digits] at hds
  | cons c s =>
    refine ⟨c, s, rfl, ?_⟩
    by_contra hc
    simp [digits, hc] at hds

/-! ### What is written on one line -/

theorem writesUnit_hexChar {n : Nat} (hn : n < 0x20) :
    WritesUnit n ['0', '0', Text.hexChar (n / 16), Text.hexChar (n % 16)] := by
  have hzero : Text.hexValue? '0' = some 0 := by decide
  have hhex : ∀ d < 16, Text.hexValue? (Text.hexChar d) = some d := by decide
  have hunit := WritesUnit.digits hzero hzero (hhex (n / 16) (by omega)) (hhex (n % 16) (by omega))
  have hn' : 16 * (16 * (16 * 0 + 0) + n / 16) + n % 16 = n := by omega
  rwa [hn'] at hunit

/-- A character is written with a backslash and what it escapes, or as it is. -/
theorem writesChar_escaped (c : Char) : WritesChar c (escaped c) := by
  unfold escaped
  split
  case h_8 hquote hslash _ _ _ _ _ =>
    by_cases hc : c.toNat < 0x20
    · rw [if_pos hc]
      exact .unit (writesUnit_hexChar hc)
    · rw [if_neg hc]
      exact .plain hquote hslash (Nat.le_of_not_lt hc)
  all_goals exact .letter (by decide)

theorem quote_append (s : String) (rest : List Char) :
    quote s ++ rest = '"' :: (s.toList.flatMap escaped ++ '"' :: rest) := by
  simp [quote]

theorem writesString_quote (s : String) : WritesString s (quote s) := by
  have hchars (cs : List Char) : WritesChars cs (cs.flatMap escaped) := by
    induction cs with
    | nil => exact .nil
    | cons c cs ih => exact .cons (writesChar_escaped c) ih
  exact .quoted (hchars s.toList)

theorem absorb_eq {n : Nat} {ds : List Char} (h : Nat.ofDigitChars 10 ds n < UInt64.size) :
    absorb n ds = (Nat.ofDigitChars 10 ds n, []) := by
  induction ds generalizing n with
  | nil => simp [absorb]
  | cons d ds ih =>
    rw [Nat.ofDigitChars_cons] at h ⊢
    have hm := Nat.lt_of_le_of_lt (Text.le_ofDigitChars ds _) h
    rw [absorb, Text.digitValue, if_pos hm]
    exact ih h

theorem digits_toDigits (m : Nat) :
    digits .use (Nat.toDigits 10 m) = .ok (Nat.toDigits 10 m, []) := by
  have hall : ∀ c ∈ Nat.toDigits 10 m, c.isDigit = true := fun _ => Text.isDigit_of_mem_toDigits
  rw [digits, List.takeWhile_eq_self_iff.mpr hall, List.dropWhile_eq_nil_iff.mpr hall]
  cases h : Nat.toDigits 10 m with
  | nil => exact absurd h Nat.toDigits_ne_nil
  | cons c cs => rfl

theorem number_toDigits (negative : Bool) {m : Nat} (hlt : m < UInt64.size)
    (hneg : negative = true → 0 < m ∧ m ≤ 0x8000000000000000) :
    number .use negative (Nat.toDigits 10 m) = .ok (.integer (if negative then -m else m), []) := by
  have habsorb : absorb 0 (Nat.toDigits 10 m) = (m, []) := by
    have hvalue := Text.digitsValue_toDigits m
    rw [Text.digitsValue_eq_ofDigitChars] at hvalue
    rw [absorb_eq (by rwa [hvalue]), hvalue]
  have hzero : ((Nat.toDigits 10 m).head? == some '0' && 1 < (Nat.toDigits 10 m).length) =
      false := by
    rcases Nat.eq_zero_or_pos m with rfl | hpos
    · decide
    · simp [Text.head?_toDigits_ne_zero hpos]
  have hmark : isExponentMark [] = false := rfl
  rw [number, digits_toDigits]
  simp only [ok_bind, hzero, habsorb, Bool.false_eq_true, if_false]
  cases negative with
  | false => simp [hmark]
  | true =>
    obtain ⟨hpos, hle⟩ := hneg rfl
    simp [hmark, hpos, hle]

/-- The digits of an integer of 64 bits give the integer. -/
theorem writesNumber_text {n : Int} (hfits : (Number.integer n).Fits) :
    WritesNumber (.integer n) (Number.integer n).text := by
  obtain ⟨hlow, hhigh⟩ := hfits
  have hlt : n.natAbs < UInt64.size := by
    rw [UInt64.size]
    omega
  rw [Number.text]
  by_cases hn : n < 0
  · have hread := number_toDigits true hlt (by omega)
    have habs : -(n.natAbs : Int) = n := by omega
    rw [if_pos rfl, habs] at hread
    rw [if_pos hn]
    exact .negative hread
  · have hread := number_toDigits false hlt (by simp)
    have habs : (n.natAbs : Int) = n := by omega
    rw [if_neg Bool.false_ne_true, habs] at hread
    rw [if_neg hn]
    exact .unsigned hread

end Logbook.Json
