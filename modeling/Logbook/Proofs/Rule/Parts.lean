import Logbook.Proofs.Pattern.Preferred
import Logbook.Proofs.Rule.Nodes
import Logbook.Proofs.Text.Digits
import Logbook.Rule.Written

/-! The parts of the built-in patterns. ASCII digits are decimal digits, characters of ASCII words are
characters of words, and white space is neither; so a field that is written in one of these kinds is
what a part for the kind reads, up to the first character of another kind. -/

namespace Logbook.Rule

open Pattern (CharSet Node isWord)
open Text (IsGap IsToken isBlank)

variable {c : Char} {s : CharSet} {w later : List Char}

/-! ### Sets -/

theorem has_visible_iff : visible.has c = true ↔ isBlank c = false := by
  simp [visible, blank, CharSet.has, isBlank]

theorem has_blank_iff : blank.has c = true ↔ isBlank c = true := Iff.rfl

theorem has_word_iff : word.has c = true ↔ isWord false c = true := Iff.rfl

theorem has_inLine_iff : inLine.has c = true ↔ c ≠ '\n' := CharSet.has_complement_just_iff

theorem has_unquoted_iff : unquoted.has c = true ↔ c ≠ '"' := CharSet.has_complement_just_iff

theorem has_sign_iff : sign.has c = true ↔ c = '+' ∨ c = '-' := by
  simp [sign]

theorem has_stamp_iff : stamp.has c = true ↔ isWord false c = true ∨ c = ':' ∨ c = '/' := by
  simp [stamp, has_word_iff]

theorem has_decimal_of_isDigit (h : c.isDigit = true) : decimal.has c = true := by
  obtain ⟨hlo, hhi⟩ := Text.isDigit_iff_toNat.mp h
  have hranges : Text.digitRanges = (0x30, 0x39) :: Text.digitRanges.tail := rfl
  have hnot : ¬ c.toNat < 0x30 := by omega
  change Text.digitRanges.has c.toNat = true
  rw [hranges, Text.Ranges.has, if_neg hnot]
  simp [hhi]

theorem isAlpha_iff_toNat : c.isAlpha = true ↔
    65 ≤ c.toNat ∧ c.toNat ≤ 90 ∨ 97 ≤ c.toNat ∧ c.toNat ≤ 122 := by
  change (decide ('A'.val ≤ c.val ∧ c.val ≤ 'Z'.val) ||
    decide ('a'.val ≤ c.val) && decide (c.val ≤ 'z'.val)) = true ↔ _
  simp [UInt32.le_iff_toNat_le]

theorem toNat_lt_of_isWord (h : isWord true c = true) : c.toNat < 128 := by
  change (c.isAlpha || c.isDigit || c == '_') = true at h
  rw [Bool.or_eq_true, Bool.or_eq_true, isAlpha_iff_toNat, Text.isDigit_iff_toNat, beq_iff_eq] at h
  rcases h with (hletter | hdigit) | rfl
  · omega
  · omega
  · decide

theorem isWord_of_ascii (h : isWord true c = true) : isWord false c = true := by
  have hall : ∀ n < 128, isWord true (Char.ofNat n) = true → Text.wordRanges.has n = true := by
    decide
  exact hall c.toNat (toNat_lt_of_isWord h) (by rwa [Char.ofNat_toNat])

theorem not_isBlank_of_isWord (h : isWord false c = true) : isBlank c = false := by
  by_contra hblank
  have hword : isWord false c = false :=
    Text.not_isWord_of_isBlank (Bool.not_eq_false _ ▸ hblank)
  rw [hword] at h
  cases h

theorem not_isBlank_of_decimal (h : decimal.has c = true) : isBlank c = false := by
  by_contra hblank
  have hdecimal : decimal.has c = false :=
    Text.not_isDecimal_of_isBlank (Bool.not_eq_false _ ▸ hblank)
  rw [hdecimal] at h
  cases h

theorem not_isBlank_of_stamp (h : stamp.has c = true) : isBlank c = false := by
  rcases has_stamp_iff.mp h with h | rfl | rfl
  · exact not_isBlank_of_isWord h
  · decide
  · decide

/-- The letters are ASCII. -/
theorem SyslogLine.monthName_spec (l : SyslogLine) :
    l.monthName.toList.length = 3 ∧ ∀ c ∈ l.monthName.toList, isWord true c = true := by
  have hall : ∀ i : Fin 12, monthAbbreviations[i].toList.length = 3 ∧
      monthAbbreviations[i].toList.all (isWord true) = true := by
    decide
  obtain ⟨hlength, hword⟩ := hall l.month
  exact ⟨hlength, List.all_eq_true.mp hword⟩

/-! ### Runs -/

theorem IsRun.ne_nil {kind : Char → Bool} {text : String} (h : IsRun kind text) :
    text.toList ≠ [] :=
  mt String.toList_eq_nil_iff.mp h.nonempty

theorem IsRun.notMem {kind : Char → Bool} {text : String} (h : IsRun kind text)
    (hc : kind c = false) : c ∉ text.toList := by
  intro hmem
  rw [h.all c hmem] at hc
  cases hc

theorem IsDigits.isRun {n : Nat} {text : String} (h : IsDigits (n + 1) text) :
    IsRun Char.isDigit text where
  nonempty := by
    rintro rfl
    simpa using h.length
  all := h.all

theorem prefers_many (hne : w ≠ []) (hw : ∀ c ∈ w, s.has c = true) (hend : s.Stops later) :
    (many s).Prefers w later [] :=
  Node.prefers_loop hw (List.length_pos_iff.mpr hne) (by simp) (.inr hend)

theorem prefers_exactly {n : Nat} (hlength : w.length = n) (hw : ∀ c ∈ w, s.has c = true)
    (later : List Char) : (exactly n s).Prefers w later [] :=
  Node.prefers_loop hw hlength.ge (by simp [hlength]) (.inl (by rw [hlength]))

theorem IsRun.prefers {kind : Char → Bool} {text : String} (h : IsRun kind text)
    (hkind : ∀ c, kind c = true → s.has c = true) (hend : s.Stops later) :
    (many s).Prefers text.toList later [] :=
  prefers_many h.ne_nil (fun c hc => hkind c (h.all c hc)) hend

theorem IsDigits.prefers {n : Nat} {text : String} (h : IsDigits n text) (later : List Char) :
    (exactly n decimal).Prefers text.toList later [] :=
  prefers_exactly h.length (fun c hc => has_decimal_of_isDigit (h.all c hc)) later

/-- A single space, and no white space behind it. -/
theorem prefers_gap (hhead : later.head? = some c) (hc : isBlank c = false) :
    (many blank).Prefers [' '] later [] :=
  prefers_many (by simp) (by simp [has_blank_iff])
    fun d hd => Option.some.inj (hhead.symm.trans hd) ▸ hc

theorem IsDigits.exists_cons {n : Nat} {text : String} (h : IsDigits (n + 1) text) :
    ∃ c rest, text.toList = c :: rest ∧ isBlank c = false := by
  obtain ⟨c, rest, htext⟩ := List.exists_cons_of_length_eq_add_one h.length
  exact ⟨c, rest, htext, Text.isBlank_of_isDigit (h.all c (by simp [htext]))⟩

/-- The message is the rest of the line behind a space. -/
theorem IsMessage.prefers {text : String} (h : IsMessage text) (i : Nat) :
    (Node.ofList [many blank, .group i (many inLine)]).Prefers (' ' :: text.toList) []
      [(i, text.toList)] := by
  have hne : text.toList ≠ [] := mt String.toList_eq_nil_iff.mp h.nonempty
  obtain ⟨c, rest, htext⟩ := List.exists_cons_of_ne_nil hne
  have hinLine : ∀ c ∈ text.toList, inLine.has c = true := by
    intro c hc
    rw [has_inLine_iff]
    rintro rfl
    exact h.noLineFeed hc
  have hbody := (prefers_many hne hinLine (CharSet.stops_nil inLine)).group i
  simpa using (prefers_gap (by simp [htext]) (h.start c (by simp [htext]))).ofList_cons
    (hbody.ofList_cons (Node.prefers_ofList_nil []))

theorem has_visible_of_isVisible (h : isVisible c = true) : visible.has c = true := by
  simpa [has_visible_iff, isVisible] using h

theorem reads_many (h : (many s).Reads w) : w ≠ [] ∧ ∀ c ∈ w, s.has c = true := by
  obtain ⟨hw, hleast, -⟩ := h.loop_chars
  exact ⟨List.length_pos_iff.mp hleast, hw⟩

theorem reads_exactly {n : Nat} (h : (exactly n s).Reads w) :
    w.length = n ∧ ∀ c ∈ w, s.has c = true := by
  obtain ⟨hw, hleast, hmost⟩ := h.loop_chars
  have hle := hmost n rfl
  exact ⟨by omega, hw⟩

theorem IsRun.isToken {text : String} (h : IsRun isVisible text) : IsToken text.toList :=
  ⟨h.ne_nil, fun c hc => has_visible_iff.mp (has_visible_of_isVisible (h.all c hc))⟩

theorem isToken_of_reads (h : (many visible).Reads w) : IsToken w := by
  obtain ⟨hne, hw⟩ := reads_many h
  exact ⟨hne, fun c hc => has_visible_iff.mp (hw c hc)⟩

theorem isGap_of_reads (h : (many blank).Reads w) : IsGap w := by
  obtain ⟨hne, hw⟩ := reads_many h
  exact ⟨hne, hw⟩

/-! ### Groups -/

variable {i : Nat} {m : Pattern.Match}

theorem group_of_lookup {text : List Char} (hi : i ≠ 0) (h : m.captured.lookup i = some text) :
    m.group i = text := by
  rw [Pattern.Match.group, Pattern.Match.group?_eq_lookup hi, h, Option.getD_some]

theorem groupText_of_lookup {text : String} (hi : i ≠ 0)
    (h : m.captured.lookup i = some text.toList) : m.groupText i = text := by
  rw [Pattern.Match.groupText, group_of_lookup hi h, String.ofList_toList]

theorem number?_of_lookup {text : String} {bound : Nat} (hi : i ≠ 0)
    (h : m.captured.lookup i = some text.toList) (htext : IsRun Char.isDigit text)
    (hbound : value text < bound) : number? m i bound = some (value text) := by
  rw [number?, Pattern.Match.group?_eq_lookup hi, h, Option.bind_some,
    Text.nat?_of_isDigit htext.ne_nil htext.all,
    Option.filter_some_pos (by simpa [value] using hbound), value]

theorem number?_of_lookup_none {bound : Nat} (hi : i ≠ 0) (h : m.captured.lookup i = none) :
    number? m i bound = none := by
  rw [number?, Pattern.Match.group?_eq_lookup hi, h]
  rfl

theorem IsDigits.value_lt {n : Nat} {text : String} (h : IsDigits n text) : value text < 10 ^ n :=
  h.length ▸ Text.digitsValue_lt h.all

end Logbook.Rule
