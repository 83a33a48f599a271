import Logbook.Proofs.Pattern.Variants
import Logbook.Proofs.Rule.Parts

/-! Lines that carry a word for their level, under their patterns. -/

namespace Logbook.Rule

open Pattern (Captured CharSet Node isWord)
open Text (isBlank)

namespace Leveled

variable {w : List Char}

/-! ### What the patterns read -/

theorem log4j_start (h : (Node.ofList log4jNodes).Reads w) :
    ∃ year rest, w = year ++ rest ∧ year.length = 4 ∧ ∀ c ∈ year, decimal.has c = true := by
  obtain ⟨time, w₁, htime, -, rfl⟩ := Node.reads_ofList_cons_iff.mp h
  obtain ⟨year, w₂, hyear, -, rfl⟩ := Node.reads_ofList_cons_iff.mp (Node.reads_group_iff.mp htime)
  obtain ⟨hlength, hdigits⟩ := reads_exactly hyear
  exact ⟨year, w₂ ++ w₁, List.append_assoc _ _ _, hlength, hdigits⟩

theorem isAlpha_of_folded {c d : Char} (hd : Text.IsPlainCapital d)
    (h : (CharSet.folded (.just d)).has c = true) : c.isAlpha = true := by
  have hlower : 65 ≤ d.toNat := hd.lower
  have hupper : d.toNat ≤ 90 := hd.upper
  have hc := CharSet.toNat_of_has_folded_just hd h
  rw [isAlpha_iff_toNat]
  omega

theorem isWord_of_isAlpha {c : Char} (h : c.isAlpha = true) : isWord false c = true :=
  isWord_of_ascii (by simp [isWord, Char.isAlphanum, h])

theorem not_decimal_of_isAlpha {c : Char} (h : c.isAlpha = true) : decimal.has c = false := by
  have hall : ∀ n < 128, (Char.ofNat n).isAlpha = true → Text.digitRanges.has n = false := by
    decide
  have hascii : c.toNat < 128 := toNat_lt_of_isWord (by simp [isWord, Char.isAlphanum, h])
  exact hall c.toNat hascii (by rwa [Char.ofNat_toNat])

/-- None of these characters is a K or an S. -/
theorem reads_folded {chars : List Char} (hchars : ∀ d ∈ chars, Text.IsPlainCapital d)
    (h : (Node.ofList (chars.map fun d => Node.chars (.folded (.just d)))).Reads w) :
    w.length = chars.length ∧ ∀ c ∈ w, c.isAlpha = true := by
  induction chars generalizing w with
  | nil =>
    obtain rfl := Node.reads_ofList_nil_iff.mp h
    simp
  | cons d chars ih =>
    obtain ⟨_, w', hchar, hrest, rfl⟩ := Node.reads_ofList_cons_iff.mp h
    obtain ⟨c, hc, rfl⟩ := Node.reads_chars_iff.mp hchar
    obtain ⟨hlength, halpha⟩ := ih (fun e he => hchars e (by simp [he])) hrest
    have hfirst : c.isAlpha = true := isAlpha_of_folded (hchars d (by simp)) hc
    exact ⟨by simp [hlength], List.forall_mem_cons.mpr ⟨hfirst, halpha⟩⟩

theorem level_of_reads (h : levelNode.Reads w) : 4 ≤ w.length ∧ ∀ c ∈ w, c.isAlpha = true := by
  have hword (s : String) (hs : s.toList.all (Text.IsPlainCapital ·) = true)
      (hlength : 4 ≤ s.toList.length) (hreads : (caseless s).Reads w) :
      4 ≤ w.length ∧ ∀ c ∈ w, c.isAlpha = true := by
    obtain ⟨hw, halpha⟩ := reads_folded (by simpa using hs) hreads
    exact ⟨hw ▸ hlength, halpha⟩
  change (Node.alt (caseless "ERROR") (.alt (caseless "WARN")
    (.alt (caseless "INFO") (caseless "DEBUG")))).Reads w at h
  simp only [Node.reads_alt_iff] at h
  rcases h with h | h | h | h
  · exact hword "ERROR" (by decide) (by decide) h
  · exact hword "WARN" (by decide) (by decide) h
  · exact hword "INFO" (by decide) (by decide) h
  · exact hword "DEBUG" (by decide) (by decide) h

theorem simple_start (h : (Node.ofList (.empty :: .assertion .textStart :: simpleNodes)).Reads w) :
    (∃ rest, w = '[' :: rest) ∨
      ∃ level rest, w = level ++ rest ∧ 4 ≤ level.length ∧ ∀ c ∈ level, c.isAlpha = true := by
  obtain ⟨w₁, w₂, hempty, h₂, rfl⟩ := Node.reads_ofList_cons_iff.mp h
  obtain ⟨w₃, w₄, hstart, h₄, rfl⟩ := Node.reads_ofList_cons_iff.mp h₂
  obtain ⟨w₅, rest, hgroup, -, rfl⟩ := Node.reads_ofList_cons_iff.mp h₄
  obtain ⟨opening, w₆, hopening, h₆, rfl⟩ :=
    Node.reads_ofList_cons_iff.mp (Node.reads_group_iff.mp hgroup)
  obtain ⟨level, closing, hlevel, -, rfl⟩ := Node.reads_ofList_cons_iff.mp h₆
  obtain ⟨-, rfl, -⟩ := hempty
  obtain rfl := Node.reads_assertion_iff.mp hstart
  rcases hopening.optional with rfl | hbracket
  · obtain ⟨hlength, halpha⟩ := level_of_reads hlevel
    exact .inr ⟨level, closing ++ rest, by simp, hlength, halpha⟩
  · obtain ⟨c, hc, rfl⟩ := Node.reads_chars_iff.mp hbracket
    obtain rfl := CharSet.has_just_iff.mp hc
    exact .inl ⟨level ++ closing ++ rest, by simp⟩

end Leveled

/-! ### Lines that are written -/

namespace Log4jLine

variable {l : Log4jLine} {later : List Char}

/-- What the groups capture. -/
def captured (l : Log4jLine) : Captured :=
  [(4, l.message.toList), (3, l.context.toList), (2, l.level.toList), (1, l.time.toList)]

theorem prefers_time (h : l.IsWritten) (later : List Char) :
    (Node.ofList Leveled.timeNodes).Prefers l.time.toList later [] := by
  obtain ⟨c, rest, hhour, hblank⟩ := h.hour.exists_cons
  have hmillis := ((h.millis.prefers later).ofList_cons
    (Node.prefers_ofList_nil later)).ofList_literal ","
  have hsecond := ((h.second.1.prefers _).ofList_cons hmillis).ofList_literal ":"
  have hminute := ((h.minute.prefers _).ofList_cons hsecond).ofList_literal ":"
  have hclock := (prefers_gap (by simp [hhour]) hblank).ofList_cons
    ((h.hour.prefers _).ofList_cons hminute)
  have hday := ((h.day.prefers _).ofList_cons hclock).ofList_literal "-"
  have hmonth := ((h.month.prefers _).ofList_cons hday).ofList_literal "-"
  simpa [time, Leveled.timeNodes] using (h.year.prefers _).ofList_cons hmonth

theorem find?_text (h : l.IsWritten) :
    ∃ m, Leveled.log4j.pattern.find? l.text.toList = some m ∧ m.captured = l.captured := by
  have hspace : word.has ' ' = false := by decide
  have hopening : isBlank '[' = false := by decide
  have hclosing : "]".toList = [']'] := by decide
  have hinLine : ∀ c ∈ l.context.toList, inLine.has c = true := by
    intro c hc
    have hkind := h.context.all c hc
    simp only [Bool.and_eq_true, bne_iff_ne] at hkind
    exact has_inLine_iff.mpr hkind.2
  have hbracket : ']' ∉ l.context.toList := h.context.notMem (by decide)
  obtain ⟨c, rest, hlevel⟩ := List.exists_cons_of_ne_nil h.level.ne_nil
  have hlevelBlank : isBlank c = false := not_isBlank_of_isWord (h.level.all c (by simp [hlevel]))
  have hword (rest : List Char) : (many word).Prefers l.level.toList (' ' :: rest) [] :=
    h.level.prefers (fun _ => has_word_iff.mpr) (CharSet.stops_cons.mpr hspace)
  have hcontext := ((h.message.prefers 4).lazy_group h.context.ne_nil hinLine hbracket hclosing
    3).ofList_literal "["
  have hcontextGap := (prefers_gap rfl hopening).ofList_cons hcontext
  have hlevelContext := ((hword _).group 2).ofList_cons hcontextGap
  have hlevelGap := (prefers_gap (by simp [hlevel]) hlevelBlank).ofList_cons hlevelContext
  have htime := ((prefers_time h _).group 1).ofList_cons hlevelGap
  simpa [text, captured] using
    Pattern.find?_of_prefers Leveled.log4j.pattern htime

theorem draft_text (h : l.IsWritten) (now : Time.Instant) :
    ∃ m, Leveled.log4j.pattern.find? l.text.toList = some m ∧ Leveled.log4j.draft now m =
      { level := Level.ofWord l.level.toList
        message := l.message
        service := none
        timestamp := Leveled.timestamp l.time.toList
        metadata := [("context", .string l.context)] } := by
  obtain ⟨m, hm, hcaptured⟩ := find?_text h
  have hmessage : m.groupText 4 = l.message :=
    groupText_of_lookup (by decide) (by rw [hcaptured]; rfl)
  have hcontext : m.groupText 3 = l.context :=
    groupText_of_lookup (by decide) (by rw [hcaptured]; rfl)
  have hlevel : m.group 2 = l.level.toList := group_of_lookup (by decide) (by rw [hcaptured]; rfl)
  have htime : m.group 1 = l.time.toList := group_of_lookup (by decide) (by rw [hcaptured]; rfl)
  refine ⟨m, hm, ?_⟩
  simp only [Leveled.log4j, hmessage, hcontext, hlevel, htime]

end Log4jLine

end Logbook.Rule
