import Logbook.Proofs.Normalizer.Extension
import Logbook.Proofs.Rule.Access
import Logbook.Proofs.Rule.Leveled
import Logbook.Proofs.Rule.Syslog
import Logbook.Proofs.Rule.Timestamps

/-! Which built-in rules can match the same line. A line of syslog has a priority or the short name of a
month first, one of Log4j a year, one with a level in front a bracket or a longer word; and behind its
first four words a line of syslog has a process where one of an access log has the offset of a time. -/

namespace Logbook.Rule

open Pattern (isWord)
open Text (isBlank)

variable {text : List Char}

/-! ### What matches -/

theorem Access.shape_of_matches (h : nginx.Matches text ∨ apache.Matches text) :
    ∃ s : Shape, text = s.chars := by
  have hshape {w : List Char} (later : List Char) {more : List Pattern.Node}
      (hreads : (Pattern.Node.ofList (requestNodes more)).Reads w) :
      ∃ s : Shape, w ++ later = s.chars := by
    obtain ⟨s, -, -, -, -, rfl, -, -⟩ := exists_shape hreads
    exact ⟨s.append later, (s.chars_append later).symm⟩
  rcases h with h | h
  · obtain ⟨m, hm⟩ := Option.isSome_iff_exists.mp h
    obtain ⟨w, later, rfl, hreads⟩ := Pattern.find?_reads_nodes hm
    exact hshape later hreads
  · obtain ⟨m, hm⟩ := Option.isSome_iff_exists.mp h
    obtain ⟨w, later, rfl, hreads⟩ := Pattern.find?_reads_nodes hm
    exact hshape later hreads

theorem Syslog.shape_of_matches (h : rule.Matches text) : ∃ s : Shape, text = s.chars := by
  obtain ⟨m, hm⟩ := Option.isSome_iff_exists.mp h
  obtain ⟨w, later, rfl, hreads⟩ := Pattern.find?_reads_nodes hm
  obtain ⟨s, rfl⟩ := exists_shape hreads
  exact ⟨s.append later, (s.chars_append later).symm⟩

namespace Leveled

theorem log4j_start_of_matches (h : log4j.Matches text) :
    ∃ year rest, text = year ++ rest ∧ year.length = 4 ∧ ∀ c ∈ year, decimal.has c = true := by
  obtain ⟨m, hm⟩ := Option.isSome_iff_exists.mp h
  obtain ⟨w, later, rfl, hreads⟩ := Pattern.find?_reads_nodes hm
  obtain ⟨year, rest, rfl, hyear⟩ := log4j_start hreads
  exact ⟨year, rest ++ later, List.append_assoc _ _ _, hyear⟩

theorem simple_start_of_matches (h : simple.Matches text) :
    (∃ rest, text = '[' :: rest) ∨
      ∃ level rest, text = level ++ rest ∧ 4 ≤ level.length ∧ ∀ c ∈ level, c.isAlpha = true := by
  obtain ⟨m, hm⟩ := Option.isSome_iff_exists.mp h
  obtain ⟨w, later, rfl, hreads⟩ := Pattern.find?_reads hm
  rcases simple_start hreads with ⟨rest, rfl⟩ | ⟨level, rest, rfl, hlevel⟩
  · exact .inl ⟨rest ++ later, rfl⟩
  · exact .inr ⟨level, rest ++ later, List.append_assoc _ _ _, hlevel⟩

end Leveled

/-! ### What cannot match together -/

theorem syslog_not_access (h : Syslog.rule.Matches text) :
    ¬ Access.nginx.Matches text ∧ ¬ Access.apache.Matches text := by
  rw [← not_or]
  intro haccess
  obtain ⟨s, rfl⟩ := Syslog.shape_of_matches h
  obtain ⟨s', hchars⟩ := Access.shape_of_matches haccess
  obtain ⟨clock, sign, rest, hsign, hwords⟩ := s'.words_chars
  rw [← hchars, s.words_chars] at hwords
  have hsignBlank : isBlank sign = false := by rcases hsign with rfl | rfl <;> decide
  have hsignWord : isWord false sign = false := by rcases hsign with rfl | rfl <;> decide
  obtain ⟨w, ws, hprocess⟩ := Text.exists_words_cons (not_isBlank_of_isWord s.initial_word) s.rest
  obtain ⟨w', ws', hoffset⟩ := Text.exists_words_cons hsignBlank rest
  rw [hprocess, hoffset] at hwords
  have hinitial : s.initial = sign := by
    simp only [List.cons.injEq] at hwords
    exact hwords.2.2.2.2.1.1
  rw [← hinitial, s.initial_word] at hsignWord
  cases hsignWord

theorem not_syslog_of_start {start rest : List Char} (hlength : 4 ≤ start.length)
    (hangle : '<' ∉ start) (hblank : ∀ c ∈ start, isBlank c = false) :
    ¬ Syslog.rule.Matches (start ++ rest) := by
  intro h
  obtain ⟨s, hchars⟩ := Syslog.shape_of_matches h
  rcases s.chars_start with hhead | ⟨-, b, -, -, hfourth, hb⟩
  · have hne : start ≠ [] := List.ne_nil_of_length_pos (by omega)
    rw [← hchars, List.head?_append_of_ne_nil _ hne] at hhead
    exact hangle (List.mem_of_mem_head? hhead)
  · rw [← hchars, List.getElem?_append_left (by omega)] at hfourth
    rw [hblank b (List.mem_of_getElem? hfourth)] at hb
    cases hb

theorem syslog_not_log4j (h : Syslog.rule.Matches text) : ¬ Leveled.log4j.Matches text := by
  intro hlog4j
  obtain ⟨year, rest, rfl, hlength, hdigits⟩ := Leveled.log4j_start_of_matches hlog4j
  have hangle : '<' ∉ year := by
    intro hmem
    have hdecimal : decimal.has '<' = false := by decide
    rw [hdigits _ hmem] at hdecimal
    cases hdecimal
  exact not_syslog_of_start hlength.ge hangle (fun c hc => not_isBlank_of_decimal (hdigits c hc)) h

theorem syslog_not_simple (h : Syslog.rule.Matches text) : ¬ Leveled.simple.Matches text := by
  intro hsimple
  rcases Leveled.simple_start_of_matches hsimple with ⟨rest, rfl⟩ | ⟨level, rest, rfl, hlength, halpha⟩
  · obtain ⟨s, hchars⟩ := Syslog.shape_of_matches h
    rcases s.chars_start with hhead | ⟨c, -, hhead, hword, -, -⟩
    · rw [← hchars] at hhead
      cases hhead
    · rw [← hchars] at hhead
      obtain rfl : '[' = c := Option.some.inj hhead
      exact absurd hword (by decide)
  · have hangle : '<' ∉ level := fun hmem => by cases halpha _ hmem
    exact not_syslog_of_start hlength hangle
      (fun c hc => not_isBlank_of_isWord (Leveled.isWord_of_isAlpha (halpha c hc))) h

theorem log4j_not_simple (h : Leveled.log4j.Matches text) : ¬ Leveled.simple.Matches text := by
  intro hsimple
  obtain ⟨year, rest, rfl, hlength, hdigits⟩ := Leveled.log4j_start_of_matches h
  obtain ⟨digit, year, rfl⟩ := List.exists_cons_of_length_eq_add_one hlength
  have hdigit : decimal.has digit = true := hdigits digit (by simp)
  rcases Leveled.simple_start_of_matches hsimple with ⟨rest', heq⟩ | ⟨level, rest', heq, hlevel, halpha⟩
  · obtain rfl : digit = '[' := (List.cons.inj heq).1
    exact absurd hdigit (by decide)
  · have hne : level ≠ [] := List.ne_nil_of_length_pos (Nat.lt_of_lt_of_le (by decide) hlevel)
    obtain ⟨letter, level, rfl⟩ := List.exists_cons_of_ne_nil hne
    obtain rfl : digit = letter := (List.cons.inj heq).1
    rw [Leveled.not_decimal_of_isAlpha (halpha digit (by simp))] at hdigit
    cases hdigit

/-- A line of Log4j is one of an access log only if its context could be the time there. -/
theorem Log4jLine.not_access {l : Log4jLine} (h : l.IsWritten) :
    ¬ Access.nginx.Matches l.text.toList ∧ ¬ Access.apache.Matches l.text.toList := by
  rw [← not_or]
  intro haccess
  obtain ⟨s, hchars⟩ := Access.shape_of_matches haccess
  have htext : l.text.toList = l.dateChars ++ ' ' :: (l.clockChars ++ ' ' :: (l.level.toList ++ ' ' ::
      '[' :: (l.context.toList ++ ']' :: ' ' :: l.message.toList))) := by
    simp [text, time, dateChars, clockChars]
  have hlevel : Text.IsToken l.level.toList :=
    ⟨h.level.ne_nil, fun c hc => not_isBlank_of_isWord (h.level.all c hc)⟩
  obtain ⟨-, -, -, hbracket⟩ := s.tokens_eq (isToken_date h) (isToken_clock h) hlevel (htext ▸ hchars)
  have hcontext := (s.behind_bracket (h.context.notMem (by decide)) (List.cons.inj hbracket).2).1
  exact h.notAccessTime (hcontext ▸ s.isAccessTime)

end Logbook.Rule
