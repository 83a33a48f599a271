import Logbook.Proofs.Pattern.Variants
import Logbook.Proofs.Query.Literal

/-! What an error tells. Of all that it is put together from only the pattern can hold an end of
line: the keyword is a word in lower case, and the cause of a refusal is given on one line. -/

namespace Logbook

namespace Text

/-! ### Lower case -/

theorem isBlank_of_isLineBreak {c : Char} (h : isLineBreak c = true) : isBlank c = true := by
  have hall : ∀ n ∈ lineBreakRanges.toList, blankRanges.has n = true := by decide
  exact hall _ (Ranges.mem_toList h)

theorem isOneLine_of_not_blank {s : List Char} (h : ∀ c ∈ s, isBlank c = false) : IsOneLine s := by
  intro c hc
  by_contra hbreak
  have hblank := isBlank_of_isLineBreak (by simpa using hbreak)
  rw [h c hc] at hblank
  cases hblank

set_option maxRecDepth 2000 in
/-- No run of the table moves a character to an end of line. -/
theorem lowerRuns_apart : ∀ run ∈ lowerRuns, ∀ n ∈ lineBreakRanges.toList,
    run.last + run.shift < (n : Int) ∨ (n : Int) < run.first + run.shift := by
  decide

theorem isLineBreak_ofNat_of_shift {n m : Nat} (h : shiftBy lowerRuns n = some m) :
    isLineBreak (Char.ofNat m) = false := by
  by_contra hbreak
  by_cases hvalid : m.isValidChar
  · have hchar : (Char.ofNat m).toNat = m := by
      rw [Char.ofNat, dif_pos hvalid]
      rfl
    have hmem : m ∈ lineBreakRanges.toList := by
      rw [← hchar]
      exact Ranges.mem_toList (by simpa [isLineBreak] using hbreak)
    have hpositive : ∀ n ∈ lineBreakRanges.toList, 0 < n := by decide
    have hm := hpositive m hmem
    obtain ⟨run, hrun, hfirst, hlast, hshift⟩ := shiftBy_eq_some h
    have hapart := lowerRuns_apart run hrun m hmem
    omega
  · rw [Char.ofNat, dif_neg hvalid] at hbreak
    exact hbreak (by decide)

theorem isOneLine_lowerChar {c : Char} (h : isLineBreak c = false) : IsOneLine (lowerChar c) := by
  have hexpansions : ∀ entry ∈ lowerExpansions, IsOneLine (entry.2.map Char.ofNat) := by decide
  rw [lowerChar, mapCase]
  split
  · next m hm => exact List.forall_mem_singleton.mpr (isLineBreak_ofNat_of_shift hm)
  · split
    · next ns hns =>
      obtain ⟨l, l', htable, -⟩ := List.lookup_eq_some_iff.mp hns
      exact hexpansions (c.toNat, ns) (by simp [htable])
    · exact List.forall_mem_singleton.mpr h

theorem isOneLine_lower {s : List Char} (h : IsOneLine s) : IsOneLine (lower s) := by
  have hfrom (before : List Char) : IsOneLine (lowerFrom before s) := by
    induction s generalizing before with
    | nil => simp [lowerFrom, IsOneLine]
    | cons c s ih =>
      obtain ⟨hc, hs⟩ := List.forall_mem_cons.mp h
      rw [lowerFrom, isOneLine_append]
      refine ⟨?_, ih hs (c :: before)⟩
      split
      · split <;> decide
      · exact isOneLine_lowerChar hc
  exact hfrom []

end Text

open Text

/-! ### Causes -/

/-- A text is given by its characters. -/
theorem isOneLine_ofList {s : List Char} (h : IsOneLine s) : IsOneLine (String.ofList s).toList := by
  rwa [String.toList_ofList]

theorem isOneLine_toList_append {a b : String} (ha : IsOneLine a.toList) (hb : IsOneLine b.toList) :
    IsOneLine (a ++ b).toList := by
  rw [String.toList_append, isOneLine_append]
  exact ⟨ha, hb⟩

theorem isOneLine_toString (n : Nat) : IsOneLine (toString n).toList := by
  have hdigits : (toString n).toList = Nat.toDigits 10 n := by simp
  rw [hdigits]
  exact isOneLine_of_not_blank fun c hc => isBlank_of_isDigit (isDigit_of_mem_toDigits hc)

theorem Pattern.Cause.isOneLine_text (cause : Pattern.Cause) : IsOneLine cause.text.toList := by
  cases cause with
  | nestLimitExceeded limit =>
    exact isOneLine_toList_append (isOneLine_toList_append (isOneLine_ofList (by decide))
      (isOneLine_toString limit)) (isOneLine_ofList (by decide))
  | boundaryUnrecognized | boundaryOrRepetitionUnexpectedEnd =>
    exact isOneLine_toList_append (isOneLine_ofList (by decide)) (isOneLine_ofList (by decide))
  | _ => exact isOneLine_ofList (by decide)

theorem Pattern.Refusal.isOneLine_reason (cause : Pattern.Refusal) :
    IsOneLine cause.reason.toList := by
  cases cause with
  | fault _ f => exact f.cause.isOneLine_text
  | tooBig =>
    exact isOneLine_toList_append (isOneLine_toList_append (isOneLine_ofList (by decide))
      (isOneLine_toString limit)) (isOneLine_ofList (by decide))

namespace Query

variable {query : String} {e : Extraction} {err : Error}

theorem isOneLine_leadingWord (stage : List Char) : IsOneLine (leadingWord stage).toList := by
  rw [leadingWord, String.toList_ofList]
  refine isOneLine_lower (isOneLine_of_not_blank fun c hc => ?_)
  simpa using List.mem_takeWhile_imp hc

/-! ### The pattern of a query -/

theorem stripQuotes_subset (s : List Char) : stripQuotes s ⊆ s := by
  unfold stripQuotes
  split
  · split
    · exact fun c hc => List.mem_cons_of_mem _ (List.dropLast_subset _ hc)
    · exact List.Subset.refl _
  · exact List.Subset.refl _

theorem mainPart_subset (rest : List Char) : mainPart rest ⊆ rest := by
  rw [mainPart]
  split
  · next main names hcut =>
    have hsep : " as ".toList = ' ' :: "as ".toList := rfl
    obtain ⟨rfl, -⟩ := cutLast?_eq_some_iff.mp (hsep ▸ hcut)
    exact List.Subset.trans (trim_subset main) (List.subset_append_left _ _)
  · exact List.Subset.refl _

theorem writtenPattern_subset (rest : List Char) : writtenPattern rest ⊆ rest := by
  rw [writtenPattern]
  split
  · next field written hcut =>
    obtain ⟨hmain, -⟩ := cutAt?_char_eq_some_iff.mp hcut
    have hwritten : written ⊆ mainPart rest := by
      rw [hmain]
      exact fun c hc => by simp [hc]
    exact fun c hc => mainPart_subset rest (hwritten (trim_subset written hc))
  · simp

/-- The pattern is made of characters of the query. -/
theorem IsRefusedFor.pattern_subset (h : IsRefusedFor query e) :
    e.pattern.toList ⊆ query.toList := by
  obtain ⟨before, stage, after, commands, cause, hstages, -, hrefused⟩ := h
  have hstage : stage ⊆ query.toList :=
    subset_of_mem_pieces (show stage ∈ stages query.toList by simp [hstages])
  have hbehind : behindWord stage ⊆ stage :=
    List.Subset.trans (trim_subset _) (List.dropWhile_subset _)
  obtain ⟨field, names, hread⟩ := exists_readParse_eq (behindWord stage)
  rw [← hrefused.arguments, hread, String.toList_ofList]
  exact fun c hc => hstage (hbehind (writtenPattern_subset _ (stripQuotes_subset _ hc)))

/-! ### Messages -/

theorem IsRefusedFor.error_eq (h : IsRefusedFor query e) : ∃ cause : Pattern.Refusal,
    (compile query).error = some (.internal (Error.invalidPattern e.pattern cause.reason).message) := by
  obtain ⟨before, stage, after, commands, cause, hstages, hreads, hrefused⟩ := h
  exact ⟨cause, by rw [(Outcome.refused hstages hreads hrefused).compile_eq]⟩

theorem Reports.eq_of_error (h : Reports query err) {err' : Error}
    (herror : (compile query).error = some err') : err = err' := by
  rcases h with h | h
  · exact Option.some.inj (h.symm.trans herror)
  · rw [compileToRequest_of_error herror] at h
    exact (Except.error.inj h).symm

/-- An error of compiling tells of the pattern it is for, or there is none. -/
theorem refused_or_isOneLine_of_error (h : (compile query).error = some err) :
    (∃ e, IsRefusedFor query e ∧ ∃ cause : Pattern.Refusal,
      err = .internal (Error.invalidPattern e.pattern cause.reason).message) ∨
    IsOneLine err.message.toList := by
  generalize hp : compile query = p at h
  cases compile_eq_iff.mp hp with
  | empty =>
    obtain rfl := Option.some.inj h
    exact .inr (isOneLine_ofList (by decide))
  | complete => cases h
  | @unknown _ _ stage =>
    obtain rfl := Option.some.inj h
    exact .inr (isOneLine_toList_append (isOneLine_ofList (by decide)) (isOneLine_leadingWord stage))
  | refused hstages hreads hrefused =>
    obtain rfl := Option.some.inj h
    exact .inl ⟨_, ⟨_, _, _, _, _, hstages, hreads, hrefused⟩, _, rfl⟩

theorem Reports.refused_or_isOneLine (h : Reports query err) :
    (∃ e, IsRefusedFor query e ∧ ∃ cause : Pattern.Refusal,
      err = .internal (Error.invalidPattern e.pattern cause.reason).message) ∨
    IsOneLine err.message.toList := by
  rcases h with h | h
  · exact refused_or_isOneLine_of_error h
  · rcases compileToRequest_eq_error_iff.mp h with h | ⟨rfl, -⟩
    · exact refused_or_isOneLine_of_error h
    · exact .inr (isOneLine_ofList (by decide))

theorem mem_message_iff {c : Char} (hc : isLineBreak c = true) (pattern : String)
    (cause : Pattern.Refusal) :
    c ∈ (Error.internal (Error.invalidPattern pattern cause.reason).message).message.toList ↔
      c ∈ pattern.toList := by
  have hnot {s : List Char} (hs : IsOneLine s) : c ∉ s := fun hmem => by simp [hs c hmem] at hc
  have hparts (a b p d r : String) : c ∈ (a ++ (b ++ p ++ d ++ r)).toList ↔
      c ∈ a.toList ∨ c ∈ b.toList ∨ c ∈ p.toList ∨ c ∈ d.toList ∨ c ∈ r.toList := by
    simp
  have hstage : c ∉ "Failed to parse query: ".toList := hnot (isOneLine_ofList (by decide))
  have hbefore : c ∉ "Invalid parse pattern '".toList := hnot (isOneLine_ofList (by decide))
  have hafter : c ∉ "': ".toList := hnot (isOneLine_ofList (by decide))
  have hreason : c ∉ cause.reason.toList := hnot cause.isOneLine_reason
  refine (hparts _ _ _ _ _).trans ?_
  simp only [hstage, hbefore, hafter, hreason, false_or, or_false]

/-- What ends a line in the message of an error stands in the pattern that is refused, so a query on
one line has all its errors on one line. -/
theorem isLineBreak_message_iff (query : String) :
    (∀ err, Reports query err → ∀ c, isLineBreak c = true →
      (c ∈ err.message.toList ↔ ∃ e, IsRefusedFor query e ∧ c ∈ e.pattern.toList)) ∧
    (IsOneLine query.toList → ∀ err, Reports query err → IsOneLine err.message.toList) := by
  have hiff : ∀ err, Reports query err → ∀ c, isLineBreak c = true →
      (c ∈ err.message.toList ↔ ∃ e, IsRefusedFor query e ∧ c ∈ e.pattern.toList) := by
    intro err herr c hc
    constructor
    · intro hmem
      rcases herr.refused_or_isOneLine with ⟨e, he, cause, rfl⟩ | hone
      · exact ⟨e, he, (mem_message_iff hc _ _).mp hmem⟩
      · simp [hone c hmem] at hc
    · rintro ⟨e, he, hmem⟩
      obtain ⟨cause, herror⟩ := he.error_eq
      rw [herr.eq_of_error herror]
      exact (mem_message_iff hc _ _).mpr hmem
  refine ⟨hiff, fun hquery err herr c hmem => ?_⟩
  by_contra hbreak
  have hc : isLineBreak c = true := by simpa using hbreak
  obtain ⟨e, he, hpattern⟩ := (hiff err herr c hc).mp hmem
  simp [hquery c (he.pattern_subset hpattern)] at hc

/-- A pattern with a line feed in it, and one without. -/
theorem isLineBreak_message_group :
    (∃ err, Reports "parse m /(\n/" err ∧ '\n' ∈ err.message.toList) ∧
    ∃ err, Reports "limit 5 | parse m /(/" err ∧ IsOneLine err.message.toList := by
  have hgroup : IsRefused "parse m /(\n/".toList ⟨"m", "/(\n/", "", true⟩
      (.fault "(\n" ⟨.groupUnclosed, ⟨⟨1, 1⟩, ⟨1, 2⟩⟩⟩) := ⟨rfl, rfl, rfl⟩
  have hlong : stages "parse m /(\n/".toList = [] ++ "parse m /(\n/".toList :: [] := by decide
  have hshort : stages "limit 5 | parse m /(/".toList =
      ["limit 5".toList] ++ "parse m /(/".toList :: [] := by decide
  have hlongError := congrArg Parsed.error (Outcome.compile_eq (.refused hlong .nil hgroup))
  have hshortError :=
    congrArg Parsed.error (Outcome.compile_eq (.refused hshort reads_limit isRefused_group))
  refine ⟨⟨_, .inl hlongError, ?_⟩, ⟨_, .inl hshortError, ?_⟩⟩
  · refine ((isLineBreak_message_iff _).1 _ (.inl hlongError) '\n' (by decide)).mpr ?_
    exact ⟨_, ⟨[], _, [], [], _, hlong, .nil, hgroup⟩, by decide⟩
  · exact (isLineBreak_message_iff _).2 (by decide) _ (.inl hshortError)

end Query

end Logbook
