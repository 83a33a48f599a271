import Logbook.Proofs.Query.Outcome
import Logbook.Proofs.Record.Level

/-! Words that are read in any mixture of cases. Lower case is taken of all of Unicode, but the words
asked for are plain, so no letter beyond ASCII stands for one of theirs. -/

namespace Logbook.Query

open Text

/-! ### Keywords -/

variable {stage : List Char} {c : Command}

theorem isPlain_keyword : ∀ name ∈ keywords, IsPlain name.toList := by
  decide

theorem exists_kind : ∀ name ∈ keywords, ∃ c : Command, c.kind = name := by
  simp only [keywords, List.forall_mem_cons]
  exact ⟨⟨.fields [], rfl⟩, ⟨.filter ⟨"", .equal, ""⟩, rfl⟩, ⟨.stats ⟨"", "", []⟩, rfl⟩,
    ⟨.sort ⟨"", ""⟩, rfl⟩, ⟨.limit 0, rfl⟩, ⟨.parse ⟨"", "", "", false⟩, rfl⟩, by simp⟩

theorem not_isUnknown_iff : ¬ IsUnknown stage ↔
    ∃ name ∈ keywords, SameLetters (stage.takeWhile fun c => !isBlank c) name.toList := by
  rw [IsUnknown, not_forall_not]
  constructor
  · rintro ⟨c, hc⟩
    have hplain := isPlain_keyword c.kind c.kind_mem_keywords
    exact ⟨c.kind, c.kind_mem_keywords, (ofList_lower_eq_iff hplain).mp hc.symm⟩
  · rintro ⟨name, hname, hsame⟩
    obtain ⟨c, rfl⟩ := exists_kind name hname
    exact ⟨c, ((ofList_lower_eq_iff (isPlain_keyword _ hname)).mpr hsame).symm⟩

theorem isKnown_iff : (∀ word, readStage stage ≠ .error (.unknownCommand word)) ↔
    ¬ IsUnknown stage := by
  constructor
  · intro h hunknown
    exact h _ (readStage_of_unknown hunknown)
  · intro hknown word
    by_cases hrefused : ∃ e cause, IsRefused stage e cause
    · obtain ⟨e, cause, hrefused⟩ := hrefused
      simp [readStage_of_refused hrefused]
    · obtain ⟨c, hc⟩ := exists_readStage hknown fun e cause h => hrefused ⟨e, cause, h⟩
      simp [hc]

theorem sameLetters_kind (h : readStage stage = .ok c) :
    SameLetters (stage.takeWhile fun c => !isBlank c) c.kind.toList := by
  rw [readStage_eq] at h
  have hplain := isPlain_keyword c.kind c.kind_mem_keywords
  exact (ofList_lower_eq_iff hplain).mp (readArguments_cases h).1.symm

/-! ### Directions -/

theorem ofDirection_eq_desc_iff {direction : String} :
    SortOrder.ofDirection direction = .desc ↔ direction.toList.map Char.toLower = "desc".toList := by
  rw [SortOrder.ofDirection]
  split
  · next h => exact iff_of_true rfl h
  · next h => exact iff_of_false (by decide) h

theorem order_readSort {rest field direction : List Char} {more : List (List Char)}
    (h : words rest = field :: direction :: more) :
    (readSort rest).order = .desc ↔ SameLetters direction "desc".toList := by
  have hplain : IsPlain "desc".toList := by decide
  rw [readSort, h, Sorting.order, ofDirection_eq_desc_iff, String.toList_ofList,
    map_toLower_lower_eq_iff hplain]

/-- Only the case of ASCII letters is left open: in the keyword of a stage, in a word for a level, in the
direction of a sort, and in the words that a line hints at its level by. -/
theorem sameLetters_read :
    (∀ stage,
      ((∀ word, readStage stage ≠ .error (.unknownCommand word)) ↔
        ∃ name ∈ ["fields", "filter", "stats", "sort", "limit", "parse"],
          SameLetters (stage.takeWhile fun c => !isBlank c) name.toList) ∧
      ∀ c, readStage stage = .ok c →
        SameLetters (stage.takeWhile fun c => !isBlank c) c.kind.toList) ∧
      (∀ s level, Level.parse? s = some level ↔
        ∃ word, (word, level) ∈ [("debug", .debug), ("trace", .debug), ("info", .info),
            ("information", .info), ("warn", .warn), ("warning", .warn), ("error", .error),
            ("err", .error), ("fatal", Level.error)] ∧ SameLetters s word.toList) ∧
      (∀ direction : String, SortOrder.ofDirection direction = .desc ↔
        SameLetters direction.toList "desc".toList) ∧
      (∀ rest field direction more, words rest = field :: direction :: more →
        ((readSort rest).order = .desc ↔ SameLetters direction "desc".toList)) ∧
      ∀ line, Level.guess line =
        if Mentions line "error".toList ∨ Mentions line "fatal".toList ∨
          Mentions line "fail".toList then .error
        else if Mentions line "warn".toList then .warn
        else if Mentions line "debug".toList then .debug
        else .info := by
  refine ⟨fun stage => ⟨isKnown_iff.trans not_isUnknown_iff, fun c => sameLetters_kind⟩,
    fun s level => ?_, fun _ => ofDirection_eq_desc_iff, fun _ _ _ _ => order_readSort,
    Level.guess_eq⟩
  rw [Level.parse?_eq_some_iff]
  cases level <;> simp [Level.words]

/-- A mixture of cases, and a line with a dotted capital and a Kelvin sign, whose lower case holds ASCII
letters. -/
theorem sameLetters_read_dotted :
    (∀ word, readStage "LiMiT 5".toList ≠ .error (.unknownCommand word)) ∧
      SameLetters "LiMiT".toList "limit".toList ∧
      Level.parse? "Warning".toList = some .warn ∧
      (readSort "x DeSC".toList).order = .desc ∧
      Level.guess "DİSK FAİLS AT 300 K: WARNING".toList = .warn := by
  obtain ⟨hstage, hlevel, -, hsort, hguess⟩ := sameLetters_read
  have hread : readStage "LiMiT 5".toList = .ok (.limit 5) := by rfl
  refine ⟨?_, ?_, ?_, ?_, ?_⟩
  · exact (hstage _).1.mpr (by decide)
  · exact (hstage _).2 _ hread
  · exact (hlevel _ _).mpr ⟨"warning", by decide, by decide⟩
  · exact (hsort _ "x".toList "DeSC".toList [] (by decide)).mpr (by decide)
  · exact (hguess _).trans (by decide)

end Logbook.Query
