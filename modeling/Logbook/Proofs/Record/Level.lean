import Logbook.Proofs.Text.Case
import Logbook.Record.Level

/-! Words for levels. Each word stands for one level, and each is plain, so capital letters are all that
a text may differ in from the word that it is or holds. -/

namespace Logbook.Level

open Text

variable {level : Level} {s line : List Char}

theorem mem_all (level : Level) : level ∈ all := by
  cases level <;> decide

theorem isPlain_word : ∀ level ∈ all, ∀ word ∈ level.words, IsPlain word.toList := by
  decide

/-- No word stands for two levels. -/
theorem find?_word : ∀ level ∈ all, ∀ word ∈ level.words,
    (all.find? fun other => other.words.contains word) = some level := by
  decide

theorem parse?_eq_some_iff :
    parse? s = some level ↔ ∃ word ∈ level.words, SameLetters s word.toList := by
  constructor
  · intro h
    have hword : String.ofList (lower s) ∈ level.words := by simpa using List.find?_some h
    exact ⟨_, hword, (ofList_lower_eq_iff (isPlain_word level level.mem_all _ hword)).mp rfl⟩
  · rintro ⟨word, hword, hsame⟩
    have hlower := (ofList_lower_eq_iff (isPlain_word level level.mem_all _ hword)).mpr hsame
    rw [parse?, hlower]
    exact find?_word level level.mem_all word hword

theorem guess_eq (line : List Char) :
    guess line =
      if Mentions line "error".toList ∨ Mentions line "fatal".toList ∨ Mentions line "fail".toList then
        error
      else if Mentions line "warn".toList then warn
      else if Mentions line "debug".toList then debug
      else info := by
  have hmentions {word : List Char} (hw : IsPlain word) :
      occurs word (lower line) = true ↔ Mentions line word := occurs_lower_iff hw
  simp only [guess, Bool.or_eq_true, or_assoc,
    hmentions (by decide : IsPlain "error".toList), hmentions (by decide : IsPlain "fatal".toList),
    hmentions (by decide : IsPlain "fail".toList), hmentions (by decide : IsPlain "warn".toList),
    hmentions (by decide : IsPlain "debug".toList)]

end Logbook.Level
