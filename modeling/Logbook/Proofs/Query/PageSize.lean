import Logbook.Proofs.Query.Outcome

/-! Page sizes. A number of any length is read into 32 bits as it stands or not at all, so the limit
of a stage is a page size; a stage that sets the limit of a filter keeps it one, and so does a whole
pipeline. -/

namespace Logbook.Query

open Text

/-! ### Stages -/

/-- The number is the one that the digits write, however many zeros stand in front of it. -/
theorem readLimit_placeValue (rest : List Char) :
    readLimit rest =
      let digits := (unsigned rest).takeWhile Char.isDigit
      if digits ≠ [] ∧ IsPageSize (placeValue digits) then placeValue digits else defaultLimit := by
  rw [readLimit_eq, digitsValue_eq_placeValue]
  generalize (unsigned rest).takeWhile Char.isDigit = digits
  have hiff : 0 < placeValue digits ∧ placeValue digits < UInt32.size ↔
      digits ≠ [] ∧ IsPageSize (placeValue digits) := by
    constructor
    · intro h
      refine ⟨?_, h⟩
      rintro rfl
      exact absurd h.1 (by decide)
    · exact fun h => h.2
  exact if_congr hiff rfl rfl

theorem isPageSize_readLimit (rest : List Char) : IsPageSize (readLimit rest) := by
  rw [readLimit_placeValue]
  dsimp only
  split
  · next h => exact h.2
  · decide

/-- If the command sets a limit, it is a page size. -/
def Command.IsUsable (c : Command) : Prop := ∀ n, c = .limit n → IsPageSize n

theorem isUsable_readArguments {word : String} {rest : List Char} {c : Command}
    (h : readArguments word rest = .ok c) : c.IsUsable := by
  rintro n rfl
  obtain rfl : n = readLimit rest := by simpa using (readArguments_cases h).2
  exact isPageSize_readLimit rest

theorem isUsable_readStage {stage : List Char} {c : Command} (h : readStage stage = .ok c) :
    c.IsUsable := by
  rw [readStage_eq] at h
  exact isUsable_readArguments h

theorem Reads.isUsable {stages : List (List Char)} {commands : List Command}
    (h : Reads stages commands) : ∀ c ∈ commands, c.IsUsable := by
  induction h with
  | nil => simp
  | cons hread _ ih => exact List.forall_mem_cons.mpr ⟨isUsable_readStage hread, ih⟩

/-! ### Filters -/

theorem SearchFilter.applyFilter_limit (s : SearchFilter) (f : Filter) :
    (s.applyFilter f).limit = s.limit := by
  simp only [applyFilter, addLevel]
  split_ifs <;> rfl

theorem SearchFilter.isPageSize_apply {s : SearchFilter} {c : Command} (hs : IsPageSize s.limit)
    (hc : c.IsUsable) : IsPageSize (s.apply c).limit := by
  cases c with
  | filter f => rwa [apply, applyFilter_limit]
  | sort c =>
    rw [apply]
    split <;> exact hs
  | limit n => exact hc n rfl
  | fields | stats | parse => exact hs

theorem SearchFilter.isPageSize_foldl {s : SearchFilter} {commands : List Command}
    (hs : IsPageSize s.limit) (hcommands : ∀ c ∈ commands, c.IsUsable) :
    IsPageSize (commands.foldl SearchFilter.apply s).limit := by
  induction commands generalizing s with
  | nil => exact hs
  | cons c commands ih =>
    obtain ⟨hc, hcommands⟩ := List.forall_mem_cons.mp hcommands
    exact ih (isPageSize_apply hs hc) hcommands

/-! ### Requests -/

theorem isUsable_compile {query : String} (h : (compile query).error = none) :
    ∀ c ∈ (compile query).commands, c.IsUsable := by
  generalize hp : compile query = p at h ⊢
  cases compile_eq_iff.mp hp with
  | complete _ hreads => exact hreads.isUsable
  | empty | unknown | refused => cases h

theorem isPageSize_request {query : String} {r : SearchRequest} (h : compileToRequest query = .ok r) :
    IsPageSize r.limit := by
  cases herror : (compile query).error with
  | some err =>
    rw [compileToRequest_of_error herror] at h
    cases h
  | none =>
    have hcommands := isUsable_compile herror
    rw [compileToRequest, Parsed.translate, herror] at h
    dsimp only at h
    split at h
    · cases h
    · obtain rfl : SearchFilter.request _ = r := by simpa using h
      exact SearchFilter.isPageSize_foldl (by decide) hcommands

/-- A stage asks for as many lines as the digits say that its arguments begin with, behind at most one
plus sign; where there are none, and where they write zero or 2³² and more, for 20. So the limit of
every request is a page size. -/
theorem readStage_limit :
    (∀ stage digits, leadingWord stage = "limit" →
      (unsigned (behindWord stage)).takeWhile Char.isDigit = digits →
        readStage stage = .ok (.limit
          (if digits ≠ [] ∧ 1 ≤ placeValue digits ∧ placeValue digits < 2 ^ 32 then placeValue digits
            else 20))) ∧
      ∀ query r, compileToRequest query = .ok r → 1 ≤ r.limit ∧ r.limit < 2 ^ 32 := by
  refine ⟨?_, fun query r h => isPageSize_request h⟩
  rintro stage digits hword rfl
  rw [readStage_eq, hword]
  exact congrArg (fun n => Except.ok (Command.limit n)) (readLimit_placeValue (behindWord stage))

/-- The largest page behind zeros, and one line more than it. -/
theorem readStage_limit_largest :
    readStage "LIMIT\t+0000000000004294967295 rows".toList = .ok (.limit 4294967295) ∧
      readStage "limit 4294967296".toList = .ok (.limit 20) ∧
      ∃ r, compileToRequest "limit 7 | limit 0 | fields a" = .ok r ∧ 1 ≤ r.limit ∧
        r.limit < 2 ^ 32 := by
  obtain ⟨hstage, hrequest⟩ := readStage_limit
  refine ⟨?_, ?_, ?_⟩
  · have hword : leadingWord "LIMIT\t+0000000000004294967295 rows".toList = "limit" := by
      decide
    have hdigits : (unsigned (behindWord "LIMIT\t+0000000000004294967295 rows".toList)).takeWhile
        Char.isDigit = "0000000000004294967295".toList := by decide
    exact (hstage _ _ hword hdigits).trans (by decide)
  · have hword : leadingWord "limit 4294967296".toList = "limit" := by decide
    have hdigits : (unsigned (behindWord "limit 4294967296".toList)).takeWhile Char.isDigit =
        "4294967296".toList := by decide
    exact (hstage _ _ hword hdigits).trans (by decide)
  · have hr : compileToRequest "limit 7 | limit 0 | fields a" =
        .ok ⟨none, none, [], none, "timestamp", .desc, 1, 20⟩ := by rfl
    exact ⟨_, hr, hrequest _ _ hr⟩

end Logbook.Query
