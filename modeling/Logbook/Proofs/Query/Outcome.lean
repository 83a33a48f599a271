import Logbook.Proofs.Query.Sequence

/-! How a query comes out. A stage is unknown, or its pattern is refused, or it is read as one
command; so every query has an outcome, and compiling gives it. The request of a query fails as
its commands do, and where there are none. -/

namespace Logbook.Query

open Text

/-! ### Single stages -/

variable {stage : List Char}

theorem cutKeyword_eq (stage : List Char) :
    cutKeyword stage = (stage.takeWhile fun c => !isBlank c, behindWord stage) := by
  rw [cutKeyword, cutAt?_eq, behindWord]
  cases hs : stage.dropWhile fun c => !isBlank c with
  | nil =>
    have hall : ∀ c ∈ stage, (!isBlank c) = true := List.dropWhile_eq_nil_iff.mp hs
    simp [List.takeWhile_eq_self_iff.mpr hall, trim_eq_nil_iff.mpr]
  | cons c rest =>
    have hc : isBlank c = true := by
      have hhead := List.head_dropWhile_not (fun c => !isBlank c) (l := stage) (by simp [hs])
      simpa [hs] using hhead
    have htrim : trim ([c] ++ rest) = trim rest := trim_blank_append rest (by simpa using hc)
    exact congrArg _ htrim.symm

theorem readStage_eq (stage : List Char) :
    readStage stage = readArguments (leadingWord stage) (behindWord stage) := by
  rw [readStage, cutKeyword_eq, leadingWord]

theorem readArguments_unknown {word : String} (h : ∀ c : Command, c.kind ≠ word)
    (rest : List Char) : readArguments word rest = .error (.unknownCommand word) := by
  unfold readArguments
  split
  · exact absurd rfl (h (.fields []))
  · exact absurd rfl (h (.filter ⟨"", .equal, ""⟩))
  · exact absurd rfl (h (.stats ⟨"", "", []⟩))
  · exact absurd rfl (h (.sort ⟨"", ""⟩))
  · exact absurd rfl (h (.limit 0))
  · exact absurd rfl (h (.parse ⟨"", "", "", false⟩))
  · rfl

/-- What comes of arguments that can be read. -/
theorem readArguments_cases {word : String} {rest : List Char} {c : Command}
    (h : readArguments word rest = .ok c) :
    c.kind = word ∧ (c = .fields (readFields rest) ∨ c = .filter (readFilter rest) ∨
      c = .stats (readStats rest) ∨ c = .sort (readSort rest) ∨ c = .limit (readLimit rest) ∨
      c = .parse (readParse rest)) := by
  unfold readArguments at h
  split at h
  case h_6 =>
    dsimp only at h
    split at h
    · cases h
      simp [Command.kind]
    · cases h
  case h_7 => cases h
  all_goals
    cases h
    simp [Command.kind]

/-- The keyword of any command but an extraction is enough. -/
theorem exists_readArguments (c : Command) (h : c.kind ≠ "parse") (rest : List Char) :
    ∃ c', readArguments c.kind rest = .ok c' := by
  cases c with
  | parse => exact absurd rfl h
  | _ => exact ⟨_, rfl⟩

theorem readStage_of_unknown (h : IsUnknown stage) :
    readStage stage = .error (.unknownCommand (leadingWord stage)) := by
  rw [readStage_eq, readArguments_unknown h]

theorem readStage_of_refused {e : Extraction} {cause : Pattern.Refusal}
    (h : IsRefused stage e cause) :
    readStage stage = .error (.invalidPattern e.pattern cause.reason) := by
  rw [readStage_eq, h.word, readArguments_parse, h.arguments, Extraction.compile, h.pattern]

theorem exists_readStage (hknown : ¬ IsUnknown stage)
    (haccepted : ∀ e cause, ¬ IsRefused stage e cause) : ∃ c, readStage stage = .ok c := by
  obtain ⟨c, hc⟩ := not_forall_not.mp hknown
  rw [readStage_eq]
  by_cases hparse : leadingWord stage = "parse"
  · rw [hparse, readArguments_parse, Extraction.compile]
    cases hpattern : Pattern.compile (readParse (behindWord stage)).source with
    | ok p => exact ⟨_, rfl⟩
    | error cause => exact absurd ⟨hparse, rfl, hpattern⟩ (haccepted _ cause)
  · rw [← hc]
    exact exists_readArguments c (hc ▸ hparse) _

theorem exists_readStage_iff :
    (∃ c, readStage stage = .ok c) ↔
      ¬ IsUnknown stage ∧ ∀ e cause, ¬ IsRefused stage e cause := by
  refine ⟨fun ⟨c, hc⟩ => ⟨fun h => ?_, fun e cause h => ?_⟩, fun h => exists_readStage h.1 h.2⟩
  · simp [readStage_of_unknown h] at hc
  · simp [readStage_of_refused h] at hc

/-! ### Stages in order -/

theorem Reads.readStages {before : List (List Char)} {commands : List Command}
    (h : Reads before commands) (after : List (List Char)) :
    readStages [] (before ++ after) =
      (Parsed.mk commands none).followedBy (readStages [] after) := by
  rw [readStages_append, readStages_eq_ok [] h]
  rfl

/-- All stages can be read, or there is a first one that cannot. -/
theorem reads_or_exists_error (stages : List (List Char)) :
    (∃ commands, Reads stages commands) ∨
      ∃ before stage after commands, stages = before ++ stage :: after ∧ Reads before commands ∧
        (IsUnknown stage ∨ ∃ e cause, IsRefused stage e cause) := by
  induction stages with
  | nil => exact .inl ⟨[], .nil⟩
  | cons stage stages ih =>
    by_cases hread : ∃ c, readStage stage = .ok c
    · obtain ⟨c, hc⟩ := hread
      rcases ih with ⟨commands, h⟩ | ⟨before, failing, after, commands, rfl, h, hfails⟩
      · exact .inl ⟨c :: commands, .cons hc h⟩
      · exact .inr ⟨stage :: before, failing, after, c :: commands, rfl, .cons hc h, hfails⟩
    · rw [exists_readStage_iff, not_and_or, not_not] at hread
      refine .inr ⟨[], stage, stages, [], rfl, .nil, hread.imp_right fun h => ?_⟩
      simpa using h

/-! ### Queries -/

variable {query : String} {p : Parsed}

theorem not_isBlankText_of_stages {before after : List (List Char)}
    (h : stages query.toList = before ++ stage :: after) : ¬ IsBlankText query := by
  intro hblank
  simp [stages_of_blank hblank] at h

theorem compile_eq_of_error {before after : List (List Char)} {commands : List Command}
    {err : Error} (hstages : stages query.toList = before ++ stage :: after)
    (hbefore : Reads before commands) (hstage : readStage stage = .error err) :
    compile query = (Parsed.mk commands none).followedBy err.stopped := by
  rw [compile_of_not_blank (not_isBlankText_of_stages hstages), hstages, hbefore.readStages,
    readStages_error hstage, ← Parsed.followedBy_assoc, List.reverse_nil, Parsed.followedBy_nil]

theorem Outcome.compile_eq (h : Outcome query p) : compile query = p := by
  cases h with
  | empty hblank => exact compile_blank hblank
  | complete hblank hreads =>
    rw [compile_of_not_blank hblank, readStages_eq_ok [] hreads]
    rfl
  | unknown hstages hbefore hstage =>
    rw [compile_eq_of_error hstages hbefore (readStage_of_unknown hstage)]
    simp [Parsed.followedBy, Error.stopped]
  | refused hstages hbefore hstage =>
    rw [compile_eq_of_error hstages hbefore (readStage_of_refused hstage)]
    rfl

theorem exists_outcome (query : String) : ∃ p, Outcome query p := by
  by_cases hblank : IsBlankText query
  · exact ⟨_, .empty hblank⟩
  rcases reads_or_exists_error (stages query.toList) with
    ⟨commands, h⟩ | ⟨before, stage, after, commands, hstages, h, hunknown | ⟨e, cause, hrefused⟩⟩
  · exact ⟨_, .complete hblank h⟩
  · exact ⟨_, .unknown hstages h hunknown⟩
  · exact ⟨_, .refused hstages h hrefused⟩

theorem compile_eq_iff : compile query = p ↔ Outcome query p := by
  refine ⟨fun h => ?_, Outcome.compile_eq⟩
  obtain ⟨p', hp'⟩ := exists_outcome query
  rwa [← h, hp'.compile_eq]

theorem outcome_compile (query : String) : Outcome query (compile query) := compile_eq_iff.mp rfl

namespace Outcome

theorem error_eq_empty_iff (h : Outcome query p) : p.error = some .empty ↔ IsBlankText query := by
  cases h with
  | empty hblank => simpa using hblank
  | complete hblank => simpa using hblank
  | unknown hstages => simpa using not_isBlankText_of_stages hstages
  | refused hstages => simpa using not_isBlankText_of_stages hstages

theorem error_ne_invalidPattern (h : Outcome query p) (pattern reason : String) :
    p.error ≠ some (.invalidPattern pattern reason) := by
  cases h <;> simp

theorem error_ne_invalidQuery (h : Outcome query p) : p.error ≠ some .invalidQuery := by
  cases h <;> simp

/-- There are no commands and no error where all stages are blank and the text is not. -/
theorem eq_nil_iff (h : Outcome query p) :
    p = ⟨[], none⟩ ↔ ¬ IsBlankText query ∧ IsMargin '|' query.toList := by
  have hstages : stages query.toList = [] ↔ IsMargin '|' query.toList :=
    pieces_eq_nil_iff isBlank_bar
  cases h with
  | empty hblank => simpa using fun h => absurd hblank h
  | complete hblank hreads =>
    rw [← hstages, Parsed.mk.injEq]
    constructor
    · rintro ⟨rfl, -⟩
      exact ⟨hblank, List.forall₂_nil_right_iff.mp hreads⟩
    · rintro ⟨-, hnil⟩
      rw [hnil] at hreads
      exact ⟨List.forall₂_nil_left_iff.mp hreads, rfl⟩
  | unknown h => simp [← hstages, h]
  | refused h => simp [← hstages, h]

end Outcome

/-- What follows a stage that cannot be read has no influence. -/
theorem compile_eq_of_same_failure {other : String} {before after after' : List (List Char)}
    (hstages : stages query.toList = before ++ stage :: after)
    (hother : stages other.toList = before ++ stage :: after')
    (hstage : ∀ c, readStage stage ≠ .ok c) : compile other = compile query := by
  cases hread : readStage stage with
  | ok c => exact absurd hread (hstage c)
  | error err =>
    rw [compile_of_not_blank (not_isBlankText_of_stages hother), hother,
      compile_of_not_blank (not_isBlankText_of_stages hstages), hstages, readStages_append,
      readStages_append, readStages_error hread, readStages_error hread]

/-! ### Requests -/

theorem compileToRequest_of_error {err : Error} (h : (compile query).error = some err) :
    compileToRequest query = .error err := by
  simp [compileToRequest, Parsed.translate, h]

theorem compileToRequest_of_nil (h : compile query = ⟨[], none⟩) :
    compileToRequest query = .error .invalidQuery := by
  simp [compileToRequest, Parsed.translate, h]

theorem exists_compileToRequest (h : (compile query).error = none)
    (hne : compile query ≠ ⟨[], none⟩) : ∃ r, compileToRequest query = .ok r := by
  have hcommands : (compile query).commands ≠ [] := by
    intro hnil
    exact hne (by rw [← h, ← hnil])
  simp [compileToRequest, Parsed.translate, h, hcommands]

theorem compileToRequest_eq_error_iff {err : Error} :
    compileToRequest query = .error err ↔
      (compile query).error = some err ∨
        err = .invalidQuery ∧ ¬ IsBlankText query ∧ IsMargin '|' query.toList := by
  rw [← (outcome_compile query).eq_nil_iff]
  constructor
  · intro h
    cases herror : (compile query).error with
    | some err' =>
      rw [compileToRequest_of_error herror] at h
      exact .inl (congrArg some (Except.error.inj h))
    | none =>
      by_cases hnil : compile query = ⟨[], none⟩
      · rw [compileToRequest_of_nil hnil] at h
        exact .inr ⟨(Except.error.inj h).symm, hnil⟩
      · obtain ⟨r, hr⟩ := exists_compileToRequest herror hnil
        simp [hr] at h
  · rintro (h | ⟨rfl, hnil⟩)
    · exact compileToRequest_of_error h
    · exact compileToRequest_of_nil hnil

/-- Compiling gives the outcome of a query: an error for a blank text, else what the first stage
decides that is unknown or refused, whatever follows it, else one command for each stage. Two errors
are never among the outcomes. The request fails with the same error, or for want of stages. -/
theorem compile_outcome (query : String) :
    (∀ p, compile query = p ↔ Outcome query p) ∧
      ((compile query).error = some .empty ↔ IsBlankText query) ∧
      (∀ stage, (∃ c, readStage stage = .ok c) ↔
        ¬ IsUnknown stage ∧ ∀ e cause, ¬ IsRefused stage e cause) ∧
      (∀ before stage after, stages query.toList = before ++ stage :: after →
        (∀ c, readStage stage ≠ .ok c) →
          ∀ other after', stages other.toList = before ++ stage :: after' →
            compile other = compile query) ∧
      (∀ pattern reason, (compile query).error ≠ some (.invalidPattern pattern reason)) ∧
      (compile query).error ≠ some .invalidQuery ∧
      (∀ err, compileToRequest query = .error err ↔
        (compile query).error = some err ∨
          err = .invalidQuery ∧ ¬ IsBlankText query ∧ IsMargin '|' query.toList) ∧
      ((compile query).error = none → ¬ IsMargin '|' query.toList →
        ∃ r, compileToRequest query = .ok r) := by
  have houtcome := outcome_compile query
  refine ⟨fun _ => compile_eq_iff, houtcome.error_eq_empty_iff, fun _ => exists_readStage_iff,
    fun _ _ _ hstages hstage _ _ hother => compile_eq_of_same_failure hstages hother hstage,
    houtcome.error_ne_invalidPattern, houtcome.error_ne_invalidQuery,
    fun _ => compileToRequest_eq_error_iff, fun hnone hmargin => ?_⟩
  exact exists_compileToRequest hnone fun hnil => hmargin (houtcome.eq_nil_iff.mp hnil).2

/-- A group that is left open. -/
theorem isRefused_group : IsRefused "parse m /(/".toList ⟨"m", "/(/", "", true⟩
    (.fault "(" ⟨.groupUnclosed, ⟨⟨1, 1⟩, ⟨1, 2⟩⟩⟩) :=
  ⟨rfl, rfl, rfl⟩

theorem reads_limit : Reads ["limit 5".toList] [.limit 5] := by
  refine .cons ?_ .nil
  rfl

/-- Two stages that cannot be read, in both orders, and bars alone. -/
theorem compile_outcome_sample :
    compile "limit 5 | | BOGUS x | parse m /(/" =
        ⟨[.limit 5], some (.unknownCommand "bogus")⟩ ∧
      Outcome "limit 5 | parse m /(/ | BOGUS x" ⟨[], some (.internal
        "Invalid parse pattern '/(/': unclosed group")⟩ ∧
      compileToRequest " | |" = .error .invalidQuery := by
  refine ⟨((compile_outcome _).1 _).mpr ?_, ?_, ?_⟩
  · have hstages : stages "limit 5 | | BOGUS x | parse m /(/".toList =
        ["limit 5".toList] ++ "BOGUS x".toList :: ["parse m /(/".toList] := by decide
    have hword : leadingWord "BOGUS x".toList = "bogus" := by decide
    rw [← hword]
    refine .unknown hstages reads_limit fun c => ?_
    rw [hword]
    cases c <;> simp [Command.kind]
  · have hstages : stages "limit 5 | parse m /(/ | BOGUS x".toList =
        ["limit 5".toList] ++ "parse m /(/".toList :: ["BOGUS x".toList] := by decide
    exact .refused hstages reads_limit isRefused_group
  · obtain ⟨-, -, -, -, -, -, hrequest, -⟩ := compile_outcome " | |"
    exact (hrequest _).mpr (.inr ⟨rfl, by decide, by decide⟩)

end Logbook.Query
