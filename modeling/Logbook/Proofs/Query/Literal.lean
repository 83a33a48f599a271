import Logbook.Proofs.Query.Outcome
import Logbook.Query.Literal

/-! Which extractions can fail. A glob always has a pattern, so only a text between slashes that is
not in quotation marks is refused, and what has been compiled can be applied to any text. -/

namespace Logbook.Query

open Text

/-! ### The pattern that is written -/

/-- The pattern as it is written. -/
def writtenPattern (rest : List Char) : List Char :=
  match cutAt? (· == ' ') (mainPart rest) with
  | some (_, written) => trim written
  | none => []

variable {rest written body flags : List Char}

theorem hasMain_iff {main : List Char} : HasMain rest main ↔ mainPart rest = main := by
  have hsep : " as ".toList = ' ' :: "as ".toList := rfl
  rw [mainPart]
  constructor
  · intro h
    cases h with
    | whole h => rw [(cutLast?_eq_none_iff (by decide) rest).mpr h]
    | @before main names h =>
      have hcut : cutLast? " as ".toList (main ++ (" as ".toList ++ names)) = some (main, names) :=
        cutLast?_append main names h
      rw [hcut]
  · rintro rfl
    cases hcut : cutLast? " as ".toList rest with
    | none => exact .whole ((cutLast?_eq_none_iff (by decide) rest).mp hcut)
    | some parts =>
      obtain ⟨main, names⟩ := parts
      obtain ⟨rfl, hlast⟩ := cutLast?_eq_some_iff.mp (hsep ▸ hcut)
      exact .before hlast

theorem writesPattern_iff : WritesPattern rest written ↔ writtenPattern rest = written := by
  rw [writtenPattern]
  constructor
  · intro h
    cases h with
    | missing h hspace => rw [hasMain_iff.mp h, cutAt?_char_eq_none_iff.mpr hspace]
    | behind h hspace => rw [hasMain_iff.mp h, cutAt?_char_eq_some_iff.mpr ⟨rfl, hspace⟩]
  · rintro rfl
    cases hcut : cutAt? (· == ' ') (mainPart rest) with
    | none => exact .missing (hasMain_iff.mpr rfl) (cutAt?_char_eq_none_iff.mp hcut)
    | some parts =>
      obtain ⟨field, written⟩ := parts
      obtain ⟨hmain, hspace⟩ := cutAt?_char_eq_some_iff.mp hcut
      exact .behind (hasMain_iff.mpr hmain) hspace

/-! ### Literals -/

/-- No flag is a slash, so the last slash is the one in front of the flags. -/
theorem regexLiteral?_eq_some_iff :
    regexLiteral? written = some (body, flags) ↔ IsLiteral written body flags := by
  constructor
  · intro h
    unfold regexLiteral? at h
    split at h
    next rest =>
      split at h
      next body' flags' hcut =>
        split_ifs at h with hletters
        obtain ⟨rfl, rfl⟩ := Prod.mk.inj (Option.some.inj h)
        obtain ⟨rfl, -⟩ := cutLast?_eq_some_iff.mp hcut
        exact ⟨rfl, List.all_eq_true.mp hletters⟩
      · cases h
    · cases h
  · rintro ⟨rfl, hletters⟩
    have hslash : ¬ ['/'] <:+: [] ++ flags := by
      intro hoccurs
      have halpha := hletters '/' (hoccurs.subset (by simp))
      exact absurd halpha (by decide)
    have hcut : cutLast? ['/'] (body ++ '/' :: flags) = some (body, flags) :=
      cutLast?_append body flags hslash
    rw [regexLiteral?, hcut]
    simp only [List.all_eq_true.mpr hletters, if_true]

theorem IsLiteral.stripQuotes_eq (h : IsLiteral written body flags) :
    stripQuotes written = written := by
  rw [h.slashes, stripQuotes]
  simp

theorem exists_readParse_eq (rest : List Char) :
    ∃ field names, readParse rest =
      ⟨field, String.ofList (stripQuotes (writtenPattern rest)), names,
        stripQuotes (writtenPattern rest) == writtenPattern rest &&
          (regexLiteral? (writtenPattern rest)).isSome⟩ := by
  rw [readParse_eq, writtenPattern]
  cases cutAt? (· == ' ') (mainPart rest) with
  | none => exact ⟨_, _, rfl⟩
  | some parts => exact ⟨_, _, rfl⟩

/-- Only a literal is taken for more than a glob. -/
theorem isRegex_readParse_iff (rest : List Char) :
    (readParse rest).isRegex = true ↔
      ∃ body flags, IsLiteral (writtenPattern rest) body flags := by
  obtain ⟨field, names, hread⟩ := exists_readParse_eq rest
  rw [hread]
  constructor
  · intro h
    obtain ⟨-, hsome⟩ := Bool.and_eq_true_iff.mp h
    obtain ⟨⟨body, flags⟩, hliteral⟩ := Option.isSome_iff_exists.mp hsome
    exact ⟨body, flags, regexLiteral?_eq_some_iff.mp hliteral⟩
  · rintro ⟨body, flags, h⟩
    simp [h.stripQuotes_eq, regexLiteral?_eq_some_iff.mpr h]

/-- The pattern of a literal is its body, behind its flags if there are any. -/
theorem source_readParse (h : IsLiteral (writtenPattern rest) body flags) :
    (readParse rest).source = literalSource body flags := by
  have hregex := (isRegex_readParse_iff rest).mpr ⟨body, flags, h⟩
  obtain ⟨field, names, hread⟩ := exists_readParse_eq rest
  have hpattern : (readParse rest).pattern.toList = writtenPattern rest := by
    rw [hread, h.stripQuotes_eq, String.toList_ofList]
  rw [Extraction.source, if_pos hregex, hpattern, regexLiteral?_eq_some_iff.mpr h, literalSource]
  cases flags <;> rfl

/-! ### Stages -/

variable {stage : List Char} {query : String}

theorem readStage_eq_parse {e : Extraction} (h : readStage stage = .ok (.parse e)) :
    readParse (behindWord stage) = e ∧ ∃ p, e.compile = .ok p := by
  rw [readStage_eq] at h
  unfold readArguments at h
  split at h
  case h_6 =>
    dsimp only at h
    split at h
    next p hp =>
      obtain rfl := Command.parse.inj (Except.ok.inj h)
      exact ⟨rfl, p, hp⟩
    · cases h
  all_goals cases h

theorem isRegex_iff_of_readStage {e : Extraction} (h : readStage stage = .ok (.parse e)) :
    e.isRegex = true ↔
      ∃ written body flags, WritesPattern (behindWord stage) written ∧
        IsLiteral written body flags := by
  rw [← (readStage_eq_parse h).1, isRegex_readParse_iff]
  constructor
  · rintro ⟨body, flags, hliteral⟩
    exact ⟨_, body, flags, writesPattern_iff.mpr rfl, hliteral⟩
  · rintro ⟨written, body, flags, hwritten, hliteral⟩
    exact ⟨body, flags, (writesPattern_iff.mp hwritten).symm ▸ hliteral⟩

/-- Refused literals are the stages that are refused and no globs. -/
theorem isRefusedLiteral_iff :
    IsRefusedLiteral stage ↔ ∃ e cause, IsRefused stage e cause ∧ e.isRegex = true := by
  constructor
  · rintro ⟨hword, hwritten, hliteral, hcause⟩
    rw [← writesPattern_iff.mp hwritten] at hliteral
    exact ⟨_, _, ⟨hword, rfl, source_readParse hliteral ▸ hcause⟩,
      (isRegex_readParse_iff _).mpr ⟨_, _, hliteral⟩⟩
  · rintro ⟨e, cause, hrefused, hregex⟩
    obtain ⟨hword, rfl, hcause⟩ := hrefused
    obtain ⟨body, flags, hliteral⟩ := (isRegex_readParse_iff _).mp hregex
    rw [source_readParse hliteral] at hcause
    exact .refused hword (writesPattern_iff.mpr rfl) hliteral hcause

/-- A stage is refused for its literal, unless its glob is too big. -/
theorem IsRefused.isRegex {e : Extraction} {cause : Pattern.Refusal} (h : IsRefused stage e cause)
    (hfits : ∀ e, e.isRegex = false → ¬ IsRefused stage e .tooBig) : e.isRegex = true := by
  by_contra hregex
  have hglob : e.isRegex = false := by simpa using hregex
  have hpattern : Pattern.compile e.source ≠ .error .tooBig :=
    fun htooBig => hfits e hglob ⟨h.word, h.arguments, htooBig⟩
  obtain ⟨p, hp⟩ := Extraction.exists_compile hglob hpattern
  simp [Extraction.compile, h.pattern] at hp

/-! ### Queries -/

theorem error_eq_internal_iff
    (hfits : ∀ stage ∈ stages query.toList, ∀ e : Extraction, e.isRegex = false →
      ¬ IsRefused stage e .tooBig) :
    (∃ text, (compile query).error = some (.internal text)) ↔
      ∃ before stage after commands, stages query.toList = before ++ stage :: after ∧
        Reads before commands ∧ IsRefusedLiteral stage := by
  constructor
  · rintro ⟨text, htext⟩
    cases houtcome : compile query with
    | mk commands error =>
    have h := compile_eq_iff.mp houtcome
    rw [houtcome] at htext
    cases h with
    | empty => simp at htext
    | complete => simp at htext
    | unknown => simp at htext
    | @refused before after stage commands e cause hstages hbefore hrefused =>
      have hregex := hrefused.isRegex (hfits stage (by simp [hstages]))
      exact ⟨before, stage, after, commands, hstages, hbefore,
        isRefusedLiteral_iff.mpr ⟨e, cause, hrefused, hregex⟩⟩
  · rintro ⟨before, stage, after, commands, hstages, hbefore, hliteral⟩
    obtain ⟨e, cause, hrefused, -⟩ := isRefusedLiteral_iff.mp hliteral
    exact ⟨_, by rw [compile_eq_iff.mpr (.refused hstages hbefore hrefused)]⟩

theorem Reads.exists_stage {stages : List (List Char)} {commands : List Command}
    (h : Reads stages commands) {c : Command} (hc : c ∈ commands) :
    ∃ stage ∈ stages, readStage stage = .ok c := by
  induction h with
  | nil => cases hc
  | @cons stage _ stages commands hread _ ih =>
    rcases List.mem_cons.mp hc with rfl | hc
    · exact ⟨stage, by simp, hread⟩
    · obtain ⟨stage', hstage', hread'⟩ := ih hc
      exact ⟨stage', by simp [hstage'], hread'⟩

theorem Extraction.exists_extract {e : Extraction} {p : Pattern} (h : e.compile = .ok p)
    (text : String) : ∃ values, e.extract text = .ok values := by
  rw [extract, h, ok_bind]
  cases p.find? text.toList with
  | none => exact ⟨_, rfl⟩
  | some m => exact ⟨_, rfl⟩

/-- What has been compiled can be applied to any text. -/
theorem exists_extract_of_compile (h : (compile query).error = none) {e : Extraction}
    (he : .parse e ∈ (compile query).commands) (text : String) :
    ∃ values, e.extract text = .ok values := by
  cases houtcome : compile query with
  | mk commands error =>
  rw [houtcome] at h he
  obtain rfl : error = none := h
  cases compile_eq_iff.mp houtcome with
  | complete hblank hreads =>
    obtain ⟨stage, -, hstage⟩ := Reads.exists_stage hreads he
    obtain ⟨p, hp⟩ := (readStage_eq_parse hstage).2
    exact Extraction.exists_extract hp text

/-- A glob has a pattern unless it is too big. The pattern of a stage is taken for more than a glob
if it is written as a literal. So the only internal errors are those of refused literals, and
extractions of a query without error apply to all texts. -/
theorem extraction_failures :
    (∀ e : Extraction, e.isRegex = false → Pattern.compile e.source ≠ .error .tooBig →
      ∃ p, e.compile = .ok p) ∧
    (∀ stage e, readStage stage = .ok (.parse e) →
      (e.isRegex = true ↔ ∃ written body flags, WritesPattern (behindWord stage) written ∧
        IsLiteral written body flags)) ∧
    (∀ query : String, (∀ stage ∈ stages query.toList, ∀ e : Extraction, e.isRegex = false →
        ¬ IsRefused stage e .tooBig) →
      ((∃ text, (compile query).error = some (.internal text)) ↔
        ∃ before stage after commands, stages query.toList = before ++ stage :: after ∧
          Reads before commands ∧ IsRefusedLiteral stage)) ∧
    (∀ query, (compile query).error = none → ∀ e, .parse e ∈ (compile query).commands →
      ∀ text, ∃ values, e.extract text = .ok values) :=
  ⟨fun _ => Extraction.exists_compile, fun _ _ => isRegex_iff_of_readStage,
    fun _ => error_eq_internal_iff, fun _ h _ => exists_extract_of_compile h⟩

/-- In quotation marks an open group is a glob and can be applied, without them it is refused. -/
theorem extraction_failures_group :
    (∃ p, Extraction.compile ⟨"m", "/(/", "x", false⟩ = .ok p) ∧
    (¬ ∃ written body flags, WritesPattern (behindWord "parse m '/(/' as x".toList) written ∧
      IsLiteral written body flags) ∧
    (∃ text, (compile "parse m '/(/' as x | parse m /(/i").error = some (.internal text)) ∧
    ∀ text, ∃ values, Extraction.extract ⟨"m", "/(/", "x", false⟩ text = .ok values := by
  obtain ⟨hglob, hwritten, hinternal, hextract⟩ := extraction_failures
  have hstage : readStage "parse m '/(/' as x".toList = .ok (.parse ⟨"m", "/(/", "x", false⟩) :=
    rfl
  have hquery : compile "parse m '/(/' as x" = ⟨[.parse ⟨"m", "/(/", "x", false⟩], none⟩ := by
    have hstages : stages "parse m '/(/' as x".toList = ["parse m '/(/' as x".toList] := by decide
    refine Outcome.compile_eq (.complete (by decide) ?_)
    rw [hstages]
    exact .cons hstage .nil
  refine ⟨hglob _ rfl (by decide), ?quoted, ?internal, ?extract⟩
  case quoted =>
    rw [← hwritten _ _ hstage]
    decide
  case internal =>
    have hstages : stages "parse m '/(/' as x | parse m /(/i".toList =
        ["parse m '/(/' as x".toList, "parse m /(/i".toList] := by decide
    have hpattern : WritesPattern (behindWord "parse m /(/i".toList) "/(/i".toList :=
      writesPattern_iff.mpr (by decide)
    have hliteral : IsLiteral "/(/i".toList ['('] ['i'] := ⟨by decide, by simp⟩
    have hnot : (Pattern.compile (literalSource ['('] ['i'])).isOk = false := by decide
    obtain ⟨cause, hcause⟩ := exists_error hnot
    refine (hinternal _ fun stage hmem e hregex hrefused => ?_).mpr
      ⟨["parse m '/(/' as x".toList], "parse m /(/i".toList, [], _, hstages, .cons hstage .nil,
        .refused (by decide) hpattern hliteral hcause⟩
    rw [hstages] at hmem
    simp only [List.mem_cons, List.not_mem_nil, or_false] at hmem
    rcases hmem with rfl | rfl
    · rw [readStage_of_refused hrefused] at hstage
      cases hstage
    · rw [← hrefused.arguments] at hregex
      exact absurd hregex (by decide)
  case extract =>
    exact hextract "parse m '/(/' as x" (by rw [hquery]) _ (by simp [hquery])

end Logbook.Query
