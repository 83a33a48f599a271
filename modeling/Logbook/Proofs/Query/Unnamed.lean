import Logbook.Proofs.Query.Literal

/-! Extractions written without names. What stands for names is looked for before the quotation marks
are, so a pattern that holds the words in front of names loses what is behind them. -/

namespace Logbook.Query

open Text

variable {field pattern : String}

/-- No mark reaches over a quotation mark, and the field has no space to begin one. -/
theorem as_infix_unnamed_iff (hfield : IsWord field) :
    " as ".toList <:+: unnamedArguments field pattern ↔ " as ".toList <:+: pattern.toList := by
  have hquote : '"' ∉ " as ".toList := by decide
  have hsplit : unnamedArguments field pattern =
      (field.toList ++ [' ']) ++ '"' :: (pattern.toList ++ '"' :: []) := by
    simp [unnamedArguments, Command.inQuotes]
  have hfront : ¬ " as ".toList <:+: field.toList ++ [' '] := by
    have hsep : " as ".toList = ' ' :: "as ".toList := rfl
    rw [hsep, infix_append_iff_of_notMem (hfield.notMem isBlank_space)]
    exact fun h => absurd h.length_le (by decide)
  have hnil : ¬ " as ".toList <:+: [] := by decide
  rw [hsplit, infix_append_cons_iff_of_notMem hquote, infix_append_cons_iff_of_notMem hquote]
  simp only [hfront, hnil, false_or, or_false]

theorem namesPart_unnamed (hfield : IsWord field) :
    namesPart (unnamedArguments field pattern) = [] ↔ ¬ " as ".toList <:+: pattern.toList := by
  rw [← as_infix_unnamed_iff hfield, ← cutLast?_eq_none_iff (by decide), namesPart]
  cases hcut : cutLast? " as ".toList (unnamedArguments field pattern) with
  | none => simp
  | some parts =>
    obtain ⟨main, names⟩ := parts
    -- the quotation mark at the end belongs to the names
    have hmem : '"' ∈ names := by
      have hsep : " as ".toList = " as".toList ++ [' '] := rfl
      have hcons : " as ".toList = ' ' :: "as ".toList := rfl
      have harguments := (cutLast?_eq_some_iff.mp (hcons ▸ hcut)).1
      have hend : (field.toList ++ ' ' :: '"' :: pattern.toList) ++ ['"'] =
          main ++ (" as ".toList ++ names) := by
        simpa [unnamedArguments, Command.inQuotes] using harguments
      rcases names.eq_nil_or_concat with rfl | ⟨init, c, rfl⟩
      · rw [List.append_nil, hsep, ← List.append_assoc] at hend
        exact absurd (List.append_inj' hend rfl).2 (by decide)
      · rw [List.concat_eq_append, ← List.append_assoc, ← List.append_assoc] at hend
        have hc : ['"'] = [c] := (List.append_inj' hend rfl).2
        simp [← hc]
    have hblank : isBlank '"' = false := by decide
    have hne : trim names ≠ [] := by
      rw [Ne, trim_eq_nil_iff]
      intro hall
      rw [hall _ hmem] at hblank
      cases hblank
    simpa using hne

theorem readParse_unnamed_iff (hfield : IsWord field) :
    readParse (unnamedArguments field pattern) = ⟨field, pattern, "", false⟩ ↔
      ¬ " as ".toList <:+: pattern.toList := by
  rw [← namesPart_unnamed hfield]
  constructor
  · intro hread
    have hnames := congrArg Extraction.nameList hread
    rw [readParse_eq] at hnames
    cases hcut : cutAt? (· == ' ') (mainPart (unnamedArguments field pattern)) <;>
      simpa [hcut] using hnames
  · intro hnames
    have has := (namesPart_unnamed hfield).mp hnames
    have hmain : mainPart (unnamedArguments field pattern) = unnamedArguments field pattern := by
      rw [mainPart, (cutLast?_eq_none_iff (by decide) _).mpr (mt (as_infix_unnamed_iff hfield).mp has)]
    rw [readParse_quoted hfield hmain, hnames]

theorem stages_unnamedQuery (hfield : IsWord field) (hfieldBar : '|' ∉ field.toList)
    (hpatternBar : '|' ∉ pattern.toList) : stages (unnamedQuery field pattern).toList =
      ["parse".toList ++ ' ' :: unnamedArguments field pattern] := by
  have hbar : '|' ∉ "parse".toList ++ ' ' :: unnamedArguments field pattern := by
    have hword : '|' ∉ "parse".toList := by decide
    have harguments : '|' ∉ ' ' :: unnamedArguments field pattern := by
      simp [unnamedArguments, Command.inQuotes, hfieldBar, hpatternBar]
    exact fun hmem => (List.mem_append.mp hmem).elim hword harguments
  obtain ⟨hword, -⟩ := keyword_word "parse" (by simp [keywords])
  have harguments : IsTrimmed (unnamedArguments field pattern) :=
    isTrimmed_field_inQuotes hfield pattern
  have htrim : IsTrimmed ("parse".toList ++ [' '] ++ unnamedArguments field pattern) :=
    hword.isTrimmed.append harguments (toList_ne_nil hword.nonempty) (by simp [unnamedArguments]) [' ']
  rw [List.append_assoc, List.singleton_append] at htrim
  have hne : "parse".toList ++ ' ' :: unnamedArguments field pattern ≠ [] :=
    List.append_ne_nil_of_right_ne_nil _ (List.cons_ne_nil _ _)
  have hchars : (unnamedQuery field pattern).toList =
      "parse".toList ++ ' ' :: unnamedArguments field pattern := String.toList_ofList
  rw [stages, hchars, pieces_of_notMem hbar, show trim _ = _ from htrim, if_neg hne]

/-- A stage of its own: the query is what the stage is. -/
theorem compile_eq_single_iff {query : String} {stage : List Char} {c : Command}
    (hstages : stages query.toList = [stage]) :
    compile query = ⟨[c], none⟩ ↔ readStage stage = .ok c := by
  have hsplit : stages query.toList = [] ++ stage :: [] := hstages
  have hblank : ¬ IsBlankText query := not_isBlankText_of_stages hsplit
  rw [compile_of_not_blank hblank, hstages]
  cases hread : readStage stage with
  | ok c' => simp [readStages, hread]
  | error err => cases err <;> simp [readStages, hread]

theorem readStage_unnamed (field pattern : String) :
    readStage ("parse".toList ++ ' ' :: unnamedArguments field pattern) =
      readArguments "parse" (trim (unnamedArguments field pattern)) := by
  obtain ⟨hword, hlower⟩ := keyword_word "parse" (by simp [keywords])
  have hcut := cutAt?_append_cons (p := isBlank) (c := ' ') "parse".toList
    (unnamedArguments field pattern) hword.noBlank isBlank_space
  rw [readStage, cutKeyword, hcut]
  exact congrArg (readArguments · _) hlower

/-- A quoted pattern without names is read whole just if the words in front of names do not stand in
it, and its glob is not too big. -/
theorem compile_unnamed_iff (hfield : IsWord field) (hfieldBar : '|' ∉ field.toList)
    (hpatternBar : '|' ∉ pattern.toList) :
    compile (unnamedQuery field pattern) = ⟨[.parse ⟨field, pattern, "", false⟩], none⟩ ↔
      ¬ " as ".toList <:+: pattern.toList ∧
        Pattern.compile (Extraction.source ⟨field, pattern, "", false⟩) ≠ .error .tooBig := by
  have htrim : trim (unnamedArguments field pattern) = unnamedArguments field pattern :=
    isTrimmed_field_inQuotes hfield pattern
  rw [compile_eq_single_iff (stages_unnamedQuery hfield hfieldBar hpatternBar), readStage_unnamed,
    htrim, readArguments_parse, ← readParse_unnamed_iff hfield]
  constructor
  · intro hread
    cases hcompile : (readParse (unnamedArguments field pattern)).compile with
    | error err => simp [hcompile] at hread
    | ok p =>
      have he : readParse (unnamedArguments field pattern) = ⟨field, pattern, "", false⟩ := by
        simpa [hcompile] using hread
      refine ⟨he, fun htooBig => ?_⟩
      simp [he, Extraction.compile, htooBig] at hcompile
  · rintro ⟨he, hfits⟩
    obtain ⟨p, hp⟩ := Extraction.exists_compile rfl hfits
    rw [he, hp]

/-- The words at the end of a pattern do no harm, a space behind them does. -/
theorem compile_unnamed_words :
    compile (unnamedQuery "m" "user \"*\" as") =
        ⟨[.parse ⟨"m", "user \"*\" as", "", false⟩], none⟩ ∧
      compile (unnamedQuery "m" "logged in as *") ≠
        ⟨[.parse ⟨"m", "logged in as *", "", false⟩], none⟩ := by
  have hfield : IsWord "m" := by decide
  refine ⟨(compile_unnamed_iff hfield (by decide) (by decide)).mpr ⟨by decide, by decide⟩, ?_⟩
  exact fun h => ((compile_unnamed_iff hfield (by decide) (by decide)).mp h).1 (by decide)

end Logbook.Query
