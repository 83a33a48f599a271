import Logbook.Proofs.Query.Pipeline
import Logbook.Query.Outcome

/-! A bar is concatenation. Results that follow one another are put together associatively, reading
stages respects this, and the stages of two texts around a bar are those of the one and then those
of the other. -/

namespace Logbook.Query

open Text

namespace Parsed

theorem followedBy_assoc (p q r : Parsed) :
    (p.followedBy q).followedBy r = p.followedBy (q.followedBy r) := by
  obtain ⟨commands, _ | err⟩ := p
  · obtain ⟨commands', _ | err'⟩ := q
    · obtain ⟨commands'', _ | err''⟩ := r
      · simp [followedBy]
      · cases err'' <;> simp [followedBy]
    · cases err' <;> simp [followedBy]
  · simp [followedBy]

theorem followedBy_nil (p : Parsed) : p.followedBy ⟨[], none⟩ = p := by
  obtain ⟨commands, _ | err⟩ := p <;> simp [followedBy]

end Parsed

/-! ### Stages -/

/-- The result of a stage that cannot be read. -/
def Error.stopped : Error → Parsed
  | unknownCommand keyword => ⟨[], some (.unknownCommand keyword)⟩
  | err => ⟨[], some (.internal err.message)⟩

theorem Error.stopped_followedBy (err : Error) (q : Parsed) :
    err.stopped.followedBy q = err.stopped := by
  cases err <;> rfl

variable {stage : List Char}

theorem readStages_ok {c : Command} (h : readStage stage = .ok c) (done : List Command)
    (rest : List (List Char)) : readStages done (stage :: rest) = readStages (c :: done) rest := by
  rw [readStages, h]

/-- What follows a stage with an error is not read. -/
theorem readStages_error {err : Error} (h : readStage stage = .error err) (done : List Command)
    (rest : List (List Char)) :
    readStages done (stage :: rest) = (Parsed.mk done.reverse none).followedBy err.stopped := by
  rw [readStages, h]
  cases err <;> simp [Parsed.followedBy, Error.stopped]

theorem readStages_done (done : List Command) (stages : List (List Char)) :
    readStages done stages = (Parsed.mk done.reverse none).followedBy (readStages [] stages) := by
  induction stages generalizing done with
  | nil => simp [readStages, Parsed.followedBy]
  | cons stage stages ih =>
    cases h : readStage stage with
    | ok c =>
      calc
        readStages done (stage :: stages)
            = (Parsed.mk (c :: done).reverse none).followedBy (readStages [] stages) := by
              rw [readStages_ok h, ih]
        _ = ((Parsed.mk done.reverse none).followedBy ⟨[c], none⟩).followedBy
              (readStages [] stages) := by simp [Parsed.followedBy]
        _ = (Parsed.mk done.reverse none).followedBy (readStages [] (stage :: stages)) := by
              rw [Parsed.followedBy_assoc, readStages_ok h, ih [c]]
              rfl
    | error err =>
      rw [readStages_error h, readStages_error h, List.reverse_nil, ← Parsed.followedBy_assoc,
        Parsed.followedBy_nil]

/-- Reading goes on where it was left, if there was no error. -/
theorem readStages_append (a b : List (List Char)) :
    readStages [] (a ++ b) = (readStages [] a).followedBy (readStages [] b) := by
  induction a with
  | nil => exact readStages_done [] b
  | cons stage a ih =>
    cases h : readStage stage with
    | ok c =>
      rw [List.cons_append, readStages_ok h, readStages_ok h, readStages_done [c], ih,
        readStages_done [c] a, Parsed.followedBy_assoc]
    | error err =>
      rw [List.cons_append, readStages_error h, readStages_error h, Parsed.followedBy_assoc,
        err.stopped_followedBy]

/-! ### Texts -/

theorem isBlank_bar : isBlank '|' = false := by decide

theorem isBlankText_iff {query : String} : IsBlankText query ↔ (trim query.toList).isEmpty := by
  rw [List.isEmpty_iff, trim_eq_nil_iff, IsBlankText]

theorem compile_blank {query : String} (h : IsBlankText query) :
    compile query = ⟨[], some .empty⟩ := by
  rw [compile, if_pos (isBlankText_iff.mp h)]

theorem compile_of_not_blank {query : String} (h : ¬ IsBlankText query) :
    compile query = readStages [] (stages query.toList) := by
  rw [compile, if_neg (mt isBlankText_iff.mpr h)]

theorem stages_of_blank {query : String} (h : IsBlankText query) : stages query.toList = [] :=
  (pieces_eq_nil_iff isBlank_bar).mpr fun c hc => .inl (h c hc)

theorem part_eq (query : String) : part query = readStages [] (stages query.toList) := by
  by_cases h : IsBlankText query
  · rw [part, if_pos h, stages_of_blank h, readStages]
    rfl
  · rw [part, if_neg h, compile_of_not_blank h]

theorem not_isBlankText_of_bar {query : String} (h : '|' ∈ query.toList) :
    ¬ IsBlankText query := by
  intro hblank
  exact notMem_of_blank isBlank_bar hblank h

theorem compile_congr {query query' : String} (h : ¬ IsBlankText query) (h' : ¬ IsBlankText query')
    (hstages : stages query.toList = stages query'.toList) : compile query = compile query' := by
  rw [compile_of_not_blank h, compile_of_not_blank h', hstages]

theorem compile_append_bar (first second : String) :
    compile (first ++ "|" ++ second) = (part first).followedBy (part second) := by
  have hbar : ¬ IsBlankText (first ++ "|" ++ second) := not_isBlankText_of_bar (by simp)
  have hstages : stages (first ++ "|" ++ second).toList =
      stages first.toList ++ stages second.toList := by
    simpa [stages] using pieces_append_cons '|' first.toList second.toList
  rw [compile_of_not_blank hbar, hstages, readStages_append, part_eq, part_eq]

/-! ### Margins -/

variable {margin₁ margin₂ : String}

theorem stages_margins (h₁ : IsMargin '|' margin₁.toList) (h₂ : IsMargin '|' margin₂.toList)
    (query : String) : stages (margin₁ ++ query ++ margin₂).toList = stages query.toList := by
  rw [String.toList_append, String.toList_append, stages, h₂.append_pieces isBlank_bar,
    h₁.pieces_append isBlank_bar, stages]

theorem part_margins (h₁ : IsMargin '|' margin₁.toList) (h₂ : IsMargin '|' margin₂.toList)
    (query : String) : part (margin₁ ++ query ++ margin₂) = part query := by
  rw [part_eq, stages_margins h₁ h₂, part_eq]

theorem compile_margins (h₁ : IsMargin '|' margin₁.toList) (h₂ : IsMargin '|' margin₂.toList)
    {query : String} (h : ¬ IsBlankText query) :
    compile (margin₁ ++ query ++ margin₂) = compile query := by
  apply compile_congr _ h (stages_margins h₁ h₂ query)
  intro hblank
  exact h fun c hc => hblank c (by simp [hc])

/-- With a bar in a margin, a blank text is no longer empty. -/
theorem compile_blank_margins (h₁ : IsMargin '|' margin₁.toList)
    (h₂ : IsMargin '|' margin₂.toList) (hbar : '|' ∈ (margin₁ ++ margin₂).toList) {query : String}
    (h : IsBlankText query) : compile (margin₁ ++ query ++ margin₂) = ⟨[], none⟩ := by
  have hmem : '|' ∈ (margin₁ ++ query ++ margin₂).toList := by
    rw [String.toList_append, List.mem_append] at hbar
    rcases hbar with hm | hm <;> simp [hm]
  have hpart := part_margins h₁ h₂ query
  rwa [part, if_neg (not_isBlankText_of_bar hmem), part, if_pos h] at hpart

/-- A bar puts the results of two texts one behind the other. So margins of white space and bars
change nothing around a bar and around a text that is not blank; a blank text is an error by itself
and has no commands in a margin with a bar. -/
theorem compile_bar (first second : String) :
    compile (first ++ "|" ++ second) = (part first).followedBy (part second) ∧
      ∀ margin₁ margin₂ : String, IsMargin '|' margin₁.toList → IsMargin '|' margin₂.toList →
        compile (first ++ margin₁ ++ "|" ++ margin₂ ++ second) =
            compile (first ++ "|" ++ second) ∧
          (¬ IsBlankText first → compile (margin₁ ++ first ++ margin₂) = compile first) ∧
          (IsBlankText first → compile first = ⟨[], some .empty⟩ ∧
            ('|' ∈ (margin₁ ++ margin₂).toList →
              compile (margin₁ ++ first ++ margin₂) = ⟨[], none⟩)) := by
  refine ⟨compile_append_bar first second, fun margin₁ margin₂ h₁ h₂ => ⟨?_, ?_, ?_⟩⟩
  · have hnone : IsMargin '|' "".toList := by simp [IsMargin]
    have hfirst : part (first ++ margin₁) = part first := by
      simpa using part_margins hnone h₁ first
    have hsecond : part (margin₂ ++ second) = part second := by
      simpa using part_margins h₂ hnone second
    have hassoc : first ++ margin₁ ++ "|" ++ margin₂ ++ second =
        (first ++ margin₁) ++ "|" ++ (margin₂ ++ second) := String.append_assoc
    rw [hassoc, compile_append_bar, hfirst, hsecond, compile_append_bar]
  · exact compile_margins h₁ h₂
  · exact fun h => ⟨compile_blank h, fun hbar => compile_blank_margins h₁ h₂ hbar h⟩

/-- An unknown command behind a bar and in margins, and a margin that is all there is. -/
theorem compile_bar_sample :
    compile ("limit 5" ++ "|" ++ "bogus x") = ⟨[.limit 5], some (.unknownCommand "bogus")⟩ ∧
      compile ("limit 5" ++ " | " ++ "|" ++ "|\t" ++ "bogus x") =
        ⟨[.limit 5], some (.unknownCommand "bogus")⟩ ∧
      compile ("|" ++ " " ++ "") = ⟨[], none⟩ := by
  obtain ⟨hjoined, hmargins⟩ := compile_bar "limit 5" "bogus x"
  have hvalue : (part "limit 5").followedBy (part "bogus x") =
      ⟨[.limit 5], some (.unknownCommand "bogus")⟩ := by decide
  obtain ⟨hinside, -⟩ := hmargins " | " "|\t" (by decide) (by decide)
  obtain ⟨-, -, hblank⟩ := (compile_bar " " "").2 "|" "" (by decide) (by decide)
  refine ⟨hjoined.trans hvalue, hinside.trans (hjoined.trans hvalue), ?_⟩
  exact (hblank (by decide)).2 (by decide)

end Logbook.Query
