import Logbook.Proofs.Pattern.Ways
import Logbook.Query.Glob

/-! All fillings with which a glob stands at the start of a text, one after the other: each precedes
those behind it, so the first of them is the one to choose. -/

namespace Logbook.Query.Glob

open Pattern (CharSet)

variable {pieces fills others : List (List Char)} {p q c d text : List Char}

/-- A text for each star is followed by the fillings of the rest; the last star begins with the
longest text, every other with the shortest. -/
def fillings : List (List Char) → List Char → List (List (List Char))
  | [], _ => []
  | [last], text => if last <+: text then [[]] else []
  | p :: q :: more, text =>
    if p <+: text then
      ((CharSet.complement (.just '\n')).runs more.isEmpty (text.drop p.length)).flatMap fun c =>
        (fillings (q :: more) ((text.drop p.length).drop c.length)).map (c :: ·)
    else []

/-! ### Which fillings there are -/

theorem not_stands_nil : ¬ Stands [] fills text :=
  fun h => Nat.succ_ne_zero _ h.1.length_eq

theorem stands_singleton_iff : Stands [p] fills text ↔ fills = [] ∧ p <+: text := by
  constructor
  · rintro ⟨⟨hlength, -⟩, hstands⟩
    obtain rfl : fills = [] := by simpa using hlength
    exact ⟨rfl, hstands⟩
  · rintro ⟨rfl, hstands⟩
    exact ⟨⟨rfl, by simp⟩, hstands⟩

theorem stands_cons_cons_iff {more : List (List Char)} : Stands (p :: q :: more) fills text ↔
    p <+: text ∧ ∃ c fills', c :: fills' = fills ∧ c <+: text.drop p.length ∧ '\n' ∉ c ∧
      Stands (q :: more) fills' ((text.drop p.length).drop c.length) := by
  constructor
  · rintro ⟨⟨hlength, hline⟩, later, rfl⟩
    cases fills with
    | nil => simp at hlength
    | cons c fills =>
      obtain ⟨hc, hfills⟩ := List.forall_mem_cons.mp hline
      have hfilling : IsFilling (q :: more) fills := ⟨by simpa using hlength, hfills⟩
      exact ⟨by simp [fill], c, fills, rfl, by simp [fill], hc, hfilling, by simp [fill]⟩
  · rintro ⟨⟨behind, rfl⟩, c, fills, rfl, hbegins, hc, ⟨hlength, hline⟩, hstands⟩
    rw [List.drop_left] at hbegins hstands
    obtain ⟨later, rfl⟩ := hbegins
    rw [List.drop_left] at hstands
    refine ⟨⟨by simpa using hlength, List.forall_mem_cons.mpr ⟨hc, hline⟩⟩, ?_⟩
    simpa [fill, List.prefix_append_right_inj] using hstands

theorem mem_fillings_iff : fills ∈ fillings pieces text ↔ Stands pieces fills text := by
  have hline (w : List Char) :
      (∀ c ∈ w, (CharSet.complement (.just '\n')).has c = true) ↔ '\n' ∉ w := by
    simp only [CharSet.has_complement_just_iff]
    exact ⟨fun h hmem => h _ hmem rfl, fun h c hc heq => h (heq ▸ hc)⟩
  fun_induction fillings pieces text generalizing fills with
  | case1 => simp [not_stands_nil]
  | case2 last text h => simp [stands_singleton_iff, h]
  | case3 last text h => simp [stands_singleton_iff, h]
  | case4 p q more text h ih =>
    simp only [stands_cons_cons_iff, h, true_and, List.mem_flatMap, List.mem_map,
      CharSet.mem_runs_iff, hline, ih]
    constructor
    · rintro ⟨c, ⟨hbegins, hc⟩, fills, hstands, rfl⟩
      exact ⟨c, fills, rfl, hbegins, hc, hstands⟩
    · rintro ⟨c, fills, rfl, hbegins, hc, hstands⟩
      exact ⟨c, ⟨hbegins, hc⟩, fills, hstands, rfl⟩
  | case5 p q more text h => simp [stands_cons_cons_iff, h]

/-! ### In which order they come -/

theorem Precedes.cons (h : Precedes fills others) (c : List Char) :
    Precedes (c :: fills) (c :: others) := by
  cases fills <;> cases others <;> simp_all [Precedes]

theorem precedes_of_lt (hfills : fills ≠ []) (hothers : others ≠ []) (h : c.length < d.length) :
    Precedes (c :: fills) (d :: others) := by
  obtain ⟨x, fills, rfl⟩ := List.exists_cons_of_ne_nil hfills
  obtain ⟨y, others, rfl⟩ := List.exists_cons_of_ne_nil hothers
  exact .inl (List.cons_lt_cons_iff.mpr (.inl h))

theorem precedes_singleton (h : d.length < c.length) : Precedes [c] [d] :=
  .inr ⟨rfl, c, rfl, d, rfl, h⟩

theorem pairwise_fillings : (fillings pieces text).Pairwise Precedes := by
  fun_induction fillings pieces text with
  | case1 | case3 | case5 => exact .nil
  | case2 => exact List.pairwise_singleton _ _
  | case4 p q more text h ih =>
    have hlength {c : List Char} {fills : List (List Char)}
        (hf : fills ∈ fillings (q :: more) ((text.drop p.length).drop c.length)) :
        fills.length = more.length := by
      simpa using (mem_fillings_iff.mp hf).1.length_eq
    refine List.pairwise_flatMap.mpr ⟨fun c _ => ?_, CharSet.pairwise_runs.imp fun {c d} hcd => ?_⟩
    · exact List.pairwise_map.mpr ((ih c).imp fun h => h.cons c)
    · simp only [List.forall_mem_map]
      intro fills hfills others hothers
      cases more with
      | nil =>
        obtain rfl := List.eq_nil_of_length_eq_zero (hlength hfills)
        obtain rfl := List.eq_nil_of_length_eq_zero (hlength hothers)
        exact precedes_singleton (by simpa using hcd)
      | cons r more =>
        exact precedes_of_lt (List.ne_nil_of_length_eq_add_one (hlength hfills))
          (List.ne_nil_of_length_eq_add_one (hlength hothers)) (by simpa using hcd)

theorem first_of_head? (h : (fillings pieces text).head? = some fills) :
    Stands pieces fills text ∧
      ∀ others, Stands pieces others text → others ≠ fills → Precedes fills others := by
  obtain ⟨rest, hrest⟩ := List.head?_eq_some_iff.mp h
  have hpairwise : (fills :: rest).Pairwise Precedes := hrest ▸ pairwise_fillings
  refine ⟨mem_fillings_iff.mp (by simp [hrest]), fun others hothers hne => ?_⟩
  have hmem : others ∈ fills :: rest := hrest ▸ mem_fillings_iff.mpr hothers
  exact List.rel_of_pairwise_cons hpairwise ((List.mem_cons.mp hmem).resolve_left hne)

/-! ### Where the last text ends -/

theorem fill_extend (hlength : fills.length + 2 = pieces.length)
    (hlast : pieces.getLast? = some []) :
    fill pieces (fills ++ [c ++ d]) = fill pieces (fills ++ [c]) ++ d := by
  induction fills generalizing pieces with
  | nil =>
    obtain ⟨p, q, rfl⟩ := List.length_eq_two.mp hlength.symm
    obtain rfl : q = [] := by simpa using hlast
    simp [fill]
  | cons x fills ih =>
    obtain ⟨p, pieces, rfl⟩ := List.exists_cons_of_length_eq_add_one hlength.symm
    have hne : pieces ≠ [] := by
      rintro rfl
      simp at hlength
    rw [List.getLast?_cons_of_ne_nil hne] at hlast
    simp [fill, ih (by simpa using hlength) hlast]

/-- Behind a last star there is nothing left of the line. -/
theorem ends_line (hstands : Stands pieces fills text)
    (hfirst : ∀ others, Stands pieces others text → others ≠ fills → Precedes fills others)
    (hne : fills ≠ []) (hlast : pieces.getLast? = some []) :
    ∀ c ∈ (text.drop (fill pieces fills).length).head?, c = '\n' := by
  intro c hc
  by_contra hline
  obtain ⟨before, x, rfl⟩ := List.eq_nil_or_concat' fills |>.resolve_left hne
  obtain ⟨⟨hlength, hlines⟩, later, rfl⟩ := hstands
  rw [List.drop_left] at hc
  obtain ⟨later, rfl⟩ := List.head?_eq_some_iff.mp hc
  -- the last text could take the next character as well
  have hlonger : fill pieces (before ++ [x ++ [c]]) = fill pieces (before ++ [x]) ++ [c] :=
    fill_extend (by simpa using hlength) hlast
  have hfilling : IsFilling pieces (before ++ [x ++ [c]]) := by
    refine ⟨by simpa using hlength, ?_⟩
    simp only [List.forall_mem_append, List.forall_mem_singleton] at hlines ⊢
    exact ⟨hlines.1, by simpa [hlines.2] using Ne.symm hline⟩
  have hprecedes := hfirst _ ⟨hfilling, by simp [hlonger]⟩ (by simp)
  rcases hprecedes with hlt | ⟨-, y, hy, z, hz, hlt⟩
  · rw [List.dropLast_concat, List.dropLast_concat] at hlt
    exact List.lt_irrefl (before.map List.length) hlt
  · rw [List.getLast?_concat] at hy hz
    obtain rfl := Option.some.inj hy
    obtain rfl := Option.some.inj hz
    rw [List.length_append] at hlt
    omega

theorem occurs_iff : Occurs pieces text ↔ ∃ n fills, Stands pieces fills (text.drop n) := by
  constructor
  · rintro ⟨fills, hfilling, before, later, rfl⟩
    exact ⟨before.length, fills, hfilling, later, by simp⟩
  · rintro ⟨n, fills, hfilling, hstands⟩
    exact ⟨fills, hfilling, hstands.isInfix.trans (List.drop_suffix n text).isInfix⟩

end Logbook.Query.Glob
