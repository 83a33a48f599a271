import Logbook.Proofs.Text.Blank

/-! The pieces of a text between separators: the items of a list and the stages of a query are
both read in this way. A separator splits the pieces, and margins of white space and separators
add none. Texts that were joined with blank margins around the separator come back trimmed. -/

namespace Logbook.Text

variable {sep : Char}

theorem pieces_append_cons (sep : Char) (a b : List Char) :
    pieces sep (a ++ sep :: b) = pieces sep a ++ pieces sep b := by
  rw [pieces, List.splitOn_append_cons_self, List.map_append, List.filter_append, pieces, pieces]

theorem pieces_of_notMem {s : List Char} (h : sep ∉ s) :
    pieces sep s = if trim s = [] then [] else [trim s] := by
  rw [pieces, List.splitOn_eq_singleton h]
  by_cases ht : trim s = [] <;> simp [ht]

theorem pieces_nil (sep : Char) : pieces sep [] = [] := rfl

theorem subset_intercalate (sep : Char) {texts : List (List Char)} {t : List Char}
    (h : t ∈ texts) : t ⊆ [sep].intercalate texts := by
  induction texts with
  | nil => cases h
  | cons u texts ih =>
    cases texts with
    | nil =>
      obtain rfl := List.mem_singleton.mp h
      simp
    | cons v texts =>
      rw [List.intercalate_cons_cons]
      rcases List.mem_cons.mp h with rfl | h
      · exact fun c hc => by simp [hc]
      · exact fun c hc => by simp [ih h hc]

theorem subset_of_mem_pieces {sep : Char} {s t : List Char} (h : t ∈ pieces sep s) : t ⊆ s := by
  obtain ⟨u, hu, rfl⟩ := List.mem_map.mp (List.mem_of_mem_filter h)
  have hsub := subset_intercalate sep hu
  rw [List.intercalate_splitOn] at hsub
  exact List.Subset.trans (trim_subset u) hsub

/-! ### Margins -/

theorem notMem_of_blank (hsep : isBlank sep = false) {b : List Char}
    (hb : ∀ c ∈ b, isBlank c = true) : sep ∉ b := by
  intro hm
  simp [hb sep hm] at hsep

/-- White space in front belongs to the first piece, where it is trimmed away. -/
theorem pieces_blank_append (hsep : isBlank sep = false) {b : List Char}
    (hb : ∀ c ∈ b, isBlank c = true) (s : List Char) : pieces sep (b ++ s) = pieces sep s := by
  have hn := notMem_of_blank hsep hb
  by_cases hs : sep ∈ s
  · obtain ⟨x, y, rfl, hx⟩ := List.eq_append_cons_of_mem hs
    have hbx : sep ∉ b ++ x := by simp [hn, hx]
    rw [← List.append_assoc, pieces_append_cons, pieces_append_cons, pieces_of_notMem hbx,
      pieces_of_notMem hx, trim_blank_append x hb]
  · have hbs : sep ∉ b ++ s := by simp [hn, hs]
    rw [pieces_of_notMem hbs, pieces_of_notMem hs, trim_blank_append s hb]

theorem exists_last_of_mem {s : List Char} (h : sep ∈ s) :
    ∃ x y, s = x ++ sep :: y ∧ sep ∉ y := by
  obtain ⟨y, x, hs, hy⟩ := List.eq_append_cons_of_mem (List.mem_reverse.mpr h)
  refine ⟨x.reverse, y.reverse, ?_, by simpa using hy⟩
  rw [← List.reverse_reverse s, hs]
  simp

theorem pieces_append_blank (hsep : isBlank sep = false) (s : List Char) {b : List Char}
    (hb : ∀ c ∈ b, isBlank c = true) : pieces sep (s ++ b) = pieces sep s := by
  have hn := notMem_of_blank hsep hb
  by_cases hs : sep ∈ s
  · obtain ⟨x, y, rfl, hy⟩ := exists_last_of_mem hs
    have hyb : sep ∉ y ++ b := by simp [hn, hy]
    rw [List.append_assoc, List.cons_append, pieces_append_cons, pieces_append_cons,
      pieces_of_notMem hyb, pieces_of_notMem hy, trim_append_blank y hb]
  · have hsb : sep ∉ s ++ b := by simp [hn, hs]
    rw [pieces_of_notMem hsb, pieces_of_notMem hs, trim_append_blank s hb]

/-- White space and separators: all pieces are blank. -/
def IsMargin (sep : Char) (m : List Char) : Prop := ∀ c ∈ m, isBlank c = true ∨ c = sep

instance (sep : Char) (m : List Char) : Decidable (IsMargin sep m) :=
  List.decidableBAll _ m

namespace IsMargin

variable {m : List Char}

theorem pieces_append (hsep : isBlank sep = false) (hm : IsMargin sep m) (s : List Char) :
    pieces sep (m ++ s) = pieces sep s := by
  induction m with
  | nil => rfl
  | cons c m ih =>
    obtain ⟨hc, hm⟩ := List.forall_mem_cons.mp hm
    rw [List.cons_append, ← ih hm]
    rcases hc with hc | rfl
    · exact pieces_blank_append hsep (b := [c]) (by simpa using hc) (m ++ s)
    · exact pieces_append_cons c [] (m ++ s)

theorem append_pieces (hsep : isBlank sep = false) (hm : IsMargin sep m) (s : List Char) :
    pieces sep (s ++ m) = pieces sep s := by
  induction m generalizing s with
  | nil => rw [List.append_nil]
  | cons c m ih =>
    obtain ⟨hc, hm⟩ := List.forall_mem_cons.mp hm
    rw [List.append_cons, ih hm]
    rcases hc with hc | rfl
    · exact pieces_append_blank hsep s (by simpa using hc)
    · rw [pieces_append_cons, pieces_nil, List.append_nil]

end IsMargin

theorem isMargin_intercalate (sep : Char) {texts : List (List Char)}
    (h : ∀ t ∈ texts, ∀ c ∈ t, isBlank c = true) : IsMargin sep ([sep].intercalate texts) := by
  induction texts with
  | nil => simp [IsMargin]
  | cons t texts ih =>
    obtain ⟨ht, hrest⟩ := List.forall_mem_cons.mp h
    cases texts with
    | nil => simpa [IsMargin] using fun c hc => .inl (ht c hc)
    | cons u texts =>
      intro c hc
      rw [List.intercalate_cons_cons, List.mem_append, List.mem_append] at hc
      rcases hc with (hc | hc) | hc
      · exact .inl (ht c hc)
      · exact .inr (List.mem_singleton.mp hc)
      · exact ih hrest c hc

/-- There are no pieces in a margin, and in nothing else. -/
theorem pieces_eq_nil_iff (hsep : isBlank sep = false) {s : List Char} :
    pieces sep s = [] ↔ IsMargin sep s := by
  constructor
  · intro h
    have hblank : ∀ t ∈ s.splitOn sep, ∀ c ∈ t, isBlank c = true := by
      intro t ht
      have htrim := List.filter_eq_nil_iff.mp h (trim t) (List.mem_map_of_mem ht)
      exact trim_eq_nil_iff.mp (by simpa using htrim)
    simpa using isMargin_intercalate sep hblank
  · intro h
    simpa [pieces_nil] using h.pieces_append hsep []

theorem pieces_eq_nil {s : List Char} (hsep : isBlank sep = false) (h : trim s = []) :
    pieces sep s = [] :=
  (pieces_eq_nil_iff hsep).mpr fun c hc => .inl (trim_eq_nil_iff.mp h c hc)

/-- Joining texts between blank margins is undone, up to the margins that trimming removes. -/
theorem pieces_intercalate (pre post : List Char)
    (hpre : ∀ c ∈ pre, isBlank c = true) (hpost : ∀ c ∈ post, isBlank c = true)
    (hsep : isBlank sep = false) {texts : List (List Char)}
    (h : ∀ t ∈ texts, sep ∉ t ∧ trim t ≠ []) :
    pieces sep ((pre ++ sep :: post).intercalate texts) = texts.map trim := by
  induction texts with
  | nil => simp [pieces_nil]
  | cons t texts ih =>
    obtain ⟨hbar, hne⟩ := h t (by simp)
    have hrest := ih fun u hu => h u (by simp [hu])
    have ht : pieces sep t = [trim t] := by rw [pieces_of_notMem hbar, if_neg hne]
    cases texts with
    | nil => simpa using ht
    | cons u texts =>
      have hjoined : (pre ++ sep :: post).intercalate (t :: u :: texts) =
          t ++ pre ++ sep :: (post ++ (pre ++ sep :: post).intercalate (u :: texts)) := by
        simp [List.intercalate_cons_cons]
      rw [hjoined, pieces_append_cons, pieces_append_blank hsep t hpre, ht,
        pieces_blank_append hsep hpost, hrest]
      rfl

end Logbook.Text
