import Logbook.Text.Cut
import Mathlib.Data.List.Infix

/-! Cutting at a separator, in terms of where the separator occurs. The main statements say when
the first occurrence is the one that was written, when the last one is, and that a separator
without some character never reaches over that character. -/

namespace Logbook.Text

theorem isPrefixOf?_append (sep after : List Char) :
    sep.isPrefixOf? (sep ++ after) = some after :=
  List.isPrefixOf?_eq_some_iff_append_eq.mpr rfl

theorem isPrefixOf?_eq_none_iff (sep s : List Char) :
    sep.isPrefixOf? s = none ↔ ¬ sep <+: s := by
  rw [← Option.not_isSome_iff_eq_none, List.isSome_isPrefixOf?_eq_isPrefixOf,
    List.isPrefixOf_iff_prefix]

theorem cut?_eq_none_iff (sep s : List Char) : cut? sep s = none ↔ ¬ sep <:+: s := by
  induction s with
  | nil =>
    cases sep with
    | nil => simp [cut?, List.isPrefixOf?]
    | cons c sep => simp [cut?, List.isPrefixOf?]
  | cons c s ih =>
    rw [List.infix_cons_iff]
    cases h : sep.isPrefixOf? (c :: s) with
    | none =>
      have hn := (isPrefixOf?_eq_none_iff sep (c :: s)).mp h
      simp [cut?, h, ih, hn]
    | some after =>
      have hp : sep <+: c :: s := ⟨after, List.isPrefixOf?_eq_some_iff_append_eq.mp h⟩
      simp [cut?, h, hp]

theorem occurs_iff (sep s : List Char) : occurs sep s = true ↔ sep <:+: s := by
  rw [occurs, Option.isSome_iff_ne_none, ne_eq, cut?_eq_none_iff, not_not]

/-- A separator is cut at where it was written if it does not begin any earlier. -/
theorem cut?_append (sep before after : List Char)
    (h : ∀ t u, before = t ++ u → u ≠ [] → ¬ sep <+: u ++ (sep ++ after)) :
    cut? sep (before ++ (sep ++ after)) = some (before, after) := by
  induction before with
  | nil =>
    have hp := isPrefixOf?_append sep after
    cases hs : sep ++ after with
    | nil =>
      rw [hs] at hp
      simp [cut?, hp]
    | cons c s =>
      rw [hs] at hp
      simp [cut?, hp]
  | cons c before ih =>
    have hn := h [] (c :: before) rfl (by simp)
    have hr := ih fun t u ht hu => h (c :: t) u (by simp [ht]) hu
    simp only [List.cons_append] at hn ⊢
    rw [cut?, (isPrefixOf?_eq_none_iff _ _).mpr hn]
    simp [hr]

/-- The first character of the separator cannot occur before the cut. -/
theorem cut?_append_of_notMem {c : Char} {sep before : List Char} (after : List Char)
    (h : c ∉ before) :
    cut? (c :: sep) (before ++ (c :: sep ++ after)) = some (before, after) := by
  apply cut?_append
  rintro t u rfl hu hp
  cases u with
  | nil => exact hu rfl
  | cons d u =>
    have hcd : c = d := (List.cons_prefix_cons.mp hp).1
    exact h (by simp [hcd])

/-- Nor can it begin before the cut if what ends there belongs to no separator. -/
theorem cut?_concat_append {sep : List Char} (before after : List Char) {q : Char}
    (hq : q ∉ sep) (h : ¬ sep <:+: before ++ [q]) :
    cut? sep (before ++ [q] ++ (sep ++ after)) = some (before ++ [q], after) := by
  apply cut?_append
  intro t u ht hu hp
  obtain hsep | hu' := List.prefix_or_prefix_of_prefix hp (List.prefix_append u (sep ++ after))
  · exact h (hsep.isInfix.trans (ht ▸ (List.suffix_append t u).isInfix))
  · obtain ⟨v, d, rfl⟩ := u.eq_nil_or_concat.resolve_left hu
    rw [List.concat_eq_append] at ht hu'
    rw [← List.append_assoc] at ht
    obtain ⟨-, hd⟩ := List.append_inj' ht rfl
    have hmem : q ∈ v ++ [d] := by simp [(List.cons.inj hd).1]
    exact hq (hu'.subset hmem)

theorem infix_append_iff_of_notMem {c : Char} {sep before after : List Char}
    (h : c ∉ before) : c :: sep <:+: before ++ after ↔ c :: sep <:+: after := by
  induction before with
  | nil => simp
  | cons d before ih =>
    have hd : c ≠ d := fun hcd => h (by simp [hcd])
    have ht : c ∉ before := fun hm => h (by simp [hm])
    rw [List.cons_append, List.infix_cons_iff, ih ht]
    simp [List.cons_prefix_cons, hd]

/-- What has no `q` in it lies on one side of every `q`. -/
theorem infix_append_cons_iff_of_notMem {q : Char} {sep before after : List Char} (h : q ∉ sep) :
    sep <:+: before ++ q :: after ↔ sep <:+: before ∨ sep <:+: after := by
  constructor
  · rintro ⟨s, t, hst⟩
    rw [List.append_assoc, List.append_eq_append_iff] at hst
    obtain ⟨u, hb, hu⟩ | ⟨u, rfl, hu⟩ := hst
    · rw [List.append_eq_append_iff] at hu
      obtain ⟨v, rfl, ht⟩ | ⟨v, rfl, ht⟩ := hu
      · exact .inl ⟨s, v, by simp [hb]⟩
      · cases v with
        | nil => exact .inl ⟨s, [], by simp [hb]⟩
        | cons d v =>
          have hd : q = d := (List.cons.inj ht).1
          exact absurd (by simp [hd]) h
    · cases u with
      | nil =>
        cases sep with
        | nil => exact .inl (List.nil_infix)
        | cons d sep =>
          have hd : q = d := (List.cons.inj hu).1
          exact absurd (by simp [hd]) h
      | cons d u =>
        refine .inr ⟨u, t, ?_⟩
        simpa using (List.cons.inj hu).2.symm
  · rintro (hb | ha)
    · exact hb.trans (List.prefix_append _ _).isInfix
    · exact ha.trans ⟨before ++ [q], [], by simp⟩

theorem cutLast?_eq_none_iff {sep : List Char} (hne : sep ≠ []) (s : List Char) :
    cutLast? sep s = none ↔ ¬ sep <:+: s := by
  induction s with
  | nil => simp [cutLast?, hne]
  | cons c s ih =>
    rw [List.infix_cons_iff]
    cases h : cutLast? sep s with
    | none =>
      have hn := ih.mp h
      simp [cutLast?, h, hn, isPrefixOf?_eq_none_iff]
    | some cut =>
      have hs : sep <:+: s := by
        by_contra hn
        simp [ih.mpr hn] at h
      simp [cutLast?, h, hs]

/-- A separator is cut at for the last time where it was written if none begins later. -/
theorem cutLast?_append {c : Char} {sep : List Char} (before after : List Char)
    (h : ¬ c :: sep <:+: sep ++ after) :
    cutLast? (c :: sep) (before ++ (c :: sep ++ after)) = some (before, after) := by
  induction before with
  | nil =>
    have hn := (cutLast?_eq_none_iff (by simp) (sep ++ after)).mpr h
    have hp := isPrefixOf?_append (c :: sep) after
    rw [List.cons_append] at hp
    simp [cutLast?, hn, hp]
  | cons d before ih => simp only [List.cons_append, cutLast?] at ih ⊢; rw [ih]

/-- The last occurrence is where no other begins later. -/
theorem cutLast?_eq_some_iff {c : Char} {sep s before after : List Char} :
    cutLast? (c :: sep) s = some (before, after) ↔
      s = before ++ (c :: sep ++ after) ∧ ¬ c :: sep <:+: sep ++ after := by
  constructor
  · intro h
    induction s generalizing before with
    | nil => simp [cutLast?] at h
    | cons d s ih =>
      rw [cutLast?] at h
      cases hcut : cutLast? (c :: sep) s with
      | some parts =>
        rw [hcut] at h
        obtain ⟨rfl, rfl⟩ := Prod.mk.inj (Option.some.inj h)
        obtain ⟨hs, hlast⟩ := ih hcut
        exact ⟨by rw [List.cons_append, ← hs], hlast⟩
      | none =>
        rw [hcut] at h
        obtain ⟨behind, hprefix, hparts⟩ := Option.map_eq_some_iff.mp h
        obtain ⟨rfl, rfl⟩ := Prod.mk.inj hparts
        have hs := List.isPrefixOf?_eq_some_iff_append_eq.mp hprefix
        have htail : sep ++ behind = s := (List.cons.inj hs).2
        exact ⟨hs.symm, htail ▸ (cutLast?_eq_none_iff (by simp) s).mp hcut⟩
  · rintro ⟨rfl, hlast⟩
    exact cutLast?_append before after hlast

theorem cutAt?_eq_none_iff {p : Char → Bool} {s : List Char} :
    cutAt? p s = none ↔ ∀ c ∈ s, p c = false := by
  induction s with
  | nil => simp [cutAt?]
  | cons c s ih => cases h : p c <;> simp [cutAt?, h, ih]

theorem cutAt?_eq (p : Char → Bool) (s : List Char) :
    cutAt? p s =
      match s.dropWhile fun c => !p c with
      | [] => none
      | _ :: rest => some (s.takeWhile fun c => !p c, rest) := by
  induction s with
  | nil => rfl
  | cons c s ih =>
    cases hc : p c with
    | true => simp [cutAt?, hc]
    | false =>
      rw [cutAt?, ih]
      cases hs : s.dropWhile fun c => !p c <;> simp [hc, hs]

theorem cutAt?_append_cons {p : Char → Bool} {c : Char} (before after : List Char)
    (h : ∀ d ∈ before, p d = false) (hc : p c = true) :
    cutAt? p (before ++ c :: after) = some (before, after) := by
  induction before with
  | nil => simp [cutAt?, hc]
  | cons d before ih =>
    have hd := h d (by simp)
    have ht := ih fun e he => h e (by simp [he])
    simp [cutAt?, hd, ht]

theorem cutAt?_eq_some_iff {p : Char → Bool} {s before after : List Char} :
    cutAt? p s = some (before, after) ↔
      ∃ c, s = before ++ c :: after ∧ p c = true ∧ ∀ d ∈ before, p d = false := by
  constructor
  · intro h
    induction s generalizing before with
    | nil => simp [cutAt?] at h
    | cons d s ih =>
      rw [cutAt?] at h
      by_cases hd : p d = true
      · rw [if_pos hd] at h
        obtain ⟨rfl, rfl⟩ := Prod.mk.inj (Option.some.inj h)
        exact ⟨d, rfl, hd, by simp⟩
      · rw [if_neg hd] at h
        obtain ⟨parts, hcut, hparts⟩ := Option.map_eq_some_iff.mp h
        obtain ⟨rfl, rfl⟩ := Prod.mk.inj hparts
        obtain ⟨c, rfl, hc, hbefore⟩ := ih hcut
        exact ⟨c, rfl, hc, List.forall_mem_cons.mpr ⟨by simpa using hd, hbefore⟩⟩
  · rintro ⟨c, rfl, hc, hbefore⟩
    exact cutAt?_append_cons before after hbefore hc

theorem forall_ne_iff {c : Char} {s : List Char} : (∀ d ∈ s, (d == c) = false) ↔ c ∉ s := by
  simp only [beq_eq_false_iff_ne]
  constructor
  · exact fun h hc => h c hc rfl
  · rintro h d hd rfl
    exact h hd

theorem cutAt?_char_eq_none_iff {c : Char} {s : List Char} :
    cutAt? (· == c) s = none ↔ c ∉ s := by
  rw [cutAt?_eq_none_iff, forall_ne_iff]

theorem cutAt?_char_eq_some_iff {c : Char} {s before after : List Char} :
    cutAt? (· == c) s = some (before, after) ↔ s = before ++ c :: after ∧ c ∉ before := by
  simp only [cutAt?_eq_some_iff, forall_ne_iff, beq_iff_eq]
  constructor
  · rintro ⟨_, hs, rfl, hbefore⟩
    exact ⟨hs, hbefore⟩
  · rintro ⟨hs, hbefore⟩
    exact ⟨c, hs, rfl, hbefore⟩

/-- A text is cut in one way only at its first character of a kind. -/
theorem append_cons_inj (p : Char → Bool) {before before' after after' : List Char} {c c' : Char}
    (h : ∀ d ∈ before, p d = false) (h' : ∀ d ∈ before', p d = false) (hc : p c = true)
    (hc' : p c' = true) (heq : before ++ c :: after = before' ++ c' :: after') :
    before = before' ∧ c = c' ∧ after = after' := by
  have hcut := cutAt?_append_cons before after h hc
  rw [heq, cutAt?_append_cons before' after' h' hc'] at hcut
  obtain ⟨hbefore, hafter⟩ := Prod.mk.inj (Option.some.inj hcut)
  subst hbefore
  exact ⟨rfl, by simpa [hafter] using heq, hafter.symm⟩

end Logbook.Text
