import Logbook.Proofs.Text.Blank
import Logbook.Proofs.Text.Offset
import Logbook.Query.Written
import Mathlib.Order.Bounds.Basic

/-! Calls and their parentheses. A text closes the last open parenthesis at one place or keeps it open
to its end, and the counter says which, since it holds how many are open. So it is taken down only where
one is, and what lies between a parenthesis and its match is balanced. -/

namespace Logbook.Query

open Text

/-! ### Open parentheses -/

/-- Of the parentheses in front of a text no beginning of it closes more than `depth`. -/
def StaysOpen (depth : Nat) (s : List Char) : Prop :=
  ∀ t, t <+: s → t.count ')' ≤ depth + t.count '('

section Open

variable {depth : Nat} {c : Char} {s : List Char}

theorem count_cons_eq (d c : Char) (s : List Char) : (c :: s).count d = [c].count d + s.count d := by
  rw [← List.singleton_append, List.count_append]

theorem staysOpen_nil (depth : Nat) : StaysOpen depth [] := by
  intro t ht
  simp [List.prefix_nil.mp ht]

theorem staysOpen_cons_iff : StaysOpen depth (c :: s) ↔
    [c].count ')' ≤ depth + [c].count '(' ∧
      StaysOpen (depth + [c].count '(' - [c].count ')') s := by
  constructor
  · intro h
    have hc := h [c] (by simp)
    refine ⟨hc, fun t ht => ?_⟩
    have hbehind := h (c :: t) (List.cons_prefix_cons.mpr ⟨rfl, ht⟩)
    rw [count_cons_eq _ _ t, count_cons_eq _ _ t] at hbehind
    omega
  · rintro ⟨hc, hs⟩ t ht
    rcases List.prefix_cons_iff.mp ht with rfl | ⟨u, rfl, hu⟩
    · simp
    · have hbehind := hs u hu
      rw [count_cons_eq _ _ u, count_cons_eq _ _ u]
      omega

/-- Either all that is open stays open, or there is a first place where it is closed. -/
theorem staysOpen_or_exists (depth : Nat) (s : List Char) : StaysOpen depth s ∨
    ∃ part rest, s = part ++ ')' :: rest ∧ StaysOpen depth part ∧
      part.count ')' = depth + part.count '(' := by
  induction s generalizing depth with
  | nil => exact .inl (staysOpen_nil depth)
  | cons c s ih =>
    by_cases hc : [c].count ')' ≤ depth + [c].count '('
    · rcases ih (depth + [c].count '(' - [c].count ')') with h | ⟨part, rest, rfl, hpart, hcount⟩
      · exact .inl (staysOpen_cons_iff.mpr ⟨hc, h⟩)
      · refine .inr ⟨c :: part, rest, rfl, staysOpen_cons_iff.mpr ⟨hc, hpart⟩, ?_⟩
        rw [count_cons_eq _ _ part, count_cons_eq _ _ part]
        omega
    · have hclosed : c = ')' := by
        by_contra hne
        exact hc (by simp [hne])
      subst hclosed
      obtain rfl : depth = 0 := by simpa using hc
      exact .inr ⟨[], s, rfl, staysOpen_nil 0, rfl⟩

theorem isBalanced_iff : IsBalanced s ↔ StaysOpen 0 s ∧ s.count ')' = 0 + s.count '(' := by
  simp only [StaysOpen, Nat.zero_add]
  exact ⟨fun h => ⟨h.opened, h.closed⟩, fun h => ⟨h.1, h.2⟩⟩

theorem staysOpen_or_balanced (s : List Char) :
    StaysOpen 0 s ∨ ∃ part rest, s = part ++ ')' :: rest ∧ IsBalanced part := by
  refine (staysOpen_or_exists 0 s).imp_right ?_
  rintro ⟨part, rest, hs, hpart, hcount⟩
  exact ⟨part, rest, hs, isBalanced_iff.mpr ⟨hpart, hcount⟩⟩

end Open

/-! ### The counter -/

section Counter

variable {depth offset : Nat} {c : Char} {s rest : List Char}

theorem closesAt_cons (h : [c].count ')' ≤ depth + [c].count '(') (s : List Char) :
    closesAt (depth + 1) offset (c :: s) =
      closesAt (depth + [c].count '(' - [c].count ')' + 1) (offset + c.utf8Size) s := by
  by_cases hopened : c = '('
  · subst hopened
    rfl
  · by_cases hclosed : c = ')'
    · subst hclosed
      cases depth with
      | zero => exact absurd h (by decide)
      | succ depth => rfl
    · simp [closesAt.eq_def _ _ (c :: s), hopened, hclosed]

theorem closesAt_last : closesAt 1 offset (')' :: s) = .ok (some offset) := rfl

/-- Over a text that leaves one open the counter goes on, and counts how many are. -/
theorem closesAt_append (h : StaysOpen depth s) (rest : List Char) :
    closesAt (depth + 1) offset (s ++ rest) =
      closesAt (depth + s.count '(' - s.count ')' + 1) (offset + byteLength s) rest := by
  induction s generalizing depth offset with
  | nil => simp
  | cons c s ih =>
    obtain ⟨hc, hs⟩ := staysOpen_cons_iff.mp h
    have hdepth : depth + (c :: s).count '(' - (c :: s).count ')' =
        depth + [c].count '(' - [c].count ')' + s.count '(' - s.count ')' := by
      rw [count_cons_eq _ _ s, count_cons_eq _ _ s]
      omega
    rw [List.cons_append, closesAt_cons hc, ih hs, hdepth, byteLength_cons, Nat.add_assoc offset]

theorem closesAt_of_staysOpen (h : StaysOpen depth s) : closesAt (depth + 1) offset s = .ok none := by
  rw [← List.append_nil s, closesAt_append h]
  rfl

theorem closesAt_balanced (h : IsBalanced s) (rest : List Char) :
    closesAt 1 offset (s ++ ')' :: rest) = .ok (some (offset + byteLength s)) := by
  obtain ⟨hopen, hcount⟩ := isBalanced_iff.mp h
  rw [← Nat.zero_add 1, closesAt_append hopen, hcount, Nat.sub_self, Nat.zero_add, closesAt_last]

end Counter

/-! ### Matching parentheses -/

variable {before part after rest s : List Char} {start stop opening : Nat}

theorem slice_eq_ok (h : slice? start stop s = some part) : slice start stop s = .ok part := by
  rw [slice, h]

theorem slice_between (before part after : List Char) :
    slice (byteLength before) (byteLength (before ++ part)) (before ++ (part ++ after)) = .ok part :=
  slice_eq_ok (slice?_eq_some_iff.mpr ⟨before, after, rfl, rfl, rfl⟩)

theorem matchingParen_opened (before rest : List Char) :
    matchingParen (before ++ '(' :: rest) (byteLength before) =
      closesAt 1 (byteLength before + 1) rest := by
  have hbehind := slice_between before ('(' :: rest) []
  rw [List.append_nil] at hbehind
  rw [matchingParen, hbehind]
  rfl

theorem matchingParen_of_staysOpen (before : List Char) (h : StaysOpen 0 rest) :
    matchingParen (before ++ '(' :: rest) (byteLength before) = .ok none := by
  rw [matchingParen_opened]
  exact closesAt_of_staysOpen h

theorem matchingParen_balanced (before : List Char) (h : IsBalanced part) (after : List Char) :
    matchingParen (before ++ '(' :: (part ++ ')' :: after)) (byteLength before) =
      .ok (some (byteLength before + 1 + byteLength part)) := by
  rw [matchingParen_opened, closesAt_balanced h]

theorem callParts_of_notMem (h : '(' ∉ s) : callParts s = .ok none := by
  rw [callParts, offsetOf?_of_notMem h]

theorem callParts_of_staysOpen (hbefore : '(' ∉ before) (h : StaysOpen 0 rest) :
    callParts (before ++ '(' :: rest) = .ok none := by
  rw [callParts, offsetOf?_append_cons hbefore]
  simp only [matchingParen_of_staysOpen before h]
  rfl

theorem callParts_balanced (hbefore : '(' ∉ before) (h : IsBalanced part) (after : List Char) :
    callParts (before ++ '(' :: (part ++ ')' :: after)) = .ok (some (trim before, trim part)) := by
  have hfunction : slice 0 (byteLength before) (before ++ '(' :: (part ++ ')' :: after)) =
      .ok before := slice_between [] before _
  have hfield : slice (byteLength before + 1) (byteLength before + 1 + byteLength part)
      (before ++ '(' :: (part ++ ')' :: after)) = .ok part := by
    have hpart := slice_between (before ++ ['(']) part (')' :: after)
    rw [byteLength_append (before ++ ['(']), byteLength_append before, List.append_assoc] at hpart
    exact hpart
  rw [callParts, offsetOf?_append_cons hbefore]
  simp only [matchingParen_balanced before h after, bind, Except.bind, hfunction, hfield]
  rfl

/-! ### Least places -/

theorem closesThrough_iff {closing : Nat} :
    ClosesThrough (before ++ '(' :: rest) (byteLength before) closing ↔
      ∃ t, t <+: rest ∧ t.count ')' = t.count '(' + 1 ∧ closing = byteLength before + byteLength t := by
  simp only [ClosesThrough, slice?_append_eq_some_iff]
  constructor
  · rintro ⟨hlt, part, ⟨hpart, hclosing⟩, hcount⟩
    rcases List.prefix_cons_iff.mp hpart with rfl | ⟨t, rfl, ht⟩
    · rw [byteLength_nil] at hclosing
      omega
    · have hparen : '('.utf8Size = 1 := rfl
      rw [byteLength_cons, hparen] at hclosing
      exact ⟨t, ht, by simpa using hcount, by omega⟩
  · rintro ⟨t, ht, hcount, rfl⟩
    have hne : byteLength t ≠ 0 := by
      intro hzero
      simp [byteLength_eq_zero_iff.mp hzero] at hcount
    refine ⟨by omega, '(' :: t, ⟨List.cons_prefix_cons.mpr ⟨rfl, ht⟩, ?_⟩, by simpa using hcount⟩
    rw [byteLength_cons, Nat.add_assoc, Nat.add_comm (byteLength t)]
    rfl

theorem not_closesThrough_of_staysOpen (before : List Char) (h : StaysOpen 0 rest) (closing : Nat) :
    ¬ ClosesThrough (before ++ '(' :: rest) (byteLength before) closing := by
  rw [closesThrough_iff]
  rintro ⟨t, ht, hcount, -⟩
  have hopen := h t ht
  omega

theorem StaysOpen.prefix_of_count_lt {t : List Char} (h : StaysOpen 0 part)
    (ht : t <+: part ++ ')' :: after) (hcount : t.count '(' < t.count ')') : part ++ [')'] <+: t := by
  have hpart : part ++ [')'] <+: part ++ ')' :: after := by simp
  rcases List.prefix_or_prefix_of_prefix hpart ht with hle | hle
  · exact hle
  · rcases List.prefix_concat_iff.mp hle with rfl | hle
    · exact List.prefix_rfl
    · have hopen := h t hle
      omega

theorem isLeast_closesThrough (h : IsBalanced part) (before after : List Char) :
    IsLeast {place | ClosesThrough (before ++ '(' :: (part ++ ')' :: after)) (byteLength before) place}
      (byteLength before + 1 + byteLength part) := by
  have hlength : byteLength (part ++ [')']) = byteLength part + 1 := by
    rw [byteLength_append]
    rfl
  obtain ⟨hopen, hcount⟩ := isBalanced_iff.mp h
  constructor
  · refine closesThrough_iff.mpr ⟨part ++ [')'], by simp, ?_, by omega⟩
    simpa using hcount
  · intro place hplace
    obtain ⟨t, ht, hcount, rfl⟩ := closesThrough_iff.mp hplace
    obtain ⟨behind, rfl⟩ := hopen.prefix_of_count_lt ht (by omega)
    rw [byteLength_append]
    omega

theorem slice?_through (before part after : List Char) :
    slice? (byteLength before) (byteLength before + 1 + byteLength part + 1)
      (before ++ '(' :: (part ++ ')' :: after)) = some ('(' :: (part ++ [')'])) := by
  have hlength : byteLength ('(' :: (part ++ [')'])) = 1 + (byteLength part + 1) := by
    rw [byteLength_cons, byteLength_append]
    rfl
  exact slice?_append_eq_some_iff.mpr ⟨by simp, by omega⟩

/-- Every beginning of what stands between a parenthesis and its match leaves the first one open. -/
theorem count_lt_of_balanced {t : List Char} (h : IsBalanced part) (ht : t <+: '(' :: (part ++ [')']))
    (hne : t ≠ []) (hproper : t ≠ '(' :: (part ++ [')'])) : t.count ')' < t.count '(' := by
  rcases List.prefix_cons_iff.mp ht with rfl | ⟨u, rfl, hu⟩
  · exact absurd rfl hne
  · rcases List.prefix_concat_iff.mp hu with rfl | hu
    · exact absurd rfl hproper
    · have hopen := h.opened u hu
      simp
      omega

/-- What a parenthesis at an offset is followed by. -/
theorem exists_opened (h : slice? opening (opening + 1) s = some ['(']) :
    ∃ before rest, s = before ++ '(' :: rest ∧ byteLength before = opening ∧
      (StaysOpen 0 rest ∨ ∃ part after, rest = part ++ ')' :: after ∧ IsBalanced part) := by
  obtain ⟨before, rest, rfl, hopening, -⟩ := slice?_eq_some_iff.mp h
  exact ⟨before, rest, rfl, hopening, staysOpen_or_balanced rest⟩

/-! ### Arguments -/

theorem IsBalanced.trim (h : IsBalanced s) : IsBalanced (trim s) := by
  have hblank {b : List Char} {c : Char} (hb : ∀ d ∈ b, isBlank d = true) (hc : isBlank c = false) :
      b.count c = 0 := by
    rw [List.count_eq_zero]
    intro hm
    simp [hb c hm] at hc
  obtain ⟨front, back, hs, hfront, hback⟩ := exists_trim_margins s
  have hopen {t : List Char} : (front ++ t).count '(' = t.count '(' := by
    rw [List.count_append, hblank hfront (by decide), Nat.zero_add]
  have hclose {t : List Char} : (front ++ t).count ')' = t.count ')' := by
    rw [List.count_append, hblank hfront (by decide), Nat.zero_add]
  constructor
  · intro t ht
    have hprefix : front ++ t <+: s := by
      rw [hs]
      exact (List.prefix_append_right_inj front).mpr (ht.trans (List.prefix_append _ back))
    simpa only [hopen, hclose] using h.opened _ hprefix
  · have hcount := h.closed
    rw [hs, hopen, hclose, List.count_append, List.count_append, hblank hback (by decide),
      hblank hback (by decide)] at hcount
    exact hcount

/-- A text has no call in it, or one with a balanced argument. -/
theorem callParts_cases (s : List Char) :
    callParts s = .ok none ∨
      ∃ function field, callParts s = .ok (some (function, field)) ∧ IsBalanced field := by
  by_cases hs : '(' ∈ s
  · obtain ⟨before, rest, rfl, hbefore⟩ := List.eq_append_cons_of_mem hs
    rcases staysOpen_or_balanced rest with h | ⟨part, after, rfl, hbalanced⟩
    · exact .inl (callParts_of_staysOpen hbefore h)
    · exact .inr ⟨_, _, callParts_balanced hbefore hbalanced after, hbalanced.trim⟩
  · exact .inl (callParts_of_notMem hs)

theorem isBalanced_readStats (text : List Char) : IsBalanced (readStats text).field.toList := by
  have hcall (aggregation : List Char) : IsBalanced (readCall aggregation).2.toList := by
    rcases callParts_cases aggregation with h | ⟨function, field, h, hbalanced⟩
    · rw [readCall, h]
      exact (by decide : IsBalanced [])
    · rw [readCall, h, String.toList_ofList]
      exact hbalanced
  exact hcall _

/-- A parenthesis is closed at the least place through which as many close as open, and is not closed
where there is no such place; up to that place it is open. The counter is never below zero, so no text
of an aggregation is cut at a wrong offset, and every argument is balanced. -/
theorem matchingParen_least :
    (∀ s opening, slice? opening (opening + 1) s = some ['('] →
      (∀ closing, matchingParen s opening = .ok (some closing) ↔
        IsLeast {place | ClosesThrough s opening place} closing) ∧
      (matchingParen s opening = .ok none ↔ ∀ place, ¬ ClosesThrough s opening place) ∧
      (∀ overrun, matchingParen s opening ≠ .error overrun) ∧
      ∀ closing part t, matchingParen s opening = .ok (some closing) →
        slice? opening (closing + 1) s = some part → t <+: part → t ≠ [] → t ≠ part →
          t.count ')' < t.count '(') ∧
      ∀ text, (∀ overrun, callParts text ≠ .error overrun) ∧
        IsBalanced (readStats text).field.toList := by
  refine ⟨fun s opening hopening => ?_, fun text => ⟨?_, isBalanced_readStats text⟩⟩
  · obtain ⟨before, rest, rfl, rfl, h | ⟨part, after, rfl, hbalanced⟩⟩ := exists_opened hopening
    · have hnone := not_closesThrough_of_staysOpen before h
      simp only [matchingParen_of_staysOpen before h]
      refine ⟨fun closing => ?_, by simpa using hnone, by simp, by simp⟩
      simpa using fun hleast => absurd hleast.1 (hnone closing)
    · have hleast := isLeast_closesThrough hbalanced before after
      simp only [matchingParen_balanced before hbalanced after]
      refine ⟨fun closing => ?_, ?_, by simp, ?_⟩
      · simpa using ⟨fun h => h ▸ hleast, fun h => hleast.unique h⟩
      · simpa using ⟨_, hleast.1⟩
      · rintro closing through t hclosing hthrough ht hne hproper
        obtain rfl : byteLength before + 1 + byteLength part = closing := by simpa using hclosing
        rw [slice?_through, Option.some.injEq] at hthrough
        subst hthrough
        exact count_lt_of_balanced hbalanced ht hne hproper
  · rcases callParts_cases text with h | ⟨function, field, h, -⟩
    · simp [h]
    · simp [h]

/-- Letters of two bytes before a parenthesis and behind it, and a parenthesis that stays open. -/
theorem matchingParen_least_nested :
    IsLeast {place | ClosesThrough "é Größe(distinct(ü) )) by x".toList 10 place} 24 ∧
      "(distinct(ü)".toList.count ')' < "(distinct(ü)".toList.count '(' ∧
      (∀ place, ¬ ClosesThrough "(ü()".toList 0 place) ∧
      IsBalanced (readStats "é Größe(distinct(ü) )) by x".toList).field.toList := by
  obtain ⟨hmatch, hstats⟩ := matchingParen_least
  obtain ⟨hleast, -, -, hinside⟩ := hmatch "é Größe(distinct(ü) )) by x".toList 10 (by decide)
  obtain ⟨-, hnone, -, -⟩ := hmatch "(ü()".toList 0 (by decide)
  have hclosing : matchingParen "é Größe(distinct(ü) )) by x".toList 10 = .ok (some 24) := by
    decide
  have hpart : slice? 10 25 "é Größe(distinct(ü) )) by x".toList =
      some "(distinct(ü) )".toList := by decide
  refine ⟨(hleast 24).mp hclosing, ?_, hnone.mp (by decide), (hstats _).2⟩
  exact hinside 24 _ _ hclosing hpart (by decide) (by decide) (by decide)

end Logbook.Query
