import Logbook.Proofs.Pattern.Preferred

/-! In what order the ways through a pattern are tried. A loop over a set may stop behind every run
of the set, a search may begin at every place of the text; either takes the first way on which what
follows succeeds. -/

namespace Logbook.Pattern

variable {s : CharSet} {greedy : Bool} {k : Next} {cur : Cursor} {w rest : List Char}

/-! ### Runs of a set -/

/-- The runs of a set at the start of a text, in the order in which a loop stops behind them. -/
def CharSet.runs (s : CharSet) (greedy : Bool) : List Char → List (List Char)
  | [] => [[]]
  | c :: rest =>
    if s.has c then
      let longer := (s.runs greedy rest).map (c :: ·)
      if greedy then longer ++ [[]] else [] :: longer
    else [[]]

theorem CharSet.mem_runs_iff :
    w ∈ s.runs greedy rest ↔ w <+: rest ∧ ∀ c ∈ w, s.has c = true := by
  induction rest generalizing w with
  | nil => simp +contextual [runs]
  | cons c rest ih =>
    cases hc : s.has c with
    | false =>
      rw [runs, if_neg (by simp [hc]), List.mem_singleton]
      cases w with
      | nil => simp
      | cons d w =>
        simp only [reduceCtorEq, List.cons_prefix_cons, false_iff]
        rintro ⟨⟨rfl, -⟩, hall⟩
        simp [hc] at hall
    | true =>
      have hcons : w ∈ s.runs greedy (c :: rest) ↔
          w = [] ∨ ∃ w' ∈ s.runs greedy rest, c :: w' = w := by
        cases greedy <;> simp [runs, hc, or_comm]
      rw [hcons]
      cases w with
      | nil => simp
      | cons d w =>
        simp only [reduceCtorEq, false_or, List.cons.injEq, List.cons_prefix_cons, ih,
          List.forall_mem_cons]
        constructor
        · rintro ⟨_, ⟨hw, hall⟩, rfl, rfl⟩
          exact ⟨⟨rfl, hw⟩, hc, hall⟩
        · rintro ⟨⟨rfl, hw⟩, -, hall⟩
          exact ⟨w, ⟨hw, hall⟩, rfl, rfl⟩

/-- A greedy loop begins with the longest run, a lazy one with the shortest. -/
theorem CharSet.pairwise_runs : (s.runs greedy rest).Pairwise fun w w' =>
    if greedy then w'.length < w.length else w.length < w'.length := by
  induction rest with
  | nil => simp [runs]
  | cons c rest ih =>
    cases hc : s.has c with
    | false => simp [runs, hc]
    | true => cases greedy <;> simpa [runs, hc, List.pairwise_append, List.pairwise_map] using ih

/-! ### Loops -/

@[simp] theorem Cursor.pass_nil (cur : Cursor) : cur.pass [] = cur := rfl

theorem Cursor.rest_pass_eq (w : List Char) (cur : Cursor) :
    (cur.pass w).rest = cur.rest.drop w.length := by
  induction w generalizing cur with
  | nil => rfl
  | cons c w ih => simp [pass, ih]

theorem again_eq_findSome? {n : Nat} (hn : cur.rest.length < n) :
    again greedy (Node.chars s).run k n cur =
      (s.runs greedy cur.rest).findSome? fun w => k (cur.pass w) := by
  generalize hrest : cur.rest = rest at hn ⊢
  induction rest generalizing cur n with
  | nil =>
    obtain ⟨n, rfl⟩ : ∃ m, n = m + 1 := ⟨n - 1, by omega⟩
    have hstops : s.Stops cur.rest := hrest ▸ s.stops_nil
    cases greedy <;> simp [again, run_chars_stops hstops, CharSet.runs]
  | cons c rest ih =>
    obtain ⟨n, rfl⟩ : ∃ m, n = m + 1 := ⟨n - 1, by omega⟩
    cases hc : s.has c with
    | false =>
      have hstops : s.Stops cur.rest := hrest ▸ CharSet.stops_cons.mpr hc
      cases greedy <;> simp [again, run_chars_stops hstops, CharSet.runs, hc]
    | true =>
      have hpos : (cur.pass [c]).pos ≠ cur.pos := by simp [Cursor.pass]
      have hrest' : (cur.pass [c]).rest = rest := by simp [Cursor.pass, hrest]
      have hround := ih hrest' (Nat.lt_of_succ_lt_succ hn)
      have hpass (w : List Char) : (cur.pass [c]).pass w = cur.pass (c :: w) := rfl
      simp only [hpass] at hround
      cases greedy with
      | true =>
        simp [again, run_chars_cons hrest hc, hpos, hround, CharSet.runs, hc,
          List.findSome?_append, List.findSome?_map, Function.comp_def]
      | false =>
        simp only [again, run_chars_cons hrest hc, hpos, hround, CharSet.runs, hc, if_true,
          if_false, Bool.false_eq_true, List.findSome?_cons, List.findSome?_map,
          Function.comp_def, Cursor.pass_nil]
        cases k cur <;> rfl

theorem anyTimes_eq_findSome? : anyTimes greedy (Node.chars s).run k cur =
    (s.runs greedy cur.rest).findSome? fun w => k (cur.pass w) := by
  rw [← again_eq_findSome? (Nat.lt_succ_self cur.rest.length)]
  have hround : onceOrMore greedy (Node.chars s).run k cur = (Node.chars s).run (fun cur' =>
      if cur'.pos = cur.pos then none
      else again greedy (Node.chars s).run k cur.rest.length cur') cur := by
    cases hrest : cur.rest with
    | nil => simp [onceOrMore, run_chars_stops (hrest ▸ s.stops_nil)]
    | cons c rest =>
      cases hc : s.has c with
      | false => simp [onceOrMore, run_chars_stops (hrest ▸ CharSet.stops_cons.mpr hc)]
      | true => simp [onceOrMore, run_chars_cons hrest hc, Cursor.pass, hrest]
  cases greedy <;> simp [anyTimes, again, hround]

namespace Node

/-- A loop takes the first run behind which the rest succeeds. -/
theorem run_loop : (loop 0 none greedy (chars s)).run k cur =
    (s.runs greedy cur.rest).findSome? fun w => k (cur.pass w) :=
  anyTimes_eq_findSome?

/-- Fixed text is passed over where it stands. -/
theorem run_ofList_literal (text : String) (nodes : List Node) (k : Next) (cur : Cursor) :
    (ofList (literal text ++ nodes)).run k cur =
      if text.toList <+: cur.rest then (ofList nodes).run k (cur.pass text.toList) else none := by
  unfold literal
  induction text.toList generalizing cur with
  | nil => simp [Cursor.pass]
  | cons c chars ih =>
    rw [List.map_cons, List.cons_append, run_ofList_cons]
    cases hrest : cur.rest with
    | nil => simp [run_chars_stops (hrest ▸ CharSet.stops_nil _)]
    | cons d rest =>
      by_cases hd : d = c
      · subst hd
        rw [run_chars_cons hrest (has_just d), ih]
        simp [Cursor.pass, hrest]
      · have hstops : (CharSet.just c).Stops cur.rest := by
          rw [hrest, CharSet.stops_cons, Bool.eq_false_iff, Ne, CharSet.has_just_iff]
          exact hd
        rw [run_chars_stops hstops, if_neg fun h => hd (List.cons_prefix_cons.mp h).1.symm]

end Node

/-! ### Searches -/

/-- The cursor behind the next characters. -/
def Cursor.skip (n : Nat) (cur : Cursor) : Cursor := cur.pass (cur.rest.take n)

theorem Cursor.rest_skip (n : Nat) (cur : Cursor) : (cur.skip n).rest = cur.rest.drop n :=
  rest_pass (List.take_append_drop n cur.rest).symm

theorem Cursor.moves_skip (text : List Char) (n : Nat) (cur : Cursor) :
    Moves text (cur.rest.take n) [] cur (cur.skip n) :=
  moves_pass text (List.take_append_drop n cur.rest).symm

namespace Node

variable {node : Node} {pos start : Nat} {before : Option Char}

/-- A search that succeeds does so at the first place from which the node leads on. -/
theorem search_eq_some (h : node.search pos before rest = some (start, cur)) :
    ∃ n ≤ rest.length, start = pos + n ∧
      node.run some (.skip n ⟨pos, before, rest, []⟩) = some cur ∧
      ∀ m < n, node.run some (.skip m ⟨pos, before, rest, []⟩) = none := by
  induction rest generalizing pos before with
  | nil =>
    rw [search.eq_def] at h
    split at h
    · next cur' hrun =>
      obtain ⟨rfl, rfl⟩ := Prod.mk.inj (Option.some.inj h)
      exact ⟨0, Nat.le_refl 0, rfl, hrun, by simp⟩
    · cases h
  | cons c rest ih =>
    rw [search] at h
    split at h
    · next cur' hrun =>
      obtain ⟨rfl, rfl⟩ := Prod.mk.inj (Option.some.inj h)
      exact ⟨0, Nat.zero_le _, rfl, hrun, by simp⟩
    · next hnone =>
      obtain ⟨n, hn, rfl, hrun, hearlier⟩ := ih h
      refine ⟨n + 1, Nat.succ_le_succ hn, by omega, hrun, fun m hm => ?_⟩
      cases m with
      | zero => exact hnone
      | succ m => exact hearlier m (Nat.lt_of_succ_lt_succ hm)

theorem run_eq_none_of_search (h : node.search pos before rest = none) (n : Nat) :
    node.run some (.skip n ⟨pos, before, rest, []⟩) = none := by
  induction rest generalizing pos before n with
  | nil =>
    rw [search.eq_def] at h
    split at h
    · cases h
    · next hnone => rwa [Cursor.skip, List.take_nil]
  | cons c rest ih =>
    rw [search] at h
    split at h
    · cases h
    · next hnone =>
      cases n with
      | zero => exact hnone
      | succ n => exact ih h n

end Node

end Logbook.Pattern
