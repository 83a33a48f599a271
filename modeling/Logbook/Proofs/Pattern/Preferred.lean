import Logbook.Proofs.Pattern.Search
import Logbook.Proofs.Pattern.Sets
import Logbook.Proofs.Pattern.Spelling

/-! What a search tries first. A greedy loop runs as far as it can, a lazy one stops at the first
place where the rest can begin; the first way through a node is the one that a match takes, if what
follows the node succeeds behind it. -/

namespace Logbook.Pattern

open Cursor (IsIn Moves)

variable {s : CharSet} {w w' later rest : List Char} {t t' : Captured} {k : Next} {cur : Cursor}

/-- The cursor behind a text. -/
def Cursor.pass : List Char → Cursor → Cursor
  | [], cur => cur
  | c :: w, cur => pass w ⟨cur.pos + 1, some c, cur.rest.tail, cur.captures⟩

theorem Cursor.pass_append (u w : List Char) (cur : Cursor) :
    cur.pass (u ++ w) = (cur.pass u).pass w := by
  induction u generalizing cur with
  | nil => rfl
  | cons c u ih => exact ih _

theorem Cursor.rest_pass (h : cur.rest = w ++ rest) : (cur.pass w).rest = rest := by
  induction w generalizing cur with
  | nil => exact h
  | cons c w ih => exact ih (by simp [h])

theorem Cursor.moves_pass (text : List Char) (h : cur.rest = w ++ rest) :
    Moves text w [] cur (cur.pass w) := by
  induction w generalizing cur with
  | nil => exact .refl text cur
  | cons c w ih =>
    have htail : cur.rest.tail = w ++ rest := by simp [h]
    have hstep : Moves text [c] [] cur ⟨cur.pos + 1, some c, cur.rest.tail, cur.captures⟩ :=
      ⟨rfl, by simp [h], rfl⟩
    exact hstep.trans (ih htail)

theorem run_chars_stops (h : s.Stops cur.rest) : (Node.chars s).run k cur = none := by
  cases hrest : cur.rest with
  | nil => simp [Node.run, hrest]
  | cons c rest =>
    have hc : s.has c = false := h c (by simp [hrest])
    simp [Node.run, hrest, hc]

theorem run_chars_cons {c : Char} (hcur : cur.rest = c :: rest) (hc : s.has c = true) :
    (Node.chars s).run k cur = k (cur.pass [c]) := by
  simp [chars_run hcur hc, hcur, Cursor.pass]

/-! ### Runs of a set -/

theorem exactly_run (hw : ∀ c ∈ w, s.has c = true) (hcur : cur.rest = w ++ rest) :
    exactly (Node.chars s).run w.length k cur = k (cur.pass w) := by
  induction w generalizing cur with
  | nil => rfl
  | cons c w ih =>
    rw [List.length_cons, exactly, run_chars_cons hcur (hw c (by simp))]
    exact ih (fun d hd => hw d (by simp [hd])) (by simp [Cursor.pass, hcur])

theorem upTo_run {n : Nat} (hw : ∀ c ∈ w, s.has c = true) (hcur : cur.rest = w ++ later)
    (hn : w.length ≤ n) (hend : w.length = n ∨ s.Stops later) (hk : (k (cur.pass w)).isSome) :
    upTo true (Node.chars s).run n k cur = k (cur.pass w) := by
  induction w generalizing cur n with
  | nil =>
    cases n with
    | zero => rfl
    | succ n =>
      have hstops : s.Stops cur.rest := by simpa [hcur] using hend
      simp [upTo, run_chars_stops hstops, Cursor.pass]
  | cons c w ih =>
    obtain ⟨n, rfl⟩ : ∃ m, n = m + 1 := ⟨n - 1, by simp at hn; omega⟩
    have hrest : (cur.pass [c]).rest = w ++ later := by simp [Cursor.pass, hcur]
    have hround := ih (fun d hd => hw d (by simp [hd])) hrest (by simpa using hn)
      (by simpa using hend) hk
    simp only [upTo, if_true, run_chars_cons hcur (hw c (by simp)), hround]
    exact Option.or_of_isSome hk

theorem again_run {n : Nat} (hw : ∀ c ∈ w, s.has c = true) (hcur : cur.rest = w ++ later)
    (hn : w.length < n) (hend : s.Stops later) (hk : (k (cur.pass w)).isSome) :
    again true (Node.chars s).run k n cur = k (cur.pass w) := by
  induction w generalizing cur n with
  | nil =>
    obtain ⟨n, rfl⟩ : ∃ m, n = m + 1 := ⟨n - 1, by omega⟩
    have hstops : s.Stops cur.rest := by simpa [hcur] using hend
    simp [again, run_chars_stops hstops, Cursor.pass]
  | cons c w ih =>
    obtain ⟨n, rfl⟩ : ∃ m, n = m + 1 := ⟨n - 1, by omega⟩
    have hrest : (cur.pass [c]).rest = w ++ later := by simp [Cursor.pass, hcur]
    have hpos : (cur.pass [c]).pos ≠ cur.pos := by simp [Cursor.pass]
    have hround := ih (fun d hd => hw d (by simp [hd])) hrest (by simpa using hn) hk
    simp only [again, if_true, run_chars_cons hcur (hw c (by simp)), if_neg hpos, hround]
    exact Option.or_of_isSome hk

theorem onceOrMore_run (hne : w ≠ []) (hw : ∀ c ∈ w, s.has c = true)
    (hcur : cur.rest = w ++ later) (hend : s.Stops later) (hk : (k (cur.pass w)).isSome) :
    onceOrMore true (Node.chars s).run k cur = k (cur.pass w) := by
  obtain ⟨c, w, rfl⟩ := List.exists_cons_of_ne_nil hne
  have hrest : (cur.pass [c]).rest = w ++ later := by simp [Cursor.pass, hcur]
  have hpos : (cur.pass [c]).pos ≠ cur.pos := by simp [Cursor.pass]
  rw [onceOrMore, run_chars_cons hcur (hw c (by simp)), if_neg hpos]
  exact again_run (fun d hd => hw d (by simp [hd])) hrest
    (by rw [hrest, List.length_append]; omega) hend hk

/-- The rounds that there must be come first. -/
theorem exactly_then_run {n : Nat} {loop : Next → Next} (hw : ∀ c ∈ w, s.has c = true)
    (hcur : cur.rest = w ++ later) (hn : n ≤ w.length)
    (hloop : ∀ mid : Cursor, mid.rest = w.drop n ++ later → (k (mid.pass (w.drop n))).isSome →
      loop k mid = k (mid.pass (w.drop n)))
    (hk : (k (cur.pass w)).isSome) :
    exactly (Node.chars s).run n (loop k) cur = k (cur.pass w) := by
  have hsplit : w = w.take n ++ w.drop n := (List.take_append_drop n w).symm
  have hcur' : cur.rest = w.take n ++ (w.drop n ++ later) := by
    rw [← List.append_assoc, ← hsplit, hcur]
  have hpass : cur.pass w = (cur.pass (w.take n)).pass (w.drop n) := by
    rw [← Cursor.pass_append, ← hsplit]
  have hexact := exactly_run (k := loop k) (fun c hc => hw c (List.mem_of_mem_take hc)) hcur'
  rw [List.length_take_of_le hn] at hexact
  rw [hpass] at hk ⊢
  exact hexact.trans (hloop _ (Cursor.rest_pass hcur') hk)

theorem repeated_run {least : Nat} {most : Option Nat} (hw : ∀ c ∈ w, s.has c = true)
    (hcur : cur.rest = w ++ later) (hleast : least ≤ w.length) (hmost : ∀ m ∈ most, w.length ≤ m)
    (hend : most = some w.length ∨ s.Stops later) (hk : (k (cur.pass w)).isSome) :
    repeated least most true (Node.chars s).run k cur = k (cur.pass w) := by
  have hdrop (n : Nat) : ∀ c ∈ w.drop n, s.has c = true :=
    fun c hc => hw c (List.mem_of_mem_drop hc)
  match most, least with
  | some most, least =>
    have hroom : w.length ≤ most := hmost most rfl
    have hend' : (w.drop least).length = most - least ∨ s.Stops later := by
      refine hend.imp_left fun h => ?_
      rw [List.length_drop, Option.some.inj h]
    exact exactly_then_run hw hcur hleast (fun mid hmid hk' => upTo_run (hdrop least) hmid
      (by simp; omega) hend' hk') hk
  | none, 0 =>
    have hstops : s.Stops later := by simpa using hend
    change anyTimes true (Node.chars s).run k cur = k (cur.pass w)
    by_cases hne : w = []
    · subst hne
      have hstops' : s.Stops cur.rest := by simpa [hcur] using hstops
      simp [anyTimes, onceOrMore, run_chars_stops hstops', Cursor.pass]
    · have hround : onceOrMore true (Node.chars s).run k cur = k (cur.pass w) :=
        onceOrMore_run hne hw hcur hstops hk
      simp only [anyTimes, if_true, hround]
      exact Option.or_of_isSome hk
  | none, least + 1 =>
    have hne : w.drop least ≠ [] := by
      rw [Ne, List.drop_eq_nil_iff]
      omega
    have hstops : s.Stops later := by simpa using hend
    exact exactly_then_run hw hcur (by omega) (fun mid hmid hk' =>
      onceOrMore_run hne (hdrop least) hmid hstops hk') hk

/-- A lazy loop goes on as long as what follows cannot begin. -/
theorem again_lazy {c : Char} {n : Nat} (hw : ∀ d ∈ w, s.has d = true) (hc : c ∉ w)
    (hcur : cur.rest = w ++ c :: rest) (hn : w.length < n)
    (hfails : ∀ cur : Cursor, cur.rest.head? ≠ some c → k cur = none)
    (hk : (k (cur.pass w)).isSome) :
    again false (Node.chars s).run k n cur = k (cur.pass w) := by
  induction w generalizing cur n with
  | nil =>
    obtain ⟨n, rfl⟩ : ∃ m, n = m + 1 := ⟨n - 1, by omega⟩
    simp only [again, Bool.false_eq_true, if_false]
    exact Option.or_of_isSome hk
  | cons d w ih =>
    obtain ⟨n, rfl⟩ : ∃ m, n = m + 1 := ⟨n - 1, by omega⟩
    have hd : d ≠ c := fun heq => hc (by simp [heq])
    have hleave : k cur = none := hfails cur (by simpa [hcur] using hd)
    have hrest : (cur.pass [d]).rest = w ++ c :: rest := by simp [Cursor.pass, hcur]
    have hpos : (cur.pass [d]).pos ≠ cur.pos := by simp [Cursor.pass]
    have hround := ih (fun e he => hw e (by simp [he])) (fun he => hc (by simp [he])) hrest
      (by simpa using hn) hk
    simp only [again, Bool.false_eq_true, if_false, hleave, Option.none_or,
      run_chars_cons hcur (hw d (by simp)), if_neg hpos]
    exact hround

theorem lazy_run {c : Char} (hne : w ≠ []) (hw : ∀ d ∈ w, s.has d = true) (hc : c ∉ w)
    (hcur : cur.rest = w ++ c :: rest)
    (hfails : ∀ cur : Cursor, cur.rest.head? ≠ some c → k cur = none)
    (hk : (k (cur.pass w)).isSome) :
    repeated 1 none false (Node.chars s).run k cur = k (cur.pass w) := by
  obtain ⟨d, w, rfl⟩ := List.exists_cons_of_ne_nil hne
  have hrest : (cur.pass [d]).rest = w ++ c :: rest := by simp [Cursor.pass, hcur]
  have hpos : (cur.pass [d]).pos ≠ cur.pos := by simp [Cursor.pass]
  change onceOrMore false (Node.chars s).run k cur = _
  rw [onceOrMore, run_chars_cons hcur (hw d (by simp)), if_neg hpos]
  exact again_lazy (fun e he => hw e (by simp [he])) (fun he => hc (by simp [he])) hrest
    (by rw [hrest, List.length_append]; omega) hfails hk

namespace Node

/-! ### The first way through a node -/

/-- Where the text goes on with `w` and then `later`, the node first tries to read `w`, with the
captures `t`. -/
def Prefers (node : Node) (w later : List Char) (t : Captured) : Prop :=
  ∀ (text : List Char) (cur : Cursor), cur.IsIn text → cur.rest = w ++ later →
    ∃ cur', Moves text w t cur cur' ∧ ∀ k : Next, (k cur').isSome → node.run k cur = k cur'

/-- Where the text goes on like this, there is no way through the node. -/
def Fails (node : Node) (rest : List Char) : Prop :=
  ∀ (k : Next) (cur : Cursor), cur.rest = rest → node.run k cur = none

theorem run_ofList_cons (a : Node) (nodes : List Node) (k : Next) :
    (ofList (a :: nodes)).run k = a.run ((ofList nodes).run k) := by
  cases nodes <;> rfl

theorem prefers_ofList_nil (later : List Char) : (ofList []).Prefers [] later [] :=
  fun text cur _ _ => ⟨cur, .refl text cur, fun _ _ => rfl⟩

theorem Prefers.ofList_cons {a : Node} {nodes : List Node} (ha : a.Prefers w (w' ++ later) t)
    (h : (ofList nodes).Prefers w' later t') :
    (ofList (a :: nodes)).Prefers (w ++ w') later (t' ++ t) := by
  intro text cur hcur hrest
  rw [List.append_assoc] at hrest
  obtain ⟨mid, hmove, hrun⟩ := ha text cur hcur hrest
  have hmid : mid.rest = w' ++ later := List.append_cancel_left (hmove.rest.symm.trans hrest)
  obtain ⟨cur', hmove', hrun'⟩ := h text mid (hmove.isIn hcur) hmid
  refine ⟨cur', hmove.trans hmove', fun k hk => ?_⟩
  have hnodes : (ofList nodes).run k mid = k cur' := hrun' k hk
  rw [run_ofList_cons, hrun _ (by rwa [hnodes]), hnodes]

theorem Prefers.group {body : Node} (h : body.Prefers w later t) (i : Nat) :
    (group i body).Prefers w later ((i, w) :: t) := by
  intro text cur hcur hrest
  obtain ⟨cur', hmove, hrun⟩ := h text cur hcur hrest
  exact ⟨_, hmove.group hcur i, fun k hk => hrun _ hk⟩

theorem prefers_chars {c : Char} (hc : s.has c = true) (later : List Char) :
    (chars s).Prefers [c] later [] :=
  fun text _ _ hrest => ⟨_, Cursor.moves_pass text hrest, fun _ _ => run_chars_cons hrest hc⟩

theorem Prefers.ofList_literal {nodes : List Node} (h : (ofList nodes).Prefers w later t)
    (text : String) : (ofList (literal text ++ nodes)).Prefers (text.toList ++ w) later t := by
  unfold literal
  induction text.toList with
  | nil => exact h
  | cons c chars ih => simpa using (prefers_chars (has_just c) _).ofList_cons ih

/-- A greedy loop over a set takes all that it can get. -/
theorem prefers_loop {least : Nat} {most : Option Nat} (hw : ∀ c ∈ w, s.has c = true)
    (hleast : least ≤ w.length) (hmost : ∀ m ∈ most, w.length ≤ m)
    (hend : most = some w.length ∨ s.Stops later) :
    (loop least most true (chars s)).Prefers w later [] :=
  fun text _ _ hrest => ⟨_, Cursor.moves_pass text hrest, fun _ hk =>
    repeated_run hw hrest hleast hmost hend hk⟩

theorem fails_chars (h : s.Stops rest) : (chars s).Fails rest :=
  fun _ _ hcur => run_chars_stops (hcur ▸ h)

theorem Fails.ofList_cons {a : Node} (h : a.Fails rest) (nodes : List Node) :
    (ofList (a :: nodes)).Fails rest := by
  intro k cur hcur
  rw [run_ofList_cons, h _ cur hcur]

theorem fails_plus (h : s.Stops rest) (greedy : Bool) :
    (loop 1 none greedy (chars s)).Fails rest := by
  intro k cur hcur
  change onceOrMore greedy (chars s).run k cur = none
  rw [onceOrMore, run_chars_stops (hcur ▸ h)]

/-- The first branch is taken if it leads anywhere. -/
theorem Prefers.left {a : Node} (h : a.Prefers w later t) (b : Node) :
    (alt a b).Prefers w later t := by
  intro text cur hcur hrest
  obtain ⟨cur', hmove, hrun⟩ := h text cur hcur hrest
  refine ⟨cur', hmove, fun k hk => ?_⟩
  change (a.run k cur).or (b.run k cur) = k cur'
  rw [hrun k hk]
  exact Option.or_of_isSome hk

theorem Prefers.right {a b : Node} (ha : a.Fails (w ++ later)) (h : b.Prefers w later t) :
    (alt a b).Prefers w later t := by
  intro text cur hcur hrest
  obtain ⟨cur', hmove, hrun⟩ := h text cur hcur hrest
  refine ⟨cur', hmove, fun k hk => ?_⟩
  change (a.run k cur).or (b.run k cur) = k cur'
  rw [ha k cur hrest, Option.none_or, hrun k hk]

/-- What may be there is read if it is there. -/
theorem Prefers.optional {body : Node} (h : body.Prefers w later t) :
    (loop 0 (some 1) true body).Prefers w later t := by
  intro text cur hcur hrest
  obtain ⟨cur', hmove, hrun⟩ := h text cur hcur hrest
  refine ⟨cur', hmove, fun k hk => ?_⟩
  change (body.run k cur).or (k cur) = k cur'
  rw [hrun k hk]
  exact Option.or_of_isSome hk

theorem Fails.optional {body : Node} (h : body.Fails later) :
    (loop 0 (some 1) true body).Prefers [] later [] := by
  intro text cur _ hrest
  refine ⟨cur, .refl text cur, fun k _ => ?_⟩
  change (body.run k cur).or (k cur) = k cur
  rw [h k cur hrest, Option.none_or]

/-- A lazy group stops in front of the first character of the fixed text behind it. -/
theorem Prefers.lazy_group {c : Char} {tail : List Char} {text : String} {nodes : List Node}
    (hne : w ≠ []) (hw : ∀ d ∈ w, s.has d = true) (hc : c ∉ w) (htext : text.toList = c :: tail)
    (h : (ofList nodes).Prefers w' later t) (i : Nat) :
    (ofList (.group i (loop 1 none false (chars s)) :: (literal text ++ nodes))).Prefers
      (w ++ (text.toList ++ w')) later (t ++ [(i, w)]) := by
  intro text' cur hcur hrest
  have hmove := (Cursor.moves_pass text' (List.append_assoc w _ later ▸ hrest)).group hcur i
  obtain ⟨cur', hmove', hrun⟩ := h.ofList_literal text text' _ (hmove.isIn hcur)
    (List.append_cancel_left (hmove.rest.symm.trans (List.append_assoc w _ later ▸ hrest)))
  refine ⟨cur', hmove.trans hmove', fun k hk => ?_⟩
  have hfails : ∀ mid : Cursor, mid.rest.head? ≠ some c →
      (ofList (literal text ++ nodes)).run k mid = none := by
    intro mid hmid
    rw [literal, htext, List.map_cons, List.cons_append]
    refine (fails_chars fun d hd => ?_).ofList_cons _ k mid rfl
    rw [Bool.eq_false_iff, Ne, CharSet.has_just_iff]
    rintro rfl
    exact hmid hd
  have hnodes := hrun k hk
  rw [htext, List.append_assoc, List.cons_append] at hrest
  rw [run_ofList_cons, ← hnodes]
  exact lazy_run hne hw hc hrest (fun mid hmid => hfails _ hmid) (by rwa [hnodes])

end Node

/-- A pattern for the start of a text matches what its nodes prefer. -/
theorem find?_of_prefers {nodes : List Node} (p : Pattern)
    [p.AtStart (.ofList (.assertion .textStart :: nodes))] (h : (Node.ofList nodes).Prefers w later t) :
    ∃ m, p.find? (w ++ later) = some m ∧ m.captured = t := by
  obtain ⟨cur, hmove, hrun⟩ := h (w ++ later) ⟨0, none, w ++ later, []⟩ (by simp [IsIn]) rfl
  refine ⟨⟨w ++ later, 0, cur.pos, cur.captures⟩, ?_, ?_⟩
  · rw [find?_eq_run p, Node.run_ofList_cons]
    simp [Node.run, Assertion.holds, hrun some rfl]
  · simpa [Match.captured, capturedIn] using hmove.captures

end Logbook.Pattern
