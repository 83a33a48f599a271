import Logbook.Pattern.Spelling
import Logbook.Proofs.Pattern.Search
import Logbook.Proofs.Pattern.Sets

/-! A search finds only what the pattern spells. Each step of a search leads from one place of the
text to a later one, over a text that the node spells and with the captures it makes on the way. -/

namespace Logbook.Pattern

variable {text w w' : List Char} {t t' : Captured}

/-! ### Places in a text -/

namespace Cursor

variable {cur mid cur' : Cursor}

/-- The cursor stands in the text. -/
def IsIn (text : List Char) (cur : Cursor) : Prop := cur.rest = text.drop cur.pos

/-- The way from one cursor to another reads `w` and captures `t`. -/
structure Moves (text w : List Char) (t : Captured) (cur cur' : Cursor) : Prop where
  pos : cur'.pos = cur.pos + w.length
  rest : cur.rest = w ++ cur'.rest
  captures : capturedIn text cur'.captures = t ++ capturedIn text cur.captures

theorem Moves.refl (text : List Char) (cur : Cursor) : Moves text [] [] cur cur :=
  ⟨by simp, rfl, rfl⟩

theorem Moves.trans (h : Moves text w t cur mid) (h' : Moves text w' t' mid cur') :
    Moves text (w ++ w') (t' ++ t) cur cur' where
  pos := by simp [h'.pos, h.pos, Nat.add_assoc]
  rest := by rw [h.rest, h'.rest, List.append_assoc]
  captures := by rw [h'.captures, h.captures, List.append_assoc]

theorem Moves.isIn (h : Moves text w t cur cur') (hcur : cur.IsIn text) : cur'.IsIn text := by
  have hdrop : text.drop cur.pos = w ++ cur'.rest := hcur.symm.trans h.rest
  rw [IsIn, h.pos, ← List.drop_drop, hdrop, List.drop_left]

theorem Moves.char {c : Char} {rest : List Char} (h : cur.rest = c :: rest) :
    Moves text [c] [] cur ⟨cur.pos + 1, some c, rest, cur.captures⟩ :=
  ⟨rfl, h, rfl⟩

/-- A group captures what was read inside it. -/
theorem Moves.group (h : Moves text w t cur cur') (hcur : cur.IsIn text) (i : Nat) :
    Moves text w ((i, w) :: t) cur
      { cur' with captures := ⟨i, cur.pos, cur'.pos⟩ :: cur'.captures } where
  pos := h.pos
  rest := h.rest
  captures := by
    have hdrop : text.drop cur.pos = w ++ cur'.rest := hcur.symm.trans h.rest
    have hcaptures : List.map _ cur'.captures = t ++ capturedIn text cur.captures := h.captures
    simp [capturedIn, hcaptures, hdrop, h.pos]

end Cursor

open Cursor (IsIn Moves)

/-! ### Rounds -/

section Rounds

variable {P : List Char → Captured → Prop} {m n : Nat}

theorem Rounds.one (h : P w t) : Rounds P 1 w t := by
  simpa using Rounds.succ h .zero

theorem Rounds.append (h : Rounds P m w t) (h' : Rounds P n w' t') :
    Rounds P (m + n) (w ++ w') (t' ++ t) := by
  induction h with
  | zero => simpa using h'
  | succ first others ih =>
    have hrounds := Rounds.succ first ih
    simpa only [List.append_assoc, Nat.add_right_comm] using hrounds

end Rounds

/-! ### What a step of the search finds -/

/-- Where the step leads on, it has read and captured as `P` says. -/
def Follows (text : List Char) (P : List Char → Captured → Prop) (step : Next → Next) : Prop :=
  ∀ (k : Next) (cur r : Cursor), cur.IsIn text → step k cur = some r →
    ∃ w t cur', P w t ∧ Moves text w t cur cur' ∧ k cur' = some r

/-- Whichever of two ways is tried first, one of them is found. -/
theorem or_eq_some {greedy : Bool} {a b : Option Cursor} {r : Cursor}
    (h : (if greedy then a.or b else b.or a) = some r) : a = some r ∨ b = some r := by
  cases greedy
  · exact (Option.or_eq_some_iff.mp h |>.imp_right And.right).symm
  · exact Option.or_eq_some_iff.mp h |>.imp_right And.right

section Loops

variable {P : List Char → Captured → Prop} {step : Next → Next} (h : Follows text P step)

include h

theorem again_follows (greedy : Bool) (n : Nat) :
    Follows text (fun w t => ∃ j, Rounds P j w t) fun k => again greedy step k n := by
  induction n with
  | zero => exact fun k cur r _ hr => ⟨[], [], cur, ⟨0, .zero⟩, .refl text cur, hr⟩
  | succ n ih =>
    intro k cur r hcur hr
    rcases or_eq_some hr with hround | hleave
    · obtain ⟨w, t, mid, hP, hmove, hmid⟩ := h _ cur r hcur hround
      split at hmid
      · cases hmid
      · obtain ⟨w', t', cur', ⟨j, hrounds⟩, hmove', hr'⟩ := ih k mid r (hmove.isIn hcur) hmid
        exact ⟨_, _, cur', ⟨j + 1, .succ hP hrounds⟩, hmove.trans hmove', hr'⟩
    · exact ⟨[], [], cur, ⟨0, .zero⟩, .refl text cur, hleave⟩

theorem onceOrMore_follows (greedy : Bool) :
    Follows text (fun w t => ∃ j, 1 ≤ j ∧ Rounds P j w t) (onceOrMore greedy step) := by
  intro k cur r hcur hr
  obtain ⟨w, t, mid, hP, hmove, hmid⟩ := h _ cur r hcur hr
  split at hmid
  · exact ⟨w, t, mid, ⟨1, Nat.le_refl 1, .one hP⟩, hmove, hmid⟩
  · obtain ⟨w', t', cur', ⟨j, hrounds⟩, hmove', hr'⟩ :=
      again_follows h greedy _ k mid r (hmove.isIn hcur) hmid
    exact ⟨_, _, cur', ⟨j + 1, by omega, .succ hP hrounds⟩, hmove.trans hmove', hr'⟩

theorem anyTimes_follows (greedy : Bool) :
    Follows text (fun w t => ∃ j, Rounds P j w t) (anyTimes greedy step) := by
  intro k cur r hcur hr
  rcases or_eq_some hr with hround | hleave
  · obtain ⟨w, t, cur', ⟨j, -, hrounds⟩, hmove, hr'⟩ :=
      onceOrMore_follows h greedy k cur r hcur hround
    exact ⟨w, t, cur', ⟨j, hrounds⟩, hmove, hr'⟩
  · exact ⟨[], [], cur, ⟨0, .zero⟩, .refl text cur, hleave⟩

theorem exactly_follows (n : Nat) : Follows text (Rounds P n) (exactly step n) := by
  induction n with
  | zero => exact fun k cur r _ hr => ⟨[], [], cur, .zero, .refl text cur, hr⟩
  | succ n ih =>
    intro k cur r hcur hr
    obtain ⟨w, t, mid, hP, hmove, hmid⟩ := h _ cur r hcur hr
    obtain ⟨w', t', cur', hrounds, hmove', hr'⟩ := ih k mid r (hmove.isIn hcur) hmid
    exact ⟨_, _, cur', .succ hP hrounds, hmove.trans hmove', hr'⟩

theorem upTo_follows (greedy : Bool) (n : Nat) :
    Follows text (fun w t => ∃ j ≤ n, Rounds P j w t) (upTo greedy step n) := by
  induction n with
  | zero => exact fun k cur r _ hr => ⟨[], [], cur, ⟨0, Nat.le_refl 0, .zero⟩, .refl text cur, hr⟩
  | succ n ih =>
    intro k cur r hcur hr
    rcases or_eq_some hr with hround | hleave
    · obtain ⟨w, t, mid, hP, hmove, hmid⟩ := h _ cur r hcur hround
      obtain ⟨w', t', cur', ⟨j, hj, hrounds⟩, hmove', hr'⟩ := ih k mid r (hmove.isIn hcur) hmid
      exact ⟨_, _, cur', ⟨j + 1, by omega, .succ hP hrounds⟩, hmove.trans hmove', hr'⟩
    · exact ⟨[], [], cur, ⟨0, Nat.zero_le _, .zero⟩, .refl text cur, hleave⟩

theorem repeated_follows (least : Nat) (most : Option Nat) (greedy : Bool) :
    Follows text (fun w t => ∃ n, least ≤ n ∧ (∀ m ∈ most, n ≤ max least m) ∧ Rounds P n w t)
      (repeated least most greedy step) := by
  intro k cur r hcur hr
  match most, least, hr with
  | some most, least, hr =>
    obtain ⟨w, t, mid, hexact, hmove, hmid⟩ := exactly_follows h least _ cur r hcur hr
    obtain ⟨w', t', cur', ⟨j, hj, hrounds⟩, hmove', hr'⟩ :=
      upTo_follows h greedy _ k mid r (hmove.isIn hcur) hmid
    refine ⟨_, _, cur', ⟨least + j, by omega, ?_, hexact.append hrounds⟩, hmove.trans hmove', hr'⟩
    simp only [Option.mem_some_iff]
    omega
  | none, 0, hr =>
    obtain ⟨w, t, cur', ⟨j, hrounds⟩, hmove, hr'⟩ := anyTimes_follows h greedy k cur r hcur hr
    exact ⟨w, t, cur', ⟨j, Nat.zero_le j, by simp, hrounds⟩, hmove, hr'⟩
  | none, least + 1, hr =>
    obtain ⟨w, t, mid, hexact, hmove, hmid⟩ := exactly_follows h least _ cur r hcur hr
    obtain ⟨w', t', cur', ⟨j, hj, hrounds⟩, hmove', hr'⟩ :=
      onceOrMore_follows h greedy k mid r (hmove.isIn hcur) hmid
    exact ⟨_, _, cur', ⟨least + j, by omega, by simp, hexact.append hrounds⟩,
      hmove.trans hmove', hr'⟩

end Loops

namespace Node

/-- A node leads only over what it spells. -/
theorem run_follows (node : Node) : Follows text node.Spells node.run := by
  induction node with
  | empty => exact fun k cur r _ hr => ⟨[], [], cur, ⟨rfl, rfl⟩, .refl text cur, hr⟩
  | chars s =>
    intro k cur r _ hr
    simp only [run] at hr
    split at hr
    · cases hr
    · next c rest hrest =>
      split at hr
      · next hc => exact ⟨[c], [], _, ⟨c, hc, rfl, rfl⟩, .char hrest, hr⟩
      · cases hr
  | assertion a =>
    intro k cur r _ hr
    simp only [run] at hr
    split at hr
    · exact ⟨[], [], cur, ⟨rfl, rfl⟩, .refl text cur, hr⟩
    · cases hr
  | group i body ih =>
    intro k cur r hcur hr
    obtain ⟨w, t, cur', hspells, hmove, hr'⟩ := ih _ cur r hcur hr
    exact ⟨w, _, _, ⟨t, hspells, rfl⟩, hmove.group hcur i, hr'⟩
  | seq a b iha ihb =>
    intro k cur r hcur hr
    obtain ⟨w, t, mid, ha, hmove, hmid⟩ := iha _ cur r hcur hr
    obtain ⟨w', t', cur', hb, hmove', hr'⟩ := ihb k mid r (hmove.isIn hcur) hmid
    exact ⟨_, _, cur', ⟨w, w', t, t', ha, hb, rfl, rfl⟩, hmove.trans hmove', hr'⟩
  | alt a b iha ihb =>
    intro k cur r hcur hr
    rcases Option.or_eq_some_iff.mp hr with ha | ⟨-, hb⟩
    · obtain ⟨w, t, cur', hspells, hmove, hr'⟩ := iha k cur r hcur ha
      exact ⟨w, t, cur', .inl hspells, hmove, hr'⟩
    · obtain ⟨w, t, cur', hspells, hmove, hr'⟩ := ihb k cur r hcur hb
      exact ⟨w, t, cur', .inr hspells, hmove, hr'⟩
  | loop least most greedy body ih => exact repeated_follows ih least most greedy

/-! ### Spelling part by part -/

theorem spells_ofList_cons_iff {a : Node} {nodes : List Node} :
    (ofList (a :: nodes)).Spells w t ↔ ∃ w₁ w₂ t₁ t₂,
      a.Spells w₁ t₁ ∧ (ofList nodes).Spells w₂ t₂ ∧ w = w₁ ++ w₂ ∧ t = t₂ ++ t₁ := by
  cases nodes with
  | nil => simp [ofList, Spells]
  | cons b nodes => rfl

theorem spells_literal_iff {nodes : List Node} (text : String) :
    (ofList (literal text ++ nodes)).Spells w t ↔
      ∃ w', (ofList nodes).Spells w' t ∧ w = text.toList ++ w' := by
  unfold literal
  induction text.toList generalizing w t with
  | nil => simp
  | cons c chars ih =>
    rw [List.map_cons, List.cons_append, spells_ofList_cons_iff]
    simp only [Spells, ih, CharSet.has_just_iff]
    constructor
    · rintro ⟨_, _, _, _, ⟨c, rfl, rfl, rfl⟩, ⟨w', hw', rfl⟩, rfl, rfl⟩
      exact ⟨w', by simpa using hw', rfl⟩
    · rintro ⟨w', hw', rfl⟩
      exact ⟨[c], _, [], t, ⟨c, rfl, rfl, rfl⟩, ⟨w', hw', rfl⟩, rfl, by simp⟩

theorem rounds_chars {s : CharSet} {n : Nat} (h : Rounds (chars s).Spells n w t) :
    t = [] ∧ w.length = n ∧ ∀ c ∈ w, s.has c = true := by
  induction h with
  | zero => simp
  | succ first others ih =>
    obtain ⟨c, hc, rfl, rfl⟩ := first
    obtain ⟨rfl, hlength, hw⟩ := ih
    exact ⟨rfl, by simp [hlength], by simpa using ⟨hc, hw⟩⟩

theorem rounds_of_chars {s : CharSet} (hw : ∀ c ∈ w, s.has c = true) :
    Rounds (chars s).Spells w.length w [] := by
  induction w with
  | nil => exact .zero
  | cons c w ih =>
    have hfirst : (chars s).Spells [c] [] := ⟨c, hw c (by simp), rfl, rfl⟩
    exact .succ hfirst (ih fun d hd => hw d (by simp [hd]))

/-- A loop over a set spells runs of the set, within its bounds. -/
theorem spells_loop_chars {s : CharSet} {least : Nat} {most : Option Nat} {greedy : Bool}
    (h : (loop least most greedy (chars s)).Spells w t) :
    t = [] ∧ (∀ c ∈ w, s.has c = true) ∧ least ≤ w.length ∧
      ∀ m ∈ most, w.length ≤ max least m := by
  obtain ⟨n, hleast, hmost, hrounds⟩ := h
  obtain ⟨ht, rfl, hw⟩ := rounds_chars hrounds
  exact ⟨ht, hw, hleast, hmost⟩

theorem spells_optional {body : Node} {greedy : Bool}
    (h : (loop 0 (some 1) greedy body).Spells w t) : w = [] ∧ t = [] ∨ body.Spells w t := by
  obtain ⟨n, -, hmost, hrounds⟩ := h
  cases hrounds with
  | zero => exact .inl ⟨rfl, rfl⟩
  | succ first others =>
    cases others with
    | zero => exact .inr (by simpa using first)
    | succ => simp at hmost

/-! ### Captures by group -/

theorem rounds_lookup {P : List Char → Captured → Prop} {n i : Nat}
    (hP : ∀ w t, P w t → t.lookup i = none) (h : Rounds P n w t) : t.lookup i = none := by
  induction h with
  | zero => rfl
  | succ first others ih => rw [List.lookup_append, ih, hP _ _ first, Option.or_none]

/-- A group that a node does not have captures nothing there. -/
theorem Spells.lookup_eq_none {node : Node} {i : Nat} (h : node.Spells w t)
    (hi : node.hasGroup i = false) : t.lookup i = none := by
  induction node generalizing w t with
  | empty | assertion => rw [h.2, List.lookup_nil]
  | chars =>
    obtain ⟨c, -, -, rfl⟩ := h
    rfl
  | group j body ih =>
    obtain ⟨hj, hbody⟩ := Bool.or_eq_false_iff.mp hi
    obtain ⟨t, ht, rfl⟩ := h
    rw [List.lookup_cons, hj]
    exact ih ht hbody
  | seq a b iha ihb =>
    obtain ⟨ha, hb⟩ := Bool.or_eq_false_iff.mp hi
    obtain ⟨w₁, w₂, t₁, t₂, h₁, h₂, -, rfl⟩ := h
    rw [List.lookup_append, ihb h₂ hb, iha h₁ ha, Option.or_none]
  | alt a b iha ihb =>
    obtain ⟨ha, hb⟩ := Bool.or_eq_false_iff.mp hi
    exact h.elim (iha · ha) (ihb · hb)
  | loop least most greedy body ih =>
    obtain ⟨n, -, -, hrounds⟩ := h
    exact rounds_lookup (fun _ _ hround => ih hround hi) hrounds

/-- A node without groups captures nothing. -/
theorem Spells.eq_nil {node : Node} (h : node.Spells w t) (hnode : ∀ i, node.hasGroup i = false) :
    t = [] := by
  cases t with
  | nil => rfl
  | cons capture t =>
    have hnone := h.lookup_eq_none (hnode capture.1)
    simp at hnone

theorem hasGroup_ofList (i : Nat) (nodes : List Node) :
    (ofList nodes).hasGroup i = nodes.any (·.hasGroup i) := by
  induction nodes with
  | nil => rfl
  | cons a nodes ih =>
    cases nodes with
    | nil => simp [ofList]
    | cons b nodes =>
      change (a.hasGroup i || (ofList (b :: nodes)).hasGroup i) = _
      rw [ih]
      rfl

/-- What a group captures is captured in the one part that has it. -/
theorem Spells.lookup_of_filter {a : Node} {nodes : List Node} {i : Nat}
    (h : (ofList nodes).Spells w t) (ha : nodes.filter (·.hasGroup i) = [a]) :
    ∃ w' t', a.Spells w' t' ∧ t.lookup i = t'.lookup i := by
  induction nodes generalizing w t with
  | nil => cases ha
  | cons b nodes ih =>
    obtain ⟨w₁, w₂, t₁, t₂, h₁, h₂, -, rfl⟩ := spells_ofList_cons_iff.mp h
    cases hb : b.hasGroup i with
    | true =>
      rw [List.filter_cons_of_pos hb, List.cons_eq_cons, List.filter_eq_nil_iff] at ha
      obtain ⟨rfl, hothers⟩ := ha
      have hnone : (ofList nodes).hasGroup i = false := by
        rw [hasGroup_ofList, List.any_eq_false]
        exact hothers
      exact ⟨w₁, t₁, h₁, by rw [List.lookup_append, h₂.lookup_eq_none hnone, Option.none_or]⟩
    | false =>
      rw [List.filter_cons_of_neg (by simp [hb])] at ha
      obtain ⟨w', t', h', hlookup⟩ := ih h₂ ha
      exact ⟨w', t', h', by
        rw [List.lookup_append, hlookup, h₁.lookup_eq_none hb, Option.or_none]⟩

theorem Spells.lookup_of_group {body : Node} {nodes : List Node} {i : Nat}
    (h : (ofList nodes).Spells w t) (hi : nodes.filter (·.hasGroup i) = [group i body]) :
    ∃ text, body.Reads text ∧ t.lookup i = some text := by
  obtain ⟨text, t', ⟨t'', hbody, rfl⟩, hlookup⟩ := h.lookup_of_filter hi
  exact ⟨text, ⟨t'', hbody⟩, by simp [hlookup]⟩

/-- The only group of a part that may be missing. -/
theorem Spells.lookup_of_optional {body : Node} {nodes parts : List Node} {greedy : Bool} {i : Nat}
    (h : (ofList nodes).Spells w t)
    (hi : nodes.filter (·.hasGroup i) = [loop 0 (some 1) greedy (ofList parts)])
    (hparts : parts.filter (·.hasGroup i) = [group i body]) :
    ∀ text ∈ t.lookup i, body.Reads text := by
  obtain ⟨w', t', hoptional, hlookup⟩ := h.lookup_of_filter hi
  intro text htext
  rw [hlookup] at htext
  rcases spells_optional hoptional with ⟨-, rfl⟩ | hspells
  · cases htext
  · obtain ⟨text', hbody, htext'⟩ := hspells.lookup_of_group hparts
    rw [htext'] at htext
    exact Option.some.inj htext ▸ hbody

/-! ### Reading part by part -/

theorem reads_ofList_nil_iff : (ofList []).Reads w ↔ w = [] := by
  simp [ofList, Reads, Spells]

theorem reads_ofList_cons_iff {a : Node} {nodes : List Node} :
    (ofList (a :: nodes)).Reads w ↔ ∃ w₁ w₂, a.Reads w₁ ∧ (ofList nodes).Reads w₂ ∧ w = w₁ ++ w₂ := by
  simp only [Reads, spells_ofList_cons_iff]
  constructor
  · rintro ⟨_, w₁, w₂, t₁, t₂, h₁, h₂, hw, -⟩
    exact ⟨w₁, w₂, ⟨t₁, h₁⟩, ⟨t₂, h₂⟩, hw⟩
  · rintro ⟨w₁, w₂, ⟨t₁, h₁⟩, ⟨t₂, h₂⟩, hw⟩
    exact ⟨_, w₁, w₂, t₁, t₂, h₁, h₂, hw, rfl⟩

theorem reads_literal_iff {nodes : List Node} (text : String) :
    (ofList (literal text ++ nodes)).Reads w ↔
      ∃ w', (ofList nodes).Reads w' ∧ w = text.toList ++ w' := by
  simp only [Reads, spells_literal_iff]
  constructor
  · rintro ⟨t, w', h, hw⟩
    exact ⟨w', ⟨t, h⟩, hw⟩
  · rintro ⟨w', ⟨t, h⟩, hw⟩
    exact ⟨t, w', h, hw⟩

theorem Reads.ofList_cons {a : Node} {nodes : List Node} (ha : a.Reads w)
    (h : (ofList nodes).Reads w') : (ofList (a :: nodes)).Reads (w ++ w') :=
  reads_ofList_cons_iff.mpr ⟨w, w', ha, h, rfl⟩

theorem Reads.ofList_literal {nodes : List Node} (h : (ofList nodes).Reads w) (text : String) :
    (ofList (literal text ++ nodes)).Reads (text.toList ++ w) :=
  (reads_literal_iff text).mpr ⟨w, h, rfl⟩

theorem reads_ofList_literal_iff (text : String) :
    (ofList (literal text)).Reads w ↔ w = text.toList := by
  have hliteral : (ofList (literal text ++ [])).Reads w ↔
      ∃ w', (ofList []).Reads w' ∧ w = text.toList ++ w' := reads_literal_iff text
  simpa [reads_ofList_nil_iff] using hliteral

theorem reads_group_iff {i : Nat} {body : Node} : (group i body).Reads w ↔ body.Reads w := by
  simp [Reads, Spells]

theorem Reads.grouped {body : Node} (h : body.Reads w) (i : Nat) : (group i body).Reads w :=
  reads_group_iff.mpr h

theorem reads_chars_iff {s : CharSet} : (chars s).Reads w ↔ ∃ c, s.has c = true ∧ w = [c] := by
  simp [Reads, Spells]

theorem reads_assertion_iff {a : Assertion} : (assertion a).Reads w ↔ w = [] := by
  simp [Reads, Spells]

theorem reads_alt_iff {a b : Node} : (alt a b).Reads w ↔ a.Reads w ∨ b.Reads w := by
  simp [Reads, Spells, exists_or]

/-- A group without groups in it. -/
theorem Spells.group_cons {i : Nat} {body : Node} {nodes : List Node}
    (h : (ofList (group i body :: nodes)).Spells w t) (hbody : ∀ j, body.hasGroup j = false) :
    ∃ w₁ w₂ t₂, body.Reads w₁ ∧ (ofList nodes).Spells w₂ t₂ ∧ w = w₁ ++ w₂ ∧ t = t₂ ++ [(i, w₁)] := by
  obtain ⟨w₁, w₂, _, t₂, ⟨t₁, h₁, rfl⟩, h₂, rfl, rfl⟩ := spells_ofList_cons_iff.mp h
  obtain rfl := h₁.eq_nil hbody
  exact ⟨w₁, w₂, t₂, ⟨[], h₁⟩, h₂, rfl, rfl⟩

/-- A group without groups in it, and a fixed text behind it. -/
theorem Spells.field {i : Nat} {body : Node} {text : String} {nodes : List Node}
    (h : (ofList (group i body :: (literal text ++ nodes))).Spells w t)
    (hbody : ∀ j, body.hasGroup j = false) :
    ∃ w₁ w₂ t₂, body.Reads w₁ ∧ (ofList nodes).Spells w₂ t₂ ∧ w = w₁ ++ (text.toList ++ w₂) ∧
      t = t₂ ++ [(i, w₁)] := by
  obtain ⟨w₁, w', t₂, h₁, h', rfl, rfl⟩ := h.group_cons hbody
  obtain ⟨w₂, h₂, rfl⟩ := (spells_literal_iff text).mp h'
  exact ⟨w₁, w₂, t₂, h₁, h₂, rfl, rfl⟩

/-- A group, and a fixed text behind it. -/
theorem Reads.field {i : Nat} {body : Node} {text : String} {nodes : List Node}
    (h : (ofList (group i body :: (literal text ++ nodes))).Reads w) :
    ∃ w₁ w₂, body.Reads w₁ ∧ (ofList nodes).Reads w₂ ∧ w = w₁ ++ (text.toList ++ w₂) := by
  obtain ⟨w₁, w', hgroup, h', rfl⟩ := reads_ofList_cons_iff.mp h
  obtain ⟨w₂, hnodes, rfl⟩ := (reads_literal_iff text).mp h'
  exact ⟨w₁, w₂, reads_group_iff.mp hgroup, hnodes, rfl⟩

theorem Reads.loop_chars {s : CharSet} {least : Nat} {most : Option Nat} {greedy : Bool}
    (h : (loop least most greedy (chars s)).Reads w) :
    (∀ c ∈ w, s.has c = true) ∧ least ≤ w.length ∧ ∀ m ∈ most, w.length ≤ max least m := by
  obtain ⟨t, ht⟩ := h
  exact (spells_loop_chars ht).2

theorem reads_loop_chars {s : CharSet} {least : Nat} {most : Option Nat} {greedy : Bool}
    (hw : ∀ c ∈ w, s.has c = true) (hleast : least ≤ w.length)
    (hmost : ∀ m ∈ most, w.length ≤ max least m) : (loop least most greedy (chars s)).Reads w :=
  ⟨[], w.length, hleast, hmost, rounds_of_chars hw⟩

theorem Reads.optional {body : Node} {greedy : Bool} (h : (loop 0 (some 1) greedy body).Reads w) :
    w = [] ∨ body.Reads w := by
  obtain ⟨t, ht⟩ := h
  exact (spells_optional ht).imp And.left fun hbody => ⟨t, hbody⟩

/-- The node matches at the start of a text only. -/
def IsAnchored (node : Node) : Prop :=
  ∀ (k : Next) (cur : Cursor), cur.before.isSome → node.run k cur = none

theorem isAnchored_textStart (nodes : List Node) :
    (ofList (assertion .textStart :: nodes)).IsAnchored := by
  intro k cur hbefore
  have hfails : Assertion.textStart.holds cur = false := by
    simpa [Assertion.holds, Option.isSome_iff_ne_none] using hbefore
  cases nodes <;> simp [ofList, run, hfails]

theorem isAnchored_empty_cons {a : Node} {nodes : List Node} (h : (ofList (a :: nodes)).IsAnchored) :
    (ofList (empty :: a :: nodes)).IsAnchored :=
  fun k cur hbefore => h k cur hbefore

theorem search_eq_none {node : Node} (h : node.IsAnchored) (pos : Nat) {before : Option Char}
    (hbefore : before.isSome) (rest : List Char) : node.search pos before rest = none := by
  induction rest generalizing pos before with
  | nil => simp [search.eq_def, h some ⟨pos, before, [], []⟩ hbefore]
  | cons c rest ih => simpa [search, h some ⟨pos, before, c :: rest, []⟩ hbefore] using ih _ rfl

/-- Only the first place of a text is worth a try. -/
theorem search_start {node : Node} (h : node.IsAnchored) (text : List Char) :
    node.search 0 none text = (node.run some ⟨0, none, text, []⟩).map fun cur => (0, cur) := by
  rw [search.eq_def]
  cases node.run some ⟨0, none, text, []⟩ with
  | some cur => rfl
  | none =>
    cases text with
    | nil => rfl
    | cons c rest => exact search_eq_none h _ rfl rest

end Node

/-! ### Matches -/

variable {p : Pattern} {m : Match}

theorem Match.group?_eq_lookup {i : Nat} (hi : i ≠ 0) (m : Match) :
    m.group? i = m.captured.lookup i := by
  rw [Match.group?, if_neg hi, captured, capturedIn]
  induction m.captures with
  | nil => rfl
  | cons c captures ih =>
    by_cases hc : c.index = i
    · simp [hc, Match.slice]
    · have hb : (i == c.index) = false := by simpa using Ne.symm hc
      simpa [List.find?_cons, List.lookup_cons, hc, hb] using ih

/-- The pattern has this node, matches at the start of a text only and is searched by backtracking. -/
class AtStart (p : Pattern) (node : outParam Node) : Prop where
  node_eq : p.node = node
  isAnchored : node.IsAnchored
  nests_eq : node.nests = false

section AtStart

variable {node : Node} [p.AtStart node]

variable (p) in
theorem find?_eq_run (text : List Char) : p.find? text =
    (node.run some ⟨0, none, text, []⟩).map fun cur => ⟨text, 0, cur.pos, cur.captures⟩ := by
  simp [find?, AtStart.node_eq (p := p), AtStart.nests_eq p, Node.search_start (AtStart.isAnchored p),
    Function.comp_def]

/-- What matches at the start of a text is spelled by the pattern. -/
theorem find?_spells (h : p.find? text = some m) :
    ∃ w later, text = w ++ later ∧ node.Spells w m.captured := by
  rw [find?_eq_run p] at h
  obtain ⟨r, hr, rfl⟩ := Option.map_eq_some_iff.mp h
  have hstart : IsIn text ⟨0, none, text, []⟩ := rfl
  obtain ⟨w, t, cur, hspells, hmove, hcur⟩ := node.run_follows some _ r hstart hr
  obtain rfl := Option.some.inj hcur
  have hcaptured : Match.captured ⟨text, 0, cur.pos, cur.captures⟩ = t := by
    simpa [Match.captured, capturedIn] using hmove.captures
  exact ⟨w, cur.rest, hmove.rest, hcaptured ▸ hspells⟩

theorem find?_reads (h : p.find? text = some m) :
    ∃ w later, text = w ++ later ∧ node.Reads w := by
  obtain ⟨w, later, htext, hspells⟩ := find?_spells h
  exact ⟨w, later, htext, _, hspells⟩

end AtStart

theorem find?_spells_nodes {nodes : List Node} [p.AtStart (.ofList (.assertion .textStart :: nodes))]
    (h : p.find? text = some m) :
    ∃ w later, text = w ++ later ∧ (Node.ofList nodes).Spells w m.captured := by
  obtain ⟨w, later, htext, hspells⟩ := find?_spells h
  obtain ⟨_, w', _, t, ⟨rfl, rfl⟩, hnodes, hw, ht⟩ := Node.spells_ofList_cons_iff.mp hspells
  rw [List.append_nil] at ht
  exact ⟨w', later, by rw [htext, hw, List.nil_append], ht ▸ hnodes⟩

theorem find?_reads_nodes {nodes : List Node} [p.AtStart (.ofList (.assertion .textStart :: nodes))]
    (h : p.find? text = some m) : ∃ w later, text = w ++ later ∧ (Node.ofList nodes).Reads w := by
  obtain ⟨w, later, htext, hspells⟩ := find?_spells_nodes h
  exact ⟨w, later, htext, _, hspells⟩

end Logbook.Pattern
