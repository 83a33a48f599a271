import Logbook.Proofs.Json.Scalar
import Logbook.Proofs.Json.Value
import Mathlib.Data.List.DropRight

/-! What is written is read back. Every text of a value gives the value, or is refused for its depth
alone: each level takes one from the room for levels, and the fuel is twice the length of the
text. -/

namespace Logbook.Json

variable {n room : Nat} {rest : List Char}

/-! ### White space -/

theorem isLayout_nil : IsLayout [] := by
  simp [IsLayout]

theorem skipSpace_cons {c : Char} {s : List Char} (h : isSpace c = false) :
    skipSpace (c :: s) = c :: s := by
  simp [skipSpace, h]

theorem skipSpace_append {a : List Char} (ha : IsLayout a) (s : List Char) :
    skipSpace (a ++ s) = skipSpace s :=
  List.dropWhile_append_of_pos ha

theorem skipSpace_layout_cons {a : List Char} (ha : IsLayout a) {c : Char}
    (h : isSpace c = false) (s : List Char) : skipSpace (a ++ c :: s) = c :: s := by
  rw [skipSpace_append ha, skipSpace_cons h]

theorem IsLayout.stops {b s : List Char} (hb : IsLayout b) (h : Stops s) : Stops (b ++ s) := by
  cases b with
  | nil => exact h
  | cons e b =>
    intro d hd
    obtain rfl : e = d := by simpa using hd
    have hspace := hb e (by simp)
    simp only [isSpace, Bool.or_eq_true, beq_iff_eq] at hspace
    rcases hspace with ((rfl | rfl) | rfl) | rfl <;> decide

theorem IsLayout.finished {b : List Char} (hb : IsLayout b) : finished b = .ok () := by
  simp [Json.finished, skipSpace, List.dropWhile_eq_nil_iff.mpr hb]

/-- Behind a value stands the end of what is around it, or a comma. -/
theorem stops_layout {b : List Char} (hb : IsLayout b) {c : Char}
    (h : c = ',' ∨ c = ']' ∨ c = '\x7d') (s : List Char) : Stops (b ++ c :: s) := by
  apply hb.stops
  intro d hd
  obtain rfl : c = d := by simpa using hd
  rcases h with rfl | rfl | rfl <;> decide

theorem following_close {b : List Char} (hb : IsLayout b) (close : Char)
    (hspace : isSpace close = false) (rest : List Char) :
    following close (b ++ close :: rest) = .ok (false, rest) := by
  simp [following, skipSpace_layout_cons hb hspace]

theorem following_comma {b : List Char} (hb : IsLayout b) {close c : Char} {s : List Char}
    (hclose : close ≠ ',') (hs : (skipSpace s).head? = some c) (hc : c ≠ close) :
    following close (b ++ ',' :: s) = .ok (true, skipSpace s) := by
  have hcomma : skipSpace (b ++ ',' :: s) = ',' :: s := skipSpace_layout_cons hb (by decide) s
  obtain ⟨tail, htail⟩ := List.head?_eq_some_iff.mp hs
  simp [following, hcomma, htail, Ne.symm hclose, hc]

theorem opened_close {a : List Char} (ha : IsLayout a) (close : Char)
    (hspace : isSpace close = false) (rest : List Char) :
    opened close (a ++ close :: rest) = .ok (true, rest) := by
  simp [opened, skipSpace_layout_cons ha hspace]

theorem opened_cons {close c : Char} {s : List Char} (hs : (skipSpace s).head? = some c)
    (hc : c ≠ close) : opened close s = .ok (false, skipSpace s) := by
  obtain ⟨tail, htail⟩ := List.head?_eq_some_iff.mp hs
  simp [opened, htail, hc]

theorem colon_append {b : List Char} (hb : IsLayout b) (rest : List Char) :
    colon (b ++ ':' :: rest) = .ok rest := by
  rw [colon, skipSpace_layout_cons hb (by decide), expect, if_pos rfl]

/-! ### How texts begin -/

theorem ne_of_isDigit {c d : Char} (h : c.isDigit = true) (hd : d.isDigit = false) : c ≠ d := by
  rintro rfl
  simp [h] at hd

theorem isSpace_of_isDigit {c : Char} (h : c.isDigit = true) : isSpace c = false := by
  have hne {d : Char} (hd : d.isDigit = false) : c ≠ d := ne_of_isDigit h hd
  simp [isSpace, hne (d := ' ') (by decide), hne (d := '\n') (by decide),
    hne (d := '\t') (by decide), hne (d := '\r') (by decide)]

theorem WritesString.exists_cons {s : String} {t : List Char} (h : WritesString s t) :
    ∃ inside, t = '"' :: inside := by
  cases h with
  | quoted h => exact ⟨_, rfl⟩

/-- No value begins like white space or the end of an array. -/
theorem Writes.exists_cons {v : Value} {t : List Char} (h : Writes (.value v) t) :
    ∃ c s, t = c :: s ∧ isSpace c = false ∧ c ≠ ']' := by
  cases h with
  | null => exact ⟨_, _, rfl, by decide, by decide⟩
  | bool b => cases b <;> exact ⟨_, _, rfl, by decide, by decide⟩
  | number h =>
    cases h with
    | unsigned h =>
      obtain ⟨c, s, rfl, hc⟩ := exists_digit h
      exact ⟨c, s, rfl, isSpace_of_isDigit hc, ne_of_isDigit hc (by decide)⟩
    | negative h => exact ⟨_, _, rfl, by decide, by decide⟩
  | string h =>
    obtain ⟨inside, rfl⟩ := h.exists_cons
    exact ⟨_, _, rfl, by decide, by decide⟩
  | emptyArray ha => exact ⟨_, _, rfl, by decide, by decide⟩
  | array h => exact ⟨_, _, rfl, by decide, by decide⟩
  | emptyObject ha => exact ⟨_, _, rfl, by decide, by decide⟩
  | object h => exact ⟨_, _, rfl, by decide, by decide⟩

theorem Writes.length_pos {v : Value} {t : List Char} (h : Writes (.value v) t) :
    0 < t.length := by
  obtain ⟨c, s, rfl, -⟩ := h.exists_cons
  exact Nat.zero_lt_succ _

/-- There is fuel for the first step. -/
theorem Writes.exists_succ {v : Value} {t : List Char} (h : Writes (.value v) t)
    (hn : 3 * t.length ≤ n + 1) : ∃ m, n = m + 1 := by
  have hpos := h.length_pos
  exact ⟨n - 1, by omega⟩

/-- What has depth begins with a bracket or a brace. -/
theorem Writes.exists_bracket {v : Value} {t : List Char} (h : Writes (.value v) t)
    (hv : v.depth ≠ 0) : ∃ c s, t = c :: s ∧ (c = '[' ∨ c = '\x7b') := by
  cases h with
  | null => exact absurd rfl hv
  | bool b => exact absurd rfl hv
  | number h => exact absurd rfl hv
  | string h => exact absurd rfl hv
  | emptyArray ha => exact ⟨_, _, rfl, .inl rfl⟩
  | array h => exact ⟨_, _, rfl, .inl rfl⟩
  | emptyObject ha => exact ⟨_, _, rfl, .inr rfl⟩
  | object h => exact ⟨_, _, rfl, .inr rfl⟩

/-- The items of an array do not begin like its end. -/
theorem Writes.head_items {vs : List Value} {t : List Char} (h : Writes (.items vs) t)
    (rest : List Char) : ∃ c, (skipSpace (t ++ rest)).head? = some c ∧ c ≠ ']' := by
  cases h with
  | item ha hv hb =>
    obtain ⟨c, s, rfl, hspace, hc⟩ := hv.exists_cons
    exact ⟨c, by simp [skipSpace_append ha, skipSpace_cons hspace], hc⟩
  | items ha hv hb hvs =>
    obtain ⟨c, s, rfl, hspace, hc⟩ := hv.exists_cons
    exact ⟨c, by simp [skipSpace_append ha, skipSpace_cons hspace], hc⟩

theorem WritesKey.head {k : String} {t : List Char} (h : WritesKey k t) (rest : List Char) :
    (skipSpace (t ++ rest)).head? = some '"' := by
  have hquote : isSpace '"' = false := by decide
  cases h with
  | key ha hk hb hc =>
    obtain ⟨inside, rfl⟩ := hk.exists_cons
    simp [skipSpace_append ha, skipSpace_cons hquote]

theorem Writes.head_members {ms : Members} {t : List Char} (h : Writes (.members ms) t)
    (rest : List Char) : (skipSpace (t ++ rest)).head? = some '"' := by
  cases h with
  | member hk hv hb =>
    rw [List.append_assoc, List.append_assoc]
    exact hk.head _
  | members hk hv hb hms =>
    rw [List.append_assoc, List.append_assoc, List.append_assoc]
    exact hk.head _

/-- A single member, with its key and what stands behind it. -/
theorem Writes.exists_single {k : String} {v : Value} {u : List Char}
    (h : Writes (.members [(k, v)]) u) :
    ∃ s t b, WritesKey k s ∧ Writes (.value v) t ∧ IsLayout b ∧ u = s ++ t ++ b := by
  cases h with
  | @member _ _ s t b hk hv hb => exact ⟨s, t, b, hk, hv, hb, rfl⟩
  | members _ _ _ hms => cases hms

/-! ### Scalars -/

theorem scalar?_digit {c : Char} {s : List Char} (h : c.isDigit = true) :
    scalar? .use c s = some ((number .use false (c :: s)).map fun (n, s) => (.number n, s)) := by
  have hne {d : Char} (hd : d.isDigit = false) : c ≠ d := ne_of_isDigit h hd
  simp [scalar?, h, hne (d := 'n') (by decide), hne (d := 't') (by decide),
    hne (d := 'f') (by decide), hne (d := '-') (by decide)]

/-- The text of a value without depth, of which the first character tells the kind. -/
def IsScalarText (v : Value) (t : List Char) : Prop :=
  ∃ c s, t = c :: s ∧ isSpace c = false ∧ c ≠ '[' ∧ c ≠ '\x7b' ∧
    ∀ rest, Stops rest → scalar? .use c (s ++ rest) = some (.ok (v, rest))

theorem isScalarText_number {m : Number} {t : List Char} (h : WritesNumber m t) :
    IsScalarText (.number m) t := by
  have hread {negative : Bool} {t : List Char} (hread : number .use negative t = .ok (m, []))
      {rest : List Char} (hrest : Stops rest) : number .use negative (t ++ rest) = .ok (m, rest) :=
    (isLocal_number negative).append hread hrest
  cases h with
  | unsigned h =>
    obtain ⟨c, s, rfl, hc⟩ := exists_digit h
    refine ⟨c, s, rfl, isSpace_of_isDigit hc, ne_of_isDigit hc (by decide),
      ne_of_isDigit hc (by decide), fun rest hrest => ?_⟩
    rw [scalar?_digit hc, ← List.cons_append, hread h hrest]
    rfl
  | negative h =>
    refine ⟨'-', _, rfl, by decide, by decide, by decide, fun rest hrest => ?_⟩
    simp [scalar?, hread h hrest]

theorem isScalarText_string {s : String} {t : List Char} (h : WritesString s t) :
    IsScalarText (.string s) t := by
  cases h with
  | @quoted t h =>
    refine ⟨'"', t ++ ['"'], rfl, by decide, by decide, by decide, fun rest _ => ?_⟩
    rw [List.append_assoc, List.singleton_append]
    simp [scalar?, quoted_chars h]

theorem Writes.isScalarText {v : Value} {t : List Char} (h : Writes (.value v) t)
    (hv : v.depth = 0) : IsScalarText v t := by
  cases h with
  | null => exact ⟨_, _, rfl, by decide, by decide, by decide, fun _ _ => rfl⟩
  | bool b => cases b <;> exact ⟨_, _, rfl, by decide, by decide, by decide, fun _ _ => rfl⟩
  | number h => exact isScalarText_number h
  | string h => exact isScalarText_string h
  | emptyArray => cases hv
  | array => cases hv
  | emptyObject => cases hv
  | object => cases hv

/-- Only objects begin with a brace. -/
theorem Writes.head_ne_brace {v : Value} {t : List Char} (h : Writes (.value v) t)
    (hv : ∀ ms, v ≠ .object ms) (rest : List Char) : (t ++ rest).head? ≠ some '\x7b' := by
  have hscalar {v : Value} {t : List Char} (hscalar : IsScalarText v t) :
      (t ++ rest).head? ≠ some '\x7b' := by
    obtain ⟨c, s, rfl, -, -, hc, -⟩ := hscalar
    simpa using hc
  cases h with
  | null => exact hscalar (Writes.null.isScalarText rfl)
  | bool b => exact hscalar ((Writes.bool b).isScalarText rfl)
  | number h => exact hscalar (isScalarText_number h)
  | string h => exact hscalar (isScalarText_string h)
  | emptyArray ha => simp
  | array h => simp
  | emptyObject ha => exact absurd rfl (hv [])
  | object h => exact absurd rfl (hv _)

/-- Only strings begin with a quote. -/
theorem Writes.head_ne_quote {v : Value} {t : List Char} (h : Writes (.value v) t)
    (hv : ∀ s, v ≠ .string s) (rest : List Char) : (t ++ rest).head? ≠ some '"' := by
  by_cases hd : v.depth = 0
  · obtain ⟨c, inside, rfl, -, -, -, hread⟩ := h.isScalarText hd
    intro hc
    obtain rfl : c = '"' := by simpa using hc
    have hquoted (s : List Char) : scalar? .use '"' s =
        some ((quoted .use s).map fun r => (.string r.1, r.2)) := rfl
    have hstring := hread [] stops_nil
    rw [hquoted] at hstring
    obtain ⟨⟨x, _⟩, -, hx⟩ := map_eq_ok_iff.mp (Option.some.inj hstring)
    exact hv x (Prod.mk.inj hx).1.symm
  · obtain ⟨c, inside, rfl, rfl | rfl⟩ := h.exists_bracket hd
    · simp
    · simp

theorem value_scalar {v : Value} {t : List Char} (h : IsScalarText v t) (hrest : Stops rest) :
    value .use (n + 1) room (t ++ rest) = .ok (v, rest) := by
  obtain ⟨c, s, rfl, hspace, -, -, hread⟩ := h
  rw [List.cons_append, value, skipSpace_cons hspace]
  simp [hread rest hrest]

/-! ### Arrays and objects -/

theorem skipSpace_skipSpace (s : List Char) : skipSpace (skipSpace s) = skipSpace s :=
  List.dropWhile_idempotent isSpace s

theorem value_skipSpace (mode : Mode) (n room : Nat) (s : List Char) :
    value mode n room (skipSpace s) = value mode n room s := by
  cases n with
  | zero => simp [value]
  | succ n => rw [value, value, skipSpace_skipSpace]

theorem value_layout (mode : Mode) (n room : Nat) {a : List Char} (ha : IsLayout a)
    (s : List Char) : value mode n room (a ++ s) = value mode n room s := by
  rw [← value_skipSpace, skipSpace_append ha, value_skipSpace]

theorem elements_skipSpace (mode : Mode) (n room : Nat) (s : List Char) :
    elements mode n room (skipSpace s) = elements mode n room s := by
  cases n with
  | zero => simp [elements]
  | succ n => rw [elements, elements, value_skipSpace]

/-- The key is read, and the colon behind it. -/
theorem WritesKey.reads {k : String} {t : List Char} (h : WritesKey k t) (rest : List Char) :
    ∃ s c, Json.key .use (skipSpace (t ++ rest)) = .ok (k, s) ∧ IsLayout c ∧
      colon s = .ok (c ++ rest) := by
  cases h with
  | @key a t b c ha hk hb hc =>
    refine ⟨b ++ ':' :: (c ++ rest), c, ?_, hc, colon_append hb _⟩
    obtain ⟨inside, rfl⟩ := hk.exists_cons
    have hquote : isSpace '"' = false := by decide
    have hkey := key_append hk (b ++ ':' :: (c ++ rest))
    simp only [List.append_assoc, List.cons_append, skipSpace_append ha,
      skipSpace_cons hquote] at hkey ⊢
    exact hkey

theorem elements_last {v : Value} {b s : List Char} (hb : IsLayout b)
    (h : value .use n room s = .ok (v, b ++ ']' :: rest)) :
    elements .use (n + 1) room s = .ok ([v], rest) := by
  simp [elements, h, following_close hb ']' (by decide)]

theorem elements_next {v : Value} {b s s' : List Char} {c : Char} (hb : IsLayout b)
    (h : value .use n room s = .ok (v, b ++ ',' :: s')) (hs : (skipSpace s').head? = some c)
    (hc : c ≠ ']') :
    elements .use (n + 1) room s =
      (elements .use n room s').map fun (items, s) => (v :: items, s) := by
  rw [elements, h, ← elements_skipSpace .use n room s']
  simp only [ok_bind, following_comma hb (by decide) hs hc, if_true]
  cases elements .use n room (skipSpace s') <;> rfl

theorem elements_error {e : Fault} {s : List Char} (h : value .use n room s = .error e) :
    elements .use (n + 1) room s = .error e := by
  simp [elements, h]

theorem members_last {k : String} {v : Value} {t b s : List Char} (hk : WritesKey k t)
    (hb : IsLayout b) (h : value .use n room s = .ok (v, b ++ '\x7d' :: rest)) :
    members .use (n + 1) room (skipSpace (t ++ s)) = .ok ([(k, v)], rest) := by
  obtain ⟨behind, c, hkey, hc, hcolon⟩ := hk.reads s
  simp [members, hkey, hcolon, value_layout _ _ _ hc, h, following_close hb '\x7d' (by decide)]

theorem members_next {k : String} {v : Value} {t b s s' : List Char} (hk : WritesKey k t)
    (hb : IsLayout b) (h : value .use n room s = .ok (v, b ++ ',' :: s'))
    (hs : (skipSpace s').head? = some '"') :
    members .use (n + 1) room (skipSpace (t ++ s)) =
      (members .use n room (skipSpace s')).map fun (members, s) => ((k, v) :: members, s) := by
  obtain ⟨behind, c, hkey, hc, hcolon⟩ := hk.reads s
  have hfollowing : following '\x7d' (b ++ ',' :: s') = .ok (true, skipSpace s') :=
    following_comma hb (by decide) hs (by decide)
  rw [members, hkey]
  simp only [ok_bind, hcolon, value_layout _ _ _ hc, h, hfollowing, if_true]
  cases members .use n room (skipSpace s') <;> rfl

theorem members_error {k : String} {e : Fault} {t s : List Char} (hk : WritesKey k t)
    (h : value .use n room s = .error e) :
    members .use (n + 1) room (skipSpace (t ++ s)) = .error e := by
  obtain ⟨behind, c, hkey, hc, hcolon⟩ := hk.reads s
  simp [members, hkey, hcolon, value_layout _ _ _ hc, h]

theorem value_bracket (s : List Char) :
    value .use (n + 1) (room + 2) ('[' :: s) =
      (opened ']' s >>= fun (isEmpty, s) =>
        if isEmpty then .ok (.array [], s)
        else (elements .use n (room + 1) s).map fun (items, s) => (.array items, s)) := by
  have hscalar : scalar? .use '[' s = none := rfl
  have hroom : ¬ room + 2 ≤ 1 := by omega
  rw [value, skipSpace_cons (by decide)]
  simp only [hscalar, hroom, if_true, if_false]
  congr

theorem value_brace (s : List Char) :
    value .use (n + 1) (room + 2) ('\x7b' :: s) =
      (opened '\x7d' s >>= fun (isEmpty, s) =>
        if isEmpty then .ok (.object [], s)
        else (members .use n (room + 1) s).map fun (ms, s) => (.object ms, s)) := by
  have hscalar : scalar? .use '\x7b' s = none := rfl
  have hroom : ¬ room + 2 ≤ 1 := by omega
  have hbracket : ¬ '\x7b' = '[' := by decide
  rw [value, skipSpace_cons (by decide)]
  simp only [hscalar, hroom, hbracket, if_true, if_false]
  congr

theorem value_no_room {c : Char} (hc : c = '[' ∨ c = '\x7b') (s : List Char) :
    value .use (n + 1) 1 (c :: s) = .error .malformed := by
  rcases hc with rfl | rfl <;> rfl

/-- With enough fuel only the depth decides whether what is written comes back. -/
def Part.Reads : Part → List Char → Prop
  | value v, t => ∀ n room rest, 2 * t.length ≤ n → Stops rest →
      Json.value .use n (room + 1) (t ++ rest) =
        if v.depth ≤ room then .ok (v, rest) else .error .malformed
  | items vs, t => ∀ n room rest, 2 * t.length < n →
      elements .use n (room + 1) (t ++ ']' :: rest) =
        if Value.itemDepth vs ≤ room then .ok (vs, rest) else .error .malformed
  | members ms, t => ∀ n room rest, 2 * t.length < n →
      Json.members .use n (room + 1) (skipSpace (t ++ '\x7d' :: rest)) =
        if Value.memberDepth ms ≤ room then .ok (ms, rest) else .error .malformed

theorem reads_scalar {v : Value} {t : List Char} (h : IsScalarText v t) (hv : v.depth = 0) :
    (Part.value v).Reads t := by
  intro n room rest hn hrest
  have hpos : 0 < t.length := by
    obtain ⟨c, s, rfl, -⟩ := h
    simp
  obtain ⟨n, rfl⟩ : ∃ m, n = m + 1 := ⟨n - 1, by omega⟩
  rw [value_scalar h hrest, hv, if_pos (Nat.zero_le room)]

theorem reads_emptyArray {a : List Char} (ha : IsLayout a) :
    (Part.value (.array [])).Reads ('[' :: a ++ [']']) := by
  intro n room rest hn _
  obtain ⟨n, rfl⟩ : ∃ m, n = m + 1 := ⟨n - 1, by simp at hn; omega⟩
  rw [List.cons_append, List.cons_append, List.append_assoc, List.singleton_append]
  cases room with
  | zero => exact value_no_room (.inl rfl) _
  | succ room =>
    rw [value_bracket, opened_close ha ']' (by decide)]
    simp [Value.depth, Value.itemDepth]

theorem reads_emptyObject {a : List Char} (ha : IsLayout a) :
    (Part.value (.object [])).Reads ('\x7b' :: a ++ ['\x7d']) := by
  intro n room rest hn _
  obtain ⟨n, rfl⟩ : ∃ m, n = m + 1 := ⟨n - 1, by simp at hn; omega⟩
  rw [List.cons_append, List.cons_append, List.append_assoc, List.singleton_append]
  cases room with
  | zero => exact value_no_room (.inr rfl) _
  | succ room =>
    rw [value_brace, opened_close ha '\x7d' (by decide)]
    simp [Value.depth, Value.memberDepth]

theorem reads_array {vs : List Value} {t : List Char} (hvs : Writes (.items vs) t)
    (h : (Part.items vs).Reads t) : (Part.value (.array vs)).Reads ('[' :: t ++ [']']) := by
  intro n room rest hn _
  obtain ⟨n, rfl⟩ : ∃ m, n = m + 1 := ⟨n - 1, by simp at hn; omega⟩
  rw [List.cons_append, List.cons_append, List.append_assoc, List.singleton_append]
  cases room with
  | zero => rw [value_no_room (.inl rfl), if_neg (by simp [Value.depth])]
  | succ room =>
    obtain ⟨c, hhead, hc⟩ := hvs.head_items (']' :: rest)
    have hitems := h n room rest (by simp at hn; omega)
    rw [value_bracket, opened_cons hhead hc, ok_bind]
    simp only [Bool.false_eq_true, if_false, elements_skipSpace, hitems, Value.depth,
      Nat.add_le_add_iff_right]
    by_cases hd : Value.itemDepth vs ≤ room <;> simp [hd]

theorem reads_object {ms : Members} {t : List Char} (hms : Writes (.members ms) t)
    (h : (Part.members ms).Reads t) :
    (Part.value (.object ms)).Reads ('\x7b' :: t ++ ['\x7d']) := by
  intro n room rest hn _
  obtain ⟨n, rfl⟩ : ∃ m, n = m + 1 := ⟨n - 1, by simp at hn; omega⟩
  rw [List.cons_append, List.cons_append, List.append_assoc, List.singleton_append]
  cases room with
  | zero => rw [value_no_room (.inr rfl), if_neg (by simp [Value.depth])]
  | succ room =>
    have hmembers := h n room rest (by simp at hn; omega)
    rw [value_brace, opened_cons (hms.head_members _) (by decide), ok_bind]
    simp only [Bool.false_eq_true, if_false, hmembers, Value.depth, Nat.add_le_add_iff_right]
    by_cases hd : Value.memberDepth ms ≤ room <;> simp [hd]

theorem reads_item {v : Value} {a t b : List Char} (ha : IsLayout a) (hb : IsLayout b)
    (h : (Part.value v).Reads t) : (Part.items [v]).Reads (a ++ t ++ b) := by
  intro n room rest hn
  obtain ⟨n, rfl⟩ : ∃ m, n = m + 1 := ⟨n - 1, by omega⟩
  have hfirst := h n room (b ++ ']' :: rest) (by simp at hn; omega) (stops_layout hb (by simp) _)
  rw [← value_layout .use n (room + 1) ha] at hfirst
  simp only [List.append_assoc, Value.itemDepth, Nat.max_zero]
  by_cases hd : v.depth ≤ room
  · rw [if_pos hd] at hfirst ⊢
    exact elements_last hb hfirst
  · rw [if_neg hd] at hfirst ⊢
    exact elements_error hfirst

theorem reads_items {v : Value} {vs : List Value} {a t b u : List Char} (ha : IsLayout a)
    (hb : IsLayout b) (hvs : Writes (.items vs) u) (h : (Part.value v).Reads t)
    (hrest : (Part.items vs).Reads u) : (Part.items (v :: vs)).Reads (a ++ t ++ b ++ ',' :: u) := by
  intro n room rest hn
  obtain ⟨n, rfl⟩ : ∃ m, n = m + 1 := ⟨n - 1, by omega⟩
  have hfirst := h n room (b ++ ',' :: (u ++ ']' :: rest)) (by simp at hn; omega)
    (stops_layout hb (by simp) _)
  rw [← value_layout .use n (room + 1) ha] at hfirst
  have hothers := hrest n room rest (by simp at hn; omega)
  obtain ⟨c, hhead, hc⟩ := hvs.head_items (']' :: rest)
  simp only [List.append_assoc, List.cons_append, Value.itemDepth, Nat.max_le]
  by_cases hd : v.depth ≤ room
  · rw [if_pos hd] at hfirst
    rw [elements_next hb hfirst hhead hc, hothers]
    by_cases hds : Value.itemDepth vs ≤ room <;> simp [hd, hds]
  · rw [if_neg hd] at hfirst
    simp [elements_error hfirst, hd]

theorem reads_member {k : String} {v : Value} {s t b : List Char} (hk : WritesKey k s)
    (hb : IsLayout b) (h : (Part.value v).Reads t) :
    (Part.members [(k, v)]).Reads (s ++ t ++ b) := by
  intro n room rest hn
  obtain ⟨n, rfl⟩ : ∃ m, n = m + 1 := ⟨n - 1, by omega⟩
  have hfirst := h n room (b ++ '\x7d' :: rest) (by simp at hn; omega)
    (stops_layout hb (by simp) _)
  simp only [List.append_assoc, Value.memberDepth, Nat.max_zero]
  by_cases hd : v.depth ≤ room
  · rw [if_pos hd] at hfirst ⊢
    exact members_last hk hb hfirst
  · rw [if_neg hd] at hfirst ⊢
    exact members_error hk hfirst

theorem reads_members {k : String} {v : Value} {ms : Members} {s t b u : List Char}
    (hk : WritesKey k s) (hb : IsLayout b) (hms : Writes (.members ms) u)
    (h : (Part.value v).Reads t) (hrest : (Part.members ms).Reads u) :
    (Part.members ((k, v) :: ms)).Reads (s ++ t ++ b ++ ',' :: u) := by
  intro n room rest hn
  obtain ⟨n, rfl⟩ : ∃ m, n = m + 1 := ⟨n - 1, by omega⟩
  have hfirst := h n room (b ++ ',' :: (u ++ '\x7d' :: rest)) (by simp at hn; omega)
    (stops_layout hb (by simp) _)
  have hothers := hrest n room rest (by simp at hn; omega)
  simp only [List.append_assoc, List.cons_append, Value.memberDepth, Nat.max_le]
  by_cases hd : v.depth ≤ room
  · rw [if_pos hd] at hfirst
    rw [members_next hk hb hfirst (hms.head_members _), hothers]
    by_cases hds : Value.memberDepth ms ≤ room <;> simp [hd, hds]
  · rw [if_neg hd] at hfirst
    simp [members_error hk hfirst, hd]

/-- Every text of the grammar is read. -/
theorem Writes.reads {p : Part} {t : List Char} (h : Writes p t) : p.Reads t := by
  induction h with
  | null => exact reads_scalar (Writes.null.isScalarText rfl) rfl
  | bool b => exact reads_scalar ((Writes.bool b).isScalarText rfl) rfl
  | number h => exact reads_scalar (isScalarText_number h) rfl
  | string h => exact reads_scalar (isScalarText_string h) rfl
  | emptyArray ha => exact reads_emptyArray ha
  | array h ih => exact reads_array h ih
  | emptyObject ha => exact reads_emptyObject ha
  | object h ih => exact reads_object h ih
  | item ha _ hb ih => exact reads_item ha hb ih
  | items ha _ hb hvs ih ihs => exact reads_items ha hb hvs ih ihs
  | member hk _ hb ih => exact reads_member hk hb ih
  | members hk _ hb hms ih ihs => exact reads_members hk hb hms ih ihs

/-- Only too deep a value is refused, and what is read has its members in order. -/
theorem IsTextOf.read {v : Value} {text : String} (h : IsTextOf v text) :
    Json.read text = if v.depth ≤ 127 then .ok v.sorted else .error .malformed := by
  cases h with
  | @around a t b ha hv hb htext =>
    have hstops : Stops b := by simpa using hb.stops stops_nil
    have hread := hv.reads (2 * text.toList.length + 1) 127 b (by simp [htext]; omega) hstops
    rw [← value_layout .use _ _ ha, ← List.append_assoc, ← htext] at hread
    rw [Json.read, depthRoom, hread]
    by_cases hd : v.depth ≤ 127
    · rw [if_pos hd, if_pos hd, ok_bind]
      simp only [hb.finished, ok_bind, pure_eq_ok]
    · rw [if_neg hd, if_neg hd, error_bind]

end Logbook.Json
