import Logbook.Json.Shape
import Logbook.Proofs.Json.Compact

/-! Reading by shape. What is read of the text of a value is the value in the form of the shape, if
it has one and does not nest too deep: so it makes no difference whether a text is read by its
shape or read first and brought into shape then. -/

namespace Logbook.Json.Shape

variable {n room : Nat} {rest : List Char}

/-! ### The forms of a value -/

theorem fit_any (v : Value) : any.fit v = some v.sorted := rfl

theorem fit_text_eq (v : Value) : text.fit v = if isText v then some v else none := rfl

theorem fit_flag_eq (v : Value) : flag.fit v = if isFlag v then some v else none := rfl

theorem fit_word32_eq (v : Value) : word32.fit v = if isWord32 v then some v else none := rfl

theorem fit_list (item : Shape) (vs : List Value) :
    (list item).fit (.array vs) = (vs.mapM item.fit).map .array := rfl

theorem fit_optional (item : Shape) (v : Value) :
    (optional item).fit v = if isNull v then some v else item.fit v := rfl

theorem fit_record (fields : List (String × Presence × Shape)) (ms : Members) :
    (record fields).fit (.object ms) = (fitFields fields ms).map .object := rfl

theorem fit_choice_string (names : List String) (x : String) :
    (choice names).fit (.string x) = if x ∈ names then some (.string x) else none := rfl

theorem fit_choice_null (names : List String) (k : String) :
    (choice names).fit (.object [(k, .null)]) = if k ∈ names then some (.string k) else none := rfl

/-- An object that stands for a name has no other member. -/
theorem fit_choice_cons_cons (names : List String) (m m' : String × Value) (ms : Members) :
    (choice names).fit (.object (m :: m' :: ms)) = none := by
  obtain ⟨k, v⟩ := m
  cases v <;> rfl

/-! ### Agreement -/

/-- Reading by the shape agrees with bringing the value into shape. -/
structure AgreesOn (shape : Shape) (v : Value) : Prop where
  read_iff : ∀ {t n room rest w s}, Writes (.value v) t → 3 * t.length ≤ n → Stops rest →
    (readAt n (room + 1) shape (t ++ rest) = .ok (w, s) ↔
      v.depth ≤ room ∧ shape.fit v = some w ∧ rest = s)

/-- Reading agrees even with one step less than the length of the text allows for. -/
structure AgreesEarly (shape : Shape) (v : Value) : Prop where
  read_iff : ∀ {t n room rest w s}, Writes (.value v) t → 3 * t.length ≤ n + 1 → Stops rest →
    (readAt n (room + 1) shape (t ++ rest) = .ok (w, s) ↔
      v.depth ≤ room ∧ shape.fit v = some w ∧ rest = s)

theorem AgreesEarly.agreesOn {shape : Shape} {v : Value} (h : shape.AgreesEarly v) :
    shape.AgreesOn v :=
  ⟨fun ht hn => h.read_iff ht (by omega)⟩

theorem readAt_skipSpace (n room : Nat) (shape : Shape) (s : List Char) :
    readAt n room shape (skipSpace s) = readAt n room shape s := by
  cases n with
  | zero => simp [readAt]
  | succ n => cases shape <;> (rw [readAt, readAt]; simp only [skipSpace_skipSpace])

theorem readAt_layout (n room : Nat) (shape : Shape) {a : List Char} (ha : IsLayout a)
    (s : List Char) : readAt n room shape (a ++ s) = readAt n room shape s := by
  rw [← readAt_skipSpace, skipSpace_append ha, readAt_skipSpace]

theorem skipSpace_value {v : Value} {t : List Char} (h : Writes (.value v) t) (rest : List Char) :
    skipSpace (t ++ rest) = t ++ rest := by
  obtain ⟨c, s, rfl, hspace, -⟩ := h.exists_cons
  exact skipSpace_cons hspace

/-! ### Scalars -/

/-- Arrays and objects are no scalars of any kind. -/
theorem scalar_eq_ok_iff {accept : Value → Bool} (haccept : ∀ v, accept v = true → v.depth = 0)
    {v w : Value} {t s : List Char} (h : Writes (.value v) t) (hrest : Stops rest) :
    scalar accept (t ++ rest) = .ok (w, s) ↔ accept v = true ∧ v = w ∧ rest = s := by
  by_cases hv : v.depth = 0
  · obtain ⟨c, inside, rfl, -, -, -, hread⟩ := h.isScalarText hv
    rw [List.cons_append, scalar, hread rest hrest]
    by_cases hkind : accept v = true
    · simp [hkind]
    · simp [hkind]
  · have hscalar (c : Char) (inside : List Char) (hc : c = '[' ∨ c = '\x7b') :
        scalar accept (c :: inside) = .error .mismatch := by
      rcases hc with rfl | rfl <;> rfl
    have hkind : accept v ≠ true := fun htrue => hv (haccept v htrue)
    obtain ⟨c, inside, rfl, hc⟩ := h.exists_bracket hv
    rw [List.cons_append, hscalar c _ hc]
    simp [hkind]

theorem depth_of_isText {v : Value} (h : isText v = true) : v.depth = 0 := by
  cases v with
  | string x => rfl
  | _ => cases h

theorem eq_null_of_isNull {v : Value} (h : isNull v = true) : v = .null := by
  cases v with
  | null => rfl
  | _ => cases h

theorem depth_of_isNull {v : Value} (h : isNull v = true) : v.depth = 0 := by
  rw [eq_null_of_isNull h]
  rfl

theorem fit_text_iff {v w : Value} : text.fit v = some w ↔ ∃ x, v = .string x ∧ w = .string x := by
  cases v with
  | string x => simp [fit_text_eq, isText, eq_comm]
  | _ => simp [fit_text_eq, isText]

/-- A shape that accepts scalars of a kind. -/
theorem agreesEarly_scalar {shape : Shape} {accept : Value → Bool}
    (hread : ∀ n room s, readAt (n + 1) room shape s = scalar accept (skipSpace s))
    (hfit : ∀ v, shape.fit v = if accept v then some v else none)
    (haccept : ∀ v, accept v = true → v.depth = 0) (v : Value) : shape.AgreesEarly v where
  read_iff {t n room rest w s} h hn hrest := by
    obtain ⟨n, rfl⟩ := h.exists_succ hn
    rw [hread, skipSpace_value h, scalar_eq_ok_iff haccept h hrest, hfit]
    by_cases hv : accept v = true
    · simp [hv, haccept v hv]
    · simp [hv]

theorem agreesEarly_text (v : Value) : text.AgreesEarly v :=
  agreesEarly_scalar (fun _ _ _ => by rw [readAt]) fit_text_eq
    (fun _ => depth_of_isText) v

theorem agreesOn_text (v : Value) : text.AgreesOn v := (agreesEarly_text v).agreesOn

theorem agreesOn_any (v : Value) : any.AgreesOn v where
  read_iff {t n room rest w s} h hn hrest := by
    have hpos := h.length_pos
    obtain ⟨n, rfl⟩ := h.exists_succ (Nat.le_succ_of_le hn)
    have hread := h.reads n room rest (by omega) hrest
    rw [readAt, skipSpace_value h, hread, fit_any]
    by_cases hd : v.depth ≤ room
    · simp [hd]
    · simp [hd]

/-! ### Choices -/

theorem quotedName_append {names : List String} {x : String} {t : List Char}
    (h : WritesString x t) (hrest : Stops rest) :
    quotedName names (t ++ rest) = if x ∈ names then .ok (x, rest) else .error .mismatch := by
  have hread : scalar isText (t ++ rest) = .ok (.string x, rest) :=
    (scalar_eq_ok_iff (fun _ => depth_of_isText) (.string h) hrest).mpr ⟨rfl, rfl, rfl⟩
  rw [quotedName, hread]
  rfl

/-- After a brace a name is read, and null under it. -/
theorem readChoice_key {names : List String} {k : String} {t : List Char} (hk : WritesKey k t)
    (s : List Char) :
    readChoice names (room + 2) ('\x7b' :: (t ++ s)) =
      if k ∈ names then do
        let (_, s) ← scalar isNull (skipSpace s)
        return (k, ← closed '\x7d' s)
      else .error .mismatch := by
  have hroom : 1 < room + 2 := by omega
  have hbrace : isSpace '\x7b' = false := by decide
  cases hk with
  | @key a t b c ha hk hb hc =>
    have hstops : Stops (b ++ ':' :: (c ++ s)) := hb.stops (by simp [Stops])
    have hname : quotedName names (skipSpace (a ++ t ++ b ++ ':' :: c ++ s)) =
        if k ∈ names then .ok (k, b ++ ':' :: (c ++ s)) else .error .mismatch := by
      rw [← quotedName_append hk hstops]
      simp [skipSpace_append ha, skipSpace_value (.string hk)]
    rw [readChoice, skipSpace_cons hbrace]
    simp only [hname, hroom, and_self, if_true]
    by_cases hmem : k ∈ names
    · simp [hmem, colon_append hb, skipSpace_append hc]
    · simp [hmem]

theorem readChoice_string {names : List String} {x : String} {t : List Char}
    (h : WritesString x t) (hrest : Stops rest) :
    readChoice names room (t ++ rest) = if x ∈ names then .ok (x, rest) else .error .mismatch := by
  rw [← quotedName_append h hrest, readChoice, skipSpace_value (.string h)]
  obtain ⟨inside, rfl⟩ := h.exists_cons
  rfl

theorem readChoice_no_room {names : List String} (s : List Char) :
    readChoice names 1 ('\x7b' :: s) = .error .malformed := by
  rw [readChoice, skipSpace_cons (by decide)]
  rfl

theorem readChoice_other {names : List String} {c : Char} {s : List Char}
    (hspace : isSpace c = false) (hquote : c ≠ '"') (hbrace : c ≠ '\x7b') :
    readChoice names room (c :: s) = .error .malformed := by
  rw [readChoice, skipSpace_cons hspace]
  simp [hquote, hbrace]

theorem fit_choice_member (names : List String) (k : String) (v : Value) :
    (choice names).fit (.object [(k, v)]) =
      if isNull v ∧ k ∈ names then some (.string k) else none := by
  cases v with
  | null => simp [fit_choice_null, isNull]
  | _ => rfl

theorem fit_choice_iff {names : List String} {v w : Value} :
    (choice names).fit v = some w ↔
      ∃ name ∈ names, (v = .string name ∨ v = .object [(name, .null)]) ∧ w = .string name := by
  constructor
  · intro h
    cases v with
    | string x =>
      rw [fit_choice_string] at h
      split at h
      · next hx => exact ⟨x, hx, .inl rfl, (Option.some.inj h).symm⟩
      · cases h
    | object ms =>
      match ms with
      | [] => cases h
      | [(k, v)] =>
        rw [fit_choice_member] at h
        split at h
        · next hk =>
          obtain ⟨hnull, hmem⟩ := hk
          obtain rfl := eq_null_of_isNull hnull
          exact ⟨k, hmem, .inr rfl, (Option.some.inj h).symm⟩
        · cases h
      | _ :: _ :: _ => simp [fit_choice_cons_cons] at h
    | _ => cases h
  · rintro ⟨name, hname, rfl | rfl, rfl⟩
    · rw [fit_choice_string, if_pos hname]
    · rw [fit_choice_null, if_pos hname]

/-- The name is that of the first member, which has to hold null and to be the last one. -/
theorem readChoice_member_iff {names : List String} {k name : String} {v : Value} {a t s s' : List Char}
    (hk : WritesKey k a) (hv : Writes (.value v) t) (hs : Stops s) :
    readChoice names (room + 2) ('\x7b' :: (a ++ (t ++ s))) = .ok (name, s') ↔
      (isNull v = true ∧ k ∈ names) ∧ closed '\x7d' s = .ok s' ∧ k = name := by
  have hscalar {w : Value} {s' : List Char} :
      scalar isNull (t ++ s) = .ok (w, s') ↔ isNull v = true ∧ v = w ∧ s = s' :=
    scalar_eq_ok_iff (fun _ => depth_of_isNull) hv hs
  rw [readChoice_key hk, skipSpace_value hv]
  by_cases hmem : k ∈ names
  · simp only [if_pos hmem, bind_eq_ok_iff, Prod.exists, hscalar]
    by_cases hkind : isNull v = true
    · simp [hkind, hmem, and_comm]
    · simp [hkind]
  · simp [hmem]

theorem closed_layout_cons {a : List Char} (ha : IsLayout a) {c : Char} (hc : isSpace c = false)
    (s : List Char) :
    closed '\x7d' (a ++ c :: s) = if c = '\x7d' then .ok s else .error .malformed := by
  simp [closed, skipSpace_layout_cons ha hc, expect, eq_comm (a := c)]

theorem readChoice_object {names : List String} {ms : Members} {t : List Char}
    (h : Writes (.value (.object ms)) t) {name : String} {s : List Char} :
    readChoice names (room + 1) (t ++ rest) = .ok (name, s) ↔
      (Value.object ms).depth ≤ room ∧ (choice names).fit (.object ms) = some (.string name) ∧
        rest = s := by
  cases room with
  | zero =>
    obtain ⟨c, inside, rfl, rfl | rfl⟩ := h.exists_bracket (by simp [Value.depth])
    · cases h
    · simp [readChoice_no_room, Value.depth]
  | succ room =>
  cases h with
  | @emptyObject a ha =>
    have hroom : 1 < room + 2 := by omega
    have hclosed : quotedName names ('\x7d' :: rest) = .error .malformed := rfl
    have hspace : isSpace '\x7d' = false := by decide
    have hnone : (choice names).fit (.object []) = none := rfl
    rw [List.cons_append, List.cons_append, List.append_assoc, List.singleton_append, readChoice,
      skipSpace_cons (by decide)]
    simp [skipSpace_layout_cons ha hspace, hclosed, hroom, hnone]
  | object h =>
    rw [List.cons_append, List.cons_append, List.append_assoc, List.singleton_append]
    cases h with
    | @member k v a t b hk hv hb =>
      rw [List.append_assoc, List.append_assoc,
        readChoice_member_iff hk hv (stops_layout hb (by simp) rest),
        closed_layout_cons hb (by decide), fit_choice_member]
      by_cases hnull : isNull v = true ∧ k ∈ names
      · simp [hnull, Value.depth, Value.memberDepth, depth_of_isNull hnull.1, and_comm]
      · simp [hnull]
    | @members k v ms a t b u hk hv hb hu =>
      have hnone : (choice names).fit (.object ((k, v) :: ms)) = none := by
        cases ms with
        | nil => cases hu
        | cons m ms => exact fit_choice_cons_cons _ _ _ _
      rw [List.append_assoc, List.append_assoc, List.append_assoc, List.cons_append,
        readChoice_member_iff hk hv (stops_layout hb (by simp) _),
        closed_layout_cons hb (by decide), hnone]
      simp

/-- A name in quotes, or null under the name. -/
theorem agreesOn_choice (names : List String) (v : Value) : (choice names).AgreesOn v where
  read_iff {t n room rest w s} h hn hrest := by
    obtain ⟨n, rfl⟩ := h.exists_succ (Nat.le_succ_of_le hn)
    rw [readAt, skipSpace_value h]
    cases v with
    | string x =>
      cases h with
      | string h =>
        rw [readChoice_string h hrest, fit_choice_string]
        by_cases hx : x ∈ names <;> simp [hx, Value.depth]
    | object ms =>
      simp only [bind_eq_ok_iff, Prod.exists, readChoice_object h]
      constructor
      · rintro ⟨x, s', ⟨hd, hfit, rfl⟩, hw⟩
        obtain ⟨rfl, rfl⟩ := pair_eq_of_ok hw
        exact ⟨hd, hfit, rfl⟩
      · rintro ⟨hd, hfit, rfl⟩
        obtain ⟨x, -, -, rfl⟩ := fit_choice_iff.mp hfit
        exact ⟨x, rest, ⟨hd, hfit, rfl⟩, rfl⟩
    | _ =>
      obtain ⟨c, inside, rfl, hspace, -⟩ := h.exists_cons
      have hquote : c ≠ '"' := by simpa using h.head_ne_quote (by simp) rest
      have hbrace : c ≠ '\x7b' := by simpa using h.head_ne_brace (by simp) rest
      rw [List.cons_append, readChoice_other hspace hquote hbrace]
      simp [fit_choice_iff]

/-! ### Objects -/

theorem AgreesOn.bind_eq_ok_iff {shape : Shape} {v : Value} (h : shape.AgreesOn v)
    {t : List Char} (ht : Writes (.value v) t) (hn : 3 * t.length ≤ n) (hrest : Stops rest)
    {α : Type} {f : Value × List Char → Except Fault α} {b : α} :
    (readAt n (room + 1) shape (t ++ rest) >>= f) = .ok b ↔
      v.depth ≤ room ∧ ∃ w, shape.fit v = some w ∧ f (w, rest) = .ok b := by
  rw [Logbook.bind_eq_ok_iff]
  constructor
  · rintro ⟨⟨w, s⟩, hread, hf⟩
    obtain ⟨hd, hfit, rfl⟩ := (h.read_iff ht hn hrest).mp hread
    exact ⟨hd, w, hfit, hf⟩
  · rintro ⟨hd, w, hfit, hf⟩
    exact ⟨(w, rest), (h.read_iff ht hn hrest).mpr ⟨hd, hfit, rfl⟩, hf⟩

/-- A member in the form of an item. -/
def fitEntry (item : Shape) (m : String × Value) : Option (String × Value) :=
  (item.fit m.2).map fun v => (m.1, v)

theorem readEntries_key {item : Shape} {k : String} {t : List Char} (hk : WritesKey k t)
    (s : List Char) :
    readEntries (n + 1) room item (skipSpace (t ++ s)) =
      (readAt n room item s >>= fun (v, s) => do
        let (more, s) ← following '\x7d' s
        if !more then return ([(k, v)], s)
        let (ms, s) ← readEntries n room item s
        return ((k, v) :: ms, s)) := by
  obtain ⟨behind, c, hkey, hc, hcolon⟩ := hk.reads s
  rw [readEntries, hkey]
  simp only [ok_bind, hcolon, readAt_layout _ _ _ hc]

theorem readEntries_eq_ok_iff {item : Shape} {ms : Members} {t : List Char}
    (h : Writes (.members ms) t) (hitem : ∀ m ∈ ms, item.AgreesOn m.2) (hn : 3 * t.length < n)
    {ws : Members} {s : List Char} :
    readEntries n (room + 1) item (skipSpace (t ++ '\x7d' :: rest)) = .ok (ws, s) ↔
      Value.memberDepth ms ≤ room ∧ ms.mapM item.fitEntry = some ws ∧ rest = s := by
  induction ms generalizing n t ws s with
  | nil => cases h
  | cons m ms ih =>
    obtain ⟨hm, hms⟩ := List.forall_mem_cons.mp hitem
    obtain ⟨n, rfl⟩ : ∃ m, n = m + 1 := ⟨n - 1, by omega⟩
    cases h with
    | @member k v a t b hk hv hb =>
      have hfollowing := following_close hb '\x7d' (by decide) rest
      rw [List.append_assoc, List.append_assoc, readEntries_key hk,
        hm.bind_eq_ok_iff hv (by simp at hn; omega) (stops_layout hb (by simp) rest)]
      simp only [hfollowing, ok_bind]
      cases hfit : item.fit v <;> simp [fitEntry, hfit, Value.memberDepth]
    | @members k v ms a t b u hk hv hb hu =>
      have hfollowing : following '\x7d' (b ++ ',' :: (u ++ '\x7d' :: rest)) = .ok (true, _) :=
        following_comma hb (by decide) (hu.head_members _) (by decide)
      have hothers : ∀ {ws s},
          readEntries n (room + 1) item (skipSpace (u ++ '\x7d' :: rest)) = .ok (ws, s) ↔
            Value.memberDepth ms ≤ room ∧ ms.mapM item.fitEntry = some ws ∧ rest = s :=
        ih hu hms (by simp at hn; omega)
      rw [List.append_assoc, List.append_assoc, List.append_assoc, List.cons_append,
        readEntries_key hk,
        hm.bind_eq_ok_iff hv (by simp at hn; omega) (stops_layout hb (by simp) _)]
      simp only [hfollowing, ok_bind, Bool.not_true, Bool.false_eq_true, if_false, bind_eq_ok_iff,
        Prod.exists, hothers]
      cases hfit : item.fit v
      · simp [fitEntry, hfit]
      · cases hrest : ms.mapM item.fitEntry
        · simp [fitEntry, hfit, hrest]
        · simp [fitEntry, hfit, hrest, Value.memberDepth, and_assoc]

theorem scalar_false_ne_ok {v w : Value} {t s : List Char} (h : Writes (.value v) t)
    (hrest : Stops rest) : scalar (fun _ => false) (t ++ rest) ≠ .ok (w, s) := by
  intro hread
  have haccept : (fun _ => false : Value → Bool) v = true :=
    ((scalar_eq_ok_iff (by simp) h hrest).mp hread).1
  cases haccept

theorem readAt_dict_brace (item : Shape) (s : List Char) :
    readAt (n + 1) (room + 2) (dict item) ('\x7b' :: s) =
      (opened '\x7d' s >>= fun (isEmpty, s) =>
        if isEmpty then .ok (.object [], s)
        else (readEntries n (room + 1) item s).map fun (ms, s) =>
          (.object (Keyed.ofList ms), s)) := by
  have hroom : ¬ room + 2 ≤ 1 := by omega
  rw [readAt, skipSpace_cons (by decide)]
  simp only [List.head?_cons, bne_self_eq_false, Bool.false_eq_true, if_false, hroom]
  congr

theorem readAt_dict_no_room (item : Shape) (s : List Char) :
    readAt (n + 1) 1 (dict item) ('\x7b' :: s) = .error .malformed := by
  rw [readAt, skipSpace_cons (by decide)]
  rfl

theorem readAt_dict_other (item : Shape) {s : List Char}
    (h : (skipSpace s).head? ≠ some '\x7b') :
    readAt (n + 1) room (dict item) s = scalar (fun _ => false) (skipSpace s) := by
  have hother : ((skipSpace s).head? != some '\x7b') = true := by simpa using h
  rw [readAt]
  simp only [hother, if_true]

theorem fit_dict (item : Shape) (ms : Members) :
    (dict item).fit (.object ms) =
      (ms.mapM item.fitEntry).map fun ms => .object (Keyed.ofList ms) := rfl

theorem agreesEarly_dict_object {item : Shape} {ms : Members}
    (hitem : ∀ m ∈ ms, item.AgreesOn m.2) : (dict item).AgreesEarly (.object ms) where
  read_iff {t n room rest w s} h hn hrest := by
    obtain ⟨n, rfl⟩ := h.exists_succ hn
    cases h with
    | @emptyObject a ha =>
      rw [List.cons_append, List.cons_append, List.append_assoc, List.singleton_append]
      cases room with
      | zero => simp [readAt_dict_no_room, Value.depth]
      | succ room =>
        rw [readAt_dict_brace, opened_close ha '\x7d' (by decide), fit_dict]
        simp [Value.depth, Value.memberDepth, Keyed.ofList]
    | @object ms t h =>
      rw [List.cons_append, List.cons_append, List.append_assoc, List.singleton_append]
      cases room with
      | zero => simp [readAt_dict_no_room, Value.depth]
      | succ room =>
        have hopened : opened '\x7d' (t ++ '\x7d' :: rest) = .ok (false, _) :=
          opened_cons (h.head_members _) (by decide)
        have hentries : ∀ {ws s},
            readEntries n (room + 1) item (skipSpace (t ++ '\x7d' :: rest)) = .ok (ws, s) ↔
              Value.memberDepth ms ≤ room ∧ ms.mapM item.fitEntry = some ws ∧ rest = s :=
          readEntries_eq_ok_iff h hitem (by simp at hn; omega)
        rw [readAt_dict_brace, hopened, ok_bind, fit_dict]
        simp only [Bool.false_eq_true, if_false, map_eq_ok_iff, Prod.exists, hentries]
        cases hfit : ms.mapM item.fitEntry with
        | none => simp
        | some ws => simp [Value.depth, and_assoc]

theorem agreesEarly_dict {item : Shape} (hitem : ∀ v, item.AgreesOn v) (v : Value) :
    (dict item).AgreesEarly v := by
  by_cases hv : ∃ ms, v = .object ms
  · obtain ⟨ms, rfl⟩ := hv
    exact agreesEarly_dict_object fun m _ => hitem m.2
  · constructor
    intro t n room rest w s h hn hrest
    obtain ⟨n, rfl⟩ := h.exists_succ hn
    have hhead := h.head_ne_brace (fun ms hms => hv ⟨ms, hms⟩) rest
    have hfit : (dict item).fit v = none := by
      cases v with
      | object ms => exact absurd ⟨ms, rfl⟩ hv
      | _ => rfl
    rw [readAt_dict_other item (by rwa [skipSpace_value h]), skipSpace_value h, hfit]
    simp [scalar_false_ne_ok h hrest]

theorem agreesOn_dict {item : Shape} (hitem : ∀ v, item.AgreesOn v) (v : Value) :
    (dict item).AgreesOn v :=
  (agreesEarly_dict hitem v).agreesOn

theorem fit_dict_any (ms : Members) :
    (dict any).fit (.object ms) = some (Value.object ms).sorted := by
  have hmembers : ms.mapM any.fitEntry = some (Value.sortedMembers ms) := by
    induction ms with
    | nil => rfl
    | cons m ms ih => simp [fitEntry, fit_any, ih, Value.sortedMembers]
  rw [fit_dict, hmembers, Value.sorted, Option.map_some]

/-! ### Whole texts -/

theorem AgreesOn.read_eq_ok_iff {shape : Shape} {v : Value} (h : shape.AgreesOn v) {text : String}
    (htext : IsTextOf v text) {w : Value} :
    shape.read text = .ok w ↔ v.depth ≤ 127 ∧ shape.fit v = some w := by
  cases htext with
  | @around a t b ha hv hb htext =>
    have hstops : Stops b := by simpa using hb.stops stops_nil
    rw [Shape.read, htext, List.append_assoc, readAt_layout _ _ _ ha, depthRoom,
      h.bind_eq_ok_iff hv (by simp; omega) hstops]
    simp [hb.finished]

end Logbook.Json.Shape
