import Logbook.Proofs.Json.Shape

/-! Lists and optional values by their shape. The shape of an optional value takes a step to look
for null before it reads anything. So whatever may be absent has to be read with one step less than
the length of its text allows for: texts, lists and dictionaries can. -/

namespace Logbook.Json

/-- Only null begins with its first letter. -/
theorem Writes.head_ne_n {v : Value} {t : List Char} (h : Writes (.value v) t) (hv : v ≠ .null)
    (rest : List Char) : (t ++ rest).head? ≠ some 'n' := by
  cases h with
  | null => exact absurd rfl hv
  | bool b => cases b <;> simp [Value.boolText]
  | number h =>
    cases h with
    | unsigned h =>
      obtain ⟨c, s, rfl, hc⟩ := exists_digit h
      simpa using ne_of_isDigit hc (d := 'n') (by decide)
    | negative h => simp
  | string h =>
    obtain ⟨inside, rfl⟩ := h.exists_cons
    simp
  | emptyArray ha => simp
  | array h => simp
  | emptyObject ha => simp
  | object h => simp

/-- Only arrays begin with a bracket. -/
theorem Writes.head_ne_bracket {v : Value} {t : List Char} (h : Writes (.value v) t)
    (hv : ∀ vs, v ≠ .array vs) (rest : List Char) : (t ++ rest).head? ≠ some '[' := by
  by_cases hd : v.depth = 0
  · obtain ⟨c, s, rfl, -, hc, -⟩ := h.isScalarText hd
    simpa using hc
  · cases h with
    | emptyArray ha => exact absurd rfl (hv [])
    | array h => exact absurd rfl (hv _)
    | emptyObject ha => simp
    | object h => simp
    | _ => exact absurd rfl hd

namespace Shape

variable {n room : Nat} {rest : List Char} {item : Shape}

/-! ### Scalars -/

theorem depth_of_isFlag {v : Value} (h : isFlag v = true) : v.depth = 0 := by
  cases v with
  | bool b => rfl
  | _ => cases h

theorem depth_of_isWord32 {v : Value} (h : isWord32 v = true) : v.depth = 0 := by
  cases v with
  | number m => rfl
  | _ => cases h

theorem agreesOn_flag (v : Value) : flag.AgreesOn v :=
  (agreesEarly_scalar (fun _ _ _ => by rw [readAt]) fit_flag_eq
    (fun _ => depth_of_isFlag) v).agreesOn

theorem agreesOn_word32 (v : Value) : word32.AgreesOn v :=
  (agreesEarly_scalar (fun _ _ _ => by rw [readAt]) fit_word32_eq
    (fun _ => depth_of_isWord32) v).agreesOn

/-! ### Optional values -/

theorem agreesOn_optional {v : Value} (hitem : item.AgreesEarly v) :
    (optional item).AgreesOn v where
  read_iff {t n room rest w s} h hn hrest := by
    obtain ⟨n, rfl⟩ := h.exists_succ (Nat.le_succ_of_le hn)
    rw [readAt, skipSpace_value h]
    by_cases hv : v = .null
    · subst hv
      cases h with
      | null => simp [fit_optional, isNull, Value.depth, word]
    · have hnull : isNull v = false := by
        cases v with
        | null => exact absurd rfl hv
        | _ => rfl
      have hread : readAt n (room + 1) item (t ++ rest) = .ok (w, s) ↔
          v.depth ≤ room ∧ item.fit v = some w ∧ rest = s := hitem.read_iff h hn hrest
      rw [if_neg (h.head_ne_n hv rest), hread, fit_optional, hnull]
      simp

/-! ### Lists -/

theorem readItems_skipSpace (n room : Nat) (item : Shape) (s : List Char) :
    readItems n room item (skipSpace s) = readItems n room item s := by
  cases n with
  | zero => simp [readItems]
  | succ n => rw [readItems, readItems, readAt_skipSpace]

theorem readItems_layout (n room : Nat) (item : Shape) {a : List Char} (ha : IsLayout a)
    (s : List Char) : readItems n room item (a ++ s) = readItems n room item s := by
  rw [← readItems_skipSpace, skipSpace_append ha, readItems_skipSpace]

theorem readItems_eq_ok_iff {vs : List Value} {t : List Char} (h : Writes (.items vs) t)
    (hitem : ∀ v ∈ vs, item.AgreesOn v) (hn : 3 * t.length < n) {ws : List Value} {s : List Char} :
    readItems n (room + 1) item (t ++ ']' :: rest) = .ok (ws, s) ↔
      Value.itemDepth vs ≤ room ∧ vs.mapM item.fit = some ws ∧ rest = s := by
  induction vs generalizing n t ws s with
  | nil => cases h
  | cons v vs ih =>
    obtain ⟨hv, hvs⟩ := List.forall_mem_cons.mp hitem
    obtain ⟨n, rfl⟩ : ∃ m, n = m + 1 := ⟨n - 1, by omega⟩
    cases h with
    | @item _ a t b ha ht hb =>
      have hfollowing := following_close hb ']' (by decide) rest
      rw [List.append_assoc, List.append_assoc, readItems_layout _ _ _ ha, readItems,
        hv.bind_eq_ok_iff ht (by simp at hn; omega) (stops_layout hb (by simp) rest)]
      simp only [hfollowing, ok_bind]
      cases hfit : item.fit v <;> simp [hfit, Value.itemDepth]
    | @items _ _ a t b u ha ht hb hu =>
      obtain ⟨c, hhead, hc⟩ := hu.head_items (']' :: rest)
      have hfollowing : following ']' (b ++ ',' :: (u ++ ']' :: rest)) = .ok (true, _) :=
        following_comma hb (by decide) hhead hc
      have hothers : ∀ {ws s},
          readItems n (room + 1) item (skipSpace (u ++ ']' :: rest)) = .ok (ws, s) ↔
            Value.itemDepth vs ≤ room ∧ vs.mapM item.fit = some ws ∧ rest = s := by
        intro ws s
        rw [readItems_skipSpace, ih hu hvs (by simp at hn; omega)]
      rw [List.append_assoc, List.append_assoc, List.append_assoc, List.cons_append,
        readItems_layout _ _ _ ha, readItems,
        hv.bind_eq_ok_iff ht (by simp at hn; omega) (stops_layout hb (by simp) _)]
      simp only [hfollowing, ok_bind, Bool.not_true, Bool.false_eq_true, if_false, bind_eq_ok_iff,
        Prod.exists, hothers]
      cases hfit : item.fit v
      · simp [hfit]
      · cases hrest : vs.mapM item.fit
        · simp [hfit, hrest]
        · simp [hfit, hrest, Value.itemDepth, and_assoc]

theorem readAt_list_bracket (s : List Char) :
    readAt (n + 1) (room + 2) (list item) ('[' :: s) =
      (opened ']' s >>= fun (isEmpty, s) =>
        if isEmpty then .ok (.array [], s)
        else (readItems n (room + 1) item s).map fun (vs, s) => (.array vs, s)) := by
  have hroom : ¬ room + 2 ≤ 1 := by omega
  rw [readAt, skipSpace_cons (by decide)]
  simp only [List.head?_cons, bne_self_eq_false, Bool.false_eq_true, if_false, hroom]
  congr

theorem readAt_list_no_room (s : List Char) :
    readAt (n + 1) 1 (list item) ('[' :: s) = .error .malformed := by
  rw [readAt, skipSpace_cons (by decide)]
  rfl

theorem readAt_list_other {s : List Char} (h : (skipSpace s).head? ≠ some '[') :
    readAt (n + 1) room (list item) s = scalar (fun _ => false) (skipSpace s) := by
  have hother : ((skipSpace s).head? != some '[') = true := by simpa using h
  rw [readAt]
  simp only [hother, if_true]

theorem agreesEarly_array {vs : List Value} (hitem : ∀ v ∈ vs, item.AgreesOn v) :
    (list item).AgreesEarly (.array vs) where
  read_iff {t n room rest w s} h hn hrest := by
    obtain ⟨n, rfl⟩ := h.exists_succ hn
    cases h with
    | @emptyArray a ha =>
      rw [List.cons_append, List.cons_append, List.append_assoc, List.singleton_append]
      cases room with
      | zero => simp [readAt_list_no_room, Value.depth]
      | succ room =>
        rw [readAt_list_bracket, opened_close ha ']' (by decide), fit_list]
        simp [Value.depth, Value.itemDepth]
    | @array vs t h =>
      rw [List.cons_append, List.cons_append, List.append_assoc, List.singleton_append]
      cases room with
      | zero => simp [readAt_list_no_room, Value.depth]
      | succ room =>
        obtain ⟨c, hhead, hc⟩ := h.head_items (']' :: rest)
        have hopened : opened ']' (t ++ ']' :: rest) = .ok (false, _) := opened_cons hhead hc
        have hitems : ∀ {ws s},
            readItems n (room + 1) item (skipSpace (t ++ ']' :: rest)) = .ok (ws, s) ↔
              Value.itemDepth vs ≤ room ∧ vs.mapM item.fit = some ws ∧ rest = s := by
          intro ws s
          rw [readItems_skipSpace, readItems_eq_ok_iff h hitem (by simp at hn; omega)]
        rw [readAt_list_bracket, hopened, ok_bind, fit_list]
        simp only [Bool.false_eq_true, if_false, map_eq_ok_iff, Prod.exists, hitems]
        cases hfit : vs.mapM item.fit with
        | none => simp
        | some ws => simp [Value.depth, and_assoc]

theorem agreesEarly_list (hitem : ∀ v, item.AgreesOn v) (v : Value) :
    (list item).AgreesEarly v := by
  by_cases hv : ∃ vs, v = .array vs
  · obtain ⟨vs, rfl⟩ := hv
    exact agreesEarly_array fun v _ => hitem v
  · constructor
    intro t n room rest w s h hn hrest
    obtain ⟨n, rfl⟩ := h.exists_succ hn
    have hhead := h.head_ne_bracket (fun vs hvs => hv ⟨vs, hvs⟩) rest
    have hfit : (list item).fit v = none := by
      cases v with
      | array vs => exact absurd ⟨vs, rfl⟩ hv
      | _ => rfl
    rw [readAt_list_other (by rwa [skipSpace_value h]), skipSpace_value h, hfit]
    simp [scalar_false_ne_ok h hrest]

end Shape

end Logbook.Json
