import Logbook.Proofs.Json.Shape

/-! Tagged values by their shape. The name under one key decides the shape of what stands under the
other, and either may come first: content that comes before the name is read as it is and brought
into shape when the name is known. -/

namespace Logbook.Json.Shape

variable {n room : Nat} {s : List Char} {cases : List (String × Shape)} {t : Tagging}
  {name : String} {content : Value}

/-! ### Bringing into shape -/

theorem fitCase_eq (cases : List (String × Shape)) (name : String) (v : Value) :
    fitCase cases name v = (cases.lookup name).bind fun shape => shape.fit v := by
  induction cases with
  | nil => simp [fitCase]
  | cons m cases ih =>
    obtain ⟨k, shape⟩ := m
    rw [fitCase, ih, Keyed.lookup_cons]
    by_cases hk : k = name
    · simp [hk]
    · simp [hk, Ne.symm hk]

theorem mem_names_iff : name ∈ cases.map (·.1) ↔ (cases.lookup name).isSome := by
  induction cases with
  | nil => simp
  | cons m cases ih =>
    obtain ⟨k, shape⟩ := m
    rw [Keyed.lookup_cons, List.map_cons, List.mem_cons, ih]
    by_cases hk : name = k <;> simp [hk]

theorem lookup_eq_none (h : name ∉ cases.map (·.1)) : cases.lookup name = none :=
  Option.not_isSome_iff_eq_none.mp fun hsome => h (mem_names_iff.mpr hsome)

theorem fit_nameFirst (cases : List (String × Shape)) (name : String) (content : Value) :
    (tagged cases).fit (taggedValue name content) =
      (fitCase cases name content).map (taggedValue name) := by
  rw [Option.map_eq_bind]
  rfl

theorem fit_contentFirst (cases : List (String × Shape)) (name : String) (content : Value) :
    (tagged cases).fit (.object [("params", content), ("type", .string name)]) =
      (fitCase cases name content).map (taggedValue name) := by
  rw [Option.map_eq_bind]
  rfl

/-! ### Members -/

theorem readChoice_layout (names : List String) (room : Nat) {a : List Char} (ha : IsLayout a)
    (s : List Char) : readChoice names room (a ++ s) = readChoice names room s := by
  rw [readChoice, readChoice, skipSpace_append ha]

/-- What follows a member, and the rest of the members if there are more. -/
def readMore (n room : Nat) (cases : List (String × Shape)) (t : Tagging) (s : List Char) :
    Except Fault (Tagging × List Char) :=
  following '\x7d' s >>= fun (more, s) =>
    if more then readTagged n room cases t s else .ok (t, s)

theorem readTagged_type {k u : List Char} (hk : WritesKey "type" k)
    (hu : Writes (.value (.string name)) u) (hs : Stops s) (htag : t.tag = none) :
    readTagged (n + 1) room cases t (skipSpace (k ++ (u ++ s))) =
      if name ∈ cases.map (·.1) then
        t.setTag cases name >>= fun t => readMore n room cases t s
      else .error .mismatch := by
  obtain ⟨behind, c, hkey, hc, hcolon⟩ := hk.reads (u ++ s)
  have hchoice : readChoice (cases.map (·.1)) room (c ++ (u ++ s)) =
      if name ∈ cases.map (·.1) then .ok (name, s) else .error .mismatch := by
    cases hu with
    | string hu => rw [readChoice_layout _ _ hc, readChoice_string hu hs]
  rw [readTagged, hkey]
  by_cases hname : name ∈ cases.map (·.1)
  · rw [if_pos hname] at hchoice
    simp [htag, hcolon, hchoice, hname, readMore]
  · rw [if_neg hname] at hchoice
    simp [htag, hcolon, hchoice, hname]

/-- Content behind its name is read by the shape of the name. -/
theorem readTagged_params {k : List Char} {shape : Shape} (hk : WritesKey "params" k)
    (hearly : t.early = none) (hcontent : t.content = none) (htag : t.tag = some name)
    (hshape : cases.lookup name = some shape) (s : List Char) :
    readTagged (n + 1) room cases t (skipSpace (k ++ s)) =
      readAt n room shape s >>= fun (v, s) =>
        readMore n room cases { t with content := some v } s := by
  obtain ⟨behind, c, hkey, hc, hcolon⟩ := hk.reads s
  rw [readTagged, hkey]
  simp [hearly, hcontent, htag, hshape, hcolon, readAt_layout _ _ _ hc, readMore]

/-- Content before its name is read as it is. -/
theorem readTagged_early {k : List Char} (hk : WritesKey "params" k) (hearly : t.early = none)
    (hcontent : t.content = none) (htag : t.tag = none) (s : List Char) :
    readTagged (n + 1) room cases t (skipSpace (k ++ s)) =
      value .use n room s >>= fun (v, s) => readMore n room cases { t with early := some v } s := by
  obtain ⟨behind, c, hkey, hc, hcolon⟩ := hk.reads s
  rw [readTagged, hkey]
  simp [hearly, hcontent, htag, hcolon, value_layout _ _ _ hc, readMore]

theorem readMore_close {b : List Char} (hb : IsLayout b) (rest : List Char) :
    readMore n room cases t (b ++ '\x7d' :: rest) = .ok (t, rest) := by
  simp [readMore, following_close hb '\x7d' (by decide) rest]

theorem readMore_comma {b u : List Char} {ms : Members} (hb : IsLayout b)
    (hu : Writes (.members ms) u) (rest : List Char) :
    readMore n room cases t (b ++ ',' :: (u ++ rest)) =
      readTagged n room cases t (skipSpace (u ++ rest)) := by
  have hfollowing : following '\x7d' (b ++ ',' :: (u ++ rest)) = .ok (true, _) :=
    following_comma hb (by decide) (hu.head_members rest) (by decide)
  simp [readMore, hfollowing]

/-- Reading the members agrees with bringing the content into the shape that the name decides. -/
structure MembersAgree (cases : List (String × Shape)) (name : String) (content : Value)
    (ms : Members) : Prop where
  read_iff : ∀ {n room u rest t s}, Writes (.members ms) u → 3 * u.length < n →
    (readTagged n (room + 1) cases ⟨none, none, none⟩ (skipSpace (u ++ '\x7d' :: rest)) =
        .ok (t, s) ↔
      content.depth ≤ room ∧ ∃ w, fitCase cases name content = some w ∧
        (⟨some name, none, some w⟩, rest) = (t, s))

/-- The name stands before the content. -/
theorem membersAgree_nameFirst
    (hagrees : ∀ shape, cases.lookup name = some shape → shape.AgreesOn content) :
    MembersAgree cases name content [("type", .string name), ("params", content)] := by
  constructor
  intro n room u rest t s h hn
  cases h with
  | @members _ _ _ k v b u hk hv hb hu =>
  obtain ⟨k', v', b', hk', hv', hb', rfl⟩ := hu.exists_single
  obtain ⟨n, rfl⟩ : ∃ m, n = m + 1 + 1 := ⟨n - 2, by simp at hn; omega⟩
  rw [List.append_assoc, List.append_assoc, List.append_assoc, List.cons_append,
    readTagged_type hk hv (stops_layout hb (by simp) _) rfl, fitCase_eq]
  by_cases hname : name ∈ cases.map (·.1)
  · obtain ⟨shape, hshape⟩ := Option.isSome_iff_exists.mp (mem_names_iff.mp hname)
    rw [if_pos hname, hshape, Option.bind_some, Tagging.setTag, ok_bind, readMore_comma hb hu,
      List.append_assoc, List.append_assoc, readTagged_params hk' rfl rfl rfl hshape,
      (hagrees shape hshape).bind_eq_ok_iff hv' (by simp at hn; omega)
        (stops_layout hb' (by simp) _)]
    simp only [readMore_close hb', Except.ok.injEq]
  · rw [if_neg hname, lookup_eq_none hname]
    simp

theorem setTag_early (cases : List (String × Shape)) (name : String) (v : Value) :
    (Tagging.mk none (some v) none).setTag cases name = .ok t ↔
      ∃ w, fitCase cases name v = some w ∧ ⟨some name, none, some w⟩ = t := by
  cases hfit : fitCase cases name v <;> simp [Tagging.setTag, hfit]

/-- The content stands before the name. -/
theorem membersAgree_contentFirst (cases : List (String × Shape)) (name : String)
    (content : Value) :
    MembersAgree cases name content [("params", content), ("type", .string name)] := by
  constructor
  intro n room u rest t s h hn
  cases h with
  | @members _ _ _ k v b u hk hv hb hu =>
  obtain ⟨k', v', b', hk', hv', hb', rfl⟩ := hu.exists_single
  obtain ⟨n, rfl⟩ : ∃ m, n = m + 1 + 1 := ⟨n - 2, by simp at hn; omega⟩
  rw [List.append_assoc, List.append_assoc, List.append_assoc, List.cons_append,
    readTagged_early hk rfl rfl rfl,
    hv.reads (n + 1) room _ (by simp at hn; omega) (stops_layout hb (by simp) _)]
  by_cases hd : content.depth ≤ room
  · rw [if_pos hd, ok_bind]
    dsimp only
    rw [readMore_comma hb hu, List.append_assoc, List.append_assoc,
      readTagged_type hk' hv' (stops_layout hb' (by simp) _) rfl]
    by_cases hname : name ∈ cases.map (·.1)
    · rw [if_pos hname, bind_eq_ok_iff]
      simp [setTag_early, readMore_close hb', hd]
    · simp [hname, fitCase_eq, lookup_eq_none hname]
  · simp [hd]

/-! ### Values -/

theorem readAt_tagged_brace (cases : List (String × Shape)) (s : List Char) :
    readAt (n + 1) (room + 2) (tagged cases) ('\x7b' :: s) =
      (opened '\x7d' s >>= fun (isEmpty, s) =>
        if isEmpty then .error .mismatch
        else readTagged n (room + 1) cases ⟨none, none, none⟩ s >>= fun (t, s) =>
          t.result.map fun v => (v, s)) := by
  have hroom : ¬ room + 2 ≤ 1 := by omega
  have hbracket : ¬ some '\x7b' = some '[' := by decide
  rw [readAt, skipSpace_cons (by decide)]
  simp only [List.head?_cons, bne_self_eq_false, Bool.false_eq_true, if_false, hroom, hbracket,
    List.drop_one, List.tail_cons]
  rfl

theorem readAt_tagged_no_room (cases : List (String × Shape)) (s : List Char) :
    readAt (n + 1) 1 (tagged cases) ('\x7b' :: s) = .error .malformed := by
  rw [readAt, skipSpace_cons (by decide)]
  rfl

theorem agreesOn_tagged_object {ms : Members} (hne : ms ≠ [])
    (hdepth : Value.memberDepth ms = content.depth)
    (hfit : (tagged cases).fit (.object ms) =
      (fitCase cases name content).map (taggedValue name))
    (hagree : MembersAgree cases name content ms) : (tagged cases).AgreesOn (.object ms) where
  read_iff {t n room rest w s} h hn hrest := by
    obtain ⟨n, rfl⟩ := h.exists_succ (Nat.le_succ_of_le hn)
    cases h with
    | emptyObject => exact absurd rfl hne
    | @object ms u h =>
      rw [List.cons_append, List.cons_append, List.append_assoc, List.singleton_append]
      cases room with
      | zero => simp [readAt_tagged_no_room, Value.depth]
      | succ room =>
        have hopened : opened '\x7d' (u ++ '\x7d' :: rest) = .ok (false, _) :=
          opened_cons (h.head_members _) (by decide)
        have hroom : 3 * u.length < n := by simp at hn; omega
        rw [readAt_tagged_brace, hopened, ok_bind, hfit, Value.depth, hdepth]
        simp only [Bool.false_eq_true, if_false, bind_eq_ok_iff, Prod.exists,
          hagree.read_iff h hroom]
        cases fitCase cases name content <;> simp [Tagging.result, and_assoc]

/-- A name and what belongs to it agree in either order when the content agrees with the shape that
the name decides. -/
theorem agreesOn_nameFirst
    (h : ∀ shape, cases.lookup name = some shape → shape.AgreesOn content) :
    (tagged cases).AgreesOn (taggedValue name content) :=
  agreesOn_tagged_object (by simp) (by simp [Value.memberDepth, Value.depth])
    (fit_nameFirst cases name content) (membersAgree_nameFirst h)

theorem agreesOn_contentFirst (cases : List (String × Shape)) (name : String) (content : Value) :
    (tagged cases).AgreesOn (.object [("params", content), ("type", .string name)]) :=
  agreesOn_tagged_object (by simp) (by simp [Value.memberDepth, Value.depth])
    (fit_contentFirst cases name content) (membersAgree_contentFirst cases name content)

end Logbook.Json.Shape
