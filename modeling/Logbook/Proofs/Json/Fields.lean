import Logbook.Proofs.Json.Shape

/-! Records by their shape. The members of an object are taken in one by one, each into its field
and no field twice, and what is missing is filled in at the end. For an object whose keys are all
known that comes to the same as looking every field up. -/

namespace Logbook.Json.Shape

variable {n room : Nat} {rest : List Char} {fields : List (String × Presence × Shape)}

/-- A member in the form of its field. -/
def fitField (fields : List (String × Presence × Shape)) (m : String × Value) :
    Option (String × Value) :=
  (fields.lookup m.1).bind fun (_, shape) => shape.fitEntry m

theorem readFields_key {k : String} {presence : Presence} {shape : Shape} {t : List Char}
    (hk : WritesKey k t) (hfield : fields.lookup k = some (presence, shape)) (found : Members)
    (s : List Char) :
    readFields (n + 1) room fields found (skipSpace (t ++ s)) =
      if (found.get? k).isSome then .error .mismatch
      else readAt n room shape s >>= fun (v, s) => do
        let (more, s) ← following '\x7d' s
        if more then readFields n room fields ((k, v) :: found) s
        else return ((k, v) :: found, s) := by
  obtain ⟨behind, c, hkey, hc, hcolon⟩ := hk.reads s
  rw [readFields, hkey]
  by_cases hfound : (found.get? k).isSome
  · simp [hfield, hfound]
  · simp [hfield, hfound, hcolon, readAt_layout _ _ _ hc]

/-- Takes a member in, unless its field has been found. -/
def takeField (fields : List (String × Presence × Shape)) (found : Members)
    (m : String × Value) : Option Members :=
  if (found.get? m.1).isSome then none else (fitField fields m).map (· :: found)

theorem readFields_eq_ok_iff {ms : Members} {t : List Char} (h : Writes (.members ms) t)
    (hfields : ∀ m ∈ ms, ∃ f, fields.lookup m.1 = some f ∧ f.2.AgreesOn m.2)
    (hn : 3 * t.length < n) {found found' : Members} {s : List Char} :
    readFields n (room + 1) fields found (skipSpace (t ++ '\x7d' :: rest)) = .ok (found', s) ↔
      Value.memberDepth ms ≤ room ∧ ms.foldlM (takeField fields) found = some found' ∧
        rest = s := by
  induction ms generalizing n t found with
  | nil => cases h
  | cons m ms ih =>
    obtain ⟨⟨⟨presence, shape⟩, hfield, hm⟩, hms⟩ := List.forall_mem_cons.mp hfields
    obtain ⟨n, rfl⟩ : ∃ m, n = m + 1 := ⟨n - 1, by omega⟩
    have htake : fitField fields m = shape.fitEntry m := by rw [fitField, hfield, Option.bind_some]
    cases h with
    | @member k v a t b hk hv hb =>
      have hfollowing := following_close hb '\x7d' (by decide) rest
      rw [List.append_assoc, List.append_assoc, readFields_key hk hfield]
      by_cases hfound : (found.get? k).isSome
      · simp [hfound, takeField]
      · rw [if_neg hfound,
          hm.bind_eq_ok_iff hv (by simp at hn; omega) (stops_layout hb (by simp) rest)]
        simp only [hfollowing, ok_bind]
        cases hfit : shape.fit v <;>
          simp [fitEntry, hfit, htake, takeField, hfound, Value.memberDepth]
    | @members k v ms a t b u hk hv hb hu =>
      have hfollowing : following '\x7d' (b ++ ',' :: (u ++ '\x7d' :: rest)) = .ok (true, _) :=
        following_comma hb (by decide) (hu.head_members _) (by decide)
      have hothers : ∀ {found},
          readFields n (room + 1) fields found (skipSpace (u ++ '\x7d' :: rest)) =
              .ok (found', s) ↔
            Value.memberDepth ms ≤ room ∧ ms.foldlM (takeField fields) found = some found' ∧
              rest = s :=
        ih hu hms (by simp at hn; omega)
      rw [List.append_assoc, List.append_assoc, List.append_assoc, List.cons_append,
        readFields_key hk hfield]
      by_cases hfound : (found.get? k).isSome
      · simp [hfound, takeField]
      · rw [if_neg hfound,
          hm.bind_eq_ok_iff hv (by simp at hn; omega) (stops_layout hb (by simp) _)]
        simp only [hfollowing, ok_bind, if_true, hothers]
        cases hfit : shape.fit v <;>
          simp [fitEntry, hfit, htake, takeField, hfound, Value.memberDepth, and_assoc]

/-- What is found are the members in the form of their fields, and none of them came twice. -/
def AreFound (fields : List (String × Presence × Shape)) (ms found : Members) : Prop :=
  ∀ key, ms.filter (·.1 == key) = [] ∧ found.get? key = none ∨
    ∃ v w, ms.filter (·.1 == key) = [(key, v)] ∧ fitField fields (key, v) = some (key, w) ∧
      found.get? key = some w

theorem fitField_fst {m m' : String × Value} (h : fitField fields m = some m') : m'.1 = m.1 := by
  obtain ⟨f, -, hf⟩ := Option.bind_eq_some_iff.mp h
  obtain ⟨v, -, rfl⟩ := Option.map_eq_some_iff.mp hf
  rfl

/-- One more member is found when its key is new. -/
theorem AreFound.concat {ms found found' : Members} {m : String × Value}
    (h : AreFound fields ms found) (htake : takeField fields found m = some found') :
    AreFound fields (ms ++ [m]) found' := by
  obtain ⟨k, v⟩ := m
  rw [takeField] at htake
  split at htake
  · cases htake
  next hnew =>
  obtain ⟨⟨k', w⟩, hfit, rfl⟩ := Option.map_eq_some_iff.mp htake
  obtain rfl : k' = k := fitField_fst hfit
  intro key
  by_cases hkey : k' = key
  · subst hkey
    obtain ⟨hfilter, -⟩ | ⟨_, _, -, -, hget⟩ := h k'
    · exact .inr ⟨v, w, by simp [hfilter], hfit, by simp [Members.get?]⟩
    · exact absurd (by simp [hget]) hnew
  · have hget : Members.get? ((k', w) :: found) key = found.get? key := by
      rw [Members.get?, Keyed.lookup_cons, if_neg (Ne.symm hkey), Members.get?]
    have hfilter : (ms ++ [(k', v)]).filter (·.1 == key) = ms.filter (·.1 == key) := by
      simp [hkey]
    rw [hget, hfilter]
    exact h key

theorem areFound_of_foldlM {ms found : Members}
    (h : ms.foldlM (takeField fields) [] = some found) : AreFound fields ms found := by
  induction ms using List.reverseRecOn generalizing found with
  | nil =>
    obtain rfl : [] = found := by simpa using h
    exact fun key => .inl ⟨rfl, rfl⟩
  | append_singleton ms m ih =>
    rw [List.foldlM_append] at h
    obtain ⟨before, hbefore, htake⟩ := Option.bind_eq_some_iff.mp h
    exact (ih hbefore).concat (by simpa using htake)

theorem exists_foldlM {ms : Members}
    (h : ∀ m ∈ ms, ms.filter (·.1 == m.1) = [m] ∧ (fitField fields m).isSome) :
    ∃ found, ms.foldlM (takeField fields) [] = some found := by
  induction ms using List.reverseRecOn with
  | nil => exact ⟨[], rfl⟩
  | append_singleton ms m ih =>
    have hlast := h m (by simp)
    have hbefore : ∀ m' ∈ ms, ms.filter (·.1 == m'.1) = [m'] ∧ (fitField fields m').isSome := by
      intro m' hm'
      obtain ⟨hfilter, hfit⟩ := h m' (by simp [hm'])
      have hself : m' ∈ ms.filter (·.1 == m'.1) := by simp [hm']
      rw [List.filter_append] at hfilter
      obtain ⟨hnil, -⟩ | ⟨hone, -⟩ := List.append_eq_singleton_iff.mp hfilter
      · rw [hnil] at hself
        cases hself
      · exact ⟨hone, hfit⟩
    obtain ⟨found, hfound⟩ := ih hbefore
    have hnone : ms.filter (·.1 == m.1) = [] := by
      simpa [List.filter_append] using hlast.1
    have hnew : found.get? m.1 = none := by
      obtain ⟨-, hget⟩ | ⟨_, _, hone, -⟩ := areFound_of_foldlM hfound m.1
      · exact hget
      · simp [hnone] at hone
    obtain ⟨m', hfit⟩ := Option.isSome_iff_exists.mp hlast.2
    refine ⟨m' :: found, ?_⟩
    simp [List.foldlM_append, hfound, takeField, hnew, hfit]

theorem complete_eq_ok_iff {ms found members : Members} (h : AreFound fields ms found)
    {part : List (String × Presence × Shape)} (hpart : ∀ f ∈ part, fields.lookup f.1 = some f.2) :
    complete found part = .ok members ↔ fitFields part ms = some members := by
  induction part generalizing members with
  | nil => simp [complete, fitFields]
  | cons f part ih =>
    obtain ⟨name, presence, shape⟩ := f
    obtain ⟨hfield, hothers⟩ := List.forall_mem_cons.mp hpart
    have hrest : ∀ {members},
        complete found part = .ok members ↔ fitFields part ms = some members := ih hothers
    rw [complete.eq_def, fitFields.eq_def]
    dsimp only
    obtain ⟨hfilter, hget⟩ | ⟨v, w, hfilter, hfit, hget⟩ := h name
    · rw [hfilter, hget]
      cases presence <;> simp [bind_eq_ok_iff, Option.bind_eq_some_iff, hrest]
    · have hshape : shape.fit v = some w := by
        simpa [fitField, hfield, fitEntry] using hfit
      rw [hfilter, hget]
      simp [bind_eq_ok_iff, Option.bind_eq_some_iff, hrest, hshape]

/-- The value of a field comes from its only member, or the absence of one stands for it. -/
inductive IsField (ms : Members) (name : String) (shape : Shape) : Presence → Value → Prop where
  | found {presence : Presence} {v w : Value} (hone : ms.filter (·.1 == name) = [(name, v)])
      (hfit : shape.fit v = some w) : IsField ms name shape presence w
  | null (hnone : ms.filter (·.1 == name) = []) : IsField ms name shape .orNull .null
  | absent (hnone : ms.filter (·.1 == name) = []) (v : Value) :
      IsField ms name shape (.orElse v) v

theorem fitFields_cons_eq_some_iff {name : String} {presence : Presence} {shape : Shape}
    {part : List (String × Presence × Shape)} {ms members : Members} :
    fitFields ((name, presence, shape) :: part) ms = some members ↔
      ∃ w, IsField ms name shape presence w ∧ ∃ others, fitFields part ms = some others ∧
        (name, w) :: others = members := by
  have hrest {w : Value} : ((fitFields part ms).bind fun others => some ((name, w) :: others)) =
      some members ↔ ∃ others, fitFields part ms = some others ∧ (name, w) :: others = members := by
    simp [Option.bind_eq_some_iff]
  rw [fitFields.eq_def]
  dsimp only
  constructor
  · intro h
    split at h
    · next k v hone =>
      have hk : k = name := by
        have hmem : (k, v) ∈ ms.filter (·.1 == name) := by simp [hone]
        simpa using (List.mem_filter.mp hmem).2
      obtain ⟨w, hfit, h⟩ := Option.bind_eq_some_iff.mp h
      exact ⟨w, .found (hk ▸ hone) hfit, hrest.mp h⟩
    · next hnone => exact ⟨.null, .null hnone, hrest.mp h⟩
    · next v hnone => exact ⟨v, .absent hnone v, hrest.mp h⟩
    · cases h
  · rintro ⟨w, hw, h⟩
    have hmembers := hrest.mpr h
    cases hw with
    | found hone hfit =>
      rw [hone]
      exact Option.bind_eq_some_iff.mpr ⟨w, hfit, hmembers⟩
    | null hnone =>
      rw [hnone]
      exact hmembers
    | absent hnone =>
      rw [hnone]
      exact hmembers

/-- A member that is a field under its name. -/
def IsFieldOf (ms : Members) (f : String × Presence × Shape) (m : String × Value) : Prop :=
  m.1 = f.1 ∧ IsField ms f.1 f.2.2 f.2.1 m.2

/-- The fields are brought into shape one by one. -/
theorem fitFields_eq_some_iff {ms members : Members} {part : List (String × Presence × Shape)} :
    fitFields part ms = some members ↔ List.Forall₂ (IsFieldOf ms) part members := by
  induction part generalizing members with
  | nil => simp [fitFields, eq_comm]
  | cons f part ih =>
    obtain ⟨name, presence, shape⟩ := f
    rw [fitFields_cons_eq_some_iff]
    constructor
    · rintro ⟨w, hw, others, hothers, rfl⟩
      exact .cons ⟨rfl, hw⟩ (ih.mp hothers)
    · intro h
      cases h with
      | @cons _ m _ others hm hothers =>
        obtain ⟨k, w⟩ := m
        obtain ⟨rfl, hw⟩ := hm
        exact ⟨w, hw, others, ih.mpr hothers, rfl⟩

theorem exists_isField {ms members : Members} {part : List (String × Presence × Shape)}
    (h : fitFields part ms = some members) :
    ∀ f ∈ part, ∃ w, IsField ms f.1 f.2.2 f.2.1 w := by
  replace h := fitFields_eq_some_iff.mp h
  induction h with
  | nil => simp
  | cons hm _ ih => exact List.forall_mem_cons.mpr ⟨⟨_, hm.2⟩, ih⟩

/-- All keys are known, so members that fit come once each. -/
theorem exists_foldlM_of_fitFields {ms members : Members}
    (hknown : ∀ m ∈ ms, ∃ f, fields.lookup m.1 = some f)
    (h : fitFields fields ms = some members) :
    ∃ found, ms.foldlM (takeField fields) [] = some found := by
  apply exists_foldlM
  rintro ⟨k, v⟩ hm
  obtain ⟨⟨presence, shape⟩, hfield⟩ := hknown _ hm
  have hmem : (k, presence, shape) ∈ fields := by
    obtain ⟨before, behind, rfl, -⟩ := List.lookup_eq_some_iff.mp hfield
    simp
  have hself : (k, v) ∈ ms.filter (·.1 == k) := by simp [hm]
  obtain ⟨w, hw⟩ : ∃ w, IsField ms k shape presence w := exists_isField h _ hmem
  cases hw with
  | null hnone => simp [hnone] at hself
  | absent hnone => simp [hnone] at hself
  | @found _ v' w hone hfit =>
    obtain rfl : v = v' := by simpa [hone] using hself
    exact ⟨hone, by simp [fitField, hfield, fitEntry, hfit]⟩

theorem readAt_record_brace (fields : List (String × Presence × Shape)) (s : List Char) :
    readAt (n + 1) (room + 2) (record fields) ('\x7b' :: s) =
      (opened '\x7d' s >>= fun (isEmpty, s) =>
        if isEmpty then (complete [] fields).map fun ms => (.object ms, s)
        else readFields n (room + 1) fields [] s >>= fun (found, s) =>
          (complete found fields).map fun ms => (.object ms, s)) := by
  have hroom : ¬ room + 2 ≤ 1 := by omega
  have hbracket : ¬ some '\x7b' = some '[' := by decide
  rw [readAt, skipSpace_cons (by decide)]
  simp only [List.head?_cons, bne_self_eq_false, Bool.false_eq_true, if_false, hroom, hbracket,
    List.drop_one, List.tail_cons]
  rfl

theorem readAt_record_no_room (fields : List (String × Presence × Shape)) (s : List Char) :
    readAt (n + 1) 1 (record fields) ('\x7b' :: s) = .error .malformed := by
  rw [readAt, skipSpace_cons (by decide)]
  rfl

/-- Members are in the form of a record when they can be taken in one by one and what they lack
can be filled in. -/
theorem fit_record_eq_some_iff (hnodup : (fields.map Prod.fst).Nodup) {ms : Members}
    (hknown : ∀ m ∈ ms, ∃ f, fields.lookup m.1 = some f) {w : Value} :
    (record fields).fit (.object ms) = some w ↔
      ∃ found, ms.foldlM (takeField fields) [] = some found ∧
        ∃ members, complete found fields = .ok members ∧ .object members = w := by
  have hall : ∀ f ∈ fields, fields.lookup f.1 = some f.2 :=
    fun f hf => (Keyed.lookup_eq_some_iff hnodup).mpr hf
  rw [fit_record, Option.map_eq_some_iff]
  constructor
  · rintro ⟨members, hmembers, hw⟩
    obtain ⟨found, hfound⟩ := exists_foldlM_of_fitFields hknown hmembers
    have hcomplete := (complete_eq_ok_iff (areFound_of_foldlM hfound) hall).mpr hmembers
    exact ⟨found, hfound, members, hcomplete, hw⟩
  · rintro ⟨found, hfound, members, hcomplete, hw⟩
    exact ⟨members, (complete_eq_ok_iff (areFound_of_foldlM hfound) hall).mp hcomplete, hw⟩

/-- An object whose keys are all known. -/
theorem agreesOn_record (hnodup : (fields.map Prod.fst).Nodup) {ms : Members}
    (hknown : ∀ m ∈ ms, ∃ f, fields.lookup m.1 = some f ∧ f.2.AgreesOn m.2) :
    (record fields).AgreesOn (.object ms) where
  read_iff {t n room rest w s} h hn hrest := by
    obtain ⟨n, rfl⟩ := h.exists_succ (Nat.le_succ_of_le hn)
    rw [fit_record_eq_some_iff hnodup fun m hm => (hknown m hm).imp fun _ h => h.1]
    cases h with
    | @emptyObject a ha =>
      rw [List.cons_append, List.cons_append, List.append_assoc, List.singleton_append]
      cases room with
      | zero => simp [readAt_record_no_room, Value.depth]
      | succ room =>
        rw [readAt_record_brace, opened_close ha '\x7d' (by decide), ok_bind]
        simp [map_eq_ok_iff, Value.depth, Value.memberDepth, ← and_assoc]
    | @object ms t h =>
      rw [List.cons_append, List.cons_append, List.append_assoc, List.singleton_append]
      cases room with
      | zero => simp [readAt_record_no_room, Value.depth]
      | succ room =>
        have hopened : opened '\x7d' (t ++ '\x7d' :: rest) = .ok (false, _) :=
          opened_cons (h.head_members _) (by decide)
        have hfields : ∀ {found s},
            readFields n (room + 1) fields [] (skipSpace (t ++ '\x7d' :: rest)) =
                .ok (found, s) ↔
              Value.memberDepth ms ≤ room ∧ ms.foldlM (takeField fields) [] = some found ∧
                rest = s :=
          readFields_eq_ok_iff h hknown (by simp at hn; omega)
        rw [readAt_record_brace, hopened, ok_bind]
        simp only [Bool.false_eq_true, if_false, bind_eq_ok_iff, Prod.exists, hfields,
          map_eq_ok_iff]
        constructor
        · rintro ⟨found, _, ⟨hd, hfound, rfl⟩, members, hmembers, hw⟩
          obtain ⟨rfl, rfl⟩ := Prod.mk.inj hw
          exact ⟨Nat.succ_le_succ hd, ⟨found, hfound, members, hmembers, rfl⟩, rfl⟩
        · rintro ⟨hd, ⟨found, hfound, members, hmembers, rfl⟩, rfl⟩
          exact ⟨found, rest, ⟨Nat.le_of_succ_le_succ hd, hfound, rfl⟩, members, hmembers, rfl⟩

/-- An object whose keys are all known, where nothing is asked of the values. -/
theorem agreesOn_record_of_forall (hnodup : (fields.map Prod.fst).Nodup)
    (hfields : ∀ f ∈ fields, ∀ v, f.2.2.AgreesOn v) {ms : Members}
    (hkeys : ∀ m ∈ ms, m.1 ∈ fields.map Prod.fst) : (record fields).AgreesOn (.object ms) := by
  refine agreesOn_record hnodup fun m hm => ?_
  obtain ⟨f, hf, hkey⟩ := List.mem_map.mp (hkeys m hm)
  exact ⟨f.2, hkey ▸ (Keyed.lookup_eq_some_iff hnodup).mpr hf, hfields f hf m.2⟩

end Logbook.Json.Shape
