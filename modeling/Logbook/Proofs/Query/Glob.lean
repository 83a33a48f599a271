import Logbook.Proofs.Keyed
import Logbook.Proofs.Pattern.Glob
import Logbook.Proofs.Pattern.Room
import Logbook.Proofs.Query.Fillings
import Logbook.Proofs.Text.Pieces

/-! What a glob captures. Its pattern tries the fillings of the glob one after the other, at one
place of the text after the other; so the first that stands anywhere is the one captured. -/

namespace Logbook.Query

open Pattern
open Pattern.Node (literal)

namespace Glob

variable {pieces fills : List (List Char)} {text : List Char} {i j start : Nat} {cur : Cursor}

/-! ### The first filling -/

/-- The cursor behind the glob, filled like this. Its groups are counted from `i + 1` on. -/
def pass (i : Nat) : List (List Char) → List (List Char) → Cursor → Cursor
  | p :: pieces, c :: fills, cur =>
    let behind := (cur.pass p).pass c
    pass (i + 1) pieces fills { behind with
      captures := ⟨i + 1, (cur.pass p).pos, behind.pos⟩ :: behind.captures }
  | p :: _, [], cur => cur.pass p
  | [], _, cur => cur

theorem run_star (i : Nat) (greedy : Bool) (k : Next) (cur : Cursor) :
    (Node.star i greedy).run k cur =
      ((CharSet.complement (.just '\n')).runs greedy cur.rest).findSome? fun c =>
        k { cur.pass c with
          captures := ⟨i, cur.pos, (cur.pass c).pos⟩ :: (cur.pass c).captures } := by
  rw [Node.star, Node.run]
  exact Node.run_loop

/-- The nodes of a glob lead over the first of its fillings. -/
theorem run_globNodes (hne : pieces ≠ []) (i : Nat) (cur : Cursor) :
    (Node.ofList (globNodes i pieces)).run some cur =
      (fillings pieces cur.rest).head?.map fun fills => pass i pieces fills cur := by
  fun_induction globNodes i pieces generalizing cur with
  | case1 => exact absurd rfl hne
  | case2 i last =>
    have hlast := Node.run_ofList_literal (String.ofList last) [] some cur
    rw [List.append_nil, String.toList_ofList] at hlast
    rw [hlast, fillings]
    split <;> rfl
  | case3 i p q more ih =>
    rw [Node.run_ofList_literal, String.toList_ofList, Node.run_ofList_cons, fillings]
    split
    · rw [run_star, Cursor.rest_pass_eq, List.head?_flatMap, List.map_findSome?]
      refine congrArg (List.findSome? · _) (funext fun c => ?_)
      have hrest : (cur.rest.drop p.length).drop c.length = ((cur.pass p).pass c).rest := by
        rw [Cursor.rest_pass_eq, Cursor.rest_pass_eq]
      rw [ih (by simp), Function.comp_apply, List.head?_map, Option.map_map, hrest]
      rfl
    · rfl

/-- What the groups hold, counted from `i` on, the latest first. -/
def numbered (i : Nat) : List (List Char) → Captured
  | [] => []
  | c :: fills => numbered (i + 1) fills ++ [(i, c)]

theorem lookup_numbered_of_lt {n : Nat} (h : n < i) : (numbered i fills).lookup n = none := by
  induction fills generalizing i with
  | nil => rfl
  | cons c fills ih =>
    have hne : (n == i) = false := by simpa using Nat.ne_of_lt h
    simp [numbered, List.lookup_append, ih (Nat.lt_succ_of_lt h), List.lookup_cons, hne]

theorem lookup_numbered (i j : Nat) : (numbered i fills).lookup (i + j) = fills[j]? := by
  induction fills generalizing i j with
  | nil => rfl
  | cons c fills ih =>
    cases j with
    | zero => simp [numbered, List.lookup_append, lookup_numbered_of_lt]
    | succ j =>
      have hnext : i + (j + 1) = i + 1 + j := by omega
      have hne : (i + 1 + j == i) = false := by simp; omega
      simp [numbered, List.lookup_append, hnext, ih, List.lookup_cons, hne]

/-- On its way over a filling the cursor captures the texts of the stars. -/
theorem moves_pass (hcur : cur.IsIn text) (hlength : fills.length + 1 = pieces.length)
    (hstands : fill pieces fills <+: cur.rest) :
    Cursor.Moves text (fill pieces fills) (numbered (i + 1) fills) cur
      (pass i pieces fills cur) := by
  fun_induction pass i pieces fills cur with
  | case1 i cur p pieces c fills behind ih =>
    obtain ⟨later, hlater⟩ := hstands
    rw [fill, List.append_assoc, List.append_assoc] at hlater
    have hpiece := Cursor.moves_pass text hlater.symm
    have hstar := (Cursor.moves_pass text (Cursor.rest_pass hlater.symm)).group
      (hpiece.isIn hcur) (i + 1)
    have hmove := hpiece.trans hstar
    have hrest := ih (hmove.isIn hcur) (by simpa using hlength)
      ⟨later, (Cursor.rest_pass (Cursor.rest_pass hlater.symm)).symm⟩
    simpa [fill, numbered] using hmove.trans hrest
  | case2 i cur p pieces =>
    obtain ⟨later, hlater⟩ := hstands
    exact Cursor.moves_pass text hlater.symm
  | case3 => simp at hlength

/-! ### The first place -/

theorem not_stands_of_run (hne : pieces ≠ []) {n : Nat}
    (h : (Node.ofList (globNodes i pieces)).run some (cur.skip n) = none) :
    ¬ Stands pieces fills (cur.rest.drop n) := by
  rw [run_globNodes hne, Cursor.rest_skip, Option.map_eq_none_iff, List.head?_eq_none_iff] at h
  rw [← mem_fillings_iff, h]
  exact List.not_mem_nil

theorem not_occurs_of_search (hne : pieces ≠ [])
    (h : (Node.ofList (globNodes i pieces)).search 0 none text = none) : ¬ Occurs pieces text := by
  rw [occurs_iff]
  rintro ⟨n, fills, hstands⟩
  exact not_stands_of_run hne (Node.run_eq_none_of_search h n) hstands

theorem chosen_of_search (hne : pieces ≠ [])
    (h : (Node.ofList (globNodes i pieces)).search 0 none text = some (start, cur)) :
    ∃ fills, Chosen pieces fills text start ∧
      capturedIn text cur.captures = numbered (i + 1) fills := by
  obtain ⟨n, hn, rfl, hrun, hearlier⟩ := Node.search_eq_some h
  rw [run_globNodes hne, Cursor.rest_skip] at hrun
  obtain ⟨fills, hhead, rfl⟩ := Option.map_eq_some_iff.mp hrun
  obtain ⟨hstands, hfirst⟩ := first_of_head? hhead
  rw [Nat.zero_add]
  refine ⟨fills, ⟨hn, hstands, fun m hm _ => not_stands_of_run hne (hearlier m hm), hfirst⟩, ?_⟩
  have hskip := Cursor.moves_skip text n ⟨0, none, text, []⟩
  have hrest := Cursor.rest_skip n ⟨0, none, text, []⟩
  have hfill := moves_pass (i := i) (hskip.isIn rfl) hstands.1.length_eq (hrest ▸ hstands.2)
  simpa [capturedIn] using (hskip.trans hfill).captures

end Glob

namespace Extraction

variable {e : Extraction} {text : List Char} {fills : List (List Char)} {start : Nat}

theorem IsGlob.source_eq (h : e.IsGlob) :
    e.source = String.ofList (globSource e.pattern.toList) := by
  have hliteral : (if e.isRegex then regexLiteral? e.pattern.toList else none) = none := by
    split
    · next hregex => exact h hregex
    · rfl
  rw [source, hliteral]

theorem IsGlob.compile_eq (h : e.IsGlob) : Pattern.compile e.source =
    if Refusal.limit < (Node.ofList (globNodes 0 e.pieces)).weight then .error .tooBig
    else .ok ⟨e.source, .ofList (globNodes 0 e.pieces),
      groupList (.ofList (globNodes 0 e.pieces)) []⟩ := by
  rw [h.source_eq]
  exact compile_glob e.pattern.toList

theorem IsGlob.compile_ne_tooBig (h : e.IsGlob)
    (hroom : (Node.ofList (globNodes 0 e.pieces)).weight ≤ Refusal.limit) :
    Pattern.compile e.source ≠ .error .tooBig := by
  rw [h.compile_eq, if_neg (Nat.not_lt.mpr hroom)]
  exact fun hbig => nomatch hbig

theorem length_pieces (e : Extraction) : e.pieces.length = e.pattern.toList.count '*' + 1 := by
  unfold pieces
  induction e.pattern.toList with
  | nil => rfl
  | cons c glob ih =>
    rw [List.splitOn_cons_eq_if_modifyHead, List.count_cons]
    split
    · simp [ih]
    · simp [ih]

theorem captured_eq_zip {names : List String} {m : Match} (hlength : fills.length = names.length)
    (h : m.captured = Glob.numbered 1 fills) :
    captured (names.map some) m = names.zip (fills.map String.ofList) := by
  have hgroup (j : Nat) : m.group? (1 + j) = fills[j]? := by
    rw [Match.group?_eq_lookup (by omega), h, Glob.lookup_numbered]
  unfold captured
  -- the number of the first group is open, so that the induction can count on
  generalize 1 = n at hgroup
  clear h
  induction names generalizing fills n with
  | nil => simp
  | cons name names ih =>
    obtain ⟨c, fills, rfl⟩ := List.exists_cons_of_length_eq_add_one hlength
    have hfirst : m.group? n = some c := by simpa using hgroup 0
    have hrest (j : Nat) : m.group? (n + 1 + j) = fills[j]? := by
      simpa [Nat.add_assoc, Nat.add_comm 1] using hgroup (j + 1)
    simpa [hfirst] using ih (by simpa using hlength) (n + 1) hrest

theorem extract_eq (hglob : e.IsGlob) (hnames : e.names.length + 1 = e.pieces.length)
    (hne : e.names ≠ []) (hfits : Pattern.compile e.source ≠ .error .tooBig) (text : String) :
    e.extract text = .ok (match (Node.ofList (globNodes 0 e.pieces)).search 0 none text.toList with
      | none => []
      | some (start, cur) =>
        captured (e.names.map some) ⟨text.toList, start, cur.pos, cur.captures⟩) := by
  have hnests : (Node.ofList (globNodes 0 e.pieces)).nests = false := by
    rw [Node.nests_ofList, List.any_eq_false]
    simpa using nests_globNodes 0 e.pieces
  obtain ⟨k, hk⟩ : ∃ k, e.names.length = k + 1 :=
    ⟨e.names.length - 1, by have := List.length_pos_iff.mpr hne; omega⟩
  have hgroups : groupList (.ofList (globNodes 0 e.pieces)) [] = List.replicate (k + 1) none :=
    groupList_globNodes (by omega)
  have hkeys (p : Pattern) (hp : p.groups = List.replicate (k + 1) none) :
      e.keys p = e.names.map some := by
    refine List.ext_getElem (by simp [keys, hp, hk]) fun i hi hi' => ?_
    simp at hi'
    simp [keys, hp, hi']
  have hcompile : Pattern.compile e.source =
      .ok ⟨e.source, .ofList (globNodes 0 e.pieces), List.replicate (k + 1) none⟩ := by
    rw [hglob.compile_eq] at hfits ⊢
    split at hfits
    · exact absurd rfl hfits
    · next hle => rw [if_neg hle, hgroups]
  simp only [extract, compile, hcompile, ok_bind, find?, hnests, hkeys]
  cases (Node.ofList (globNodes 0 e.pieces)).search 0 none text.toList <;> rfl

/-! ### What is captured -/

theorem capturesGlob_nil (hne : e.names ≠ []) (h : ¬ Glob.Occurs e.pieces text) :
    e.CapturesGlob text [] where
  complete := by
    obtain ⟨name, names, hnames⟩ := List.exists_cons_of_ne_nil hne
    refine iff_of_false (fun hall => ?_) h
    simpa using hall name (by simp [hnames])
  nothing _ := rfl
  chosen hoccurs := absurd hoccurs h

theorem getLast?_pieces (h : e.pattern.toList.getLast? = some '*') :
    e.pieces.getLast? = some [] := by
  obtain ⟨glob, hglob⟩ := List.getLast?_eq_some_iff.mp h
  rw [pieces, hglob, List.splitOn_append_cons_self, List.splitOn_nil, List.getLast?_concat]

theorem capturesGlob_of_chosen (h : Glob.Chosen e.pieces fills text start)
    (hlength : fills.length = e.names.length) (hne : e.names ≠ []) (hnodup : e.names.Nodup) :
    e.CapturesGlob text (e.names.zip (fills.map String.ofList)) := by
  have hoccurs : Glob.Occurs e.pieces text := Glob.occurs_iff.mpr ⟨start, fills, h.stands⟩
  have hkeys : (e.names.zip (fills.map String.ofList)).map Prod.fst = e.names :=
    List.map_fst_zip (by simp [hlength])
  have hvalues : e.names.map ((e.names.zip (fills.map String.ofList)).lookup ·) =
      fills.map fun c => some (String.ofList c) := by
    refine List.ext_getElem (by simp [hlength]) fun i hi hi' => ?_
    simp only [List.length_map] at hi hi'
    rw [List.getElem_map, List.getElem_map, Keyed.lookup_eq_some_iff (hkeys.symm ▸ hnodup)]
    exact List.mem_iff_getElem.mpr ⟨i, by simp [hi, hi'], by simp⟩
  refine ⟨iff_of_true (fun name hname => ?_) hoccurs, absurd hoccurs, fun _ => ?_⟩
  · have hmem := List.mem_map_of_mem (f := ((e.names.zip (fills.map String.ofList)).lookup ·)) hname
    rw [hvalues] at hmem
    obtain ⟨c, -, hc⟩ := List.mem_map.mp hmem
    exact hc ▸ rfl
  · refine ⟨start, fills, h, hkeys, hvalues, fun hlast => ?_⟩
    have hfills : fills ≠ [] := by
      rintro rfl
      exact hne (List.eq_nil_of_length_eq_zero hlength.symm)
    rw [← List.drop_drop]
    exact Glob.ends_line h.stands h.first hfills (getLast?_pieces hlast)

/-- A glob captures what it says, unless its pattern is too big: each of the names has a value just
if the glob occurs in the text, and of all ways in which it occurs the first is taken. -/
theorem extract_glob (hglob : e.IsGlob) (hstar : '*' ∈ e.pattern.toList)
    (hnames : e.names.length = e.pattern.toList.count '*') (hnodup : e.names.Nodup)
    (hfits : Pattern.compile e.source ≠ .error .tooBig) (text : String) :
    ∃ values, e.extract text = .ok values ∧ e.CapturesGlob text.toList values := by
  have hlength : e.names.length + 1 = e.pieces.length := by rw [hnames, length_pieces]
  have hne : e.names ≠ [] := by
    rw [← List.length_pos_iff, hnames]
    exact List.count_pos_iff.mpr hstar
  have hpieces : e.pieces ≠ [] := List.splitOn_ne_nil _ _
  have hextract := extract_eq hglob hlength hne hfits text
  cases hsearch : (Node.ofList (globNodes 0 e.pieces)).search 0 none text.toList with
  | none =>
    refine ⟨[], by rw [hextract, hsearch], ?_⟩
    exact capturesGlob_nil hne (Glob.not_occurs_of_search hpieces hsearch)
  | some found =>
    obtain ⟨start, cur⟩ := found
    obtain ⟨fills, hchosen, hcaptures⟩ := Glob.chosen_of_search hpieces hsearch
    have hfills : fills.length = e.names.length := by
      have := hchosen.stands.1.length_eq
      omega
    have hvalues :=
      captured_eq_zip (m := ⟨text.toList, start, cur.pos, cur.captures⟩) hfills hcaptures
    refine ⟨_, ?_, capturesGlob_of_chosen hchosen hfills hne hnodup⟩
    rw [hextract, hsearch]
    exact congrArg Except.ok hvalues

theorem extract_glob_line :
    let e : Extraction := ⟨"m", "id=* ms=*", "id, ms", false⟩
    let text := "id=a b ms=2 ms=3\n4"
    (e.IsGlob ∧ '*' ∈ e.pattern.toList ∧ e.names.length = e.pattern.toList.count '*' ∧
        e.names.Nodup ∧ Pattern.compile e.source ≠ .error .tooBig) ∧
      ∃ values, e.extract text = .ok values ∧ e.CapturesGlob text.toList values := by
  intro e text
  have hyps : e.IsGlob ∧ '*' ∈ e.pattern.toList ∧ e.names.length = e.pattern.toList.count '*' ∧
      e.names.Nodup := by decide
  have hpieces : e.pieces = ["id=".toList, " ms=".toList, []] := by decide
  have hfits : Pattern.compile e.source ≠ .error .tooBig := by
    have hsets : (Node.ofList (globNodes 0 e.pieces)).SetsFit := by
      simp (disch := decide) [hpieces, globNodes, Node.star, or_imp, forall_and]
    have hroom : (Node.ofList (globNodes 0 e.pieces)).roomy ≤ Refusal.limit := by
      rw [hpieces]
      decide
    exact hyps.1.compile_ne_tooBig (Nat.le_trans hsets.weight_le hroom)
  exact ⟨⟨hyps.1, hyps.2.1, hyps.2.2.1, hyps.2.2.2, hfits⟩,
    extract_glob hyps.1 hyps.2.1 hyps.2.2.1 hyps.2.2.2 hfits text⟩

/-! ### Globs that are too big -/

/-- A glob with a text in front of its star. -/
def longGlob (n : Nat) : Extraction :=
  ⟨"m", String.ofList (List.replicate n 'a' ++ ['*']), "x", false⟩

section

variable (n : Nat)

theorem isGlob_longGlob : (longGlob n).IsGlob := fun h => absurd h Bool.false_ne_true

theorem names_longGlob : (longGlob n).names = ["x"] := by
  have hnames : (listItems "x".toList).map String.ofList = ["x"] := by decide
  exact hnames

theorem pieces_longGlob : (longGlob n).pieces = [List.replicate n 'a', []] := by
  have hstar : '*' ∉ List.replicate n 'a' := by simp [List.mem_replicate]
  simp [pieces, longGlob, List.splitOn_append_cons_self, List.splitOn_eq_singleton hstar]

theorem count_longGlob : (longGlob n).pattern.toList.count '*' = 1 := by
  simp [longGlob, List.count_append, List.count_replicate]

theorem not_occurs_longGlob (hn : n ≠ 0) : ¬ Glob.Occurs (longGlob n).pieces [] := by
  rintro ⟨fills, hfilling, hinfix⟩
  rw [pieces_longGlob] at hfilling hinfix
  obtain ⟨c, rfl⟩ := List.length_eq_one_iff.mp (by simpa using hfilling.length_eq)
  simp [Glob.fill, hn] at hinfix

/-- Every character of the text takes a state of the pattern. -/
theorem extract_longGlob (h : Refusal.limit < stateRoom * n) (text : String) :
    (longGlob n).extract text =
      .error (.invalidPattern (longGlob n).pattern Refusal.tooBigText) := by
  have hstate : stateRoom ≤ (Node.chars (.just 'a')).weight := by decide
  have hweight := Node.le_weight_ofList_literal (String.ofList (List.replicate n 'a'))
    (List.cons_ne_nil (.star 1 true) (literal (String.ofList [])))
    (by simpa [List.mem_replicate] using fun _ => hstate)
  rw [String.toList_ofList, List.length_replicate] at hweight
  have hcompile : Pattern.compile (longGlob n).source = .error .tooBig := by
    rw [(isGlob_longGlob n).compile_eq, pieces_longGlob]
    exact if_pos (Nat.lt_of_lt_of_le h (Nat.le_trans (Nat.le_add_right _ _) hweight))
  simp [extract, compile, hcompile, Refusal.reason]

end

/-- The pattern of a long glob is refused, where the text has nothing to capture. -/
theorem longGlob_refused : (longGlob 400000).IsGlob ∧ '*' ∈ (longGlob 400000).pattern.toList ∧
    (longGlob 400000).names.length = (longGlob 400000).pattern.toList.count '*' ∧
    (longGlob 400000).names.Nodup ∧ ¬ Glob.Occurs (longGlob 400000).pieces "".toList ∧
    (longGlob 400000).extract "" ≠ .ok [] := by
  refine ⟨isGlob_longGlob _, ?_, ?_, ?_, not_occurs_longGlob 400000 (by decide), ?_⟩
  · rw [← List.count_pos_iff, count_longGlob]
    decide
  · rw [names_longGlob, count_longGlob]
    rfl
  · rw [names_longGlob]
    decide
  · rw [extract_longGlob 400000 (by decide)]
    exact fun h => nomatch h

end Extraction

end Logbook.Query
