import Logbook.Proofs.Pattern.Search
import Logbook.Proofs.Result
import Logbook.Query.Extraction
import Mathlib.Tactic.Common

/-! Globs are patterns. A quoted text reads as literals and a star as a group around a loop, so
the node of a glob is known, and the only thing that can stand against it is its size. -/

namespace Logbook.Pattern

/-! ### The steps of a scan -/

namespace Scan

variable (st : Scan)

@[simp] theorem bump_verbose : st.bump.verbose = st.verbose := by
  unfold bump
  split <;> rfl

@[simp] theorem bump_captures : st.bump.captures = st.captures := by
  unfold bump
  split <;> rfl

theorem bump_rest {c : Char} {rest : List Char} (h : st.rest = c :: rest) :
    st.bump.rest = rest := by
  simp [bump, h]

variable {st}

theorem skipBlank_eq (h : st.verbose = false) : st.skipBlank = st := by
  simp [skipBlank, h]

end Scan

section

variable (st : Scan)

@[simp] theorem current_run : current.run st = .ok (st.rest.head?, st) := rfl

@[simp] theorem place_run : place.run st = .ok (st.place, st) := rfl

@[simp] theorem bump_run : bump.run st = .ok ((), st.bump) := rfl

@[simp] theorem charSpan_run : charSpan.run st = .ok (st.charSpan, st) := rfl

@[simp] theorem here_run : here.run st = .ok (st.here, st) := rfl

@[simp] theorem since_run (start : Place) : (since start).run st = .ok (st.since start, st) := rfl

@[simp] theorem skipBlank_run : skipBlank.run st = .ok ((), st.skipBlank) := rfl

@[simp] theorem nextCapture_run :
    nextCapture.run st = .ok (st.captures + 1, { st with captures := st.captures + 1 }) := rfl

end

variable {st : Scan} {rest : List Char}

theorem accept_run_of_not_prefix {text : List Char} (h : ¬ text <+: st.rest) :
    (accept text).run st = .ok (false, st) := by
  simp [accept, h]

/-! ### Single characters -/

theorem single_run_plain {c : Char} (hr : st.rest = c :: rest) (hc : isMeta c = false) :
    single.run st = .ok (.literal ⟨st.charSpan, c, false⟩, st.bump) := by
  have hm : c ≠ '\\' ∧ c ≠ '.' ∧ c ≠ '^' ∧ c ≠ '$' := by
    refine ⟨?_, ?_, ?_, ?_⟩ <;> rintro rfl <;> simp [isMeta] at hc
  simp [single, hr, hm]

theorem single_run_escaped {c : Char} (hr : st.rest = '\\' :: c :: rest) (hc : isMeta c = true) :
    single.run st =
      .ok (.literal ⟨⟨st.place, st.bump.bump.place⟩, c, false⟩, st.bump.bump) := by
  -- none of the characters that have to be escaped means anything else behind a backslash
  have hmeta : ∀ d ∈ ['\\', '.', '+', '*', '?', '(', ')', '|', '[', ']', '{', '}', '^', '$', '#',
      '&', '-', '~'], d.isDigit = false ∧ d ≠ 'x' ∧ d ≠ 'u' ∧ d ≠ 'U' ∧ d ≠ 'p' ∧ d ≠ 'P' ∧
      shorthand? d = none := by simp [shorthand?]
  obtain ⟨hdigit, hx, hu, hU, hp, hP, hshort⟩ := hmeta c (by simpa [isMeta] using hc)
  have hb : st.bump.rest = c :: rest := st.bump_rest hr
  simp [single, escape, hr, hb, hdigit, hx, hu, hU, hp, hP, hshort, hc]
  rfl

/-! ### Groups -/

theorem openGroup_run_capture {c : Char} (hr : st.rest = '(' :: c :: rest) (hc : c ≠ '?')
    (hv : st.verbose = false) :
    openGroup.run st = .ok (.inr (st.charSpan, .capture (st.captures + 1) none),
      { st.bump with captures := st.captures + 1 }) := by
  have hb : st.bump.rest = c :: rest := st.bump_rest hr
  have hs : st.bump.skipBlank = st.bump := Scan.skipBlank_eq (by simp [hv])
  have hno (text : List Char) : (accept ('?' :: text)).run st.bump = .ok (false, st.bump) := by
    apply accept_run_of_not_prefix
    rw [hb, List.cons_prefix_cons]
    exact fun h => hc h.1.symm
  have hlook : "?=".toList = '?' :: ['='] ∧ "?!".toList = '?' :: ['!'] ∧
      "?<=".toList = '?' :: ['<', '='] ∧ "?<!".toList = '?' :: ['<', '!'] ∧
      "?P<".toList = '?' :: ['P', '<'] ∧ "?<".toList = '?' :: ['<'] := by decide
  simp [openGroup, hs, hno, hlook]

/-! ### The items of a glob -/

/-- The node of a star: a group around any characters of a line. -/
def Node.star (i : Nat) (greedy : Bool) : Node :=
  .group i (.loop 0 none greedy (.chars (.complement (.just '\n'))))

/-- A literal, or a group around a loop over any character, and the node that it becomes. -/
def Ast.IsGlobItem : Ast → Node → Prop
  | .literal l, node => l.isByte = false ∧ node = .chars (.just l.char)
  | .group _ (.capture i none) (.repetition _ 0 none greedy (.dot _)), node => node = .star i greedy
  | _, _ => False

/-- Where the reading of items stands: `rest` is left, there are steps for all of it, `i` groups
were opened, and only items of a glob have been read, which become `nodes`. -/
structure AtGlob (rest : List Char) (n i : Nat) (nodes : List Node) (s : Sequence) (st : Scan) :
    Prop where
  rest_eq : st.rest = rest
  plain : st.verbose = false
  room : rest.length < n
  captures_eq : st.captures = i
  items : List.Forall₂ Ast.IsGlobItem s.parts.reverse nodes

/-- Reading goes on over `text` with the same outcome. Between `i` and `j` groups it comes upon
these nodes. -/
def PassesOver (text : List Char) (i : Nat) (nodes : List Node) (j : Nat) : Prop :=
  ∀ rest n before s st, AtGlob (text ++ rest) n i before s st →
    ∃ n' s' st', (items n s []).run st = (items n' s' []).run st' ∧
      AtGlob rest n' j (before ++ nodes) s' st'

theorem PassesOver.nil (i : Nat) : PassesOver [] i [] i := by
  intro rest n before s st h
  exact ⟨n, s, st, rfl, by simpa using h⟩

theorem PassesOver.append {t u : List Char} {i j k : Nat} {nodes nodes' : List Node}
    (ht : PassesOver t i nodes j) (hu : PassesOver u j nodes' k) :
    PassesOver (t ++ u) i (nodes ++ nodes') k := by
  intro rest n before s st h
  rw [List.append_assoc] at h
  obtain ⟨n', s', st', heq, h'⟩ := ht _ n before s st h
  obtain ⟨n'', s'', st'', heq', h''⟩ := hu _ n' _ s' st' h'
  exact ⟨n'', s'', st'', heq.trans heq', by rwa [List.append_assoc] at h''⟩

/-- One more item has been read. -/
theorem AtGlob.items_append {n i : Nat} {nodes : List Node} {s : Sequence} {a : Ast} {node : Node}
    (h : AtGlob rest n i nodes s st) (ha : a.IsGlobItem node) :
    List.Forall₂ Ast.IsGlobItem (a :: s.parts).reverse (nodes ++ [node]) := by
  rw [List.reverse_cons]
  exact List.rel_append h.items (.cons ha .nil)

/-! The next item, for each character that a glob may put there, and the end. What follows goes by
these steps and does not open the reader again. -/

section

attribute [local simp] items

theorem items_run_literal {n : Nat} {s : Sequence} {st' : Scan} {c : Char} {l : Literal}
    (hr : st.rest = c :: rest) (hv : st.verbose = false)
    (hc : c ∉ ['(', ')', '|', '[', '?', '*', '+', '\x7b'])
    (hs : single.run st = .ok (.literal l, st')) :
    (items (n + 1) s []).run st =
      (items n { s with parts := .literal l :: s.parts } []).run st' := by
  simp only [List.mem_cons, List.not_mem_nil, not_or, or_false] at hc
  have hskip : st.skipBlank = st := Scan.skipBlank_eq hv
  simp [hskip, hr, hc, hs, Single.ast]

theorem items_run_open {n : Nat} {s : Sequence} {c : Char} (hr : st.rest = '(' :: c :: rest)
    (hc : c ≠ '?') (hv : st.verbose = false) :
    (items (n + 1) s []).run st = (items n ⟨st.bump.place, []⟩
      [.group s st.charSpan (.capture (st.captures + 1) none) false]).run
        { st.bump with captures := st.captures + 1 } := by
  have hskip : st.skipBlank = st := Scan.skipBlank_eq hv
  simp [hskip, hr, openGroup_run_capture hr hc hv, hv]

theorem items_run_dot (n : Nat) (s : Sequence) (stack : List Level) (hr : st.rest = '.' :: rest)
    (hv : st.verbose = false) :
    (items (n + 1) s stack).run st =
      (items n { s with parts := .dot st.charSpan :: s.parts } stack).run st.bump := by
  have hskip : st.skipBlank = st := Scan.skipBlank_eq hv
  simp [hskip, hr, single, Single.ast]

/-- Over the mark of a loop, and the one that makes it lazy. -/
theorem items_run_loop (n : Nat) (start : Place) {a : Ast} (stack : List Level) (greedy : Bool)
    (hr : st.rest = '*' :: ((if greedy then [')'] else ['?', ')']) ++ rest))
    (ha : a.isBare = false) (hv : st.verbose = false) :
    ∃ span st', (items (n + 1) ⟨start, [a]⟩ stack).run st =
        (items n ⟨start, [.repetition span 0 none greedy a]⟩ stack).run st' ∧
      st'.rest = ')' :: rest ∧ st'.verbose = false ∧ st'.captures = st.captures := by
  have hskip : st.skipBlank = st := Scan.skipBlank_eq hv
  cases greedy with
  | true =>
    have hb : st.bump.rest = ')' :: rest := st.bump_rest hr
    refine ⟨⟨a.span.start, st.bump.place⟩, st.bump, ?_, hb, by simp [hv], by simp⟩
    simp [hskip, hr, hb, simpleRepetition, repeatable, ha, greediness, Scan.since]
  | false =>
    have hb : st.bump.rest = '?' :: ')' :: rest := st.bump_rest hr
    refine ⟨⟨a.span.start, st.bump.bump.place⟩, st.bump.bump, ?_, st.bump.bump_rest hb,
      by simp [hv], by simp⟩
    simp [hskip, hr, hb, simpleRepetition, repeatable, ha, greediness, Scan.since]

theorem items_run_close (n : Nat) (before s : Sequence) (span : Span) (kind : GroupKind)
    (hr : st.rest = ')' :: rest) (hv : st.verbose = false) :
    ∃ span', (items (n + 1) s [.group before span kind false]).run st =
      (items n { before with parts := .group span' kind (s.ast st.place) :: before.parts } []).run
        { st with verbose := false }.bump := by
  have hskip : st.skipBlank = st := Scan.skipBlank_eq hv
  refine ⟨⟨span.start, { st with verbose := false }.bump.place⟩, ?_⟩
  simp [hskip, hr, closeGroup, closeAlternation]

theorem items_run_end (n : Nat) (s : Sequence) (stack : List Level) (hr : st.rest = [])
    (hv : st.verbose = false) : (items (n + 1) s stack).run st = .ok ((s, stack), st) := by
  have hskip : st.skipBlank = st := Scan.skipBlank_eq hv
  simp [hskip, hr]

end

theorem passesOver_char (i : Nat) (c : Char) :
    PassesOver (if isMeta c then ['\\', c] else [c]) i [.chars (.just c)] i := by
  intro rest n before s st h
  obtain ⟨n, rfl⟩ : ∃ m, n = m + 1 := ⟨n - 1, by have := h.room; omega⟩
  cases hc : isMeta c with
  | true =>
    simp only [hc, if_true] at h
    have hb : st.bump.rest = c :: rest := st.bump_rest h.rest_eq
    have hsingle := single_run_escaped h.rest_eq hc
    refine ⟨n, _, _, items_run_literal h.rest_eq h.plain (by decide) hsingle, ?_⟩
    refine ⟨st.bump.bump_rest hb, by simp [h.plain], ?_, by simp [h.captures_eq], ?_⟩
    · have := h.room
      simp at this
      omega
    · exact h.items_append ⟨rfl, rfl⟩
  | false =>
    simp only [hc, Bool.false_eq_true, if_false] at h
    have hspecial : c ∉ ['(', ')', '|', '[', '?', '*', '+', '\x7b'] := by
      intro hm
      have hmeta : ∀ d ∈ ['(', ')', '|', '[', '?', '*', '+', '\x7b'], isMeta d = true := by
        simp [isMeta]
      simp [hmeta c hm] at hc
    have hsingle := single_run_plain h.rest_eq hc
    refine ⟨n, _, _, items_run_literal h.rest_eq h.plain hspecial hsingle, ?_⟩
    refine ⟨st.bump_rest h.rest_eq, by simp [h.plain], ?_, by simp [h.captures_eq], ?_⟩
    · have := h.room
      simp at this
      omega
    · exact h.items_append ⟨rfl, rfl⟩

theorem passesOver_quote (i : Nat) (text : List Char) :
    PassesOver (quote text) i (Node.literal (String.ofList text)) i := by
  rw [Node.literal, String.toList_ofList]
  induction text with
  | nil => exact .nil i
  | cons c text ih =>
    rw [quote, List.flatMap_cons]
    exact (passesOver_char i c).append ih

/-- The text of a star: greedy where it is the last one. -/
def starText (greedy : Bool) : List Char :=
  ['(', '.', '*'] ++ (if greedy then [')'] else ['?', ')'])

theorem passesOver_star (i : Nat) (greedy : Bool) :
    PassesOver (starText greedy) i [.star (i + 1) greedy] (i + 1) := by
  intro rest n before s st h
  have hlong : 4 ≤ (starText greedy).length := by cases greedy <;> decide
  have hroom := h.room
  rw [List.length_append] at hroom
  obtain ⟨n, rfl⟩ : ∃ m, n = m + 1 + 1 + 1 + 1 := ⟨n - 4, by omega⟩
  have hr : st.rest = '(' :: '.' :: '*' :: ((if greedy then [')'] else ['?', ')']) ++ rest) := by
    rw [h.rest_eq, starText]
    rfl
  have hopen := items_run_open (n := n + 1 + 1 + 1) (s := s) hr (by decide) h.plain
  generalize hinside : { st.bump with captures := st.captures + 1 } = inside at hopen
  have hr' : inside.rest = '.' :: '*' :: ((if greedy then [')'] else ['?', ')']) ++ rest) := by
    rw [← hinside]
    exact st.bump_rest hr
  have hv' : inside.verbose = false := by simp [← hinside, h.plain]
  have hdot := items_run_dot (n + 1 + 1) ⟨st.bump.place, []⟩
    [.group s st.charSpan (.capture (st.captures + 1) none) false] hr' hv'
  obtain ⟨span, behind, hloop, hbehind, hplain, hcaptures⟩ := items_run_loop (n + 1) st.bump.place
    (a := .dot inside.charSpan) [.group s st.charSpan (.capture (st.captures + 1) none) false] greedy
    (inside.bump_rest hr') rfl (by simp [hv'])
  obtain ⟨span', hclose⟩ := items_run_close n s
    ⟨st.bump.place, [.repetition span 0 none greedy (.dot inside.charSpan)]⟩
    st.charSpan (.capture (st.captures + 1) none) hbehind hplain
  refine ⟨n, _, _, ((hopen.trans hdot).trans hloop).trans hclose, ?_⟩
  refine ⟨Scan.bump_rest _ hbehind, by simp, by omega, ?_, ?_⟩
  · simp [hcaptures, ← hinside, h.captures_eq]
  · exact h.items_append (by simp [Sequence.ast, Ast.IsGlobItem, h.captures_eq])

/-! ### From the items to the pattern -/

theorem Ast.IsGlobItem.nestFault?_eq {a : Ast} {node : Node} (h : a.IsGlobItem node) (depth : Nat) :
    a.nestFault? (depth + 2) = none := by
  unfold IsGlobItem at h
  split at h
  · rfl
  · rfl
  · exact absurd h not_false

theorem Ast.IsGlobItem.node_eq {a : Ast} {node : Node} (h : a.IsGlobItem node) :
    a.node .initial = .ok (node, .initial) := by
  unfold IsGlobItem at h
  split at h
  · obtain ⟨hbyte, rfl⟩ := h
    simp [Ast.node, Flags.literal, hbyte]
    rfl
  · next i _ greedy _ =>
    subst h
    cases greedy <;> rfl
  · exact absurd h not_false

theorem Ast.IsGlobItem.groupNames_eq {a : Ast} {node : Node} (h : a.IsGlobItem node) :
    a.groupNames = [] := by
  unfold IsGlobItem at h
  split at h
  · rfl
  · rfl
  · exact absurd h not_false

section

variable {parts : List Ast} {nodes : List Node} (h : List.Forall₂ Ast.IsGlobItem parts nodes)

include h

theorem partsNestFault?_eq_none (depth : Nat) : partsNestFault? (depth + 2) parts = none := by
  induction h with
  | nil => rfl
  | cons ha _ ih => simp [partsNestFault?, ha.nestFault?_eq depth, ih]

theorem partsNodes_eq : partsNodes .initial parts = .ok (nodes, .initial) := by
  induction h with
  | nil => rfl
  | cons ha _ ih => simp [partsNodes, ha.node_eq, ih]

theorem partsGroupNames_eq_nil : partsGroupNames parts = [] := by
  induction h with
  | nil => rfl
  | cons ha _ ih => simp [partsGroupNames, ha.groupNames_eq, ih]

end

theorem Sequence.ast_of_glob {s : Sequence} {nodes : List Node}
    (h : List.Forall₂ Ast.IsGlobItem s.parts.reverse nodes) (stop : Place) :
    (s.ast stop).nestFault? 250 = none ∧ (s.ast stop).groupNames = [] ∧
      (s.ast stop).node .initial = .ok (.ofList nodes, .initial) := by
  unfold Sequence.ast
  split
  · next hparts =>
    obtain rfl : nodes = [] := by simpa [hparts] using h
    exact ⟨rfl, rfl, rfl⟩
  · next a hparts =>
    obtain ⟨node, ha, rfl⟩ : ∃ node, a.IsGlobItem node ∧ nodes = [node] := by
      simpa [hparts, List.forall₂_cons_left_iff] using h
    exact ⟨ha.nestFault?_eq 248, ha.groupNames_eq, ha.node_eq⟩
  · have hnest := partsNestFault?_eq_none h 247
    exact ⟨by simpa [Ast.nestFault?] using hnest,
      by simpa [Ast.groupNames] using partsGroupNames_eq_nil h,
      by simp [Ast.node, partsNodes_eq h]⟩

/-- A text that reading passes over is a pattern of the nodes read, unless it is too big. -/
theorem PassesOver.compile_eq {text : List Char} {nodes : List Node} {j : Nat}
    (h : PassesOver text 0 nodes j) :
    Pattern.compile (String.ofList text) =
      if Refusal.limit < (Node.ofList nodes).weight then .error .tooBig
      else .ok ⟨String.ofList text, .ofList nodes, groupList (.ofList nodes) []⟩ := by
  obtain ⟨n, s, st, heq, hend⟩ := h [] (text.length + 1) [] ⟨.origin, []⟩ (Scan.start text)
    ⟨by simp [Scan.start], rfl, by simp, rfl, by simp⟩
  obtain ⟨n, rfl⟩ : ∃ m, n = m + 1 := ⟨n - 1, by have := hend.room; omega⟩
  have hitems : (items (text.length + 1) ⟨.origin, []⟩ []).run (Scan.start text) =
      .ok ((s, []), st) := heq.trans (items_run_end n s [] hend.rest_eq hend.plain)
  obtain ⟨hnest, hnames, hnode⟩ := Sequence.ast_of_glob hend.items st.place
  have hwhole : whole.run (Scan.start text) = .ok (s.ast st.place, st) := by
    have hbound : bound.run (Scan.start text) = .ok (text.length + 1, Scan.start text) := rfl
    have horigin : (Scan.start text).place = .origin := rfl
    simp [whole, hbound, horigin, hitems, closeAlternation]
  have hread : Pattern.read text = .ok (s.ast st.place) := by
    simp [Pattern.read, hwhole, hnest]
  simp [Pattern.compile, String.toList_ofList, hread, hnode, hnames]

namespace Node

/-! ### Loops, groups and room of a list of nodes -/

theorem nests_ofList (nodes : List Node) : (ofList nodes).nests = nodes.any (·.nests) := by
  induction nodes with
  | nil => rfl
  | cons a nodes ih =>
    cases nodes with
    | nil => simp [ofList]
    | cons b nodes => rw [List.any_cons, ← ih]; rfl

theorem lastGroup_ofList_cons (a : Node) (nodes : List Node) :
    (ofList (a :: nodes)).lastGroup = max a.lastGroup (ofList nodes).lastGroup := by
  cases nodes with
  | nil => simp [ofList, lastGroup]
  | cons b nodes => rfl

theorem lastGroup_ofList_literal (text : String) (nodes : List Node) :
    (ofList (literal text ++ nodes)).lastGroup = (ofList nodes).lastGroup := by
  unfold literal
  induction text.toList with
  | nil => rfl
  | cons c chars ih => simpa [lastGroup_ofList_cons, lastGroup] using ih

theorem weight_ofList_cons (a : Node) {nodes : List Node} (hne : nodes ≠ []) :
    (ofList (a :: nodes)).weight = a.weight + (ofList nodes).weight := by
  obtain ⟨b, others, rfl⟩ := List.exists_cons_of_ne_nil hne
  rfl

theorem le_weight_ofList_literal (text : String) {nodes : List Node} (hne : nodes ≠ [])
    (h : ∀ c ∈ text.toList, stateRoom ≤ (chars (.just c)).weight) :
    stateRoom * text.toList.length + (ofList nodes).weight ≤
      (ofList (literal text ++ nodes)).weight := by
  unfold literal
  generalize text.toList = chars at h ⊢
  induction chars with
  | nil => simp
  | cons c chars ih =>
    obtain ⟨hc, hchars⟩ := List.forall_mem_cons.mp h
    have hrest := ih hchars
    rw [List.map_cons, List.cons_append,
      weight_ofList_cons _ (List.append_ne_nil_of_right_ne_nil _ hne), List.length_cons,
      Nat.mul_add_one]
    omega

end Node

end Logbook.Pattern

namespace Logbook.Query

open Pattern
open Pattern.Node (literal)

/-- The nodes of the pieces of a glob and the stars between them, counted from `i + 1` on. -/
def globNodes (i : Nat) : List (List Char) → List Node
  | [] => []
  | [last] => literal (String.ofList last)
  | p :: q :: more =>
    literal (String.ofList p) ++
      (.star (i + 1) more.isEmpty :: globNodes (i + 1) (q :: more))

theorem passesOver_globPieces (i : Nat) (pieces : List (List Char)) :
    PassesOver (globPieces pieces) i (globNodes i pieces) (i + (pieces.length - 1)) := by
  fun_induction globPieces pieces generalizing i with
  | case1 => exact .nil i
  | case2 last => exact passesOver_quote i last
  | case3 p last =>
    have h := ((passesOver_quote i p).append (passesOver_star i true)).append
      (passesOver_quote (i + 1) last)
    simpa [globNodes, starText] using h
  | case4 p rest hnil hone ih =>
    obtain ⟨q, r, more, rfl⟩ : ∃ q r more, rest = q :: r :: more := by
      match rest, hnil, hone with
      | [], hnil, _ => exact absurd rfl hnil
      | [q], _, hone => exact absurd rfl (hone q)
      | q :: r :: more, _, _ => exact ⟨q, r, more, rfl⟩
    have h := ((passesOver_quote i p).append (passesOver_star i false)).append (ih (i + 1))
    simpa [globNodes, starText, Nat.add_assoc, Nat.add_comm 1] using h

theorem nests_globNodes (i : Nat) (pieces : List (List Char)) :
    ∀ node ∈ globNodes i pieces, node.nests = false := by
  have hliteral (text : String) : ∀ node ∈ literal text, node.nests = false := by
    simp [literal, Node.nests]
  fun_induction globNodes i pieces with
  | case1 => simp
  | case2 i last => exact hliteral _
  | case3 i p q more ih =>
    simp only [List.forall_mem_append, List.forall_mem_cons]
    exact ⟨hliteral _, rfl, ih⟩

theorem lastGroup_globNodes (i : Nat) (p q : List Char) (more : List (List Char)) :
    (Node.ofList (globNodes i (p :: q :: more))).lastGroup = i + (more.length + 1) := by
  induction more generalizing i p q with
  | nil =>
    have hlast : (Node.ofList (literal (String.ofList q))).lastGroup = 0 := by
      simpa [Node.ofList, Node.lastGroup] using
        Node.lastGroup_ofList_literal (String.ofList q) []
    simp [globNodes, Node.lastGroup_ofList_literal, Node.lastGroup_ofList_cons, Node.star,
      Node.lastGroup, hlast]
  | cons r more ih =>
    rw [globNodes, Node.lastGroup_ofList_literal, Node.lastGroup_ofList_cons, ih]
    simp [Node.star, Node.lastGroup]
    omega

/-- No group of a glob has a name of its own. -/
theorem groupList_globNodes {pieces : List (List Char)} {k : Nat} (h : pieces.length = k + 2) :
    groupList (.ofList (globNodes 0 pieces)) [] = List.replicate (k + 1) none := by
  obtain ⟨p, q, more, rfl⟩ : ∃ p q more, pieces = p :: q :: more := by
    match pieces, h with
    | p :: q :: more, _ => exact ⟨p, q, more, rfl⟩
  have hlength : more.length = k := by simpa using h
  simp [groupList, lastGroup_globNodes, hlength]

/-- What a glob is read as. -/
theorem compile_glob (glob : List Char) :
    Pattern.compile (String.ofList (globSource glob)) =
      if Refusal.limit < (Node.ofList (globNodes 0 (glob.splitOn '*'))).weight then .error .tooBig
      else .ok ⟨String.ofList (globSource glob), .ofList (globNodes 0 (glob.splitOn '*')),
        groupList (.ofList (globNodes 0 (glob.splitOn '*'))) []⟩ :=
  (passesOver_globPieces 0 (glob.splitOn '*')).compile_eq

/-- A glob compiles, unless it is too big. -/
theorem Extraction.exists_compile {e : Extraction} (hglob : e.isRegex = false)
    (hfits : Pattern.compile e.source ≠ .error .tooBig) : ∃ p, e.compile = .ok p := by
  have hsource : e.source = String.ofList (globSource e.pattern.toList) := by
    simp [source, hglob]
  rw [hsource, compile_glob] at hfits
  split at hfits
  · exact absurd rfl hfits
  · next hle => exact ⟨_, by rw [compile, hsource, compile_glob, if_neg hle]⟩

end Logbook.Query
