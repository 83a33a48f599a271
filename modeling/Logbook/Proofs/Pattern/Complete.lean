import Logbook.Proofs.Pattern.Preferred

/-! A search finds a way wherever there is one. What a node spells, and what follows it, is found in
whatever order the ways are tried, as long as no assertion looks at the text around. -/

namespace Logbook.Pattern

variable {w w' later : List Char} {t : Captured} {k : Next} {cur : Cursor}

/-- What follows succeeds at every place that lies `w` further on. -/
def AcceptsBehind (k : Next) (cur : Cursor) (w later : List Char) : Prop :=
  ∀ cur' : Cursor, cur'.pos = cur.pos + w.length → cur'.rest = later → (k cur').isSome

/-- Where the text goes on as `P` says, the step finds a way on. -/
def Covers (P : List Char → Captured → Prop) (step : Next → Next) : Prop :=
  ∀ {k : Next} {cur : Cursor} {w later : List Char} {t : Captured}, P w t →
    cur.rest = w ++ later → AcceptsBehind k cur w later → (step k cur).isSome

theorem AcceptsBehind.here (h : AcceptsBehind k cur [] later) (hcur : cur.rest = later) :
    (k cur).isSome :=
  h cur rfl hcur

theorem AcceptsBehind.append (h : AcceptsBehind k cur (w ++ w') later) {mid : Cursor}
    (hmid : mid.pos = cur.pos + w.length) : AcceptsBehind k mid w' later := by
  intro cur' hpos hrest
  exact h cur' (by rw [hpos, hmid, List.length_append, Nat.add_assoc]) hrest

/-- Whichever of two ways is tried first, one that is there is found. -/
theorem isSome_or {greedy : Bool} {a b : Option Cursor} (h : a.isSome ∨ b.isSome) :
    (if greedy then a.or b else b.or a).isSome := by
  cases greedy <;> rcases h with h | h <;> simp [h]

theorem Rounds.split {P : List Char → Captured → Prop} {m n : Nat} (h : Rounds P (m + n) w t) :
    ∃ w₁ w₂ t₁ t₂, Rounds P m w₁ t₁ ∧ Rounds P n w₂ t₂ ∧ w = w₁ ++ w₂ := by
  induction m generalizing w t with
  | zero => exact ⟨[], w, [], t, .zero, by simpa using h, rfl⟩
  | succ m ih =>
    rw [Nat.add_right_comm] at h
    cases h with
    | succ first others =>
      obtain ⟨w₁, w₂, t₁, t₂, hfirst, hothers, rfl⟩ := ih others
      exact ⟨_, w₂, _, t₂, .succ first hfirst, hothers, (List.append_assoc _ _ _).symm⟩

section Loops

variable {P : List Char → Captured → Prop} {step : Next → Next} (h : Covers P step)

include h

/-- A round that reads nothing may be left out. -/
theorem again_covers (greedy : Bool) {j n : Nat} (hrounds : Rounds P j w t)
    (hcur : cur.rest = w ++ later) (hn : w.length ≤ n) (hk : AcceptsBehind k cur w later) :
    (again greedy step k n cur).isSome := by
  induction hrounds generalizing cur n with
  | zero =>
    have hleave := hk.here hcur
    cases n with
    | zero => exact hleave
    | succ n => exact isSome_or (.inr hleave)
  | @succ j w₁ w₂ t₁ t₂ first others ih =>
    by_cases hw : w₁ = []
    · subst hw
      exact ih hcur hn hk
    · have hpos : 0 < w₁.length := List.length_pos_iff.mpr hw
      obtain ⟨n, rfl⟩ : ∃ m, n = m + 1 := ⟨n - 1, by simp at hn; omega⟩
      refine isSome_or (.inl (h first (by simpa using hcur) fun mid hmid hrest => ?_))
      rw [if_neg (by omega)]
      exact ih hrest (by simp at hn; omega) (hk.append hmid)

theorem onceOrMore_covers (greedy : Bool) {j : Nat} (hj : 1 ≤ j) (hrounds : Rounds P j w t)
    (hcur : cur.rest = w ++ later) (hk : AcceptsBehind k cur w later) :
    (onceOrMore greedy step k cur).isSome := by
  induction hrounds with
  | zero => omega
  | @succ j w₁ w₂ t₁ t₂ first others ih =>
    by_cases hskip : w₁ = [] ∧ 1 ≤ j
    · obtain ⟨rfl, hj⟩ := hskip
      exact ih hj hcur hk
    · refine h first (by simpa using hcur) fun mid hmid hrest => ?_
      split
      · next hpos =>
        -- the only round reads nothing
        obtain rfl : w₁ = [] := List.eq_nil_of_length_eq_zero (by omega)
        obtain rfl : j = 0 := by simpa using hskip
        cases others
        exact (hk.append hmid).here hrest
      · exact again_covers h greedy others hrest (by simp [hrest]; omega) (hk.append hmid)

theorem exactly_covers (n : Nat) : Covers (Rounds P n) (exactly step n) := by
  induction n with
  | zero =>
    intro k cur w later t hrounds hcur hk
    cases hrounds
    exact hk.here hcur
  | succ n ih =>
    intro k cur w later t hrounds hcur hk
    cases hrounds with
    | succ first others =>
      exact h first (by simpa using hcur) fun mid hmid hrest => ih others hrest (hk.append hmid)

theorem upTo_covers (greedy : Bool) {j n : Nat} (hj : j ≤ n) (hrounds : Rounds P j w t)
    (hcur : cur.rest = w ++ later) (hk : AcceptsBehind k cur w later) :
    (upTo greedy step n k cur).isSome := by
  induction n generalizing j w t cur with
  | zero =>
    obtain rfl : j = 0 := by omega
    cases hrounds
    exact hk.here hcur
  | succ n ih =>
    cases hrounds with
    | zero => exact isSome_or (.inr (hk.here hcur))
    | succ first others =>
      exact isSome_or (.inl (h first (by simpa using hcur) fun mid hmid hrest =>
        ih (by omega) others hrest (hk.append hmid)))

theorem repeated_covers (least : Nat) (most : Option Nat) (greedy : Bool) :
    Covers (fun w t => ∃ n, least ≤ n ∧ (∀ m ∈ most, n ≤ max least m) ∧ Rounds P n w t)
      (repeated least most greedy step) := by
  rintro k cur w later t ⟨n, hleast, hmost, hrounds⟩ hcur hk
  match most, least with
  | some most, least =>
    obtain ⟨extra, rfl⟩ : ∃ extra, n = least + extra := ⟨n - least, by omega⟩
    obtain ⟨w₁, w₂, t₁, t₂, hfirst, hothers, rfl⟩ := hrounds.split
    have hextra : extra ≤ most - least := by
      have hle := hmost most rfl
      omega
    exact exactly_covers h least hfirst (by simpa using hcur) fun mid hmid hrest =>
      upTo_covers h greedy hextra hothers hrest (hk.append hmid)
  | none, 0 =>
    change (anyTimes greedy step k cur).isSome
    by_cases hn : n = 0
    · subst hn
      cases hrounds
      exact isSome_or (.inr (hk.here hcur))
    · exact isSome_or (.inl (onceOrMore_covers h greedy (by omega) hrounds hcur hk))
  | none, least + 1 =>
    obtain ⟨extra, rfl⟩ : ∃ extra, n = least + extra := ⟨n - least, by omega⟩
    obtain ⟨w₁, w₂, t₁, t₂, hfirst, hothers, rfl⟩ := hrounds.split
    exact exactly_covers h least hfirst (by simpa using hcur) fun mid hmid hrest =>
      onceOrMore_covers h greedy (by omega) hothers hrest (hk.append hmid)

end Loops

namespace Node

/-- Nothing in the node asks for what stands around a place. -/
def isPlain : Node → Bool
  | empty | chars _ => true
  | assertion _ => false
  | group _ body => body.isPlain
  | seq a b | alt a b => a.isPlain && b.isPlain
  | loop _ _ _ body => body.isPlain

/-- Whatever a node spells is a way through it. -/
theorem run_covers {node : Node} (hplain : node.isPlain = true) : Covers node.Spells node.run := by
  induction node with
  | empty =>
    rintro k cur w later t ⟨rfl, rfl⟩ hcur hk
    exact hk.here hcur
  | chars s =>
    rintro k cur w later t ⟨c, hc, rfl, rfl⟩ hcur hk
    rw [chars_run hcur hc]
    exact hk _ rfl rfl
  | assertion a => cases hplain
  | group i body ih =>
    rintro k cur w later t ⟨t', hbody, rfl⟩ hcur hk
    exact ih hplain hbody hcur fun cur' hpos hrest => hk _ hpos hrest
  | seq a b iha ihb =>
    rintro k cur w later t ⟨w₁, w₂, t₁, t₂, ha, hb, rfl, rfl⟩ hcur hk
    obtain ⟨hplain₁, hplain₂⟩ := Bool.and_eq_true_iff.mp hplain
    exact iha hplain₁ ha (by simpa using hcur) fun mid hmid hrest =>
      ihb hplain₂ hb hrest (hk.append hmid)
  | alt a b iha ihb =>
    intro k cur w later t hspells hcur hk
    obtain ⟨hplain₁, hplain₂⟩ := Bool.and_eq_true_iff.mp hplain
    rw [run, Option.isSome_or, Bool.or_eq_true]
    exact hspells.imp (fun ha => iha hplain₁ ha hcur hk) fun hb => ihb hplain₂ hb hcur hk
  | loop least most greedy body ih => exact repeated_covers (ih hplain) least most greedy

theorem Reads.leads {node : Node} (h : node.Reads w) (hplain : node.isPlain = true)
    (later : List Char) : node.Leads (w ++ later) later := by
  obtain ⟨t, ht⟩ := h
  exact fun k hk cur hcur => run_covers hplain ht hcur fun cur' _ hrest => hk cur' hrest

end Node

/-- What nodes read begins with what the first of them read. -/
theorem Node.Reads.exists_append {nodes more : List Node} (h : (ofList (nodes ++ more)).Reads w) :
    ∃ w₁ w₂, w = w₁ ++ w₂ ∧ (ofList nodes).Reads w₁ := by
  induction nodes generalizing w with
  | nil => exact ⟨[], w, rfl, reads_ofList_nil_iff.mpr rfl⟩
  | cons a nodes ih =>
    obtain ⟨u, v, ha, hmore, rfl⟩ := reads_ofList_cons_iff.mp h
    obtain ⟨w₁, w₂, rfl, hnodes⟩ := ih hmore
    exact ⟨u ++ w₁, w₂, (List.append_assoc _ _ _).symm,
      reads_ofList_cons_iff.mpr ⟨u, w₁, ha, hnodes, rfl⟩⟩

/-- A pattern for the start of a text matches just the texts that begin with what it reads. -/
theorem find?_isSome_iff {nodes : List Node} (p : Pattern)
    [p.AtStart (.ofList (.assertion .textStart :: nodes))] (hplain : (Node.ofList nodes).isPlain = true)
    (text : List Char) : (p.find? text).isSome ↔
      ∃ w later, text = w ++ later ∧ (Node.ofList nodes).Reads w := by
  constructor
  · intro h
    obtain ⟨m, hm⟩ := Option.isSome_iff_exists.mp h
    exact find?_reads_nodes hm
  · rintro ⟨w, later, rfl, t, hspells⟩
    have hrun : ((Node.ofList nodes).run some ⟨0, none, w ++ later, []⟩).isSome :=
      Node.run_covers hplain hspells rfl fun _ _ _ => rfl
    rw [find?_eq_run p, Option.isSome_map, Node.run_ofList_cons]
    exact hrun

end Logbook.Pattern
