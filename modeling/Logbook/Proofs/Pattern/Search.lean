import Logbook.Pattern.Basic

/-! When a search succeeds. A node without assertions leads from one rest of the text to a later
one if some way through it does: the order in which the ways are tried decides what is captured,
not whether there is a match. -/

namespace Logbook.Pattern

/-- What follows succeeds wherever the text goes on like this. -/
def Accepts (k : Next) (rest : List Char) : Prop :=
  ∀ cur : Cursor, cur.rest = rest → (k cur).isSome

/-- Some way through the node takes it from a rest of the text to a later one. -/
def Node.Leads (node : Node) (rest later : List Char) : Prop :=
  ∀ k : Next, Accepts k later → Accepts (node.run k) rest

variable {s : CharSet} {rest : List Char} {k : Next}

theorem chars_run {c : Char} {cur : Cursor} (hcur : cur.rest = c :: rest) (hc : s.has c = true) :
    (Node.chars s).run k cur = k ⟨cur.pos + 1, some c, rest, cur.captures⟩ := by
  simp [Node.run, hcur, hc]

namespace Node

/-- The nodes for a text that stands for itself. -/
def literal (text : String) : List Node := text.toList.map fun c => chars (.just c)

theorem has_just (c : Char) : (CharSet.just c).has c = true := by
  simp [CharSet.just, CharSet.has, Text.Ranges.has]

/-- A search looks at every place of the text. -/
theorem search_isSome {node : Node} {later : List Char} (h : node.Leads rest later)
    (skipped : List Char) (pos : Nat) (before : Option Char) :
    (node.search pos before (skipped ++ rest)).isSome := by
  induction skipped generalizing pos before with
  | nil =>
    have hrun := h some (fun _ _ => rfl) ⟨pos, before, rest, []⟩ rfl
    obtain ⟨cur, hcur⟩ := Option.isSome_iff_exists.mp hrun
    rw [List.nil_append, search.eq_def, hcur]
    rfl
  | cons c skipped ih =>
    rw [List.cons_append, search]
    cases node.run some ⟨pos, before, c :: (skipped ++ rest), []⟩ with
    | none => exact ih _ _
    | some cur => rfl

end Node

end Logbook.Pattern
