import Logbook.Proofs.Pattern.Search
import Logbook.Rule.Basic
import Mathlib.Tactic.Common

/-! The room of patterns with fixed texts, from a bound for all of their sets. So a large set is laid
out once, not wherever it occurs. -/

namespace Logbook

open Text (variantPairs)

theorem Text.Ranges.not_has_of_forall_lt {r : Ranges} {bound n : Nat} (h : ∀ p ∈ r, p.2 < bound)
    (hn : bound ≤ n) : r.has n = false := by
  induction r with
  | nil => rfl
  | cons p r ih =>
    have hp : p.2 < bound := h p (by simp)
    have hrest := ih fun q hq => h q (by simp [hq])
    have hbeyond : ¬ n ≤ p.2 := by omega
    simp [has, hrest, hbeyond]

namespace Pattern

/-! ### Sets -/

/-- More than any set of the fixed patterns needs. -/
def setRoom : Nat := 60000

section Trees

open Text (Ranges ByteRanges)
open Text.ByteRanges (edges edgesAfter ofRanges)

theorem edgesAfter_le_edges (previous : ByteRanges) (s : List ByteRanges) :
    edgesAfter previous s ≤ edges s := by
  cases s with
  | nil => exact Nat.le_refl _
  | cons x s => simp [edges, edgesAfter, Text.ByteRanges.shared]

theorem edgesAfter_append_le (previous : ByteRanges) (s t : List ByteRanges) :
    edgesAfter previous (s ++ t) ≤ edgesAfter previous s + edges t := by
  induction s generalizing previous with
  | nil => simpa [edgesAfter] using edgesAfter_le_edges previous t
  | cons x s ih =>
    have hrest := ih x
    simp only [List.cons_append, edgesAfter]
    omega

/-- The room of the tree of a set: its edges and its sequences. -/
def treeRoom (r : Ranges) : Nat := stateRoom * edges (ofRanges r) + 4 * (ofRanges r).length

/-- Two trees need no less room than the one of both. -/
theorem treeRoom_split (n : Nat) (r : Ranges) :
    treeRoom r ≤ treeRoom (r.take n) + treeRoom (r.drop n) := by
  have hsplit : ofRanges r = ofRanges (r.take n) ++ ofRanges (r.drop n) := by
    rw [ofRanges, ofRanges, ofRanges, ← List.flatMap_append, List.take_append_drop]
  have hedges : edges (ofRanges r) ≤ edges (ofRanges (r.take n)) + edges (ofRanges (r.drop n)) := by
    rw [hsplit]
    exact edgesAfter_append_le [] _ _
  have hlength : (ofRanges r).length = (ofRanges (r.take n)).length + (ofRanges (r.drop n)).length := by
    rw [hsplit, List.length_append]
  simp only [treeRoom, stateRoom]
  omega

theorem rangesRoom_le (r : Ranges) :
    rangesRoom r ≤ 2 * stateRoom + 8 * r.length + treeRoom r := by
  simp only [rangesRoom, treeRoom]
  split
  · omega
  · split
    · omega
    · split <;> omega

/-- The letters have hundreds of ranges, so their tree is laid out in four parts. -/
theorem treeRoom_letters : treeRoom Text.wordRanges.tail ≤ 53000 := by
  have hhalf := treeRoom_split 402 Text.wordRanges.tail
  have hlow := treeRoom_split 201 (Text.wordRanges.tail.take 402)
  have hhigh := treeRoom_split 201 (Text.wordRanges.tail.drop 402)
  have hfirst : treeRoom ((Text.wordRanges.tail.take 402).take 201) ≤ 11000 := by decide +kernel
  have hsecond : treeRoom ((Text.wordRanges.tail.take 402).drop 201) ≤ 14000 := by decide +kernel
  have hthird : treeRoom ((Text.wordRanges.tail.drop 402).take 201) ≤ 13000 := by decide +kernel
  have hlast : treeRoom ((Text.wordRanges.tail.drop 402).drop 201) ≤ 15000 := by decide +kernel
  omega

/-- The letters with one more range in front. -/
theorem room_cons_letters {range : Nat × Nat} (h : treeRoom [range] ≤ 200) :
    rangesRoom (range :: Text.wordRanges.tail) ≤ setRoom := by
  have hroom := rangesRoom_le (range :: Text.wordRanges.tail)
  have hsplit : treeRoom (range :: Text.wordRanges.tail) ≤
      treeRoom [range] + treeRoom Text.wordRanges.tail := treeRoom_split 1 _
  have hletters := treeRoom_letters
  have hlength : (range :: Text.wordRanges.tail).length = 802 := by
    rw [List.length_cons]
    decide +kernel
  rw [hlength] at hroom
  simp only [stateRoom] at hroom
  rw [setRoom]
  omega

end Trees

namespace CharSet

/-- The set needs no more than `setRoom`. -/
class Fits (s : CharSet) : Prop where
  room : rangesRoom s.toRanges ≤ setRoom

/-- What a pair of characters that differ in case only adds to a set. -/
def added (r : Text.Ranges) (p : Nat × Nat) : Text.Ranges :=
  (if r.has p.1 then [(p.2, p.2)] else []) ++ (if r.has p.2 then [(p.1, p.1)] else [])

/-- Smaller sets that occur in several patterns, the single characters of ASCII, and capitals with
their variants. -/
theorem room_le : (∀ s ∈ [ranges Text.digitRanges, ranges Text.blankRanges, complement (just '\n'),
      complement (just '"')], rangesRoom s.toRanges ≤ setRoom) ∧
    (∀ n < 128, rangesRoom [(n, n)] ≤ setRoom) ∧
    ∀ n < 0x5B, 0x41 ≤ n → rangesRoom (Text.Ranges.union [(n, n)]
      ((variantPairs.filter fun p => p.1 < 128 || p.2 < 128).flatMap (added [(n, n)]))) ≤ setRoom := by
  decide +kernel

@[simp] instance fits_word : Fits (ranges Text.wordRanges) := by
  have hwords : Text.wordRanges = (0x30, 0x39) :: Text.wordRanges.tail := rfl
  constructor
  rw [toRanges, hwords]
  exact room_cons_letters (by decide)

@[simp] instance fits_decimal : Fits (ranges Text.digitRanges) := ⟨room_le.1 _ (by simp)⟩

@[simp] instance fits_blank : Fits (ranges Text.blankRanges) := ⟨room_le.1 _ (by simp)⟩

@[simp] instance fits_inLine : Fits (complement (just '\n')) := ⟨room_le.1 _ (by simp)⟩

@[simp] instance fits_unquoted : Fits (complement (just '"')) := ⟨room_le.1 _ (by simp)⟩

@[simp] theorem fits_just {c : Char} (hc : c.toNat < 128) : (just c).Fits := ⟨room_le.2.1 c.toNat hc⟩

/-- To a set of ASCII characters only the pairs with an ASCII character add anything. -/
theorem toRanges_folded {s : CharSet} (h : ∀ p ∈ s.toRanges, p.2 < 128) :
    (folded s).toRanges = s.toRanges.union
      ((variantPairs.filter fun p => p.1 < 128 || p.2 < 128).flatMap (added s.toRanges)) := by
  have hadded : variantPairs.flatMap (added s.toRanges) =
      (variantPairs.filter fun p => p.1 < 128 || p.2 < 128).flatMap (added s.toRanges) := by
    induction variantPairs with
    | nil => rfl
    | cons p pairs ih =>
      by_cases hp : p.1 < 128 ∨ p.2 < 128
      · simp [ih, hp]
      · have hfirst := Text.Ranges.not_has_of_forall_lt h (by omega : 128 ≤ p.1)
        have hsecond := Text.Ranges.not_has_of_forall_lt h (by omega : 128 ≤ p.2)
        simp [ih, hp, added, hfirst, hsecond]
  exact congrArg s.toRanges.union hadded

@[simp] theorem fits_folded_capital {c : Char} (hc : 0x41 ≤ c.toNat ∧ c.toNat < 0x5B) :
    (folded (just c)).Fits := by
  have hranges : ∀ p ∈ (just c).toRanges, p.2 < 128 := by
    simp [just, toRanges]
    omega
  constructor
  rw [toRanges_folded hranges]
  exact room_le.2.2 c.toNat hc.2 hc.1

end CharSet

/-! ### Nodes -/

namespace Node

@[simp] def SetsFit : Node → Prop
  | empty | assertion _ => True
  | chars s => s.Fits
  | group _ body | loop _ _ _ body => body.SetsFit
  | seq a b | alt a b => a.SetsFit ∧ b.SetsFit

/-- The room of the node if each of its sets took `setRoom`. -/
def roomy : Node → Nat
  | empty | assertion _ => stateRoom
  | chars _ => setRoom
  | group _ body => 2 * stateRoom + body.roomy
  | seq a b => a.roomy + b.roomy
  | alt a b => 2 * stateRoom + 8 + a.roomy + b.roomy
  | loop least most _ body =>
    match most, least with
    | some most, least =>
      least * body.roomy + (most - least) * (forkRoom + body.roomy) + stateRoom
    | none, least => max least 1 * body.roomy + forkRoom

theorem SetsFit.weight_le {node : Node} (h : node.SetsFit) : node.weight ≤ node.roomy := by
  induction node with
  | empty | assertion _ => exact Nat.le_refl _
  | chars s =>
    have hset : s.Fits := h
    exact hset.room
  | group i body ih =>
    have hbody := ih h
    simp only [weight, roomy]
    omega
  | seq a b iha ihb | alt a b iha ihb =>
    have ha := iha h.1
    have hb := ihb h.2
    simp only [weight, roomy]
    omega
  | loop least most greedy body ih =>
    have hbody := ih h
    cases most with
    | none => exact Nat.add_le_add_right (Nat.mul_le_mul_left _ hbody) _
    | some most =>
      have hleast := Nat.mul_le_mul_left least hbody
      have hmore := Nat.mul_le_mul_left (most - least) (Nat.add_le_add_left hbody forkRoom)
      exact Nat.add_le_add_right (Nat.add_le_add hleast hmore) _

@[simp] theorem setsFit_ofList {nodes : List Node} :
    (ofList nodes).SetsFit ↔ ∀ node ∈ nodes, node.SetsFit := by
  induction nodes with
  | nil => simp [ofList, SetsFit]
  | cons node nodes ih =>
    cases nodes with
    | nil => simp [ofList]
    | cons next rest => simp only [ofList, SetsFit, ih, List.forall_mem_cons]

@[simp] theorem setsFit_literal {text : String} :
    (∀ node ∈ literal text, node.SetsFit) ↔ ∀ c ∈ text.toList, (CharSet.just c).Fits := by
  simp [literal, SetsFit]

end Node

/-- The node of a pattern with a fixed text is what its characters are read as, if it fits. -/
theorem node_ofText {text : String} {s : List Char} {node : Node} (htext : text = String.ofList s)
    (hread : ((read s).toOption.bind fun tree => (tree.node .initial).toOption).map Prod.fst =
      some node)
    (hsets : node.SetsFit) (hroom : node.roomy ≤ Refusal.limit) : (ofText text).node = node := by
  have hweight : ¬ Refusal.limit < node.weight := Nat.not_lt.mpr (Nat.le_trans hsets.weight_le hroom)
  have hchars : text.toList = s := by rw [htext, String.toList_ofList]
  cases htree : read s with
  | error f => simp [htree, Except.toOption] at hread
  | ok tree =>
    cases hnode : tree.node .initial with
    | error f => simp [htree, hnode, Except.toOption] at hread
    | ok result =>
      obtain rfl : result.1 = node := by simpa [htree, hnode, Except.toOption] using hread
      simp [ofText, compile, hchars, htree, hnode, hweight]

end Pattern

end Logbook
